/-!
# Double-precision numbers

Numbers of the IEEE binary64 format, held as sign, mantissa and exponent, with their arithmetic.
Every operation forms its exact rational result and rounds once, to the nearest representable
number and to the even mantissa on a tie; results beyond the range become infinite.

A number that is not a number carries a tag, since such numbers are told apart by where they come
from and not by their value.
-/

namespace Jet

/-- A double-precision number; a finite one is `mantissa * 2 ^ exponent` with a sign. -/
inductive Double where
  | nan (tag : Nat)
  | infinite (negative : Bool)
  | finite (negative : Bool) (mantissa : Nat) (exponent : Int)
deriving DecidableEq, Repr, Inhabited

namespace Double

/-- The exponent of the smallest positive number. -/
def minExponent : Int := -1074

/-- The largest exponent of a finite number with a full mantissa. -/
def maxExponent : Int := 971

/-- The number of bits of a full mantissa. -/
def mantissaBits : Nat := 53

/-- Zero with a sign. -/
def zero (negative : Bool) : Double :=
  .finite negative 0 minExponent

/-! ## Rounding -/

/-- The fraction `numerator / denominator / 2 ^ exponent` as two natural numbers. -/
def scaled (numerator denominator : Nat) : Int → Nat × Nat
  | .ofNat up => (numerator, denominator * Nat.pow 2 up)
  | .negSucc down => (numerator * Nat.pow 2 (down + 1), denominator)

/-- The natural number nearest to a fraction, the even one on a tie. -/
def nearest (numerator denominator : Nat) : Nat :=
  let quotient := numerator / denominator
  let excess := 2 * (numerator % denominator)
  if denominator < excess ∨ (excess = denominator ∧ quotient % 2 = 1) then quotient + 1
  else quotient

/--
The exponent of the unit in the last place of a positive fraction: the one that leaves a full
mantissa before the point, but never below the smallest.
-/
def unitExponent (numerator denominator : Nat) : Int :=
  let estimate : Int := (numerator.log2 : Int) - denominator.log2 - (mantissaBits - 1 : Nat)
  let (above, below) := scaled numerator denominator estimate
  max (if above < Nat.pow 2 (mantissaBits - 1) * below then estimate - 1 else estimate)
    minExponent

/-- A number from its parts, infinite if the exponent is beyond the range. -/
def pack (negative : Bool) (mantissa : Nat) (exponent : Int) : Double :=
  if maxExponent < exponent then .infinite negative else .finite negative mantissa exponent

/-- The number nearest to a fraction with a sign, ties going to the even mantissa. -/
def ofQuotient (negative : Bool) (numerator denominator : Nat) : Double :=
  if numerator = 0 then zero negative
  else
    let exponent := unitExponent numerator denominator
    let (above, below) := scaled numerator denominator exponent
    let mantissa := nearest above below
    if mantissa < Nat.pow 2 mantissaBits then pack negative mantissa exponent
    else pack negative (Nat.pow 2 (mantissaBits - 1)) (exponent + 1)

/-- The number nearest to a rational number; the flag gives the sign of a zero. -/
def ofRat (negativeZero : Bool) (value : Rat) : Double :=
  ofQuotient (if value.num = 0 then negativeZero else value.num < 0) value.num.natAbs value.den

/-- The number nearest to an integer, unless that is beyond the range. -/
def ofInt? (value : Int) : Option Double :=
  match ofQuotient (value < 0) value.natAbs 1 with
  | .infinite _ => none
  | number => some number

/-! ## Values -/

/-- The rational number that a sign, a mantissa and an exponent stand for. -/
def ratio (negative : Bool) (mantissa : Nat) (exponent : Int) : Rat :=
  let signed : Int := if negative then -mantissa else mantissa
  match exponent with
  | .ofNat up => ((signed * (Nat.pow 2 up : Nat) : Int) : Rat)
  | .negSucc down => mkRat signed (Nat.pow 2 (down + 1))

/-- Whether a number is zero, of either sign. -/
def isZero : Double → Bool
  | .finite _ mantissa _ => mantissa == 0
  | _ => false

/-- Whether a number is not a number. -/
def isNaN : Double → Bool
  | .nan _ => true
  | _ => false

/-! ## Arithmetic -/

/-- The number with the other sign. -/
def neg : Double → Double
  | .nan tag => .nan tag
  | .infinite negative => .infinite !negative
  | .finite negative mantissa exponent => .finite (!negative) mantissa exponent

/-- The rounded sum. -/
def add : Double → Double → Double
  | .nan tag, _ => .nan tag
  | _, .nan tag => .nan tag
  | .infinite left, .infinite right => if left = right then .infinite left else .nan 0
  | .infinite left, .finite .. => .infinite left
  | .finite .., .infinite right => .infinite right
  | .finite left mantissa exponent, .finite right mantissa' exponent' =>
      ofRat (left && right) (ratio left mantissa exponent + ratio right mantissa' exponent')

/-- The rounded difference. -/
def sub (left right : Double) : Double :=
  left.add right.neg

/-- The rounded product. -/
def mul : Double → Double → Double
  | .nan tag, _ => .nan tag
  | _, .nan tag => .nan tag
  | .infinite left, .infinite right => .infinite (left != right)
  | .infinite left, .finite right mantissa _ =>
      if mantissa = 0 then .nan 0 else .infinite (left != right)
  | .finite left mantissa _, .infinite right =>
      if mantissa = 0 then .nan 0 else .infinite (left != right)
  | .finite left mantissa exponent, .finite right mantissa' exponent' =>
      ofRat (left != right) (ratio left mantissa exponent * ratio right mantissa' exponent')

/-- The rounded quotient. -/
def div : Double → Double → Double
  | .nan tag, _ => .nan tag
  | _, .nan tag => .nan tag
  | .infinite _, .infinite _ => .nan 0
  | .infinite left, .finite right _ _ => .infinite (left != right)
  | .finite left _ _, .infinite right => zero (left != right)
  | .finite left mantissa exponent, .finite right mantissa' exponent' =>
      if mantissa' = 0 then
        if mantissa = 0 then .nan 0 else .infinite (left != right)
      else ofRat (left != right) (ratio left mantissa exponent / ratio right mantissa' exponent')

/--
The remainder of a division toward zero, which is exact and has the sign of the dividend.  There
is none for an infinite dividend or a zero divisor, unless the other one is not a number.
-/
def remainder? : Double → Double → Option Double
  | .nan tag, _ => some (.nan tag)
  | _, .nan tag => some (.nan tag)
  | .infinite _, _ => none
  | .finite negative mantissa exponent, .infinite _ => some (.finite negative mantissa exponent)
  | .finite negative mantissa exponent, .finite _ mantissa' exponent' =>
      if mantissa' = 0 then none
      else
        let unit := min exponent exponent'
        let rest := (mantissa * Nat.pow 2 (exponent - unit).toNat) %
          (mantissa' * Nat.pow 2 (exponent' - unit).toNat)
        match unit with
        | .ofNat up => some (ofQuotient negative (rest * Nat.pow 2 up) 1)
        | .negSucc down => some (ofQuotient negative rest (Nat.pow 2 (down + 1)))

end Double

end Jet
