import Jet.Number.Double

/-!
# The shortest decimal text of a double

The decimal text of a double has the fewest significant digits that read back as the same double,
and among those the nearest to it.  It is written positionally for decimal exponents from -4 to
15, always with a point, and otherwise with an exponent of a sign and at least two digits.
-/

namespace Jet.Shortest

/-- The comparison `a * 2 ^ p ≤ b * 10 ^ q`, or `<` if ends are left out, over the naturals. -/
def binaryBelow (closed : Bool) (a : Nat) (p : Int) (b : Nat) (q : Int) : Bool :=
  let left := a * Nat.pow 2 p.toNat * Nat.pow 10 (-q).toNat
  let right := b * Nat.pow 10 q.toNat * Nat.pow 2 (-p).toNat
  if closed then left ≤ right else left < right

/-- The comparison `b * 10 ^ q ≤ a * 2 ^ p`, or `<` if ends are left out, over the naturals. -/
def decimalBelow (closed : Bool) (b : Nat) (q : Int) (a : Nat) (p : Int) : Bool :=
  let left := b * Nat.pow 10 q.toNat * Nat.pow 2 (-p).toNat
  let right := a * Nat.pow 2 p.toNat * Nat.pow 10 (-q).toNat
  if closed then left ≤ right else left < right

/--
Whether the decimal `digits * 10 ^ power` rounds to `mantissa * 2 ^ exponent`.  The numbers that do
reach half way to both neighbours, ends included if the mantissa is even; the lower neighbour of a
power of two is at half the distance of the upper one.
-/
def readsBack (mantissa : Nat) (exponent : Int) (digits : Nat) (power : Int) : Bool :=
  let closed := mantissa % 2 == 0
  let narrow := mantissa == Nat.pow 2 52 && Double.minExponent < exponent
  let lower := if narrow then 4 * mantissa - 1 else 4 * mantissa - 2
  binaryBelow closed lower (exponent - 2) digits power &&
    decimalBelow closed digits power (4 * mantissa + 2) (exponent - 2)

/-- The quotient and remainder of `mantissa * 2 ^ exponent` by `10 ^ power`, and the divisor. -/
def split (mantissa : Nat) (exponent power : Int) : Nat × Nat × Nat :=
  let above := mantissa * Nat.pow 2 exponent.toNat * Nat.pow 10 (-power).toNat
  let below := Nat.pow 2 (-exponent).toNat * Nat.pow 10 power.toNat
  (above / below, above % below, below)

/-- The neighbour of a positive number on the grid of `10 ^ power` that reads back, if one does. -/
def candidate? (mantissa : Nat) (exponent power : Int) : Option Nat :=
  let (quotient, rest, unit) := split mantissa exponent power
  let down := readsBack mantissa exponent quotient power
  let up := readsBack mantissa exponent (quotient + 1) power
  if down && up then
    some (if unit < 2 * rest ∨ (2 * rest = unit ∧ quotient % 2 = 1) then quotient + 1
      else quotient)
  else if down then some quotient
  else if up then some (quotient + 1)
  else none

/--
The decimal exponent of the first digit of a positive number, found by correcting an estimate from
the binary exponent.
-/
def leadingPower (mantissa : Nat) (exponent : Int) : Int :=
  let estimate := ((mantissa.log2 : Int) + exponent) * 30103 / 100000
  let reached (power : Int) : Bool := 1 ≤ (split mantissa exponent power).1
  if reached (estimate + 1) then estimate + 1
  else if reached estimate then estimate
  else estimate - 1

/--
The digits and the power of ten of the shortest decimal, on the grids of more and more digits.
-/
def search (mantissa : Nat) (exponent leading : Int) : Nat → Nat → Nat × Int
  | 0, count => ((split mantissa exponent (leading - count)).1, leading - count)
  | left + 1, count =>
      match candidate? mantissa exponent (leading - count) with
      | some digits => (digits, leading - count)
      | none => search mantissa exponent leading left (count + 1)

/-- The significant digits, without zeros at the end, and the position of the point after them. -/
def decimal (mantissa : Nat) (exponent : Int) : List Char × Int :=
  let (digits, power) := search mantissa exponent (leadingPower mantissa exponent) 20 0
  let written := Nat.toDigits 10 digits
  let kept := (written.reverse.dropWhile (· == '0')).reverse
  (kept, power + written.length)

/-- The text of digits with the point at a position, counted from before the first digit. -/
def layout (digits : List Char) (point : Int) : List Char :=
  if -4 < point ∧ point ≤ 16 then
    if point ≤ 0 then '0' :: '.' :: List.replicate (-point).toNat '0' ++ digits
    else
      let whole := digits.take point.toNat
      let zeros := List.replicate (point.toNat - digits.length) '0'
      let fraction := digits.drop point.toNat
      whole ++ zeros ++ '.' :: (if fraction.isEmpty then ['0'] else fraction)
  else
    let power := point - 1
    let size := Nat.toDigits 10 power.natAbs
    let padded := List.replicate (2 - size.length) '0' ++ size
    digits.take 1 ++ (if digits.length ≤ 1 then [] else '.' :: digits.drop 1) ++
      'e' :: (if power < 0 then '-' else '+') :: padded

end Jet.Shortest

namespace Jet

/-- The decimal text of a double. -/
def Double.text : Double → String
  | .nan _ => "nan"
  | .infinite negative => if negative then "-inf" else "inf"
  | .finite negative mantissa exponent =>
      let digits :=
        if mantissa = 0 then ['0', '.', '0']
        else
          let (digits, point) := Shortest.decimal mantissa exponent
          Shortest.layout digits point
      String.ofList (if negative then '-' :: digits else digits)

end Jet
