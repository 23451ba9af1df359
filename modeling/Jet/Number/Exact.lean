import Jet.Number.Double

/-!
# Exact numbers

The mathematical value that an integer or a double stands for.  Integers and doubles are compared
through it, so a comparison across the two never rounds.
-/

namespace Jet

/-- A rational number, an infinity, or a value that is not a number. -/
inductive Exact where
  | finite (value : Rat)
  | infinite (negative : Bool)
  | nan (tag : Nat)
deriving DecidableEq, Repr

namespace Exact

/-- The exact value of an integer. -/
def ofInt (value : Int) : Exact :=
  .finite value

/-- The exact value of a double. -/
def ofDouble : Double → Exact
  | .nan tag => .nan tag
  | .infinite negative => .infinite negative
  | .finite negative mantissa exponent => .finite (Double.ratio negative mantissa exponent)

/-- Whether one value lies below another; never if one of them is not a number. -/
def less : Exact → Exact → Bool
  | .finite left, .finite right => left < right
  | .finite _, .infinite negative => !negative
  | .infinite negative, .finite _ => negative
  | .infinite left, .infinite right => left && !right
  | _, _ => false

/-- Whether two values are equal; never if one of them is not a number. -/
def equal : Exact → Exact → Bool
  | .finite left, .finite right => left == right
  | .infinite left, .infinite right => left == right
  | _, _ => false

/-- Whether one value lies below another or equals it. -/
def lessEqual (left right : Exact) : Bool :=
  left.less right || left.equal right

end Exact

end Jet
