/-!
# Runs of letters

A change of case moves most letters by a fixed distance, so that it is given by runs of letters at
equal steps with the distance of each run.
-/

namespace Jet.Text

/-- The code points from `first` to `last` at equal steps, each of which is moved by a distance. -/
structure CaseRun where
  first : Nat
  last : Nat
  step : Nat
  distance : Int
deriving DecidableEq, Repr

namespace CaseRun

/-- Whether a code point belongs to a run. -/
def holds (run : CaseRun) (code : Nat) : Bool :=
  run.first ≤ code && code ≤ run.last && (code - run.first) % run.step == 0

/-- What some runs make of a character; those outside of all runs stay as they are. -/
def apply (runs : List CaseRun) (char : Char) : Char :=
  match runs.find? fun run => run.holds char.toNat with
  | some run => Char.ofNat (char.toNat + run.distance).toNat
  | none => char

end CaseRun

end Jet.Text
