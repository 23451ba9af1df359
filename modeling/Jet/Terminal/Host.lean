import Jet.Host

/-!
# The host of a plain terminal

A host whose stack has room for any text and any program, and for values up to some number of arrays
and hashes inside each other.
-/

namespace Jet.Terminal

mutual

/-- The number of arrays and hashes that stand inside each other in a value. -/
def nesting : Value → Nat
  | .array _ elements => greatestNesting elements + 1
  | .hash _ entries => greatestEntryNesting entries + 1
  | .returned value => nesting value
  | _ => 0

/-- The greatest number of arrays and hashes that stand inside each other in one of some values. -/
def greatestNesting : List Value → Nat
  | [] => 0
  | value :: rest => max (nesting value) (greatestNesting rest)

/-- The same for an entry. -/
def entryNesting : Entry → Nat
  | .mk _ shown value => max (nesting shown) (nesting value)

/-- The same for some entries. -/
def greatestEntryNesting : List Entry → Nat
  | [] => 0
  | entry :: rest => max (entryNesting entry) (greatestEntryNesting rest)

end

/-- The host: two hundred calls inside each other, and twice as many arrays and hashes. -/
def host : Host :=
  ⟨200, ⟨fun _ => true, fun _ => true, fun value => nesting value ≤ 400⟩⟩

end Jet.Terminal
