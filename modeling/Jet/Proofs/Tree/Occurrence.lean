/-!
# Occurrence

Something that is made of parts of its own kind, such as a tree or a nested value, has these parts
as its children.  `Occurs` says that one thing lies inside another, at any depth, and `Obeys` that
everything inside obeys a rule: the thing itself and, in turn, everything inside its children.
-/

namespace Jet

variable {α : Type} {children : α → List α} {rule : α → Prop} {whole : α}

/-- Whether a part lies inside something, or is the same. -/
inductive Occurs (children : α → List α) (part : α) : α → Prop where
  | here : Occurs children part part
  | inside {child whole : α}
      (member : child ∈ children whole)
      (deeper : Occurs children part child) :
      Occurs children part whole

/-- Whether everything that lies inside something obeys a rule. -/
def Obeys (children : α → List α) (rule : α → Prop) (whole : α) : Prop :=
  ∀ part, Occurs children part whole → rule part

/-- Something obeys a rule exactly if the rule holds of it and its children obey the rule. -/
theorem obeys_iff :
    Obeys children rule whole ↔
      rule whole ∧ ∀ child ∈ children whole, Obeys children rule child := by
  constructor
  · intro obeys
    exact ⟨obeys whole .here, fun child member part occurs => obeys part (.inside member occurs)⟩
  · rintro ⟨holds, childrenObey⟩ part occurs
    cases occurs with
    | here => exact holds
    | inside member deeper => exact childrenObey _ member part deeper

namespace Obeys

theorem holds
    (obeys : Obeys children rule whole) :
    rule whole :=
  obeys whole .here

theorem child {child : α}
    (obeys : Obeys children rule whole) (member : child ∈ children whole) :
    Obeys children rule child :=
  (obeys_iff.mp obeys).2 child member

/-- What obeys a rule obeys every weaker rule. -/
theorem mono {weaker : α → Prop}
    (obeys : Obeys children rule whole) (implies : ∀ part, rule part → weaker part) :
    Obeys children weaker whole :=
  fun part occurs => implies part (obeys part occurs)

/-- Something without children obeys a rule that holds of it. -/
theorem leaf
    (holds : rule whole) (leaf : children whole = []) :
    Obeys children rule whole :=
  obeys_iff.mpr ⟨holds, fun _ member => absurd (leaf ▸ member) List.not_mem_nil⟩

/-- Something with one child obeys a rule if the rule holds of it and the child obeys the rule. -/
theorem one {child : α}
    (holds : rule whole) (made : children whole = [child]) (obeys : Obeys children rule child) :
    Obeys children rule whole :=
  obeys_iff.mpr ⟨holds, made ▸ List.forall_mem_singleton.mpr obeys⟩

/-- The same for two children. -/
theorem two {first second : α}
    (holds : rule whole) (made : children whole = [first, second])
    (firstObeys : Obeys children rule first) (secondObeys : Obeys children rule second) :
    Obeys children rule whole := by
  refine obeys_iff.mpr ⟨holds, ?_⟩
  rw [made]
  exact List.forall_mem_cons.mpr ⟨firstObeys, List.forall_mem_singleton.mpr secondObeys⟩

end Obeys

/-- Checks a rule on something and on everything inside of it, if nothing is deeper than a limit. -/
def check (children : α → List α) (rule : α → Bool) : Nat → α → Bool
  | 0, _ => false
  | depth + 1, whole => rule whole && (children whole).all (check children rule depth)

/-- A rule that was checked is obeyed. -/
theorem obeys_of_check {rule : α → Bool} {depth : Nat}
    (checked : check children rule depth whole = true) :
    Obeys children (fun part => rule part = true) whole := by
  induction depth generalizing whole with
  | zero => cases checked
  | succ depth induction =>
      rw [check, Bool.and_eq_true, List.all_eq_true] at checked
      exact obeys_iff.mpr ⟨checked.1, fun child member => induction (checked.2 child member)⟩

end Jet
