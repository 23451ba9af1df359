import Jet.Proofs.Evaluation.Reach
import Jet.Proofs.Evaluation.Steps
import Jet.Proofs.Evaluation.Unused

/-!
# Declarations

An expression declares nothing.  Whatever is evaluated inside of it, branches with `let` statements
and bodies of functions included, introduces names only in scopes that were opened on the way, so
every scope that was there before binds the names that it bound.  An assignment gives a name another
value where it is bound, so a name keeps its values if neither the expression nor a function of the
store assigns it.  A `let` statement declares its own name in the scope at hand, and nothing else.

This is a discipline of one run beside itself: names may be introduced in new scopes only, and
trees write only to names that need not be kept.
-/

namespace Jet

/-! ## Names of scopes -/

namespace Scope

variable {scope : Scope} {name : String}

/-- The names that a scope binds, in the order in which they were first bound. -/
def names (scope : Scope) : List String :=
  scope.bindings.map Prod.fst

theorem binds_iff_mem_names :
    scope.binds name = true ↔ name ∈ scope.names := by
  simp [binds, names]

/-- A name is bound where it stands, or behind all others. -/
theorem names_define (name : String) (value : Value) :
    (scope.define name value).names =
      if name ∈ scope.names then scope.names else scope.names ++ [name] := by
  have inserted (bindings : List (String × Value)) :
      (insert name value bindings).map Prod.fst =
        if name ∈ bindings.map Prod.fst then bindings.map Prod.fst
        else bindings.map Prod.fst ++ [name] := by
    induction bindings with
    | nil => rfl
    | cons head rest induction =>
        by_cases same : head.1 = name
        · simp [insert, same]
        · simp only [insert, if_neg same, List.map_cons, List.mem_cons, induction, Ne.symm same,
            false_or]
          split <;> rfl
  exact inserted scope.bindings

end Scope

namespace Store

/-- The names that a scope of a store binds. -/
def names (store : Store) (id : Nat) : List String :=
  (store.bindings id).map Prod.fst

variable {start store other : Store} {id place : Nat} {name : String} {kept : String → Prop}

theorem names_of_scope {scope : Scope}
    (found : store.scopes[id]? = some scope) :
    store.names id = scope.names := by
  rw [names, bindings, found]
  rfl

theorem names_congr
    (same : store.scopes[id]? = other.scopes[id]?) :
    store.names id = other.names id := by
  rw [names, names, bindings, bindings, same]

theorem held_congr
    (same : store.scopes[id]? = other.scopes[id]?) :
    store.held id name = other.held id name := by
  rw [held, held, same]

/-- Binding a name changes no other scope. -/
theorem getElem?_define_of_ne (apart : place ≠ id) (name : String) (value : Value) :
    (store.define place name value).scopes[id]? = store.scopes[id]? := by
  rw [define, Array.getElem?_modify, if_neg apart]

theorem getElem?_define_self {scope : Scope}
    (found : store.scopes[id]? = some scope) (name : String) (value : Value) :
    (store.define id name value).scopes[id]? = some (scope.define name value) := by
  rw [define, Array.getElem?_modify, if_pos rfl, found]
  rfl

theorem getElem?_openScope_of_lt (old : id < store.scopes.size) (outer : Option Nat) :
    (store.openScope outer).2.scopes[id]? = store.scopes[id]? := by
  rw [openScope, Array.getElem?_push, if_neg (Nat.ne_of_lt old)]

/-! ## Kept names -/

/-- Whether the scopes of an earlier store bind the same names, and kept ones to the same values. -/
structure KeepsNames (start : Store) (kept : String → Prop) (store : Store) : Prop where
  grown : start.scopes.size ≤ store.scopes.size
  names : ∀ id < start.scopes.size, store.names id = start.names id
  held : ∀ id < start.scopes.size, ∀ name, kept name → store.held id name = start.held id name

namespace KeepsNames

theorem refl (store : Store) (kept : String → Prop) :
    store.KeepsNames kept store :=
  ⟨Nat.le_refl _, fun _ _ => rfl, fun _ _ _ _ => rfl⟩

/-- Whatever leaves the scopes of the earlier store alone keeps their names. -/
theorem of_scopes_eq
    (keeps : start.KeepsNames kept store) (grown : store.scopes.size ≤ other.scopes.size)
    (same : ∀ id < start.scopes.size, other.scopes[id]? = store.scopes[id]?) :
    start.KeepsNames kept other := by
  refine ⟨Nat.le_trans keeps.grown grown, fun id old => ?_, fun id old name wanted => ?_⟩
  · rw [names_congr (same id old), keeps.names id old]
  · rw [held_congr (same id old), keeps.held id old name wanted]

theorem openScope
    (keeps : start.KeepsNames kept store) (outer : Option Nat) :
    start.KeepsNames kept (store.openScope outer).2 := by
  refine keeps.of_scopes_eq ?_ fun id old =>
    getElem?_openScope_of_lt (Nat.lt_of_lt_of_le old keeps.grown) outer
  rw [size_openScope]
  exact Nat.le_succ _

/-- In a new scope any name may be introduced. -/
theorem define_of_new
    (keeps : start.KeepsNames kept store) (new : start.scopes.size ≤ place) (name : String)
    (value : Value) :
    start.KeepsNames kept (store.define place name value) := by
  have size := size_define store place name value
  refine keeps.of_scopes_eq (Nat.le_of_eq size.symm) fun id old => ?_
  exact getElem?_define_of_ne (Nat.ne_of_gt (Nat.lt_of_lt_of_le old new)) name value

/-- A name that is not kept may get another value where it is bound. -/
theorem define_of_binds {scope : Scope}
    (keeps : start.KeepsNames kept store) (found : store.scopes[place]? = some scope)
    (binds : scope.binds name = true) (lost : ¬ kept name) (value : Value) :
    start.KeepsNames kept (store.define place name value) := by
  refine ⟨?_, fun id old => ?_, fun id old wanted isKept => ?_⟩
  · rw [size_define]
    exact keeps.grown
  · rw [← keeps.names id old]
    by_cases here : place = id
    · cases here
      rw [names_of_scope (getElem?_define_self found name value), names_of_scope found,
        Scope.names_define, if_pos (Scope.binds_iff_mem_names.mp binds)]
    · exact names_congr (getElem?_define_of_ne here name value)
  · rw [← keeps.held id old wanted isKept]
    exact held_define value fun same => lost (same ▸ isKept)

end KeepsNames

end Store

/-! ## Assigned names -/

/-- Whether a tree assigns a name, at any depth. -/
def Part.Assigns (part : Part) (name : String) : Prop :=
  ∃ value, Part.Occurs (.expression (.assign name value)) part

/-- The functions whose bodies do not assign a name. -/
def FunctionKind.sparing (name : String) : FunctionKind := fun _ body _ =>
  ¬ Part.Assigns (.block body) name

/-- Whether no function that is bound in a store, at any depth, assigns a name. -/
def Store.Spares (store : Store) (name : String) : Prop :=
  store.BindsOnly (Value.Carries (.sparing name))

namespace Part

variable {part : Part} {name : String}

/-- Only an assignment writes to a name. -/
theorem exists_of_written
    (member : .written name ∈ part.mentions) :
    ∃ value, part = .expression (.assign name value) := by
  unfold mentions at member
  split at member
  · cases List.mem_singleton.mp member
  · cases List.mem_singleton.mp member
    exact ⟨_, rfl⟩
  · rcases List.mem_map.mp member with ⟨_, _, equal⟩
    cases equal
  · cases List.mem_singleton.mp member
  · cases member

/-- A function literal assigns what its body assigns. -/
theorem assigns_function_iff {parameters : List String} {body : List Stmt} :
    Assigns (.expression (.function parameters body)) name ↔ Assigns (.block body) name := by
  constructor
  · rintro ⟨value, occurs⟩
    cases occurs with
    | inside member deeper =>
        cases List.mem_singleton.mp member
        exact ⟨value, deeper⟩
  · rintro ⟨value, occurs⟩
    exact ⟨value, .inside List.mem_cons_self occurs⟩

/-- A tree that was checked down to the leaves does not assign a name. -/
theorem not_assigns_of_check (depth : Nat)
    (checked : check children (fun inner => !inner.mentions.contains (.written name)) depth part =
      true) :
    ¬ part.Assigns name := by
  rintro ⟨value, occurs⟩
  have spared := obeys_of_check checked _ occurs
  simp [mentions] at spared

end Part

/-! ## The discipline -/

/-- One run that introduces names in new scopes only and writes to no name that is kept. -/
def Discipline.keeping (start : Store) (kept : String → Prop) : Discipline where
  Tied store other :=
    store = other ∧ start.KeepsNames kept store ∧ ∀ name, kept name → store.Spares name
  Seen _ := True
  Own id := start.scopes.size ≤ id
  Allows mention := ∀ name, mention = .written name → ¬ kept name

namespace Discipline

variable {start store : Store} {kept : String → Prop} {value : Value} {part : Part}

/-- A tree is permitted if it assigns no kept name. -/
theorem keeping_permits_iff :
    part.Permits (keeping start kept).Allows ↔ ∀ name, kept name → ¬ part.Assigns name := by
  constructor
  · rintro permits name isKept ⟨assigned, occurs⟩
    exact permits _ occurs (.written name) List.mem_cons_self name rfl isKept
  · rintro spared inner occurs _ member name rfl isKept
    rcases Part.exists_of_written member with ⟨assigned, rfl⟩
    exact spared name isKept ⟨assigned, occurs⟩

/-- All that the discipline asks of a value is that its functions assign no kept name. -/
theorem keeping_meets_iff :
    (keeping start kept).Meets value ↔ ∀ name, kept name → value.Carries (.sparing name) := by
  constructor
  · intro meets name isKept stamp parameters body scope occurs assigns
    have permits := (meets stamp parameters body scope occurs).1
    exact keeping_permits_iff.mp permits name isKept (Part.assigns_function_iff.mpr assigns)
  · intro carries stamp parameters body scope occurs
    refine ⟨keeping_permits_iff.mpr fun name isKept assigns => ?_, trivial⟩
    exact carries name isKept stamp parameters body scope occurs
      (Part.assigns_function_iff.mp assigns)

/-- Every step introduces names in new scopes only. -/
theorem keeping_isLawful : (keeping start kept).IsLawful where
  seen_of_own _ := trivial
  freshStamp := by
    rintro store _ ⟨rfl, keeps, spared⟩
    refine ⟨rfl, ⟨rfl, ?_, spared⟩, fun _ _ => trivial⟩
    exact keeps.of_scopes_eq (Nat.le_refl _) fun _ _ => rfl
  openScope := by
    rintro store _ scope ⟨rfl, keeps, spared⟩ -
    refine ⟨rfl, ⟨rfl, keeps.openScope (some scope), fun name isKept => ?_⟩, ?_⟩
    · exact (spared name isKept).openScope (some scope)
    · rintro id ⟨⟩
      exact keeps.grown
  lookup := by
    rintro store _ scope name ⟨rfl, keeps, spared⟩ - -
    refine ⟨rfl, ⟨rfl, keeps, spared⟩, ?_⟩
    rintro found ⟨⟩ value member
    exact keeping_meets_iff.mpr fun other isKept => (spared other isKept).get? member
  define := by
    rintro store _ scope name value ⟨rfl, keeps, spared⟩ new - meets
    refine ⟨rfl, ⟨rfl, keeps.define_of_new new name value, fun other isKept => ?_⟩,
      fun _ _ => trivial⟩
    exact (spared other isKept).define (keeping_meets_iff.mp meets other isKept) scope name
  assign := by
    rintro store _ scope name value ⟨rfl, keeps, spared⟩ - allowed meets
    refine ⟨rfl, ⟨rfl, ?_⟩, fun _ _ => trivial⟩
    cases resolved : store.resolve scope name with
    | none =>
        rw [Computation.assign_of_resolve_eq_none resolved]
        exact ⟨keeps, spared⟩
    | some holder =>
        rw [Computation.assign_of_resolve resolved]
        rcases Store.exists_of_resolve resolved with ⟨bound, found, binds⟩
        refine ⟨keeps.define_of_binds found binds (allowed name rfl) value, fun other isKept => ?_⟩
        exact (spared other isKept).define (keeping_meets_iff.mp meets other isKept) holder name

end Discipline

/-! ## Runs -/

variable {store : Store} {scope : Nat}

/-- An expression keeps all names, and the values of those that nothing in sight assigns. -/
theorem Expr.evaluate_keepsNames (tree : Expr) (limit : Nat) {kept : String → Prop}
    (spared : ∀ name, kept name → ¬ Part.Assigns (.expression tree) name ∧ store.Spares name) :
    store.KeepsNames kept (Part.evaluate limit (.expression tree) scope store).2 := by
  have lawful : (Discipline.keeping store kept).IsLawful := Discipline.keeping_isLawful
  have permitted : Part.Permits (Discipline.keeping store kept).Allows (.expression tree) :=
    Discipline.keeping_permits_iff.mpr fun name isKept => (spared name isKept).1
  have inStep := Part.inStep lawful (applyFunction_inStep lawful limit) (.expression tree) permitted
    store store scope ⟨rfl, .refl store kept, fun name isKept => (spared name isKept).2⟩ trivial
  exact inStep.tied.2.1

/-- A `let` statement leaves what its value leaves, with the name bound besides if there is one. -/
theorem Stmt.evaluate_bind_cases (name : String) (value : Expr) (limit : Nat) {between : Store}
    (leaves : (Part.evaluate limit (.expression value) scope store).2 = between) :
    (Part.evaluate limit (.statement (.bind name value)) scope store).2 = between ∨
      ∃ bound, (Part.evaluate limit (.statement (.bind name value)) scope store).2 =
        between.define scope name bound := by
  rw [Part.evaluate] at leaves
  rw [Part.evaluate, Stmt.evaluate, Computation.andThen_apply]
  rcases ended : value.evaluate (applyFunction limit) scope store with ⟨reason | bound, after⟩
  · rw [ended] at leaves
    exact .inl leaves
  · rw [ended] at leaves
    cases leaves
    dsimp only
    split
    · exact .inl rfl
    · exact .inr ⟨bound, rfl⟩

/-- Whether one scope of an earlier store binds at most one more name, and no other binds more. -/
structure Store.DeclaresAtMost (start : Store) (scope : Nat) (name : String) (store : Store) :
    Prop where
  elsewhere : ∀ id < start.scopes.size, id ≠ scope → store.names id = start.names id
  here : store.names scope = start.names scope ∨
    name ∉ start.names scope ∧ store.names scope = start.names scope ++ [name]

theorem Stmt.evaluate_declaresAtMost (known : scope < store.scopes.size) (name : String)
    (value : Expr) (limit : Nat) :
    store.DeclaresAtMost scope name
      (Part.evaluate limit (.statement (.bind name value)) scope store).2 := by
  have keeps : store.KeepsNames (fun _ => False)
      (Part.evaluate limit (.expression value) scope store).2 :=
    value.evaluate_keepsNames limit fun _ => False.elim
  rcases evaluate_bind_cases name value limit rfl with after | ⟨bound, after⟩
  · rw [after]
    exact ⟨fun id old _ => keeps.names id old, .inl (keeps.names scope known)⟩
  · rw [after]
    refine ⟨fun id old apart => ?_, ?_⟩
    · rw [Store.names_congr (Store.getElem?_define_of_ne (Ne.symm apart) name bound)]
      exact keeps.names id old
    · have present := Array.getElem?_eq_getElem (Nat.lt_of_lt_of_le known keeps.grown)
      have same := keeps.names scope known
      rw [Store.names_of_scope present] at same
      rw [Store.names_of_scope (Store.getElem?_define_self present name bound),
        Scope.names_define, same]
      split
      · exact .inl rfl
      · rename_i free
        exact .inr ⟨free, rfl⟩

/--
However the evaluation of an expression ends, every scope that was there before binds the names that
it bound, and a name is bound to what it was bound to, in each of them, if no assignment in the
expression or in the body of a function of the store is to this name.  A `let` statement binds no
name that was not bound but its own, and this in the scope at hand.
-/
theorem evaluation_declaresNothing (known : scope < store.scopes.size) (limit : Nat) :
    (∀ tree : Expr,
      store.KeepsNames (fun name => ¬ Part.Assigns (.expression tree) name ∧ store.Spares name)
        (Part.evaluate limit (.expression tree) scope store).2) ∧
    (∀ (name : String) (value : Expr),
      store.DeclaresAtMost scope name
        (Part.evaluate limit (.statement (.bind name value)) scope store).2) :=
  ⟨fun tree => tree.evaluate_keepsNames limit fun _ => id,
    fun name value => Stmt.evaluate_declaresAtMost known name value limit⟩

/--
From the root a function is called that counts in a scope of its own: the count is another one, but
no name is declared, and the function stays what it was.  A `let` statement declares its name only.
-/
theorem evaluation_declaresNothing_counter :
    0 < Store.counter.scopes.size ∧
      ¬ Part.Assigns (.expression (.call (.name "tick") [])) "tick" ∧ Store.counter.Spares "tick" ∧
      Store.counter.KeepsNames
        (fun name => ¬ Part.Assigns (.expression (.call (.name "tick") [])) name ∧
          Store.counter.Spares name)
        (Part.evaluate 1 (.expression (.call (.name "tick") [])) 0 Store.counter).2 ∧
      Store.counter.DeclaresAtMost 0 "n"
        (Part.evaluate 1 (.statement (.bind "n" (.call (.name "tick") []))) 0 Store.counter).2 ∧
      (Part.evaluate 1 (.statement (.bind "n" (.call (.name "tick") []))) 0
        Store.counter).2.names 0 = ["tick", "n"] := by
  have spares : Store.counter.Spares "tick" := by
    intro id scope found
    match id, found with
    | 0, found =>
        cases found
        refine List.forall_mem_singleton.mpr (Value.carries_function ?_ 0)
        exact Part.not_assigns_of_check 5 (by decide)
    | 1, found | 2, found =>
        cases found
        exact List.forall_mem_singleton.mpr (Value.carries_of_isAtomic rfl)
    | id + 3, found => cases found
  exact ⟨by decide, Part.not_assigns_of_check 2 (by decide), spares,
    (evaluation_declaresNothing (by decide) 1).1 _,
    (evaluation_declaresNothing (by decide) 1).2 "n" _, rfl⟩

end Jet
