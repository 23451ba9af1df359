import Jet.Proofs.Evaluation.Lockstep

/-!
# Unused names

A name that is mentioned neither in a tree nor in a function of the store makes no difference.  Run
the tree in a store, and in a store where one scope binds the name besides: both runs end alike, the
stores that they leave differ in nothing but the binding, and the binding is as it was.

The two runs keep in step, under a discipline by which no tree mentions the name.  It is lawful
because a name is looked for by comparing names, so that a binding of another one is passed over
wherever it stands.
-/

namespace Jet

/-! ## Leaving a binding out -/

namespace Scope

/-- The scope without the binding of a name. -/
def without (scope : Scope) (name : String) : Scope :=
  { scope with bindings := scope.bindings.filter fun binding => binding.1 != name }

variable {scope : Scope} {name other : String}

/-- Binding a name and leaving another out may be done in any order. -/
theorem insert_filter (value : Value) (different : other ≠ name)
    (bindings : List (String × Value)) :
    insert other value (bindings.filter fun binding => binding.1 != name) =
      (insert other value bindings).filter fun binding => binding.1 != name := by
  have kept : (other != name) = true := bne_iff_ne.mpr different
  induction bindings with
  | nil => simp only [List.filter_nil, insert, List.filter_cons, kept, if_true]
  | cons head rest induction =>
      by_cases same : head.1 = other
      · simp only [insert, List.filter_cons, same, kept, if_true]
      · rw [insert, if_neg same, List.filter_cons, List.filter_cons]
        split
        · rw [insert, if_neg same, induction]
        · exact induction

theorem define_without (value : Value) (different : other ≠ name) :
    (scope.without name).define other value = (scope.define other value).without name := by
  rw [define, without, define, without, insert_filter value different]

/-- Another name is bound to what it was bound to. -/
theorem get?_without (different : other ≠ name) :
    (scope.without name).get? other = scope.get? other := by
  have lookup (bindings : List (String × Value)) :
      (bindings.filter fun binding => binding.1 != name).lookup other = bindings.lookup other := by
    induction bindings with
    | nil => rfl
    | cons head rest induction =>
        rcases head with ⟨bound, value⟩
        rw [List.filter_cons, List.lookup_cons]
        split
        · rw [List.lookup_cons, induction]
        · rename_i left
          have same : bound = name := by simpa using left
          have skipped : (other == bound) = false := by simpa [same] using different
          rw [skipped, induction]
  exact lookup scope.bindings

theorem binds_without (different : other ≠ name) :
    (scope.without name).binds other = scope.binds other := by
  rw [binds, binds, without, List.any_filter]
  congr 1
  funext binding
  by_cases same : binding.1 = other
  · simp [same, different]
  · simp [same]

/-- A name is looked up past the bindings of all others. -/
theorem lookup_insert (value : Value) (bindings : List (String × Value)) :
    (insert other value bindings).lookup name =
      if name == other then some value else bindings.lookup name := by
  induction bindings with
  | nil =>
      rw [insert, List.lookup_cons]
      split <;> simp [*]
  | cons head rest induction =>
      rw [insert]
      split
      · rename_i stands
        rw [List.lookup_cons, List.lookup_cons, stands]
        split <;> simp [*]
      · rename_i different
        rw [List.lookup_cons, List.lookup_cons, induction]
        split
        · rename_i here
          have other : (name == other) = false := by
            rw [eq_of_beq here]
            exact beq_eq_false_iff_ne.mpr different
          simp [other]
        · rfl

/-- Binding another name leaves the binding of a name alone. -/
theorem get?_define (value : Value) (different : other ≠ name) :
    (scope.define other value).get? name = scope.get? name :=
  (lookup_insert value scope.bindings).trans (if_neg (by simpa using different.symm))

/-- A name that is not bound yet is bound behind all others. -/
theorem without_define_of_free {value : Value}
    (free : ∀ binding ∈ scope.bindings, binding.1 ≠ name) :
    (scope.define name value).without name = scope := by
  have left (bindings : List (String × Value)) (free : ∀ binding ∈ bindings, binding.1 ≠ name) :
      (insert name value bindings).filter (fun binding => binding.1 != name) = bindings := by
    induction bindings with
    | nil => simp [insert]
    | cons head rest induction =>
        rw [List.forall_mem_cons] at free
        rw [insert, if_neg free.1, List.filter_cons, if_pos (bne_iff_ne.mpr free.1),
          induction free.2]
  rw [without, define, left scope.bindings free]

/-- A name is bound to what it was bound to last. -/
theorem get?_define_self (value : Value) :
    (scope.define name value).get? name = some value :=
  (lookup_insert value scope.bindings).trans (if_pos (beq_self_eq_true name))

end Scope

namespace Store

/-- The store without the binding that one scope has for a name. -/
def without (store : Store) (place : Nat) (name : String) : Store :=
  { store with scopes := store.scopes.modify place fun scope => scope.without name }

/-- What a name is bound to in one scope, without regard to outer ones. -/
def held (store : Store) (place : Nat) (name : String) : Option Value :=
  store.scopes[place]?.bind fun scope => scope.get? name

variable {store : Store} {place id : Nat} {name other : String}

theorem getElem?_without (store : Store) (place : Nat) (name : String) (id : Nat) :
    (store.without place name).scopes[id]? =
      if place = id then store.scopes[id]?.map fun scope => scope.without name
      else store.scopes[id]? :=
  Array.getElem?_modify

/-- A scope is seen as it stands, or without the binding. -/
theorem exists_without {scope : Scope}
    (found : store.scopes[id]? = some scope) (place : Nat) (name : String) :
    ∃ shown, (store.without place name).scopes[id]? = some shown ∧
      (shown = scope ∨ shown = scope.without name) := by
  rw [getElem?_without, found]
  split
  · exact ⟨scope.without name, rfl, .inr rfl⟩
  · exact ⟨scope, rfl, .inl rfl⟩

/-- A new scope has no binding that could be left out. -/
theorem openScope_without (store : Store) (place : Nat) (name : String) (outer : Option Nat) :
    ((store.without place name).openScope outer).2 =
      (store.openScope outer).2.without place name := by
  have scopes : ((store.without place name).openScope outer).2.scopes =
      ((store.openScope outer).2.without place name).scopes := by
    refine Array.ext_getElem? fun id => ?_
    rw [getElem?_without, openScope, openScope, Array.getElem?_push, Array.getElem?_push,
      getElem?_without, without, Array.size_modify]
    by_cases newest : id = store.scopes.size
    · rw [if_pos newest, if_pos newest]
      split <;> rfl
    · rw [if_neg newest, if_neg newest]
  exact congrArg (Store.mk · store.nextStamp) scopes

theorem define_without (value : Value) (different : other ≠ name) :
    (store.without place name).define id other value =
      (store.define id other value).without place name := by
  have scopes : ((store.without place name).define id other value).scopes =
      ((store.define id other value).without place name).scopes := by
    refine Array.ext_getElem? fun position => ?_
    rw [getElem?_without, define, define, Array.getElem?_modify, Array.getElem?_modify,
      getElem?_without]
    split
    · split
      · rw [Option.map_map, Option.map_map]
        congr 1
        funext scope
        exact Scope.define_without value different
      · rfl
    · rfl
  exact congrArg (Store.mk · store.nextStamp) scopes

/-- Another name is resolved where it was resolved. -/
theorem resolve_without (different : other ≠ name) :
    (store.without place name).resolve id other = store.resolve id other := by
  have within (count id : Nat) :
      (store.without place name).resolveWithin other count id =
        store.resolveWithin other count id := by
    induction count generalizing id with
    | zero => rfl
    | succ count induction =>
        rw [resolveWithin, resolveWithin]
        cases found : store.scopes[id]? with
        | none => rw [getElem?_without, found, Option.map_none, ite_self]
        | some scope =>
            rcases exists_without found place name with ⟨shown, seen, rfl | rfl⟩
            · simp only [seen, induction]
            · simp only [seen, induction, Scope.binds_without different]
              rfl
  exact within (id + 1) id

/-- Another name has the value that it had. -/
theorem get?_without (different : other ≠ name) :
    (store.without place name).get? id other = store.get? id other := by
  rw [get?, get?, resolve_without different]
  cases store.resolve id other with
  | none => rfl
  | some holder =>
      dsimp only
      cases found : store.scopes[holder]? with
      | none => rw [getElem?_without, found, Option.map_none, ite_self]
      | some scope =>
          rcases exists_without found place name with ⟨shown, seen, rfl | rfl⟩
          · rw [seen]
          · rw [seen]
            exact Scope.get?_without different

/-- A new scope binds nothing yet. -/
theorem held_openScope (store : Store) (outer : Option Nat) (place : Nat) (name : String) :
    (store.openScope outer).2.held place name = store.held place name := by
  rw [held, held, openScope, Array.getElem?_push]
  split
  · rename_i newest
    rw [newest, Array.getElem?_eq_none (Nat.le_refl _)]
    rfl
  · rfl

/-- A binding is as it was when another name is bound. -/
theorem held_define (value : Value) (different : other ≠ name) :
    (store.define id other value).held place name = store.held place name := by
  rw [held, held, define, Array.getElem?_modify]
  split
  · rw [Option.bind_map]
    congr 1
    funext scope
    exact Scope.get?_define value different
  · rfl

/-- Whether a store is another one with one more binding, anywhere among those of one scope. -/
structure BindsBeside (extended store : Store) (place : Nat) (name : String) (value : Value) :
    Prop where
  rest : extended.without place name = store
  held : extended.held place name = some value

/-- A name that a scope does not bind may be bound there. -/
theorem bindsBeside_define {scope : Scope}
    (found : store.scopes[place]? = some scope) (free : ∀ binding ∈ scope.bindings, binding.1 ≠ name)
    (value : Value) :
    (store.define place name value).BindsBeside store place name value := by
  constructor
  · have scopes : ((store.define place name value).without place name).scopes = store.scopes := by
      refine Array.ext_getElem? fun id => ?_
      rw [getElem?_without, define, Array.getElem?_modify]
      split
      · rename_i same
        rw [← same, found, Option.map_some, Option.map_some, Scope.without_define_of_free free]
      · rfl
    exact congrArg (Store.mk · store.nextStamp) scopes
  · rw [held, define, Array.getElem?_modify, if_pos rfl, found]
    exact Scope.get?_define_self value

end Store

/-! ## Mentioned names -/

/-- Whether a tree mentions a name, at any depth. -/
def Part.Mentions (part : Part) (name : String) : Prop :=
  ∃ inner, Part.Occurs inner part ∧ ∃ mention ∈ inner.mentions, mention.name = name

/-- The functions that mention a name neither among their parameters nor in their bodies. -/
def FunctionKind.silentOn (name : String) : FunctionKind := fun parameters body _ =>
  ¬ Part.Mentions (.expression (.function parameters body)) name

/-- Whether no function that is bound in a store, at any depth, mentions a name. -/
def Store.IsSilentOn (store : Store) (name : String) : Prop :=
  ∀ (id : Nat) (scope : Scope), store.scopes[id]? = some scope →
    ∀ binding ∈ scope.bindings, binding.2.Carries (.silentOn name)

variable {name other : String} {place : Nat} {store : Store}

theorem Store.IsSilentOn.openScope
    (silent : store.IsSilentOn name) (outer : Option Nat) :
    (store.openScope outer).2.IsSilentOn name :=
  BindsOnly.openScope silent outer

theorem Store.IsSilentOn.define {value : Value}
    (silent : store.IsSilentOn name) (carries : value.Carries (.silentOn name)) (id : Nat)
    (other : String) :
    (store.define id other value).IsSilentOn name :=
  BindsOnly.define silent carries id other

theorem Store.IsSilentOn.get? {id : Nat} {value : Value}
    (silent : store.IsSilentOn name) (found : store.get? id other = some value) :
    value.Carries (.silentOn name) :=
  BindsOnly.get? silent found

/-- A tree that does not mention a name mentions other names only. -/
theorem Part.permits_of_not_mentions {part : Part}
    (silent : ¬ part.Mentions name) :
    part.Permits (·.name ≠ name) :=
  fun inner occurs mention member same => silent ⟨inner, occurs, mention, member, same⟩

/-- A tree that was checked down to the leaves does not mention a name. -/
theorem Part.not_mentions_of_check {part : Part} (depth : Nat)
    (checked : check Part.children
      (fun inner => inner.mentions.all fun mention => mention.name != name) depth part = true) :
    ¬ part.Mentions name := by
  rintro ⟨inner, occurs, mention, member, same⟩
  have other := List.all_eq_true.mp (obeys_of_check checked inner occurs) mention member
  exact bne_iff_ne.mp other same

/-! ## The discipline -/

/-- A run beside one that has another binding, by trees that do not mention the name. -/
def Discipline.apart (place : Nat) (name : String) (value : Value) : Discipline where
  Tied extended store := extended.BindsBeside store place name value ∧ store.IsSilentOn name
  Seen _ := True
  Own _ := True
  Allows mention := mention.name ≠ name

namespace Discipline

variable {value : Value}

/-- All that the discipline asks of a value is that its functions are silent. -/
theorem apart_meets_iff {carrier : Value} :
    (apart place name value).Meets carrier ↔ carrier.Carries (.silentOn name) := by
  constructor
  · rintro meets stamp parameters body scope occurs ⟨inner, inside, mention, member, same⟩
    exact (meets stamp parameters body scope occurs).1 inner inside mention member same
  · intro carries stamp parameters body scope occurs
    exact ⟨Part.permits_of_not_mentions (carries stamp parameters body scope occurs), trivial⟩

/-- Binding another name in both stores keeps them together. -/
theorem apart_define {extended : Store} {id : Nat} {added : Value}
    (tied : (apart place name value).Tied extended store) (different : other ≠ name)
    (meets : (apart place name value).Meets added) :
    (apart place name value).Tied (extended.define id other added)
      (store.define id other added) := by
  rcases tied with ⟨⟨rfl, held⟩, silent⟩
  refine ⟨⟨(Store.define_without added different).symm, ?_⟩, ?_⟩
  · rw [Store.held_define added different]
    exact held
  · exact silent.define (apart_meets_iff.mp meets) id other

/-- Whoever does not mention a name cannot tell whether it is bound. -/
theorem apart_isLawful : (apart place name value).IsLawful where
  seen_of_own _ := trivial
  freshStamp := by
    rintro extended _ ⟨⟨rfl, held⟩, silent⟩
    exact ⟨rfl, ⟨⟨rfl, held⟩, silent⟩, fun _ _ => trivial⟩
  openScope := by
    rintro extended _ scope ⟨⟨rfl, held⟩, silent⟩ -
    refine ⟨congrArg Except.ok Array.size_modify.symm, ⟨⟨?_, ?_⟩, ?_⟩, fun _ _ => trivial⟩
    · exact (Store.openScope_without extended place name (some scope)).symm
    · exact (Store.held_openScope extended (some scope) place name).trans held
    · exact silent.openScope (some scope)
  lookup := by
    rintro extended _ scope other ⟨⟨rfl, held⟩, silent⟩ - different
    have same : (extended.without place name).get? scope other = extended.get? scope other :=
      Store.get?_without different
    refine ⟨congrArg Except.ok same.symm, ⟨⟨rfl, held⟩, silent⟩, ?_⟩
    rintro found ⟨⟩ value member
    exact apart_meets_iff.mpr (silent.get? (same.trans member))
  define := by
    intro extended store scope other added tied _ different meets
    exact ⟨rfl, apart_define tied different meets, fun _ _ => trivial⟩
  assign := by
    intro extended store scope other added tied _ different meets
    have same : store.resolve scope other = extended.resolve scope other := by
      rw [← tied.1.rest]
      exact Store.resolve_without different
    cases resolved : extended.resolve scope other with
    | none =>
        exact .of_run (Computation.assign_of_resolve_eq_none resolved added)
          (Computation.assign_of_resolve_eq_none (same.trans resolved) added) rfl tied
          fun _ _ => trivial
    | some holder =>
        exact .of_run (Computation.assign_of_resolve resolved added)
          (Computation.assign_of_resolve (same.trans resolved) added) rfl
          (apart_define tied different meets) fun _ _ => trivial

end Discipline

/-! ## Runs -/

/-- Whether a run ends alike with another binding, and leaves the same store with this binding. -/
structure IgnoresBinding (extended store : Store) (place : Nat) (name : String) (value : Value)
    (run : Computation Value) : Prop where
  ends : (run extended).1 = (run store).1
  after : (run extended).2.BindsBeside (run store).2 place name value

/-- A run that keeps in step with itself, apart from a binding, ignores the binding. -/
theorem IgnoresBinding.of_inStep {extended : Store} {value : Value} {run : Computation Value}
    {good : Value → Prop}
    (inStep : InStep (.apart place name value) good extended store run) :
    IgnoresBinding extended store place name value run :=
  ⟨inStep.ends, inStep.tied.1⟩

/--
A name that no function in a store mentions may be bound in any scope besides, to any value:
evaluating a tree that does not mention the name, running such a program, or calling such a function
with such arguments ends alike, leaves the same store but for the binding, and leaves the binding as
it was.
-/
theorem evaluation_ignoresBinding {extended store : Store} {place : Nat} {name : String}
    {value : Value} (silent : store.IsSilentOn name)
    (beside : extended.BindsBeside store place name value) (limit : Nat) :
    (∀ (part : Part) (scope : Nat), ¬ part.Mentions name →
      IgnoresBinding extended store place name value (part.evaluate limit scope)) ∧
    (∀ (program : Program) (scope : Nat), ¬ Part.Mentions (.block program.statements) name →
      IgnoresBinding extended store place name value (program.run scope limit)) ∧
    (∀ (function : Value) (arguments : List Value), function.Carries (.silentOn name) →
      (∀ argument ∈ arguments, argument.Carries (.silentOn name)) →
      IgnoresBinding extended store place name value
        (applyFunction limit function arguments)) := by
  have lawful : (Discipline.apart place name value).IsLawful := Discipline.apart_isLawful
  refine ⟨fun part scope unmentioned => ?_, fun program scope unmentioned => ?_,
    fun function arguments functionSilent argumentsSilent => ?_⟩
  · have permitted := Part.permits_of_not_mentions unmentioned
    exact .of_inStep (Part.evaluate_inStep lawful permitted ⟨beside, silent⟩ trivial limit)
  · have permitted := Part.permits_of_not_mentions unmentioned
    exact .of_inStep (Program.run_inStep lawful permitted ⟨beside, silent⟩ trivial limit)
  · have argumentsMeet (argument : Value) (member : argument ∈ arguments) :
        (Discipline.apart place name value).Meets argument :=
      Discipline.apart_meets_iff.mpr (argumentsSilent argument member)
    exact .of_inStep (applyFunction_inStep lawful limit function arguments extended store
      ⟨beside, silent⟩ (Discipline.apart_meets_iff.mpr functionSilent) argumentsMeet)

/-- In the nested store a function is called that knows nothing of another name. -/
theorem evaluation_ignoresBinding_nested :
    Store.nested.IsSilentOn "y" ∧
      (Store.nested.define 0 "y" (.integer 7)).BindsBeside Store.nested 0 "y" (.integer 7) ∧
      ¬ Part.Mentions (.expression (.call (.name "f") [.string "k"])) "y" ∧
      IgnoresBinding (Store.nested.define 0 "y" (.integer 7)) Store.nested 0 "y" (.integer 7)
        (Part.evaluate 1 (.expression (.call (.name "f") [.string "k"])) 1) := by
  have silent : Store.nested.IsSilentOn "y" := by
    intro id scope found
    match id, found with
    | 0, found =>
        cases found
        refine List.forall_mem_cons.mpr ⟨?_, List.forall_mem_singleton.mpr ?_⟩
        · exact Value.carries_array
            (List.forall_mem_singleton.mpr (Value.carries_of_isAtomic rfl)) 0
        · exact (Entry.carries_hash_iff 1).mpr (List.forall_mem_singleton.mpr
            ⟨Value.carries_of_isAtomic rfl, Value.carries_of_isAtomic rfl⟩)
    | 1, found =>
        cases found
        refine List.forall_mem_singleton.mpr (Value.carries_function ?_ 2)
        exact Part.not_mentions_of_check 5 (by decide)
    | id + 2, found => cases found
  have beside : (Store.nested.define 0 "y" (.integer 7)).BindsBeside Store.nested 0 "y"
      (.integer 7) := Store.bindsBeside_define rfl (by decide) (.integer 7)
  have unmentioned : ¬ Part.Mentions (.expression (.call (.name "f") [.string "k"])) "y" :=
    Part.not_mentions_of_check 3 (by decide)
  exact ⟨silent, beside, unmentioned, (evaluation_ignoresBinding silent beside 1).1 _ 1 unmentioned⟩

end Jet
