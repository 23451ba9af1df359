import Jet.Proofs.Value.Clean
import Jet.Proofs.Value.Correspondence

/-!
# Matching stores

The scopes of one store, which are all there are in it, found in another store under other numbers.
Binding and resolving names is the same in both.  A scope or stamp that is new in both gets the
number after all others; the scopes of the second store that no number stands for stay as they are.
-/

/-- What is related stays so under a relation that asks for less. -/
theorem Option.Rel.imp {α β : Type} {related weaker : α → β → Prop} {first : Option α}
    {second : Option β} (implies : ∀ value other, related value other → weaker value other)
    (holds : Option.Rel related first second) :
    Option.Rel weaker first second := by
  cases holds with
  | none => exact .none
  | some holds => exact .some (implies _ _ holds)

namespace Jet

/-! ## Renumbering -/

namespace Renumbering

variable {numbering later last : Renumbering}

/-- Increasing numbers still increase when a number above all of them is added. -/
theorem pairwise_concat {numbers : List Nat} {bound : Nat}
    (increasing : numbers.Pairwise (· < ·)) (below : ∀ number ∈ numbers, number < bound) :
    (numbers ++ [bound]).Pairwise (· < ·) := by
  refine List.pairwise_append.mpr ⟨increasing, List.pairwise_singleton _ _, ?_⟩
  exact fun number member => List.forall_mem_singleton.mpr (below number member)

/-- The number that is added is the greatest. -/
theorem lt_succ_of_mem_concat {numbers : List Nat} {bound : Nat}
    (below : ∀ number ∈ numbers, number < bound) :
    ∀ number ∈ numbers ++ [bound], number < bound + 1 := by
  intro number member
  rcases List.mem_append.mp member with member | last
  · exact Nat.lt_succ_of_lt (below number member)
  · rw [List.mem_singleton.mp last]
    exact Nat.lt_succ_self _

theorem Extends.refl (numbering : Renumbering) : numbering.Extends numbering :=
  ⟨List.prefix_rfl, List.prefix_rfl⟩

theorem Extends.trans (second : last.Extends later) (first : later.Extends numbering) :
    last.Extends numbering :=
  ⟨first.scopes.trans second.scopes, first.stamps.trans second.stamps⟩

/-- Later scopes are renumbered to later scopes. -/
theorem IsIncreasing.scope_lt {id next newId newNext : Nat} (increasing : numbering.IsIncreasing)
    (before : id < next) (first : numbering.scopes[id]? = some newId)
    (second : numbering.scopes[next]? = some newNext) :
    newId < newNext := by
  rcases List.getElem?_eq_some_iff.mp first with ⟨inside, rfl⟩
  rcases List.getElem?_eq_some_iff.mp second with ⟨nextInside, rfl⟩
  exact List.pairwise_iff_getElem.mp increasing.scopes id next inside nextInside before

/-- Equal scopes are renumbered to equal scopes, and only these. -/
theorem IsIncreasing.scope_eq_iff {id next newId newNext : Nat}
    (increasing : numbering.IsIncreasing) (first : numbering.scopes[id]? = some newId)
    (second : numbering.scopes[next]? = some newNext) :
    id = next ↔ newId = newNext := by
  rcases Nat.lt_trichotomy id next with before | rfl | behind
  · have less := increasing.scope_lt before first second
    exact iff_of_false (Nat.ne_of_lt before) (Nat.ne_of_lt less)
  · exact iff_of_true rfl (Option.some.inj (first.symm.trans second))
  · have less := increasing.scope_lt behind second first
    exact iff_of_false (Nat.ne_of_gt behind) (Nat.ne_of_gt less)

end Renumbering

/-! ## Scopes and stores -/

/-- Two bindings match if they bind the same name to matching values. -/
structure BindingMatches (numbering : Renumbering) (binding other : String × Value) : Prop where
  names : binding.1 = other.1
  values : binding.2.Matches numbering other.2

theorem BindingMatches.mono {numbering later : Renumbering} {binding other : String × Value}
    (extended : later.Extends numbering) (matched : BindingMatches numbering binding other) :
    BindingMatches later binding other :=
  ⟨matched.names, matched.values.mono extended⟩

/-- Two scopes match if their bindings do one by one and they lie inside of matching scopes. -/
structure Scope.Matches (numbering : Renumbering) (scope other : Scope) : Prop where
  bindings : List.Forall₂ (BindingMatches numbering) scope.bindings other.bindings
  outer : Option.Rel (fun id otherId => numbering.scopes[id]? = some otherId) scope.outer other.outer

/-- The scopes and stamps of one store are found in another under the numbers that are given. -/
structure Store.Matches (numbering : Renumbering) (store other : Store) : Prop where
  increasing : numbering.IsIncreasing
  size : numbering.scopes.length = store.scopes.size
  nextStamp : numbering.stamps.length = store.nextStamp
  scopesBelow : ∀ id ∈ numbering.scopes, id < other.scopes.size
  stampsBelow : ∀ stamp ∈ numbering.stamps, stamp < other.nextStamp
  scopes : ∀ id otherId : Nat, numbering.scopes[id]? = some otherId →
    Option.Rel (Scope.Matches numbering) store.scopes[id]? other.scopes[otherId]?
  outer : ∀ (id : Nat) (scope : Scope), store.scopes[id]? = some scope →
    ∀ outer ∈ scope.outer, outer < id

namespace Scope.Matches

variable {numbering later : Renumbering} {scope other : Scope}

theorem mono (extended : later.Extends numbering) (matched : scope.Matches numbering other) :
    scope.Matches later other :=
  ⟨matched.bindings.imp fun _ _ => .mono extended,
    matched.outer.imp fun _ _ => extended.scope⟩

theorem binds (matched : scope.Matches numbering other) (name : String) :
    scope.binds name = other.binds name := by
  have bindings := matched.bindings
  unfold Scope.binds
  generalize scope.bindings = list, other.bindings = otherList at bindings
  induction bindings with
  | nil => rfl
  | cons first behind induction => rw [List.any_cons, List.any_cons, first.names, induction]

theorem get? (matched : scope.Matches numbering other) (name : String) :
    Option.Rel (Value.Matches numbering) (scope.get? name) (other.get? name) := by
  have bindings := matched.bindings
  unfold Scope.get?
  generalize scope.bindings = list, other.bindings = otherList at bindings
  induction bindings with
  | nil => exact .none
  | @cons binding otherBinding rest others first behind induction =>
      rcases binding with ⟨bound, value⟩
      rcases otherBinding with ⟨otherBound, otherValue⟩
      rcases first with ⟨names, values⟩
      dsimp only at names values
      subst names
      rw [List.lookup_cons, List.lookup_cons]
      split
      · exact .some values
      · exact induction

theorem insert {value otherValue : Value} {bindings others : List (String × Value)}
    (matched : List.Forall₂ (BindingMatches numbering) bindings others)
    (values : value.Matches numbering otherValue) (name : String) :
    List.Forall₂ (BindingMatches numbering) (Scope.insert name value bindings)
      (Scope.insert name otherValue others) := by
  induction matched with
  | nil => exact .cons ⟨rfl, values⟩ .nil
  | cons first behind induction =>
      rw [Scope.insert, Scope.insert, first.names]
      split
      · exact .cons ⟨rfl, values⟩ behind
      · exact .cons first induction

theorem define {value otherValue : Value} (matched : scope.Matches numbering other)
    (values : value.Matches numbering otherValue) (name : String) :
    (scope.define name value).Matches numbering (other.define name otherValue) :=
  ⟨insert matched.bindings values name, matched.outer⟩

end Scope.Matches

namespace Store.Matches

variable {numbering : Renumbering} {store other : Store} {id otherId : Nat}

/-- A name is resolved in matching scopes, seen from matching scopes. -/
theorem resolveWithin (matched : store.Matches numbering other) (name : String) (count : Nat)
    (otherCount : Nat) (known : numbering.scopes[id]? = some otherId) (enough : id < count)
    (otherEnough : otherId < otherCount) :
    Option.Rel (fun holder otherHolder => numbering.scopes[holder]? = some otherHolder)
      (store.resolveWithin name count id) (other.resolveWithin name otherCount otherId) := by
  induction count generalizing id otherId otherCount with
  | zero => cases enough
  | succ count induction =>
      rcases Nat.exists_eq_add_one_of_ne_zero (Nat.ne_zero_of_lt otherEnough) with ⟨otherCount, rfl⟩
      have scopes := matched.scopes id otherId known
      have outward := matched.outer id
      unfold Store.resolveWithin
      generalize store.scopes[id]? = found, other.scopes[otherId]? = otherFound at scopes outward
      cases scopes with
      | none => exact .none
      | @some scope otherScope scopes =>
          dsimp only
          rw [scopes.binds name]
          split
          · exact .some known
          · have outers := scopes.outer
            have outward := outward scope rfl
            generalize scope.outer = outer, otherScope.outer = otherOuter at outers outward
            cases outers with
            | none => exact .none
            | some outerKnown =>
                have nearer := outward _ rfl
                have otherNearer := matched.increasing.scope_lt nearer outerKnown known
                exact induction otherCount outerKnown (by omega) (by omega)

theorem resolve (matched : store.Matches numbering other)
    (known : numbering.scopes[id]? = some otherId) (name : String) :
    Option.Rel (fun holder otherHolder => numbering.scopes[holder]? = some otherHolder)
      (store.resolve id name) (other.resolve otherId name) :=
  matched.resolveWithin name _ _ known (Nat.lt_succ_self id) (Nat.lt_succ_self otherId)

/-- A name has matching values, seen from matching scopes. -/
theorem get? (matched : store.Matches numbering other)
    (known : numbering.scopes[id]? = some otherId) (name : String) :
    Option.Rel (Value.Matches numbering) (store.get? id name) (other.get? otherId name) := by
  have holders := matched.resolve known name
  unfold Store.get?
  generalize store.resolve id name = holder, other.resolve otherId name = otherHolder at holders
  cases holders with
  | none => exact .none
  | @some holder otherHolder holders =>
      have scopes := matched.scopes holder otherHolder holders
      dsimp only
      generalize store.scopes[holder]? = found, other.scopes[otherHolder]? = otherFound at scopes
      cases scopes with
      | none => exact .none
      | some scopes => exact scopes.get? name

/-- Matching scopes bind the same names to matching values. -/
theorem bindings (matched : store.Matches numbering other)
    (known : numbering.scopes[id]? = some otherId) :
    List.Forall₂ (BindingMatches numbering) (store.bindings id) (other.bindings otherId) := by
  have scopes := matched.scopes id otherId known
  unfold Store.bindings
  generalize store.scopes[id]? = found, other.scopes[otherId]? = otherFound at scopes
  cases scopes with
  | none => exact .nil
  | some scopes => exact scopes.bindings

end Store.Matches

/--
What happened to a renumbering and to the second store in a run: numbers were only added for new
scopes, and the scopes that no number stands for are as they were.
-/
structure Advances (numbering later : Renumbering) (before after : Store) : Prop where
  extended : later.Extends numbering
  fresh : ∀ id ∈ later.scopes, id ∈ numbering.scopes ∨ before.scopes.size ≤ id
  grown : before.scopes.size ≤ after.scopes.size
  stamped : before.nextStamp ≤ after.nextStamp
  untouched : ∀ id < before.scopes.size, id ∉ numbering.scopes →
    after.scopes[id]? = before.scopes[id]?

namespace Advances

variable {numbering later last : Renumbering} {before between after : Store}

theorem refl (numbering : Renumbering) (store : Store) : Advances numbering numbering store store :=
  ⟨.refl numbering, fun _ => .inl, Nat.le_refl _, Nat.le_refl _, fun _ _ _ => rfl⟩

theorem trans (first : Advances numbering later before between)
    (second : Advances later last between after) :
    Advances numbering last before after := by
  refine ⟨second.extended.trans first.extended, fun id member => ?_,
    Nat.le_trans first.grown second.grown, Nat.le_trans first.stamped second.stamped,
    fun id old other => ?_⟩
  · rcases second.fresh id member with member | new
    · exact first.fresh id member
    · exact .inr (Nat.le_trans first.grown new)
  · have stillOther : id ∉ later.scopes := fun member => by
      rcases first.fresh id member with member | new
      · exact other member
      · exact absurd old (Nat.not_lt_of_le new)
    rw [second.untouched id (Nat.lt_of_lt_of_le old first.grown) stillOther,
      first.untouched id old other]

end Advances

namespace Store.Matches

variable {numbering : Renumbering} {store other : Store} {id otherId : Nat}

theorem scope_lt (matched : store.Matches numbering other)
    (known : numbering.scopes[id]? = some otherId) :
    otherId < other.scopes.size :=
  matched.scopesBelow otherId (List.mem_of_getElem? known)

/-- Binding a name in matching scopes keeps stores matching. -/
theorem define {value otherValue : Value} (matched : store.Matches numbering other)
    (known : numbering.scopes[id]? = some otherId) (values : value.Matches numbering otherValue)
    (name : String) :
    (store.define id name value).Matches numbering (other.define otherId name otherValue) ∧
      Advances numbering numbering other (other.define otherId name otherValue) := by
  have size := size_define store id name value
  have otherSize := size_define other otherId name otherValue
  constructor
  · refine ⟨matched.increasing, by rw [size, matched.size], matched.nextStamp,
      fun id member => otherSize ▸ matched.scopesBelow id member, matched.stampsBelow,
      fun next otherNext found => ?_, fun next scope found => ?_⟩
    · have scopes := matched.scopes next otherNext found
      have same := matched.increasing.scope_eq_iff known found
      unfold Store.define
      dsimp only
      rw [Array.getElem?_modify, Array.getElem?_modify]
      generalize store.scopes[next]? = here, other.scopes[otherNext]? = there at scopes
      by_cases equal : id = next
      · rw [if_pos equal, if_pos (same.mp equal)]
        cases scopes with
        | none => exact .none
        | some scopes => exact .some (scopes.define values name)
      · rw [if_neg equal, if_neg fun otherEqual => equal (same.mpr otherEqual)]
        exact scopes
    · rw [Store.define, Array.getElem?_modify] at found
      split at found
      · rcases Option.map_eq_some_iff.mp found with ⟨old, isOld, rfl⟩
        exact matched.outer next old isOld
      · exact matched.outer next scope found
  · refine ⟨.refl numbering, fun _ => .inl, Nat.le_of_eq otherSize.symm, Nat.le_refl _,
      fun next old elsewhere => ?_⟩
    have apart : otherId ≠ next := fun equal => elsewhere (equal ▸ List.mem_of_getElem? known)
    rw [Store.define, Array.getElem?_modify, if_neg apart]

/-- New scopes inside of matching scopes, or of none, match when a number is added for them. -/
theorem openScope {outer otherOuter : Option Nat} (matched : store.Matches numbering other)
    (known : Option.Rel (fun id otherId => numbering.scopes[id]? = some otherId) outer otherOuter) :
    let later : Renumbering := ⟨numbering.scopes ++ [other.scopes.size], numbering.stamps⟩
    (store.openScope outer).2.Matches later (other.openScope otherOuter).2 ∧
      Advances numbering later other (other.openScope otherOuter).2 ∧
        later.scopes[(store.openScope outer).1]? = some (other.openScope otherOuter).1 := by
  intro later
  have extended : later.Extends numbering := ⟨List.prefix_append _ _, List.prefix_rfl⟩
  have newest : later.scopes[store.scopes.size]? = some other.scopes.size := by
    rw [← matched.size]
    exact List.getElem?_concat_length
  have increasing := Renumbering.pairwise_concat matched.increasing.scopes matched.scopesBelow
  refine ⟨⟨⟨increasing, matched.increasing.stamps⟩, ?_, matched.nextStamp, ?_, matched.stampsBelow,
    ?_, ?_⟩, ⟨extended, ?_, ?_, Nat.le_refl _, ?_⟩, newest⟩
  · rw [size_openScope, List.length_append, matched.size]
    rfl
  · rw [size_openScope]
    exact Renumbering.lt_succ_of_mem_concat matched.scopesBelow
  · intro id otherId found
    rw [Store.openScope, Store.openScope, Array.getElem?_push, Array.getElem?_push]
    by_cases isNew : id = store.scopes.size
    · subst isNew
      cases found.symm.trans newest
      rw [if_pos rfl, if_pos rfl]
      exact .some
        ⟨.nil, known.imp fun _ _ => extended.scope⟩
    · have inside := (List.getElem?_eq_some_iff.mp found).1
      rw [List.length_append, matched.size] at inside
      have old : id < numbering.scopes.length := by
        rw [matched.size]
        exact Nat.lt_of_le_of_ne (Nat.le_of_lt_succ inside) isNew
      rw [List.getElem?_append_left old] at found
      rw [if_neg isNew, if_neg (Nat.ne_of_lt (matched.scope_lt found))]
      exact (matched.scopes id otherId found).imp fun _ _ => .mono extended
  · intro id scope found
    rw [Store.openScope, Array.getElem?_push] at found
    split at found
    · rename_i isNew
      cases found
      rintro outer ⟨⟩
      cases known with
      | some known =>
          rw [isNew, ← matched.size]
          exact (List.getElem?_eq_some_iff.mp known).1
    · exact matched.outer id scope found
  · intro id member
    rcases List.mem_append.mp member with member | last
    · exact .inl member
    · exact .inr (Nat.le_of_eq (List.mem_singleton.mp last).symm)
  · rw [size_openScope]
    exact Nat.le_succ _
  · intro id old _
    rw [Store.openScope, Array.getElem?_push, if_neg (Nat.ne_of_lt old)]

/-- A stamp that is new in both stores matches when a number is added for it. -/
theorem freshStamp (matched : store.Matches numbering other) :
    let later : Renumbering := ⟨numbering.scopes, numbering.stamps ++ [other.nextStamp]⟩
    let after : Store := ⟨other.scopes, other.nextStamp + 1⟩
    Store.Matches later ⟨store.scopes, store.nextStamp + 1⟩ after ∧
      Advances numbering later other after ∧
        later.stamps[store.nextStamp]? = some other.nextStamp := by
  intro later after
  have extended : later.Extends numbering := ⟨List.prefix_rfl, List.prefix_append _ _⟩
  have increasing := Renumbering.pairwise_concat matched.increasing.stamps matched.stampsBelow
  have below := Renumbering.lt_succ_of_mem_concat matched.stampsBelow
  refine ⟨⟨⟨matched.increasing.scopes, increasing⟩, matched.size, ?_, matched.scopesBelow, below, ?_,
    matched.outer⟩, ⟨extended, fun _ => .inl, Nat.le_refl _, Nat.le_succ _, fun _ _ _ => rfl⟩, ?_⟩
  · rw [List.length_append, matched.nextStamp]
    rfl
  · intro id otherId found
    exact (matched.scopes id otherId found).imp fun _ _ => .mono extended
  · rw [← matched.nextStamp]
    exact List.getElem?_concat_length

/-- What a run does that reaches none of the scopes that match leaves them matching. -/
theorem aside {beside later : Renumbering} {after : Store} (matched : store.Matches numbering other)
    (advances : Advances beside later other after)
    (apart : numbering.scopes.Disjoint beside.scopes) :
    store.Matches numbering after := by
  refine ⟨matched.increasing, matched.size, matched.nextStamp, fun id member => ?_,
    fun stamp member => ?_, fun id otherId found => ?_, matched.outer⟩
  · exact Nat.lt_of_lt_of_le (matched.scopesBelow id member) advances.grown
  · exact Nat.lt_of_lt_of_le (matched.stampsBelow stamp member) advances.stamped
  · have elsewhere : otherId ∉ beside.scopes := fun member =>
      apart (List.mem_of_getElem? found) member
    rw [advances.untouched otherId (matched.scope_lt found) elsewhere]
    exact matched.scopes id otherId found

/-- Nor do new scopes come to be shared. -/
theorem disjoint {beside later : Renumbering} {after : Store} (matched : store.Matches numbering other)
    (advances : Advances beside later other after)
    (apart : numbering.scopes.Disjoint beside.scopes) :
    numbering.scopes.Disjoint later.scopes := by
  intro scope member reached
  rcases advances.fresh scope reached with old | new
  · exact apart member old
  · exact absurd (matched.scopesBelow scope member) (Nat.not_lt_of_le new)

end Store.Matches

end Jet
