import Jet.Proofs.Evaluation.Declaration

/-!
# The forest of scopes

Scopes that lie inside of one another make up trees: the chain of a scope leads from it outward to a
root.  A name is seen in the nearest scope of the chain that binds it.

A forest grows by roots and by scopes inside of others, and changes by definitions and assignments.
`IsForest` goes along with all of these and records what is written where; an assignment writes in
the scope in which its name is seen, and nowhere if there is none.  In every forest a name has the
value that was written last in the scope in which it is seen.

A lookup goes outward from scope to scope, and so does an assignment, each in a loop of its own.  Both
end where the name is resolved.

The chains stay as they are when something is written, and one scope binds one more name at most.  So
a new value is seen from exactly the scopes from which the place that it was written to is seen.
-/

namespace Jet

namespace Store

/-! ## Chains -/

/-- The scopes from a scope outward, the nearest first, up to a root. -/
inductive IsChain (store : Store) : Nat → List Nat → Prop where
  | root {id : Nat} {scope : Scope}
      (found : store.scopes[id]? = some scope)
      (outermost : scope.outer = none) :
      IsChain store id [id]
  | inside {id outer : Nat} {scope : Scope} {chain : List Nat}
      (found : store.scopes[id]? = some scope)
      (around : scope.outer = some outer)
      (later : IsChain store outer chain) :
      IsChain store id (id :: chain)

/-- Whether each scope lies inside of an earlier one, if of any. -/
def IsNested (store : Store) : Prop :=
  ∀ (id : Nat) (scope : Scope), store.scopes[id]? = some scope → ∀ outer ∈ scope.outer, outer < id

variable {store after : Store} {id other place : Nat} {name another : String} {value : Value}
  {chain : List Nat}

/-- Only a scope that is there has a chain. -/
theorem IsChain.lt_size (isChain : store.IsChain id chain) : id < store.scopes.size := by
  cases isChain with
  | root found | inside found => exact (Array.getElem?_eq_some_iff.mp found).1

theorem IsChain.unique {others : List Nat}
    (isChain : store.IsChain id chain) (isOther : store.IsChain id others) :
    others = chain := by
  induction isChain generalizing others with
  | root found outermost =>
      cases isOther with
      | root => rfl
      | inside foundOther around =>
          cases found.symm.trans foundOther
          cases outermost.symm.trans around
  | inside found around later induction =>
      cases isOther with
      | root foundOther outermost =>
          cases found.symm.trans foundOther
          cases outermost.symm.trans around
      | inside foundOther aroundOther laterOther =>
          cases found.symm.trans foundOther
          cases around.symm.trans aroundOther
          rw [induction laterOther]

/-- As each scope lies inside of an earlier one, every chain comes to a root. -/
theorem IsNested.exists_chain
    (nested : store.IsNested) (known : id < store.scopes.size) :
    ∃ chain, store.IsChain id chain := by
  induction id using Nat.strongRecOn with
  | ind id induction =>
      have found := Array.getElem?_eq_getElem known
      cases around : store.scopes[id].outer with
      | none => exact ⟨[id], .root found around⟩
      | some outer =>
          have earlier := nested id _ found outer around
          rcases induction outer earlier (Nat.lt_trans earlier known) with ⟨chain, isChain⟩
          exact ⟨id :: chain, .inside found around isChain⟩

/-- No scope of a chain is later than its first, and each is earlier than all in front of it. -/
theorem IsChain.decreases
    (isChain : store.IsChain id chain) (nested : store.IsNested) :
    (∀ place ∈ chain, place ≤ id) ∧ chain.Pairwise (· > ·) := by
  induction isChain with
  | root => exact ⟨by simp, List.pairwise_singleton _ _⟩
  | @inside id outer scope chain found around later induction =>
      have earlier := nested id scope found outer around
      have below : ∀ place ∈ chain, place < id := fun place member =>
        Nat.lt_of_le_of_lt (induction.1 place member) earlier
      refine ⟨List.forall_mem_cons.mpr ⟨Nat.le_refl id, fun place member => ?_⟩,
        List.pairwise_cons.mpr ⟨below, induction.2⟩⟩
      exact Nat.le_of_lt (below place member)

theorem IsChain.length_le
    (isChain : store.IsChain id chain) (nested : store.IsNested) :
    chain.length ≤ id + 1 := by
  induction isChain with
  | root => exact Nat.le_add_left 1 _
  | @inside id outer scope chain found around later induction =>
      have earlier := nested id scope found outer around
      rw [List.length_cons]
      omega

/-! ## Where a name is seen -/

/-- Whether one scope of a store binds a name. -/
def Binds (store : Store) (place : Nat) (name : String) : Prop :=
  name ∈ store.names place

instance (store : Store) (place : Nat) (name : String) : Decidable (store.Binds place name) :=
  inferInstanceAs (Decidable (name ∈ store.names place))

/-- Whether a scope lies on the chain of another one and no nearer scope binds a name. -/
def Sees (store : Store) (id : Nat) (name : String) (place : Nat) : Prop :=
  ∃ nearer farther, store.IsChain id (nearer ++ place :: farther) ∧
    ∀ other ∈ nearer, ¬ store.Binds other name

/-- Whether a scope is the nearest one on the chain of another that binds a name. -/
structure IsNearest (store : Store) (id : Nat) (name : String) (place : Nat) : Prop where
  sees : store.Sees id name place
  binds : store.Binds place name

theorem binds_iff_held :
    store.Binds place name ↔ ∃ value, store.held place name = some value := by
  rw [Binds, names, bindings, held]
  cases store.scopes[place]? with
  | none => simp
  | some scope =>
      rw [← Option.isSome_iff_exists, Option.bind_some, Scope.get?, List.lookup_isSome_iff]
      simp

/-- A name is resolved by going through the chain. -/
theorem IsChain.resolveWithin
    (isChain : store.IsChain id chain) (name : String) {count : Nat} (enough : chain.length ≤ count) :
    store.resolveWithin name count id = chain.find? fun place => store.Binds place name := by
  have here {id : Nat} {scope : Scope} (found : store.scopes[id]? = some scope) :
      decide (store.Binds id name) = scope.binds name := by
    rw [Bool.eq_iff_iff, decide_eq_true_iff, Scope.binds_iff_mem_names, Binds,
      names_of_scope found]
  induction isChain generalizing count with
  | @root id scope found outermost =>
      rcases Nat.exists_eq_add_one_of_ne_zero (Nat.ne_zero_of_lt enough) with ⟨count, rfl⟩
      rw [Store.resolveWithin, found, List.find?_cons, here found]
      dsimp only
      rw [outermost]
      cases scope.binds name <;> rfl
  | @inside id outer scope chain found around later induction =>
      rcases Nat.exists_eq_add_one_of_ne_zero (Nat.ne_zero_of_lt enough) with ⟨count, rfl⟩
      rw [Store.resolveWithin, found, List.find?_cons, here found]
      dsimp only
      rw [around, ← induction (Nat.le_of_succ_le_succ enough)]
      cases scope.binds name <;> rfl

/-- A name is resolved in the nearest scope that binds it. -/
theorem IsNested.resolve_eq_some_iff (nested : store.IsNested) :
    store.resolve id name = some place ↔ store.IsNearest id name place := by
  by_cases known : id < store.scopes.size
  · rcases nested.exists_chain known with ⟨chain, isChain⟩
    rw [resolve, isChain.resolveWithin name (isChain.length_le nested),
      List.find?_eq_some_iff_append]
    constructor
    · rintro ⟨binds, nearer, farther, rfl, free⟩
      exact ⟨⟨nearer, farther, isChain, by simpa using free⟩, by simpa using binds⟩
    · rintro ⟨⟨nearer, farther, isOther, free⟩, binds⟩
      exact ⟨by simpa using binds, nearer, farther, (isChain.unique isOther).symm,
        by simpa using free⟩
  · constructor
    · intro resolved
      rw [resolve, resolveWithin, Array.getElem?_eq_none (Nat.le_of_not_lt known)] at resolved
      cases resolved
    · rintro ⟨⟨nearer, farther, isChain, free⟩, binds⟩
      exact absurd isChain.lt_size known

/-- Where a name is not seen, it is not resolved. -/
theorem IsNested.resolve_eq_none
    (nested : store.IsNested) (unbound : ∀ place, ¬ store.IsNearest id name place) :
    store.resolve id name = none :=
  Option.eq_none_iff_forall_ne_some.mpr fun place resolved =>
    unbound place (nested.resolve_eq_some_iff.mp resolved)

/-- A name has the value that it is bound to in the scope that it is resolved in. -/
theorem get?_eq_bind (store : Store) (id : Nat) (name : String) :
    store.get? id name = (store.resolve id name).bind fun place => store.held place name := by
  rw [get?]
  cases store.resolve id name with
  | none => rfl
  | some place =>
      rw [Option.bind_some, held]
      dsimp only
      cases store.scopes[place]? <;> rfl

/-- The value of a name is the first one that the scopes of the chain hold. -/
theorem IsChain.get?_eq_findSome?
    (isChain : store.IsChain id chain) (nested : store.IsNested) (name : String) :
    store.get? id name = chain.findSome? fun place => store.held place name := by
  have along (chain : List Nat) :
      ((chain.find? fun place => store.Binds place name).bind fun place => store.held place name) =
        chain.findSome? fun place => store.held place name := by
    induction chain with
    | nil => rfl
    | cons place rest induction =>
        rw [List.find?_cons, List.findSome?_cons]
        cases held : store.held place name with
        | none =>
            have free : ¬ store.Binds place name := fun binds => by
              rcases binds_iff_held.mp binds with ⟨value, bound⟩
              cases held.symm.trans bound
            rw [decide_eq_false free]
            exact induction
        | some value =>
            rw [decide_eq_true (binds_iff_held.mpr ⟨value, held⟩)]
            exact held
  rw [get?_eq_bind, resolve, isChain.resolveWithin name (isChain.length_le nested), along]

theorem IsNested.get?_of_isNearest
    (nested : store.IsNested) (nearest : store.IsNearest id name place) :
    store.get? id name = store.held place name := by
  rw [get?_eq_bind, nested.resolve_eq_some_iff.mpr nearest, Option.bind_some]

theorem IsNested.get?_of_unbound
    (nested : store.IsNested) (unbound : ∀ place, ¬ store.IsNearest id name place) :
    store.get? id name = none := by
  rw [get?_eq_bind, nested.resolve_eq_none unbound, Option.bind_none]

/-- Where a name is seen and bound alike, it has the same value. -/
theorem IsNested.get?_congr
    (nested : store.IsNested) (nestedAfter : after.IsNested)
    (seen : ∀ place, after.IsNearest id name place ↔ store.IsNearest id name place)
    (same : ∀ place, store.IsNearest id name place → after.held place name = store.held place name) :
    after.get? id name = store.get? id name := by
  by_cases bound : ∃ place, store.IsNearest id name place
  · rcases bound with ⟨place, nearest⟩
    rw [nestedAfter.get?_of_isNearest ((seen place).mpr nearest), same place nearest,
      nested.get?_of_isNearest nearest]
  · rw [not_exists] at bound
    rw [nested.get?_of_unbound bound,
      nestedAfter.get?_of_unbound fun place nearest => bound place ((seen place).mp nearest)]

/-! ## Going outward -/

/-- The value of a name, looked for from scope to scope outward, in no more than a number of scopes. -/
def lookOutward (store : Store) (name : String) : Nat → Nat → Option Value
  | 0, _ => none
  | count + 1, id =>
      match store.scopes[id]? with
      | none => none
      | some scope =>
          if scope.binds name then scope.get? name
          else
            match scope.outer with
            | none => none
            | some outer => store.lookOutward name count outer

/--
Gives a new value to a name in the first scope outward that binds it, of no more than a number of
scopes, and tells whether there is one.
-/
def assignOutward (store : Store) (name : String) (value : Value) : Nat → Nat → Bool × Store
  | 0, _ => (false, store)
  | count + 1, id =>
      match store.scopes[id]? with
      | none => (false, store)
      | some scope =>
          if scope.binds name then (true, store.define id name value)
          else
            match scope.outer with
            | none => (false, store)
            | some outer => store.assignOutward name value count outer

theorem lookOutward_eq_bind (count id : Nat) :
    store.lookOutward name count id =
      (store.resolveWithin name count id).bind fun place => store.held place name := by
  induction count generalizing id with
  | zero => rfl
  | succ count induction =>
      rw [lookOutward, resolveWithin]
      cases found : store.scopes[id]? with
      | none => rfl
      | some scope =>
          dsimp only
          split
          · rw [Option.bind_some, held, found, Option.bind_some]
          · cases scope.outer with
            | none => rfl
            | some outer => exact induction outer

theorem assignOutward_eq (value : Value) (count id : Nat) :
    store.assignOutward name value count id =
      match store.resolveWithin name count id with
      | none => (false, store)
      | some place => (true, store.define place name value) := by
  induction count generalizing id with
  | zero => rfl
  | succ count induction =>
      rw [assignOutward, resolveWithin]
      cases store.scopes[id]? with
      | none => rfl
      | some scope =>
          dsimp only
          split
          · rfl
          · cases scope.outer with
            | none => rfl
            | some outer => exact induction outer

/--
Whether lookups and assignments are done by going outward from scope to scope, each by itself, in as
many scopes as there are on a chain or more.
-/
structure GoesOutward (store : Store) (id : Nat) (chain : List Nat) : Prop where
  get? : ∀ count ≥ chain.length, ∀ name, store.get? id name = store.lookOutward name count id
  assign : ∀ count ≥ chain.length, ∀ name value, Computation.assign id name value store =
    (.ok (store.assignOutward name value count id).1, (store.assignOutward name value count id).2)

/-- Going outward ends with the chain, however many scopes more are allowed. -/
theorem IsChain.goesOutward (isChain : store.IsChain id chain) (nested : store.IsNested) :
    store.GoesOutward id chain := by
  have resolved (count : Nat) (enough : count ≥ chain.length) (name : String) :
      store.resolveWithin name count id = store.resolve id name := by
    rw [resolve, isChain.resolveWithin name enough,
      isChain.resolveWithin name (isChain.length_le nested)]
  constructor
  · intro count enough name
    rw [lookOutward_eq_bind, resolved count enough, get?_eq_bind]
  · intro count enough name value
    rw [assignOutward_eq, resolved count enough, Computation.assign, assign?]
    cases store.resolve id name <;> rfl

/-! ## What is written -/

/-- Whether a store is another one with a value written to a name in one scope, and nothing else. -/
structure IsWritten (after store : Store) (place : Nat) (name : String) (value : Value) : Prop where
  chains : ∀ id chain, after.IsChain id chain ↔ store.IsChain id chain
  written : after.held place name = some value
  untouched : ∀ other another, ¬ (other = place ∧ another = name) →
    after.held other another = store.held other another

/-- Whether a name has a new value as seen from some scopes, and nothing else is seen to change. -/
structure ShowsFrom (after store : Store) (seen : Nat → Prop) (name : String) (value : Value) :
    Prop where
  changed : ∀ id, seen id → after.get? id name = some value
  kept : ∀ id another, ¬ (another = name ∧ seen id) → after.get? id another = store.get? id another

/-- What goes on from a store has the chains of the store. -/
theorem IsChain.extends
    (isChain : store.IsChain id chain) (extended : after.Extends store) :
    after.IsChain id chain := by
  have goesOn {id : Nat} {scope : Scope} (found : store.scopes[id]? = some scope) :
      ∃ later, after.scopes[id]? = some later ∧ later.outer = scope.outer := by
    have same := extended.outer id (Array.getElem?_eq_some_iff.mp found).1
    rw [found, Option.map_some, Option.map_eq_some_iff] at same
    exact same
  induction isChain with
  | root found outermost =>
      rcases goesOn found with ⟨later, foundLater, same⟩
      exact .root foundLater (same.trans outermost)
  | inside found around _ induction =>
      rcases goesOn found with ⟨later, foundLater, same⟩
      exact .inside foundLater (same.trans around) induction

theorem isWritten_define (known : place < store.scopes.size) (name : String) (value : Value) :
    (store.define place name value).IsWritten store place name value := by
  have forward := extends_define store place name value
  have size := size_define store place name value
  have backward : store.Extends (store.define place name value) :=
    ⟨Nat.le_of_eq size, fun id old => (forward.outer id (size ▸ old)).symm⟩
  refine ⟨fun id chain => ⟨fun isChain => isChain.extends backward,
    fun isChain => isChain.extends forward⟩, ?_, fun other another apart => ?_⟩
  · rw [held, getElem?_define_self (Array.getElem?_eq_getElem known) name value]
    exact Scope.get?_define_self value
  · by_cases same : other = place
    · exact held_define value fun equal => apart ⟨same, equal.symm⟩
    · exact held_congr (getElem?_define_of_ne (Ne.symm same) name value)

theorem IsNested.define
    (nested : store.IsNested) (place : Nat) (name : String) (value : Value) :
    (store.define place name value).IsNested := by
  intro id scope found outer around
  rcases define_cases found with ⟨old, foundOld, rfl⟩ | foundOld
  · exact nested id old foundOld outer around
  · exact nested id scope foundOld outer around

namespace IsWritten

variable (written : after.IsWritten store place name value)
include written

/-- One scope binds one more name at most. -/
theorem binds_iff :
    after.Binds other another ↔ store.Binds other another ∨ other = place ∧ another = name := by
  by_cases here : other = place ∧ another = name
  · rcases here with ⟨rfl, rfl⟩
    exact ⟨fun _ => .inr ⟨rfl, rfl⟩, fun _ => binds_iff_held.mpr ⟨value, written.written⟩⟩
  · rw [or_iff_left here, binds_iff_held, binds_iff_held,
      written.untouched other another here]

/-- From where the place is seen, the name is seen there afterwards. -/
theorem isNearest_of_sees (nested : store.IsNested) (sees : store.Sees id name place) :
    after.IsNearest id name place := by
  rcases sees with ⟨nearer, farther, isChain, free⟩
  refine ⟨⟨nearer, farther, (written.chains _ _).mpr isChain, fun other member binds => ?_⟩,
    written.binds_iff.mpr (.inr ⟨rfl, rfl⟩)⟩
  rcases written.binds_iff.mp binds with old | ⟨rfl, _⟩
  · exact free other member old
  · -- The place itself is not among the scopes that are nearer than it.
    have decreases := (isChain.decreases nested).2
    exact Nat.lt_irrefl _
      ((List.pairwise_append.mp decreases).2.2 other member other List.mem_cons_self)

/-- Everything else is seen where it was seen. -/
theorem isNearest_iff (apart : ¬ (another = name ∧ store.Sees id name place)) :
    after.IsNearest id another other ↔ store.IsNearest id another other := by
  constructor
  · rintro ⟨⟨nearer, farther, isChain, free⟩, binds⟩
    have sees : store.Sees id another other := ⟨nearer, farther, (written.chains _ _).mp isChain,
      fun each member old => free each member (written.binds_iff.mpr (.inl old))⟩
    rcases written.binds_iff.mp binds with old | ⟨rfl, rfl⟩
    · exact ⟨sees, old⟩
    · exact absurd ⟨rfl, sees⟩ apart
  · rintro ⟨⟨nearer, farther, isChain, free⟩, binds⟩
    refine ⟨⟨nearer, farther, (written.chains _ _).mpr isChain, fun each member new => ?_⟩,
      written.binds_iff.mpr (.inl binds)⟩
    rcases written.binds_iff.mp new with old | ⟨rfl, rfl⟩
    · exact free each member old
    · -- Where the place stands in front, it is seen, and that was ruled out.
      rcases List.append_of_mem member with ⟨front, back, rfl⟩
      rw [List.append_assoc] at isChain
      exact apart ⟨rfl, front, back ++ other :: farther, isChain, fun inFront among =>
        free inFront (List.mem_append_left _ among)⟩

/-- A new value is seen from exactly the scopes from which its place is seen. -/
theorem showsFrom (nested : store.IsNested) (nestedAfter : after.IsNested) :
    after.ShowsFrom store (store.Sees · name place) name value := by
  constructor
  · intro id sees
    rw [nestedAfter.get?_of_isNearest (written.isNearest_of_sees nested sees), written.written]
  · intro id another apart
    refine nested.get?_congr nestedAfter (fun _ => written.isNearest_iff apart) ?_
    intro other nearest
    refine written.untouched other another ?_
    rintro ⟨rfl, rfl⟩
    exact apart ⟨rfl, nearest.sees⟩

end IsWritten

/-! ## Assignments -/

/-- An assignment writes where its name is seen. -/
theorem IsNested.assign_of_isNearest
    (nested : store.IsNested) (nearest : store.IsNearest id name place) (value : Value) :
    Computation.assign id name value store = (.ok true, store.define place name value) :=
  Computation.assign_of_resolve (nested.resolve_eq_some_iff.mpr nearest) value

/-- An assignment to a name that is not seen does nothing. -/
theorem IsNested.assign_of_unbound
    (nested : store.IsNested) (unbound : ∀ place, ¬ store.IsNearest id name place) (value : Value) :
    Computation.assign id name value store = (.ok false, store) :=
  Computation.assign_of_resolve_eq_none (nested.resolve_eq_none unbound) value

/-- A scope in which a name is seen is there. -/
theorem IsNearest.lt_size (nearest : store.IsNearest id name place) :
    place < store.scopes.size := by
  rcases binds_iff_held.mp nearest.binds with ⟨value, bound⟩
  rw [held, Option.bind_eq_some_iff] at bound
  rcases bound with ⟨scope, found, _⟩
  exact (Array.getElem?_eq_some_iff.mp found).1

end Store

/-! ## Forests -/

/-- A value that was written to a name in a scope. -/
structure Write where
  place : Nat
  name : String
  value : Value

/-- The value that was written last to a name in a scope, given the latest write first. -/
def Write.last? (writes : List Write) (place : Nat) (name : String) : Option Value :=
  (writes.find? fun write => write.place = place ∧ write.name = name).map Write.value

/--
Whether a store is reached by opening roots and scopes inside of others, by definitions and by
assignments, with these writes on the way, the latest first.
-/
inductive IsForest : Store → List Write → Prop where
  | empty {store : Store}
      (noScopes : store.scopes = #[]) :
      IsForest store []
  | root {store : Store} {writes : List Write}
      (forest : IsForest store writes) :
      IsForest (store.openScope none).2 writes
  | enclosed {store : Store} {writes : List Write} {id : Nat}
      (forest : IsForest store writes)
      (known : id < store.scopes.size) :
      IsForest (store.openScope (some id)).2 writes
  | defined {store : Store} {writes : List Write} {id : Nat}
      (forest : IsForest store writes)
      (known : id < store.scopes.size)
      (name : String) (value : Value) :
      IsForest (store.define id name value) (⟨id, name, value⟩ :: writes)
  | assigned {store : Store} {writes : List Write} {id place : Nat} {name : String}
      (forest : IsForest store writes)
      (nearest : store.IsNearest id name place)
      (value : Value) :
      IsForest (Computation.assign id name value store).2 (⟨place, name, value⟩ :: writes)
  | refused {store : Store} {writes : List Write} {id : Nat} {name : String}
      (forest : IsForest store writes)
      (unbound : ∀ place, ¬ store.IsNearest id name place)
      (value : Value) :
      IsForest (Computation.assign id name value store).2 writes

/-- Whether scopes lie inside of earlier ones and hold what was written to them last. -/
structure Store.Records (store : Store) (writes : List Write) : Prop where
  nested : store.IsNested
  held : ∀ place name, store.held place name = Write.last? writes place name

namespace Store.Records

variable {store after : Store} {writes : List Write} {place : Nat} {name : String} {value : Value}

/-- A new scope holds nothing. -/
theorem openScope {outer : Option Nat}
    (records : store.Records writes) (known : ∀ id ∈ outer, id < store.scopes.size) :
    (store.openScope outer).2.Records writes := by
  refine ⟨fun id scope found other around => ?_, fun place name => ?_⟩
  · rcases openScope_cases found with ⟨rfl, rfl⟩ | old
    · exact known other around
    · exact records.nested id scope old other around
  · rw [held_openScope, records.held place name]

theorem define
    (records : store.Records writes) (known : place < store.scopes.size) (name : String)
    (value : Value) :
    (store.define place name value).Records (⟨place, name, value⟩ :: writes) := by
  have written := isWritten_define known name value
  refine ⟨records.nested.define place name value, fun other another => ?_⟩
  rw [Write.last?, List.find?_cons]
  by_cases here : place = other ∧ name = another
  · rw [decide_eq_true here]
    rcases here with ⟨rfl, rfl⟩
    exact written.written
  · rw [decide_eq_false here, written.untouched other another, records.held, Write.last?]
    exact fun same => here ⟨same.1.symm, same.2.symm⟩

end Store.Records

/-- Every forest holds what was written to it last. -/
theorem IsForest.records {store : Store} {writes : List Write} (forest : IsForest store writes) :
    store.Records writes := by
  induction forest with
  | @empty store noScopes =>
      have missing (id : Nat) : store.scopes[id]? = none := by rw [noScopes]; rfl
      refine ⟨fun id scope found => ?_, fun place name => ?_⟩
      · cases (missing id).symm.trans found
      · rw [Store.held, missing]
        rfl
  | root forest induction =>
      exact induction.openScope fun id member => absurd member (Option.not_mem_none id)
  | enclosed forest known induction =>
      exact induction.openScope fun id member => Option.mem_some_iff.mp member ▸ known
  | defined forest known name value induction => exact induction.define known name value
  | assigned forest nearest value induction =>
      rw [induction.nested.assign_of_isNearest nearest value]
      exact induction.define nearest.lt_size _ value
  | refused forest unbound value induction =>
      rw [induction.nested.assign_of_unbound unbound value]
      exact induction

/-! ## Lookups, assignments and definitions -/

namespace Store

/-- Whether a name has the value that was written last where it is seen, and no value elsewhere. -/
structure FindsLast (store : Store) (writes : List Write) (id : Nat) (name : String) : Prop where
  bound : ∀ place, store.IsNearest id name place →
    ∃ value, Write.last? writes place name = some value ∧ store.get? id name = some value
  unbound : (∀ place, ¬ store.IsNearest id name place) → store.get? id name = none

/-- Whether a new scope inside of another one sees what that one sees, and all others what they saw. -/
structure OpensInside (store : Store) (id : Nat) : Prop where
  inner : ∀ name, (store.openScope (some id)).2.get? store.scopes.size name = store.get? id name
  others : ∀ other < store.scopes.size, ∀ name,
    (store.openScope (some id)).2.get? other name = store.get? other name

/--
Whether an assignment writes where its name is seen, so that the new value is seen from wherever the
name is seen there, and does nothing if the name is not seen.
-/
structure AssignsNearest (store : Store) (id : Nat) (name : String) (value : Value) : Prop where
  bound : ∀ place, store.IsNearest id name place →
    ∃ after, Computation.assign id name value store = (.ok true, after) ∧
      after.IsWritten store place name value ∧
      after.ShowsFrom store (store.IsNearest · name place) name value
  unbound : (∀ place, ¬ store.IsNearest id name place) →
    Computation.assign id name value store = (.ok false, store)

/--
Whether a definition writes in its own scope, so that the new value is seen from wherever no nearer
scope binds the name.
-/
structure DefinesHere (store : Store) (id : Nat) (name : String) (value : Value) : Prop where
  written : (store.define id name value).IsWritten store id name value
  shown : (store.define id name value).ShowsFrom store (store.Sees · name id) name value

namespace Records

variable {store : Store} {writes : List Write} {id : Nat}

theorem findsLast (records : store.Records writes) (id : Nat) (name : String) :
    store.FindsLast writes id name := by
  refine ⟨fun place nearest => ?_, records.nested.get?_of_unbound⟩
  rcases binds_iff_held.mp nearest.binds with ⟨value, held⟩
  refine ⟨value, ?_, ?_⟩
  · rw [← records.held place name, held]
  · rw [records.nested.get?_of_isNearest nearest, held]

theorem opensInside (records : store.Records writes) (known : id < store.scopes.size) :
    store.OpensInside id := by
  have opened : (store.openScope (some id)).2.IsNested :=
    (records.openScope fun id member => Option.mem_some_iff.mp member ▸ known).nested
  have extended := extends_openScope store (some id)
  constructor
  · intro name
    rcases records.nested.exists_chain known with ⟨chain, isChain⟩
    have newest : (store.openScope (some id)).2.scopes[store.scopes.size]? = some ⟨[], some id⟩ := by
      rw [Store.openScope, Array.getElem?_push_size]
    have inside : (store.openScope (some id)).2.IsChain store.scopes.size _ :=
      .inside newest rfl (isChain.extends extended)
    have empty : store.held store.scopes.size name = none := by
      rw [Store.held, Array.getElem?_eq_none (Nat.le_refl _)]
      rfl
    rw [inside.get?_eq_findSome? opened, isChain.get?_eq_findSome? records.nested]
    simp only [held_openScope, List.findSome?_cons, empty]
  · intro other old name
    rcases records.nested.exists_chain old with ⟨chain, isChain⟩
    rw [(isChain.extends extended).get?_eq_findSome? opened,
      isChain.get?_eq_findSome? records.nested]
    simp only [held_openScope]

theorem definesHere (records : store.Records writes) (known : id < store.scopes.size)
    (name : String) (value : Value) :
    store.DefinesHere id name value := by
  have written := isWritten_define known name value
  exact ⟨written, written.showsFrom records.nested (records.nested.define id name value)⟩

/-- Where a name is seen it is bound, so that an assignment is a definition there. -/
theorem assignsNearest (records : store.Records writes) (id : Nat) (name : String) (value : Value) :
    store.AssignsNearest id name value := by
  refine ⟨fun place nearest => ⟨store.define place name value,
    records.nested.assign_of_isNearest nearest value, ?_⟩,
    fun unbound => records.nested.assign_of_unbound unbound value⟩
  rcases records.definesHere nearest.lt_size name value with ⟨written, shown⟩
  refine ⟨written, fun other seen => shown.changed other seen.sees, fun other another apart => ?_⟩
  refine shown.kept other another fun ⟨same, sees⟩ => apart ⟨same, sees, ?_⟩
  exact nearest.binds

end Records

end Store

/--
In every forest of scopes each scope has exactly one chain outward to a root, along which lookups
and assignments go.  A name has the value that was written last in the nearest scope of the chain
that binds it, or none if there is no such scope.  An assignment succeeds exactly if there is one:
then it writes in this scope only, and the new value is seen from exactly the scopes that have the
same nearest one for the name; otherwise nothing is changed.  A definition writes in its own scope
only, and the new value is seen from exactly the scopes on whose chain this scope lies with none
that is nearer and binds the name.  A scope that is opened inside of another sees what that one
sees.
-/
theorem forest_resolution {store : Store} {writes : List Write} (forest : IsForest store writes) :
    (∀ id < store.scopes.size, ∃ chain, store.IsChain id chain ∧
      (∀ others, store.IsChain id others → others = chain) ∧
        store.GoesOutward id chain ∧ store.OpensInside id) ∧
    ∀ (id : Nat) (name : String), store.FindsLast writes id name ∧
      ∀ value : Value, store.AssignsNearest id name value ∧
        (id < store.scopes.size → store.DefinesHere id name value) := by
  have records := forest.records
  refine ⟨fun id known => ?_, fun id name => ⟨records.findsLast id name, fun value =>
    ⟨records.assignsNearest id name value, fun known => records.definesHere known name value⟩⟩⟩
  rcases records.nested.exists_chain known with ⟨chain, isChain⟩
  exact ⟨chain, isChain, fun _ => isChain.unique, isChain.goesOutward records.nested,
    records.opensInside known⟩

/-- A root with two scopes inside of it, the first of which binds a name anew around a third one. -/
def Store.siblings : Store :=
  ⟨#[⟨[("x", .integer 1)], none⟩, ⟨[("x", .integer 5)], some 0⟩, ⟨[], some 0⟩, ⟨[], some 1⟩], 0⟩

/-- An assignment from the innermost scope writes in the first one, and not where the other sees. -/
theorem forest_resolution_siblings :
    IsForest Store.siblings [⟨1, "x", .integer 5⟩, ⟨1, "x", .integer 3⟩, ⟨0, "x", .integer 1⟩] ∧
      Store.siblings.IsNearest 3 "x" 1 ∧ Store.siblings.IsNearest 2 "x" 0 ∧
      ∃ after, Computation.assign 3 "x" (.integer 7) Store.siblings = (.ok true, after) ∧
        after.get? 1 "x" = some (.integer 7) ∧ after.get? 3 "x" = some (.integer 7) ∧
        after.get? 2 "x" = some (.integer 1) := by
  have empty : IsForest Store.empty [] := .empty rfl
  have first : IsForest ⟨#[⟨[("x", .integer 1)], none⟩, ⟨[("x", .integer 3)], some 0⟩], 0⟩ _ :=
    ((empty.root.defined Nat.zero_lt_one "x" (.integer 1)).enclosed Nat.zero_lt_one).defined
      Nat.one_lt_two "x" (.integer 3)
  have nearest : Store.IsNearest
      ⟨#[⟨[("x", .integer 1)], none⟩, ⟨[("x", .integer 3)], some 0⟩], 0⟩ 1 "x" 1 :=
    ⟨⟨[], [0], .inside rfl rfl (.root rfl rfl), by decide⟩, by decide⟩
  have forest : IsForest Store.siblings _ :=
    ((first.assigned nearest (.integer 5)).enclosed Nat.zero_lt_two).enclosed
      (Nat.one_lt_succ_succ 1)
  have inner : Store.siblings.IsNearest 3 "x" 1 :=
    ⟨⟨[3], [0], .inside rfl rfl (.inside rfl rfl (.root rfl rfl)), by decide⟩, by decide⟩
  have here : Store.siblings.IsNearest 1 "x" 1 :=
    ⟨⟨[], [0], .inside rfl rfl (.root rfl rfl), by decide⟩, by decide⟩
  have beside : Store.siblings.IsNearest 2 "x" 0 :=
    ⟨⟨[2], [], .inside rfl rfl (.root rfl rfl), by decide⟩, by decide⟩
  have apart : ¬ ("x" = "x" ∧ Store.siblings.IsNearest 2 "x" 1) := by
    rintro ⟨_, other⟩
    cases forest.records.nested.resolve_eq_some_iff.mpr other
  rcases (((forest_resolution forest).2 3 "x").2 (.integer 7)).1.bound 1 inner with
    ⟨after, assigned, _, shown⟩
  exact ⟨forest, inner, beside, after, assigned, shown.changed 1 here, shown.changed 3 inner,
    shown.kept 2 "x" apart⟩

end Jet
