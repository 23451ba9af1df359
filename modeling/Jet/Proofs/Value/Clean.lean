import Jet.Builtin
import Jet.Proofs.Tree.Part

/-!
# Clean values and stores

A value is clean if no signal lies inside of it, every entry of a hash is found by the key of the
value that is shown for it, and every function was made in a scope that exists.  A store is clean if
it binds only clean values and the outer scope of every scope is an earlier one.

What is asked of integers is left open: an `IntegerRule` says which integers may be literals and
which may be values, and is kept by everything that makes integers.  The operators, the index, and
whatever reads or writes the scopes keep values clean under every such rule.
-/

namespace Jet

/-! ## Rules for integers -/

/-- What is asked of integers, in trees and in values, and kept by all that makes integers. -/
structure IntegerRule where
  literal : Int → Prop
  number : Int → Prop
  of_literal : ∀ value, literal value → number value
  of_length : ∀ count : Nat, count ≤ Builtin.maxLength → number count
  of_checked : ∀ value, exceedsDigits digitLimit value = false → number value
  neg : ∀ value, number value → number (-value)
  tdiv : ∀ left right, number left → number (left.tdiv right)
  tmod : ∀ left right, number left → number (left.tmod right)

namespace IntegerRule

/-- The rule that asks nothing. -/
def any : IntegerRule where
  literal _ := True
  number _ := True
  of_literal _ _ := trivial
  of_length _ _ := trivial
  of_checked _ _ := trivial
  neg _ _ := trivial
  tdiv _ _ _ := trivial
  tmod _ _ _ := trivial

/-- Whether a part of a tree is no literal against the rule. -/
def Allows (rule : IntegerRule) : Part → Prop
  | .expression (.integer value) => rule.literal value
  | _ => True

/-- Any tree is fine if nothing is asked. -/
theorem obeys_any (whole : Part) : Part.Obeys any.Allows whole := by
  intro part _
  unfold Allows
  split <;> trivial

end IntegerRule

/-! ## Values -/

namespace Value

/-- The values that a value is directly made of. -/
def children : Value → List Value
  | .array _ elements => elements
  | .hash _ entries => entries.flatMap fun entry => [entry.shown, entry.value]
  | .returned value => [value]
  | _ => []

/-- A hash is made of what is shown for its keys and of what is stored. -/
theorem forall_mem_children_hash {holds : Value → Prop} {stamp : Nat} {entries : List Entry} :
    (∀ child ∈ (hash stamp entries).children, holds child) ↔
      ∀ entry ∈ entries, holds entry.shown ∧ holds entry.value := by
  simp only [children, List.mem_flatMap, List.mem_cons, List.not_mem_nil, or_false]
  constructor
  · intro each entry member
    exact ⟨each _ ⟨entry, member, .inl rfl⟩, each _ ⟨entry, member, .inr rfl⟩⟩
  · rintro each child ⟨entry, member, rfl | rfl⟩
    · exact (each entry member).1
    · exact (each entry member).2

/-- What is asked of one value in a store with so many scopes, apart from the values inside. -/
def IsSound (rule : IntegerRule) (count : Nat) : Value → Prop
  | .integer value => rule.number value
  | .function _ _ body scope => scope < count ∧ Part.Obeys rule.Allows (.block body)
  | .hash _ entries => ∀ entry ∈ entries, entry.shown.key? = some entry.key
  | .returned _ | .error _ => False
  | _ => True

/-- Whether a value and all values inside of it are sound. -/
abbrev IsClean (rule : IntegerRule) (count : Nat) : Value → Prop :=
  Obeys children (IsSound rule count)

/-- What an operator, a call or a program may end with: a clean value or an error. -/
def IsSettled (rule : IntegerRule) (count : Nat) : Value → Prop
  | .error _ => True
  | value => value.IsClean rule count

/-- What an evaluation may end with: a clean value, a signal that returns one, or an error. -/
def IsOutcome (rule : IntegerRule) (count : Nat) : Value → Prop
  | .returned value => value.IsClean rule count
  | .error _ => True
  | value => value.IsClean rule count

variable {rule : IntegerRule} {count more : Nat} {value : Value}

theorem IsSound.mono
    (sound : value.IsSound rule count) (grown : count ≤ more) :
    value.IsSound rule more := by
  cases value with
  | function => exact ⟨Nat.lt_of_lt_of_le sound.1 grown, sound.2⟩
  | _ => exact sound

/-- A value stays clean when scopes are added. -/
theorem IsClean.mono
    (clean : value.IsClean rule count) (grown : count ≤ more) :
    value.IsClean rule more :=
  Obeys.mono clean fun _ sound => sound.mono grown

theorem IsClean.isSettled
    (clean : value.IsClean rule count) :
    value.IsSettled rule count := by
  cases value with
  | error => trivial
  | _ => exact clean

theorem IsSettled.isOutcome
    (settled : value.IsSettled rule count) :
    value.IsOutcome rule count := by
  cases value with
  | returned => exact False.elim (Obeys.holds settled)
  | error => trivial
  | _ => exact settled

theorem IsClean.isOutcome
    (clean : value.IsClean rule count) :
    value.IsOutcome rule count :=
  clean.isSettled.isOutcome

/-- A settled value is no signal that returns another. -/
theorem IsSettled.ne_returned
    (settled : value.IsSettled rule count) (payload : Value) :
    value ≠ .returned payload := by
  rintro rfl
  exact Obeys.holds settled

/-- What an evaluation ends with is clean if it is no signal. -/
theorem IsOutcome.isClean
    (outcome : value.IsOutcome rule count) (noSignal : value.isSignal = false) :
    value.IsClean rule count := by
  cases value with
  | returned | error => cases noSignal
  | _ => exact outcome

theorem isClean_integer {number : Int}
    (allowed : rule.number number) :
    IsClean rule count (.integer number) :=
  .leaf allowed rfl

/-- An array is clean if its elements are. -/
theorem isClean_array {elements : List Value} (stamp : Nat)
    (clean : ∀ element ∈ elements, element.IsClean rule count) :
    IsClean rule count (.array stamp elements) :=
  obeys_iff.mpr ⟨trivial, clean⟩

end Value

namespace Entry

variable {rule : IntegerRule} {count : Nat} {entry : Entry} {entries : List Entry}

/-- What holds of an entry and of all others still does when the entry is added to them. -/
theorem forall_mem_insert {holds : Entry → Prop}
    (others : ∀ other ∈ entries, holds other) (added : holds entry) :
    ∀ other ∈ insert entry entries, holds other := by
  induction entries with
  | nil => exact List.forall_mem_singleton.mpr added
  | cons head rest induction =>
      rw [List.forall_mem_cons] at others
      rw [insert]
      split
      · exact List.forall_mem_cons.mpr ⟨added, others.2⟩
      · exact List.forall_mem_cons.mpr ⟨others.1, induction others.2⟩

/-- An entry with a key of its own is added behind the others. -/
theorem insert_of_not_mem (fresh : entry.key ∉ entries.map Entry.key) :
    insert entry entries = entries ++ [entry] := by
  induction entries with
  | nil => rfl
  | cons head rest induction =>
      rw [List.map_cons, List.mem_cons, not_or] at fresh
      rw [insert, if_neg (Ne.symm fresh.1), induction fresh.2, List.cons_append]

/-- What is found among entries is the value of one of them. -/
theorem exists_of_find? {key : HashKey} {value : Value}
    (found : find? key entries = some value) :
    ∃ entry ∈ entries, entry.value = value := by
  induction entries with
  | nil => cases found
  | cons head rest induction =>
      rw [find?] at found
      split at found
      · cases found
        exact ⟨head, List.mem_cons_self, rfl⟩
      · rcases induction found with ⟨entry, member, equal⟩
        exact ⟨entry, List.mem_cons_of_mem _ member, equal⟩

/-- Whether an entry is found by the key of the value shown for it, and holds clean values. -/
structure IsClean (rule : IntegerRule) (count : Nat) (entry : Entry) : Prop where
  key : entry.shown.key? = some entry.key
  shown : entry.shown.IsClean rule count
  value : entry.value.IsClean rule count

theorem IsClean.mono {more : Nat}
    (clean : entry.IsClean rule count) (grown : count ≤ more) :
    entry.IsClean rule more :=
  ⟨clean.key, clean.shown.mono grown, clean.value.mono grown⟩

/-- A hash is clean exactly if its entries are. -/
theorem isClean_hash_iff (stamp : Nat) :
    Value.IsClean rule count (.hash stamp entries) ↔
      ∀ entry ∈ entries, entry.IsClean rule count := by
  rw [Value.IsClean, obeys_iff, Value.forall_mem_children_hash]
  constructor
  · rintro ⟨keys, clean⟩ entry member
    exact ⟨keys entry member, (clean entry member).1, (clean entry member).2⟩
  · intro clean
    refine ⟨fun entry member => (clean entry member).key, fun entry member => ?_⟩
    exact ⟨(clean entry member).shown, (clean entry member).value⟩

theorem isClean_insert
    (clean : ∀ other ∈ entries, other.IsClean rule count) (added : entry.IsClean rule count) :
    ∀ other ∈ insert entry entries, other.IsClean rule count :=
  forall_mem_insert clean added

end Entry

/-! ## Operators -/

section Operators

variable {rule : IntegerRule} {count : Nat}

theorem isSettled_checkedInteger (value : Int) :
    (checkedInteger value).IsSettled rule count := by
  rw [checkedInteger_eq]
  split
  · trivial
  · rename_i fits
    exact Value.isClean_integer (rule.of_checked value (Bool.eq_false_iff.mpr fits))

theorem BinaryOperator.isSettled_onIntegers {left : Int} (right : Int)
    (allowed : rule.number left) (operator : BinaryOperator) :
    (operator.onIntegers left right).IsSettled rule count := by
  cases operator with
  | add | subtract | multiply => exact isSettled_checkedInteger _
  | divide =>
      rw [onIntegers]
      split
      · trivial
      · rw [truncatedQuotient_eq_tdiv]
        exact Value.isClean_integer (rule.tdiv left right allowed)
  | remainder =>
      rw [onIntegers]
      split
      · trivial
      · rw [truncatedQuotient_eq_tdiv, ← Int.tmod_def]
        exact Value.isClean_integer (rule.tmod left right allowed)
  | compare => exact Obeys.leaf trivial rfl

theorem isSettled_floatResult {number : Double} {value : Value}
    (computed : floatResult number = .ok value) :
    value.IsSettled rule count := by
  cases computed
  exact Obeys.leaf trivial rfl

theorem BinaryOperator.isSettled_converted {overflow : Fault} {left right : Number} {value : Value}
    {operation : Double → Double → Except Halt Value}
    (outcomes : ∀ left right, operation left right = .ok value → value.IsSettled rule count)
    (computed : onNumbers.converted overflow left right operation = .ok value) :
    value.IsSettled rule count := by
  unfold onNumbers.converted at computed
  split at computed
  · exact outcomes _ _ computed
  · cases computed
    trivial

theorem BinaryOperator.isSettled_onNumbers {overflow : Fault} {left right : Number} {value : Value}
    (operator : BinaryOperator) (computed : operator.onNumbers overflow left right = .ok value) :
    value.IsSettled rule count := by
  cases operator with
  | compare =>
      cases computed
      exact Obeys.leaf trivial rfl
  | add | subtract | multiply =>
      exact isSettled_converted (fun _ _ => isSettled_floatResult) computed
  | divide =>
      rw [onNumbers] at computed
      split at computed
      · cases computed
        trivial
      · exact isSettled_converted (fun _ _ => isSettled_floatResult) computed
  | remainder =>
      rw [onNumbers] at computed
      split at computed
      · cases computed
        trivial
      · refine isSettled_converted (fun left right computed => ?_) computed
        split at computed
        · exact isSettled_floatResult computed
        · cases computed

theorem isSettled_otherBinary (operator : String) (left right : Value) :
    (otherBinary operator left right).IsSettled rule count := by
  unfold otherBinary refusedBinary
  split
  · exact Obeys.leaf trivial rfl
  · exact Obeys.leaf trivial rfl
  · split <;> trivial

/-- An operator on clean values gives a clean value or an error. -/
theorem isSettled_binaryOperation {operator : String} {left right value : Value}
    (clean : left.IsClean rule count)
    (computed : binaryOperation operator left right = .ok value) :
    value.IsSettled rule count := by
  unfold binaryOperation at computed
  split at computed
  · split at computed
    · cases computed
      exact BinaryOperator.isSettled_onIntegers _ clean.holds _
    · cases computed
      trivial
  · split at computed
    · cases computed
      exact Obeys.leaf trivial rfl
    · cases computed
      exact Obeys.leaf trivial rfl
    · cases computed
      trivial
  · split at computed
    · split at computed
      · exact BinaryOperator.isSettled_onNumbers _ computed
      · cases computed
        trivial
    · cases computed
      exact isSettled_otherBinary operator left right

/-- An operator on a clean value gives a clean value or an error. -/
theorem isSettled_unaryOperation {operand : Value} (operator : String)
    (clean : operand.IsClean rule count) :
    (unaryOperation operator operand).IsSettled rule count := by
  unfold unaryOperation
  split
  · exact Obeys.leaf trivial rfl
  · exact Value.isClean_integer (rule.neg _ clean.holds)
  · exact Obeys.leaf trivial rfl
  · trivial

/-- What is found at an index is one of the elements, or null. -/
theorem elementAt_eq_null_or_mem (elements : List Value) (index : Int) :
    elementAt elements index = .null ∨ elementAt elements index ∈ elements := by
  have bounded (position : Int) :
      (if position < 0 then .null else elements.getD position.toNat .null) = .null ∨
        (if position < 0 then .null else elements.getD position.toNat .null) ∈ elements := by
    split
    · exact .inl rfl
    · rw [List.getD_eq_getElem?_getD]
      cases found : elements[position.toNat]? with
      | none => exact .inl rfl
      | some element => exact .inr (List.mem_of_getElem? found)
  exact bounded _

/-- What is found in a collection is null, a fault, or something that the collection is made of. -/
theorem indexOperation_cases (collection index : Value) :
    indexOperation collection index = .null ∨
      (∃ fault, indexOperation collection index = .error fault) ∨
        indexOperation collection index ∈ collection.children := by
  unfold indexOperation
  split
  · split
    · exact (elementAt_eq_null_or_mem _ _).imp_right .inr
    · exact .inr (.inl ⟨_, rfl⟩)
  · split
    · rename_i key _
      cases found : Entry.find? key _ with
      | none => exact .inl rfl
      | some value =>
          rcases Entry.exists_of_find? found with ⟨entry, member, rfl⟩
          refine .inr (.inr (List.mem_flatMap.mpr ⟨entry, member, ?_⟩))
          exact List.mem_cons_of_mem _ List.mem_cons_self
    · exact .inr (.inl ⟨_, rfl⟩)
  · exact .inr (.inl ⟨_, rfl⟩)

/-- What is found in a clean collection is clean, or an error. -/
theorem isSettled_indexOperation {collection : Value}
    (clean : collection.IsClean rule count) (index : Value) :
    (indexOperation collection index).IsSettled rule count := by
  rcases indexOperation_cases collection index with null | ⟨fault, equal⟩ | member
  · rw [null]
    exact Obeys.leaf trivial rfl
  · rw [equal]
    trivial
  · exact Value.IsClean.isSettled (Obeys.child clean member)

/-- A length is allowed. -/
theorem isSettled_length (argument : Value) :
    (Builtin.length argument).IsSettled rule count := by
  have measured (parts : Nat) : (Builtin.measured parts).IsSettled rule count :=
    Value.isClean_integer (rule.of_length _ (Nat.min_le_right parts Builtin.maxLength))
  cases argument with
  | string | array | hash => exact measured _
  | _ => trivial

end Operators

/-! ## Stores -/

namespace Scope

/-- Whether a scope binds clean values only and lies inside of an earlier scope, if of any. -/
structure IsClean (rule : IntegerRule) (count id : Nat) (scope : Scope) : Prop where
  bindings : ∀ binding ∈ scope.bindings, binding.2.IsClean rule count
  outer : ∀ outer ∈ scope.outer, outer < id

/-- What holds of a binding and of all others still does when the binding is made. -/
theorem forall_mem_insert {holds : String × Value → Prop} {name : String} {value : Value}
    {bindings : List (String × Value)}
    (others : ∀ binding ∈ bindings, holds binding) (added : holds (name, value)) :
    ∀ binding ∈ insert name value bindings, holds binding := by
  induction bindings with
  | nil => exact List.forall_mem_singleton.mpr added
  | cons head rest induction =>
      rw [List.forall_mem_cons] at others
      rw [insert]
      split
      · exact List.forall_mem_cons.mpr ⟨added, others.2⟩
      · exact List.forall_mem_cons.mpr ⟨others.1, induction others.2⟩

theorem isClean_insert {rule : IntegerRule} {count : Nat} {value : Value}
    {bindings : List (String × Value)}
    (clean : ∀ binding ∈ bindings, binding.2.IsClean rule count) (added : value.IsClean rule count)
    (name : String) :
    ∀ binding ∈ insert name value bindings, binding.2.IsClean rule count :=
  forall_mem_insert clean added

end Scope

namespace Store

/-- Whether every scope of a store is clean. -/
def IsClean (rule : IntegerRule) (store : Store) : Prop :=
  ∀ (id : Nat) (scope : Scope), store.scopes[id]? = some scope →
    scope.IsClean rule store.scopes.size id

/-- Whether one store goes on from another: no scope goes away or gets into another one. -/
structure Extends (after before : Store) : Prop where
  grown : before.scopes.size ≤ after.scopes.size
  outer : ∀ id < before.scopes.size,
    after.scopes[id]?.map Scope.outer = before.scopes[id]?.map Scope.outer

variable {rule : IntegerRule} {store between after : Store}

theorem Extends.refl (store : Store) : store.Extends store :=
  ⟨Nat.le_refl _, fun _ _ => rfl⟩

theorem Extends.trans
    (second : after.Extends between) (first : between.Extends store) :
    after.Extends store := by
  refine ⟨Nat.le_trans first.grown second.grown, fun id old => ?_⟩
  rw [second.outer id (Nat.lt_of_lt_of_le old first.grown), first.outer id old]

theorem size_openScope (store : Store) (outer : Option Nat) :
    (store.openScope outer).2.scopes.size = store.scopes.size + 1 :=
  Array.size_push _

/-- A scope that is there after another one was opened is the new one, or was there before. -/
theorem openScope_cases {outer : Option Nat} {id : Nat} {scope : Scope}
    (found : (store.openScope outer).2.scopes[id]? = some scope) :
    (id = store.scopes.size ∧ scope = ⟨[], outer⟩) ∨ store.scopes[id]? = some scope := by
  rw [openScope, Array.getElem?_push] at found
  split at found
  · rename_i newest
    exact .inl ⟨newest, (Option.some.inj found).symm⟩
  · exact .inr found

/-- A new scope inside of an existing one keeps a store clean. -/
theorem IsClean.openScope {outer : Option Nat}
    (clean : store.IsClean rule) (known : ∀ id ∈ outer, id < store.scopes.size) :
    (store.openScope outer).2.IsClean rule := by
  intro id scope found
  rw [size_openScope]
  rcases openScope_cases found with ⟨rfl, rfl⟩ | found
  · exact ⟨fun _ member => absurd member List.not_mem_nil, known⟩
  · have old := clean id scope found
    exact ⟨fun binding member => (old.bindings binding member).mono (Nat.le_succ _), old.outer⟩

theorem extends_openScope (store : Store) (outer : Option Nat) :
    (store.openScope outer).2.Extends store := by
  refine ⟨by rw [size_openScope]; exact Nat.le_succ _, fun id old => ?_⟩
  rw [Store.openScope, Array.getElem?_push, if_neg (Nat.ne_of_lt old)]

theorem size_define (store : Store) (id : Nat) (name : String) (value : Value) :
    (store.define id name value).scopes.size = store.scopes.size :=
  Array.size_modify

/-- A scope that is there after a name was bound is as it was, or binds the name besides. -/
theorem define_cases {id other : Nat} {name : String} {value : Value} {scope : Scope}
    (found : (store.define id name value).scopes[other]? = some scope) :
    (∃ old, store.scopes[other]? = some old ∧ scope = old.define name value) ∨
      store.scopes[other]? = some scope := by
  rw [define, Array.getElem?_modify] at found
  split at found
  · rcases Option.map_eq_some_iff.mp found with ⟨old, known, equal⟩
    exact .inl ⟨old, known, equal.symm⟩
  · exact .inr found

/-- A clean value may be bound in any scope of a clean store. -/
theorem IsClean.define {value : Value}
    (clean : store.IsClean rule) (added : value.IsClean rule store.scopes.size) (id : Nat)
    (name : String) :
    (store.define id name value).IsClean rule := by
  intro other scope found
  rw [size_define]
  rcases define_cases found with ⟨old, known, rfl⟩ | found
  · have kept := clean other old known
    exact ⟨Scope.isClean_insert kept.bindings added name, kept.outer⟩
  · exact clean other scope found

theorem extends_define (store : Store) (id : Nat) (name : String) (value : Value) :
    (store.define id name value).Extends store := by
  refine ⟨Nat.le_of_eq (size_define store id name value).symm, fun other _ => ?_⟩
  rw [Store.define, Array.getElem?_modify]
  split
  · rw [Option.map_map]
    rfl
  · rfl

/-- A name is resolved in a scope that binds it. -/
theorem exists_of_resolve {id holder : Nat} {name : String}
    (resolved : store.resolve id name = some holder) :
    ∃ scope, store.scopes[holder]? = some scope ∧ scope.binds name = true := by
  have within (count id : Nat) (resolved : store.resolveWithin name count id = some holder) :
      ∃ scope, store.scopes[holder]? = some scope ∧ scope.binds name = true := by
    induction count generalizing id with
    | zero => cases resolved
    | succ count induction =>
        rw [resolveWithin] at resolved
        split at resolved
        · cases resolved
        rename_i scope found
        split at resolved
        · rename_i binds
          cases resolved
          exact ⟨scope, found, binds⟩
        split at resolved
        · cases resolved
        · exact induction _ resolved
  exact within (id + 1) id resolved

/-- The value of a name is bound in the scope that the name is resolved in. -/
theorem exists_of_get? {id : Nat} {name : String} {value : Value}
    (found : store.get? id name = some value) :
    ∃ holder scope, store.resolve id name = some holder ∧ store.scopes[holder]? = some scope ∧
      (name, value) ∈ scope.bindings := by
  unfold Store.get? at found
  split at found
  · cases found
  · rename_i holder resolved
    split at found
    · cases found
    · rename_i scope known
      rcases List.lookup_eq_some_iff.mp found with ⟨front, back, equal, _⟩
      refine ⟨holder, scope, resolved, known, ?_⟩
      rw [equal]
      exact List.mem_append_right _ List.mem_cons_self

/-- Whatever a name is bound to in a clean store is clean. -/
theorem IsClean.get? {id : Nat} {name : String} {value : Value}
    (clean : store.IsClean rule) (found : store.get? id name = some value) :
    value.IsClean rule store.scopes.size := by
  rcases exists_of_get? found with ⟨holder, scope, _, known, member⟩
  exact (clean holder scope known).bindings _ member

/-- Whether everything that is bound in a store is of a sort. -/
def BindsOnly (sort : Value → Prop) (store : Store) : Prop :=
  ∀ (id : Nat) (scope : Scope), store.scopes[id]? = some scope →
    ∀ binding ∈ scope.bindings, sort binding.2

namespace BindsOnly

variable {sort : Value → Prop}

theorem openScope
    (binds : store.BindsOnly sort) (outer : Option Nat) :
    (store.openScope outer).2.BindsOnly sort := by
  intro id scope found
  rcases openScope_cases found with ⟨_, rfl⟩ | found
  · exact fun _ bound => absurd bound List.not_mem_nil
  · exact binds id scope found

theorem define {value : Value}
    (binds : store.BindsOnly sort) (added : sort value) (id : Nat) (name : String) :
    (store.define id name value).BindsOnly sort := by
  intro position scope found
  rcases define_cases found with ⟨old, known, rfl⟩ | found
  · exact Scope.forall_mem_insert (binds position old known) added
  · exact binds position scope found

theorem get? {id : Nat} {name : String} {value : Value}
    (binds : store.BindsOnly sort) (found : store.get? id name = some value) :
    sort value := by
  rcases exists_of_get? found with ⟨holder, scope, _, known, member⟩
  exact binds holder scope known _ member

end BindsOnly

end Store

end Jet
