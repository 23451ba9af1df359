import Jet.Evaluation
import Jet.Proofs.Tree.Occurrence
import Jet.Proofs.Value.Clean

/-!
# Functions inside of values

A function may travel inside of arrays, hashes and returned values.  `Value.Carries` says that every
function inside of a value is of some kind, which is told by its parameters, its body and the scope
in which it was made.

Operators and lengths give values that hold no function at all.  An index gives what lies inside of
the collection, so whatever all functions in there are is what the functions of the result are.
-/

namespace Jet

/-- A kind of functions, told by the parameters, the body and the scope in which they were made. -/
abbrev FunctionKind := List String → List Stmt → Nat → Prop

namespace Value

/-- Whether every function inside of a value is of a kind. -/
def Carries (kind : FunctionKind) (value : Value) : Prop :=
  ∀ stamp parameters body scope, Occurs children (.function stamp parameters body scope) value →
    kind parameters body scope

/-- Whether a value is neither a function nor made of other values. -/
def isAtomic : Value → Bool
  | function .. | array .. | hash .. | returned _ => false
  | _ => true

variable {kind : FunctionKind} {value : Value}

/-- What is made of no other values carries no function. -/
theorem carries_of_isAtomic
    (atomic : value.isAtomic = true) :
    value.Carries kind := by
  intro stamp parameters body scope occurs
  cases occurs with
  | here => cases atomic
  | inside member =>
      cases value with
      | function | array | hash | returned => cases atomic
      | _ => cases member

theorem carries_function {parameters : List String} {body : List Stmt} {scope : Nat}
    (holds : kind parameters body scope) (stamp : Nat) :
    (function stamp parameters body scope).Carries kind := by
  intro otherStamp otherParameters otherBody otherScope occurs
  cases occurs with
  | here => exact holds
  | inside member => cases member

theorem Carries.function {stamp : Nat} {parameters : List String} {body : List Stmt} {scope : Nat}
    (carries : (function stamp parameters body scope).Carries kind) :
    kind parameters body scope :=
  carries stamp parameters body scope .here

/-- What is inside of a value carries no more than the value. -/
theorem Carries.child {child : Value}
    (carries : value.Carries kind) (member : child ∈ value.children) :
    child.Carries kind :=
  fun stamp parameters body scope occurs => carries stamp parameters body scope (.inside member occurs)

/-- What is no function carries what the values carry that it is made of. -/
theorem carries_of_children
    (each : ∀ child ∈ value.children, child.Carries kind)
    (noFunction : ∀ stamp parameters body scope, value ≠ .function stamp parameters body scope) :
    value.Carries kind := by
  intro stamp parameters body scope occurs
  cases occurs with
  | here => exact absurd rfl (noFunction stamp parameters body scope)
  | inside member deeper => exact each _ member stamp parameters body scope deeper

theorem carries_array {elements : List Value}
    (each : ∀ element ∈ elements, element.Carries kind) (stamp : Nat) :
    (array stamp elements).Carries kind :=
  carries_of_children each nofun

theorem Carries.unwrapped
    (carries : value.Carries kind) :
    value.unwrapped.Carries kind := by
  cases value with
  | returned payload => exact carries.child List.mem_cons_self
  | _ => exact carries

theorem Carries.returned
    (carries : value.Carries kind) :
    (Value.returned value).Carries kind :=
  carries_of_children (List.forall_mem_singleton.mpr carries) nofun

end Value

namespace Entry

variable {kind : FunctionKind} {entry : Entry} {entries : List Entry}

/-- Whether every function inside of an entry is of a kind. -/
structure Carries (kind : FunctionKind) (entry : Entry) : Prop where
  shown : entry.shown.Carries kind
  value : entry.value.Carries kind

/-- A hash carries what its entries carry. -/
theorem carries_hash_iff (stamp : Nat) :
    (Value.hash stamp entries).Carries kind ↔ ∀ entry ∈ entries, entry.Carries kind := by
  constructor
  · intro carries entry member
    have parts := Value.forall_mem_children_hash.mp fun child => carries.child
    exact ⟨(parts entry member).1, (parts entry member).2⟩
  · intro each
    refine Value.carries_of_children (Value.forall_mem_children_hash.mpr fun entry member => ?_) nofun
    exact ⟨(each entry member).shown, (each entry member).value⟩

end Entry

/-! ## Results of operators -/

theorem isAtomic_checkedInteger (value : Int) :
    (checkedInteger value).isAtomic = true := by
  rw [checkedInteger_eq]
  split <;> rfl

theorem BinaryOperator.isAtomic_onIntegers (left right : Int) (operator : BinaryOperator) :
    (operator.onIntegers left right).isAtomic = true := by
  cases operator with
  | add | subtract | multiply => exact isAtomic_checkedInteger _
  | divide | remainder =>
      rw [onIntegers]
      split <;> rfl
  | compare => rfl

theorem BinaryOperator.isAtomic_converted {overflow : Fault} {left right : Number} {value : Value}
    {operation : Double → Double → Except Halt Value}
    (atomic : ∀ left right, operation left right = .ok value → value.isAtomic = true)
    (computed : onNumbers.converted overflow left right operation = .ok value) :
    value.isAtomic = true := by
  unfold onNumbers.converted at computed
  split at computed
  · exact atomic _ _ computed
  · cases computed
    rfl

theorem BinaryOperator.isAtomic_onNumbers {overflow : Fault} {left right : Number} {value : Value}
    (operator : BinaryOperator) (computed : operator.onNumbers overflow left right = .ok value) :
    value.isAtomic = true := by
  have float {number : Double} (computed : floatResult number = .ok value) :
      value.isAtomic = true := by
    cases computed
    rfl
  cases operator with
  | compare =>
      cases computed
      rfl
  | add | subtract | multiply => exact isAtomic_converted (fun _ _ => float) computed
  | divide =>
      rw [onNumbers] at computed
      split at computed
      · cases computed
        rfl
      · exact isAtomic_converted (fun _ _ => float) computed
  | remainder =>
      rw [onNumbers] at computed
      split at computed
      · cases computed
        rfl
      · refine isAtomic_converted (fun left right computed => ?_) computed
        split at computed
        · exact float computed
        · cases computed

theorem isAtomic_otherBinary (operator : String) (left right : Value) :
    (otherBinary operator left right).isAtomic = true := by
  unfold otherBinary refusedBinary
  split
  · rfl
  · rfl
  · split <;> rfl

/-- An operator on two values gives a value that is made of no others. -/
theorem isAtomic_binaryOperation {operator : String} {left right value : Value}
    (computed : binaryOperation operator left right = .ok value) :
    value.isAtomic = true := by
  unfold binaryOperation at computed
  split at computed
  · split at computed <;> cases computed
    · exact BinaryOperator.isAtomic_onIntegers _ _ _
    · rfl
  · split at computed <;> cases computed <;> rfl
  · split at computed
    · split at computed
      · exact BinaryOperator.isAtomic_onNumbers _ computed
      · cases computed
        rfl
    · cases computed
      exact isAtomic_otherBinary operator left right

theorem isAtomic_unaryOperation (operator : String) (operand : Value) :
    (unaryOperation operator operand).isAtomic = true := by
  unfold unaryOperation
  split <;> rfl

theorem isAtomic_length (argument : Value) :
    (Builtin.length argument).isAtomic = true := by
  cases argument <;> rfl

/-- What is found in a collection carries no more than the collection. -/
theorem Value.Carries.indexOperation {kind : FunctionKind} {collection : Value}
    (carries : collection.Carries kind) (index : Value) :
    (indexOperation collection index).Carries kind := by
  rcases indexOperation_cases collection index with null | ⟨fault, equal⟩ | member
  · rw [null]
    exact carries_of_isAtomic rfl
  · rw [equal]
    exact carries_of_isAtomic rfl
  · exact carries.child member

end Jet
