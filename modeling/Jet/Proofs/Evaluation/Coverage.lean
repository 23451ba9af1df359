import Jet.Proofs.Evaluation.Order
import Jet.Proofs.Grammar.Vocabulary
import Jet.Proofs.Value.Carried

/-!
# Covered operators

The operations on values know every operator of the language.  Where all operators are known, in the
tree that is evaluated and in the bodies of the functions that it may come to, an operator is
refused for what its operands are, but never for two integers or for two numbers.

The functions travel through the store, so this is an invariant of the values that are bound there.
`Maintains` says that a run keeps such an invariant; by the equation for the operands of a part it
is shown for all parts, and by induction on the calls that are allowed for all calls.
-/

namespace Jet

variable {α β : Type}

/-! ## Values -/

/-- Whether a fault may come up where all operators are known. -/
def Fault.IsExpected : Fault → Prop
  | .unknownBinary left _ _ => left ≠ .integer ∧ left ≠ .float
  | .unknownUnary operator _ => operator ∈ unaryOperators
  | .stated _ => False
  | _ => True

namespace Value

/-- Whether a value is no signal and knows the operators in its body, if it is a function. -/
def HasKnownOperators : Value → Prop
  | .function _ _ body _ => Part.Obeys Part.HasKnownOperator (.block body)
  | .returned _ | .error _ => False
  | _ => True

/-- Whether a value and all values inside of it know their operators. -/
abbrev IsCovered : Value → Prop :=
  Obeys children HasKnownOperators

/-- What an evaluation may end with where all operators are known. -/
def IsExpected : Value → Prop
  | .returned value => value.IsCovered
  | .error fault => fault.IsExpected
  | value => value.IsCovered

variable {value : Value}

theorem IsCovered.isExpected
    (covered : value.IsCovered) :
    value.IsExpected := by
  cases value with
  | returned | error => exact False.elim (Obeys.holds covered)
  | _ => exact covered

theorem IsExpected.isCovered
    (expected : value.IsExpected) (noSignal : value.isSignal = false) :
    value.IsCovered := by
  cases value with
  | returned | error => cases noSignal
  | _ => exact expected

theorem IsExpected.unwrapped
    (expected : value.IsExpected) :
    value.unwrapped.IsExpected := by
  cases value with
  | returned payload => exact IsCovered.isExpected expected
  | _ => exact expected

/-- What is made of no other values is expected unless it is an unexpected error. -/
theorem isExpected_of_isAtomic
    (atomic : value.isAtomic = true) (faults : ∀ fault, value = .error fault → fault.IsExpected) :
    value.IsExpected := by
  cases value with
  | error fault => exact faults fault rfl
  | function | array | hash | returned => cases atomic
  | _ => exact Obeys.leaf trivial rfl

theorem isCovered_array {elements : List Value}
    (covered : ∀ element ∈ elements, element.IsCovered) (stamp : Nat) :
    (array stamp elements).IsCovered :=
  obeys_iff.mpr ⟨trivial, covered⟩

theorem isCovered_hash {entries : List Entry}
    (covered : ∀ entry ∈ entries, entry.shown.IsCovered ∧ entry.value.IsCovered) (stamp : Nat) :
    (hash stamp entries).IsCovered :=
  obeys_iff.mpr ⟨trivial, forall_mem_children_hash.mpr covered⟩

end Value

/-- The entries that are made of covered keys and values are covered. -/
theorem Entry.isCovered_insertAll {values : List Value} {entries : List Entry}
    (covered : ∀ value ∈ values, value.IsCovered)
    (inside : ∀ entry ∈ entries, entry.shown.IsCovered ∧ entry.value.IsCovered) :
    ∀ entry ∈ insertAll entries values, entry.shown.IsCovered ∧ entry.value.IsCovered := by
  induction entries, values using insertAll.induct with
  | case1 entries shown value rest key known induction =>
      rw [List.forall_mem_cons, List.forall_mem_cons] at covered
      rw [insertAll, known]
      exact induction covered.2.2 (forall_mem_insert inside ⟨covered.1, covered.2.1⟩)
  | case2 entries shown value rest unknown induction =>
      rw [List.forall_mem_cons, List.forall_mem_cons] at covered
      rw [insertAll, unknown]
      exact induction covered.2.2 inside
  | case3 entries values short =>
      rw [insertAll]
      · exact inside
      · exact short

/-! ## Operations -/

/-- Every operator between two operands is a connective or an operation. -/
theorem exists_operation_of_mem {operator : String}
    (known : operator ∈ binaryOperators) (noConnective : Connective.ofSymbol? operator = none) :
    ∃ operation, BinaryOperator.ofSymbol? operator = some operation := by
  simp only [binaryOperators, List.mem_cons, List.not_mem_nil, or_false] at known
  rcases known with rfl | rfl | rfl | rfl | rfl | rfl | rfl | rfl | rfl | rfl | rfl | rfl | rfl
  case inr.inr.inr.inr.inr.inr.inr.inr.inr.inr.inr.inl => cases noConnective
  case inr.inr.inr.inr.inr.inr.inr.inr.inr.inr.inr.inr => cases noConnective
  all_goals exact ⟨_, rfl⟩

namespace BinaryOperator

theorem isExpected_onIntegers (left right : Int) (operator : BinaryOperator) :
    (operator.onIntegers left right).IsExpected := by
  have atomic := isAtomic_onIntegers left right operator
  refine Value.isExpected_of_isAtomic atomic fun fault failed => ?_
  cases operator with
  | add | subtract | multiply =>
      rw [onIntegers, checkedInteger_eq] at failed
      split at failed <;> cases failed
      trivial
  | divide | remainder =>
      rw [onIntegers] at failed
      split at failed <;> cases failed
      trivial
  | compare => cases failed

theorem isExpected_converted {overflow fault : Fault} {left right : Number}
    {operation : Double → Double → Except Halt Value}
    (expected : overflow.IsExpected)
    (failed : onNumbers.converted overflow left right operation = .ok (.error fault))
    (noFault : ∀ left right, operation left right ≠ .ok (.error fault)) :
    fault.IsExpected := by
  unfold onNumbers.converted at failed
  split at failed
  · exact absurd failed (noFault _ _)
  · cases failed
    exact expected

theorem isExpected_onNumbers {overflow fault : Fault} {left right : Number}
    (expected : overflow.IsExpected) (operator : BinaryOperator)
    (failed : operator.onNumbers overflow left right = .ok (.error fault)) :
    fault.IsExpected := by
  cases operator with
  | compare => cases failed
  | add | subtract | multiply =>
      refine isExpected_converted expected failed fun left right computed => ?_
      cases computed
  | divide =>
      rw [onNumbers] at failed
      split at failed
      · cases failed
        trivial
      · refine isExpected_converted expected failed fun left right computed => ?_
        cases computed
  | remainder =>
      rw [onNumbers] at failed
      split at failed
      · cases failed
        trivial
      · refine isExpected_converted expected failed fun left right computed => ?_
        split at computed <;> cases computed

end BinaryOperator

/-- Values of one kind of which one is a number are both numbers. -/
theorem isSome_ofValue?_of_kind {left right : Value}
    (same : left.kind = right.kind) (number : (Number.ofValue? left).isSome = true) :
    (Number.ofValue? right).isSome = true := by
  cases left <;> cases number <;> cases right <;> cases same <;> rfl

/-- Only numbers are of the kinds of numbers. -/
theorem isSome_ofValue?_iff {value : Value} :
    (Number.ofValue? value).isSome = true ↔ value.kind = .integer ∨ value.kind = .float := by
  cases value <;> simp [Number.ofValue?, Value.kind]

theorem isExpected_otherBinary {left right : Value} (operator : String)
    (noNumbers : ¬ ((Number.ofValue? left).isSome = true ∧ (Number.ofValue? right).isSome = true)) :
    (otherBinary operator left right).IsExpected := by
  unfold otherBinary refusedBinary
  split
  · exact Obeys.leaf trivial rfl
  · exact Obeys.leaf trivial rfl
  · split
    · rename_i same
      have noNumber : ¬ (left.kind = .integer ∨ left.kind = .float) := fun isNumber =>
        have number := isSome_ofValue?_iff.mpr isNumber
        noNumbers ⟨number, isSome_ofValue?_of_kind same number⟩
      exact not_or.mp noNumber
    · trivial

/-- An operation that knows its operator is refused as expected, if at all. -/
theorem isExpected_binaryOperation {operator : String} {left right value : Value}
    (known : operator ∈ binaryOperators) (noConnective : Connective.ofSymbol? operator = none)
    (computed : binaryOperation operator left right = .ok value) :
    value.IsExpected := by
  rcases exists_operation_of_mem known noConnective with ⟨operation, isOperation⟩
  refine Value.isExpected_of_isAtomic (isAtomic_binaryOperation computed) fun fault failed => ?_
  subst failed
  unfold binaryOperation at computed
  rw [isOperation] at computed
  split at computed
  · rename_i leftNumber rightNumber
    have expected := operation.isExpected_onIntegers leftNumber rightNumber
    rw [Except.ok.inj computed] at expected
    exact expected
  · split at computed <;> cases computed
    exact ⟨nofun, nofun⟩
  · split at computed
    · refine BinaryOperator.isExpected_onNumbers ?_ operation computed
      trivial
    · rename_i noNumbers
      have expected : (otherBinary operator left right).IsExpected := by
        refine isExpected_otherBinary operator fun ⟨leftIs, rightIs⟩ => ?_
        rcases Option.isSome_iff_exists.mp leftIs with ⟨leftNumber, leftIs⟩
        rcases Option.isSome_iff_exists.mp rightIs with ⟨rightNumber, rightIs⟩
        exact noNumbers leftNumber rightNumber leftIs rightIs
      rw [Except.ok.inj computed] at expected
      exact expected

theorem isExpected_unaryOperation {operator : String} {operand : Value}
    (known : operator ∈ unaryOperators) :
    (unaryOperation operator operand).IsExpected := by
  refine Value.isExpected_of_isAtomic (isAtomic_unaryOperation operator operand) ?_
  intro fault failed
  unfold unaryOperation at failed
  split at failed <;> cases failed
  exact known

theorem isExpected_indexOperation {collection : Value}
    (covered : collection.IsCovered) (index : Value) :
    (indexOperation collection index).IsExpected := by
  unfold indexOperation
  split
  · split
    · rename_i elements _ position
      rcases elementAt_eq_null_or_mem elements position with null | member
      · rw [null]
        exact Obeys.leaf trivial rfl
      · exact Value.IsCovered.isExpected (covered.child member)
    · trivial
  · split
    · rename_i entries _ key _
      cases found : Entry.find? key entries with
      | none => exact Obeys.leaf trivial rfl
      | some value =>
          rcases Entry.exists_of_find? found with ⟨entry, member, rfl⟩
          have inside := (Value.forall_mem_children_hash.mp fun _ => covered.child) entry member
          exact Value.IsCovered.isExpected inside.2
    · trivial
  · trivial

theorem isExpected_length (argument : Value) :
    (Builtin.length argument).IsExpected := by
  refine Value.isExpected_of_isAtomic (isAtomic_length argument) fun fault failed => ?_
  cases argument with
  | string | array | hash => cases failed
  | _ =>
      cases failed
      trivial

/-! ## Runs -/

/--
Whether a run from any store that binds only values of a sort leaves such a store, and ends with
good results only.
-/
def Computation.Maintains (sort : Value → Prop) (good : α → Prop) (run : Computation α) : Prop :=
  ∀ store : Store, store.BindsOnly sort →
    (run store).2.BindsOnly sort ∧ ∀ value, (run store).1 = .ok value → good value

namespace Computation.Maintains

variable {sort : Value → Prop} {good middle : α → Prop} {goodNext : β → Prop}

theorem pure {value : α}
    (holds : good value) :
    Maintains sort good (Pure.pure value) := by
  refine fun store binds => ⟨binds, ?_⟩
  rintro other ⟨⟩
  exact holds

theorem bind {first : Computation α} {next : α → Computation β}
    (maintains : Maintains sort middle first)
    (later : ∀ value, middle value → Maintains sort goodNext (next value)) :
    Maintains sort goodNext (first >>= next) := by
  intro store binds
  rcases maintains store binds with ⟨kept, holds⟩
  rcases ended : first store with ⟨reason | value, between⟩
  · rw [ended] at kept
    rw [bind_of_error ended]
    exact ⟨kept, nofun⟩
  · rw [ended] at kept holds
    rw [bind_of_ok ended]
    exact later value (holds value rfl) between kept

theorem halt (reason : Halt) : Maintains sort good (Computation.halt reason) :=
  fun _ binds => ⟨binds, nofun⟩

theorem ofExcept {result : Except Halt α}
    (holds : ∀ value, result = .ok value → good value) :
    Maintains sort good (Computation.ofExcept result) :=
  fun _ binds => ⟨binds, holds⟩

theorem freshStamp : Maintains sort (fun _ => True) Computation.freshStamp :=
  fun _ binds => ⟨binds, fun _ _ => trivial⟩

theorem openScope (outer : Nat) : Maintains sort (fun _ => True) (Computation.openScope outer) :=
  fun _ binds => ⟨binds.openScope (some outer), fun _ _ => trivial⟩

theorem lookup (scope : Nat) (name : String) :
    Maintains sort (fun found => ∀ value ∈ found, sort value) (Computation.lookup scope name) := by
  refine fun store binds => ⟨binds, ?_⟩
  rintro found ⟨⟩ value member
  exact binds.get? member

theorem define {value : Value}
    (added : sort value) (scope : Nat) (name : String) :
    Maintains sort (fun _ => True) (Computation.define scope name value) :=
  fun _ binds => ⟨binds.define added scope name, fun _ _ => trivial⟩

theorem defineAll {bindings : List (String × Value)}
    (added : ∀ binding ∈ bindings, sort binding.2) (scope : Nat) :
    Maintains sort (fun _ => True) (Computation.defineAll scope bindings) := by
  induction bindings with
  | nil => exact pure trivial
  | cons head rest induction =>
      rw [List.forall_mem_cons] at added
      exact bind (define added.1 scope head.1) fun _ _ => induction added.2

theorem assign {value : Value}
    (added : sort value) (scope : Nat) (name : String) :
    Maintains sort (fun _ => True) (Computation.assign scope name value) := by
  intro store binds
  refine ⟨?_, fun _ _ => trivial⟩
  cases resolved : store.resolve scope name with
  | none =>
      rw [assign_of_resolve_eq_none resolved]
      exact binds
  | some holder =>
      rw [assign_of_resolve resolved]
      exact binds.define added holder name

end Computation.Maintains

/-- Whether a run keeps the values of the store covered and ends as expected. -/
abbrev Computation.Covers (run : Computation Value) : Prop :=
  run.Maintains Value.IsCovered Value.IsExpected

namespace Computation.Covers

theorem newArray {elements : List Value}
    (covered : ∀ element ∈ elements, element.IsCovered) :
    Covers (Computation.newArray elements) :=
  .bind .freshStamp fun stamp _ => .pure (Value.isCovered_array covered stamp).isExpected

theorem newHash {entries : List Entry}
    (covered : ∀ entry ∈ entries, entry.shown.IsCovered ∧ entry.value.IsCovered) :
    Covers (Computation.newHash entries) :=
  .bind .freshStamp fun stamp _ => .pure (Value.isCovered_hash covered stamp).isExpected

theorem renew {value : Value}
    (holds : value.IsExpected) :
    Covers (Computation.renew value) := by
  unfold Computation.renew
  split
  · exact .bind .freshStamp fun stamp _ => .pure (Obeys.leaf trivial rfl)
  · exact .pure holds

theorem evaluateName (scope : Nat) (name : String) :
    Covers (Jet.evaluateName scope name) := by
  refine .bind (.lookup scope name) fun found covered => ?_
  cases found with
  | some value => exact .pure (Value.IsCovered.isExpected (covered value rfl))
  | none =>
      dsimp only
      split
      · exact .pure (Obeys.leaf trivial rfl)
      · exact .pure trivial

theorem assignName {value : Value}
    (covered : value.IsCovered) (scope : Nat) (name : String) :
    Covers (Jet.assignName scope name value) := by
  refine .bind (.assign covered scope name) fun assigned _ => ?_
  cases assigned with
  | true => exact .pure (Value.IsCovered.isExpected covered)
  | false => exact .pure trivial

theorem onArray {builtin : Builtin} {argument : Value} {next : List Value → Computation Value}
    (covered : argument.IsCovered)
    (later : ∀ elements : List Value, (∀ element ∈ elements, element.IsCovered) →
      Covers (next elements)) :
    Covers (builtin.onArray argument next) := by
  unfold Builtin.onArray
  split
  · exact later _ fun element => covered.child
  · exact .pure trivial

theorem builtin {arguments : List Value}
    (covered : ∀ argument ∈ arguments, argument.IsCovered) (builtin : Builtin) :
    Covers (builtin.apply arguments) := by
  unfold Builtin.apply
  split
  · exact .pure (isExpected_length _)
  · refine onArray (covered _ List.mem_cons_self) fun elements inside => .pure ?_
    cases elements with
    | nil => exact Obeys.leaf trivial rfl
    | cons first rest => exact Value.IsCovered.isExpected (inside first List.mem_cons_self)
  · refine onArray (covered _ List.mem_cons_self) fun elements inside => .pure ?_
    rw [List.getLastD_eq_getLast?]
    cases last : elements.getLast? with
    | none => exact Obeys.leaf trivial rfl
    | some element =>
        exact Value.IsCovered.isExpected (inside element (List.mem_of_getLast? last))
  · refine onArray (covered _ List.mem_cons_self) fun elements inside => ?_
    cases elements with
    | nil => exact .pure (Obeys.leaf trivial rfl)
    | cons first rest =>
        exact newArray fun element member => inside element (List.mem_cons_of_mem _ member)
  · refine onArray (covered _ List.mem_cons_self) fun elements inside => newArray ?_
    refine List.forall_mem_append.mpr ⟨inside, List.forall_mem_singleton.mpr ?_⟩
    exact covered _ (List.mem_cons_of_mem _ List.mem_cons_self)
  · exact .pure (Obeys.leaf trivial rfl)
  · exact .pure (Obeys.leaf trivial rfl)
  · exact .pure trivial

/-! ## Parts -/

/-- What is gathered of operands that are covered. -/
theorem onGathered_inTurn {limit scope : Nat} {settled? : List Value → Option Value}
    {parts : List Part} {values : List Value} {next : List Value → Computation Value}
    (each : ∀ part ∈ parts, Covers (part.evaluate limit scope))
    (settles : ∀ values result, settled? values = some result → result.IsExpected)
    (covered : ∀ value ∈ values, value.IsCovered)
    (later : ∀ values : List Value, (∀ value ∈ values, value.IsCovered) → Covers (next values)) :
    Covers (onGathered (inTurn limit scope settled? parts values) next) := by
  induction parts generalizing values with
  | nil => exact later values covered
  | cons part rest induction =>
      rw [List.forall_mem_cons] at each
      cases settled : settled? values with
      | some result =>
          rw [inTurn, settled]
          exact .pure (settles values result settled)
      | none =>
          rw [onGathered_inTurn_cons part rest values next settled]
          refine .bind each.1 fun value expected => ?_
          split
          · exact .pure expected
          · rename_i noSignal
            refine induction each.2 (List.forall_mem_append.mpr ⟨covered, ?_⟩)
            exact List.forall_mem_singleton.mpr
              (expected.isCovered (Bool.eq_false_iff.mpr noSignal))

end Computation.Covers

namespace Part

open Jet.Computation

/-- The operands of a part are among its children. -/
theorem mem_children_of_mem_operands {whole part : Part}
    (member : part ∈ whole.operands) :
    part ∈ whole.children := by
  unfold operands at member
  split at member
  · rename_i condition consequence alternative
    cases List.mem_singleton.mp member
    cases alternative <;> exact List.mem_cons_self
  · cases member
  · cases member
  · exact member

/-- What settles a part early is a truth value or an error for a key. -/
theorem isExpected_of_settled? {whole : Part} {values : List Value} {result : Value}
    (settled : whole.settled? values = some result) :
    result.IsExpected := by
  unfold settled? at settled
  split at settled
  · unfold shortCut? at settled
    split at settled
    · split at settled
      · split at settled <;> cases settled
        exact Obeys.leaf trivial rfl
      · cases settled
    · cases settled
  · induction values using unusableKey?.induct with
    | case1 => cases settled
    | case2 shown key known =>
        rw [unusableKey?, known] at settled
        cases settled
    | case3 shown unknown =>
        rw [unusableKey?, unknown] at settled
        cases settled
        trivial
    | case4 shown value rest induction => exact induction settled
  · cases settled

variable {limit : Nat}

/-- A branch or a block that is evaluated in a new scope. -/
theorem covers_inner {block : Part} (scope : Nat)
    (covers : ∀ scope, Covers (block.evaluate limit scope)) :
    Covers (do block.evaluate limit (← openScope scope)) :=
  .bind (.openScope scope) fun id _ => covers id

/-- What a part does of its own with covered values, one case for each kind of parts. -/
theorem covers_complete (scope : Nat) {whole : Part} {values : List Value}
    (calls : ∀ (function : Value) (arguments : List Value), function.IsCovered →
      (∀ argument ∈ arguments, argument.IsCovered) →
        Covers (applyFunction limit function arguments))
    (known : Part.Obeys HasKnownOperator whole)
    (blocks : ∀ child ∈ whole.children, ∀ scope, Covers (child.evaluate limit scope))
    (covered : ∀ value ∈ values, value.IsCovered) :
    Covers (whole.complete limit scope values) := by
  unfold complete
  split
  case h_1 name => exact .evaluateName scope name
  case h_6 operator operand value => exact .renew (isExpected_unaryOperation known.holds)
  case h_7 left operator right leftValue rightValue =>
    cases connective : Connective.ofSymbol? operator with
    | some _ => exact .pure (Obeys.leaf trivial rfl)
    | none =>
        refine .bind (.ofExcept fun value computed => ?_) fun value expected =>
          Covers.renew expected
        exact isExpected_binaryOperation known.holds connective computed
  case h_8 name _ value => exact .assignName (covered value List.mem_cons_self) scope name
  case h_9 condition consequence alternative value =>
    split
    · refine covers_inner scope (blocks (.block consequence) ?_)
      cases alternative <;> exact List.mem_cons_of_mem _ List.mem_cons_self
    · cases alternative with
      | none => exact .pure (Obeys.leaf trivial rfl)
      | some block =>
          refine covers_inner scope (blocks (.block block) ?_)
          exact List.mem_cons_of_mem _ (List.mem_cons_of_mem _ List.mem_cons_self)
  case h_10 parameters body =>
    refine .bind .freshStamp fun stamp _ => .pure ?_
    exact Obeys.leaf (known.child List.mem_cons_self) rfl
  case h_11 callee _ function arguments =>
    rw [List.forall_mem_cons] at covered
    exact calls function arguments covered.1 covered.2
  case h_12 elements => exact .newArray covered
  case h_13 _ _ collection position =>
    exact .pure (isExpected_indexOperation (covered collection List.mem_cons_self) position)
  case h_14 pairs => exact .newHash (Entry.isCovered_insertAll covered nofun)
  case h_15 name _ value =>
    exact .bind (.define (covered value List.mem_cons_self) scope name) fun _ _ =>
      .pure (Obeys.leaf trivial rfl)
  case h_16 _ value => exact .pure (covered value List.mem_cons_self)
  case h_18 _ value => exact .pure (Value.IsCovered.isExpected (covered value List.mem_cons_self))
  case h_19 body => exact covers_inner scope (blocks (.block body) List.mem_cons_self)
  case h_20 trees =>
    rw [List.getLastD_eq_getLast?]
    cases last : values.getLast? with
    | none => exact .pure (Obeys.leaf trivial rfl)
    | some value =>
        exact .pure (Value.IsCovered.isExpected (covered value (List.mem_of_getLast? last)))
  all_goals exact .pure (Obeys.leaf trivial rfl)

/-- Over calls that keep everything covered, so does the evaluation of every part. -/
theorem covers
    (calls : ∀ (function : Value) (arguments : List Value), function.IsCovered →
      (∀ argument ∈ arguments, argument.IsCovered) →
        Covers (applyFunction limit function arguments))
    (whole : Part) (known : Part.Obeys HasKnownOperator whole) (scope : Nat) :
    Covers (whole.evaluate limit scope) := by
  induction whole using Part.induction generalizing scope with
  | step whole induction =>
      have blocks : ∀ child ∈ whole.children, ∀ scope, Covers (child.evaluate limit scope) :=
        fun child member => induction child member (known.child member)
      rw [evaluate_eq_inTurn]
      refine .onGathered_inTurn
        (fun part member => blocks part (mem_children_of_mem_operands member) scope)
        (fun _ _ => isExpected_of_settled?) nofun fun values covered => ?_
      exact covers_complete scope calls known blocks covered

end Part

/-! ## Calls and programs -/

open Jet.Computation

/-- Calls of covered values keep everything covered, however deep they may nest. -/
theorem applyFunction_covers (limit : Nat) {function : Value} {arguments : List Value}
    (covered : function.IsCovered) (given : ∀ argument ∈ arguments, argument.IsCovered) :
    Covers (applyFunction limit function arguments) := by
  unfold applyFunction
  split
  · rename_i parameters body captured
    split
    · exact .pure trivial
    · cases limit with
      | zero => exact .halt _
      | succ limit =>
          have calls := Part.covers (fun _ _ => applyFunction_covers limit) (.block body)
          refine .bind (.openScope captured) fun scope _ => ?_
          refine .bind (.defineAll (fun binding member => ?_) scope) fun _ _ => ?_
          · exact given binding.2 (List.of_mem_zip member).2
          · refine .bind (calls covered.holds scope) fun result expected => ?_
            exact .pure expected.unwrapped
  · exact .builtin given _
  · exact .pure trivial

/-- A program that knows its operators keeps everything covered. -/
theorem Program.run_covers {program : Program}
    (known : Part.Obeys Part.HasKnownOperator (.block program.statements)) (scope limit : Nat) :
    Covers (program.run scope limit) := by
  refine .bind (Part.covers (fun _ _ => ?_) (.block program.statements) known scope) ?_
  · exact applyFunction_covers limit
  · exact fun _ expected => .pure expected.unwrapped

end Jet
