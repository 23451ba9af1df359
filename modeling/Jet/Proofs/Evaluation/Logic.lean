import Jet.Proofs.Evaluation.Interruption
import Jet.Proofs.Evaluation.Steps

/-!
# The operators of logic

A formula is made of operands, which may be any expressions, by `!`, `&&` and `||`.  What it comes to
is decided by asking operands one after another, each of them only if the answers so far leave the
formula open.  `Formula.plan` works out what is asked after which answer; a formula with operators is
evaluated by going through its plan, up to the first operand that gives a signal.

So formulas with the same plan do the same in every store: they evaluate the same operands in the
same order and end with the same result in the same store.  The laws of De Morgan and of association
are among those that hold of plans by mere computation.
-/

namespace Jet

open Jet.Computation Jet.Evaluation

/-- The symbol of a connective. -/
def Connective.symbol : Connective → String
  | and => "&&"
  | or => "||"

/-- Expressions joined by the operators of logic. -/
inductive Formula where
  | operand (tree : Expr)
  | not (formula : Formula)
  | join (connective : Connective) (left right : Formula)

/-- Which operand is asked next, and how to go on with either answer. -/
inductive Plan where
  | finish (truth : Bool)
  | ask (tree : Expr) (yes no : Plan)

/-! ## Going on after a value -/

namespace Evaluation

/-- What is undertaken after a computation, if that ends with a value and no signal. -/
def afterValue (first : Computation Value) (store : Store) (next : Value → Store → List Evaluation) :
    List Evaluation :=
  onResult first store fun value after => if value.isSignal then [] else next value after

variable {store : Store}

/-- What is undertaken behind a computation is the same nothing, or goes on from the same value. -/
theorem afterValue_cases (first : Computation Value) (store : Store) :
    (∀ next, afterValue first store next = []) ∨
      ∃ value after, ∀ next, afterValue first store next = next value after := by
  simp only [afterValue, onResult]
  rcases first store with ⟨reason | value, after⟩
  · exact .inl fun _ => rfl
  · by_cases signal : value.isSignal = true
    · exact .inl fun _ => if_pos signal
    · exact .inr ⟨value, after, fun _ => if_neg signal⟩

theorem afterValue_andThen (first : Computation Value) (later : Value → Computation Value)
    (next : Value → Store → List Evaluation) :
    afterValue (andThen first later) store next =
      afterValue first store fun value between => afterValue (later value) between next := by
  simp only [afterValue, onResult, andThen_apply]
  rcases first store with ⟨reason | value, between⟩
  · rfl
  · by_cases signal : value.isSignal = true
    · simp only [signal, if_true]
    · simp only [signal, Bool.false_eq_true, if_false]

theorem afterValue_append (first : Computation Value)
    (next other : Value → Store → List Evaluation) :
    afterValue first store next ++ afterValue first store other =
      afterValue first store fun value after => next value after ++ other value after := by
  rcases afterValue_cases first store with nothing | ⟨value, after, goesOn⟩
  · rw [nothing, nothing, nothing, List.append_nil]
  · rw [goesOn, goesOn, goesOn]

theorem flatMap_afterValue (first : Computation Value) (more : Evaluation → List Evaluation)
    (next : Value → Store → List Evaluation) :
    (afterValue first store next).flatMap more =
      afterValue first store fun value after => (next value after).flatMap more := by
  rcases afterValue_cases first store with nothing | ⟨value, after, goesOn⟩
  · rw [nothing, nothing, List.flatMap_nil]
  · rw [goesOn, goesOn]

end Evaluation

/-! ## Formulas and plans -/

namespace Formula

instance : Coe Expr Formula := ⟨.operand⟩

/-- The expression that a formula stands for. -/
def tree : Formula → Expr
  | operand tree => tree
  | not formula => .unary "!" formula.tree
  | join connective left right => .binary left.tree connective.symbol right.tree

/-- Both of two formulas. -/
def and (left right : Formula) : Formula :=
  join .and left right

/-- One of two formulas at least. -/
def or (left right : Formula) : Formula :=
  join .or left right

/-- Whether a formula has an operator. -/
def IsJoined : Formula → Prop
  | operand _ => False
  | not _ | join .. => True

/-- The evaluation of a formula. -/
def evaluation (limit scope : Nat) (formula : Formula) (store : Store) : Evaluation :=
  ⟨limit, .part (.expression formula.tree) scope, store⟩

/--
The evaluations of operands that the evaluation of a formula comes to, in order.  Two joined formulas
begin with the left one; what is undertaken behind that, if anything, is the right one.
-/
def operands (limit scope : Nat) : Formula → Store → List Evaluation
  | operand tree, store => [⟨limit, .part (.expression tree) scope, store⟩]
  | not formula, store => formula.operands limit scope store
  | join connective left right, store =>
      left.operands limit scope store ++
        ((join connective left right).evaluation limit scope store).parts.tail.flatMap fun part =>
          right.operands limit scope part.store

/-- The plan of a formula, given how to go on if it is true and if it is false. -/
def plan : Formula → Plan → Plan → Plan
  | operand tree, yes, no => .ask tree yes no
  | not formula, yes, no => formula.plan no yes
  | join .and left right, yes, no => left.plan (right.plan yes no) no
  | join .or left right, yes, no => left.plan yes (right.plan yes no)

end Formula

namespace Plan

/-- Asks the operands that a plan comes to. -/
def run (limit scope : Nat) : Plan → Computation Value
  | finish truth => pure (.boolean truth)
  | ask tree yes no =>
      andThen (tree.evaluate (applyFunction limit) scope) fun value =>
        if value.isTruthy then yes.run limit scope else no.run limit scope

/-- The evaluations of operands that a plan comes to, in order. -/
def operands (limit scope : Nat) : Plan → Store → List Evaluation
  | finish _, _ => []
  | ask tree yes no, store =>
      follow ⟨limit, .part (.expression tree) scope, store⟩ fun value after =>
        if value.isTruthy then yes.operands limit scope after else no.operands limit scope after

/-- The one of two plans that the truth of a value chooses. -/
def choose (yes no : Plan) (value : Value) : Plan :=
  if value.isTruthy then yes else no

theorem choose_not (yes no : Plan) (value : Value) :
    choose yes no (.boolean !value.isTruthy) = choose no yes value := by
  rw [choose, choose, Value.isTruthy]
  cases value.isTruthy <;> rfl

variable {limit scope : Nat}

theorem run_ask (tree : Expr) (yes no : Plan) :
    (ask tree yes no).run limit scope =
      andThen (tree.evaluate (applyFunction limit) scope) fun value =>
        (choose yes no value).run limit scope := by
  simp only [run, choose, apply_ite (run limit scope)]

theorem operands_ask (tree : Expr) (yes no : Plan) (store : Store) :
    (ask tree yes no).operands limit scope store =
      follow ⟨limit, .part (.expression tree) scope, store⟩ fun value after =>
        (choose yes no value).operands limit scope after := by
  rw [operands]
  congr 1
  funext value after
  rw [choose]
  split <;> rfl

end Plan

/-! ## Formulas go by their plans -/

namespace Formula

variable {limit scope : Nat}

theorem evaluate_not (formula : Formula) (call : Call) :
    formula.not.tree.evaluate call scope =
      andThen (formula.tree.evaluate call scope) fun value => pure (.boolean !value.isTruthy) :=
  rfl

theorem evaluate_join (connective : Connective) (left right : Formula) (call : Call) :
    (join connective left right).tree.evaluate call scope =
      andThen (left.tree.evaluate call scope) fun value =>
        if connective.isSettledBy value then pure (.boolean value.isTruthy)
        else andThen (right.tree.evaluate call scope) fun value => pure (.boolean value.isTruthy) := by
  rw [tree, Expr.evaluate]
  cases connective <;> rfl

theorem parts_join (connective : Connective) (left right : Formula) (store : Store) :
    ((join connective left right).evaluation limit scope store).parts.tail =
      afterValue (left.tree.evaluate (applyFunction limit) scope) store fun value between =>
        if connective.isSettledBy value then [] else [right.evaluation limit scope between] := by
  cases connective <;> rfl

/-- What is asked after the left of two joined formulas: nothing more of them if that settles them. -/
theorem exists_plan_join (connective : Connective) (left right : Formula) (yes no : Plan) :
    ∃ onTrue onFalse, (join connective left right).plan yes no = left.plan onTrue onFalse ∧
      ∀ value : Value, Plan.choose onTrue onFalse value =
        if connective.isSettledBy value then Plan.choose yes no value else right.plan yes no := by
  cases connective with
  | and =>
      refine ⟨right.plan yes no, no, rfl, fun value => ?_⟩
      rw [Connective.isSettledBy, Plan.choose, Plan.choose]
      cases value.isTruthy <;> rfl
  | or =>
      refine ⟨yes, right.plan yes no, rfl, fun value => ?_⟩
      rw [Connective.isSettledBy, Plan.choose, Plan.choose]
      cases value.isTruthy <;> rfl

/-- Going on by the truth of a formula is going through its plan. -/
theorem andThen_evaluate (formula : Formula) (yes no : Plan) :
    (andThen (formula.tree.evaluate (applyFunction limit) scope) fun value =>
      (Plan.choose yes no value).run limit scope) = (formula.plan yes no).run limit scope := by
  induction formula generalizing yes no with
  | operand tree => exact (Plan.run_ask tree yes no).symm
  | not formula induction =>
      rw [plan, ← induction, evaluate_not, andThen_assoc]
      congr 1
      funext value
      rw [andThen_pure rfl, Plan.choose_not]
  | join connective left right leftInduction rightInduction =>
      rcases exists_plan_join connective left right yes no with ⟨onTrue, onFalse, planned, chosen⟩
      rw [planned, ← leftInduction, evaluate_join, andThen_assoc]
      congr 1
      funext value
      rw [chosen]
      split
      · exact andThen_pure rfl _
      · rw [andThen_assoc, ← rightInduction]
        rfl

/-- The operands of a formula, and those that come after it by its truth, are those of its plan. -/
theorem operands_append (formula : Formula) (yes no : Plan) (store : Store) :
    (formula.operands limit scope store ++
      afterValue (formula.tree.evaluate (applyFunction limit) scope) store fun value after =>
        (Plan.choose yes no value).operands limit scope after) =
      (formula.plan yes no).operands limit scope store := by
  induction formula generalizing yes no store with
  | operand tree => exact (Plan.operands_ask tree yes no store).symm
  | not formula induction =>
      rw [plan, ← induction, evaluate_not, operands, afterValue_andThen]
      congr 2
      funext value after
      rw [← Plan.choose_not]
      rfl
  | join connective left right leftInduction rightInduction =>
      rcases exists_plan_join connective left right yes no with ⟨onTrue, onFalse, planned, chosen⟩
      rw [planned, ← leftInduction, evaluate_join, operands, parts_join, flatMap_afterValue,
        afterValue_andThen, List.append_assoc, afterValue_append]
      congr 2
      funext value between
      rw [chosen]
      split
      · rfl
      · rw [← rightInduction, afterValue_andThen, List.flatMap_singleton]
        rfl

/-- The value of a formula with an operator is a truth already. -/
theorem andThen_truth {formula : Formula} (joined : formula.IsJoined) (call : Call) :
    (andThen (formula.tree.evaluate call scope) fun value => pure (.boolean value.isTruthy)) =
      formula.tree.evaluate call scope := by
  cases formula with
  | operand tree => exact joined.elim
  | not formula =>
      rw [evaluate_not, andThen_assoc]
      rfl
  | join connective left right =>
      rw [evaluate_join, andThen_assoc]
      congr 1
      funext value
      split
      · rfl
      · rw [andThen_assoc]
        rfl

/-- A formula with an operator is evaluated by going through its plan. -/
theorem evaluate_eq_run {formula : Formula} (joined : formula.IsJoined) :
    formula.tree.evaluate (applyFunction limit) scope =
      (formula.plan (.finish true) (.finish false)).run limit scope := by
  have finished (value : Value) : pure (.boolean value.isTruthy) =
      (Plan.choose (.finish true) (.finish false) value).run limit scope := by
    rw [Plan.choose]
    cases value.isTruthy <;> rfl
  calc formula.tree.evaluate (applyFunction limit) scope
      = andThen (formula.tree.evaluate (applyFunction limit) scope) fun value =>
          pure (.boolean value.isTruthy) := (andThen_truth joined _).symm
    _ = andThen (formula.tree.evaluate (applyFunction limit) scope) fun value =>
          (Plan.choose (.finish true) (.finish false) value).run limit scope := by
        simp only [finished]
    _ = (formula.plan (.finish true) (.finish false)).run limit scope := andThen_evaluate ..

/-- The operands that a formula comes to are those that its plan comes to. -/
theorem operands_eq (formula : Formula) (store : Store) :
    formula.operands limit scope store =
      (formula.plan (.finish true) (.finish false)).operands limit scope store := by
  have nothing : (afterValue (formula.tree.evaluate (applyFunction limit) scope) store
      fun value after =>
        (Plan.choose (.finish true) (.finish false) value).operands limit scope after) = [] := by
    have finished (value : Value) (after : Store) :
        (Plan.choose (.finish true) (.finish false) value).operands limit scope after = [] := by
      rw [Plan.choose]
      split <;> rfl
    rcases afterValue_cases (formula.tree.evaluate (applyFunction limit) scope) store with
      nothing | ⟨value, after, goesOn⟩
    · exact nothing _
    · rw [goesOn, finished]
  rw [← operands_append, nothing, List.append_nil]

end Formula

/-! ## The laws -/

/--
Whether two formulas do the same in every store: they come to the same operands in the same order,
with the same stores, and end alike in the same store.
-/
structure Formula.AreAlike (limit scope : Nat) (formula other : Formula) : Prop where
  run : ∀ store,
    (formula.evaluation limit scope store).run = (other.evaluation limit scope store).run
  operands : ∀ store, formula.operands limit scope store = other.operands limit scope store

/-- Formulas with operators and the same plan do the same. -/
theorem Formula.AreAlike.of_plan {limit scope : Nat} {formula other : Formula}
    (joined : formula.IsJoined) (otherJoined : other.IsJoined)
    (same : formula.plan (.finish true) (.finish false) = other.plan (.finish true) (.finish false)) :
    AreAlike limit scope formula other := by
  constructor
  · intro store
    change formula.tree.evaluate (applyFunction limit) scope store =
      other.tree.evaluate (applyFunction limit) scope store
    rw [evaluate_eq_run joined, evaluate_eq_run otherJoined, same]
  · intro store
    rw [operands_eq, operands_eq, same]

/-- Whether a formula gives a truth or passes on the signal of an operand that it came to. -/
def Formula.GivesTruth (limit scope : Nat) (formula : Formula) : Prop :=
  ∀ (store : Store) (value : Value) (after : Store),
    (formula.evaluation limit scope store).run = (.ok value, after) →
      (∃ truth, value = .boolean truth) ∨
        value.isSignal = true ∧
          ∃ part ∈ formula.operands limit scope store, part.run = (.ok value, after)

/-- A plan ends with a truth, unless an operand gives a signal. -/
theorem Plan.run_cases {limit scope : Nat} {plan : Plan} {store after : Store} {value : Value}
    (ended : plan.run limit scope store = (.ok value, after)) :
    (∃ truth, value = .boolean truth) ∨
      value.isSignal = true ∧
        ∃ part ∈ plan.operands limit scope store, part.run = (.ok value, after) := by
  induction plan generalizing store with
  | finish truth =>
      cases ended
      exact .inl ⟨truth, rfl⟩
  | ask tree yes no yesInduction noInduction =>
      have chosen {answer : Value} {between : Store}
          (ended : (choose yes no answer).run limit scope between = (.ok value, after)) :
          (∃ truth, value = .boolean truth) ∨
            value.isSignal = true ∧
              ∃ part ∈ (choose yes no answer).operands limit scope between,
                part.run = (.ok value, after) := by
        by_cases truthy : answer.isTruthy = true
        · rw [choose, if_pos truthy] at ended ⊢
          exact yesInduction ended
        · rw [choose, if_neg truthy] at ended ⊢
          exact noInduction ended
      rw [run_ask, andThen_apply] at ended
      rw [operands_ask, follow, onResult]
      dsimp only [Task.run, Part.evaluate]
      rcases asked : tree.evaluate (applyFunction limit) scope store with ⟨reason | answer, between⟩
      · rw [asked] at ended
        cases ended
      · rw [asked] at ended
        dsimp only at ended ⊢
        split at ended
        · rename_i signal
          cases ended
          exact .inr ⟨signal, _, List.mem_cons_self, asked⟩
        · rename_i noSignal
          rw [if_neg noSignal]
          rcases chosen ended with truth | ⟨signal, part, member, ran⟩
          · exact .inl truth
          · exact .inr ⟨signal, part, List.mem_cons_of_mem _ member, ran⟩

theorem Formula.GivesTruth.of_isJoined {limit scope : Nat} {formula : Formula}
    (joined : formula.IsJoined) :
    formula.GivesTruth limit scope := by
  intro store value after ended
  rw [operands_eq]
  refine Plan.run_cases ?_
  rw [← evaluate_eq_run joined]
  exact ended

/--
In every store and from every scope, `!(a && b)` does what `!a || !b` does and `!(a || b)` what
`!a && !b` does, and `&&` and `||` associate: the same operands are evaluated in the same order, with
the same stores, and result and store are the same in the end.  What `a && b` and `a || b` give is a
truth, or else the signal of an operand.
-/
theorem logic_laws (limit scope : Nat) (a b c : Expr) :
    Formula.AreAlike limit scope (.not (.and a b)) (.or (.not a) (.not b)) ∧
    Formula.AreAlike limit scope (.not (.or a b)) (.and (.not a) (.not b)) ∧
    Formula.AreAlike limit scope (.and (.and a b) c) (.and a (.and b c)) ∧
    Formula.AreAlike limit scope (.or (.or a b) c) (.or a (.or b c)) ∧
    Formula.GivesTruth limit scope (.and a b) ∧ Formula.GivesTruth limit scope (.or a b) :=
  ⟨.of_plan trivial trivial rfl, .of_plan trivial trivial rfl, .of_plan trivial trivial rfl,
    .of_plan trivial trivial rfl, .of_isJoined trivial, .of_isJoined trivial⟩

-- An operand that the one in front of it makes superfluous is left out, with all that it would do.
example :
    let store : Store := ⟨#[⟨[("x", .null)], none⟩], 0⟩
    let formula : Formula :=
      .and (Expr.assign "x" (.boolean false)) (Expr.assign "x" (.integer 1))
    (formula.operands 0 0 store).length = 1 ∧
      (formula.evaluation 0 0 store).run.2.get? 0 "x" = some (.boolean false) :=
  ⟨rfl, rfl⟩

end Jet
