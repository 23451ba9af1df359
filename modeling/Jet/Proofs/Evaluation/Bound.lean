import Jet.Proofs.Evaluation.Hygiene
import Jet.Proofs.Evaluation.Steps

/-!
# The bound on nested calls

The number of nested calls that are allowed does nothing but cut runs off.  One run approximates
another if it ends as the other does, with the same result in the same store, from every store from
which it does not run out of nested calls.

Approximation is kept by putting computations one behind the other.  So, over a way of calling
functions that approximates another, the evaluation of every tree approximates that over the other
one, by induction on the tree; and by induction on the bound, calls within a bound approximate calls
within every greater bound.
-/

namespace Jet

variable {α β : Type}

/-- Whether a run ends as another does wherever it does not run out of nested calls. -/
def Computation.Approximates (run other : Computation α) : Prop :=
  ∀ store, (run store).1 ≠ .error .depthExceeded → other store = run store

namespace Computation.Approximates

theorem refl (run : Computation α) : run.Approximates run :=
  fun _ _ => rfl

/-- A run that is cut off for its nested calls approximates every run. -/
theorem depthExceeded (other : Computation α) :
    (Computation.halt .depthExceeded).Approximates other :=
  fun _ finished => absurd rfl finished

/--
Computations one behind the other approximate others one behind the other.  If the first one runs
out of nested calls, so does the whole; else both sides go on from the same store.
-/
theorem bind {first otherFirst : Computation α} {next otherNext : α → Computation β}
    (approximates : first.Approximates otherFirst)
    (later : ∀ value, (next value).Approximates (otherNext value)) :
    (first >>= next).Approximates (otherFirst >>= otherNext) := by
  intro store finished
  rcases equal : first store with ⟨reason | value, between⟩
  · rw [bind_of_error equal] at finished ⊢
    have firstFinished : (first store).1 ≠ .error .depthExceeded := by
      rw [equal]
      exact fun cutOff => finished (congrArg Except.error (Except.error.inj cutOff))
    exact bind_of_error ((approximates store firstFinished).trans equal) otherNext
  · rw [bind_of_ok equal] at finished ⊢
    have firstFinished : (first store).1 ≠ .error .depthExceeded := by
      rw [equal]
      exact nofun
    rw [bind_of_ok ((approximates store firstFinished).trans equal)]
    exact later value between finished

/-- What is done with a result may stay the same. -/
theorem bind_same {first otherFirst : Computation α}
    (approximates : first.Approximates otherFirst) (next : α → Computation β) :
    (first >>= next).Approximates (otherFirst >>= next) :=
  bind approximates fun value => refl (next value)

/-- What comes first may stay the same. -/
theorem bind_later {next otherNext : α → Computation β} (first : Computation α)
    (later : ∀ value, (next value).Approximates (otherNext value)) :
    (first >>= next).Approximates (first >>= otherNext) :=
  bind (refl first) later

theorem andThen {first otherFirst : Computation Value}
    {next otherNext : Value → Computation Value}
    (approximates : first.Approximates otherFirst)
    (later : ∀ value, (next value).Approximates (otherNext value)) :
    (Computation.andThen first next).Approximates (Computation.andThen otherFirst otherNext) := by
  refine bind approximates fun value => ?_
  split
  · exact refl _
  · exact later value

end Computation.Approximates

/-! ## Trees -/

/-- A way of calling functions approximates another for all functions and arguments. -/
def Call.Approximates (call other : Call) : Prop :=
  ∀ function arguments, (call function arguments).Approximates (other function arguments)

/-- Whether the evaluation of a part, over one way of calling functions, approximates another. -/
def Part.Approximates (call other : Call) : Part → Prop
  | .expression tree => ∀ scope, (tree.evaluate call scope).Approximates (tree.evaluate other scope)
  | .statement tree => ∀ scope, (tree.evaluate call scope).Approximates (tree.evaluate other scope)
  | .block trees => ∀ last scope,
      (evaluateStatements call trees last scope).Approximates
        (evaluateStatements other trees last scope)

namespace Part.Approximates

open Jet.Computation.Approximates

variable {call other : Call} {scope : Nat}

theorem evaluateAll {trees : List Expr}
    (each : ∀ tree ∈ trees, Part.Approximates call other (.expression tree)) :
    (Jet.evaluateAll call trees scope).Approximates (Jet.evaluateAll other trees scope) := by
  induction trees with
  | nil => exact refl _
  | cons tree rest induction =>
      rw [List.forall_mem_cons] at each
      rw [Jet.evaluateAll, Jet.evaluateAll]
      refine Computation.Approximates.bind (each.1 scope) fun value => ?_
      split
      · exact refl _
      · exact bind_same (induction each.2) _

theorem evaluatePairs {trees : List (Expr × Expr)} (entries : List Entry)
    (each : ∀ pair ∈ trees, Part.Approximates call other (.expression pair.1) ∧
      Part.Approximates call other (.expression pair.2)) :
    (Jet.evaluatePairs call trees entries scope).Approximates
      (Jet.evaluatePairs other trees entries scope) := by
  induction trees generalizing entries with
  | nil => exact refl _
  | cons pair rest induction =>
      rcases pair with ⟨keyTree, valueTree⟩
      rw [List.forall_mem_cons] at each
      rw [Jet.evaluatePairs, Jet.evaluatePairs]
      refine Computation.Approximates.bind (each.1.1 scope) fun shown => ?_
      split
      · exact refl _
      cases shown.key? with
      | none => exact refl _
      | some key =>
          refine Computation.Approximates.bind (each.1.2 scope) fun value => ?_
          split
          · exact refl _
          · exact induction _ each.2

theorem block {trees : List Stmt}
    (each : ∀ tree ∈ trees, Part.Approximates call other (.statement tree)) :
    Part.Approximates call other (.block trees) := by
  induction trees with
  | nil => exact fun _ _ => refl _
  | cons tree rest induction =>
      rw [List.forall_mem_cons] at each
      intro last scope
      rw [evaluateStatements, evaluateStatements]
      exact Computation.Approximates.andThen (each.1 scope) fun value =>
        induction each.2 value scope

/-- Statements in a new scope. -/
theorem inner {trees : List Stmt}
    (block : Part.Approximates call other (.block trees)) :
    (Computation.openScope scope >>= evaluateStatements call trees .null).Approximates
      (Computation.openScope scope >>= evaluateStatements other trees .null) :=
  bind_later _ fun id => block .null id

theorem statement {tree : Stmt}
    (each : ∀ child ∈ Part.children (.statement tree), Part.Approximates call other child) :
    Part.Approximates call other (.statement tree) := by
  intro scope
  cases tree with
  | bind name value =>
      have valueApproximates := each _ List.mem_cons_self scope
      rw [Stmt.evaluate, Stmt.evaluate]
      exact Computation.Approximates.andThen valueApproximates fun bound => refl _
  | «return» value =>
      cases value with
      | none => exact refl _
      | some value =>
          have valueApproximates := each _ List.mem_cons_self scope
          rw [Stmt.evaluate, Stmt.evaluate]
          exact Computation.Approximates.andThen valueApproximates fun result => refl _
  | expression value => exact each _ List.mem_cons_self scope
  | block body => exact inner (each _ List.mem_cons_self)

theorem binary {left right : Expr}
    (leftApproximates : Part.Approximates call other (.expression left))
    (rightApproximates : Part.Approximates call other (.expression right)) (operator : String) :
    Part.Approximates call other (.expression (.binary left operator right)) := by
  intro scope
  rw [Expr.evaluate, Expr.evaluate]
  refine Computation.Approximates.andThen (leftApproximates scope) fun leftValue => ?_
  cases Connective.ofSymbol? operator with
  | some connective =>
      dsimp only
      split
      · exact refl _
      · exact Computation.Approximates.andThen (rightApproximates scope) fun rightValue => refl _
  | none =>
      exact Computation.Approximates.andThen (rightApproximates scope) fun rightValue => refl _

theorem conditional {condition : Expr} {consequence : List Stmt} {alternative : Option (List Stmt)}
    (conditionApproximates : Part.Approximates call other (.expression condition))
    (consequenceApproximates : Part.Approximates call other (.block consequence))
    (othersApproximate : ∀ block ∈ alternative, Part.Approximates call other (.block block)) :
    Part.Approximates call other
      (.expression (.conditional condition consequence alternative)) := by
  intro scope
  rw [Expr.evaluate_conditional, Expr.evaluate_conditional]
  refine Computation.Approximates.andThen (conditionApproximates scope) fun value => ?_
  split
  · exact inner consequenceApproximates
  · cases alternative with
    | none => exact refl _
    | some block => exact inner (othersApproximate block rfl)

theorem callExpression {callee : Expr} {arguments : List Expr}
    (calls : call.Approximates other)
    (calleeApproximates : Part.Approximates call other (.expression callee))
    (each : ∀ tree ∈ arguments, Part.Approximates call other (.expression tree)) :
    Part.Approximates call other (.expression (.call callee arguments)) := by
  intro scope
  rw [Expr.evaluate, Expr.evaluate]
  refine Computation.Approximates.andThen (calleeApproximates scope) fun function => ?_
  refine Computation.Approximates.bind (evaluateAll each) fun gathered => ?_
  cases gathered with
  | ok values => exact calls function values
  | error signal => exact refl _

theorem index {collection position : Expr}
    (collectionApproximates : Part.Approximates call other (.expression collection))
    (positionApproximates : Part.Approximates call other (.expression position)) :
    Part.Approximates call other (.expression (.index collection position)) := by
  intro scope
  rw [Expr.evaluate, Expr.evaluate]
  refine Computation.Approximates.andThen (collectionApproximates scope) fun value => ?_
  exact Computation.Approximates.andThen (positionApproximates scope) fun place => refl _

theorem expression {tree : Expr}
    (calls : call.Approximates other)
    (each : ∀ child ∈ Part.children (.expression tree), Part.Approximates call other child) :
    Part.Approximates call other (.expression tree) := by
  cases tree with
  | name | integer | float | boolean | string | null | function => exact fun scope => refl _
  | unary | assign =>
      intro scope
      rw [Expr.evaluate, Expr.evaluate]
      exact Computation.Approximates.andThen (each _ List.mem_cons_self scope) fun value => refl _
  | binary left operator right =>
      exact binary (each _ List.mem_cons_self)
        (each _ (List.mem_cons_of_mem _ List.mem_cons_self)) operator
  | conditional condition consequence alternative =>
      rcases Part.forall_mem_children_conditional.mp each with ⟨condition, consequence, others⟩
      exact conditional condition consequence others
  | call callee arguments =>
      exact callExpression calls (each _ List.mem_cons_self) fun tree member =>
        each _ (List.mem_cons_of_mem _ (List.mem_map_of_mem member))
  | array elements =>
      intro scope
      rw [Expr.evaluate, Expr.evaluate]
      exact bind_same (evaluateAll fun tree member => each _ (List.mem_map_of_mem member)) _
  | index collection position =>
      exact index (each _ List.mem_cons_self) (each _ (List.mem_cons_of_mem _ List.mem_cons_self))
  | hash pairs =>
      intro scope
      rw [Expr.evaluate, Expr.evaluate]
      exact bind_same (evaluatePairs [] (Part.forall_mem_children_hash.mp each)) _

end Part.Approximates

/-- Over calls that approximate others, the evaluation of every part approximates the other one. -/
theorem Part.approximates {call other : Call} (calls : call.Approximates other) (whole : Part) :
    whole.Approximates call other := by
  induction whole using Part.induction with
  | step whole induction =>
      cases whole with
      | expression tree => exact .expression calls induction
      | statement tree => exact .statement induction
      | block trees => exact .block fun tree member => induction _ (List.mem_map_of_mem member)

/-! ## Calls and programs -/

/-- Calls within a bound approximate calls within every greater bound. -/
theorem applyFunction_approximates {fewer more : Nat} (le : fewer ≤ more) :
    Call.Approximates (applyFunction fewer) (applyFunction more) := by
  intro function arguments
  unfold applyFunction
  split
  · rename_i stamp parameters body captured
    split
    · exact .refl _
    · cases fewer with
      | zero => exact .depthExceeded _
      | succ fewer =>
          obtain ⟨more, rfl⟩ := Nat.exists_eq_add_one_of_ne_zero (Nat.ne_zero_of_lt le)
          have calls := applyFunction_approximates (Nat.le_of_succ_le_succ le)
          refine .bind_later _ fun scope => .bind_later _ fun _ => ?_
          exact .bind_same (Part.approximates calls (.block body) .null scope) _
  · exact .refl _
  · exact .refl _

variable {fewer more : Nat}

theorem Part.evaluate_approximates (le : fewer ≤ more) (part : Part) (scope : Nat) :
    (part.evaluate fewer scope).Approximates (part.evaluate more scope) := by
  have approximates := Part.approximates (applyFunction_approximates le) part
  cases part with
  | expression | statement => exact approximates scope
  | block => exact approximates .null scope

theorem Program.run_approximates (le : fewer ≤ more) (program : Program) (scope : Nat) :
    (program.run scope fewer).Approximates (program.run scope more) :=
  .bind_same (Part.evaluate_approximates le (.block program.statements) scope) _

end Jet
