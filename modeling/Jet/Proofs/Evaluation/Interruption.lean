import Jet.Proofs.Evaluation.Hygiene
import Jet.Proofs.Value.Remainder

/-!
# Interruptions

An evaluation undertakes others: those of the parts of its tree that it comes to, the calls that it
makes, the bodies of the functions that it calls.  `Evaluation.parts` lists them with the stores in
which they begin, up to the first that is cut off or ends with a signal.  At the bottom are the
steps that can be cut off by themselves: an operator on two values, and the entry into one more
nested call.

An evaluation is cut off exactly if one that it undertakes is, and so, by induction on the calls
that are allowed and on the tree, exactly if one of the steps inside of it is, for the same reason.
-/

namespace Jet

open Jet.Computation

variable {α β : Type}

/-! ## Evaluations -/

/-- Something to be evaluated. -/
inductive Task where
  | part (tree : Part) (scope : Nat)
  | call (function : Value) (arguments : List Value)
  | operation (operator : String) (left right : Value)
  /-- The entry into one more nested call. -/
  | entry

namespace Task

/-- Evaluates a task, with so many nested calls allowed. -/
def run (limit : Nat) : Task → Computation Value
  | part tree scope => tree.evaluate limit scope
  | call function arguments => applyFunction limit function arguments
  | operation operator left right => ofExcept (binaryOperation operator left right)
  | entry => if limit = 0 then halt .depthExceeded else pure .null

/-- Whether a task is not made of others. -/
def IsStep : Task → Prop
  | part .. | call .. => False
  | operation .. | entry => True

/-- The size of a task, which that of everything it undertakes in the same call is below. -/
noncomputable def size : Task → Nat
  | part tree _ => sizeOf tree + 1
  | call .. => 1
  | operation .. | entry => 0

end Task

/-- A task, with so many nested calls allowed, in the store in which it is taken up. -/
structure Evaluation where
  limit : Nat
  task : Task
  store : Store

namespace Evaluation

/-- The result of an evaluation and the store that it leaves. -/
def run (evaluation : Evaluation) : Except Halt Value × Store :=
  evaluation.task.run evaluation.limit evaluation.store

/-- Whether an evaluation is cut off for a reason. -/
def Halts (evaluation : Evaluation) (reason : Halt) : Prop :=
  evaluation.run.1 = .error reason

/-- Whether an evaluation has fewer nested calls left than another, or a smaller task. -/
def IsBelow (inner outer : Evaluation) : Prop :=
  inner.limit < outer.limit ∨ inner.limit = outer.limit ∧ inner.task.size < outer.task.size

theorem isBelow_child {child whole : Part}
    (member : child ∈ whole.children) (limit inside outside : Nat) (store between : Store) :
    IsBelow ⟨limit, .part child inside, between⟩ ⟨limit, .part whole outside, store⟩ :=
  .inr ⟨rfl, Nat.succ_lt_succ (Part.sizeOf_lt_of_mem_children member)⟩

/-- What is undertaken after a computation, if that ends with a result. -/
def onResult (first : Computation α) (store : Store) (next : α → Store → List Evaluation) :
    List Evaluation :=
  match first store with
  | (.ok value, after) => next value after
  | (.error _, _) => []

/-- An evaluation and what is undertaken after it, if that ends with a value and no signal. -/
def follow (first : Evaluation) (next : Value → Store → List Evaluation) : List Evaluation :=
  first :: onResult (first.task.run first.limit) first.store fun value after =>
    if value.isSignal then [] else next value after

/-- The evaluation of parts one after another. -/
def inOrder (limit scope : Nat) : List Part → Store → List Evaluation
  | [], _ => []
  | first :: rest, store =>
      follow ⟨limit, .part first scope, store⟩ fun _ after => inOrder limit scope rest after

/-- The evaluation of the pairs of a hash literal, as far as their keys can be used. -/
def pairsInOrder (limit scope : Nat) : List (Expr × Expr) → Store → List Evaluation
  | [], _ => []
  | (key, value) :: rest, store =>
      follow ⟨limit, .part (.expression key) scope, store⟩ fun shown between =>
        match shown.key? with
        | none => []
        | some _ =>
            follow ⟨limit, .part (.expression value) scope, between⟩ fun _ after =>
              pairsInOrder limit scope rest after

/-- The evaluation of a block in a new scope. -/
def inner (limit scope : Nat) (block : List Stmt) (store : Store) : Evaluation :=
  let (id, opened) := store.openScope (some scope)
  ⟨limit, .part (.block block) id, opened⟩

/-- What is undertaken for an expression. -/
def ofExpression (limit scope : Nat) (store : Store) : Expr → List Evaluation
  | .unary _ operand => [⟨limit, .part (.expression operand) scope, store⟩]
  | .binary left operator right =>
      follow ⟨limit, .part (.expression left) scope, store⟩ fun leftValue between =>
        match Connective.ofSymbol? operator with
        | some connective =>
            if connective.isSettledBy leftValue then []
            else [⟨limit, .part (.expression right) scope, between⟩]
        | none =>
            follow ⟨limit, .part (.expression right) scope, between⟩ fun rightValue after =>
              [⟨limit, .operation operator leftValue rightValue, after⟩]
  | .assign _ value => [⟨limit, .part (.expression value) scope, store⟩]
  | .conditional condition consequence alternative =>
      follow ⟨limit, .part (.expression condition) scope, store⟩ fun value between =>
        if value.isTruthy then [inner limit scope consequence between]
        else
          match alternative with
          | some alternative => [inner limit scope alternative between]
          | none => []
  | .call callee arguments =>
      follow ⟨limit, .part (.expression callee) scope, store⟩ fun function between =>
        inOrder limit scope (arguments.map .expression) between ++
          onResult (evaluateAll (applyFunction limit) arguments scope) between fun
            | .ok values, after => [⟨limit, .call function values, after⟩]
            | .error _, _ => []
  | .array elements => inOrder limit scope (elements.map .expression) store
  | .index collection position =>
      follow ⟨limit, .part (.expression collection) scope, store⟩ fun _ between =>
        [⟨limit, .part (.expression position) scope, between⟩]
  | .hash pairs => pairsInOrder limit scope pairs store
  | _ => []

/-- What is undertaken for a statement. -/
def ofStatement (limit scope : Nat) (store : Store) : Stmt → List Evaluation
  | .bind _ value => [⟨limit, .part (.expression value) scope, store⟩]
  | .return none => []
  | .return (some value) => [⟨limit, .part (.expression value) scope, store⟩]
  | .expression value => [⟨limit, .part (.expression value) scope, store⟩]
  | .block body => [inner limit scope body store]

/-- What is undertaken for a call; builtin functions undertake nothing. -/
def ofCall (limit : Nat) (store : Store) (function : Value) (arguments : List Value) :
    List Evaluation :=
  match function with
  | .function _ parameters body captured =>
      if arguments.length ≠ parameters.length then []
      else
        ⟨limit, .entry, store⟩ ::
          match limit with
          | 0 => []
          | limit + 1 =>
              onResult (openScope captured) store fun id opened =>
                onResult (defineAll id (parameters.zip arguments)) opened fun _ bound =>
                  [⟨limit, .part (.block body) id, bound⟩]
  | _ => []

/-- The evaluations that an evaluation undertakes by itself. -/
def parts : Evaluation → List Evaluation
  | ⟨limit, .part (.expression tree) scope, store⟩ => ofExpression limit scope store tree
  | ⟨limit, .part (.statement tree) scope, store⟩ => ofStatement limit scope store tree
  | ⟨limit, .part (.block trees) scope, store⟩ => inOrder limit scope (trees.map .statement) store
  | ⟨limit, .call function arguments, store⟩ => ofCall limit store function arguments
  | _ => []

end Evaluation

/-! ## What accounts for a run -/

/-- Whether a computation is never cut off. -/
def Computation.IsQuiet (run : Computation α) : Prop :=
  ∀ store reason, (run store).1 ≠ .error reason

namespace Computation.IsQuiet

theorem pure (value : α) : IsQuiet (Pure.pure value) :=
  fun _ _ => nofun

theorem bind {first : Computation α} {next : α → Computation β}
    (before : first.IsQuiet) (after : ∀ value, (next value).IsQuiet) :
    IsQuiet (first >>= next) := by
  intro store reason
  change (Computation.bind first next store).1 ≠ _
  have quiet := before store
  unfold Computation.bind
  split
  · exact after _ _ reason
  · rename_i halt between equal
    exact absurd (congrArg Prod.fst equal) (quiet halt)

theorem renew (value : Value) : (renew value).IsQuiet := by
  unfold Computation.renew
  split
  · exact bind (fun _ _ => nofun) fun _ => pure _
  · exact pure _

theorem evaluateName (scope : Nat) (name : String) : (evaluateName scope name).IsQuiet := by
  refine bind (fun _ _ => nofun) fun found => ?_
  cases found with
  | some value => exact pure _
  | none =>
      dsimp only
      split <;> exact pure _

theorem assignName (scope : Nat) (name : String) (value : Value) :
    (assignName scope name value).IsQuiet := by
  refine bind (fun store reason => ?_) fun assigned => ?_
  · unfold Computation.assign
    split <;> exact nofun
  · cases assigned <;> exact pure _

theorem defineAll (scope : Nat) (bindings : List (String × Value)) :
    (defineAll scope bindings).IsQuiet := by
  induction bindings with
  | nil => exact pure _
  | cons head rest induction => exact bind (fun _ _ => nofun) fun _ => induction

theorem newArray (elements : List Value) : (newArray elements).IsQuiet :=
  bind (fun _ _ => nofun) fun _ => pure _

theorem newHash (entries : List Entry) : (newHash entries).IsQuiet :=
  bind (fun _ _ => nofun) fun _ => pure _

theorem onArray {builtin : Builtin} {argument : Value} {next : List Value → Computation Value}
    (after : ∀ elements, (next elements).IsQuiet) :
    (builtin.onArray argument next).IsQuiet := by
  unfold Builtin.onArray
  split
  · exact after _
  · exact pure _

end Computation.IsQuiet

/--
Whether some evaluations account for a run: it is cut off exactly as one of them is.  Each of them
is below the evaluation that the run belongs to.
-/
structure Accounts (whole : Evaluation) (parts : List Evaluation) (run : Computation α)
    (store : Store) : Prop where
  halts : ∀ reason, (run store).1 = .error reason ↔ ∃ part ∈ parts, part.Halts reason
  below : ∀ part ∈ parts, part.IsBelow whole

namespace Accounts

open Jet.Evaluation

variable {whole : Evaluation} {parts : List Evaluation} {store : Store} {limit scope : Nat}

/-- A run is judged by its result and where it goes on. -/
theorem of_run {first next : Computation α} {between : Store}
    (accounts : Accounts whole parts next between) (equal : first store = next between) :
    Accounts whole parts first store :=
  ⟨equal ▸ accounts.halts, accounts.below⟩

/-- Nothing has to account for a run that is not cut off. -/
theorem quiet {run : Computation α}
    (never : run.IsQuiet) :
    Accounts whole [] run store :=
  ⟨fun reason => ⟨fun halts => absurd halts (never store reason), fun ⟨_, member, _⟩ =>
    absurd member List.not_mem_nil⟩, fun _ member => absurd member List.not_mem_nil⟩

theorem pure {value : α} :
    Accounts whole [] (Pure.pure value) store :=
  quiet (.pure value)

/-- The evaluation of a task accounts for itself. -/
theorem task {task : Task}
    (below : IsBelow ⟨limit, task, store⟩ whole) :
    Accounts whole [⟨limit, task, store⟩] (task.run limit) store := by
  refine ⟨fun reason => ⟨fun halts => ⟨_, List.mem_cons_self, halts⟩, ?_⟩,
    List.forall_mem_singleton.mpr below⟩
  rintro ⟨part, member, halts⟩
  cases List.mem_singleton.mp member
  exact halts

/-- A computation and what follows it are accounted for by what accounts for each of them. -/
theorem bind {first : Computation α} {next : α → Computation β}
    {later : α → Store → List Evaluation}
    (accounts : Accounts whole parts first store)
    (goesOn : ∀ value between, Accounts whole (later value between) (next value) between) :
    Accounts whole (parts ++ onResult first store later) (first >>= next) store := by
  rcases accounts with ⟨halts, below⟩
  rcases equal : first store with ⟨outcome, between⟩
  rw [equal] at halts
  cases outcome with
  | error reason =>
      rw [onResult, equal, List.append_nil]
      refine ⟨fun other => ?_, below⟩
      rw [bind_of_error equal, ← halts other, Except.error.injEq, Except.error.injEq]
  | ok value =>
      -- No part of the first computation is cut off here, so only what follows can be.
      rcases goesOn value between with ⟨laterHalts, laterBelow⟩
      rw [onResult, equal]
      refine ⟨fun reason => ?_, List.forall_mem_append.mpr ⟨below, laterBelow⟩⟩
      rw [bind_of_ok equal, laterHalts reason]
      constructor
      · rintro ⟨part, member, halted⟩
        exact ⟨part, List.mem_append_right _ member, halted⟩
      · rintro ⟨part, member, halted⟩
        rcases List.mem_append.mp member with early | late
        · cases (halts reason).mpr ⟨part, early, halted⟩
        · exact ⟨part, late, halted⟩

/-- What follows a computation that is never cut off has to be accounted for alone. -/
theorem quiet_bind {first : Computation α} {next : α → Computation β}
    {later : α → Store → List Evaluation}
    (never : first.IsQuiet)
    (goesOn : ∀ value between, Accounts whole (later value between) (next value) between) :
    Accounts whole (onResult first store later) (first >>= next) store :=
  bind (quiet never) goesOn

/-- What is never cut off adds nothing to what accounts for the computation before it. -/
theorem bind_quiet {first : Computation α} {next : α → Computation β}
    (accounts : Accounts whole parts first store)
    (never : ∀ value, (next value).IsQuiet) :
    Accounts whole parts (first >>= next) store := by
  have nothing : onResult first store (fun _ _ => []) = [] := by
    unfold onResult
    split <;> rfl
  rw [← List.append_nil parts, ← nothing]
  exact bind accounts fun value between => quiet (never value)

/-- A task, and what is only reached if it ends with a value and no signal. -/
theorem follow {task : Task} {signal : Value → α} {next : Value → Computation α}
    {later : Value → Store → List Evaluation}
    (below : IsBelow ⟨limit, task, store⟩ whole)
    (goesOn : ∀ value between, Accounts whole (later value between) (next value) between) :
    Accounts whole (Evaluation.follow ⟨limit, task, store⟩ later)
      (task.run limit >>= fun value =>
        if value.isSignal then Pure.pure (signal value) else next value) store := by
  refine bind (.task below) fun value between => ?_
  split
  · exact pure
  · exact goesOn value between

/-- A task alone, if what follows it is never cut off. -/
theorem alone {task : Task} {next : Value → Computation Value}
    (below : IsBelow ⟨limit, task, store⟩ whole)
    (never : ∀ value, (next value).IsQuiet) :
    Accounts whole [⟨limit, task, store⟩] (Computation.andThen (task.run limit) next) store := by
  refine bind_quiet (.task below) fun value => ?_
  split
  · exact .pure _
  · exact never value

theorem evaluateAll {trees : List Expr}
    (below : ∀ tree ∈ trees.map Part.expression, ∀ store,
      IsBelow ⟨limit, .part tree scope, store⟩ whole) :
    Accounts whole (inOrder limit scope (trees.map .expression) store)
      (Jet.evaluateAll (applyFunction limit) trees scope) store := by
  induction trees generalizing store with
  | nil => exact pure
  | cons tree rest induction =>
      rw [List.map_cons, List.forall_mem_cons] at below
      rw [Jet.evaluateAll]
      refine follow (below.1 store) fun value between => bind_quiet (induction below.2) ?_
      intro gathered after
      cases gathered <;> rintro reason ⟨⟩

theorem evaluateStatements {trees : List Stmt} {last : Value}
    (below : ∀ tree ∈ trees.map Part.statement, ∀ store,
      IsBelow ⟨limit, .part tree scope, store⟩ whole) :
    Accounts whole (inOrder limit scope (trees.map .statement) store)
      (Jet.evaluateStatements (applyFunction limit) trees last scope) store := by
  induction trees generalizing store last with
  | nil => exact pure
  | cons tree rest induction =>
      rw [List.map_cons, List.forall_mem_cons] at below
      rw [Jet.evaluateStatements]
      exact follow (below.1 store) fun value between => induction below.2

theorem evaluatePairs {pairs : List (Expr × Expr)} {entries : List Entry}
    (below : ∀ tree ∈ pairs.flatMap fun pair => [Part.expression pair.1, .expression pair.2],
      ∀ store, IsBelow ⟨limit, .part tree scope, store⟩ whole) :
    Accounts whole (pairsInOrder limit scope pairs store)
      (Jet.evaluatePairs (applyFunction limit) pairs entries scope) store := by
  induction pairs generalizing store entries with
  | nil => exact pure
  | cons pair rest induction =>
      rw [List.flatMap_cons, List.forall_mem_append, List.forall_mem_cons,
        List.forall_mem_singleton] at below
      rw [Jet.evaluatePairs]
      refine follow (below.1.1 store) fun shown between => ?_
      cases shown.key? with
      | none => exact pure
      | some key => exact follow (below.1.2 between) fun value after => induction below.2

/-! ### Trees -/

theorem binary {left right : Expr} (operator : String)
    (below : ∀ child ∈ [Part.expression left, .expression right], ∀ store,
      IsBelow ⟨limit, .part child scope, store⟩ whole)
    (operationBelow : ∀ leftValue rightValue store,
      IsBelow ⟨limit, .operation operator leftValue rightValue, store⟩ whole) :
    Accounts whole (ofExpression limit scope store (.binary left operator right))
      ((Expr.binary left operator right).evaluate (applyFunction limit) scope) store := by
  rw [List.forall_mem_cons, List.forall_mem_singleton] at below
  rw [Expr.evaluate, ofExpression]
  refine follow (below.1 store) fun leftValue between => ?_
  cases Connective.ofSymbol? operator with
  | some connective =>
      dsimp only
      split
      · exact pure
      · exact alone (below.2 between) fun value => .pure _
  | none =>
      refine follow (below.2 between) fun rightValue after => ?_
      exact bind_quiet (.task (operationBelow leftValue rightValue after)) .renew

/-- A block in a new scope is accounted for by its evaluation there. -/
theorem inner {block : List Stmt}
    (below : ∀ id store, IsBelow ⟨limit, .part (.block block) id, store⟩ whole) :
    Accounts whole [Evaluation.inner limit scope block store] (do
      Jet.evaluateStatements (applyFunction limit) block .null (← Computation.openScope scope))
      store := by
  exact of_run (task (below (store.openScope (some scope)).1 (store.openScope (some scope)).2)) rfl

theorem conditional {condition : Expr} {consequence : List Stmt} {alternative : Option (List Stmt)}
    (conditionBelow : ∀ store, IsBelow ⟨limit, .part (.expression condition) scope, store⟩ whole)
    (consequenceBelow : ∀ id store, IsBelow ⟨limit, .part (.block consequence) id, store⟩ whole)
    (othersBelow : ∀ block ∈ alternative, ∀ id store,
      IsBelow ⟨limit, .part (.block block) id, store⟩ whole) :
    Accounts whole (ofExpression limit scope store (.conditional condition consequence alternative))
      ((Expr.conditional condition consequence alternative).evaluate (applyFunction limit) scope)
      store := by
  rw [Expr.evaluate_conditional, ofExpression]
  refine follow (conditionBelow store) fun value between => ?_
  split
  · exact inner consequenceBelow
  · cases alternative with
    | none => exact pure
    | some block => exact inner (othersBelow block rfl)

theorem callExpression {callee : Expr} {arguments : List Expr}
    (calleeBelow : ∀ store, IsBelow ⟨limit, .part (.expression callee) scope, store⟩ whole)
    (argumentsBelow : ∀ tree ∈ arguments.map Part.expression, ∀ store,
      IsBelow ⟨limit, .part tree scope, store⟩ whole)
    (callBelow : ∀ function values store, IsBelow ⟨limit, .call function values, store⟩ whole) :
    Accounts whole (ofExpression limit scope store (.call callee arguments))
      ((Expr.call callee arguments).evaluate (applyFunction limit) scope) store := by
  rw [Expr.evaluate, ofExpression]
  refine follow (calleeBelow store) fun function between => ?_
  refine bind (evaluateAll argumentsBelow) fun gathered after => ?_
  cases gathered with
  | error signal => exact pure
  | ok values => exact .task (callBelow function values after)

theorem expression (tree : Expr) :
    Accounts ⟨limit, .part (.expression tree) scope, store⟩ (ofExpression limit scope store tree)
      (tree.evaluate (applyFunction limit) scope) store := by
  have below : ∀ child ∈ Part.children (.expression tree), ∀ id store,
      IsBelow ⟨limit, .part child id, store⟩ ⟨limit, .part (.expression tree) scope, store⟩ :=
    fun child member id store => isBelow_child member limit id scope _ store
  cases tree with
  | name name => exact quiet (.evaluateName scope name)
  | integer | float | boolean | string | null => exact pure
  | unary operator operand => exact alone (below _ List.mem_cons_self _ _) fun _ => .renew _
  | binary left operator right =>
      exact binary operator (fun child member => below child member scope) fun _ _ _ =>
        .inr ⟨rfl, Nat.succ_pos _⟩
  | assign name value => exact alone (below _ List.mem_cons_self _ _) (.assignName scope name)
  | conditional condition consequence alternative =>
      rcases Part.forall_mem_children_conditional.mp below with ⟨condition, consequence, others⟩
      exact conditional (condition scope) consequence others
  | function parameters body => exact quiet (.bind (fun _ _ => nofun) fun _ => .pure _)
  | call callee arguments =>
      refine callExpression (below _ List.mem_cons_self scope)
        (fun child member => below child (List.mem_cons_of_mem _ member) scope) fun _ _ _ => ?_
      exact .inr ⟨rfl, Nat.succ_lt_succ (by simp +arith)⟩
  | array elements =>
      refine bind_quiet (evaluateAll fun child member => below child member scope) fun gathered => ?_
      cases gathered with
      | ok values => exact .newArray values
      | error signal => exact .pure _
  | index collection position =>
      refine follow (below _ List.mem_cons_self scope store) fun _ between => ?_
      exact alone (below _ (List.mem_cons_of_mem _ List.mem_cons_self) _ _) fun _ => .pure _
  | hash pairs =>
      refine bind_quiet (evaluatePairs fun child member => below child member scope) fun gathered => ?_
      cases gathered with
      | ok entries => exact .newHash entries
      | error signal => exact .pure _

theorem statement (tree : Stmt) :
    Accounts ⟨limit, .part (.statement tree) scope, store⟩ (ofStatement limit scope store tree)
      (tree.evaluate (applyFunction limit) scope) store := by
  have below : ∀ child ∈ Part.children (.statement tree), ∀ id store,
      IsBelow ⟨limit, .part child id, store⟩ ⟨limit, .part (.statement tree) scope, store⟩ :=
    fun child member id store => isBelow_child member limit id scope _ store
  cases tree with
  | bind name value =>
      exact alone (below _ List.mem_cons_self _ _) fun _ => .bind (fun _ _ => nofun) fun _ => .pure _
  | «return» value =>
      cases value with
      | none => exact pure
      | some value => exact alone (below _ List.mem_cons_self _ _) fun _ => .pure _
  | expression value => exact .task (below _ List.mem_cons_self _ _)
  | block body => exact inner (below _ List.mem_cons_self)

/-! ### Calls -/

/-- The body of a function is accounted for by its evaluation where the parameters are bound. -/
theorem body (parameters : List String) (arguments : List Value) (trees : List Stmt)
    (captured : Nat)
    (below : ∀ id store, IsBelow ⟨limit, .part (.block trees) id, store⟩ whole) :
    Accounts whole
      (onResult (openScope captured) store fun id opened =>
        onResult (defineAll id (parameters.zip arguments)) opened fun _ bound =>
          [⟨limit, .part (.block trees) id, bound⟩])
      (do
        let scope ← openScope captured
        defineAll scope (parameters.zip arguments)
        let result ← Jet.evaluateStatements (applyFunction limit) trees .null scope
        Pure.pure result.unwrapped) store := by
  refine quiet_bind (fun _ _ => nofun) fun id opened => ?_
  refine quiet_bind (.defineAll id _) fun _ bound => ?_
  exact bind_quiet (task (below id bound)) fun _ => .pure _

theorem builtin (builtin : Builtin) (arguments : List Value) :
    Accounts whole [] (builtin.apply arguments) store := by
  unfold Builtin.apply
  split
  · exact pure
  · exact quiet (.onArray fun _ => .pure _)
  · exact quiet (.onArray fun _ => .pure _)
  · refine quiet (.onArray fun elements => ?_)
    cases elements with
    | nil => exact .pure _
    | cons first rest => exact .newArray rest
  · exact quiet (.onArray fun elements => .newArray _)
  · exact pure
  · exact pure
  · exact pure

theorem call (function : Value) (arguments : List Value) :
    Accounts ⟨limit, .call function arguments, store⟩ (ofCall limit store function arguments)
      (applyFunction limit function arguments) store := by
  have entryBelow : IsBelow ⟨limit, .entry, store⟩ ⟨limit, .call function arguments, store⟩ :=
    .inr ⟨rfl, Nat.zero_lt_one⟩
  unfold applyFunction ofCall
  cases function with
  | function stamp parameters trees captured =>
      dsimp only
      split
      · exact pure
      · cases limit with
        | zero => exact .task entryBelow
        | succ limit =>
            -- With a call left the entry has a value, so that the body follows it in the same store.
            refine of_run (bind (.task entryBelow) fun _ _ =>
              body parameters arguments trees captured ?_) rfl
            exact fun _ _ => .inl (Nat.lt_succ_self limit)
  | builtin builtin => exact .builtin builtin arguments
  | _ => exact pure

end Accounts

/-- What an evaluation undertakes accounts for it, unless it is a step. -/
theorem Evaluation.accounts (evaluation : Evaluation) (made : ¬ evaluation.task.IsStep) :
    Accounts evaluation evaluation.parts (evaluation.task.run evaluation.limit)
      evaluation.store := by
  rcases evaluation with ⟨limit, task, store⟩
  cases task with
  | part tree scope =>
      cases tree with
      | expression tree => exact .expression tree
      | statement tree => exact .statement tree
      | block trees =>
          exact .evaluateStatements fun child member between =>
            isBelow_child member limit scope scope store between
  | call function arguments => exact .call function arguments
  | operation | entry => exact absurd trivial made

/-! ## Where an evaluation is cut off -/

namespace Evaluation

variable {evaluation : Evaluation} {reason : Halt}

/-- An evaluation that is no step is cut off exactly if one that it undertakes is. -/
theorem halts_iff_parts (made : ¬ evaluation.task.IsStep) :
    evaluation.Halts reason ↔ ∃ part ∈ evaluation.parts, part.Halts reason :=
  (evaluation.accounts made).halts reason

theorem parts_eq_nil (step : evaluation.task.IsStep) :
    evaluation.parts = [] := by
  rcases evaluation with ⟨limit, task, store⟩
  cases task with
  | part | call => exact False.elim step
  | operation | entry => rfl

theorem isBelow_of_mem_parts {part : Evaluation}
    (member : part ∈ evaluation.parts) :
    part.IsBelow evaluation := by
  refine (evaluation.accounts fun step => ?_).below part member
  rw [parts_eq_nil step] at member
  exact List.not_mem_nil member

/-- What holds of an evaluation as soon as it holds of those it undertakes holds of all. -/
theorem induction {motive : Evaluation → Prop}
    (step : ∀ whole, (∀ part ∈ whole.parts, motive part) → motive whole) (whole : Evaluation) :
    motive whole :=
  step whole fun part _ => induction step part
termination_by (whole.limit, whole.task.size)
decreasing_by
  rename_i member
  rcases isBelow_of_mem_parts member with fewer | ⟨same, smaller⟩
  · exact .left _ _ fewer
  · rw [same]
    exact .right _ smaller

/-- What is cut off inside of an evaluation cuts it off. -/
theorem Halts.of_occurs {part : Evaluation}
    (occurs : Occurs parts part evaluation) (halts : part.Halts reason) :
    evaluation.Halts reason := by
  induction occurs with
  | here => exact halts
  | inside member deeper induction =>
      refine (halts_iff_parts fun step => ?_).mpr ⟨_, member, induction⟩
      rw [parts_eq_nil step] at member
      exact List.not_mem_nil member

/-- An evaluation is cut off exactly if a step inside of it is. -/
theorem halts_iff :
    evaluation.Halts reason ↔
      ∃ step, Occurs parts step evaluation ∧ step.task.IsStep ∧ step.Halts reason := by
  constructor
  · intro halts
    induction evaluation using Evaluation.induction with
    | step whole induction =>
        by_cases made : whole.task.IsStep
        · exact ⟨whole, .here, made, halts⟩
        · rcases (halts_iff_parts made).mp halts with ⟨part, member, partHalts⟩
          rcases induction part member partHalts with ⟨step, occurs, isStep, stepHalts⟩
          exact ⟨step, .inside member occurs, isStep, stepHalts⟩
  · rintro ⟨step, occurs, _, halts⟩
    exact halts.of_occurs occurs

/-- Whether an evaluation comes to something that is a reason to be cut off. -/
def Reaches (evaluation : Evaluation) : Halt → Prop
  | .undefinedRemainder =>
      ∃ limit left right store,
        Occurs parts ⟨limit, .operation "%" left right, store⟩ evaluation ∧
          ∃ dividend divisor, Number.ofValue? left = some dividend ∧
            Number.ofValue? right = some divisor ∧ IsUndefinedRemainder dividend divisor
  | .depthExceeded => ∃ store, Occurs parts ⟨0, .entry, store⟩ evaluation

/-- An evaluation is cut off exactly if it comes to a reason for it. -/
theorem halts_iff_reaches :
    evaluation.Halts reason ↔ evaluation.Reaches reason := by
  rw [halts_iff]
  constructor
  · rintro ⟨⟨limit, task, store⟩, occurs, isStep, halts⟩
    cases task with
    | part | call => exact False.elim isStep
    | operation operator left right =>
        rcases binaryOperation_eq_error_iff.mp halts with ⟨rfl, rfl, undefined⟩
        exact ⟨limit, left, right, store, occurs, undefined⟩
    | entry =>
        cases limit with
        | zero =>
            cases halts
            exact ⟨store, occurs⟩
        | succ limit => cases halts
  · intro reaches
    cases reason with
    | undefinedRemainder =>
        rcases reaches with ⟨limit, left, right, store, occurs, undefined⟩
        exact ⟨_, occurs, trivial, binaryOperation_eq_error_iff.mpr ⟨rfl, rfl, undefined⟩⟩
    | depthExceeded =>
        rcases reaches with ⟨store, occurs⟩
        exact ⟨_, occurs, trivial, rfl⟩

end Evaluation

/-- A program is cut off exactly if it comes to a reason for it. -/
theorem Program.run_eq_error_iff {program : Program} {scope limit : Nat} {store : Store}
    {reason : Halt} :
    (program.run scope limit store).1 = .error reason ↔
      Evaluation.Reaches ⟨limit, .part (.block program.statements) scope, store⟩ reason := by
  rw [← Evaluation.halts_iff_reaches]
  change (Computation.bind (Part.evaluate limit (.block program.statements) scope) _ store).1 = _ ↔
    (Part.evaluate limit (.block program.statements) scope store).1 = _
  unfold Computation.bind
  split <;> rename_i equal <;> rw [equal]
  exact ⟨nofun, nofun⟩

end Jet
