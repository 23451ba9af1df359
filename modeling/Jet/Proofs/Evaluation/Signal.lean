import Jet.Proofs.Evaluation.Interruption
import Jet.Proofs.Evaluation.Order

/-!
# Signals

A signal ends everything around it.  Whatever an evaluation undertakes, if that ends with a signal,
the evaluation ends with the same signal in the same store: nothing more is evaluated, bound or
called.  Only a call makes a difference, as it takes a returned value out of its signal.

So a signal goes up from any depth: to the nearest call around it or to the program, if it returns a
value, and through all calls to the program, if it is an error.
-/

namespace Jet

open Jet.Computation

variable {α β : Type}

/-- What a task ends with if something that it undertakes ends with a signal. -/
def Task.pass : Task → Value → Value
  | .call _ _, signal => signal.unwrapped
  | _, signal => signal

/--
Whether the signal that one of some evaluations ends with also ends a run, in the same store; how
the run gives a signal is left open.
-/
def PassesOn (report : Value → α) (parts : List Evaluation) (run : Computation α) (store : Store) :
    Prop :=
  ∀ part ∈ parts, ∀ signal after, part.run = (.ok signal, after) → signal.isSignal = true →
    run store = (.ok (report signal), after)

namespace PassesOn

open Jet.Evaluation

variable {report : Value → α} {parts others : List Evaluation} {store : Store} {limit scope : Nat}
  {task : Task}

theorem nothing {run : Computation α} :
    PassesOn report [] run store :=
  fun _ member => absurd member List.not_mem_nil

theorem append {run : Computation α}
    (passes : PassesOn report parts run store) (othersPass : PassesOn report others run store) :
    PassesOn report (parts ++ others) run store :=
  List.forall_mem_append.mpr ⟨passes, othersPass⟩

/-- A run is judged by its result. -/
theorem of_run {first next : Computation α} {between : Store}
    (passes : PassesOn report parts next between) (equal : first store = next between) :
    PassesOn report parts first store :=
  fun part member signal after ended isSignal =>
    equal.trans (passes part member signal after ended isSignal)

/-- What is done first with the signal of a task decides how the signal is given. -/
theorem handed {next : Value → Computation α}
    (ends : ∀ signal, signal.isSignal = true → next signal = pure (report signal)) :
    PassesOn report [⟨limit, task, store⟩] (task.run limit >>= next) store := by
  intro part member signal after ended isSignal
  cases List.mem_singleton.mp member
  refine (bind_of_ok ended next).trans ?_
  rw [ends signal isSignal]
  rfl

/-- The signal of a task alone is passed on as it is. -/
theorem itself :
    PassesOn id [⟨limit, task, store⟩] (task.run limit) store := by
  intro part member signal after ended _
  cases List.mem_singleton.mp member
  exact ended

/-- What is undertaken after a computation passes signals on to the whole. -/
theorem bind {first : Computation β} {next : β → Computation α}
    {later : β → Store → List Evaluation}
    (goesOn : ∀ value between, PassesOn report (later value between) (next value) between) :
    PassesOn report (onResult first store later) (first >>= next) store := by
  intro part member signal after ended isSignal
  unfold onResult at member
  split at member
  · rename_i value between reached
    refine (bind_of_ok reached next).trans ?_
    exact goesOn value between part member signal after ended isSignal
  · cases member

/-- A task, and what is only reached if it ends with a value and no signal. -/
theorem follow {next : Value → Computation α} {later : Value → Store → List Evaluation}
    (goesOn : ∀ value between, PassesOn report (later value between) (next value) between) :
    PassesOn report (Evaluation.follow ⟨limit, task, store⟩ later)
      (task.run limit >>= fun value =>
        if value.isSignal then pure (report value) else next value) store := by
  refine append (handed fun signal isSignal => if_pos isSignal) (bind fun value between => ?_)
  split
  · exact nothing
  · exact goesOn value between

/-- A task alone, whatever is done with a value. -/
theorem alone {next : Value → Computation Value} :
    PassesOn id [⟨limit, task, store⟩] (andThen (task.run limit) next) store :=
  handed fun _ isSignal => if_pos isSignal

/-- The signal that was met among some trees is passed on as it is. -/
theorem gathered {first : Computation (Gathered β)} {next : Gathered β → Computation Value}
    (passes : PassesOn .error parts first store)
    (ends : ∀ signal, next (.error signal) = pure signal) :
    PassesOn id parts (first >>= next) store := by
  intro part member signal after ended isSignal
  refine (bind_of_ok (passes part member signal after ended isSignal) next).trans ?_
  rw [ends signal]
  rfl

/-! ## Trees -/

theorem evaluateAll (trees : List Expr) :
    PassesOn .error (inOrder limit scope (trees.map .expression) store)
      (Jet.evaluateAll (applyFunction limit) trees scope) store := by
  induction trees generalizing store with
  | nil => exact nothing
  | cons tree rest induction =>
      rw [Jet.evaluateAll]
      refine follow fun value between part member signal after ended isSignal => ?_
      exact bind_of_ok (induction part member signal after ended isSignal) _

theorem evaluateStatements (trees : List Stmt) (last : Value) :
    PassesOn id (inOrder limit scope (trees.map .statement) store)
      (Jet.evaluateStatements (applyFunction limit) trees last scope) store := by
  induction trees generalizing store last with
  | nil => exact nothing
  | cons tree rest induction =>
      rw [Jet.evaluateStatements]
      exact follow fun value between => induction value

theorem evaluatePairs (pairs : List (Expr × Expr)) (entries : List Entry) :
    PassesOn .error (pairsInOrder limit scope pairs store)
      (Jet.evaluatePairs (applyFunction limit) pairs entries scope) store := by
  induction pairs generalizing store entries with
  | nil => exact nothing
  | cons pair rest induction =>
      rw [Jet.evaluatePairs]
      refine follow fun shown between => ?_
      cases shown.key? with
      | none => exact nothing
      | some key => exact follow fun value after => induction _

/-- An operator's error is passed on as it is. -/
theorem renewed :
    PassesOn id [⟨limit, task, store⟩] (task.run limit >>= renew) store := by
  refine handed fun signal isSignal => ?_
  cases signal with
  | returned | error => rfl
  | _ => cases isSignal

theorem binary (left right : Expr) (operator : String) :
    PassesOn id (ofExpression limit scope store (.binary left operator right))
      ((Expr.binary left operator right).evaluate (applyFunction limit) scope) store := by
  rw [Expr.evaluate, ofExpression]
  refine follow fun leftValue between => ?_
  cases Connective.ofSymbol? operator with
  | some connective =>
      dsimp only
      split
      · exact nothing
      · exact alone
  | none => exact follow fun rightValue after => renewed

/-- A block in a new scope. -/
theorem inner (block : List Stmt) :
    PassesOn id [Evaluation.inner limit scope block store] (do
      Jet.evaluateStatements (applyFunction limit) block .null (← Computation.openScope scope))
      store :=
  of_run itself rfl

theorem conditional (condition : Expr) (consequence : List Stmt)
    (alternative : Option (List Stmt)) :
    PassesOn id (ofExpression limit scope store (.conditional condition consequence alternative))
      ((Expr.conditional condition consequence alternative).evaluate (applyFunction limit) scope)
      store := by
  rw [Expr.evaluate_conditional, ofExpression]
  refine follow fun value between => ?_
  split
  · exact inner consequence
  · cases alternative with
    | none => exact nothing
    | some block => exact inner block

theorem callExpression (callee : Expr) (arguments : List Expr) :
    PassesOn id (ofExpression limit scope store (.call callee arguments))
      ((Expr.call callee arguments).evaluate (applyFunction limit) scope) store := by
  rw [Expr.evaluate, ofExpression]
  refine follow fun function between => ?_
  refine append (gathered (evaluateAll arguments) fun _ => rfl) (bind fun gathered after => ?_)
  cases gathered with
  | error signal => exact nothing
  | ok values => exact itself

theorem expression (tree : Expr) :
    PassesOn id (ofExpression limit scope store tree)
      (tree.evaluate (applyFunction limit) scope) store := by
  cases tree with
  | name | integer | float | boolean | string | null | function => exact nothing
  | unary | assign =>
      rw [Expr.evaluate]
      exact alone
  | binary left operator right => exact binary left right operator
  | conditional condition consequence alternative =>
      exact conditional condition consequence alternative
  | call callee arguments => exact callExpression callee arguments
  | array elements =>
      rw [Expr.evaluate]
      exact gathered (evaluateAll elements) fun _ => rfl
  | index collection position =>
      rw [Expr.evaluate]
      exact follow fun _ _ => alone
  | hash pairs =>
      rw [Expr.evaluate]
      exact gathered (evaluatePairs pairs []) fun _ => rfl

theorem statement (tree : Stmt) :
    PassesOn id (ofStatement limit scope store tree) (tree.evaluate (applyFunction limit) scope)
      store := by
  cases tree with
  | bind name value =>
      rw [Stmt.evaluate]
      exact alone
  | «return» value =>
      cases value with
      | none => exact nothing
      | some value =>
          rw [Stmt.evaluate]
          exact alone
  | expression value =>
      rw [Stmt.evaluate]
      exact itself
  | block body =>
      rw [Stmt.evaluate]
      exact inner body

/-! ## Calls -/

/-- A returned value is taken out of its signal behind the body of a function. -/
theorem body (parameters : List String) (arguments : List Value) (trees : List Stmt)
    (captured : Nat) :
    PassesOn Value.unwrapped
      (onResult (openScope captured) store fun id opened =>
        onResult (defineAll id (parameters.zip arguments)) opened fun _ bound =>
          [⟨limit, .part (.block trees) id, bound⟩])
      (do
        let scope ← openScope captured
        defineAll scope (parameters.zip arguments)
        let result ← Jet.evaluateStatements (applyFunction limit) trees .null scope
        Pure.pure result.unwrapped) store :=
  bind fun _ _ => bind fun _ _ => handed fun _ _ => rfl

theorem call (function : Value) (arguments : List Value) :
    PassesOn Value.unwrapped (ofCall limit store function arguments)
      (applyFunction limit function arguments) store := by
  unfold applyFunction ofCall
  cases function with
  | function stamp parameters trees captured =>
      dsimp only
      split
      · exact nothing
      · have entry {run : Computation Value} :
            PassesOn Value.unwrapped [⟨limit, .entry, store⟩] run store := by
          intro part member signal after ended isSignal
          cases List.mem_singleton.mp member
          cases limit <;> cases ended
          cases isSignal
        cases limit with
        | zero => exact entry
        | succ limit => exact append entry (body parameters arguments trees captured)
  | builtin builtin => exact nothing
  | _ => exact nothing

end PassesOn

namespace Evaluation

variable {part whole : Evaluation} {signal : Value} {after : Store}

/-- What an evaluation undertakes passes its signals on. -/
theorem passesOn (whole : Evaluation) :
    PassesOn whole.task.pass whole.parts (whole.task.run whole.limit) whole.store := by
  rcases whole with ⟨limit, task, store⟩
  cases task with
  | part tree scope =>
      cases tree with
      | expression tree => exact .expression tree
      | statement tree => exact .statement tree
      | block trees => exact .evaluateStatements trees .null
  | call function arguments => exact .call function arguments
  | operation | entry => exact .nothing

/-- What an evaluation undertakes before another call is entered. -/
def partsInCall (whole : Evaluation) : List Evaluation :=
  match whole.task with
  | .call _ _ => []
  | _ => whole.parts

/-! ## Operands -/

section Operands

variable {limit scope : Nat} {store between : Store} {next : Part} {front rest : List Part}
  {values : List Value}

/-- What follows a value is undertaken. -/
theorem mem_follow {first later : Evaluation} {value : Value}
    {undertaken : Value → Store → List Evaluation}
    (ended : first.run = (.ok value, between)) (noSignal : value.isSignal = false)
    (member : later ∈ undertaken value between) :
    later ∈ follow first undertaken := by
  refine List.mem_cons_of_mem _ ?_
  unfold onResult
  rw [show first.task.run first.limit first.store = (.ok value, between) from ended]
  simpa [noSignal] using member

/-- Of parts in order, the first one behind others that yield values is undertaken. -/
theorem mem_inOrder
    (yields : Yields limit scope front store values between) :
    (⟨limit, .part next scope, between⟩ : Evaluation) ∈
      inOrder limit scope (front ++ next :: rest) store := by
  induction yields with
  | nil => exact List.mem_cons_self
  | cons ended noSignal _ induction => exact mem_follow ended noSignal induction

/-- So it is with keys and values, as long as the keys can be used. -/
theorem mem_pairsInOrder {pairs : List (Expr × Expr)}
    (made : (pairs.flatMap fun pair => [Part.expression pair.1, .expression pair.2]) =
      front ++ next :: rest)
    (yields : Yields limit scope front store values between)
    (usable : ∀ given, given <+: values → unusableKey? given = none) :
    (⟨limit, .part next scope, between⟩ : Evaluation) ∈ pairsInOrder limit scope pairs store := by
  induction pairs generalizing front store values with
  | nil => cases front <;> cases made
  | cons pair others induction =>
      rw [List.flatMap_cons] at made
      cases yields with
      | nil =>
          cases made
          exact List.mem_cons_self
      | cons keyEnded keyNoSignal later =>
          rename_i shown _ _
          have found := usable [shown] (List.cons_prefix_cons.mpr ⟨rfl, List.nil_prefix⟩)
          simp only [List.cons_append, List.nil_append, List.cons.injEq] at made
          rcases made with ⟨rfl, made⟩
          rw [unusableKey?] at found
          refine mem_follow keyEnded keyNoSignal ?_
          split at found
          · rename_i key known
            rw [known]
            cases later with
            | nil =>
                cases made
                exact List.mem_cons_self
            | cons valueEnded valueNoSignal later =>
                simp only [List.cons_append, List.cons.injEq] at made
                rcases made with ⟨rfl, made⟩
                refine mem_follow valueEnded valueNoSignal (induction made later ?_)
                exact fun given front => usable (shown :: _ :: given)
                  (List.cons_prefix_cons.mpr ⟨rfl, List.cons_prefix_cons.mpr ⟨rfl, front⟩⟩)
          · cases found

theorem eq_of_made_of_one {operand : Part}
    (made : [operand] = front ++ next :: rest)
    (yields : Yields limit scope front store values between) :
    next = operand ∧ between = store := by
  cases yields with
  | nil =>
      cases made
      exact ⟨rfl, rfl⟩
  | cons => simp at made

theorem eq_of_made_of_two {first second : Part}
    (made : [first, second] = front ++ next :: rest)
    (yields : Yields limit scope front store values between) :
    next = first ∧ between = store ∨
      next = second ∧ ∃ value, values = [value] ∧ value.isSignal = false ∧
        first.evaluate limit scope store = (.ok value, between) := by
  cases yields with
  | nil =>
      cases made
      exact .inl ⟨rfl, rfl⟩
  | cons ended noSignal later =>
      simp only [List.cons_append, List.cons.injEq] at made
      rcases made with ⟨rfl, made⟩
      rcases eq_of_made_of_one made later with ⟨rfl, rfl⟩
      cases later with
      | nil => exact .inr ⟨rfl, _, rfl, noSignal, ended⟩
      | cons => simp at made

/-- The right operand of a connective is undertaken unless the left one settles the result. -/
theorem mem_ofExpression_binary {left right : Expr} {operator : String}
    (made : [Part.expression left, .expression right] = front ++ next :: rest)
    (yields : Yields limit scope front store values between)
    (unsettled : Part.Unsettled (.expression (.binary left operator right)) values) :
    (⟨limit, .part next scope, between⟩ : Evaluation) ∈
      ofExpression limit scope store (.binary left operator right) := by
  rw [ofExpression]
  rcases eq_of_made_of_two made yields with ⟨rfl, rfl⟩ | ⟨rfl, value, rfl, noSignal, ended⟩
  · exact List.mem_cons_self
  · refine mem_follow ended noSignal ?_
    have noneYet : shortCut? operator [value] = none := unsettled [value] (List.prefix_refl _)
    rw [shortCut?] at noneYet
    cases known : Connective.ofSymbol? operator with
    | none => exact List.mem_cons_self
    | some connective =>
        rw [known] at noneYet
        dsimp only at noneYet ⊢
        split at noneYet
        · cases noneYet
        · rename_i goesOn
          rw [if_neg goesOn]
          exact List.mem_cons_self

/-- An operand behind others that yield values is undertaken, unless these settle the result. -/
theorem mem_partsInCall_of_yields {whole : Part}
    (made : whole.operands = front ++ next :: rest)
    (yields : Yields limit scope front store values between)
    (unsettled : whole.Unsettled values) :
    (⟨limit, .part next scope, between⟩ : Evaluation) ∈
      partsInCall ⟨limit, .part whole scope, store⟩ := by
  cases whole with
  | expression tree =>
      cases tree with
      | name | integer | float | boolean | string | null | function => cases front <;> cases made
      | unary | assign | conditional =>
          rcases eq_of_made_of_one made yields with ⟨rfl, rfl⟩
          exact List.mem_cons_self
      | binary left operator right => exact mem_ofExpression_binary made yields unsettled
      | call callee arguments =>
          cases yields with
          | nil =>
              cases made
              exact List.mem_cons_self
          | cons ended noSignal later =>
              simp only [Part.operands, Part.children, List.cons_append, List.cons.injEq] at made
              rcases made with ⟨rfl, made⟩
              refine mem_follow ended noSignal (List.mem_append_left _ ?_)
              rw [made]
              exact mem_inOrder later
      | array elements =>
          change _ ∈ inOrder limit scope (Part.operands (.expression (.array elements))) store
          rw [made]
          exact mem_inOrder yields
      | index collection position =>
          rcases eq_of_made_of_two made yields with ⟨rfl, rfl⟩ | ⟨rfl, value, rfl, noSignal, ended⟩
          · exact List.mem_cons_self
          · exact mem_follow ended noSignal List.mem_cons_self
      | hash pairs => exact mem_pairsInOrder made yields unsettled
  | statement tree =>
      cases tree with
      | bind | expression =>
          rcases eq_of_made_of_one made yields with ⟨rfl, rfl⟩
          exact List.mem_cons_self
      | «return» value =>
          cases value with
          | none => cases front <;> cases made
          | some value =>
              rcases eq_of_made_of_one made yields with ⟨rfl, rfl⟩
              exact List.mem_cons_self
      | block body => cases front <;> cases made
  | block trees =>
      change _ ∈ inOrder limit scope (Part.operands (.block trees)) store
      rw [made]
      exact mem_inOrder yields

end Operands

/-! ## Depth -/

/-- A signal ends whatever is around it in the same call. -/
theorem run_of_occurs_inCall
    (occurs : Occurs partsInCall part whole) (ended : part.run = (.ok signal, after))
    (isSignal : signal.isSignal = true) :
    whole.run = (.ok signal, after) := by
  induction occurs with
  | here => exact ended
  | inside member deeper induction =>
      rename_i child whole
      have passed := whole.passesOn child
      rcases whole with ⟨limit, task, store⟩
      cases task with
      | call => cases member
      | _ => exact passed member signal after induction isSignal

/-- An error ends whatever is around it. -/
theorem run_of_occurs {fault : Fault}
    (occurs : Occurs parts part whole) (ended : part.run = (.ok (.error fault), after)) :
    whole.run = (.ok (.error fault), after) := by
  induction occurs with
  | here => exact ended
  | inside member deeper induction =>
      rename_i child whole
      have passed := whole.passesOn child member _ _ induction rfl
      rcases whole with ⟨limit, task, store⟩
      cases task <;> exact passed

/-- A value that is returned in the body of a function is what the call ends with. -/
theorem run_call_of_occurs {function payload : Value} {arguments : List Value} {limit : Nat}
    {store : Store} {body : Evaluation}
    (entered : body ∈ parts ⟨limit, .call function arguments, store⟩)
    (occurs : Occurs partsInCall part body) (ended : part.run = (.ok (.returned payload), after)) :
    applyFunction limit function arguments store = (.ok payload, after) :=
  passesOn ⟨limit, .call function arguments, store⟩ body entered _ _
    (run_of_occurs_inCall occurs ended rfl) rfl

end Evaluation

/-- A program takes a returned value out of its signal. -/
theorem Program.run_of_signal {program : Program} {scope limit : Nat} {store after : Store}
    {signal : Value}
    (ended : Evaluation.run ⟨limit, .part (.block program.statements) scope, store⟩ =
      (.ok signal, after)) :
    program.run scope limit store = (.ok signal.unwrapped, after) :=
  bind_of_ok ended _

/-! ## The first signal -/

/-- Whether a part has its operands evaluated in order, up to the first signal. -/
structure Part.GoesInOrder (limit scope : Nat) (whole : Part) (store : Store) : Prop where
  /-- An operand that ends with a signal behind others that do not ends the part. -/
  aborts : ∀ front next rest values between signal after,
    whole.operands = front ++ next :: rest →
    Yields limit scope front store values between → whole.Unsettled values →
    next.evaluate limit scope between = (.ok signal, after) → signal.isSignal = true →
      whole.evaluate limit scope store = (.ok signal, after)
  /-- If there is none, the part goes on in the store that they leave. -/
  completes : ∀ values between,
    Yields limit scope whole.operands store values between → whole.Unsettled values →
      whole.evaluate limit scope store = whole.complete limit scope values between

/-- Whether an evaluation ends with the signals that come up in it, at any depth. -/
structure Evaluation.EndsWithSignals (whole : Evaluation) : Prop where
  /-- Any signal from the same call. -/
  inCall : ∀ part signal after,
    Occurs partsInCall part whole → part.run = (.ok signal, after) → signal.isSignal = true →
      whole.run = (.ok signal, after)
  /-- An error also from calls inside. -/
  error : ∀ part fault after,
    Occurs parts part whole → part.run = (.ok (.error fault), after) →
      whole.run = (.ok (.error fault), after)

/--
The operands of a part are evaluated in the order in which they are written, and the first signal
among them ends the part in the store that it was raised in.  It so goes up from any depth: a
returned value is what the nearest call around it ends with, or the program if there is none, and an
error is what the program ends with.
-/
theorem evaluation_ends_with_first_signal (limit : Nat) :
    (∀ (whole : Part) (scope : Nat) (store : Store), whole.GoesInOrder limit scope store) ∧
    (∀ whole : Evaluation, whole.EndsWithSignals) ∧
    (∀ (function payload : Value) (arguments : List Value) (store after : Store)
        (body part : Evaluation),
      body ∈ Evaluation.parts ⟨limit, .call function arguments, store⟩ →
      Occurs Evaluation.partsInCall part body → part.run = (.ok (.returned payload), after) →
        applyFunction limit function arguments store = (.ok payload, after)) ∧
    (∀ (program : Program) (scope : Nat) (store after : Store) (part : Evaluation),
      (∀ payload,
        Occurs Evaluation.partsInCall part ⟨limit, .part (.block program.statements) scope, store⟩ →
        part.run = (.ok (.returned payload), after) →
          program.run scope limit store = (.ok payload, after)) ∧
      (∀ fault,
        Occurs Evaluation.parts part ⟨limit, .part (.block program.statements) scope, store⟩ →
        part.run = (.ok (.error fault), after) →
          program.run scope limit store = (.ok (.error fault), after))) := by
  refine ⟨fun whole scope store => ⟨?_, fun values between => Part.evaluate_of_yields⟩,
    fun whole => ⟨fun part signal after => Evaluation.run_of_occurs_inCall,
      fun part fault after => Evaluation.run_of_occurs⟩,
    fun function payload arguments store after body part => Evaluation.run_call_of_occurs,
    fun program scope store after part => ⟨fun payload occurs ended => ?_,
      fun fault occurs ended => ?_⟩⟩
  · intro front next rest values between signal after made yields unsettled ended isSignal
    have undertaken := Evaluation.mem_partsInCall_of_yields made yields unsettled
    exact Evaluation.run_of_occurs_inCall (.inside undertaken .here) ended isSignal
  · exact Program.run_of_signal (Evaluation.run_of_occurs_inCall occurs ended rfl)
  · exact Program.run_of_signal (Evaluation.run_of_occurs occurs ended)

/-- A store that binds a number and a function that would write to it. -/
def Store.writer : Store :=
  ⟨#[⟨[("x", .integer 1),
    ("f", .function 0 ["a", "b"] [.expression (.assign "x" (.integer 99))] 0)], none⟩], 1⟩

/--
The second argument of a call is an unknown name, so that the first one is assigned and the function
is not called.  A value that is returned inside of an array is what the call ends with, and what
stands behind it in the array is not evaluated.
-/
theorem evaluation_ends_with_first_signal_argument :
    Part.evaluate 1
        (.expression (.call (.name "f") [.assign "x" (.integer 2), .name "nope"])) 0 .writer =
      (.ok (.error (.nameNotFound "nope")), Store.writer.define 0 "x" (.integer 2)) ∧
    applyFunction 1
        (.function 1 [] [.expression (.array
          [.conditional (.boolean true) [.return (some (.integer 5))] none,
            .assign "x" (.integer 3)])] 0) [] .writer =
      (.ok (.integer 5), ((Store.writer.openScope (some 0)).2.openScope (some 1)).2) := by
  have unsettled (values : List Value) : Part.Unsettled
      (.expression (.call (.name "f") [.assign "x" (.integer 2), .name "nope"])) values :=
    fun _ _ => rfl
  have argument := ((evaluation_ends_with_first_signal 1).1
    (.expression (.call (.name "f") [.assign "x" (.integer 2), .name "nope"])) 0 .writer).aborts
    [.expression (.name "f"), .expression (.assign "x" (.integer 2))]
    (.expression (.name "nope")) [] _ _ _ _
    rfl (.cons rfl rfl (.cons rfl rfl .nil)) (unsettled _) rfl rfl
  refine ⟨argument, ?_⟩
  refine (evaluation_ends_with_first_signal 1).2.2.1 _ _ _ _ _
    ⟨0, .part (.block _) 1, (Store.writer.openScope (some 0)).2⟩
    ⟨0, .part (.statement (.return (some (.integer 5)))) 2,
      ((Store.writer.openScope (some 0)).2.openScope (some 1)).2⟩
    (.tail _ (.head _)) ?_ rfl
  -- The way down: the statement, the array, the conditional, its branch, and what returns.
  exact .inside (.head _) (.inside (.head _) (.inside (.head _) (.inside (.tail _ (.head _))
    (.inside (.head _) .here))))

end Jet
