import Jet.Proofs.Evaluation.Steps
import Jet.Proofs.Grammar.Sequence
import Jet.Proofs.Session.Execution

/-!
# One text or two

Whether two texts are given to a session one after the other, or as one text with a line between
them that holds a semicolon, makes no difference to it, unless the first text has problems or ends
in a signal.  Read as one text they are the statements of both.  Statements one behind the other are
evaluated in the same scope, and the ones behind see nothing of those in front but the store.
-/

namespace Jet

open Jet.Computation

section

variable (call : Call) (others : List Stmt) (scope : Nat)

/-- Statements one behind the other go on with the value of those in front. -/
theorem evaluateStatements_append (statements : List Stmt) {last : Value}
    (noSignal : last.isSignal = false) :
    evaluateStatements call (statements ++ others) last scope =
      andThen (evaluateStatements call statements last scope) fun value =>
        evaluateStatements call others value scope := by
  induction statements generalizing last with
  | nil => rw [List.nil_append, evaluateStatements, andThen_pure noSignal]
  | cons statement statements induction =>
      rw [List.cons_append, evaluateStatements, evaluateStatements, andThen_assoc]
      exact andThen_congr fun value noSignal => induction noSignal

/-- The value in front of some statements is not seen by them. -/
theorem evaluateStatements_last (nonempty : others ≠ []) (last : Value) :
    evaluateStatements call others last scope = evaluateStatements call others .null scope := by
  cases others with
  | nil => exact absurd rfl nonempty
  | cons => rw [evaluateStatements, evaluateStatements]

end

/-- Running a program is evaluating its statements, with a returned value taken out of its signal. -/
theorem Program.run_apply (program : Program) (scope limit : Nat) (store : Store) :
    program.run scope limit store =
      let (result, after) :=
        evaluateStatements (applyFunction limit) program.statements .null scope store
      (result.map Value.unwrapped, after) := by
  change Computation.bind _ _ store = _
  unfold Computation.bind
  split <;> rename_i equal <;> rw [equal] <;> rfl

namespace Execution

/-- What a text without problems was executed to is as silent as its last statement. -/
theorem isSilent_append {program otherProgram : Program} (nonempty : otherProgram.statements ≠ [])
    (value otherValue : Option Value) :
    isSilent ⟨⟨program.statements ++ otherProgram.statements⟩, [], value⟩ =
      isSilent ⟨otherProgram, [], otherValue⟩ := by
  have last := List.getLast?_eq_some_getLast nonempty
  unfold isSilent
  dsimp only
  rw [List.getLast?_append, last, Option.some_or]

end Execution

namespace Session

variable {host : Host} {source other : String} {program otherProgram : Program} {value : Value}
  {store middle : Store}

/-- A text without problems has the value that its statements come to, if that takes no calls. -/
theorem execute_of_runs (session : Session) {after : Store} (read : host.Reads source program)
    (runs : ∀ call : Call, evaluateStatements call program.statements .null session.root store =
      (.ok value, after)) :
    session.execute host source store =
      (.ok ⟨program, [], some value.unwrapped⟩, session.note source, after) := by
  rw [execute_of_read session read, evaluate, Program.run_apply, runs]
  rfl

/-- Evaluating the statements of two programs is evaluating the one and then the other. -/
theorem evaluate_append (session : Session) {limit : Nat}
    (nonempty : otherProgram.statements ≠ [])
    (runs : evaluateStatements (applyFunction limit) program.statements .null session.root store =
      (.ok value, middle))
    (noSignal : value.isSignal = false) :
    session.evaluate limit program store = (.ok value, middle) ∧
      session.evaluate limit ⟨program.statements ++ otherProgram.statements⟩ store =
        session.evaluate limit otherProgram middle := by
  constructor
  · rw [evaluate, Program.run_apply, runs]
    cases value <;> first | rfl | cases noSignal
  · have begins : Value.null.isSignal = false := rfl
    have goesOn := congrFun (evaluateStatements_append (applyFunction limit)
      otherProgram.statements session.root program.statements begins) store
    rw [andThen_apply, runs] at goesOn
    dsimp only at goesOn
    rw [if_neg (Bool.eq_false_iff.mp noSignal), evaluateStatements_last _ _ _ nonempty] at goesOn
    rw [evaluate, evaluate, Program.run_apply, Program.run_apply, goesOn]

/--
A text without problems whose statements come to no signal, followed by another text without
problems: executing both with a line between them that holds a semicolon gives the value that
executing one after the other gives last, is as silent, and leaves the same store and the same root.
This is so on every host that has room for reading the two texts and the one.
-/
theorem execute_append_semicolon (session : Session)
    (read : host.Reads source program) (otherRead : host.Reads other otherProgram)
    (room : host.room.reads (source ++ "\n;\n" ++ other) = true)
    (nonempty : otherProgram.statements ≠ [])
    (runs : evaluateStatements (applyFunction host.callLimit) program.statements .null session.root
      store = (.ok value, middle))
    (noSignal : value.isSignal = false) :
    let first := session.execute host source store
    let second := first.2.1.execute host other first.2.2
    let whole := session.execute host (source ++ "\n;\n" ++ other) store
    first.1 = .ok ⟨program, [], some value⟩ ∧
      whole.1.map Execution.value = second.1.map Execution.value ∧
        whole.1.map Execution.isSilent = second.1.map Execution.isSilent ∧
          whole.2.1.root = second.2.1.root ∧ whole.2.2 = second.2.2 := by
  rcases session.evaluate_append nonempty runs noSignal with ⟨first, both⟩
  have joined : host.Reads (source ++ "\n;\n" ++ other) _ :=
    ⟨room, parseSource_append_semicolon read.parsed otherRead.parsed⟩
  rw [execute_of_read session read, execute_of_read session joined, first, both]
  dsimp only
  rw [execute_of_read _ otherRead, evaluate_congr (session.note_root source)]
  refine ⟨rfl, ?_, ?_, ?_, rfl⟩
  · cases (session.evaluate host.callLimit otherProgram middle).1 <;> rfl
  · cases (session.evaluate host.callLimit otherProgram middle).1
    · rfl
    · exact congrArg Except.ok (Execution.isSilent_append nonempty _ _)
  · simp only [note_root]

/-- A comment at the end of the first text ends there, and the second text sees what it has bound. -/
theorem execute_append_semicolon_comment :
    let whole :=
      (Session.mk rootScope true []).execute (.ample 200)
        ("let a = 1 # one" ++ "\n;\n" ++ "a + 1") .initial
    whole.1.map Execution.value = .ok (some (.integer 2)) ∧
      whole.1.map Execution.isSilent = .ok false ∧
        whole.2.2.bindings rootScope = [("a", .integer 1)] := by
  have read : (Host.ample 200).Reads "let a = 1 # one" ⟨[.bind "a" (.integer 1)]⟩ := ⟨rfl, rfl⟩
  have otherRead : (Host.ample 200).Reads "a + 1"
      ⟨[.expression (.binary (.name "a") "+" (.integer 1))]⟩ := ⟨rfl, rfl⟩
  have runs (call : Call) :
      evaluateStatements call [.bind "a" (.integer 1)] .null rootScope .initial =
        (.ok .null, Store.initial.define rootScope "a" (.integer 1)) := rfl
  have otherRuns (call : Call) :
      evaluateStatements call [.expression (.binary (.name "a") "+" (.integer 1))] .null rootScope
        (Store.initial.define rootScope "a" (.integer 1)) =
        (.ok (.integer 2), Store.initial.define rootScope "a" (.integer 1)) := rfl
  have joined := execute_append_semicolon (Session.mk rootScope true []) read otherRead rfl
    (List.cons_ne_nil _ _) (runs _) rfl
  have first : (Session.mk rootScope true []).execute (.ample 200) "let a = 1 # one" .initial =
      (.ok ⟨⟨[.bind "a" (.integer 1)]⟩, [], some .null⟩, ⟨rootScope, true, ["let a = 1 # one"]⟩,
        Store.initial.define rootScope "a" (.integer 1)) :=
    execute_of_runs ⟨rootScope, true, []⟩ read runs
  have second : (Session.mk rootScope true ["let a = 1 # one"]).execute (.ample 200) "a + 1"
      (Store.initial.define rootScope "a" (.integer 1)) =
      (.ok ⟨⟨[.expression (.binary (.name "a") "+" (.integer 1))]⟩, [], some (.integer 2)⟩,
        ⟨rootScope, true, ["let a = 1 # one", "a + 1"]⟩,
        Store.initial.define rootScope "a" (.integer 1)) :=
    execute_of_runs ⟨rootScope, true, ["let a = 1 # one"]⟩ otherRead otherRuns
  simp only [first, second] at joined
  rcases joined with ⟨_, value, silent, _, store⟩
  refine ⟨value, silent, ?_⟩
  rw [store]
  rfl

end Session

end Jet
