import Jet.Proofs.Evaluation.Interruption
import Jet.Proofs.Session.Digits

/-!
# What gets past a session

Executing a text gives the problems of the text, or a value, or an error, and running out of nested
calls is an error like others.  Only two things get past the session: a text for which the host has
no room, so that it cannot even be read, and a remainder that has no value.  Whether a text comes to
the latter is decided by what its evaluation undertakes, so that the texts that have no outcome are
known exactly.  A literal that cannot be read, which could get past the session as well, is never
met.
-/

namespace Jet

namespace Session

variable {session : Session} {host : Host} {source : String} {store : Store} {program : Program}

/-- The evaluation of a program in the root scope, within a limit of nested calls. -/
def evaluation (session : Session) (limit : Nat) (program : Program) (store : Store) : Evaluation :=
  ⟨limit, .part (.block program.statements) session.root, store⟩

/-- An answer is missing exactly if the evaluation came to a remainder that has no value. -/
theorem answer_eq_error_iff {ended : Except Halt Value} {escape : Escape} :
    answer ended = .error escape ↔
      escape = .undefinedRemainder ∧ ended = .error .undefinedRemainder := by
  rcases ended with (_ | _) | value <;> simp [answer, eq_comm]

/-- What a session makes of a program goes by the reason to cut its evaluation off. -/
theorem evaluate_eq_error_iff {limit : Nat} {escape : Escape} :
    (session.evaluate limit program store).1 = .error escape ↔
      escape = .undefinedRemainder ∧
        (session.evaluation limit program store).Reaches .undefinedRemainder :=
  answer_eq_error_iff.trans (and_congr_right fun _ => Program.run_eq_error_iff)

/-- Running out of nested calls is an error like others. -/
theorem evaluate_eq_depthExceeded {limit : Nat}
    (reaches : (session.evaluation limit program store).Reaches .depthExceeded) :
    (session.evaluate limit program store).1 = .ok (.error .depthExceeded) := by
  have halts : (program.run session.root limit store).1 = .error .depthExceeded :=
    Program.run_eq_error_iff.mpr reaches
  rw [evaluate, halts]
  rfl

/-- The texts that have no outcome are known by the host and by what their evaluation comes to. -/
theorem execute_eq_error_iff {problems : List Problem} {escape : Escape}
    (parsed : parseSource source = .ok ⟨program, problems⟩) :
    (session.execute host source store).1 = .error escape ↔
      escape = .exhausted ∧ host.room.reads source = false ∨
        escape = .undefinedRemainder ∧ host.Reads source program ∧
          (session.evaluation host.callLimit program store).Reaches .undefinedRemainder := by
  rcases reads_cases host source with noRoom | ⟨other, others, refused⟩ | ⟨other, read⟩
  · have noRead : ¬ host.Reads source program := fun read => by
      cases noRoom.symm.trans read.room
    rw [execute_of_noRoom session noRoom]
    simp [noRoom, noRead, eq_comm]
  · cases refused.parsed.symm.trans parsed
    have noRead : ¬ host.Reads source program := fun read => by
      cases read.parsed.symm.trans parsed
      exact refused.given rfl
    rw [execute_of_refused session refused]
    simp [refused.room, noRead]
  · cases read.parsed.symm.trans parsed
    have mapped : (session.execute host source store).1 = .error escape ↔
        (session.evaluate host.callLimit program store).1 = .error escape := by
      rw [execute_of_read session read]
      cases (session.evaluate host.callLimit program store).1 <;> simp [Except.map]
    rw [mapped, evaluate_eq_error_iff]
    simp [read.room, read]

/-- An outcome holds the problems of the text, and a value exactly if there are none. -/
theorem execute_eq_ok {problems : List Problem} {execution : Execution}
    (parsed : parseSource source = .ok ⟨program, problems⟩)
    (executed : (session.execute host source store).1 = .ok execution) :
    execution.program = program ∧ execution.problems = problems ∧
      (execution.value = none ↔ problems ≠ []) := by
  rcases cases_of_execute_eq_ok executed with
    ⟨other, others, refused, rfl⟩ | ⟨other, value, read, _, rfl⟩
  · cases refused.parsed.symm.trans parsed
    exact ⟨rfl, rfl, fun _ => refused.given, fun _ => rfl⟩
  · cases read.parsed.symm.trans parsed
    exact ⟨rfl, rfl, nofun, fun none => absurd rfl none⟩

/--
An operator has no answer for two values only if it is a remainder that has no value.

After any source texts in a session that begins in an empty environment, a text gets past the
session exactly if the host has no room for reading it, or if it is read without problems and its
evaluation comes to such a remainder.  Every other text is answered, by its problems alone if it has
any, else by a value or an error, which is that of the limit if it runs out of nested calls.
-/
theorem execute_answers (host : Host) (keepsHistory : Bool) (earlier : List String)
    (source : String) :
    (∀ operator left right reason, binaryOperation operator left right = .error reason ↔
      reason = .undefinedRemainder ∧ operator = "%" ∧
        ∃ dividend divisor, Number.ofValue? left = some dividend ∧
          Number.ofValue? right = some divisor ∧ IsUndefinedRemainder dividend divisor) ∧
    let (_, session, store) := executeFresh host keepsHistory earlier
    let outcome := (session.execute host source store).1
    ∃ program problems, parseSource source = .ok ⟨program, problems⟩ ∧
      (∀ escape, outcome = .error escape ↔
        escape = .exhausted ∧ host.room.reads source = false ∨
          escape = .undefinedRemainder ∧ host.Reads source program ∧
            (session.evaluation host.callLimit program store).Reaches .undefinedRemainder) ∧
      (∀ execution, outcome = .ok execution →
        execution.program = program ∧ execution.problems = problems ∧
          (execution.value = none ↔ problems ≠ []) ∧ IsSettled .shown execution) ∧
      (host.Reads source program →
        (session.evaluation host.callLimit program store).Reaches .depthExceeded →
        outcome = .ok ⟨program, [], some (.error .depthExceeded)⟩) := by
  refine ⟨fun _ _ _ _ => binaryOperation_eq_error_iff, ?_⟩
  have clean := (isClean_executeFresh host keepsHistory earlier).1
  rcases parseSource_eq_ok source with ⟨⟨program, problems⟩, parsed⟩
  refine ⟨program, problems, parsed, ?_, ?_, ?_⟩
  · exact fun escape => execute_eq_error_iff parsed
  · intro execution executed
    rcases execute_eq_ok parsed executed with ⟨same, given, value⟩
    exact ⟨same, given, value, (clean.execute host source).2 execution executed⟩
  · intro read reaches
    rw [execute_of_read _ read, evaluate_eq_depthExceeded reaches]
    rfl

/-- Executions cannot be compared, but the escape of an outcome can. -/
theorem eq_error_of_decide {outcome : Except Escape Execution} {escape : Escape}
    (escapes : (match outcome with
      | .error other => decide (other = escape)
      | .ok _ => false) = true) :
    outcome = .error escape := by
  cases outcome with
  | error other => exact congrArg Except.error (of_decide_eq_true escapes)
  | ok execution => cases escapes

/-- The remainder of a product beyond all doubles gets past a new session. -/
theorem execute_infinite_remainder :
    ((start true .empty).1.execute (.ample 200)
      "let a = 10000000000.0; let b = a * a * a * a; let c = b * b * b * b; c * c % 2"
      (start true .empty).2).1 = .error .undefinedRemainder :=
  eq_error_of_decide (by decide +kernel)

end Session

end Jet
