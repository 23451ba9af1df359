import Jet.Proofs.Evaluation.Simulation
import Jet.Proofs.Session.Sequence

/-!
# Sessions beside others

What a session makes of source texts, in a store of its own and in a store that others use as well.
The executions match, one by one: they have the same programs and problems, and values that are the
same but for the numbers of scopes and stamps, which nobody is shown.
-/

namespace Jet

/-- Literals of a text are numbers. -/
theorem isNumeric_of_parseSource {source : String} {program : Program}
    (parsed : parseSource source = .ok ⟨program, []⟩) :
    Part.Obeys Part.IsNumeric (.block program.statements) := by
  refine (isTextual_of_parseSource parsed).mono fun part textual => ?_
  unfold Part.IsNumeric
  split
  · exact textual
  · trivial

/-- Two executions match if they differ only in the numbers of scopes and stamps. -/
structure Execution.Matches (numbering : Renumbering) (execution other : Execution) : Prop where
  program : execution.program = other.program
  problems : execution.problems = other.problems
  value : Option.Rel (Value.Matches numbering) execution.value other.value

namespace Execution.Matches

variable {numbering later : Renumbering} {execution other : Execution}

theorem mono (extended : later.Extends numbering) (matched : execution.Matches numbering other) :
    execution.Matches later other :=
  ⟨matched.program, matched.problems, matched.value.imp fun _ _ => .mono extended⟩

/-- What matches is reported in the same words, where there is room for all of them. -/
theorem report (matched : execution.Matches numbering other) (echoes : Bool) :
    execution.report .ample echoes = other.report .ample echoes := by
  rcases execution with ⟨program, problems, value⟩
  rcases other with ⟨otherProgram, otherProblems, otherValue⟩
  rcases matched with ⟨programs, same, values⟩
  dsimp only at programs same values
  subst programs same
  cases values with
  | none => rfl
  | some values =>
      have shown := values.display
      unfold Execution.report
      cases values with
      | integer | boolean | string | null | function | builtin | error => rfl
      | float | array | hash | returned =>
          dsimp only
          rw [shown]
          rfl

end Execution.Matches

namespace Session

variable {numbering : Renumbering} {store other : Store} {session otherSession : Session}

/-- Matching ends of evaluations are answered alike. -/
theorem sameEnd_answer {ended otherEnded : Except Halt Value}
    (ends : SameEnd (Value.Matches numbering) ended otherEnded) :
    SameEnd (Value.Matches numbering) (answer ended) (answer otherEnded) := by
  cases ends with
  | ok results => exact .ok results
  | error reason =>
      cases reason with
      | depthExceeded => exact .ok (.error _)
      | undefinedRemainder => exact .error _

/-- Evaluating a program in matching stores gives matching values and leaves matching stores. -/
theorem evaluate_simulates {program : Program}
    (numeric : Part.Obeys Part.IsNumeric (.block program.statements))
    (stores : store.Matches numbering other)
    (root : numbering.scopes[session.root]? = some otherSession.root) (limit : Nat) :
    ∃ later, Advances numbering later other (otherSession.evaluate limit program other).2 ∧
      (session.evaluate limit program store).2.Matches later
          (otherSession.evaluate limit program other).2 ∧
        SameEnd (Value.Matches later) (session.evaluate limit program store).1
          (otherSession.evaluate limit program other).1 := by
  rcases Program.run_simulates numeric stores root limit with ⟨later, advances, after, ends⟩
  exact ⟨later, advances, after, sameEnd_answer ends⟩

/-- Executing a text in matching stores has matching outcomes and leaves matching stores. -/
theorem execute_simulates
    (stores : store.Matches numbering other)
    (root : numbering.scopes[session.root]? = some otherSession.root) (host : Host)
    (source : String) :
    ∃ later, Advances numbering later other (otherSession.execute host source other).2.2 ∧
      (session.execute host source store).2.2.Matches later
          (otherSession.execute host source other).2.2 ∧
        SameEnd (Execution.Matches later) (session.execute host source store).1
          (otherSession.execute host source other).1 := by
  rcases reads_cases host source with noRoom | ⟨program, problems, refused⟩ | ⟨program, read⟩
  · rw [execute_of_noRoom session noRoom, execute_of_noRoom otherSession noRoom]
    exact ⟨numbering, .refl numbering other, stores, .error _⟩
  · rw [execute_of_refused session refused, execute_of_refused otherSession refused]
    exact ⟨numbering, .refl numbering other, stores, .ok ⟨rfl, rfl, .none⟩⟩
  · rcases evaluate_simulates (isNumeric_of_parseSource read.parsed) stores root host.callLimit with
      ⟨later, advances, after, ends⟩
    refine ⟨later, ?_⟩
    rw [execute_of_read session read, execute_of_read otherSession read]
    refine ⟨advances, after, ?_⟩
    dsimp only
    generalize (session.evaluate host.callLimit program store).1 = outcome,
      (otherSession.evaluate host.callLimit program other).1 = otherOutcome at ends
    cases ends with
    | ok results => exact .ok ⟨rfl, rfl, .some results⟩
    | error reason => exact .error reason

end Session

end Jet
