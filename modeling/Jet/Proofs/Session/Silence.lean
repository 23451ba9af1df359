import Jet.CommandLine.Outcome
import Jet.Interaction
import Jet.Proofs.Session.Escape
import Jet.Proofs.Session.Report
import Jet.Proofs.Session.Sequence

/-!
# What silence hides

Whether a result is worth showing goes by the last statement of its text, while the result itself
comes from wherever the run of the text ended.  A text that ends by introducing a name and gets there
has the result null, and hiding that hides nothing.  But a `return` outside of all functions may
leave the text before, with any value, and then this value is hidden.  Nothing else ever is: the
results other than null that are hidden are exactly those that such a text was left with.
-/

namespace Jet

open Jet.Computation

namespace Computation

/-- Going on after a computation ends with a signal of it, or with what it goes on to. -/
theorem andThen_eq_ok {first : Computation Value} {next : Value → Computation Value}
    {store : Store} {value : Value}
    (ended : (andThen first next store).1 = .ok value) :
    value.isSignal = true ∨ ∃ between after, (next between after).1 = .ok value := by
  rw [andThen_apply] at ended
  generalize first store = outcome at ended
  rcases outcome with ⟨reason | between, after⟩
  · cases ended
  · dsimp only at ended
    split at ended
    · rename_i signal
      cases ended
      exact .inl signal
    · exact .inr ⟨between, after, ended⟩

end Computation

/-- Introducing a name gives null, unless its value is a signal. -/
theorem evaluate_bind_eq_ok {call : Call} {name : String} {tree : Expr} {scope : Nat} {store : Store}
    {value : Value} (ended : (Stmt.evaluate call (.bind name tree) scope store).1 = .ok value) :
    value.isSignal = true ∨ value = .null := by
  rw [Stmt.evaluate] at ended
  rcases andThen_eq_ok ended with signal | ⟨bound, after, ended⟩
  · exact .inl signal
  · cases ended
    exact .inr rfl

/-- So do statements of which the last one introduces a name. -/
theorem evaluateStatements_bind_eq_ok {call : Call} {statements : List Stmt} {last : Stmt}
    (isLast : statements.getLast? = some last) (binds : last.isBinding = true)
    {scope : Nat} {store : Store} {value : Value}
    (ended : (evaluateStatements call statements .null scope store).1 = .ok value) :
    value.isSignal = true ∨ value = .null := by
  rcases List.getLast?_eq_some_iff.mp isLast with ⟨front, rfl⟩
  have begins : Value.null.isSignal = false := rfl
  rw [evaluateStatements_append call [last] scope front begins] at ended
  rcases andThen_eq_ok ended with signal | ⟨between, middle, ended⟩
  · exact .inl signal
  · have single : evaluateStatements call [last] between scope = last.evaluate call scope := by
      rw [evaluateStatements]
      exact andThen_pure_right _
    rw [single] at ended
    cases last with
    | bind name tree => exact evaluate_bind_eq_ok ended
    | _ => cases binds

namespace Session

variable {session : Session} {host : Host} {store : Store} {source : String}
  {execution : Execution} {value : Value}

/-- Whether a program is left by a `return` outside of all functions, with a value. -/
def Leaves (session : Session) (limit : Nat) (program : Program) (store : Store) (value : Value) :
    Prop :=
  (evaluateStatements (applyFunction limit) program.statements .null session.root store).1 =
    .ok (.returned value)

/-- What went well has the value that its statements came to, taken out of its signal. -/
theorem exists_of_isOk
    (executed : (session.execute host source store).1 = .ok execution)
    (ok : execution.isOk = true) :
    ∃ result, execution.value = some result.unwrapped ∧
      (evaluateStatements (applyFunction host.callLimit) execution.program.statements .null
        session.root store).1 = .ok result := by
  rcases Execution.isOk_iff.mp ok with ⟨noProblems, noFault⟩
  rcases cases_of_execute_eq_ok executed with
    ⟨program, problems, refused, rfl⟩ | ⟨program, value, read, answered, rfl⟩
  · exact absurd noProblems refused.given
  · rcases eq_of_answer_eq_ok answered with ended | ⟨_, rfl⟩
    · rw [Program.run_apply] at ended
      generalize evaluateStatements _ _ _ _ store = outcome at ended ⊢
      rcases outcome with ⟨reason | result, after⟩
      · cases ended
      · cases ended
        exact ⟨result, rfl, rfl⟩
    · exact absurd rfl (noFault .depthExceeded)

/-- A silent result other than null is one that a `return` left the text with. -/
theorem leaves_of_isSilent
    (executed : (session.execute host source store).1 = .ok execution)
    (ok : execution.isOk = true) (silent : execution.isSilent = true)
    (result : execution.value = some value) (notNull : value ≠ .null) :
    session.Leaves host.callLimit execution.program store value := by
  rcases exists_of_isOk executed ok with ⟨ended, same, evaluated⟩
  cases same.symm.trans result
  unfold Execution.isSilent at silent
  split at silent
  · rename_i last isLast
    rcases evaluateStatements_bind_eq_ok isLast silent evaluated with signal | rfl
    · cases ended with
      | returned payload => exact evaluated
      | error fault => exact absurd same ((Execution.isOk_iff.mp ok).2 fault)
      | _ => cases signal
    · exact absurd rfl notNull
  · cases silent

/-- A text that a `return` leaves has the returned value. -/
theorem value_of_leaves
    (executed : (session.execute host source store).1 = .ok execution)
    (ok : execution.isOk = true)
    (leaves : session.Leaves host.callLimit execution.program store value) :
    execution.value = some value := by
  rcases exists_of_isOk executed ok with ⟨ended, same, evaluated⟩
  cases leaves.symm.trans evaluated
  exact same

end Session

/-! ## What is printed -/

/-- A line that is executed has its report given out behind the prompt, up to where it breaks off. -/
theorem Interaction.takeLine_of_ok {interaction : Interaction} {line : String} {host : Host}
    {execution : Execution} {session : Session} {store : Store}
    (asks : Request.ofLine line = .execute)
    (ended : interaction.session.execute host line interaction.store =
      (.ok execution, session, store))
    (settings : InteractionSettings) :
    interaction.takeLine host settings line =
      let report := execution.report host.room settings.echoesProgram
      { interaction with
        outputs := interaction.outputs ++ .prompt settings.prompt :: report.prints.map .print
        log := interaction.log ++ execution.log
        session := session
        store := store
        escape := report.escape } := by
  rw [takeLine, asks]
  dsimp only
  rw [ended]
  simp [give]

/-- A program file that runs well has its report printed unless its result is null. -/
theorem CommandLine.runProgram_of_isOk {host : Host} {source : String} {execution : Execution}
    {value : Value}
    (executed : ((Session.mk rootScope false []).execute host source .initial).1 = .ok execution)
    (ok : execution.isOk = true) (result : execution.value = some value) (notNull : value ≠ .null)
    (threshold : Level) :
    runProgram host threshold source =
      .reported 0 (execution.report host.room false) (logged threshold execution.log) := by
  unfold runProgram
  generalize (Session.mk rootScope false []).execute host source .initial = outcome at executed ⊢
  rcases outcome with ⟨ended, session, store⟩
  cases executed
  dsimp only
  rw [ok, result]
  cases value with
  | null => exact absurd rfl notNull
  | _ => rfl

namespace Session

/--
A silent text that was executed well has a result other than null exactly if a `return` outside of
all functions left it with one, and its result is what it was left with.

A result other than null is reported, unless the text ends by introducing a name and was left with
this result: the report ends with its text, exactly if the host has room for what is reported.  Then
an interaction and a run of a program file print it too.
-/
theorem execute_silence {session : Session} {host : Host} {store : Store} {source : String}
    {execution : Execution}
    (executed : (session.execute host source store).1 = .ok execution)
    (ok : execution.isOk = true) :
    ∃ value, execution.value = some value ∧
      (execution.isSilent = true →
        (value ≠ .null ↔ ∃ left, left ≠ .null ∧
          session.Leaves host.callLimit execution.program store left)) ∧
      (∀ left, session.Leaves host.callLimit execution.program store left → value = left) ∧
      (value ≠ .null →
        ¬ (execution.isSilent = true ∧
          session.Leaves host.callLimit execution.program store value) →
        (∀ room echoes,
          (execution.Fits room echoes ↔
            (echoes = true → room.writes execution.program = true) ∧ room.shows value = true) ∧
          (execution.report room echoes = .done (execution.echoed echoes ++ [.value value.display]) ↔
            execution.Fits room echoes)) ∧
        (∀ (interaction : Interaction) (settings : InteractionSettings),
          interaction.session = session → interaction.store = store →
          Request.ofLine source = .execute → execution.Fits host.room settings.echoesProgram →
            let next := interaction.takeLine host settings source
            next.escape = none ∧ next.outputs =
              interaction.outputs ++ .prompt settings.prompt ::
                List.map .print
                  (execution.echoed settings.echoesProgram ++ [.value value.display])) ∧
        (session = ⟨rootScope, false, []⟩ → store = .initial → execution.Fits host.room false →
          ∀ threshold, CommandLine.runProgram host threshold source =
            ⟨0, [.print (.value value.display)], CommandLine.logged threshold execution.log,
              none⟩)) := by
  rcases exists_of_isOk executed ok with ⟨ended, result, _⟩
  have same {left : Value} (leaves : session.Leaves host.callLimit execution.program store left) :
      ended.unwrapped = left :=
    Option.some.inj (result.symm.trans (value_of_leaves executed ok leaves))
  refine ⟨ended.unwrapped, result, fun silent => ⟨fun notNull => ?_, ?_⟩, fun _ => same, ?_⟩
  · exact ⟨_, notNull, leaves_of_isSilent executed ok silent result notNull⟩
  · rintro ⟨left, notNull, leaves⟩
    exact same leaves ▸ notNull
  intro notNull shown
  have loud : execution.isSilent = false := Bool.eq_false_iff.mpr fun silent =>
    shown ⟨silent, leaves_of_isSilent executed ok silent result notNull⟩
  have answered : execution.value = none → execution.problems ≠ [] := fun none =>
    nomatch none.symm.trans result
  refine ⟨fun room echoes => ⟨⟨fun fits => ?_, ?_⟩, fun whole => ?_, fun fits => ?_⟩, ?_, ?_⟩
  · exact ⟨fits.program (Execution.isOk_iff.mp ok).1, fits.value ok loud _ result⟩
  · rintro ⟨writes, shows⟩
    refine ⟨fun _ => writes, fun _ _ other given => ?_⟩
    cases result.symm.trans given
    exact shows
  · exact (Execution.escape_report_eq_none_iff answered).mp (whole ▸ rfl)
  · exact Execution.report_of_loud fits ok result loud
  · rintro interaction settings rfl rfl asks fits
    have taken : interaction.session.execute host source interaction.store =
        (.ok execution, (interaction.session.execute host source interaction.store).2) :=
      Prod.ext executed rfl
    dsimp only
    rw [Interaction.takeLine_of_ok asks taken, Execution.report_of_loud fits ok result loud]
    exact ⟨rfl, rfl⟩
  · rintro rfl rfl fits threshold
    rw [CommandLine.runProgram_of_isOk executed ok result notNull,
      Execution.report_of_loud fits ok result loud]
    rfl

/-- A number that is returned at the end of a text is shown. -/
theorem execute_silence_shown :
    (CommandLine.runProgram (.ample 200) .warning "return 5").output = [.print (.value "5")] := by
  have read : (Host.ample 200).Reads "return 5" ⟨[.return (some (.integer 5))]⟩ := ⟨rfl, rfl⟩
  have runs (call : Call) :
      evaluateStatements call [.return (some (.integer 5))] .null rootScope .initial =
        (.ok (.returned (.integer 5)), .initial) := rfl
  have executed : ((Session.mk rootScope false []).execute (.ample 200) "return 5" .initial).1 =
      .ok ⟨⟨[.return (some (.integer 5))]⟩, [], some (.integer 5)⟩ := by
    rw [execute_of_runs ⟨rootScope, false, []⟩ read runs]
    rfl
  rcases execute_silence executed rfl with ⟨value, result, _, _, shows⟩
  cases result
  rcases shows nofun fun hidden => nomatch hidden.1 with ⟨_, _, run⟩
  rw [run rfl rfl (Execution.fits_ample _ false) .warning]
  rfl

/-- What becomes of a text that returns a number before it ends by introducing a name. -/
theorem execute_return_before_let (session : Session) (store : Store) :
    session.execute (.ample 200) "return 5; let a = 1" store =
      (.ok ⟨⟨[.return (some (.integer 5)), .bind "a" (.integer 1)]⟩, [], some (.integer 5)⟩,
        session.note "return 5; let a = 1", store) := by
  have read : (Host.ample 200).Reads "return 5; let a = 1"
      ⟨[.return (some (.integer 5)), .bind "a" (.integer 1)]⟩ := ⟨rfl, rfl⟩
  have runs (call : Call) :
      evaluateStatements call [.return (some (.integer 5)), .bind "a" (.integer 1)] .null
        session.root store = (.ok (.returned (.integer 5)), store) := rfl
  exact execute_of_runs session read runs

/-- The returned number is not shown, although all went well and the number is not null. -/
theorem execute_silence_hidden :
    ∃ execution,
      ((Session.mk rootScope false []).execute (.ample 200) "return 5; let a = 1" .initial).1 =
          .ok execution ∧
        execution.isOk = true ∧ execution.isSilent = true ∧
        execution.value = some (.integer 5) ∧ execution.report .ample false = .done [] ∧
        (CommandLine.runProgram (.ample 200) .warning "return 5; let a = 1").output = [] := by
  refine ⟨_, by rw [execute_return_before_let], rfl, rfl, rfl, rfl, ?_⟩
  rw [CommandLine.runProgram, execute_return_before_let]
  rfl

end Session

end Jet
