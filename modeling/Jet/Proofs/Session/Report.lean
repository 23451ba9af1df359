import Jet.Session

/-!
# What reports show

The report on an execution goes by its problems, its value and its last statement.  There are two
texts that a host may have no room for: the canonical program, if it is asked for, and that of a
result.  The report is broken off exactly if it comes to one of them, and otherwise shows what it
has to, which is said here as a relation between executions and what is printed.
-/

namespace Jet

namespace Report

/-- One report behind another is complete exactly if both are. -/
theorem escape_andThen_eq_none_iff {first next : Report} :
    (first.andThen next).escape = none ↔ first.escape = none ∧ next.escape = none := by
  rcases first with ⟨prints, _ | escape⟩ <;> simp [andThen]

theorem escape_ifRoom_eq_none_iff {hasRoom : Bool} {print : Print} :
    (ifRoom hasRoom print).escape = none ↔ hasRoom = true := by
  cases hasRoom <;> simp [ifRoom, done]

theorem ifRoom_of_room {hasRoom : Bool} (has : hasRoom = true) (print : Print) :
    ifRoom hasRoom print = done [print] :=
  if_pos has

end Report

namespace Execution

variable {execution : Execution} {room : Room} {echoes : Bool} {value : Value} {fault : Fault}

/-! ## Executions -/

theorem isParseError_iff :
    execution.isParseError = true ↔ execution.problems ≠ [] := by
  rw [isParseError, Bool.not_eq_true', ← Bool.not_eq_true, List.isEmpty_iff]

/-- All went well if there are no problems and the value is no error. -/
theorem isOk_iff :
    execution.isOk = true ↔
      execution.problems = [] ∧ ∀ fault, execution.value ≠ some (.error fault) := by
  rcases execution with ⟨program, problems, value⟩
  cases problems <;> rcases value with none | value
  all_goals try cases value
  all_goals simp [isOk, isParseError, isRuntimeError]

/-- A result is silent if the text ends by introducing a name. -/
theorem isSilent_iff :
    execution.isSilent = true ↔
      ∃ front name tree, execution.program.statements = front ++ [.bind name tree] := by
  unfold isSilent
  constructor
  · intro silent
    split at silent
    · rename_i last isLast
      rcases List.getLast?_eq_some_iff.mp isLast with ⟨front, equal⟩
      cases last with
      | bind name tree => exact ⟨front, name, tree, equal⟩
      | _ => cases silent
    · cases silent
  · rintro ⟨front, name, tree, equal⟩
    rw [equal, List.getLast?_concat]
    rfl

/-- What is printed in front of a result. -/
def echoed (execution : Execution) (echoes : Bool) : List Print :=
  if echoes then [.muted execution.program.text] else []

/-- Whether a host has room for the texts that the report on an execution puts together. -/
structure Fits (room : Room) (echoes : Bool) (execution : Execution) : Prop where
  /-- There is room for the canonical program, if it is asked for. -/
  program : execution.problems = [] → echoes = true → room.writes execution.program = true
  /-- There is room for a result that is shown. -/
  value : execution.isOk = true → execution.isSilent = false →
    ∀ value ∈ execution.value, room.shows value = true

theorem fits_ample (execution : Execution) (echoes : Bool) : execution.Fits .ample echoes :=
  ⟨fun _ _ => rfl, fun _ _ _ _ => rfl⟩

/-! ## Reports -/

theorem escape_echo_eq_none_iff :
    (execution.echo room echoes).escape = none ↔
      (echoes = true → room.writes execution.program = true) := by
  cases echoes with
  | false => exact iff_of_true rfl nofun
  | true =>
      rw [forall_prop_of_true rfl]
      exact Report.escape_ifRoom_eq_none_iff

theorem echo_eq_done (writes : echoes = true → room.writes execution.program = true) :
    execution.echo room echoes = .done (execution.echoed echoes) := by
  cases echoes with
  | false => rfl
  | true => exact Report.ifRoom_of_room (writes rfl) _

/-- Problems are reported by their messages alone. -/
theorem report_of_problems (given : execution.problems ≠ []) (room : Room) (echoes : Bool) :
    execution.report room echoes = .done (Print.problems execution.errors) :=
  if_pos (isParseError_iff.mpr given)

/-- An error is reported whatever the text ends with. -/
theorem report_of_error (noProblems : execution.problems = [])
    (failed : execution.value = some (.error fault)) (room : Room) (echoes : Bool) :
    execution.report room echoes =
      (execution.echo room echoes).andThen (.done [.failure (Value.error fault).display]) := by
  rw [report, isParseError, noProblems, failed]
  rfl

/-- The result of what went well is reported unless the execution is silent. -/
theorem report_of_isOk (ok : execution.isOk = true) (result : execution.value = some value)
    (room : Room) (echoes : Bool) :
    execution.report room echoes =
      (execution.echo room echoes).andThen
        (if execution.isSilent then .done []
          else .ifRoom (room.shows value) (.value value.display)) := by
  rcases isOk_iff.mp ok with ⟨noProblems, noFault⟩
  rw [report, isParseError, noProblems, result]
  cases value with
  | error fault => exact absurd result (noFault fault)
  | _ => rfl

/-- A report is complete exactly if there is room for the texts that it puts together. -/
theorem escape_report_eq_none_iff
    (answered : execution.value = none → execution.problems ≠ []) :
    (execution.report room echoes).escape = none ↔ execution.Fits room echoes := by
  by_cases given : execution.problems = []
  · by_cases failed : ∃ fault, execution.value = some (.error fault)
    · rcases failed with ⟨fault, failed⟩
      have notOk : ¬ execution.isOk = true := fun ok => (isOk_iff.mp ok).2 fault failed
      rw [report_of_error given failed, Report.escape_andThen_eq_none_iff, escape_echo_eq_none_iff]
      exact ⟨fun fits => ⟨fun _ => fits.1, fun ok => absurd ok notOk⟩,
        fun fits => ⟨fits.program given, rfl⟩⟩
    · have ok : execution.isOk = true :=
        isOk_iff.mpr ⟨given, fun fault same => failed ⟨fault, same⟩⟩
      rcases Option.ne_none_iff_exists'.mp fun none => answered none given with ⟨value, result⟩
      rw [report_of_isOk ok result, Report.escape_andThen_eq_none_iff, escape_echo_eq_none_iff]
      constructor
      · rintro ⟨writes, shows⟩
        refine ⟨fun _ => writes, fun _ loud other same => ?_⟩
        cases result.symm.trans same
        rw [loud] at shows
        exact Report.escape_ifRoom_eq_none_iff.mp shows
      · intro fits
        refine ⟨fits.program given, ?_⟩
        cases silent : execution.isSilent with
        | true => rfl
        | false => exact Report.escape_ifRoom_eq_none_iff.mpr (fits.value ok silent value result)
  · rw [report_of_problems given]
    exact iff_of_true rfl
      ⟨fun none => absurd none given, fun ok => absurd (isOk_iff.mp ok).1 given⟩

/-- A result other than an error that is not silent is reported behind the canonical program. -/
theorem report_of_loud (fits : execution.Fits room echoes) (ok : execution.isOk = true)
    (result : execution.value = some value) (loud : execution.isSilent = false) :
    execution.report room echoes = .done (execution.echoed echoes ++ [.value value.display]) := by
  rw [report_of_isOk ok result, echo_eq_done (fits.program (isOk_iff.mp ok).1), loud,
    if_neg Bool.false_ne_true, Report.ifRoom_of_room (fits.value ok loud value result)]
  rfl

/-- What is printed to show an execution; the program stands in front if this is asked for. -/
inductive Shows (echoes : Bool) : Execution → List Print → Prop where
  /-- A text with problems is answered by all of their messages. -/
  | problems {program : Program} {problems : List Problem} {value : Option Value}
      (given : problems ≠ []) :
      Shows echoes ⟨program, problems, value⟩
        (.problemsHeader :: problems.map fun problem => .problem problem.message)
  /-- An error is shown whatever the text ends with. -/
  | error (program : Program) (fault : Fault) :
      Shows echoes ⟨program, [], some (.error fault)⟩
        ((if echoes then [.muted program.text] else []) ++ [.failure ("ERROR: " ++ fault.message)])
  /-- No other result is shown if the text ends by introducing a name. -/
  | silent {program : Program} {value : Value} {front : List Stmt} {name : String} {tree : Expr}
      (noError : ∀ fault, value ≠ .error fault)
      (ending : program.statements = front ++ [.bind name tree]) :
      Shows echoes ⟨program, [], some value⟩ (if echoes then [.muted program.text] else [])
  | value {program : Program} {value : Value}
      (noError : ∀ fault, value ≠ .error fault)
      (ending : ∀ front name tree, program.statements ≠ front ++ [.bind name tree]) :
      Shows echoes ⟨program, [], some value⟩
        ((if echoes then [.muted program.text] else []) ++ [.value value.display])

/-- A report for which there is room shows the execution, if this has problems or a result. -/
theorem shows_report (answered : execution.value = none → execution.problems ≠ [])
    (fits : execution.Fits room echoes) :
    execution.Shows echoes (execution.report room echoes).prints := by
  rcases execution with ⟨program, problems, value⟩
  cases problems with
  | cons first others =>
      have given : first :: others ≠ [] := List.cons_ne_nil first others
      rw [report_of_problems given]
      change Shows echoes _ (_ :: List.map Print.problem (List.map Problem.message _))
      rw [List.map_map]
      exact .problems given
  | nil =>
      rcases value with _ | value
      · exact absurd rfl (answered rfl)
      by_cases failed : ∃ fault, value = .error fault
      · rcases failed with ⟨fault, rfl⟩
        rw [report_of_error rfl rfl, echo_eq_done (fits.program rfl)]
        exact .error program fault
      have noError : ∀ fault, value ≠ .error fault := fun fault same => failed ⟨fault, same⟩
      have ok : isOk ⟨program, [], some value⟩ = true :=
        isOk_iff.mpr ⟨rfl, fun fault same => noError fault (Option.some.inj same)⟩
      cases silent : isSilent ⟨program, [], some value⟩ with
      | true =>
          rcases isSilent_iff.mp silent with ⟨front, name, tree, ending⟩
          rw [report_of_isOk ok rfl, echo_eq_done (fits.program rfl), silent, if_pos rfl]
          change Shows echoes _ (_ ++ [])
          rw [List.append_nil]
          exact .silent noError ending
      | false =>
          rw [report_of_loud fits ok rfl silent]
          refine .value noError fun front name tree ending => ?_
          exact Bool.eq_false_iff.mp silent (isSilent_iff.mpr ⟨front, name, tree, ending⟩)

end Execution

end Jet
