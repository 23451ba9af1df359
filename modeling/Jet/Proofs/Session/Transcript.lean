import Jet.Proofs.Session.Silence
import Jet.Terminal.Host

/-!
# The transcript of an interaction

An interaction takes its lines one by one, up to the first that asks to leave.  It does with its
session what executing these lines does, one after the other and blank ones left out, and what it
gives out is a prompt for each line that it takes and, behind the prompt, the report on the line, if
it was executed.  Whatever problems and errors there are among the reports, none of them ends the
interaction: only a text that gets past the session does, and a report that the host has no room for.

One line is taken by what it asks for; the run over all lines is by induction on the lines, from any
state in which the interaction goes on.
-/

namespace Jet

/-! ## Outcomes -/

/-- What is printed, if a console prints it. -/
def Output.item? : Output → Option Print
  | print item => some item
  | _ => none

/-- Whether executions are the outcomes of texts, with room for the reports on all of them. -/
structure AreReported (room : Room) (echoes : Bool) (executions : List Execution)
    (outcomes : List (Except Escape Execution)) : Prop where
  answers : outcomes = executions.map .ok
  fits : ∀ execution ∈ executions, execution.Fits room echoes

namespace AreReported

variable {room : Room} {echoes : Bool} {executions : List Execution}
  {outcome : Except Escape Execution} {outcomes : List (Except Escape Execution)}

theorem nil (room : Room) (echoes : Bool) : AreReported room echoes [] [] :=
  ⟨rfl, fun _ => nofun⟩

theorem cons {execution : Execution} (fits : execution.Fits room echoes)
    (reported : AreReported room echoes executions outcomes) :
    AreReported room echoes (execution :: executions) (.ok execution :: outcomes) :=
  ⟨congrArg (.ok execution :: ·) reported.answers, List.forall_mem_cons.mpr ⟨fits, reported.fits⟩⟩

/-- The first of some outcomes is an execution with room for its report, and so are the others. -/
theorem of_cons (reported : AreReported room echoes executions (outcome :: outcomes)) :
    ∃ execution others, executions = execution :: others ∧ outcome = .ok execution ∧
      execution.Fits room echoes ∧ AreReported room echoes others outcomes := by
  cases executions with
  | nil => cases reported.answers
  | cons execution others =>
      rcases List.cons.inj reported.answers with ⟨first, behind⟩
      rcases List.forall_mem_cons.mp reported.fits with ⟨fits, fitsBehind⟩
      exact ⟨execution, others, rfl, first, fits, behind, fitsBehind⟩

/-- Outcomes are those of one list of executions only. -/
theorem unique {others : List Execution} (first : AreReported room echoes executions outcomes)
    (second : AreReported room echoes others outcomes) :
    executions = others :=
  (List.map_inj_right fun _ _ => Except.ok.inj).mp (first.answers.symm.trans second.answers)

end AreReported

/-! ## Lines -/

namespace Interaction

/-- Whether a line asks to leave. -/
def asksToLeave (line : String) : Bool :=
  Text.strip line == "exit" || Text.strip line == "quit"

/-- Whether there is nothing but white space on a line. -/
def isEmptyLine (line : String) : Bool :=
  Text.strip line == ""

/-- The lines that are taken: those up to the first that asks to leave. -/
def taken (lines : List String) : List String :=
  lines.take (lines.findIdx asksToLeave + 1)

/-- The lines that are executed: all in front of the first that asks to leave, but blank ones. -/
def executed (lines : List String) : List String :=
  (lines.takeWhile fun line => !asksToLeave line).filter fun line => !isEmptyLine line

/-- What is given out for some lines, given the reports on those that are executed. -/
def transcript (prompt : String) : List String → List (List Print) → List Output
  | [], _ => []
  | line :: rest, reports =>
      if asksToLeave line then [.prompt prompt]
      else if isEmptyLine line then .prompt prompt :: transcript prompt rest reports
      else
        .prompt prompt :: (reports.headD []).map .print ++ transcript prompt rest reports.tail

/-- What a line asks for goes by its text without white space at the ends. -/
theorem ofLine_eq (line : String) :
    Request.ofLine line =
      if asksToLeave line then .leave else if isEmptyLine line then .nothing else .execute := by
  unfold Request.ofLine asksToLeave isEmptyLine
  split
  · rename_i same
    rw [same]
    rfl
  · rename_i same
    rw [same]
    rfl
  · rename_i same
    rw [same]
    rfl
  · rename_i notEmpty notExit notQuit
    rw [beq_eq_false_iff_ne.mpr notEmpty, beq_eq_false_iff_ne.mpr notExit,
      beq_eq_false_iff_ne.mpr notQuit]
    rfl

/-- A line with a text that does not ask to leave is executed. -/
theorem ofLine_of_text {line : String} (stay : asksToLeave line = false)
    (text : isEmptyLine line = false) :
    Request.ofLine line = .execute := by
  rw [ofLine_eq, stay, text]
  rfl

section

variable {line : String} {rest : List String}

theorem taken_of_leave (leave : asksToLeave line = true) (rest : List String) :
    taken (line :: rest) = [line] := by
  rw [taken, List.findIdx_cons, leave]
  rfl

theorem taken_of_stay (stay : asksToLeave line = false) (rest : List String) :
    taken (line :: rest) = line :: taken rest := by
  rw [taken, List.findIdx_cons, stay]
  rfl

theorem executed_of_leave (leave : asksToLeave line = true) (rest : List String) :
    executed (line :: rest) = [] := by
  rw [executed, List.takeWhile_cons, leave]
  rfl

theorem executed_of_empty (stay : asksToLeave line = false) (empty : isEmptyLine line = true)
    (rest : List String) :
    executed (line :: rest) = executed rest := by
  rw [executed, List.takeWhile_cons, stay, if_pos (Bool.not_false), List.filter_cons, empty]
  rfl

theorem executed_of_text (stay : asksToLeave line = false) (text : isEmptyLine line = false)
    (rest : List String) :
    executed (line :: rest) = line :: executed rest := by
  rw [executed, List.takeWhile_cons, stay, if_pos (Bool.not_false), List.filter_cons, text]
  rfl

end

/-- There is a prompt for each line that is taken. -/
theorem count_prompt_transcript (prompt : String) (lines : List String)
    (reports : List (List Print)) :
    (transcript prompt lines reports).count (.prompt prompt) = (taken lines).length := by
  induction lines generalizing reports with
  | nil => rfl
  | cons line rest induction =>
      have noPrompt (items : List Print) : (items.map Output.print).count (.prompt prompt) = 0 :=
        List.count_eq_zero.mpr fun member => by
          rcases List.mem_map.mp member with ⟨_, _, same⟩
          cases same
      unfold transcript
      cases leave : asksToLeave line with
      | true => rw [taken_of_leave leave, if_pos rfl, List.count_cons_self]; rfl
      | false =>
          rw [taken_of_stay leave, if_neg Bool.false_ne_true, List.length_cons]
          split
          · rw [List.count_cons_self, induction]
          · rw [List.cons_append, List.count_cons_self, List.count_append, noPrompt, induction,
              Nat.zero_add]

/-- The items are the reports, one after the other, if there is one for each executed line. -/
theorem items_transcript (prompt : String) {lines : List String} {reports : List (List Print)}
    (enough : reports.length = (executed lines).length) :
    (transcript prompt lines reports).filterMap Output.item? = reports.flatten := by
  have items (prints : List Print) : (prints.map Output.print).filterMap Output.item? = prints := by
    rw [List.filterMap_map]
    exact List.filterMap_some
  induction lines generalizing reports with
  | nil =>
      rw [List.eq_nil_of_length_eq_zero enough]
      rfl
  | cons line rest induction =>
      unfold transcript
      cases leave : asksToLeave line with
      | true =>
          rw [executed_of_leave leave] at enough
          rw [List.eq_nil_of_length_eq_zero enough]
          rfl
      | false =>
          rw [if_neg Bool.false_ne_true]
          cases empty : isEmptyLine line with
          | true =>
              rw [executed_of_empty leave empty] at enough
              exact induction enough
          | false =>
              rw [executed_of_text leave empty] at enough
              cases reports with
              | nil => cases enough
              | cons report others =>
                  rw [if_neg Bool.false_ne_true, List.cons_append, List.filterMap_cons_none rfl,
                    List.filterMap_append, items, List.flatten_cons]
                  exact congrArg (report ++ ·) (induction (Nat.succ.inj enough))

/-! ## The loop -/

/-- Whether an interaction goes on: no line asked to leave, and nothing broke it off. -/
structure GoesOn (interaction : Interaction) : Prop where
  stays : interaction.left = false
  unbroken : interaction.escape = none

variable {host : Host} {settings : InteractionSettings} {interaction : Interaction} {line : String}
  {rest : List String} {execution : Execution} {session : Session} {store : Store}

theorem goesOn_initial (session : Session) (store : Store) : (initial session store).GoesOn :=
  ⟨rfl, rfl⟩

theorem takeLine_of_leave (host : Host) (settings : InteractionSettings) (interaction : Interaction)
    (leave : asksToLeave line = true) :
    interaction.takeLine host settings line =
      { interaction.give [.prompt settings.prompt] with left := true } := by
  rw [takeLine, ofLine_eq, leave]
  rfl

theorem takeLine_of_empty (host : Host) (settings : InteractionSettings) (interaction : Interaction)
    (stay : asksToLeave line = false) (empty : isEmptyLine line = true) :
    interaction.takeLine host settings line = interaction.give [.prompt settings.prompt] := by
  rw [takeLine, ofLine_eq, stay, empty]
  rfl

theorem GoesOn.takeLine_of_empty (goesOn : interaction.GoesOn) (host : Host)
    (settings : InteractionSettings) (stay : asksToLeave line = false)
    (empty : isEmptyLine line = true) :
    (interaction.takeLine host settings line).GoesOn := by
  rw [Interaction.takeLine_of_empty host settings interaction stay empty]
  exact ⟨goesOn.stays, goesOn.unbroken⟩

/-- An interaction goes on behind a report that is complete. -/
theorem GoesOn.takeLine_of_ok (goesOn : interaction.GoesOn) (asks : Request.ofLine line = .execute)
    (ended : interaction.session.execute host line interaction.store =
      (.ok execution, session, store))
    (complete : (execution.report host.room settings.echoesProgram).escape = none) :
    (interaction.takeLine host settings line).GoesOn := by
  rw [Interaction.takeLine_of_ok asks ended settings]
  exact ⟨goesOn.stays, complete⟩

/-- A text that gets past the session breaks the interaction off. -/
theorem takeLine_of_error {escape : Escape} (settings : InteractionSettings)
    (asks : Request.ofLine line = .execute)
    (ended : interaction.session.execute host line interaction.store =
      (.error escape, session, store)) :
    (interaction.takeLine host settings line).escape = some escape := by
  rw [takeLine, asks]
  dsimp only
  rw [ended]

/-- The lines behind one with which the interaction goes on are taken from where it leads. -/
theorem takeLines_cons (goesOn : (interaction.takeLine host settings line).GoesOn) :
    takeLines host settings interaction (line :: rest) =
      takeLines host settings (interaction.takeLine host settings line) rest := by
  rw [takeLines, goesOn.stays, goesOn.unbroken]
  rfl

/-- A line that asks to leave is the last one that is taken. -/
theorem takeLines_cons_of_leave (leave : asksToLeave line = true) :
    takeLines host settings interaction (line :: rest) = interaction.takeLine host settings line := by
  rw [takeLines, takeLine_of_leave host settings interaction leave]
  rfl

/-- A line that breaks the interaction off is the last one that is taken. -/
theorem takeLines_cons_of_broken
    (broken : (interaction.takeLine host settings line).escape ≠ none) :
    takeLines host settings interaction (line :: rest) = interaction.takeLine host settings line := by
  rw [takeLines, Option.isSome_iff_ne_none.mpr broken, Bool.or_true]
  rfl

/-- What the lines lead to if the texts are executed as given, and all of them are reported. -/
def after (host : Host) (settings : InteractionSettings) (interaction : Interaction)
    (lines : List String) (executions : List Execution) : Interaction where
  outputs := interaction.outputs ++ transcript settings.prompt lines
    (executions.map fun execution => (execution.report host.room settings.echoesProgram).prints)
  log := interaction.log ++ executions.flatMap Execution.log
  session := (interaction.session.executeAll host (executed lines) interaction.store).2.1
  store := (interaction.session.executeAll host (executed lines) interaction.store).2.2
  escape := none
  left := lines.any asksToLeave

/-- Without lines nothing is done. -/
theorem after_nil (goesOn : interaction.GoesOn) :
    interaction.after host settings [] [] = interaction := by
  rcases interaction with ⟨outputs, log, session, store, escape, left⟩
  rcases goesOn with ⟨rfl, rfl⟩
  simp [after, transcript, executed, Session.executeAll]

/-- A line that asks to leave ends the interaction, whatever is behind it. -/
theorem after_of_leave (goesOn : interaction.GoesOn) (leave : asksToLeave line = true) :
    interaction.after host settings (line :: rest) [] = interaction.takeLine host settings line := by
  rw [takeLine_of_leave host settings interaction leave, after, executed_of_leave leave]
  rcases interaction with ⟨outputs, log, session, store, escape, left⟩
  rcases goesOn with ⟨rfl, rfl⟩
  simp [transcript, leave, give, Session.executeAll]

theorem after_of_empty (stay : asksToLeave line = false) (empty : isEmptyLine line = true)
    (executions : List Execution) :
    interaction.after host settings (line :: rest) executions =
      (interaction.takeLine host settings line).after host settings rest executions := by
  rw [takeLine_of_empty host settings interaction stay empty, after, after,
    executed_of_empty stay empty, List.any_cons, stay, transcript, stay, empty,
    if_neg Bool.false_ne_true, if_pos rfl, List.append_cons]
  rfl

theorem after_of_ok (stay : asksToLeave line = false) (text : isEmptyLine line = false)
    (ended : interaction.session.execute host line interaction.store =
      (.ok execution, session, store))
    (executions : List Execution) :
    interaction.after host settings (line :: rest) (execution :: executions) =
      (interaction.takeLine host settings line).after host settings rest executions := by
  rw [takeLine_of_ok (ofLine_of_text stay text) ended settings, after, after,
    executed_of_text stay text, Session.executeAll, ended, List.any_cons, stay, transcript, stay,
    text, if_neg Bool.false_ne_true, if_neg Bool.false_ne_true, List.map_cons, List.headD_cons,
    List.tail_cons, List.flatMap_cons]
  simp only [List.append_assoc, Bool.false_or]

/--
A text is reported and the interaction goes on to what the lines behind it lead to, or the text
breaks the interaction off.
-/
theorem GoesOn.takeLine_of_text (goesOn : interaction.GoesOn) (host : Host)
    (settings : InteractionSettings) (stay : asksToLeave line = false)
    (text : isEmptyLine line = false) :
    let outcome := interaction.session.execute host line interaction.store
    let next := interaction.takeLine host settings line
    (∃ execution, outcome.1 = .ok execution ∧
      execution.Fits host.room settings.echoesProgram ∧
        next.GoesOn ∧ next.session = outcome.2.1 ∧ next.store = outcome.2.2 ∧
          ∀ rest executions,
            interaction.after host settings (line :: rest) (execution :: executions) =
              next.after host settings rest executions) ∨
      next.escape ≠ none ∧ ∀ execution, outcome.1 = .ok execution →
        ¬ execution.Fits host.room settings.echoesProgram := by
  have asks := ofLine_of_text stay text
  rcases ended : interaction.session.execute host line interaction.store with
    ⟨escape | execution, session, store⟩
  · right
    have broken := takeLine_of_error settings asks ended
    exact ⟨broken ▸ Option.some_ne_none escape, fun _ => nofun⟩
  · have next := Interaction.takeLine_of_ok asks ended settings
    have complete : (execution.report host.room settings.echoesProgram).escape = none ↔ _ :=
      Execution.escape_report_eq_none_iff (Session.answered_execute (congrArg Prod.fst ended))
    by_cases fits : execution.Fits host.room settings.echoesProgram
    · left
      refine ⟨execution, rfl, fits, goesOn.takeLine_of_ok asks ended (complete.mpr fits), ?_, ?_,
        fun rest => after_of_ok stay text ended⟩
      · rw [next]
      · rw [next]
    · right
      constructor
      · rw [next]
        exact mt complete.mp fits
      · rintro other ⟨⟩
        exact fits

/--
What lines lead to, from any state in which the interaction goes on: every text has an outcome that
is reported, or the interaction is broken off.  The induction is on the lines, by what the first of
them asks for.
-/
theorem takeLines_cases (goesOn : interaction.GoesOn) (lines : List String) :
    let outcomes := (interaction.session.executeAll host (executed lines) interaction.store).1
    (∃ executions, AreReported host.room settings.echoesProgram executions outcomes ∧
      interaction.takeLines host settings lines =
        interaction.after host settings lines executions) ∨
      (interaction.takeLines host settings lines).escape ≠ none ∧
        ¬ ∃ executions, AreReported host.room settings.echoesProgram executions outcomes := by
  induction lines generalizing interaction with
  | nil => exact .inl ⟨[], .nil _ _, (after_nil goesOn).symm⟩
  | cons line rest induction =>
      cases leave : asksToLeave line with
      | true =>
          refine .inl ⟨[], ?_, ?_⟩
          · rw [executed_of_leave leave]
            exact .nil _ _
          · rw [takeLines_cons_of_leave leave, after_of_leave goesOn leave]
      | false =>
          cases empty : isEmptyLine line with
          | true =>
              have next := takeLine_of_empty host settings interaction leave empty
              have nextGoesOn := goesOn.takeLine_of_empty host settings leave empty
              have behind := induction nextGoesOn
              rw [executed_of_empty leave empty, takeLines_cons nextGoesOn]
              rw [next] at behind
              rcases behind with ⟨executions, reported, final⟩ | broken
              · refine .inl ⟨executions, reported, ?_⟩
                rw [after_of_empty leave empty, next, final]
              · exact .inr (next ▸ broken)
          | false =>
              rw [executed_of_text leave empty, Session.executeAll]
              rcases goesOn.takeLine_of_text host settings leave empty with
                ⟨execution, outcome, fits, nextGoesOn, session, store, leads⟩ | ⟨broken, unfit⟩
              · have behind := induction nextGoesOn
                rw [session, store] at behind
                rw [takeLines_cons nextGoesOn, outcome]
                rcases behind with ⟨executions, reported, final⟩ | ⟨broken, unreported⟩
                · refine .inl ⟨execution :: executions, reported.cons fits, ?_⟩
                  rw [final, leads]
                · refine .inr ⟨broken, ?_⟩
                  rintro ⟨executions, reported⟩
                  rcases reported.of_cons with ⟨_, others, _, _, _, behind⟩
                  exact unreported ⟨others, behind⟩
              · rw [takeLines_cons_of_broken broken]
                refine .inr ⟨broken, ?_⟩
                rintro ⟨executions, reported⟩
                rcases reported.of_cons with ⟨execution, _, _, outcome, fits, _⟩
                exact unfit execution outcome fits

/-- An interaction that goes on leads to what its texts do, if every one of them is reported. -/
theorem takeLines_eq_after {lines : List String} {executions : List Execution}
    (goesOn : interaction.GoesOn)
    (reported : AreReported host.room settings.echoesProgram executions
      (interaction.session.executeAll host (executed lines) interaction.store).1) :
    interaction.takeLines host settings lines =
      interaction.after host settings lines executions := by
  rcases takeLines_cases goesOn lines with ⟨others, same, final⟩ | ⟨_, unreported⟩
  · rw [final, same.unique reported]
  · exact absurd ⟨executions, reported⟩ unreported

/-- An interaction that goes on is not broken off exactly if every text is reported. -/
theorem escape_takeLines_eq_none_iff {lines : List String} (goesOn : interaction.GoesOn) :
    (interaction.takeLines host settings lines).escape = none ↔
      ∃ executions, AreReported host.room settings.echoesProgram executions
        (interaction.session.executeAll host (executed lines) interaction.store).1 := by
  constructor
  · intro unbroken
    rcases takeLines_cases goesOn lines with ⟨executions, reported, _⟩ | ⟨broken, _⟩
    · exact ⟨executions, reported⟩
    · exact absurd unbroken broken
  · rintro ⟨executions, reported⟩
    rw [takeLines_eq_after goesOn reported]
    rfl

end Interaction

namespace Session

/-- A session is left with all texts noted and nothing else. -/
theorem executeAll_session (session : Session) (host : Host) (sources : List String)
    (store : Store) :
    (session.executeAll host sources store).2.1 =
      { session with
        history := session.history ++ if session.keepsHistory then sources else [] } := by
  induction sources generalizing session store with
  | nil => rw [executeAll, ite_self, List.append_nil]
  | cons source rest induction =>
      rw [executeAll, induction, execute_session]
      rcases session with ⟨root, keepsHistory, history⟩
      cases keepsHistory with
      | true => exact congrArg (Session.mk root true) (List.append_assoc history [source] rest)
      | false => rfl

theorem executeAll_length (session : Session) (host : Host) (sources : List String)
    (store : Store) :
    (session.executeAll host sources store).1.length = sources.length := by
  induction sources generalizing session store with
  | nil => rfl
  | cons source rest induction => rw [executeAll, List.length_cons, induction, List.length_cons]

/-- Every outcome of the texts has problems or a result. -/
theorem answered_executeAll {session : Session} {host : Host} {sources : List String}
    {store : Store} {execution : Execution}
    (member : .ok execution ∈ (session.executeAll host sources store).1) :
    execution.value = none → execution.problems ≠ [] :=
  (executeAll_keeps (fun _ _ => True)
    (fun execution => execution.value = none → execution.problems ≠ [])
    (fun _ _ _ _ => ⟨trivial, fun _ => answered_execute⟩) trivial sources).2 execution member

end Session

namespace Interaction

/--
An interaction that begins with a session does with it what executing the lines does that are in
front of the first that asks to leave, without the blank ones.

It is broken off exactly if one of these texts has no outcome, or the host has no room for the
report on one.  If not, it leaves the session and the store that executing them leaves, which is the
session that it began with, with these lines behind its history if it keeps one.  What it gives out
is a prompt for each line that is taken and, as the items, the reports on the executions, in order,
whatever is among them.
-/
theorem hold_refines (host : Host) (settings : InteractionSettings) (session : Session)
    (store : Store) (lines : List String) :
    let final := hold host settings session store lines
    let direct := session.executeAll host (executed lines) store
    (final.escape = none ↔
        ∃ executions, AreReported host.room settings.echoesProgram executions direct.1) ∧
      ∀ executions, AreReported host.room settings.echoesProgram executions direct.1 →
        let reports := executions.map fun execution =>
          (execution.report host.room settings.echoesProgram).prints
        final.session = direct.2.1 ∧ final.store = direct.2.2 ∧
          final.session =
            { session with
              history := session.history ++ if session.keepsHistory then executed lines else [] } ∧
          (final.left = true ↔ ∃ line ∈ lines, asksToLeave line = true) ∧
          final.outputs = transcript settings.prompt lines reports ∧
          final.outputs.count (.prompt settings.prompt) = (taken lines).length ∧
          final.outputs.filterMap Output.item? = reports.flatten ∧
          ∀ execution ∈ executions, execution.Shows settings.echoesProgram
            (execution.report host.room settings.echoesProgram).prints := by
  refine ⟨escape_takeLines_eq_none_iff (goesOn_initial session store), ?_⟩
  intro executions reported
  have final : hold host settings session store lines = _ :=
    takeLines_eq_after (goesOn_initial session store) reported
  have answers := reported.answers
  change (session.executeAll host (executed lines) store).1 = _ at answers
  have enough : (executions.map fun execution =>
      (execution.report host.room settings.echoesProgram).prints).length =
      (executed lines).length := by
    rw [List.length_map, ← Session.executeAll_length session host (executed lines) store, answers,
      List.length_map]
  rw [final]
  refine ⟨rfl, rfl, Session.executeAll_session session host _ store, List.any_eq_true, rfl,
    count_prompt_transcript settings.prompt lines _, items_transcript settings.prompt enough, ?_⟩
  intro execution member
  have outcome : .ok execution ∈ (session.executeAll host (executed lines) store).1 := by
    rw [answers]
    exact List.mem_map_of_mem member
  exact Execution.shows_report (Session.answered_executeAll outcome) (reported.fits execution member)

/-- A binding, a blank line, a text with a problem, a name, a line that asks to leave, a name. -/
def mixedLines : List String :=
  ["let a = 1", " ", "a +", "a", "quit", "b"]

/-- The problem on the third of these lines does not end the interaction; the fifth line does. -/
theorem hold_refines_mixedLines :
    let final := hold (.ample 200) ⟨"> ", false, true⟩ ⟨rootScope, true, []⟩ .initial mixedLines
    final.escape = none ∧ final.left = true ∧
      final.session.history = ["let a = 1", "a +", "a"] ∧
        final.outputs =
          [.prompt "> ", .prompt "> ", .prompt "> ", .print .problemsHeader,
            .print (.problem "line 1, column 4: no prefix parse rule for end of input"),
            .prompt "> ", .print (.value "1"), .prompt "> "] := by
  have lines : executed mixedLines = ["let a = 1", "a +", "a"] := by decide
  have bindsRead : (Host.ample 200).Reads "let a = 1" ⟨[.bind "a" (.integer 1)]⟩ := ⟨rfl, rfl⟩
  have binds (call : Call) :
      evaluateStatements call [.bind "a" (.integer 1)] .null 0 .initial =
        (.ok .null, ⟨#[⟨[("a", .integer 1)], none⟩], 0⟩) := rfl
  have fails : (Host.ample 200).Refuses "a +" ⟨[]⟩ [⟨.noExpression, ⟨.endOfInput, "", 1, 4⟩⟩] :=
    ⟨rfl, rfl, nofun⟩
  have nameRead : (Host.ample 200).Reads "a" ⟨[.expression (.name "a")]⟩ := ⟨rfl, rfl⟩
  have reads (call : Call) :
      evaluateStatements call [.expression (.name "a")] .null 0
          ⟨#[⟨[("a", .integer 1)], none⟩], 0⟩ =
        (.ok (.integer 1), ⟨#[⟨[("a", .integer 1)], none⟩], 0⟩) := rfl
  have answers :
      (Session.executeAll ⟨rootScope, true, []⟩ (.ample 200) (executed mixedLines) .initial).1 =
        List.map .ok [⟨⟨[.bind "a" (.integer 1)]⟩, [], some .null⟩,
          ⟨⟨[]⟩, [⟨.noExpression, ⟨.endOfInput, "", 1, 4⟩⟩], none⟩,
          ⟨⟨[.expression (.name "a")]⟩, [], some (.integer 1)⟩] := by
    rw [lines, Session.executeAll, Session.execute_of_runs _ bindsRead binds, Session.executeAll,
      Session.execute_of_refused _ fails, Session.executeAll,
      Session.execute_of_runs _ nameRead reads]
    rfl
  rcases hold_refines (.ample 200) ⟨"> ", false, true⟩ ⟨rootScope, true, []⟩ .initial mixedLines with
    ⟨unbroken, ends⟩
  have reported : AreReported (Host.ample 200).room false _ _ :=
    ⟨answers, fun execution _ => execution.fits_ample false⟩
  rcases ends _ reported with ⟨_, _, session, left, outputs, _, _, _⟩
  refine ⟨unbroken.mpr ⟨_, reported⟩, left.mpr ⟨"quit", by decide, by decide⟩, ?_, ?_⟩
  · rw [session, lines]
    rfl
  · rw [outputs]
    decide +kernel

/-- Lines that bind a name to five hundred arrays inside each other, and then ask for them. -/
def deepLines : List String :=
  ["let f = fn(x) \x7b [[[[[[[[[[x]]]]]]]]]] \x7d; " ++
    "let g = fn(x) \x7b f(f(f(f(f(f(f(f(f(f(x)))))))))) \x7d; let a = g(g(g(g(g([])))))", "a"]

/-- All goes well with both of these lines, but there is no room for showing what the second gives. -/
theorem hold_refines_deepLines :
    let session : Session := ⟨rootScope, true, []⟩
    let direct := session.executeAll Terminal.host (executed deepLines) .initial
    let final := hold Terminal.host ⟨">> ", false, true⟩ session .initial deepLines
    (direct.1.all fun outcome => outcome.toOption.any Execution.isOk) = true ∧
      final.escape = some .exhausted ∧ final.outputs = [.prompt ">> ", .prompt ">> "] := by
  decide +kernel

end Interaction

end Jet
