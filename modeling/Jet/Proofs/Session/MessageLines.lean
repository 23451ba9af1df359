import Jet.Proofs.Grammar.Blame
import Jet.Proofs.Grammar.ProblemOrder
import Jet.Proofs.Session.Execution
import Jet.Proofs.Session.Report
import Jet.Proofs.Token.Joining
import Jet.Terminal

/-!
# The lines that messages take

The messages that report problems are printed below a header, each on lines of its own.  Most
messages take one line: they quote no literal, or that of a token without a new line in it.  The
exception are messages that another kind of token was expected.  They quote whatever came instead,
and if that is a string, then with its escapes decoded, or with all the lines of the rest of the
text if the string is not closed.

So it is known of every source text which of its messages break their line, and on how many lines
they are printed by any console that keeps the lines of what it prints.
-/

namespace Jet

/-! ## New lines in texts -/

/-- The number of new lines in a text. -/
def lineBreaks (text : String) : Nat :=
  text.toList.count '\n'

theorem lineBreaks_append (text other : String) :
    lineBreaks (text ++ other) = lineBreaks text + lineBreaks other := by
  rw [lineBreaks, String.toList_append, List.count_append]
  rfl

/-- What counts in a text that is put together from parts with separators between them. -/
theorem count_intercalate (char separator : Char) (parts : List (List Char)) :
    (List.intercalate [separator] parts).count char =
      parts.flatten.count char + (parts.length - 1) * [separator].count char := by
  induction parts with
  | nil => simp
  | cons part others induction =>
      cases others with
      | nil => simp
      | cons other others =>
          have links :
              (part :: other :: others).length - 1 = (other :: others).length - 1 + 1 := rfl
          have parts : (part :: other :: others).flatten.count char =
              part.count char + (other :: others).flatten.count char := List.count_append
          rw [List.intercalate_cons_cons, List.count_append, List.count_append, induction, links,
            parts, Nat.succ_mul]
          omega

/-! ## New lines in what is printed -/

/--
Whether a console keeps lines: it is wide enough for the line above problems, and it ends every text
that stays on its lines with a new line and changes no other new line of it.
-/
structure Console.KeepsLines (console : Console) : Prop where
  header : lineBreaks (console.printed .problemsHeader) = 1
  soft : ∀ item : Print, item.softWraps = true →
    lineBreaks (console.printed item) = lineBreaks item.text + 1

namespace Terminal

/-- Tabs are replaced by something without new lines. -/
theorem count_fillLine (column : Nat) (parts : List (List Char)) :
    (fillLine column parts).count '\n' = parts.flatten.count '\n' := by
  induction parts generalizing column with
  | nil => rfl
  | cons part others induction =>
      cases others with
      | nil => simp [fillLine]
      | cons other others =>
          have noBreak (count : Nat) : (List.replicate count ' ').count '\n' = 0 :=
            List.count_eq_zero.mpr fun member =>
              absurd (List.eq_of_mem_replicate member) (by decide)
          rw [fillLine]
          · simp [induction, noBreak]
          · exact nofun

/-- A line has no fewer and no more new lines when its tabs are replaced. -/
theorem count_fillLine_splitOn (line : List Char) :
    (fillLine 0 (line.splitOn '\t')).count '\n' = line.count '\n' := by
  have whole := count_intercalate '\n' '\t' (line.splitOn '\t')
  rw [List.intercalate_splitOn] at whole
  rw [count_fillLine, whole]
  rfl

/-- The new lines of some lines are left as they are when tabs are replaced in each. -/
theorem count_flatten_fillLine (lines : List (List Char)) :
    (lines.map fun line => fillLine 0 (line.splitOn '\t')).flatten.count '\n' =
      lines.flatten.count '\n' := by
  induction lines with
  | nil => rfl
  | cons line others induction =>
      rw [List.map_cons, List.flatten_cons, List.flatten_cons, List.count_append,
        List.count_append, count_fillLine_splitOn, induction]

/-- No line is lost when tabs are replaced. -/
theorem count_expandTabs (text : List Char) :
    (expandTabs text).count '\n' = text.count '\n' := by
  have whole := count_intercalate '\n' '\n' (text.splitOn '\n')
  rw [List.intercalate_splitOn] at whole
  rw [expandTabs, count_intercalate, count_flatten_fillLine, List.length_map, whole]

/-- A text is printed with all of its new lines. -/
theorem lineBreaks_shown (text : String) :
    lineBreaks (shown text) = lineBreaks text := by
  rw [lineBreaks, shown, String.toList_ofList, count_expandTabs]
  exact List.count_filter rfl

/-- A plain terminal keeps lines. -/
theorem keepsLines_console : console.KeepsLines := by
  have printed (item : Print) : lineBreaks (console.printed item) = lineBreaks item.text + 1 := by
    change lineBreaks (shown item.text ++ "\n") = _
    rw [lineBreaks_append, lineBreaks_shown]
    rfl
  exact ⟨printed .problemsHeader, fun item _ => printed item⟩

end Terminal

/-- A text that is put together has new lines exactly if one of its parts has. -/
theorem lineBreaks_join_eq_zero_iff {texts : List String} :
    lineBreaks (String.join texts) = 0 ↔ ∀ text ∈ texts, '\n' ∉ text.toList := by
  induction texts with
  | nil => simp [lineBreaks]
  | cons text others induction =>
      rw [String.join_cons, lineBreaks_append, Nat.add_eq_zero_iff, induction, lineBreaks,
        List.count_eq_zero, List.forall_mem_cons]

namespace Console.KeepsLines

variable {console : Console}

/-- Messages take a line each, and one for each new line. -/
theorem lineBreaks_messages (keeps : console.KeepsLines) (messages : List String) :
    lineBreaks (console.write ((messages.map Print.problem).map .print)) =
      messages.length + lineBreaks (String.join messages) := by
  induction messages with
  | nil => rfl
  | cons message others induction =>
      have indented : lineBreaks ("\t" ++ message) = lineBreaks message := by
        rw [lineBreaks_append]
        exact Nat.zero_add _
      have first : lineBreaks (console.printed (.problem message)) = lineBreaks message + 1 :=
        (keeps.soft _ rfl).trans (congrArg (· + 1) indented)
      rw [Console.write] at induction ⊢
      rw [List.map_cons, List.map_cons, List.map_cons, String.join_cons, String.join_cons,
        lineBreaks_append, lineBreaks_append, induction, List.length_cons, Output.written, first]
      omega

/-- Problems take a line for the header besides. -/
theorem lineBreaks_problems (keeps : console.KeepsLines) (messages : List String) :
    lineBreaks (console.write ((Print.problems messages).map .print)) =
      1 + messages.length + lineBreaks (String.join messages) := by
  have behind := keeps.lineBreaks_messages messages
  rw [Console.write] at behind ⊢
  rw [Print.problems, List.map_cons, List.map_cons, String.join_cons, lineBreaks_append,
    Output.written, keeps.header, behind, Nat.add_assoc]

end Console.KeepsLines

/-! ## New lines in literals -/

/-- Whether a token is a string or one that is not closed. -/
def Token.IsStringText (token : Token) : Prop :=
  token.kind = .string ∨ token.kind = .illegal ∧ token.literal.toList.head? = some '"'

/-- Only strings have a new line in their literal. -/
theorem Lexeme.Spelled.isUnfinished_of_newline {lexeme : Lexeme} (spelled : lexeme.Spelled)
    (noString : lexeme.kind ≠ .string) (newline : '\n' ∈ lexeme.literal.toList) :
    lexeme.IsUnfinished := by
  have verbatim : lexeme.literal.toList = lexeme.text := by
    cases spelled with
    | word | integer | float | symbol => rfl
    | stray | unfinished => exact String.toList_ofList
    | string => exact absurd rfl noString
  rw [verbatim] at newline
  rcases spelled.isUnfinished_or (spelled.head?_of_newline newline) with unfinished | ⟨_, string⟩
  · exact unfinished
  · exact absurd (congrArg Lexeme.kind string) noString

/-- The tokens of tiles are made of lexemes. -/
theorem Tiles.exists_spelled {before source closing : List Char} {tiles : List Tile}
    (tiling : Tiles source tiles closing) {token : Token}
    (member : token ∈ Tile.tokens before tiles) :
    ∃ lexeme : Lexeme, lexeme.Spelled ∧ token.kind = lexeme.kind ∧
      token.literal = lexeme.literal := by
  induction tiling generalizing before with
  | closing => cases member
  | @tile tile _ _ _ layout longest later induction =>
      rcases List.mem_cons.mp member with rfl | behind
      · exact ⟨tile.lexeme, longest.1, rfl, rfl⟩
      · exact induction behind

/-- Only the strings of a text have a new line in their literal. -/
theorem isStringText_of_newline {source : String} {token : Token}
    (member : token ∈ tokenize source) (newline : '\n' ∈ token.literal.toList) :
    token.IsStringText := by
  rcases Tiles.exists_tiles source.toList with ⟨tiles, closing, tiling⟩
  rw [tiling.tokenize] at member
  rcases List.mem_append.mp member with inner | ending
  · rcases tiling.exists_spelled inner with ⟨lexeme, spelled, kind, literal⟩
    by_cases string : token.kind = .string
    · exact .inl string
    · rw [literal] at newline
      rcases spelled.isUnfinished_of_newline (kind ▸ string) newline with ⟨illegal, quote⟩
      refine .inr ⟨kind.trans illegal, ?_⟩
      rw [literal, spelled.literal_of_illegal illegal, quote]
  · rw [List.mem_singleton.mp ending] at newline
    cases newline

/-! ## New lines in messages -/

/-- Whether a problem is that another kind of token was expected where a broken string is. -/
def Problem.QuotesNewline (problem : Problem) : Prop :=
  (∃ kind, problem.cause = .expected kind) ∧ problem.token.IsStringText ∧
    '\n' ∈ problem.token.literal.toList

theorem newline_notMem_repr (number : Nat) : '\n' ∉ number.repr.toList := by
  intro member
  have digits := isNumeral_repr number
  rw [isNumeral, Bool.and_eq_true] at digits
  exact absurd (List.all_eq_true.mp digits.2 _ member) (by decide)

/-- An integer is shown on one line. -/
theorem newline_notMem_toString (number : Int) : '\n' ∉ (toString number).toList := by
  cases number with
  | ofNat number => exact newline_notMem_repr number
  | negSucc number =>
      have text : (toString (Int.negSucc number)).toList =
          "-".toList ++ (number + 1).repr.toList := String.toList_append
      rw [text, List.mem_append]
      rintro (sign | digits)
      · exact absurd sign (by decide)
      · exact newline_notMem_repr _ digits

theorem Kind.newline_notMem_describe (kind : Kind) : '\n' ∉ kind.describe.toList := by
  cases kind <;> decide

/-- A token is quoted with the new lines of its literal, unless it is the end. -/
theorem Token.newline_mem_describe_iff {token : Token} :
    '\n' ∈ token.describe.toList ↔
      token.kind ≠ .endOfInput ∧ '\n' ∈ token.literal.toList := by
  unfold describe
  split
  · rename_i ending
    exact iff_of_false (by decide) fun quoted => quoted.1 ending
  · rename_i noEnd
    simp [noEnd]

/-- The place in front of the wording takes no line of its own. -/
theorem Problem.newline_mem_message_iff {problem : Problem} :
    '\n' ∈ problem.message.toList ↔
      '\n' ∈ (problem.cause.wording problem.token).toList := by
  have line := newline_notMem_toString problem.token.line
  have column := newline_notMem_toString problem.token.column
  have front : '\n' ∉ "line ".toList ∧ '\n' ∉ ", column ".toList ∧ '\n' ∉ ": ".toList := by decide
  simp only [message, String.toList_append, List.mem_append, line, column, front, false_or]

/-- A wording that suits its token has a new line only if it quotes a string that has one. -/
theorem Cause.newline_mem_wording_iff {cause : Cause} {token : Token} (suits : cause.Suits token)
    (strings : '\n' ∈ token.literal.toList → token.IsStringText) :
    '\n' ∈ (cause.wording token).toList ↔
      (∃ kind, cause = .expected kind) ∧ token.IsStringText ∧ '\n' ∈ token.literal.toList := by
  -- No literal of another token has a new line, so that only the two kinds of strings matter.
  have noBreak (plain : ¬ token.IsStringText) : '\n' ∉ token.literal.toList :=
    fun newline => plain (strings newline)
  cases cause with
  | expected kind =>
      have words : '\n' ∉ "expected next token to be ".toList ∧ '\n' ∉ ", got ".toList ∧
          '\n' ∉ " instead".toList := by decide
      dsimp only [wording]
      simp only [String.toList_append, List.mem_append, words,
        kind.newline_notMem_describe, false_or, or_false, Token.newline_mem_describe_iff]
      constructor
      · rintro ⟨_, newline⟩
        exact ⟨⟨kind, rfl⟩, strings newline, newline⟩
      · rintro ⟨_, string, newline⟩
        refine ⟨fun ending => ?_, newline⟩
        rcases string with string | ⟨illegal, _⟩
        · exact absurd (ending.symm.trans string) (by decide)
        · exact absurd (ending.symm.trans illegal) (by decide)
  | noExpression =>
      have plain : ¬ token.IsStringText := by
        have refused : token.kind.startsExpression = false := suits
        rintro (string | ⟨illegal, _⟩)
        · rw [string] at refused
          cases refused
        · rw [illegal] at refused
          cases refused
      dsimp only [wording]
      simp [plain, Token.newline_mem_describe_iff, noBreak plain]
  | unreadableInteger =>
      have plain : ¬ token.IsStringText := by
        rintro (string | ⟨illegal, _⟩)
        · exact absurd (suits.1.symm.trans string) (by decide)
        · exact absurd (suits.1.symm.trans illegal) (by decide)
      dsimp only [wording]
      simp [plain, Token.newline_mem_describe_iff, noBreak plain]
  | illegalCharacter =>
      have plain : ¬ token.IsStringText := by
        rintro (string | ⟨_, quote⟩)
        · exact absurd (suits.1.symm.trans string) (by decide)
        · exact suits.2 quote
      dsimp only [wording]
      simp [plain, noBreak plain]
  | unterminatedString | invalidTarget | nestedTooDeeply =>
      dsimp only [wording]
      simp

/--
The messages about a source text, and the lines on which they are printed.

Every problem of the text has one of its tokens, and its message has a new line exactly if it is
that another kind of token was expected where a string is that has a new line in it.  The report on
the text is complete, and takes a line for the header, one for each message, and one for each new
line in a message; so there is one line for each message exactly if no message quotes such a string.
-/
theorem parseSource_messages_lines (source : String) :
    ∃ reading, parseSource source = .ok reading ∧
      (∀ problem ∈ reading.problems, problem.token ∈ tokenize source ∧
        ('\n' ∈ problem.message.toList ↔ problem.QuotesNewline)) ∧
      (reading.problems ≠ [] → ∀ host : Host, host.room.reads source = true →
        ∀ (session : Session) (store : Store), ∃ execution,
          (session.execute host source store).1 = .ok execution ∧
            execution.errors = reading.errors ∧
            ∀ console : Console, console.KeepsLines → ∀ echoes,
              let report := execution.report host.room echoes
              let printed := console.write (report.prints.map .print)
              report.escape = none ∧
                lineBreaks printed =
                  1 + reading.errors.length + lineBreaks (String.join reading.errors) ∧
                (lineBreaks printed = 1 + reading.errors.length ↔
                  ∀ problem ∈ reading.problems, ¬ problem.QuotesNewline)) := by
  rcases exists_program_of_source source with
    ⟨reading, tokens, finish, parsed, tokenized, isEnd, precedes, read⟩
  have among : ∀ problem ∈ reading.problems, problem.token ∈ tokenize source := by
    rw [tokenized]
    exact fun problem member =>
      (Parser.program_problems_ordered read precedes).1 _ (List.mem_map_of_mem member)
  have breaks : ∀ problem ∈ reading.problems,
      ('\n' ∈ problem.message.toList ↔ problem.QuotesNewline) := fun problem member =>
    Problem.newline_mem_message_iff.trans <| Cause.newline_mem_wording_iff
      (Parser.program_blames isEnd read problem member)
      (isStringText_of_newline (among problem member))
  refine ⟨reading, parsed, fun problem member => ⟨among problem member, breaks problem member⟩, ?_⟩
  intro given host room session store
  have refused : host.Refuses source reading.program reading.problems := ⟨room, parsed, given⟩
  refine ⟨⟨reading.program, reading.problems, none⟩, ?_, rfl, fun console keeps echoes => ?_⟩
  · rw [Session.execute_of_refused session refused]
  · have report : Execution.report ⟨reading.program, reading.problems, none⟩ host.room echoes =
        .done (Print.problems reading.errors) := Execution.report_of_problems given host.room echoes
    dsimp only
    rw [report]
    have lines := keeps.lineBreaks_problems reading.errors
    refine ⟨rfl, lines, ?_⟩
    change lineBreaks (console.write ((Print.problems reading.errors).map .print)) = _ ↔ _
    rw [lines, Nat.add_eq_left, lineBreaks_join_eq_zero_iff, Reading.errors, List.forall_mem_map]
    refine forall_congr' fun problem => forall_congr' fun member => ?_
    rw [← breaks problem member]

/-- A message that quotes a string takes one line, if the string does. -/
theorem parseSource_messages_lines_short :
    ∃ execution,
      ((Session.mk rootScope false []).execute (.ample 200) "let \"a\" = 1" .initial).1 =
          .ok execution ∧
        lineBreaks (Terminal.console.write ((execution.report .ample false).prints.map .print)) =
          2 := by
  have parsed : parseSource "let \"a\" = 1" =
      .ok ⟨⟨[]⟩, [⟨.expected .identifier, ⟨.string, "a", 1, 5⟩⟩]⟩ := rfl
  rcases parseSource_messages_lines "let \"a\" = 1" with ⟨reading, read, _, printed⟩
  rw [parsed] at read
  cases read
  rcases printed nofun (.ample 200) rfl ⟨rootScope, false, []⟩ .initial with
    ⟨execution, executed, _, lines⟩
  rcases lines Terminal.console Terminal.keepsLines_console false with ⟨_, _, single⟩
  refine ⟨execution, executed, single.mpr fun problem member quotes => ?_⟩
  cases List.mem_singleton.mp member
  exact absurd quotes.2.2 (by decide)

/-- A string with an escaped new line, where a name should be, breaks the message about it. -/
theorem parseSource_messages_lines_broken :
    ∃ execution,
      ((Session.mk rootScope false []).execute (.ample 200) "let \"a\\nb\" = 1" .initial).1 =
          .ok execution ∧
        execution.errors =
          ["line 1, column 5: expected next token to be IDENT, got 'a\nb' instead"] ∧
        (∃ message ∈ execution.errors, '\n' ∈ message.toList) ∧
        let printed := Terminal.console.write ((execution.report .ample false).prints.map .print)
        printed =
            "parser errors:\n" ++
              "        line 1, column 5: expected next token to be IDENT, got 'a\n" ++
                "b' instead\n" ∧
          lineBreaks printed = 3 := by
  have refused : (Host.ample 200).Refuses "let \"a\\nb\" = 1" ⟨[]⟩
      [⟨.expected .identifier, ⟨.string, "a\nb", 1, 5⟩⟩] := ⟨rfl, rfl, nofun⟩
  refine ⟨_, congrArg Prod.fst (Session.execute_of_refused _ refused .initial), by decide, ?_, ?_,
    ?_⟩
  · exact ⟨_, List.mem_singleton_self _, by decide⟩
  · decide +kernel
  · decide +kernel

end Jet
