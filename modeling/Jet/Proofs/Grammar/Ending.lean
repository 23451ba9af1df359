import Jet.Proofs.Grammar.Agreement
import Jet.Proofs.Grammar.Recovery

/-!
# Reading comes to its end

A program is read through the window in turns.  The brace count of the window is that of the tokens
of the statement, so that a statement that fails is left at the same token as in the grammar, and
each turn takes at least one of the tokens in front of the first end.

`Faces` is what holds of the window where a turn begins, and `Turns` is what a turn does.  By
induction on the turns, reading comes to its end, with the reading that the grammar gives, and what
stands behind the first end is never looked at.
-/

namespace Jet

namespace Lookahead

open Jet.Parser (headKind beforeEnd endToken impliedEnd braceBalance)

variable {span : Span} {level : Nat} {window : Window} {token : Token} {tokens rest : List Token}

/-! ## Behind a statement that failed -/

theorem synchronize_run (fuel : Nat) (window : Window) :
    (synchronize (fuel + 1)).run window =
      if window.current.kind = .endOfInput then some ((), window)
      else if window.balance ≤ 0 ∧
          (window.current.kind = .semicolon ∨ window.current.kind = .rightBrace) then
        some ((), window.advance)
      else (synchronize fuel).run window.advance := by
  rw [synchronize]
  change StateT.run (ite _ _ _) window = _
  split
  · rfl
  · split <;> rfl

/-- The window is moved behind the boundary up to which the tokens are skipped. -/
theorem synchronize_skips {balance : Int}
    (stands : Stands span level window tokens)
    (counted : window.balance = balance + (headKind tokens).braceStep) :
    ∃ later, Settles (fun fuel => (synchronize fuel).run window) ((), later) ∧
      Stands span level later (Parser.skip balance tokens) := by
  induction tokens generalizing window balance with
  | nil =>
      have ended : window.current.kind = .endOfInput := stands.headKind.symm
      refine ⟨window, .succ (.of_eq fun fuel => ?_), stands⟩
      rw [synchronize_run, if_pos ended]
  | cons token rest induction =>
      have notEnd := span.noEnd token (stands.suffix.subset List.mem_cons_self)
      have ends := stands.ends
      rw [Parser.headKind_cons] at counted
      have run (fuel : Nat) := synchronize_run fuel window
      simp only [stands.current_eq, if_neg notEnd, counted] at run
      rw [Parser.skip]
      split
      · rename_i boundary
        refine ⟨_, .succ (.of_eq fun fuel => ?_), ends.advance⟩
        rw [run, if_pos boundary]
      · rename_i inside
        have goesOn : window.advance.balance =
            balance + token.kind.braceStep + (headKind rest).braceStep := by
          change window.balance + window.next.kind.braceStep = _
          rw [counted, ends.headKind]
        rcases induction ends.advance goesOn with ⟨later, settles, stands⟩
        refine ⟨later, .succ ?_, stands⟩
        simp only [run, if_neg inside]
        exact settles

/--
The count of braces is right at every place of a statement, if it is right at the end of the tokens.
-/
theorem synchronize_skips_from
    (stands : Stands span level window rest)
    (counted : span.balance = braceBalance span.tokens) :
    ∃ later, Settles (fun fuel => (synchronize fuel).run window) ((), later) ∧
      Stands span level later
        (Parser.skip (braceBalance (span.tokens.take (span.tokens.length - rest.length)))
          (span.tokens.drop (span.tokens.length - rest.length))) := by
  have balance := stands.balance
  rcases stands.suffix with ⟨front, split⟩
  have count : span.tokens.length - rest.length = front.length := by
    rw [← split, List.length_append]
    omega
  rw [count, ← split, List.take_left, List.drop_left]
  refine synchronize_skips stands ?_
  rw [counted, ← split, Parser.braceBalance_append] at balance
  cases rest with
  | nil => simpa [Kind.braceStep] using balance
  | cons token rest =>
      rw [List.tail_cons, Parser.braceBalance_cons] at balance
      rw [Parser.headKind_cons]
      omega

/-- From where a statement was given up, the window is moved to where reading goes on. -/
theorem synchronize_recovers {cause : Cause} {stuck : List Token}
    (givesUp : GivesUp span level window cause stuck)
    (counted : span.balance = braceBalance span.tokens) :
    ∃ later, Settles (fun fuel => (synchronize fuel).run window) ((), later) ∧
      Stands span level later (Parser.recover span.tokens cause stuck) := by
  cases givesUp with
  | ahead usual ends => exact synchronize_skips_from ends counted
  | unclosed stands =>
      have ended : window.current.kind = .endOfInput := stands.headKind.symm
      refine ⟨window, .succ (.of_eq fun fuel => ?_), ?_⟩
      · rw [synchronize_run, if_pos ended]
      · rwa [Parser.recover_of_missed]
  | here found stands =>
      have reached : Parser.reached span.tokens cause stuck =
          span.tokens.length - stuck.length := by
        cases cause with
        | expected kind => exact absurd rfl (found kind)
        | _ => rfl
      rw [Parser.recover, reached]
      exact synchronize_skips_from stands counted

/-! ## Where a turn begins -/

/-- No statement begins with a closing brace. -/
theorem statement_of_rightBrace (depth : Nat)
    (closes : token.kind = .rightBrace) :
    Parser.statement (Parser.expression (depth + 1)) (token :: rest) =
      .error (.failure .noExpression (token :: rest)) := by
  have noStart : Parser.start (Parser.expression depth) (token :: rest) =
      Parser.fail .noExpression (token :: rest) := by
    simp only [Parser.start, closes]
  simp only [Parser.statement, Parser.headKind_cons, closes, Parser.expression, noStart,
    Parser.fail_bind]
  rfl

/-- Reading goes on right behind the closing brace that a statement would begin with. -/
theorem recover_of_rightBrace
    (closes : token.kind = .rightBrace) :
    Parser.recover (token :: rest) .noExpression (token :: rest) = rest := by
  simp [Parser.recover, Parser.reached, Parser.skip, closes, Kind.braceStep]

/-- Whether the window is on the first of the tokens still to be read, and at the top level. -/
structure Faces (finish : Token) (window : Window) (tokens : List Token) : Prop where
  isEnd : finish.kind = .endOfInput
  noEnd : ∀ token ∈ tokens, token.kind ≠ .endOfInput
  shows : Shows finish window.stream tokens
  level : window.nesting = 0

theorem Stands.faces
    (stands : Stands span 0 window tokens) :
    Faces span.finish window tokens :=
  ⟨span.isEnd, fun token member => span.noEnd token (stands.suffix.subset member), stands.shows,
    stands.level⟩

namespace Faces

variable {finish : Token}

theorem current_eq
    (faces : Faces finish window (token :: rest)) :
    window.current = token :=
  faces.shows.current_eq

theorem advance
    (faces : Faces finish window (token :: rest)) :
    Faces finish window.advance rest :=
  ⟨faces.isEnd, fun token member => faces.noEnd token (List.mem_cons_of_mem _ member),
    faces.shows.advance faces.isEnd fun token member =>
      faces.noEnd token (List.mem_cons_of_mem _ member), faces.level⟩

/-- The tokens that are still to be read, as those of a statement that begins here. -/
def toSpan (faces : Faces finish window tokens) : Span where
  tokens := tokens
  finish := finish
  balance := window.beginStatement.balance + braceBalance tokens.tail
  isEnd := faces.isEnd
  noEnd := faces.noEnd

theorem stands (faces : Faces finish window tokens) :
    Stands faces.toSpan 0 window.beginStatement tokens :=
  ⟨List.suffix_refl _, faces.shows, rfl, faces.level⟩

/-- All braces of the statement are counted, unless it begins with a closing one. -/
theorem toSpan_balance
    (faces : Faces finish window (token :: rest)) (usual : token.kind ≠ .rightBrace) :
    faces.toSpan.balance = braceBalance faces.toSpan.tokens := by
  change window.beginStatement.balance + braceBalance rest = braceBalance (token :: rest)
  rw [Parser.braceBalance_cons, Window.beginStatement, faces.current_eq]
  cases kind : token.kind <;> simp_all [Kind.braceStep]

/-- The statement is mirrored from its first token on. -/
theorem statement_mirrors
    (faces : Faces finish window (token :: rest)) :
    Mirrors faces.toSpan (fun later rest => Ends faces.toSpan 0 later (pastSemicolon rest))
      (GivesUp faces.toSpan 0)
      (Parser.statement (Parser.expression maxNesting) (token :: rest)) fun fuel =>
        look (statement fuel) window.beginStatement :=
  Lookahead.statement_mirrors
    (expression_and_continuations_track faces.toSpan maxNesting 0 (Nat.zero_add _)).1 faces.stands

/-- Wherever the statement is given up, the window is moved to where reading goes on. -/
theorem synchronize_recovers {cause : Cause} {stuck : List Token}
    (faces : Faces finish window (token :: rest))
    (parsed : Parser.statement (Parser.expression maxNesting) (token :: rest) =
      .error (.failure cause stuck)) {later : Window}
    (givesUp : GivesUp faces.toSpan 0 later cause stuck) :
    ∃ last, Settles (fun fuel => (synchronize fuel).run later) ((), last) ∧
      Faces finish last (Parser.recover (token :: rest) cause stuck) := by
  by_cases closes : token.kind = .rightBrace
  · cases parsed.symm.trans (statement_of_rightBrace 119 closes)
    cases givesUp with
    | here found stands =>
        have begins : window.beginStatement.balance = 0 := by
          simp [Window.beginStatement, faces.current_eq, closes]
        have counted : later.balance = 0 := by
          have same : later.balance + braceBalance rest =
              window.beginStatement.balance + braceBalance rest := stands.balance
          omega
        rw [recover_of_rightBrace closes]
        refine ⟨_, .succ (.of_eq fun fuel => ?_), stands.ends.advance.faces⟩
        rw [synchronize_run, stands.current_eq, closes, counted]
        rfl
  · rcases Lookahead.synchronize_recovers givesUp (faces.toSpan_balance closes) with
      ⟨last, moved, stands⟩
    exact ⟨last, moved, stands.faces⟩

end Faces

/-! ## Turns -/

section

variable {finish : Token}

/-- A turn at a semicolon moves past it. -/
theorem look_turn_of_semicolon (fuel : Nat)
    (stray : window.current.kind = .semicolon) :
    look (turn fuel) window = some (.ok id, window.advance) := by
  rw [turn, look_get_bind, if_pos stray]
  rfl

/-- A step that cannot stop the reader. -/
theorem look_lift_bind {ε α β : Type} (step : StateT Window Option α)
    (next : α → ExceptT ε (StateT Window Option) β) (window : Window) :
    look (liftM step >>= next) window =
      (step.run window).bind fun (value, later) => look (next value) later := by
  change Option.bind (Option.bind (step window) _) _ = Option.bind (step window) _
  cases step window <;> rfl

/-- What a turn makes of the statement. -/
theorem look_turn (fuel : Nat)
    (noSemicolon : window.current.kind ≠ .semicolon) :
    look (turn fuel) window =
      (look (statement fuel) window.beginStatement).bind fun (result, later) =>
        match result with
        | .ok tree => some (.ok (Reading.addStatement tree), later.advance)
        | .error (.problem problem) =>
            ((synchronize fuel).run later).map fun (_, last) =>
              (.ok (Reading.addProblem problem), last)
        | .error (.unreadableFloat literal) => some (.error literal, later) := by
  rw [turn, look_get_bind, if_neg noSemicolon, look_modify_bind, look_lift_bind]
  change Option.bind (look (statement fuel) window.beginStatement) _ = _
  congr 1
  funext (result, later)
  match result with
  | .ok tree => rfl
  | .error (.problem problem) =>
      dsimp only
      rw [look_lift_bind, Option.map_eq_bind]
      rfl
  | .error (.unreadableFloat literal) => rfl

/-- What a turn changes about the readings of what is behind it, and the tokens that it leaves. -/
inductive Turns (finish : Token) (token : Token) (rest : List Token) :
    (Reading → Reading) → List Token → Prop where
  | semicolon
      (stray : token.kind = .semicolon) :
      Turns finish token rest id rest
  | statement {tree : Stmt} {others : List Token}
      (noSemicolon : token.kind ≠ .semicolon)
      (parsed : Parser.statement (Parser.expression maxNesting) (token :: rest) =
        .ok (tree, others)) :
      Turns finish token rest (Reading.addStatement tree) (pastSemicolon others)
  | failure {cause : Cause} {stuck : List Token}
      (noSemicolon : token.kind ≠ .semicolon)
      (parsed : Parser.statement (Parser.expression maxNesting) (token :: rest) =
        .error (.failure cause stuck)) :
      Turns finish token rest (Reading.addProblem ⟨cause, stuck.headD finish⟩)
        (Parser.recover (token :: rest) cause stuck)

theorem pastSemicolon_suffix (tokens : List Token) : pastSemicolon tokens <:+ tokens := by
  unfold pastSemicolon
  split
  · exact List.tail_suffix tokens
  · exact List.suffix_refl tokens

/-- A program is read on behind a semicolon as it is in front of it. -/
theorem program_pastSemicolon (finish : Token) {fuel : Nat}
    (bound : tokens.length ≤ fuel) :
    Parser.program finish fuel tokens = Parser.program finish fuel (pastSemicolon tokens) := by
  unfold pastSemicolon
  split
  · rename_i semicolon
    rcases Parser.exists_cons_of_headKind semicolon (by decide) with ⟨token, rest, rfl, stray⟩
    rcases Nat.exists_eq_add_one_of_ne_zero (Nat.ne_zero_of_lt bound) with ⟨fuel, rfl⟩
    rw [Parser.program_of_semicolon stray]
    exact Parser.program_fuel finish (Nat.le_of_succ_le_succ bound) (Nat.le_of_succ_le bound)
  · rfl

namespace Turns

variable {change : Reading → Reading} {others : List Token}

/-- A turn leaves the last tokens, and takes at least one. -/
theorem takes
    (turns : Turns finish token rest change others) :
    others <:+ token :: rest ∧ others.length < (token :: rest).length := by
  cases turns with
  | semicolon => exact ⟨List.suffix_cons token rest, Nat.lt_succ_self _⟩
  | statement _ parsed =>
      rename_i tree others _
      have stays := Parser.statement_stays (Parser.expression_stays maxNesting) (token :: rest)
      rw [parsed] at stays
      have suffix := pastSemicolon_suffix others
      exact ⟨suffix.trans stays,
        Nat.lt_of_le_of_lt suffix.length_le (Parser.length_lt_of_statement parsed)⟩
  | failure =>
      exact ⟨Parser.recover_suffix _ _ _, Parser.length_recover_lt token rest _ _⟩

/-- A program is read in turns. -/
theorem program_eq {fuel : Nat}
    (turns : Turns finish token rest change others) (bound : rest.length ≤ fuel) :
    Parser.program finish (fuel + 1) (token :: rest) =
      (Parser.program finish fuel others).map change := by
  cases turns with
  | semicolon stray =>
      rw [Parser.program_of_semicolon stray]
      cases Parser.program finish fuel rest <;> rfl
  | statement noSemicolon parsed =>
      have shorter := Parser.length_lt_of_statement parsed
      rw [List.length_cons] at shorter
      rw [Parser.program_of_ok noSemicolon parsed, program_pastSemicolon finish (by omega)]
  | failure noSemicolon parsed => exact Parser.program_of_failure noSemicolon parsed

end Turns

/-- A turn through the window is one of the program, or fails on a literal that cannot be read. -/
theorem Faces.look_turn
    (faces : Faces finish window (token :: rest)) :
    (∃ change others later, Turns finish token rest change others ∧
      Settles (fun fuel => look (turn fuel) window) (.ok change, later) ∧
        Faces finish later others) ∨
    ∃ literal later, token.kind ≠ .semicolon ∧
      Parser.statement (Parser.expression maxNesting) (token :: rest) =
        .error (.unreadableFloat literal) ∧
      Settles (fun fuel => look (turn fuel) window) (.error literal, later) := by
  by_cases stray : token.kind = .semicolon
  · refine .inl ⟨id, rest, window.advance, .semicolon stray, .of_eq fun fuel => ?_, faces.advance⟩
    exact look_turn_of_semicolon fuel (by rwa [faces.current_eq])
  · have mirrors := faces.statement_mirrors
    have turned (fuel : Nat) := Lookahead.look_turn fuel (faces.current_eq.symm ▸ stray)
    simp only [turned]
    match parsed : Parser.statement (Parser.expression maxNesting) (token :: rest), mirrors with
    | .ok (tree, others), ⟨later, looked, ends⟩ =>
        exact .inl ⟨_, _, later.advance, .statement stray parsed,
          looked.bind (.of_eq fun _ => rfl), ends.advance.faces⟩
    | .error (.failure cause stuck), ⟨later, looked, givesUp⟩ =>
        rcases faces.synchronize_recovers parsed givesUp with ⟨last, moved, left⟩
        exact .inl ⟨_, _, last, .failure stray parsed, looked.bind moved.map, left⟩
    | .error (.unreadableFloat literal), ⟨later, looked⟩ =>
        exact .inr ⟨literal, later, stray, rfl, looked.bind (.of_eq fun _ => rfl)⟩

end

/-! ## Programs -/

section

variable {finish : Token}

theorem Faces.eq_nil_iff
    (faces : Faces finish window tokens) :
    window.current.kind = .endOfInput ↔ tokens = [] := by
  rw [faces.shows.current_eq]
  cases tokens with
  | nil => simpa using faces.isEnd
  | cons token rest => simpa using faces.noEnd token List.mem_cons_self

theorem look_program_of_end (fuel : Nat)
    (ended : window.current.kind = .endOfInput) :
    look (program (fuel + 1)) window = some (.ok ⟨⟨[]⟩, []⟩, window) := by
  rw [program]
  change look (get >>= _) window = _
  rw [look_get_bind, if_pos ended]
  rfl

theorem look_program_of_goesOn (fuel : Nat)
    (goesOn : window.current.kind ≠ .endOfInput) :
    look (program (fuel + 1)) window =
      look (turn fuel >>= fun front => program fuel >>= fun later => pure (front later))
        window := by
  rw [program]
  change look (get >>= _) window = _
  rw [look_get_bind, if_neg goesOn]

theorem Faces.look_program_of_nil
    (faces : Faces finish window []) :
    Settles (fun fuel => look (program fuel) window) (.ok ⟨⟨[]⟩, []⟩, window) :=
  .succ (.of_eq fun fuel => look_program_of_end fuel (faces.eq_nil_iff.mpr rfl))

/-- A program is read through the window as it is read at once; the induction is on the turns. -/
theorem Faces.look_program {limit : Nat}
    (faces : Faces finish window tokens) (bound : tokens.length ≤ limit) :
    ∃ later, Settles (fun fuel => look (program fuel) window)
      (Parser.program finish limit tokens, later) := by
  induction limit generalizing window tokens with
  | zero =>
      cases List.eq_nil_of_length_eq_zero (Nat.le_zero.mp bound)
      exact ⟨window, faces.look_program_of_nil⟩
  | succ limit induction =>
      cases tokens with
      | nil => exact ⟨window, faces.look_program_of_nil⟩
      | cons token rest =>
          have goesOn : window.current.kind ≠ .endOfInput :=
            fun ended => List.cons_ne_nil _ _ (faces.eq_nil_iff.mp ended)
          rcases faces.look_turn with
            ⟨change, others, later, turns, looked, left⟩ |
              ⟨literal, later, noSemicolon, parsed, looked⟩
          · have fewer := turns.takes.2
            rcases induction left (by rw [List.length_cons] at *; omega) with ⟨last, read⟩
            refine ⟨last, .succ ?_⟩
            simp only [look_program_of_goesOn _ goesOn]
            rw [turns.program_eq (Nat.le_of_succ_le_succ bound)]
            refine looked.look_bind ?_
            match others_read : Parser.program finish limit others with
            | .ok reading =>
                rw [others_read] at read
                exact read.look_bind (.of_eq fun _ => rfl)
            | .error literal =>
                rw [others_read] at read
                exact read.look_bind_error _
          · refine ⟨later, .succ ?_⟩
            simp only [look_program_of_goesOn _ goesOn]
            rw [Parser.program_of_unreadableFloat noSemicolon parsed]
            exact looked.look_bind_error _

end

/-- The window at the start of a stream is on the first of the tokens in front of the first end. -/
theorem ofTokens_faces (tokens : List Token) :
    Faces (Parser.endToken tokens) (Window.ofTokens tokens) (beforeEnd tokens) where
  isEnd := by
    cases found : tokens.find? Parser.isEnd with
    | none =>
        rw [endToken, found]
        exact Parser.impliedEnd_kind tokens
    | some finish =>
        rw [endToken, found]
        simpa [Parser.isEnd] using List.find?_some found
  noEnd := fun token member => by
    simpa [Parser.isEnd] using List.mem_takeWhile_imp member
  shows := ofTokens_shows tokens
  level := rfl

/-- Whether a token list is read with some result, through the window as well as at once. -/
def Reads (tokens : List Token) (result : Except String Reading) : Prop :=
  Settles (fun fuel => parse fuel tokens) result ∧ Jet.parse tokens = result

/-- Reading through the window always comes to an end, and gives what reading at once gives. -/
theorem reads_parse (tokens : List Token) : Reads tokens (Jet.parse tokens) := by
  refine ⟨?_, rfl⟩
  rcases (ofTokens_faces tokens).look_program (Nat.le_refl _) with ⟨later, read⟩
  rw [Parser.parse_eq_program]
  exact read.map

/-! ## Progress -/

/-- Whether a turn of the reading of a token list begins at a window. -/
inductive BeginsTurn (tokens : List Token) : Window → Prop where
  | first : BeginsTurn tokens (.ofTokens tokens)
  | behind {window later : Window} {change : Reading → Reading}
      (begins : BeginsTurn tokens window)
      (goesOn : window.current.kind ≠ .endOfInput)
      (turned : Settles (fun fuel => look (turn fuel) window) (.ok change, later)) :
      BeginsTurn tokens later

theorem Faces.ahead_eq {finish : Token}
    (faces : Faces finish window tokens) :
    window.ahead = tokens := by
  have shows := faces.shows
  rw [Window.ahead]
  generalize window.stream = stream at shows
  cases shows with
  | stated tokens more => exact Parser.beforeEnd_append faces.noEnd faces.isEnd
  | implied nonempty behind => exact Parser.beforeEnd_of_noEnd faces.noEnd

/-- Every turn begins on one of the tokens in front of the first end, or on that. -/
theorem BeginsTurn.faces
    (begins : BeginsTurn tokens window) :
    Faces (endToken tokens) window window.ahead ∧ window.ahead <:+ beforeEnd tokens := by
  induction begins with
  | first =>
      rw [(ofTokens_faces tokens).ahead_eq]
      exact ⟨ofTokens_faces tokens, List.suffix_refl _⟩
  | behind begins goesOn turned induction =>
      rename_i window later change
      rcases induction with ⟨faces, suffix⟩
      generalize window.ahead = tokens at faces suffix
      cases tokens with
      | nil => exact absurd (faces.eq_nil_iff.mpr rfl) goesOn
      | cons token rest =>
          rcases faces.look_turn with
            ⟨_, others, _, turns, looked, left⟩ | ⟨_, _, _, _, looked⟩
          · cases turned.unique looked
            rw [left.ahead_eq]
            exact ⟨left, turns.takes.1.trans suffix⟩
          · cases turned.unique looked

/-- Each statement and each problem takes at least one token. -/
theorem program_size_le {finish : Token} {fuel : Nat} {reading : Reading}
    (parsed : Parser.program finish fuel tokens = .ok reading) :
    reading.program.statements.length + reading.problems.length ≤ tokens.length := by
  induction fuel generalizing tokens reading with
  | zero =>
      cases parsed
      exact Nat.zero_le _
  | succ fuel induction =>
      cases tokens with
      | nil =>
          cases parsed
          exact Nat.zero_le _
      | cons token rest =>
          rcases Parser.program_cases parsed with
            ⟨_, read⟩ |
            ⟨_, ⟨tree, others, later, first, read, rfl⟩ | ⟨cause, stuck, later, _, read, rfl⟩⟩
          · exact Nat.le_succ_of_le (induction read)
          · have shorter := Parser.length_lt_of_statement first
            have size := induction read
            simp only [Reading.addStatement, List.length_cons] at *
            omega
          · have shorter := Parser.length_recover_lt token rest cause stuck
            have size := induction read
            simp only [Reading.addProblem, List.length_cons] at *
            omega

end Lookahead

open Jet.Parser (beforeEnd Readable)

/--
Every token list whose float literals can be read is read to its end through the window, into no
more statements and problems than there are tokens in front of the first end.  Each turn on the way
moves past at least one of these.
-/
theorem parse_progresses {tokens : List Token} (readable : Readable tokens) :
    (∃ reading,
      Lookahead.Reads tokens (.ok reading) ∧
        reading.program.statements.length + reading.errors.length ≤ (beforeEnd tokens).length) ∧
      ∀ window, Lookahead.BeginsTurn tokens window → window.current.kind ≠ .endOfInput →
        ∃ change later passed,
          Lookahead.Settles (fun fuel => Lookahead.look (Lookahead.turn fuel) window)
              (.ok change, later) ∧
            window.ahead = passed ++ later.ahead ∧
            passed ≠ [] ∧ ∀ token ∈ passed, token.kind ≠ .endOfInput := by
  have readableInner : Readable (beforeEnd tokens) := fun token member =>
    readable token ((Parser.beforeEnd_isFront tokens).subset member)
  refine ⟨?_, fun window begins goesOn => ?_⟩
  · rcases Parser.program_eq_ok (Parser.endToken tokens) (beforeEnd tokens).length
      readableInner with ⟨reading, parsed⟩
    refine ⟨reading, ?_, ?_⟩
    · have reads := Lookahead.reads_parse tokens
      rwa [Parser.parse_eq_program, parsed] at reads
    · rw [Reading.errors, List.length_map]
      exact Lookahead.program_size_le parsed
  · rcases begins.faces with ⟨faces, suffix⟩
    generalize window.ahead = ahead at faces suffix
    cases ahead with
    | nil => exact absurd (faces.eq_nil_iff.mpr rfl) goesOn
    | cons token rest =>
        rcases faces.look_turn with
          ⟨change, others, later, turns, looked, left⟩ | ⟨literal, later, _, parsed, _⟩
        · rcases turns.takes with ⟨⟨passed, split⟩, fewer⟩
          refine ⟨change, later, passed, looked, ?_, ?_, fun token member => ?_⟩
          · rw [left.ahead_eq, split]
          · rintro rfl
            exact absurd (congrArg List.length split) (Nat.ne_of_lt fewer)
          · exact faces.noEnd token (split ▸ List.mem_append_left _ member)
        · have stays := Parser.statement_stays (Parser.expression_stays maxNesting) (token :: rest)
          rw [parsed] at stays
          rcases stays with ⟨culprit, member, isFloat, _, unreadable⟩
          exact absurd unreadable (readableInner culprit (suffix.subset member) isFloat)

/-- A float, a character that no token begins with, an end in the middle, and an open string. -/
theorem parse_progresses_across_end :
    Readable
        [⟨.float, "1.5", 1, 1⟩, ⟨.illegal, "@", 1, 5⟩, ⟨.endOfInput, "", 1, 6⟩,
          ⟨.illegal, "\"x", 1, 6⟩] ∧
      (∃ reading,
        Lookahead.Reads
            [⟨.float, "1.5", 1, 1⟩, ⟨.illegal, "@", 1, 5⟩, ⟨.endOfInput, "", 1, 6⟩,
              ⟨.illegal, "\"x", 1, 6⟩]
            (.ok reading) ∧
          reading.program.statements.length + reading.errors.length ≤ 2) ∧
      ∃ change later passed,
        Lookahead.Settles
            (fun fuel => Lookahead.look (Lookahead.turn fuel)
              (.ofTokens
                [⟨.float, "1.5", 1, 1⟩, ⟨.illegal, "@", 1, 5⟩, ⟨.endOfInput, "", 1, 6⟩,
                  ⟨.illegal, "\"x", 1, 6⟩]))
            (.ok change, later) ∧
          [⟨.float, "1.5", 1, 1⟩, ⟨.illegal, "@", 1, 5⟩] = passed ++ later.ahead ∧
          passed ≠ [] := by
  have readable : Readable
      [⟨.float, "1.5", 1, 1⟩, ⟨.illegal, "@", 1, 5⟩, ⟨.endOfInput, "", 1, 6⟩,
        ⟨.illegal, "\"x", 1, 6⟩] := by
    unfold Readable
    decide +kernel
  rcases parse_progresses readable with ⟨⟨reading, read, few⟩, moves⟩
  rcases moves _ .first (by decide) with ⟨change, later, passed, turned, ahead, some, _⟩
  exact ⟨readable, ⟨reading, read, few⟩, change, later, passed, turned, ahead, some⟩

/-! ## The end of the input -/

/--
Tokens behind an end token are never read.  Where none of the tokens is an end, they are read as if
one stood right behind the last of them.
-/
theorem parse_until_end (tokens : List Token) :
    (∀ finish more, finish.kind = .endOfInput →
      ∃ result, Lookahead.Reads (tokens ++ [finish] ++ more) result ∧
        Lookahead.Reads (tokens ++ [finish]) result) ∧
      ((∀ token ∈ tokens, token.kind ≠ .endOfInput) →
        ∀ line column,
          (line, column) =
            tokens.getLast?.elim (1, 1) (fun last =>
              (last.line, last.column + last.literal.length)) →
          ∃ result, Lookahead.Reads tokens result ∧
            Lookahead.Reads (tokens ++ [⟨.endOfInput, "", line, column⟩]) result) := by
  have both {first second : List Token} (same : parse first = parse second) :
      ∃ result, Lookahead.Reads first result ∧ Lookahead.Reads second result :=
    ⟨parse second, same ▸ Lookahead.reads_parse first, Lookahead.reads_parse second⟩
  refine ⟨fun finish more isEnd => both ?_, fun noEnd line column behind => both ?_⟩
  · rw [List.append_assoc, List.singleton_append, Parser.parse_append_end isEnd,
      Parser.parse_append_end isEnd]
  · have implied : (⟨.endOfInput, "", line, column⟩ : Token) = Parser.impliedEnd tokens := by
      rw [Parser.impliedEnd]
      cases last : tokens.getLast? <;> simp_all
    rw [Parser.parse_append_end_of_noEnd noEnd rfl, Parser.parse_of_noEnd noEnd, implied]

/-- The `let` that is cut off by an end, with a name behind that or with no end at all. -/
theorem parse_until_end_of_let :
    (∃ result,
      Lookahead.Reads
          ([⟨.letWord, "let", 1, 1⟩] ++ [⟨.endOfInput, "", 1, 4⟩] ++ [⟨.identifier, "x", 1, 5⟩])
          result ∧
        Lookahead.Reads ([⟨.letWord, "let", 1, 1⟩] ++ [⟨.endOfInput, "", 1, 4⟩]) result) ∧
      ∃ result, Lookahead.Reads [⟨.letWord, "let", 1, 1⟩] result ∧
        Lookahead.Reads ([⟨.letWord, "let", 1, 1⟩] ++ [⟨.endOfInput, "", 1, 4⟩]) result :=
  ⟨(parse_until_end [⟨.letWord, "let", 1, 1⟩]).1 _ [⟨.identifier, "x", 1, 5⟩] rfl,
    (parse_until_end [⟨.letWord, "let", 1, 1⟩]).2 (by decide) 1 4 (by decide)⟩

end Jet
