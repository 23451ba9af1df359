import Jet.Proofs.Grammar.Containment
import Jet.Proofs.Grammar.Position

/-!
# The window sees the whole grammar

Reading through a window gives what the grammar gives, which takes whole token lists apart and has
no window.  `Mirrors` compares the two results: the tree, or the problem with its token, or the
literal that cannot be read, and where the window then is.  The second kind matters as much as the
first, since reading goes on from where a statement was given up.

It is proved for each parser, with one step behind another, on the assumption that the expressions
one level down are mirrored; by induction on the levels, all of them are.  Since what is mirrored
settles, every loop and every recursion of the reader comes to an end.
-/

namespace Jet

namespace Lookahead

open Jet.Parser (headKind)

variable {span : Span} {level : Nat} {window : Window} {token : Token} {tokens rest : List Token}

/-! ## Results through the window -/

/-- What a step gives from a window on. -/
def look {ε α : Type} (step : ExceptT ε (StateT Window Option) α) (window : Window) :
    Option (Except ε α × Window) :=
  step.run.run window

section

variable {ε α β : Type} {later : Window}

@[simp]
theorem look_get_bind (next : Window → ExceptT ε (StateT Window Option) α) (window : Window) :
    look (get >>= next) window = look (next window) window :=
  rfl

@[simp]
theorem look_modify_bind (change : Window → Window)
    (next : Unit → ExceptT ε (StateT Window Option) α) (window : Window) :
    look (modify change >>= next) window = look (next ()) (change window) :=
  rfl

@[simp]
theorem look_advance_bind (next : Unit → Looking α) (window : Window) :
    look (advance >>= next) window = look (next ()) window.advance :=
  rfl

theorem look_bind_of_ok {step : ExceptT ε (StateT Window Option) α} {value : α}
    (looked : look step window = some (.ok value, later))
    (next : α → ExceptT ε (StateT Window Option) β) :
    look (step >>= next) window = look (next value) later := by
  change (step window >>= _) = _
  rw [show step window = some (.ok value, later) from looked]
  rfl

theorem look_bind_of_error {step : ExceptT ε (StateT Window Option) α} {error : ε}
    (looked : look step window = some (.error error, later))
    (next : α → ExceptT ε (StateT Window Option) β) :
    look (step >>= next) window = some (.error error, later) := by
  change (step window >>= _) = _
  rw [show step window = some (.error error, later) from looked]
  rfl

/-- One step behind another, with fuel enough for both. -/
theorem Settles.look_bind {step : Nat → ExceptT ε (StateT Window Option) α} {value : α}
    {next : Nat → α → ExceptT ε (StateT Window Option) β} {last : Except ε β × Window}
    (looked : Settles (fun fuel => look (step fuel) window) (.ok value, later))
    (goesOn : Settles (fun fuel => look (next fuel value) later) last) :
    Settles (fun fuel => look (step fuel >>= next fuel) window) last := by
  rcases looked with ⟨enough, looked⟩
  rcases goesOn with ⟨more, goesOn⟩
  refine ⟨max enough more, fun fuel within => ?_⟩
  dsimp only
  rw [look_bind_of_ok (looked fuel (Nat.le_trans (Nat.le_max_left ..) within))]
  exact goesOn fuel (Nat.le_trans (Nat.le_max_right ..) within)

theorem Settles.look_bind_error {step : Nat → ExceptT ε (StateT Window Option) α} {error : ε}
    (looked : Settles (fun fuel => look (step fuel) window) (.error error, later))
    (next : Nat → α → ExceptT ε (StateT Window Option) β) :
    Settles (fun fuel => look (step fuel >>= next fuel) window) (.error error, later) := by
  rcases looked with ⟨enough, looked⟩
  exact ⟨enough, fun fuel within => look_bind_of_error (looked fuel within) (next fuel)⟩

end

/-- Where the window is when a statement is given up because of the first of the stuck tokens. -/
inductive GivesUp (span : Span) (level : Nat) (window : Window) : Cause → List Token → Prop where
  /-- A token that has to be of another kind is looked at before the window moves on to it. -/
  | ahead {kind : Kind} {stuck : List Token}
      (usual : kind ≠ .rightBrace)
      (ends : Ends span level window stuck) :
      GivesUp span level window (.expected kind) stuck
  /-- Only the closing brace of a block is missed on the end itself. -/
  | unclosed
      (stands : Stands span level window []) :
      GivesUp span level window (.expected .rightBrace) []
  /-- What has any other cause is found on the token that the window is on. -/
  | here {cause : Cause} {stuck : List Token}
      (found : ∀ kind, cause ≠ .expected kind)
      (stands : Stands span level window stuck) :
      GivesUp span level window cause stuck

/--
What a parser gives, and what the reader gives through the window if there is fuel enough: they give
the same tree, or the same problem, or fail on the same literal.  What is done and what was left
undone say where the window then is.
-/
def Mirrors {α : Type} (span : Span) (done : Window → List Token → Prop)
    (undone : Window → Cause → List Token → Prop) :
    Parsed (α × List Token) → (Nat → Option (Except Refusal α × Window)) → Prop
  | .ok (value, rest), attempt =>
      ∃ later, Settles attempt (.ok value, later) ∧ done later rest
  | .error (.failure cause stuck), attempt =>
      ∃ later, Settles attempt (.error (.problem ⟨cause, stuck.headD span.finish⟩), later) ∧
        undone later cause stuck
  | .error (.unreadableFloat literal), attempt =>
      ∃ later, Settles attempt (.error (.unreadableFloat literal), later)

/-- The results are the same, and the window ends on the last token that was read. -/
abbrev Tracks {α : Type} (span : Span) (level : Nat) :
    Parsed (α × List Token) → (Nat → Option (Except Refusal α × Window)) → Prop :=
  Mirrors span (Ends span level) (GivesUp span level)

section

variable {α β : Type} {done doneFirst : Window → List Token → Prop}
    {undone undoneFirst : Window → Cause → List Token → Prop}

namespace Mirrors

/-- The same outcome with another window. -/
theorem imp {result : Parsed (α × List Token)}
    {attempt other : Nat → Option (Except Refusal α × Window)} {change : Window → Window}
    (mirrors : Mirrors span doneFirst undoneFirst result attempt)
    (settles : ∀ outcome later, Settles attempt (outcome, later) →
      Settles other (outcome, change later))
    (finished : ∀ later rest, doneFirst later rest → done (change later) rest)
    (left : ∀ later cause stuck, undoneFirst later cause stuck →
      undone (change later) cause stuck) :
    Mirrors span done undone result other := by
  match result with
  | .ok (value, rest) =>
      rcases mirrors with ⟨later, looked, ends⟩
      exact ⟨_, settles _ later looked, finished later rest ends⟩
  | .error (.failure cause stuck) =>
      rcases mirrors with ⟨later, looked, givesUp⟩
      exact ⟨_, settles _ later looked, left later cause stuck givesUp⟩
  | .error (.unreadableFloat literal) =>
      rcases mirrors with ⟨later, looked⟩
      exact ⟨_, settles _ later looked⟩

/-- A call is mirrored if what it does with the fuel that is left for it is. -/
theorem succ {result : Parsed (α × List Token)}
    {attempt : Nat → Option (Except Refusal α × Window)}
    (mirrors : Mirrors span done undone result fun fuel => attempt (fuel + 1)) :
    Mirrors span done undone result attempt :=
  mirrors.imp (fun _ _ => .succ) (fun _ _ => id) fun _ _ _ => id

/-- One step behind another, if the second mirrors what the parser does behind the first. -/
theorem bindOf {result : Parsed (α × List Token)} {step : Nat → Looking α}
    {nextResult : α × List Token → Parsed (β × List Token)} {next : Nat → α → Looking β}
    (mirrors : Mirrors span doneFirst undoneFirst result fun fuel => look (step fuel) window)
    (weaken : ∀ later cause stuck, undoneFirst later cause stuck → undone later cause stuck)
    (nextMirrors : ∀ value rest later, result = .ok (value, rest) → doneFirst later rest →
      Mirrors span done undone (nextResult (value, rest)) fun fuel =>
        look (next fuel value) later) :
    Mirrors span done undone (result >>= nextResult) fun fuel =>
      look (step fuel >>= next fuel) window := by
  match result with
  | .ok (value, rest) =>
      rcases mirrors with ⟨later, looked, finished⟩
      refine (nextMirrors value rest later rfl finished).imp
        (fun outcome last goesOn => ?_) (fun _ _ => id) fun _ _ _ => id
      exact looked.look_bind goesOn
  | .error (.failure cause stuck) =>
      rcases mirrors with ⟨later, looked, left⟩
      exact ⟨later, looked.look_bind_error next, weaken later cause stuck left⟩
  | .error (.unreadableFloat literal) =>
      rcases mirrors with ⟨later, looked⟩
      exact ⟨later, looked.look_bind_error next⟩

theorem bind {result : Parsed (α × List Token)} {step : Nat → Looking α}
    {nextResult : α × List Token → Parsed (β × List Token)} {next : Nat → α → Looking β}
    (mirrors : Mirrors span doneFirst undone result fun fuel => look (step fuel) window)
    (nextMirrors : ∀ value rest later, result = .ok (value, rest) → doneFirst later rest →
      Mirrors span done undone (nextResult (value, rest)) fun fuel =>
        look (next fuel value) later) :
    Mirrors span done undone (result >>= nextResult) fun fuel =>
      look (step fuel >>= next fuel) window :=
  mirrors.bindOf (fun _ _ _ => id) nextMirrors

theorem ok {value : α}
    (finished : done window rest) :
    Mirrors span done undone (.ok (value, rest)) fun _ => look (pure value) window :=
  ⟨window, .of_eq fun _ => rfl, finished⟩

/-- What gives up at once, whatever the fuel. -/
theorem failure {cause : Cause} {stuck : List Token}
    {attempt : Nat → Option (Except Refusal α × Window)}
    (gives : ∀ fuel, attempt fuel =
      some (.error (.problem ⟨cause, stuck.headD span.finish⟩), window))
    (left : undone window cause stuck) :
    Mirrors span done undone (Parser.fail cause stuck : Parsed (α × List Token)) attempt :=
  ⟨window, .of_eq gives, left⟩

end Mirrors

/-- Both give up on the token that the window is on. -/
theorem Mirrors.refuse (cause : Cause)
    (found : ∀ kind, cause ≠ .expected kind)
    (stands : Stands span level window tokens)
    (same : window.current = token) :
    Tracks span level (Parser.fail cause tokens : Parsed (α × List Token)) fun _ =>
      look (refuse cause token) window := by
  refine .failure (fun fuel => ?_) (.here found stands)
  rw [← same, stands.shows.current_eq]
  rfl

end

/-! ## Steps -/

theorem expectNext_of_kind {kind : Kind}
    (matching : window.next.kind = kind) :
    look (expectNext kind) window = some (.ok window.next, window.advance) := by
  rw [expectNext, look_get_bind, if_pos matching]
  rfl

theorem expectNext_of_ne {kind : Kind}
    (other : window.next.kind ≠ kind) :
    look (expectNext kind) window =
      some (.error (.problem ⟨.expected kind, window.next⟩), window) := by
  rw [expectNext, look_get_bind, if_neg other]
  rfl

theorem expectNext_tracks (kind : Kind)
    (usual : kind ≠ .rightBrace ∧ kind ≠ .endOfInput)
    (ends : Ends span level window rest) :
    Tracks span level (Parser.expect kind rest) fun _ => look (expectNext kind) window := by
  by_cases matching : window.next.kind = kind
  · rcases Parser.exists_cons_of_headKind (ends.headKind.trans matching) usual.2 with
      ⟨token, rest, rfl, expected⟩
    rw [expectNext_of_kind matching, Parser.expect_cons_of_kind expected, ends.next_eq]
    exact .ok ends.pass
  · have other : headKind rest ≠ kind := by rwa [ends.headKind]
    have failed : Parser.expect kind rest = Parser.fail (.expected kind) rest := by
      cases rest with
      | nil => rfl
      | cons token rest => exact if_neg other
    rw [expectNext_of_ne matching, failed, ends.next_eq]
    exact .failure (fun _ => rfl) (.ahead usual.1 ends)

/-- What is left behind a semicolon, if there is one. -/
def pastSemicolon (tokens : List Token) : List Token :=
  if headKind tokens = .semicolon then tokens.tail else tokens

/-- A statement is done on its last token or on the semicolon behind it. -/
theorem passSemicolon_mirrors {α : Type} {undone : Window → Cause → List Token → Prop} {value : α}
    (ends : Ends span level window rest) :
    Mirrors span (fun later rest => Ends span level later (pastSemicolon rest)) undone
      (.ok (value, rest)) fun _ => look (passSemicolon >>= fun _ => pure value) window := by
  rw [passSemicolon, bind_assoc, look_get_bind]
  by_cases semicolon : window.next.kind = .semicolon
  · have found := ends.headKind.trans semicolon
    rcases Parser.exists_cons_of_headKind found (by decide) with ⟨token, rest, rfl, _⟩
    rw [if_pos semicolon]
    refine .ok ?_
    rw [pastSemicolon, if_pos found]
    exact ends.pass
  · rw [if_neg semicolon]
    refine .ok ?_
    rw [pastSemicolon, if_neg (by rwa [ends.headKind])]
    exact ends

theorem look_passComma_of_closes {α : Type}
    (closes : window.next.kind = .rightBrace) (next : Looking α) :
    look (passComma >>= fun _ => next) window = look next window := by
  rw [passComma, bind_assoc, look_get_bind, if_neg (not_not_intro closes)]
  rfl

theorem look_passComma_of_goesOn {α : Type}
    (goesOn : window.next.kind ≠ .rightBrace) (next : Looking α) :
    look (passComma >>= fun _ => next) window =
      look (expectNext .comma >>= fun _ => next) window := by
  rw [passComma, bind_assoc, look_get_bind, if_pos goesOn, bind_assoc]
  rfl

theorem moreNames_track {limit : Nat}
    (bound : rest.length ≤ limit)
    (ends : Ends span level window rest) :
    Tracks span level (Parser.moreNames limit rest) fun fuel => look (moreNames fuel) window := by
  induction limit generalizing window rest with
  | zero =>
      cases List.length_eq_zero_iff.mp (Nat.le_zero.mp bound)
      have noComma : window.next.kind ≠ .comma := ends.headKind ▸ by decide
      refine .succ ?_
      simp only [moreNames, look_get_bind, if_neg noComma]
      exact .ok ends
  | succ limit induction =>
      refine .succ ?_
      rw [Parser.moreNames, ends.headKind]
      split
      · rename_i comma
        rcases Parser.exists_cons_of_headKind (ends.headKind.trans comma) (by decide) with
          ⟨token, rest, rfl, _⟩
        simp only [moreNames, look_get_bind, if_pos comma, look_advance_bind]
        refine (expectNext_tracks .identifier (by decide) ends.pass).bind
          fun name others later parsed behind => ?_
        have shorter : others.length < rest.length := by
          rw [(Parser.expect_eq_ok_iff.mp parsed).1]
          exact Nat.lt_succ_self _
        refine (induction (by simp only [List.length_cons] at bound; omega) behind).bind
          fun names others later _ ends => ?_
        exact .ok ends
      · rename_i noComma
        simp only [moreNames, look_get_bind, if_neg noComma]
        exact .ok ends

theorem parameters_track
    (ends : Ends span level window rest) :
    Tracks span level (Parser.parameters rest) fun fuel => look (parameters fuel) window := by
  simp only [parameters]
  refine (expectNext_tracks .leftParen (by decide) ends).bind fun opening rest window _ ends => ?_
  simp only [look_get_bind]
  rw [ends.headKind]
  split
  · rename_i closes
    rcases Parser.exists_cons_of_headKind (ends.headKind.trans closes) (by decide) with
      ⟨token, rest, rfl, _⟩
    simp only [if_pos closes]
    exact .ok ends.pass
  · rename_i unfinished
    simp only [if_neg unfinished]
    refine (expectNext_tracks .identifier (by decide) ends).bind fun name rest window _ ends => ?_
    refine (moreNames_track (Nat.le_refl _) ends).bind fun others rest window _ ends => ?_
    refine (expectNext_tracks .rightParen (by decide) ends).bind
      fun closing rest window _ ends => ?_
    exact .ok ends

/-! ## Parsers over the expressions one level down -/

/-- Whether the expressions of some depth are mirrored at a level. -/
def ExpressionTracks (span : Span) (level depth : Nat) : Prop :=
  ∀ power tokens window, lowestPower ≤ power → Stands span level window tokens →
    Tracks span level (Parser.expression depth power tokens) fun fuel =>
      look (expression fuel power) window

theorem ExpressionTracks.lowest {depth : Nat}
    (tracks : ExpressionTracks span level depth)
    (stands : Stands span level window tokens) :
    Tracks span level (Parser.expression depth lowestPower tokens) fun fuel =>
      look (expression fuel lowestPower) window :=
  tracks _ _ _ (Nat.le_refl _) stands

/-- What a parser hands on is behind what it was given. -/
theorem length_le_of_stays {α : Type} {value : α} {result : Parsed (α × List Token)}
    (stays : Parser.Stays tokens result) (parsed : result = .ok (value, rest)) :
    rest.length ≤ tokens.length := by
  rw [parsed] at stays
  exact List.IsSuffix.length_le stays

theorem length_le_of_expression {depth power : Nat} {tree : Expr}
    (parsed : Parser.expression depth power tokens = .ok (tree, rest)) :
    rest.length ≤ tokens.length :=
  length_le_of_stays (Parser.expression_stays depth power tokens) parsed

theorem length_le_of_block {depth : Nat} {trees : Block}
    (parsed : Parser.block (Parser.expression depth) tokens = .ok (trees, rest)) :
    rest.length ≤ tokens.length :=
  length_le_of_stays (Parser.block_stays (Parser.expression_stays depth) tokens) parsed

theorem length_lt_of_expect {kind : Kind}
    (parsed : Parser.expect kind tokens = .ok (token, rest)) :
    rest.length < tokens.length := by
  rw [(Parser.expect_eq_ok_iff.mp parsed).1]
  exact Nat.lt_succ_self _

/-- Statements are read on behind a semicolon as they are in front of it. -/
theorem statements_pastSemicolon (operand : Operand) {fuel : Nat}
    (bound : rest.length < fuel) :
    ∃ less ≤ fuel, (pastSemicolon rest).length < less ∧
      Parser.statements operand fuel rest =
        Parser.statements operand less (pastSemicolon rest) := by
  unfold pastSemicolon
  split
  · rename_i semicolon
    rcases Parser.exists_cons_of_headKind semicolon (by decide) with ⟨token, rest, rfl, _⟩
    rcases Nat.exists_eq_add_one_of_ne_zero (Nat.ne_zero_of_lt bound) with ⟨fuel, rfl⟩
    refine ⟨fuel, Nat.le_succ _, Nat.lt_of_succ_lt_succ bound, ?_⟩
    rw [Parser.statements, semicolon]
  · exact ⟨fuel, Nat.le_refl _, bound, rfl⟩

section

variable {depth : Nat} (tracks : ExpressionTracks span level depth)

include tracks

theorem statement_mirrors
    (stands : Stands span level window (token :: rest)) :
    Mirrors span (fun later rest => Ends span level later (pastSemicolon rest))
      (GivesUp span level) (Parser.statement (Parser.expression depth) (token :: rest)) fun fuel =>
        look (statement fuel) window := by
  have ends := stands.ends
  refine .succ ?_
  simp only [statement, look_get_bind, Parser.statement, Parser.headKind_cons, List.tail_cons,
    stands.current_eq]
  cases token.kind with
  | letWord =>
      refine (expectNext_tracks .identifier (by decide) ends).bind fun name rest window _ ends => ?_
      refine (expectNext_tracks .assign (by decide) ends).bind fun sign rest window _ ends => ?_
      simp only [look_advance_bind]
      refine (tracks.lowest ends.advance).bind fun value rest window _ ends => ?_
      exact passSemicolon_mirrors ends
  | returnWord =>
      dsimp only
      rw [ends.headKind]
      cases window.next.kind with
      | semicolon | rightBrace | endOfInput => exact passSemicolon_mirrors ends
      | _ =>
          simp only [look_advance_bind]
          refine (tracks.lowest ends.advance).bind fun value rest window _ ends => ?_
          exact passSemicolon_mirrors ends
  | _ =>
      refine (tracks.lowest stands).bind fun value rest window _ ends => ?_
      exact passSemicolon_mirrors ends

theorem statements_track {limit : Nat}
    (bound : tokens.length < limit)
    (stands : Stands span level window tokens) :
    Tracks span level (Parser.statements (Parser.expression depth) limit tokens) fun fuel =>
      look (statements fuel) window := by
  induction limit using Nat.strongRecOn generalizing tokens window with
  | ind limit induction =>
      rcases Nat.exists_eq_add_one_of_ne_zero (Nat.ne_zero_of_lt bound) with ⟨limit, rfl⟩
      refine .succ ?_
      simp only [statements, look_get_bind]
      rw [Parser.statements, stands.headKind]
      cases current : window.current.kind with
      | rightBrace =>
          rcases Parser.exists_cons_of_headKind (stands.headKind.trans current) (by decide) with
            ⟨token, rest, rfl, _⟩
          exact .ok stands.ends
      | endOfInput =>
          cases stands.eq_nil current
          refine .failure (fun fuel => ?_) (.unclosed stands)
          rw [stands.shows.current_eq]
          rfl
      | semicolon =>
          rcases Parser.exists_cons_of_headKind (stands.headKind.trans current) (by decide) with
            ⟨token, rest, rfl, _⟩
          simp only [look_advance_bind]
          exact induction limit (Nat.lt_succ_self _) (Nat.lt_of_succ_lt_succ bound)
            stands.ends.advance
      | _ =>
          rcases Parser.exists_cons_of_headKind (stands.headKind.trans current) (by decide) with
            ⟨token, others, rfl, _⟩
          refine (statement_mirrors tracks stands).bind fun tree rest later parsed ends => ?_
          have shorter := Parser.length_lt_of_statement parsed
          rcases statements_pastSemicolon (Parser.expression depth)
            (Nat.lt_of_lt_of_le shorter (Nat.le_of_lt_succ bound)) with ⟨less, fewer, enough, same⟩
          simp only [look_advance_bind]
          rw [same]
          refine (induction less (Nat.lt_succ_of_le fewer) enough ends.advance).bind
            fun trees rest later _ ends => ?_
          exact .ok ends

theorem block_tracks
    (ends : Ends span level window rest) :
    Tracks span level (Parser.block (Parser.expression depth) rest) fun fuel =>
      look (block fuel) window := by
  refine .succ ?_
  simp only [block]
  refine (expectNext_tracks .leftBrace (by decide) ends).bind fun opening rest window _ ends => ?_
  simp only [look_advance_bind]
  exact statements_track tracks (Nat.lt_succ_self _) ends.advance

theorem moreItems_track {limit : Nat}
    (bound : rest.length ≤ limit)
    (ends : Ends span level window rest) :
    Tracks span level (Parser.moreItems (Parser.expression depth) limit rest) fun fuel =>
      look (moreItems fuel) window := by
  induction limit generalizing window rest with
  | zero =>
      cases List.length_eq_zero_iff.mp (Nat.le_zero.mp bound)
      have noComma : window.next.kind ≠ .comma := ends.headKind ▸ by decide
      refine .succ ?_
      simp only [moreItems, look_get_bind, if_neg noComma]
      exact .ok ends
  | succ limit induction =>
      refine .succ ?_
      rw [Parser.moreItems, ends.headKind]
      split
      · rename_i comma
        rcases Parser.exists_cons_of_headKind (ends.headKind.trans comma) (by decide) with
          ⟨token, rest, rfl, _⟩
        simp only [moreItems, look_get_bind, if_pos comma, look_advance_bind]
        refine (tracks.lowest ends.pass.advance).bind fun item others later parsed ends => ?_
        have shorter := length_le_of_expression parsed
        refine (induction (Nat.le_trans shorter (Nat.le_of_succ_le_succ bound)) ends).bind
          fun items rest later _ ends => ?_
        exact .ok ends
      · rename_i noComma
        simp only [moreItems, look_get_bind, if_neg noComma]
        exact .ok ends

theorem items_track (closing : Kind)
    (usual : closing ≠ .rightBrace ∧ closing ≠ .endOfInput)
    (ends : Ends span level window rest) :
    Tracks span level (Parser.items (Parser.expression depth) closing rest) fun fuel =>
      look (items fuel closing) window := by
  refine .succ ?_
  rw [Parser.items, ends.headKind]
  split
  · rename_i closes
    rcases Parser.exists_cons_of_headKind (ends.headKind.trans closes) usual.2 with
      ⟨token, rest, rfl, _⟩
    simp only [items, look_get_bind, if_pos closes, look_advance_bind]
    exact .ok ends.pass
  · rename_i unfinished
    simp only [items, look_get_bind, if_neg unfinished, look_advance_bind]
    refine (tracks.lowest ends.advance).bind fun item rest window _ ends => ?_
    refine (moreItems_track tracks (Nat.le_refl _) ends).bind fun others rest window _ ends => ?_
    refine (expectNext_tracks closing usual ends).bind fun closing rest window _ ends => ?_
    exact .ok ends

theorem pairs_track {limit : Nat}
    (bound : rest.length < limit)
    (ends : Ends span level window rest) :
    Tracks span level (Parser.pairs (Parser.expression depth) limit rest) fun fuel =>
      look (pairs fuel) window := by
  induction limit generalizing window rest with
  | zero => exact absurd bound (Nat.not_lt_zero _)
  | succ limit induction =>
      refine .succ ?_
      rw [Parser.pairs, ends.headKind]
      split
      · rename_i closes
        rcases Parser.exists_cons_of_headKind (ends.headKind.trans closes) (by decide) with
          ⟨token, rest, rfl, _⟩
        simp only [pairs, look_get_bind, if_pos closes,
          look_bind_of_ok (expectNext_of_kind closes)]
        exact .ok ends.pass
      · rename_i unfinished
        simp only [pairs, look_get_bind, if_neg unfinished, look_advance_bind]
        refine (tracks.lowest ends.advance).bind fun key others window parsedKey ends => ?_
        refine (expectNext_tracks .colon (by decide) ends).bind
          fun colon behind window parsed ends => ?_
        simp only [look_advance_bind]
        refine (tracks.lowest ends.advance).bind fun value last window parsedValue ends => ?_
        have shorter : last.length < rest.length :=
          calc last.length
            _ ≤ behind.length := length_le_of_expression parsedValue
            _ < others.length := length_lt_of_expect parsed
            _ ≤ rest.length := length_le_of_expression parsedKey
        simp only [Parser.pure_eq_ok, Parser.ok_bind]
        rw [ends.headKind]
        split
        · rename_i closes
          simp only [look_passComma_of_closes closes]
          refine (induction (by omega) ends).bind fun pairs rest later _ ends => ?_
          exact .ok ends
        · rename_i goesOn
          simp only [look_passComma_of_goesOn goesOn]
          refine (expectNext_tracks .comma (by decide) ends).bind
            fun comma others window parsedComma ends => ?_
          have fewer := length_lt_of_expect parsedComma
          refine (induction (by omega) ends).bind fun pairs rest later _ ends => ?_
          exact .ok ends

theorem alternative_tracks {nested : List Token → Parsed (Expr × List Token)}
    (nestedTracks : ∀ others later, others.length < rest.length → Ends span level later others →
      Tracks span level (nested others) fun fuel => look (conditional fuel) later)
    (ends : Ends span level window rest) :
    Tracks span level (Parser.alternative (Parser.expression depth) nested rest) fun fuel =>
      look (alternative fuel) window := by
  refine .succ ?_
  by_cases begins : window.next.kind = .elseWord
  · have begins' := ends.headKind.trans begins
    rcases Parser.exists_cons_of_headKind begins' (by decide) with ⟨word, others, rfl, _⟩
    have behind := ends.pass
    by_cases goesOn : window.advance.next.kind = .ifWord
    · have goesOn' := behind.headKind.trans goesOn
      rw [Parser.alternative_elseIf _ _ begins' goesOn']
      rcases Parser.exists_cons_of_headKind goesOn' (by decide) with ⟨second, others, rfl, _⟩
      simp only [alternative, look_get_bind, if_pos begins, look_advance_bind, if_pos goesOn]
      refine (nestedTracks others _ (by simp only [List.length_cons]; omega) behind.pass).bind
        fun tree rest window _ ends => ?_
      exact .ok ends
    · rw [Parser.alternative_elseBlock _ _ begins' (behind.headKind ▸ goesOn)]
      simp only [alternative, look_get_bind, if_pos begins, look_advance_bind, if_neg goesOn]
      refine (block_tracks tracks behind).bind fun trees rest window _ ends => ?_
      exact .ok ends
  · rw [Parser.alternative_of_ne_elseWord _ _ (ends.headKind ▸ begins)]
    simp only [alternative, look_get_bind, if_neg begins]
    exact .ok ends

theorem conditional_tracks {limit : Nat}
    (bound : rest.length ≤ limit)
    (ends : Ends span level window rest) :
    Tracks span level (Parser.conditional (Parser.expression depth) limit rest) fun fuel =>
      look (conditional fuel) window := by
  induction limit generalizing window rest with
  | zero =>
      cases List.length_eq_zero_iff.mp (Nat.le_zero.mp bound)
      have noParen : window.next.kind ≠ .leftParen := ends.headKind ▸ by decide
      refine .succ (.failure (fun fuel => ?_) (.ahead (by decide) ends))
      rw [conditional, look_bind_of_error (expectNext_of_ne noParen), ends.next_eq]
  | succ limit induction =>
      refine .succ ?_
      simp only [conditional]
      rw [Parser.conditional_succ]
      refine (expectNext_tracks .leftParen (by decide) ends).bind
        fun opening inner window parsedParen ends => ?_
      simp only [look_advance_bind]
      refine (tracks.lowest ends.advance).bind fun condition others window parsed ends => ?_
      refine (expectNext_tracks .rightParen (by decide) ends).bind
        fun closing behind window parsedClosing ends => ?_
      refine (block_tracks tracks ends).bind fun consequence last window parsedBlock ends => ?_
      have shorter : last.length < rest.length :=
        calc last.length
          _ ≤ behind.length := length_le_of_block parsedBlock
          _ < others.length := length_lt_of_expect parsedClosing
          _ ≤ inner.length := length_le_of_expression parsed
          _ ≤ rest.length := Nat.le_of_lt (length_lt_of_expect parsedParen)
      refine (alternative_tracks tracks (fun others later shorter ends =>
        induction (by omega) ends) ends).bind fun others rest window _ ends => ?_
      exact .ok ends

theorem start_tracks
    (stands : Stands span level window tokens) :
    Tracks span level (Parser.start (Parser.expression depth) tokens) fun fuel =>
      look (start fuel) window := by
  refine .succ ?_
  simp only [start, look_get_bind]
  cases tokens with
  | nil =>
      have ended : window.current.kind = .endOfInput := stands.headKind.symm
      simp only [ended]
      exact .refuse .noExpression (by rintro _ ⟨⟩) stands rfl
  | cons token rest =>
      have ends := stands.ends
      have same := stands.current_eq
      simp only [Parser.start, same]
      cases token.kind with
      | identifier | string | trueWord | falseWord | nullWord => exact .ok ends
      | integer =>
          dsimp only
          cases Literal.integer? token.literal with
          | some value => exact .ok ends
          | none => exact .refuse .unreadableInteger (by rintro _ ⟨⟩) stands same
      | float =>
          dsimp only
          cases Literal.double? token.literal with
          | some value => exact .ok ends
          | none => exact ⟨window, .of_eq fun _ => rfl⟩
      | illegal =>
          dsimp only
          split
          · exact .refuse .unterminatedString (by rintro _ ⟨⟩) stands same
          · exact .refuse .illegalCharacter (by rintro _ ⟨⟩) stands same
      | bang | minus =>
          simp only [look_advance_bind]
          refine (tracks _ _ _ (by decide) ends.advance).bind fun value rest window _ ends => ?_
          exact .ok ends
      | leftParen =>
          simp only [look_advance_bind]
          refine (tracks.lowest ends.advance).bind fun value rest window _ ends => ?_
          refine (expectNext_tracks .rightParen (by decide) ends).bind
            fun closing rest window _ ends => ?_
          exact .ok ends
      | ifWord => exact conditional_tracks tracks (Nat.le_refl _) ends
      | fnWord =>
          refine (parameters_track ends).bind fun names rest window _ ends => ?_
          refine (block_tracks tracks ends).bind fun body rest window _ ends => ?_
          exact .ok ends
      | leftBracket =>
          refine (items_track tracks .rightBracket (by decide) ends).bind
            fun elements rest window _ ends => ?_
          exact .ok ends
      | leftBrace =>
          refine (pairs_track tracks (Nat.lt_succ_self _) ends).bind
            fun entries rest window _ ends => ?_
          exact .ok ends
      | _ => exact .refuse .noExpression (by rintro _ ⟨⟩) stands same

theorem continuation_tracks (left : Expr)
    (stands : Stands span level window (token :: rest)) :
    Tracks span level (Parser.continuation (Parser.expression depth) left (token :: rest))
      fun fuel => look (continuation fuel left) window := by
  have ends := stands.ends
  have same := stands.current_eq
  refine .succ ?_
  simp only [continuation, look_get_bind, same, Parser.continuation]
  cases token.kind with
  | leftParen =>
      refine (items_track tracks .rightParen (by decide) ends).bind
        fun arguments rest window _ ends => ?_
      exact .ok ends
  | leftBracket =>
      simp only [look_advance_bind]
      refine (tracks.lowest ends.advance).bind fun position rest window _ ends => ?_
      refine (expectNext_tracks .rightBracket (by decide) ends).bind
        fun closing rest window _ ends => ?_
      exact .ok ends
  | assign =>
      cases left with
      | name name =>
          simp only [look_advance_bind]
          refine (tracks _ _ _ (Kind.lowestPower_le_rightPower _) ends.advance).bind
            fun value rest window _ ends => ?_
          exact .ok ends
      | _ => exact .refuse .invalidTarget (by rintro _ ⟨⟩) stands same
  | _ =>
      simp only [look_advance_bind]
      refine (tracks _ _ _ (Kind.lowestPower_le_rightPower _) ends.advance).bind
        fun right rest window _ ends => ?_
      exact .ok ends

end

/-! ## Expressions of any depth -/

theorem Stands.atLevel
    (stands : Stands span level window tokens) (other : Nat) :
    Stands span other (window.atLevel other) tokens :=
  ⟨stands.suffix, stands.shows, stands.balance, rfl⟩

theorem Ends.atLevel
    (ends : Ends span level window rest) (other : Nat) :
    Ends span other (window.atLevel other) rest :=
  Stands.atLevel ends other

theorem GivesUp.atLevel {cause : Cause} {stuck : List Token}
    (givesUp : GivesUp span level window cause stuck) (other : Nat) :
    GivesUp span other (window.atLevel other) cause stuck := by
  cases givesUp with
  | ahead usual ends => exact .ahead usual (ends.atLevel other)
  | unclosed stands => exact .unclosed (stands.atLevel other)
  | here found stands => exact .here found (stands.atLevel other)

/-- The results are the same, and the window is left at whatever level. -/
abbrev Passes {α : Type} (span : Span) :
    Parsed (α × List Token) → (Nat → Option (Except Refusal α × Window)) → Prop :=
  Mirrors span (fun later rest => ∃ level, Ends span level later rest)
    (fun later cause stuck => ∃ level, GivesUp span level later cause stuck)

/-- One level further down, if there is one. -/
theorem look_descend_bind_of_lt {α : Type}
    (room : window.nesting < maxNesting) (next : Unit → Looking α) :
    look (descend >>= next) window = look (next ()) (window.atLevel (window.nesting + 1)) := by
  have fits : ¬ maxNesting < (window.atLevel (window.nesting + 1)).nesting := Nat.not_lt.mpr room
  rw [descend, bind_assoc, look_modify_bind, bind_assoc, look_get_bind, if_neg fits]
  rfl

theorem look_descend_bind_of_eq {α : Type}
    (full : window.nesting = maxNesting) (next : Unit → Looking α) :
    look (descend >>= next) window =
      some (.error (.problem ⟨.nestedTooDeeply, window.current⟩),
        window.atLevel (window.nesting + 1)) := by
  have exceeds : maxNesting < (window.atLevel (window.nesting + 1)).nesting :=
    full ▸ Nat.lt_succ_self _
  rw [descend, bind_assoc, look_modify_bind, bind_assoc, look_get_bind, if_pos exceeds]
  rfl

/-- An expression is a chain, with the window at the level where it was before. -/
theorem look_expression (fuel power : Nat) (window : Window) :
    look (expression (fuel + 1) power) window =
      (look (chain fuel power) window).map fun (result, later) =>
        (result, later.atLevel window.nesting) := by
  rw [expression]
  change (chain fuel power window >>= _) = (chain fuel power window).map _
  cases chain fuel power window <;> rfl

theorem Passes.expression {power : Nat} {result : Parsed (Expr × List Token)}
    (passes : Passes span result fun fuel => look (chain fuel power) window)
    (same : window.nesting = level) :
    Tracks span level result fun fuel => look (expression fuel power) window := by
  have settles (outcome : Except Refusal Expr) (later : Window)
      (looked : Settles (fun fuel => look (chain fuel power) window) (outcome, later)) :
      Settles (fun fuel => look (Lookahead.expression (fuel + 1) power) window)
        (outcome, later.atLevel level) := by
    simp only [look_expression, same]
    exact looked.map
  exact Mirrors.succ (passes.imp settles (fun later rest ⟨_, ends⟩ => ends.atLevel level)
    fun later cause stuck ⟨_, givesUp⟩ => givesUp.atLevel level)

/--
An expression and its continuations are mirrored at every depth, as long as the levels above and
below make up the limit.
-/
theorem expression_and_continuations_track (span : Span) (depth level : Nat)
    (all : level + depth = maxNesting) :
    ExpressionTracks span level depth ∧
      ∀ power left rest window, lowestPower ≤ power → Ends span level window rest →
        Passes span (Parser.continuations depth power left rest) fun fuel =>
          look (continuations fuel power left) window := by
  induction depth generalizing level with
  | zero =>
      refine ⟨fun power tokens window above stands => ?_,
        fun power left rest window above ends => ?_⟩
      · refine Passes.expression (.succ ?_) stands.level
        simp only [chain, look_descend_bind_of_eq (stands.level.trans all),
          stands.shows.current_eq]
        exact .failure (fun _ => rfl) ⟨_, .here (by rintro _ ⟨⟩) (stands.atLevel _)⟩
      · refine Mirrors.succ ?_
        rw [Parser.continuations, ends.headKind]
        split
        · rename_i tight
          have stands := ends.advance
          simp only [continuations, look_get_bind, if_pos tight, look_advance_bind,
            look_descend_bind_of_eq (stands.level.trans all), stands.shows.current_eq]
          exact .failure (fun _ => rfl) ⟨_, .here (by rintro _ ⟨⟩) (stands.atLevel _)⟩
        · rename_i loose
          simp only [continuations, look_get_bind, if_neg loose]
          exact .ok ⟨level, ends⟩
  | succ depth induction =>
      rcases induction (level + 1) (by omega) with ⟨tracks, continuationsPass⟩
      refine ⟨fun power tokens window above stands => ?_,
        fun power left rest window above ends => ?_⟩
      · refine Passes.expression (.succ ?_) stands.level
        have room : window.nesting < maxNesting := by
          rw [stands.level]
          omega
        simp only [chain, look_descend_bind_of_lt room, stands.level]
        rw [Parser.expression]
        refine (start_tracks tracks (stands.atLevel _)).bindOf (fun _ _ _ left => ⟨_, left⟩)
          fun left rest window _ ends => ?_
        exact continuationsPass power left rest window above ends
      · refine Mirrors.succ ?_
        rw [Parser.continuations, ends.headKind]
        split
        · rename_i tight
          have stands := ends.advance
          have room : window.advance.nesting < maxNesting := by
            rw [stands.level]
            omega
          simp only [continuations, look_get_bind, if_pos tight, look_advance_bind,
            look_descend_bind_of_lt room, stands.level]
          rcases Parser.exists_cons_of_headKind rfl
            (Parser.ne_endOfInput_of_power above (ends.headKind ▸ tight)) with
            ⟨token, others, rfl, _⟩
          refine (continuation_tracks tracks left (stands.atLevel _)).bindOf
            (fun _ _ _ left => ⟨_, left⟩) fun whole rest window _ ends => ?_
          exact continuationsPass power whole rest window above ends
        · rename_i loose
          simp only [continuations, look_get_bind, if_neg loose]
          exact .ok ⟨level, ends⟩

end Lookahead

end Jet
