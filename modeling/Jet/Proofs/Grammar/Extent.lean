import Jet.Grammar.Parser

/-!
# How far the parsers reach

Every parser of the grammar works on a token list from the front.  What it hands on, and the place
at which it gives up, is always a suffix of the tokens that it was given, and a float literal that
it cannot read is the literal of one of them.  `Stays` says this of one result; the theorems below
prove it for each parser, from the expressions one level down to whole expressions of any depth.
-/

namespace Jet.Parser

/-! ## Results of parsers -/

@[simp]
theorem ok_bind {α β : Type} (value : α) (next : α → Parsed β) :
    ((.ok value : Parsed α) >>= next) = next value :=
  rfl

@[simp]
theorem error_bind {α β : Type} (stop : Stop) (next : α → Parsed β) :
    ((.error stop : Parsed α) >>= next) = .error stop :=
  rfl

@[simp]
theorem fail_bind {α β : Type}
    (cause : Cause) (tokens : List Token) (next : α → Parsed β) :
    (fail cause tokens >>= next) = fail cause tokens :=
  rfl

@[simp]
theorem pure_eq_ok {α : Type} (value : α) :
    (pure value : Parsed α) = .ok value :=
  rfl

/-- A parser in two steps succeeds exactly if both steps do. -/
theorem bind_eq_ok_iff {α β : Type}
    {first : Parsed α} {next : α → Parsed β} {result : β} :
    (first >>= next) = .ok result ↔
      ∃ value, first = .ok value ∧ next value = .ok result := by
  cases first with
  | error stop => simp
  | ok value => simp

/-- A result that was changed was there before the change. -/
theorem map_eq_ok_iff {ε α β : Type}
    {first : Except ε α} {change : α → β} {result : β} :
    first.map change = .ok result ↔ ∃ value, first = .ok value ∧ change value = result := by
  cases first with
  | error cause => simp [Except.map]
  | ok value => simp [Except.map]

@[simp]
theorem headKind_cons (token : Token) (rest : List Token) :
    headKind (token :: rest) = token.kind :=
  rfl

@[simp]
theorem headKind_nil : headKind [] = .endOfInput :=
  rfl

/-- The first kind of a concatenation comes from its first part, if that has any tokens. -/
theorem headKind_append {tokens : List Token}
    (nonempty : tokens ≠ []) (rest : List Token) :
    headKind (tokens ++ rest) = headKind tokens := by
  cases tokens with
  | nil => exact absurd rfl nonempty
  | cons token others => rfl

@[simp]
theorem expect_cons_of_kind {kind : Kind} {token : Token}
    (matching : token.kind = kind) (rest : List Token) :
    expect kind (token :: rest) = .ok (token, rest) := by
  simp [expect, matching]

/-- A token is taken exactly if it comes first and has the kind asked for. -/
theorem expect_eq_ok_iff {kind : Kind} {tokens rest : List Token} {token : Token} :
    expect kind tokens = .ok (token, rest) ↔
      tokens = token :: rest ∧ token.kind = kind := by
  cases tokens with
  | nil => simp [expect, fail]
  | cons first others =>
      by_cases matching : first.kind = kind
      · simp only [expect_cons_of_kind matching, Except.ok.injEq,
          Prod.mk.injEq, List.cons.injEq]
        constructor
        · rintro ⟨rfl, rfl⟩
          exact ⟨⟨rfl, rfl⟩, matching⟩
        · rintro ⟨⟨rfl, rfl⟩, _⟩
          exact ⟨rfl, rfl⟩
      · constructor
        · intro taken
          simp [expect, matching, fail] at taken
        · rintro ⟨equal, taken⟩
          cases equal
          exact absurd taken matching

/-- There are no more names unless a comma comes first. -/
theorem moreNames_of_ne_comma {tokens : List Token}
    (noComma : headKind tokens ≠ .comma) (fuel : Nat) :
    moreNames fuel tokens = .ok ([], tokens) := by
  cases fuel with
  | zero => rfl
  | succ fuel =>
      rw [moreNames]
      split
      · exact absurd ‹_› noComma
      · rfl

/-- There are no more items unless a comma comes first. -/
theorem moreItems_of_ne_comma {tokens : List Token}
    (noComma : headKind tokens ≠ .comma) (operand : Operand) (fuel : Nat) :
    moreItems operand fuel tokens = .ok ([], tokens) := by
  cases fuel with
  | zero => rfl
  | succ fuel =>
      rw [moreItems]
      split
      · exact absurd ‹_› noComma
      · rfl

/--
What may follow the first block of a conditional, given a parser for a conditional behind its
`if`: nothing, an `else` with a block, or an `else` with another conditional.
-/
def alternative (operand : Operand) (nested : List Token → Parsed (Expr × List Token))
    (tokens : List Token) : Parsed (Option Block × List Token) :=
  match headKind tokens, headKind tokens.tail with
  | .elseWord, .ifWord => do
      let (tree, rest) ← nested tokens.tail.tail
      pure (some [.expression tree], rest)
  | .elseWord, _ => do
      let (trees, rest) ← block operand tokens.tail
      pure (some trees, rest)
  | _, _ => pure (none, tokens)

section

variable (operand : Operand) (nested : List Token → Parsed (Expr × List Token))
    {tokens : List Token}

theorem alternative_elseIf
    (begins : headKind tokens = .elseWord) (goesOn : headKind tokens.tail = .ifWord) :
    alternative operand nested tokens = (do
      let (tree, rest) ← nested tokens.tail.tail
      pure (some [.expression tree], rest)) := by
  simp only [alternative, begins, goesOn]

theorem alternative_elseBlock
    (begins : headKind tokens = .elseWord) (noIf : headKind tokens.tail ≠ .ifWord) :
    alternative operand nested tokens = (do
      let (trees, rest) ← block operand tokens.tail
      pure (some trees, rest)) := by
  simp only [alternative, begins]

theorem alternative_of_ne_elseWord
    (noElse : headKind tokens ≠ .elseWord) :
    alternative operand nested tokens = .ok (none, tokens) := by
  unfold alternative
  split
  · exact absurd ‹_› noElse
  · exact absurd ‹_› noElse
  · rfl

end

/-- A conditional is its condition and its first block, and then an alternative. -/
theorem conditional_succ (operand : Operand) (fuel : Nat) (tokens : List Token) :
    conditional operand (fuel + 1) tokens = (do
      let (_, rest) ← expect .leftParen tokens
      let (condition, rest) ← operand lowestPower rest
      let (_, rest) ← expect .rightParen rest
      let (consequence, rest) ← block operand rest
      let (others, rest) ← alternative operand (conditional operand fuel) rest
      pure (.conditional condition consequence others, rest)) := by
  rw [conditional]
  refine bind_congr fun (_, rest) => ?_
  refine bind_congr fun (condition, rest) => ?_
  refine bind_congr fun (_, rest) => ?_
  refine bind_congr fun (consequence, rest) => ?_
  dsimp only
  split
  · rename_i begins goesOn
    rw [alternative_elseIf _ _ begins goesOn, bind_assoc]
    rfl
  · rename_i begins noIf
    rw [alternative_elseBlock _ _ begins noIf, bind_assoc]
    rfl
  · rename_i noElse _
    rw [alternative_of_ne_elseWord _ _ noElse]
    rfl

/-- A conditional goes on with its condition in parentheses. -/
theorem conditional_of_ne_leftParen {tokens : List Token}
    (noParen : headKind tokens ≠ .leftParen) (operand : Operand) (fuel : Nat) :
    conditional operand fuel tokens = fail (.expected .leftParen) tokens := by
  cases fuel with
  | zero => rfl
  | succ fuel =>
      rw [conditional_succ]
      cases tokens with
      | nil => rfl
      | cons token rest =>
          rw [headKind_cons] at noParen
          rw [expect, if_neg noParen]
          rfl

/-- The continuations end where no operator is tight enough. -/
theorem continuations_of_power_le {minimum : Nat} {tokens : List Token} (depth : Nat) (left : Expr)
    (loose : (headKind tokens).power ≤ minimum) :
    continuations depth minimum left tokens = .ok (left, tokens) := by
  cases depth with
  | zero => rw [continuations, if_neg (Nat.not_lt.mpr loose)]
  | succ depth => rw [continuations, if_neg (Nat.not_lt.mpr loose)]

/-! ## Staying within the tokens -/

/--
What a parser gives when it is run on some tokens: it hands on a suffix of them, or gives up at a
suffix of them, or meets one of them whose literal is no float.
-/
def Stays {α : Type} (tokens : List Token) : Parsed (α × List Token) → Prop
  | .ok (_, rest) => rest <:+ tokens
  | .error (.failure _ stuck) => stuck <:+ tokens
  | .error (.unreadableFloat literal) =>
      ∃ token ∈ tokens, token.kind = .float ∧ token.literal = literal ∧
        Literal.double? token.literal = none

theorem Stays.mono {α : Type} {rest tokens : List Token}
    {result : Parsed (α × List Token)}
    (stays : Stays rest result) (suffix : rest <:+ tokens) :
    Stays tokens result := by
  match result, stays with
  | .ok (_, _), stays => exact List.IsSuffix.trans stays suffix
  | .error (.failure _ _), stays => exact List.IsSuffix.trans stays suffix
  | .error (.unreadableFloat _), ⟨token, member, facts⟩ =>
      exact ⟨token, suffix.subset member, facts⟩

/-- Two steps stay within the tokens if each of them does. -/
theorem Stays.bind {α β : Type} {tokens : List Token}
    {first : Parsed (α × List Token)}
    {next : α × List Token → Parsed (β × List Token)}
    (stays : Stays tokens first)
    (nextStays : ∀ value rest, Stays rest (next (value, rest))) :
    Stays tokens (first >>= next) := by
  match first, stays with
  | .ok (value, rest), stays => exact (nextStays value rest).mono stays
  | .error (.failure _ _), stays => exact stays
  | .error (.unreadableFloat _), stays => exact stays

theorem Stays.ok {α : Type} (value : α) (tokens : List Token) :
    Stays tokens (.ok (value, tokens)) :=
  List.suffix_refl tokens

theorem fail_stays {α : Type} (cause : Cause) (tokens : List Token) :
    Stays tokens (fail cause tokens : Parsed (α × List Token)) :=
  List.suffix_refl tokens

theorem expect_stays (kind : Kind) (tokens : List Token) :
    Stays tokens (expect kind tokens) := by
  cases tokens with
  | nil => exact fail_stays _ _
  | cons token rest =>
      rw [expect]
      split
      · exact List.suffix_cons token rest
      · exact fail_stays _ _

theorem moreNames_stays (fuel : Nat) (tokens : List Token) :
    Stays tokens (moreNames fuel tokens) := by
  induction fuel generalizing tokens with
  | zero => exact Stays.ok _ _
  | succ fuel induction =>
      unfold moreNames
      split
      · refine Stays.mono ?_ (List.tail_suffix tokens)
        refine (expect_stays _ _).bind fun name rest => ?_
        exact (induction rest).bind fun others rest => Stays.ok _ _
      · exact Stays.ok _ _

theorem parameters_stays (tokens : List Token) :
    Stays tokens (parameters tokens) := by
  refine (expect_stays _ _).bind fun opening rest => ?_
  dsimp only
  split
  · exact List.tail_suffix rest
  · refine (expect_stays _ _).bind fun name rest => ?_
    refine (moreNames_stays _ rest).bind fun others rest => ?_
    exact (expect_stays _ _).bind fun closing rest => Stays.ok _ _

section

variable {operand : Operand}
    (operandStays : ∀ power tokens, Stays tokens (operand power tokens))

include operandStays

theorem statement_stays (tokens : List Token) :
    Stays tokens (statement operand tokens) := by
  unfold statement
  split
  · refine Stays.mono ?_ (List.tail_suffix tokens)
    refine (expect_stays _ _).bind fun name rest => ?_
    refine (expect_stays _ _).bind fun equals rest => ?_
    exact (operandStays _ _).bind fun value rest => Stays.ok _ _
  · refine Stays.mono ?_ (List.tail_suffix tokens)
    split
    · exact Stays.ok _ _
    · exact Stays.ok _ _
    · exact Stays.ok _ _
    · exact (operandStays _ _).bind fun value rest => Stays.ok _ _
  · exact (operandStays _ _).bind fun value rest => Stays.ok _ _

theorem statements_stays (fuel : Nat) (tokens : List Token) :
    Stays tokens (statements operand fuel tokens) := by
  induction fuel generalizing tokens with
  | zero => exact fail_stays _ _
  | succ fuel induction =>
      unfold statements
      split
      · exact List.tail_suffix tokens
      · exact fail_stays _ _
      · exact (induction _).mono (List.tail_suffix tokens)
      · refine (statement_stays operandStays tokens).bind
          fun first rest => ?_
        exact (induction rest).bind fun others rest => Stays.ok _ _

theorem block_stays (tokens : List Token) :
    Stays tokens (block operand tokens) := by
  refine (expect_stays _ _).bind fun opening rest => ?_
  exact statements_stays operandStays _ rest

theorem moreItems_stays (fuel : Nat) (tokens : List Token) :
    Stays tokens (moreItems operand fuel tokens) := by
  induction fuel generalizing tokens with
  | zero => exact Stays.ok _ _
  | succ fuel induction =>
      unfold moreItems
      split
      · refine Stays.mono ?_ (List.tail_suffix tokens)
        refine (operandStays _ _).bind fun item rest => ?_
        exact (induction rest).bind fun others rest => Stays.ok _ _
      · exact Stays.ok _ _

theorem items_stays (closing : Kind) (tokens : List Token) :
    Stays tokens (items operand closing tokens) := by
  unfold items
  split
  · exact List.tail_suffix tokens
  · refine (operandStays _ _).bind fun item rest => ?_
    refine (moreItems_stays operandStays _ rest).bind
      fun others rest => ?_
    exact (expect_stays _ _).bind fun closing rest => Stays.ok _ _

theorem pairs_stays (fuel : Nat) (tokens : List Token) :
    Stays tokens (pairs operand fuel tokens) := by
  induction fuel generalizing tokens with
  | zero => exact fail_stays _ _
  | succ fuel induction =>
      unfold pairs
      split
      · exact List.tail_suffix tokens
      · refine (operandStays _ _).bind fun key rest => ?_
        refine (expect_stays _ _).bind fun colon rest => ?_
        refine (operandStays _ _).bind fun value rest => ?_
        dsimp only
        split
        · exact (induction rest).bind fun others rest => Stays.ok _ _
        · refine (expect_stays _ _).bind fun comma rest => ?_
          exact (induction rest).bind fun others rest => Stays.ok _ _

theorem alternative_stays {nested : List Token → Parsed (Expr × List Token)}
    (nestedStays : ∀ tokens, Stays tokens (nested tokens)) (tokens : List Token) :
    Stays tokens (alternative operand nested tokens) := by
  unfold alternative
  split
  · refine Stays.mono ?_ ((List.tail_suffix _).trans (List.tail_suffix tokens))
    exact (nestedStays _).bind fun tree rest => Stays.ok _ _
  · refine Stays.mono ?_ (List.tail_suffix tokens)
    exact (block_stays operandStays _).bind fun trees rest => Stays.ok _ _
  · exact Stays.ok _ _

theorem conditional_stays (fuel : Nat) (tokens : List Token) :
    Stays tokens (conditional operand fuel tokens) := by
  induction fuel generalizing tokens with
  | zero => exact fail_stays _ _
  | succ fuel induction =>
      rw [conditional_succ]
      refine (expect_stays _ _).bind fun opening rest => ?_
      refine (operandStays _ _).bind fun condition rest => ?_
      refine (expect_stays _ _).bind fun closing rest => ?_
      refine (block_stays operandStays rest).bind fun consequence rest => ?_
      exact (alternative_stays operandStays induction rest).bind
        fun others rest => Stays.ok _ _

theorem start_stays (tokens : List Token) :
    Stays tokens (start operand tokens) := by
  cases tokens with
  | nil => exact fail_stays _ _
  | cons token rest =>
      have rest_suffix : rest <:+ token :: rest :=
        List.suffix_cons token rest
      rw [start]
      split
      · exact rest_suffix
      · split
        · exact rest_suffix
        · exact fail_stays _ _
      · split
        · exact rest_suffix
        · rename_i isFloat _ unreadable
          exact ⟨token, List.mem_cons_self, isFloat, rfl, unreadable⟩
      · exact rest_suffix
      · exact rest_suffix
      · exact rest_suffix
      · exact rest_suffix
      · split
        · exact fail_stays _ _
        · exact fail_stays _ _
      · refine Stays.mono ?_ rest_suffix
        exact (operandStays _ _).bind fun value rest => Stays.ok _ _
      · refine Stays.mono ?_ rest_suffix
        exact (operandStays _ _).bind fun value rest => Stays.ok _ _
      · refine Stays.mono ?_ rest_suffix
        refine (operandStays _ _).bind fun value rest => ?_
        exact (expect_stays _ _).bind fun closing rest => Stays.ok _ _
      · exact (conditional_stays operandStays _ rest).mono rest_suffix
      · refine Stays.mono ?_ rest_suffix
        refine (parameters_stays rest).bind fun names rest => ?_
        exact (block_stays operandStays rest).bind
          fun body rest => Stays.ok _ _
      · refine Stays.mono ?_ rest_suffix
        exact (items_stays operandStays _ rest).bind
          fun elements rest => Stays.ok _ _
      · refine Stays.mono ?_ rest_suffix
        exact (pairs_stays operandStays _ rest).bind
          fun entries rest => Stays.ok _ _
      · exact fail_stays _ _

theorem continuation_stays (left : Expr) (tokens : List Token) :
    Stays tokens (continuation operand left tokens) := by
  cases tokens with
  | nil => exact fail_stays _ _
  | cons token rest =>
      have rest_suffix : rest <:+ token :: rest :=
        List.suffix_cons token rest
      unfold continuation
      dsimp only
      split
      · refine Stays.mono ?_ rest_suffix
        exact (items_stays operandStays _ rest).bind
          fun arguments rest => Stays.ok _ _
      · refine Stays.mono ?_ rest_suffix
        refine (operandStays _ _).bind fun position rest => ?_
        exact (expect_stays _ _).bind fun closing rest => Stays.ok _ _
      · split
        · refine Stays.mono ?_ rest_suffix
          exact (operandStays _ _).bind fun value rest => Stays.ok _ _
        · exact fail_stays _ _
      · refine Stays.mono ?_ rest_suffix
        exact (operandStays _ _).bind fun right rest => Stays.ok _ _

end

/-- Expressions and their continuations stay within the tokens at every depth. -/
theorem expression_and_continuations_stay (depth : Nat) :
    (∀ power tokens, Stays tokens (expression depth power tokens)) ∧
      ∀ power left tokens,
        Stays tokens (continuations depth power left tokens) := by
  induction depth with
  | zero =>
      refine ⟨fun power tokens => ?_, fun power left tokens => ?_⟩
      · rw [expression]
        exact fail_stays _ _
      · rw [continuations]
        split
        · exact fail_stays _ _
        · exact Stays.ok _ _
  | succ depth induction =>
      rcases induction with ⟨expressionStays, continuationsStay⟩
      refine ⟨fun power tokens => ?_, fun power left tokens => ?_⟩
      · rw [expression]
        exact (start_stays expressionStays tokens).bind
          fun left rest => continuationsStay power left rest
      · rw [continuations]
        split
        · exact (continuation_stays expressionStays left tokens).bind
            fun whole rest => continuationsStay power whole rest
        · exact Stays.ok _ _

theorem expression_stays (depth power : Nat) (tokens : List Token) :
    Stays tokens (expression depth power tokens) :=
  (expression_and_continuations_stay depth).1 power tokens

/-! ## Programs -/

@[simp]
theorem braceBalance_nil : braceBalance [] = 0 :=
  rfl

@[simp]
theorem braceBalance_cons (token : Token) (rest : List Token) :
    braceBalance (token :: rest) = token.kind.braceStep + braceBalance rest :=
  rfl

@[simp]
theorem braceBalance_append (tokens rest : List Token) :
    braceBalance (tokens ++ rest) = braceBalance tokens + braceBalance rest := by
  induction tokens with
  | nil => rw [List.nil_append, braceBalance_nil, Int.zero_add]
  | cons token tokens induction =>
      rw [List.cons_append, braceBalance_cons, braceBalance_cons, induction, Int.add_assoc]

theorem skip_suffix (balance : Int) (tokens : List Token) :
    skip balance tokens <:+ tokens := by
  induction tokens generalizing balance with
  | nil => exact List.suffix_refl _
  | cons token rest induction =>
      rw [skip]
      split
      · exact List.suffix_cons token rest
      · exact (induction _).trans (List.suffix_cons token rest)

/-- Parsing goes on with some of the tokens that it has failed on. -/
theorem recover_suffix (tokens : List Token) (cause : Cause) (stuck : List Token) :
    recover tokens cause stuck <:+ tokens :=
  (skip_suffix _ _).trans (List.drop_suffix _ tokens)

/-- Skipping takes at least one token. -/
theorem length_skip_le (balance : Int) (tokens : List Token) :
    (skip balance tokens).length ≤ tokens.length - 1 := by
  cases tokens with
  | nil => exact Nat.le_refl _
  | cons token rest =>
      rw [skip]
      split
      · exact Nat.le_refl _
      · exact (skip_suffix _ rest).length_le

theorem length_recover_lt (token : Token) (rest : List Token) (cause : Cause)
    (stuck : List Token) :
    (recover (token :: rest) cause stuck).length < (token :: rest).length := by
  have skipped := length_skip_le
    (braceBalance ((token :: rest).take (reached (token :: rest) cause stuck)))
    ((token :: rest).drop (reached (token :: rest) cause stuck))
  rw [List.length_drop] at skipped
  unfold recover
  simp only [List.length_cons] at *
  omega

@[simp]
theorem program_nil (finish : Token) (fuel : Nat) :
    program finish fuel [] = .ok ⟨⟨[]⟩, []⟩ := by
  cases fuel <;> rfl

section

variable {finish token : Token} {fuel : Nat} {rest : List Token}

theorem program_of_semicolon
    (stray : token.kind = .semicolon) :
    program finish (fuel + 1) (token :: rest) = program finish fuel rest := by
  rw [program, if_pos stray]

theorem program_of_ok {tree : Stmt} {others : List Token}
    (noSemicolon : token.kind ≠ .semicolon)
    (parsed : statement (expression maxNesting) (token :: rest) = .ok (tree, others)) :
    program finish (fuel + 1) (token :: rest) =
      (program finish fuel others).map (Reading.addStatement tree) := by
  rw [program, if_neg noSemicolon, parsed]

theorem program_of_unreadableFloat {literal : String}
    (noSemicolon : token.kind ≠ .semicolon)
    (parsed : statement (expression maxNesting) (token :: rest) =
      .error (.unreadableFloat literal)) :
    program finish (fuel + 1) (token :: rest) = .error literal := by
  rw [program, if_neg noSemicolon, parsed]

theorem program_of_failure {cause : Cause} {stuck : List Token}
    (noSemicolon : token.kind ≠ .semicolon)
    (parsed : statement (expression maxNesting) (token :: rest) =
      .error (.failure cause stuck)) :
    program finish (fuel + 1) (token :: rest) =
      (program finish fuel (recover (token :: rest) cause stuck)).map
        (Reading.addProblem ⟨cause, stuck.headD finish⟩) := by
  rw [program, if_neg noSemicolon, parsed]

/-- A program goes past a semicolon, reads a statement, or reports one and goes on behind it. -/
theorem program_cases {reading : Reading}
    (parsed : program finish (fuel + 1) (token :: rest) = .ok reading) :
    (token.kind = .semicolon ∧ program finish fuel rest = .ok reading) ∨
      token.kind ≠ .semicolon ∧
        ((∃ tree others later,
          statement (expression maxNesting) (token :: rest) = .ok (tree, others) ∧
            program finish fuel others = .ok later ∧ reading = later.addStatement tree) ∨
        ∃ cause stuck later,
          statement (expression maxNesting) (token :: rest) = .error (.failure cause stuck) ∧
            program finish fuel (recover (token :: rest) cause stuck) = .ok later ∧
              reading = later.addProblem ⟨cause, stuck.headD finish⟩) := by
  by_cases stray : token.kind = .semicolon
  · rw [program_of_semicolon stray] at parsed
    exact .inl ⟨stray, parsed⟩
  · refine .inr ⟨stray, ?_⟩
    match first : statement (expression maxNesting) (token :: rest) with
    | .ok (tree, others) =>
        rw [program_of_ok stray first] at parsed
        rcases map_eq_ok_iff.mp parsed with ⟨later, read, rfl⟩
        exact .inl ⟨tree, others, later, rfl, read, rfl⟩
    | .error (.unreadableFloat literal) =>
        rw [program_of_unreadableFloat stray first] at parsed
        cases parsed
    | .error (.failure cause stuck) =>
        rw [program_of_failure stray first] at parsed
        rcases map_eq_ok_iff.mp parsed with ⟨later, read, rfl⟩
        exact .inr ⟨cause, stuck, later, rfl, read, rfl⟩

end

/-- All float literals among the tokens can be read. -/
def Readable (tokens : List Token) : Prop :=
  ∀ token ∈ tokens, token.kind = .float → Literal.double? token.literal ≠ none

theorem Readable.mono {tokens rest : List Token}
    (readable : Readable tokens) (suffix : rest <:+ tokens) :
    Readable rest :=
  fun token member => readable token (suffix.subset member)

/-- A program without unreadable floats always has a reading. -/
theorem program_eq_ok (finish : Token) (fuel : Nat) {tokens : List Token}
    (readable : Readable tokens) :
    ∃ reading, program finish fuel tokens = .ok reading := by
  induction fuel generalizing tokens with
  | zero => exact ⟨_, rfl⟩
  | succ fuel induction =>
      cases tokens with
      | nil => exact ⟨_, rfl⟩
      | cons token rest =>
          by_cases stray : token.kind = .semicolon
          · rw [program_of_semicolon stray]
            exact induction (readable.mono (List.suffix_cons token rest))
          · have stays := statement_stays (expression_stays maxNesting) (token :: rest)
            match parsed : statement (expression maxNesting) (token :: rest), stays with
            | .ok (first, others), stays =>
                rcases induction (readable.mono stays) with ⟨reading, read⟩
                exact ⟨_, by rw [program_of_ok stray parsed, read]; rfl⟩
            | .error (.failure cause stuck), _ =>
                rcases induction (readable.mono (recover_suffix (token :: rest) cause stuck)) with
                  ⟨reading, read⟩
                exact ⟨_, by rw [program_of_failure stray parsed, read]; rfl⟩
            | .error (.unreadableFloat literal), ⟨culprit, member, isFloat, _, unreadable⟩ =>
                exact absurd unreadable (readable culprit member isFloat)

/-- The tokens in front of the first end token. -/
def beforeEnd (tokens : List Token) : List Token :=
  tokens.takeWhile fun token => !isEnd token

/-- The first end token, or the one that stands for it. -/
def endToken (tokens : List Token) : Token :=
  (tokens.find? isEnd).getD (impliedEnd tokens)

theorem parse_eq_program (tokens : List Token) :
    parse tokens =
      program (endToken tokens) (beforeEnd tokens).length (beforeEnd tokens) :=
  rfl

/-- Tokens without an end token, with the end behind them, are all read. -/
theorem beforeEnd_append {tokens rest : List Token}
    (noEnd : ∀ token ∈ tokens, token.kind ≠ .endOfInput)
    (ending : headKind rest = .endOfInput) :
    beforeEnd (tokens ++ rest) = tokens := by
  have inner : ∀ token ∈ tokens, (!isEnd token) = true := by
    intro token member
    simpa [isEnd] using noEnd token member
  rw [beforeEnd, List.takeWhile_append_of_pos inner]
  cases rest with
  | nil => simp
  | cons token rest =>
      have isLast : token.kind = .endOfInput := ending
      simp [isEnd, isLast]

section

variable {tokens : List Token} (noEnd : ∀ token ∈ tokens, token.kind ≠ .endOfInput)

include noEnd

theorem beforeEnd_of_noEnd : beforeEnd tokens = tokens := by
  have all := beforeEnd_append noEnd headKind_nil
  rwa [List.append_nil] at all

theorem find?_isEnd_of_noEnd : tokens.find? isEnd = none := by
  simpa [isEnd] using noEnd

/-- Tokens without an end token are all read, up to the end that stands behind them. -/
theorem parse_of_noEnd : parse tokens = program (impliedEnd tokens) tokens.length tokens := by
  rw [parse_eq_program, beforeEnd_of_noEnd noEnd, endToken, find?_isEnd_of_noEnd noEnd]
  rfl

end

theorem impliedEnd_kind (tokens : List Token) :
    (impliedEnd tokens).kind = .endOfInput := by
  unfold impliedEnd
  split <;> rfl

/-- The end stands behind the last of the tokens. -/
theorem impliedEnd_append (tokens : List Token) (last : Token) (others : List Token) :
    impliedEnd (tokens ++ last :: others) = impliedEnd (last :: others) := by
  have sameLast : (tokens ++ last :: others).getLast? = (last :: others).getLast? := by
    simp [List.getLast?_append, List.getLast?_cons]
  rw [impliedEnd, impliedEnd, sameLast]

/-- An end token behind some tokens is where they end, unless one of them is an end. -/
theorem beforeEnd_append_end {finish : Token}
    (ends : isEnd finish = true) (tokens more : List Token) :
    beforeEnd (tokens ++ finish :: more) = beforeEnd tokens := by
  induction tokens with
  | nil => simp [beforeEnd, ends]
  | cons token rest induction =>
      by_cases isLast : isEnd token = true
      · simp [beforeEnd, isLast]
      · simpa [beforeEnd, isLast] using induction

theorem endToken_append_end {finish : Token}
    (ends : isEnd finish = true) (tokens more : List Token) :
    endToken (tokens ++ finish :: more) = (tokens.find? isEnd).getD finish := by
  rw [endToken, List.find?_append, List.find?_cons_of_pos ends]
  cases tokens.find? isEnd <;> rfl

/-- What stands behind an end token makes no difference. -/
theorem parse_append_end {finish : Token}
    (ending : finish.kind = .endOfInput) (tokens more : List Token) :
    parse (tokens ++ finish :: more) =
      program ((tokens.find? isEnd).getD finish) (beforeEnd tokens).length (beforeEnd tokens) := by
  have ends : isEnd finish = true := by simpa [isEnd] using ending
  rw [parse_eq_program, endToken_append_end ends, beforeEnd_append_end ends]

theorem parse_append_end_of_noEnd {tokens : List Token} {finish : Token}
    (noEnd : ∀ token ∈ tokens, token.kind ≠ .endOfInput) (ending : finish.kind = .endOfInput)
    (more : List Token) :
    parse (tokens ++ finish :: more) = program finish tokens.length tokens := by
  rw [parse_append_end ending, beforeEnd_of_noEnd noEnd, find?_isEnd_of_noEnd noEnd]
  rfl

end Jet.Parser
