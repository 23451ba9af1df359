import Jet.Proofs.Grammar.Spelling

/-!
# What is read was spelled

Whatever a parser reads, the tokens that it has consumed are a spelling of it, all of them and in
their order, and the spelling takes no more levels than the parser had left.  Each parser is treated
under the assumption that the expressions one level down are read in this way; the chains of an
expression are treated by induction on the levels that are left, where the expression so far is
always followed by a token that cannot take a part of it.

A program that is read without problems is therefore spelled by the tokens in front of the end.
-/

namespace Jet

variable {tokens rest leftTokens : List Token}
  {fuel depth leftPower links leftNesting minimum : Nat} {tree leftTree : Expr}
  {token finish : Token} {reading : Reading} {operand : Operand} {names : List String}
  {trees : List (Expr × Expr)}

namespace Parser

/-- The first of the tokens, up to the rest, spell the phrase within the depth. -/
def Consumes (phrase : Phrase) (depth : Nat) (tokens rest : List Token) : Prop :=
  ∃ consumed nesting, tokens = consumed ++ rest ∧ nesting ≤ depth ∧ Spells phrase nesting consumed

/-- What the parser reads, at whatever powers the grammar asks for, was spelled. -/
def IsSound (depth : Nat) (operand : Operand) : Prop :=
  ∀ minimum tokens tree rest, lowestPower ≤ minimum → minimum ≤ unaryPower →
    operand minimum tokens = .ok (tree, rest) →
      ∃ power links, Consumes (.expression power links tree) depth tokens rest ∧
        Admits minimum power ∧ (headKind rest).power ≤ minimum

theorem IsSound.lowest
    (sound : IsSound depth operand)
    (parsed : operand lowestPower tokens = .ok (tree, rest)) :
    ∃ power links, Consumes (.expression power links tree) depth tokens rest ∧
      (headKind rest).power ≤ lowestPower := by
  rcases sound lowestPower tokens tree rest (Nat.le_refl _) (by decide) parsed with
    ⟨power, links, consumes, _, loose⟩
  exact ⟨power, links, consumes, loose⟩

/-- A list with a first kind other than the end has a first token. -/
theorem exists_cons_of_headKind {kind : Kind}
    (known : headKind tokens = kind) (notEnd : kind ≠ .endOfInput) :
    ∃ token rest, tokens = token :: rest ∧ token.kind = kind := by
  cases tokens with
  | nil => exact absurd known.symm notEnd
  | cons token rest => exact ⟨token, rest, rfl, known⟩

theorem moreNames_sound
    (parsed : moreNames fuel tokens = .ok (names, rest)) :
    Consumes (.moreNames names) 0 tokens rest := by
  induction fuel generalizing tokens names with
  | zero =>
      cases parsed
      exact ⟨[], 0, rfl, Nat.le_refl _, .noMoreNames⟩
  | succ fuel induction =>
      rw [moreNames] at parsed
      split at parsed
      · rename_i begins
        rcases exists_cons_of_headKind begins (by decide) with ⟨comma, tokens, rfl, separates⟩
        simp only [bind_eq_ok_iff, Prod.exists, expect_eq_ok_iff, List.tail_cons, pure_eq_ok,
          Except.ok.injEq, Prod.mk.injEq] at parsed
        rcases parsed with ⟨name, _, ⟨rfl, named⟩, others, _, read, rfl, rfl⟩
        rcases induction read with ⟨consumed, nesting, rfl, fits, spelled⟩
        cases Nat.le_zero.mp fits
        exact ⟨comma :: name :: consumed, 0, rfl, fits, .someMoreNames separates named spelled⟩
      · cases parsed
        exact ⟨[], 0, rfl, Nat.le_refl _, .noMoreNames⟩

theorem parameters_sound
    (parsed : parameters tokens = .ok (names, rest)) :
    ∃ opening nameTokens closing, opening.kind = .leftParen ∧ closing.kind = .rightParen ∧
      Spells (.names names) 0 nameTokens ∧
        tokens = opening :: (nameTokens ++ closing :: rest) := by
  simp only [parameters, bind_eq_ok_iff, Prod.exists, expect_eq_ok_iff] at parsed
  rcases parsed with ⟨opening, inner, ⟨rfl, opens⟩, parsed⟩
  split at parsed
  · rename_i finished
    rcases exists_cons_of_headKind finished (by decide) with ⟨closing, others, rfl, closes⟩
    cases parsed
    exact ⟨opening, [], closing, opens, closes, .noNames, rfl⟩
  · simp only [bind_eq_ok_iff, Prod.exists, expect_eq_ok_iff, pure_eq_ok, Except.ok.injEq,
      Prod.mk.injEq] at parsed
    rcases parsed with ⟨name, _, ⟨rfl, named⟩, others, _, read, closing, _, ⟨rfl, closes⟩, rfl, rfl⟩
    rcases moreNames_sound read with ⟨consumed, nesting, rfl, fits, spelled⟩
    cases Nat.le_zero.mp fits
    exact ⟨opening, name :: consumed, closing, opens, closes, .someNames named spelled, rfl⟩

/-- Whether the parser of statements may stop a statement in front of a token. -/
def StopsBefore (tree : Stmt) (next : Kind) : Prop :=
  if tree.isBareReturn then next ∈ [Kind.semicolon, .rightBrace, .endOfInput]
  else next.power ≤ lowestPower

/-- A statement that stopped in front of other statements may precede them. -/
theorem StopsBefore.mayPrecede {tree : Stmt} {trees : Block}
    (stops : StopsBefore tree (headKind (tokens ++ rest)))
    (begins : (Phrase.statements trees).mayBegin (headKind tokens) = true) :
    tree.mayPrecede (headKind tokens) := by
  cases tokens with
  | nil => exact .inr (.inl rfl)
  | cons token tokens =>
      rw [List.cons_append, headKind_cons] at *
      unfold StopsBefore at stops
      split at stops
      · simp only [List.mem_cons, List.not_mem_nil, or_false] at stops
        rcases stops with next | next | next
        · exact .inl next
        · simp [next, Phrase.mayBegin, Kind.beginsStatement, Kind.startsExpression] at begins
        · exact .inr (.inl next)
      · rename_i notBare
        refine .inr (.inr ⟨by simpa using notBare, fun member => ?_⟩)
        simp only [List.mem_cons, List.not_mem_nil, or_false] at member
        rcases member with next | next | next <;> simp [next, Kind.power, lowestPower] at stops

/-- The pairs of a hash end at its closing brace. -/
theorem pairs_of_rightBrace {closing : Token}
    (closes : closing.kind = .rightBrace)
    (parsed : pairs operand fuel (closing :: tokens) = .ok (trees, rest)) :
    trees = [] ∧ rest = tokens := by
  cases fuel with
  | zero => cases parsed
  | succ fuel =>
      rw [pairs] at parsed
      simp only [headKind_cons, closes] at parsed
      cases parsed
      exact ⟨rfl, rfl⟩

/-- The tokens up to the rest spell an expression without links that the rest leaves as it is. -/
def Starts (depth : Nat) (tree : Expr) (tokens rest : List Token) : Prop :=
  ∃ power, Consumes (.expression power 0 tree) (depth + 1) tokens rest ∧
    unaryPower ≤ power ∧ (headKind rest).power ≤ closingPower power

theorem Starts.primary
    (consumes : Consumes (.expression primaryPower 0 tree) (depth + 1) tokens rest) :
    Starts depth tree tokens rest :=
  ⟨primaryPower, consumes, by decide,
    Nat.le_trans (Kind.power_le_postfixPower _) (by decide)⟩

theorem Starts.atom
    (reads : token.atom? = some tree) :
    Starts depth tree (token :: rest) rest :=
  .primary ⟨[token], 1, rfl, Nat.succ_le_succ (Nat.zero_le _), .atom reads⟩

section

variable {depth : Nat} {operand : Operand} (sound : IsSound depth operand)

include sound

theorem statement_sound {tree : Stmt}
    (parsed : statement operand tokens = .ok (tree, rest)) :
    Consumes (.statement tree) depth tokens rest ∧ StopsBefore tree (headKind rest) := by
  unfold statement at parsed
  split at parsed
  · rename_i begins
    rcases exists_cons_of_headKind begins (by decide) with ⟨word, tokens, rfl, begins⟩
    simp only [bind_eq_ok_iff, Prod.exists, expect_eq_ok_iff, List.tail_cons, pure_eq_ok,
      Except.ok.injEq, Prod.mk.injEq] at parsed
    rcases parsed with ⟨name, _, ⟨rfl, named⟩, sign, _, ⟨rfl, equals⟩, value, _, read, rfl, rfl⟩
    rcases sound.lowest read with ⟨power, links, ⟨consumed, nesting, rfl, fits, spelled⟩, loose⟩
    exact ⟨⟨word :: name :: sign :: consumed, nesting, rfl, fits,
      .bind begins named equals spelled⟩, loose⟩
  · rename_i begins
    rcases exists_cons_of_headKind begins (by decide) with ⟨word, tokens, rfl, begins⟩
    rw [List.tail_cons] at parsed
    split at parsed
    case h_4 =>
      simp only [bind_eq_ok_iff, Prod.exists, pure_eq_ok, Except.ok.injEq,
        Prod.mk.injEq] at parsed
      rcases parsed with ⟨value, _, read, rfl, rfl⟩
      rcases sound.lowest read with ⟨power, links, ⟨consumed, nesting, rfl, fits, spelled⟩, loose⟩
      exact ⟨⟨word :: consumed, nesting, rfl, fits, .returnValue begins spelled⟩, loose⟩
    all_goals
      rename_i next
      cases parsed
      refine ⟨⟨[word], 0, rfl, Nat.zero_le _, .returnNothing begins⟩, ?_⟩
      simp [StopsBefore, Stmt.isBareReturn, next]
  · simp only [bind_eq_ok_iff, Prod.exists, pure_eq_ok, Except.ok.injEq,
      Prod.mk.injEq] at parsed
    rcases parsed with ⟨value, _, read, rfl, rfl⟩
    rcases sound.lowest read with ⟨power, links, ⟨consumed, nesting, rfl, fits, spelled⟩, loose⟩
    exact ⟨⟨consumed, nesting, rfl, fits, .expression spelled⟩, loose⟩

theorem statements_sound {trees : List Stmt}
    (parsed : statements operand fuel tokens = .ok (trees, rest)) :
    ∃ consumed closing nesting, tokens = consumed ++ closing :: rest ∧
      closing.kind = .rightBrace ∧ nesting ≤ depth ∧
        Spells (.statements trees) nesting consumed := by
  induction fuel generalizing tokens trees with
  | zero => cases parsed
  | succ fuel induction =>
      rw [statements] at parsed
      split at parsed
      · rename_i finished
        rcases exists_cons_of_headKind finished (by decide) with ⟨closing, others, rfl, closes⟩
        cases parsed
        exact ⟨[], closing, 0, rfl, closes, Nat.zero_le _, .noStatements⟩
      · cases parsed
      · rename_i stray
        rcases exists_cons_of_headKind stray (by decide) with ⟨token, tokens, rfl, stray⟩
        rcases induction parsed with ⟨consumed, closing, nesting, equal, closes, fits, spelled⟩
        rw [List.tail_cons] at equal
        exact ⟨token :: consumed, closing, nesting, by rw [equal]; rfl, closes, fits,
          .semicolon stray spelled⟩
      · simp only [bind_eq_ok_iff, Prod.exists, pure_eq_ok, Except.ok.injEq,
          Prod.mk.injEq] at parsed
        rcases parsed with ⟨tree, _, first, others, _, read, rfl, rfl⟩
        rcases statement_sound sound first with
          ⟨⟨firstTokens, firstNesting, rfl, firstFits, firstSpelled⟩, stops⟩
        rcases induction read with ⟨consumed, closing, nesting, rfl, closes, fits, spelled⟩
        have apart := stops.mayPrecede spelled.mayBegin_headKind
        exact ⟨firstTokens ++ consumed, closing, max firstNesting nesting, by simp, closes,
          Nat.max_le.mpr ⟨firstFits, fits⟩, .someStatements firstSpelled apart spelled⟩

theorem block_sound {trees : Block}
    (parsed : block operand tokens = .ok (trees, rest)) :
    Consumes (.block trees) depth tokens rest := by
  simp only [block, bind_eq_ok_iff, Prod.exists, expect_eq_ok_iff] at parsed
  rcases parsed with ⟨opening, _, ⟨rfl, opens⟩, read⟩
  rcases statements_sound sound read with ⟨consumed, closing, nesting, rfl, closes, fits, spelled⟩
  exact ⟨opening :: (consumed ++ [closing]), nesting, by simp, fits, .block opens spelled closes⟩

theorem moreItems_sound {trees : List Expr}
    (parsed : moreItems operand fuel tokens = .ok (trees, rest)) :
    Consumes (.moreItems trees) depth tokens rest := by
  induction fuel generalizing tokens trees with
  | zero =>
      cases parsed
      exact ⟨[], 0, rfl, Nat.zero_le _, .noMoreItems⟩
  | succ fuel induction =>
      rw [moreItems] at parsed
      split at parsed
      · rename_i begins
        rcases exists_cons_of_headKind begins (by decide) with ⟨comma, tokens, rfl, separates⟩
        simp only [bind_eq_ok_iff, Prod.exists, List.tail_cons, pure_eq_ok, Except.ok.injEq,
          Prod.mk.injEq] at parsed
        rcases parsed with ⟨item, _, first, others, _, read, rfl, rfl⟩
        rcases sound.lowest first with
          ⟨power, links, ⟨firstTokens, firstNesting, rfl, firstFits, firstSpelled⟩, _⟩
        rcases induction read with ⟨consumed, nesting, rfl, fits, spelled⟩
        exact ⟨comma :: (firstTokens ++ consumed), max firstNesting nesting, by simp,
          Nat.max_le.mpr ⟨firstFits, fits⟩, .someMoreItems separates firstSpelled spelled⟩
      · cases parsed
        exact ⟨[], 0, rfl, Nat.zero_le _, .noMoreItems⟩

theorem items_sound {trees : List Expr} {closingKind : Kind}
    (notEnd : closingKind ≠ .endOfInput)
    (parsed : items operand closingKind tokens = .ok (trees, rest)) :
    ∃ consumed closing nesting, tokens = consumed ++ closing :: rest ∧
      closing.kind = closingKind ∧ nesting ≤ depth ∧ Spells (.items trees) nesting consumed := by
  unfold items at parsed
  split at parsed
  · rename_i finished
    rcases exists_cons_of_headKind finished notEnd with ⟨closing, others, rfl, closes⟩
    cases parsed
    exact ⟨[], closing, 0, rfl, closes, Nat.zero_le _, .noItems⟩
  · simp only [bind_eq_ok_iff, Prod.exists, expect_eq_ok_iff, pure_eq_ok, Except.ok.injEq,
      Prod.mk.injEq] at parsed
    rcases parsed with ⟨item, _, first, others, _, read, closing, _, ⟨rfl, closes⟩, rfl, rfl⟩
    rcases sound.lowest first with
      ⟨power, links, ⟨firstTokens, firstNesting, rfl, firstFits, firstSpelled⟩, _⟩
    rcases moreItems_sound sound read with ⟨consumed, nesting, rfl, fits, spelled⟩
    exact ⟨firstTokens ++ consumed, closing, max firstNesting nesting, by simp, closes,
      Nat.max_le.mpr ⟨firstFits, fits⟩, .someItems firstSpelled spelled⟩

theorem pairs_sound
    (parsed : pairs operand fuel tokens = .ok (trees, rest)) :
    ∃ consumed closing nesting, tokens = consumed ++ closing :: rest ∧
      closing.kind = .rightBrace ∧ nesting ≤ depth ∧ Spells (.pairs trees) nesting consumed := by
  induction fuel generalizing tokens trees with
  | zero => cases parsed
  | succ fuel induction =>
      rw [pairs] at parsed
      split at parsed
      · rename_i finished
        rcases exists_cons_of_headKind finished (by decide) with ⟨closing, others, rfl, closes⟩
        cases parsed
        exact ⟨[], closing, 0, rfl, closes, Nat.zero_le _, .noPairs⟩
      · simp only [bind_eq_ok_iff, Prod.exists, expect_eq_ok_iff] at parsed
        rcases parsed with
          ⟨key, _, readKey, colon, _, ⟨rfl, separates⟩, value, _, readValue, parsed⟩
        rcases sound.lowest readKey with
          ⟨_, _, ⟨keyTokens, keyNesting, rfl, keyFits, keySpelled⟩, _⟩
        rcases sound.lowest readValue with
          ⟨_, _, ⟨valueTokens, valueNesting, rfl, valueFits, valueSpelled⟩, _⟩
        split at parsed
        · rename_i finished
          simp only [bind_eq_ok_iff, Prod.exists, pure_eq_ok, ok_bind, Except.ok.injEq,
            Prod.mk.injEq] at parsed
          rcases parsed with ⟨others, _, read, rfl, rfl⟩
          rcases exists_cons_of_headKind finished (by decide) with ⟨closing, rest, rfl, closes⟩
          rcases pairs_of_rightBrace closes read with ⟨rfl, rfl⟩
          exact ⟨keyTokens ++ colon :: valueTokens, closing, max keyNesting valueNesting, by simp,
            closes, Nat.max_le.mpr ⟨keyFits, valueFits⟩,
            .lastPair keySpelled separates valueSpelled⟩
        · simp only [bind_eq_ok_iff, Prod.exists, expect_eq_ok_iff, pure_eq_ok, ok_bind,
            Except.ok.injEq, Prod.mk.injEq] at parsed
          rcases parsed with ⟨comma, _, ⟨rfl, goesOn⟩, others, _, read, rfl, rfl⟩
          rcases induction read with ⟨consumed, closing, nesting, rfl, closes, fits, spelled⟩
          exact ⟨keyTokens ++ colon :: (valueTokens ++ comma :: consumed), closing,
            max keyNesting (max valueNesting nesting), by simp, closes,
            Nat.max_le.mpr ⟨keyFits, Nat.max_le.mpr ⟨valueFits, fits⟩⟩,
            .somePairs keySpelled separates valueSpelled goesOn spelled⟩

theorem alternative_sound {trees : Option Block} {nested : List Token → Parsed (Expr × List Token)}
    (nestedSound : ∀ tokens tree rest, nested tokens = .ok (tree, rest) →
      Consumes (.conditional tree) depth tokens rest)
    (parsed : alternative operand nested tokens = .ok (trees, rest)) :
    Consumes (.alternative trees) depth tokens rest := by
  unfold alternative at parsed
  split at parsed
  · rename_i begins goesOn
    rcases exists_cons_of_headKind begins (by decide) with ⟨word, tokens, rfl, begins⟩
    rcases exists_cons_of_headKind goesOn (by decide) with ⟨nextWord, tokens, rfl, goesOn⟩
    simp only [bind_eq_ok_iff, Prod.exists, List.tail_cons, pure_eq_ok, Except.ok.injEq,
      Prod.mk.injEq] at parsed
    rcases parsed with ⟨tree, _, read, rfl, rfl⟩
    rcases nestedSound _ _ _ read with ⟨consumed, nesting, rfl, fits, spelled⟩
    exact ⟨word :: nextWord :: consumed, nesting, rfl, fits, .elseIf begins goesOn spelled⟩
  · rename_i begins _
    rcases exists_cons_of_headKind begins (by decide) with ⟨word, tokens, rfl, begins⟩
    simp only [bind_eq_ok_iff, Prod.exists, List.tail_cons, pure_eq_ok, Except.ok.injEq,
      Prod.mk.injEq] at parsed
    rcases parsed with ⟨block, _, read, rfl, rfl⟩
    rcases block_sound sound read with ⟨consumed, nesting, rfl, fits, spelled⟩
    exact ⟨word :: consumed, nesting, rfl, fits, .elseBlock begins spelled⟩
  · cases parsed
    exact ⟨[], 0, rfl, Nat.zero_le _, .noAlternative⟩

theorem conditional_sound
    (parsed : conditional operand fuel tokens = .ok (tree, rest)) :
    Consumes (.conditional tree) depth tokens rest := by
  induction fuel generalizing tokens tree rest with
  | zero => cases parsed
  | succ fuel induction =>
      rw [conditional_succ] at parsed
      simp only [bind_eq_ok_iff, Prod.exists, expect_eq_ok_iff, pure_eq_ok, Except.ok.injEq,
        Prod.mk.injEq] at parsed
      rcases parsed with
        ⟨opening, _, ⟨rfl, opens⟩, condition, _, read, closing, _, ⟨rfl, closes⟩, consequence, _,
          readBlock, others, _, readOther, rfl, rfl⟩
      rcases sound.lowest read with ⟨_, _, ⟨consumed, nesting, rfl, fits, spelled⟩, _⟩
      rcases block_sound sound readBlock with
        ⟨blockTokens, blockNesting, rfl, blockFits, blockSpelled⟩
      rcases alternative_sound sound (fun _ _ _ => induction) readOther with
        ⟨otherTokens, otherNesting, rfl, otherFits, otherSpelled⟩
      exact ⟨opening :: (consumed ++ closing :: (blockTokens ++ otherTokens)),
        max nesting (max blockNesting otherNesting), by simp,
        Nat.max_le.mpr ⟨fits, Nat.max_le.mpr ⟨blockFits, otherFits⟩⟩,
        .conditional opens spelled closes blockSpelled otherSpelled⟩

theorem unary_sound
    (operator : token.kind.isUnary = true)
    (parsed : operand unaryPower tokens = .ok (tree, rest)) :
    Starts depth (.unary token.literal tree) (token :: tokens) rest := by
  rcases sound unaryPower tokens tree rest (by decide) (Nat.le_refl _) parsed with
    ⟨power, links, ⟨consumed, nesting, rfl, fits, spelled⟩, admits, loose⟩
  have tight : unaryPower ≤ power := admits.2.elim Nat.le_of_lt id
  exact ⟨unaryPower, ⟨token :: consumed, nesting + 1, rfl, Nat.succ_le_succ fits,
    .unary operator spelled tight⟩, Nat.le_refl _, loose⟩

/-- What starts an expression was spelled, and its chain has no links yet. -/
theorem start_sound
    (parsed : start operand (token :: tokens) = .ok (tree, rest)) :
    Starts depth tree (token :: tokens) rest := by
  rw [start] at parsed
  split at parsed
  · cases parsed
    exact .atom (by simp [Token.atom?, *])
  · split at parsed
    · cases parsed
      exact .atom (by simp [Token.atom?, *])
    · cases parsed
  · split at parsed
    · cases parsed
      exact .atom (by simp [Token.atom?, *])
    · cases parsed
  · cases parsed
    exact .atom (by simp [Token.atom?, *])
  · cases parsed
    exact .atom (by simp [Token.atom?, *])
  · cases parsed
    exact .atom (by simp [Token.atom?, *])
  · cases parsed
    exact .atom (by simp [Token.atom?, *])
  · split at parsed <;> cases parsed
  · simp only [bind_eq_ok_iff, Prod.exists, pure_eq_ok, Except.ok.injEq, Prod.mk.injEq] at parsed
    rcases parsed with ⟨value, _, read, rfl, rfl⟩
    exact unary_sound sound (by simp [Kind.isUnary, *]) read
  · simp only [bind_eq_ok_iff, Prod.exists, pure_eq_ok, Except.ok.injEq, Prod.mk.injEq] at parsed
    rcases parsed with ⟨value, _, read, rfl, rfl⟩
    exact unary_sound sound (by simp [Kind.isUnary, *]) read
  · rename_i opens
    simp only [bind_eq_ok_iff, Prod.exists, expect_eq_ok_iff, pure_eq_ok, Except.ok.injEq,
      Prod.mk.injEq] at parsed
    rcases parsed with ⟨value, _, read, closing, _, ⟨rfl, closes⟩, rfl, rfl⟩
    rcases sound.lowest read with ⟨_, _, ⟨consumed, nesting, rfl, fits, spelled⟩, _⟩
    exact .primary ⟨token :: (consumed ++ [closing]), nesting + 1, by simp, Nat.succ_le_succ fits,
      .group opens spelled closes⟩
  · rename_i begins
    rcases conditional_sound sound parsed with ⟨consumed, nesting, rfl, fits, spelled⟩
    exact .primary ⟨token :: consumed, nesting + 1, rfl, Nat.succ_le_succ fits,
      .choice begins spelled⟩
  · rename_i begins
    simp only [bind_eq_ok_iff, Prod.exists, pure_eq_ok, Except.ok.injEq, Prod.mk.injEq] at parsed
    rcases parsed with ⟨names, _, readNames, body, _, read, rfl, rfl⟩
    rcases parameters_sound readNames with
      ⟨opening, nameTokens, closing, opens, closes, namesSpelled, rfl⟩
    rcases block_sound sound read with ⟨consumed, nesting, rfl, fits, spelled⟩
    exact .primary ⟨token :: opening :: (nameTokens ++ closing :: consumed), nesting + 1, by simp,
      Nat.succ_le_succ fits, .function begins opens namesSpelled closes spelled⟩
  · rename_i opens
    simp only [bind_eq_ok_iff, Prod.exists, pure_eq_ok, Except.ok.injEq, Prod.mk.injEq] at parsed
    rcases parsed with ⟨elements, _, read, rfl, rfl⟩
    rcases items_sound sound (by decide) read with
      ⟨consumed, closing, nesting, rfl, closes, fits, spelled⟩
    exact .primary ⟨token :: (consumed ++ [closing]), nesting + 1, by simp, Nat.succ_le_succ fits,
      .array opens spelled closes⟩
  · rename_i opens
    simp only [bind_eq_ok_iff, Prod.exists, pure_eq_ok, Except.ok.injEq, Prod.mk.injEq] at parsed
    rcases parsed with ⟨entries, _, read, rfl, rfl⟩
    rcases pairs_sound sound read with ⟨consumed, closing, nesting, rfl, closes, fits, spelled⟩
    exact .primary ⟨token :: (consumed ++ [closing]), nesting + 1, by simp, Nat.succ_le_succ fits,
      .hash opens spelled closes⟩
  · cases parsed

/-- One more continuation of an expression makes a chain with one link more. -/
theorem continuation_sound
    (left : Spells (.expression leftPower links leftTree) leftNesting leftTokens)
    (leftFits : leftNesting ≤ depth + 2 + links)
    (follows : token.kind.power ≤ closingPower leftPower)
    (above : lowestPower ≤ minimum) (low : minimum ≤ unaryPower)
    (tight : minimum < token.kind.power)
    (parsed : continuation operand leftTree (token :: tokens) = .ok (tree, rest)) :
    ∃ consumed power nesting, tokens = consumed ++ rest ∧ nesting ≤ depth + 2 + links ∧
      Spells (.expression power (links + 1) tree) nesting (leftTokens ++ token :: consumed) ∧
        Admits minimum power ∧ (headKind rest).power ≤ closingPower power := by
  have leftTight : token.kind.power ≤ leftPower :=
    Nat.le_trans follows (closingPower_le left.lowestPower_lt)
  have postfixLeft (isPostfix : unaryPower < token.kind.power) : postfixPower ≤ leftPower :=
    left.power_le_unaryPower_or.resolve_left (by omega)
  have admitsPostfix : Admits minimum postfixPower := ⟨low, .inr (by decide)⟩
  have restFollows : (headKind rest).power ≤ closingPower postfixPower :=
    Kind.power_le_postfixPower _
  unfold continuation at parsed
  dsimp only at parsed
  split at parsed
  · rename_i opens
    simp only [bind_eq_ok_iff, Prod.exists, pure_eq_ok, Except.ok.injEq, Prod.mk.injEq] at parsed
    rcases parsed with ⟨arguments, _, read, rfl, rfl⟩
    rcases items_sound sound (by decide) read with
      ⟨consumed, closing, nesting, rfl, closes, fits, spelled⟩
    refine ⟨consumed ++ [closing], postfixPower, max leftNesting (links + 2 + nesting), by simp,
      by omega, ?_, admitsPostfix, restFollows⟩
    exact left.call (postfixLeft (by rw [opens]; decide)) opens spelled closes
  · rename_i opens
    simp only [bind_eq_ok_iff, Prod.exists, expect_eq_ok_iff, pure_eq_ok, Except.ok.injEq,
      Prod.mk.injEq] at parsed
    rcases parsed with ⟨position, _, read, closing, _, ⟨rfl, closes⟩, rfl, rfl⟩
    rcases sound.lowest read with ⟨_, _, ⟨consumed, nesting, rfl, fits, spelled⟩, _⟩
    refine ⟨consumed ++ [closing], postfixPower, max leftNesting (links + 2 + nesting), by simp,
      by omega, ?_, admitsPostfix, restFollows⟩
    exact left.index (postfixLeft (by rw [opens]; decide)) opens spelled closes
  · rename_i equals
    split at parsed
    · simp only [bind_eq_ok_iff, Prod.exists, pure_eq_ok, Except.ok.injEq, Prod.mk.injEq] at parsed
      rcases parsed with ⟨value, _, read, rfl, rfl⟩
      rw [equals] at tight read
      rcases sound _ _ _ _ (by decide) (by decide) read with
        ⟨power, valueLinks, ⟨consumed, nesting, rfl, fits, spelled⟩, _, loose⟩
      rcases left.of_name with ⟨rfl, target⟩
      exact ⟨consumed, Kind.assign.power, max leftNesting (2 + nesting), rfl, by omega,
        .assign target equals spelled, ⟨low, .inl tight⟩, loose⟩
    · cases parsed
  · rename_i noCall noIndex noAssign
    simp only [bind_eq_ok_iff, Prod.exists, pure_eq_ok, Except.ok.injEq, Prod.mk.injEq] at parsed
    rcases parsed with ⟨right, _, read, rfl, rfl⟩
    have operator : token.kind.isBinary = true :=
      Kind.isBinary_of_power (Nat.lt_of_le_of_lt above tight)
        (by simpa using ⟨noCall, noIndex, noAssign⟩)
    rcases Kind.isBinary_iff.mp operator with ⟨higher, lower⟩
    rw [Kind.rightPower_of_isBinary operator] at read
    rcases sound _ _ _ _ (Nat.le_trans above (Nat.le_of_lt tight)) (Nat.le_of_lt lower) read with
      ⟨power, rightLinks, ⟨consumed, nesting, rfl, fits, spelled⟩, admits, loose⟩
    have rightTight : token.kind.power < power := admits.2.elim id (Nat.lt_of_lt_of_le lower)
    refine ⟨consumed, token.kind.power, max leftNesting (links + 2 + nesting), rfl, by omega,
      .binary left operator leftTight spelled rightTight, ⟨low, .inl tight⟩, ?_⟩
    rw [closingPower_of_lt higher]
    exact loose

end

/-! ## Expressions of any depth -/

/--
The continuations of an expression make one chain with it.  The levels are counted from the start of
the chain, so that each link leaves one less for the others.
-/
theorem continuations_sound
    (soundBelow : ∀ lower < depth, IsSound lower (expression lower))
    (left : Spells (.expression leftPower links leftTree) leftNesting leftTokens)
    (leftFits : leftNesting ≤ depth + 1 + links)
    (follows : (headKind tokens).power ≤ closingPower leftPower)
    (above : lowestPower ≤ minimum)
    (admits : Admits minimum leftPower)
    (parsed : continuations depth minimum leftTree tokens = .ok (tree, rest)) :
    ∃ consumed power chain nesting, tokens = consumed ++ rest ∧ nesting ≤ depth + 1 + links ∧
      Spells (.expression power chain tree) nesting (leftTokens ++ consumed) ∧
        Admits minimum power ∧ (headKind rest).power ≤ minimum := by
  induction depth generalizing leftPower links leftTree leftNesting leftTokens tokens with
  | zero =>
      rw [continuations] at parsed
      split at parsed
      · cases parsed
      · rename_i loose
        cases parsed
        exact ⟨[], leftPower, links, leftNesting, rfl, leftFits, by simpa using left, admits,
          Nat.le_of_not_lt loose⟩
  | succ depth induction =>
      rw [continuations] at parsed
      split at parsed
      · rename_i tight
        simp only [bind_eq_ok_iff, Prod.exists] at parsed
        rcases parsed with ⟨whole, others, first, parsed⟩
        cases tokens with
        | nil => cases first
        | cons token tokens =>
            obtain ⟨consumed, power, nesting, rfl, fits, spelled, admits, follows⟩ :=
              continuation_sound (soundBelow depth (Nat.lt_succ_self _)) left (by omega) follows
                above admits.1 tight first
            rcases induction (fun lower below => soundBelow lower (Nat.lt_succ_of_lt below)) spelled
                (by omega) follows admits parsed with
              ⟨others, power, chain, nesting, rfl, fits, spelled, admits, loose⟩
            exact ⟨token :: (consumed ++ others), power, chain, nesting, by simp, by omega,
              by simpa using spelled, admits, loose⟩
      · rename_i loose
        cases parsed
        exact ⟨[], leftPower, links, leftNesting, rfl, leftFits, by simpa using left, admits,
          Nat.le_of_not_lt loose⟩

/-- Whatever is read as an expression was spelled, at every depth and for every power. -/
theorem expression_sound (depth : Nat) :
    IsSound depth (expression depth) := by
  induction depth using Nat.strongRecOn with
  | ind depth soundBelow =>
      intro minimum tokens tree rest above low parsed
      cases depth with
      | zero => cases parsed
      | succ depth =>
          rw [expression] at parsed
          simp only [bind_eq_ok_iff, Prod.exists] at parsed
          rcases parsed with ⟨left, others, first, parsed⟩
          cases tokens with
          | nil => cases first
          | cons token tokens =>
              rcases start_sound (soundBelow depth (Nat.lt_succ_self _)) first with
                ⟨power, ⟨consumed, nesting, equal, fits, spelled⟩, tight, follows⟩
              obtain ⟨more, power, chain, nesting, rfl, fits, spelled, admits, loose⟩ :=
                continuations_sound (fun lower below => soundBelow lower (Nat.lt_succ_of_lt below))
                  spelled fits follows above ⟨low, .inr tight⟩ parsed
              exact ⟨power, chain, ⟨consumed ++ more, nesting, by simpa using equal, fits, spelled⟩,
                admits, loose⟩

/-! ## Programs -/

/-- A statement takes at least one token. -/
theorem length_lt_of_statement {tree : Stmt}
    (parsed : statement (expression depth) tokens = .ok (tree, rest)) :
    rest.length < tokens.length := by
  rcases statement_sound (expression_sound depth) parsed with
    ⟨⟨consumed, nesting, rfl, _, spelled⟩, _⟩
  have nonempty := Spells.ne_nil_of_beginsStatement spelled.mayBegin_headKind
  rw [List.length_append]
  exact Nat.lt_add_of_pos_left (List.length_pos_iff.mpr nonempty)

/-- Every statement of a reading was spelled by some of the tokens, whatever problems there are. -/
theorem program_statement_sound {tree : Stmt}
    (parsed : program finish fuel tokens = .ok reading)
    (member : tree ∈ reading.program.statements) :
    ∃ consumed nesting, consumed ⊆ tokens ∧ nesting ≤ maxNesting ∧
      Spells (.statement tree) nesting consumed := by
  induction fuel generalizing tokens reading with
  | zero =>
      cases parsed
      cases member
  | succ fuel induction =>
      cases tokens with
      | nil =>
          cases parsed
          cases member
      | cons token rest =>
          -- What is read from a suffix was spelled by tokens that are among all of them.
          have later {others : List Token} {reading : Reading} (suffix : others <:+ token :: rest)
              (read : program finish fuel others = .ok reading)
              (member : tree ∈ reading.program.statements) :
              ∃ consumed nesting, consumed ⊆ token :: rest ∧ nesting ≤ maxNesting ∧
                Spells (.statement tree) nesting consumed := by
            rcases induction read member with ⟨consumed, nesting, among, spelled⟩
            exact ⟨consumed, nesting, List.Subset.trans among suffix.subset, spelled⟩
          have stays := statement_stays (expression_stays maxNesting) (token :: rest)
          rcases program_cases parsed with ⟨_, read⟩ |
            ⟨_, ⟨first, others, last, readFirst, read, rfl⟩ | ⟨_, _, last, failed, read, rfl⟩⟩
          · exact later (List.suffix_cons token rest) read member
          · rw [readFirst] at stays
            rcases List.mem_cons.mp member with rfl | member
            · rcases statement_sound (expression_sound maxNesting) readFirst with
                ⟨⟨consumed, nesting, equal, fits, spelled⟩, _⟩
              exact ⟨consumed, nesting, equal ▸ List.subset_append_left _ _, fits, spelled⟩
            · exact later stays read member
          · exact later (recover_suffix _ _ _) read member

/-- Fuel for every token is enough. -/
theorem program_fuel {otherFuel : Nat} (finish : Token)
    (bound : tokens.length ≤ fuel) (otherBound : tokens.length ≤ otherFuel) :
    program finish fuel tokens = program finish otherFuel tokens := by
  induction fuel generalizing tokens otherFuel with
  | zero =>
      cases List.length_eq_zero_iff.mp (Nat.le_zero.mp bound)
      rw [program_nil, program_nil]
  | succ fuel induction =>
      cases tokens with
      | nil => rw [program_nil, program_nil]
      | cons token rest =>
          have otherNotZero := Nat.ne_zero_of_lt otherBound
          rcases Nat.exists_eq_add_one_of_ne_zero otherNotZero with ⟨otherFuel, rfl⟩
          by_cases stray : token.kind = .semicolon
          · rw [program_of_semicolon stray, program_of_semicolon stray]
            exact induction (Nat.le_of_succ_le_succ bound) (Nat.le_of_succ_le_succ otherBound)
          · match parsed : statement (expression maxNesting) (token :: rest) with
            | .ok (tree, others) =>
                have shorter := length_lt_of_statement parsed
                rw [program_of_ok stray parsed, program_of_ok stray parsed]
                exact congrArg _ (induction (by omega) (by omega))
            | .error (.unreadableFloat literal) =>
                rw [program_of_unreadableFloat stray parsed,
                  program_of_unreadableFloat stray parsed]
            | .error (.failure cause stuck) =>
                have shorter := length_recover_lt token rest cause stuck
                rw [program_of_failure stray parsed, program_of_failure stray parsed]
                exact congrArg _ (induction (by omega) (by omega))

/-- A reading without problems was spelled by all of the tokens. -/
theorem program_sound
    (bound : tokens.length ≤ fuel)
    (parsed : program finish fuel tokens = .ok reading)
    (clean : reading.problems = []) :
    ∃ nesting, nesting ≤ maxNesting ∧
      Spells (.statements reading.program.statements) nesting tokens := by
  induction fuel generalizing tokens reading with
  | zero =>
      cases List.length_eq_zero_iff.mp (Nat.le_zero.mp bound)
      cases parsed
      exact ⟨0, Nat.zero_le _, .noStatements⟩
  | succ fuel induction =>
      cases tokens with
      | nil =>
          cases parsed
          exact ⟨0, Nat.zero_le _, .noStatements⟩
      | cons token rest =>
          rcases program_cases parsed with ⟨stray, read⟩ |
            ⟨_, ⟨first, others, later, readFirst, read, rfl⟩ | ⟨_, _, later, _, _, rfl⟩⟩
          · rcases induction (Nat.le_of_succ_le_succ bound) read clean with ⟨nesting, fits, spelled⟩
            exact ⟨nesting, fits, .semicolon stray spelled⟩
          · rcases statement_sound (expression_sound maxNesting) readFirst with
              ⟨⟨consumed, firstNesting, equal, firstFits, firstSpelled⟩, stops⟩
            have shorter : others.length ≤ fuel :=
              Nat.le_of_lt_succ (Nat.lt_of_lt_of_le (length_lt_of_statement readFirst) bound)
            rcases induction shorter read clean with ⟨nesting, fits, spelled⟩
            rw [← List.append_nil others] at stops
            have apart := stops.mayPrecede spelled.mayBegin_headKind
            rw [equal]
            exact ⟨max firstNesting nesting, Nat.max_le.mpr ⟨firstFits, fits⟩,
              .someStatements firstSpelled apart spelled⟩
          · cases clean

end Parser

open Jet.Parser

/--
Tokens that are read without an error spell the program that is returned, up to the end and within
the limit of nesting, and all their groups match.  A reading of tokens of which one is illegal
always has an error.
-/
theorem spells_of_parse
    (parsed : parse tokens = .ok reading) :
    (reading.errors = [] →
      (∃ nesting, nesting ≤ maxNesting ∧
        Spells (.statements reading.program.statements) nesting (beforeEnd tokens)) ∧
          Matched (beforeEnd tokens)) ∧
      ((∃ token ∈ beforeEnd tokens, token.kind = .illegal) → reading.errors ≠ []) := by
  rw [parse_eq_program] at parsed
  have spelled (clean : reading.errors = []) :=
    program_sound (Nat.le_refl _) parsed (List.map_eq_nil_iff.mp clean)
  refine ⟨fun clean => ?_, ?_⟩
  · rcases spelled clean with ⟨nesting, fits, spelled⟩
    exact ⟨⟨nesting, fits, spelled⟩, spelled.tidy.matched⟩
  · rintro ⟨token, member, illegal⟩ clean
    rcases spelled clean with ⟨nesting, _, spelled⟩
    exact (spelled.tidy.usable token member).1 illegal

/--
A hash may end in a comma and semicolons may be stray, but nothing else is passed over; behind the
end nothing is read at all, while an illegal token in front of it is reported.
-/
theorem spells_of_parse_trailing_comma :
    (∃ nesting, nesting ≤ maxNesting ∧
      Spells (.statements [.expression (.assign "a" (.hash [(.name "b", .name "c")]))]) nesting
        [⟨.semicolon, ";", 1, 1⟩, ⟨.identifier, "a", 1, 2⟩, ⟨.assign, "=", 1, 3⟩,
          ⟨.leftBrace, "\x7b", 1, 4⟩, ⟨.identifier, "b", 1, 5⟩, ⟨.colon, ":", 1, 6⟩,
          ⟨.identifier, "c", 1, 7⟩, ⟨.comma, ",", 1, 8⟩, ⟨.rightBrace, "\x7d", 1, 9⟩]) ∧
      (Reading.mk ⟨[.expression (.name "a")]⟩
        [⟨.illegalCharacter, ⟨.illegal, "?", 1, 2⟩⟩]).errors ≠ [] := by
  have read : parse [⟨.semicolon, ";", 1, 1⟩, ⟨.identifier, "a", 1, 2⟩, ⟨.assign, "=", 1, 3⟩,
      ⟨.leftBrace, "\x7b", 1, 4⟩, ⟨.identifier, "b", 1, 5⟩, ⟨.colon, ":", 1, 6⟩,
      ⟨.identifier, "c", 1, 7⟩, ⟨.comma, ",", 1, 8⟩, ⟨.rightBrace, "\x7d", 1, 9⟩,
      ⟨.endOfInput, "", 1, 10⟩, ⟨.illegal, "?", 1, 11⟩] =
    .ok ⟨⟨[.expression (.assign "a" (.hash [(.name "b", .name "c")]))]⟩, []⟩ := rfl
  have readIllegal : parse [⟨.identifier, "a", 1, 1⟩, ⟨.illegal, "?", 1, 2⟩] =
    .ok ⟨⟨[.expression (.name "a")]⟩, [⟨.illegalCharacter, ⟨.illegal, "?", 1, 2⟩⟩]⟩ := rfl
  refine ⟨((spells_of_parse read).1 rfl).1, (spells_of_parse readIllegal).2 ?_⟩
  exact ⟨⟨.illegal, "?", 1, 2⟩, by decide, rfl⟩

end Jet
