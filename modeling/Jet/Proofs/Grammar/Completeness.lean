import Jet.Proofs.Grammar.Spelling

/-!
# Spellings are read back

Whatever is spelled by some tokens is what the parsers read there, as long as the nesting of the
spelling does not exceed the depth that is left; otherwise they stop with a complaint about the
nesting.  `Settles` says this of one result.  Since an operator binds its left operand only after
this operand has been read, an expression is not compared with its whole result but with the
continuations that are tried behind it: the tokens of a spelled expression take the parser from its
start to the place where the chain of the expression ends.

The lemmas `Reads.binary`, `Reads.call` and so on treat one rule of the grammar each.  They meet in
`Spells.reads`, by induction on the spelling.
-/

namespace Jet

variable {α β : Type} {tokens rest leftTokens firstTokens otherTokens keyTokens : List Token}
  {nesting power links depth leftNesting leftPower firstNesting otherNesting : Nat}
  {keyPower keyLinks keyNesting : Nat} {tree leftTree keyTree : Expr}
  {token opening closing word name comma colon : Token} {trees : Block} {names : List String}
  {value : α} {nextValue : β} {phrase : Phrase}

namespace Parser

/-! ## Results within a depth -/

/-- The result is this value if the nesting fits into the depth, else a complaint about it. -/
def Settles (depth nesting : Nat) (result : Parsed α) (value : α) : Prop :=
  (nesting ≤ depth → result = .ok value) ∧
    (depth < nesting → ∃ stuck, result = fail .nestedTooDeeply stuck)

namespace Settles

theorem ok (depth : Nat) (value : α) :
    Settles depth 0 (.ok value) value :=
  ⟨fun _ => rfl, fun exceeds => absurd exceeds (Nat.not_lt_zero depth)⟩

/-- Two steps settle if each does, and take the greater of both nestings. -/
theorem bind {result : Parsed α} {next : α → Parsed β}
    (first : Settles depth firstNesting result value)
    (second : Settles depth nesting (next value) nextValue) :
    Settles depth (max firstNesting nesting) (result >>= next) nextValue := by
  constructor
  · intro fits
    rw [first.1 (by omega)]
    exact second.1 (by omega)
  · intro exceeds
    by_cases firstFits : firstNesting ≤ depth
    · rw [first.1 firstFits]
      exact second.2 (by omega)
    · rcases first.2 (by omega) with ⟨stuck, failed⟩
      exact ⟨stuck, by rw [failed, fail_bind]⟩

/-- A step that always succeeds adds nothing to the nesting. -/
theorem bind_ok {result : Parsed α} {next : α → Parsed β}
    (first : Settles depth nesting result value)
    (second : next value = .ok nextValue) :
    Settles depth nesting (result >>= next) nextValue := by
  have both := first.bind (second ▸ ok depth nextValue)
  rwa [Nat.max_zero] at both

end Settles

/-! ## What may stand around an expression -/

/-- Whether some tokens leave an expression in front of them as it is. -/
def MayFollow (power : Nat) (rest : List Token) : Prop :=
  (headKind rest).power ≤ closingPower power ∧ headKind rest ≠ .elseWord

/-- Whether a token ends every expression in front of it. -/
def Ends (kind : Kind) : Prop :=
  kind.power ≤ lowestPower ∧ kind ≠ .elseWord

theorem Ends.mayFollow {power : Nat}
    (ends : Ends (headKind rest)) (above : lowestPower < power) :
    MayFollow power rest :=
  ⟨Nat.le_trans ends.1 (lowestPower_le_closingPower above), ends.2⟩

/-- What may follow an expression may also follow one that binds tighter. -/
theorem MayFollow.mono {other : Nat} {power : Nat}
    (follows : MayFollow power rest)
    (tighter : power ≤ other) (above : Kind.assign.power < other) :
    MayFollow other rest := by
  refine ⟨Nat.le_trans follows.1 ?_, follows.2⟩
  rw [closingPower_of_lt above]
  unfold closingPower
  split
  · exact Nat.le_trans (by decide) (Nat.le_of_lt above)
  · exact tighter

/-- What may follow an assignment ends every expression. -/
theorem MayFollow.ends
    (follows : MayFollow Kind.assign.power rest) :
    Ends (headKind rest) :=
  follows

theorem admits_lowestPower
    (above : lowestPower < power) :
    Admits lowestPower power :=
  ⟨by decide, .inl above⟩

/-! ## Expressions -/

/--
The tokens are read as the tree: up to the continuations that are tried behind them, at the depth
that the links of the chain have left.
-/
def ReadsExpression (power links : Nat) (tree : Expr) (nesting : Nat) (tokens : List Token) :
    Prop :=
  ∀ depth minimum rest, Admits minimum power → MayFollow power rest →
    (nesting ≤ depth →
      expression depth minimum (tokens ++ rest) =
        continuations (depth - 1 - links) minimum tree rest) ∧
    (depth < nesting →
      ∃ stuck, expression depth minimum (tokens ++ rest) = fail .nestedTooDeeply stuck)

/-- An expression with nothing tight enough behind it is read as a whole. -/
theorem ReadsExpression.settles {minimum : Nat}
    (reads : ReadsExpression power links tree nesting tokens)
    (admits : Admits minimum power) (follows : MayFollow power rest)
    (loose : (headKind rest).power ≤ minimum) (depth : Nat) :
    Settles depth nesting (expression depth minimum (tokens ++ rest)) (tree, rest) := by
  rcases reads depth minimum rest admits follows with ⟨fitting, exceeding⟩
  refine ⟨fun fits => ?_, exceeding⟩
  rw [fitting fits]
  exact continuations_of_power_le _ _ loose

/-- An expression in front of a token that ends it is read as a whole. -/
theorem ReadsExpression.settles_of_ends
    (reads : ReadsExpression power links tree nesting tokens)
    (above : lowestPower < power) (ends : Ends (headKind rest)) (depth : Nat) :
    Settles depth nesting (expression depth lowestPower (tokens ++ rest)) (tree, rest) :=
  reads.settles (admits_lowestPower above) (ends.mayFollow above) ends.1 depth

/-- An expression that the start of an expression reads is one without links. -/
theorem ReadsExpression.of_start
    (settles : ∀ depth rest, MayFollow power rest →
      Settles depth nesting (start (expression depth) (tokens ++ rest)) (tree, rest)) :
    ReadsExpression power 0 tree (nesting + 1) tokens := by
  intro depth minimum rest _ follows
  cases depth with
  | zero =>
      refine ⟨fun fits => absurd fits (by omega), fun _ => ⟨tokens ++ rest, ?_⟩⟩
      rw [expression]
  | succ depth =>
      rcases settles depth rest follows with ⟨fitting, exceeding⟩
      rw [expression]
      constructor
      · intro fits
        rw [fitting (by omega)]
        rfl
      · intro exceeds
        rcases exceeding (by omega) with ⟨stuck, failed⟩
        exact ⟨stuck, by rw [failed, fail_bind]⟩

/-- An expression and a continuation behind it are an expression with one link more. -/
theorem ReadsExpression.link
    (left : ReadsExpression leftPower links leftTree leftNesting leftTokens)
    (linksLt : links < leftNesting)
    (admits : ∀ minimum, Admits minimum power →
      Admits minimum leftPower ∧ minimum < token.kind.power)
    (follows : MayFollow leftPower [token])
    (settles : ∀ depth rest, MayFollow power rest →
      Settles depth nesting
        (continuation (expression depth) leftTree (token :: (tokens ++ rest))) (tree, rest)) :
    ReadsExpression power (links + 1) tree (max leftNesting (links + 2 + nesting))
      (leftTokens ++ token :: tokens) := by
  intro depth minimum rest admitted restFollows
  rcases admits minimum admitted with ⟨leftAdmitted, tight⟩
  have read := left depth minimum (token :: (tokens ++ rest)) leftAdmitted follows
  rw [List.append_assoc, List.cons_append]
  by_cases leftFits : leftNesting ≤ depth
  · rw [read.1 leftFits]
    cases left : depth - 1 - links with
    | zero =>
        refine ⟨fun fits => absurd fits (by omega), fun _ => ⟨token :: (tokens ++ rest), ?_⟩⟩
        rw [continuations, headKind_cons, if_pos tight]
    | succ remaining =>
        rw [continuations, headKind_cons, if_pos tight]
        rcases settles remaining rest restFollows with ⟨fitting, exceeding⟩
        constructor
        · intro fits
          rw [fitting (by omega), show depth - 1 - (links + 1) = remaining by omega]
          rfl
        · intro exceeds
          rcases exceeding (by omega) with ⟨stuck, failed⟩
          exact ⟨stuck, by rw [failed, fail_bind]⟩
  · exact ⟨fun fits => absurd fits (by omega), fun _ => read.2 (by omega)⟩

/-! ## What each phrase is read as -/

/--
Reading the tokens of a phrase gives the phrase back, whatever may stand behind it; where the number
of steps is bounded, the number of tokens is bound enough.
-/
def Reads : Phrase → Nat → List Token → Prop
  | .expression power links tree, nesting, tokens =>
      ReadsExpression power links tree nesting tokens
  | .conditional tree, nesting, tokens =>
      ∀ depth fuel rest, tokens.length ≤ fuel → headKind rest ≠ .elseWord →
        Settles depth nesting (conditional (expression depth) fuel (tokens ++ rest)) (tree, rest)
  | .alternative trees, nesting, tokens =>
      ∀ depth fuel rest, tokens.length ≤ fuel → headKind rest ≠ .elseWord →
        Settles depth nesting
          (alternative (expression depth) (conditional (expression depth) fuel) (tokens ++ rest))
          (trees, rest)
  | .block trees, nesting, tokens =>
      ∀ depth rest, Settles depth nesting (block (expression depth) (tokens ++ rest)) (trees, rest)
  | .statement tree, nesting, tokens =>
      ∀ depth rest, Ends (headKind rest) →
        (tree.isBareReturn = true → headKind rest ∈ [Kind.semicolon, .rightBrace, .endOfInput]) →
        Settles depth nesting (statement (expression depth) (tokens ++ rest)) (tree, rest)
  | .statements trees, nesting, tokens =>
      ∀ depth fuel closing rest, tokens.length < fuel → closing.kind = .rightBrace →
        Settles depth nesting (statements (expression depth) fuel (tokens ++ closing :: rest))
          (trees, rest)
  | .items trees, nesting, tokens =>
      ∀ depth closing rest, closing.kind ∈ [Kind.rightParen, .rightBracket] →
        Settles depth nesting (items (expression depth) closing.kind (tokens ++ closing :: rest))
          (trees, rest)
  | .moreItems trees, nesting, tokens =>
      ∀ depth fuel rest, tokens.length ≤ fuel → headKind rest ∈ [Kind.rightParen, .rightBracket] →
        Settles depth nesting (moreItems (expression depth) fuel (tokens ++ rest)) (trees, rest)
  | .pairs trees, nesting, tokens =>
      ∀ depth fuel closing rest, tokens.length < fuel → closing.kind = .rightBrace →
        Settles depth nesting (pairs (expression depth) fuel (tokens ++ closing :: rest))
          (trees, rest)
  | .names names, _, tokens =>
      ∀ opening closing rest, opening.kind = .leftParen → closing.kind = .rightParen →
        parameters (opening :: (tokens ++ closing :: rest)) = .ok (names, rest)
  | .moreNames names, _, tokens =>
      ∀ fuel rest, tokens.length ≤ fuel → headKind rest = .rightParen →
        moreNames fuel (tokens ++ rest) = .ok (names, rest)

/-- A token that is an expression on its own starts this expression. -/
theorem start_atom {operand : Operand}
    (reads : token.atom? = some tree) (rest : List Token) :
    start operand (token :: rest) = .ok (tree, rest) := by
  unfold Token.atom? at reads
  rw [start]
  split at reads
  case h_2 isInteger =>
      rcases Option.map_eq_some_iff.mp reads with ⟨value, read, rfl⟩
      simp only [isInteger, read]
  case h_3 isFloat =>
      rcases Option.map_eq_some_iff.mp reads with ⟨value, read, rfl⟩
      simp only [isFloat, read]
  case h_8 => simp at reads
  all_goals
    rename_i known
    cases reads
    simp only [known]

/-- A binary operator is followed by its right operand. -/
theorem continuation_binary {operand : Operand} {left : Expr}
    (operator : token.kind.isBinary = true) (rest : List Token) :
    continuation operand left (token :: rest) = (do
      let (right, rest) ← operand token.kind.power rest
      pure (.binary left token.literal right, rest)) := by
  unfold continuation
  cases known : token.kind <;>
    simp_all [Kind.isBinary, Kind.power, Kind.rightPower, Kind.associativity, lowestPower,
      unaryPower]

/-- Calls and indices may stand behind calls, indices and what is closed on both sides. -/
theorem mayFollow_postfix
    (tight : postfixPower ≤ power)
    (opens : token.kind ∈ [Kind.leftParen, .leftBracket]) :
    MayFollow power [token] := by
  have atMost : (headKind [token]).power ≤ postfixPower ∧ token.kind ≠ .elseWord := by
    simp only [List.mem_cons, List.not_mem_nil, or_false] at opens
    rcases opens with opens | opens <;> simp [opens, Kind.power, postfixPower]
  refine ⟨?_, atMost.2⟩
  rw [closingPower_of_lt (Nat.lt_of_lt_of_le (by decide) tight)]
  exact Nat.le_trans atMost.1 tight

/-- A token that may begin a statement makes a block go on with one. -/
theorem statements_of_beginsStatement {operand : Operand} {fuel : Nat}
    (begins : (headKind tokens).beginsStatement = true) :
    statements operand (fuel + 1) tokens = (do
      let (first, rest) ← statement operand tokens
      let (others, rest) ← statements operand fuel rest
      pure (first :: others, rest)) := by
  rw [statements]
  split <;> simp_all [Kind.beginsStatement, Kind.startsExpression]

theorem ends_of_beginsStatement {kind : Kind}
    (begins : kind.beginsStatement = true)
    (apart : kind ∉ [Kind.leftParen, .leftBracket, .minus]) :
    Ends kind := by
  cases kind <;> simp_all [Ends, Kind.beginsStatement, Kind.startsExpression, Kind.power]

/-- A statement that may precede the statements behind it ends in front of them. -/
theorem ends_of_mayPrecede {tree : Stmt} {trees : Block}
    (apart : tree.mayPrecede (headKind tokens))
    (begins : (Phrase.statements trees).mayBegin (headKind tokens) = true)
    (after : headKind rest ∈ [Kind.rightBrace, .endOfInput]) :
    Ends (headKind (tokens ++ rest)) ∧
      (tree.isBareReturn = true →
        headKind (tokens ++ rest) ∈ [Kind.semicolon, .rightBrace, .endOfInput]) := by
  cases tokens with
  | nil =>
      simp only [List.mem_cons, List.not_mem_nil, or_false] at after
      rcases after with next | next <;> simp [next, Ends, Kind.power]
  | cons token tokens =>
      rw [List.cons_append, headKind_cons] at *
      rcases apart with next | next | ⟨notBare, apart⟩
      · simp [next, Ends, Kind.power]
      · simp [next, Ends, Kind.power]
      · refine ⟨?_, fun bare => absurd bare (by simp [notBare])⟩
        simp only [Phrase.mayBegin, Bool.or_eq_true, beq_iff_eq] at begins
        rcases begins with (next | next) | begins
        · simp [next, Ends, Kind.power]
        · simp [next, Ends, Kind.power]
        · exact ends_of_beginsStatement begins apart

/-- An item ends in front of the items behind it, or of the closing token. -/
theorem ends_of_moreItems {trees : List Expr}
    (begins : (Phrase.moreItems trees).mayBegin (headKind tokens) = true)
    (after : headKind rest ∈ [Kind.rightParen, .rightBracket]) :
    Ends (headKind (tokens ++ rest)) := by
  cases tokens with
  | nil =>
      simp only [List.mem_cons, List.not_mem_nil, or_false] at after
      rcases after with next | next <;> simp [next, Ends, Kind.power]
  | cons token tokens =>
      simp only [Phrase.mayBegin, headKind_cons, Bool.or_eq_true, beq_iff_eq] at begins
      rcases begins with next | next <;> simp [next, Ends, Kind.power]

/-- A token that may start an expression makes a hash go on with a pair. -/
theorem pairs_of_startsExpression {operand : Operand} {fuel : Nat}
    (starts : (headKind tokens).startsExpression = true) (rest : List Token) :
    pairs operand (fuel + 1) (tokens ++ rest) = (do
      let (key, rest) ← operand lowestPower (tokens ++ rest)
      let (_, rest) ← expect .colon rest
      let (value, rest) ← operand lowestPower rest
      let rest ← match headKind rest with
        | .rightBrace => pure rest
        | _ => do
            let (_, rest) ← expect .comma rest
            pure rest
      let (others, rest) ← pairs operand fuel rest
      pure ((key, value) :: others, rest)) := by
  rw [← headKind_append (Spells.ne_nil_of_startsExpression starts) rest] at starts
  rw [pairs]
  split
  · simp_all [Kind.startsExpression]
  · rfl

namespace Reads

/-! ### Starts of expressions -/

theorem atom
    (reads : token.atom? = some tree) :
    Reads (.expression primaryPower 0 tree) 1 [token] := by
  refine ReadsExpression.of_start fun depth rest _ => ?_
  rw [List.singleton_append, start_atom reads]
  exact Settles.ok depth _

theorem unary
    (operator : token.kind.isUnary = true)
    (operand : Reads (.expression power links tree) nesting tokens)
    (tight : unaryPower ≤ power) :
    Reads (.expression unaryPower 0 (.unary token.literal tree)) (nesting + 1)
      (token :: tokens) := by
  refine ReadsExpression.of_start fun depth rest follows => ?_
  have started : start (expression depth) (token :: (tokens ++ rest)) = (do
      let (value, rest) ← expression depth unaryPower (tokens ++ rest)
      pure (.unary token.literal value, rest)) := by
    rw [start]
    split <;> simp_all [Kind.isUnary]
  have operandFollows : MayFollow power rest :=
    follows.mono tight (Nat.lt_of_lt_of_le (by decide) tight)
  rw [List.cons_append, started]
  exact (operand.settles ⟨Nat.le_refl _, .inr tight⟩ operandFollows follows.1 depth).bind_ok rfl

theorem group
    (opens : opening.kind = .leftParen)
    (inner : Reads (.expression power links tree) nesting tokens)
    (above : lowestPower < power)
    (closes : closing.kind = .rightParen) :
    Reads (.expression primaryPower 0 tree) (nesting + 1)
      (opening :: (tokens ++ [closing])) := by
  refine ReadsExpression.of_start fun depth rest _ => ?_
  rw [List.cons_append, List.append_assoc, start]
  simp only [opens, List.singleton_append]
  refine (inner.settles_of_ends above ?_ depth).bind_ok ?_
  · simp [Ends, closes, Kind.power]
  · simp [closes]

theorem choice
    (begins : word.kind = .ifWord)
    (inner : Reads (.conditional tree) nesting tokens) :
    Reads (.expression primaryPower 0 tree) (nesting + 1) (word :: tokens) := by
  refine ReadsExpression.of_start fun depth rest follows => ?_
  rw [List.cons_append, start]
  simp only [begins]
  exact inner depth _ rest (by simp) follows.2

theorem function {nameTokens : List Token}
    (begins : word.kind = .fnWord)
    (opens : opening.kind = .leftParen)
    (parameters : Reads (.names names) 0 nameTokens)
    (closes : closing.kind = .rightParen)
    (body : Reads (.block trees) nesting tokens) :
    Reads (.expression primaryPower 0 (.function names trees)) (nesting + 1)
      (word :: opening :: (nameTokens ++ closing :: tokens)) := by
  refine ReadsExpression.of_start fun depth rest follows => ?_
  rw [List.cons_append, start]
  simp only [begins, List.cons_append, List.append_assoc]
  rw [parameters opening closing (tokens ++ rest) opens closes, ok_bind]
  exact (body depth rest).bind_ok rfl

theorem array {trees : List Expr}
    (opens : opening.kind = .leftBracket)
    (elements : Reads (.items trees) nesting tokens)
    (closes : closing.kind = .rightBracket) :
    Reads (.expression primaryPower 0 (.array trees)) (nesting + 1)
      (opening :: (tokens ++ [closing])) := by
  refine ReadsExpression.of_start fun depth rest follows => ?_
  rw [List.cons_append, List.append_assoc, start]
  simp only [opens, List.singleton_append]
  have settles := elements depth closing rest (by simp [closes])
  rw [closes] at settles
  exact settles.bind_ok rfl

theorem hash {trees : List (Expr × Expr)}
    (opens : opening.kind = .leftBrace)
    (entries : Reads (.pairs trees) nesting tokens)
    (closes : closing.kind = .rightBrace) :
    Reads (.expression primaryPower 0 (.hash trees)) (nesting + 1)
      (opening :: (tokens ++ [closing])) := by
  refine ReadsExpression.of_start fun depth rest follows => ?_
  rw [List.cons_append, List.append_assoc, start]
  simp only [opens, List.singleton_append]
  exact (entries depth _ closing rest (by rw [List.length_append]; omega) closes).bind_ok rfl

/-! ### Chains -/

theorem binary {rightPower rightLinks : Nat} {rightTree : Expr}
    (left : Reads (.expression leftPower links leftTree) leftNesting leftTokens)
    (linksLt : links < leftNesting)
    (operator : token.kind.isBinary = true)
    (leftTight : token.kind.power ≤ leftPower)
    (right : Reads (.expression rightPower rightLinks rightTree) nesting tokens)
    (rightTight : token.kind.power < rightPower) :
    Reads (.expression token.kind.power (links + 1) (.binary leftTree token.literal rightTree))
      (max leftNesting (links + 2 + nesting)) (leftTokens ++ token :: tokens) := by
  rcases Kind.isBinary_iff.mp operator with ⟨aboveAssign, belowUnary⟩
  refine ReadsExpression.link left linksLt ?_ ?_ ?_
  · rintro minimum ⟨low, tight⟩
    have tight : minimum < token.kind.power :=
      tight.resolve_right (Nat.not_le.mpr belowUnary)
    exact ⟨⟨low, .inl (Nat.lt_of_lt_of_le tight leftTight)⟩, tight⟩
  · refine ⟨?_, fun isElse => ?_⟩
    · rw [closingPower_of_lt (Nat.lt_of_lt_of_le aboveAssign leftTight)]
      exact leftTight
    · rw [show token.kind = .elseWord from isElse] at aboveAssign
      exact absurd aboveAssign (by decide)
  · intro depth rest follows
    have rightFollows : MayFollow rightPower rest :=
      follows.mono (Nat.le_of_lt rightTight) (Nat.lt_trans aboveAssign rightTight)
    have loose : (headKind rest).power ≤ token.kind.power :=
      closingPower_of_lt aboveAssign ▸ follows.1
    rw [continuation_binary operator]
    exact (right.settles ⟨Nat.le_of_lt belowUnary, .inl rightTight⟩ rightFollows loose
      depth).bind_ok rfl

theorem assign {name : String}
    (target : Reads (.expression primaryPower 0 (.name name)) leftNesting leftTokens)
    (linksLt : 0 < leftNesting)
    (operator : token.kind = .assign)
    (value : Reads (.expression power links tree) nesting tokens)
    (above : lowestPower < power) :
    Reads (.expression Kind.assign.power 1 (.assign name tree))
      (max leftNesting (2 + nesting)) (leftTokens ++ token :: tokens) := by
  have read : ReadsExpression Kind.assign.power (0 + 1) (.assign name tree)
      (max leftNesting (0 + 2 + nesting)) (leftTokens ++ token :: tokens) := by
    refine ReadsExpression.link target linksLt ?_ ?_ ?_
    · rintro minimum ⟨low, tight⟩
      have tight : minimum < token.kind.power := by
        rw [operator]
        exact tight.resolve_right (by decide)
      exact ⟨⟨low, .inr (by decide)⟩, tight⟩
    · simp [MayFollow, operator, Kind.power, closingPower, primaryPower]
    · intro depth rest follows
      unfold continuation
      simp only [operator]
      exact (value.settles_of_ends above follows.ends depth).bind_ok rfl
  rwa [Nat.zero_add, Nat.zero_add] at read

/-- A call or an index is a link behind whatever is closed as tightly. -/
theorem postfixLink
    (left : ReadsExpression leftPower links leftTree leftNesting leftTokens)
    (linksLt : links < leftNesting)
    (tight : postfixPower ≤ leftPower)
    (opens : opening.kind ∈ [Kind.leftParen, .leftBracket])
    (goesOn : ∀ depth rest, Settles depth nesting
      (continuation (expression depth) leftTree (opening :: (tokens ++ rest))) (tree, rest)) :
    ReadsExpression postfixPower (links + 1) tree (max leftNesting (links + 2 + nesting))
      (leftTokens ++ opening :: tokens) := by
  have above : unaryPower < opening.kind.power := by
    simp only [List.mem_cons, List.not_mem_nil, or_false] at opens
    rcases opens with opens | opens <;> rw [opens] <;> decide
  have follows := mayFollow_postfix tight opens
  refine ReadsExpression.link left linksLt ?_ follows fun depth rest _ => goesOn depth rest
  rintro minimum ⟨low, _⟩
  exact ⟨⟨low, .inr (Nat.le_trans (by decide) tight)⟩, Nat.lt_of_le_of_lt low above⟩

theorem call {trees : List Expr}
    (callee : Reads (.expression power links tree) leftNesting leftTokens)
    (linksLt : links < leftNesting)
    (tight : postfixPower ≤ power)
    (opens : opening.kind = .leftParen)
    (arguments : Reads (.items trees) nesting tokens)
    (closes : closing.kind = .rightParen) :
    Reads (.expression postfixPower (links + 1) (.call tree trees))
      (max leftNesting (links + 2 + nesting))
      (leftTokens ++ opening :: (tokens ++ [closing])) := by
  refine postfixLink callee linksLt tight (by simp [opens]) fun depth rest => ?_
  unfold continuation
  simp only [opens, List.append_assoc, List.singleton_append]
  have settles := arguments depth closing rest (by simp [closes])
  rw [closes] at settles
  exact settles.bind_ok rfl

theorem index {innerPower innerLinks : Nat} {innerTree : Expr}
    (collection : Reads (.expression power links tree) leftNesting leftTokens)
    (linksLt : links < leftNesting)
    (tight : postfixPower ≤ power)
    (opens : opening.kind = .leftBracket)
    (position : Reads (.expression innerPower innerLinks innerTree) nesting tokens)
    (above : lowestPower < innerPower)
    (closes : closing.kind = .rightBracket) :
    Reads (.expression postfixPower (links + 1) (.index tree innerTree))
      (max leftNesting (links + 2 + nesting))
      (leftTokens ++ opening :: (tokens ++ [closing])) := by
  refine postfixLink collection linksLt tight (by simp [opens]) fun depth rest => ?_
  unfold continuation
  simp only [opens, List.append_assoc, List.singleton_append]
  refine (position.settles_of_ends above ?_ depth).bind_ok ?_
  · simp [Ends, closes, Kind.power]
  · simp [closes]

/-! ### Conditionals and blocks -/

theorem conditional {blockNesting : Nat} {blockTokens : List Token} {others : Option Block}
    (opens : opening.kind = .leftParen)
    (condition : Reads (.expression power links tree) nesting tokens)
    (above : lowestPower < power)
    (closes : closing.kind = .rightParen)
    (consequence : Reads (.block trees) blockNesting blockTokens)
    (alternative : Reads (.alternative others) otherNesting otherTokens) :
    Reads (.conditional (.conditional tree trees others))
      (max nesting (max blockNesting otherNesting))
      (opening :: (tokens ++ closing :: (blockTokens ++ otherTokens))) := by
  intro depth fuel rest bound noElse
  rcases Nat.exists_eq_add_one_of_ne_zero (Nat.ne_zero_of_lt bound) with ⟨fuel, rfl⟩
  have otherBound : otherTokens.length ≤ fuel := by
    simp at bound
    omega
  rw [conditional_succ]
  simp only [List.cons_append, List.append_assoc]
  rw [expect_cons_of_kind opens, ok_bind]
  refine (condition.settles_of_ends above ?_ depth).bind ?_
  · simp [Ends, closes, Kind.power]
  · dsimp only
    rw [expect_cons_of_kind closes, ok_bind]
    refine (consequence depth (otherTokens ++ rest)).bind ?_
    exact (alternative depth fuel rest otherBound noElse).bind_ok rfl

theorem noAlternative :
    Reads (.alternative none) 0 [] := by
  intro depth fuel rest _ noElse
  rw [List.nil_append, alternative_of_ne_elseWord _ _ noElse]
  exact Settles.ok depth _

theorem elseBlock
    (begins : word.kind = .elseWord)
    (inner : Reads (.block trees) nesting tokens)
    (opens : headKind tokens = .leftBrace) :
    Reads (.alternative (some trees)) nesting (word :: tokens) := by
  intro depth fuel rest _ _
  have nonempty : tokens ≠ [] := by
    rintro rfl
    simp at opens
  have noIf : headKind (tokens ++ rest) ≠ .ifWord := by
    rw [headKind_append nonempty, opens]
    decide
  have begins : headKind (word :: (tokens ++ rest)) = .elseWord := begins
  rw [List.cons_append, alternative_elseBlock _ _ begins noIf]
  exact (inner depth rest).bind_ok rfl

theorem elseIf {nextWord : Token}
    (begins : word.kind = .elseWord)
    (goesOn : nextWord.kind = .ifWord)
    (inner : Reads (.conditional tree) nesting tokens) :
    Reads (.alternative (some [.expression tree])) nesting (word :: nextWord :: tokens) := by
  intro depth fuel rest bound noElse
  have innerBound : tokens.length ≤ fuel := by
    simp at bound
    omega
  have begins : headKind (word :: nextWord :: (tokens ++ rest)) = .elseWord := begins
  rw [List.cons_append, List.cons_append, alternative_elseIf _ _ begins goesOn]
  exact (inner depth fuel rest innerBound noElse).bind_ok rfl

theorem block
    (opens : opening.kind = .leftBrace)
    (inner : Reads (.statements trees) nesting tokens)
    (closes : closing.kind = .rightBrace) :
    Reads (.block trees) nesting (opening :: (tokens ++ [closing])) := by
  intro depth rest
  rw [Parser.block]
  simp only [List.cons_append, List.append_assoc, List.nil_append]
  rw [expect_cons_of_kind opens, ok_bind]
  exact inner depth _ closing rest (by rw [List.length_append]; omega) closes

/-! ### Statements -/

theorem bind {sign : Token}
    (begins : word.kind = .letWord)
    (named : name.kind = .identifier)
    (equals : sign.kind = .assign)
    (value : Reads (.expression power links tree) nesting tokens)
    (above : lowestPower < power) :
    Reads (.statement (.bind name.literal tree)) nesting (word :: name :: sign :: tokens) := by
  intro depth rest ends _
  rw [Parser.statement]
  simp only [List.cons_append, headKind_cons, begins, List.tail_cons]
  rw [expect_cons_of_kind named, ok_bind]
  dsimp only
  rw [expect_cons_of_kind equals, ok_bind]
  exact (value.settles_of_ends above ends depth).bind_ok rfl

theorem returnNothing
    (begins : word.kind = .returnWord) :
    Reads (.statement (.return none)) 0 [word] := by
  intro depth rest _ finished
  have result : statement (expression depth) (word :: rest) = .ok (.return none, rest) := by
    rw [Parser.statement]
    simp only [headKind_cons, begins, List.tail_cons]
    have member := finished rfl
    simp only [List.mem_cons, List.not_mem_nil, or_false] at member
    rcases member with next | next | next <;> simp [next]
  rw [List.singleton_append, result]
  exact Settles.ok depth _

theorem returnValue
    (begins : word.kind = .returnWord)
    (value : Reads (.expression power links tree) nesting tokens)
    (above : lowestPower < power)
    (starts : (headKind tokens).startsExpression = true) :
    Reads (.statement (.return (some tree))) nesting (word :: tokens) := by
  intro depth rest ends _
  have result : statement (expression depth) (word :: (tokens ++ rest)) = (do
      let (value, rest) ← expression depth lowestPower (tokens ++ rest)
      pure (.return (some value), rest)) := by
    rw [← headKind_append (Spells.ne_nil_of_startsExpression starts) rest] at starts
    rw [Parser.statement]
    simp only [headKind_cons, begins, List.tail_cons]
    split <;> simp_all [Kind.startsExpression]
  rw [List.cons_append, result]
  exact (value.settles_of_ends above ends depth).bind_ok rfl

theorem expression
    (value : Reads (.expression power links tree) nesting tokens)
    (above : lowestPower < power)
    (starts : (headKind tokens).startsExpression = true) :
    Reads (.statement (.expression tree)) nesting tokens := by
  intro depth rest ends _
  have result : statement (Parser.expression depth) (tokens ++ rest) = (do
      let (value, rest) ← Parser.expression depth lowestPower (tokens ++ rest)
      pure (.expression value, rest)) := by
    rw [← headKind_append (Spells.ne_nil_of_startsExpression starts) rest] at starts
    rw [Parser.statement]
    split <;> simp_all [Kind.startsExpression]
  rw [result]
  exact (value.settles_of_ends above ends depth).bind_ok rfl

theorem noStatements :
    Reads (.statements []) 0 [] := by
  intro depth fuel closing rest bound closes
  rcases Nat.exists_eq_add_one_of_ne_zero (Nat.ne_zero_of_lt bound) with ⟨fuel, rfl⟩
  rw [statements]
  simp only [List.nil_append, headKind_cons, closes]
  exact Settles.ok depth _

theorem semicolon
    (stray : token.kind = .semicolon)
    (others : Reads (.statements trees) nesting tokens) :
    Reads (.statements trees) nesting (token :: tokens) := by
  intro depth fuel closing rest bound closes
  rcases Nat.exists_eq_add_one_of_ne_zero (Nat.ne_zero_of_lt bound) with ⟨fuel, rfl⟩
  rw [statements]
  simp only [List.cons_append, headKind_cons, stray, List.tail_cons]
  exact others depth fuel closing rest (by simpa using bound) closes

theorem someStatements {tree : Stmt}
    (first : Reads (.statement tree) firstNesting firstTokens)
    (firstBegins : (headKind firstTokens).beginsStatement = true)
    (apart : tree.mayPrecede (headKind tokens))
    (others : Reads (.statements trees) nesting tokens)
    (othersBegin : (Phrase.statements trees).mayBegin (headKind tokens) = true) :
    Reads (.statements (tree :: trees)) (max firstNesting nesting) (firstTokens ++ tokens) := by
  intro depth fuel closing rest bound closes
  have nonempty := Spells.ne_nil_of_beginsStatement firstBegins
  have firstLength := List.length_pos_iff.mpr nonempty
  rw [List.length_append] at bound
  rcases Nat.exists_eq_add_one_of_ne_zero (Nat.ne_zero_of_lt bound) with ⟨fuel, rfl⟩
  have after : headKind (closing :: rest) ∈ [Kind.rightBrace, .endOfInput] := by
    simp [closes]
  rcases ends_of_mayPrecede apart othersBegin after with ⟨ends, finished⟩
  rw [statements_of_beginsStatement (by
    rw [List.append_assoc, headKind_append nonempty]
    exact firstBegins)]
  rw [List.append_assoc]
  refine (first depth (tokens ++ closing :: rest) ends finished).bind ?_
  exact (others depth fuel closing rest (by omega) closes).bind_ok rfl

/-! ### Lists -/

theorem noItems :
    Reads (.items []) 0 [] := by
  intro depth closing rest _
  rw [items, List.nil_append, headKind_cons, if_pos rfl]
  exact Settles.ok depth _

theorem someItems {trees : List Expr}
    (first : Reads (.expression power links tree) firstNesting firstTokens)
    (above : lowestPower < power)
    (starts : (headKind firstTokens).startsExpression = true)
    (others : Reads (.moreItems trees) nesting tokens)
    (othersBegin : (Phrase.moreItems trees).mayBegin (headKind tokens) = true) :
    Reads (.items (tree :: trees)) (max firstNesting nesting) (firstTokens ++ tokens) := by
  intro depth closing rest closes
  have notClosing :
      headKind (firstTokens ++ (tokens ++ closing :: rest)) ≠ closing.kind := by
    rw [headKind_append (Spells.ne_nil_of_startsExpression starts)]
    rintro equal
    rw [equal] at starts
    simp only [List.mem_cons, List.not_mem_nil, or_false] at closes
    rcases closes with closes | closes <;> simp [closes, Kind.startsExpression] at starts
  have after : headKind (closing :: rest) ∈ [Kind.rightParen, .rightBracket] := closes
  rw [items, List.append_assoc, if_neg notClosing]
  refine (first.settles_of_ends above (ends_of_moreItems othersBegin after) depth).bind ?_
  refine (others depth _ (closing :: rest) (by simp) after).bind_ok ?_
  simp

theorem noMoreItems :
    Reads (.moreItems []) 0 [] := by
  intro depth fuel rest _ closes
  have noComma : headKind rest ≠ .comma := by
    intro comma
    simp [comma] at closes
  rw [List.nil_append, moreItems_of_ne_comma noComma]
  exact Settles.ok depth _

theorem someMoreItems {trees : List Expr}
    (separates : comma.kind = .comma)
    (first : Reads (.expression power links tree) firstNesting firstTokens)
    (above : lowestPower < power)
    (others : Reads (.moreItems trees) nesting tokens)
    (othersBegin : (Phrase.moreItems trees).mayBegin (headKind tokens) = true) :
    Reads (.moreItems (tree :: trees)) (max firstNesting nesting)
      (comma :: (firstTokens ++ tokens)) := by
  intro depth fuel rest bound closes
  simp only [List.length_cons, List.length_append] at bound
  rcases Nat.exists_eq_add_one_of_ne_zero (Nat.ne_zero_of_lt bound) with ⟨fuel, rfl⟩
  rw [moreItems]
  simp only [List.cons_append, List.append_assoc, headKind_cons, separates, List.tail_cons]
  refine (first.settles_of_ends above (ends_of_moreItems othersBegin closes) depth).bind ?_
  exact (others depth fuel rest (by omega) closes).bind_ok rfl

theorem noPairs :
    Reads (.pairs []) 0 [] := by
  intro depth fuel closing rest bound closes
  rcases Nat.exists_eq_add_one_of_ne_zero (Nat.ne_zero_of_lt bound) with ⟨fuel, rfl⟩
  rw [pairs]
  simp only [List.nil_append, headKind_cons, closes]
  exact Settles.ok depth _

theorem lastPair
    (key : Reads (.expression keyPower keyLinks keyTree) keyNesting keyTokens)
    (keyAbove : lowestPower < keyPower)
    (starts : (headKind keyTokens).startsExpression = true)
    (separates : colon.kind = .colon)
    (value : Reads (.expression power links tree) nesting tokens)
    (above : lowestPower < power) :
    Reads (.pairs [(keyTree, tree)]) (max keyNesting nesting) (keyTokens ++ colon :: tokens) := by
  intro depth fuel closing rest bound closes
  simp only [List.length_cons, List.length_append] at bound
  obtain ⟨fuel, rfl⟩ : ∃ fewer, fuel = fewer + 2 := ⟨fuel - 2, by omega⟩
  rw [List.append_assoc, pairs_of_startsExpression starts]
  refine (key.settles_of_ends keyAbove ?_ depth).bind ?_
  · simp [Ends, separates, Kind.power]
  · dsimp only
    rw [List.cons_append, expect_cons_of_kind separates, ok_bind]
    refine (value.settles_of_ends above ?_ depth).bind_ok ?_
    · simp [Ends, closes, Kind.power]
    · simp [closes, pairs]

theorem somePairs {trees : List (Expr × Expr)}
    (key : Reads (.expression keyPower keyLinks keyTree) keyNesting keyTokens)
    (keyAbove : lowestPower < keyPower)
    (starts : (headKind keyTokens).startsExpression = true)
    (separates : colon.kind = .colon)
    (value : Reads (.expression power links tree) nesting tokens)
    (above : lowestPower < power)
    (goesOn : comma.kind = .comma)
    (others : Reads (.pairs trees) otherNesting otherTokens) :
    Reads (.pairs ((keyTree, tree) :: trees)) (max keyNesting (max nesting otherNesting))
      (keyTokens ++ colon :: (tokens ++ comma :: otherTokens)) := by
  intro depth fuel closing rest bound closes
  simp only [List.length_cons, List.length_append] at bound
  rcases Nat.exists_eq_add_one_of_ne_zero (Nat.ne_zero_of_lt bound) with ⟨fuel, rfl⟩
  rw [List.append_assoc, pairs_of_startsExpression starts]
  refine (key.settles_of_ends keyAbove ?_ depth).bind ?_
  · simp [Ends, separates, Kind.power]
  · dsimp only
    rw [List.cons_append, List.append_assoc, List.cons_append, expect_cons_of_kind separates,
      ok_bind]
    refine (value.settles_of_ends above ?_ depth).bind ?_
    · simp [Ends, goesOn, Kind.power]
    · simp only [headKind_cons, goesOn, expect_cons_of_kind, ok_bind, pure_eq_ok]
      exact (others depth fuel closing rest (by omega) closes).bind_ok rfl

theorem noNames :
    Reads (.names []) 0 [] := by
  intro opening closing rest opens closes
  rw [parameters, expect_cons_of_kind opens, ok_bind]
  simp [closes]

theorem someNames
    (named : name.kind = .identifier)
    (others : Reads (.moreNames names) 0 tokens) :
    Reads (.names (name.literal :: names)) 0 (name :: tokens) := by
  intro opening closing rest opens closes
  have read := others (tokens ++ closing :: rest).length (closing :: rest) (by simp)
    (by simp [closes])
  rw [parameters, expect_cons_of_kind opens, ok_bind]
  simp only [List.cons_append, headKind_cons, named]
  rw [expect_cons_of_kind named, ok_bind]
  dsimp only
  rw [read, ok_bind]
  simp [closes]

theorem noMoreNames :
    Reads (.moreNames []) 0 [] := by
  intro fuel rest _ closes
  rw [List.nil_append]
  exact moreNames_of_ne_comma (by rw [closes]; decide) fuel

theorem someMoreNames
    (separates : comma.kind = .comma)
    (named : name.kind = .identifier)
    (others : Reads (.moreNames names) 0 tokens) :
    Reads (.moreNames (name.literal :: names)) 0 (comma :: name :: tokens) := by
  intro fuel rest bound closes
  simp only [List.length_cons] at bound
  rcases Nat.exists_eq_add_one_of_ne_zero (Nat.ne_zero_of_lt bound) with ⟨fuel, rfl⟩
  rw [moreNames]
  simp only [List.cons_append, headKind_cons, separates, List.tail_cons]
  rw [expect_cons_of_kind named, ok_bind]
  dsimp only
  rw [others fuel rest (by omega) closes, ok_bind]
  rfl

end Reads

end Parser

open Jet.Parser

/-- Reading the tokens of a spelling gives back what they spell. -/
theorem Spells.reads
    (spelled : Spells phrase nesting tokens) :
    Reads phrase nesting tokens := by
  induction spelled with
  | atom reads => exact .atom reads
  | unary operator operand tight read => exact .unary operator read tight
  | group opens inner closes read => exact .group opens read inner.lowestPower_lt closes
  | choice begins inner read => exact .choice begins read
  | function begins opens parameters closes body readNames readBody =>
      exact .function begins opens readNames closes readBody
  | array opens elements closes read => exact .array opens read closes
  | hash opens entries closes read => exact .hash opens read closes
  | binary left operator leftTight right rightTight readLeft readRight =>
      exact .binary readLeft left.links_lt_nesting operator leftTight readRight rightTight
  | assign target operator value readTarget readValue =>
      exact .assign readTarget target.links_lt_nesting operator readValue value.lowestPower_lt
  | call callee tight opens arguments closes readCallee readArguments =>
      exact .call readCallee callee.links_lt_nesting tight opens readArguments closes
  | index collection tight opens position closes readCollection readPosition =>
      exact .index readCollection collection.links_lt_nesting tight opens readPosition
        position.lowestPower_lt closes
  | conditional opens condition closes consequence alternative read readBlock readOther =>
      exact .conditional opens read condition.lowestPower_lt closes readBlock readOther
  | noAlternative => exact .noAlternative
  | elseBlock begins inner read =>
      exact .elseBlock begins read (beq_iff_eq.mp inner.mayBegin_headKind)
  | elseIf begins goesOn inner read => exact .elseIf begins goesOn read
  | block opens inner closes read => exact .block opens read closes
  | bind begins named equals value read =>
      exact .bind begins named equals read value.lowestPower_lt
  | returnNothing begins => exact .returnNothing begins
  | returnValue begins value read =>
      exact .returnValue begins read value.lowestPower_lt value.startsExpression
  | expression value read => exact .expression read value.lowestPower_lt value.startsExpression
  | noStatements => exact .noStatements
  | semicolon stray others read => exact .semicolon stray read
  | someStatements first apart others readFirst readOthers =>
      exact .someStatements readFirst first.mayBegin_headKind apart readOthers
        others.mayBegin_headKind
  | noItems => exact .noItems
  | someItems first others readFirst readOthers =>
      exact .someItems readFirst first.lowestPower_lt first.startsExpression readOthers
        others.mayBegin_headKind
  | noMoreItems => exact .noMoreItems
  | someMoreItems separates first others readFirst readOthers =>
      exact .someMoreItems separates readFirst first.lowestPower_lt readOthers
        others.mayBegin_headKind
  | noPairs => exact .noPairs
  | lastPair key separates value readKey readValue =>
      exact .lastPair readKey key.lowestPower_lt key.startsExpression separates readValue
        value.lowestPower_lt
  | somePairs key separates value goesOn others readKey readValue readOthers =>
      exact .somePairs readKey key.lowestPower_lt key.startsExpression separates readValue
        value.lowestPower_lt goesOn readOthers
  | noNames => exact .noNames
  | someNames named others read => exact .someNames named read
  | noMoreNames => exact .noMoreNames
  | someMoreNames separates named others read => exact .someMoreNames separates named read

/-! ## Programs -/

/-- The first problem of the reading is the nesting of an expression. -/
def Reading.StartsTooDeep (reading : Reading) : Prop :=
  ∃ token others, reading.problems = ⟨.nestedTooDeeply, token⟩ :: others

/-- The program is read as these statements, or its first problem is the nesting. -/
def Parser.SettlesProgram (nesting : Nat) (trees : Block) (result : Except String Reading) :
    Prop :=
  (nesting ≤ maxNesting → result = .ok ⟨⟨trees⟩, []⟩) ∧
    (maxNesting < nesting → ∃ reading, result = .ok reading ∧ reading.StartsTooDeep)

/-- A statement in front of a program that settles makes a program that settles. -/
theorem Parser.SettlesProgram.cons {tree : Stmt} {finish : Token} {fuel : Nat}
    (noSemicolon : token.kind ≠ .semicolon) (readable : Readable (token :: tokens))
    (first : Settles maxNesting firstNesting (statement (expression maxNesting) (token :: tokens))
      (tree, rest))
    (others : SettlesProgram nesting trees (program finish fuel rest)) :
    SettlesProgram (max firstNesting nesting) (tree :: trees)
      (program finish (fuel + 1) (token :: tokens)) := by
  refine ⟨fun fits => ?_, fun exceeds => ?_⟩
  · rw [program_of_ok noSemicolon (first.1 (by omega)), others.1 (by omega)]
    rfl
  · by_cases firstFits : firstNesting ≤ maxNesting
    · rcases others.2 (by omega) with ⟨reading, read, tooDeep⟩
      refine ⟨reading.addStatement tree, ?_, tooDeep⟩
      rw [program_of_ok noSemicolon (first.1 firstFits), read]
      rfl
    · rcases first.2 (by omega) with ⟨stuck, failed⟩
      rcases program_eq_ok finish fuel
        (readable.mono (recover_suffix (token :: tokens) .nestedTooDeeply stuck)) with
        ⟨reading, read⟩
      refine ⟨reading.addProblem ⟨.nestedTooDeeply, stuck.headD finish⟩, ?_,
        stuck.headD finish, reading.problems, rfl⟩
      rw [program_of_failure noSemicolon failed, read]
      rfl

theorem Spells.readable
    (spelled : Spells phrase nesting tokens) :
    Readable tokens :=
  fun token member => (spelled.tidy.usable token member).2.2

/-- A program is read back as it was spelled, or its first problem is the nesting. -/
theorem Spells.settlesProgram
    (spelled : Spells (.statements trees) nesting tokens)
    (finish : Token) (fuel : Nat) (bound : tokens.length ≤ fuel) :
    SettlesProgram nesting trees (program finish fuel tokens) := by
  generalize same : Phrase.statements trees = phrase at spelled
  induction spelled generalizing trees fuel with
  | noStatements =>
      cases same
      refine ⟨fun _ => ?_, fun exceeds => absurd exceeds (Nat.not_lt_zero _)⟩
      cases fuel <;> rfl
  | semicolon stray others induction =>
      rcases Nat.exists_eq_add_one_of_ne_zero (Nat.ne_zero_of_lt bound) with ⟨fuel, rfl⟩
      rw [program_of_semicolon stray]
      exact induction fuel (by simpa using bound) same
  | someStatements first apart others firstInduction induction =>
      cases same
      have begins := first.mayBegin_headKind
      rcases List.exists_cons_of_ne_nil (ne_nil_of_beginsStatement begins) with
        ⟨token, firstTokens, rfl⟩
      rcases Nat.exists_eq_add_one_of_ne_zero (Nat.ne_zero_of_lt bound) with ⟨fuel, rfl⟩
      have noSemicolon : token.kind ≠ .semicolon := by
        intro stray
        simp [Phrase.mayBegin, stray, Kind.beginsStatement, Kind.startsExpression] at begins
      have ended : headKind [] ∈ [Kind.rightBrace, .endOfInput] := by decide
      have ends := ends_of_mayPrecede apart others.mayBegin_headKind ended
      rw [List.append_nil] at ends
      refine .cons noSemicolon (first.someStatements apart others).readable
        (first.reads maxNesting _ ends.1 ends.2) (induction fuel ?_ rfl)
      simp only [List.length_cons, List.length_append] at bound
      omega
  | _ => cases same

/-- The same holds of tokens up to their end. -/
theorem Spells.settlesParse
    (spelled : Spells (.statements trees) nesting (beforeEnd tokens)) :
    SettlesProgram nesting trees (parse tokens) := by
  rw [parse_eq_program]
  exact spelled.settlesProgram (endToken tokens) _ (Nat.le_refl _)

theorem Reading.StartsTooDeep.errors_head {reading : Reading}
    (tooDeep : reading.StartsTooDeep) :
    ∃ token : Token, reading.errors.head? =
      some ("line " ++ toString token.line ++ ", column " ++ toString token.column ++
        ": " ++ "expression nested too deeply") := by
  rcases tooDeep with ⟨token, others, problems⟩
  refine ⟨token, ?_⟩
  rw [Reading.errors, problems]
  rfl

/--
Completeness: tokens that spell a program, with the end of the input behind them, are read as this
very program and without problems.  The only exception is a spelling that takes more levels than
there are; then the first message is about the nesting.
-/
theorem parse_of_spells {tree : Program} {tokens rest : List Token} {nesting : Nat}
    (spelled : Spells (.statements tree.statements) nesting tokens)
    (ending : headKind rest = .endOfInput) :
    (nesting ≤ maxNesting → parse (tokens ++ rest) = .ok ⟨tree, []⟩) ∧
      (maxNesting < nesting → ∃ (reading : Reading) (token : Token),
        parse (tokens ++ rest) = .ok reading ∧
          reading.errors.head? =
            some ("line " ++ toString token.line ++ ", column " ++ toString token.column ++
              ": " ++ "expression nested too deeply")) := by
  have noEnd : ∀ token ∈ tokens, token.kind ≠ .endOfInput :=
    fun token member => (spelled.tidy.usable token member).2.1
  rw [← beforeEnd_append noEnd ending] at spelled
  have settles := spelled.settlesParse
  refine ⟨settles.1, fun exceeds => ?_⟩
  rcases settles.2 exceeds with ⟨reading, read, tooDeep⟩
  rcases tooDeep.errors_head with ⟨token, message⟩
  exact ⟨reading, token, read, message⟩

/-- Subtraction groups to the left, so a group on the right keeps its parentheses. -/
theorem parse_of_spells_group :
    parse ([⟨.identifier, "a", 1, 1⟩, ⟨.minus, "-", 1, 2⟩, ⟨.leftParen, "(", 1, 3⟩,
        ⟨.identifier, "b", 1, 4⟩, ⟨.minus, "-", 1, 5⟩, ⟨.identifier, "c", 1, 6⟩,
        ⟨.rightParen, ")", 1, 7⟩] ++ [⟨.endOfInput, "", 1, 8⟩]) =
      .ok ⟨⟨[.expression (.binary (.name "a") "-"
        (.binary (.name "b") "-" (.name "c")))]⟩, []⟩ := by
  have atom (name : String) (column : Int) :
      Spells (.expression primaryPower 0 (.name name)) 1 [⟨.identifier, name, 1, column⟩] :=
    .atom rfl
  have minus (column : Int) : (Token.mk .minus "-" 1 column).kind.isBinary = true := rfl
  have opens : (Token.mk .leftParen "(" 1 3).kind = .leftParen := rfl
  have closes : (Token.mk .rightParen ")" 1 7).kind = .rightParen := rfl
  have inner := (atom "b" 4).binary (minus 5) (by decide) (atom "c" 6) (by decide)
  have outer := (atom "a" 1).binary (minus 2) (by decide) (.group opens inner closes) (by decide)
  have whole := Spells.someStatements (.expression outer) (.inr (.inl rfl)) .noStatements
  exact (parse_of_spells whole rfl).1 (by decide)

end Jet
