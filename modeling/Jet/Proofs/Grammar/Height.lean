import Jet.Proofs.Grammar.Completeness
import Jet.Proofs.Grammar.Soundness
import Jet.Proofs.Token.Spacing

/-!
# How high trees grow

The height of an expression is the number of expressions on its longest branch.  What the parser
limits is the nesting of a spelling, and this is not the same: a left operand, a callee or an
indexed expression is read before the links that are put on top of it are counted, and a conditional
behind an `else` is read on the level of the conditional in front.  The overhang of an expression is
the greatest number of such steps on one branch.

A tree is at most as high as its spelling nests, and its overhang more.  So an expression without
overhang keeps the limit, and one with an overhang may be higher than the limit by just as much: for
every overhang there is a text that is read without problems into a tree of that height.
-/

namespace Jet

variable {nesting links : Nat} {tokens : List Token}

/-! ## Heights -/

mutual

/--
The number of expressions on the longest branch of an expression.  The names that a function or an
assignment binds are not expressions.
-/
def Expr.height : Expr → Nat
  | .name _ | .integer _ | .float _ | .boolean _ | .string _ | .null => 1
  | .unary _ operand => operand.height + 1
  | .binary left _ right => max left.height right.height + 1
  | .assign _ value => value.height + 1
  | .conditional condition consequence alternative =>
      max condition.height (max (heightOfBlock consequence) (heightOfAlternative alternative)) + 1
  | .function _ body => heightOfBlock body + 1
  | .call callee arguments => max callee.height (heightOfList arguments) + 1
  | .array elements => heightOfList elements + 1
  | .index collection position => max collection.height position.height + 1
  | .hash pairs => heightOfPairs pairs + 1

/-- The height of the highest expression behind an `else`, if there is one. -/
def heightOfAlternative : Option (List Stmt) → Nat
  | none => 0
  | some alternative => heightOfBlock alternative

/-- The height of the highest of some expressions. -/
def heightOfList : List Expr → Nat
  | [] => 0
  | expression :: rest => max expression.height (heightOfList rest)

/-- The height of the highest key or value of a hash. -/
def heightOfPairs : List (Expr × Expr) → Nat
  | [] => 0
  | (key, value) :: rest => max key.height (max value.height (heightOfPairs rest))

/-- The height of the expression of a statement, if there is one. -/
def Stmt.height : Stmt → Nat
  | .bind _ value => value.height
  | .return none => 0
  | .return (some value) => value.height
  | .expression value => value.height
  | .block body => heightOfBlock body

/-- The height of the highest expression of a block. -/
def heightOfBlock : List Stmt → Nat
  | [] => 0
  | statement :: rest => max statement.height (heightOfBlock rest)

end

/-- Whether a block holds just a conditional, as it does behind an `else` in front of an `if`. -/
def isElseIf : List Stmt → Bool
  | [.expression (.conditional ..)] => true
  | _ => false

mutual

/--
The greatest number of steps on one branch of an expression that lead from a link to what stands on
its left, unless this is a leaf, or from a conditional to the one behind its `else`.
-/
def Expr.overhang : Expr → Nat
  | .name _ | .integer _ | .float _ | .boolean _ | .string _ | .null => 0
  | .unary _ operand => operand.overhang
  | .binary left _ right =>
      max (if left.height ≤ 1 then 0 else left.overhang + 1) right.overhang
  | .assign _ value => value.overhang
  | .conditional condition consequence alternative =>
      max condition.overhang
        (max (overhangOfBlock consequence) (overhangOfAlternative alternative))
  | .function _ body => overhangOfBlock body
  | .call callee arguments =>
      max (if callee.height ≤ 1 then 0 else callee.overhang + 1) (overhangOfList arguments)
  | .array elements => overhangOfList elements
  | .index collection position =>
      max (if collection.height ≤ 1 then 0 else collection.overhang + 1) position.overhang
  | .hash pairs => overhangOfPairs pairs

/-- The overhang behind an `else`, with the step to another conditional. -/
def overhangOfAlternative : Option (List Stmt) → Nat
  | none => 0
  | some alternative => overhangOfBlock alternative + if isElseIf alternative then 1 else 0

/-- The greatest overhang of some expressions. -/
def overhangOfList : List Expr → Nat
  | [] => 0
  | expression :: rest => max expression.overhang (overhangOfList rest)

/-- The greatest overhang of a key or value of a hash. -/
def overhangOfPairs : List (Expr × Expr) → Nat
  | [] => 0
  | (key, value) :: rest => max key.overhang (max value.overhang (overhangOfPairs rest))

/-- The overhang of the expression of a statement, if there is one. -/
def Stmt.overhang : Stmt → Nat
  | .bind _ value => value.overhang
  | .return none => 0
  | .return (some value) => value.overhang
  | .expression value => value.overhang
  | .block body => overhangOfBlock body

/-- The greatest overhang of an expression of a block. -/
def overhangOfBlock : List Stmt → Nat
  | [] => 0
  | statement :: rest => max statement.overhang (overhangOfBlock rest)

end

namespace Phrase

/-- The height of what a phrase stands for; a conditional behind its `if` is not yet closed. -/
def height : Phrase → Nat
  | .expression _ _ tree => tree.height
  | .conditional tree => tree.height - 1
  | .alternative trees => heightOfAlternative trees
  | .block trees | .statements trees => heightOfBlock trees
  | .statement tree => tree.height
  | .items trees | .moreItems trees => heightOfList trees
  | .pairs trees => heightOfPairs trees
  | .names _ | .moreNames _ => 0

/-- The overhang of what a phrase stands for. -/
def overhang : Phrase → Nat
  | .expression _ _ tree | .conditional tree => tree.overhang
  | .alternative trees => overhangOfAlternative trees
  | .block trees | .statements trees => overhangOfBlock trees
  | .statement tree => tree.overhang
  | .items trees | .moreItems trees => overhangOfList trees
  | .pairs trees => overhangOfPairs trees
  | .names _ | .moreNames _ => 0

end Phrase

theorem Token.height_of_atom {token : Token} {tree : Expr}
    (reads : token.atom? = some tree) :
    tree.height = 1 := by
  unfold Token.atom? at reads
  split at reads
  case h_2 | h_3 =>
      rcases Option.map_eq_some_iff.mp reads with ⟨value, _, rfl⟩
      rfl
  all_goals
    cases reads
    try rfl

/-- A link is counted with what stands on its right, and with a leaf on its left. -/
theorem height_link_le {leftHeight leftNesting leftOverhang rightHeight rightOverhang : Nat}
    (leftLe : leftHeight ≤ leftNesting + leftOverhang)
    (rightLe : rightHeight ≤ nesting + rightOverhang) :
    max leftHeight rightHeight + 1 ≤ max leftNesting (links + 2 + nesting) +
      max (if leftHeight ≤ 1 then 0 else leftOverhang + 1) rightOverhang := by
  split <;> omega

/-- A tree is at most as high as its spelling nests, and its overhang more. -/
theorem Spells.height_le {phrase : Phrase}
    (spelled : Spells phrase nesting tokens) :
    phrase.height ≤ nesting + phrase.overhang := by
  induction spelled with
  | atom reads =>
      rw [Phrase.height, Token.height_of_atom reads]
      exact Nat.le_add_right _ _
  | binary left operator leftTight right rightTight leftLe rightLe =>
      exact height_link_le leftLe rightLe
  | call callee tight opens arguments closes calleeLe argumentsLe =>
      exact height_link_le calleeLe argumentsLe
  | index collection tight opens position closes collectionLe positionLe =>
      exact height_link_le collectionLe positionLe
  | elseIf begins goesOn inner induction =>
      cases inner with
      | conditional opens condition closes consequence alternative =>
          simp only [Phrase.height, Phrase.overhang, heightOfAlternative, overhangOfAlternative,
            heightOfBlock, overhangOfBlock, Stmt.height, Stmt.overhang, isElseIf, if_true] at *
          omega
  | noAlternative => exact Nat.le_refl _
  | elseBlock begins inner induction =>
      exact Nat.le_trans induction (Nat.add_le_add_left (Nat.le_add_right _ _) _)
  | _ =>
      simp only [Phrase.height, Phrase.overhang, Expr.height, Expr.overhang, Stmt.height,
        Stmt.overhang, heightOfList, overhangOfList, heightOfPairs, overhangOfPairs,
        heightOfBlock, overhangOfBlock] at *
      omega

/-- The statements of a program keep the limit but for their overhangs, whatever problems it has. -/
theorem Stmt.height_le_of_parse {reading : Reading} {tree : Stmt}
    (parsed : parse tokens = .ok reading)
    (member : tree ∈ reading.program.statements) :
    tree.height ≤ maxNesting + tree.overhang := by
  rw [Parser.parse_eq_program] at parsed
  rcases Parser.program_statement_sound parsed member with ⟨consumed, nesting, _, fits, spelled⟩
  exact Nat.le_trans spelled.height_le (Nat.add_le_add_right fits _)

/-- The spelling of a program nests at least as deeply as that of its statements. -/
theorem Stmt.height_le_of_spells {tree : Stmt} {trees : Block}
    (spelled : Spells (.statements trees) nesting tokens)
    (member : tree ∈ trees) :
    tree.height ≤ nesting + tree.overhang := by
  generalize same : Phrase.statements trees = phrase at spelled
  induction spelled generalizing trees with
  | noStatements =>
      cases same
      cases member
  | semicolon stray others induction => exact induction member same
  | someStatements first apart others firstInduction induction =>
      cases same
      rcases List.mem_cons.mp member with rfl | member
      · exact Nat.le_trans first.height_le (Nat.add_le_add_right (Nat.le_max_left _ _) _)
      · exact Nat.le_trans (induction member rfl)
          (Nat.add_le_add_right (Nat.le_max_right _ _) _)
  | _ => cases same

/-! ## Trees beyond the limit -/

/-- A statement on its own is a list of statements. -/
theorem Spells.single {tree : Stmt}
    (spelled : Spells (.statement tree) nesting tokens) :
    Spells (.statements [tree]) nesting tokens := by
  have statements := spelled.someStatements (.inr (.inl rfl)) .noStatements
  rwa [Nat.max_zero, List.append_nil] at statements

/-- A name in a number of arrays, one inside the other. -/
def Expr.boxed : Nat → Expr
  | 0 => .name "x"
  | count + 1 => .array [boxed count]

/-- A number of conditionals, each behind the `else` of the one in front, around an expression. -/
def Expr.ladder (inner : Expr) : Nat → Expr
  | 0 => .conditional (.name "x") [] (some [.expression inner])
  | count + 1 => .conditional (.name "x") [] (some [.expression (ladder inner count)])

theorem Expr.height_boxed (count : Nat) :
    (boxed count).height = count + 1 := by
  induction count with
  | zero => rfl
  | succ count induction =>
      rw [boxed, height, heightOfList, heightOfList, induction, Nat.max_zero]

theorem Expr.overhang_boxed (count : Nat) :
    (boxed count).overhang = 0 := by
  induction count with
  | zero => rfl
  | succ count induction =>
      rw [boxed, overhang, overhangOfList, overhangOfList, induction, Nat.max_zero]

theorem Expr.height_ladder {inner : Expr}
    (nonempty : 1 ≤ inner.height) (count : Nat) :
    (ladder inner count).height = inner.height + 1 + count := by
  induction count with
  | zero =>
      simp only [ladder, height, heightOfBlock, heightOfAlternative, Stmt.height]
      omega
  | succ count induction =>
      simp only [ladder, height, heightOfBlock, heightOfAlternative, Stmt.height, induction]
      omega

theorem isElseIf_ladder (inner : Expr) (count : Nat) :
    isElseIf [.expression (.ladder inner count)] = true := by
  cases count <;> rfl

theorem Expr.overhang_ladder {inner : Expr}
    (noConditional : isElseIf [.expression inner] = false) (count : Nat) :
    (ladder inner count).overhang = inner.overhang + count := by
  induction count with
  | zero =>
      simp [ladder, overhang, overhangOfBlock, overhangOfAlternative, Stmt.overhang,
        noConditional]
  | succ count induction =>
      simp only [ladder, overhang, overhangOfBlock, overhangOfAlternative, Stmt.overhang,
        isElseIf_ladder, if_true, induction]
      omega

namespace Lexeme

/-- The lexeme of a symbol of one character. -/
def ofSymbol (char : Char) : Lexeme :=
  verbatim (.ofSymbol char) [char]

/-- The lexemes of a name in arrays. -/
def boxed : Nat → List Lexeme
  | 0 => [word ['x']]
  | count + 1 => ofSymbol '[' :: (boxed count ++ [ofSymbol ']'])

theorem spells_boxed (count column : Nat) :
    Spells (.expression primaryPower 0 (.boxed count)) (count + 1)
      (place column (boxed count)) := by
  induction count generalizing column with
  | zero => exact .atom rfl
  | succ count induction =>
      rw [boxed, place_cons, place_append]
      have items := Spells.someItems (induction (column + 1 + 1)) .noMoreItems
      rw [Nat.max_zero, List.append_nil] at items
      exact .array rfl items rfl

/-- The lexemes of a conditional behind its `if`, with an empty block and an alternative. -/
def conditional (others : List Lexeme) : List Lexeme :=
  ofSymbol '(' :: ([word ['x']] ++ ofSymbol ')' ::
    ((ofSymbol '\x7b' :: ([] ++ [ofSymbol '\x7d'])) ++ others))

/-- The lexemes of a ladder behind its first `if`. -/
def ladder (inner : List Lexeme) : Nat → List Lexeme
  | 0 =>
      conditional (word ['e', 'l', 's', 'e'] :: ofSymbol '\x7b' :: (inner ++ [ofSymbol '\x7d']))
  | count + 1 =>
      conditional (word ['e', 'l', 's', 'e'] :: word ['i', 'f'] :: ladder inner count)

theorem spells_conditional {trees : Option Block} {others : List Lexeme}
    (spelled : ∀ column, Spells (.alternative trees) (nesting + 1) (place column others))
    (column : Nat) :
    Spells (.conditional (.conditional (.name "x") [] trees)) (nesting + 1)
      (place column (conditional others)) := by
  have braces (column : Nat) :
      Spells (.block []) 0 (place column (ofSymbol '\x7b' :: ([] ++ [ofSymbol '\x7d']))) := by
    rw [place_cons, place_append]
    exact .block rfl .noStatements rfl
  have nests : nesting + 1 = max 1 (max 0 (nesting + 1)) := by omega
  rw [conditional, place_cons, place_append, place_cons _ (ofSymbol ')'), place_append, nests]
  exact .conditional rfl (.atom rfl) rfl (braces _) (spelled _)

theorem spells_ladder {power : Nat} {tree : Expr} {inner : List Lexeme}
    (spelled : ∀ column, Spells (.expression power links tree) (nesting + 1) (place column inner))
    (count column : Nat) :
    Spells (.conditional (.ladder tree count)) (nesting + 1)
      (place column (ladder inner count)) := by
  induction count generalizing column with
  | zero =>
      refine spells_conditional (fun column => ?_) column
      rw [place_cons, place_cons, place_append]
      exact .elseBlock rfl (.block rfl (.single (.expression (spelled _))) rfl)
  | succ count induction =>
      refine spells_conditional (fun column => ?_) column
      rw [place_cons, place_cons]
      exact .elseIf rfl rfl (induction _)

theorem boxed_stand (count : Nat) :
    ∀ lexeme ∈ boxed count, lexeme.Stands := by
  induction count with
  | zero => simpa [boxed] using Stands.word rfl rfl
  | succ count induction =>
      intro lexeme member
      rw [boxed, List.mem_cons, List.mem_append, List.mem_singleton] at member
      rcases member with rfl | member | rfl
      · exact .symbol rfl
      · exact induction lexeme member
      · exact .symbol rfl

theorem conditional_stand {others : List Lexeme}
    (othersStand : ∀ lexeme ∈ others, lexeme.Stands) :
    ∀ lexeme ∈ conditional others, lexeme.Stands := by
  intro lexeme member
  simp only [conditional, List.mem_cons, List.mem_append, List.not_mem_nil, false_or,
    or_false] at member
  rcases member with rfl | rfl | rfl | (rfl | rfl) | member
  · exact .symbol rfl
  · exact .word rfl rfl
  · exact .symbol rfl
  · exact .symbol rfl
  · exact .symbol rfl
  · exact othersStand lexeme member

theorem ladder_stand {inner : List Lexeme}
    (innerStand : ∀ lexeme ∈ inner, lexeme.Stands) (count : Nat) :
    ∀ lexeme ∈ ladder inner count, lexeme.Stands := by
  induction count with
  | zero =>
      refine conditional_stand fun lexeme member => ?_
      simp only [List.mem_cons, List.mem_append, List.not_mem_nil, or_false] at member
      rcases member with rfl | rfl | member | rfl
      · exact .word rfl rfl
      · exact .symbol rfl
      · exact innerStand lexeme member
      · exact .symbol rfl
  | succ count induction =>
      refine conditional_stand fun lexeme member => ?_
      simp only [List.mem_cons] at member
      rcases member with rfl | rfl | member
      · exact .word rfl rfl
      · exact .word rfl rfl
      · exact induction lexeme member

end Lexeme

/-- A text of spaced lexemes that spell a program within the limit is read as this program. -/
theorem parseSource_spaced {lexemes : List Lexeme} {trees : Block}
    (stand : ∀ lexeme ∈ lexemes, lexeme.Stands)
    (spelled : Spells (.statements trees) nesting (Lexeme.place 1 lexemes))
    (fits : nesting ≤ maxNesting) :
    parseSource (String.ofList (Lexeme.spaced lexemes)) = .ok ⟨⟨trees⟩, []⟩ := by
  rcases tokenize_spaced stand with ⟨finish, isEnd, tokens⟩
  have noEnd : ∀ token ∈ Lexeme.place 1 lexemes, token.kind ≠ .endOfInput :=
    fun token member => (spelled.tidy.usable token member).2.1
  have ending : Parser.headKind [finish] = .endOfInput := isEnd
  rw [← Parser.beforeEnd_append noEnd ending] at spelled
  rw [parseSource, tokens]
  exact spelled.settlesParse.1 fits

/-- For every overhang there is a text that is read into an expression as high as it can be. -/
theorem exists_height_eq (overhang : Nat) :
    ∃ source tree, parseSource source = .ok ⟨⟨[tree]⟩, []⟩ ∧
      tree.overhang = overhang ∧ tree.height = maxNesting + overhang := by
  have stand : ∀ lexeme ∈ .word ['i', 'f'] :: Lexeme.ladder (Lexeme.boxed 118) overhang,
      lexeme.Stands := by
    intro lexeme member
    rcases List.mem_cons.mp member with rfl | member
    · exact .word rfl rfl
    · exact Lexeme.ladder_stand (Lexeme.boxed_stand 118) overhang lexeme member
  have spelled : Spells (.expression primaryPower 0 (.ladder (.boxed 118) overhang)) (119 + 1)
      (Lexeme.place 1 (.word ['i', 'f'] :: Lexeme.ladder (Lexeme.boxed 118) overhang)) := by
    rw [Lexeme.place_cons]
    exact .choice rfl (Lexeme.spells_ladder (Lexeme.spells_boxed 118) overhang _)
  refine ⟨_, _, parseSource_spaced stand (.single (.expression spelled)) (Nat.le_refl _), ?_, ?_⟩
  · rw [Stmt.overhang, Expr.overhang_ladder rfl, Expr.overhang_boxed, Nat.zero_add]
  · rw [Stmt.height, Expr.height_ladder (by rw [Expr.height_boxed]; decide), Expr.height_boxed]
    rfl

/--
The expressions that are read from a text are at most as high as the limit and their overhang
together, and for every overhang there is one that is just as high and read without problems.  So
the limit holds for the expressions without overhang, and for no others.  What is spelled higher is
reported as nested too deeply.
-/
theorem parseSource_height_le (overhang : Nat) :
    (∀ source reading tree, parseSource source = .ok reading →
      tree ∈ reading.program.statements → tree.overhang = overhang →
        tree.height ≤ maxNesting + overhang) ∧
    (∃ source tree, parseSource source = .ok ⟨⟨[tree]⟩, []⟩ ∧
      tree.overhang = overhang ∧ tree.height = maxNesting + overhang) ∧
    (∀ source trees nesting tree,
      Spells (.statements trees) nesting (Parser.beforeEnd (tokenize source)) →
        tree ∈ trees → tree.overhang = overhang → maxNesting + overhang < tree.height →
          ∃ (reading : Reading) (token : Token), parseSource source = .ok reading ∧
            reading.errors.head? =
              some ("line " ++ toString token.line ++ ", column " ++ toString token.column ++
                ": " ++ "expression nested too deeply")) := by
  refine ⟨?_, exists_height_eq overhang, ?_⟩
  · intro source reading tree parsed member same
    rw [← same]
    exact Stmt.height_le_of_parse parsed member
  · intro source trees nesting tree spelled member same exceeds
    have higher := Stmt.height_le_of_spells spelled member
    rcases spelled.settlesParse.2 (by omega) with ⟨reading, read, tooDeep⟩
    rcases tooDeep.errors_head with ⟨token, message⟩
    exact ⟨reading, token, read, message⟩

/--
A name in as many arrays as may be, and one more name to add to them: the left operand takes up the
whole limit, and the sum on top of it is not counted.
-/
theorem maxNesting_lt_height_boxed :
    ∃ tree,
      parseSource (String.ofList (Lexeme.spaced
        (Lexeme.boxed 119 ++ [.ofSymbol '+', .word ['x']]))) = .ok ⟨⟨[tree]⟩, []⟩ ∧
        maxNesting < tree.height := by
  have stand : ∀ lexeme ∈ Lexeme.boxed 119 ++ [.ofSymbol '+', .word ['x']], lexeme.Stands := by
    intro lexeme member
    rw [List.mem_append, List.mem_cons, List.mem_singleton] at member
    rcases member with member | rfl | rfl
    · exact Lexeme.boxed_stand 119 lexeme member
    · exact .symbol rfl
    · exact .word rfl rfl
  have spelled : Spells (.expression Kind.plus.power 1 (.binary (.boxed 119) "+" (.name "x")))
      120 (Lexeme.place 1 (Lexeme.boxed 119 ++ [.ofSymbol '+', .word ['x']])) := by
    have plus (column : Int) : (Token.mk .plus "+" 1 column).kind.isBinary = true := rfl
    have right (column : Nat) : Spells (.expression primaryPower 0 (.name "x")) 1
        (Lexeme.place column [.word ['x']]) := .atom rfl
    rw [Lexeme.place_append, Lexeme.place_cons]
    exact (Lexeme.spells_boxed 119 1).binary (plus _) (by decide) (right _) (by decide)
  refine ⟨_, parseSource_spaced stand (.single (.expression spelled)) (Nat.le_refl _), ?_⟩
  rw [Stmt.height, Expr.height, Expr.height_boxed]
  decide

end Jet
