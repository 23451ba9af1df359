import Jet.Proofs.Grammar.Completeness
import Jet.Proofs.Grammar.Vocabulary
import Jet.Proofs.Token.Reading
import Jet.Tree.Canonical
import Mathlib

/-!
# Canonical text is stable

The canonical text of a program is read back as this very program.  Every operator, assignment and
index is printed as a group and every other expression is closed on the right, so the text of an
expression is a spelling of it wherever an expression may stand, one that may also be called or
indexed.  Names, numerals and quoted strings are read as what was printed.

There are two exceptions and a limit.  The text of a float may be no float literal.  No semicolon is
printed behind an expression statement, so a statement that begins with a bracket would go on with
it.  And groups add nesting, so the text of a program may be nested too deeply.
-/

namespace Jet

variable {text : List Char} {tree : Expr} {trees : List Expr} {good : List Token → Prop}
  {part : Part} {nesting : Nat} {tokens : List Token} {symbol : String}

/-! ## Texts of trees -/

/-- Whether a statement does not go on with the one in front when no semicolon is between them. -/
def Stmt.staysApart : Stmt → Stmt → Bool
  | .expression _, next => next.text.toList.head? != some '(' && next.text.toList.head? != some '['
  | _, _ => true

/-- Whether no statement of a list goes on with the one in front. -/
def KeepsApart (trees : List Stmt) : Prop :=
  trees.IsChain fun first next => first.staysApart next = true

instance (trees : List Stmt) : Decidable (KeepsApart trees) :=
  inferInstanceAs (Decidable (trees.IsChain _))

/-- Whether a part is no float and no list of statements that go on with each other. -/
def Part.isPlain : Part → Bool
  | .expression (.float _) => false
  | .block trees => decide (KeepsApart trees)
  | _ => true

/-- What is asked of a part of a tree that is to be read back. -/
structure Part.IsPrintable (part : Part) : Prop where
  textual : part.IsTextual
  plain : part.isPlain = true

/-- Whether the canonical text of an expression may begin with a character. -/
def opensExpression (char : Char) : Bool :=
  isLetter char || isDigit char || ['"', '(', '[', '\x7b'].contains char

theorem opensExpression_cases {char : Char}
    (opens : opensExpression char = true) :
    isLetter char = true ∨ isDigit char = true ∨ char ∈ ['"', '(', '[', '\x7b'] := by
  simpa only [opensExpression, Bool.or_eq_true, List.contains_iff_mem, or_assoc] using opens

theorem layoutLength_of_opensExpression {char : Char}
    (opens : opensExpression char = true) (rest : List Char) :
    layoutLength false (char :: rest) = 0 := by
  rcases opensExpression_cases opens with letter | digit | bracket
  · exact layoutLength_of_isWordChar (isWordChar_of_isLetter letter) rest
  · exact layoutLength_of_isWordChar (isWordChar_of_isDigit digit) rest
  · simp only [List.mem_cons, List.not_mem_nil, or_false] at bracket
    rcases bracket with rfl | rfl | rfl | rfl <;> rfl

theorem endsSymbol_of_opensExpression {char : Char}
    (opens : opensExpression char = true) (rest : List Char) :
    endsSymbol (char :: rest) = true := by
  rw [endsSymbol, Bool.and_eq_true, Bool.and_eq_true, bne_iff_ne, bne_iff_ne, bne_iff_ne]
  refine ⟨⟨?_, ?_⟩, ?_⟩ <;>
    · rintro rfl
      contradiction

/-- A block with its braces. -/
def blockText (trees : Block) : List Char :=
  '\x7b' :: ' ' :: ((joinWith " " (textOfBlock trees)).toList ++ [' ', '\x7d'])

theorem toList_joinWith_cons (separator first : String) (more : List String) :
    (joinWith separator (first :: more)).toList =
      first.toList ++ more.flatMap fun text => separator.toList ++ text.toList := by
  induction more generalizing first with
  | nil => simp [joinWith]
  | cons second more induction =>
      have joined := induction second
      rw [joinWith] at joined ⊢
      rw [String.intercalate_cons_cons, String.toList_append, String.toList_append, joined,
        List.flatMap_cons, List.append_assoc, List.append_assoc]

theorem toList_joinWith_cons_cons (separator first second : String) (more : List String) :
    (joinWith separator (first :: second :: more)).toList =
      first.toList ++ (separator.toList ++ (joinWith separator (second :: more)).toList) := by
  rw [joinWith, String.intercalate_cons_cons, String.toList_append, String.toList_append,
    List.append_assoc]
  rfl

/-! ## Spellings of texts -/

/-- Some tokens spell an expression. -/
def WritesExpression (tree : Expr) (tokens : List Token) : Prop :=
  ∃ power links nesting, Spells (.expression power links tree) nesting tokens

/-- Some tokens spell a key and a value with a colon between them. -/
def WritesPair (pair : Expr × Expr) (tokens : List Token) : Prop :=
  ∃ keyTokens colon valueTokens, tokens = keyTokens ++ colon :: valueTokens ∧ colon.kind = .colon ∧
    WritesExpression pair.1 keyTokens ∧ WritesExpression pair.2 valueTokens

/-- Some tokens spell an expression that may be called or indexed as it stands. -/
def WritesClosed (tree : Expr) (tokens : List Token) : Prop :=
  ∃ power links nesting, postfixPower ≤ power ∧ Spells (.expression power links tree) nesting tokens

/-- Some tokens spell a phrase. -/
def Writes (phrase : Phrase) (tokens : List Token) : Prop :=
  ∃ nesting, Spells phrase nesting tokens

/--
Some tokens spell a statement and separate it from the statements behind it, but for what could go
on with an expression.
-/
def Leads (tree : Stmt) (tokens : List Token) : Prop :=
  ∀ trees others, Writes (.statements trees) others →
    (∀ value, tree = .expression value →
      Parser.headKind others ∉ [Kind.leftParen, .leftBracket, .minus]) →
    Writes (.statements (tree :: trees)) (tokens ++ others)

/-- A text begins as the text of an expression does, and is read as tokens of some form. -/
structure IsReadAs (text : List Char) (good : List Token → Prop) : Prop where
  opens : ∃ char rest, text = char :: rest ∧ opensExpression char = true
  finds : Finds text good

/-- Whether the canonical text of a part is read as this part. -/
def Part.IsStable : Part → Prop
  | .expression tree => IsReadAs tree.text.toList (WritesClosed tree)
  | .statement tree => IsReadAs tree.text.toList (Leads tree)
  | .block trees => ∀ separator, isBlank separator = true →
      Finds (joinWith (String.ofList [separator]) (textOfBlock trees)).toList
        (Writes (.statements trees))

theorem WritesClosed.atom {token : Token}
    (reads : token.atom? = some tree) :
    WritesClosed tree [token] :=
  ⟨_, _, _, by decide, .atom reads⟩

theorem WritesClosed.group {power links : Nat} {opening closing : Token}
    (opens : opening.kind = .leftParen)
    (inner : Spells (.expression power links tree) nesting tokens)
    (closes : closing.kind = .rightParen) :
    WritesClosed tree (opening :: (tokens ++ [closing])) :=
  ⟨_, _, _, by decide, .group opens inner closes⟩

theorem Finds.writesExpression
    (finds : Finds text (WritesClosed tree)) :
    Finds text (WritesExpression tree) :=
  finds.mono fun _ ⟨power, links, nesting, _, spelled⟩ => ⟨power, links, nesting, spelled⟩

/-- An operator in front of a closed expression. -/
theorem Finds.unary {kind : Kind} {symbol : String}
    (operator : kind.isUnary = true) (known : kind.symbol? = some symbol)
    (apart : endsSymbol text = true) (operand : Finds text (WritesClosed tree)) :
    Finds (symbol.toList ++ text) (WritesExpression (.unary symbol tree)) := by
  refine .symbol known apart fun token isOperator literal => ?_
  refine operand.mono fun tokens ⟨power, links, nesting, tight, spelled⟩ => ?_
  rw [← literal]
  refine ⟨_, _, _, .unary ?_ spelled (Nat.le_trans (by decide) tight)⟩
  rw [isOperator, operator]

/-! ### Lists of texts -/

theorem separates_flatMap (texts : List String) :
    separates (texts.flatMap fun text => ", ".toList ++ text.toList) = true := by
  cases texts <;> rfl

namespace Finds

variable {texts : List String}

theorem moreItems
    (each : List.Forall₂ (fun text tree => Finds text.toList (WritesExpression tree)) texts trees) :
    Finds (texts.flatMap fun text => ", ".toList ++ text.toList) (Writes (.moreItems trees)) := by
  induction each with
  | nil => exact .nil ⟨0, .noMoreItems⟩
  | cons first others induction =>
      rw [List.flatMap_cons, List.append_assoc]
      refine .mark .comma rfl (fun _ => rfl) fun comma separates => .blank rfl ?_
      refine first.append (separates_flatMap _) ?_
      rintro tokens ⟨power, links, nesting, spelled⟩
      refine induction.mono fun others ⟨otherNesting, otherSpelled⟩ => ?_
      exact ⟨_, .someMoreItems separates spelled otherSpelled⟩

/-- Texts that are read as expressions, with commas between them. -/
theorem items
    (each : List.Forall₂ (fun text tree => Finds text.toList (WritesExpression tree)) texts trees) :
    Finds (joinWith ", " texts).toList (Writes (.items trees)) := by
  cases each with
  | nil => exact .nil ⟨0, .noItems⟩
  | cons first others =>
      rw [toList_joinWith_cons]
      refine first.append (separates_flatMap _) ?_
      rintro tokens ⟨power, links, nesting, spelled⟩
      refine (moreItems others).mono fun others ⟨otherNesting, otherSpelled⟩ => ?_
      exact ⟨_, .someItems spelled otherSpelled⟩

/-- A key and a value with a colon between them. -/
theorem pair {keyTree valueTree : Expr} {keyText valueText : String}
    (key : Finds keyText.toList (WritesExpression keyTree))
    (value : Finds valueText.toList (WritesExpression valueTree)) :
    Finds (keyText ++ ": " ++ valueText).toList (WritesPair (keyTree, valueTree)) := by
  rw [String.toList_append, String.toList_append, List.append_assoc]
  refine key.append rfl fun keyTokens keyWritten => ?_
  refine .mark .colon rfl (fun _ => rfl) fun colon isColon => .blank rfl ?_
  exact value.mono fun valueTokens written =>
    ⟨keyTokens, colon, valueTokens, rfl, isColon, keyWritten, written⟩

/-- Texts that are read as pairs, with commas between them. -/
theorem pairs {trees : List (Expr × Expr)}
    (each : List.Forall₂ (fun text pair => Finds text.toList (WritesPair pair)) texts trees) :
    Finds (joinWith ", " texts).toList (Writes (.pairs trees)) := by
  induction each with
  | nil => exact .nil ⟨0, .noPairs⟩
  | cons first others induction =>
      cases others with
      | nil =>
          refine first.mono ?_
          rintro _ ⟨keyTokens, colon, valueTokens, rfl, isColon, ⟨_, _, _, keySpelled⟩,
            ⟨_, _, _, spelled⟩⟩
          exact ⟨_, .lastPair keySpelled isColon spelled⟩
      | cons next others =>
          rw [toList_joinWith_cons_cons]
          refine first.append rfl ?_
          rintro _ ⟨keyTokens, colon, valueTokens, rfl, isColon, ⟨_, _, _, keySpelled⟩,
            ⟨_, _, _, spelled⟩⟩
          refine .mark .comma rfl (fun _ => rfl) fun comma goesOn => .blank rfl ?_
          refine induction.mono fun others ⟨nesting, otherSpelled⟩ => ?_
          have whole := Spells.somePairs keySpelled isColon spelled goesOn otherSpelled
          rw [List.append_assoc, List.cons_append]
          exact ⟨_, whole⟩

/-- A list of texts in brackets is read as an array. -/
theorem array
    (each : List.Forall₂ (fun text tree => Finds text.toList (WritesExpression tree)) texts trees) :
    Finds ('[' :: ((joinWith ", " texts).toList ++ [']'])) (WritesClosed (.array trees)) := by
  refine .mark .leftBracket rfl (fun _ => rfl) fun opening opens => ?_
  refine (items each).append rfl fun tokens ⟨nesting, spelled⟩ => ?_
  refine .mark .rightBracket rfl (fun _ => rfl) fun closing closes => .nil ?_
  exact ⟨_, _, _, by decide, .array opens spelled closes⟩

/-- A list of pairs in braces is read as a hash. -/
theorem hash {trees : List (Expr × Expr)}
    (each : List.Forall₂ (fun text pair => Finds text.toList (WritesPair pair)) texts trees) :
    Finds ('\x7b' :: ((joinWith ", " texts).toList ++ ['\x7d'])) (WritesClosed (.hash trees)) := by
  refine .mark .leftBrace rfl (fun _ => rfl) fun opening opens => ?_
  refine (pairs each).append rfl fun tokens ⟨nesting, spelled⟩ => ?_
  refine .mark .rightBrace rfl (fun _ => rfl) fun closing closes => .nil ?_
  exact ⟨_, _, _, by decide, .hash opens spelled closes⟩

end Finds

/-- A statement with a semicolon behind it goes in front of any statements. -/
theorem Leads.semicolon {semicolon : Token} {statement : Stmt}
    (spelled : Spells (.statement statement) nesting tokens)
    (stray : semicolon.kind = .semicolon) :
    Leads statement (tokens ++ [semicolon]) := by
  intro trees others ⟨otherNesting, otherSpelled⟩ _
  have apart : statement.mayPrecede (Parser.headKind (semicolon :: others)) := .inl stray
  have whole := Spells.someStatements spelled apart (.semicolon stray otherSpelled)
  rw [List.append_assoc]
  exact ⟨_, whole⟩

namespace Part.IsStable

variable {tree left right condition callee collection position value : Expr}

/-- Whatever is read in a group is closed. -/
theorem group
    (inner : Finds text (WritesExpression tree)) :
    IsReadAs ('(' :: (text ++ [')'])) (WritesClosed tree) := by
  refine ⟨⟨'(', _, rfl, rfl⟩, ?_⟩
  refine .mark .leftParen rfl (fun _ => rfl) fun opening opens => ?_
  refine inner.append rfl fun tokens ⟨power, links, nesting, spelled⟩ => ?_
  refine .mark .rightParen rfl (fun _ => rfl) fun closing closes => ?_
  exact .nil (.group opens spelled closes)

theorem opens_of_isName {word : String}
    (named : isName word = true) :
    ∃ char rest, word.toList = char :: rest ∧ opensExpression char = true := by
  rw [isName, Bool.and_eq_true] at named
  cases equal : word.toList with
  | nil =>
      rw [equal] at named
      cases named.1
  | cons char rest =>
      rw [equal, isWord, Bool.and_eq_true] at named
      refine ⟨char, rest, rfl, ?_⟩
      rw [opensExpression, named.1.1, Bool.true_or, Bool.true_or]

/-- A name in front of a text that separates itself. -/
theorem findsName {word : String}
    (named : isName word = true) (apart : separates text = true)
    (later : ∀ token : Token, token.kind = .identifier → token.literal = word →
      Finds text fun tokens => good (token :: tokens)) :
    Finds (word.toList ++ text) good := by
  rw [isName, Bool.and_eq_true, beq_iff_eq] at named
  refine .word word.toList named.1 apart fun token isWord literal => ?_
  rw [String.ofList_toList] at isWord literal
  exact later token (isWord.trans named.2) literal

theorem atom?_of_identifier {token : Token} {word : String}
    (isName : token.kind = .identifier) (literal : token.literal = word) :
    token.atom? = some (.name word) := by
  rw [Token.atom?, isName, literal]

theorem name {word : String}
    (named : isName word = true) :
    IsStable (.expression (.name word)) := by
  have finds : Finds (word.toList ++ []) (WritesClosed (.name word)) :=
    findsName named rfl fun token isName literal =>
      .nil (.atom (atom?_of_identifier isName literal))
  rw [List.append_nil] at finds
  exact ⟨opens_of_isName named, finds⟩

theorem integer {number : Int}
    (shown : IsLiteralValue number) :
    IsStable (.expression (.integer number)) := by
  rcases shown with ⟨nonnegative, fits⟩
  rcases Int.eq_ofNat_of_zero_le nonnegative with ⟨number, rfl⟩
  rw [Int.natAbs_natCast] at fits
  have numeral := isNumeral_repr number
  have finds : Finds (number.repr.toList ++ []) (WritesClosed (.integer number)) := by
    refine .numeral numeral rfl fun token isInteger literal => .nil (.atom ?_)
    rw [Token.atom?, isInteger, literal, Literal.integer?_repr fits]
    rfl
  rw [List.append_nil] at finds
  refine ⟨?_, finds⟩
  rw [isNumeral, Bool.and_eq_true, Bool.not_eq_true', List.isEmpty_eq_false_iff] at numeral
  rcases List.exists_cons_of_ne_nil numeral.1 with ⟨char, rest, equal⟩
  rw [equal, List.all_cons, Bool.and_eq_true] at numeral
  refine ⟨char, rest, equal, ?_⟩
  rw [opensExpression, numeral.2.1, Bool.or_true, Bool.true_or]

theorem string (contents : String) :
    IsStable (.expression (.string contents)) := by
  have finds : Finds ((quoteString contents).toList ++ []) (WritesClosed (.string contents)) := by
    refine .quoted contents fun token isString literal => .nil (.atom ?_)
    rw [Token.atom?, isString, literal]
  rw [List.append_nil] at finds
  exact ⟨⟨'"', _, String.toList_ofList, rfl⟩, finds⟩

/-- Keywords that are expressions on their own. -/
theorem keyword {char : Char} {letters : List Char}
    (isWord : isWord (char :: letters) = true)
    (reads : ∀ token : Token, token.kind = .ofWord (String.ofList (char :: letters)) →
      token.atom? = some tree) :
    IsReadAs (char :: letters) (WritesClosed tree) := by
  have finds : Finds (char :: letters ++ []) (WritesClosed tree) :=
    .word (char :: letters) isWord rfl fun token isKeyword _ =>
      .nil (.atom (reads token isKeyword))
  rw [List.append_nil] at finds
  refine ⟨⟨char, letters, rfl, ?_⟩, finds⟩
  rw [Jet.isWord, Bool.and_eq_true] at isWord
  rw [opensExpression, isWord.1, Bool.true_or, Bool.true_or]

theorem boolean (value : Bool) :
    IsStable (.expression (.boolean value)) := by
  cases value with
  | false =>
      have text : (Expr.boolean false).text.toList = ['f', 'a', 'l', 's', 'e'] := rfl
      rw [IsStable, text]
      exact keyword rfl fun token isFalse => by rw [Token.atom?, isFalse]; rfl
  | true =>
      have text : (Expr.boolean true).text.toList = ['t', 'r', 'u', 'e'] := rfl
      rw [IsStable, text]
      exact keyword rfl fun token isTrue => by rw [Token.atom?, isTrue]; rfl

theorem null : IsStable (.expression .null) := by
  have text : Expr.null.text.toList = ['n', 'u', 'l', 'l'] := rfl
  rw [IsStable, text]
  exact keyword rfl fun token isNull => by rw [Token.atom?, isNull]; rfl

theorem unary {kind : Kind}
    (operator : kind.isUnary = true) (known : kind.symbol? = some symbol)
    (operand : IsStable (.expression tree)) :
    IsStable (.expression (.unary symbol tree)) := by
  rcases operand with ⟨⟨char, rest, equal, opens⟩, finds⟩
  have apart : endsSymbol tree.text.toList = true := by
    rw [equal]
    exact endsSymbol_of_opensExpression opens rest
  have text : (Expr.unary symbol tree).text.toList =
      '(' :: (symbol.toList ++ tree.text.toList ++ [')']) := by
    change ("(" ++ symbol ++ tree.text ++ ")").toList = _
    simp only [String.toList_append, List.append_assoc]
    rfl
  rw [IsStable, text]
  exact group (.unary operator known apart finds)

theorem binary {kind : Kind}
    (operator : kind.isBinary = true) (known : kind.symbol? = some symbol)
    (leftStable : IsStable (.expression left)) (rightStable : IsStable (.expression right)) :
    IsStable (.expression (.binary left symbol right)) := by
  have text : (Expr.binary left symbol right).text.toList =
      '(' :: (left.text.toList ++ ' ' :: (symbol.toList ++ ' ' :: right.text.toList) ++ [')']) := by
    change ("(" ++ left.text ++ " " ++ symbol ++ " " ++ right.text ++ ")").toList = _
    simp only [String.toList_append, List.append_assoc, List.cons_append]
    rfl
  rw [IsStable, text]
  refine group (leftStable.finds.append rfl ?_)
  rintro leftTokens ⟨leftPower, leftLinks, leftNesting, leftTight, leftSpelled⟩
  refine .blank rfl (.symbol known rfl fun token isOperator literal => .blank rfl ?_)
  refine rightStable.finds.mono fun tokens ⟨power, links, nesting, tight, spelled⟩ => ?_
  rw [← literal]
  rw [← isOperator] at operator
  have loose := (Kind.isBinary_iff.mp operator).2
  refine ⟨_, _, _, .binary leftSpelled operator ?_ spelled ?_⟩
  · exact Nat.le_trans (Kind.power_le_postfixPower _) leftTight
  · exact Nat.lt_of_lt_of_le loose (Nat.le_trans (by decide) tight)

theorem assign {word : String}
    (named : isName word = true) (stable : IsStable (.expression value)) :
    IsStable (.expression (.assign word value)) := by
  have text : (Expr.assign word value).text.toList =
      '(' :: (word.toList ++ ' ' :: ("=".toList ++ ' ' :: value.text.toList) ++ [')']) := by
    change ("(" ++ word ++ " = " ++ value.text ++ ")").toList = _
    simp only [String.toList_append, List.append_assoc, List.cons_append]
    rfl
  have equals : Kind.assign.symbol? = some "=" := rfl
  rw [IsStable, text]
  refine group (findsName named rfl fun target isTarget literal => .blank rfl ?_)
  refine .symbol equals rfl fun sign isAssign _ => .blank rfl ?_
  refine stable.finds.mono fun tokens ⟨power, links, nesting, _, spelled⟩ => ?_
  exact ⟨_, _, _, .assign (.atom (atom?_of_identifier isTarget literal)) isAssign spelled⟩

/-! ### Lists -/

theorem forall₂_textOfList
    (stable : ∀ tree ∈ trees, IsStable (.expression tree)) :
    List.Forall₂ (fun text tree => Finds text.toList (WritesExpression tree)) (textOfList trees)
      trees := by
  induction trees with
  | nil => exact .nil
  | cons tree rest induction =>
      rw [List.forall_mem_cons] at stable
      exact .cons stable.1.finds.writesExpression (induction stable.2)

theorem forall₂_textOfPairs {trees : List (Expr × Expr)}
    (stable : ∀ pair ∈ trees, IsStable (.expression pair.1) ∧ IsStable (.expression pair.2)) :
    List.Forall₂ (fun text pair => Finds text.toList (WritesPair pair)) (textOfPairs trees)
      trees := by
  induction trees with
  | nil => exact .nil
  | cons pair rest induction =>
      rw [List.forall_mem_cons] at stable
      have written := Finds.pair stable.1.1.finds.writesExpression stable.1.2.finds.writesExpression
      exact .cons written (induction stable.2)

theorem moreNames {names : List String}
    (named : ∀ name ∈ names, isName name = true) :
    Finds (names.flatMap fun text => ", ".toList ++ text.toList)
      (Spells (.moreNames names) 0) := by
  induction names with
  | nil => exact .nil .noMoreNames
  | cons name rest induction =>
      rw [List.forall_mem_cons] at named
      rw [List.flatMap_cons, List.append_assoc]
      refine .mark .comma rfl (fun _ => rfl) fun comma separates => .blank rfl ?_
      refine findsName named.1 (separates_flatMap _) fun token isIdentifier literal => ?_
      refine (induction named.2).mono fun others spelled => ?_
      rw [← literal]
      exact .someMoreNames separates isIdentifier spelled

theorem names {names : List String}
    (named : ∀ name ∈ names, isName name = true) :
    Finds (joinWith ", " names).toList (Spells (.names names) 0) := by
  cases names with
  | nil => exact .nil .noNames
  | cons name rest =>
      rw [List.forall_mem_cons] at named
      rw [toList_joinWith_cons]
      refine findsName named.1 (separates_flatMap _) fun token isIdentifier literal => ?_
      refine (moreNames named.2).mono fun others spelled => ?_
      rw [← literal]
      exact .someNames isIdentifier spelled

/-! ### Statements -/

theorem bind {word : String}
    (named : isName word = true) (stable : IsStable (.expression value)) :
    IsStable (.statement (.bind word value)) := by
  have text : (Stmt.bind word value).text.toList =
      ['l', 'e', 't'] ++
        ' ' :: (word.toList ++ ' ' :: ("=".toList ++ ' ' :: (value.text.toList ++ [';']))) := by
    change ("let " ++ word ++ " = " ++ value.text ++ ";").toList = _
    simp only [String.toList_append, List.append_assoc, List.cons_append]
    rfl
  have equals : Kind.assign.symbol? = some "=" := rfl
  rw [IsStable, text]
  refine ⟨⟨'l', _, rfl, rfl⟩, ?_⟩
  refine .word ['l', 'e', 't'] rfl rfl fun keyword begins _ => .blank rfl ?_
  refine findsName named rfl fun token isIdentifier literal => .blank rfl ?_
  refine .symbol equals rfl fun sign isAssign _ => .blank rfl ?_
  refine stable.finds.append rfl fun tokens ⟨power, links, nesting, _, spelled⟩ => ?_
  refine .mark .semicolon rfl (fun _ => rfl) fun semicolon stray => .nil ?_
  rw [← literal]
  exact .semicolon (.bind begins isIdentifier isAssign spelled) stray

theorem returnNothing : IsStable (.statement (.return none)) := by
  have text : (Stmt.return none).text.toList = ['r', 'e', 't', 'u', 'r', 'n'] ++ [';'] := rfl
  rw [IsStable, text]
  refine ⟨⟨'r', _, rfl, rfl⟩, ?_⟩
  refine .word ['r', 'e', 't', 'u', 'r', 'n'] rfl rfl fun keyword begins _ => ?_
  refine .mark .semicolon rfl (fun _ => rfl) fun semicolon stray => .nil ?_
  exact .semicolon (.returnNothing begins) stray

theorem returnValue
    (stable : IsStable (.expression value)) :
    IsStable (.statement (.return (some value))) := by
  have text : (Stmt.return (some value)).text.toList =
      ['r', 'e', 't', 'u', 'r', 'n'] ++ ' ' :: (value.text.toList ++ [';']) := by
    change ("return " ++ value.text ++ ";").toList = _
    simp only [String.toList_append, List.append_assoc, List.cons_append]
    rfl
  rw [IsStable, text]
  refine ⟨⟨'r', _, rfl, rfl⟩, ?_⟩
  refine .word ['r', 'e', 't', 'u', 'r', 'n'] rfl rfl fun keyword begins _ => .blank rfl ?_
  refine stable.finds.append rfl fun tokens ⟨power, links, nesting, _, spelled⟩ => ?_
  refine .mark .semicolon rfl (fun _ => rfl) fun semicolon stray => .nil ?_
  exact .semicolon (.returnValue begins spelled) stray

theorem expression
    (stable : IsStable (.expression value)) :
    IsStable (.statement (.expression value)) := by
  refine ⟨stable.opens, stable.finds.mono ?_⟩
  intro tokens ⟨power, links, nesting, _, spelled⟩ trees others ⟨otherNesting, otherSpelled⟩ apart
  exact ⟨_, .someStatements (.expression spelled) (.inr (.inr ⟨rfl, apart value rfl⟩))
    otherSpelled⟩

/-- Statements that begin with neither a bracket nor a minus go on with no expression. -/
theorem headKind_not_mem {char : Char} {tokens : List Token}
    (head : ∀ token ∈ tokens.head?, ∀ symbol, token.kind.symbol? = some symbol →
      symbol.toList.head? = some char)
    (notParen : char ≠ '(') (notBracket : char ≠ '[') (notMinus : char ≠ '-') :
    Parser.headKind tokens ∉ [Kind.leftParen, .leftBracket, .minus] := by
  cases tokens with
  | nil => decide
  | cons token rest =>
      have begins := head token rfl
      change token.kind ∉ _
      simp only [List.mem_cons, List.not_mem_nil, or_false]
      rintro (isParen | isBracket | isMinus)
      · rw [isParen] at begins
        exact notParen (Option.some.inj (begins "(" rfl)).symm
      · rw [isBracket] at begins
        exact notBracket (Option.some.inj (begins "[" rfl)).symm
      · rw [isMinus] at begins
        exact notMinus (Option.some.inj (begins "-" rfl)).symm

theorem block {trees : List Stmt}
    (stable : ∀ statement ∈ trees, IsStable (.statement statement))
    (apart : KeepsApart trees) :
    IsStable (.block trees) := by
  intro separator blank
  induction trees with
  | nil => exact .nil ⟨0, .noStatements⟩
  | cons first rest induction =>
      rw [List.forall_mem_cons] at stable
      cases rest with
      | nil =>
          refine stable.1.finds.mono fun tokens leads => ?_
          have whole := leads [] [] ⟨0, .noStatements⟩ fun _ _ => by decide
          rwa [List.append_nil] at whole
      | cons next rest =>
          rw [KeepsApart, List.isChain_cons_cons] at apart
          have later := induction stable.2 apart.2
          rcases (stable.2 next List.mem_cons_self).opens with ⟨char, nextRest, begins, opens⟩
          have start : ∃ others, (joinWith (String.ofList [separator])
              (textOfBlock (next :: rest))).toList = char :: others := by
            rw [textOfBlock, toList_joinWith_cons, begins]
            exact ⟨_, rfl⟩
          rcases start with ⟨others, start⟩
          rw [start] at later
          rw [textOfBlock, textOfBlock, toList_joinWith_cons_cons, ← textOfBlock, start,
            String.toList_ofList]
          refine stable.1.finds.append (separates_of_isBlank blank _) fun tokens leads => ?_
          refine .blank blank ?_
          refine (later.head (layoutLength_of_opensExpression opens)).mono ?_
          intro others ⟨written, head⟩
          refine leads _ others written fun value isExpression => ?_
          have bracket := apart.1
          rw [isExpression, Stmt.staysApart, begins] at bracket
          refine headKind_not_mem head ?_ ?_ ?_ <;>
            · rintro rfl
              contradiction

/-- A block is read back with its braces. -/
theorem braces {trees : List Stmt}
    (stable : IsStable (.block trees)) :
    Finds (blockText trees) (Writes (.block trees)) := by
  refine .mark .leftBrace rfl (fun _ => rfl) fun opening opens => .blank rfl ?_
  refine (stable ' ' rfl).append rfl fun tokens ⟨nesting, spelled⟩ => .blank rfl ?_
  refine .mark .rightBrace rfl (fun _ => rfl) fun closing closes => .nil ?_
  exact ⟨_, .block opens spelled closes⟩

/-! ### Expressions that hold others -/

theorem conditional {consequence : Block}
    (conditionStable : IsStable (.expression condition)) (stable : IsStable (.block consequence)) :
    IsStable (.expression (.conditional condition consequence none)) := by
  have text : (Expr.conditional condition consequence none).text.toList =
      ['i', 'f'] ++
        ' ' :: '(' :: (condition.text.toList ++ ')' :: ' ' :: blockText consequence) := by
    change ("if (" ++ condition.text ++ ") \x7b " ++ joinWith " " (textOfBlock consequence) ++
      " \x7d").toList = _
    simp only [blockText, String.toList_append, List.append_assoc, List.cons_append]
    rfl
  rw [IsStable, text]
  refine ⟨⟨'i', _, rfl, rfl⟩, ?_⟩
  refine .word ['i', 'f'] rfl rfl fun keyword begins _ => .blank rfl ?_
  refine .mark .leftParen rfl (fun _ => rfl) fun opening opens => ?_
  refine conditionStable.finds.append rfl fun tokens ⟨power, links, nesting, _, spelled⟩ => ?_
  refine .mark .rightParen rfl (fun _ => rfl) fun closing closes => .blank rfl ?_
  refine stable.braces.mono fun blockTokens ⟨blockNesting, blockSpelled⟩ => ?_
  have inner := Spells.conditional opens spelled closes blockSpelled .noAlternative
  rw [List.append_nil] at inner
  exact ⟨_, _, _, by decide, .choice begins inner⟩

theorem conditionalElse {consequence alternative : Block}
    (conditionStable : IsStable (.expression condition)) (stable : IsStable (.block consequence))
    (otherStable : IsStable (.block alternative)) :
    IsStable (.expression (.conditional condition consequence (some alternative))) := by
  have text : (Expr.conditional condition consequence (some alternative)).text.toList =
      ['i', 'f'] ++ ' ' :: '(' :: (condition.text.toList ++ ')' :: ' ' :: (blockText consequence ++
        ' ' :: (['e', 'l', 's', 'e'] ++ ' ' :: blockText alternative))) := by
    change ("if (" ++ condition.text ++ ") \x7b " ++ joinWith " " (textOfBlock consequence) ++
      " \x7d else \x7b " ++ joinWith " " (textOfBlock alternative) ++ " \x7d").toList = _
    simp only [blockText, String.toList_append, List.append_assoc, List.cons_append]
    rfl
  rw [IsStable, text]
  refine ⟨⟨'i', _, rfl, rfl⟩, ?_⟩
  refine .word ['i', 'f'] rfl rfl fun keyword begins _ => .blank rfl ?_
  refine .mark .leftParen rfl (fun _ => rfl) fun opening opens => ?_
  refine conditionStable.finds.append rfl fun tokens ⟨power, links, nesting, _, spelled⟩ => ?_
  refine .mark .rightParen rfl (fun _ => rfl) fun closing closes => .blank rfl ?_
  refine stable.braces.append rfl fun blockTokens ⟨blockNesting, blockSpelled⟩ => .blank rfl ?_
  refine .word ['e', 'l', 's', 'e'] rfl rfl fun other goesOn _ => .blank rfl ?_
  refine otherStable.braces.mono fun otherTokens ⟨otherNesting, otherSpelled⟩ => ?_
  exact ⟨_, _, _, by decide,
    .choice begins (.conditional opens spelled closes blockSpelled (.elseBlock goesOn otherSpelled))⟩

theorem function {parameters : List String} {body : Block}
    (named : ∀ name ∈ parameters, isName name = true) (stable : IsStable (.block body)) :
    IsStable (.expression (.function parameters body)) := by
  have text : (Expr.function parameters body).text.toList =
      ['f', 'n'] ++
        '(' :: ((joinWith ", " parameters).toList ++ ')' :: ' ' :: blockText body) := by
    change ("fn(" ++ joinWith ", " parameters ++ ") \x7b " ++ joinWith " " (textOfBlock body) ++
      " \x7d").toList = _
    simp only [blockText, String.toList_append, List.append_assoc, List.cons_append]
    rfl
  rw [IsStable, text]
  refine ⟨⟨'f', _, rfl, rfl⟩, ?_⟩
  refine .word ['f', 'n'] rfl rfl fun keyword begins _ => ?_
  refine .mark .leftParen rfl (fun _ => rfl) fun opening opens => ?_
  refine (names named).append rfl fun nameTokens namesSpelled => ?_
  refine .mark .rightParen rfl (fun _ => rfl) fun closing closes => .blank rfl ?_
  refine stable.braces.mono fun tokens ⟨nesting, spelled⟩ => ?_
  exact ⟨_, _, _, by decide, .function begins opens namesSpelled closes spelled⟩

theorem call {arguments : List Expr}
    (calleeStable : IsStable (.expression callee))
    (stable : ∀ tree ∈ arguments, IsStable (.expression tree)) :
    IsStable (.expression (.call callee arguments)) := by
  have text : (Expr.call callee arguments).text.toList =
      callee.text.toList ++ '(' :: ((joinWith ", " (textOfList arguments)).toList ++ [')']) := by
    change (callee.text ++ "(" ++ joinWith ", " (textOfList arguments) ++ ")").toList = _
    simp only [String.toList_append, List.append_assoc]
    rfl
  rw [IsStable, text]
  constructor
  · rcases calleeStable.opens with ⟨char, rest, equal, opens⟩
    exact ⟨char, _, by rw [equal, List.cons_append], opens⟩
  refine calleeStable.finds.append rfl fun calleeTokens ⟨_, _, _, tight, calleeSpelled⟩ => ?_
  refine .mark .leftParen rfl (fun _ => rfl) fun opening opens => ?_
  refine (Finds.items (forall₂_textOfList stable)).append rfl fun tokens ⟨nesting, spelled⟩ => ?_
  refine .mark .rightParen rfl (fun _ => rfl) fun closing closes => .nil ?_
  exact ⟨_, _, _, Nat.le_refl _, .call calleeSpelled tight opens spelled closes⟩

theorem array {elements : List Expr}
    (stable : ∀ tree ∈ elements, IsStable (.expression tree)) :
    IsStable (.expression (.array elements)) := by
  have text : (Expr.array elements).text.toList =
      '[' :: ((joinWith ", " (textOfList elements)).toList ++ [']']) := by
    change ("[" ++ joinWith ", " (textOfList elements) ++ "]").toList = _
    simp only [String.toList_append, List.append_assoc]
    rfl
  rw [IsStable, text]
  exact ⟨⟨'[', _, rfl, rfl⟩, .array (forall₂_textOfList stable)⟩

theorem index
    (collectionStable : IsStable (.expression collection))
    (stable : IsStable (.expression position)) :
    IsStable (.expression (.index collection position)) := by
  have text : (Expr.index collection position).text.toList =
      '(' :: (collection.text.toList ++ '[' :: (position.text.toList ++ [']']) ++ [')']) := by
    change ("(" ++ collection.text ++ "[" ++ position.text ++ "])").toList = _
    simp only [String.toList_append, List.append_assoc, List.cons_append]
    rfl
  rw [IsStable, text]
  refine group (collectionStable.finds.append rfl ?_)
  rintro leftTokens ⟨_, _, _, tight, leftSpelled⟩
  refine .mark .leftBracket rfl (fun _ => rfl) fun opening opens => ?_
  refine stable.finds.append rfl fun tokens ⟨_, _, _, _, spelled⟩ => ?_
  refine .mark .rightBracket rfl (fun _ => rfl) fun closing closes => .nil ?_
  exact ⟨_, _, _, .index leftSpelled tight opens spelled closes⟩

theorem hash {trees : List (Expr × Expr)}
    (stable : ∀ pair ∈ trees, IsStable (.expression pair.1) ∧ IsStable (.expression pair.2)) :
    IsStable (.expression (.hash trees)) := by
  have text : (Expr.hash trees).text.toList =
      '\x7b' :: ((joinWith ", " (textOfPairs trees)).toList ++ ['\x7d']) := by
    change ("\x7b" ++ joinWith ", " (textOfPairs trees) ++ "\x7d").toList = _
    simp only [String.toList_append, List.append_assoc]
    rfl
  rw [IsStable, text]
  exact ⟨⟨'\x7b', _, rfl, rfl⟩, .hash (forall₂_textOfPairs stable)⟩

end Part.IsStable

open Jet.Part in
/-- A tree of printable parts is read back from its canonical text. -/
theorem Part.isStable_of_obeys (whole : Part) (printable : Part.Obeys IsPrintable whole) :
    whole.IsStable := by
  induction whole using Part.induction with
  | step whole induction =>
      have holds := printable.holds
      have stable : ∀ child ∈ whole.children, child.IsStable := fun child member =>
        induction child member (printable.child member)
      cases whole with
      | block trees =>
          exact .block (fun statement member => stable _ (List.mem_map_of_mem member))
            (of_decide_eq_true holds.plain)
      | statement tree =>
          cases tree with
          | bind word value => exact .bind holds.textual (stable _ List.mem_cons_self)
          | «return» value =>
              cases value with
              | none => exact .returnNothing
              | some value => exact .returnValue (stable _ List.mem_cons_self)
          | expression value => exact .expression (stable _ List.mem_cons_self)
          | block body => exact False.elim holds.textual
      | expression tree =>
          cases tree with
          | name word => exact .name holds.textual
          | integer number => exact .integer holds.textual
          | float number => cases holds.plain
          | boolean value => exact .boolean value
          | string contents => exact .string contents
          | null => exact .null
          | unary symbol operand =>
              rcases holds.textual with ⟨kind, operator, known⟩
              exact .unary operator known (stable _ List.mem_cons_self)
          | binary left symbol right =>
              rcases holds.textual with ⟨kind, operator, known⟩
              exact .binary operator known (stable _ List.mem_cons_self)
                (stable _ (List.mem_cons_of_mem _ List.mem_cons_self))
          | assign word value => exact .assign holds.textual (stable _ List.mem_cons_self)
          | conditional condition consequence alternative =>
              cases alternative with
              | none =>
                  exact .conditional (stable _ List.mem_cons_self)
                    (stable _ (List.mem_cons_of_mem _ List.mem_cons_self))
              | some alternative =>
                  exact .conditionalElse (stable _ List.mem_cons_self)
                    (stable _ (List.mem_cons_of_mem _ List.mem_cons_self))
                    (stable _ (List.mem_cons_of_mem _ (List.mem_cons_of_mem _ List.mem_cons_self)))
          | function parameters body => exact .function holds.textual (stable _ List.mem_cons_self)
          | call callee arguments =>
              exact .call (stable _ List.mem_cons_self) fun tree member =>
                stable _ (List.mem_cons_of_mem _ (List.mem_map_of_mem member))
          | array elements =>
              exact .array fun tree member => stable _ (List.mem_map_of_mem member)
          | index collection position =>
              exact .index (stable _ List.mem_cons_self)
                (stable _ (List.mem_cons_of_mem _ List.mem_cons_self))
          | hash pairs =>
              exact .hash (Part.forall_mem_children_hash.mp stable)

/-! ## Programs -/

/-- A text that is read as a program is parsed as this program, if it is not nested too deeply. -/
theorem parseSource_of_finds {source : String} {trees : List Stmt}
    (finds : Finds source.toList (Writes (.statements trees)))
    (shallow : ∀ reading, parseSource source = .ok reading →
      ∀ problem ∈ reading.problems, problem.cause ≠ .nestedTooDeeply) :
    parseSource source = .ok ⟨⟨trees⟩, []⟩ := by
  rcases finds (.ofText source) [] (List.append_nil _).symm rfl with
    ⟨tokens, after, reads, ended, nesting, spelled⟩
  rcases tokenize_of_reads reads ended with ⟨finish, isEnd, tokenized⟩
  have noEnd : ∀ token ∈ tokens, token.kind ≠ .endOfInput :=
    fun token member => (spelled.tidy.usable token member).2.1
  have ending : Parser.headKind [finish] = .endOfInput := isEnd
  rw [← Parser.beforeEnd_append noEnd ending, ← tokenized] at spelled
  have settles := spelled.settlesParse
  rcases Nat.lt_or_ge maxNesting nesting with deep | fits
  · rcases settles.2 deep with ⟨reading, read, token, others, problems⟩
    exact absurd rfl (shallow reading read _ (problems ▸ List.mem_cons_self))
  · exact settles.1 fits

/--
The canonical text of a program that was read without problems is read as this program, if nothing
in it is a float or goes on with an expression statement, and the text is not nested too deeply.
-/
theorem parseSource_text {source : String} {program : Program}
    (parsed : parseSource source = .ok ⟨program, []⟩)
    (noFloat : ∀ value, ¬Part.Occurs (.expression (.float value)) (.block program.statements))
    (apart : ∀ trees, Part.Occurs (.block trees) (.block program.statements) →
      KeepsApart trees)
    (shallow : ∀ reading, parseSource program.text = .ok reading →
      ∀ problem ∈ reading.problems, problem.cause ≠ .nestedTooDeeply) :
    parseSource program.text = .ok ⟨program, []⟩ := by
  have textual := isTextual_of_parseSource parsed
  have printable : Part.Obeys Part.IsPrintable (.block program.statements) := by
    refine fun part occurs => ⟨textual part occurs, ?_⟩
    unfold Part.isPlain
    split
    · exact absurd occurs (noFloat _)
    · exact decide_eq_true (apart _ occurs)
    · rfl
  exact parseSource_of_finds (Part.isStable_of_obeys _ printable '\n' rfl) shallow

/-- A program with escapes, groups, a conditional behind an `else` and a function that is called. -/
def groupsAndEscapes : Program :=
  ⟨[.expression (.conditional (.name "a")
      [.expression (.index (.call (.name "f") [.string "\\\""]) (.integer 1))]
      (some [.expression (.conditional (.assign "b" (.integer 2))
        [.expression (.unary "-" (.integer 3))] none)])),
    .expression (.call (.function ["x"] [.return (some (.name "x"))]) [.integer 4])]⟩

/-- A sparingly written program is read back from its canonical text. -/
theorem parseSource_text_groupsAndEscapes :
    parseSource ("if (a) \x7b f(\"\\\\\\\"\")[1] \x7d else if (b = 2) \x7b -3 \x7d; " ++
        "fn(x) \x7b return x \x7d(4)") = .ok ⟨groupsAndEscapes, []⟩ ∧
      groupsAndEscapes.text =
        "if (a) \x7b (f(\"\\\\\\\"\")[1]) \x7d else \x7b if ((b = 2)) \x7b (-3) \x7d \x7d\n" ++
          "fn(x) \x7b return x; \x7d(4)" ∧
      parseSource groupsAndEscapes.text = .ok ⟨groupsAndEscapes, []⟩ := by
  have parsed : parseSource
      ("if (a) \x7b f(\"\\\\\\\"\")[1] \x7d else if (b = 2) \x7b -3 \x7d; " ++
        "fn(x) \x7b return x \x7d(4)") = .ok ⟨groupsAndEscapes, []⟩ := by cbv
  have plain : check Part.children Part.isPlain 12 (.block groupsAndEscapes.statements) = true := by cbv
  have plain := obeys_of_check plain
  have causes : (parseSource groupsAndEscapes.text).toOption.map
      (fun reading => reading.problems.map Problem.cause) = some [] := by cbv
  refine ⟨parsed, by cbv, parseSource_text parsed ?_ ?_ ?_⟩
  · exact fun value occurs => Bool.false_ne_true (plain _ occurs)
  · exact fun trees occurs => of_decide_eq_true (plain _ occurs)
  · intro reading read problem member
    rw [read] at causes
    have none := List.map_eq_nil_iff.mp (Option.some.inj causes)
    exact absurd (none ▸ member) List.not_mem_nil

end Jet
