import Jet.Proofs.Grammar.Extent

/-!
# Spellings

The grammar as a relation between trees and token lists.  `Spells phrase nesting tokens` says that
the tokens, all of them and in their order, are one way to write a phrase: an expression, a list of
statements, or one of the parts that these are made of.

An expression is spelled together with the power of its loosest operator that is not in parentheses.
Operands have to bind tighter than the operator in front of them and at least as tightly as the one
behind them, an assigned target is a name, and whatever breaks these rules stands in parentheses,
which may also be put around any other expression.  An `else` may be followed by another conditional
in place of a block that holds only this conditional.  Any number of semicolons may stand between
statements, a comma may stand behind the last pair of a hash.

The nesting of a spelling is the number of levels that it takes: one for an expression, one more for
what is inside of it, and one more for each link of a chain of operators, calls and indices.  Names
in the relation are chosen so that `nesting` is always the whole and `links` the chain on the left.
-/

namespace Jet

variable {tokens rest : List Token} {power nesting links : Nat} {tree : Expr} {token : Token}

/-- The power of a call or an indexed expression, which are closed on the right. -/
def postfixPower : Nat := 11

/-- The power of an expression that is closed on both sides. -/
def primaryPower : Nat := 12

namespace Kind

theorem power_le_postfixPower (kind : Kind) :
    kind.power ≤ postfixPower := by
  cases kind <;> decide

/-- Whether a token is an operator in front of its operand. -/
def isUnary : Kind → Bool
  | bang | minus => true
  | _ => false

/-- Whether a token is an operator between two operands, other than the assignment. -/
def isBinary (kind : Kind) : Bool :=
  assign.power < kind.power && kind.power < unaryPower

theorem isBinary_iff {kind : Kind} :
    kind.isBinary = true ↔ assign.power < kind.power ∧ kind.power < unaryPower := by
  simp [isBinary]

/-- What may go on with an expression and is no call, index or assignment is an operator. -/
theorem isBinary_of_power {kind : Kind}
    (goesOn : lowestPower < kind.power)
    (other : kind ∉ [leftParen, leftBracket, assign]) :
    kind.isBinary = true := by
  cases kind <;> simp_all [isBinary, power, lowestPower, unaryPower]

theorem rightPower_of_isBinary {kind : Kind}
    (binary : kind.isBinary = true) :
    kind.rightPower = kind.power := by
  cases kind <;> simp_all [isBinary, power, lowestPower, rightPower, associativity]

/-- The token that closes what a token opens. -/
def closing? : Kind → Option Kind
  | leftParen => some rightParen
  | leftBrace => some rightBrace
  | leftBracket => some rightBracket
  | _ => none

/-- Whether a token opens or closes a group. -/
def isBracket : Kind → Bool
  | leftParen | rightParen | leftBrace | rightBrace | leftBracket | rightBracket => true
  | _ => false

end Kind

/-- The expression that a token is on its own. -/
def Token.atom? (token : Token) : Option Expr :=
  match token.kind with
  | .identifier => some (.name token.literal)
  | .integer => (Literal.integer? token.literal).map .integer
  | .float => (Literal.double? token.literal).map .float
  | .string => some (.string token.literal)
  | .trueWord => some (.boolean true)
  | .falseWord => some (.boolean false)
  | .nullWord => some .null
  | _ => none

/-- Whether a statement is a `return` without a value. -/
def Stmt.isBareReturn : Stmt → Bool
  | .return none => true
  | _ => false

/--
Whether a statement may stand right in front of a token: a semicolon, the end of the list, or else
the start of another statement that could not be read as going on with this one.
-/
def Stmt.mayPrecede (statement : Stmt) (next : Kind) : Prop :=
  next = .semicolon ∨ next = .endOfInput ∨
    statement.isBareReturn = false ∧ next ∉ [Kind.leftParen, .leftBracket, .minus]

/-- What some tokens may spell. -/
inductive Phrase where
  /-- An expression, with the power of its loosest operator and the number of links before it. -/
  | expression (power links : Nat) (tree : Expr)
  /-- A conditional behind its `if`. -/
  | conditional (tree : Expr)
  /-- What may follow the first block of a conditional. -/
  | alternative (trees : Option Block)
  | block (trees : Block)
  | statement (tree : Stmt)
  | statements (trees : Block)
  | items (trees : List Expr)
  /-- The items after the first one, each behind a comma. -/
  | moreItems (trees : List Expr)
  | pairs (trees : List (Expr × Expr))
  | names (names : List String)
  /-- The names after the first one, each behind a comma. -/
  | moreNames (names : List String)

/-- The tokens spell the phrase, and nest so deeply. -/
inductive Spells : Phrase → Nat → List Token → Prop where
  | atom
      {tree : Expr} {token : Token}
      (reads : token.atom? = some tree) :
      Spells (.expression primaryPower 0 tree) 1 [token]
  | unary
      {power links : Nat} {tree : Expr} {nesting : Nat} {tokens : List Token} {token : Token}
      (operator : token.kind.isUnary = true)
      (operand : Spells (.expression power links tree) nesting tokens)
      (tight : unaryPower ≤ power) :
      Spells (.expression unaryPower 0 (.unary token.literal tree)) (nesting + 1)
        (token :: tokens)
  | group
      {power links : Nat} {tree : Expr} {nesting : Nat} {tokens : List Token}
      {opening closing : Token}
      (opens : opening.kind = .leftParen)
      (inner : Spells (.expression power links tree) nesting tokens)
      (closes : closing.kind = .rightParen) :
      Spells (.expression primaryPower 0 tree) (nesting + 1)
        (opening :: (tokens ++ [closing]))
  | choice
      {tree : Expr} {nesting : Nat} {tokens : List Token} {word : Token}
      (begins : word.kind = .ifWord)
      (inner : Spells (.conditional tree) nesting tokens) :
      Spells (.expression primaryPower 0 tree) (nesting + 1) (word :: tokens)
  | function
      {names : List String} {nameTokens : List Token} {trees : Block} {nesting : Nat}
      {tokens : List Token} {word opening closing : Token}
      (begins : word.kind = .fnWord)
      (opens : opening.kind = .leftParen)
      (parameters : Spells (.names names) 0 nameTokens)
      (closes : closing.kind = .rightParen)
      (body : Spells (.block trees) nesting tokens) :
      Spells (.expression primaryPower 0 (.function names trees)) (nesting + 1)
        (word :: opening :: (nameTokens ++ closing :: tokens))
  | array
      {trees : List Expr} {nesting : Nat} {tokens : List Token} {opening closing : Token}
      (opens : opening.kind = .leftBracket)
      (elements : Spells (.items trees) nesting tokens)
      (closes : closing.kind = .rightBracket) :
      Spells (.expression primaryPower 0 (.array trees)) (nesting + 1)
        (opening :: (tokens ++ [closing]))
  | hash
      {trees : List (Expr × Expr)} {nesting : Nat} {tokens : List Token} {opening closing : Token}
      (opens : opening.kind = .leftBrace)
      (entries : Spells (.pairs trees) nesting tokens)
      (closes : closing.kind = .rightBrace) :
      Spells (.expression primaryPower 0 (.hash trees)) (nesting + 1)
        (opening :: (tokens ++ [closing]))
  | binary
      {leftPower links : Nat} {leftTree : Expr} {leftNesting : Nat} {leftTokens : List Token}
      {rightPower rightLinks : Nat} {rightTree : Expr} {nesting : Nat} {tokens : List Token}
      {token : Token}
      (left : Spells (.expression leftPower links leftTree) leftNesting leftTokens)
      (operator : token.kind.isBinary = true)
      (leftTight : token.kind.power ≤ leftPower)
      (right : Spells (.expression rightPower rightLinks rightTree) nesting tokens)
      (rightTight : token.kind.power < rightPower) :
      Spells (.expression token.kind.power (links + 1)
          (.binary leftTree token.literal rightTree))
        (max leftNesting (links + 2 + nesting)) (leftTokens ++ token :: tokens)
  | assign
      {name : String} {leftNesting : Nat} {leftTokens : List Token} {power links : Nat}
      {tree : Expr} {nesting : Nat} {tokens : List Token} {token : Token}
      (target : Spells (.expression primaryPower 0 (.name name)) leftNesting leftTokens)
      (operator : token.kind = .assign)
      (value : Spells (.expression power links tree) nesting tokens) :
      Spells (.expression Kind.assign.power 1 (.assign name tree))
        (max leftNesting (2 + nesting)) (leftTokens ++ token :: tokens)
  | call
      {power links : Nat} {tree : Expr} {leftNesting : Nat} {leftTokens : List Token}
      {trees : List Expr} {nesting : Nat} {tokens : List Token} {opening closing : Token}
      (callee : Spells (.expression power links tree) leftNesting leftTokens)
      (tight : postfixPower ≤ power)
      (opens : opening.kind = .leftParen)
      (arguments : Spells (.items trees) nesting tokens)
      (closes : closing.kind = .rightParen) :
      Spells (.expression postfixPower (links + 1) (.call tree trees))
        (max leftNesting (links + 2 + nesting))
        (leftTokens ++ opening :: (tokens ++ [closing]))
  | index
      {power links : Nat} {tree : Expr} {leftNesting : Nat} {leftTokens : List Token}
      {innerPower innerLinks : Nat} {innerTree : Expr} {nesting : Nat} {tokens : List Token}
      {opening closing : Token}
      (collection : Spells (.expression power links tree) leftNesting leftTokens)
      (tight : postfixPower ≤ power)
      (opens : opening.kind = .leftBracket)
      (position : Spells (.expression innerPower innerLinks innerTree) nesting tokens)
      (closes : closing.kind = .rightBracket) :
      Spells (.expression postfixPower (links + 1) (.index tree innerTree))
        (max leftNesting (links + 2 + nesting))
        (leftTokens ++ opening :: (tokens ++ [closing]))
  | conditional
      {power links : Nat} {tree : Expr} {nesting : Nat} {tokens : List Token} {trees : Block}
      {blockNesting : Nat} {blockTokens : List Token} {others : Option Block} {otherNesting : Nat}
      {otherTokens : List Token} {opening closing : Token}
      (opens : opening.kind = .leftParen)
      (condition : Spells (.expression power links tree) nesting tokens)
      (closes : closing.kind = .rightParen)
      (consequence : Spells (.block trees) blockNesting blockTokens)
      (alternative : Spells (.alternative others) otherNesting otherTokens) :
      Spells (.conditional (.conditional tree trees others))
        (max nesting (max blockNesting otherNesting))
        (opening :: (tokens ++ closing :: (blockTokens ++ otherTokens)))
  | noAlternative :
      Spells (.alternative none) 0 []
  | elseBlock
      {trees : Block} {nesting : Nat} {tokens : List Token} {word : Token}
      (begins : word.kind = .elseWord)
      (inner : Spells (.block trees) nesting tokens) :
      Spells (.alternative (some trees)) nesting (word :: tokens)
  | elseIf
      {tree : Expr} {nesting : Nat} {tokens : List Token} {word nextWord : Token}
      (begins : word.kind = .elseWord)
      (goesOn : nextWord.kind = .ifWord)
      (inner : Spells (.conditional tree) nesting tokens) :
      Spells (.alternative (some [.expression tree])) nesting
        (word :: nextWord :: tokens)
  | block
      {trees : Block} {nesting : Nat} {tokens : List Token} {opening closing : Token}
      (opens : opening.kind = .leftBrace)
      (inner : Spells (.statements trees) nesting tokens)
      (closes : closing.kind = .rightBrace) :
      Spells (.block trees) nesting (opening :: (tokens ++ [closing]))
  | bind
      {power links : Nat} {tree : Expr} {nesting : Nat} {tokens : List Token}
      {word name sign : Token}
      (begins : word.kind = .letWord)
      (named : name.kind = .identifier)
      (equals : sign.kind = .assign)
      (value : Spells (.expression power links tree) nesting tokens) :
      Spells (.statement (.bind name.literal tree)) nesting
        (word :: name :: sign :: tokens)
  | returnNothing
      {word : Token}
      (begins : word.kind = .returnWord) :
      Spells (.statement (.return none)) 0 [word]
  | returnValue
      {power links : Nat} {tree : Expr} {nesting : Nat} {tokens : List Token} {word : Token}
      (begins : word.kind = .returnWord)
      (value : Spells (.expression power links tree) nesting tokens) :
      Spells (.statement (.return (some tree))) nesting (word :: tokens)
  | expression
      {power links : Nat} {tree : Expr} {nesting : Nat} {tokens : List Token}
      (value : Spells (.expression power links tree) nesting tokens) :
      Spells (.statement (.expression tree)) nesting tokens
  | noStatements :
      Spells (.statements []) 0 []
  | semicolon
      {trees : Block} {nesting : Nat} {tokens : List Token} {token : Token}
      (stray : token.kind = .semicolon)
      (others : Spells (.statements trees) nesting tokens) :
      Spells (.statements trees) nesting (token :: tokens)
  | someStatements
      {tree : Stmt} {firstNesting : Nat} {firstTokens tokens : List Token} {trees : Block}
      {nesting : Nat}
      (first : Spells (.statement tree) firstNesting firstTokens)
      (apart : tree.mayPrecede (Parser.headKind tokens))
      (others : Spells (.statements trees) nesting tokens) :
      Spells (.statements (tree :: trees)) (max firstNesting nesting)
        (firstTokens ++ tokens)
  | noItems :
      Spells (.items []) 0 []
  | someItems
      {power links : Nat} {tree : Expr} {firstNesting : Nat} {firstTokens : List Token}
      {trees : List Expr} {nesting : Nat} {tokens : List Token}
      (first : Spells (.expression power links tree) firstNesting firstTokens)
      (others : Spells (.moreItems trees) nesting tokens) :
      Spells (.items (tree :: trees)) (max firstNesting nesting) (firstTokens ++ tokens)
  | noMoreItems :
      Spells (.moreItems []) 0 []
  | someMoreItems
      {power links : Nat} {tree : Expr} {firstNesting : Nat} {firstTokens : List Token}
      {trees : List Expr} {nesting : Nat} {tokens : List Token} {comma : Token}
      (separates : comma.kind = .comma)
      (first : Spells (.expression power links tree) firstNesting firstTokens)
      (others : Spells (.moreItems trees) nesting tokens) :
      Spells (.moreItems (tree :: trees)) (max firstNesting nesting)
        (comma :: (firstTokens ++ tokens))
  | noPairs :
      Spells (.pairs []) 0 []
  | lastPair
      {keyPower keyLinks : Nat} {keyTree : Expr} {keyNesting : Nat} {keyTokens : List Token}
      {power links : Nat} {tree : Expr} {nesting : Nat} {tokens : List Token} {colon : Token}
      (key : Spells (.expression keyPower keyLinks keyTree) keyNesting keyTokens)
      (separates : colon.kind = .colon)
      (value : Spells (.expression power links tree) nesting tokens) :
      Spells (.pairs [(keyTree, tree)]) (max keyNesting nesting)
        (keyTokens ++ colon :: tokens)
  | somePairs
      {keyPower keyLinks : Nat} {keyTree : Expr} {keyNesting : Nat} {keyTokens : List Token}
      {power links : Nat} {tree : Expr} {nesting : Nat} {tokens : List Token}
      {trees : List (Expr × Expr)} {otherNesting : Nat} {otherTokens : List Token}
      {colon comma : Token}
      (key : Spells (.expression keyPower keyLinks keyTree) keyNesting keyTokens)
      (separates : colon.kind = .colon)
      (value : Spells (.expression power links tree) nesting tokens)
      (goesOn : comma.kind = .comma)
      (others : Spells (.pairs trees) otherNesting otherTokens) :
      Spells (.pairs ((keyTree, tree) :: trees))
        (max keyNesting (max nesting otherNesting))
        (keyTokens ++ colon :: (tokens ++ comma :: otherTokens))
  | noNames :
      Spells (.names []) 0 []
  | someNames
      {names : List String} {tokens : List Token} {name : Token}
      (named : name.kind = .identifier)
      (others : Spells (.moreNames names) 0 tokens) :
      Spells (.names (name.literal :: names)) 0 (name :: tokens)
  | noMoreNames :
      Spells (.moreNames []) 0 []
  | someMoreNames
      {names : List String} {tokens : List Token} {comma name : Token}
      (separates : comma.kind = .comma)
      (named : name.kind = .identifier)
      (others : Spells (.moreNames names) 0 tokens) :
      Spells (.moreNames (name.literal :: names)) 0 (comma :: name :: tokens)

variable {phrase : Phrase}

/-! ## What may stand around an expression -/

namespace Parser

/-- Whether an expression of some power can be read where only tighter operators are taken. -/
def Admits (minimum power : Nat) : Prop :=
  minimum ≤ unaryPower ∧ (minimum < power ∨ unaryPower ≤ power)

/-- The power that an operator behind an expression must not exceed, lest it take a part of it. -/
def closingPower (power : Nat) : Nat :=
  if power = Kind.assign.power then lowestPower else power

theorem lowestPower_le_closingPower
    (above : lowestPower < power) :
    lowestPower ≤ closingPower power := by
  unfold closingPower
  split
  · exact Nat.le_refl _
  · exact Nat.le_of_lt above

theorem closingPower_le
    (above : lowestPower < power) :
    closingPower power ≤ power := by
  unfold closingPower
  split
  · exact Nat.le_of_lt above
  · exact Nat.le_refl _

theorem closingPower_of_lt
    (above : Kind.assign.power < power) :
    closingPower power = power :=
  if_neg (Nat.ne_of_gt above)

end Parser

/-! ## Where a spelling begins -/

/-- Whether a token may begin a statement. -/
def Kind.beginsStatement (kind : Kind) : Bool :=
  kind == .letWord || kind == .returnWord || kind.startsExpression

/--
Whether a token may come first in the spelling of a phrase; the end of the input stands for a
spelling without any tokens.
-/
def Phrase.mayBegin : Phrase → Kind → Bool
  | .expression .., kind => kind.startsExpression
  | .conditional _, kind => kind == .leftParen
  | .alternative _, kind => kind == .elseWord || kind == .endOfInput
  | .block _, kind => kind == .leftBrace
  | .statement _, kind => kind.beginsStatement
  | .statements _, kind =>
      kind == .semicolon || kind == .endOfInput || kind.beginsStatement
  | .items _, kind | .pairs _, kind => kind == .endOfInput || kind.startsExpression
  | .names _, kind => kind == .identifier || kind == .endOfInput
  | .moreItems _, kind | .moreNames _, kind => kind == .comma || kind == .endOfInput

theorem Kind.startsExpression_of_isUnary {kind : Kind}
    (unary : kind.isUnary = true) :
    kind.startsExpression = true := by
  cases kind <;> simp_all [isUnary, startsExpression]

theorem Token.startsExpression_of_atom {token : Token} {tree : Expr}
    (reads : token.atom? = some tree) :
    token.kind.startsExpression = true := by
  unfold Token.atom? at reads
  split at reads <;> simp_all [Kind.startsExpression]

namespace Spells

open Jet.Parser

theorem ne_nil_of_startsExpression {tokens : List Token}
    (starts : (headKind tokens).startsExpression = true) :
    tokens ≠ [] := by
  rintro rfl
  simp [Kind.startsExpression] at starts

theorem ne_nil_of_beginsStatement {tokens : List Token}
    (begins : (headKind tokens).beginsStatement = true) :
    tokens ≠ [] := by
  rintro rfl
  simp [Kind.beginsStatement, Kind.startsExpression] at begins

/-- A spelling begins with a token that may begin the phrase. -/
theorem mayBegin_headKind
    (spelled : Spells phrase nesting tokens) :
    phrase.mayBegin (headKind tokens) = true := by
  induction spelled with
  | atom reads => exact Token.startsExpression_of_atom reads
  | unary operator => exact Kind.startsExpression_of_isUnary operator
  | group opens => simp [Phrase.mayBegin, Kind.startsExpression, opens]
  | choice begins => simp [Phrase.mayBegin, Kind.startsExpression, begins]
  | function begins => simp [Phrase.mayBegin, Kind.startsExpression, begins]
  | array opens => simp [Phrase.mayBegin, Kind.startsExpression, opens]
  | hash opens => simp [Phrase.mayBegin, Kind.startsExpression, opens]
  | binary left operator leftTight right rightTight leftBegins =>
      rw [headKind_append (ne_nil_of_startsExpression leftBegins)]
      exact leftBegins
  | assign target operator value targetBegins =>
      rw [headKind_append (ne_nil_of_startsExpression targetBegins)]
      exact targetBegins
  | call callee tight opens arguments closes calleeBegins =>
      rw [headKind_append (ne_nil_of_startsExpression calleeBegins)]
      exact calleeBegins
  | index collection tight opens position closes collectionBegins =>
      rw [headKind_append (ne_nil_of_startsExpression collectionBegins)]
      exact collectionBegins
  | conditional opens => simp [Phrase.mayBegin, opens]
  | elseBlock begins => simp [Phrase.mayBegin, begins]
  | elseIf begins => simp [Phrase.mayBegin, begins]
  | block opens => simp [Phrase.mayBegin, opens]
  | bind begins => simp [Phrase.mayBegin, Kind.beginsStatement, begins]
  | returnNothing begins => simp [Phrase.mayBegin, Kind.beginsStatement, begins]
  | returnValue begins => simp [Phrase.mayBegin, Kind.beginsStatement, begins]
  | expression value valueBegins =>
      have starts : (headKind _).startsExpression = true := valueBegins
      simp [Phrase.mayBegin, Kind.beginsStatement, starts]
  | semicolon stray => simp [Phrase.mayBegin, stray]
  | someStatements first apart others firstBegins =>
      have begins : (headKind _).beginsStatement = true := firstBegins
      rw [headKind_append (ne_nil_of_beginsStatement begins)]
      simp [Phrase.mayBegin, begins]
  | someItems first others firstBegins =>
      have starts : (headKind _).startsExpression = true := firstBegins
      rw [headKind_append (ne_nil_of_startsExpression starts)]
      simp [Phrase.mayBegin, starts]
  | someMoreItems separates => simp [Phrase.mayBegin, separates]
  | lastPair key separates value keyBegins =>
      have starts : (headKind _).startsExpression = true := keyBegins
      rw [headKind_append (ne_nil_of_startsExpression starts)]
      simp [Phrase.mayBegin, starts]
  | somePairs key separates value goesOn others keyBegins =>
      have starts : (headKind _).startsExpression = true := keyBegins
      rw [headKind_append (ne_nil_of_startsExpression starts)]
      simp [Phrase.mayBegin, starts]
  | someNames named => simp [Phrase.mayBegin, named]
  | someMoreNames separates => simp [Phrase.mayBegin, separates]
  | noAlternative | noStatements | noItems | noMoreItems | noPairs | noNames
  | noMoreNames => rfl

/-- An expression begins with a token that may start one. -/
theorem startsExpression
    (spelled : Spells (.expression power links tree) nesting tokens) :
    (headKind tokens).startsExpression = true :=
  spelled.mayBegin_headKind

/-- Every expression has an operator looser than none, or none at all. -/
theorem lowestPower_lt
    (spelled : Spells (.expression power links tree) nesting tokens) :
    lowestPower < power := by
  cases spelled with
  | binary left operator =>
      exact Nat.lt_trans (by decide) (Kind.isBinary_iff.mp operator).1
  | _ => decide

/-- No expression stands between the unary ones and those that are closed on the right. -/
theorem power_le_unaryPower_or
    (spelled : Spells (.expression power links tree) nesting tokens) :
    power ≤ unaryPower ∨ postfixPower ≤ power := by
  cases spelled with
  | binary left operator =>
      exact .inl (Nat.le_of_lt (Kind.isBinary_iff.mp operator).2)
  | _ => decide

/-- A name is closed on both sides, and its chain has no links. -/
theorem of_name {name : String}
    (spelled : Spells (.expression power links (.name name)) nesting tokens) :
    links = 0 ∧ Spells (.expression primaryPower 0 (.name name)) nesting tokens := by
  cases spelled with
  | atom reads => exact ⟨rfl, .atom reads⟩
  | group opens inner closes => exact ⟨rfl, .group opens inner closes⟩
  | choice begins inner => cases inner

/-- A chain takes one level more than it has links. -/
theorem links_lt_nesting
    (spelled : Spells (.expression power links tree) nesting tokens) :
    links < nesting := by
  cases spelled with
  | atom | unary | group | choice | function | array | hash => omega
  | binary | assign | call | index => omega

end Spells

/-! ## What the tokens of a spelling are like -/

/-- Whether a token may occur in a spelling: it is not illegal, not the end, and can be read. -/
def Token.IsUsable (token : Token) : Prop :=
  token.kind ≠ .illegal ∧ token.kind ≠ .endOfInput ∧
    (token.kind = .float → Literal.double? token.literal ≠ none)

/-- Tokens in which every group that is opened is closed in its turn. -/
inductive Matched : List Token → Prop where
  | nil : Matched []
  | plain
      {tokens : List Token} {token : Token}
      (notBracket : token.kind.isBracket = false)
      (others : Matched tokens) :
      Matched (token :: tokens)
  | group
      {tokens rest : List Token} {opening closing : Token}
      (closes : opening.kind.closing? = some closing.kind)
      (inner : Matched tokens)
      (others : Matched rest) :
      Matched (opening :: (tokens ++ closing :: rest))

theorem Matched.append
    (first : Matched tokens) (second : Matched rest) :
    Matched (tokens ++ rest) := by
  induction first with
  | nil => exact second
  | plain notBracket others induction => exact .plain notBracket induction
  | group closes inner others innerInduction othersInduction =>
      rw [List.cons_append, List.append_assoc, List.cons_append]
      exact .group closes inner othersInduction

/-- Tokens that are all usable and whose groups match. -/
structure Tidy (tokens : List Token) : Prop where
  usable : ∀ token ∈ tokens, token.IsUsable
  matched : Matched tokens

namespace Tidy

/-- Whether a kind makes a token usable and is no bracket. -/
def isPlain (kind : Kind) : Bool :=
  !kind.isBracket && kind != .illegal && kind != .endOfInput && kind != .float

theorem nil : Tidy [] :=
  ⟨fun _ member => absurd member List.not_mem_nil, .nil⟩

theorem cons
    (usable : token.IsUsable) (notBracket : token.kind.isBracket = false)
    (others : Tidy tokens) :
    Tidy (token :: tokens) :=
  ⟨List.forall_mem_cons.mpr ⟨usable, others.usable⟩, .plain notBracket others.matched⟩

theorem plain {kind : Kind}
    (known : token.kind = kind) (fine : isPlain kind = true)
    (others : Tidy tokens) :
    Tidy (token :: tokens) := by
  simp only [isPlain, Bool.and_eq_true, Bool.not_eq_true', bne_iff_ne, ne_eq] at fine
  rcases fine with ⟨⟨⟨notBracket, notIllegal⟩, notEnd⟩, notFloat⟩
  refine cons ⟨known ▸ notIllegal, known ▸ notEnd, fun isFloat => ?_⟩ (known ▸ notBracket) others
  exact absurd (known.symm.trans isFloat) notFloat

theorem append
    (first : Tidy tokens) (second : Tidy rest) :
    Tidy (tokens ++ rest) :=
  ⟨List.forall_mem_append.mpr ⟨first.usable, second.usable⟩,
    first.matched.append second.matched⟩

theorem group {opening closing : Token} {kind : Kind}
    (opens : opening.kind = kind) (inner : Tidy tokens)
    (closes : some closing.kind = kind.closing?) (others : Tidy rest) :
    Tidy (opening :: (tokens ++ closing :: rest)) := by
  have closes' : opening.kind.closing? = some closing.kind := by rw [opens, closes]
  have usable : opening.IsUsable ∧ closing.IsUsable := by
    cases known : opening.kind <;>
      simp only [known, Kind.closing?, Option.some.injEq, reduceCtorEq] at closes' <;>
      simp [Token.IsUsable, known, ← closes']
  refine ⟨?_, .group closes' inner.matched others.matched⟩
  refine List.forall_mem_cons.mpr ⟨usable.1, List.forall_mem_append.mpr ⟨inner.usable, ?_⟩⟩
  exact List.forall_mem_cons.mpr ⟨usable.2, others.usable⟩

theorem atom
    (reads : token.atom? = some tree) :
    Tidy [token] := by
  unfold Token.atom? at reads
  split at reads
  case h_3 isFloat =>
      refine cons ⟨by simp [isFloat], by simp [isFloat], fun _ unreadable => ?_⟩
        (by simp [isFloat, Kind.isBracket]) nil
      simp [unreadable] at reads
  case h_8 => simp at reads
  all_goals
    rename_i known
    exact plain known (by decide) nil

theorem unary
    (operator : token.kind.isUnary = true) (others : Tidy tokens) :
    Tidy (token :: tokens) := by
  refine plain rfl ?_ others
  cases known : token.kind <;> simp_all [Kind.isUnary, isPlain, Kind.isBracket]

theorem binary
    (first : Tidy tokens) (operator : token.kind.isBinary = true)
    (second : Tidy rest) :
    Tidy (tokens ++ token :: rest) := by
  refine first.append (plain rfl ?_ second)
  cases known : token.kind <;>
    simp_all [Kind.isBinary, Kind.power, lowestPower, unaryPower, isPlain, Kind.isBracket]

end Tidy

/-- The tokens of a spelling are usable, and their groups match. -/
theorem Spells.tidy
    (spelled : Spells phrase nesting tokens) :
    Tidy tokens := by
  induction spelled with
  | atom reads => exact .atom reads
  | unary operator operand tight tidy => exact tidy.unary operator
  | group opens inner closes tidy => exact .group opens tidy (congrArg some closes) .nil
  | choice begins inner tidy => exact tidy.plain begins rfl
  | function begins opens parameters closes body namesTidy bodyTidy =>
      exact .plain begins rfl (.group opens namesTidy (congrArg some closes) bodyTidy)
  | array opens elements closes tidy => exact .group opens tidy (congrArg some closes) .nil
  | hash opens entries closes tidy => exact .group opens tidy (congrArg some closes) .nil
  | binary left operator leftTight right rightTight leftTidy rightTidy =>
      exact leftTidy.binary operator rightTidy
  | assign target operator value targetTidy valueTidy =>
      exact targetTidy.append (valueTidy.plain operator rfl)
  | call callee tight opens arguments closes calleeTidy tidy =>
      exact calleeTidy.append (.group opens tidy (congrArg some closes) .nil)
  | index collection tight opens position closes collectionTidy tidy =>
      exact collectionTidy.append (.group opens tidy (congrArg some closes) .nil)
  | conditional opens condition closes consequence alternative tidy blockTidy otherTidy =>
      exact .group opens tidy (congrArg some closes) (blockTidy.append otherTidy)
  | elseBlock begins inner tidy => exact tidy.plain begins rfl
  | elseIf begins goesOn inner tidy => exact (tidy.plain goesOn rfl).plain begins rfl
  | block opens inner closes tidy => exact .group opens tidy (congrArg some closes) .nil
  | bind begins named equals value tidy =>
      exact ((tidy.plain equals rfl).plain named rfl).plain begins rfl
  | returnNothing begins => exact Tidy.nil.plain begins rfl
  | returnValue begins value tidy => exact tidy.plain begins rfl
  | expression value tidy => exact tidy
  | semicolon stray others tidy => exact tidy.plain stray rfl
  | someStatements first apart others firstTidy othersTidy => exact firstTidy.append othersTidy
  | someItems first others firstTidy othersTidy => exact firstTidy.append othersTidy
  | someMoreItems separates first others firstTidy othersTidy =>
      exact (firstTidy.append othersTidy).plain separates rfl
  | lastPair key separates value keyTidy valueTidy =>
      exact keyTidy.append (valueTidy.plain separates rfl)
  | somePairs key separates value goesOn others keyTidy valueTidy othersTidy =>
      exact keyTidy.append ((valueTidy.append (othersTidy.plain goesOn rfl)).plain separates rfl)
  | someNames named others tidy => exact tidy.plain named rfl
  | someMoreNames separates named others tidy =>
      exact (tidy.plain named rfl).plain separates rfl
  | noAlternative | noStatements | noItems | noMoreItems | noPairs | noNames
  | noMoreNames => exact .nil

end Jet
