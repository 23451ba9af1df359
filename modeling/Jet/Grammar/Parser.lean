import Jet.Grammar.Power
import Jet.Grammar.Problem
import Jet.Number.Literal
import Jet.Token.Cursor
import Jet.Tree.Basic

/-!
# The grammar

Parsers over token lists, by binding power.  A parser takes the tokens up to the end of the input
and gives a tree and the tokens after it, or a failure with the tokens that begin at the one that
could not be accepted.

```text
statement  := "let" NAME "=" expr | "return" expr? | expr
block      := "{" (statement | ";")* "}"
expr       := start continuation*
start      := NAME | INT | FLOAT | STRING | "true" | "false" | "null" | ("!" | "-") expr
| "(" expr ")" | "if" "(" expr ")" block ("else" (if | block))?
| "fn" "(" (NAME ("," NAME)*)? ")" block
| "[" (expr ("," expr)*)? "]" | "{" (expr ":" expr ("," expr ":" expr)* ","?)? "}"
continuation := operator expr | "=" expr | "(" (expr ("," expr)*)? ")" | "[" expr "]"
```

Expressions may nest to a limited depth, counting both operands inside operands and the links of a
chain of operators.  The depth that is left is the argument on which the expression parser recurs;
everything else is written over a parser for the expressions one level down.
-/

namespace Jet

/-- The greatest nesting depth of an expression. -/
def maxNesting : Nat := 120

/-- Why a parser stopped. -/
inductive Stop where
  /-- The first of the tokens, or the end of the input, could not be accepted. -/
  | failure (cause : Cause) (rest : List Token)
  /-- The literal of a float token is not a number, which ends all parsing. -/
  | unreadableFloat (literal : String)
deriving DecidableEq, Repr

/-- What a parser gives, as a rule a tree and the tokens after it, or the reason for stopping. -/
abbrev Parsed := Except Stop

/-- A parser for expressions whose operators all bind tighter than a power. -/
abbrev Operand := Nat → List Token → Parsed (Expr × List Token)

namespace Parser

/-- Stops at the first of the tokens. -/
def fail {α : Type} (cause : Cause) (tokens : List Token) : Parsed α :=
  .error (.failure cause tokens)

/-- Takes one token of a kind. -/
def expect (kind : Kind) : List Token → Parsed (Token × List Token)
  | token :: rest =>
      if token.kind = kind then .ok (token, rest) else fail (.expected kind) (token :: rest)
  | [] => fail (.expected kind) []

/-- The kind of the first token, the end of the input if there is none. -/
def headKind : List Token → Kind
  | token :: _ => token.kind
  | [] => .endOfInput

/-! ## Statements and blocks -/

/-- A statement, without a semicolon after it. -/
def statement (operand : Operand) (tokens : List Token) : Parsed (Stmt × List Token) := do
  match headKind tokens with
  | .letWord =>
      let (name, rest) ← expect .identifier tokens.tail
      let (_, rest) ← expect .assign rest
      let (value, rest) ← operand lowestPower rest
      pure (.bind name.literal value, rest)
  | .returnWord =>
      match headKind tokens.tail with
      | .semicolon | .rightBrace | .endOfInput => pure (.return none, tokens.tail)
      | _ =>
          let (value, rest) ← operand lowestPower tokens.tail
          pure (.return (some value), rest)
  | _ =>
      let (value, rest) ← operand lowestPower tokens
      pure (.expression value, rest)

/--
Statements and semicolons up to a closing brace, which is taken; the fuel bounds their number.
-/
def statements (operand : Operand) : Nat → List Token → Parsed (List Stmt × List Token)
  | 0, tokens => fail (.expected .rightBrace) tokens
  | fuel + 1, tokens =>
      match headKind tokens with
      | .rightBrace => .ok ([], tokens.tail)
      | .endOfInput => fail (.expected .rightBrace) tokens
      | .semicolon => statements operand fuel tokens.tail
      | _ => do
          let (first, rest) ← statement operand tokens
          let (others, rest) ← statements operand fuel rest
          pure (first :: others, rest)

/-- A block in braces. -/
def block (operand : Operand) (tokens : List Token) : Parsed (Block × List Token) := do
  let (_, rest) ← expect .leftBrace tokens
  statements operand (rest.length + 1) rest

/-! ## Lists -/

/-- The names after the first one, each behind a comma; the fuel bounds their number. -/
def moreNames : Nat → List Token → Parsed (List String × List Token)
  | 0, tokens => .ok ([], tokens)
  | fuel + 1, tokens =>
      match headKind tokens with
      | .comma => do
          let (name, rest) ← expect .identifier tokens.tail
          let (others, rest) ← moreNames fuel rest
          pure (name.literal :: others, rest)
      | _ => .ok ([], tokens)

/-- The parameters of a function in parentheses. -/
def parameters (tokens : List Token) : Parsed (List String × List Token) := do
  let (_, rest) ← expect .leftParen tokens
  match headKind rest with
  | .rightParen => pure ([], rest.tail)
  | _ =>
      let (name, rest) ← expect .identifier rest
      let (others, rest) ← moreNames rest.length rest
      let (_, rest) ← expect .rightParen rest
      pure (name.literal :: others, rest)

/-- The expressions after the first one, each behind a comma; the fuel bounds their number. -/
def moreItems (operand : Operand) : Nat → List Token → Parsed (List Expr × List Token)
  | 0, tokens => .ok ([], tokens)
  | fuel + 1, tokens =>
      match headKind tokens with
      | .comma => do
          let (item, rest) ← operand lowestPower tokens.tail
          let (others, rest) ← moreItems operand fuel rest
          pure (item :: others, rest)
      | _ => .ok ([], tokens)

/-- Expressions separated by commas up to a closing token, which is taken. -/
def items (operand : Operand) (closing : Kind) (tokens : List Token) :
    Parsed (List Expr × List Token) := do
  if headKind tokens = closing then pure ([], tokens.tail)
  else
    let (item, rest) ← operand lowestPower tokens
    let (others, rest) ← moreItems operand rest.length rest
    let (_, rest) ← expect closing rest
    pure (item :: others, rest)

/--
The pairs of a hash up to the closing brace, which is taken; a comma may stand behind the last
one.  The fuel bounds their number.
-/
def pairs (operand : Operand) : Nat → List Token → Parsed (List (Expr × Expr) × List Token)
  | 0, tokens => fail (.expected .rightBrace) tokens
  | fuel + 1, tokens =>
      match headKind tokens with
      | .rightBrace => .ok ([], tokens.tail)
      | _ => do
          let (key, rest) ← operand lowestPower tokens
          let (_, rest) ← expect .colon rest
          let (value, rest) ← operand lowestPower rest
          let rest ← match headKind rest with
            | .rightBrace => pure rest
            | _ => do
                let (_, rest) ← expect .comma rest
                pure rest
          let (others, rest) ← pairs operand fuel rest
          pure ((key, value) :: others, rest)

/-! ## Expressions -/

/--
A conditional behind its `if`.  An alternative may be another conditional, which then is the only
statement of the alternative block; the fuel bounds the number of such links.
-/
def conditional (operand : Operand) : Nat → List Token → Parsed (Expr × List Token)
  | 0, tokens => fail (.expected .leftParen) tokens
  | fuel + 1, tokens => do
      let (_, rest) ← expect .leftParen tokens
      let (condition, rest) ← operand lowestPower rest
      let (_, rest) ← expect .rightParen rest
      let (consequence, rest) ← block operand rest
      match headKind rest, headKind rest.tail with
      | .elseWord, .ifWord =>
          let (nested, rest) ← conditional operand fuel rest.tail.tail
          pure (.conditional condition consequence (some [.expression nested]), rest)
      | .elseWord, _ =>
          let (alternative, rest) ← block operand rest.tail
          pure (.conditional condition consequence (some alternative), rest)
      | _, _ => pure (.conditional condition consequence none, rest)

/-- An expression up to its first continuation. -/
def start (operand : Operand) : List Token → Parsed (Expr × List Token)
  | [] => fail .noExpression []
  | token :: rest =>
      match token.kind with
      | .identifier => .ok (.name token.literal, rest)
      | .integer =>
          match Literal.integer? token.literal with
          | some value => .ok (.integer value, rest)
          | none => fail .unreadableInteger (token :: rest)
      | .float =>
          match Literal.double? token.literal with
          | some value => .ok (.float value, rest)
          | none => .error (.unreadableFloat token.literal)
      | .string => .ok (.string token.literal, rest)
      | .trueWord => .ok (.boolean true, rest)
      | .falseWord => .ok (.boolean false, rest)
      | .nullWord => .ok (.null, rest)
      | .illegal =>
          if token.literal.toList.head? = some '"' then fail .unterminatedString (token :: rest)
          else fail .illegalCharacter (token :: rest)
      | .bang | .minus => do
          let (value, rest) ← operand unaryPower rest
          pure (.unary token.literal value, rest)
      | .leftParen => do
          let (value, rest) ← operand lowestPower rest
          let (_, rest) ← expect .rightParen rest
          pure (value, rest)
      | .ifWord => conditional operand rest.length rest
      | .fnWord => do
          let (names, rest) ← parameters rest
          let (body, rest) ← block operand rest
          pure (.function names body, rest)
      | .leftBracket => do
          let (elements, rest) ← items operand .rightBracket rest
          pure (.array elements, rest)
      | .leftBrace => do
          let (entries, rest) ← pairs operand (rest.length + 1) rest
          pure (.hash entries, rest)
      | _ => fail .noExpression (token :: rest)

/-- One continuation of the expression on the left: a call, an index, or an operator. -/
def continuation (operand : Operand) (left : Expr) : List Token → Parsed (Expr × List Token)
  | [] => fail .noExpression []
  | token :: rest =>
      match token.kind with
      | .leftParen => do
          let (arguments, rest) ← items operand .rightParen rest
          pure (.call left arguments, rest)
      | .leftBracket => do
          let (position, rest) ← operand lowestPower rest
          let (_, rest) ← expect .rightBracket rest
          pure (.index left position, rest)
      | .assign =>
          match left with
          | .name name => do
              let (value, rest) ← operand token.kind.rightPower rest
              pure (.assign name value, rest)
          | _ => fail .invalidTarget (token :: rest)
      | kind => do
          let (right, rest) ← operand kind.rightPower rest
          pure (.binary left token.literal right, rest)

mutual

/--
An expression whose operators bind tighter than a power, with so much nesting depth left.  Its
start and its continuations stand one level down, each continuation below the one in front.
-/
def expression : Nat → Operand
  | 0, _, tokens => fail .nestedTooDeeply tokens
  | depth + 1, power, tokens => do
      let (left, rest) ← start (expression depth) tokens
      continuations depth power left rest

/-- The continuations of the expression on the left that bind tighter than a power. -/
def continuations : Nat → Nat → Expr → List Token → Parsed (Expr × List Token)
  | 0, power, left, tokens =>
      if power < (headKind tokens).power then fail .nestedTooDeeply tokens
      else .ok (left, tokens)
  | depth + 1, power, left, tokens =>
      if power < (headKind tokens).power then do
        let (whole, rest) ← continuation (expression depth) left tokens
        continuations depth power whole rest
      else .ok (left, tokens)

end

/-! ## Programs -/

/-- The number of braces that are opened and not closed in some tokens. -/
def braceBalance (tokens : List Token) : Int :=
  tokens.foldr (fun token balance => token.kind.braceStep + balance) 0

/--
The tokens behind the next boundary, given the brace balance of the statement so far: a semicolon
or closing brace at which no brace of the statement is open.
-/
def skip : Int → List Token → List Token
  | _, [] => []
  | balance, token :: rest =>
      let balance := balance + token.kind.braceStep
      if balance ≤ 0 ∧ (token.kind = .semicolon ∨ token.kind = .rightBrace) then rest
      else skip balance rest

/--
How far a failed statement had been read when it was given up.  A token that had to be of another
kind is looked at before it is reached, so the statement then ends one token earlier.
-/
def reached (tokens : List Token) (cause : Cause) (rest : List Token) : Nat :=
  match cause with
  | .expected _ => tokens.length - rest.length - 1
  | _ => tokens.length - rest.length

/-- Where parsing goes on after a failure in the statement that the tokens begin with. -/
def recover (tokens : List Token) (cause : Cause) (rest : List Token) : List Token :=
  let count := reached tokens cause rest
  skip (braceBalance (tokens.take count)) (tokens.drop count)

end Parser

/-- What a token list is read as: the statements that are well formed, and the problems. -/
structure Reading where
  program : Program
  problems : List Problem

namespace Reading

/-- The messages that report the problems. -/
def errors (reading : Reading) : List String :=
  reading.problems.map Problem.message

/-- Puts a statement in front. -/
def addStatement (statement : Stmt) (reading : Reading) : Reading :=
  { reading with program := ⟨statement :: reading.program.statements⟩ }

/-- Puts a problem in front. -/
def addProblem (problem : Problem) (reading : Reading) : Reading :=
  { reading with problems := problem :: reading.problems }

end Reading

namespace Parser

/--
Reads the tokens in front of the end token.  Each statement that fails is reported and skipped; the
fuel bounds the number of statements, failures and stray semicolons.  A float literal that cannot
be read is given back as an error.
-/
def program (finish : Token) : Nat → List Token → Except String Reading
  | 0, _ => .ok ⟨⟨[]⟩, []⟩
  | _, [] => .ok ⟨⟨[]⟩, []⟩
  | fuel + 1, token :: rest =>
      if token.kind = .semicolon then program finish fuel rest
      else
        match statement (expression maxNesting) (token :: rest) with
        | .ok (first, rest) => (program finish fuel rest).map (Reading.addStatement first)
        | .error (.unreadableFloat literal) => .error literal
        | .error (.failure cause stuck) =>
            (program finish fuel (recover (token :: rest) cause stuck)).map
              (Reading.addProblem ⟨cause, stuck.headD finish⟩)

/-- The end token of a list that has none: right behind the last token. -/
def impliedEnd (tokens : List Token) : Token :=
  match tokens.getLast? with
  | some last => ⟨.endOfInput, "", last.line, last.column + last.literal.length⟩
  | none => ⟨.endOfInput, "", 1, 1⟩

/-- Whether a token is the end token. -/
def isEnd (token : Token) : Bool :=
  token.kind == .endOfInput

end Parser

/--
Reads a token list up to its first end token, or to its end if there is none; the error is a float
literal that cannot be read.
-/
def parse (tokens : List Token) : Except String Reading :=
  let inner := tokens.takeWhile fun token => !Parser.isEnd token
  let finish := (tokens.find? Parser.isEnd).getD (Parser.impliedEnd tokens)
  Parser.program finish inner.length inner

/-- Reads a source text. -/
def parseSource (source : String) : Except String Reading :=
  parse (tokenize source)

end Jet
