import Jet.Markup.Argument.Part
import Jet.Text.Newline

/-!
# Arguments of actions

A tag whose name begins with `@` stands for an action, and what is given to the action must be a
literal: a number, a text, one of a few constants, or a collection of literals in parentheses or
braces.  A word in front of parentheses names the action and does not count.

An argument is read as a whole before it is judged: what is wrong with its form is found first, and
then the first thing in it that has no value.
-/

namespace Jet.Markup.Argument

/-! ## Values -/

/-- What matters about a part of an argument for what stands around it. -/
inductive Shape where
  | number (number : Number)
  /-- A number with a sign. -/
  | signed (number : Number)
  /-- Any other literal; a collection that can be no key is named. -/
  | other (unusable : Option String)
  /-- The word that makes a set if empty parentheses follow. -/
  | setWord
  /-- What has no value. -/
  | valueless (complaint : Complaint)
deriving DecidableEq, Repr

namespace Shape

/-- A literal; if it can be no key, the collection that it is or holds is named. -/
def value : Shape → Except Complaint (Option String)
  | number _ | signed _ => .ok none
  | other unusable => .ok unusable
  | setWord => .error .noLiteral
  | valueless complaint => .error complaint

/-- A literal that is used as a key or as a member of a set. -/
def key (shape : Shape) : Except Complaint Unit := do
  if let some kind ← shape.value then throw (.unusableKey kind)

/-- What has a value if a check succeeds. -/
def ofCheck (check : Except Complaint (Option String)) : Shape :=
  match check with
  | .ok unusable => other unusable
  | .error complaint => valueless complaint

/-- A literal with a sign in front; only numbers can have one. -/
def withSign : Shape → Shape
  | number operand => signed operand
  | _ => valueless .noLiteral

/-- The sum or difference of two literals: a number and an imaginary one. -/
def combine : Shape → Shape → Shape
  | number (.real fits), number .imaginary | signed (.real fits), number .imaginary =>
      if fits then other none else valueless .tooLarge
  | _, _ => valueless .noLiteral

/-- Items in parentheses. -/
def ofItems (items : List Shape) : Shape :=
  ofCheck ((items.mapM value).map fun kinds => kinds.findSome? id)

/-- Items in braces. -/
def ofMembers (members : List Shape) : Shape :=
  ofCheck ((members.mapM key).map fun _ => some "set")

/-- Pairs of a key and a value in braces. -/
def ofPairs (pairs : List (Shape × Shape)) : Shape :=
  let check (pair : Shape × Shape) : Except Complaint Unit := do
    let _ ← pair.1.value
    let _ ← pair.2.value
    pair.1.key
  ofCheck ((pairs.mapM check).map fun _ => some "dict")

/-- What stands in front of some arguments in parentheses. -/
def call : Shape → List Shape → Shape
  | setWord, [] => other (some "set")
  | _, _ => valueless .noLiteral

end Shape

/-! ## Forms -/

/-- The words that are constants. -/
def constants : List String :=
  ["True", "False", "None"]

/-- The words that cannot stand for anything by themselves. -/
def reservedWords : List String :=
  ["and", "as", "assert", "async", "await", "break", "class", "continue", "def", "del", "elif",
    "else", "except", "finally", "for", "from", "global", "if", "import", "in", "is", "lambda",
    "nonlocal", "not", "or", "pass", "raise", "return", "try", "while", "with", "yield"]

/-- What is read at the start of some parts, and the parts behind it. -/
abbrev Taken (α : Type) := α × List Part

/-- The complaint about parts that cannot go on as they do. -/
def refusal : List Part → Complaint
  | [] => .unexpectedEnd
  | .indentation :: _ => .indented
  | .valueless complaint :: _ => complaint
  | _ => .unexpectedPart

/-- The parts behind texts that make one text, all of them of bytes or none. -/
def behindTexts (bytes : Bool) : List Part → Except Complaint (List Part)
  | .text other :: rest => if other = bytes then behindTexts bytes rest else .error .mixedTexts
  | .formatted :: rest => if bytes then .error .mixedTexts else behindTexts bytes rest
  | .valueless complaint :: _ => .error complaint
  | parts => .ok parts

/-- Whether parts begin with a word and a text, or with a word that can be a command. -/
def startsLikeCommand : List Part → Bool
  | .word _ :: .text _ :: _ => true
  | .word word :: _ => ["_", "case", "match"].contains word
  | _ => false

/-- The words that were commands once. -/
def formerCommands : List String :=
  ["print", "exec"]

/-- The operators between two operands. -/
def binaryOperators : List String :=
  ["+", "-", "*", "/", "//", "%", "@", "**", "&", "|", "^", "<<", ">>", "<", ">", "<=", ">=", "==",
    "!="]

/-- The parts behind the operator between two operands that parts begin with, and its sign. -/
def behindOperator? : List Part → Option (String × List Part)
  | .operator sign :: rest => if binaryOperators.contains sign then some (sign, rest) else none
  | .word "in" :: rest => some ("in", rest)
  | .word "is" :: .word "not" :: rest => some ("is not", rest)
  | .word "is" :: rest => some ("is", rest)
  | .word "not" :: .word "in" :: rest => some ("not in", rest)
  | _ => none

/-- The value of two operands with an operator between. -/
def Shape.operate (left : Shape) (sign : String) (right : Shape) : Shape :=
  if sign = "+" ∨ sign = "-" then left.combine right else .valueless .noLiteral

/-- The value of an operand with a sign in front. -/
def Shape.prefixed (sign : String) (operand : Shape) : Shape :=
  if sign = "~" then .valueless .noLiteral else operand.withSign

/-- Whether no expression can begin with some parts. -/
def isBoundary : List Part → Bool
  | [] | .lineEnd :: _ | .operator _ :: _ => true
  | .mark char :: _ => char != '\x7b'
  | _ => false

/-- The complaint about parts that begin with an expression and an equals sign. -/
def assignmentFault : List Part → Complaint
  | .word word :: .operator "=" :: _ =>
      if constants.contains word then .unexpectedPart else .assignment
  | .number _ :: .operator "=" :: _ => .literalAssignment
  | .text _ :: .operator "=" :: _ => .literalAssignment
  | _ => .unexpectedPart

/-- The complaint about parts that begin with an expression behind which another one follows. -/
def neighbourFault (parts rest : List Part) (isNested : Bool) : Except Complaint Unit :=
  match parts with
  | .word word :: behind =>
      if formerCommands.contains word && behind.length == rest.length then
        .error (.missingCall word)
      else if startsLikeCommand parts || !isNested then .ok ()
      else .error .missingComma
  | _ => if isNested then .error .missingComma else .ok ()

mutual

/-- An expression: operands, conditions between them, and an alternative. -/
def readExpression : Nat → List Part → Except Complaint (Taken Shape)
  | 0, _ => .error .unexpectedPart
  | fuel + 1, parts => do
      let (value, rest) ← readCondition fuel parts
      match rest with
      | .word "if" :: behind =>
          let (_, rest) ← readCondition fuel behind
          match rest with
          | .word "else" :: rest =>
              let (_, rest) ← readExpression fuel rest
              pure (.valueless .noLiteral, rest)
          | .mark ':' :: _ => throw .unexpectedPart
          | rest => throw (.missingAlternative rest.isEmpty)
      | rest => pure (value, rest)

/-- Conditions joined by words. -/
def readCondition : Nat → List Part → Except Complaint (Taken Shape)
  | 0, _ => .error .unexpectedPart
  | fuel + 1, parts => do
      let (value, rest) ← readNegation fuel parts
      match rest with
      | .word word :: behind =>
          if word = "and" ∨ word = "or" then
            let (_, rest) ← readCondition fuel behind
            pure (.valueless .noLiteral, rest)
          else pure (value, rest)
      | rest => pure (value, rest)

/-- Operands with operators between, which may be negated. -/
def readNegation : Nat → List Part → Except Complaint (Taken Shape)
  | 0, _ => .error .unexpectedPart
  | fuel + 1, parts =>
      match parts with
      | .word "not" :: rest => do
          let (_, rest) ← readNegation fuel rest
          pure (.valueless .noLiteral, rest)
      | _ => do
          let (first, rest) ← readOperand fuel parts
          readOperations fuel first rest

/-- The operators and operands behind the first operand. -/
def readOperations : Nat → Shape → List Part → Except Complaint (Taken Shape)
  | 0, _, _ => .error .unexpectedPart
  | fuel + 1, left, parts =>
      match behindOperator? parts with
      | some (sign, behind) => do
          let (right, rest) ← readOperand fuel behind
          readOperations fuel (left.operate sign right) rest
      | none => .ok (left, parts)

/-- An operand, which may have signs in front. -/
def readOperand : Nat → List Part → Except Complaint (Taken Shape)
  | 0, _ => .error .unexpectedPart
  | fuel + 1, parts =>
      match parts with
      | .operator sign :: behind =>
          if sign = "+" ∨ sign = "-" ∨ sign = "~" then do
            let (operand, rest) ← readOperand fuel behind
            pure (operand.prefixed sign, rest)
          else .error .unexpectedPart
      | _ => do
          let (atom, rest) ← readAtom fuel parts
          readCalls fuel atom rest

/-- The arguments and members behind something. -/
def readCalls : Nat → Shape → List Part → Except Complaint (Taken Shape)
  | 0, _, _ => .error .unexpectedPart
  | fuel + 1, callee, parts =>
      match parts with
      | .operator "." :: .word word :: rest =>
          if reservedWords.contains word || constants.contains word then .error .unexpectedPart
          else readCalls fuel (.valueless .noLiteral) rest
      | .operator "." :: rest => .error (refusal rest)
      | .valueless complaint :: _ => .error complaint
      | .mark '(' :: .mark ')' :: rest => readCalls fuel (callee.call []) rest
      | .mark '(' :: rest => do
          let (first, rest) ← readArgument fuel rest
          let (others, rest) ← readArguments fuel rest
          readCalls fuel (callee.call (first :: others)) rest
      | _ => .ok (callee, parts)

/-- An argument in parentheses, which may have a name or stars in front. -/
def readArgument : Nat → List Part → Except Complaint (Taken Shape)
  | 0, _ => .error .unexpectedPart
  | fuel + 1, parts =>
      match parts with
      | .operator "*" :: rest => readExpression fuel rest
      | .operator "**" :: rest => readExpression fuel rest
      | .word _ :: .operator "=" :: rest => readExpression fuel rest
      | _ => readItem fuel parts

/-- The arguments behind the first one. -/
def readArguments : Nat → List Part → Except Complaint (Taken (List Shape))
  | 0, _ => .error .unexpectedPart
  | fuel + 1, parts =>
      match parts with
      | .mark ')' :: rest => .ok ([], rest)
      | .mark ',' :: .mark ')' :: rest => .ok ([], rest)
      | .mark ',' :: rest => do
          let (argument, rest) ← readArgument fuel rest
          let (others, rest) ← readArguments fuel rest
          pure (argument :: others, rest)
      | parts => .error (refusal parts)

/-- What has neither a sign nor arguments. -/
def readAtom : Nat → List Part → Except Complaint (Taken Shape)
  | 0, _ => .error .unexpectedPart
  | fuel + 1, parts =>
      match parts with
      | .number number :: rest => .ok (.number number, rest)
      | .ellipsis :: rest => .ok (.other none, rest)
      | .text bytes :: rest => do
          let behind ← behindTexts bytes rest
          let isComputed := (rest.take (rest.length - behind.length)).contains .formatted
          pure (if isComputed then .valueless .noLiteral else .other none, behind)
      | .formatted :: rest => do pure (.valueless .noLiteral, ← behindTexts false rest)
      | .word word :: rest =>
          if constants.contains word then .ok (.other none, rest)
          else if reservedWords.contains word then .error .unexpectedPart
          else .ok (if isSetWord word then .setWord else .valueless .noLiteral, rest)
      | .mark '(' :: .mark ')' :: rest => .ok (.other none, rest)
      | .mark '(' :: .operator "**" :: rest => do
          let _ ← readExpression fuel rest
          throw (.starred true)
      | .mark '(' :: rest => do
          let (first, behind) ← readItem fuel rest
          match behind with
          | .mark ')' :: behind =>
              if rest.head? = some (.operator "*") then throw (.starred false)
              else pure (first, behind)
          | behind =>
              let (others, rest) ← readOthers fuel ')' behind
              pure (.ofItems (first :: others), rest)
      | .mark '\x7b' :: .mark '\x7d' :: rest => .ok (.other (some "dict"), rest)
      | .mark '\x7b' :: .operator "**" :: rest => do
          let (_, rest) ← readExpression fuel rest
          let (_, rest) ← readPairsBehind fuel rest
          pure (.valueless .unpacking, rest)
      | .mark '\x7b' :: rest => do
          let (first, behind) ← readItem fuel rest
          match behind with
          | .mark ':' :: behind =>
              let (value, behind) ← readPairValue fuel behind
              let (pairs, rest) ← readPairsBehind fuel behind
              pure (.ofPairs ((first, value) :: pairs), rest)
          | behind =>
              let (others, rest) ← readOthers fuel '\x7d' behind
              pure (.ofMembers (first :: others), rest)
      | parts => .error (refusal parts)

/-- An item between brackets, behind which there must be a mark. -/
def readItem : Nat → List Part → Except Complaint (Taken Shape)
  | 0, _ => .error .unexpectedPart
  | fuel + 1, parts =>
      match parts with
      | .operator "*" :: rest => do
          let (_, rest) ← readExpression fuel rest
          pure (.valueless .noLiteral, rest)
      | _ => do
          let (item, rest) ← readExpression fuel parts
          match rest with
          | [] => throw .unexpectedEnd
          | .operator "=" :: behind =>
              let (_, behind) ← readNegation fuel behind
              throw (if behind.isEmpty then .unexpectedEnd else assignmentFault parts)
          | rest =>
              checkNeighbour fuel parts rest true
              pure (item, rest)

/-- Checks that no other expression begins directly behind the one that parts begin with. -/
def checkNeighbour : Nat → List Part → List Part → Bool → Except Complaint Unit
  | 0, _, _, _ => .error .unexpectedPart
  | fuel + 1, parts, rest, isNested =>
      if isBoundary rest then .ok ()
      else
        match readExpression fuel rest with
        | .error .unexpectedPart => .ok ()
        | .error complaint => .error complaint
        | .ok (_, behind) =>
            if isNested && behind.isEmpty then .error .unexpectedEnd
            else neighbourFault parts rest isNested

/-- The items behind the first one up to a closing mark. -/
def readOthers : Nat → Char → List Part → Except Complaint (Taken (List Shape))
  | 0, _, _ => .error .unexpectedPart
  | fuel + 1, closing, parts =>
      match parts with
      | .mark ',' :: .mark char :: rest =>
          if char = closing then .ok ([], rest)
          else do
            let (item, rest) ← readItem fuel (.mark char :: rest)
            let (others, rest) ← readOthers fuel closing rest
            pure (item :: others, rest)
      | .mark ',' :: rest => do
          let (item, rest) ← readItem fuel rest
          let (others, rest) ← readOthers fuel closing rest
          pure (item :: others, rest)
      | .mark char :: rest =>
          if char = closing then .ok ([], rest) else .error .unexpectedPart
      | parts => .error (refusal parts)

/-- The value of a pair, given the parts behind the colon. -/
def readPairValue : Nat → List Part → Except Complaint (Taken Shape)
  | 0, _ => .error .unexpectedPart
  | fuel + 1, parts =>
      match parts with
      | .mark '\x7d' :: _ => .error .missingValue
      | .mark ',' :: _ => .error .missingValue
      | _ => readItem fuel parts

/-- The pairs behind the first one up to the closing brace. -/
def readPairsBehind : Nat → List Part → Except Complaint (Taken (List (Shape × Shape)))
  | 0, _ => .error .unexpectedPart
  | fuel + 1, parts =>
      match parts with
      | .mark '\x7d' :: rest => .ok ([], rest)
      | .mark ',' :: .mark '\x7d' :: rest => .ok ([], rest)
      | .mark ',' :: .operator "**" :: rest => do
          let (value, rest) ← readExpression fuel rest
          let (pairs, rest) ← readPairsBehind fuel rest
          pure ((.valueless .unpacking, value) :: pairs, rest)
      | .mark ',' :: rest => do
          let (key, rest) ← readExpression fuel rest
          match rest with
          | .mark ':' :: rest =>
              let (value, rest) ← readPairValue fuel rest
              let (pairs, rest) ← readPairsBehind fuel rest
              pure ((key, value) :: pairs, rest)
          | [] => throw .unexpectedEnd
          | _ => throw .missingColon
      | parts => .error (refusal parts)

end

/--
The expressions up to the end of the line behind the first one, with commas between.  The parts from
the start of the last expression on are given along with those behind it.
-/
def readLine : Nat → List Part → List Part → Except Complaint (Taken (List Shape))
  | 0, _, _ => .error .unexpectedPart
  | _, _, [] => .ok ([], [])
  | _, _, .lineEnd :: rest => .ok ([], rest)
  | _, _, .mark ',' :: [] => .ok ([], [])
  | _, _, .mark ',' :: .lineEnd :: rest => .ok ([], rest)
  | fuel + 1, _, .mark ',' :: start => do
      let (item, rest) ← readExpression fuel start
      let (items, rest) ← readLine fuel start rest
      pure (item :: items, rest)
  | fuel + 1, start, rest => do
      checkNeighbour fuel start rest false
      throw (refusal rest)

/-- Reads parts that make up one line. -/
def readAll (parts : List Part) : Except Complaint Shape := do
  let fuel := 12 * parts.length + 12
  let (first, rest) ← readExpression fuel parts
  let isSingle := rest.head?.getD .lineEnd == .lineEnd
  let (others, rest) ← readLine fuel parts rest
  match rest with
  | [] => pure (if isSingle then first else .ofItems (first :: others))
  | rest => throw (refusal rest)

/-- What is given to the action: all of the text, but for a word in front of parentheses. -/
def given (argument : List Char) : List Char :=
  let behind := argument.dropWhile fun char => Text.isWordChar char || char == '.'
  match behind with
  | [] => ['(', ')']
  | '(' :: rest => if rest.getLast? = some ')' ∧ !rest.contains '\n' then behind else argument
  | _ => argument

/-- What is wrong with a text that is given to an action, if anything is. -/
def complaint? (text : List Char) : Option Complaint :=
  match partsOf (Text.plainNewlines text) with
  | .error complaint => some complaint
  | .ok (parts, opened) =>
      match readAll parts, opened with
      | .error .unexpectedEnd, (bracket, _) :: _ => some (.neverClosed bracket)
      | .error (.missingAlternative true), (bracket, _) :: _ => some (.neverClosed bracket)
      | .error complaint, _ => some complaint
      | .ok _, (bracket, _) :: _ => some (.neverClosed bracket)
      | .ok shape, [] =>
          match shape.value with
          | .ok _ => none
          | .error complaint => some complaint

end Jet.Markup.Argument
