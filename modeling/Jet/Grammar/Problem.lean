import Jet.Token.Basic

/-!
# Problems of a program text

Why a statement was given up, and the line of text that reports it.  The report names the place and
the text of the token that could not be accepted.
-/

namespace Jet

/-- Why a statement was given up. -/
inductive Cause where
  /-- Another kind of token had to come next. -/
  | expected (kind : Kind)
  /-- No expression starts with this token. -/
  | noExpression
  /-- The literal of an integer token cannot be read. -/
  | unreadableInteger
  /-- A string is never closed. -/
  | unterminatedString
  /-- A character has no meaning here. -/
  | illegalCharacter
  /-- The left side of an assignment is not a name. -/
  | invalidTarget
  /-- The expression is nested beyond the limit. -/
  | nestedTooDeeply
deriving DecidableEq, Repr

/-- The wording of a cause, given the token that could not be accepted. -/
def Cause.wording (token : Token) : Cause → String
  | .expected kind =>
      "expected next token to be " ++ kind.describe ++ ", got " ++ token.describe ++ " instead"
  | .noExpression => "no prefix parse rule for " ++ token.describe
  | .unreadableInteger => "could not parse " ++ token.describe ++ " as integer"
  | .unterminatedString => "unterminated string literal"
  | .illegalCharacter => "illegal character '" ++ token.literal ++ "'"
  | .invalidTarget => "invalid assignment target"
  | .nestedTooDeeply => "expression nested too deeply"

/-- A cause and the token that could not be accepted. -/
structure Problem where
  cause : Cause
  token : Token
deriving DecidableEq, Repr

/-- The message that reports a problem. -/
def Problem.message (problem : Problem) : String :=
  "line " ++ toString problem.token.line ++ ", column " ++ toString problem.token.column ++ ": " ++
    problem.cause.wording problem.token

end Jet
