import Jet.Token.Kind
import Jet.Text.Quoted

/-!
# Tokens

A token is a kind, the literal text that goes with it, and the place where it starts.  Lines and
columns are counted from one by the scanner; a token made by hand may carry any integers.
-/

namespace Jet

/-- A token with the place where it starts. -/
structure Token where
  kind : Kind
  literal : String
  line : Int
  column : Int
deriving DecidableEq, Repr, Inhabited

namespace Token

/-- A token in the words of an error message. -/
def describe (token : Token) : String :=
  if token.kind = .endOfInput then "end of input" else "'" ++ token.literal ++ "'"

/-- A token on a line of its own in a token listing. -/
def listing (token : Token) : String :=
  "Token(" ++ token.kind.name ++ ", " ++ Text.quoted token.literal ++ ", " ++
    toString token.line ++ ":" ++ toString token.column ++ ")"

end Token

end Jet
