import Jet.Number.Shortest
import Jet.Tree.Basic

/-!
# Canonical text

The source-like text of a tree: operators fully parenthesised, one space around binary operators,
statements of a block separated by spaces and those of a program by line breaks.
-/

namespace Jet

/-- One character inside a quoted string of a program. -/
def escapeChar : Char → List Char
  | '\\' => ['\\', '\\']
  | '"' => ['\\', '"']
  | '\n' => ['\\', 'n']
  | char => [char]

/-- A string in double quotes, with backslashes, double quotes and line breaks escaped. -/
def quoteString (text : String) : String :=
  String.ofList ('"' :: text.toList.flatMap escapeChar ++ ['"'])

/-- Texts with a separator between them. -/
def joinWith (separator : String) (texts : List String) : String :=
  String.intercalate separator texts

mutual

/-- The canonical text of an expression. -/
def Expr.text : Expr → String
  | .name name => name
  | .integer value => toString value
  | .float value => value.text
  | .boolean value => if value then "true" else "false"
  | .string value => quoteString value
  | .null => "null"
  | .unary operator operand => "(" ++ operator ++ operand.text ++ ")"
  | .binary left operator right => "(" ++ left.text ++ " " ++ operator ++ " " ++ right.text ++ ")"
  | .assign name value => "(" ++ name ++ " = " ++ value.text ++ ")"
  | .conditional condition consequence none =>
      "if (" ++ condition.text ++ ") \x7b " ++ joinWith " " (textOfBlock consequence) ++ " \x7d"
  | .conditional condition consequence (some alternative) =>
      "if (" ++ condition.text ++ ") \x7b " ++ joinWith " " (textOfBlock consequence) ++
        " \x7d else \x7b " ++ joinWith " " (textOfBlock alternative) ++ " \x7d"
  | .function parameters body =>
      "fn(" ++ joinWith ", " parameters ++ ") \x7b " ++ joinWith " " (textOfBlock body) ++ " \x7d"
  | .call callee arguments => callee.text ++ "(" ++ joinWith ", " (textOfList arguments) ++ ")"
  | .array elements => "[" ++ joinWith ", " (textOfList elements) ++ "]"
  | .index collection position => "(" ++ collection.text ++ "[" ++ position.text ++ "])"
  | .hash pairs => "\x7b" ++ joinWith ", " (textOfPairs pairs) ++ "\x7d"

/-- The canonical texts of some expressions. -/
def textOfList : List Expr → List String
  | [] => []
  | expression :: rest => expression.text :: textOfList rest

/-- The canonical texts of the pairs of a hash literal. -/
def textOfPairs : List (Expr × Expr) → List String
  | [] => []
  | (key, value) :: rest => (key.text ++ ": " ++ value.text) :: textOfPairs rest

/-- The canonical text of a statement. -/
def Stmt.text : Stmt → String
  | .bind name value => "let " ++ name ++ " = " ++ value.text ++ ";"
  | .return none => "return;"
  | .return (some value) => "return " ++ value.text ++ ";"
  | .expression value => value.text
  | .block body => joinWith " " (textOfBlock body)

/-- The canonical texts of the statements of a block. -/
def textOfBlock : List Stmt → List String
  | [] => []
  | statement :: rest => statement.text :: textOfBlock rest

end

/-- The canonical text of a block, without its braces. -/
def Block.text (block : Block) : String :=
  joinWith " " (textOfBlock block)

/-- The canonical text of a program. -/
def Program.text (program : Program) : String :=
  joinWith "\n" (textOfBlock program.statements)

end Jet
