/-!
# Line ends

Texts from outside may end their lines in any of three ways; inside, a line ends in a line feed.
-/

namespace Jet.Text

/-- Turns a carriage return, with or without a line feed behind it, into a line feed. -/
def plainNewlines : List Char → List Char
  | [] => []
  | '\r' :: '\n' :: rest => '\n' :: plainNewlines rest
  | char :: rest => (if char = '\r' then '\n' else char) :: plainNewlines rest

/-- A text with plain line ends. -/
def withPlainNewlines (text : String) : String :=
  String.ofList (plainNewlines text.toList)

/--
The lines of a text with plain line ends; a last line without an end counts if it is not empty.
-/
def linesOf (text : String) : List String :=
  let pieces := (text.toList.splitOn '\n').map String.ofList
  if pieces.getLast? = some "" then pieces.dropLast else pieces

end Jet.Text
