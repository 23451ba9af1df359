import Jet.Text.Width

/-!
# Printed text

What a plain terminal makes of a text that is printed and that fits its width: tabs become spaces up
to the next multiple of eight columns of their line, and characters that would move the print
position are left out.
-/

namespace Jet.Terminal

/-- The distance between tab stops. -/
def tabSize : Nat := 8

/-- Characters that are never printed: bell, backspace, vertical tab, form feed and return. -/
def isDropped (char : Char) : Bool :=
  let code := char.toNat
  code == 0x07 || code == 0x08 || code == 0x0b || code == 0x0c || code == 0x0d

/-- A column, or the next tab stop behind it. -/
def nextStop (column : Nat) : Nat :=
  (column + tabSize - 1) / tabSize * tabSize

/--
Replaces the tabs of a line, given the column of the first part and the parts between the tabs.  The
space that stands for a tab is measured together with the part in front of it.
-/
def fillLine : Nat → List (List Char) → List Char
  | _, [] => []
  | _, [part] => part
  | column, part :: parts =>
      let reached := column + Text.width (part ++ [' '])
      let stop := nextStop reached
      part ++ ' ' :: List.replicate (stop - reached) ' ' ++ fillLine stop parts

/-- Replaces the tabs of a text. -/
def expandTabs (text : List Char) : List Char :=
  let lines := (text.splitOn '\n').map fun line => fillLine 0 (line.splitOn '\t')
  List.intercalate ['\n'] lines

/-- A text as it is printed. -/
def shown (text : String) : String :=
  String.ofList (expandTabs (text.toList.filter fun char => !isDropped char))

end Jet.Terminal
