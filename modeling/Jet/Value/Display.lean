import Jet.Tree.Canonical
import Jet.Value.Basic

/-!
# Display text

The text that a value is shown by.  Strings are shown as they are, collections with their elements
in order, and functions with the canonical text of their body.
-/

namespace Jet

mutual

/-- The text that a value is shown by. -/
def Value.display : Value → String
  | .integer value => toString value
  | .float value => value.text
  | .boolean value => if value then "true" else "false"
  | .string value => value
  | .null => "null"
  | .function _ parameters body _ =>
      "fn(" ++ joinWith ", " parameters ++ ") \x7b\n" ++ Block.text body ++ "\n\x7d"
  | .builtin _ => "builtin function"
  | .array _ elements => "[" ++ joinWith ", " (displayAll elements) ++ "]"
  | .hash _ entries => "\x7b" ++ joinWith ", " (displayEntries entries) ++ "\x7d"
  | .returned value => value.display
  | .error fault => "ERROR: " ++ fault.message

/-- The texts of some values. -/
def displayAll : List Value → List String
  | [] => []
  | value :: rest => value.display :: displayAll rest

/-- The text of an entry. -/
def Entry.display : Entry → String
  | .mk _ shown value => shown.display ++ ": " ++ value.display

/-- The texts of some entries. -/
def displayEntries : List Entry → List String
  | [] => []
  | entry :: rest => entry.display :: displayEntries rest

end

end Jet
