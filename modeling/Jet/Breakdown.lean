import Jet.Session
import Jet.Text.Quoted
import Jet.Text.Utf8

/-!
# Breakdowns

What breaks the tool off without being reported as a failure of the program or its settings.
-/

namespace Jet

/-- Why the tool broke off. -/
inductive Breakdown where
  /-- An evaluation has no result at all, or the host no room. -/
  | escape (cause : Escape)
  /-- The settings are no text. -/
  | undecodable (failure : Text.Utf8.Failure)
  /-- A path holds the character that no path can hold. -/
  | unnameable
  /-- Looking for the settings at a path was refused because of its length. -/
  | overlong (path : String)
  /-- A library failed: it reads the settings, or shows the prompt. -/
  | library (fault : LibraryFault)
deriving DecidableEq, Repr

/-- The message of an escape. -/
def Escape.message : Escape → String
  | unreadableFloat literal => "could not convert string to float: " ++ Text.quoted literal
  | undefinedRemainder => "math domain error"
  | exhausted => "maximum recursion depth exceeded"

/-- The message of a breakdown. -/
def Breakdown.message : Breakdown → String
  | escape cause => cause.message
  | undecodable failure => failure.message
  | unnameable => "embedded null byte"
  | overlong path => "[Errno 36] File name too long: " ++ Text.quoted path
  | library fault => fault.message

end Jet
