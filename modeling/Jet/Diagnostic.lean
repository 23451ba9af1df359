import Jet.Path

/-!
# Diagnostics

Failures outside of the language, such as an unreadable file, with the place they are about.
-/

namespace Jet

/-- A place in a file; the column is only known together with the line. -/
structure Location where
  file : String
  line : Option Int
  column : Option Int
deriving DecidableEq, Repr

/-- The text of a location, unknown parts left out. -/
def Location.text (location : Location) : String :=
  let file := Path.plain location.file
  match location.line, location.column with
  | some line, some column => file ++ ":" ++ toString line ++ ":" ++ toString column
  | some line, none => file ++ ":" ++ toString line
  | none, _ => file

/-- A failure and the place it is about, if any. -/
structure Diagnostic where
  message : String
  location : Option Location
deriving DecidableEq, Repr

/-- The text of a diagnostic, the place in front. -/
def Diagnostic.text (diagnostic : Diagnostic) : String :=
  match diagnostic.location with
  | some location => location.text ++ ": " ++ diagnostic.message
  | none => diagnostic.message

/-- A diagnostic about a whole file. -/
def Diagnostic.ofFile (file message : String) : Diagnostic :=
  ⟨message, some ⟨file, none, none⟩⟩

end Jet
