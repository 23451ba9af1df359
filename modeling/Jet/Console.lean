import Jet.Host

/-!
# The console

What is printed, and what prints it.  A text is printed in a style, on lines of its own, and is kept
on its lines or fitted to the width of the console.  What is then written is a matter of the console,
which a library provides; it is known here only by what it writes.
-/

namespace Jet

/-- The styles in which texts are printed. -/
inductive Style where
  | plain
  | title
  | subtitle
  | value
  | error
  | warning
  | muted
deriving DecidableEq, Repr

/-- A text that is printed on lines of its own. -/
structure Print where
  text : String
  style : Style
  /-- Whether the text stays on its lines, however wide the console is. -/
  softWraps : Bool
deriving DecidableEq, Repr

namespace Print

/-- A title, and a line below it if there is one. -/
def header (title subtitle : String) : List Print :=
  ⟨title, .title, false⟩ :: if subtitle.isEmpty then [] else [⟨subtitle, .subtitle, false⟩]

/-- A failure outside of the language. -/
def complaint (message : String) : Print :=
  ⟨"✗ " ++ message, .error, true⟩

/-- A result. -/
def value (text : String) : Print :=
  ⟨text, .value, true⟩

/-- An error that a program ended in. -/
def failure (text : String) : Print :=
  ⟨text, .error, true⟩

/-- The line above the problems of a text. -/
def problemsHeader : Print :=
  ⟨"parser errors:", .error, false⟩

/-- A problem of a text, indented. -/
def problem (message : String) : Print :=
  ⟨"\t" ++ message, .warning, true⟩

/-- The problems of a text. -/
def problems (messages : List String) : List Print :=
  problemsHeader :: messages.map problem

/-- A text that is less important than others. -/
def muted (text : String) : Print :=
  ⟨text, .muted, true⟩

/-- A text without a style. -/
def plain (text : String) : Print :=
  ⟨text, .plain, false⟩

end Print

/-- What a console writes. -/
structure Console where
  /-- For a text on lines of its own. -/
  printed : Print → String
  /-- For the prompt in front of a line that is at hand. -/
  prompted : String → String
  /-- For the prompt with which a line is asked for; the library may refuse its markup. -/
  asked : String → Except LibraryFault String

/-- What is given out. -/
inductive Output where
  | prompt (text : String)
  | print (item : Print)
  /-- A text that is written as it is, without the console. -/
  | verbatim (text : String)
deriving DecidableEq, Repr

namespace Output

/-- What is written. -/
def written (console : Console) : Output → String
  | prompt text => console.prompted text
  | print item => console.printed item
  | verbatim text => text

/-- With a prompt for which it is known what is written. -/
def asking (shown : String) : Output → Output
  | prompt _ => verbatim shown
  | other => other

end Output

/-- All that is written. -/
def Console.write (console : Console) (outputs : List Output) : String :=
  String.join (outputs.map (Output.written console))

end Jet
