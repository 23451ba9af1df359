/-!
# File paths

The text of a path in its plain form: no empty and no `.` components, and `.` for the empty path.
-/

namespace Jet.Path

/-- What a path begins with: a path from the root with one or two slashes, or nothing. -/
def anchor (path : String) : String :=
  match path.toList with
  | '/' :: '/' :: '/' :: _ => "/"
  | '/' :: '/' :: _ => "//"
  | '/' :: _ => "/"
  | _ => ""

/-- The components of a path. -/
def components (path : String) : List String :=
  ((path.toList.splitOn '/').map String.ofList).filter fun part => part != "" && part != "."

/-- The plain form of a path. -/
def plain (path : String) : String :=
  match anchor path, components path with
  | "", [] => "."
  | root, parts => root ++ String.intercalate "/" parts

/-- Whether a path holds the character that no path can hold. -/
def isUnnameable (path : String) : Bool :=
  path.contains '\x00'

/-- Whether a component has more bytes than a name can have. -/
def isOverlongName (component : String) : Bool :=
  255 < component.utf8ByteSize

/-- Whether the plain form of a path has more bytes than a path can have. -/
def isOverlong (path : String) : Bool :=
  4095 < (plain path).utf8ByteSize

/-- A path below another, or the path itself if it begins at the root. -/
def join (base path : String) : String :=
  if anchor path = "" then plain (base ++ "/" ++ path) else plain path

end Jet.Path
