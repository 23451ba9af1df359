import Jet.Path
import Jet.Text.Newline
import Jet.Text.Utf8

/-!
# Files

What can be found at a path, and reading it as text.
-/

namespace Jet

/-- What is found at a path. -/
inductive FileState where
  | missing
  | directory
  /-- The path leads through a file as if it were a directory. -/
  | blocked
  /-- A name in the path, or the path itself, is too long. -/
  | overlong
  /-- The path holds the character that no path can hold. -/
  | unnameable
  | file (bytes : List Nat)
deriving DecidableEq, Repr

/-- Why a file cannot be read as text. -/
inductive ReadFailure where
  | missing
  | directory
  | blocked
  | overlong
  | unnameable
  | undecodable (failure : Text.Utf8.Failure)
deriving DecidableEq, Repr

/-- The wording of a failure. -/
def ReadFailure.wording : ReadFailure → String
  | missing => "No such file or directory"
  | directory => "Is a directory"
  | blocked => "Not a directory"
  | overlong => "File name too long"
  | unnameable => "embedded null byte"
  | undecodable failure => failure.message

namespace FileState

/-- Whether something is found. -/
def isPresent : FileState → Bool
  | directory => true
  | file _ => true
  | _ => false

/-- The text of a file, with plain line ends. -/
def readText : FileState → Except ReadFailure String
  | missing => .error .missing
  | directory => .error .directory
  | blocked => .error .blocked
  | overlong => .error .overlong
  | unnameable => .error .unnameable
  | file bytes =>
      match Text.Utf8.decode bytes with
      | .ok text => .ok (Text.withPlainNewlines text)
      | .error failure => .error (.undecodable failure)

end FileState

/-- The files below a directory, by their components; directories are those on the way to them. -/
structure Disk where
  files : List (List String × List Nat)
  directories : List (List String)

namespace Disk

/-- What is found at the components of a path without steps upward. -/
def find (disk : Disk) (place : List String) : FileState :=
  match disk.files.lookup place with
  | some bytes => .file bytes
  | none =>
      let isDirectory := place.isEmpty ||
        disk.directories.any (fun directory => place.isPrefixOf directory) ||
        disk.files.any fun file => place.isPrefixOf file.1
      if isDirectory then .directory else .missing

/-- What is found above the directory: directories further up, and nothing else that is known. -/
def above : List String → FileState
  | [] => .directory
  | ".." :: rest => above rest
  | component :: _ => if Path.isOverlongName component then .overlong else .missing

/-- Follows the components of a path from a place on; every place on the way must be a directory. -/
def follow (disk : Disk) : List String → List String → FileState
  | place, [] => disk.find place
  | place, component :: rest =>
      match disk.find place with
      | .directory =>
          if component = ".." then
            if place.isEmpty then above rest else disk.follow place.dropLast rest
          else if Path.isOverlongName component then .overlong
          else disk.follow (place ++ [component]) rest
      | .file _ => .blocked
      | other => other

/-- What every system has below its root. -/
def system : Disk :=
  ⟨[(["dev", "null"], [])], [["bin"], ["etc"], ["tmp"], ["usr"]]⟩

/-- What is found at a path, which may be one from the root of the system. -/
def look (disk : Disk) (path : String) : FileState :=
  if Path.isUnnameable path then .unnameable
  else if Path.isOverlong path then .overlong
  else if Path.anchor path = "" then disk.follow [] (Path.components path)
  else system.follow [] ((Path.components path).dropWhile (· == ".."))

end Disk

end Jet
