import Jet.Tree.Basic
import Jet.Value.Basic

/-!
# Hosts

What runs the language: a machine with a stack, and libraries that can fail.

Reading a text, writing a program and showing a value go down into whatever is nested, and take some
of the stack for each level.  How much there is, and how much a level takes, is a matter of the
host; so a host says for which texts, programs and values its stack has room.  An evaluation is
different: it notices that the stack is exhausted, and what counts there is how many calls are
nested.
-/

namespace Jet

/-- What the stack of a host has room for outside of evaluations. -/
structure Room where
  /-- Whether a source text can be read. -/
  reads : String → Bool
  /-- Whether the canonical text of a program can be put together. -/
  writes : Program → Bool
  /-- Whether the text that a value is shown by can be put together. -/
  shows : Value → Bool

/-- Room for everything. -/
def Room.ample : Room :=
  ⟨fun _ => true, fun _ => true, fun _ => true⟩

/-- What the language is run by. -/
structure Host where
  /-- The greatest number of calls inside each other. -/
  callLimit : Nat
  room : Room

/-- A host with room for everything but calls. -/
def Host.ample (callLimit : Nat) : Host :=
  ⟨callLimit, .ample⟩

/-- A host with another limit for calls. -/
def Host.within (host : Host) (callLimit : Nat) : Host :=
  { host with callLimit }

/-- A failure inside of a library that the program uses, with the name of its kind. -/
structure LibraryFault where
  kind : String
  message : String
deriving DecidableEq, Repr

end Jet
