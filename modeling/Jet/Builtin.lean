import Jet.Computation
import Jet.Value.Display

/-!
# Builtin functions

What the builtin functions do with their arguments.  None of them changes an argument: `rest` and
`push` make new arrays.
-/

namespace Jet.Builtin

open Jet.Computation

/-- The number of arguments that a builtin takes. -/
def arity : Builtin → Nat
  | push => 2
  | _ => 1

/-- The greatest number of parts that a string, an array or a hash can have: lengths are indices. -/
def maxLength : Nat := Nat.pow 2 63 - 1

/-- A number of parts as a length.  Nothing has more parts than the greatest length. -/
def measured (count : Nat) : Value :=
  .integer (min count maxLength : Nat)

/-- The length of a string, an array or a hash. -/
def length : Value → Value
  | .string value => measured value.length
  | .array _ elements => measured elements.length
  | .hash _ entries => measured entries.length
  | other => .error (.lengthUnsupported other.kind)

/-- Goes on with the elements of an array, or refuses another value. -/
def onArray (builtin : Builtin) (argument : Value) (next : List Value → Computation Value) :
    Computation Value :=
  match argument with
  | .array _ elements => next elements
  | other => pure (.error (.arrayRequired builtin.name other.kind))

/-- Calls a builtin. -/
def apply (builtin : Builtin) (arguments : List Value) : Computation Value :=
  match builtin, arguments with
  | len, [argument] => pure (length argument)
  | first, [argument] => onArray first argument fun elements => pure (elements.headD .null)
  | last, [argument] => onArray last argument fun elements => pure (elements.getLastD .null)
  | rest, [argument] =>
      onArray rest argument fun
        | [] => pure .null
        | _ :: others => newArray others
  | push, [argument, value] =>
      onArray push argument fun elements => newArray (elements ++ [value])
  | type, [argument] => pure (.string argument.kind.name)
  | str, [argument] => pure (.string argument.display)
  | builtin, arguments => pure (.error (.wrongArity builtin.arity arguments.length))

end Jet.Builtin
