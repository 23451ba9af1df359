import Jet.Number.Exact
import Jet.Tree.Basic
import Jet.Value.Fault

/-!
# Values

The values of a running program, and the two signals that travel beside them: a returned value on
its way to the end of the call, and an error on its way to the end of the program.

Arrays, hashes and functions are compared by identity, so each carries the stamp that it got when it
was made.  A hash is a list of entries in the order in which their keys were first given; an entry
holds the key that it is found by, the value shown for the key, and the value stored.
-/

namespace Jet

/-- The functions that every program can use. -/
inductive Builtin where
  | len
  | first
  | last
  | rest
  | push
  | type
  | str
deriving DecidableEq, Repr

/-- What an entry of a hash is found by; numbers are told apart by their exact value alone. -/
inductive HashKey where
  | number (value : Exact)
  | boolean (value : Bool)
  | string (value : String)
  | null
  /-- Shared by all entries, made outside of the language, whose shown value is no key. -/
  | unusable
deriving DecidableEq, Repr

mutual

/-- A value or a signal. -/
inductive Value where
  | integer (value : Int)
  | float (value : Double)
  | boolean (value : Bool)
  | string (value : String)
  | null
  /-- A function with the scope in which it was made. -/
  | function (stamp : Nat) (parameters : List String) (body : List Stmt) (scope : Nat)
  | builtin (builtin : Builtin)
  | array (stamp : Nat) (elements : List Value)
  | hash (stamp : Nat) (entries : List Entry)
  | returned (value : Value)
  | error (fault : Fault)

/-- An entry of a hash. -/
inductive Entry where
  | mk (key : HashKey) (shown : Value) (value : Value)

end

instance : Inhabited Value := ⟨.null⟩

namespace Entry

/-- The key that an entry is found by. -/
def key : Entry → HashKey
  | mk key _ _ => key

/-- The value that was given as the key. -/
def shown : Entry → Value
  | mk _ shown _ => shown

/-- The value that is stored. -/
def value : Entry → Value
  | mk _ _ value => value

/-- Adds an entry; one with the same key is replaced where it stands. -/
def insert (entry : Entry) : List Entry → List Entry
  | [] => [entry]
  | head :: rest => if head.key = entry.key then entry :: rest else head :: insert entry rest

/-- The value stored under a key. -/
def find? (key : HashKey) : List Entry → Option Value
  | [] => none
  | head :: rest => if head.key = key then some head.value else find? key rest

end Entry

namespace Value

/-- The kind of a value. -/
def kind : Value → ValueKind
  | integer _ => .integer
  | float _ => .float
  | boolean _ => .boolean
  | string _ => .string
  | null => .null
  | function .. => .function
  | builtin _ => .builtin
  | array .. => .array
  | hash .. => .hash
  | returned _ => .returned
  | error _ => .error

/-- Whether a result aborts the work around it. -/
def isSignal : Value → Bool
  | returned _ => true
  | error _ => true
  | _ => false

/-- Only `false` and `null` count as false. -/
def isTruthy : Value → Bool
  | boolean value => value
  | null => false
  | _ => true

/-- The key that a value is found by in a hash, if it can be a key. -/
def key? : Value → Option HashKey
  | integer value => some (.number (.ofInt value))
  | float value => some (.number (.ofDouble value))
  | boolean value => some (.boolean value)
  | string value => some (.string value)
  | null => some .null
  | _ => none

/-- Whether two values of a kind without contents of its own to compare are one and the same. -/
def isSame : Value → Value → Bool
  | function left .., function right .. => left == right
  | builtin left, builtin right => left == right
  | array left _, array right _ => left == right
  | hash left _, hash right _ => left == right
  | boolean left, boolean right => left == right
  | null, null => true
  | _, _ => false

end Value

/-- The name of a builtin. -/
def Builtin.name : Builtin → String
  | len => "len"
  | first => "first"
  | last => "last"
  | rest => "rest"
  | push => "push"
  | type => "type"
  | str => "str"

/-- The builtin of a name. -/
def Builtin.ofName? : String → Option Builtin
  | "len" => some len
  | "first" => some first
  | "last" => some last
  | "rest" => some rest
  | "push" => some push
  | "type" => some type
  | "str" => some str
  | _ => none

end Jet
