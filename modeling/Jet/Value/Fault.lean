/-!
# Runtime faults

What can go wrong while a program runs, and the message that says so.  The messages name the kinds
of the values that took part, by the upper-case names that `type` also gives.
-/

namespace Jet

/-- The kinds of values, those of the two signals included. -/
inductive ValueKind where
  | integer
  | float
  | boolean
  | string
  | null
  | function
  | builtin
  | array
  | hash
  | returned
  | error
deriving DecidableEq, Repr

/-- The name of a kind. -/
def ValueKind.name : ValueKind → String
  | .integer => "INTEGER"
  | .float => "FLOAT"
  | .boolean => "BOOLEAN"
  | .string => "STRING"
  | .null => "NULL"
  | .function => "FUNCTION"
  | .builtin => "BUILTIN"
  | .array => "ARRAY"
  | .hash => "HASH"
  | .returned => "RETURN_VALUE"
  | .error => "ERROR"

/-- Why a program was aborted. -/
inductive Fault where
  | nameNotFound (name : String)
  | undeclaredTarget (name : String)
  | typeMismatch (left : ValueKind) (operator : String) (right : ValueKind)
  | unknownBinary (left : ValueKind) (operator : String) (right : ValueKind)
  | unknownUnary (operator : String) (operand : ValueKind)
  | numericOverflow (left : ValueKind) (operator : String) (right : ValueKind)
  | integerTooLarge (limit : Nat)
  | divisionByZero
  | wrongArity (expected given : Nat)
  | notFunction (kind : ValueKind)
  | arrayIndex (kind : ValueKind)
  | notIndexable (kind : ValueKind)
  | unusableKey (kind : ValueKind)
  | lengthUnsupported (kind : ValueKind)
  | arrayRequired (builtin : String) (kind : ValueKind)
  | depthExceeded
  /-- A fault that is only known by its message. -/
  | stated (message : String)
deriving DecidableEq, Repr

namespace Fault

/-- Two kinds around an operator. -/
def operation (left : ValueKind) (operator : String) (right : ValueKind) : String :=
  left.name ++ " " ++ operator ++ " " ++ right.name

/-- The message of a fault. -/
def message : Fault → String
  | nameNotFound name => "identifier not found: " ++ name
  | undeclaredTarget name => "cannot assign to undeclared identifier: " ++ name
  | typeMismatch left operator right => "type mismatch: " ++ operation left operator right
  | unknownBinary left operator right => "unknown operator: " ++ operation left operator right
  | unknownUnary operator operand => "unknown operator: " ++ operator ++ operand.name
  | numericOverflow left operator right => "numeric overflow: " ++ operation left operator right
  | integerTooLarge limit => "integer too large: more than " ++ toString limit ++ " digits"
  | divisionByZero => "division by zero"
  | wrongArity expected given =>
      "wrong number of arguments: want=" ++ toString expected ++ ", got=" ++ toString given
  | notFunction kind => "not a function: " ++ kind.name
  | arrayIndex kind => "array index must be INTEGER, got " ++ kind.name
  | notIndexable kind => "index operator not supported: " ++ kind.name
  | unusableKey kind => "unusable as hash key: " ++ kind.name
  | lengthUnsupported kind => "argument to `len` not supported, got " ++ kind.name
  | arrayRequired builtin kind =>
      "argument to `" ++ builtin ++ "` must be ARRAY, got " ++ kind.name
  | depthExceeded => "maximum recursion depth exceeded"
  | stated message => message

end Fault

end Jet
