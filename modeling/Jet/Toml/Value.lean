import Jet.Host
import Jet.Number.Double

/-!
# TOML values

The values of a TOML document.  Dates and times are kept as they are written.  A document is read by
a library, which is known here only by what it gives for each text: a table, or why there is none.
-/

namespace Jet.Toml

/-- A value of a document; a table keeps its keys in the order in which they were given. -/
inductive Value where
  | string (value : String)
  | integer (value : Int)
  | float (value : Double)
  | boolean (value : Bool)
  | date (text : String)
  | time (text : String)
  | datetime (text : String)
  | array (items : List Value)
  | table (entries : List (String × Value))

/-- The entries of a table. -/
abbrev Table := List (String × Value)

/-- What a text breaks of the rules of documents, and where, as far as this is told. -/
structure Violation where
  message : String
  line : Option Int
  column : Option Int
deriving DecidableEq, Repr

/-- Why there is no table for a text. -/
inductive Refusal where
  | invalid (violation : Violation)
  /-- The reader failed in another way. -/
  | failed (fault : LibraryFault)
deriving DecidableEq, Repr

/-- A reader of documents. -/
abbrev Reader := String → Except Refusal Table

/-- The name of the type of a value, as used in messages. -/
def Value.typeName : Value → String
  | .string _ => "str"
  | .integer _ => "int"
  | .float _ => "float"
  | .boolean _ => "bool"
  | .date _ => "date"
  | .time _ => "time"
  | .datetime _ => "datetime"
  | .array _ => "list"
  | .table _ => "dict"

/-- The text that a value is, if it is one. -/
def Value.text? : Value → Option String
  | .string text => some text
  | _ => none

theorem Value.text?_eq_some_iff (value : Value) (text : String) :
    value.text? = some text ↔ value = .string text := by
  cases value <;> simp [text?]

/-- The truth value that a value is, if it is one. -/
def Value.flag? : Value → Option Bool
  | .boolean flag => some flag
  | _ => none

theorem Value.flag?_eq_some_iff (value : Value) (flag : Bool) :
    value.flag? = some flag ↔ value = .boolean flag := by
  cases value <;> simp [flag?]

namespace Table

/-- The value of a key. -/
def get? (table : Table) (key : String) : Option Value :=
  table.lookup key

/-- Sets a key, where it stands if it is there. -/
def set (key : String) (value : Value) : Table → Table
  | [] => [(key, value)]
  | head :: rest => if head.1 = key then (key, value) :: rest else head :: set key value rest

/--
Changes the table that a path of keys leads to, making the tables on the way.  The last table of an
array of tables stands for the array if `throughArrays` says so.  There is no change if the path
meets another value.
-/
def modifyAt (throughArrays : Bool) (change : Table → Option Table) :
    List String → Table → Option Table
  | [], table => change table
  | key :: path, table =>
      match table.get? key with
      | none =>
          (modifyAt throughArrays change path []).map fun inner => set key (.table inner) table
      | some (.table inner) =>
          (modifyAt throughArrays change path inner).map fun inner => set key (.table inner) table
      | some (.array items) =>
          match throughArrays, items.getLast? with
          | true, some (.table inner) =>
              (modifyAt throughArrays change path inner).map fun inner =>
                set key (.array (items.dropLast ++ [.table inner])) table
          | _, _ => none
      | some _ => none

/-- Adds a key that must be new. -/
def add? (key : String) (value : Value) (table : Table) : Option Table :=
  match table.get? key with
  | some _ => none
  | none => some (set key value table)

/-- Adds an empty table to the array of tables of a key, which may be new. -/
def append? (key : String) (table : Table) : Option Table :=
  match table.get? key with
  | none => some (set key (.array [.table []]) table)
  | some (.array items) => some (set key (.array (items ++ [.table []])) table)
  | some _ => none

end Table

end Jet.Toml
