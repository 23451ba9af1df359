import Jet.Toml.Lexical

/-!
# TOML documents

Reading a whole document into its root table.  A document is a sequence of lines, each with a table
header, a key with its value, or neither.  Which tables may be opened or added to later is kept in
marks on the paths of keys: a table can be opened by a header only once, tables made by dotted keys
not at all once another header has come, and what an inline table or array holds can never change.
-/

namespace Jet.Toml

/-! ## Values -/

/-- Adds a pair to an inline table; the paths listed hold tables and arrays that cannot change. -/
def addInline? (closed : List (List String)) (key : List String) (value : Value) (table : Table) :
    Option Table :=
  if closed.any fun path => path.isPrefixOf key then none
  else
    match key.getLast? with
    | none => none
    | some last => Table.modifyAt false (Table.add? last value) key.dropLast table

/-- Whether a value is a table or an array. -/
def Value.isCollection : Value → Bool
  | .array _ => true
  | .table _ => true
  | _ => false

/-- What was read, as a rule with what is left, or the reason for a refusal. -/
abbrev Reading := Except Refusal

/-- A text that does not begin with what is looked for is invalid. -/
def required {α : Type} : Option α → Reading α
  | some result => .ok result
  | none => .error .unexplained

mutual

/-- A value of any type; the fuel bounds the nesting and the number of parts. -/
def value : Nat → List Char → Reading (Value × List Char)
  | 0, _ => .error .unexplained
  | fuel + 1, chars =>
      match chars with
      | '"' :: _ => (required (string? chars)).map fun (text, rest) => (.string text, rest)
      | '\'' :: _ => (required (string? chars)).map fun (text, rest) => (.string text, rest)
      | 't' :: 'r' :: 'u' :: 'e' :: rest => .ok (.boolean true, rest)
      | 'f' :: 'a' :: 'l' :: 's' :: 'e' :: rest => .ok (.boolean false, rest)
      | '[' :: rest =>
          match skipLayout? false rest with
          | none => .error .unexplained
          | some (']' :: rest) => .ok (.array [], rest)
          | some rest => (items fuel rest).map fun (items, rest) => (.array items, rest)
      | '\x7b' :: rest =>
          match skipBlanks rest with
          | '\x7d' :: rest => .ok (.table [], rest)
          | rest => (pairs fuel [] [] rest).map fun (table, rest) => (.table table, rest)
      | _ =>
          match dateOrTime? chars, prefixedInteger? chars, decimal? chars with
          | some result, _, _ => required result
          | none, some result, _ => .ok result
          | none, none, some result => result
          | none, none, none => required (specialFloat? chars)

/-- The items of an array up to the closing bracket; a comma may stand behind the last one. -/
def items : Nat → List Char → Reading (List Value × List Char)
  | 0, _ => .error .unexplained
  | fuel + 1, chars => do
      let (item, rest) ← value fuel chars
      match skipLayout? false rest with
      | some (']' :: rest) => pure ([item], rest)
      | some (',' :: rest) =>
          match skipLayout? false rest with
          | none => throw .unexplained
          | some (']' :: rest) => pure ([item], rest)
          | some rest =>
              let (items, rest) ← items fuel rest
              pure (item :: items, rest)
      | _ => throw .unexplained

/-- The pairs of an inline table up to the closing brace, added to a table. -/
def pairs : Nat → List (List String) → Table → List Char → Reading (Table × List Char)
  | 0, _, _, _ => .error .unexplained
  | fuel + 1, closed, table, chars => do
      match key? chars with
      | some (key, '=' :: rest) =>
          let (value, rest) ← value fuel (skipBlanks rest)
          let table ← required (addInline? closed key value table)
          match skipBlanks rest with
          | '\x7d' :: rest => pure (table, rest)
          | ',' :: rest =>
              pairs fuel (if value.isCollection then key :: closed else closed) table
                (skipBlanks rest)
          | _ => throw .unexplained
      | _ => throw .unexplained

end

/-- A key and its value. -/
def pair (chars : List Char) : Reading ((List String × Value) × List Char) :=
  match key? chars with
  | some (key, '=' :: rest) =>
      (value (2 * rest.length + 2) (skipBlanks rest)).map fun (value, rest) =>
        ((key, value), rest)
  | _ => .error .unexplained

/-! ## Documents -/

/-- What was read so far. -/
structure Document where
  root : Table
  /-- The path of the header in force. -/
  header : List String
  /-- Paths that a header can no longer open. -/
  opened : List (List String)
  /-- Paths below which nothing can change. -/
  frozen : List (List String)
  /-- Paths that are counted as opened once another header comes. -/
  pending : List (List String)

namespace Document

/-- A document with nothing in it. -/
def empty : Document :=
  ⟨[], [], [], [], []⟩

/-- Whether nothing can change at a path. -/
def isFrozen (document : Document) (path : List String) : Bool :=
  document.frozen.any fun frozen => frozen.isPrefixOf path

/-- Whether a header can no longer open a path. -/
def isOpened (document : Document) (path : List String) : Bool :=
  document.opened.contains path

/-- Leaves the table of the header in force. -/
def closeHeader (document : Document) : Document :=
  { document with opened := document.pending ++ document.opened, pending := [] }

/-- Takes a table header. -/
def openTable? (document : Document) (path : List String) : Option Document :=
  if document.isOpened path || document.isFrozen path then none
  else
    (Table.modifyAt true some path document.root).map fun root =>
      { document with root, header := path, opened := path :: document.opened }

/-- Takes a header for one more table of an array of tables, below which all is new again. -/
def openItem? (document : Document) (path : List String) : Option Document :=
  if document.isFrozen path then none
  else
    match path.getLast? with
    | none => none
    | some last =>
        let kept := fun other => !path.isPrefixOf other
        (Table.modifyAt true (Table.append? last) path.dropLast document.root).map fun root =>
          { document with
            root
            header := path
            opened := path :: document.opened.filter kept
            frozen := document.frozen.filter kept }

/-- The paths to the tables that a dotted key goes through. -/
def dottedPaths (header key : List String) : List (List String) :=
  (List.range (key.length - 1)).map fun count => header ++ key.take (count + 1)

/-- Takes a key and its value. -/
def addPair? (document : Document) (key : List String) (value : Value) : Option Document :=
  let dotted := dottedPaths document.header key
  let parent := document.header ++ key.dropLast
  match key.getLast? with
  | none => none
  | some last =>
      if dotted.any document.isOpened || document.isFrozen parent then none
      else
        (Table.modifyAt true (Table.add? last value) parent document.root).map fun root =>
          { document with
            root
            pending := dotted ++ document.pending
            frozen :=
              if value.isCollection then (document.header ++ key) :: document.frozen
              else document.frozen }

/-- Takes the statement at the start of a line, if there is one. -/
def statement (document : Document) (chars : List Char) : Reading (Document × List Char) :=
  match chars with
  | [] => .ok (document, [])
  | '[' :: '[' :: rest =>
      match key? (skipBlanks rest) with
      | some (path, ']' :: ']' :: rest) =>
          (required (document.closeHeader.openItem? path)).map fun document => (document, rest)
      | _ => .error .unexplained
  | '[' :: rest =>
      match key? (skipBlanks rest) with
      | some (path, ']' :: rest) =>
          (required (document.closeHeader.openTable? path)).map fun document => (document, rest)
      | _ => .error .unexplained
  | char :: _ => do
      if isBareKeyChar char || char == '"' || char == '\'' then
        let ((key, value), rest) ← pair chars
        pure (← required (document.addPair? key value), rest)
      else if char == '#' || char == '\n' then pure (document, chars)
      else throw .unexplained

/-- Takes lines one by one; the fuel bounds their number. -/
def lines : Nat → Document → List Char → Reading Document
  | 0, document, _ => .ok document
  | fuel + 1, document, chars => do
      let (document, rest) ← document.statement (skipBlanks chars)
      match skipComment? (skipBlanks rest) with
      | some [] => pure document
      | some ('\n' :: rest) => lines fuel document rest
      | _ => throw .unexplained

end Document

/-- Reads a document. -/
def parse : Reader := fun text =>
  let chars := text.toList
  (Document.lines (chars.length + 1) .empty chars).map Document.root

end Jet.Toml
