import Jet.Token.Basic
import Jet.Token.Lexeme

/-!
# The token stream of a text

A cursor is a place in a text: what is left to read, and how many characters, lines and columns
were passed.  `Cursor.next` reads one token; at the end of the text it gives the end token again
and again.  A `Scanner` is a cursor shared by any number of iterations, which together hand out at
most one end token.  `tokenize` lists the tokens of a whole text.
-/

namespace Jet

/-- A place in a text. -/
structure Cursor where
  /-- What is left to read. -/
  rest : List Char
  /-- The number of characters passed. -/
  position : Nat
  /-- The line, counted from one. -/
  line : Nat
  /-- The column, counted from one. -/
  column : Nat
deriving DecidableEq, Repr

namespace Cursor

/-- The start of a text. -/
def ofText (source : String) : Cursor :=
  ⟨source.toList, 0, 1, 1⟩

/-- One character further on. -/
def step (cursor : Cursor) : Cursor :=
  match cursor.rest with
  | [] => cursor
  | '\n' :: rest => ⟨rest, cursor.position + 1, cursor.line + 1, 1⟩
  | _ :: rest => ⟨rest, cursor.position + 1, cursor.line, cursor.column + 1⟩

/-- Some number of characters further on. -/
def advance : Nat → Cursor → Cursor
  | 0, cursor => cursor
  | count + 1, cursor => advance count cursor.step

/-- The character at the cursor. -/
def char? (cursor : Cursor) : Option Char :=
  cursor.rest.head?

/-- The character after the one at the cursor. -/
def peek? (cursor : Cursor) : Option Char :=
  cursor.rest.tail.head?

/-- Past the layout in front of the next token. -/
def skipLayout (cursor : Cursor) : Cursor :=
  cursor.advance (layoutLength false cursor.rest)

/-- The next token, and the cursor after it. -/
def next (cursor : Cursor) : Token × Cursor :=
  let start := cursor.skipLayout
  match Lexeme.first? start.rest with
  | none => (⟨.endOfInput, "", start.line, start.column⟩, start)
  | some lexeme =>
      (⟨lexeme.kind, lexeme.literal, start.line, start.column⟩,
        start.advance lexeme.text.length)

/-- Up to a number of tokens, ending early after the end token, and the cursor after them. -/
def take : Nat → Cursor → List Token × Cursor
  | 0, cursor => ([], cursor)
  | count + 1, cursor =>
      let (token, after) := cursor.next
      if token.kind = .endOfInput then ([token], after)
      else
        let (tokens, final) := after.take count
        (token :: tokens, final)

/--
All tokens up to and including the end token, and the cursor after them.  Every other token covers
at least one character, so there is no more than one token for each character and one end token.
-/
def drain (cursor : Cursor) : List Token × Cursor :=
  cursor.take (cursor.rest.length + 1)

end Cursor

/-- The tokens of a text, ending in the end token. -/
def tokenize (source : String) : List Token :=
  (Cursor.ofText source).drain.1

/-- A cursor shared by iterations, which stop once one of them has met the end token. -/
structure Scanner where
  cursor : Cursor
  finished : Bool
deriving DecidableEq, Repr

namespace Scanner

/-- A scanner at the start of a text. -/
def ofText (source : String) : Scanner :=
  ⟨.ofText source, false⟩

/-- Reads one token outside of any iteration; the end token may be read any number of times. -/
def next (scanner : Scanner) : Token × Scanner :=
  let (token, cursor) := scanner.cursor.next
  (token, { scanner with cursor })

/-- The next token of an iteration, or `none` once some iteration has met the end token. -/
def pull (scanner : Scanner) : Option Token × Scanner :=
  if scanner.finished then (none, scanner)
  else
    let (token, cursor) := scanner.cursor.next
    (some token, ⟨cursor, token.kind = .endOfInput⟩)

/-- A whole iteration. -/
def drain (scanner : Scanner) : List Token × Scanner :=
  if scanner.finished then ([], scanner)
  else
    let (tokens, cursor) := scanner.cursor.drain
    (tokens, ⟨cursor, true⟩)

end Scanner

end Jet
