import Jet.Markup.Argument.Quotation
import Jet.Text.Identifier

/-!
# Parts of arguments

The numbers, texts, words and marks of an argument.  White space, comments and, between brackets,
line ends only separate parts.  A bracket is closed by one of its own kind.  Outside of brackets a
line must not be indented, and its end is a part, unless the line is blank.
-/

namespace Jet.Markup.Argument

/-- A part of an argument. -/
inductive Part where
  | number (number : Number)
  | text (bytes : Bool)
  /-- A text of which parts are to be computed. -/
  | formatted
  /-- A number or a text whose form is right and that has no value, or a misplaced backslash. -/
  | valueless (complaint : Complaint)
  | word (word : String)
  | ellipsis
  /-- A bracket, a comma, a colon or a semicolon. -/
  | mark (char : Char)
  | operator (sign : String)
  | lineEnd
  | indentation
deriving DecidableEq, Repr

/-! ## Words -/

/--
A character that a word may go on with; which of those beyond ASCII are allowed is decided later.
-/
def isWordPart (char : Char) : Bool :=
  char.isAlphanum || char == '_' || 0x80 ≤ char.toNat

/--
The code points of letters that are other forms of the letters of `set`, with the plain letter.
-/
def styledLetters : List (Char × List Nat) :=
  [('s', [0x17f, 0x2e2, 0x209b, 0xff53, 0x1d42c, 0x1d460, 0x1d494, 0x1d4c8, 0x1d4fc, 0x1d530,
      0x1d564, 0x1d598, 0x1d5cc, 0x1d600, 0x1d634, 0x1d668, 0x1d69c]),
    ('e', [0x1d49, 0x2091, 0x212f, 0x2147, 0xff45, 0x1d41e, 0x1d452, 0x1d486, 0x1d4ee, 0x1d522,
      0x1d556, 0x1d58a, 0x1d5be, 0x1d5f2, 0x1d626, 0x1d65a, 0x1d68e]),
    ('t', [0x1d57, 0x209c, 0xff54, 0x1d42d, 0x1d461, 0x1d495, 0x1d4c9, 0x1d4fd, 0x1d531, 0x1d565,
      0x1d599, 0x1d5cd, 0x1d601, 0x1d635, 0x1d669, 0x1d69d])]

/-- The plain form of a letter of `set`. -/
def plainLetter (char : Char) : Char :=
  match styledLetters.find? fun (_, forms) => forms.contains char.toNat with
  | some (plain, _) => plain
  | none => char

/-- Whether a word stands for the making of a set; other forms of its letters count as well. -/
def isSetWord (word : String) : Bool :=
  word.toList.map plainLetter == ['s', 'e', 't']

/-! ## Signs -/

/-- The signs of more than one character, the longest ones first. -/
def longSigns : List (List Char) :=
  ["**=", "//=", ">>=", "<<=", "!=", "%=", "&=", "**", "*=", "+=", "-=", "->", "//", "/=", ":=",
    "<<", "<=", "<>", "==", ">=", ">>", "@=", "^=", "|="].map String.toList

/-- The sign that a text begins with, given its first character. -/
def signAt (first : Char) (chars : List Char) : List Char :=
  (longSigns.find? fun sign => sign.isPrefixOf chars).getD [first]

/-- Whether a character is a mark, not an operator. -/
def isMark (char : Char) : Bool :=
  ['(', ')', '[', ']', '\x7b', '\x7d', ',', ':', ';'].contains char

/-- The part that a sign is. -/
def Part.ofSign (sign : List Char) : Part :=
  match sign with
  | [char] => if isMark char then mark char else operator (String.ofList sign)
  | _ => operator (String.ofList sign)

/-! ## Scanning -/

/-- Where a scan is: the open brackets with their lines, the last one first, and its own line. -/
structure Place where
  opened : List (Char × Nat)
  line : Nat
deriving DecidableEq, Repr

namespace Place

/-- The greatest number of brackets inside each other. -/
def nestingLimit : Nat := 200

/-- The place in the next line. -/
def nextLine (place : Place) : Place :=
  { place with line := place.line + 1 }

/-- The place behind a text that takes several lines. -/
def behind (place : Place) (chars : List Char) : Place :=
  { place with line := place.line + chars.count '\n' }

/-- The bracket that a closing bracket closes. -/
def opening? : Char → Option Char
  | ')' => some '('
  | ']' => some '['
  | '\x7d' => some '\x7b'
  | _ => none

/-- The place behind a mark, which may open or close a bracket. -/
def take (place : Place) (mark : Char) : Except Complaint Place :=
  if mark = '(' ∨ mark = '[' ∨ mark = '\x7b' then
    if nestingLimit ≤ place.opened.length then .error .nestedTooDeeply
    else .ok { place with opened := (mark, place.line) :: place.opened }
  else
    match opening? mark, place.opened with
    | none, _ => .ok place
    | some _, [] => .error (.unmatched mark)
    | some expected, (opening, line) :: rest =>
        if opening = expected then .ok { place with opened := rest }
        else
          .error (.mismatched mark opening (if line = place.line then none else some line))

end Place

/-- The parts of a text and the brackets that are open at its end. -/
abbrev Scan := Except Complaint (List Part × List (Char × Nat))

/-- Puts a part in front of those of a scan. -/
def Scan.cons (part : Part) (scan : Scan) : Scan :=
  scan.map fun (parts, opened) => (part :: parts, opened)

/--
What stands behind the white space at the start of a line, the place there, and the number of
columns that it takes.  A form feed begins anew; if the white space goes on in the next line behind
a backslash, that in front of the backslash counts, should there be any.
-/
def behindIndentation : Place → Nat → Nat → List Char → Place × Nat × List Char
  | place, column, fixed, ' ' :: rest => behindIndentation place (column + 1) fixed rest
  | place, column, fixed, '\t' :: rest =>
      behindIndentation place ((column / 8 + 1) * 8) fixed rest
  | place, _, fixed, '\x0c' :: rest => behindIndentation place 0 fixed rest
  | place, column, fixed, '\\' :: '\n' :: rest =>
      behindIndentation place.nextLine column (if fixed = 0 then column else fixed) rest
  | place, column, fixed, rest => (place, if fixed = 0 then column else fixed, rest)

mutual

/-- Scans a text from the start of a line on; the fuel bounds its length. -/
def scanLine : Nat → Place → List Char → Scan
  | 0, _, _ => .error .unexpectedPart
  | fuel + 1, place, chars =>
      let (place, column, rest) := behindIndentation place 0 0 chars
      match rest with
      | '\n' :: rest => scanLine fuel place.nextLine rest
      | '#' :: comment =>
          match comment.dropWhile (· != '\n') with
          | [] => .ok ([], place.opened)
          | _ :: rest => scanLine fuel place.nextLine rest
      | [] => .ok ([], place.opened)
      | rest =>
          if place.opened.isEmpty && column != 0 && rest.head? != some '\\' then
            (scan fuel place rest).cons .indentation
          else scan fuel place rest

/-- Scans a text from within a line on; the fuel bounds its length. -/
def scan : Nat → Place → List Char → Scan
  | 0, _, _ => .error .unexpectedPart
  | _, place, [] => .ok ([], place.opened)
  | fuel + 1, place, char :: rest =>
      let chars := char :: rest
      if char = ' ' ∨ char = '\t' ∨ char = '\x0c' then scan fuel place rest
      else if char = '\n' then
        if place.opened.isEmpty then (scanLine fuel place.nextLine rest).cons .lineEnd
        else scanLine fuel place.nextLine rest
      else if char = '#' then scan fuel place (rest.dropWhile (· != '\n'))
      else if char = '\\' then
        match rest with
        | '\n' :: rest => scan fuel place.nextLine rest
        | _ => .ok ([.valueless .badContinuation], place.opened)
      else
        match Quotation.read? chars with
        | some (quotation, inner) =>
            match quotation.split? inner with
            | none =>
                let line := place.line + quotation.lineEnds inner
                .error (if quotation.triple then .unterminatedLongText line
                  else .unterminatedText line)
            | some (inside, behind) =>
                let part : Part :=
                  match quotation.fault inside with
                  | some complaint => .valueless complaint
                  | none => if quotation.formatted then .formatted else .text quotation.bytes
                (scan fuel (place.behind inside) behind).cons part
        | none =>
            if ['.', '.', '.'].isPrefixOf chars then
              (scan fuel place (rest.drop 2)).cons .ellipsis
            else if startsNumber chars then do
              let (number, behind) ← readNumber chars
              let part : Part :=
                match number with
                | .ok number => .number number
                | .error complaint => .valueless complaint
              (scan fuel place behind).cons part
            else if isWordPart char then
              let word := chars.takeWhile isWordPart
              match Text.strayInIdentifier? word with
              | some stray => .error (.strayCharacter stray)
              | none => (scan fuel place (chars.drop word.length)).cons (.word (String.ofList word))
            else if !Text.isPrintable char then .error (.strayCharacter char)
            else do
              let sign := signAt char chars
              let place ← if sign.length = 1 then place.take char else pure place
              (scan fuel place (chars.drop sign.length)).cons (.ofSign sign)

end

/-- The parts of an argument and the brackets that are open at its end. -/
def partsOf (text : List Char) : Scan :=
  if text.any fun char => char.toNat = 0 then .error .nullCharacter
  else scanLine (2 * text.length + 2) ⟨[], 1⟩ text

end Jet.Markup.Argument
