import Jet.Markup.Argument.Number
import Jet.Text.CharacterName

/-!
# Quoted texts in arguments

A text stands between quotes, single or threefold, behind letters that say how it is meant.  Where
its end is depends on the quotes and backslashes only; whether its escapes are well formed is a
question for afterwards.
-/

namespace Jet.Markup.Argument

/-- How a text is written: its quote, and whether escapes, bytes or several lines are meant. -/
structure Quotation where
  quote : Char
  raw : Bool
  bytes : Bool
  /-- Whether parts of the text are to be computed. -/
  formatted : Bool
  triple : Bool
deriving DecidableEq, Repr

namespace Quotation

/-- The letters that may stand in front of a text. -/
def modes : List String :=
  ["", "r", "u", "b", "f", "br", "rb", "fr", "rf"]

/-- The quotation that a text begins with, and what stands behind the opening quotes. -/
def read? (chars : List Char) : Option (Quotation × List Char) :=
  let mode := String.ofList ((chars.takeWhile Char.isAlpha).map Char.toLower)
  match chars.drop mode.length with
  | quote :: rest =>
      if (quote = '"' ∨ quote = '\'') ∧ modes.contains mode then
        let triple := [quote, quote].isPrefixOf rest
        some (⟨quote, mode.contains 'r', mode.contains 'b', mode.contains 'f', triple⟩,
          if triple then rest.drop 2 else rest)
      else none
  | [] => none

/--
What is inside the quotes and what stands behind them, given what stands behind the opening ones.
-/
def split? (quotation : Quotation) : List Char → Option (List Char × List Char)
  | [] => none
  | '\\' :: [] => none
  | '\\' :: char :: rest =>
      (split? quotation rest).map fun (inside, behind) => ('\\' :: char :: inside, behind)
  | char :: rest =>
      if char = quotation.quote && !quotation.triple then some ([], rest)
      else if char = quotation.quote && [char, char].isPrefixOf rest then some ([], rest.drop 2)
      else if char = '\n' && !quotation.triple then none
      else (split? quotation rest).map fun (inside, behind) => (char :: inside, behind)

/-- The number of line ends in front of the place where a text without closing quotes breaks off. -/
def lineEnds (quotation : Quotation) : List Char → Nat
  | [] => 0
  | '\\' :: [] => 0
  | '\\' :: char :: rest => (if char = '\n' then 1 else 0) + lineEnds quotation rest
  | char :: rest =>
      if char = '\n' then if quotation.triple then 1 + lineEnds quotation rest else 0
      else lineEnds quotation rest

/-! ## Escapes -/

/-- What is wrong with an escape by a number of digits at a position. -/
def digitsFault (letter : Char) (count position : Nat) (chars : List Char) : Option Complaint :=
  let digits := (chars.take count).takeWhile isHexDigit
  if digits.length < count then
    some (.badEscape (.truncated letter count) position (position + 1 + digits.length))
  else if 0x110000 ≤ digits.foldl (fun value digit => 16 * value + hexValue digit) 0 then
    some (.badEscape .noCodePoint position (position + 1 + count))
  else none

/-- What is wrong with an escape by name at a position, given what stands behind its letter. -/
def nameFault (position : Nat) (chars : List Char) : Option Complaint :=
  match chars with
  | '\x7b' :: rest =>
      let name := rest.takeWhile (· != '\x7d')
      let size := name.foldl (fun size char => size + if char.toNat < 0x80 then 1 else 10) 0
      if name.length = rest.length || name.isEmpty then
        some (.badEscape .noName position (position + 2 + size))
      else if Text.isCharacterName name then none
      else some (.badEscape .unknownName position (position + 3 + size))
  | _ => some (.badEscape .noName position (position + 1))

/--
The first fault of an escape in a text from a position on.  Positions count a character beyond
ASCII as ten, and a backslash in front of one as six.
-/
def escapeFault : Nat → List Char → Option Complaint
  | _, [] => none
  | position, '\\' :: char :: rest =>
      if 0x80 ≤ char.toNat then escapeFault (position + 16) rest
      else
        let fault :=
          match char with
          | 'x' => digitsFault 'x' 2 position rest
          | 'u' => digitsFault 'u' 4 position rest
          | 'U' => digitsFault 'U' 8 position rest
          | 'N' => nameFault position rest
          | _ => none
        fault.or (escapeFault (position + 2) rest)
  | position, char :: rest =>
      escapeFault (position + if char.toNat < 0x80 then 1 else 10) rest

/-- The first fault of an escape in bytes from a position on. -/
def byteEscapeFault : Nat → List Char → Option Complaint
  | _, [] => none
  | position, '\\' :: 'x' :: rest =>
      if ((rest.take 2).takeWhile isHexDigit).length < 2 then some (.badByteEscape position)
      else byteEscapeFault (position + 2) rest
  | position, '\\' :: _ :: rest => byteEscapeFault (position + 2) rest
  | position, _ :: rest => byteEscapeFault (position + 1) rest

/-- What is wrong with what is inside the quotes. -/
def fault (quotation : Quotation) (inside : List Char) : Option Complaint :=
  if quotation.bytes && inside.any fun char => 0x80 ≤ char.toNat then some .beyondAscii
  else if quotation.raw || quotation.formatted then none
  else if quotation.bytes then byteEscapeFault 0 inside
  else escapeFault 0 inside

end Quotation

end Jet.Markup.Argument
