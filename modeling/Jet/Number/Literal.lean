import Jet.Number.Double
import Jet.Text.Blank

/-!
# Number literals

Reading integers and doubles from text.  Both readers take white space around the number, a sign,
digits of any script, and single underscores between digits.  An integer may have no more than
`digitLimit` digits, leading zeros included.
-/

namespace Jet

/-- The greatest number of decimal digits of an integer that can be read or shown. -/
def digitLimit : Nat := 4300

/-- What is said about a whole number with more digits than the limit. -/
def tooManyDigitsMessage (count : Nat) : String :=
  "Exceeds the limit (" ++ toString digitLimit ++
    " digits) for integer string conversion: value has " ++ toString count ++
    " digits; use sys.set_int_max_str_digits() to increase the limit"

namespace Literal

/-- Takes off a sign; the flag says whether it was a minus. -/
def sign : List Char → Bool × List Char
  | '-' :: rest => (true, rest)
  | '+' :: rest => (false, rest)
  | chars => (false, chars)

/--
A number's text with white space at the ends taken off, digits of all scripts as their plain
counterparts, and underscores taken out; `none` if an underscore does not stand between digits.
-/
def plain? (text : String) : Option (List Char) :=
  let toPlain (char : Char) : Char :=
    match Text.digit? char with
    | some value => Char.ofNat (0x30 + value)
    | none => char
  joined? ' ' ((Text.stripChars Text.isNumberSpace text.toList).map toPlain)
where
  /-- Takes out underscores, given the character in front. -/
  joined? : Char → List Char → Option (List Char)
    | _, [] => some []
    | _, ['_'] => none
    | previous, '_' :: next :: rest =>
        if previous.isDigit && next.isDigit then (joined? next rest).map (next :: ·) else none
    | _, char :: rest => (joined? char rest).map (char :: ·)

/-- The value of a string of plain digits. -/
def digitsValue (digits : List Char) : Nat :=
  digits.foldl (fun value digit => 10 * value + (digit.toNat - 0x30)) 0

/-- Reads an integer literal. -/
def integer? (text : String) : Option Int :=
  match plain? text with
  | none => none
  | some chars =>
      let (negative, digits) := sign chars
      if digits.isEmpty || !digits.all Char.isDigit || digitLimit < digits.length then none
      else
        let value := digitsValue digits
        some (if negative then -(value : Int) else value)

/-- The double nearest to `digits * 10 ^ power`; powers far beyond the range are not formed. -/
def ofDecimal (negative : Bool) (digits : Nat) (power : Int) : Double :=
  let size : Int := (Nat.toDigits 10 digits).length
  if digits = 0 then .zero negative
  else if 400 < size + power then .infinite negative
  else if size + power < -400 then .zero negative
  else .ofQuotient negative (digits * Nat.pow 10 power.toNat) (Nat.pow 10 (-power).toNat)

/-- Reads the exponent part of a double, which may be missing. -/
def exponent? : List Char → Option Int
  | [] => some 0
  | mark :: rest =>
      let (negative, digits) := sign rest
      if (mark = 'e' ∨ mark = 'E') ∧ !digits.isEmpty ∧ digits.all Char.isDigit then
        some (if negative then -(digitsValue digits : Int) else digitsValue digits)
      else none

/-- Reads an unsigned decimal with an optional point and an optional exponent. -/
def decimal? (negative : Bool) (chars : List Char) : Option Double :=
  let whole := chars.takeWhile Char.isDigit
  let afterWhole := chars.dropWhile Char.isDigit
  let (fraction, rest) :=
    match afterWhole with
    | '.' :: tail => (tail.takeWhile Char.isDigit, tail.dropWhile Char.isDigit)
    | _ => ([], afterWhole)
  if whole.isEmpty && fraction.isEmpty then none
  else
    (exponent? rest).map fun power =>
      ofDecimal negative (digitsValue (whole ++ fraction)) (power - fraction.length)

/-- Reads a double literal: a decimal, or the word for an infinity or for not a number. -/
def double? (text : String) : Option Double :=
  match plain? text with
  | none => none
  | some chars =>
      let (negative, rest) := sign chars
      match String.ofList (rest.map Char.toLower) with
      | "inf" | "infinity" => some (.infinite negative)
      | "nan" => some (.nan 0)
      | _ => decimal? negative rest

end Literal

end Jet
