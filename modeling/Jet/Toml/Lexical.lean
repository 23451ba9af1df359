import Jet.Number.Literal
import Jet.Toml.Value

/-!
# The lexical part of TOML

Readers for strings, keys, numbers, dates and times at the start of a text.  Each gives what it read
and the rest of the text, or nothing if the text does not begin with such a thing.
-/

namespace Jet.Toml

/-- What was read and what is left. -/
abbrev Read (α : Type) := Option (α × List Char)

/-- A control character other than the tab. -/
def isControl (char : Char) : Bool :=
  (char.toNat < 0x20 || char.toNat == 0x7f) && char != '\t'

/-- A blank inside a line. -/
def isBlank (char : Char) : Bool :=
  char == ' ' || char == '\t'

/-- A blank or a line end. -/
def isBlankOrNewline (char : Char) : Bool :=
  isBlank char || char == '\n'

/-- Skips blanks inside a line. -/
def skipBlanks (chars : List Char) : List Char :=
  chars.dropWhile isBlank

/-- Skips a comment if there is one; it may hold no control character. -/
def skipComment? : List Char → Option (List Char)
  | '#' :: rest =>
      if (rest.takeWhile (· != '\n')).any isControl then none
      else some (rest.dropWhile (· != '\n'))
  | chars => some chars

/-- Skips blanks, line ends and comments; the flag says whether the text starts in a comment. -/
def skipLayout? : Bool → List Char → Option (List Char)
  | _, [] => some []
  | true, char :: rest =>
      if char = '\n' then skipLayout? false rest
      else if isControl char then none
      else skipLayout? true rest
  | false, char :: rest =>
      if isBlankOrNewline char then skipLayout? false rest
      else if char = '#' then skipLayout? true rest
      else some (char :: rest)

/-! ## Strings -/

/-- A digit of base sixteen. -/
def hexDigit? (char : Char) : Option Nat :=
  if '0' ≤ char && char ≤ '9' then some (char.toNat - 0x30)
  else if 'a' ≤ char && char ≤ 'f' then some (char.toNat - 0x57)
  else if 'A' ≤ char && char ≤ 'F' then some (char.toNat - 0x37)
  else none

/-- The character given by so many digits of base sixteen. -/
def hexChar? (digits : List Char) : Option Char :=
  match digits.mapM hexDigit? with
  | none => none
  | some values =>
      let code := values.foldl (fun code digit => 16 * code + digit) 0
      if code.isValidChar then some (Char.ofNat code) else none

/-- What a backslash and a character stand for. -/
def escape? : Char → Option Char
  | 'b' => some '\x08'
  | 't' => some '\t'
  | 'n' => some '\n'
  | 'f' => some '\x0c'
  | 'r' => some '\r'
  | '"' => some '"'
  | '\\' => some '\\'
  | _ => none

/-- The character given by the digits of a code point of a size, at the start of a text. -/
def codePoint? (size : Nat) (chars : List Char) : Read Char :=
  if (chars.take size).length < size then none
  else (hexChar? (chars.take size)).map fun char => (char, chars.drop size)

/--
What stands behind a backslash: the characters meant, which are none for a line that goes on, and
the rest.
-/
def escapeSequence? (multiline : Bool) : List Char → Read (List Char)
  | [] => none
  | 'u' :: rest => (codePoint? 4 rest).map fun (char, rest) => ([char], rest)
  | 'U' :: rest => (codePoint? 8 rest).map fun (char, rest) => ([char], rest)
  | char :: rest =>
      if multiline && isBlankOrNewline char then
        match (char :: rest).dropWhile isBlank with
        | [] => some ([], [])
        | '\n' :: rest => some ([], rest.dropWhile isBlankOrNewline)
        | _ => none
      else (escape? char).map fun meant => ([meant], rest)

/-- A string with escapes, behind its opening quotes; the fuel bounds its length. -/
def basicString? (multiline : Bool) : Nat → List Char → Read (List Char)
  | 0, _ => none
  | _, [] => none
  | fuel + 1, char :: rest =>
      if char = '"' && !multiline then some ([], rest)
      else if char = '"' && ['"', '"'].isPrefixOf rest then some ([], rest.drop 2)
      else if char = '\\' then
        match escapeSequence? multiline rest with
        | none => none
        | some (meant, rest) =>
            (basicString? multiline fuel rest).map fun (contents, rest) => (meant ++ contents, rest)
      else if isControl char && !(multiline && char == '\n') then none
      else (basicString? multiline fuel rest).map fun (contents, rest) => (char :: contents, rest)

/-- A string without escapes on one line, behind its opening quote. -/
def literalString? (chars : List Char) : Read (List Char) :=
  let contents := chars.takeWhile (· != '\'')
  match chars.dropWhile (· != '\'') with
  | [] => none
  | _ :: rest => if contents.any isControl then none else some (contents, rest)

/-- A string without escapes on several lines, behind its opening quotes. -/
def literalLines? : List Char → Read (List Char)
  | [] => none
  | char :: rest =>
      if char = '\'' && ['\'', '\''].isPrefixOf rest then some ([], rest.drop 2)
      else if isControl char && char != '\n' then none
      else (literalLines? rest).map fun (contents, rest) => (char :: contents, rest)

/-- Adds up to two quotes that stand right behind the closing quotes. -/
def withExtraQuotes (quote : Char) (contents rest : List Char) : List Char × List Char :=
  let extra := (rest.take 2).takeWhile (· == quote)
  (contents ++ extra, rest.drop extra.length)

/-- Skips the line end right behind the opening quotes of a string on several lines. -/
def skipFirstNewline : List Char → List Char
  | '\n' :: rest => rest
  | chars => chars

/-- A string of any of the four forms. -/
def string? : List Char → Read String
  | '"' :: '"' :: '"' :: rest =>
      (basicString? true (rest.length + 1) (skipFirstNewline rest)).map fun (contents, rest) =>
        let (contents, rest) := withExtraQuotes '"' contents rest
        (String.ofList contents, rest)
  | '"' :: rest =>
      (basicString? false (rest.length + 1) rest).map fun (contents, rest) =>
        (String.ofList contents, rest)
  | '\'' :: '\'' :: '\'' :: rest =>
      (literalLines? (skipFirstNewline rest)).map fun (contents, rest) =>
        let (contents, rest) := withExtraQuotes '\'' contents rest
        (String.ofList contents, rest)
  | '\'' :: rest => (literalString? rest).map fun (contents, rest) => (String.ofList contents, rest)
  | _ => none

/-! ## Keys -/

/-- A character of a key without quotes. -/
def isBareKeyChar (char : Char) : Bool :=
  char.isAlphanum || char == '-' || char == '_'

/-- One part of a key. -/
def keyPart? : List Char → Read String
  | [] => none
  | char :: rest =>
      if isBareKeyChar char then
        some (String.ofList ((char :: rest).takeWhile isBareKeyChar),
          (char :: rest).dropWhile isBareKeyChar)
      else if char = '"' then
        (basicString? false (rest.length + 1) rest).map fun (contents, rest) =>
          (String.ofList contents, rest)
      else if char = '\'' then
        (literalString? rest).map fun (contents, rest) => (String.ofList contents, rest)
      else none

/-- The parts of a key behind its first one; the fuel bounds their number. -/
def moreKeyParts? : Nat → List Char → Read (List String)
  | 0, chars => some ([], chars)
  | fuel + 1, chars =>
      match skipBlanks chars with
      | '.' :: rest =>
          match keyPart? (skipBlanks rest) with
          | none => none
          | some (part, rest) =>
              (moreKeyParts? fuel rest).map fun (parts, rest) => (part :: parts, rest)
      | rest => some ([], rest)

/-- A key of parts divided by points, with the blanks behind it. -/
def key? (chars : List Char) : Read (List String) :=
  match keyPart? chars with
  | none => none
  | some (part, rest) =>
      (moreKeyParts? (rest.length + 1) rest).map fun (parts, rest) => (part :: parts, rest)

/-! ## Numbers -/

/-- Digits of a class, among which single underscores may stand, without the underscores. -/
def moreDigits (isDigit : Char → Bool) : List Char → List Char × List Char
  | [] => ([], [])
  | '_' :: char :: rest =>
      if isDigit char then
        let (digits, rest) := moreDigits isDigit rest
        (char :: digits, rest)
      else ([], '_' :: char :: rest)
  | char :: rest =>
      if isDigit char then
        let (digits, rest) := moreDigits isDigit rest
        (char :: digits, rest)
      else ([], char :: rest)

/-- At least one digit of a class, among which single underscores may stand. -/
def digits? (isDigit : Char → Bool) : List Char → Read (List Char)
  | [] => none
  | char :: rest =>
      if isDigit char then
        let (digits, rest) := moreDigits isDigit rest
        some (char :: digits, rest)
      else none

/-- The value of digits in a base. -/
def valueOf (base : Nat) (digits : List Char) : Nat :=
  digits.foldl (fun value digit => base * value + (hexDigit? digit).getD 0) 0

/-- A whole number with a prefix for its base. -/
def prefixedInteger? : List Char → Read Value
  | '0' :: mark :: rest =>
      let based (base : Nat) : Read Value :=
        (digits? (fun char => (hexDigit? char).any (· < base)) rest).map fun (digits, rest) =>
          (.integer (valueOf base digits), rest)
      match mark with
      | 'x' => based 16
      | 'o' => based 8
      | 'b' => based 2
      | _ => none
  | _ => none

/-- The whole part of a decimal number: one zero, or digits that do not begin with zero. -/
def wholePart? : List Char → Read (List Char)
  | '0' :: rest => some (['0'], rest)
  | chars => digits? Char.isDigit chars

/-- A point and digits, if they come next. -/
def fraction : List Char → List Char × List Char
  | '.' :: rest =>
      match digits? Char.isDigit rest with
      | some (digits, after) => ('.' :: digits, after)
      | none => ([], '.' :: rest)
  | chars => ([], chars)

/-- An exponent, if it comes next. -/
def exponent (chars : List Char) : List Char × List Char :=
  match chars with
  | mark :: rest =>
      if mark = 'e' ∨ mark = 'E' then
        let signed := rest.takeWhile fun char => char == '+' || char == '-'
        if 1 < signed.length then ([], chars)
        else
          match digits? Char.isDigit (rest.drop signed.length) with
          | some (digits, after) => ('e' :: signed ++ digits, after)
          | none => ([], chars)
      else ([], chars)
  | [] => ([], chars)

/-- The text breaks a rule; which one is not told. -/
def Refusal.unexplained : Refusal :=
  .invalid ⟨"", none, none⟩

/-- A whole number has more digits than can be read. -/
def Refusal.tooManyDigits (count : Nat) : Refusal :=
  .failed ⟨"ValueError", tooManyDigitsMessage count⟩

/--
A value and what is left, or the reason for a refusal; `none` if no value of a kind begins here.
-/
abbrev Taken := Option (Except Refusal (Value × List Char))

/-- A decimal number: whole, unless it has a fraction or an exponent. -/
def decimal? (chars : List Char) : Taken :=
  let (negative, unsigned) := Literal.sign chars
  match wholePart? unsigned with
  | none => none
  | some (whole, rest) =>
      let (fractional, rest) := fraction rest
      let (power, rest) := exponent rest
      let signText := if negative then ['-'] else []
      if fractional.isEmpty && power.isEmpty then
        if digitLimit < whole.length then some (.error (.tooManyDigits whole.length))
        else
          let value : Int := valueOf 10 whole
          some (.ok (.integer (if negative then -value else value), rest))
      else
        let text := String.ofList (signText ++ whole ++ fractional ++ power)
        (Literal.double? text).map fun value => .ok (.float value, rest)

/-- One of the words for an infinity or for not a number. -/
def specialFloat? (chars : List Char) : Read Value :=
  let (negative, rest) := Literal.sign chars
  match rest with
  | 'i' :: 'n' :: 'f' :: rest => some (.float (.infinite negative), rest)
  | 'n' :: 'a' :: 'n' :: rest => some (.float (.nan 0), rest)
  | _ => none

/-! ## Dates and times -/

/-- A number of so many digits, between two bounds. -/
def field? (size low high : Nat) (chars : List Char) : Read Nat :=
  let digits := chars.take size
  if digits.length = size ∧ digits.all Char.isDigit then
    let value := valueOf 10 digits
    if low ≤ value ∧ value ≤ high then some (value, chars.drop size) else none
  else none

/-- One character. -/
def mark? (expected : Char) : List Char → Option (List Char)
  | char :: rest => if char = expected then some rest else none
  | [] => none

/-- The text behind a time of day, which may have a fraction of a second. -/
def timeRest? (chars : List Char) : Option (List Char) := do
  let (_, rest) ← field? 2 0 23 chars
  let (_, rest) ← field? 2 0 59 (← mark? ':' rest)
  let (_, rest) ← field? 2 0 59 (← mark? ':' rest)
  match rest with
  | '.' :: char :: more => if char.isDigit then some (more.dropWhile Char.isDigit) else some rest
  | _ => some rest

/-- The text behind an offset from universal time, if there is one. -/
def offsetRest (chars : List Char) : List Char :=
  match chars with
  | [] => chars
  | char :: rest =>
      if char = 'Z' ∨ char = 'z' then rest
      else if char = '+' ∨ char = '-' then
        let numeric? : Option (List Char) := do
          let (_, rest) ← field? 2 0 23 rest
          let (_, rest) ← field? 2 0 59 (← mark? ':' rest)
          pure rest
        numeric?.getD chars
      else chars

/-- The number of days of a month. -/
def daysInMonth (year month : Nat) : Nat :=
  if month = 2 then
    if year % 4 = 0 ∧ (year % 100 ≠ 0 ∨ year % 400 = 0) then 29 else 28
  else if month = 4 ∨ month = 6 ∨ month = 9 ∨ month = 11 then 30
  else 31

/-- A year, a month and a day that look like a date. -/
def dateFields? (chars : List Char) : Option ((Nat × Nat × Nat) × List Char) := do
  let (year, rest) ← field? 4 0 9999 chars
  let (month, rest) ← field? 2 1 12 (← mark? '-' rest)
  let (day, rest) ← field? 2 1 31 (← mark? '-' rest)
  pure ((year, month, day), rest)

/-- The text behind the time that may follow a date. -/
def timeAfterDate? : List Char → Option (List Char)
  | char :: rest =>
      if char = 'T' ∨ char = 't' ∨ char = ' ' then (timeRest? rest).map offsetRest else none
  | [] => none

/-- What was read, as text. -/
def readText (chars rest : List Char) : String :=
  String.ofList (chars.take (chars.length - rest.length))

/--
A date, a date with a time, or a time of day.  The outer option says whether the text looks like
one; a date that looks right may still be missing from the calendar.
-/
def dateOrTime? (chars : List Char) : Option (Read Value) :=
  match dateFields? chars with
  | some ((year, month, day), rest) =>
      if year = 0 ∨ daysInMonth year month < day then some none
      else
        match timeAfterDate? rest with
        | some rest => some (some (.datetime (readText chars rest), rest))
        | none => some (some (.date (readText chars rest), rest))
  | none =>
      (timeRest? chars).map fun rest => some (.time (readText chars rest), rest)

end Jet.Toml
