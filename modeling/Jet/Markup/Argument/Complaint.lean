import Jet.Number.Literal
import Jet.Text.Printable

/-!
# Complaints about arguments

What can be wrong with the argument of an action, and how it is said.
-/

namespace Jet.Markup.Argument

/-- How a number is written. -/
inductive Numeral where
  | decimal
  | hexadecimal
  | octal
  | binary
  | imaginary
deriving DecidableEq, Repr

/-- The word for a way to write numbers. -/
def Numeral.name : Numeral → String
  | decimal => "decimal"
  | hexadecimal => "hexadecimal"
  | octal => "octal"
  | binary => "binary"
  | imaginary => "imaginary"

/-- What is wrong with an escape of a character. -/
inductive EscapeFault where
  /-- Fewer digits than the escape, given by its letter, asks for. -/
  | truncated (letter : Char) (digits : Nat)
  | noCodePoint
  | noName
  | unknownName
deriving DecidableEq, Repr

/-- The message of a fault of an escape. -/
def EscapeFault.message : EscapeFault → String
  | truncated letter digits =>
      "truncated \\" ++ String.singleton letter ++ String.ofList (List.replicate digits 'X') ++
        " escape"
  | noCodePoint => "illegal Unicode character"
  | noName => "malformed \\N character escape"
  | unknownName => "unknown Unicode character name"

/-- What is wrong with an argument. -/
inductive Complaint where
  | nullCharacter
  | strayCharacter (char : Char)
  | unmatched (closing : Char)
  /-- A bracket closes one of another kind, which may stand in a line above. -/
  | mismatched (closing opening : Char) (lineAbove : Option Nat)
  | neverClosed (opening : Char)
  | nestedTooDeeply
  | unterminatedText (line : Nat)
  | unterminatedLongText (line : Nat)
  | badNumber (kind : Numeral)
  | badDigit (digit : Char) (kind : Numeral)
  | leadingZeros
  | tooManyDigits (count : Nat)
  | badContinuation
  | indented
  | beyondAscii
  | mixedTexts
  | badEscape (fault : EscapeFault) (first last : Nat)
  | badByteEscape (position : Nat)
  /-- A part stands where none of its kind can. -/
  | unexpectedPart
  /-- The text ends where more must come. -/
  | unexpectedEnd
  | missingComma
  | missingColon
  | missingValue
  /-- A condition has no alternative; the text may end there. -/
  | missingAlternative (atEnd : Bool)
  /-- The word of a command stands in front of its argument without parentheses. -/
  | missingCall (word : String)
  /-- A word and a value with an equals sign between. -/
  | assignment
  | literalAssignment
  /-- A star, or two, in front of the only item in parentheses. -/
  | starred (double : Bool)
  /-- A well-formed text that is no literal. -/
  | noLiteral
  /-- Pairs of another collection are to be taken over. -/
  | unpacking
  | unusableKey (kind : String)
  | tooLarge
deriving DecidableEq, Repr

namespace Complaint

/-- Whether a complaint is about the way in which the argument is written. -/
def isAboutForm : Complaint → Bool
  | noLiteral | unpacking | unusableKey _ | tooLarge => false
  | _ => true

/-- A code point in base sixteen, with at least four digits. -/
def codePoint (char : Char) : String :=
  let digits := (Nat.toDigits 16 char.toNat).map Char.toUpper
  "U+" ++ String.ofList (List.replicate (4 - digits.length) '0' ++ digits)

/-- A character between apostrophes. -/
def enclosed (char : Char) : String :=
  "'" ++ String.singleton char ++ "'"

/-- The message of a complaint. -/
def message : Complaint → String
  | nullCharacter => "source code string cannot contain null bytes"
  | strayCharacter char =>
      if Text.isPrintable char then
        "invalid character " ++ enclosed char ++ " (" ++ codePoint char ++ ")"
      else "invalid non-printable character " ++ codePoint char
  | unmatched closing => "unmatched " ++ enclosed closing
  | mismatched closing opening lineAbove =>
      "closing parenthesis " ++ enclosed closing ++ " does not match opening parenthesis " ++
        enclosed opening ++ ((lineAbove.map fun line => " on line " ++ toString line).getD "")
  | neverClosed opening => enclosed opening ++ " was never closed"
  | nestedTooDeeply => "too many nested parentheses"
  | unterminatedText line =>
      "unterminated string literal (detected at line " ++ toString line ++ ")"
  | unterminatedLongText line =>
      "unterminated triple-quoted string literal (detected at line " ++ toString line ++ ")"
  | badNumber kind => "invalid " ++ kind.name ++ " literal"
  | badDigit digit kind => "invalid digit " ++ enclosed digit ++ " in " ++ kind.name ++ " literal"
  | leadingZeros =>
      "leading zeros in decimal integer literals are not permitted; use an 0o prefix for octal " ++
        "integers"
  | tooManyDigits count =>
      tooManyDigitsMessage count ++ " - Consider hexadecimal for huge integer literals " ++
        "to avoid decimal conversion limits."
  | badContinuation => "unexpected character after line continuation character"
  | indented => "unexpected indent"
  | beyondAscii => "bytes can only contain ASCII literal characters"
  | mixedTexts => "cannot mix bytes and nonbytes literals"
  | badEscape fault first last =>
      "(unicode error) 'unicodeescape' codec can't decode bytes in position " ++ toString first ++
        "-" ++ toString last ++ ": " ++ fault.message
  | badByteEscape position => "(value error) invalid \\x escape at position " ++ toString position
  | unexpectedPart => "invalid syntax"
  | unexpectedEnd => "invalid syntax"
  | missingComma => "invalid syntax. Perhaps you forgot a comma?"
  | missingColon => "':' expected after dictionary key"
  | missingValue => "expression expected after dictionary key and ':'"
  | missingAlternative _ => "expected 'else' after 'if' expression"
  | missingCall word =>
      "Missing parentheses in call to '" ++ word ++ "'. Did you mean " ++ word ++ "(...)?"
  | assignment => "invalid syntax. Maybe you meant '==' or ':=' instead of '='?"
  | literalAssignment => "cannot assign to literal here. Maybe you meant '==' instead of '='?"
  | starred double =>
      "cannot use " ++ (if double then "double " else "") ++ "starred expression here"
  | noLiteral => "malformed node or string"
  | unpacking => "malformed node or string: None"
  | unusableKey kind => "unhashable type: '" ++ kind ++ "'"
  | tooLarge => "int too large to convert to float"

end Complaint

end Jet.Markup.Argument
