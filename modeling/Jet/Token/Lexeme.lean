import Jet.Token.Kind

/-!
# Lexemes

How a text splits, seen from its first character: the layout in front (blanks and comments), and
then one lexeme.  A lexeme is given with the exact text that it covers, so that layout and lexemes
together tile the source.
-/

namespace Jet

/-- A blank between tokens. -/
def isBlank (char : Char) : Bool :=
  char == ' ' || char == '\t' || char == '\r' || char == '\n'

/-- A character that may start a word. -/
def isLetter (char : Char) : Bool :=
  char == '_' || ('a' ≤ char && char ≤ 'z') || ('A' ≤ char && char ≤ 'Z')

/-- A decimal digit of a number. -/
def isDigit (char : Char) : Bool :=
  '0' ≤ char && char ≤ '9'

/-- A character that may continue a word. -/
def isWordChar (char : Char) : Bool :=
  isLetter char || isDigit char

theorem isWordChar_of_isLetter {char : Char}
    (letter : isLetter char = true) :
    isWordChar char = true := by
  rw [isWordChar, letter, Bool.true_or]

theorem isWordChar_of_isDigit {char : Char}
    (digit : isDigit char = true) :
    isWordChar char = true := by
  rw [isWordChar, digit, Bool.or_true]

/--
The number of characters of layout at the start of a text: blanks, and comments that run from a
`#` to the end of the line.  The flag says whether the text starts inside a comment.
-/
def layoutLength : Bool → List Char → Nat
  | _, [] => 0
  | true, char :: rest => layoutLength (char != '\n') rest + 1
  | false, char :: rest =>
      if isBlank char then layoutLength false rest + 1
      else if char == '#' then layoutLength true rest + 1
      else 0

/-- Words and numbers are no layout. -/
theorem layoutLength_of_isWordChar {char : Char}
    (inWord : isWordChar char = true) (rest : List Char) :
    layoutLength false (char :: rest) = 0 := by
  have notBlank : isBlank char = false := by
    refine Bool.eq_false_iff.mpr fun blank => ?_
    simp only [isBlank, Bool.or_eq_true, beq_iff_eq] at blank
    rcases blank with ((rfl | rfl) | rfl) | rfl <;> contradiction
  have notComment : (char == '#') = false := by
    refine Bool.eq_false_iff.mpr fun comment => ?_
    cases beq_iff_eq.mp comment
    contradiction
  rw [layoutLength, notBlank, notComment]
  rfl

/-- The character that a backslash and a character stand for inside a string. -/
def unescape : Char → Char
  | 'n' => '\n'
  | 't' => '\t'
  | 'r' => '\r'
  | char => char

/--
The contents of a string whose opening quote has been read, with escapes decoded, and the number
of characters up to and including the closing quote; `none` if the string is never closed.
-/
def stringBody? : List Char → Option (List Char × Nat)
  | [] => none
  | ['\\'] => none
  | '\\' :: char :: rest =>
      (stringBody? rest).map fun (contents, length) => (unescape char :: contents, length + 2)
  | char :: rest =>
      if char = '"' then some ([], 1)
      else (stringBody? rest).map fun (contents, length) => (char :: contents, length + 1)

/-- A piece of source text that makes one token. -/
structure Lexeme where
  kind : Kind
  literal : String
  /-- The source text that is covered. -/
  text : List Char
deriving DecidableEq, Repr

namespace Lexeme

/-- A lexeme whose literal is the text itself. -/
def verbatim (kind : Kind) (text : List Char) : Lexeme :=
  ⟨kind, String.ofList text, text⟩

/-- The longest word at the start of a text. -/
def word (source : List Char) : Lexeme :=
  let text := source.takeWhile isWordChar
  verbatim (.ofWord (String.ofList text)) text

/--
The longest number at the start of a text: digits, and then a point and more digits if a digit
follows the point.
-/
def number (source : List Char) : Lexeme :=
  let whole := source.takeWhile isDigit
  match source.dropWhile isDigit with
  | '.' :: char :: rest =>
      if isDigit char then verbatim .float (whole ++ '.' :: (char :: rest).takeWhile isDigit)
      else verbatim .integer whole
  | _ => verbatim .integer whole

/--
A string, given with its opening quote.  A string that is never closed is one illegal lexeme that
covers the whole rest of the source.
-/
def string (source : List Char) : Lexeme :=
  match stringBody? source.tail with
  | some (contents, length) => ⟨.string, String.ofList contents, source.take (length + 1)⟩
  | none => verbatim .illegal source

/-- An operator or delimiter of two characters if there is one, else of one character. -/
def symbol (char : Char) (rest : List Char) : Lexeme :=
  match rest with
  | next :: _ =>
      match Kind.ofPair? char next with
      | some kind => verbatim kind [char, next]
      | none => verbatim (.ofSymbol char) [char]
  | [] => verbatim (.ofSymbol char) [char]

/-- The lexeme at the start of a text that has no layout in front, unless the text is empty. -/
def first? : List Char → Option Lexeme
  | [] => none
  | char :: rest =>
      if isLetter char then some (word (char :: rest))
      else if isDigit char then some (number (char :: rest))
      else if char == '"' then some (string (char :: rest))
      else some (symbol char rest)

end Lexeme

end Jet
