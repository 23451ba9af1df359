import Jet.Markup.Argument.Complaint

/-!
# Numbers in arguments

A number at the start of a text: a whole number in base ten, sixteen, eight or two, or a decimal
with a point, an exponent or the mark of an imaginary number.  Single underscores may stand between
digits.  Words that can follow a number may do so without a space.
-/

namespace Jet.Markup.Argument

/-- What matters about a number for what stands around it. -/
inductive Number where
  /-- A number that is not imaginary, and whether it can be added to an imaginary one. -/
  | real (fits : Bool)
  | imaginary
deriving DecidableEq, Repr

/-- A number and what stands behind it, a fault of its value, or what is wrong with its form. -/
abbrev ReadNumber := Except Complaint (Except Complaint Number × List Char)

/-- A digit of base sixteen. -/
def isHexDigit (char : Char) : Bool :=
  char.isDigit || ('a' ≤ char && char ≤ 'f') || ('A' ≤ char && char ≤ 'F')

/-- The value of a digit of base sixteen. -/
def hexValue (char : Char) : Nat :=
  if char.isDigit then char.toNat - 0x30 else char.toLower.toNat - 0x57

/-- A digit of base eight. -/
def isOctalDigit (char : Char) : Bool :=
  '0' ≤ char && char ≤ '7'

/-- A digit of base two. -/
def isBinaryDigit (char : Char) : Bool :=
  char == '0' || char == '1'

/--
The digits at the start of a text, among which single underscores may stand, and what follows them;
else the character that stands behind an underscore in place of a digit.
-/
def digitRun (isDigit : Char → Bool) :
    List Char → Except (Option Char) (List Char × List Char)
  | [] => .ok ([], [])
  | ['_'] => .error none
  | '_' :: char :: rest =>
      if isDigit char then do
        let (digits, behind) ← digitRun isDigit rest
        pure (char :: digits, behind)
      else .error (some char)
  | char :: rest =>
      if isDigit char then do
        let (digits, behind) ← digitRun isDigit rest
        pure (char :: digits, behind)
      else .ok ([], char :: rest)

/-- The digits behind the mark of a base: at least one, and an underscore may stand in front. -/
def basedRun (isDigit : Char → Bool) (chars : List Char) :
    Except (Option Char) (List Char × List Char) :=
  match chars with
  | [] => .error none
  | '_' :: _ => digitRun isDigit chars
  | char :: _ => if isDigit char then digitRun isDigit chars else .error (some char)

/-- Whether a text begins with a digit. -/
def startsWithDigit (chars : List Char) : Bool :=
  (chars.head?.map Char.isDigit).getD false

/-- Whether a number begins here: with a digit, or with a point and a digit. -/
def startsNumber (chars : List Char) : Bool :=
  startsWithDigit chars || (chars.head? == some '.' && startsWithDigit chars.tail)

/-- The greatest whole number, exclusive, that can be added to an imaginary number. -/
def sumLimit : Nat := Nat.pow 2 1024 - Nat.pow 2 970

/-- The words that may stand directly behind a number. -/
def followers : List (List Char) :=
  ["and", "else", "for", "if", "in", "is", "or", "not"].map String.toList

/-- Checks what stands behind a number. -/
def checkEnd (kind : Numeral) (behind : List Char) : Except Complaint Unit :=
  match behind with
  | char :: _ =>
      if followers.any fun word => word.isPrefixOf behind then .ok ()
      else if char.isAlphanum || char == '_' then .error (.badNumber kind)
      else .ok ()
  | [] => .ok ()

/-- The number behind the mark of a base. -/
def basedNumber (kind : Numeral) (base : Nat) (isDigit : Char → Bool) (chars : List Char) :
    ReadNumber :=
  let refuse (char : Option Char) : Complaint :=
    match char with
    | some digit =>
        if base < 10 && digit.isDigit then .badDigit digit kind else .badNumber kind
    | none => .badNumber kind
  match basedRun isDigit chars with
  | .error char => .error (refuse char)
  | .ok (digits, behind) =>
      if base < 10 && startsWithDigit behind then .error (refuse behind.head?)
      else do
        checkEnd kind behind
        let value := digits.foldl (fun value digit => base * value + hexValue digit) 0
        pure (.ok (.real (decide (value < sumLimit))), behind)

/-- The digits at the start of a decimal or of one of its sections. -/
def decimalRun (chars : List Char) : Except Complaint (List Char × List Char) :=
  match digitRun Char.isDigit chars with
  | .error _ => .error (.badNumber .decimal)
  | .ok run => .ok run

/-- What stands behind the exponent at the start of a text, if there is one. -/
def behindExponent (chars : List Char) : Except Complaint (Option (List Char)) :=
  match chars with
  | mark :: rest =>
      if mark = 'e' ∨ mark = 'E' then
        let signed := rest.head? = some '+' ∨ rest.head? = some '-'
        let digits := if signed then rest.tail else rest
        if startsWithDigit digits then do
          let (_, behind) ← decimalRun digits
          pure (some behind)
        else if signed then .error (.badNumber .decimal)
        else .ok none
      else .ok none
  | [] => .ok none

/--
The value of a whole number: it has leading zeros only if it is zero, and not too many digits.
-/
def wholeValue (digits : List Char) : Except Complaint Number :=
  let value := Literal.digitsValue digits
  if value ≠ 0 ∧ digitLimit < digits.length then .error (.tooManyDigits digits.length)
  else .ok (.real (decide (value < sumLimit)))

/-- The decimal at the start of a text that begins with a digit, or with a point and a digit. -/
def decimalNumber (chars : List Char) : ReadNumber := do
  let (whole, behindWhole) ← decimalRun chars
  let hasPoint := behindWhole.head? = some '.'
  let behindPoint ←
    if hasPoint then
      if startsWithDigit behindWhole.tail then
        pure (← decimalRun behindWhole.tail).2
      else pure behindWhole.tail
    else pure behindWhole
  let exponent ← behindExponent behindPoint
  let behind := exponent.getD behindPoint
  match behind with
  | mark :: rest =>
      if mark = 'j' ∨ mark = 'J' then
        checkEnd .imaginary rest
        return (.ok .imaginary, rest)
  | [] => pure ()
  if hasPoint || exponent.isSome then
    checkEnd .decimal behind
    pure (.ok (.real true), behind)
  else
    if behind.head? = some 'e' ∨ behind.head? = some 'E' then checkEnd .decimal behind
    if whole.head? = some '0' ∧ !whole.all (· == '0') then throw .leadingZeros
    checkEnd .decimal behind
    pure (wholeValue whole, behind)

/-- The number at the start of a text that begins with a digit, or with a point and a digit. -/
def readNumber (chars : List Char) : ReadNumber :=
  match chars with
  | '0' :: mark :: rest =>
      match mark.toLower with
      | 'x' => basedNumber .hexadecimal 16 isHexDigit rest
      | 'o' => basedNumber .octal 8 isOctalDigit rest
      | 'b' => basedNumber .binary 2 isBinaryDigit rest
      | _ => decimalNumber chars
  | _ => decimalNumber chars

end Jet.Markup.Argument
