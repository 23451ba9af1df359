/-!
# Blank characters and decimal digits

The white space that surrounds a line or a number, and the digits of all scripts.
-/

namespace Jet.Text

/-- White space: the characters taken off both ends of an input line. -/
def isSpace (char : Char) : Bool :=
  let code := char.toNat
  (0x09 ≤ code && code ≤ 0x0d) || (0x1c ≤ code && code ≤ 0x20) || code == 0x85 || code == 0xa0 ||
    code == 0x1680 || (0x2000 ≤ code && code ≤ 0x200a) || code == 0x2028 || code == 0x2029 ||
    code == 0x202f || code == 0x205f || code == 0x3000

/-- White space around a number: all of it but the four information separators. -/
def isNumberSpace (char : Char) : Bool :=
  isSpace char && !(0x1c ≤ char.toNat && char.toNat ≤ 0x1f)

/-- A text without the characters of a class at both ends. -/
def stripChars (drop : Char → Bool) (chars : List Char) : List Char :=
  ((chars.dropWhile drop).reverse.dropWhile drop).reverse

/-- A text without white space at both ends. -/
def strip (text : String) : String :=
  String.ofList (stripChars isSpace text.toList)

/-- The words of a text behind the start of a word in reverse: what stands between white space. -/
def wordsFrom : List Char → List Char → List String
  | [], [] => []
  | word, [] => [String.ofList word.reverse]
  | word, char :: rest =>
      if isSpace char then
        if word.isEmpty then wordsFrom [] rest
        else String.ofList word.reverse :: wordsFrom [] rest
      else wordsFrom (char :: word) rest

/-- The words of a text: what stands between white space. -/
def words (text : String) : List String :=
  wordsFrom [] text.toList

/-- The code point of the digit zero in each script that has decimal digits. -/
def digitZeros : List Nat :=
  [0x30, 0x660, 0x6f0, 0x7c0, 0x966, 0x9e6, 0xa66, 0xae6, 0xb66, 0xbe6, 0xc66, 0xce6, 0xd66,
    0xde6, 0xe50, 0xed0, 0xf20, 0x1040, 0x1090, 0x17e0, 0x1810, 0x1946, 0x19d0, 0x1a80, 0x1a90,
    0x1b50, 0x1bb0, 0x1c40, 0x1c50, 0xa620, 0xa8d0, 0xa900, 0xa9d0, 0xa9f0, 0xaa50, 0xabf0,
    0xff10, 0x104a0, 0x10d30, 0x11066, 0x110f0, 0x11136, 0x111d0, 0x112f0, 0x11450, 0x114d0,
    0x11650, 0x116c0, 0x11730, 0x118e0, 0x11950, 0x11c50, 0x11d50, 0x11da0, 0x16a60, 0x16ac0,
    0x16b50, 0x1d7ce, 0x1d7d8, 0x1d7e2, 0x1d7ec, 0x1d7f6, 0x1e140, 0x1e2f0, 0x1e950, 0x1fbf0]

/-- The value of a decimal digit of any script. -/
def digit? (char : Char) : Option Nat :=
  (digitZeros.find? fun base => base ≤ char.toNat && char.toNat < base + 10).map fun base =>
    char.toNat - base

end Jet.Text
