import Jet.Text.Printable

/-!
# Quoted text

The one-line quotation of a text: in single quotes, unless the text holds a single quote and no
double quote, with the backslash, the quote in use and every character that cannot be printed
written as an escape.
-/

namespace Jet.Text

/-- A number in base sixteen with lower-case digits, padded with zeros to a width. -/
def hexadecimal (width number : Nat) : String :=
  let digits := Nat.toDigits 16 number
  String.ofList (List.replicate (width - digits.length) '0' ++ digits)

/-- One character inside a quotation that uses the given quote. -/
def quotedChar (quote char : Char) : String :=
  if char = quote ∨ char = '\\' then String.ofList ['\\', char]
  else if char = '\n' then "\\n"
  else if char = '\r' then "\\r"
  else if char = '\t' then "\\t"
  else if isPrintable char then String.singleton char
  else if char.toNat < 0x100 then "\\x" ++ hexadecimal 2 char.toNat
  else if char.toNat < 0x10000 then "\\u" ++ hexadecimal 4 char.toNat
  else "\\U" ++ hexadecimal 8 char.toNat

/-- The quote that a text is put in. -/
def quoteFor (text : String) : Char :=
  if text.toList.contains '\'' && !text.toList.contains '"' then '"' else '\''

/-- The quotation of a text. -/
def quoted (text : String) : String :=
  let quote := quoteFor text
  String.singleton quote ++ String.join (text.toList.map (quotedChar quote)) ++
    String.singleton quote

end Jet.Text
