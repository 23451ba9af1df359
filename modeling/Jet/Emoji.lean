import Jet.Wordlist.Emoji.NamesAtoE
import Jet.Wordlist.Emoji.NamesFtoL
import Jet.Wordlist.Emoji.NamesMtoP
import Jet.Wordlist.Emoji.NamesQtoZ
import Jet.Text.Blank
import Jet.Text.Lower

/-!
# Emoji codes

A prompt may hold the name of an emoji between two colons, which stands for the emoji.  Upper and
lower case are the same in names, and a name may end in a wish for one of the two ways of showing
the emoji.  Colons around anything else are text.
-/

namespace Jet.Emoji

/-- The emoji of a name. -/
def ofName? (name : String) : Option String :=
  (namesAtoE ++ namesFtoL ++ namesMtoP ++ namesQtoZ).lookup name

/-- The wishes that a name may end in, with the characters that express them behind an emoji. -/
def variants : List (List Char × String) :=
  [("-emoji".toList, "\ufe0f"), ("-text".toList, "\ufe0e")]

/-- A code without its colons as a name and the character that expresses a wish, if there is one. -/
def splitVariant (code : List Char) : List Char × String :=
  match variants.find? fun variant => variant.1.isSuffixOf code with
  | some (ending, selector) => (code.take (code.length - ending.length), selector)
  | none => (code, "")

/-- What a code without its colons stands for; the code itself if there is no such emoji. -/
def meaning (code : List Char) : List Char :=
  let (name, selector) := splitVariant code
  match ofName? (Text.lower (String.ofList name)) with
  | some emoji => (emoji ++ selector).toList
  | none => ':' :: code ++ [':']

/--
Replaces the codes of a text, given what was read of a code behind its first colon, in reverse.  A
code holds no white space.
-/
def replaceFrom : Option (List Char) → List Char → List Char
  | none, [] => []
  | none, ':' :: rest => replaceFrom (some []) rest
  | none, char :: rest => char :: replaceFrom none rest
  | some code, [] => ':' :: code.reverse
  | some code, ':' :: rest => meaning code.reverse ++ replaceFrom none rest
  | some code, char :: rest =>
      if Text.isSpace char then ':' :: code.reverse ++ char :: replaceFrom none rest
      else replaceFrom (some (char :: code)) rest

/-- Replaces the codes of a text. -/
def replace (text : List Char) : List Char :=
  replaceFrom none text

end Jet.Emoji
