import Jet.Wordlist.CharacterName.AtoB
import Jet.Wordlist.CharacterName.C
import Jet.Wordlist.CharacterName.DtoG
import Jet.Wordlist.CharacterName.HtoK
import Jet.Wordlist.CharacterName.L
import Jet.Wordlist.CharacterName.M
import Jet.Wordlist.CharacterName.NtoR
import Jet.Wordlist.CharacterName.S
import Jet.Wordlist.CharacterName.TtoZ
import Jet.Text.Printable

/-!
# Names of characters

The names by which a text can refer to a character.  Most are listed.  Those of ideographs and of
some other characters end in a number, those of Hangul syllables are spelled from the syllable, and
those of Braille patterns count their dots.
-/

namespace Jet.Text.CharacterName

/-! ## Listed names -/

/-- The names in a line of a list, each as a number of shared words and the other words. -/
def entries (line : String) : List (Nat × List Char) :=
  (line.toList.foldr step ([], [])).2
where
  /-- Takes a character in front of an unfinished entry and those behind it. -/
  step (char : Char) (state : List Char × List (Nat × List Char)) :
      List Char × List (Nat × List Char) :=
    if char.isLower then ([], (char.toNat - 'a'.toNat, state.1) :: state.2)
    else (char :: state.1, state.2)

/-- Whether a name is among some entries, given the words of the name before. -/
def isAmong (name : List (List Char)) : List (List Char) → List (Nat × List Char) → Bool
  | _, [] => false
  | before, (shared, others) :: rest =>
      let words := before.take shared ++ others.splitOn ' '
      words == name || isAmong name words rest

/-- The lists of names, each with the last letter that its names begin with. -/
def lists : List (Char × List String) :=
  [('B', namesAtoB), ('C', namesC), ('G', namesDtoG), ('K', namesHtoK), ('L', namesL),
    ('M', namesM), ('R', namesNtoR), ('S', namesS), ('Z', namesTtoZ)]

/-- Whether a name is listed. -/
def isListed (name : List Char) : Bool :=
  match lists.find? fun list => name.headD 'Z' ≤ list.1 with
  | some (_, lines) => isAmong (name.splitOn ' ') [] (lines.flatMap entries)
  | none => false

/-! ## Numbered names -/

/-- Names that end in a number from a range, written in a base with a least number of digits. -/
structure NumberedNames where
  stem : String
  base : Nat
  digits : Nat
  first : Nat
  last : Nat
deriving DecidableEq, Repr

/-- The name for a number. -/
def NumberedNames.name (names : NumberedNames) (number : Nat) : List Char :=
  let digits := (Nat.toDigits names.base number).map Char.toUpper
  names.stem.toList ++ List.replicate (names.digits - digits.length) '0' ++ digits

/-- Whether a name is one of some numbered names. -/
def NumberedNames.holds (names : NumberedNames) (name : List Char) : Bool :=
  names.stem.toList.isPrefixOf name &&
    (List.range (names.last + 1 - names.first)).any fun offset =>
      names.name (names.first + offset) == name

/-- The names that end in a number, but for those of unified ideographs. -/
def numberedNames : List NumberedNames :=
  [⟨"CJK COMPATIBILITY IDEOGRAPH-", 16, 4, 0xf900, 0xfa6d⟩,
    ⟨"CJK COMPATIBILITY IDEOGRAPH-", 16, 4, 0xfa70, 0xfad9⟩,
    ⟨"CJK COMPATIBILITY IDEOGRAPH-", 16, 4, 0x2f800, 0x2fa1d⟩,
    ⟨"KHITAN SMALL SCRIPT CHARACTER-", 16, 5, 0x18b00, 0x18cd5⟩,
    ⟨"NUSHU CHARACTER-", 16, 5, 0x1b170, 0x1b2fb⟩,
    ⟨"TANGUT COMPONENT-", 10, 3, 1, 768⟩,
    ⟨"VARIATION SELECTOR-", 10, 1, 1, 256⟩,
    ⟨"VS", 10, 1, 1, 256⟩]

/-- The code points of unified ideographs, as inclusive ranges. -/
def ideographRanges : List (Nat × Nat) :=
  [(0x3400, 0x4dbf), (0x4e00, 0x9fff), (0x20000, 0x2a6df), (0x2a700, 0x2b738), (0x2b740, 0x2b81d),
    (0x2b820, 0x2cea1), (0x2ceb0, 0x2ebe0), (0x30000, 0x3134a)]

/-- Whether a name is that of a unified ideograph: its code point with four or five digits. -/
def isIdeograph (name : List Char) : Bool :=
  let stem := "CJK UNIFIED IDEOGRAPH-".toList
  let digits := name.drop stem.length
  let value (digit : Char) : Nat :=
    if digit.isDigit then digit.toNat - 0x30 else digit.toNat - 0x37
  stem.isPrefixOf name && (digits.length == 4 || digits.length == 5) &&
    digits.all (fun digit => digit.isDigit || ('A' ≤ digit && digit ≤ 'F')) &&
    inRanges ideographRanges (digits.foldl (fun number digit => 16 * number + value digit) 0)

/-! ## Spelled names -/

/-- The sounds that a Hangul syllable may begin with. -/
def initialSounds : List String :=
  ["G", "GG", "N", "D", "DD", "R", "M", "B", "BB", "S", "SS", "", "J", "JJ", "C", "K", "T", "P",
    "H"]

/-- The vowels of Hangul syllables. -/
def vowels : List String :=
  ["A", "AE", "YA", "YAE", "EO", "E", "YEO", "YE", "O", "WA", "WAE", "OE", "YO", "U", "WEO", "WE",
    "WI", "YU", "EU", "YI", "I"]

/-- The sounds that a Hangul syllable may end with. -/
def finalSounds : List String :=
  ["", "G", "GG", "GS", "N", "NJ", "NH", "D", "L", "LG", "LM", "LB", "LS", "LT", "LP", "LH", "M",
    "B", "BS", "S", "SS", "NG", "J", "C", "K", "T", "P", "H"]

/-- Whether a name is that of a Hangul syllable. -/
def isSyllable (name : List Char) : Bool :=
  let stem := "HANGUL SYLLABLE ".toList
  let spelling := name.drop stem.length
  stem.isPrefixOf name &&
    initialSounds.any fun initial => vowels.any fun vowel => finalSounds.any fun final =>
      (initial ++ vowel ++ final).toList == spelling

/-- Whether a name is that of a Braille pattern: its dots in order. -/
def isPattern (name : List Char) : Bool :=
  let stem := "BRAILLE PATTERN DOTS-".toList
  let dots := name.drop stem.length
  stem.isPrefixOf name && !dots.isEmpty && dots.isSublist "12345678".toList

end CharacterName

/--
Whether a name is that of a character.  Lower case is the same as upper case, but for the names of
unified ideographs and of Hangul syllables.
-/
def isCharacterName (name : List Char) : Bool :=
  let upper := name.map Char.toUpper
  CharacterName.isListed upper || CharacterName.numberedNames.any (·.holds upper) ||
    CharacterName.isPattern upper || CharacterName.isIdeograph name || CharacterName.isSyllable name

end Jet.Text
