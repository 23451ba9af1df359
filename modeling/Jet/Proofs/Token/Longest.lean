import Jet.Proofs.Token.Reading

/-!
# The longest lexeme

Which texts are lexemes, said without reading anything: words, numbers, symbols, single characters
that mean nothing, strings as a list of pieces between quotes, and strings that are not closed.
`Lexeme.Spelled` says of a lexeme that its kind, its literal and its text belong together in this
way.

What a text without layout in front begins with is the longest of all lexemes that are a prefix of
it, and there is only one such lexeme.  For this every lexeme is followed with an arbitrary rest:
what is then read begins with the whole lexeme, and is the lexeme itself if nothing follows.
-/

namespace Jet

/-! ## The inside of a string -/

/-- A piece of the inside of a string: a character that stands for itself, or an escape. -/
inductive StringPiece where
  | plain (char : Char) (noQuote : char ≠ '"') (noBackslash : char ≠ '\\')
  | escape (char : Char)

namespace StringPiece

/-- The source text of a piece. -/
def text : StringPiece → List Char
  | plain char _ _ => [char]
  | escape char => ['\\', char]

/-- The character that a piece stands for. -/
def meaning : StringPiece → Char
  | plain char _ _ => char
  | escape char => unescape char

/-- The source text of some pieces. -/
def texts (pieces : List StringPiece) : List Char :=
  pieces.flatMap text

/-- The contents of a string of some pieces. -/
def contents (pieces : List StringPiece) : List Char :=
  pieces.map meaning

/-- A piece in front of a text is taken by itself. -/
theorem stringBody?_text_append (piece : StringPiece) (source : List Char) :
    stringBody? (piece.text ++ source) =
      (stringBody? source).map fun body => (piece.meaning :: body.1, piece.text.length + body.2) := by
  cases piece with
  | plain char noQuote noBackslash =>
      rw [text, List.singleton_append, stringBody?, if_neg noQuote]
      · simp [meaning, Nat.add_comm]
      · exact fun isBackslash _ => noBackslash isBackslash
      · exact fun _ _ isBackslash _ => noBackslash isBackslash
  | escape char =>
      rw [text, List.cons_append, List.singleton_append, stringBody?]
      simp [meaning, Nat.add_comm]

/-- Pieces in front of a text are taken one by one. -/
theorem stringBody?_texts_append (pieces : List StringPiece) (source : List Char) :
    stringBody? (texts pieces ++ source) =
      (stringBody? source).map fun body =>
        (contents pieces ++ body.1, (texts pieces).length + body.2) := by
  induction pieces with
  | nil => simp [texts, contents]
  | cons piece pieces induction =>
      rw [texts, List.flatMap_cons, List.append_assoc, stringBody?_text_append, ← texts, induction]
      simp [contents, Function.comp_def, Nat.add_assoc]

/-- A text goes on in pieces up to a quote, or to its end with perhaps a backslash left over. -/
theorem exists_texts (source : List Char) :
    ∃ pieces rest, source = texts pieces ++ rest ∧
      (rest = [] ∨ rest = ['\\'] ∨ ∃ others, rest = '"' :: others) := by
  fun_induction stringBody? source with
  | case1 => exact ⟨[], [], rfl, .inl rfl⟩
  | case2 => exact ⟨[], ['\\'], rfl, .inr (.inl rfl)⟩
  | case3 char source induction =>
      rcases induction with ⟨pieces, rest, rfl, ends⟩
      exact ⟨escape char :: pieces, rest, rfl, ends⟩
  | case4 source => exact ⟨[], '"' :: source, rfl, .inr (.inr ⟨source, rfl⟩)⟩
  | case5 char source notLast notEscape notQuote induction =>
      rcases induction with ⟨pieces, rest, rfl, ends⟩
      have noBackslash : char ≠ '\\' := by
        rintro rfl
        cases whole : texts pieces ++ rest with
        | nil => exact notLast rfl whole
        | cons other others => exact notEscape other others rfl whole
      exact ⟨plain char notQuote noBackslash :: pieces, rest, rfl, ends⟩

end StringPiece

/-! ## Lexemes -/

namespace Kind

/-- The kind of a character that is a symbol on its own. -/
theorem ofSymbol_of_symbol? {kind : Kind} {char : Char}
    (known : kind.symbol? = some (String.ofList [char])) :
    ofSymbol char = kind := by
  have chars : kind.symbol?.map String.toList = some [char] := by
    rw [known, Option.map_some, String.toList_ofList]
  cases kind <;> simp [symbol?] at chars <;> simp [ofSymbol, ← chars]

end Kind

namespace Lexeme

open Jet.StringPiece

/-- Whether the kind, the literal and the text of a lexeme belong together. -/
inductive Spelled : Lexeme → Prop where
  | word {word : String}
      (isWord : isWord word.toList = true) :
      Spelled ⟨.ofWord word, word, word.toList⟩
  | integer {digits : String}
      (isNumeral : isNumeral digits = true) :
      Spelled ⟨.integer, digits, digits.toList⟩
  | float {decimal : String}
      (isDecimal : IsDecimal decimal) :
      Spelled ⟨.float, decimal, decimal.toList⟩
  | symbol {kind : Kind} {symbol : String}
      (known : kind.symbol? = some symbol) :
      Spelled ⟨kind, symbol, symbol.toList⟩
  /-- A character that can stand in no other lexeme than a string. -/
  | stray {char : Char}
      (isSymbol : isSymbol char = true)
      (unknown : ∀ kind : Kind, kind.symbol? ≠ some (String.ofList [char])) :
      Spelled (verbatim .illegal [char])
  | string (pieces : List StringPiece) :
      Spelled ⟨.string, String.ofList (contents pieces), '"' :: (texts pieces ++ ['"'])⟩
  /-- A string that is not closed, with perhaps a backslash left over. -/
  | unfinished (pieces : List StringPiece) {left : List Char}
      (leftOver : left = [] ∨ left = ['\\']) :
      Spelled (verbatim .illegal ('"' :: (texts pieces ++ left)))

/-! ### Lexemes with more text behind them -/

/-- Reading a text gives a lexeme that begins with this one, and this very one if it is all. -/
def IsReadIn (lexeme : Lexeme) (rest : List Char) : Prop :=
  ∃ longer, first? (lexeme.text ++ rest) = some longer ∧ lexeme.text <+: longer.text ∧
    (rest = [] → longer = lexeme)

theorem isReadIn_word {letters : String}
    (isWord : isWord letters.toList = true) (rest : List Char) :
    IsReadIn ⟨.ofWord letters, letters, letters.toList⟩ rest := by
  generalize equal : letters.toList = text at isWord
  cases text with
  | nil => cases isWord
  | cons char others =>
      rw [Jet.isWord, Bool.and_eq_true, List.all_eq_true] at isWord
      have all : ∀ other ∈ char :: others, isWordChar other = true :=
        List.forall_mem_cons.mpr ⟨isWordChar_of_isLetter isWord.1, isWord.2⟩
      have taken : (char :: others ++ rest).takeWhile isWordChar =
          char :: others ++ rest.takeWhile isWordChar := List.takeWhile_append_of_pos all
      refine ⟨word (char :: others ++ rest), ?_, ?_, ?_⟩
      · exact if_pos isWord.1
      · rw [word, verbatim, taken]
        exact List.prefix_append _ _
      · rintro rfl
        rw [word, taken, List.takeWhile_nil, List.append_nil, ← equal, verbatim,
          String.ofList_toList]

/-- What comes first if it begins with a digit is a number. -/
theorem first?_of_isDigit {char : Char} (rest : List Char)
    (digit : isDigit char = true) :
    first? (char :: rest) = some (number (char :: rest)) := by
  rw [first?, isLetter_of_isDigit digit, if_neg Bool.false_ne_true, if_pos digit]

/-- A numeral is not empty, and all of its characters are digits. -/
theorem exists_cons_of_isNumeral {digits : String}
    (numeral : isNumeral digits = true) :
    ∃ char others, digits.toList = char :: others ∧ ∀ other ∈ char :: others, isDigit other := by
  rw [isNumeral, Bool.and_eq_true, Bool.not_eq_true', List.isEmpty_eq_false_iff,
    List.all_eq_true] at numeral
  rcases List.exists_cons_of_ne_nil numeral.1 with ⟨char, others, equal⟩
  exact ⟨char, others, equal, equal ▸ numeral.2⟩

theorem isReadIn_integer {digits : String}
    (numeral : isNumeral digits = true) (rest : List Char) :
    IsReadIn ⟨.integer, digits, digits.toList⟩ rest := by
  rcases exists_cons_of_isNumeral numeral with ⟨char, others, equal, all⟩
  have taken : (char :: others ++ rest).takeWhile isDigit =
      char :: others ++ rest.takeWhile isDigit := List.takeWhile_append_of_pos all
  have dropped : (char :: others ++ rest).dropWhile isDigit = rest.dropWhile isDigit :=
    List.dropWhile_append_of_pos all
  refine ⟨number (char :: others ++ rest), ?_, ?_, ?_⟩
  · rw [equal]
    exact first?_of_isDigit _ (all char List.mem_cons_self)
  · rw [equal, number, taken]
    split
    · split
      · exact (List.prefix_append _ _).trans (List.prefix_append _ _)
      · exact List.prefix_append _ _
    · exact List.prefix_append _ _
  · rintro rfl
    rw [number, taken, dropped]
    simp [verbatim, ← equal]

theorem isReadIn_float {decimal : String}
    (isDecimal : IsDecimal decimal) (rest : List Char) :
    IsReadIn ⟨.float, decimal, decimal.toList⟩ rest := by
  rcases isDecimal with ⟨whole, fraction, wholeNumeral, fractionNumeral, equal⟩
  rcases exists_cons_of_isNumeral wholeNumeral with ⟨char, others, wholeEqual, wholeAll⟩
  rcases exists_cons_of_isNumeral fractionNumeral with ⟨next, more, fractionEqual, fractionAll⟩
  rw [wholeEqual, fractionEqual] at equal
  have text : decimal.toList ++ rest = char :: others ++ '.' :: (next :: more ++ rest) := by
    rw [equal, List.append_assoc]
    rfl
  have noDigit : ¬ isDigit '.' = true := by decide
  have taken : (decimal.toList ++ rest).takeWhile isDigit = char :: others := by
    rw [text, List.takeWhile_append_of_pos wholeAll, List.takeWhile_cons_of_neg noDigit,
      List.append_nil]
  have dropped : (decimal.toList ++ rest).dropWhile isDigit = '.' :: (next :: more ++ rest) := by
    rw [text, List.dropWhile_append_of_pos wholeAll, List.dropWhile_cons_of_neg noDigit]
  have longer : number (decimal.toList ++ rest) =
      verbatim .float (decimal.toList ++ rest.takeWhile isDigit) := by
    rw [number, taken, dropped, List.cons_append]
    change ite (isDigit next = true) _ _ = _
    rw [if_pos (fractionAll next List.mem_cons_self), ← List.cons_append,
      List.takeWhile_append_of_pos fractionAll, equal, List.append_assoc]
    rfl
  refine ⟨number (decimal.toList ++ rest), ?_, ?_, ?_⟩
  · rw [text]
    exact first?_of_isDigit _ (wholeAll char List.mem_cons_self)
  · rw [longer]
    exact List.prefix_append _ _
  · rintro rfl
    rw [longer, List.takeWhile_nil, List.append_nil, verbatim, String.ofList_toList]

/-- A symbol of one character is read as it is or as part of a symbol of two. -/
theorem isReadIn_single {char : Char}
    (plain : isSymbol char = true) (rest : List Char) :
    IsReadIn (verbatim (.ofSymbol char) [char]) rest := by
  simp only [isSymbol, Bool.and_eq_true, Bool.not_eq_true', bne_iff_ne] at plain
  rcases plain with ⟨⟨⟨_, notLetter⟩, notDigit⟩, notQuote⟩
  refine ⟨Lexeme.symbol char rest, ?_, ?_, ?_⟩
  · simp [verbatim, first?, notLetter, notDigit, notQuote]
  · rcases (symbol_begins char rest).covers with ⟨others, covers⟩
    rw [covers]
    exact List.prefix_append [char] others
  · rintro rfl
    rfl

theorem isReadIn_symbol {kind : Kind} {symbol : String}
    (known : kind.symbol? = some symbol) (rest : List Char) :
    IsReadIn ⟨kind, symbol, symbol.toList⟩ rest := by
  have single {char : Char} (plain : isSymbol char = true)
      (spelled : kind.symbol? = some (String.ofList [char])) :
      IsReadIn ⟨kind, String.ofList [char], [char]⟩ rest := by
    have read := isReadIn_single plain rest
    rwa [Kind.ofSymbol_of_symbol? spelled] at read
  cases kind <;> cases known
  case lessEqual | greaterEqual | equal | notEqual | and | or =>
    exact ⟨_, rfl, List.prefix_rfl, fun _ => rfl⟩
  all_goals exact single rfl rfl

/-- A string is read up to its closing quote. -/
theorem string_texts (pieces : List StringPiece) (rest : List Char) :
    string ('"' :: (texts pieces ++ '"' :: rest)) =
      ⟨.string, String.ofList (contents pieces), '"' :: (texts pieces ++ ['"'])⟩ := by
  have closed : stringBody? (texts pieces ++ '"' :: rest) =
      some (contents pieces, (texts pieces).length + 1) := by
    rw [stringBody?_texts_append, stringBody?, if_pos rfl, Option.map_some, List.append_nil]
    · rintro ⟨⟩
    · rintro char rest ⟨⟩
  rw [string, List.tail_cons, closed]
  dsimp only
  rw [List.take_succ_cons, List.take_length_add_append]
  rfl

theorem quoted_append (pieces : List StringPiece) (rest : List Char) :
    '"' :: (texts pieces ++ ['"']) ++ rest = '"' :: (texts pieces ++ '"' :: rest) := by
  rw [List.cons_append, List.append_assoc, List.singleton_append]

theorem isReadIn_string (pieces : List StringPiece) (rest : List Char) :
    IsReadIn ⟨.string, String.ofList (contents pieces), '"' :: (texts pieces ++ ['"'])⟩ rest := by
  refine ⟨_, ?_, List.prefix_rfl, fun _ => rfl⟩
  rw [quoted_append, ← string_texts pieces rest]
  rfl

/-- What is read behind a quote goes at least as far as the string is known to go on. -/
theorem prefix_string {inside rest : List Char}
    (goesOn : ∀ body ∈ stringBody? (inside ++ rest), inside.length ≤ body.2) :
    '"' :: inside <+: (string ('"' :: (inside ++ rest))).text := by
  have begins : '"' :: inside <+: '"' :: (inside ++ rest) := List.prefix_append ('"' :: inside) rest
  unfold string
  rw [List.tail_cons]
  split
  · rename_i closed
    exact List.prefix_take_iff.mpr ⟨begins, Nat.succ_le_succ (goesOn _ closed)⟩
  · exact begins

theorem isReadIn_unfinished (pieces : List StringPiece) {left : List Char}
    (leftOver : left = [] ∨ left = ['\\']) (rest : List Char) :
    IsReadIn (verbatim .illegal ('"' :: (texts pieces ++ left))) rest := by
  have behind : ∀ body ∈ stringBody? (left ++ rest), left.length ≤ body.2 := by
    rcases leftOver with rfl | rfl
    · exact fun _ _ => Nat.zero_le _
    · cases rest with
      | nil => exact nofun
      | cons char rest =>
          intro body member
          rcases Option.map_eq_some_iff.mp member with ⟨inner, _, rfl⟩
          exact Nat.le_add_left 1 _
  refine ⟨string ('"' :: (texts pieces ++ left ++ rest)), rfl, prefix_string ?_, ?_⟩
  · intro body member
    rw [List.append_assoc, stringBody?_texts_append] at member
    rcases Option.map_eq_some_iff.mp member with ⟨inner, found, rfl⟩
    rw [List.length_append]
    exact Nat.add_le_add_left (behind inner found) _
  · rintro rfl
    have unclosed : stringBody? left = none := by
      rcases leftOver with rfl | rfl <;> rfl
    rw [List.append_nil, string, List.tail_cons, stringBody?_texts_append, unclosed]
    rfl

/-- A lexeme is read in whatever text it stands at the start of. -/
theorem Spelled.isReadIn {lexeme : Lexeme}
    (spelled : lexeme.Spelled) (rest : List Char) :
    lexeme.IsReadIn rest := by
  cases spelled with
  | word isWord => exact isReadIn_word isWord rest
  | integer numeral => exact isReadIn_integer numeral rest
  | float decimal => exact isReadIn_float decimal rest
  | symbol known => exact isReadIn_symbol known rest
  | @stray char plain unknown =>
      have illegal := (Kind.ofSymbol_eq_illegal_or char).resolve_right (unknown _)
      have read := isReadIn_single plain rest
      rwa [illegal] at read
  | string pieces => exact isReadIn_string pieces rest
  | unfinished pieces leftOver => exact isReadIn_unfinished pieces leftOver rest

/-! ### What is read -/

/-- A lexeme that was read at the start of a text. -/
structure StartsAt (lexeme : Lexeme) (source : List Char) : Prop where
  spelled : lexeme.Spelled
  begins : lexeme.text <+: source

/-- A lexeme whose literal is its text is spelled as the literal is. -/
theorem Spelled.verbatim {kind : Kind} {text : List Char}
    (spelled : Spelled ⟨kind, String.ofList text, (String.ofList text).toList⟩) :
    (verbatim kind text).Spelled := by
  rwa [String.toList_ofList] at spelled

theorem startsAt_word {char : Char} (rest : List Char)
    (letter : isLetter char = true) :
    (word (char :: rest)).StartsAt (char :: rest) := by
  have all : isWordChar char = true := isWordChar_of_isLetter letter
  have goesOn : (rest.takeWhile isWordChar).all isWordChar = true := List.all_takeWhile
  refine ⟨.verbatim (.word ?_), List.takeWhile_prefix _⟩
  rw [String.toList_ofList, List.takeWhile_cons_of_pos all, isWord, letter, goesOn]
  rfl

theorem startsAt_number {char : Char} (rest : List Char)
    (digit : isDigit char = true) :
    (number (char :: rest)).StartsAt (char :: rest) := by
  have fits := number_fits rest digit
  have together := List.takeWhile_append_dropWhile (p := isDigit) (l := char :: rest)
  have whole : (char :: rest).takeWhile isDigit <+: char :: rest := List.takeWhile_prefix _
  generalize read : number (char :: rest) = lexeme at fits ⊢
  unfold number at read
  dsimp only at read
  split at read
  · rename_i next others dropped
    rw [dropped] at together
    have point : '.' :: (next :: others).takeWhile isDigit <+: '.' :: next :: others :=
      List.cons_prefix_cons.mpr ⟨rfl, List.takeWhile_prefix _⟩
    have begins := (List.prefix_append_right_inj ((char :: rest).takeWhile isDigit)).mpr point
    rw [together] at begins
    split at read <;> subst read
    · exact ⟨.verbatim (.float fits), begins⟩
    · exact ⟨.verbatim (.integer fits), whole⟩
  · subst read
    exact ⟨.verbatim (.integer fits), whole⟩

theorem startsAt_string (source : List Char) :
    (string ('"' :: source)).StartsAt ('"' :: source) := by
  rcases exists_texts source with ⟨pieces, rest, rfl, ends⟩
  have goesOn := stringBody?_texts_append pieces rest
  rcases ends with rfl | rfl | ⟨others, rfl⟩
  · rw [string, List.tail_cons, goesOn]
    exact ⟨.unfinished pieces (.inl rfl), List.prefix_rfl⟩
  · rw [string, List.tail_cons, goesOn]
    exact ⟨.unfinished pieces (.inr rfl), List.prefix_rfl⟩
  · rw [string_texts]
    exact ⟨.string pieces, quoted_append pieces others ▸ List.prefix_append _ _⟩

theorem startsAt_symbol {char : Char} (rest : List Char)
    (plain : isSymbol char = true) :
    (symbol char rest).StartsAt (char :: rest) := by
  have single : (verbatim (.ofSymbol char) [char]).StartsAt (char :: rest) := by
    refine ⟨?_, List.prefix_append [char] rest⟩
    rcases Kind.ofSymbol_eq_illegal_or char with illegal | known
    · rw [illegal]
      refine .stray plain fun kind known => ?_
      rw [← Kind.ofSymbol_of_symbol? known, illegal] at known
      cases known
    · exact .verbatim (.symbol known)
  unfold symbol
  split
  · split
    · rename_i pair
      exact ⟨.verbatim (.symbol (Kind.symbol?_of_ofPair? pair)), List.prefix_append [_, _] _⟩
    · exact single
  · exact single

/-- What a text without layout in front begins with is a lexeme. -/
theorem startsAt_of_first? {source : List Char} {lexeme : Lexeme}
    (noLayout : layoutLength false source = 0) (comesFirst : first? source = some lexeme) :
    lexeme.StartsAt source := by
  cases source with
  | nil => cases comesFirst
  | cons char rest =>
      rw [first?] at comesFirst
      split at comesFirst
      · rename_i letter
        cases comesFirst
        exact startsAt_word rest letter
      · split at comesFirst
        · rename_i digit
          cases comesFirst
          exact startsAt_number rest digit
        · split at comesFirst
          · rename_i quote
            cases comesFirst
            cases beq_iff_eq.mp quote
            exact startsAt_string rest
          · rename_i notLetter notDigit notQuote
            cases comesFirst
            refine startsAt_symbol rest ?_
            have notBlank : ¬ isBlank char = true := fun blank => by
              rw [layoutLength, if_pos blank] at noLayout
              cases noLayout
            have notComment : ¬ (char == '#') = true := fun comment => by
              rw [layoutLength, if_neg notBlank, if_pos comment] at noLayout
              cases noLayout
            simp_all [isSymbol]

/-! ### The longest lexeme -/

/-- Whether a lexeme is the longest one that a text begins with. -/
structure IsLongest (lexeme : Lexeme) (source : List Char) : Prop where
  spelled : lexeme.Spelled
  begins : lexeme.text <+: source
  longest : ∀ other : Lexeme, other.Spelled → other.text <+: source →
    other.text.length ≤ lexeme.text.length

/-- What is read at the start of a text is the longest lexeme there. -/
theorem isLongest_of_first? {source : List Char} {lexeme : Lexeme}
    (noLayout : layoutLength false source = 0) (comesFirst : first? source = some lexeme) :
    lexeme.IsLongest source := by
  rcases startsAt_of_first? noLayout comesFirst with ⟨spelled, begins⟩
  refine ⟨spelled, begins, fun other otherSpelled ⟨rest, covers⟩ => ?_⟩
  rcases otherSpelled.isReadIn rest with ⟨longer, read, goesOn, _⟩
  rw [covers, comesFirst] at read
  cases read
  exact goesOn.length_le

/-- No lexeme begins with layout. -/
theorem Spelled.layoutLength {lexeme : Lexeme}
    (spelled : lexeme.Spelled) (rest : List Char) :
    layoutLength false (lexeme.text ++ rest) = 0 := by
  have digits {digits : String} (numeral : isNumeral digits = true) (rest : List Char) :
      Jet.layoutLength false (digits.toList ++ rest) = 0 := by
    rcases exists_cons_of_isNumeral numeral with ⟨char, others, equal, all⟩
    rw [equal]
    exact layoutLength_of_isWordChar (isWordChar_of_isDigit (all char List.mem_cons_self)) _
  cases spelled with
  | @word word isWord =>
      dsimp only
      generalize word.toList = text at isWord
      cases text with
      | nil => cases isWord
      | cons char others =>
          rw [Jet.isWord, Bool.and_eq_true] at isWord
          exact layoutLength_of_isWordChar (isWordChar_of_isLetter isWord.1) _
  | integer numeral => exact digits numeral rest
  | float decimal =>
      rcases decimal with ⟨whole, fraction, numeral, _, equal⟩
      dsimp only
      rw [equal, List.append_assoc]
      exact digits numeral _
  | @symbol kind symbol known => cases kind <;> cases known <;> rfl
  | stray plain =>
      simp only [isSymbol, Bool.and_eq_true, Bool.not_eq_true', bne_iff_ne] at plain
      rcases plain with ⟨⟨⟨⟨notBlank, notComment⟩, _⟩, _⟩, _⟩
      simp [Lexeme.verbatim, Jet.layoutLength, notBlank, notComment]
  | string | unfinished => rfl

/-- The longest lexeme is what is read at the start of a text. -/
theorem IsLongest.first? {source : List Char} {lexeme : Lexeme}
    (longest : lexeme.IsLongest source) :
    first? source = some lexeme := by
  have alone {lexeme : Lexeme} (spelled : lexeme.Spelled) :
      Lexeme.first? lexeme.text = some lexeme := by
    rcases spelled.isReadIn [] with ⟨longer, read, _, same⟩
    rw [List.append_nil] at read
    exact same rfl ▸ read
  rcases longest with ⟨spelled, ⟨rest, rfl⟩, longest⟩
  rcases spelled.isReadIn rest with ⟨longer, read, goesOn, _⟩
  rcases startsAt_of_first? (spelled.layoutLength rest) read with ⟨longerSpelled, begins⟩
  have text := goesOn.eq_of_length_le (longest longer longerSpelled begins)
  have same := alone longerSpelled
  rw [← text, alone spelled] at same
  rw [read, same]

/-- A text begins with one longest lexeme at most. -/
theorem IsLongest.unique {source : List Char} {lexeme other : Lexeme}
    (longest : lexeme.IsLongest source) (otherLongest : other.IsLongest source) :
    lexeme = other :=
  Option.some.inj (longest.first?.symm.trans otherLongest.first?)

/-- A string that is not closed is the longest lexeme only if it is the whole text. -/
theorem IsLongest.eq_of_illegal {source : List Char} {lexeme : Lexeme}
    (longest : lexeme.IsLongest source) (illegal : lexeme.kind = .illegal)
    (quote : lexeme.text.head? = some '"') :
    lexeme.text = source := by
  have comesFirst := longest.first?
  rcases longest.begins with ⟨rest, covers⟩
  rcases List.head?_eq_some_iff.mp quote with ⟨others, text⟩
  rw [text, List.cons_append] at covers
  subst covers
  have read : string ('"' :: (others ++ rest)) = lexeme := Option.some.inj comesFirst
  unfold string at read
  split at read
  · rw [← read] at illegal
    cases illegal
  · rw [← read]
    rfl

end Lexeme

end Jet
