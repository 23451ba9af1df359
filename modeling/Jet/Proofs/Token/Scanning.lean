import Jet.Proofs.Number.Numeral
import Jet.Token.Cursor

/-!
# What is scanned

The literals of the tokens of a text.  A name is a word that is no keyword, an integer is a numeral,
a float is two numerals with a point between them, and an operator or a delimiter is spelled by its
symbol.  `Kind.Fits` says this of one kind; every token of every text fits its kind.
-/

namespace Jet

/-- Whether some characters are a letter and then letters and digits. -/
def isWord : List Char → Bool
  | [] => false
  | char :: rest => isLetter char && rest.all isWordChar

/-- Whether a text is a word that is no keyword. -/
def isName (text : String) : Bool :=
  isWord text.toList && Kind.ofWord text == .identifier

namespace Kind

/-- Whether a literal may go with a kind of token. -/
def Fits (literal : String) : Kind → Prop
  | .identifier => isName literal = true
  | .integer => isNumeral literal = true
  | .float => IsDecimal literal
  | kind => ∀ symbol, kind.symbol? = some symbol → literal = symbol

/-- The symbol of a two-character operator is its two characters. -/
theorem symbol?_of_ofPair? {first second : Char} {kind : Kind}
    (pair : ofPair? first second = some kind) :
    kind.symbol? = some (String.ofList [first, second]) := by
  unfold ofPair? at pair
  split at pair
  case h_7 => cases pair
  all_goals
    cases pair
    rfl

/-- A character stands for the kind whose symbol it is, unless it is illegal. -/
theorem ofSymbol_eq_illegal_or (char : Char) :
    ofSymbol char = illegal ∨ (ofSymbol char).symbol? = some (String.ofList [char]) := by
  unfold ofSymbol
  split
  case h_19 => exact .inl rfl
  all_goals exact .inr rfl

/-- A word that is no name is a keyword, which has no symbol. -/
theorem ofWord_eq_identifier_or (word : String) :
    ofWord word = identifier ∨
      ofWord word ∈ [fnWord, letWord, trueWord, falseWord, nullWord, ifWord, elseWord,
        returnWord] := by
  unfold ofWord
  split <;> decide

/-- A kind with a symbol is fitted by this symbol. -/
theorem fits_symbol {kind : Kind} {symbol : String}
    (known : kind.symbol? = some symbol) :
    kind.Fits symbol := by
  cases kind <;> cases known <;>
    exact fun _ equal => Option.some.inj equal

/-- Only its symbol fits a kind that has one. -/
theorem eq_symbol_of_fits {kind : Kind} {literal symbol : String}
    (fits : kind.Fits literal) (known : kind.symbol? = some symbol) :
    literal = symbol := by
  cases kind <;> first | exact fits symbol known | cases known

end Kind

namespace Lexeme

theorem word_fits {char : Char} (rest : List Char)
    (letter : isLetter char = true) :
    (word (char :: rest)).kind.Fits (word (char :: rest)).literal := by
  have text : (char :: rest).takeWhile isWordChar = char :: rest.takeWhile isWordChar :=
    List.takeWhile_cons_of_pos (isWordChar_of_isLetter letter)
  rw [word, text]
  dsimp only [verbatim]
  rcases Kind.ofWord_eq_identifier_or (String.ofList (char :: rest.takeWhile isWordChar)) with
    name | keyword
  · have goesOn : (rest.takeWhile isWordChar).all isWordChar = true := List.all_takeWhile
    rw [name, Kind.Fits, isName, String.toList_ofList, isWord, letter, goesOn, name]
    rfl
  · generalize Kind.ofWord (String.ofList (char :: rest.takeWhile isWordChar)) = kind at keyword ⊢
    simp only [List.mem_cons, List.not_mem_nil, or_false] at keyword
    rcases keyword with rfl | rfl | rfl | rfl | rfl | rfl | rfl | rfl <;>
      exact fun _ none => nomatch none

theorem isNumeral_takeWhile {char : Char} (rest : List Char)
    (digit : isDigit char = true) :
    isNumeral (String.ofList ((char :: rest).takeWhile isDigit)) = true := by
  rw [isNumeral, String.toList_ofList, List.takeWhile_cons_of_pos digit, Bool.and_eq_true,
    ← List.takeWhile_cons_of_pos digit]
  exact ⟨by simp [digit], List.all_takeWhile⟩

theorem number_fits {char : Char} (rest : List Char)
    (digit : isDigit char = true) :
    (number (char :: rest)).kind.Fits (number (char :: rest)).literal := by
  have whole := isNumeral_takeWhile rest digit
  unfold number
  dsimp only
  split
  · split
    · rename_i next others _ nextDigit
      exact ⟨_, _, whole, isNumeral_takeWhile others nextDigit, by simp [verbatim]⟩
    · exact whole
  · exact whole

theorem string_fits (source : List Char) :
    (string source).kind.Fits (string source).literal := by
  unfold string
  split
  · exact fun _ none => nomatch none
  · exact fun _ none => nomatch none

theorem symbol_fits (char : Char) (rest : List Char) :
    (symbol char rest).kind.Fits (symbol char rest).literal := by
  have single : (Kind.ofSymbol char).Fits (String.ofList [char]) := by
    rcases Kind.ofSymbol_eq_illegal_or char with illegal | known
    · rw [illegal]
      exact fun _ none => nomatch none
    · exact Kind.fits_symbol known
  unfold symbol
  split
  · split
    · rename_i pair
      exact Kind.fits_symbol (Kind.symbol?_of_ofPair? pair)
    · exact single
  · exact single

/-- The literal of the first lexeme of a text fits its kind. -/
theorem fits_of_first? {source : List Char} {lexeme : Lexeme}
    (comesFirst : first? source = some lexeme) :
    lexeme.kind.Fits lexeme.literal := by
  cases source with
  | nil => cases comesFirst
  | cons char rest =>
      rw [first?] at comesFirst
      split at comesFirst
      · rename_i letter
        cases comesFirst
        exact word_fits rest letter
      · split at comesFirst
        · rename_i digit
          cases comesFirst
          exact number_fits rest digit
        · split at comesFirst
          · cases comesFirst
            exact string_fits _
          · cases comesFirst
            exact symbol_fits char rest

end Lexeme

/-- The literal of the next token fits its kind. -/
theorem Cursor.next_fits (cursor : Cursor) :
    cursor.next.1.kind.Fits cursor.next.1.literal := by
  unfold next
  dsimp only
  split
  · exact fun _ none => nomatch none
  · rename_i lexeme comesFirst
    exact Lexeme.fits_of_first? comesFirst

/-- The literals of any number of tokens fit their kinds. -/
theorem Cursor.take_fits (count : Nat) (cursor : Cursor) :
    ∀ token ∈ (take count cursor).1, token.kind.Fits token.literal := by
  induction count generalizing cursor with
  | zero =>
      intro token member
      cases member
  | succ count induction =>
      intro token member
      rw [take] at member
      dsimp only at member
      split at member
      · cases List.mem_singleton.mp member
        exact cursor.next_fits
      · rcases List.mem_cons.mp member with rfl | member
        · exact cursor.next_fits
        · exact induction _ token member

/-- The literals of all tokens of a text fit their kinds. -/
theorem tokenize_fits (source : String) :
    ∀ token ∈ tokenize source, token.kind.Fits token.literal :=
  Cursor.take_fits _ _

end Jet
