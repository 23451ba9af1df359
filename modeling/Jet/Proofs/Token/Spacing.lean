import Jet.Token.Cursor

/-!
# Spaced lexemes

A text in which spaces stand in front of every lexeme and behind the last one has these lexemes as
its tokens, one after the other on a single line.  A lexeme stands on its own if it is what a text
begins with whenever its characters and a space come first; words, numbers and symbols all do.
-/

namespace Jet

namespace Lexeme

/-- Whether a lexeme is read as itself in front of a space. -/
structure Stands (lexeme : Lexeme) : Prop where
  notEnd : lexeme.kind ≠ .endOfInput
  oneLine : '\n' ∉ lexeme.text
  noLayout : ∀ rest, layoutLength false (lexeme.text ++ ' ' :: rest) = 0
  comesFirst : ∀ rest, first? (lexeme.text ++ ' ' :: rest) = some lexeme

/-- Words stand on their own. -/
theorem Stands.word {char : Char} {rest : List Char}
    (letter : isLetter char = true) (goesOn : rest.all isWordChar = true) :
    (word (char :: rest)).Stands := by
  have all : ∀ other ∈ char :: rest, isWordChar other = true := by
    intro other member
    rcases List.mem_cons.mp member with rfl | member
    · exact isWordChar_of_isLetter letter
    · exact List.all_eq_true.mp goesOn other member
  have whole : (char :: rest).takeWhile isWordChar = char :: rest := by
    have whole : (char :: rest ++ []).takeWhile isWordChar =
        char :: rest ++ [].takeWhile isWordChar := List.takeWhile_append_of_pos all
    rwa [List.append_nil, List.takeWhile_nil, List.append_nil] at whole
  have text : (Lexeme.word (char :: rest)).text = char :: rest := whole
  constructor
  · rw [Lexeme.word, verbatim]
    unfold Kind.ofWord
    dsimp only
    split <;> decide
  · rw [text]
    intro member
    exact absurd (all _ member) (by decide)
  · intro others
    rw [text, List.cons_append]
    exact layoutLength_of_isWordChar (isWordChar_of_isLetter letter) _
  · intro others
    have same : (char :: rest ++ ' ' :: others).takeWhile isWordChar = char :: rest := by
      rw [List.takeWhile_append_of_pos all, List.takeWhile_cons_of_neg (by decide),
        List.append_nil]
    rw [text, List.cons_append, first?, if_pos letter, Lexeme.word, Lexeme.word, whole,
      ← List.cons_append, same]

/-- A character that is neither layout nor part of a word, a number or a string. -/
def isSymbol (char : Char) : Bool :=
  !isBlank char && char != '#' && !isLetter char && !isDigit char && char != '"'

/-- Symbols of one character stand on their own. -/
theorem Stands.symbol {char : Char}
    (plain : isSymbol char = true) :
    (verbatim (.ofSymbol char) [char]).Stands := by
  simp only [isSymbol, Bool.and_eq_true, Bool.not_eq_true', bne_iff_ne] at plain
  rcases plain with ⟨⟨⟨⟨notBlank, notComment⟩, notLetter⟩, notDigit⟩, notQuote⟩
  constructor
  · rw [verbatim]
    unfold Kind.ofSymbol
    dsimp only
    split <;> decide
  · rw [verbatim, List.mem_singleton]
    rintro rfl
    contradiction
  · intro others
    simp [verbatim, layoutLength, notBlank, notComment]
  · intro others
    have single : Kind.ofPair? char ' ' = none := by
      unfold Kind.ofPair?
      split <;> simp_all
    simp [verbatim, first?, notLetter, notDigit, notQuote, Lexeme.symbol, single]

/-- The lexemes with a space in front of each of them and one at the end. -/
def spaced : List Lexeme → List Char
  | [] => [' ']
  | lexeme :: rest => ' ' :: (lexeme.text ++ spaced rest)

/-- The tokens of spaced lexemes, given the column of the space in front of the first one. -/
def place : Nat → List Lexeme → List Token
  | _, [] => []
  | column, lexeme :: rest =>
      ⟨lexeme.kind, lexeme.literal, 1, (column + 1 : Nat)⟩ ::
        place (column + 1 + lexeme.text.length) rest

theorem place_cons (column : Nat) (lexeme : Lexeme) (rest : List Lexeme) :
    place column (lexeme :: rest) =
      ⟨lexeme.kind, lexeme.literal, 1, (column + 1 : Nat)⟩ ::
        place (column + 1 + lexeme.text.length) rest :=
  rfl

/-- The number of columns that lexemes take with their spaces. -/
def width : List Lexeme → Nat
  | [] => 0
  | lexeme :: rest => lexeme.text.length + 1 + width rest

theorem place_append (column : Nat) (lexemes others : List Lexeme) :
    place column (lexemes ++ others) =
      place column lexemes ++ place (column + width lexemes) others := by
  induction lexemes generalizing column with
  | nil => simp [place, width]
  | cons lexeme rest induction =>
      rw [List.cons_append, place, place, induction, List.cons_append]
      rw [width]
      congr 3
      omega

/-- Spaced lexemes begin with a space. -/
theorem exists_spaced (lexemes : List Lexeme) :
    ∃ rest, spaced lexemes = ' ' :: rest := by
  cases lexemes with
  | nil => exact ⟨[], rfl⟩
  | cons lexeme rest => exact ⟨lexeme.text ++ spaced rest, rfl⟩

theorem length_lt_spaced (lexemes : List Lexeme) :
    lexemes.length < (spaced lexemes).length := by
  induction lexemes with
  | nil => exact Nat.lt_succ_self _
  | cons lexeme rest induction =>
      simp only [spaced, List.length_cons, List.length_append]
      omega

end Lexeme

namespace Cursor

open Jet.Lexeme

/-- Past some characters of one line. -/
theorem advance_append {text : List Char}
    (oneLine : '\n' ∉ text) (rest : List Char) (position line column : Nat) :
    advance text.length ⟨text ++ rest, position, line, column⟩ =
      ⟨rest, position + text.length, line, column + text.length⟩ := by
  induction text generalizing position column with
  | nil => rfl
  | cons char text induction =>
      rw [List.mem_cons, not_or] at oneLine
      rw [List.length_cons, advance]
      have stepped : step ⟨char :: text ++ rest, position, line, column⟩ =
          ⟨text ++ rest, position + 1, line, column + 1⟩ := by
        unfold step
        split
        · contradiction
        · rename_i equal
          cases equal
          exact absurd rfl oneLine.1
        · rename_i equal
          cases equal
          rfl
      rw [stepped, induction oneLine.2]
      congr 1 <;> omega

/-- The next token of spaced lexemes is the first of them. -/
theorem next_spaced {lexeme : Lexeme}
    (stands : lexeme.Stands) (others : List Lexeme) (position column : Nat) :
    next ⟨spaced (lexeme :: others), position, 1, column⟩ =
      (⟨lexeme.kind, lexeme.literal, 1, (column + 1 : Nat)⟩,
        ⟨spaced others, position + 1 + lexeme.text.length, 1,
          column + 1 + lexeme.text.length⟩) := by
  rcases exists_spaced others with ⟨rest, equal⟩
  have start : skipLayout ⟨spaced (lexeme :: others), position, 1, column⟩ =
      ⟨lexeme.text ++ spaced others, position + 1, 1, column + 1⟩ := by
    rw [skipLayout, spaced, layoutLength, if_pos (by rfl), equal, stands.noLayout]
    rfl
  rw [next, start]
  dsimp only
  rw [equal, stands.comesFirst]
  dsimp only
  rw [advance_append stands.oneLine]
  rfl

theorem next_spaced_nil (position column : Nat) :
    next ⟨spaced [], position, 1, column⟩ =
      (⟨.endOfInput, "", 1, (column + 1 : Nat)⟩, ⟨[], position + 1, 1, column + 1⟩) :=
  rfl

/-- The tokens of spaced lexemes are the lexemes at their places and an end token. -/
theorem take_spaced {lexemes : List Lexeme}
    (stand : ∀ lexeme ∈ lexemes, lexeme.Stands) {count : Nat} (enough : lexemes.length < count)
    (position column : Nat) :
    ∃ finish, finish.kind = .endOfInput ∧
      (take count ⟨spaced lexemes, position, 1, column⟩).1 = place column lexemes ++ [finish] := by
  induction lexemes generalizing count position column with
  | nil =>
      rcases Nat.exists_eq_add_one_of_ne_zero (Nat.ne_zero_of_lt enough) with ⟨count, rfl⟩
      refine ⟨⟨.endOfInput, "", 1, (column + 1 : Nat)⟩, rfl, ?_⟩
      rw [take, next_spaced_nil]
      rfl
  | cons lexeme rest induction =>
      rcases Nat.exists_eq_add_one_of_ne_zero (Nat.ne_zero_of_lt enough) with ⟨count, rfl⟩
      have stands := stand lexeme List.mem_cons_self
      rcases induction (fun other member => stand other (List.mem_cons_of_mem _ member))
          (Nat.lt_of_succ_lt_succ enough) (position + 1 + lexeme.text.length)
          (column + 1 + lexeme.text.length) with
        ⟨finish, isEnd, taken⟩
      refine ⟨finish, isEnd, ?_⟩
      rw [take, next_spaced stands]
      dsimp only
      rw [if_neg stands.notEnd]
      dsimp only
      rw [taken]
      rfl

end Cursor

/-- A text of spaced lexemes has the tokens that are placed there, and then the end token. -/
theorem tokenize_spaced {lexemes : List Lexeme}
    (stand : ∀ lexeme ∈ lexemes, lexeme.Stands) :
    ∃ finish, finish.kind = .endOfInput ∧
      tokenize (String.ofList (Lexeme.spaced lexemes)) = Lexeme.place 1 lexemes ++ [finish] := by
  unfold tokenize Cursor.drain Cursor.ofText
  rw [String.toList_ofList]
  exact Cursor.take_spaced stand (Nat.lt_succ_of_lt (Lexeme.length_lt_spaced lexemes)) 0 1

end Jet
