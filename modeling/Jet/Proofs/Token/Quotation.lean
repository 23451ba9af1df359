import Jet.Proofs.Token.Reading

/-!
# Quoted strings

A string is quoted by doubling its backslashes, then putting a backslash in front of its quotes, and
then writing its new lines as a backslash and an `n`.  The backslashes come first: none that a later
replacement brings in is doubled, so the three of them come to one replacement for each character.

A quoted string has no new line in it and is read back as the string that was quoted, in front of any
text and on any line, up to its closing quote.
-/

namespace Jet

/-! ## Replacements one after another -/

/-- A text with some characters in the place of every occurrence of a character. -/
def replaceChar (char : Char) (replacement text : List Char) : List Char :=
  text.flatMap fun other => if other = char then replacement else [other]

theorem replaceChar_append (char : Char) (replacement text rest : List Char) :
    replaceChar char replacement (text ++ rest) =
      replaceChar char replacement text ++ replaceChar char replacement rest :=
  List.flatMap_append

theorem replaceChar_singleton_of_ne {char other : Char}
    (different : other ≠ char) (replacement : List Char) :
    replaceChar char replacement [other] = [other] := by
  rw [replaceChar, List.flatMap_singleton, if_neg different]

/-- A text in which backslashes, then quotes and then new lines are escaped. -/
def escapedInTurn (text : List Char) : List Char :=
  replaceChar '\n' ['\\', 'n'] (replaceChar '"' ['\\', '"'] (replaceChar '\\' ['\\', '\\'] text))

/-- Escaping one kind of character after another is escaping each character by itself. -/
theorem escapedInTurn_eq_flatMap (text : List Char) :
    escapedInTurn text = text.flatMap escapeChar := by
  have each (char : Char) : escapedInTurn [char] = escapeChar char := by
    unfold escapeChar
    split
    case h_4 notBackslash notQuote notBreak =>
        rw [escapedInTurn, replaceChar_singleton_of_ne notBackslash,
          replaceChar_singleton_of_ne notQuote, replaceChar_singleton_of_ne notBreak]
    all_goals rfl
  induction text with
  | nil => rfl
  | cons char rest induction =>
      rw [List.flatMap_cons, ← induction, ← each, ← List.singleton_append]
      simp only [escapedInTurn, replaceChar_append]

/-! ## Reading back -/

/-- The characters of a quoted string. -/
theorem toList_quoteString (contents : String) :
    (quoteString contents).toList = '"' :: (contents.toList.flatMap escapeChar ++ ['"']) :=
  String.toList_ofList

/-- New lines are written in other characters. -/
theorem newline_not_mem_quoteString (contents : String) :
    '\n' ∉ (quoteString contents).toList := by
  have escaped (char : Char) : '\n' ∉ escapeChar char := by
    unfold escapeChar
    split
    case h_4 notBackslash notQuote notBreak => simpa using Ne.symm notBreak
    all_goals decide
  rw [toList_quoteString]
  simp [escaped]

namespace Cursor

/-- A token that is no end is taken in front of those that come after it. -/
theorem take_of_next {cursor after : Cursor} {token : Token}
    (read : cursor.next = (token, after)) (notEnd : token.kind ≠ .endOfInput) (count : Nat) :
    (cursor.take (count + 1)).1 = token :: (after.take count).1 := by
  rw [take, read]
  dsimp only
  rw [if_neg notEnd]

/-- At the end of a text the end is all that is taken. -/
theorem take_at_end (count position line column : Nat) :
    (take (count + 1) ⟨[], position, line, column⟩).1 = [⟨.endOfInput, "", line, column⟩] :=
  rfl

/-- A quoted string is read as one token, and the cursor goes on behind it on the same line. -/
theorem next_quoteString (contents : String) (rest : List Char)
    (position line column : Nat) :
    next ⟨(quoteString contents).toList ++ rest, position, line, column⟩ =
      (⟨.string, contents, line, column⟩,
        ⟨rest, position + (quoteString contents).length, line,
          column + (quoteString contents).length⟩) := by
  have oneLine := newline_not_mem_quoteString contents
  have noLayout : layoutLength false ((quoteString contents).toList ++ rest) = 0 := by
    rw [toList_quoteString]
    rfl
  have first : Lexeme.first? ((quoteString contents).toList ++ rest) =
      some ⟨.string, contents, (quoteString contents).toList⟩ := by
    rw [toList_quoteString, List.cons_append, List.append_assoc]
    exact congrArg some (Lexeme.string_quoted contents rest)
  rw [← String.length_toList]
  generalize (quoteString contents).toList = text at oneLine noLayout first ⊢
  have read := @next_lexeme ⟨text ++ rest, position, line, column⟩ ⟨.string, contents, text⟩ rest
    rfl noLayout first
  rw [read]
  dsimp only
  rw [advance_append oneLine]

end Cursor

/--
A string that is quoted and followed by any text is read back as the first token of the whole, at its
start, and what is left is the text, on the first line still, behind as many columns as the quoted
string has characters.  Quoted strings have no other token but the end.
-/
theorem quoteString_readBack (contents more : String) :
    quoteString contents = String.ofList ('"' :: escapedInTurn contents.toList ++ ['"']) ∧
    (Cursor.ofText (quoteString contents ++ more)).next =
      (⟨.string, contents, 1, 1⟩,
        ⟨more.toList, (quoteString contents).length, 1, 1 + (quoteString contents).length⟩) ∧
    (tokenize (quoteString contents ++ more)).head? = some ⟨.string, contents, 1, 1⟩ ∧
    tokenize (quoteString contents) =
      [⟨.string, contents, 1, 1⟩,
        ⟨.endOfInput, "", 1, (1 + (quoteString contents).length : Nat)⟩] := by
  have next (more : String) : (Cursor.ofText (quoteString contents ++ more)).next =
      (⟨.string, contents, 1, 1⟩,
        ⟨more.toList, (quoteString contents).length, 1, 1 + (quoteString contents).length⟩) := by
    rw [Cursor.ofText, String.toList_append, Cursor.next_quoteString, Nat.zero_add]
    rfl
  refine ⟨?_, next more, ?_, ?_⟩
  · rw [escapedInTurn_eq_flatMap]
    rfl
  · rw [tokenize, Cursor.drain, Cursor.take_of_next (next more) nofun]
    rfl
  · have alone := next ""
    have nonempty : ∃ count, (Cursor.ofText (quoteString contents)).rest.length = count + 1 :=
      ⟨_, by rw [Cursor.ofText, toList_quoteString, List.length_cons]⟩
    rcases nonempty with ⟨count, length⟩
    rw [String.append_empty] at alone
    rw [tokenize, Cursor.drain, length, Cursor.take_of_next alone nofun, String.toList_empty,
      Cursor.take_at_end]
    rfl

end Jet
