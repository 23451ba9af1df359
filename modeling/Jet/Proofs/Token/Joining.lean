import Jet.Proofs.Token.Tiling

/-!
# Joined lines

What becomes of the tokens of two texts that a new line joins.  If no string is left open in the
first text, then nothing of it goes on behind the new line: its lexemes stay the longest ones at
their places, as all lexemes with a new line in them are strings, and its comments end where the
line does.  So the tokens of the joined text are those of the first one and then those of the second
one, which are only moved further down.

The same goes for any number of texts: each has its own tokens, as many lines further down as the
texts in front of it take.
-/

namespace Jet

/-! ## Lexemes and layout in front of a new line -/

namespace Lexeme

/-- Whether a lexeme is a string that is not closed. -/
def IsUnfinished (lexeme : Lexeme) : Prop :=
  lexeme.kind = .illegal ∧ lexeme.text.head? = some '"'

/-- Only strings begin with a quote. -/
theorem Spelled.isUnfinished_or {lexeme : Lexeme}
    (spelled : lexeme.Spelled) (quote : lexeme.text.head? = some '"') :
    lexeme.IsUnfinished ∨ ∃ pieces,
      lexeme = ⟨.string, String.ofList (StringPiece.contents pieces),
        '"' :: (StringPiece.texts pieces ++ ['"'])⟩ := by
  have noDigit {digits : String} (numeral : isNumeral digits = true) (rest : List Char)
      (quote : (digits.toList ++ rest).head? = some '"') : False := by
    rcases exists_cons_of_isNumeral numeral with ⟨char, others, equal, all⟩
    rw [equal] at quote
    cases quote
    exact absurd (all '"' List.mem_cons_self) (by decide)
  cases spelled with
  | @word word isWord =>
      dsimp only at quote
      rcases List.head?_eq_some_iff.mp quote with ⟨others, equal⟩
      rw [equal, Jet.isWord] at isWord
      cases isWord
  | @integer digits numeral =>
      rw [← List.append_nil digits.toList] at quote
      exact (noDigit numeral [] quote).elim
  | float decimal =>
      rcases decimal with ⟨whole, fraction, numeral, _, equal⟩
      dsimp only at quote
      rw [equal] at quote
      exact (noDigit numeral _ quote).elim
  | @symbol kind symbol known => cases kind <;> cases known <;> cases quote
  | stray plain =>
      cases quote
      cases plain
  | string pieces => exact .inr ⟨pieces, rfl⟩
  | unfinished => exact .inl ⟨rfl, rfl⟩

/-- Only strings have a new line in them. -/
theorem Spelled.head?_of_newline {lexeme : Lexeme}
    (spelled : lexeme.Spelled) (newline : '\n' ∈ lexeme.text) :
    lexeme.text.head? = some '"' := by
  have noDigit {digits : String} (numeral : isNumeral digits = true) : '\n' ∉ digits.toList := by
    intro member
    rcases exists_cons_of_isNumeral numeral with ⟨char, others, equal, all⟩
    rw [equal] at member
    exact absurd (all '\n' member) (by decide)
  cases spelled with
  | @word word isWord =>
      refine absurd newline fun member => ?_
      dsimp only at member
      generalize word.toList = text at isWord member
      cases text with
      | nil => cases member
      | cons char others =>
          rw [Jet.isWord, Bool.and_eq_true] at isWord
          rcases List.mem_cons.mp member with rfl | member
          · exact absurd isWord.1 (by decide)
          · exact absurd (List.all_eq_true.mp isWord.2 _ member) (by decide)
  | integer numeral => exact absurd newline (noDigit numeral)
  | float decimal =>
      rcases decimal with ⟨whole, fraction, numeral, fractionNumeral, equal⟩
      rw [equal] at newline
      rcases List.mem_append.mp newline with member | member
      · exact absurd member (noDigit numeral)
      · rcases List.mem_cons.mp member with point | member
        · cases point
        · exact absurd member (noDigit fractionNumeral)
  | @symbol kind symbol known => cases kind <;> cases known <;> simp at newline
  | stray plain =>
      cases List.mem_singleton.mp newline
      cases plain
  | string | unfinished => rfl

/-- The literal of an illegal lexeme is its text. -/
theorem Spelled.literal_of_illegal {lexeme : Lexeme}
    (spelled : lexeme.Spelled) (illegal : lexeme.kind = .illegal) :
    lexeme.literal.toList = lexeme.text := by
  cases spelled with
  | word | integer | float | symbol => rfl
  | stray | unfinished => exact String.toList_ofList
  | string => cases illegal

/-- A lexeme stays the longest one in front of a new line, unless it is a string left open. -/
theorem IsLongest.append_newline {lexeme : Lexeme} {source : List Char}
    (longest : lexeme.IsLongest source) (closed : ¬ lexeme.IsUnfinished) (more : List Char) :
    lexeme.IsLongest (source ++ '\n' :: more) := by
  rcases List.exists_cons_of_ne_nil longest.ne_nil with ⟨char, others, text⟩
  rcases longest with ⟨spelled, ⟨rest, rfl⟩, longest⟩
  by_cases quote : lexeme.text.head? = some '"'
  · rcases (spelled.isUnfinished_or quote).resolve_left closed with ⟨pieces, rfl⟩
    rw [List.append_assoc]
    refine isLongest_of_first? (spelled.layoutLength _) ?_
    rw [quoted_append]
    exact congrArg some (string_texts pieces _)
  · refine ⟨spelled, ⟨rest ++ '\n' :: more, by rw [List.append_assoc]⟩, ?_⟩
    intro other otherSpelled begins
    by_cases within : other.text.length ≤ (lexeme.text ++ rest).length
    · exact longest other otherSpelled
        (List.prefix_of_prefix_length_le begins (List.prefix_append _ _) within)
    · -- What goes past the new line is a string, and so is all that begins with its character.
      have whole : lexeme.text ++ rest ++ ['\n'] <+: lexeme.text ++ rest ++ '\n' :: more :=
        ⟨more, List.append_assoc _ _ _⟩
      have longer : (lexeme.text ++ rest ++ ['\n']).length ≤ other.text.length := by
        rw [List.length_append]
        exact Nat.lt_of_not_le within
      rcases List.prefix_of_prefix_length_le whole begins longer with ⟨behind, covers⟩
      have newline : '\n' ∈ other.text := by simp [← covers]
      have otherQuote := otherSpelled.head?_of_newline newline
      rw [← covers, text] at otherQuote
      rw [text] at quote
      exact absurd otherQuote quote

end Lexeme

theorem endsLine_append_newline {text : List Char}
    (ends : endsLine text = true) (more : List Char) :
    endsLine (text ++ '\n' :: more) = true := by
  cases text with
  | nil => rfl
  | cons => exact ends

namespace IsLayout

/-- Layout stays layout when a new line comes behind what follows. -/
theorem append_newline {text rest : List Char}
    (layout : IsLayout text rest) (more : List Char) :
    IsLayout text (rest ++ '\n' :: more) := by
  induction layout with
  | none rest => exact .none _
  | blank isBlank later induction => exact .blank isBlank induction
  | comment oneLine ends later induction =>
      refine .comment oneLine ?_ induction
      rw [← List.append_assoc]
      exact endsLine_append_newline ends more

/-- Layout at the end of a text and layout behind a new line make up layout. -/
theorem join {closing text rest : List Char}
    (layout : IsLayout closing []) (later : IsLayout text rest) :
    IsLayout (closing ++ '\n' :: text) rest := by
  generalize ended : ([] : List Char) = behind at layout
  induction layout with
  | none => exact .blank rfl later
  | blank isBlank _ induction => exact .blank isBlank (induction ended)
  | @comment body inner _ oneLine ends _ induction =>
      subst ended
      rw [List.append_nil] at ends
      rw [List.cons_append, List.append_assoc]
      refine .comment oneLine ?_ (induction rfl)
      rw [List.append_assoc]
      exact endsLine_append_newline ends _

end IsLayout

/-! ## Tokens further down -/

/-- A token so many lines further down. -/
def Token.below (lines : Nat) (token : Token) : Token :=
  { token with line := token.line + lines }

/-- Whether a token is a string that is not closed. -/
def Token.IsUnfinished (token : Token) : Prop :=
  token.kind = .illegal ∧ token.literal.toList.head? = some '"'

instance (token : Token) : Decidable token.IsUnfinished :=
  inferInstanceAs (Decidable (token.kind = .illegal ∧ token.literal.toList.head? = some '"'))

/-- Behind a new line columns count from the start, and lines go on. -/
theorem Token.behind_newline (kind : Kind) (literal : String) (before text : List Char) :
    behind kind literal (before ++ '\n' :: text) =
      (behind kind literal text).below (lineAfter before) := by
  have line : lineAfter (before ++ '\n' :: text) = lineAfter text + lineAfter before := by
    simp only [lineAfter, List.count_append, List.count_cons_self]
    omega
  have column : columnAfter (before ++ '\n' :: text) = columnAfter text := by
    rw [columnAfter, columnAfter, List.reverse_append, List.reverse_cons, List.append_assoc,
      List.takeWhile_append]
    split
    · rename_i whole
      have all := (List.takeWhile_prefix (· != '\n')).eq_of_length whole
      have stops : (['\n'] ++ before.reverse).takeWhile (· != '\n') = [] := rfl
      rw [all, stops, List.append_nil]
    · rfl
  rw [behind, line, column]
  rfl

/-- Tiles behind a new line have their tokens further down. -/
theorem Tile.tokens_newline (before text : List Char) (tiles : List Tile) :
    tokens (before ++ '\n' :: text) tiles =
      (tokens text tiles).map (Token.below (lineAfter before)) := by
  induction tiles generalizing text with
  | nil => rfl
  | cons tile tiles induction =>
      rw [tokens, tokens, List.append_assoc, List.cons_append, Token.behind_newline,
        List.append_assoc, List.cons_append, induction]
      rfl

namespace Tiles

/-- Layout and a new line in front of a text are passed over with the layout of the text. -/
theorem newline {closing other otherClosing : List Char} {tiles : List Tile}
    (layout : IsLayout closing []) (tiling : Tiles other tiles otherClosing) :
    ∃ all allClosing, Tiles (closing ++ '\n' :: other) all allClosing ∧
      ∀ before, Tile.tokens before all = Tile.tokens (before ++ closing ++ ['\n']) tiles := by
  cases tiling with
  | closing last => exact ⟨[], _, .closing (layout.join last), fun _ => rfl⟩
  | @tile tile rest _ tiles inner longest later =>
      refine ⟨⟨closing ++ '\n' :: tile.layout, tile.lexeme⟩ :: tiles, otherClosing, ?_, ?_⟩
      · have joined : Tiles (Tile.text ⟨closing ++ '\n' :: tile.layout, tile.lexeme⟩ ++ rest) _ _ :=
          .tile (layout.join inner) longest later
        simpa [Tile.text] using joined
      · intro before
        simp [Tile.tokens, Tile.text]

/-- The tiles of joined texts are those of the first text and then those of the second. -/
theorem join {source closing other otherClosing : List Char} {tiles others : List Tile}
    (tiling : Tiles source tiles closing)
    (closed : ∀ tile ∈ tiles, ¬ tile.lexeme.IsUnfinished)
    (otherTiling : Tiles other others otherClosing) :
    ∃ all allClosing, Tiles (source ++ '\n' :: other) all allClosing ∧
      ∀ before, Tile.tokens before all =
        Tile.tokens before tiles ++ Tile.tokens (before ++ source ++ ['\n']) others := by
  induction tiling with
  | closing layout => exact otherTiling.newline layout
  | @tile tile rest closing tiles layout longest later induction =>
      rw [List.forall_mem_cons] at closed
      rcases induction closed.2 with ⟨all, allClosing, joined, tokens⟩
      refine ⟨tile :: all, allClosing, ?_, ?_⟩
      · rw [List.append_assoc]
        refine .tile ?_ ?_ joined
        · rw [← List.append_assoc]
          exact layout.append_newline other
        · rw [← List.append_assoc]
          exact longest.append_newline closed.1 other
      · intro before
        rw [Tile.tokens, tokens, Tile.tokens, List.append_assoc before]
        rfl

/-- A string left open is among the tokens of a text as it is among the lexemes. -/
theorem isUnfinished_of_mem {source closing : List Char} {tiles : List Tile}
    (tiling : Tiles source tiles closing) {tile : Tile} (member : tile ∈ tiles)
    (unfinished : tile.lexeme.IsUnfinished) (before : List Char) :
    ∃ token ∈ Tile.tokens before tiles, token.IsUnfinished := by
  induction tiling generalizing before with
  | closing => cases member
  | @tile first rest closing tiles layout longest later induction =>
      rcases List.mem_cons.mp member with rfl | member
      · refine ⟨_, List.mem_cons_self, unfinished.1, ?_⟩
        have literal := longest.spelled.literal_of_illegal unfinished.1
        exact literal ▸ unfinished.2
      · rcases induction member (before ++ first.text) with ⟨token, inside, isUnfinished⟩
        exact ⟨token, List.mem_cons_of_mem _ inside, isUnfinished⟩

end Tiles

/--
Texts that a new line joins have the tokens of the first one without its end token and then those of
the second one further down, if no string is left open in the first one.
-/
theorem tokenize_append_newline {source : String} (other : String)
    (closed : ∀ token ∈ tokenize source, ¬ token.IsUnfinished) :
    tokenize (source ++ "\n" ++ other) =
      (tokenize source).dropLast ++
        (tokenize other).map (Token.below (lineAfter source.toList)) := by
  rcases Tiles.exists_tiles source.toList with ⟨tiles, closing, tiling⟩
  rcases Tiles.exists_tiles other.toList with ⟨others, otherClosing, otherTiling⟩
  have closedTiles : ∀ tile ∈ tiles, ¬ tile.lexeme.IsUnfinished := by
    intro tile member unfinished
    rcases tiling.isUnfinished_of_mem member unfinished [] with ⟨token, inside, isUnfinished⟩
    refine closed token ?_ isUnfinished
    rw [tiling.tokenize]
    exact List.mem_append_left _ inside
  rcases tiling.join closedTiles otherTiling with ⟨all, allClosing, joined, tokens⟩
  have text : (source ++ "\n" ++ other).toList = source.toList ++ '\n' :: other.toList := by
    simp
  rw [← text] at joined
  rw [joined.tokenize, tokens, tiling.tokenize, otherTiling.tokenize, List.dropLast_concat,
    List.map_append, List.append_assoc, text, List.nil_append,
    Tile.tokens_newline source.toList [], Token.behind_newline]
  rfl

/-! ## Any number of texts -/

/-- The tokens of a text without the end. -/
def withoutEnd (tokens : List Token) : List Token :=
  tokens.filter fun token => token.kind != .endOfInput

/-- The end of a text is its last token, and the only one of its kind. -/
theorem dropLast_tokenize (source : String) :
    (tokenize source).dropLast = withoutEnd (tokenize source) := by
  rcases Tiles.exists_tiles source.toList with ⟨tiles, closing, tiling⟩
  have notEnd : ∀ token ∈ Tile.tokens [] tiles, (token.kind != .endOfInput) = true :=
    fun token member => bne_iff_ne.mpr (tiling.ne_endOfInput [] token member)
  rw [tiling.tokenize, List.dropLast_concat, withoutEnd, List.filter_append,
    List.filter_eq_self.mpr notEnd]
  exact (List.append_nil _).symm

/-- The number of lines that texts take up, each with a new line behind it. -/
def linesOf (texts : List String) : Nat :=
  texts.length + (texts.flatMap String.toList).count '\n'

theorem linesOf_cons (text : String) (texts : List String) :
    linesOf (text :: texts) = lineAfter text.toList + linesOf texts := by
  simp only [linesOf, lineAfter, List.length_cons, List.flatMap_cons, List.count_append]
  omega

theorem Token.below_comp_below (lines more : Nat) :
    below more ∘ below lines = below (more + lines) := by
  funext token
  simp only [below, Function.comp_apply, Token.mk.injEq, true_and, and_true]
  omega

/-- Nothing is moved down behind no text. -/
theorem Token.map_below_linesOf_nil (tokens : List Token) :
    tokens.map (below (linesOf [])) = tokens := by
  have same : below (linesOf []) = id := funext fun token => by simp [below, linesOf]
  rw [same, List.map_id]

/-- The tokens of texts that new lines join, without the ends of the texts. -/
def tokensOfLines (texts : List String) : List Token :=
  texts.zipIdx.flatMap fun (text, index) =>
    (withoutEnd (tokenize text)).map (Token.below (linesOf (texts.take index)))

theorem tokensOfLines_cons (text : String) (texts : List String) :
    tokensOfLines (text :: texts) =
      withoutEnd (tokenize text) ++
        (tokensOfLines texts).map (Token.below (lineAfter text.toList)) := by
  rw [tokensOfLines, List.zipIdx_cons, List.flatMap_cons, List.zipIdx_succ, List.flatMap_map,
    tokensOfLines, List.map_flatMap]
  simp only [List.take_zero, Token.map_below_linesOf_nil, List.take_succ_cons, linesOf_cons,
    List.map_map, Token.below_comp_below]

/--
Texts that are joined by new lines, with no string left open in any but the last, have the tokens of
each text without its end, and in the end those of the last one.  Every token keeps its kind, its
literal and its column, and is moved down by one line for each text in front of its own and for each
new line in these.
-/
theorem tokenize_lines (texts : List String) (last : String)
    (closed : ∀ text ∈ texts, ∀ token ∈ tokenize text, ¬ token.IsUnfinished) :
    tokenize (String.intercalate "\n" (texts ++ [last])) =
      tokensOfLines texts ++ (tokenize last).map (Token.below (linesOf texts)) := by
  induction texts with
  | nil =>
      rw [List.nil_append, String.intercalate_singleton, Token.map_below_linesOf_nil]
      rfl
  | cons text texts induction =>
      rw [List.forall_mem_cons] at closed
      rw [List.cons_append, String.intercalate_cons_of_ne_nil (by simp),
        tokenize_append_newline _ closed.1, induction closed.2, dropLast_tokenize,
        tokensOfLines_cons, linesOf_cons, List.map_append, List.map_map, List.append_assoc,
        Token.below_comp_below]

/-- A string of two lines, a comment, and what would go on with either if it could. -/
theorem tokenize_lines_string :
    (∀ text ∈ ["\"a\nb\"", "1. # c"], ∀ token ∈ tokenize text, ¬ token.IsUnfinished) ∧
      tokenize (String.intercalate "\n" (["\"a\nb\"", "1. # c"] ++ ["2 = \"d"])) =
        [⟨.string, "a\nb", 1, 1⟩, ⟨.integer, "1", 3, 1⟩, ⟨.illegal, ".", 3, 2⟩,
          ⟨.integer, "2", 4, 1⟩, ⟨.assign, "=", 4, 3⟩, ⟨.illegal, "\"d", 4, 5⟩,
          ⟨.endOfInput, "", 4, 7⟩] := by
  have closed : ∀ text ∈ ["\"a\nb\"", "1. # c"], ∀ token ∈ tokenize text,
      ¬ token.IsUnfinished := by
    decide
  exact ⟨closed, (tokenize_lines _ _ closed).trans (by decide)⟩

end Jet
