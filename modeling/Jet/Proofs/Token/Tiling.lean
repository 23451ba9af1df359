import Jet.Proofs.Token.Longest

/-!
# Tilings of a text

A text is layout and lexemes by turns, with layout at the end.  Layout is a run of blanks and of
comments that go on to the end of their line or of the text, and each lexeme is the longest one at
its place, so that there is exactly one such tiling of every text.

The tokens of a text are the lexemes of its tiling, each at the line and the column that the text in
front of it leads to, and then one end token.  For this the cursor is followed from one place to the
next: behind some text it stands at the line and the column that this text leads to.
-/

namespace Jet

/-! ## Layout -/

/-- Whether a text is over or goes on with a new line. -/
def endsLine (text : List Char) : Bool :=
  text.head?.all (· == '\n')

/-- Whether a text is layout in front of a rest. -/
inductive IsLayout : List Char → List Char → Prop where
  | none (rest : List Char) : IsLayout [] rest
  | blank {char : Char} {text rest : List Char}
      (isBlank : isBlank char = true)
      (later : IsLayout text rest) :
      IsLayout (char :: text) rest
  | comment {body text rest : List Char}
      (oneLine : '\n' ∉ body)
      (ends : endsLine (text ++ rest) = true)
      (later : IsLayout text rest) :
      IsLayout ('#' :: (body ++ text)) rest

namespace Lexeme

theorem layoutLength_comment {body : List Char}
    (oneLine : '\n' ∉ body) (rest : List Char) :
    layoutLength true (body ++ rest) = body.length + layoutLength true rest := by
  induction body with
  | nil => rw [List.nil_append, List.length_nil, Nat.zero_add]
  | cons char body induction =>
      rw [List.mem_cons, not_or] at oneLine
      have goesOn : (char != '\n') = true := bne_iff_ne.mpr (Ne.symm oneLine.1)
      rw [List.cons_append, layoutLength, goesOn, induction oneLine.2, List.length_cons]
      omega

/-- Where a line ends, so does a comment. -/
theorem layoutLength_of_endsLine {text : List Char}
    (ends : endsLine text = true) :
    layoutLength true text = layoutLength false text := by
  cases text with
  | nil => rfl
  | cons char rest =>
      cases beq_iff_eq.mp (show (char == '\n') = true from ends)
      rfl

end Lexeme

open Jet.Lexeme in
/-- Layout in front of a text that has none is passed over as a whole, and nothing else. -/
theorem IsLayout.layoutLength {text rest : List Char}
    (layout : IsLayout text rest) (none : layoutLength false rest = 0) :
    layoutLength false (text ++ rest) = text.length := by
  induction layout with
  | none rest => exact none
  | blank isBlank later induction =>
      rw [List.cons_append, Jet.layoutLength, if_pos isBlank, induction none, List.length_cons]
  | @comment body text rest oneLine ends later induction =>
      have begins : Jet.layoutLength false ('#' :: (body ++ text ++ rest)) =
          Jet.layoutLength true (body ++ text ++ rest) + 1 := rfl
      rw [List.cons_append, begins, List.append_assoc, layoutLength_comment oneLine,
        layoutLength_of_endsLine ends, induction none, List.length_cons, List.length_append]

/-- What is passed over is layout in front of a text that has none. -/
theorem exists_isLayout (source : List Char) :
    ∃ text rest, source = text ++ rest ∧ IsLayout text rest ∧ layoutLength false rest = 0 := by
  suffices both : (∃ text rest, source = text ++ rest ∧ IsLayout text rest ∧
        layoutLength false rest = 0) ∧
      ∃ body text rest, source = body ++ (text ++ rest) ∧ '\n' ∉ body ∧
        endsLine (text ++ rest) = true ∧ IsLayout text rest ∧ layoutLength false rest = 0 from
    both.1
  -- The second part is what becomes of the text inside of a comment.
  induction source with
  | nil => exact ⟨⟨[], [], rfl, .none [], rfl⟩, [], [], [], rfl, nofun, rfl, .none [], rfl⟩
  | cons char source induction =>
      rcases induction with ⟨⟨text, rest, equal, layout, ended⟩, inside⟩
      rcases inside with ⟨body, more, behind, equalInside, oneLine, ends, layoutInside, endedInside⟩
      constructor
      · by_cases blank : isBlank char = true
        · exact ⟨char :: text, rest, by rw [equal]; rfl, .blank blank layout, ended⟩
        · by_cases comment : char = '#'
          · subst comment
            refine ⟨'#' :: (body ++ more), behind, ?_, .comment oneLine ends layoutInside,
              endedInside⟩
            rw [equalInside, List.cons_append, List.append_assoc]
          · refine ⟨[], char :: source, rfl, .none _, ?_⟩
            rw [layoutLength, if_neg blank, if_neg (by rwa [beq_iff_eq])]
      · by_cases newline : char = '\n'
        · subst newline
          exact ⟨[], '\n' :: text, rest, by rw [equal]; rfl, nofun, rfl, .blank rfl layout, ended⟩
        · refine ⟨char :: body, more, behind, by rw [equalInside]; rfl, ?_, ends, layoutInside,
            endedInside⟩
          exact List.not_mem_cons_of_ne_of_not_mem (Ne.symm newline) oneLine

/-! ## Tilings -/

/-- A lexeme with the layout in front of it. -/
structure Tile where
  layout : List Char
  lexeme : Lexeme

/-- The source text of a tile. -/
def Tile.text (tile : Tile) : List Char :=
  tile.layout ++ tile.lexeme.text

/-- Tiles and the layout behind them make up a text, and each lexeme is the longest at its place. -/
inductive Tiles : List Char → List Tile → List Char → Prop where
  | closing {closing : List Char}
      (layout : IsLayout closing []) :
      Tiles closing [] closing
  | tile {tile : Tile} {rest closing : List Char} {tiles : List Tile}
      (layout : IsLayout tile.layout (tile.lexeme.text ++ rest))
      (longest : tile.lexeme.IsLongest (tile.lexeme.text ++ rest))
      (later : Tiles rest tiles closing) :
      Tiles (tile.text ++ rest) (tile :: tiles) closing

namespace Lexeme

theorem IsLongest.ne_nil {lexeme : Lexeme} {source : List Char}
    (longest : lexeme.IsLongest source) :
    lexeme.text ≠ [] := by
  have comesFirst := longest.first?
  cases source with
  | nil => cases comesFirst
  | cons char rest =>
      rcases (begins_of_first? comesFirst).covers with ⟨others, covers⟩
      rw [covers]
      exact List.cons_ne_nil char others

end Lexeme

namespace Tiles

/-- A text is made of its tiles and the layout behind them, with nothing left out. -/
theorem source_eq {source closing : List Char} {tiles : List Tile}
    (tiling : Tiles source tiles closing) :
    source = tiles.flatMap Tile.text ++ closing := by
  induction tiling with
  | closing => rfl
  | tile layout longest later induction =>
      rw [List.flatMap_cons, List.append_assoc, ← induction]

/-- Layout in front of a lexeme ends where the lexeme begins. -/
theorem layoutLength_tile {tile : Tile} {rest : List Char}
    (layout : IsLayout tile.layout (tile.lexeme.text ++ rest))
    (longest : tile.lexeme.IsLongest (tile.lexeme.text ++ rest)) :
    layoutLength false (tile.text ++ rest) = tile.layout.length := by
  rw [Tile.text, List.append_assoc]
  exact layout.layoutLength (longest.spelled.layoutLength rest)

theorem layoutLength_closing {closing : List Char}
    (layout : IsLayout closing []) :
    layoutLength false closing = closing.length := by
  have length := layout.layoutLength rfl
  rwa [List.append_nil] at length

theorem layout_lt_text {tile : Tile} {rest : List Char}
    (longest : tile.lexeme.IsLongest (tile.lexeme.text ++ rest)) :
    tile.layout.length < (tile.text ++ rest).length := by
  have covers := List.length_pos_iff.mpr longest.ne_nil
  simp only [Tile.text, List.length_append]
  omega

/-- A text without layout in front is over or begins with a lexeme. -/
theorem eq_nil_or_isLongest {source : List Char}
    (ended : layoutLength false source = 0) :
    source = [] ∨ ∃ lexeme : Lexeme, lexeme.IsLongest source := by
  cases source with
  | nil => exact .inl rfl
  | cons char rest =>
      have first : ∃ lexeme, Lexeme.first? (char :: rest) = some lexeme := by
        rw [Lexeme.first?]
        repeat' split
        all_goals exact ⟨_, rfl⟩
      rcases first with ⟨lexeme, comesFirst⟩
      exact .inr ⟨lexeme, Lexeme.isLongest_of_first? ended comesFirst⟩

/-- Every text has a tiling. -/
theorem exists_tiles (source : List Char) :
    ∃ tiles closing, Tiles source tiles closing := by
  rcases exists_isLayout source with ⟨layout, rest, rfl, isLayout, ended⟩
  rcases eq_nil_or_isLongest ended with rfl | ⟨lexeme, longest⟩
  · rw [List.append_nil]
    exact ⟨[], layout, .closing isLayout⟩
  · rcases longest.begins with ⟨more, rfl⟩
    have shorter : more.length < (layout ++ (lexeme.text ++ more)).length := by
      have covers := List.length_pos_iff.mpr longest.ne_nil
      simp only [List.length_append]
      omega
    rcases exists_tiles more with ⟨tiles, closing, later⟩
    have tiling : Tiles (Tile.text ⟨layout, lexeme⟩ ++ more) _ _ := .tile isLayout longest later
    refine ⟨⟨layout, lexeme⟩ :: tiles, closing, ?_⟩
    rwa [← List.append_assoc]
termination_by source.length

/-- Two tiles with rests that make up the same text are the same. -/
theorem tile_unique {tile other : Tile} {rest otherRest : List Char}
    (layout : IsLayout tile.layout (tile.lexeme.text ++ rest))
    (longest : tile.lexeme.IsLongest (tile.lexeme.text ++ rest))
    (otherLayout : IsLayout other.layout (other.lexeme.text ++ otherRest))
    (otherLongest : other.lexeme.IsLongest (other.lexeme.text ++ otherRest))
    (same : tile.text ++ rest = other.text ++ otherRest) :
    tile = other ∧ rest = otherRest := by
  have length := layoutLength_tile layout longest
  rw [same, layoutLength_tile otherLayout otherLongest] at length
  rcases tile with ⟨text, lexeme⟩
  rcases other with ⟨otherText, otherLexeme⟩
  simp only [Tile.text, List.append_assoc] at same
  rcases List.append_inj same length.symm with ⟨rfl, behind⟩
  rw [← behind] at otherLongest
  cases longest.unique otherLongest
  exact ⟨rfl, List.append_cancel_left behind⟩

/-- A text has one tiling only. -/
theorem unique {source closing otherClosing : List Char} {tiles others : List Tile}
    (tiling : Tiles source tiles closing) (otherTiling : Tiles source others otherClosing) :
    others = tiles ∧ otherClosing = closing := by
  -- Layout and a tile differ in how much of the text is passed over in front of a lexeme.
  have apart {tile : Tile} {rest : List Char} {closing : List Char}
      (longest : tile.lexeme.IsLongest (tile.lexeme.text ++ rest))
      (layout : IsLayout tile.layout (tile.lexeme.text ++ rest)) (closes : IsLayout closing [])
      (same : closing = tile.text ++ rest) : False := by
    have shorter := layout_lt_text longest
    rw [← layoutLength_tile layout longest, ← same, layoutLength_closing closes] at shorter
    exact Nat.lt_irrefl _ shorter
  induction tiling generalizing others with
  | closing closes =>
      cases otherTiling with
      | closing => exact ⟨rfl, rfl⟩
      | tile layout longest => exact (apart longest layout closes rfl).elim
  | @tile tile rest closing tiles layout longest later induction =>
      generalize same : tile.text ++ rest = source at otherTiling
      cases otherTiling with
      | closing closes => exact (apart longest layout closes same.symm).elim
      | tile otherLayout otherLongest otherLater =>
          rcases tile_unique layout longest otherLayout otherLongest same with ⟨rfl, rfl⟩
          rcases induction otherLater with ⟨rfl, rfl⟩
          exact ⟨rfl, rfl⟩

/-- Nothing is made up of no tile and no layout. -/
theorem eq_nil_of_nil {tiles : List Tile} {closing : List Char}
    (tiling : Tiles [] tiles closing) :
    tiles = [] ∧ closing = [] :=
  unique (.closing (.none [])) tiling

/-- A string that is not closed is the last tile, and no layout follows it. -/
theorem eq_nil_of_illegal {source closing : List Char} {front back : List Tile} {tile : Tile}
    (tiling : Tiles source (front ++ tile :: back) closing)
    (illegal : tile.lexeme.kind = .illegal) (quote : tile.lexeme.text.head? = some '"') :
    back = [] ∧ closing = [] := by
  induction front generalizing source with
  | nil =>
      cases tiling with
      | tile layout longest later =>
          have whole := longest.eq_of_illegal illegal quote
          cases List.append_cancel_left ((List.append_nil _).trans whole)
          exact eq_nil_of_nil later
  | cons first front induction =>
      cases tiling with
      | tile layout longest later => exact induction later

end Tiles

/-! ## Positions -/

/-- The line behind a text. -/
def lineAfter (text : List Char) : Nat :=
  1 + text.count '\n'

/-- The column behind a text. -/
def columnAfter (text : List Char) : Nat :=
  1 + (text.reverse.takeWhile (· != '\n')).length

/-- A token behind a text. -/
def Token.behind (kind : Kind) (literal : String) (text : List Char) : Token :=
  ⟨kind, literal, lineAfter text, columnAfter text⟩

/-- The tokens of tiles behind a text. -/
def Tile.tokens : List Char → List Tile → List Token
  | _, [] => []
  | before, tile :: tiles =>
      .behind tile.lexeme.kind tile.lexeme.literal (before ++ tile.layout) ::
        tokens (before ++ tile.text) tiles

namespace Cursor

/-- The place in a text behind some of it. -/
def behind (before rest : List Char) : Cursor :=
  ⟨rest, before.length, lineAfter before, columnAfter before⟩

theorem step_behind (before : List Char) (char : Char) (rest : List Char) :
    step (behind before (char :: rest)) = behind (before ++ [char]) rest := by
  by_cases newline : char = '\n'
  · subst newline
    simp [step, behind, lineAfter, columnAfter, Nat.add_assoc]
  · have line : lineAfter (before ++ [char]) = lineAfter before := by
      simp [lineAfter, newline]
    have column : columnAfter (before ++ [char]) = columnAfter before + 1 := by
      simp [columnAfter, newline, Nat.add_assoc]
    rw [behind, behind, line, column, List.length_append]
    unfold step
    split
    · contradiction
    · rename_i equal
      cases equal
      exact absurd rfl newline
    · rename_i equal
      cases equal
      rfl

theorem advance_behind (before text rest : List Char) :
    advance text.length (behind before (text ++ rest)) = behind (before ++ text) rest := by
  induction text generalizing before with
  | nil => rw [List.append_nil]; rfl
  | cons char text induction =>
      rw [List.length_cons, advance, List.cons_append, step_behind, induction, List.append_assoc]
      rfl

/-- The next token is that of the tile that comes next. -/
theorem next_behind {tile : Tile} {rest : List Char}
    (layout : IsLayout tile.layout (tile.lexeme.text ++ rest))
    (longest : tile.lexeme.IsLongest (tile.lexeme.text ++ rest)) (before : List Char) :
    next (behind before (tile.text ++ rest)) =
      (.behind tile.lexeme.kind tile.lexeme.literal (before ++ tile.layout),
        behind (before ++ tile.text) rest) := by
  have start : skipLayout (behind before (tile.text ++ rest)) =
      behind (before ++ tile.layout) (tile.lexeme.text ++ rest) := by
    have length := Tiles.layoutLength_tile layout longest
    rw [skipLayout, ← advance_behind, ← List.append_assoc, ← Tile.text, ← length]
    rfl
  have first : Lexeme.first? (behind (before ++ tile.layout) (tile.lexeme.text ++ rest)).rest =
      some tile.lexeme := longest.first?
  rw [next, start, first]
  dsimp only
  rw [advance_behind, List.append_assoc]
  rfl

/-- Behind the last tile the next token is the end of the text. -/
theorem next_behind_closing {closing : List Char}
    (layout : IsLayout closing []) (before : List Char) :
    next (behind before closing) =
      (.behind .endOfInput "" (before ++ closing), behind (before ++ closing) []) := by
  have start : skipLayout (behind before closing) = behind (before ++ closing) [] := by
    have length := Tiles.layoutLength_closing layout
    rw [← advance_behind, List.append_nil, skipLayout, ← length]
    rfl
  rw [next, start]
  rfl

/-- The tokens that are taken from a text are those of its tiles, and then the end of the text. -/
theorem take_behind {source closing : List Char} {tiles : List Tile}
    (tiling : Tiles source tiles closing) {count : Nat} (enough : tiles.length < count)
    (before : List Char) :
    (take count (behind before source)).1 =
      Tile.tokens before tiles ++ [.behind .endOfInput "" (before ++ source)] := by
  induction tiling generalizing count before with
  | closing layout =>
      rcases Nat.exists_eq_add_one_of_ne_zero (Nat.ne_zero_of_lt enough) with ⟨count, rfl⟩
      rw [take, next_behind_closing layout]
      rfl
  | @tile tile rest closing tiles layout longest later induction =>
      rcases Nat.exists_eq_add_one_of_ne_zero (Nat.ne_zero_of_lt enough) with ⟨count, rfl⟩
      have notEnd : (Token.behind tile.lexeme.kind tile.lexeme.literal
          (before ++ tile.layout)).kind ≠ .endOfInput := Lexeme.notEnd_of_first? longest.first?
      rw [take, next_behind layout longest]
      dsimp only
      rw [if_neg notEnd]
      dsimp only
      rw [induction (Nat.lt_of_succ_lt_succ enough), Tile.tokens, List.append_assoc]
      rfl

end Cursor

namespace Tiles

theorem length_le {source closing : List Char} {tiles : List Tile}
    (tiling : Tiles source tiles closing) :
    tiles.length ≤ source.length := by
  induction tiling with
  | closing => exact Nat.zero_le _
  | tile layout longest later induction =>
      have shorter := layout_lt_text longest
      have covers := List.length_pos_iff.mpr longest.ne_nil
      simp only [Tile.text, List.length_cons, List.length_append] at *
      omega

/-- The tokens of a text are those of its tiles, and then the end of the text. -/
theorem tokenize {source : String} {closing : List Char} {tiles : List Tile}
    (tiling : Tiles source.toList tiles closing) :
    tokenize source = Tile.tokens [] tiles ++ [.behind .endOfInput "" source.toList] :=
  Cursor.take_behind tiling (Nat.lt_succ_of_le tiling.length_le) []

/-- Only the end of a text is an end token. -/
theorem ne_endOfInput {source closing : List Char} {tiles : List Tile}
    (tiling : Tiles source tiles closing) (before : List Char) :
    ∀ token ∈ Tile.tokens before tiles, token.kind ≠ .endOfInput := by
  induction tiling generalizing before with
  | closing => exact fun _ member => absurd member List.not_mem_nil
  | tile layout longest later induction =>
      refine List.forall_mem_cons.mpr ⟨?_, induction _⟩
      exact Lexeme.notEnd_of_first? longest.first?

end Tiles

/-! ## The order of the tokens -/

/-- Whether a token stands in front of another. -/
def Token.Precedes (token other : Token) : Prop :=
  token.line < other.line ∨ token.line = other.line ∧ token.column < other.column

/-- What stands behind more of a text stands on a later line or further to the right. -/
theorem Token.precedes_behind {text : List Char} (nonempty : text ≠ []) (before : List Char)
    (kind otherKind : Kind) (literal otherLiteral : String) :
    (behind kind literal before).Precedes (behind otherKind otherLiteral (before ++ text)) := by
  by_cases newline : '\n' ∈ text
  · left
    have more := List.count_pos_iff.mpr newline
    simp only [behind, lineAfter, List.count_append]
    omega
  · right
    have none := List.count_eq_zero_of_not_mem newline
    have all : ∀ char ∈ text.reverse, (char != '\n') = true := by
      intro char member
      exact bne_iff_ne.mpr fun equal => newline (equal ▸ List.mem_reverse.mp member)
    have some := List.length_pos_iff.mpr nonempty
    simp only [behind, lineAfter, columnAfter, List.count_append, List.reverse_append,
      List.takeWhile_append_of_pos all, List.length_append, List.length_reverse, none]
    omega

/-- The tokens of tiles behind a text, and the token at the end of what the tiles make up. -/
def Tile.allTokens (before : List Char) (tiles : List Tile) (source : List Char) : List Token :=
  tokens before tiles ++ [.behind .endOfInput "" (before ++ source)]

theorem Tile.allTokens_cons (before : List Char) (tile : Tile) (tiles : List Tile)
    (rest : List Char) :
    allTokens before (tile :: tiles) (tile.text ++ rest) =
      .behind tile.lexeme.kind tile.lexeme.literal (before ++ tile.layout) ::
        allTokens (before ++ tile.text) tiles rest := by
  rw [allTokens, allTokens, tokens, List.append_assoc]
  rfl

namespace Tiles

/-- The tokens of a text behind another stand behind the other one, and perhaps more. -/
theorem exists_behind {before source closing : List Char} {tiles : List Tile} {token : Token}
    (tiling : Tiles source tiles closing) (member : token ∈ Tile.allTokens before tiles source) :
    ∃ kind literal text, token = .behind kind literal (before ++ text) := by
  induction tiling generalizing before with
  | closing => exact ⟨_, _, _, List.mem_singleton.mp member⟩
  | tile layout longest later induction =>
      rw [Tile.allTokens_cons] at member
      rcases List.mem_cons.mp member with first | member
      · exact ⟨_, _, _, first⟩
      · rcases induction member with ⟨kind, literal, text, rfl⟩
        exact ⟨kind, literal, _, by rw [List.append_assoc]⟩

/-- The tokens of a text stand one in front of the other. -/
theorem pairwise_precedes {source closing : List Char} {tiles : List Tile}
    (tiling : Tiles source tiles closing) (before : List Char) :
    (Tile.allTokens before tiles source).Pairwise Token.Precedes := by
  induction tiling generalizing before with
  | closing => exact List.pairwise_singleton _ _
  | @tile tile rest closing tiles layout longest later induction =>
      rw [Tile.allTokens_cons]
      refine List.pairwise_cons.mpr ⟨fun token member => ?_, induction _⟩
      rcases later.exists_behind member with ⟨kind, literal, text, rfl⟩
      have nonempty : tile.lexeme.text ++ text ≠ [] :=
        List.append_ne_nil_of_left_ne_nil longest.ne_nil _
      have precedes := Token.precedes_behind nonempty (before ++ tile.layout) tile.lexeme.kind kind
        tile.lexeme.literal literal
      rwa [Tile.text, List.append_assoc, List.append_assoc, ← List.append_assoc before]

end Tiles

/--
Every text is tiled in exactly one way by layout and longest lexemes, with nothing left out, and a
string that is not closed is the whole rest of the text.  The tokens are the lexemes with their
kinds and literals at the lines and columns where they begin, none of which is an end token, and
then one end token at the line and column of the end of the text.  So each token stands in front of
all that follow it.
-/
theorem tokenize_tiling (source : String) :
    ∃ tiles closing, Tiles source.toList tiles closing ∧
      (∀ others otherClosing, Tiles source.toList others otherClosing →
        others = tiles ∧ otherClosing = closing) ∧
      source.toList = tiles.flatMap Tile.text ++ closing ∧
      (∀ front tile back, tiles = front ++ tile :: back → tile.lexeme.kind = .illegal →
        tile.lexeme.text.head? = some '"' → back = [] ∧ closing = []) ∧
      tokenize source = Tile.tokens [] tiles ++ [.behind .endOfInput "" source.toList] ∧
      (∀ token ∈ Tile.tokens [] tiles, token.kind ≠ .endOfInput) ∧
      (tokenize source).Pairwise Token.Precedes := by
  rcases Tiles.exists_tiles source.toList with ⟨tiles, closing, tiling⟩
  refine ⟨tiles, closing, tiling, fun _ _ => tiling.unique, tiling.source_eq, ?_, tiling.tokenize,
    tiling.ne_endOfInput [], ?_⟩
  · rintro front tile back rfl illegal quote
    exact tiling.eq_nil_of_illegal illegal quote
  · rw [tiling.tokenize]
    exact tiling.pairwise_precedes []

end Jet
