import Jet.Proofs.Grammar.Completeness
import Jet.Proofs.Grammar.Soundness
import Jet.Proofs.Grammar.Vocabulary
import Jet.Proofs.Token.Joining

/-!
# Programs one behind the other

A semicolon ends a program as the end of the text does.  So the spelling of one program, a semicolon
and the spelling of another make up a spelling of the statements of both, and two texts with a line
between them that holds only a semicolon are read as these statements, if there are no problems in
either text.  The tokens of the second text stand further down there, which no spelling depends on.
-/

namespace Jet

variable {nesting : Nat} {tokens : List Token}

open Jet.Parser

namespace Spells

/-- What tokens spell does not depend on where they stand. -/
theorem moved {phrase : Phrase} (lines : Nat)
    (spelled : Spells phrase nesting tokens) :
    Spells phrase nesting (tokens.map (Token.below lines)) := by
  -- Kinds and literals stay, so that each rule applies as it did.
  induction spelled with
  | atom reads => exact .atom reads
  | unary operator operand tight induction =>
      rename_i token
      have same : (token.below lines).kind.isUnary = true := operator
      have step := Spells.unary same induction tight
      exact step
  | group opens inner closes induction =>
      rw [List.map_cons, List.map_append]
      exact .group opens induction closes
  | choice begins inner induction => exact .choice begins induction
  | function begins opens parameters closes body namesInduction bodyInduction =>
      rw [List.map_cons, List.map_cons, List.map_append, List.map_cons]
      exact .function begins opens namesInduction closes bodyInduction
  | array opens elements closes induction =>
      rw [List.map_cons, List.map_append]
      exact .array opens induction closes
  | hash opens entries closes induction =>
      rw [List.map_cons, List.map_append]
      exact .hash opens induction closes
  | binary left operator leftTight right rightTight leftInduction rightInduction =>
      rename_i token
      rw [List.map_append, List.map_cons]
      have same : (token.below lines).kind.isBinary = true := operator
      have step := leftInduction.binary same leftTight rightInduction rightTight
      exact step
  | assign target operator value targetInduction induction =>
      rw [List.map_append, List.map_cons]
      exact .assign targetInduction operator induction
  | call callee tight opens arguments closes calleeInduction induction =>
      rw [List.map_append, List.map_cons, List.map_append]
      exact .call calleeInduction tight opens induction closes
  | index collection tight opens position closes collectionInduction induction =>
      rw [List.map_append, List.map_cons, List.map_append]
      exact .index collectionInduction tight opens induction closes
  | conditional opens condition closes consequence alternative induction blockInduction
      otherInduction =>
      rw [List.map_cons, List.map_append, List.map_cons, List.map_append]
      exact .conditional opens induction closes blockInduction otherInduction
  | elseBlock begins inner induction => exact .elseBlock begins induction
  | elseIf begins goesOn inner induction => exact .elseIf begins goesOn induction
  | block opens inner closes induction =>
      rw [List.map_cons, List.map_append]
      exact .block opens induction closes
  | bind begins named equals value induction =>
      rename_i word name sign
      have sameWord : (word.below lines).kind = .letWord := begins
      have sameName : (name.below lines).kind = .identifier := named
      have sameSign : (sign.below lines).kind = .assign := equals
      have step := Spells.bind sameWord sameName sameSign induction
      exact step
  | returnNothing begins => exact .returnNothing begins
  | returnValue begins value induction => exact .returnValue begins induction
  | expression value induction => exact .expression induction
  | semicolon stray others induction => exact .semicolon stray induction
  | someStatements first apart others firstInduction induction =>
      rename_i tokens _ _
      rw [List.map_append]
      refine .someStatements firstInduction ?_ induction
      cases tokens <;> exact apart
  | someItems first others firstInduction induction =>
      rw [List.map_append]
      exact .someItems firstInduction induction
  | someMoreItems separates first others firstInduction induction =>
      rw [List.map_cons, List.map_append]
      exact .someMoreItems separates firstInduction induction
  | lastPair key separates value keyInduction induction =>
      rw [List.map_append, List.map_cons]
      exact .lastPair keyInduction separates induction
  | somePairs key separates value goesOn others keyInduction induction othersInduction =>
      rw [List.map_append, List.map_cons, List.map_append, List.map_cons]
      exact .somePairs keyInduction separates induction goesOn othersInduction
  | someNames named others induction =>
      rename_i name
      have same : (name.below lines).kind = .identifier := named
      have step := Spells.someNames same induction
      exact step
  | someMoreNames separates named others induction =>
      rename_i comma name
      have sameComma : (comma.below lines).kind = .comma := separates
      have sameName : (name.below lines).kind = .identifier := named
      have step := Spells.someMoreNames sameComma sameName induction
      exact step
  | noAlternative => exact .noAlternative
  | noStatements => exact .noStatements
  | noItems => exact .noItems
  | noMoreItems => exact .noMoreItems
  | noPairs => exact .noPairs
  | noNames => exact .noNames
  | noMoreNames => exact .noMoreNames

/-- Programs with a semicolon between them are spelled one behind the other. -/
theorem append_semicolon {trees others : Block} {otherNesting : Nat} {rest : List Token}
    {separator : Token}
    (first : Spells (.statements trees) nesting tokens)
    (separates : separator.kind = .semicolon)
    (second : Spells (.statements others) otherNesting rest) :
    Spells (.statements (trees ++ others)) (max nesting otherNesting)
      (tokens ++ separator :: rest) := by
  generalize same : Phrase.statements trees = phrase at first
  induction first generalizing trees with
  | noStatements =>
      cases same
      rw [Nat.zero_max]
      exact second.semicolon separates
  | semicolon stray _ induction => exact .semicolon stray (induction same)
  | @someStatements tree _ _ tokens _ _ statement apart _ _ induction =>
      cases same
      rw [List.cons_append, Nat.max_assoc, List.append_assoc]
      refine .someStatements statement ?_ (induction rfl)
      cases tokens with
      | nil => exact .inl separates
      | cons => exact apart
  | _ => cases same

end Spells

/-! ## Texts -/

/-- The tokens of a text are those in front of the end, and one end token. -/
theorem tokenize_eq_beforeEnd (source : String) :
    ∃ finish, finish.kind = .endOfInput ∧
      tokenize source = beforeEnd (tokenize source) ++ [finish] := by
  rcases Tiles.exists_tiles source.toList with ⟨tiles, closing, tiling⟩
  refine ⟨.behind .endOfInput "" source.toList, rfl, ?_⟩
  rw [tiling.tokenize, beforeEnd_append (tiling.ne_endOfInput []) rfl]

/-- Texts with a line between them that holds a semicolon have the tokens of both around it. -/
theorem tokenize_append_semicolon {source : String} (other : String)
    (closed : ∀ token ∈ tokenize source, ¬ token.IsUnfinished) :
    ∃ separator lines, separator.kind = .semicolon ∧
      tokenize (source ++ "\n;\n" ++ other) =
        (tokenize source).dropLast ++ separator :: (tokenize other).map (Token.below lines) := by
  have line : tokenize ";" = [⟨.semicolon, ";", 1, 1⟩, ⟨.endOfInput, "", 1, 2⟩] := rfl
  have lineClosed : ∀ token ∈ tokenize ";", ¬ token.IsUnfinished := by
    rw [line]
    simp [Token.IsUnfinished]
  have twice (lines more : Nat) :
      Token.below more ∘ Token.below lines = Token.below (lines + more) := by
    funext token
    simp [Token.below, Int.add_assoc]
  have text : source ++ "\n;\n" ++ other = source ++ "\n" ++ (";" ++ "\n" ++ other) := by
    rw [← String.toList_inj]
    simp
  refine ⟨Token.below (lineAfter source.toList) ⟨.semicolon, ";", 1, 1⟩,
    lineAfter ";".toList + lineAfter source.toList, rfl, ?_⟩
  rw [text, tokenize_append_newline _ closed, tokenize_append_newline _ lineClosed, line,
    List.map_append, List.map_map, twice]
  rfl

/--
Texts without problems, with a line between them that holds a semicolon, are read as the statements
of both.
-/
theorem parseSource_append_semicolon {source other : String} {program otherProgram : Program}
    (parsed : parseSource source = .ok ⟨program, []⟩)
    (otherParsed : parseSource other = .ok ⟨otherProgram, []⟩) :
    parseSource (source ++ "\n;\n" ++ other) =
      .ok ⟨⟨program.statements ++ otherProgram.statements⟩, []⟩ := by
  have sound {source : String} {program : Program}
      (parsed : parseSource source = .ok ⟨program, []⟩) :
      ∃ nesting, nesting ≤ maxNesting ∧
        Spells (.statements program.statements) nesting (beforeEnd (tokenize source)) := by
    rw [parseSource, parse_eq_program] at parsed
    exact program_sound (Nat.le_refl _) parsed rfl
  rcases sound parsed with ⟨nesting, fits, spelled⟩
  rcases sound otherParsed with ⟨otherNesting, otherFits, otherSpelled⟩
  rcases tokenize_eq_beforeEnd source with ⟨finish, isEnd, tokens⟩
  rcases tokenize_eq_beforeEnd other with ⟨otherFinish, otherIsEnd, otherTokens⟩
  have closed : ∀ token ∈ tokenize source, ¬ token.IsUnfinished := by
    rw [tokens]
    refine List.forall_mem_append.mpr ⟨fun token member unfinished => ?_, ?_⟩
    · exact (spelled.tidy.usable token member).1 unfinished.1
    · rw [List.forall_mem_singleton, Token.IsUnfinished, isEnd]
      rintro ⟨⟨⟩, _⟩
  rcases tokenize_append_semicolon other closed with ⟨separator, lines, separates, joined⟩
  rw [tokens, List.dropLast_concat, otherTokens, List.map_append] at joined
  have whole := spelled.append_semicolon separates (otherSpelled.moved lines)
  have noEnd := fun token member => (whole.tidy.usable token member).2.1
  have ending : headKind ([otherFinish].map (Token.below lines)) = .endOfInput := otherIsEnd
  rw [parseSource, joined, ← List.cons_append, ← List.append_assoc]
  rw [← beforeEnd_append noEnd ending] at whole
  exact whole.settlesParse.1 (Nat.max_le.mpr ⟨fits, otherFits⟩)

end Jet
