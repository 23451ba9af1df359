import Jet.Proofs.Grammar.Vocabulary
import Jet.Proofs.Token.Tiling
import Mathlib.Data.List.Forall2
import Mathlib.Data.Prod.Lex

/-!
# The order of the problems

A problem names the first of the tokens on which a statement got stuck, or the end behind them.
Reading goes on with fewer tokens than these, or with none, even where the statement was given up
one token earlier: what is skipped is at least the token that the cursor was on.  So the tokens that
a later statement gets stuck on are the last of those that an earlier one got stuck on, and since
the tokens of a text stand one in front of the other, the problems are reported in the order of
their places.
-/

namespace Jet

/-- Where a token stands; what counts first is its line. -/
def Token.position (token : Token) : ℤ ×ₗ ℤ :=
  toLex (token.line, token.column)

theorem Token.Precedes.position_lt {token other : Token}
    (precedes : token.Precedes other) :
    token.position < other.position :=
  Prod.Lex.toLex_lt_toLex.mpr precedes

namespace Parser

variable {tokens stuck place later : List Token} {finish : Token}

/-- Reading goes on behind the token that could not be accepted, or with that token. -/
theorem recover_suffix_stuck
    (suffix : stuck <:+ tokens) (cause : Cause) :
    recover tokens cause stuck <:+ stuck := by
  refine List.suffix_of_suffix_length_le (recover_suffix tokens cause stuck) suffix ?_
  have fewer := length_skip_le (braceBalance (tokens.take (reached tokens cause stuck)))
    (tokens.drop (reached tokens cause stuck))
  have cursor : tokens.length - stuck.length - 1 ≤ reached tokens cause stuck := by
    unfold reached
    split <;> omega
  have within := suffix.length_le
  rw [← recover, List.length_drop] at fewer
  omega

/--
The tokens on which the statements of a program got stuck, one after the other.  The induction is on
the turns, each of which leaves some of the last tokens.
-/
theorem exists_stuck_of_program {fuel : Nat} {reading : Reading}
    (parsed : program finish fuel tokens = .ok reading) :
    ∃ places : List (List Token),
      reading.problems.map Problem.token = places.map (·.headD finish) ∧
        (∀ place ∈ places, place <:+ tokens) ∧
        places.Pairwise fun place later => later <:+ place := by
  induction fuel generalizing tokens reading with
  | zero =>
      cases parsed
      exact ⟨[], rfl, nofun, .nil⟩
  | succ fuel induction =>
      cases tokens with
      | nil =>
          cases parsed
          exact ⟨[], rfl, nofun, .nil⟩
      | cons token rest =>
          have stays := statement_stays (expression_stays maxNesting) (token :: rest)
          rcases program_cases parsed with
            ⟨_, read⟩ |
            ⟨_, ⟨tree, others, later, first, read, rfl⟩ | ⟨cause, stuck, later, first, read, rfl⟩⟩
          · rcases induction read with ⟨places, same, within, ordered⟩
            refine ⟨places, same, fun place member => ?_, ordered⟩
            exact (within place member).trans (List.suffix_cons token rest)
          · rw [first] at stays
            rcases induction read with ⟨places, same, within, ordered⟩
            exact ⟨places, same, fun place member => (within place member).trans stays, ordered⟩
          · rw [first] at stays
            have left := recover_suffix_stuck stays cause
            rcases induction read with ⟨places, same, within, ordered⟩
            have behind : ∀ place ∈ places, place <:+ stuck := fun place member =>
              (within place member).trans left
            refine ⟨stuck :: places, congrArg (stuck.headD finish :: ·) same, ?_,
              ordered.cons behind⟩
            exact List.forall_mem_cons.mpr
              ⟨stays, fun place member => (behind place member).trans stays⟩

/-- What comes first of some last tokens is one of all tokens, or their end. -/
theorem headD_mem
    (suffix : place <:+ tokens) :
    place.headD finish ∈ tokens ++ [finish] := by
  cases place with
  | nil => exact List.mem_append_right _ List.mem_cons_self
  | cons token rest => exact List.mem_append_left _ (suffix.subset List.mem_cons_self)

/-- Of tokens that stand one in front of the other, fewer begin further behind. -/
theorem position_headD_le
    (ordered : (tokens ++ [finish]).Pairwise Token.Precedes)
    (within : place <:+ tokens) (behind : later <:+ place) :
    (place.headD finish).position ≤ (later.headD finish).position := by
  cases place with
  | nil =>
      rw [List.eq_nil_of_suffix_nil behind]
  | cons token rest =>
      rcases List.suffix_cons_iff.mp behind with rfl | behind
      · exact le_rfl
      · have inner : (token :: rest ++ [finish]).Pairwise Token.Precedes := by
          rcases within with ⟨front, rfl⟩
          rw [List.append_assoc] at ordered
          exact (List.pairwise_append.mp ordered).2.1
        exact ((List.pairwise_cons.mp inner).1 _ (headD_mem behind)).position_lt.le

/-- The problems of tokens that stand one in front of the other are reported in their order. -/
theorem program_problems_ordered {fuel : Nat} {reading : Reading}
    (parsed : program finish fuel tokens = .ok reading)
    (ordered : (tokens ++ [finish]).Pairwise Token.Precedes) :
    (∀ token ∈ reading.problems.map Problem.token, token ∈ tokens ++ [finish]) ∧
      (reading.problems.map Problem.token).Pairwise fun token later =>
        token.position ≤ later.position := by
  rcases exists_stuck_of_program parsed with ⟨places, same, within, behind⟩
  rw [same]
  refine ⟨List.forall_mem_map.mpr fun place member => headD_mem (within place member), ?_⟩
  refine List.pairwise_map.mpr (behind.imp_of_mem fun member _ suffix => ?_)
  exact position_headD_le ordered (within _ member) suffix

end Parser

/-- A text is read as the tokens in front of its end, each of which precedes those behind it. -/
theorem exists_program_of_source (source : String) :
    ∃ reading tokens finish, parseSource source = .ok reading ∧
      tokenize source = tokens ++ [finish] ∧ finish.kind = .endOfInput ∧
        (tokens ++ [finish]).Pairwise Token.Precedes ∧
          Parser.program finish tokens.length tokens = .ok reading := by
  rcases parseSource_eq_ok source with ⟨reading, parsed⟩
  rcases Tiles.exists_tiles source.toList with ⟨tiles, closing, tiling⟩
  have read := parsed
  rw [parseSource, tiling.tokenize,
    Parser.parse_append_end_of_noEnd (tiling.ne_endOfInput []) rfl] at read
  exact ⟨reading, _, _, parsed, tiling.tokenize, rfl, tiling.pairwise_precedes [], read⟩

/--
Every message that reports a problem of a text begins with the line and the column of one of its
tokens, and the messages stand in the order of these.
-/
theorem parseSource_errors_ordered (source : String) :
    ∃ reading places, parseSource source = .ok reading ∧
      List.Forall₂ (fun message token => token ∈ tokenize source ∧
          ∃ wording, message =
            "line " ++ toString token.line ++ ", column " ++ toString token.column ++ ": " ++
              wording)
        reading.errors places ∧
      places.Pairwise fun token later => token.position ≤ later.position := by
  rcases exists_program_of_source source with
    ⟨reading, tokens, finish, parsed, tokenized, _, precedes, read⟩
  rcases Parser.program_problems_ordered read precedes with ⟨among, ordered⟩
  refine ⟨reading, reading.problems.map Problem.token, parsed, ?_, ordered⟩
  rw [Reading.errors, List.forall₂_map_left_iff, List.forall₂_map_right_iff, List.forall₂_same]
  refine fun problem member => ⟨?_, problem.cause.wording problem.token, rfl⟩
  rw [tokenized]
  exact among _ (List.mem_map_of_mem member)

end Jet
