import Jet.Proofs.Grammar.Soundness
import Mathlib.Data.List.TakeWhile

/-!
# Where reading goes on

A program is read in turns, each of which begins at some token and goes past a semicolon, reads a
statement, or reports one that fails.  A failed statement is left behind the first semicolon or
closing brace, from the token on at which the cursor stood, at which none of the braces of the
statement is open.

`ComesTo` says that a turn begins at a token, and what was read in front of it.  Nothing else is
handed on from one turn to the next: whatever was read so far, and however it failed, the rest is
read as the remaining tokens are read alone.
-/

namespace Jet

/-- One reading behind another. -/
def Reading.append (front later : Reading) : Reading where
  program := ⟨front.program.statements ++ later.program.statements⟩
  problems := front.problems ++ later.problems

namespace Parser

/-! ## Boundaries -/

/--
Whether a statement that begins at one token may be left behind another: at a semicolon or a closing
brace, if no brace is open in the tokens from the first to this one.
-/
structure IsBoundary (tokens : List Token) (start index : Nat) : Prop where
  ends : ∃ token ∈ tokens[index]?, token.kind = .semicolon ∨ token.kind = .rightBrace
  closed : braceBalance ((tokens.take (index + 1)).drop start) ≤ 0

/-- Whether a statement is left at an index if it failed with the cursor at another one. -/
inductive ResumesAt (tokens : List Token) (start cursor : Nat) : Nat → Prop where
  /-- Behind the first boundary from the cursor on. -/
  | behind {index : Nat}
      (reached : cursor ≤ index)
      (boundary : IsBoundary tokens start index)
      (first : ∀ earlier, cursor ≤ earlier → earlier < index → ¬ IsBoundary tokens start earlier) :
      ResumesAt tokens start cursor (index + 1)
  /-- At the end of the tokens, if there is no boundary from the cursor on. -/
  | atEnd
      (none : ∀ index, cursor ≤ index → ¬ IsBoundary tokens start index) :
      ResumesAt tokens start cursor tokens.length

/--
How many tokens of a failed statement lie in front of the cursor.  The cursor stands on the token
that could not be accepted, but a token that had to be of another kind is looked at while the cursor
is on the one in front of it.  Only the closing brace of a block is missed on the end itself.
-/
def passed (tokens : List Token) : Cause → List Token → Nat
  | .expected .rightBrace, [] => tokens.length
  | .expected _, stuck => tokens.length - stuck.length - 1
  | _, stuck => tokens.length - stuck.length

variable {tokens stuck rest : List Token} {start cursor next : Nat} {cause : Cause}

instance (index : Nat) : Decidable (IsBoundary tokens start index) :=
  decidable_of_iff
    ((∃ token ∈ tokens[index]?, token.kind = .semicolon ∨ token.kind = .rightBrace) ∧
      braceBalance ((tokens.take (index + 1)).drop start) ≤ 0)
    ⟨fun both => ⟨both.1, both.2⟩, fun boundary => ⟨boundary.ends, boundary.closed⟩⟩

/-- There is only one place to go on. -/
theorem ResumesAt.unique {other : Nat}
    (resumes : ResumesAt tokens start cursor next)
    (resumesOther : ResumesAt tokens start cursor other) :
    next = other := by
  cases resumes with
  | behind reached boundary first =>
      cases resumesOther with
      | behind otherReached otherBoundary otherFirst =>
          rename_i index otherIndex
          rcases Nat.lt_trichotomy index otherIndex with before | same | after
          · exact absurd boundary (otherFirst index reached before)
          · exact congrArg (· + 1) same
          · exact absurd otherBoundary (first otherIndex otherReached after)
      | atEnd none => exact absurd boundary (none _ reached)
  | atEnd none =>
      cases resumesOther with
      | behind reached boundary => exact absurd boundary (none _ reached)
      | atEnd => rfl

/-- A boundary is one of the tokens. -/
theorem IsBoundary.lt_length {index : Nat}
    (boundary : IsBoundary tokens start index) :
    index < tokens.length := by
  rcases boundary.ends with ⟨token, found, _⟩
  exact (List.getElem?_eq_some_iff.mp found).1

theorem ResumesAt.le_length
    (resumes : ResumesAt tokens start cursor next) :
    next ≤ tokens.length := by
  cases resumes with
  | behind _ boundary => exact boundary.lt_length
  | atEnd => exact Nat.le_refl _

/-- One token more changes the balance by its step. -/
theorem braceBalance_take_succ {token : Token}
    (after : start ≤ cursor) (found : tokens[cursor]? = some token) :
    braceBalance ((tokens.take (cursor + 1)).drop start) =
      braceBalance ((tokens.take cursor).drop start) + token.kind.braceStep := by
  rcases List.getElem?_eq_some_iff.mp found with ⟨inside, rfl⟩
  rw [List.take_succ_eq_append_getElem inside, List.drop_append_of_le_length, braceBalance_append,
    braceBalance_cons, braceBalance_nil, Int.add_zero]
  rw [List.length_take]
  omega

/-- What is no boundary may be passed over. -/
theorem ResumesAt.step
    (resumes : ResumesAt tokens start (cursor + 1) next)
    (goesOn : ¬ IsBoundary tokens start cursor) :
    ResumesAt tokens start cursor next := by
  have passOver {index : Nat}
      (reached : cursor ≤ index) (boundary : IsBoundary tokens start index) :
      cursor + 1 ≤ index := by
    refine Nat.lt_of_le_of_ne reached ?_
    rintro rfl
    exact goesOn boundary
  cases resumes with
  | behind reached boundary first =>
      refine .behind (Nat.le_of_succ_le reached) boundary fun earlier reached before boundary => ?_
      exact first earlier (passOver reached boundary) before boundary
  | atEnd none =>
      exact .atEnd fun index reached boundary => none index (passOver reached boundary) boundary

/--
Skipping goes on behind the first boundary from the cursor on.  The induction is on the tokens from
there, with the balance of those that the cursor has passed.
-/
theorem skip_resumes (after : start ≤ cursor) (within : cursor ≤ tokens.length) :
    ∃ next, ResumesAt tokens start cursor next ∧
      skip (braceBalance ((tokens.take cursor).drop start)) (tokens.drop cursor) =
        tokens.drop next := by
  generalize ahead : tokens.drop cursor = others
  induction others generalizing cursor with
  | nil =>
      have finished : tokens.length ≤ cursor := List.drop_eq_nil_iff.mp ahead
      refine ⟨tokens.length, .atEnd fun index reached boundary => ?_, ?_⟩
      · have inside := boundary.lt_length
        omega
      · rw [List.drop_length, skip]
  | cons token others induction =>
      have found : tokens[cursor]? = some token := by
        rw [← List.head?_drop, ahead]
        rfl
      have behind : tokens.drop (cursor + 1) = others := by
        rw [← List.tail_drop, ahead]
        rfl
      have inside := (List.getElem?_eq_some_iff.mp found).1
      have balance := braceBalance_take_succ after found
      rw [skip]
      split
      · rename_i closes
        rw [← balance] at closes
        have boundary : IsBoundary tokens start cursor := ⟨⟨token, found, closes.2⟩, closes.1⟩
        refine ⟨cursor + 1, .behind (Nat.le_refl _) boundary fun earlier reached before => ?_,
          behind.symm⟩
        exact absurd before (Nat.not_lt.mpr reached)
      · rename_i goesOn
        rw [← balance] at goesOn ⊢
        rcases induction (Nat.le_succ_of_le after) inside behind with ⟨next, resumes, skipped⟩
        refine ⟨next, resumes.step fun boundary => ?_, skipped⟩
        rcases boundary with ⟨⟨other, same, ends⟩, closed⟩
        cases found.symm.trans same
        exact goesOn ⟨closed, ends⟩

theorem reached_le_length (tokens : List Token) (cause : Cause) (stuck : List Token) :
    reached tokens cause stuck ≤ tokens.length := by
  unfold reached
  split <;> omega

/-- The cursor is where skipping begins, unless a closing brace is missed on the end. -/
theorem passed_eq_reached
    (notMissed : ¬ (cause = .expected .rightBrace ∧ stuck = [])) :
    passed tokens cause stuck = reached tokens cause stuck := by
  unfold passed
  split
  · exact absurd ⟨rfl, rfl⟩ notMissed
  · rfl
  · rename_i notExpected _
    cases cause with
    | expected kind => exact absurd rfl (notExpected kind)
    | _ => rfl

/-- Then skipping begins on the last token, but nothing is left behind that one either. -/
theorem recover_of_missed (tokens : List Token) :
    recover tokens (.expected .rightBrace) [] = [] := by
  have skipped := length_skip_le
    (braceBalance (tokens.take (tokens.length - 1))) (tokens.drop (tokens.length - 1))
  rw [List.length_drop] at skipped
  rw [← List.length_eq_zero_iff]
  simp only [recover, reached, List.length_nil, Nat.sub_zero]
  omega

/-- A failed statement is left where it has to be. -/
theorem recover_resumes (within : start ≤ tokens.length) (cause : Cause) (stuck : List Token) :
    ∃ next, ResumesAt tokens start (start + passed (tokens.drop start) cause stuck) next ∧
      recover (tokens.drop start) cause stuck = tokens.drop next := by
  by_cases missed : cause = .expected .rightBrace ∧ stuck = []
  · rcases missed with ⟨rfl, rfl⟩
    refine ⟨tokens.length, .atEnd fun index reached boundary => ?_, ?_⟩
    · have inside := boundary.lt_length
      rw [passed, List.length_drop] at reached
      omega
    · rw [recover_of_missed, List.drop_length]
  · have inside := reached_le_length (tokens.drop start) cause stuck
    rw [List.length_drop] at inside
    rw [passed_eq_reached missed, recover, List.drop_drop, List.take_drop]
    exact skip_resumes (Nat.le_add_right ..) (by omega)

/-! ## Turns -/

/-- What a turn that begins at an index reads, if no semicolon stands there. -/
def turn (tokens : List Token) (start : Nat) : Parsed (Stmt × List Token) :=
  statement (expression maxNesting) ((beforeEnd tokens).drop start)

/-- Whether a statement begins at an index: in front of the end, and not at a semicolon. -/
structure BeginsStatement (tokens : List Token) (start : Nat) : Prop where
  inside : start < (beforeEnd tokens).length
  noSemicolon : headKind ((beforeEnd tokens).drop start) ≠ .semicolon

/-- The problem of a statement that is given up in front of the stuck tokens. -/
def problemAt (tokens : List Token) (cause : Cause) (stuck : List Token) : Problem :=
  ⟨cause, stuck.headD (endToken tokens)⟩

/--
Whether a turn of the reading of a program begins at an index, with what was read in front of it.
-/
inductive ComesTo (tokens : List Token) : Nat → Reading → Prop where
  | begin : ComesTo tokens 0 ⟨⟨[]⟩, []⟩
  | semicolon {start : Nat} {front : Reading}
      (comes : ComesTo tokens start front)
      (stray : headKind ((beforeEnd tokens).drop start) = .semicolon) :
      ComesTo tokens (start + 1) front
  | statement {start next : Nat} {front : Reading} {tree : Stmt}
      (comes : ComesTo tokens start front)
      (begins : BeginsStatement tokens start)
      (parsed : turn tokens start = .ok (tree, (beforeEnd tokens).drop next))
      (within : next ≤ (beforeEnd tokens).length) :
      ComesTo tokens next (front.append ⟨⟨[tree]⟩, []⟩)
  | failure {start next : Nat} {front : Reading} {cause : Cause} {stuck : List Token}
      (comes : ComesTo tokens start front)
      (begins : BeginsStatement tokens start)
      (parsed : turn tokens start = .error (.failure cause stuck))
      (left : recover ((beforeEnd tokens).drop start) cause stuck = (beforeEnd tokens).drop next)
      (within : next ≤ (beforeEnd tokens).length) :
      ComesTo tokens next (front.append ⟨⟨[]⟩, [problemAt tokens cause stuck]⟩)

/-- The tokens in front of the end are the first of all. -/
theorem beforeEnd_isFront (tokens : List Token) : beforeEnd tokens <+: tokens :=
  List.takeWhile_prefix _

/-- Up to an index that is in front of the end, none of the tokens is an end. -/
theorem noEnd_of_mem_take (within : start ≤ (beforeEnd tokens).length) :
    ∀ token ∈ tokens.take start, isEnd token = false := by
  intro token member
  have sameFront : tokens.take start = (beforeEnd tokens).take start := by
    rcases beforeEnd_isFront tokens with ⟨others, split⟩
    conv => lhs; rw [← split, List.take_append_of_le_length within]
  rw [sameFront] at member
  simpa using List.mem_takeWhile_imp (List.mem_of_mem_take member)

/-- The tokens from an index on end where all of them end. -/
theorem beforeEnd_drop (within : start ≤ (beforeEnd tokens).length) :
    beforeEnd (tokens.drop start) = (beforeEnd tokens).drop start := by
  have inside : start ≤ tokens.length :=
    Nat.le_trans within (beforeEnd_isFront tokens).length_le
  have front : beforeEnd (tokens.take start ++ tokens.drop start) =
      tokens.take start ++ beforeEnd (tokens.drop start) :=
    List.takeWhile_append_of_pos fun token member => by
      simpa using noEnd_of_mem_take within token member
  rw [List.take_append_drop] at front
  rw [front, List.drop_left' (List.length_take_of_le inside)]

/-- As long as there are tokens to be read, their end is the same from an index on. -/
theorem endToken_drop (within : start < (beforeEnd tokens).length) :
    endToken (tokens.drop start) = endToken tokens := by
  have inside : start < tokens.length :=
    Nat.lt_of_lt_of_le within (beforeEnd_isFront tokens).length_le
  have noEnd : (tokens.take start).find? isEnd = none :=
    List.find?_eq_none.mpr fun token member => by
      simpa using noEnd_of_mem_take (Nat.le_of_lt within) token member
  have sameFound : (tokens.drop start).find? isEnd = tokens.find? isEnd := by
    conv => rhs; rw [← List.take_append_drop start tokens, List.find?_append, noEnd]
    rfl
  have sameImplied : impliedEnd (tokens.drop start) = impliedEnd tokens := by
    conv => rhs; rw [← List.take_append_drop start tokens]
    rw [List.drop_eq_getElem_cons inside, impliedEnd_append]
  rw [endToken, endToken, sameFound, sameImplied]

/-- The tokens from an index on are read alone as they are behind the others. -/
theorem parse_drop {fuel : Nat}
    (within : start ≤ (beforeEnd tokens).length)
    (bound : ((beforeEnd tokens).drop start).length ≤ fuel) :
    parse (tokens.drop start) =
      program (endToken tokens) fuel ((beforeEnd tokens).drop start) := by
  rw [parse_eq_program, beforeEnd_drop within]
  rcases Nat.lt_or_eq_of_le within with before | rfl
  · rw [endToken_drop before]
    exact program_fuel _ (Nat.le_refl _) bound
  · rw [List.drop_length, program_nil, program_nil]

theorem BeginsStatement.exists_cons (begins : BeginsStatement tokens start) :
    ∃ token rest, (beforeEnd tokens).drop start = token :: rest ∧ token.kind ≠ .semicolon := by
  have noSemicolon := begins.noSemicolon
  rw [List.drop_eq_getElem_cons begins.inside] at noSemicolon ⊢
  exact ⟨_, _, rfl, noSemicolon⟩

section

variable {front : Reading} {tree : Stmt}

/-- A turn at a semicolon goes past it. -/
theorem parse_semicolon
    (stray : headKind ((beforeEnd tokens).drop start) = .semicolon) :
    start + 1 ≤ (beforeEnd tokens).length ∧
      parse (tokens.drop start) = parse (tokens.drop (start + 1)) := by
  rcases exists_cons_of_headKind stray (by decide) with ⟨token, rest, ahead, isSemicolon⟩
  have inside : start < (beforeEnd tokens).length := by
    refine Nat.lt_of_not_le fun finished => ?_
    rw [List.drop_eq_nil_of_le finished] at ahead
    cases ahead
  have behind : (beforeEnd tokens).drop (start + 1) = rest := by
    rw [← List.tail_drop, ahead]
    rfl
  refine ⟨inside, ?_⟩
  rw [parse_drop (Nat.le_of_lt inside) (Nat.le_refl _), parse_drop inside (Nat.le_refl _), behind,
    ahead]
  exact program_of_semicolon isSemicolon

/-- A statement leaves the tokens from some index on. -/
theorem exists_drop_of_turn
    (parsed : turn tokens start = .ok (tree, rest)) :
    ∃ next ≤ (beforeEnd tokens).length, rest = (beforeEnd tokens).drop next := by
  have stays := statement_stays (expression_stays maxNesting) ((beforeEnd tokens).drop start)
  rw [← turn, parsed] at stays
  exact ⟨_, Nat.sub_le _ _, List.suffix_iff_eq_drop.mp (stays.trans (List.drop_suffix _ _))⟩

/-- A turn that reads a statement goes on with the tokens that the statement leaves. -/
theorem parse_statement
    (begins : BeginsStatement tokens start)
    (parsed : turn tokens start = .ok (tree, (beforeEnd tokens).drop next))
    (within : next ≤ (beforeEnd tokens).length) :
    parse (tokens.drop start) = (parse (tokens.drop next)).map (Reading.addStatement tree) := by
  have shorter := length_lt_of_statement parsed
  rcases begins.exists_cons with ⟨token, others, ahead, noSemicolon⟩
  rw [turn, ahead] at parsed
  rw [ahead] at shorter
  rw [parse_drop (Nat.le_of_lt begins.inside) (Nat.le_refl _), ahead, List.length_cons,
    program_of_ok noSemicolon parsed, parse_drop within (Nat.le_of_lt_succ shorter)]

/-- A turn that reports a statement goes on where the statement is left. -/
theorem parse_failure
    (begins : BeginsStatement tokens start)
    (parsed : turn tokens start = .error (.failure cause stuck))
    (left : recover ((beforeEnd tokens).drop start) cause stuck = (beforeEnd tokens).drop next)
    (within : next ≤ (beforeEnd tokens).length) :
    parse (tokens.drop start) =
      (parse (tokens.drop next)).map (Reading.addProblem (problemAt tokens cause stuck)) := by
  rcases begins.exists_cons with ⟨token, others, ahead, noSemicolon⟩
  rw [turn, ahead] at parsed
  rw [ahead] at left
  have shorter := length_recover_lt token others cause stuck
  rw [left] at shorter
  rw [parse_drop (Nat.le_of_lt begins.inside) (Nat.le_refl _), ahead, List.length_cons,
    program_of_failure noSemicolon parsed, left, parse_drop within (Nat.le_of_lt_succ shorter)]
  rfl

/-- What was read in front is not looked at again. -/
theorem ComesTo.parse_eq (comes : ComesTo tokens start front) :
    parse tokens = (parse (tokens.drop start)).map front.append := by
  induction comes with
  | begin =>
      rw [List.drop_zero]
      cases parse tokens <;> rfl
  | semicolon _ stray induction => rw [induction, (parse_semicolon stray).2]
  | statement _ begins parsed within induction =>
      rw [induction, parse_statement begins parsed within]
      rename_i next front tree _
      cases parse (tokens.drop next) with
      | error literal => rfl
      | ok later => simp [Except.map, Reading.append, Reading.addStatement]
  | failure _ begins parsed left within induction =>
      rw [induction, parse_failure begins parsed left within]
      rename_i next front cause stuck _
      cases parse (tokens.drop next) with
      | error literal => rfl
      | ok later => simp [Except.map, Reading.append, Reading.addProblem]

end

end Parser

open Jet.Parser

/--
Wherever the reading of a program has come to, it goes on as the tokens from there on are read
alone.  A statement that fails there is left behind the first boundary from the cursor on, or at the
end if there is none, and one that succeeds is left where it ends; in both cases the next turn
begins right there.
-/
theorem parse_resumes {tokens : List Token} {start : Nat} {front : Reading}
    (comes : ComesTo tokens start front) :
    parse tokens = (parse (tokens.drop start)).map front.append ∧
      (∀ cause stuck, BeginsStatement tokens start →
        turn tokens start = .error (.failure cause stuck) →
          ∃ next,
            ResumesAt (beforeEnd tokens) start
              (start + passed ((beforeEnd tokens).drop start) cause stuck) next ∧
            ComesTo tokens next (front.append ⟨⟨[]⟩, [problemAt tokens cause stuck]⟩) ∧
            parse (tokens.drop start) =
              (parse (tokens.drop next)).map
                (Reading.addProblem (problemAt tokens cause stuck))) ∧
      (∀ tree rest, BeginsStatement tokens start → turn tokens start = .ok (tree, rest) →
        ∃ next ≤ (beforeEnd tokens).length,
          rest = (beforeEnd tokens).drop next ∧
            ComesTo tokens next (front.append ⟨⟨[tree]⟩, []⟩) ∧
            parse (tokens.drop start) =
              (parse (tokens.drop next)).map (Reading.addStatement tree)) := by
  refine ⟨comes.parse_eq, fun cause stuck begins parsed => ?_, fun tree rest begins parsed => ?_⟩
  · rcases recover_resumes (Nat.le_of_lt begins.inside) cause stuck with ⟨next, resumes, left⟩
    exact ⟨next, resumes, .failure comes begins parsed left resumes.le_length,
      parse_failure begins parsed left resumes.le_length⟩
  · rcases exists_drop_of_turn parsed with ⟨next, within, rfl⟩
    exact ⟨next, within, rfl, .statement comes begins parsed within,
      parse_statement begins parsed within⟩

/--
The `let` without a name is given up at its first token; the semicolon inside the braces does not
end it, the closing brace does.  The name behind is read as if it stood there alone.
-/
theorem parse_resumes_behind_braces :
    ResumesAt
        [⟨.letWord, "let", 1, 1⟩, ⟨.assign, "=", 1, 5⟩, ⟨.leftBrace, "\x7b", 1, 7⟩,
          ⟨.semicolon, ";", 1, 8⟩, ⟨.rightBrace, "\x7d", 1, 9⟩, ⟨.identifier, "x", 1, 11⟩]
        0 0 5 ∧
      parse
          [⟨.letWord, "let", 1, 1⟩, ⟨.assign, "=", 1, 5⟩, ⟨.leftBrace, "\x7b", 1, 7⟩,
            ⟨.semicolon, ";", 1, 8⟩, ⟨.rightBrace, "\x7d", 1, 9⟩, ⟨.identifier, "x", 1, 11⟩] =
        (parse [⟨.identifier, "x", 1, 11⟩]).map
          (Reading.addProblem ⟨.expected .identifier, ⟨.assign, "=", 1, 5⟩⟩) := by
  generalize known :
    [(⟨.letWord, "let", 1, 1⟩ : Token), ⟨.assign, "=", 1, 5⟩, ⟨.leftBrace, "\x7b", 1, 7⟩,
      ⟨.semicolon, ";", 1, 8⟩, ⟨.rightBrace, "\x7d", 1, 9⟩, ⟨.identifier, "x", 1, 11⟩] = tokens
  have inFront : ResumesAt tokens 0 0 5 := by
    subst known
    exact .behind (Nat.zero_le 4) (by decide) (by decide)
  have begins : BeginsStatement tokens 0 := by
    subst known
    exact ⟨by decide, by decide⟩
  have failed : turn tokens 0 = .error (.failure (.expected .identifier) (tokens.drop 1)) := by
    subst known
    rfl
  rcases (parse_resumes .begin).2.1 _ _ begins failed with ⟨next, resumes, _, parsed⟩
  have same : next = 5 := by
    subst known
    exact resumes.unique inFront
  subst same known
  exact ⟨inFront, parsed⟩

end Jet
