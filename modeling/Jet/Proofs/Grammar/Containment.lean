import Jet.Proofs.Grammar.Soundness

/-!
# Problems stay where they are

A semicolon behind tokens whose braces match ends whatever stands in front of it, however ill formed
that is.

The parsers are run on some tokens alone, and on the same tokens with others behind them that begin
with a semicolon.  As long as no brace of the tokens is left open, no parser tells the semicolon
from the end of the input: it gives the same tree or the same failure, with the additional tokens
behind what it hands on.  Only a block would go past a semicolon, and a block is never open there.

What is skipped behind a failure ends in front of the additional tokens or right behind their
semicolon.  So the statements and the problems of the two parts are those of the whole, but for the
problems at the end of the first part, which are reported at the semicolon.
-/

namespace Jet

variable {α : Type} {tokens ending rest : List Token} {fuel count power longerFuel : Nat}
  {reading later : Reading} {change : Int}

theorem Kind.lowestPower_le_rightPower (kind : Kind) :
    lowestPower ≤ kind.rightPower := by
  cases kind <;> decide

/-- No brace goes on with an expression. -/
theorem Kind.braceStep_of_lowestPower_lt {kind : Kind}
    (goesOn : lowestPower < kind.power) :
    kind.braceStep = 0 := by
  cases kind <;> simp_all [power, lowestPower, braceStep]

namespace Parser

/-! ## Results with more tokens behind them -/

/-- What is left of some tokens behind so many or more of them, which have changed the balance. -/
structure Leaves (change : Int) (count : Nat) (tokens rest : List Token) : Prop where
  balance : braceBalance rest = braceBalance tokens + change
  shorter : rest.length + count ≤ tokens.length

/--
Two runs of a parser, the second one with more tokens at the end: they give the same tree or the
same failure, and the additional tokens stand behind what is handed on.
-/
def Agrees {α : Type} (ending : List Token) (leaves : List Token → Prop) :
    Parsed (α × List Token) → Parsed (α × List Token) → Prop
  | .ok (value, rest), longer => leaves rest ∧ longer = .ok (value, rest ++ ending)
  | .error (.failure cause stuck), longer => longer = fail cause (stuck ++ ending)
  | .error (.unreadableFloat literal), longer => longer = .error (.unreadableFloat literal)

theorem Agrees.ok {leaves : List Token → Prop} {value : α}
    (rest : List Token) (fine : leaves rest) :
    Agrees ending leaves (.ok (value, rest)) (.ok (value, rest ++ ending)) :=
  ⟨fine, rfl⟩

theorem Agrees.fail {leaves : List Token → Prop} {cause : Cause} (stuck : List Token) :
    Agrees ending leaves (fail cause stuck : Parsed (α × List Token))
      (fail cause (stuck ++ ending)) :=
  rfl

/-- Two steps agree if each of them does. -/
theorem Agrees.bind {β : Type} {middle leaves : List Token → Prop}
    {first longerFirst : Parsed (α × List Token)}
    {next longerNext : α × List Token → Parsed (β × List Token)}
    (agrees : Agrees ending middle first longerFirst)
    (nextAgrees : ∀ value rest, middle rest →
      Agrees ending leaves (next (value, rest)) (longerNext (value, rest ++ ending))) :
    Agrees ending leaves (first >>= next) (longerFirst >>= longerNext) := by
  match first with
  | .ok (value, rest) =>
      rcases agrees with ⟨fine, rfl⟩
      exact nextAgrees value rest fine
  | .error (.failure cause stuck) =>
      cases agrees
      exact .fail stuck
  | .error (.unreadableFloat literal) =>
      cases agrees
      rfl

theorem Agrees.mono {middle leaves : List Token → Prop}
    {result longer : Parsed (α × List Token)}
    (agrees : Agrees ending middle result longer)
    (stronger : ∀ rest, middle rest → leaves rest) :
    Agrees ending leaves result longer := by
  match result with
  | .ok (value, rest) => exact ⟨stronger rest agrees.1, agrees.2⟩
  | .error (.failure cause stuck) => exact agrees
  | .error (.unreadableFloat literal) => exact agrees

/-- What is left behind one token. -/
theorem Leaves.tail {token : Token} {kind : Kind} {change : Int}
    (known : token.kind = kind) (cancels : kind.braceStep + change = 0) :
    Leaves change 1 (token :: rest) rest := by
  refine ⟨?_, Nat.le_refl _⟩
  rw [braceBalance_cons, known]
  omega

/-- What comes first does so with more tokens at the end. -/
theorem headKind_append_eq {kind : Kind}
    (known : headKind tokens = kind) (notEnd : kind ≠ .endOfInput) (ending : List Token) :
    headKind (tokens ++ ending) = kind := by
  cases tokens with
  | nil => exact absurd known.symm notEnd
  | cons token rest => exact known

section

variable {ending : List Token} (separates : headKind ending = .semicolon)

include separates

/-- What does not come first does not do so with a semicolon in place of the end. -/
theorem headKind_append_ne {kind : Kind}
    (different : kind ≠ .semicolon) (other : headKind tokens ≠ kind) :
    headKind (tokens ++ ending) ≠ kind := by
  cases tokens with
  | nil =>
      rw [List.nil_append, separates]
      exact different.symm
  | cons token rest => exact other

theorem expect_agrees (kind : Kind) (change : Int)
    (fine : kind ≠ .semicolon ∧ kind.braceStep + change = 0) (tokens : List Token) :
    Agrees ending (Leaves change 1 tokens) (expect kind tokens)
      (expect kind (tokens ++ ending)) := by
  cases tokens with
  | nil =>
      rcases exists_cons_of_headKind separates (by decide) with
        ⟨separator, others, rfl, isSemicolon⟩
      rw [List.nil_append, expect, expect, if_neg (by rw [isSemicolon]; exact fine.1.symm)]
      exact .fail []
  | cons token rest =>
      rw [List.cons_append, expect, expect]
      split
      · rename_i matching
        exact .ok rest (.tail matching fine.2)
      · exact .fail (token :: rest)

theorem moreNames_agrees {fuel longerFuel : Nat} (tokens : List Token)
    (bound : tokens.length ≤ fuel) (longerBound : tokens.length ≤ longerFuel) :
    Agrees ending (Leaves 0 0 tokens) (moreNames fuel tokens)
      (moreNames longerFuel (tokens ++ ending)) := by
  induction fuel generalizing tokens longerFuel with
  | zero =>
      cases List.length_eq_zero_iff.mp (Nat.le_zero.mp bound)
      rw [moreNames_of_ne_comma (headKind_append_ne separates (by decide) (by decide))]
      exact .ok [] ⟨by omega, by omega⟩
  | succ fuel induction =>
      by_cases comma : headKind tokens = .comma
      · rcases exists_cons_of_headKind comma (by decide) with ⟨token, rest, rfl, comma⟩
        rcases Nat.exists_eq_add_one_of_ne_zero (Nat.ne_zero_of_lt longerBound) with ⟨longerFuel, rfl⟩
        obtain ⟨balance, shorter⟩ : Leaves 0 1 (token :: rest) rest := .tail comma rfl
        simp only [moreNames, List.cons_append, headKind_cons, List.tail_cons]
        split
        · refine (expect_agrees separates .identifier 0 (by decide) rest).bind
            fun name rest leaves => ?_
          rcases leaves with ⟨balance, shorter⟩
          refine (induction rest (by omega) (by omega)).bind
            fun others rest leaves => ?_
          rcases leaves with ⟨balance, shorter⟩
          exact .ok rest ⟨by omega, by omega⟩
        · contradiction
      · rw [moreNames_of_ne_comma comma,
          moreNames_of_ne_comma (headKind_append_ne separates (by decide) comma)]
        exact .ok tokens ⟨by omega, by omega⟩

theorem parameters_agrees (tokens : List Token) :
    Agrees ending (Leaves 0 1 tokens) (parameters tokens) (parameters (tokens ++ ending)) := by
  refine (expect_agrees separates .leftParen 0 (by decide) tokens).bind
    fun opening rest leaves => ?_
  rcases leaves with ⟨balance, shorter⟩
  dsimp only
  by_cases finished : headKind rest = .rightParen
  · rcases exists_cons_of_headKind finished (by decide) with ⟨closing, rest, rfl, closes⟩
    obtain ⟨balance, shorter⟩ : Leaves 0 1 (closing :: rest) rest := .tail closes rfl
    simp only [List.cons_append, headKind_cons, closes, List.tail_cons]
    exact .ok rest ⟨by omega, by omega⟩
  · have unfinished := headKind_append_ne separates (by decide) finished
    split
    · exact absurd ‹_› finished
    · refine (expect_agrees separates .identifier 0 (by decide) rest).bind
        fun name rest leaves => ?_
      rcases leaves with ⟨balance, shorter⟩
      refine (moreNames_agrees separates rest (Nat.le_refl _) (by simp)).bind
        fun others rest leaves => ?_
      rcases leaves with ⟨balance, shorter⟩
      refine (expect_agrees separates .rightParen 0 (by decide) rest).bind
        fun closing rest leaves => ?_
      rcases leaves with ⟨balance, shorter⟩
      exact .ok rest ⟨by omega, by omega⟩

end

/-- A parser of expressions that agrees on all tokens without an open brace. -/
def OperandAgrees (ending : List Token) (operand : Operand) : Prop :=
  ∀ power tokens, lowestPower ≤ power → braceBalance tokens ≤ 0 →
    Agrees ending (Leaves 0 1 tokens) (operand power tokens) (operand power (tokens ++ ending))

theorem OperandAgrees.lowest {operand : Operand}
    (operandAgrees : OperandAgrees ending operand)
    (tokens : List Token) (closed : braceBalance tokens ≤ 0) :
    Agrees ending (Leaves 0 1 tokens) (operand lowestPower tokens)
      (operand lowestPower (tokens ++ ending)) :=
  operandAgrees lowestPower tokens (Nat.le_refl _) closed

section

variable {ending : List Token} (separates : headKind ending = .semicolon) {operand : Operand}
    (operandAgrees : OperandAgrees ending operand)

include separates operandAgrees

theorem statement_agrees (tokens : List Token)
    (closed : braceBalance tokens ≤ 0) :
    Agrees ending (Leaves 0 1 tokens) (statement operand tokens)
      (statement operand (tokens ++ ending)) := by
  cases tokens with
  | nil =>
      simp only [statement, List.nil_append, headKind_nil, separates]
      refine (operandAgrees.lowest [] closed).bind fun value rest leaves => ?_
      exact .ok rest leaves
  | cons token rest =>
      simp only [statement, List.cons_append, headKind_cons, List.tail_cons]
      split
      · rename_i begins
        obtain ⟨balance, shorter⟩ : Leaves 0 1 (token :: rest) rest := .tail begins rfl
        refine (expect_agrees separates .identifier 0 (by decide) rest).bind
          fun name rest leaves => ?_
        rcases leaves with ⟨balance, shorter⟩
        refine (expect_agrees separates .assign 0 (by decide) rest).bind
          fun sign rest leaves => ?_
        rcases leaves with ⟨balance, shorter⟩
        refine (operandAgrees.lowest rest (by omega)).bind fun value rest leaves => ?_
        rcases leaves with ⟨balance, shorter⟩
        exact .ok rest ⟨by omega, by omega⟩
      · rename_i begins
        have leaves : Leaves 0 1 (token :: rest) rest := .tail begins rfl
        cases rest with
        | nil =>
            simp only [List.nil_append, headKind_nil, separates]
            exact .ok [] leaves
        | cons next rest =>
            simp only [List.cons_append, headKind_cons]
            split
            · exact .ok (next :: rest) leaves
            · exact .ok (next :: rest) leaves
            · exact .ok (next :: rest) leaves
            · rcases leaves with ⟨balance, shorter⟩
              refine (operandAgrees.lowest (next :: rest) (by omega)).bind
                fun value rest leaves => ?_
              rcases leaves with ⟨balance, shorter⟩
              exact .ok rest ⟨by omega, by omega⟩
      · refine (operandAgrees.lowest (token :: rest) closed).bind fun value rest leaves => ?_
        exact .ok rest leaves

/-- A block that is still open meets its closing brace before the additional tokens. -/
theorem statements_agrees {fuel longerFuel : Nat} (tokens : List Token)
    (bound : tokens.length < fuel) (longerBound : tokens.length < longerFuel)
    (opened : braceBalance tokens < 0) :
    Agrees ending (Leaves 1 1 tokens) (statements operand fuel tokens)
      (statements operand longerFuel (tokens ++ ending)) := by
  induction fuel generalizing tokens longerFuel with
  | zero => omega
  | succ fuel induction =>
      rcases Nat.exists_eq_add_one_of_ne_zero (Nat.ne_zero_of_lt longerBound) with ⟨longerFuel, rfl⟩
      cases tokens with
      | nil => simp at opened
      | cons token rest =>
          simp only [statements, List.cons_append, headKind_cons, List.tail_cons]
          split
          · rename_i closes
            exact .ok rest (.tail closes rfl)
          · exact .fail (token :: rest)
          · rename_i stray
            obtain ⟨balance, shorter⟩ : Leaves 0 1 (token :: rest) rest := .tail stray rfl
            refine (induction rest (by omega) (by omega) (by omega)).mono
              fun rest leaves => ?_
            rcases leaves with ⟨balance, shorter⟩
            exact ⟨by omega, by omega⟩
          · refine (statement_agrees separates operandAgrees (token :: rest) (by omega)).bind
              fun first rest leaves => ?_
            rcases leaves with ⟨balance, shorter⟩
            refine (induction rest (by omega) (by omega) (by omega)).bind
              fun others rest leaves => ?_
            rcases leaves with ⟨balance, shorter⟩
            exact .ok rest ⟨by omega, by omega⟩

theorem block_agrees (tokens : List Token)
    (closed : braceBalance tokens ≤ 0) :
    Agrees ending (Leaves 0 1 tokens) (block operand tokens)
      (block operand (tokens ++ ending)) := by
  refine (expect_agrees separates .leftBrace (-1) (by decide) tokens).bind
    fun opening rest leaves => ?_
  rcases leaves with ⟨balance, shorter⟩
  refine (statements_agrees separates operandAgrees rest (Nat.lt_succ_self _)
    (by rw [List.length_append]; omega) (by omega)).mono fun rest leaves => ?_
  rcases leaves with ⟨balance, shorter⟩
  exact ⟨by omega, by omega⟩

theorem moreItems_agrees {fuel longerFuel : Nat} (tokens : List Token)
    (bound : tokens.length ≤ fuel) (longerBound : tokens.length ≤ longerFuel)
    (closed : braceBalance tokens ≤ 0) :
    Agrees ending (Leaves 0 0 tokens) (moreItems operand fuel tokens)
      (moreItems operand longerFuel (tokens ++ ending)) := by
  induction fuel generalizing tokens longerFuel with
  | zero =>
      cases List.length_eq_zero_iff.mp (Nat.le_zero.mp bound)
      rw [moreItems_of_ne_comma (headKind_append_ne separates (by decide) (by decide))]
      exact .ok [] ⟨by omega, by omega⟩
  | succ fuel induction =>
      by_cases comma : headKind tokens = .comma
      · rcases exists_cons_of_headKind comma (by decide) with ⟨token, rest, rfl, comma⟩
        rcases Nat.exists_eq_add_one_of_ne_zero (Nat.ne_zero_of_lt longerBound) with ⟨longerFuel, rfl⟩
        obtain ⟨balance, shorter⟩ : Leaves 0 1 (token :: rest) rest := .tail comma rfl
        simp only [moreItems, List.cons_append, headKind_cons, List.tail_cons]
        split
        · refine (operandAgrees.lowest rest (by omega)).bind
            fun item rest leaves => ?_
          rcases leaves with ⟨balance, shorter⟩
          refine (induction rest (by omega) (by omega) (by omega)).bind
            fun others rest leaves => ?_
          rcases leaves with ⟨balance, shorter⟩
          exact .ok rest ⟨by omega, by omega⟩
        · contradiction
      · rw [moreItems_of_ne_comma comma,
          moreItems_of_ne_comma (headKind_append_ne separates (by decide) comma)]
        exact .ok tokens ⟨by omega, by omega⟩

theorem items_agrees (closing : Kind)
    (fine : closing ∉ [Kind.semicolon, .endOfInput] ∧ closing.braceStep + 0 = 0)
    (tokens : List Token) (closed : braceBalance tokens ≤ 0) :
    Agrees ending (Leaves 0 1 tokens) (items operand closing tokens)
      (items operand closing (tokens ++ ending)) := by
  simp only [List.mem_cons, List.not_mem_nil, or_false, not_or] at fine
  rcases fine with ⟨⟨different, notEnd⟩, cancels⟩
  unfold items
  by_cases finished : headKind tokens = closing
  · rw [if_pos finished, if_pos (headKind_append_eq finished notEnd ending)]
    rcases exists_cons_of_headKind finished notEnd with ⟨token, rest, rfl, closes⟩
    exact .ok rest (.tail closes cancels)
  · rw [if_neg finished, if_neg (headKind_append_ne separates different finished)]
    refine (operandAgrees.lowest tokens closed).bind fun item rest leaves => ?_
    rcases leaves with ⟨balance, shorter⟩
    refine (moreItems_agrees separates operandAgrees rest (Nat.le_refl _) (by simp)
      (by omega)).bind fun others rest leaves => ?_
    rcases leaves with ⟨balance, shorter⟩
    refine (expect_agrees separates closing 0 ⟨different, cancels⟩ rest).bind
      fun closing rest leaves => ?_
    rcases leaves with ⟨balance, shorter⟩
    exact .ok rest ⟨by omega, by omega⟩

theorem pairs_agrees {fuel longerFuel : Nat} (tokens : List Token)
    (bound : tokens.length < fuel) (longerBound : tokens.length < longerFuel)
    (opened : braceBalance tokens < 0) :
    Agrees ending (Leaves 1 1 tokens) (pairs operand fuel tokens)
      (pairs operand longerFuel (tokens ++ ending)) := by
  induction fuel generalizing tokens longerFuel with
  | zero => omega
  | succ fuel induction =>
      rcases Nat.exists_eq_add_one_of_ne_zero (Nat.ne_zero_of_lt longerBound) with ⟨longerFuel, rfl⟩
      cases tokens with
      | nil => simp at opened
      | cons token rest =>
          simp only [pairs, List.cons_append, headKind_cons, List.tail_cons]
          split
          · rename_i closes
            exact .ok rest (.tail closes rfl)
          · refine (operandAgrees.lowest (token :: rest) (by omega)).bind
              fun key rest leaves => ?_
            rcases leaves with ⟨balance, shorter⟩
            refine (expect_agrees separates .colon 0 (by decide) rest).bind
              fun colon rest leaves => ?_
            rcases leaves with ⟨balance, shorter⟩
            refine (operandAgrees.lowest rest (by omega)).bind
              fun value rest leaves => ?_
            rcases leaves with ⟨balance, shorter⟩
            dsimp only
            by_cases finished : headKind rest = .rightBrace
            · have longerFinished := headKind_append_eq finished (by decide) ending
              simp only [finished, longerFinished, pure_eq_ok, ok_bind]
              refine (induction rest (by omega) (by omega) (by omega)).bind
                fun others rest leaves => ?_
              rcases leaves with ⟨balance, shorter⟩
              exact .ok rest ⟨by omega, by omega⟩
            · have unfinished := headKind_append_ne separates (by decide) finished
              split
              · exact absurd ‹_› finished
              · refine (expect_agrees separates .comma 0 (by decide) rest).bind
                  fun comma rest leaves => ?_
                rcases leaves with ⟨balance, shorter⟩
                refine (induction rest (by omega) (by omega) (by omega)).bind
                  fun others rest leaves => ?_
                rcases leaves with ⟨balance, shorter⟩
                exact .ok rest ⟨by omega, by omega⟩

theorem alternative_agrees {nested longerNested : List Token → Parsed (Expr × List Token)}
    (tokens : List Token)
    (nestedAgrees : ∀ rest, rest.length < tokens.length → braceBalance rest ≤ 0 →
      Agrees ending (Leaves 0 1 rest) (nested rest) (longerNested (rest ++ ending)))
    (closed : braceBalance tokens ≤ 0) :
    Agrees ending (Leaves 0 0 tokens) (alternative operand nested tokens)
      (alternative operand longerNested (tokens ++ ending)) := by
  by_cases begins : headKind tokens = .elseWord
  · have longerBegins := headKind_append_eq begins (by decide) ending
    rcases exists_cons_of_headKind begins (by decide) with ⟨word, rest, rfl, isElse⟩
    obtain ⟨balance, shorter⟩ : Leaves 0 1 (word :: rest) rest := .tail isElse rfl
    by_cases goesOn : headKind rest = .ifWord
    · have longerGoesOn := headKind_append_eq goesOn (by decide) ending
      rw [alternative_elseIf _ _ begins goesOn, alternative_elseIf _ _ longerBegins longerGoesOn]
      rcases exists_cons_of_headKind goesOn (by decide) with ⟨next, rest, rfl, isIf⟩
      obtain ⟨balance, shorter⟩ : Leaves 0 1 (next :: rest) rest := .tail isIf rfl
      refine (nestedAgrees rest (by omega) (by omega)).bind
        fun tree rest leaves => ?_
      rcases leaves with ⟨balance, shorter⟩
      exact .ok rest ⟨by omega, by omega⟩
    · have longerNoIf := headKind_append_ne separates (by decide) goesOn
      rw [alternative_elseBlock _ _ begins goesOn,
        alternative_elseBlock _ _ longerBegins longerNoIf]
      refine (block_agrees separates operandAgrees rest (by omega)).bind
        fun trees rest leaves => ?_
      rcases leaves with ⟨balance, shorter⟩
      exact .ok rest ⟨by omega, by omega⟩
  · rw [alternative_of_ne_elseWord _ _ begins,
      alternative_of_ne_elseWord _ _ (headKind_append_ne separates (by decide) begins)]
    exact .ok tokens ⟨by omega, by omega⟩

theorem conditional_agrees {fuel longerFuel : Nat} (tokens : List Token)
    (bound : tokens.length ≤ fuel) (longerBound : tokens.length ≤ longerFuel)
    (closed : braceBalance tokens ≤ 0) :
    Agrees ending (Leaves 0 1 tokens) (conditional operand fuel tokens)
      (conditional operand longerFuel (tokens ++ ending)) := by
  induction fuel generalizing tokens longerFuel with
  | zero =>
      cases List.length_eq_zero_iff.mp (Nat.le_zero.mp bound)
      rw [conditional_of_ne_leftParen (headKind_append_ne separates (by decide) (by decide))]
      exact .fail []
  | succ fuel induction =>
      by_cases opens : headKind tokens = .leftParen
      · rcases exists_cons_of_headKind opens (by decide) with ⟨paren, others, rfl, _⟩
        rcases Nat.exists_eq_add_one_of_ne_zero (Nat.ne_zero_of_lt longerBound) with
          ⟨longerFuel, rfl⟩
        rw [conditional_succ, conditional_succ]
        refine (expect_agrees separates .leftParen 0 (by decide) (paren :: others)).bind
          fun opening rest leaves => ?_
        rcases leaves with ⟨balance, shorter⟩
        refine (operandAgrees.lowest rest (by omega)).bind
          fun condition rest leaves => ?_
        rcases leaves with ⟨balance, shorter⟩
        refine (expect_agrees separates .rightParen 0 (by decide) rest).bind
          fun closing rest leaves => ?_
        rcases leaves with ⟨balance, shorter⟩
        refine (block_agrees separates operandAgrees rest (by omega)).bind
          fun consequence rest leaves => ?_
        rcases leaves with ⟨balance, shorter⟩
        refine (alternative_agrees separates operandAgrees rest
          (fun rest shorter closed => induction rest (by omega) (by omega) closed)
          (by omega)).bind fun others rest leaves => ?_
        rcases leaves with ⟨balance, shorter⟩
        exact .ok rest ⟨by omega, by omega⟩
      · rw [conditional_of_ne_leftParen opens,
          conditional_of_ne_leftParen (headKind_append_ne separates (by decide) opens)]
        exact .fail tokens

theorem start_agrees (tokens : List Token)
    (closed : braceBalance tokens ≤ 0) :
    Agrees ending (Leaves 0 1 tokens) (start operand tokens)
      (start operand (tokens ++ ending)) := by
  cases tokens with
  | nil =>
      rcases exists_cons_of_headKind separates (by decide) with
        ⟨separator, others, rfl, isSemicolon⟩
      simp only [start, List.nil_append, isSemicolon]
      exact .fail []
  | cons token rest =>
      simp only [start, List.cons_append]
      split
      · exact .ok rest (.tail ‹_› rfl)
      · split
        · exact .ok rest (.tail ‹_› rfl)
        · exact .fail (token :: rest)
      · split
        · exact .ok rest (.tail ‹_› rfl)
        · rfl
      · exact .ok rest (.tail ‹_› rfl)
      · exact .ok rest (.tail ‹_› rfl)
      · exact .ok rest (.tail ‹_› rfl)
      · exact .ok rest (.tail ‹_› rfl)
      · split
        · exact .fail (token :: rest)
        · exact .fail (token :: rest)
      · obtain ⟨balance, shorter⟩ : Leaves 0 1 (token :: rest) rest := .tail ‹_› rfl
        refine (operandAgrees unaryPower rest (by decide) (by omega)).bind
          fun value rest leaves => ?_
        rcases leaves with ⟨balance, shorter⟩
        exact .ok rest ⟨by omega, by omega⟩
      · obtain ⟨balance, shorter⟩ : Leaves 0 1 (token :: rest) rest := .tail ‹_› rfl
        refine (operandAgrees unaryPower rest (by decide) (by omega)).bind
          fun value rest leaves => ?_
        rcases leaves with ⟨balance, shorter⟩
        exact .ok rest ⟨by omega, by omega⟩
      · obtain ⟨balance, shorter⟩ : Leaves 0 1 (token :: rest) rest := .tail ‹_› rfl
        refine (operandAgrees.lowest rest (by omega)).bind fun value rest leaves => ?_
        rcases leaves with ⟨balance, shorter⟩
        refine (expect_agrees separates .rightParen 0 (by decide) rest).bind
          fun closing rest leaves => ?_
        rcases leaves with ⟨balance, shorter⟩
        exact .ok rest ⟨by omega, by omega⟩
      · obtain ⟨balance, shorter⟩ : Leaves 0 1 (token :: rest) rest := .tail ‹_› rfl
        refine (conditional_agrees separates operandAgrees rest (Nat.le_refl _) (by simp)
          (by omega)).mono fun rest leaves => ?_
        rcases leaves with ⟨balance, shorter⟩
        exact ⟨by omega, by omega⟩
      · obtain ⟨balance, shorter⟩ : Leaves 0 1 (token :: rest) rest := .tail ‹_› rfl
        refine (parameters_agrees separates rest).bind fun names rest leaves => ?_
        rcases leaves with ⟨balance, shorter⟩
        refine (block_agrees separates operandAgrees rest (by omega)).bind
          fun body rest leaves => ?_
        rcases leaves with ⟨balance, shorter⟩
        exact .ok rest ⟨by omega, by omega⟩
      · obtain ⟨balance, shorter⟩ : Leaves 0 1 (token :: rest) rest := .tail ‹_› rfl
        refine (items_agrees separates operandAgrees .rightBracket (by decide) rest
          (by omega)).bind fun elements rest leaves => ?_
        rcases leaves with ⟨balance, shorter⟩
        exact .ok rest ⟨by omega, by omega⟩
      · obtain ⟨balance, shorter⟩ : Leaves (-1) 1 (token :: rest) rest := .tail ‹_› rfl
        refine (pairs_agrees separates operandAgrees rest (Nat.lt_succ_self _)
          (by rw [List.length_append]; omega) (by omega)).bind
          fun entries rest leaves => ?_
        rcases leaves with ⟨balance, shorter⟩
        exact .ok rest ⟨by omega, by omega⟩
      · exact .fail (token :: rest)

theorem continuation_agrees (left : Expr) (token : Token) (rest : List Token)
    (goesOn : lowestPower < token.kind.power)
    (closed : braceBalance (token :: rest) ≤ 0) :
    Agrees ending (Leaves 0 1 (token :: rest)) (continuation operand left (token :: rest))
      (continuation operand left (token :: rest ++ ending)) := by
  have powerFine : lowestPower ≤ token.kind.rightPower := Kind.lowestPower_le_rightPower _
  obtain ⟨balance, shorter⟩ : Leaves 0 1 (token :: rest) rest :=
    .tail rfl (by rw [Kind.braceStep_of_lowestPower_lt goesOn]; rfl)
  unfold continuation
  dsimp only
  rw [List.cons_append]
  dsimp only
  split
  · refine (items_agrees separates operandAgrees .rightParen (by decide) rest (by omega)).bind
      fun arguments rest leaves => ?_
    rcases leaves with ⟨balance, shorter⟩
    exact .ok rest ⟨by omega, by omega⟩
  · refine (operandAgrees.lowest rest (by omega)).bind fun position rest leaves => ?_
    rcases leaves with ⟨balance, shorter⟩
    refine (expect_agrees separates .rightBracket 0 (by decide) rest).bind
      fun closing rest leaves => ?_
    rcases leaves with ⟨balance, shorter⟩
    exact .ok rest ⟨by omega, by omega⟩
  · split
    · refine (operandAgrees _ rest powerFine (by omega)).bind
        fun value rest leaves => ?_
      rcases leaves with ⟨balance, shorter⟩
      exact .ok rest ⟨by omega, by omega⟩
    · exact .fail (token :: rest)
  · refine (operandAgrees _ rest powerFine (by omega)).bind
      fun right rest leaves => ?_
    rcases leaves with ⟨balance, shorter⟩
    exact .ok rest ⟨by omega, by omega⟩

end

/-! ## Expressions of any depth -/

/-- The end goes on with no expression. -/
theorem ne_endOfInput_of_power
    (above : lowestPower ≤ power) (tight : power < (headKind tokens).power) :
    headKind tokens ≠ .endOfInput := by
  intro isEnd
  rw [isEnd] at tight
  exact absurd (Nat.lt_of_le_of_lt above tight) (by decide)

section

variable {ending : List Token} (separates : headKind ending = .semicolon)

include separates

/-- An expression that ends with the tokens also ends in front of a semicolon. -/
theorem continuations_agree_of_not_lt {depth : Nat} {left : Expr}
    (above : lowestPower ≤ power) (loose : ¬ power < (headKind tokens).power) :
    Agrees ending (Leaves 0 0 tokens) (continuations depth power left tokens)
      (continuations depth power left (tokens ++ ending)) := by
  have longerLoose : (headKind (tokens ++ ending)).power ≤ power := by
    cases tokens with
    | nil =>
        rw [List.nil_append, separates]
        exact above
    | cons token rest => exact Nat.le_of_not_lt loose
  rw [continuations_of_power_le _ _ (Nat.le_of_not_lt loose),
    continuations_of_power_le _ _ longerLoose]
  exact .ok tokens ⟨by omega, by omega⟩

/-- An expression and its continuations agree at every depth. -/
theorem expression_and_continuations_agree (depth : Nat) :
    OperandAgrees ending (expression depth) ∧
      ∀ power left tokens, lowestPower ≤ power → braceBalance tokens ≤ 0 →
        Agrees ending (Leaves 0 0 tokens) (continuations depth power left tokens)
          (continuations depth power left (tokens ++ ending)) := by
  induction depth with
  | zero =>
      refine ⟨fun power tokens _ _ => .fail tokens, fun power left tokens above closed => ?_⟩
      by_cases tight : power < (headKind tokens).power
      · have longerTight := headKind_append_eq rfl (ne_endOfInput_of_power above tight) ending
        rw [continuations, if_pos tight, continuations, if_pos (longerTight ▸ tight)]
        exact .fail tokens
      · exact continuations_agree_of_not_lt separates above tight
  | succ depth induction =>
      rcases induction with ⟨expressionAgrees, continuationsAgree⟩
      refine ⟨fun power tokens above closed => ?_, fun power left tokens above closed => ?_⟩
      · rw [expression, expression]
        refine (start_agrees separates expressionAgrees tokens closed).bind
          fun left rest leaves => ?_
        rcases leaves with ⟨balance, shorter⟩
        refine (continuationsAgree power left rest above (by omega)).mono
          fun rest leaves => ?_
        rcases leaves with ⟨balance, shorter⟩
        exact ⟨by omega, by omega⟩
      · by_cases tight : power < (headKind tokens).power
        · have notEnd := ne_endOfInput_of_power above tight
          have longerTight := headKind_append_eq rfl notEnd ending
          rw [continuations, if_pos tight, continuations, if_pos (longerTight ▸ tight)]
          rcases exists_cons_of_headKind rfl notEnd with ⟨token, rest, rfl, _⟩
          refine (continuation_agrees separates expressionAgrees left token rest
            (Nat.lt_of_le_of_lt above tight) closed).bind fun whole rest leaves => ?_
          rcases leaves with ⟨balance, shorter⟩
          refine (continuationsAgree power whole rest above (by omega)).mono
            fun rest leaves => ?_
          rcases leaves with ⟨balance, shorter⟩
          exact ⟨by omega, by omega⟩
        · exact continuations_agree_of_not_lt separates above tight

theorem expression_agrees (depth : Nat) :
    OperandAgrees ending (expression depth) :=
  (expression_and_continuations_agree separates depth).1

end

/-! ## Skipping a failed statement -/

/-- What is skipped ends inside the tokens or, if no brace is open, right behind the semicolon. -/
theorem skip_append {balance : Int} {separator : Token} {tokens : List Token}
    (separates : separator.kind = .semicolon)
    (closed : balance + braceBalance tokens ≤ 0) (others : List Token) :
    skip balance (tokens ++ separator :: others) = skip balance tokens ++ separator :: others ∨
      skip balance tokens = [] ∧ skip balance (tokens ++ separator :: others) = others := by
  induction tokens generalizing balance with
  | nil =>
      right
      refine ⟨rfl, ?_⟩
      rw [List.nil_append, skip, if_pos]
      exact ⟨by simpa [separates, Kind.braceStep] using closed, .inl separates⟩
  | cons token rest induction =>
      rw [List.cons_append, skip, skip]
      split
      · left
        rfl
      · rw [braceBalance_cons, ← Int.add_assoc] at closed
        exact induction closed

theorem recover_append {separator : Token} {tokens stuck : List Token}
    (separates : separator.kind = .semicolon)
    (closed : braceBalance tokens ≤ 0) (cause : Cause) (others : List Token) :
    recover (tokens ++ separator :: others) cause (stuck ++ separator :: others) =
        recover tokens cause stuck ++ separator :: others ∨
      recover tokens cause stuck = [] ∧
        recover (tokens ++ separator :: others) cause (stuck ++ separator :: others) = others := by
  have sameCount : reached (tokens ++ separator :: others) cause (stuck ++ separator :: others) =
      reached tokens cause stuck := by
    unfold reached
    simp only [List.length_append]
    split <;> omega
  have within : reached tokens cause stuck ≤ tokens.length := by
    unfold reached
    split <;> omega
  unfold recover
  simp only [sameCount, List.take_append_of_le_length within,
    List.drop_append_of_le_length within]
  refine skip_append separates ?_ others
  rwa [← braceBalance_append, List.take_append_drop]

end Parser

/-! ## Programs -/

/-- The problem as it is reported with a token in place of the end of the input. -/
def Problem.relocate (separator : Token) (problem : Problem) : Problem :=
  if problem.token.kind = .endOfInput then { problem with token := separator } else problem

/-- Two readings one after the other, with a separator in place of the end of the first. -/
def Reading.followedBy (separator : Token) (first second : Reading) : Reading where
  program := ⟨first.program.statements ++ second.program.statements⟩
  problems := first.problems.map (Problem.relocate separator) ++ second.problems

namespace Parser

/-- A problem at the end of the tokens is reported at the separator behind them. -/
theorem relocate_headD {finish : Token} {stuck : List Token}
    (isEnd : finish.kind = .endOfInput)
    (noEnd : ∀ token ∈ stuck, token.kind ≠ .endOfInput)
    (cause : Cause) (separator : Token) (others : List Token) (longerFinish : Token) :
    Problem.relocate separator ⟨cause, stuck.headD finish⟩ =
      ⟨cause, (stuck ++ separator :: others).headD longerFinish⟩ := by
  cases stuck with
  | nil => exact if_pos isEnd
  | cons token rest => exact if_neg (noEnd token List.mem_cons_self)

/-- Behind the first program, the separator is passed over and the second one is read. -/
theorem program_separator {finish longerFinish separator : Token} {others : List Token}
    (separates : separator.kind = .semicolon)
    (longerBound : others.length < longerFuel)
    (first : program finish fuel [] = .ok reading)
    (second : ∀ fuel, others.length ≤ fuel → program longerFinish fuel others = .ok later) :
    program longerFinish longerFuel (separator :: others) =
      .ok (reading.followedBy separator later) := by
  rcases Nat.exists_eq_add_one_of_ne_zero (Nat.ne_zero_of_lt longerBound) with ⟨longerFuel, rfl⟩
  rw [program_nil] at first
  cases first
  rw [program_of_semicolon separates, second longerFuel (Nat.le_of_lt_succ longerBound)]
  rfl

/--
A program and a separator in front of a second program: both are read as they are read alone.  The
induction is on the statements and failures of the first one, none of which reaches beyond the
separator.
-/
theorem program_append {finish longerFinish separator : Token} {tokens others : List Token}
    (separates : separator.kind = .semicolon)
    (isEnd : finish.kind = .endOfInput)
    (noEnd : ∀ token ∈ tokens, token.kind ≠ .endOfInput)
    (closed : ∀ suffix, suffix <:+ tokens → braceBalance suffix ≤ 0)
    (bound : tokens.length ≤ fuel)
    (longerBound : tokens.length + others.length < longerFuel)
    (first : program finish fuel tokens = .ok reading)
    (second : ∀ fuel, others.length ≤ fuel → program longerFinish fuel others = .ok later) :
    program longerFinish longerFuel (tokens ++ separator :: others) =
      .ok (reading.followedBy separator later) := by
  have ending : headKind (separator :: others) = .semicolon := separates
  induction fuel generalizing tokens longerFuel reading with
  | zero =>
      cases List.length_eq_zero_iff.mp (Nat.le_zero.mp bound)
      exact program_separator separates (by omega) first second
  | succ fuel induction =>
      cases tokens with
      | nil => exact program_separator separates (by omega) first second
      | cons token rest =>
          rcases Nat.exists_eq_add_one_of_ne_zero (Nat.ne_zero_of_lt longerBound) with ⟨longerFuel, rfl⟩
          simp only [List.length_cons] at bound longerBound
          have agrees := statement_agrees ending (expression_agrees ending maxNesting)
            (token :: rest) (closed _ (List.suffix_refl _))
          have stays := statement_stays (expression_stays maxNesting) (token :: rest)
          -- What is read next is a suffix of the tokens, so the assumptions hold for it as well.
          have next (fewer : List Token) (suffix : fewer <:+ token :: rest)
              (shorter : fewer.length < (token :: rest).length) {after : Reading}
              (read : program finish fuel fewer = .ok after) :
              program longerFinish longerFuel (fewer ++ separator :: others) =
                .ok (after.followedBy separator later) := by
            rw [List.length_cons] at shorter
            exact induction (fun token member => noEnd token (suffix.subset member))
              (fun more moreSuffix => closed more (moreSuffix.trans suffix)) (by omega) (by omega)
              read
          rcases program_cases first with ⟨stray, read⟩ |
            ⟨noSemicolon, ⟨tree, fewer, after, parsed, read, rfl⟩ |
              ⟨cause, stuck, after, parsed, read, rfl⟩⟩
          · rw [List.cons_append, program_of_semicolon stray]
            exact next rest (List.suffix_cons token rest) (Nat.lt_succ_self _) read
          · rw [parsed] at agrees stays
            rw [List.cons_append] at agrees ⊢
            rw [program_of_ok noSemicolon agrees.2,
              next fewer stays (length_lt_of_statement parsed) read]
            rfl
          · rw [parsed] at agrees stays
            have relocated := relocate_headD isEnd
              (fun token member => noEnd token (stays.subset member)) cause separator others
              longerFinish
            rw [List.cons_append] at agrees ⊢
            rw [program_of_failure noSemicolon agrees, ← relocated, ← List.cons_append]
            rcases recover_append separates (closed _ (List.suffix_refl _)) cause others with
              inside | ⟨finished, behind⟩
            · rw [inside, next _ (recover_suffix _ _ _) (length_recover_lt _ _ _ _) read]
              rfl
            · rw [finished, program_nil] at read
              cases read
              rw [behind, second longerFuel (by omega)]
              rfl

/-- A second program is read in the same way behind other tokens. -/
theorem program_behind {separator : Token} {tokens others : List Token}
    (noEnd : ∀ token ∈ others, token.kind ≠ .endOfInput)
    (parsed : parse others = .ok reading)
    (bound : others.length ≤ fuel) :
    program (impliedEnd (tokens ++ separator :: others)) fuel others = .ok reading := by
  rw [parse_of_noEnd noEnd] at parsed
  cases others with
  | nil =>
      rw [program_nil] at parsed ⊢
      exact parsed
  | cons token rest =>
      have sameEnd := impliedEnd_append (tokens ++ [separator]) token rest
      rw [List.append_assoc, List.singleton_append] at sameEnd
      rw [sameEnd, program_fuel _ bound (Nat.le_refl _)]
      exact parsed

/-- The brace balance is the number of opening braces less that of closing ones. -/
theorem braceBalance_eq_sub (tokens : List Token) :
    braceBalance tokens = (tokens.countP (·.kind == .leftBrace) : Int) -
      tokens.countP (·.kind == .rightBrace) := by
  induction tokens with
  | nil => rfl
  | cons token rest induction =>
      rw [braceBalance_cons, List.countP_cons, List.countP_cons, induction]
      cases token.kind <;> simp [Kind.braceStep] <;> omega

/-- Whether no brace is closed that is not open, and all braces are closed in the end. -/
structure BraceBalanced (tokens : List Token) : Prop where
  opensFirst : ∀ front, front <+: tokens →
    front.countP (·.kind == .rightBrace) ≤ front.countP (·.kind == .leftBrace)
  closesAll : tokens.countP (·.kind == .rightBrace) = tokens.countP (·.kind == .leftBrace)

/-- From no place on are there more braces opened than closed. -/
theorem BraceBalanced.suffix_nonpos
    (balanced : BraceBalanced tokens) (suffix : rest <:+ tokens) :
    braceBalance rest ≤ 0 := by
  rcases suffix with ⟨front, rfl⟩
  have opens := balanced.opensFirst front (List.prefix_append front rest)
  have closes := balanced.closesAll
  rw [List.countP_append, List.countP_append] at closes
  rw [braceBalance_eq_sub]
  omega

end Parser

open Jet.Parser

/--
Tokens whose braces match, with a semicolon and other tokens behind them: the statements of both are
returned, and the problems of both are reported, whatever problems there are.  Only a problem at the
end of the first tokens is then reported at the semicolon.
-/
theorem parse_append_semicolon (tokens others : List Token) (separator : Token)
    (separates : separator.kind = .semicolon)
    (noEnd : ∀ token ∈ tokens ++ others, token.kind ≠ .endOfInput)
    (balanced : BraceBalanced tokens)
    (readable : Readable (tokens ++ others)) :
    ∃ first second whole,
      parse tokens = .ok first ∧ parse others = .ok second ∧
        parse (tokens ++ separator :: others) = .ok whole ∧
          whole.program.statements = first.program.statements ++ second.program.statements ∧
            whole.errors =
              (first.problems.map (Problem.relocate separator)).map Problem.message ++
                second.errors := by
  have noEndFirst := fun token member => noEnd token (List.mem_append_left others member)
  have noEndSecond := fun token member => noEnd token (List.mem_append_right tokens member)
  have noEndWhole : ∀ token ∈ tokens ++ separator :: others, token.kind ≠ .endOfInput := by
    intro token member
    rcases List.mem_append.mp member with member | member
    · exact noEndFirst token member
    · rcases List.mem_cons.mp member with rfl | member
      · rw [separates]
        decide
      · exact noEndSecond token member
  have readableFirst : Readable tokens :=
    fun token member => readable token (List.mem_append_left others member)
  have readableSecond : Readable others :=
    fun token member => readable token (List.mem_append_right tokens member)
  rcases program_eq_ok (impliedEnd tokens) tokens.length readableFirst with ⟨first, parsedFirst⟩
  rcases program_eq_ok (impliedEnd others) others.length readableSecond with ⟨second, parsedSecond⟩
  rw [← parse_of_noEnd noEndSecond] at parsedSecond
  refine ⟨first, second, first.followedBy separator second, ?_, parsedSecond, ?_, rfl, ?_⟩
  · rw [parse_of_noEnd noEndFirst]
    exact parsedFirst
  · rw [parse_of_noEnd noEndWhole]
    refine program_append separates (impliedEnd_kind tokens) noEndFirst
      (fun _ => balanced.suffix_nonpos) (Nat.le_refl _) ?_ parsedFirst
      (fun _ => program_behind noEndSecond parsedSecond)
    rw [List.length_append, List.length_cons]
    omega
  · rw [Reading.errors, Reading.followedBy, List.map_append]
    rfl

/--
A hash without a value and a sum without a second part, in front of a parenthesis that is not open:
the problem at the end of the sum is reported at the semicolon, and the rest is as it was.
-/
theorem parse_append_semicolon_unfinished :
    ∃ whole,
      parse ([⟨.leftBrace, "\x7b", 1, 1⟩, ⟨.identifier, "x", 1, 2⟩, ⟨.rightBrace, "\x7d", 1, 3⟩,
          ⟨.identifier, "y", 1, 4⟩, ⟨.plus, "+", 1, 5⟩] ++ ⟨.semicolon, ";", 1, 6⟩ ::
          [⟨.identifier, "z", 1, 7⟩, ⟨.rightParen, ")", 1, 8⟩]) = .ok whole ∧
        whole.program.statements = [.expression (.name "z")] ∧
          whole.errors =
            [Problem.message ⟨.expected .colon, ⟨.rightBrace, "\x7d", 1, 3⟩⟩,
              Problem.message ⟨.noExpression, ⟨.semicolon, ";", 1, 6⟩⟩,
              Problem.message ⟨.noExpression, ⟨.rightParen, ")", 1, 8⟩⟩] := by
  have balanced : BraceBalanced [⟨.leftBrace, "\x7b", 1, 1⟩, ⟨.identifier, "x", 1, 2⟩,
      ⟨.rightBrace, "\x7d", 1, 3⟩, ⟨.identifier, "y", 1, 4⟩, ⟨.plus, "+", 1, 5⟩] := by
    refine ⟨fun front isFront => ?_, by decide⟩
    simp only [List.prefix_cons_iff, List.prefix_nil] at isFront
    rcases isFront with rfl | ⟨_, rfl, rfl | ⟨_, rfl, rfl | ⟨_, rfl, rfl | ⟨_, rfl, rfl |
      ⟨_, rfl, rfl⟩⟩⟩⟩⟩ <;> decide
  rcases parse_append_semicolon _ [⟨.identifier, "z", 1, 7⟩, ⟨.rightParen, ")", 1, 8⟩]
      ⟨.semicolon, ";", 1, 6⟩ rfl (by decide) balanced (by simp [Readable]) with
    ⟨first, second, whole, readFirst, readSecond, readWhole, statements, errors⟩
  cases readFirst
  cases readSecond
  exact ⟨whole, readWhole, statements, errors⟩

end Jet
