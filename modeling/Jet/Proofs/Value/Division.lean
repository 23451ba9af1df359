import Jet.Evaluation
import Jet.Proofs.Evaluation.Steps
import Jet.Proofs.Value.DigitLimit
import Mathlib.Data.Rat.Floor
import Mathlib.Tactic.Linarith
import Mathlib.Tactic.Positivity

/-!
# Division of integers

The quotient of two integers is the exact quotient without its fraction, and the remainder is what
it leaves over, so that it has the sign of the dividend and is smaller than the divisor.  Putting a
dividend together again from its quotient and its remainder passes only through integers that are
no longer than the dividend.  So whoever can show the dividend can do every step.
-/

namespace Jet

/-- Whether an operator ends with an error that has a message. -/
def EndsInError (message : String) : Except Halt Value → Prop
  | .ok (.error fault) => fault.message = message
  | _ => False

/-- A rational number without its fraction. -/
def wholePart (value : ℚ) : ℤ :=
  if 0 ≤ value then ⌊value⌋ else ⌈value⌉

theorem wholePart_neg (value : ℚ) :
    wholePart (-value) = -wholePart value := by
  rcases lt_trichotomy 0 value with above | rfl | below
  · rw [wholePart, if_neg (by linarith), wholePart, if_pos above.le, Int.ceil_neg]
  · simp [wholePart]
  · rw [wholePart, if_pos (by linarith), wholePart, if_neg (by linarith), Int.floor_neg]

theorem wholePart_natCast_div (above below : ℕ) :
    wholePart (above / below) = (above / below : ℕ) := by
  have positive : (0 : ℚ) ≤ above / below := by positivity
  rw [wholePart, if_pos positive, Rat.floor_natCast_div_natCast, Int.natCast_div]

section

variable (dividend divisor : Int)

/-- The rounded quotient is the exact one without its fraction. -/
theorem truncatedQuotient_eq_wholePart :
    truncatedQuotient dividend divisor = wholePart ((dividend : ℚ) / divisor) := by
  have absolute :
      wholePart |(dividend : ℚ) / divisor| = (dividend.natAbs / divisor.natAbs : ℕ) := by
    rw [abs_div, ← Int.cast_abs, ← Int.cast_abs, ← Nat.cast_natAbs, ← Nat.cast_natAbs]
    exact wholePart_natCast_div _ _
  unfold truncatedQuotient
  dsimp only
  rw [← absolute]
  split
  · rename_i alike
    have positive : 0 ≤ (dividend : ℚ) / divisor := by
      by_cases above : 0 ≤ dividend
      · exact div_nonneg (Int.cast_nonneg above) (Int.cast_nonneg (alike.mp above))
      · have below : divisor ≤ 0 := by omega
        exact div_nonneg_of_nonpos (Int.cast_nonpos.mpr (by omega)) (Int.cast_nonpos.mpr below)
    rw [abs_of_nonneg positive]
  · rename_i unlike
    have negative : (dividend : ℚ) / divisor ≤ 0 := by
      by_cases above : 0 ≤ dividend
      · have below : divisor ≤ 0 := by omega
        exact div_nonpos_of_nonneg_of_nonpos (Int.cast_nonneg above) (Int.cast_nonpos.mpr below)
      · have positive : 0 ≤ divisor := by omega
        exact div_nonpos_of_nonpos_of_nonneg (Int.cast_nonpos.mpr (by omega))
          (Int.cast_nonneg positive)
    rw [abs_of_nonpos negative, wholePart_neg, neg_neg]

/-- The quotient times the divisor does not go beyond the dividend. -/
theorem natAbs_truncatedQuotient_mul_le :
    (truncatedQuotient dividend divisor * divisor).natAbs ≤ dividend.natAbs := by
  rw [truncatedQuotient_eq_tdiv, Int.natAbs_mul, Int.natAbs_tdiv]
  exact Nat.div_mul_le_self _ _

/-- What is left over is smaller than the divisor. -/
theorem natAbs_sub_mul_truncatedQuotient_lt (nonzero : divisor ≠ 0) :
    (dividend - divisor * truncatedQuotient dividend divisor).natAbs < divisor.natAbs := by
  rw [truncatedQuotient_eq_tdiv, ← Int.tmod_def, Int.natAbs_tmod]
  exact Nat.mod_lt _ (Int.natAbs_pos.mpr nonzero)

/-- What is left over is nothing, or lies on the side of the dividend. -/
theorem sign_sub_mul_truncatedQuotient :
    dividend - divisor * truncatedQuotient dividend divisor = 0 ∨
      (dividend - divisor * truncatedQuotient dividend divisor).sign = dividend.sign := by
  rw [truncatedQuotient_eq_tdiv, ← Int.tmod_def, ← Int.sign_eq_zero_iff_zero, Int.sign_tmod]
  split
  · exact .inl rfl
  · exact .inr rfl

end

/-! ## Operators -/

/-- An integer with few enough digits is no error. -/
theorem checkedInteger_of_lt {value : Int}
    (short : value.natAbs < 10 ^ digitLimit) :
    checkedInteger value = .integer value := by
  rw [checkedInteger_eq, exceedsDigits_eq_false_iff.mpr short]
  rfl

section

variable {dividend divisor : Int}

theorem binaryOperation_divide_integers (dividend : Int) (nonzero : divisor ≠ 0) :
    binaryOperation "/" (.integer dividend) (.integer divisor) =
      .ok (.integer (truncatedQuotient dividend divisor)) := by
  change Except.ok (ite _ _ _) = _
  rw [if_neg nonzero]

theorem binaryOperation_remainder_integers (dividend : Int) (nonzero : divisor ≠ 0) :
    binaryOperation "%" (.integer dividend) (.integer divisor) =
      .ok (.integer (dividend - divisor * truncatedQuotient dividend divisor)) := by
  change Except.ok (ite _ _ _) = _
  rw [if_neg nonzero]

/-- The quotient times the divisor is not too long if the dividend is not. -/
theorem binaryOperation_multiply_quotient (divisor : Int)
    (short : dividend.natAbs < 10 ^ digitLimit) :
    binaryOperation "*" (.integer (truncatedQuotient dividend divisor)) (.integer divisor) =
      .ok (.integer (truncatedQuotient dividend divisor * divisor)) := by
  have within := natAbs_truncatedQuotient_mul_le dividend divisor
  exact congrArg Except.ok (checkedInteger_of_lt (Nat.lt_of_le_of_lt within short))

/-- With the remainder this is the dividend. -/
theorem binaryOperation_add_remainder (divisor : Int)
    (short : dividend.natAbs < 10 ^ digitLimit) :
    binaryOperation "+" (.integer (truncatedQuotient dividend divisor * divisor))
        (.integer (dividend - divisor * truncatedQuotient dividend divisor)) =
      .ok (.integer dividend) := by
  change Except.ok (checkedInteger _) = _
  rw [mul_comm divisor, add_sub_cancel, checkedInteger_of_lt short]

end

section

open Jet.Computation

variable {call : Call} {left right : Expr} {operator : String} {scope : Nat}
  {store between after : Store} {first second result : Int}

/-- An operator is applied to the integers that its operands are evaluated to. -/
theorem Expr.evaluate_binary_of_integers
    (isLeft : left.evaluate call scope store = (.ok (.integer first), between))
    (isRight : right.evaluate call scope between = (.ok (.integer second), after))
    (noConnective : Connective.ofSymbol? operator = none)
    (computed :
      binaryOperation operator (.integer first) (.integer second) = .ok (.integer result)) :
    (Expr.binary left operator right).evaluate call scope store =
      (.ok (.integer result), after) := by
  rw [Expr.evaluate, andThen_apply, isLeft]
  dsimp only
  rw [noConnective]
  change andThen (right.evaluate call scope) _ between = _
  rw [andThen_apply, isRight]
  change (ofExcept (binaryOperation operator _ _) >>= renew) after = _
  rw [computed]
  rfl

end

/--
The quotient of an integer that can be shown by another is the exact quotient without its fraction,
and the remainder is smaller than the divisor and is zero or has the sign of the dividend.  No step
of putting the dividend together again is an error, and the dividend is what comes out, for all
operands that are evaluated to the two integers.  Zero divides nothing.
-/
theorem division_restores (dividend divisor : Int) :
    (dividend.natAbs < 10 ^ digitLimit → divisor ≠ 0 → ∃ quotient remainder : Int,
      binaryOperation "/" (.integer dividend) (.integer divisor) = .ok (.integer quotient) ∧
        quotient = wholePart ((dividend : ℚ) / divisor) ∧
        binaryOperation "%" (.integer dividend) (.integer divisor) = .ok (.integer remainder) ∧
        remainder.natAbs < divisor.natAbs ∧
        (remainder = 0 ∨ remainder.sign = dividend.sign) ∧
        binaryOperation "*" (.integer quotient) (.integer divisor) =
          .ok (.integer (quotient * divisor)) ∧
        binaryOperation "+" (.integer (quotient * divisor)) (.integer remainder) =
          .ok (.integer dividend) ∧
        ∀ (call : Call) (scope : Nat) (store : Store) (left right : Expr),
          left.evaluate call scope store = (.ok (.integer dividend), store) →
          right.evaluate call scope store = (.ok (.integer divisor), store) →
          Expr.evaluate call
              (.binary (.binary (.binary left "/" right) "*" right) "+"
                (.binary left "%" right))
              scope store =
            (.ok (.integer dividend), store)) ∧
      (divisor = 0 → ∀ operator ∈ ["/", "%"],
        EndsInError "division by zero"
          (binaryOperation operator (.integer dividend) (.integer divisor))) := by
  constructor
  · intro short nonzero
    have divided := binaryOperation_divide_integers dividend nonzero
    have reduced := binaryOperation_remainder_integers dividend nonzero
    have multiplied := binaryOperation_multiply_quotient divisor short
    have added := binaryOperation_add_remainder divisor short
    refine ⟨_, _, divided, truncatedQuotient_eq_wholePart dividend divisor, reduced,
      natAbs_sub_mul_truncatedQuotient_lt dividend divisor nonzero,
      sign_sub_mul_truncatedQuotient dividend divisor, multiplied, added, ?_⟩
    intro call scope store left right isLeft isRight
    have quotient := Expr.evaluate_binary_of_integers isLeft isRight rfl divided
    have product := Expr.evaluate_binary_of_integers quotient isRight rfl multiplied
    have rest := Expr.evaluate_binary_of_integers isLeft isRight rfl reduced
    exact Expr.evaluate_binary_of_integers product rest rfl added
  · rintro rfl operator member
    rcases List.mem_pair.mp member with rfl | rfl
    · rfl
    · rfl

/-- The lowest integer that can be shown is put together again from a quotient by minus seven. -/
theorem division_restores_lowest :
    (∃ quotient remainder : Int,
      binaryOperation "/" (.integer (1 - 10 ^ digitLimit)) (.integer (-7)) =
          .ok (.integer quotient) ∧
        binaryOperation "%" (.integer (1 - 10 ^ digitLimit)) (.integer (-7)) =
          .ok (.integer remainder) ∧
        remainder.natAbs < 7 ∧
        binaryOperation "*" (.integer quotient) (.integer (-7)) =
          .ok (.integer (quotient * -7)) ∧
        binaryOperation "+" (.integer (quotient * -7)) (.integer remainder) =
          .ok (.integer (1 - 10 ^ digitLimit))) ∧
      Expr.evaluate (applyFunction 0)
          (.binary
            (.binary (.binary (.integer (1 - 10 ^ digitLimit)) "/" (.integer (-7))) "*"
              (.integer (-7)))
            "+" (.binary (.integer (1 - 10 ^ digitLimit)) "%" (.integer (-7))))
          0 .initial =
        (.ok (.integer (1 - 10 ^ digitLimit)), .initial) ∧
      EndsInError "division by zero"
        (binaryOperation "%" (.integer (1 - 10 ^ digitLimit)) (.integer 0)) := by
  have short : (1 - 10 ^ digitLimit : Int).natAbs < 10 ^ digitLimit := by
    have positive : 0 < 10 ^ digitLimit := Nat.pow_pos (by decide)
    have cast : ((10 ^ digitLimit : Nat) : Int) = 10 ^ digitLimit := Nat.cast_pow 10 digitLimit
    omega
  rcases (division_restores (1 - 10 ^ digitLimit) (-7)).1 short (by decide) with
    ⟨quotient, remainder, divided, _, reduced, small, _, multiplied, added, evaluated⟩
  refine ⟨⟨quotient, remainder, divided, reduced, small, multiplied, added⟩, ?_, ?_⟩
  · exact evaluated _ _ _ (.integer (1 - 10 ^ digitLimit)) (.integer (-7)) rfl rfl
  · exact (division_restores (1 - 10 ^ digitLimit) 0).2 rfl "%" (by decide)

end Jet
