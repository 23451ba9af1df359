import Jet.Proofs.Number.Rounding
import Jet.Proofs.Value.Division
import Jet.Proofs.Value.Equality

/-!
# Arithmetic on an integer and a float

Arithmetic on an integer and a float is done in doubles, so the integer has to have one.  Whether it
does depends on nothing but the integer: not on the operator, the order of the operands or the
float, which may be zero, infinite or no number at all.  Only a division by zero is told before.
Comparisons convert nothing, and never go wrong.
-/

namespace Jet

/-! ## Zero -/

namespace Value

variable {value : Value} {number : Number}

/-- A number counts as zero if it stands for zero. -/
theorem rational?_eq_zero_iff
    (isNumber : Number.ofValue? value = some number) :
    value.rational? = some 0 ↔ number.isZero = true := by
  cases value with
  | integer whole =>
      cases isNumber
      simp [rational?, Number.isZero]
  | float double =>
      cases isNumber
      cases double with
      | finite negative mantissa exponent =>
          have power : (2 : ℚ) ^ exponent ≠ 0 := zpow_ne_zero exponent two_ne_zero
          cases negative <;> simp [rational?, Number.isZero, Double.isZero, power]
      | nan | infinite => simp [rational?, Number.isZero, Double.isZero]
  | _ => cases isNumber

end Value

/-! ## Operators on numbers -/

namespace BinaryOperator

/-- Whether an operator divides. -/
def divides : BinaryOperator → Bool
  | divide | remainder => true
  | _ => false

/-- The symbols of arithmetic stand for operators that do not compare. -/
theorem exists_of_arithmetic {symbol : String}
    (arithmetic : symbol ∈ ["+", "-", "*", "/", "%"]) :
    ∃ operator, ofSymbol? symbol = some operator ∧
      (∀ comparison, operator ≠ .compare comparison) ∧
        (operator.divides = true ↔ symbol ∈ ["/", "%"]) := by
  simp only [List.mem_cons, List.not_mem_nil, or_false] at arithmetic
  rcases arithmetic with rfl | rfl | rfl | rfl | rfl
  · exact ⟨.add, rfl, nofun, by decide⟩
  · exact ⟨.subtract, rfl, nofun, by decide⟩
  · exact ⟨.multiply, rfl, nofun, by decide⟩
  · exact ⟨.divide, rfl, nofun, by decide⟩
  · exact ⟨.remainder, rfl, nofun, by decide⟩

variable {operator : BinaryOperator} {overflow : Fault} {left right : Number} {message : String}

/-- What is done with doubles is no error, so an error says that an operand has no double. -/
theorem endsInError_converted_iff {operation : Double → Double → Except Halt Value}
    (noError : ∀ first second, ¬ EndsInError message (operation first second)) :
    EndsInError message (onNumbers.converted overflow left right operation) ↔
      (left.toDouble? = none ∨ right.toDouble? = none) ∧ overflow.message = message := by
  unfold onNumbers.converted
  cases left.toDouble? with
  | none => exact ⟨fun ended => ⟨.inl rfl, ended⟩, fun both => both.2⟩
  | some first =>
      cases right.toDouble? with
      | none => exact ⟨fun ended => ⟨.inr rfl, ended⟩, fun both => both.2⟩
      | some second =>
          refine iff_of_false (noError first second) ?_
          rintro ⟨noFirst | noSecond, _⟩
          · cases noFirst
          · cases noSecond

/-- Arithmetic is done in doubles, unless it is a division by zero. -/
theorem onNumbers_of_arithmetic (overflow : Fault) (left right : Number)
    (arithmetic : ∀ comparison, operator ≠ .compare comparison) :
    ∃ operation : Double → Double → Except Halt Value,
      (∀ message first second, ¬ EndsInError message (operation first second)) ∧
        operator.onNumbers overflow left right =
          if operator.divides && right.isZero then .ok (.error .divisionByZero)
          else onNumbers.converted overflow left right operation := by
  cases operator with
  | add => exact ⟨fun first second => floatResult (first.add second), fun _ _ _ => id, rfl⟩
  | subtract => exact ⟨fun first second => floatResult (first.sub second), fun _ _ _ => id, rfl⟩
  | multiply => exact ⟨fun first second => floatResult (first.mul second), fun _ _ _ => id, rfl⟩
  | divide => exact ⟨fun first second => floatResult (first.div second), fun _ _ _ => id, rfl⟩
  | remainder =>
      -- The operation is left to the definition, which has two cases for it.
      refine ⟨_, fun message first second => ?_, rfl⟩
      split
      · exact id
      · exact id
  | compare comparison => exact absurd rfl (arithmetic comparison)

/-- Arithmetic ends with the error of an overflow if an operand has no double, and nothing before. -/
theorem endsInError_onNumbers_iff
    (arithmetic : ∀ comparison, operator ≠ .compare comparison)
    (other : Fault.divisionByZero.message ≠ overflow.message) :
    EndsInError overflow.message (operator.onNumbers overflow left right) ↔
      (left.toDouble? = none ∨ right.toDouble? = none) ∧
        (operator.divides = true → right.isZero = false) := by
  rcases onNumbers_of_arithmetic overflow left right arithmetic with ⟨operation, noError, equal⟩
  rw [equal]
  cases division : operator.divides && right.isZero with
  | true =>
      rw [Bool.and_eq_true] at division
      refine iff_of_false other ?_
      rintro ⟨_, nonzero⟩
      exact Bool.false_ne_true ((nonzero division.1).symm.trans division.2)
  | false =>
      rw [if_neg Bool.false_ne_true, endsInError_converted_iff (noError _)]
      rw [Bool.and_eq_false_imp] at division
      exact ⟨fun both => ⟨both.1, division⟩, fun both => ⟨both.1, rfl⟩⟩

end BinaryOperator

/-! ## Mixed operands -/

/-- Whether two values are an integer and a float, in either order. -/
inductive Value.AreMixed (whole : Int) : Value → Value → Prop where
  | integerFirst (number : Double) : AreMixed whole (.integer whole) (.float number)
  | floatFirst (number : Double) : AreMixed whole (.float number) (.integer whole)

section

variable {whole : Int} {left right : Value}

/-- An integer and a float are two numbers, of which one may have no double. -/
theorem Value.AreMixed.exists_numbers
    (mixed : Value.AreMixed whole left right) :
    ∃ first second, Number.ofValue? right = some second ∧
      ((first.toDouble? = none ∨ second.toDouble? = none) ↔ Double.ofInt? whole = none) ∧
      ∀ {symbol operator}, BinaryOperator.ofSymbol? symbol = some operator →
        binaryOperation symbol left right =
          operator.onNumbers (.numericOverflow left.kind symbol right.kind) first second := by
  cases mixed with
  | integerFirst number =>
      refine ⟨.integer whole, .double number, rfl, by simp [Number.toDouble?], ?_⟩
      intro symbol operator known
      simp only [binaryOperation, Number.ofValue?, known]
  | floatFirst number =>
      refine ⟨.double number, .integer whole, rfl, by simp [Number.toDouble?], ?_⟩
      intro symbol operator known
      simp only [binaryOperation, Number.ofValue?, known]

/-- The message of an overflow is not that of a division by zero. -/
theorem Fault.divisionByZero_message_ne (left right : ValueKind) (symbol : String) :
    divisionByZero.message ≠ (numericOverflow left symbol right).message := by
  intro equal
  have begins : "division by zero".toList = "numeric overflow: ".toList ++ _ :=
    (congrArg String.toList equal).trans String.toList_append
  simp at begins

end

/--
Arithmetic on an integer and a float is an overflow exactly if the integer lies at or beyond the
middle between the greatest finite double and the power of two behind it, and is not divided by
zero; a division by zero is told as such.  A comparison of the two always has a result.
-/
theorem mixed_overflow_iff {whole : Int} {left right : Value}
    (mixed : Value.AreMixed whole left right) :
    (∀ operator ∈ ["+", "-", "*", "/", "%"],
      (EndsInError
            ("numeric overflow: " ++
              (left.kind.name ++ " " ++ operator ++ " " ++ right.kind.name))
            (binaryOperation operator left right) ↔
          2 ^ 1024 - 2 ^ 970 ≤ whole.natAbs ∧
            (operator ∈ ["/", "%"] → right.rational? ≠ some 0)) ∧
        (operator ∈ ["/", "%"] → right.rational? = some 0 →
          EndsInError "division by zero" (binaryOperation operator left right))) ∧
      ∀ operator ∈ ["<", ">", "<=", ">=", "==", "!="],
        ∃ outcome, binaryOperation operator left right = .ok (.boolean outcome) := by
  rcases mixed.exists_numbers with ⟨first, second, isSecond, noDouble, applied⟩
  have zero := Value.rational?_eq_zero_iff isSecond
  constructor
  · intro symbol arithmetic
    rcases BinaryOperator.exists_of_arithmetic arithmetic with
      ⟨operator, known, notComparison, divides⟩
    rw [applied known, ← divides]
    constructor
    · refine (BinaryOperator.endsInError_onNumbers_iff notComparison
        (Fault.divisionByZero_message_ne _ _ _)).trans ?_
      rw [noDouble, Double.ofInt?_eq_none_iff, Ne, zero, Bool.not_eq_true]
    · intro division isZero
      rcases BinaryOperator.onNumbers_of_arithmetic (.numericOverflow left.kind symbol right.kind)
        first second notComparison with ⟨operation, _, equal⟩
      rw [equal, division, zero.mp isZero]
      rfl
  · intro symbol compares
    rcases BinaryOperator.exists_of_comparison compares with ⟨comparison, known⟩
    exact ⟨_, applied known⟩

/--
The lowest integer beyond the range overflows even with what is not a number, and the one in front
of it does not; zero divides neither.
-/
theorem mixed_overflow_iff_boundary :
    ∃ bound : Nat, bound = 2 ^ 1024 - 2 ^ 970 ∧
      EndsInError "numeric overflow: INTEGER + FLOAT"
        (binaryOperation "+" (.integer bound) (.float (.nan 0))) ∧
      ¬ EndsInError "numeric overflow: FLOAT % INTEGER"
        (binaryOperation "%" (.float (.infinite true)) (.integer (bound - 1 : Nat))) ∧
      EndsInError "division by zero"
        (binaryOperation "/" (.integer bound) (.float (.zero true))) ∧
      ∃ outcome,
        binaryOperation "<=" (.float (.infinite true)) (.integer (bound - 1 : Nat)) =
          .ok (.boolean outcome) := by
  -- The bound is kept as a number without digits, so that it is never computed.
  obtain ⟨bound, equal, positive⟩ : ∃ bound : Nat, bound = 2 ^ 1024 - 2 ^ 970 ∧ 0 < bound :=
    ⟨_, rfl, Nat.sub_pos_of_lt (pow_lt_pow_right₀ one_lt_two (by decide))⟩
  have isZero : Value.rational? (.float (.zero true)) = some 0 := by
    rw [Double.zero, Value.rational?, Nat.cast_zero, mul_zero, zero_mul]
  have beyond (number : Double) := mixed_overflow_iff (@Value.AreMixed.integerFirst bound number)
  have within := mixed_overflow_iff
    (@Value.AreMixed.floatFirst (bound - 1 : Nat) (.infinite true))
  refine ⟨bound, equal, ?_, ?_, ?_, within.2 "<=" (by decide)⟩
  · refine ((beyond (.nan 0)).1 "+" (by decide)).1.mpr ⟨?_, fun member => ?_⟩
    · rw [← equal, Int.natAbs_natCast]
    · exact absurd member (by decide)
  · intro ended
    have reached := ((within.1 "%" (by decide)).1.mp ended).1
    rw [← equal, Int.natAbs_natCast] at reached
    exact absurd reached (Nat.not_le.mpr (Nat.sub_lt positive Nat.one_pos))
  · exact ((beyond (.zero true)).1 "/" (by decide)).2 (by decide) isZero

end Jet
