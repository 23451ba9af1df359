import Jet.Operator

/-!
# Remainders that have no value

An operator gives a value or an error for all operands but some of the remainder: an infinite
dividend with a divisor that is neither zero nor no number at all.  Such a remainder has no result
of any kind, where every other misuse of an operator is answered by an error.
-/

namespace Jet

/-! ## Integers as doubles -/

namespace Double

/-- The unit of a natural number is not above its leading binary digit. -/
theorem unitExponent_le_log2 (numerator : Nat) :
    unitExponent numerator 1 ≤ numerator.log2 := by
  have one : Nat.log2 1 = 0 := rfl
  unfold unitExponent mantissaBits minExponent
  rw [one]
  dsimp only
  split <;> omega

/-- A fraction that is not below one does not become zero when it is rounded. -/
theorem nearest_ne_zero {numerator denominator : Nat}
    (positive : 0 < denominator) (above : denominator ≤ numerator) :
    nearest numerator denominator ≠ 0 := by
  have whole : 0 < numerator / denominator := Nat.div_pos above positive
  unfold nearest
  dsimp only
  split <;> omega

/-- A natural number other than zero is rounded to a number other than zero. -/
theorem isZero_ofQuotient_one {numerator : Nat}
    (nonzero : numerator ≠ 0) (negative : Bool) :
    (ofQuotient negative numerator 1).isZero = false := by
  have pack (mantissa : Nat) (nonzero : mantissa ≠ 0) (exponent : Int) :
      (pack negative mantissa exponent).isZero = false := by
    unfold Double.pack
    split
    · rfl
    · exact beq_false_of_ne nonzero
  have scale : ∀ exponent : Int, exponent ≤ numerator.log2 →
      nearest (scaled numerator 1 exponent).1 (scaled numerator 1 exponent).2 ≠ 0 := by
    intro exponent below
    cases exponent with
    | ofNat up =>
        refine nearest_ne_zero (Nat.mul_pos Nat.one_pos (Nat.pow_pos Nat.two_pos)) ?_
        calc
          1 * Nat.pow 2 up = 2 ^ up := Nat.one_mul _
          _ ≤ 2 ^ numerator.log2 := Nat.pow_le_pow_right Nat.two_pos (Int.ofNat_le.mp below)
          _ ≤ numerator := Nat.log2_self_le nonzero
    | negSucc down =>
        exact nearest_ne_zero Nat.one_pos
          (Nat.mul_pos (Nat.pos_of_ne_zero nonzero) (Nat.pow_pos Nat.two_pos))
  unfold ofQuotient
  rw [if_neg nonzero]
  dsimp only
  split
  · exact pack _ (scale _ (unitExponent_le_log2 numerator)) _
  · exact pack _ (Nat.ne_of_gt (Nat.pow_pos Nat.two_pos)) _

theorem isZero_of_ofInt? {value : Int} {number : Double}
    (nonzero : value ≠ 0) (converted : ofInt? value = some number) :
    number.isZero = false := by
  unfold ofInt? at converted
  split at converted
  · cases converted
  · cases converted
    exact isZero_ofQuotient_one (Int.natAbs_ne_zero.mpr nonzero) _

/-- No integer is rounded to an infinite number. -/
theorem ofInt?_ne_infinite (value : Int) (negative : Bool) :
    ofInt? value ≠ some (.infinite negative) := by
  unfold ofInt?
  split
  · exact nofun
  · rename_i finite
    intro equal
    exact finite negative (Option.some.inj equal)

/-- Which remainders do not exist, the divisor being other than zero. -/
theorem remainder?_eq_none_iff {left right : Double}
    (nonzero : right.isZero = false) :
    left.remainder? right = none ↔
      (∃ negative, left = .infinite negative) ∧ right.isNaN = false := by
  cases left with
  | nan tag => simp [remainder?]
  | infinite negative => cases right <;> simp [remainder?, isNaN]
  | finite negative mantissa exponent =>
      cases right with
      | nan tag | infinite => simp [remainder?]
      | finite other mantissa' exponent' =>
          have divisible : mantissa' ≠ 0 := by simpa [isZero] using nonzero
          rw [remainder?, if_neg divisible]
          dsimp only
          split <;> simp

end Double

/-! ## Operators -/

/-- Whether a remainder has neither a value nor an error for an answer. -/
def IsUndefinedRemainder (left right : Number) : Prop :=
  (∃ negative, left = .double (.infinite negative)) ∧ right.isZero = false ∧
    ∃ divisor, right.toDouble? = some divisor ∧ divisor.isNaN = false

theorem Number.isZero_of_toDouble? {number : Number} {double : Double}
    (nonzero : number.isZero = false) (converted : number.toDouble? = some double) :
    double.isZero = false := by
  cases number with
  | integer value =>
      exact Double.isZero_of_ofInt? (ne_of_beq_false nonzero) converted
  | double value =>
      cases converted
      exact nonzero

/-- Only a number that is infinite already is infinite as a double. -/
theorem Number.eq_infinite {number : Number} {negative : Bool}
    (converted : number.toDouble? = some (.infinite negative)) :
    ∃ negative, number = .double (.infinite negative) := by
  cases number with
  | integer value => exact absurd converted (Double.ofInt?_ne_infinite value negative)
  | double value =>
      cases converted
      exact ⟨negative, rfl⟩

theorem BinaryOperator.converted_ne_error {overflow : Fault} {left right : Number}
    (operation : Double → Double → Double) (halt : Halt) :
    onNumbers.converted overflow left right
      (fun left right => floatResult (operation left right)) ≠ .error halt := by
  unfold onNumbers.converted
  split <;> exact nofun

/-- An operator on numbers has no answer only if it is an undefined remainder. -/
theorem BinaryOperator.onNumbers_eq_error_iff {overflow : Fault} {left right : Number}
    {operator : BinaryOperator} {halt : Halt} :
    operator.onNumbers overflow left right = .error halt ↔
      halt = .undefinedRemainder ∧ operator = .remainder ∧ IsUndefinedRemainder left right := by
  cases operator with
  | compare comparison => exact ⟨nofun, nofun⟩
  | add | subtract | multiply =>
      exact ⟨fun failed => absurd failed (converted_ne_error _ _), nofun⟩
  | divide =>
      refine ⟨fun failed => ?_, nofun⟩
      rw [onNumbers] at failed
      split at failed
      · cases failed
      · exact absurd failed (converted_ne_error _ _)
  | remainder =>
      rw [onNumbers]
      cases zero : right.isZero with
      | true => exact ⟨nofun, fun undefined => by simp [IsUndefinedRemainder, zero] at undefined⟩
      | false =>
          rw [if_neg Bool.false_ne_true]
          constructor
          · intro failed
            unfold onNumbers.converted at failed
            split at failed
            · rename_i dividend divisor leftConverted rightConverted
              have nonzero := Number.isZero_of_toDouble? zero rightConverted
              dsimp only at failed
              split at failed
              · cases failed
              · rename_i none
                cases failed
                rcases (Double.remainder?_eq_none_iff nonzero).mp none with ⟨⟨negative, rfl⟩, notNaN⟩
                exact ⟨rfl, rfl, Number.eq_infinite leftConverted, zero, divisor, rightConverted,
                  notNaN⟩
            · cases failed
          · rintro ⟨rfl, _, ⟨negative, rfl⟩, _, divisor, converted, notNaN⟩
            have nonzero := Number.isZero_of_toDouble? zero converted
            have none : (Double.infinite negative).remainder? divisor = none :=
              (Double.remainder?_eq_none_iff nonzero).mpr ⟨⟨negative, rfl⟩, notNaN⟩
            rw [onNumbers.converted, converted]
            dsimp only [Number.toDouble?]
            rw [none]

theorem BinaryOperator.ofSymbol?_eq_remainder_iff {operator : String} :
    ofSymbol? operator = some .remainder ↔ operator = "%" := by
  refine ⟨fun symbol => ?_, fun equal => equal ▸ rfl⟩
  unfold ofSymbol? at symbol
  split at symbol <;> first | rfl | cases symbol

/-- An operator on values has no answer only if it is an undefined remainder of numbers. -/
theorem binaryOperation_eq_error_iff {operator : String} {left right : Value} {halt : Halt} :
    binaryOperation operator left right = .error halt ↔
      halt = .undefinedRemainder ∧ operator = "%" ∧
        ∃ dividend divisor, Number.ofValue? left = some dividend ∧
          Number.ofValue? right = some divisor ∧ IsUndefinedRemainder dividend divisor := by
  unfold binaryOperation
  split
  · refine ⟨fun failed => (by split at failed <;> cases failed), ?_⟩
    rintro ⟨_, _, _, _, ⟨⟩, _, ⟨_, ⟨⟩⟩, _⟩
  · refine ⟨fun failed => (by split at failed <;> cases failed), ?_⟩
    rintro ⟨_, _, _, _, ⟨⟩, _⟩
  · split
    · rename_i dividend divisor leftNumber rightNumber
      rw [leftNumber, rightNumber]
      cases symbol : BinaryOperator.ofSymbol? operator with
      | none =>
          refine ⟨nofun, ?_⟩
          rintro ⟨_, remainder, _⟩
          cases symbol.symm.trans (BinaryOperator.ofSymbol?_eq_remainder_iff.mpr remainder)
      | some operation =>
          rw [← BinaryOperator.ofSymbol?_eq_remainder_iff, symbol, Option.some.injEq]
          refine BinaryOperator.onNumbers_eq_error_iff.trans ?_
          simp
    · rename_i noNumbers
      refine ⟨nofun, ?_⟩
      rintro ⟨_, _, dividend, divisor, leftNumber, rightNumber, _⟩
      exact absurd rightNumber (noNumbers dividend divisor leftNumber)

end Jet
