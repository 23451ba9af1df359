import Jet.Operator
import Jet.Proofs.Number.Numeral
import Jet.Value.Display

/-!
# Integers with too many digits

An integer can be written only if it has no more decimal digits than a limit allows.  Powers of ten
tell which integers have too many, and the number of binary digits is looked at before only to spare
the comparison with a power of ten: three binary digits stand for eight numbers, one decimal digit
for ten, so that an integer with too many decimal digits has more than three times as many binary
ones.  Thus the look never changes the outcome, at any limit, and an integer is refused exactly if
it cannot be written.
-/

namespace Jet

/-! ## Binary digits -/

/-- An integer has more binary digits than a number from that power of two on. -/
theorem lt_bitLength_iff {count : Nat} {value : Int} :
    count < bitLength value ↔ 2 ^ count ≤ value.natAbs := by
  rw [bitLength]
  split
  · rename_i zero
    rw [zero]
    exact iff_of_false (Nat.not_lt_zero count) (Nat.not_le.mpr (Nat.two_pow_pos count))
  · rename_i nonzero
    rw [Nat.lt_succ_iff]
    exact Nat.le_log2 (Int.natAbs_ne_zero.mpr nonzero)

/-- From a power of ten on there are more than three binary digits for every decimal one. -/
theorem lt_bitLength_of_pow_le {limit : Nat} {value : Int}
    (long : 10 ^ limit ≤ value.natAbs) :
    3 * limit < bitLength value := by
  rw [lt_bitLength_iff]
  calc
    2 ^ (3 * limit) = (2 ^ 3) ^ limit := Nat.pow_mul 2 3 limit
    _ ≤ 10 ^ limit := Nat.pow_le_pow_left (by decide) limit
    _ ≤ value.natAbs := long

/-- The look at the binary digits makes no difference. -/
theorem exceedsDigits_iff {limit : Nat} {value : Int} :
    exceedsDigits limit value = true ↔ 10 ^ limit ≤ value.natAbs := by
  rw [exceedsDigits, Bool.and_eq_true, decide_eq_true_iff, decide_eq_true_iff]
  exact and_iff_right_of_imp lt_bitLength_of_pow_le

/-- An integer below the power of ten does not exceed the limit. -/
theorem exceedsDigits_eq_false_iff {limit : Nat} {value : Int} :
    exceedsDigits limit value = false ↔ value.natAbs < 10 ^ limit := by
  rw [← Bool.not_eq_true, exceedsDigits_iff, Nat.not_le]

/-! ## Decimal digits -/

/-- The number of digits in a text. -/
def digitCount (text : String) : Nat :=
  text.toList.countP Char.isDigit

/-- A numeral has nothing but digits. -/
theorem digitCount_of_isNumeral {text : String}
    (numeral : isNumeral text = true) :
    digitCount text = text.toList.length := by
  rw [isNumeral, Bool.and_eq_true, List.all_eq_true] at numeral
  exact List.countP_eq_length.mpr numeral.2

/-- The digits in the text of an integer are those of its absolute value, since a minus is none. -/
theorem digitCount_display_integer (value : Int) :
    digitCount (Value.integer value).display = (Nat.toDigits 10 value.natAbs).length := by
  have digits (number : Nat) : digitCount number.repr = (Nat.toDigits 10 number).length := by
    rw [digitCount_of_isNumeral (isNumeral_repr number), Nat.toList_repr]
  rw [Value.display]
  cases value with
  | ofNat number => exact digits number
  | negSucc number =>
      have text : (toString (Int.negSucc number)).toList =
          '-' :: (number + 1).repr.toList := String.toList_append
      rw [digitCount, text, List.countP_cons_of_neg (by decide)]
      exact digits (number + 1)

/-- Integers with more digits than a number, which is not zero, begin at that power of ten. -/
theorem lt_digitCount_iff {limit : Nat}
    (limited : 1 ≤ limit) (value : Int) :
    limit < digitCount (Value.integer value).display ↔ 10 ^ limit ≤ value.natAbs := by
  rw [digitCount_display_integer, ← Nat.not_le, Nat.length_toDigits_le_iff (by decide) limited,
    Nat.not_lt]

/-! ## Writing integers -/

/--
The text of an integer, where no text may have more than a number of digits; if this number is zero,
any text may be written.
-/
def writtenInteger? (limit : Nat) (value : Int) : Option String :=
  let text := (Value.integer value).display
  if limit ≠ 0 ∧ limit < digitCount text then none else some text

/-- An integer that can be written is written as it is shown. -/
theorem eq_display_of_written {limit : Nat} {value : Int} {text : String}
    (written : writtenInteger? limit value = some text) :
    text = (Value.integer value).display := by
  rw [writtenInteger?] at written
  split at written
  · cases written
  · exact (Option.some.inj written).symm

/-- An integer is refused if it cannot be written, and else left as it is. -/
theorem limitedInteger_eq (limit : Nat) (value : Int) :
    limitedInteger limit value =
      match writtenInteger? limit value with
      | none => .error (.integerTooLarge limit)
      | some _ => .integer value := by
  have alike : (limit ≠ 0 && exceedsDigits limit value) = true ↔
      limit ≠ 0 ∧ limit < digitCount (Value.integer value).display := by
    rw [Bool.and_eq_true, decide_eq_true_iff]
    refine and_congr_right fun limited => ?_
    rw [exceedsDigits_iff, lt_digitCount_iff (Nat.pos_of_ne_zero limited)]
  rw [limitedInteger, writtenInteger?]
  by_cases long : limit ≠ 0 ∧ limit < digitCount (Value.integer value).display
  · rw [if_pos (alike.mpr long), if_pos long]
  · rw [if_neg (mt alike.mp long), if_neg long]

theorem limitedInteger_eq_error_iff {limit : Nat} {value : Int} :
    limitedInteger limit value = .error (.integerTooLarge limit) ↔
      writtenInteger? limit value = none := by
  rw [limitedInteger_eq]
  cases writtenInteger? limit value with
  | none => exact iff_of_true rfl rfl
  | some text => exact iff_of_false nofun nofun

theorem limitedInteger_eq_integer_iff {limit : Nat} {value : Int} :
    limitedInteger limit value = .integer value ↔
      writtenInteger? limit value = some (Value.integer value).display := by
  rw [limitedInteger_eq]
  cases written : writtenInteger? limit value with
  | none => exact iff_of_false nofun nofun
  | some text => exact iff_of_true rfl (congrArg some (eq_display_of_written written))

/-- The results of three operators on integers are limited. -/
theorem binaryOperation_integers_eq_limited {symbol : String} {left right value : Int}
    (computes : (symbol, value) ∈
      [("+", left + right), ("-", left - right), ("*", left * right)]) :
    binaryOperation symbol (.integer left) (.integer right) =
      .ok (limitedInteger digitLimit value) := by
  simp only [List.mem_cons, Prod.mk.injEq, List.not_mem_nil, or_false] at computes
  rcases computes with ⟨rfl, rfl⟩ | ⟨rfl, rfl⟩ | ⟨rfl, rfl⟩ <;> rfl

/--
Whatever the limit is, an integer exceeds it exactly if its absolute value is no less than that
power of ten, which is if its decimal text has more digits.  So it is refused exactly if it cannot
be written, and the same goes for sums, differences and products at the limit that holds for them.
-/
theorem limitedInteger_exact {limit : Nat} (limited : 1 ≤ limit) (value : Int) :
    (exceedsDigits limit value = true ↔ 10 ^ limit ≤ value.natAbs) ∧
      (exceedsDigits limit value = true ↔ limit < digitCount (Value.integer value).display) ∧
      (limitedInteger limit value = .error (.integerTooLarge limit) ↔
        writtenInteger? limit value = none) ∧
      (limitedInteger limit value = .integer value ↔
        writtenInteger? limit value = some (Value.integer value).display) ∧
      ∀ symbol left right,
        (symbol, value) ∈ [("+", left + right), ("-", left - right), ("*", left * right)] →
        (binaryOperation symbol (.integer left) (.integer right) =
            .ok (.error (.integerTooLarge digitLimit)) ↔
          writtenInteger? digitLimit value = none) ∧
        (binaryOperation symbol (.integer left) (.integer right) = .ok (.integer value) ↔
          writtenInteger? digitLimit value = some (Value.integer value).display) := by
  refine ⟨exceedsDigits_iff, exceedsDigits_iff.trans (lt_digitCount_iff limited value).symm,
    limitedInteger_eq_error_iff, limitedInteger_eq_integer_iff, ?_⟩
  intro symbol left right computes
  rw [binaryOperation_integers_eq_limited computes, Except.ok.injEq, Except.ok.injEq]
  exact ⟨limitedInteger_eq_error_iff, limitedInteger_eq_integer_iff⟩

/-- With two digits, minus one hundred is the first integer below zero that is refused. -/
theorem limitedInteger_exact_negative :
    exceedsDigits 2 (-100) = true ∧
      limitedInteger 2 (-100) = .error (.integerTooLarge 2) ∧
      limitedInteger 2 (-99) = .integer (-99) ∧
      binaryOperation "-" (.integer (-99)) (.integer 1) = .ok (.integer (-100)) := by
  have limited : 1 ≤ 2 := by decide
  rcases limitedInteger_exact limited (-100) with ⟨exceeds, _, refused, _, computed⟩
  rcases limitedInteger_exact limited (-99) with ⟨_, _, _, written, _⟩
  refine ⟨exceeds.mpr (by decide), refused.mpr (by decide), written.mpr (by decide), ?_⟩
  exact (computed "-" (-99) 1 (by decide)).2.mpr (by decide)

end Jet
