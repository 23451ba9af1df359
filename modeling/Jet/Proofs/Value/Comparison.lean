import Jet.Proofs.Value.Equality
import Mathlib.Algebra.Order.Ring.Rat
import Mathlib.Order.WithBot
import Mathlib.Tactic.NormNum

/-!
# Comparison of numbers

Every number but one that is not a number has a place on the line of the rational numbers with an
end on either side.  Each operator that compares two numbers compares their places, of whichever
kinds the numbers are and however large they are: nothing is rounded before it is compared.  So
the numbers of both kinds together are in one linear order, and numbers that are equal compare alike
with all others.
-/

namespace Jet

/-- The rational numbers with an end on either side. -/
abbrev ExtendedRational : Type :=
  WithBot (WithTop ℚ)

namespace ExtendedRational

/-- A rational number on the line. -/
def ofRat (value : ℚ) : ExtendedRational :=
  ((value : WithTop ℚ) : WithBot (WithTop ℚ))

@[simp]
theorem ofRat_lt_ofRat {first second : ℚ} : ofRat first < ofRat second ↔ first < second :=
  WithBot.coe_lt_coe.trans WithTop.coe_lt_coe

@[simp]
theorem ofRat_inj {first second : ℚ} : ofRat first = ofRat second ↔ first = second :=
  WithBot.coe_inj.trans WithTop.coe_inj

@[simp]
theorem ofRat_lt_top (value : ℚ) : ofRat value < ⊤ :=
  WithBot.coe_lt_coe.mpr (WithTop.coe_lt_top value)

@[simp]
theorem bot_lt_ofRat (value : ℚ) : ⊥ < ofRat value :=
  WithBot.bot_lt_coe _

end ExtendedRational

/-- How a comparison in a linear order comes out. -/
def Comparison.ofOrder {α : Type} [LinearOrder α] (left right : α) : Comparison → Bool
  | .less => left < right
  | .greater => right < left
  | .lessEqual => left ≤ right
  | .greaterEqual => right ≤ left
  | .equal => left = right
  | .notEqual => left ≠ right

namespace Exact

/-- The place of an exact value on the line, unless it is not a number. -/
def place? : Exact → Option ExtendedRational
  | finite value => some (.ofRat value)
  | infinite true => some ⊥
  | infinite false => some ⊤
  | nan _ => none

variable {left right : Exact} {x y : ExtendedRational}

theorem less_eq_decide
    (isLeft : left.place? = some x) (isRight : right.place? = some y) :
    left.less right = decide (x < y) := by
  rcases left with first | ⟨_ | _⟩ | _ <;> rcases right with second | ⟨_ | _⟩ | _ <;>
    cases isLeft <;> cases isRight <;> simp [less, (ExtendedRational.ofRat_lt_top _).not_gt]

theorem equal_eq_decide
    (isLeft : left.place? = some x) (isRight : right.place? = some y) :
    left.equal right = decide (x = y) := by
  rcases left with first | ⟨_ | _⟩ | _ <;> rcases right with second | ⟨_ | _⟩ | _ <;>
    cases isLeft <;> cases isRight <;>
      simp [equal, (ExtendedRational.ofRat_lt_top _).ne, (ExtendedRational.ofRat_lt_top _).ne',
        (ExtendedRational.bot_lt_ofRat _).ne, (ExtendedRational.bot_lt_ofRat _).ne', beq_eq_decide]

end Exact

/-- Exact values are compared by their places. -/
theorem Comparison.ofExact_eq_ofOrder {left right : Exact} {x y : ExtendedRational}
    (isLeft : left.place? = some x) (isRight : right.place? = some y) (comparison : Comparison) :
    comparison.ofExact left right = comparison.ofOrder x y := by
  have less := Exact.less_eq_decide isLeft isRight
  have greater := Exact.less_eq_decide isRight isLeft
  have equal := Exact.equal_eq_decide isLeft isRight
  have reversed := Exact.equal_eq_decide isRight isLeft
  cases comparison with
  | less => exact less
  | greater => exact greater
  | lessEqual =>
      rw [ofExact, Exact.lessEqual, less, equal, ← Bool.decide_or, ofOrder]
      exact decide_eq_decide.mpr le_iff_lt_or_eq.symm
  | greaterEqual =>
      rw [ofExact, Exact.lessEqual, greater, reversed, ← Bool.decide_or, ofOrder]
      exact decide_eq_decide.mpr le_iff_lt_or_eq.symm
  | equal => exact equal
  | notEqual =>
      rw [ofExact, equal, ofOrder]
      exact (decide_not ..).symm

namespace Value

/--
The place of a number on the line: an integer and a finite float stand for a rational number, and an
infinite float is one of the ends.
-/
def place? : Value → Option ExtendedRational
  | float (.infinite true) => some ⊥
  | float (.infinite false) => some ⊤
  | value => value.rational?.map .ofRat

variable {value : Value} {x : ExtendedRational}

/-- Every number has a place, unless it is not a number. -/
theorem exists_place?
    (isNumber : value.IsNumber) (notNaN : value.isNaN = false) :
    ∃ x, value.place? = some x := by
  cases value with
  | integer whole => exact ⟨_, rfl⟩
  | float number =>
      cases number with
      | nan => cases notNaN
      | infinite negative => cases negative <;> exact ⟨_, rfl⟩
      | finite => exact ⟨_, rfl⟩
  | _ => rcases isNumber with kind | kind <;> cases kind

/-- The place of a number is that of its exact value. -/
theorem exists_number_of_place?
    (place : value.place? = some x) :
    ∃ number, Number.ofValue? value = some number ∧ number.exact.place? = some x := by
  cases value with
  | integer whole =>
      cases place
      exact ⟨_, rfl, rfl⟩
  | float number =>
      cases number with
      | nan => cases place
      | infinite negative =>
          cases negative <;>
          · cases place
            exact ⟨_, rfl, rfl⟩
      | finite negative mantissa exponent =>
          cases place
          exact ⟨_, rfl, congrArg (fun value => some (ExtendedRational.ofRat value))
            (Double.ratio_eq negative mantissa exponent)⟩
  | _ => cases place

end Value

/-- An operator that compares two numbers compares their places. -/
theorem binaryOperation_of_places {left right : Value} {x y : ExtendedRational} {operator : String}
    {comparison : Comparison}
    (isLeft : left.place? = some x) (isRight : right.place? = some y)
    (known : BinaryOperator.ofSymbol? operator = some (.compare comparison)) :
    binaryOperation operator left right = .ok (.boolean (comparison.ofOrder x y)) := by
  rcases Value.exists_number_of_place? isLeft with ⟨leftNumber, leftFound, leftPlace⟩
  rcases Value.exists_number_of_place? isRight with ⟨rightNumber, rightFound, rightPlace⟩
  rw [binaryOperation_of_comparison known leftFound rightFound,
    Comparison.ofExact_eq_ofOrder leftPlace rightPlace]

/-- Whether an operator that compares two values says that it is so. -/
def Holds (operator : String) (left right : Value) : Prop :=
  binaryOperation operator left right = .ok (.boolean true)

section

variable {left right : Value} {x y : ExtendedRational}
  (isLeft : left.place? = some x) (isRight : right.place? = some y)

include isLeft isRight

theorem holds_iff_ofOrder {operator : String} {comparison : Comparison}
    (known : BinaryOperator.ofSymbol? operator = some (.compare comparison)) :
    Holds operator left right ↔ comparison.ofOrder x y = true := by
  rw [Holds, binaryOperation_of_places isLeft isRight known]
  simp

theorem holds_less_iff : Holds "<" left right ↔ x < y := by
  rw [holds_iff_ofOrder isLeft isRight rfl]
  exact decide_eq_true_iff

theorem holds_greater_iff : Holds ">" left right ↔ y < x := by
  rw [holds_iff_ofOrder isLeft isRight rfl]
  exact decide_eq_true_iff

theorem holds_lessEqual_iff : Holds "<=" left right ↔ x ≤ y := by
  rw [holds_iff_ofOrder isLeft isRight rfl]
  exact decide_eq_true_iff

theorem holds_equal_iff : Holds "==" left right ↔ x = y := by
  rw [holds_iff_ofOrder isLeft isRight rfl]
  exact decide_eq_true_iff

/-- Two numbers that have a place are in exactly one of the three ways. -/
theorem existsUnique_holds :
    ∃! operator, operator ∈ ["<", "==", ">"] ∧ Holds operator left right := by
  have ways {operator : String} (member : operator ∈ ["<", "==", ">"])
      (holds : Holds operator left right) :
      operator = "<" ∧ x < y ∨ operator = "==" ∧ x = y ∨ operator = ">" ∧ y < x := by
    simp only [List.mem_cons, List.not_mem_nil, or_false] at member
    rcases member with rfl | rfl | rfl
    · exact .inl ⟨rfl, (holds_less_iff isLeft isRight).mp holds⟩
    · exact .inr (.inl ⟨rfl, (holds_equal_iff isLeft isRight).mp holds⟩)
    · exact .inr (.inr ⟨rfl, (holds_greater_iff isLeft isRight).mp holds⟩)
  rcases lt_trichotomy x y with below | same | above
  · refine ⟨"<", ⟨by decide, (holds_less_iff isLeft isRight).mpr below⟩, ?_⟩
    rintro other ⟨member, holds⟩
    rcases ways member holds with ⟨this, _⟩ | ⟨_, same⟩ | ⟨_, above⟩
    · exact this
    · exact absurd same below.ne
    · exact absurd above below.not_gt
  · refine ⟨"==", ⟨by decide, (holds_equal_iff isLeft isRight).mpr same⟩, ?_⟩
    rintro other ⟨member, holds⟩
    rcases ways member holds with ⟨_, below⟩ | ⟨this, _⟩ | ⟨_, above⟩
    · exact absurd same below.ne
    · exact this
    · exact absurd same above.ne'
  · refine ⟨">", ⟨by decide, (holds_greater_iff isLeft isRight).mpr above⟩, ?_⟩
    rintro other ⟨member, holds⟩
    rcases ways member holds with ⟨_, below⟩ | ⟨_, same⟩ | ⟨this, _⟩
    · exact absurd above below.not_gt
    · exact absurd same above.ne'
    · exact this

end

/--
Numbers of either kind, none of which is not a number, are compared by their places on the line.  So
exactly one of them being less, equal or greater is said to be so, being less or equal is being the
one or the other, a number below another is below all that the other is below, and equal numbers
compare alike with every other.
-/
theorem comparison_exact {left middle right : Value}
    (numbers : ∀ value ∈ [left, middle, right], value.IsNumber ∧ value.isNaN = false) :
    ∃ x y z, left.place? = some x ∧ middle.place? = some y ∧ right.place? = some z ∧
      (binaryOperation "<" left middle = .ok (.boolean (x < y)) ∧
        binaryOperation ">" left middle = .ok (.boolean (x > y)) ∧
        binaryOperation "<=" left middle = .ok (.boolean (x ≤ y)) ∧
        binaryOperation ">=" left middle = .ok (.boolean (x ≥ y)) ∧
        binaryOperation "==" left middle = .ok (.boolean (x = y)) ∧
        binaryOperation "!=" left middle = .ok (.boolean (x ≠ y))) ∧
      (∃! operator, operator ∈ ["<", "==", ">"] ∧ Holds operator left middle) ∧
      (Holds "<=" left middle ↔ Holds "<" left middle ∨ Holds "==" left middle) ∧
      (Holds "<" left middle → Holds "<" middle right → Holds "<" left right) ∧
      (Holds "==" left middle → Holds "==" middle right → Holds "==" left right) ∧
      (Holds "==" left middle → ∀ operator ∈ ["<", ">", "<=", ">=", "==", "!="],
        binaryOperation operator left right = binaryOperation operator middle right) := by
  have places (value : Value) (member : value ∈ [left, middle, right]) :
      ∃ place, value.place? = some place :=
    Value.exists_place? (numbers value member).1 (numbers value member).2
  rcases places left (by simp) with ⟨x, isLeft⟩
  rcases places middle (by simp) with ⟨y, isMiddle⟩
  rcases places right (by simp) with ⟨z, isRight⟩
  have compared (operator : String) (comparison : Comparison)
      (known : BinaryOperator.ofSymbol? operator = some (.compare comparison)) :
      binaryOperation operator left middle = .ok (.boolean (comparison.ofOrder x y)) :=
    binaryOperation_of_places isLeft isMiddle known
  refine ⟨x, y, z, isLeft, isMiddle, isRight,
    ⟨compared "<" .less rfl, compared ">" .greater rfl, compared "<=" .lessEqual rfl,
      compared ">=" .greaterEqual rfl, compared "==" .equal rfl, compared "!=" .notEqual rfl⟩,
    existsUnique_holds isLeft isMiddle, ?_, ?_, ?_, ?_⟩
  · rw [holds_lessEqual_iff isLeft isMiddle, holds_less_iff isLeft isMiddle,
      holds_equal_iff isLeft isMiddle]
    exact le_iff_lt_or_eq
  · rw [holds_less_iff isLeft isMiddle, holds_less_iff isMiddle isRight,
      holds_less_iff isLeft isRight]
    exact lt_trans
  · rw [holds_equal_iff isLeft isMiddle, holds_equal_iff isMiddle isRight,
      holds_equal_iff isLeft isRight]
    exact Eq.trans
  · rw [holds_equal_iff isLeft isMiddle]
    rintro rfl operator compares
    rcases BinaryOperator.exists_of_comparison compares with ⟨comparison, known⟩
    rw [binaryOperation_of_places isLeft isRight known,
      binaryOperation_of_places isMiddle isRight known]

/-- Two to the power of 53 equals its float, and the next integer, which has no float, lies above. -/
theorem comparison_exact_beyondMantissa :
    Holds "==" (.integer (2 ^ 53)) (.float (.finite false (2 ^ 52) 1)) ∧
      Holds "<" (.float (.finite false (2 ^ 52) 1)) (.integer (2 ^ 53 + 1)) := by
  have numbers : ∀ value ∈ [Value.integer (2 ^ 53), .float (.finite false (2 ^ 52) 1),
      .integer (2 ^ 53 + 1)], value.IsNumber ∧ value.isNaN = false := by
    simp [Value.IsNumber, Value.kind, Value.isNaN, Double.isNaN]
  rcases comparison_exact numbers with
    ⟨x, y, z, isLeft, isMiddle, _, ⟨_, _, _, _, equal, _⟩, _, _, _, _, alike⟩
  cases isLeft
  cases isMiddle
  have same : Holds "==" (.integer (2 ^ 53)) (.float (.finite false (2 ^ 52) 1)) := by
    rw [Holds, equal]
    norm_num
  exact ⟨same, (alike same "<" (by decide)).symm⟩

end Jet
