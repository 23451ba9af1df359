import Jet.Evaluation
import Jet.Proofs.Evaluation.Steps
import Jet.Proofs.Value.Clean
import Mathlib.Algebra.Field.Rat
import Mathlib.Data.Rat.Lemmas

/-!
# Equality

Values are tested for equality by an operator, and for being the same key when a hash is looked up.
`Value.agrees` says what both come to: numbers of either kind agree if they stand for the same
number, strings if they have the same characters, and all other values if they are one and the same.
The operator refuses two values of different kinds, unless these are both numbers or one of them is
null; for all others it says whether they agree.  A key says what a value agrees with, so that a
hash finds an entry exactly if the value shown for it equals the index.
-/

namespace Jet

namespace Value

/-- Whether a value is a number of either kind. -/
def IsNumber (value : Value) : Prop :=
  value.kind = .integer ∨ value.kind = .float

/-- Whether two values may not be tested for equality. -/
def AreUnlike (left right : Value) : Prop :=
  left.kind ≠ right.kind ∧ ¬ (left.IsNumber ∧ right.IsNumber) ∧
    left.kind ≠ .null ∧ right.kind ≠ .null

instance (value : Value) : Decidable value.IsNumber :=
  inferInstanceAs (Decidable (_ ∨ _))

instance (left right : Value) : Decidable (left.AreUnlike right) :=
  inferInstanceAs (Decidable (_ ∧ _))

/-- Whether a value is a float that is not a number. -/
def isNaN : Value → Bool
  | float value => value.isNaN
  | _ => false

/--
Whether two values are equal: numbers if they stand for the same number, strings if they have the
same characters, and all others if they are one and the same.
-/
def agrees : Value → Value → Bool
  | string left, string right => left == right
  | left, right =>
      match Number.ofValue? left, Number.ofValue? right with
      | some left, some right => left.exact.equal right.exact
      | _, _ => left.isSame right

variable {left right value : Value}

theorem AreUnlike.symm (unlike : left.AreUnlike right) : right.AreUnlike left := by
  rcases unlike with ⟨kinds, notNumbers, leftNotNull, rightNotNull⟩
  exact ⟨Ne.symm kinds, fun numbers => notNumbers numbers.symm, rightNotNull, leftNotNull⟩

theorem areUnlike_comm : left.AreUnlike right ↔ right.AreUnlike left :=
  ⟨AreUnlike.symm, AreUnlike.symm⟩

theorem isNumber_iff :
    value.IsNumber ↔ ∃ number, Number.ofValue? value = some number := by
  cases value <;> simp [IsNumber, kind, Number.ofValue?]

theorem isNumber_of_some {number : Number}
    (found : Number.ofValue? value = some number) :
    value.IsNumber :=
  isNumber_iff.mpr ⟨number, found⟩

theorem not_areUnlike_of_numbers {leftNumber rightNumber : Number}
    (isLeft : Number.ofValue? left = some leftNumber)
    (isRight : Number.ofValue? right = some rightNumber) :
    ¬ left.AreUnlike right :=
  fun unlike => unlike.2.1 ⟨isNumber_of_some isLeft, isNumber_of_some isRight⟩

theorem agrees_of_numbers {leftNumber rightNumber : Number}
    (isLeft : Number.ofValue? left = some leftNumber)
    (isRight : Number.ofValue? right = some rightNumber) :
    left.agrees right = leftNumber.exact.equal rightNumber.exact := by
  unfold agrees
  split
  · cases isLeft
  · rw [isLeft, isRight]

/-- Two values are two numbers, two strings, or something else. -/
inductive Pairing (left right : Value) : Prop where
  | numbers {leftNumber rightNumber : Number}
      (isLeft : Number.ofValue? left = some leftNumber)
      (isRight : Number.ofValue? right = some rightNumber) :
      Pairing left right
  | strings {first second : String}
      (isLeft : left = string first)
      (isRight : right = string second) :
      Pairing left right
  | others
      (notNumbers : ¬ (left.IsNumber ∧ right.IsNumber))
      (notStrings : ∀ first second, left = string first → right = string second → False) :
      Pairing left right

theorem pairing (left right : Value) : Pairing left right := by
  by_cases numbers : left.IsNumber ∧ right.IsNumber
  · rcases isNumber_iff.mp numbers.1 with ⟨leftNumber, isLeft⟩
    rcases isNumber_iff.mp numbers.2 with ⟨rightNumber, isRight⟩
    exact .numbers isLeft isRight
  · by_cases strings : ∃ first second, left = string first ∧ right = string second
    · rcases strings with ⟨first, second, isLeft, isRight⟩
      exact .strings isLeft isRight
    · exact .others numbers fun first second isLeft isRight =>
        strings ⟨first, second, isLeft, isRight⟩

theorem agrees_of_others
    (notNumbers : ¬ (left.IsNumber ∧ right.IsNumber))
    (notStrings : ∀ first second, left = string first → right = string second → False) :
    left.agrees right = left.isSame right := by
  unfold agrees
  split
  · exact (notStrings _ _ rfl rfl).elim
  · split
    · rename_i isLeft isRight
      exact absurd ⟨isNumber_of_some isLeft, isNumber_of_some isRight⟩ notNumbers
    · rfl

end Value

namespace Exact

@[simp]
theorem equal_ofInt (left right : Int) : (ofInt left).equal (ofInt right) = (left == right) := by
  rw [Bool.eq_iff_iff]
  simp [ofInt, equal]

@[simp]
theorem less_ofInt (left right : Int) :
    (ofInt left).less (ofInt right) = decide (left < right) :=
  decide_eq_decide.mpr Rat.intCast_lt_intCast

theorem equal_comm (left right : Exact) : left.equal right = right.equal left := by
  cases left <;> cases right <;> first | rfl | exact Bool.beq_comm

/-- Values that are numbers are equal only to themselves. -/
theorem equal_iff {left right : Exact} (notNaN : ∀ tag, right ≠ nan tag) :
    left.equal right = true ↔ left = right := by
  cases right with
  | nan tag => exact absurd rfl (notNaN tag)
  | finite | infinite => cases left <;> simp [equal]

end Exact

/-! ## The tests -/

/-- Integers are compared as the numbers that they stand for. -/
theorem Comparison.ofInts_eq_ofExact (left right : Int) (comparison : Comparison) :
    comparison.ofInts left right = comparison.ofExact (.ofInt left) (.ofInt right) := by
  cases comparison with
  | less | greater => simp [ofInts, ofExact]
  | lessEqual | greaterEqual =>
      rw [Bool.eq_iff_iff]
      simp [ofInts, ofExact, Exact.lessEqual, le_iff_lt_or_eq]
  | equal | notEqual => simp [ofInts, ofExact, bne]

/-- Six operators compare. -/
theorem BinaryOperator.exists_of_comparison {symbol : String}
    (compares : symbol ∈ ["<", ">", "<=", ">=", "==", "!="]) :
    ∃ comparison, ofSymbol? symbol = some (.compare comparison) := by
  simp only [List.mem_cons, List.not_mem_nil, or_false] at compares
  rcases compares with rfl | rfl | rfl | rfl | rfl | rfl <;> exact ⟨_, rfl⟩

section

variable {operator : String} {left right : Value}

/-- Numbers of either kind are compared by what they stand for. -/
theorem binaryOperation_of_comparison {comparison : Comparison} {leftNumber rightNumber : Number}
    (known : BinaryOperator.ofSymbol? operator = some (.compare comparison))
    (isLeft : Number.ofValue? left = some leftNumber)
    (isRight : Number.ofValue? right = some rightNumber) :
    binaryOperation operator left right =
      .ok (.boolean (comparison.ofExact leftNumber.exact rightNumber.exact)) := by
  unfold binaryOperation
  split
  · rename_i left right
    cases isLeft
    cases isRight
    rw [known]
    exact congrArg (fun outcome => Except.ok (Value.boolean outcome))
      (comparison.ofInts_eq_ofExact left right)
  · cases isLeft
  · rw [isLeft, isRight, known]
    rfl

/-- Two numbers are tested by what they stand for. -/
theorem binaryOperation_of_numbers {leftNumber rightNumber : Number}
    (test : operator = "==" ∨ operator = "!=")
    (isLeft : Number.ofValue? left = some leftNumber)
    (isRight : Number.ofValue? right = some rightNumber) :
    binaryOperation operator left right =
      .ok (.boolean (leftNumber.exact.equal rightNumber.exact == (operator == "=="))) := by
  rcases test with rfl | rfl
  · rw [binaryOperation_of_comparison rfl isLeft isRight]
    simp [Comparison.ofExact]
  · rw [binaryOperation_of_comparison rfl isLeft isRight]
    simp [Comparison.ofExact]

/-- Two strings are tested by their characters. -/
theorem binaryOperation_of_strings (test : operator = "==" ∨ operator = "!=")
    (first second : String) :
    binaryOperation operator (.string first) (.string second) =
      .ok (.boolean ((first == second) == (operator == "=="))) := by
  rcases test with rfl | rfl <;>
    simp [binaryOperation, BinaryOperator.ofSymbol?, Comparison.ofStrings, bne]

theorem binaryOperation_of_others
    (notNumbers : ¬ (left.IsNumber ∧ right.IsNumber))
    (notStrings : ∀ first second, left = .string first → right = .string second → False) :
    binaryOperation operator left right = .ok (otherBinary operator left right) := by
  unfold binaryOperation
  split
  · exact absurd ⟨.inl rfl, .inl rfl⟩ notNumbers
  · exact (notStrings _ _ rfl rfl).elim
  · split
    · rename_i isLeft isRight
      exact absurd ⟨Value.isNumber_of_some isLeft, Value.isNumber_of_some isRight⟩ notNumbers
    · rfl

/-- All other values are tested for being one and the same. -/
theorem otherBinary_of_test (test : operator = "==" ∨ operator = "!=")
    (notNumbers : ¬ (left.IsNumber ∧ right.IsNumber)) :
    otherBinary operator left right =
      if left.AreUnlike right then .error (.typeMismatch left.kind operator right.kind)
      else .boolean (left.isSame right == (operator == "==")) := by
  have testable : areTestable left right = !decide (left.AreUnlike right) := by
    simp [areTestable, Value.AreUnlike, notNumbers, Bool.or_assoc, beq_eq_decide]
  by_cases unlike : left.AreUnlike right
  · rw [if_pos unlike, otherBinary, testable, decide_eq_true unlike]
    rcases test with rfl | rfl <;>
      simp [BinaryOperator.ofSymbol?, refusedBinary, unlike.1]
  · rw [if_neg unlike, otherBinary, testable, decide_eq_false unlike]
    rcases test with rfl | rfl <;> simp [BinaryOperator.ofSymbol?]

end

/-- A test for equality is refused, or says whether two values are equal. -/
theorem binaryOperation_of_test {operator : String}
    (test : operator = "==" ∨ operator = "!=") (left right : Value) :
    binaryOperation operator left right =
      .ok (if left.AreUnlike right then .error (.typeMismatch left.kind operator right.kind)
        else .boolean (left.agrees right == (operator == "=="))) := by
  cases Value.pairing left right with
  | numbers isLeft isRight =>
      rw [binaryOperation_of_numbers test isLeft isRight, Value.agrees_of_numbers isLeft isRight,
        if_neg (Value.not_areUnlike_of_numbers isLeft isRight)]
  | strings isLeft isRight =>
      subst isLeft isRight
      rw [binaryOperation_of_strings test, if_neg fun unlike => unlike.1 rfl]
      rfl
  | others notNumbers notStrings =>
      rw [binaryOperation_of_others notNumbers notStrings, otherBinary_of_test test notNumbers,
        Value.agrees_of_others notNumbers notStrings]

namespace Value

variable {left right value : Value}

theorem isSame_comm (left right : Value) : left.isSame right = right.isSame left := by
  cases left <;> cases right <;> first | rfl | exact Bool.beq_comm

theorem agrees_comm (left right : Value) : left.agrees right = right.agrees left := by
  cases pairing left right with
  | numbers isLeft isRight =>
      rw [agrees_of_numbers isLeft isRight, agrees_of_numbers isRight isLeft, Exact.equal_comm]
  | strings isLeft isRight =>
      subst isLeft isRight
      exact Bool.beq_comm
  | others notNumbers notStrings =>
      rw [agrees_of_others notNumbers notStrings,
        agrees_of_others (fun numbers => notNumbers numbers.symm) fun first second isRight isLeft =>
          notStrings second first isLeft isRight,
        isSame_comm]

/-- A value that is a number has an exact value that is one. -/
theorem exact_ne_nan {number : Number}
    (isNumber : Number.ofValue? value = some number) (notNaN : value.isNaN = false) (tag : Nat) :
    number.exact ≠ .nan tag := by
  cases value with
  | integer => cases isNumber; exact nofun
  | float value =>
      cases isNumber
      cases value with
      | nan => cases notNaN
      | infinite | finite => exact nofun
  | _ => cases isNumber

/-- A value agrees with itself, unless it is not a number. -/
theorem agrees_self (noSignal : value.isSignal = false) : value.agrees value = !value.isNaN := by
  cases notNaN : value.isNaN with
  | true =>
      cases value with
      | float value => cases value <;> first | rfl | cases notNaN
      | _ => cases notNaN
  | false =>
      cases value with
      | integer | float => exact (Exact.equal_iff (exact_ne_nan rfl notNaN)).mpr rfl
      | returned | error => cases noSignal
      | null => rfl
      | _ => exact beq_self_eq_true _

/-! ## Keys -/

theorem key?_of_number {number : Number}
    (isNumber : Number.ofValue? value = some number) :
    value.key? = some (.number number.exact) := by
  cases value <;> cases isNumber <;> rfl

theorem ne_unusable {key : HashKey}
    (usable : value.key? = some key) :
    key ≠ .unusable := by
  cases value <;> cases usable <;> exact nofun

/-- A value has the key of another exactly if they may be tested and agree. -/
theorem key?_eq_iff {key : HashKey}
    (usable : right.key? = some key) (notNaN : right.isNaN = false) :
    left.key? = some key ↔ ¬ left.AreUnlike right ∧ left.agrees right = true := by
  cases pairing left right with
  | numbers isLeft isRight =>
      have alike := not_areUnlike_of_numbers isLeft isRight
      rw [key?_of_number isRight] at usable
      cases usable
      rw [key?_of_number isLeft, agrees_of_numbers isLeft isRight,
        Exact.equal_iff (exact_ne_nan isRight notNaN)]
      simp [alike]
  | strings isLeft isRight =>
      subst isLeft isRight
      cases usable
      simp [key?, AreUnlike, kind, agrees]
  | others notNumbers notStrings =>
      rw [agrees_of_others notNumbers notStrings]
      cases right <;> cases usable <;> cases left <;>
        simp_all [key?, AreUnlike, IsNumber, kind, isSame]

/-- The rational number that a value stands for, if it is a number and that is finite. -/
def rational? : Value → Option ℚ
  | integer value => some value
  | float (.finite negative mantissa exponent) =>
      some ((if negative then -1 else 1) * mantissa * 2 ^ exponent)
  | _ => none

end Value

/-- The parts of a double stand for a multiple of a power of two. -/
theorem Double.ratio_eq (negative : Bool) (mantissa : Nat) (exponent : Int) :
    ratio negative mantissa exponent =
      (if negative then -1 else 1) * (mantissa : ℚ) * 2 ^ exponent := by
  cases exponent with
  | ofNat up =>
      cases negative <;> simp [ratio]
  | negSucc down =>
      cases negative <;> simp [ratio, Rat.mkRat_eq_div, div_eq_mul_inv, zpow_negSucc]

/-- The exact value of a number is the rational number that it stands for. -/
theorem Number.exact_of_rational? {value : Value} {rational : ℚ}
    (finite : value.rational? = some rational) :
    ∃ number, Number.ofValue? value = some number ∧ number.exact = .finite rational := by
  cases value with
  | integer value =>
      cases finite
      exact ⟨_, rfl, rfl⟩
  | float value =>
      cases value with
      | finite negative mantissa exponent =>
          cases finite
          exact ⟨_, rfl, congrArg Exact.finite (Double.ratio_eq negative mantissa exponent)⟩
      | _ => cases finite
  | _ => cases finite

/-! ## Entries -/

namespace Entry

/-- Whether each entry is found by the key of the value that is shown for it, and no other is. -/
structure AreFiled (entries : List Entry) : Prop where
  keys : ∀ entry ∈ entries, entry.key = entry.shown.key?.getD .unusable
  distinct : (entries.map Entry.key).Nodup

variable {entry : Entry} {entries : List Entry} {key : HashKey} {value : Value}

theorem areFiled_nil : AreFiled [] :=
  ⟨nofun, .nil⟩

theorem mem_keys_insert :
    key ∈ (insert entry entries).map Entry.key ↔ key = entry.key ∨ key ∈ entries.map Entry.key := by
  induction entries with
  | nil => simp [insert]
  | cons head rest induction =>
      rw [insert]
      split
      · rename_i same
        simp [same]
      · rw [List.map_cons, List.map_cons, List.mem_cons, List.mem_cons, induction]
        exact or_left_comm

/-- Entries stay filed when one is added. -/
theorem AreFiled.insert
    (filed : AreFiled entries) (added : entry.key = entry.shown.key?.getD .unusable) :
    AreFiled (insert entry entries) := by
  refine ⟨forall_mem_insert filed.keys added, ?_⟩
  have distinct := filed.distinct
  clear filed
  induction entries with
  | nil => exact List.nodup_cons.mpr ⟨List.not_mem_nil, .nil⟩
  | cons head rest induction =>
      rw [List.map_cons, List.nodup_cons] at distinct
      rw [Entry.insert]
      split
      · rename_i same
        rw [List.map_cons, List.nodup_cons, ← same]
        exact distinct
      · rename_i other
        rw [List.map_cons, List.nodup_cons, mem_keys_insert, not_or]
        exact ⟨⟨other, distinct.1⟩, induction distinct.2⟩

/-- What is found by a key is the value of the entry with that key. -/
theorem find?_eq_some_iff (distinct : (entries.map Entry.key).Nodup) :
    find? key entries = some value ↔ ∃ entry ∈ entries, entry.key = key ∧ entry.value = value := by
  induction entries with
  | nil => simp [find?]
  | cons head rest induction =>
      rw [List.map_cons, List.nodup_cons] at distinct
      rw [find?]
      split
      · rename_i same
        subst same
        constructor
        · intro found
          exact ⟨head, List.mem_cons_self, rfl, Option.some.inj found⟩
        · rintro ⟨entry, member, same, rfl⟩
          rcases List.mem_cons.mp member with rfl | member
          · rfl
          · exact absurd (same ▸ List.mem_map_of_mem member) distinct.1
      · rename_i other
        rw [induction distinct.2]
        simp [other]

end Entry

/-! ## Coherence -/

section

variable {operator : String} {left right : Value}

theorem binaryOperation_refused_iff
    (test : operator = "==" ∨ operator = "!=") :
    (∃ fault, binaryOperation operator left right = .ok (.error fault)) ↔
      left.AreUnlike right := by
  rw [binaryOperation_of_test test]
  split <;> simp_all

theorem binaryOperation_boolean_iff {outcome : Bool}
    (test : operator = "==" ∨ operator = "!=") :
    binaryOperation operator left right = .ok (.boolean outcome) ↔
      ¬ left.AreUnlike right ∧ (left.agrees right == (operator == "==")) = outcome := by
  rw [binaryOperation_of_test test]
  split <;> simp_all

/-- Two values are found to be equal if they may be tested and agree. -/
theorem binaryOperation_equal_iff :
    binaryOperation "==" left right = .ok (.boolean true) ↔
      ¬ left.AreUnlike right ∧ left.agrees right = true := by
  rw [binaryOperation_boolean_iff (.inl rfl)]
  simp

/-- A value is found by the key of another exactly if the two are found to be equal. -/
theorem key?_eq_some_iff_equal {key : HashKey}
    (usable : right.key? = some key) (notNaN : right.isNaN = false) :
    left.key? = some key ↔ binaryOperation "==" left right = .ok (.boolean true) := by
  rw [binaryOperation_equal_iff]
  exact Value.key?_eq_iff usable notNaN

/-- Finite numbers are found to be equal exactly if they stand for the same rational number. -/
theorem equal_iff_of_rational? {x y : ℚ}
    (isLeft : left.rational? = some x) (isRight : right.rational? = some y) :
    binaryOperation "==" left right = .ok (.boolean true) ↔ x = y := by
  rcases Number.exact_of_rational? isLeft with ⟨leftNumber, leftFound, leftExact⟩
  rcases Number.exact_of_rational? isRight with ⟨rightNumber, rightFound, rightExact⟩
  rw [binaryOperation_of_numbers (.inl rfl) leftFound rightFound, leftExact, rightExact]
  simp [Exact.equal]

/-- What is found in a hash is stored for a key that is found to be equal to the index. -/
theorem Entry.AreFiled.find?_iff_equal {entries : List Entry} {key : HashKey} {value : Value}
    (filed : Entry.AreFiled entries)
    (usable : right.key? = some key) (notNaN : right.isNaN = false) :
    Entry.find? key entries = some value ↔
      ∃ entry ∈ entries, binaryOperation "==" entry.shown right = .ok (.boolean true) ∧
        entry.value = value := by
  rw [Entry.find?_eq_some_iff filed.distinct]
  refine exists_congr fun entry => and_congr_right fun member => and_congr_left fun _ => ?_
  rw [← key?_eq_some_iff_equal usable notNaN, filed.keys entry member]
  cases entry.shown.key? with
  | none => exact iff_of_false (Value.ne_unusable usable).symm nofun
  | some other => exact (Option.some_inj).symm

end

/--
The test for equality is refused exactly for values of different kinds that are not both numbers and
none of which is null; then so is the test for inequality, which else gives the opposite, and both
do not depend on the order of the values.  Every value but one that is not a number equals itself.
Values that can be keys are equal exactly if they are found by the same key, numbers exactly if they
stand for the same rational number, and a hash gives for an index what is stored for the key that
equals it.
-/
theorem equality_coherent (left right : Value) :
    (∀ operator ∈ ["==", "!="],
      ((∃ fault, binaryOperation operator left right = .ok (.error fault)) ↔
          left.AreUnlike right) ∧
        ((∃ fault, binaryOperation operator left right = .ok (.error fault)) ↔
          ∃ fault, binaryOperation operator right left = .ok (.error fault)) ∧
        ∀ outcome, binaryOperation operator left right = .ok (.boolean outcome) ↔
          binaryOperation operator right left = .ok (.boolean outcome)) ∧
      (¬ left.AreUnlike right → ∃ equal,
        binaryOperation "==" left right = .ok (.boolean equal) ∧
          binaryOperation "!=" left right = .ok (.boolean !equal)) ∧
      (left.isSignal = false →
        binaryOperation "==" left left = .ok (.boolean !left.isNaN)) ∧
      (∀ x y, left.rational? = some x → right.rational? = some y →
        (binaryOperation "==" left right = .ok (.boolean true) ↔ x = y)) ∧
      ∀ key, right.key? = some key → right.isNaN = false →
        (left.key? = some key ↔ binaryOperation "==" left right = .ok (.boolean true)) ∧
          ∀ stamp entries, Entry.AreFiled entries →
            indexOperation (.hash stamp entries) right =
                (Entry.find? key entries).getD .null ∧
              ∀ value, Entry.find? key entries = some value ↔
                ∃ entry ∈ entries,
                  binaryOperation "==" entry.shown right = .ok (.boolean true) ∧
                    entry.value = value := by
  have tests {operator : String} (member : operator ∈ ["==", "!="]) :
      operator = "==" ∨ operator = "!=" := by
    simpa using member
  refine ⟨fun operator member => ⟨binaryOperation_refused_iff (tests member), ?_, ?_⟩,
    ?_, ?_, ?_, ?_⟩
  · rw [binaryOperation_refused_iff (tests member), binaryOperation_refused_iff (tests member)]
    exact Value.areUnlike_comm
  · intro outcome
    rw [binaryOperation_boolean_iff (tests member), binaryOperation_boolean_iff (tests member),
      Value.areUnlike_comm, Value.agrees_comm]
  · intro alike
    refine ⟨left.agrees right, ?_, ?_⟩
    · rw [binaryOperation_boolean_iff (.inl rfl)]
      exact ⟨alike, by simp⟩
    · rw [binaryOperation_boolean_iff (.inr rfl)]
      exact ⟨alike, by simp⟩
  · intro noSignal
    rw [binaryOperation_boolean_iff (.inl rfl), Value.agrees_self noSignal]
    exact ⟨fun unlike => unlike.1 rfl, by simp⟩
  · exact fun x y isLeft isRight => equal_iff_of_rational? isLeft isRight
  · intro key usable notNaN
    refine ⟨key?_eq_some_iff_equal usable notNaN, fun stamp entries filed => ⟨?_, fun value => ?_⟩⟩
    · rw [indexOperation, usable]
    · exact filed.find?_iff_equal usable notNaN

/-- The zero with a minus sign equals the integer zero, and is found by it. -/
theorem equality_coherent_negativeZero :
    (¬ ∃ fault, binaryOperation "==" (.float (.zero true)) (.integer 0) = .ok (.error fault)) ∧
      (∃ equal,
        binaryOperation "==" (.float (.zero true)) (.integer 0) = .ok (.boolean equal) ∧
          binaryOperation "!=" (.float (.zero true)) (.integer 0) = .ok (.boolean !equal)) ∧
      binaryOperation "==" (.float (.zero true)) (.float (.zero true)) = .ok (.boolean true) ∧
      binaryOperation "==" (.float (.zero true)) (.integer 0) = .ok (.boolean true) ∧
      Value.key? (.float (.zero true)) = some (.number (.finite 0)) ∧
      Entry.AreFiled [.mk (.number (.finite 0)) (.float (.zero true)) (.string "zero")] ∧
      Entry.find? (.number (.finite 0))
          [.mk (.number (.finite 0)) (.float (.zero true)) (.string "zero")] =
        some (.string "zero") ∧
      indexOperation
          (.hash 0 [.mk (.number (.finite 0)) (.float (.zero true)) (.string "zero")])
          (.integer 0) =
        .string "zero" := by
  rcases equality_coherent (.float (.zero true)) (.integer 0) with
    ⟨tests, opposite, itself, exact, keys⟩
  have alike : ¬ Value.AreUnlike (.float (.zero true)) (.integer 0) := by decide
  have isZero : Value.rational? (.float (.zero true)) = some 0 := by
    rw [Double.zero, Value.rational?, Nat.cast_zero, mul_zero, zero_mul]
  have equal := (exact 0 0 isZero rfl).mpr rfl
  rcases keys (.number (.finite 0)) rfl rfl with ⟨sameKey, lookup⟩
  have filed : Entry.AreFiled
      [.mk (.number (.finite 0)) (.float (.zero true)) (.string "zero")] := by
    refine Entry.areFiled_nil.insert ?_
    rw [Entry.shown, sameKey.mpr equal]
    rfl
  rcases lookup 0 _ filed with ⟨index, finds⟩
  have found := (finds (.string "zero")).mpr ⟨_, List.mem_cons_self, equal, rfl⟩
  rw [found] at index
  exact ⟨mt (tests "==" (by decide)).1.mp alike, opposite alike, itself rfl, equal,
    sameKey.mpr equal, filed, found, index⟩

end Jet
