import Jet.Number.Literal
import Jet.Token.Lexeme
import Mathlib.Algebra.Group.Nat.Defs

/-!
# Numerals

What the readers of number literals make of the numerals of a text.  A numeral is a non-empty string
of decimal digits: it is read as the number that its digits stand for, unless there are too many of
them, and so never as a negative number or one with more digits than can be shown.  The other way
round, the decimal text of a natural number is a numeral that is read as this number.  Two numerals
with a point between them can always be read as a double.
-/

namespace Jet

/-! ## Digits -/

theorem isDigit_iff {char : Char} :
    isDigit char = true ↔ 0x30 ≤ char.toNat ∧ char.toNat ≤ 0x39 := by
  rw [isDigit, Bool.and_eq_true, decide_eq_true_iff, decide_eq_true_iff]
  rfl

namespace Literal

/-- A digit of a numeral is its own plain counterpart. -/
theorem digit?_of_isDigit {char : Char}
    (digit : isDigit char = true) :
    Text.digit? char = some (char.toNat - 0x30) := by
  rcases isDigit_iff.mp digit with ⟨low, high⟩
  have first : (0x30 ≤ char.toNat && char.toNat < 0x30 + 10) = true := by
    simp only [Bool.and_eq_true, decide_eq_true_iff]
    omega
  exact congrArg (Option.map fun base => char.toNat - base) (List.find?_cons_of_pos first)

/-- A character of a number without sign, exponent and underscores. -/
def isNumeralChar (char : Char) : Bool :=
  isDigit char || char == '.'

theorem isNumeralChar_cases {char : Char}
    (numeral : isNumeralChar char = true) :
    isDigit char = true ∨ char = '.' := by
  simpa [isNumeralChar] using numeral

theorem isNumeralChar_range {char : Char}
    (numeral : isNumeralChar char = true) :
    0x2e ≤ char.toNat ∧ char.toNat ≤ 0x39 := by
  rcases isNumeralChar_cases numeral with digit | rfl
  · have range := isDigit_iff.mp digit
    omega
  · decide

/-- No character of a number is white space. -/
theorem isNumberSpace_of_isNumeralChar {char : Char}
    (numeral : isNumeralChar char = true) :
    Text.isNumberSpace char = false := by
  have range := isNumeralChar_range numeral
  simp only [Text.isNumberSpace, Text.isSpace, Bool.and_eq_false_iff, Bool.or_eq_false_iff,
    decide_eq_false_iff_not, beq_eq_false_iff_ne]
  omega

/-- Nothing is stripped from characters none of which is to be dropped. -/
theorem stripChars_eq_self {drop : Char → Bool} {chars : List Char}
    (keep : ∀ char ∈ chars, drop char = false) :
    Text.stripChars drop chars = chars := by
  have unchanged (others : List Char) (same : ∀ char ∈ others, char ∈ chars) :
      others.dropWhile drop = others := by
    cases others with
    | nil => rfl
    | cons char rest =>
        have kept := keep char (same char List.mem_cons_self)
        rw [List.dropWhile_cons_of_neg (by simp [kept])]
  rw [Text.stripChars, unchanged chars fun _ member => member,
    unchanged chars.reverse fun _ member => List.mem_reverse.mp member, List.reverse_reverse]

/-- Without underscores there is nothing to take out. -/
theorem joined?_eq_some {chars : List Char}
    (noUnderscore : '_' ∉ chars) (previous : Char) :
    plain?.joined? previous chars = some chars := by
  induction chars generalizing previous with
  | nil => rfl
  | cons char rest induction =>
      rw [List.mem_cons, not_or] at noUnderscore
      have goOn : plain?.joined? previous (char :: rest) =
          (plain?.joined? char rest).map (char :: ·) := by
        rw [plain?.joined?]
        · rintro rfl
          exact absurd rfl noUnderscore.1
        · rintro next others rfl
          exact absurd rfl noUnderscore.1
      rw [goOn, induction noUnderscore.2]
      rfl

/-- Numerals, with or without a point, are plain as they are. -/
theorem plain?_eq_some {text : String}
    (numeral : ∀ char ∈ text.toList, isNumeralChar char = true) :
    plain? text = some text.toList := by
  have noUnderscore : '_' ∉ text.toList := fun member =>
    absurd (numeral '_' member) (by decide)
  rw [plain?, stripChars_eq_self fun char member =>
    isNumberSpace_of_isNumeralChar (numeral char member)]
  refine Eq.trans (congrArg (plain?.joined? ' ') ?_) (joined?_eq_some noUnderscore ' ')
  refine (List.map_congr_left fun char member => ?_).trans (List.map_id' _)
  rcases isNumeralChar_cases (numeral char member) with digit | rfl
  · have back : 0x30 + (char.toNat - 0x30) = char.toNat := by
      have low := (isDigit_iff.mp digit).1
      omega
    rw [digit?_of_isDigit digit]
    dsimp only
    rw [back, Char.ofNat_toNat]
  · rfl

/-- A number that begins with a character of a numeral has no sign. -/
theorem sign_eq {chars : List Char}
    (numeral : ∀ char ∈ chars, isNumeralChar char = true) :
    sign chars = (false, chars) := by
  unfold sign
  split
  · exact absurd (numeral _ List.mem_cons_self) (by decide)
  · exact absurd (numeral _ List.mem_cons_self) (by decide)
  · rfl

end Literal

/-! ## Integers -/

/-- Whether a text is a non-empty string of decimal digits. -/
def isNumeral (text : String) : Bool :=
  !text.toList.isEmpty && text.toList.all isDigit

namespace Literal

theorem isNumeralChar_of_isNumeral {text : String}
    (numeral : isNumeral text = true) :
    ∀ char ∈ text.toList, isNumeralChar char = true := by
  intro char member
  rw [isNumeral, Bool.and_eq_true, List.all_eq_true] at numeral
  rw [isNumeralChar, numeral.2 char member, Bool.true_or]

/-- A numeral is read as the value of its digits, unless there are too many. -/
theorem integer?_of_isNumeral {text : String}
    (numeral : isNumeral text = true) :
    integer? text =
      if digitLimit < text.toList.length then none else some (digitsValue text.toList : Int) := by
  have chars := isNumeralChar_of_isNumeral numeral
  have digits : text.toList.isEmpty = false ∧ text.toList.all Char.isDigit = true := by
    rw [isNumeral, Bool.and_eq_true, Bool.not_eq_true'] at numeral
    exact numeral
  rw [integer?, plain?_eq_some chars]
  dsimp only
  rw [sign_eq chars]
  dsimp only
  rw [digits.1, digits.2]
  simp

/-- The value of digits is below the power of ten that their number gives. -/
theorem digitsValue_lt {digits : List Char}
    (all : ∀ char ∈ digits, isDigit char = true) :
    digitsValue digits < 10 ^ digits.length := by
  have bound : ∀ start : Nat,
      digits.foldl (fun value digit => 10 * value + (digit.toNat - 0x30)) start <
        10 ^ digits.length * (start + 1) := by
    induction digits with
    | nil => intro start; simp
    | cons digit rest induction =>
        intro start
        have range := isDigit_iff.mp (all digit List.mem_cons_self)
        have later := induction (fun char member => all char (List.mem_cons_of_mem _ member))
          (10 * start + (digit.toNat - 0x30))
        rw [List.foldl_cons, List.length_cons]
        refine Nat.lt_of_lt_of_le later ?_
        rw [Nat.pow_succ, Nat.mul_assoc]
        exact Nat.mul_le_mul_left _ (by omega)
  have whole := bound 0
  rwa [Nat.zero_add, Nat.mul_one] at whole

/-- The integers that numerals are read as: none is negative, and all can be shown. -/
theorem range_of_integer? {text : String} {value : Int}
    (numeral : isNumeral text = true)
    (read : integer? text = some value) :
    0 ≤ value ∧ value.natAbs < 10 ^ digitLimit := by
  rw [integer?_of_isNumeral numeral] at read
  split at read
  · cases read
  · rename_i fits
    cases read
    rw [isNumeral, Bool.and_eq_true, List.all_eq_true] at numeral
    refine ⟨Int.natCast_nonneg _, ?_⟩
    exact Nat.lt_of_lt_of_le (digitsValue_lt numeral.2)
      (Nat.pow_le_pow_right (by decide) (Nat.not_lt.mp fits))

end Literal

/-- The decimal text of a natural number is a numeral. -/
theorem isNumeral_repr (value : Nat) :
    isNumeral value.repr = true := by
  rw [isNumeral, Nat.toList_repr, Bool.and_eq_true, Bool.not_eq_true']
  refine ⟨List.isEmpty_eq_false_iff.mpr Nat.toDigits_ne_nil, List.all_eq_true.mpr ?_⟩
  exact fun char member => Nat.isDigit_of_mem_toDigits (by decide) (by decide) member

/-- The decimal text of a natural number that can be shown is read as this number. -/
theorem Literal.integer?_repr {value : Nat}
    (fits : value < 10 ^ digitLimit) :
    integer? value.repr = some (value : Int) := by
  have short : ¬digitLimit < (Nat.toDigits 10 value).length :=
    Nat.not_lt.mpr ((Nat.length_toDigits_le_iff (by decide) (by decide)).mpr fits)
  rw [integer?_of_isNumeral (isNumeral_repr value), Nat.toList_repr, if_neg short]
  exact congrArg (fun value : Nat => some (value : Int)) Nat.ofDigitChars_ten_toDigits

/-! ## Doubles -/

/-- Whether a text is two numerals with a point between them. -/
def IsDecimal (text : String) : Prop :=
  ∃ whole fraction, isNumeral whole = true ∧ isNumeral fraction = true ∧
    text.toList = whole.toList ++ '.' :: fraction.toList

namespace Literal

/-- The digits at the start of two numerals with a point between them are the first numeral. -/
theorem takeWhile_isDigit {whole : List Char}
    (digits : ∀ char ∈ whole, char.isDigit = true) (fraction : List Char) :
    (whole ++ '.' :: fraction).takeWhile Char.isDigit = whole ∧
      (whole ++ '.' :: fraction).dropWhile Char.isDigit = '.' :: fraction := by
  constructor
  · rw [List.takeWhile_append_of_pos digits, List.takeWhile_cons_of_neg (by decide),
      List.append_nil]
  · rw [List.dropWhile_append_of_pos digits, List.dropWhile_cons_of_neg (by decide)]

/-- Two numerals with a point between them are read as the double nearest to a decimal. -/
theorem double?_eq_ofDecimal {text : String}
    (decimal : IsDecimal text) :
    ∃ digits power, double? text = some (ofDecimal false digits power) := by
  rcases decimal with ⟨whole, fraction, wholeNumeral, fractionNumeral, equal⟩
  have chars : ∀ char ∈ text.toList, isNumeralChar char = true := by
    intro char member
    rw [equal, List.mem_append, List.mem_cons] at member
    rcases member with member | rfl | member
    · exact isNumeralChar_of_isNumeral wholeNumeral char member
    · rfl
    · exact isNumeralChar_of_isNumeral fractionNumeral char member
  -- The words that are no decimals have no point in them.
  have noWord {word : String} (noPoint : '.' ∉ word.toList) :
      String.ofList (text.toList.map Char.toLower) ≠ word := by
    rintro rfl
    rw [String.toList_ofList, equal] at noPoint
    exact noPoint (List.mem_map.mpr ⟨'.', List.mem_append_right _ List.mem_cons_self, rfl⟩)
  rw [isNumeral, Bool.and_eq_true, Bool.not_eq_true', List.all_eq_true] at *
  rcases takeWhile_isDigit wholeNumeral.2 fraction.toList with ⟨taken, dropped⟩
  have noExponent : exponent? (fraction.toList.dropWhile Char.isDigit) = some 0 := by
    have all : (fraction.toList ++ []).dropWhile Char.isDigit = [].dropWhile Char.isDigit :=
      List.dropWhile_append_of_pos fractionNumeral.2
    rw [List.append_nil, List.dropWhile_nil] at all
    rw [all]
    rfl
  rw [double?, plain?_eq_some chars]
  dsimp only
  rw [sign_eq chars]
  dsimp only
  split
  · exact absurd ‹_› (noWord (by decide))
  · exact absurd ‹_› (noWord (by decide))
  · exact absurd ‹_› (noWord (by decide))
  · rw [decimal?, equal, taken, dropped]
    dsimp only
    rw [wholeNumeral.1, Bool.false_and, if_neg Bool.false_ne_true]
    exact ⟨_, _, (congrArg (Option.map _) noExponent).trans rfl⟩

/-- The double nearest to a decimal is a number. -/
theorem isNaN_ofDecimal (negative : Bool) (digits : Nat) (power : Int) :
    (ofDecimal negative digits power).isNaN = false := by
  have packed (mantissa : Nat) (exponent : Int) :
      (Double.pack negative mantissa exponent).isNaN = false := by
    unfold Double.pack
    split <;> rfl
  have rounded (numerator denominator : Nat) :
      (Double.ofQuotient negative numerator denominator).isNaN = false := by
    unfold Double.ofQuotient
    split
    · rfl
    · dsimp only
      split <;> exact packed _ _
  unfold ofDecimal
  dsimp only
  split
  · rfl
  · split
    · rfl
    · split
      · rfl
      · exact rounded _ _

end Literal

end Jet
