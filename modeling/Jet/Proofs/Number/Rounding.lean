import Jet.Number.Double
import Mathlib.Tactic.Ring

/-!
# Integers beyond the range of doubles

An integer is rounded with the unit that leaves it a full mantissa, so its leading binary digit
alone settles the exponent, but for a carry.  The carry is what decides at the end of the range: the
greatest finite double has an odd mantissa, hence an integer halfway between it and the power of two
behind it goes up, and is beyond the range already.
-/

namespace Jet.Double

/--
A fraction is rounded below an even number exactly if it lies below the middle between that number
and the one in front of it.
-/
theorem nearest_lt_iff {numerator denominator bound : Nat}
    (positive : 0 < denominator) (even : bound % 2 = 0) :
    nearest numerator denominator < bound ↔
      2 * numerator < (2 * bound - 1) * denominator := by
  have whole := Nat.div_add_mod numerator denominator
  have small := Nat.mod_lt numerator positive
  unfold nearest
  dsimp only
  generalize numerator / denominator = quotient at *
  generalize numerator % denominator = rest at *
  subst whole
  rcases Nat.lt_trichotomy (quotient + 1) bound with below | last | above
  · have room : (2 * quotient + 3) * denominator ≤ (2 * bound - 1) * denominator :=
      Nat.mul_le_mul_right _ (by omega)
    have spread : (2 * quotient + 3) * denominator = 2 * (denominator * quotient) + 3 * denominator :=
      by ring
    constructor
    · intro _
      omega
    · intro _
      split <;> omega
  · -- Here the number in front is odd, so that a tie goes up.
    subst last
    have spread : (2 * (quotient + 1) - 1) * denominator =
        2 * (denominator * quotient) + denominator := by
      rw [show 2 * (quotient + 1) - 1 = 2 * quotient + 1 by omega]
      ring
    rw [spread]
    split <;> omega
  · have room : (2 * bound - 1) * denominator ≤ (2 * quotient) * denominator :=
      Nat.mul_le_mul_right _ (by omega)
    have spread : (2 * quotient) * denominator = 2 * (denominator * quotient) := by ring
    constructor
    · intro less
      split at less <;> omega
    · intro less
      omega

/-- With the unit that its leading digit gives, a natural number fills the mantissa. -/
theorem le_scaled_one {numerator : Nat}
    (nonzero : numerator ≠ 0) :
    Nat.pow 2 (mantissaBits - 1) * (scaled numerator 1 ((numerator.log2 : Int) - 52)).2 ≤
      (scaled numerator 1 ((numerator.log2 : Int) - 52)).1 := by
  have leading : 2 ^ numerator.log2 ≤ numerator := Nat.log2_self_le nonzero
  cases unit : (numerator.log2 : Int) - 52 with
  | ofNat up =>
      have digits : 52 + up = numerator.log2 := by
        rw [Int.ofNat_eq_natCast] at unit
        omega
      calc
        Nat.pow 2 (mantissaBits - 1) * (1 * Nat.pow 2 up) = 2 ^ (52 + up) := by
          rw [Nat.one_mul]
          exact (Nat.pow_add 2 52 up).symm
        _ = 2 ^ numerator.log2 := by rw [digits]
        _ ≤ numerator := leading
  | negSucc down =>
      have digits : numerator.log2 + (down + 1) = 52 := by omega
      calc
        Nat.pow 2 (mantissaBits - 1) * 1 = 2 ^ (numerator.log2 + (down + 1)) := by rw [digits]; rfl
        _ = 2 ^ numerator.log2 * 2 ^ (down + 1) := Nat.pow_add 2 _ _
        _ ≤ numerator * 2 ^ (down + 1) := Nat.mul_le_mul_right _ leading

/-- The unit of a natural number goes by its leading binary digit. -/
theorem unitExponent_one {numerator : Nat}
    (nonzero : numerator ≠ 0) :
    unitExponent numerator 1 = numerator.log2 - 52 := by
  have one : Nat.log2 1 = 0 := rfl
  have full := le_scaled_one nonzero
  have estimate : (numerator.log2 : Int) - Nat.log2 1 - (mantissaBits - 1 : Nat) =
      numerator.log2 - 52 := by
    rw [one, Nat.cast_zero, sub_zero]
    rfl
  unfold unitExponent
  rw [estimate]
  dsimp only
  rw [if_neg (Nat.not_lt.mpr full), max_eq_left]
  unfold minExponent
  omega

theorem scaled_ofNat (numerator denominator up : Nat) :
    scaled numerator denominator (.ofNat up) = (numerator, denominator * 2 ^ up) :=
  rfl

theorem pack_eq_infinite_iff {negative : Bool} {mantissa : Nat} {exponent : Int} :
    (∃ sign, pack negative mantissa exponent = .infinite sign) ↔ maxExponent < exponent := by
  unfold pack
  split
  · rename_i beyond
    exact iff_of_true ⟨negative, rfl⟩ beyond
  · rename_i within
    exact iff_of_false nofun within

/--
A natural number is beyond the range if it has too many binary digits, or as many as fit and a
carry.
-/
theorem ofQuotient_one_eq_infinite_iff_log2 {numerator : Nat} {negative : Bool}
    (nonzero : numerator ≠ 0) :
    (∃ sign, ofQuotient negative numerator 1 = .infinite sign) ↔
      1023 < numerator.log2 ∨ numerator.log2 = 1023 ∧
        Nat.pow 2 mantissaBits ≤
          nearest (scaled numerator 1 ((numerator.log2 : Int) - 52)).1
            (scaled numerator 1 ((numerator.log2 : Int) - 52)).2 := by
  unfold ofQuotient
  rw [if_neg nonzero, unitExponent_one nonzero]
  dsimp only
  split
  · rw [pack_eq_infinite_iff, maxExponent]
    omega
  · rw [pack_eq_infinite_iff, maxExponent]
    omega

/-- A natural number is beyond the range from halfway behind the greatest finite double on. -/
theorem ofQuotient_one_eq_infinite_iff {numerator : Nat} {negative : Bool} :
    (∃ sign, ofQuotient negative numerator 1 = .infinite sign) ↔
      2 ^ 1024 - 2 ^ 970 ≤ numerator := by
  -- The half unit is kept as a number without digits, so that it is never computed.
  obtain ⟨half, positive, powers⟩ :
      ∃ half : Nat, 0 < half ∧ ∀ more : Nat, 2 ^ (more + 970) = 2 ^ more * half :=
    ⟨_, Nat.two_pow_pos 970, fun more => Nat.pow_add 2 more 970⟩
  rw [show (1024 : Nat) = 54 + 970 from rfl, powers 54]
  rw [show (970 : Nat) = 0 + 970 from rfl, powers 0]
  by_cases zero : numerator = 0
  · rw [zero]
    exact iff_of_false nofun (by omega)
  have lower : 2 ^ numerator.log2 ≤ numerator := Nat.log2_self_le zero
  have upper : numerator < 2 ^ (numerator.log2 + 1) := Nat.lt_log2_self
  rw [ofQuotient_one_eq_infinite_iff_log2 zero]
  rcases Nat.lt_trichotomy numerator.log2 1023 with below | last | above
  · have short : numerator.log2 + 1 ≤ 53 + 970 := below
    have small := (pow_le_pow_right₀ one_le_two short).trans_eq (powers 53)
    exact iff_of_false (by omega) (by omega)
  · -- Within the last power of two the carry decides.
    have unit : (numerator.log2 : Int) - 52 = Int.ofNat (1 + 970) := by
      rw [last]
      rfl
    have carry : nearest numerator (2 ^ 1 * half) < Nat.pow 2 mantissaBits ↔
        2 * numerator < (2 * 2 ^ 53 - 1) * (2 ^ 1 * half) :=
      nearest_lt_iff (by omega) rfl
    rw [unit, scaled_ofNat, Nat.one_mul, powers 1, ← Nat.not_lt, carry]
    omega
  · have long : 54 + 970 ≤ numerator.log2 := above
    have large := (powers 54).symm.trans_le (pow_le_pow_right₀ one_le_two long)
    exact iff_of_true (.inl above) (by omega)

/-- An integer has no double exactly if it is beyond the range. -/
theorem ofInt?_eq_none_iff {value : Int} :
    ofInt? value = none ↔ 2 ^ 1024 - 2 ^ 970 ≤ value.natAbs := by
  rw [← @ofQuotient_one_eq_infinite_iff value.natAbs (value < 0)]
  unfold ofInt?
  split
  · rename_i sign beyond
    exact iff_of_true rfl ⟨sign, beyond⟩
  · rename_i within
    refine iff_of_false nofun ?_
    rintro ⟨sign, beyond⟩
    exact within sign beyond

end Jet.Double
