import ApiContract.Binary64
import Mathlib.Algebra.Order.Field.Power
import Mathlib.Data.Rat.Floor
import Mathlib.Tactic.FieldSimp
import Mathlib.Tactic.Linarith
import Mathlib.Tactic.Positivity
import Mathlib.Tactic.Ring

/-!
What a floating-point number denotes. An integer of up to 53 bits is denoted exactly; a greater one of up to 64 bits
is rounded, but never to a magnitude below `2 ^ 53`, so its comparisons with integers of up to 53 bits survive.
-/

namespace ApiContract.Binary64

def value (x : Binary64) : ℚ :=
  (if x.negative then -1 else 1) * (x.significand * (2 : ℚ) ^ x.exponent)

/-- The numerator of the magnitude, with the sign. -/
def numerator (x : Binary64) : ℤ :=
  if x.negative then -(x.magnitude.1 : ℤ) else x.magnitude.1

theorem magnitude_snd_pos (x : Binary64) : 0 < x.magnitude.2 := by
  simp only [magnitude, Nat.pow_eq]
  positivity

theorem value_eq_div (x : Binary64) : x.value = x.numerator / x.magnitude.2 := by
  have scale : (2 : ℚ) ^ x.exponent = (2 : ℚ) ^ x.exponent.toNat / (2 : ℚ) ^ (-x.exponent).toNat := by
    rw [← zpow_natCast, ← zpow_natCast, ← zpow_sub₀ two_ne_zero, Int.toNat_sub_toNat_neg]
  have size : (x.magnitude.1 : ℚ) / x.magnitude.2 = x.significand * (2 : ℚ) ^ x.exponent := by
    simp only [magnitude, Nat.pow_eq]
    push_cast
    rw [scale, mul_div_assoc]
  unfold value numerator
  split
  · push_cast
    rw [neg_div, size, neg_one_mul]
  · push_cast
    rw [size, one_mul]

theorem compareRatio_eq (x : Binary64) (n : ℤ) : x.compareRatio n 1 = compare x.numerator (n * x.magnitude.2) := by
  simp [compareRatio, numerator]

theorem le_value_iff (x : Binary64) (n : ℤ) : (x.compareRatio n 1).isGE ↔ n ≤ x.value := by
  have positive : (0 : ℚ) < x.magnitude.2 := mod_cast x.magnitude_snd_pos
  rw [compareRatio_eq, Std.isGE_compare, value_eq_div, le_div_iff₀ positive]
  exact_mod_cast Iff.rfl

theorem value_le_iff (x : Binary64) (n : ℤ) : (x.compareRatio n 1).isLE ↔ x.value ≤ n := by
  have positive : (0 : ℚ) < x.magnitude.2 := mod_cast x.magnitude_snd_pos
  rw [compareRatio_eq, Std.isLE_compare, value_eq_div, div_le_iff₀ positive]
  exact_mod_cast Iff.rfl

theorem isIntegral_iff (x : Binary64) : x.isIntegral ↔ ∃ k : ℤ, x.value = k := by
  have positive : (x.magnitude.2 : ℚ) ≠ 0 := mod_cast x.magnitude_snd_pos.ne'
  have divides : x.isIntegral ↔ (x.magnitude.2 : ℤ) ∣ x.numerator := by
    have sign : (x.magnitude.2 : ℤ) ∣ x.numerator ↔ (x.magnitude.2 : ℤ) ∣ (x.magnitude.1 : ℤ) := by
      unfold numerator
      split <;> simp
    rw [sign, Int.natCast_dvd_natCast]
    simp [isIntegral, magnitude, Nat.dvd_iff_mod_eq_zero]
  rw [divides, value_eq_div]
  constructor
  · rintro ⟨k, product⟩
    refine ⟨k, ?_⟩
    rw [product]
    push_cast
    field_simp
  · rintro ⟨k, quotient⟩
    refine ⟨k, ?_⟩
    rw [div_eq_iff positive] at quotient
    have product : x.numerator = k * (x.magnitude.2 : ℤ) := by exact_mod_cast quotient
    rw [product, mul_comm]

/-! Conversion of an integer. -/

theorem pow_trailingZeros_dvd (limit n : Nat) : 2 ^ trailingZeros limit n ∣ n := by
  induction limit generalizing n with
  | zero => simp [trailingZeros]
  | succ limit ih =>
      unfold trailingZeros
      split
      next even =>
        have half := Nat.mul_dvd_mul_left 2 (ih (n / 2))
        rwa [Nat.mul_div_cancel' (Nat.dvd_of_mod_eq_zero even), ← Nat.pow_succ'] at half
      next => simp

theorem value_lowestForm (negative : Bool) (significand : Nat) (exponent : ℤ) :
    (lowestForm negative significand exponent).value = (⟨negative, significand, exponent⟩ : Binary64).value := by
  unfold lowestForm
  split
  next zero => simp [value, zero]
  next =>
    obtain ⟨odd, factors⟩ := pow_trailingZeros_dvd significand.log2 significand
    generalize trailingZeros significand.log2 significand = zeros at factors
    have quotient : significand / 2 ^ zeros = odd := by
      rw [factors, Nat.mul_div_cancel_left _ (by positivity)]
    simp only [value, Nat.pow_eq, quotient]
    rw [zpow_add₀ two_ne_zero, zpow_natCast]
    conv_rhs => rw [factors]
    push_cast
    ring

theorem roundHalfEven_one (n : Nat) : roundHalfEven n 1 = n := by
  simp [roundHalfEven, Nat.mod_one]

theorem div_le_roundHalfEven (n d : Nat) : n / d ≤ roundHalfEven n d := by
  unfold roundHalfEven
  dsimp only
  split <;> omega

theorem unitExponent_one {n : Nat} (positive : n ≠ 0) : unitExponent n 1 = (n.log2 : ℤ) - 52 := by
  have reaches : 2 ^ n.log2 ≤ n := Nat.log2_self_le positive
  have one : Nat.log2 1 = 0 := by decide
  simp only [unitExponent, one, Nat.pow_eq]
  simp [reaches]
  omega

theorem signed_natAbs (n : ℤ) : (if decide (n < 0) then (-1 : ℚ) else 1) * (n.natAbs : ℚ) = n := by
  rw [Nat.cast_natAbs]
  rcases lt_or_ge n 0 with below | above
  · simp [below, abs_of_neg below]
  · simp [not_lt.mpr above, abs_of_nonneg above]

theorem value_ofInt {n : ℤ} (small : n.natAbs < 2 ^ 53) : (ofInt n).value = n := by
  by_cases zero : n.natAbs = 0
  · have : n = 0 := Int.natAbs_eq_zero.mp zero
    subst this
    simp [ofInt, ofRatio, value]
  have bits : n.natAbs.log2 ≤ 52 := by
    have := (Nat.log2_lt zero).mpr small
    omega
  have unit := unitExponent_one zero
  obtain ⟨room, shift⟩ : ∃ room : Nat, (n.natAbs.log2 : ℤ) - 52 = -(room : ℤ) := ⟨52 - n.natAbs.log2, by omega⟩
  have exact : ofInt n = lowestForm (decide (n < 0)) (n.natAbs * 2 ^ room) (-(room : ℤ)) := by
    have few : ¬(-(room : ℤ) > 971 ∨ -(room : ℤ) = 971 ∧ n.natAbs * 2 ^ room = 2 ^ 53) := by omega
    have whole : (-(room : ℤ)).toNat = 0 := by omega
    simp only [ofInt, ofRatio, zero, unit, shift, Nat.pow_eq, whole, neg_neg, Int.toNat_natCast, pow_zero, mul_one,
      roundHalfEven_one, few, ↓reduceIte, Option.getD_some]
  rw [exact, value_lowestForm]
  simp only [value, zpow_neg, zpow_natCast]
  push_cast
  rw [mul_assoc, mul_inv_cancel₀ (by positivity), mul_one, signed_natAbs]

/-- Rounding does not bring a great integer below `2 ^ 53`. -/
theorem value_ofInt_of_le {n : ℤ} (great : 2 ^ 53 ≤ n.natAbs) (fits : n.natAbs < 2 ^ 64) :
    ∃ size : Nat, 2 ^ 53 ≤ size ∧ (ofInt n).value = (if decide (n < 0) then -1 else 1) * (size : ℚ) := by
  have positive : n.natAbs ≠ 0 := by
    intro zero
    rw [zero] at great
    exact absurd great (by decide)
  have fewBits : n.natAbs.log2 < 64 := (Nat.log2_lt positive).mpr fits
  have manyBits : 53 ≤ n.natAbs.log2 := (Nat.le_log2 positive).mpr great
  have unit := unitExponent_one positive
  obtain ⟨dropped, bits⟩ : ∃ dropped : Nat, n.natAbs.log2 = 52 + (dropped + 1) := ⟨n.natAbs.log2 - 53, by omega⟩
  have shift : (n.natAbs.log2 : ℤ) - 52 = (dropped + 1 : Nat) := by omega
  have rounded : ofInt n =
      lowestForm (decide (n < 0)) (roundHalfEven n.natAbs (2 ^ (dropped + 1))) (dropped + 1 : Nat) := by
    have few (significand : Nat) :
        ¬(((dropped + 1 : Nat) : ℤ) > 971 ∨ ((dropped + 1 : Nat) : ℤ) = 971 ∧ significand = 2 ^ 53) := by omega
    have whole : (-((dropped + 1 : Nat) : ℤ)).toNat = 0 := by omega
    simp only [ofInt, ofRatio, positive, unit, shift, Nat.pow_eq, whole, Int.toNat_natCast, pow_zero, mul_one, one_mul,
      few, ↓reduceIte, Option.getD_some]
  have significand : 2 ^ 52 ≤ roundHalfEven n.natAbs (2 ^ (dropped + 1)) := by
    refine le_trans ?_ (div_le_roundHalfEven _ _)
    rw [Nat.le_div_iff_mul_le (by positivity), ← pow_add, ← bits]
    exact Nat.log2_self_le positive
  refine ⟨roundHalfEven n.natAbs (2 ^ (dropped + 1)) * 2 ^ (dropped + 1), ?_, ?_⟩
  · calc 2 ^ 53 = 2 ^ 52 * 2 ^ 1 := by norm_num
      _ ≤ _ := Nat.mul_le_mul significand (Nat.pow_le_pow_right two_pos (by omega))
  · rw [rounded, value_lowestForm, value, zpow_natCast]
    push_cast
    rfl

variable {n bound : ℤ}

/-- Conversion keeps on which side of a bound of up to 53 bits an integer lies. -/
theorem value_ofInt_sides (fits : n.natAbs < 2 ^ 64) (small : bound.natAbs < 2 ^ 53) :
    ((bound : ℚ) ≤ (ofInt n).value ↔ bound ≤ n) ∧ ((ofInt n).value ≤ bound ↔ n ≤ bound) := by
  rcases Nat.lt_or_ge n.natAbs (2 ^ 53) with exact | great
  · rw [value_ofInt exact]
    exact ⟨Int.cast_le, Int.cast_le⟩
  obtain ⟨size, large, shown⟩ := value_ofInt_of_le great fits
  rw [shown]
  rcases lt_or_ge n 0 with below | above
  · have negative : (if decide (n < 0) then (-1 : ℚ) else 1) * size = ((-(size : ℤ) : ℤ) : ℚ) := by simp [below]
    rw [negative, Int.cast_le, Int.cast_le]
    omega
  · have positive : (if decide (n < 0) then (-1 : ℚ) else 1) * size = ((size : ℤ) : ℚ) := by simp [not_lt.mpr above]
    rw [positive, Int.cast_le, Int.cast_le]
    omega

end ApiContract.Binary64
