import Mathlib.Algebra.Order.Archimedean.Basic
import Mathlib.Algebra.Order.Field.Power
import Mathlib.Algebra.Order.Field.Rat
import Mathlib.Data.Nat.Log
import Mathlib.Tactic.FieldSimp
import Mathlib.Tactic.Linarith
import Mathlib.Tactic.NormNum
import Mathlib.Tactic.Positivity
import Mathlib.Tactic.Push
import Mathlib.Tactic.Ring
import Blueprint.Decimal.Double

namespace Blueprint.Double

/-- How far the interval of a double reaches below it, in units of its mantissa. -/
def gapBelow (mantissa : Nat) (exponent : Int) : ℚ :=
  if mantissa = leastNormal ∧ minExponent < exponent then 1 / 4 else 1 / 2

/-- A number lies in the interval of a double. -/
structure RoundsTo (x : ℚ) (mantissa : Nat) (exponent : Int) : Prop where
  low : (mantissa - gapBelow mantissa exponent) * 2 ^ exponent ≤ x
  high : x ≤ (mantissa + 1 / 2) * 2 ^ exponent
  tie : mantissa % 2 = 1 →
    (mantissa - gapBelow mantissa exponent) * 2 ^ exponent < x ∧
      x < (mantissa + 1 / 2) * 2 ^ exponent

section Intervals

variable {x : ℚ} {mantissa : Nat} {exponent : Int}

theorem gapBelow_pos (mantissa : Nat) (exponent : Int) : 0 < gapBelow mantissa exponent := by
  unfold gapBelow
  split <;> norm_num

theorem gapBelow_le (mantissa : Nat) (exponent : Int) : gapBelow mantissa exponent ≤ 1 / 2 := by
  unfold gapBelow
  split <;> norm_num

theorem roundsTo_of_between
    (low : (mantissa - gapBelow mantissa exponent) * 2 ^ exponent < x)
    (high : x < (mantissa + 1 / 2) * 2 ^ exponent) : RoundsTo x mantissa exponent :=
  ⟨low.le, high.le, fun _ => ⟨low, high⟩⟩

/-- The number itself lies in its interval. -/
theorem roundsTo_self (mantissa : Nat) (exponent : Int) :
    RoundsTo (mantissa * 2 ^ exponent) mantissa exponent := by
  have unit : (0 : ℚ) < 2 ^ exponent := by positivity
  have gap := gapBelow_pos mantissa exponent
  apply roundsTo_of_between
  · exact mul_lt_mul_of_pos_right (by linarith) unit
  · exact mul_lt_mul_of_pos_right (by linarith) unit

theorem RoundsTo.pos (near : RoundsTo x mantissa exponent) (some : 0 < mantissa) : 0 < x := by
  have unit : (0 : ℚ) < 2 ^ exponent := by positivity
  have least : (1 : ℚ) ≤ mantissa := by exact_mod_cast some
  have gap := gapBelow_le mantissa exponent
  exact lt_of_lt_of_le (mul_pos (by linarith) unit) near.low

end Intervals

section Powers

variable {base : ℚ} {power : Int}

theorem zpow_of_neg (down : power < 0) : base ^ power = (base ^ (-power).toNat)⁻¹ := by
  rw [← zpow_natCast, ← zpow_neg]
  congr 1
  omega

theorem zpow_of_not_neg (up : ¬ power < 0) : base ^ power = base ^ power.toNat := by
  rw [← zpow_natCast]
  congr 1
  omega

end Powers

section Fractions

variable {num den : Nat}

theorem scaled_pos (some : 0 < den) (exponent : Int) : 0 < (scaled num den exponent).2 := by
  unfold scaled
  split
  · exact some
  · exact Nat.mul_pos some (Nat.pow_pos (by decide))

theorem scaled_eq (some : 0 < den) (exponent : Int) :
    ((scaled num den exponent).1 : ℚ) / (scaled num den exponent).2 = num / den / 2 ^ exponent := by
  have nonzero : (den : ℚ) ≠ 0 := by positivity
  unfold scaled
  split
  · next down =>
    rw [zpow_of_neg down]
    push_cast [Nat.pow_eq]
    field_simp
  · next up =>
    rw [zpow_of_not_neg up]
    push_cast [Nat.pow_eq]
    field_simp

private theorem roundDiv_of_near {nearest : Nat} (some : 0 < den)
    (low : 2 * (nearest * den) ≤ 2 * num + den) (high : 2 * num ≤ 2 * (nearest * den) + den)
    (tie : nearest % 2 = 1 →
      2 * (nearest * den) < 2 * num + den ∧ 2 * num < 2 * (nearest * den) + den) :
    roundDiv num den = nearest := by
  have whole := Nat.div_add_mod num den
  have rest := Nat.mod_lt num some
  -- The quotient is the natural number or the one below it.
  have upper : num / den < nearest + 1 := by
    apply (Nat.div_lt_iff_lt_mul some).mpr
    rw [Nat.add_mul]
    omega
  have lower : nearest ≤ num / den + 1 := by
    by_contra far
    have : (num / den + 2) * den ≤ nearest * den := Nat.mul_le_mul_right den (by omega)
    rw [Nat.add_mul, Nat.mul_comm (num / den)] at this
    omega
  obtain same | next : nearest = num / den ∨ nearest = num / den + 1 := by omega
  · have product : nearest * den = den * (num / den) := by rw [same, Nat.mul_comm]
    unfold roundDiv
    simp only [beq_iff_eq]
    split
    · exact same.symm
    · split
      · omega
      · split
        · exact same.symm
        · have := tie (by omega)
          omega
  · have product : nearest * den = den * (num / den) + den := by
      rw [next, Nat.add_mul, Nat.mul_comm, Nat.one_mul]
    unfold roundDiv
    simp only [beq_iff_eq]
    split
    · omega
    · split
      · exact next.symm
      · split
        · have := tie (by omega)
          omega
        · exact next.symm

/-- A quotient within half of a natural number is rounded to it; at a tie it has to be even. -/
theorem roundDiv_eq {nearest : Nat} (some : 0 < den) (low : (nearest : ℚ) - 1 / 2 ≤ num / den)
    (high : (num : ℚ) / den ≤ nearest + 1 / 2)
    (tie : nearest % 2 = 1 → (nearest : ℚ) - 1 / 2 < num / den ∧ (num : ℚ) / den < nearest + 1 / 2) :
    roundDiv num den = nearest := by
  have positive : (0 : ℚ) < den := by exact_mod_cast some
  refine roundDiv_of_near some ?_ ?_ fun odd => ?_
  · rw [le_div_iff₀ positive] at low
    have : (2 * (nearest * den) : ℚ) ≤ 2 * num + den := by linarith
    exact_mod_cast this
  · rw [div_le_iff₀ positive] at high
    have : (2 * num : ℚ) ≤ 2 * (nearest * den) + den := by linarith
    exact_mod_cast this
  · obtain ⟨above, below⟩ := tie odd
    rw [lt_div_iff₀ positive] at above
    rw [div_lt_iff₀ positive] at below
    have first : (2 * (nearest * den) : ℚ) < 2 * num + den := by linarith
    have second : (2 * num : ℚ) < 2 * (nearest * den) + den := by linarith
    exact ⟨by exact_mod_cast first, by exact_mod_cast second⟩

private theorem log2_bounds {n : Nat} (some : 0 < n) :
    (2 : ℚ) ^ (Nat.log2 n : Int) ≤ n ∧ (n : ℚ) < 2 ^ ((Nat.log2 n : Int) + 1) := by
  constructor
  · rw [zpow_natCast]
    exact_mod_cast Nat.log2_self_le (by omega)
  · have : (n : ℚ) < (2 ^ (Nat.log2 n + 1) : Nat) := by exact_mod_cast Nat.lt_log2_self
    rw [← Nat.cast_succ, zpow_natCast]
    exact_mod_cast this

private theorem scaled_lt_iff (whole : 0 < den) (guess : Int) :
    (scaled num den guess).1 < leastNormal * (scaled num den guess).2 ↔
      (num : ℚ) / den < 2 ^ (guess + 52) := by
  have unit : (0 : ℚ) < 2 ^ guess := by positivity
  have bottom : (0 : ℚ) < (scaled num den guess).2 := by exact_mod_cast scaled_pos whole guess
  have bits : (2 : ℚ) ^ (52 : Int) = (leastNormal : ℚ) := by norm_num [leastNormal]
  rw [zpow_add₀ (by norm_num), ← div_lt_iff₀' unit, ← scaled_eq whole, div_lt_iff₀ bottom, bits]
  exact_mod_cast Iff.rfl

/-- The exponent of a fraction between two neighbouring powers of two. -/
theorem exponentOf_eq (some : 0 < num) (whole : 0 < den) (exponent : Int)
    (low : (2 : ℚ) ^ (exponent + 52) ≤ num / den) (high : (num : ℚ) / den < 2 ^ (exponent + 53)) :
    exponentOf num den = max exponent minExponent := by
  have positive : (0 : ℚ) < den := by exact_mod_cast whole
  obtain ⟨numLow, numHigh⟩ := log2_bounds some
  obtain ⟨denLow, denHigh⟩ := log2_bounds whole
  have two : (1 : ℚ) < 2 := by norm_num
  -- the difference of the sizes in bits is the exponent of the fraction or the one above it
  have near : exponent ≤ (Nat.log2 num : Int) - Nat.log2 den - 52 := by
    have chain : (2 : ℚ) ^ (exponent + 52 + Nat.log2 den) < 2 ^ ((Nat.log2 num : Int) + 1) := by
      calc (2 : ℚ) ^ (exponent + 52 + Nat.log2 den)
          = 2 ^ (exponent + 52) * 2 ^ (Nat.log2 den : Int) := zpow_add₀ (by norm_num) _ _
        _ ≤ num / den * den := by gcongr
        _ = num := by field_simp
        _ < 2 ^ ((Nat.log2 num : Int) + 1) := numHigh
    have := (zpow_lt_zpow_iff_right₀ two).mp chain
    omega
  have far : (Nat.log2 num : Int) - Nat.log2 den - 52 ≤ exponent + 1 := by
    have chain : (2 : ℚ) ^ (Nat.log2 num : Int) < 2 ^ (exponent + 53 + (Nat.log2 den + 1)) := by
      calc (2 : ℚ) ^ (Nat.log2 num : Int) ≤ num := numLow
        _ = num / den * den := by field_simp
        _ < 2 ^ (exponent + 53) * 2 ^ ((Nat.log2 den : Int) + 1) := by gcongr
        _ = 2 ^ (exponent + 53 + (Nat.log2 den + 1)) := (zpow_add₀ (by norm_num) _ _).symm
    have := (zpow_lt_zpow_iff_right₀ two).mp chain
    omega
  unfold exponentOf
  simp only [scaled_lt_iff whole]
  obtain exact | above : (Nat.log2 num : Int) - Nat.log2 den - 52 = exponent ∨
      (Nat.log2 num : Int) - Nat.log2 den - 52 = exponent + 1 := by omega
  · rw [exact, if_neg (not_lt.mpr low)]
  · rw [above, if_pos (by rwa [add_assoc]), add_sub_cancel_right]

theorem exponentOf_of_small (some : 0 < num) (whole : 0 < den)
    (small : (num : ℚ) / den < 2 ^ (minExponent + 53)) : exponentOf num den = minExponent := by
  have positive : (0 : ℚ) < num / den := by positivity
  obtain ⟨bits, low, high⟩ := exists_mem_Ico_zpow positive (by norm_num : (1 : ℚ) < 2)
  have least : bits < minExponent + 53 :=
    (zpow_lt_zpow_iff_right₀ (by norm_num : (1 : ℚ) < 2)).mp (low.trans_lt small)
  have aligned : exponentOf num den = max (bits - 52) minExponent := by
    apply exponentOf_eq some whole
    · rwa [sub_add_cancel]
    · rwa [show bits - 52 + 53 = bits + 1 by ring]
  rw [aligned]
  omega

end Fractions

section Reading

variable {mantissa : Nat} {exponent : Int}

private theorem ofParts_fits (negative : Bool) (fits : Fits mantissa exponent) :
    ofParts negative mantissa exponent = finite negative mantissa exponent fits := by
  have apart : (mantissa == 2 * leastNormal) = false := by
    simpa using fits.1.ne
  simp [ofParts, apart, fits]

private theorem ofParts_carried (negative : Bool) (fits : Fits leastNormal (exponent + 1)) :
    ofParts negative (2 * leastNormal) exponent =
      finite negative leastNormal (exponent + 1) fits := by
  simp [ofParts, fits]

section Ratios

variable {num den : Nat} (whole : 0 < den)

include whole

theorem num_pos (some : 0 < mantissa) (near : RoundsTo (num / den) mantissa exponent) :
    0 < num := by
  have bottom : (0 : ℚ) < den := by exact_mod_cast whole
  have positive := near.pos some
  rw [div_pos_iff_of_pos_right bottom] at positive
  exact_mod_cast positive

theorem roundDiv_scaled (near : RoundsTo (num / den) mantissa exponent) :
    roundDiv (scaled num den exponent).1 (scaled num den exponent).2 = mantissa := by
  have unit : (0 : ℚ) < 2 ^ exponent := by positivity
  have gap := gapBelow_le mantissa exponent
  apply roundDiv_eq (scaled_pos whole exponent)
  · rw [scaled_eq whole, le_div_iff₀ unit]
    refine le_trans ?_ near.low
    exact mul_le_mul_of_nonneg_right (by linarith) unit.le
  · rw [scaled_eq whole, div_le_iff₀ unit]
    exact near.high
  · intro odd
    obtain ⟨above, below⟩ := near.tie odd
    rw [scaled_eq whole, lt_div_iff₀ unit, div_lt_iff₀ unit]
    refine ⟨lt_of_le_of_lt ?_ above, below⟩
    exact mul_le_mul_of_nonneg_right (by linarith) unit.le

theorem ofRatio_of_aligned (negative : Bool) (some : 0 < mantissa) (fits : Fits mantissa exponent)
    (near : RoundsTo (num / den) mantissa exponent) (aligned : exponentOf num den = exponent) :
    ofRatio negative num den = finite negative mantissa exponent fits := by
  have positive := num_pos whole some near
  rw [ofRatio, if_neg (by simpa using positive.ne')]
  simp only [aligned, roundDiv_scaled whole near]
  exact ofParts_fits negative fits

/-- In the quarter below a power of two the mantissa is doubled and rounded up to that power. -/
theorem ofRatio_of_carried (negative : Bool) (fits : Fits leastNormal exponent)
    (near : RoundsTo (num / den) leastNormal exponent) (less : minExponent < exponent)
    (below : (num : ℚ) / den < leastNormal * 2 ^ exponent) :
    ofRatio negative num den = finite negative leastNormal exponent fits := by
  have positive : 0 < num := num_pos whole (by decide) near
  have unit : (0 : ℚ) < 2 ^ (exponent - 1) := by positivity
  have double : (2 : ℚ) ^ exponent = 2 * 2 ^ (exponent - 1) := by
    rw [zpow_sub_one₀ (by norm_num)]
    field_simp
  have gap : gapBelow leastNormal exponent = 1 / 4 := if_pos ⟨rfl, less⟩
  have low : (2 * leastNormal - 1 / 2 : ℚ) ≤ num / den / 2 ^ (exponent - 1) := by
    have bound := near.low
    rw [gap, double] at bound
    rw [le_div_iff₀ unit]
    linarith
  have high : (num : ℚ) / den / 2 ^ (exponent - 1) < 2 * leastNormal := by
    rw [double] at below
    rw [div_lt_iff₀ unit]
    linarith
  have aligned : exponentOf num den = exponent - 1 := by
    have bits : (2 : ℚ) ^ (52 : Int) = leastNormal := by norm_num [leastNormal]
    have more : (2 : ℚ) ^ (53 : Int) = 2 * leastNormal := by norm_num [leastNormal]
    have one : (1 : ℚ) ≤ leastNormal := by norm_num [leastNormal]
    rw [exponentOf_eq positive whole (exponent - 1), max_eq_left (by omega)]
    · rw [add_comm, zpow_add₀ (by norm_num), bits, ← le_div_iff₀ unit]
      linarith
    · rw [add_comm, zpow_add₀ (by norm_num), more, ← div_lt_iff₀ unit]
      exact high
  have carried : roundDiv (scaled num den (exponent - 1)).1 (scaled num den (exponent - 1)).2 =
      2 * leastNormal := by
    apply roundDiv_eq (scaled_pos whole _)
    · rw [scaled_eq whole]
      push_cast
      exact low
    · rw [scaled_eq whole]
      push_cast
      linarith
    · intro odd
      omega
  have next : exponent - 1 + 1 = exponent := by ring
  rw [ofRatio, if_neg (by simpa using positive.ne')]
  simp only [aligned, carried]
  rw [ofParts_carried negative (by rwa [next])]
  simp only [next]

/-- A fraction is read to the double whose interval it lies in. -/
theorem ofRatio_eq (negative : Bool) (some : 0 < mantissa) (fits : Fits mantissa exponent)
    (near : RoundsTo (num / den) mantissa exponent) :
    ofRatio negative num den = finite negative mantissa exponent fits := by
  have unit : (0 : ℚ) < 2 ^ exponent := by positivity
  have positive := num_pos whole some near
  obtain ⟨small, least, most, normal⟩ := fits
  have upper : (num : ℚ) / den < 2 ^ (exponent + 53) := by
    have width : (mantissa : ℚ) + 1 ≤ 2 * leastNormal := by exact_mod_cast small
    have more : (2 : ℚ) ^ (53 : Int) = 2 * leastNormal := by norm_num [leastNormal]
    rw [add_comm, zpow_add₀ (by norm_num), more]
    refine lt_of_le_of_lt near.high ?_
    exact mul_lt_mul_of_pos_right (by linarith) unit
  by_cases reached : (leastNormal : ℚ) * 2 ^ exponent ≤ num / den
  · apply ofRatio_of_aligned whole negative some _ near
    rw [exponentOf_eq positive whole exponent ?_ upper, max_eq_left least]
    have bits : (2 : ℚ) ^ (52 : Int) = leastNormal := by norm_num [leastNormal]
    rwa [add_comm, zpow_add₀ (by norm_num), bits]
  · rw [not_le] at reached
    by_cases bottom : exponent = minExponent
    · subst bottom
      exact ofRatio_of_aligned whole negative some _ near (exponentOf_of_small positive whole upper)
    · have power : mantissa = leastNormal := by
        by_contra other
        have gap : gapBelow mantissa exponent = 1 / 2 := if_neg fun both => other both.1
        have above : (leastNormal : ℚ) + 1 ≤ mantissa := by
          exact_mod_cast (by omega : leastNormal + 1 ≤ mantissa)
        have bound := near.low.trans_lt reached
        rw [gap, mul_lt_mul_iff_of_pos_right unit] at bound
        linarith
      subst power
      exact ofRatio_of_carried whole negative _ near (by omega) reached

end Ratios

theorem ofInt_eq {n : Nat} (some : 0 < mantissa) (fits : Fits mantissa exponent)
    (near : RoundsTo n mantissa exponent) :
    ofInt n = finite false mantissa exponent fits := by
  have sign : decide ((n : Int) < 0) = false := by simp
  rw [ofInt, sign, Int.natAbs_natCast]
  exact ofRatio_eq Nat.one_pos false some fits (by simpa using near)

theorem pow_pred_le_of_length {n : Nat} (some : 0 < n) :
    10 ^ ((Nat.toDigits 10 n).length - 1) ≤ n := by
  by_contra small
  rw [not_le] at small
  by_cases single : (Nat.toDigits 10 n).length - 1 = 0
  · rw [single] at small
    omega
  · have := (Nat.length_toDigits_le_iff (by decide) (by omega)).mpr small
    omega

theorem lt_pow_length (n : Nat) : n < 10 ^ (Nat.toDigits 10 n).length :=
  (Nat.length_toDigits_le_iff (by decide) Nat.length_toDigits_pos).mp le_rfl

private theorem two_zpow_lt : (2 : ℚ) ^ (1023 : Int) < 10 ^ (308 : Int) := by
  have scale : (2 : ℚ) ^ (93 : Int) < 10 ^ (28 : Int) := by norm_num
  calc (2 : ℚ) ^ (1023 : Int) = (2 ^ (93 : Int)) ^ (11 : Int) := by rw [← zpow_mul]; rfl
    _ < (10 ^ (28 : Int)) ^ (11 : Int) :=
      zpow_lt_zpow_left₀ (by decide) (by positivity) scale
    _ = 10 ^ (308 : Int) := by rw [← zpow_mul]; rfl

theorem RoundsTo.lt_greatest {x : ℚ} (near : RoundsTo x mantissa exponent)
    (fits : Fits mantissa exponent) : x < 10 ^ (309 : Int) := by
  have width : (mantissa : ℚ) + 1 ≤ 2 * leastNormal := by exact_mod_cast fits.1
  have bits : (2 : ℚ) ^ (53 : Int) = 2 * leastNormal := by norm_num [leastNormal]
  calc x ≤ (mantissa + 1 / 2) * 2 ^ exponent := near.high
    _ ≤ 2 ^ (53 : Int) * 2 ^ (971 : Int) := by
      apply mul_le_mul
      · linarith
      · exact zpow_le_zpow_right₀ (by norm_num) fits.2.2.1
      · positivity
      · positivity
    _ = 2 ^ (1023 : Int) * 2 := by rw [← zpow_add₀ (by norm_num), ← zpow_add_one₀ (by norm_num)]; rfl
    _ < 10 ^ (308 : Int) * 10 := mul_lt_mul'' two_zpow_lt (by norm_num) (by positivity) (by norm_num)
    _ = 10 ^ (309 : Int) := by rw [← zpow_add_one₀ (by norm_num)]; rfl

/-- Doubles other than zero are above the powers of ten up to which a decimal counts as zero. -/
theorem RoundsTo.least_lt {x : ℚ} (near : RoundsTo x mantissa exponent)
    (fits : Fits mantissa exponent) (some : 0 < mantissa) : 10 ^ (-324 : Int) < x := by
  have one : (1 : ℚ) ≤ mantissa := by exact_mod_cast some
  have gap := gapBelow_le mantissa exponent
  have small : (2 : ℚ) ^ (52 : Int) < 10 ^ (16 : Int) := by norm_num
  have inverse : (2 : ℚ) ^ (1075 : Int) < 10 ^ (324 : Int) := by
    calc (2 : ℚ) ^ (1075 : Int) = 2 ^ (1023 : Int) * 2 ^ (52 : Int) := by
          rw [← zpow_add₀ (by norm_num)]; rfl
      _ < 10 ^ (308 : Int) * 10 ^ (16 : Int) :=
        mul_lt_mul'' two_zpow_lt small (by positivity) (by positivity)
      _ = 10 ^ (324 : Int) := by rw [← zpow_add₀ (by norm_num)]; rfl
  calc (10 : ℚ) ^ (-324 : Int) < 2 ^ (-1075 : Int) := by
        rw [zpow_neg, zpow_neg]
        exact inv_strictAnti₀ (by positivity) inverse
    _ = 1 / 2 * 2 ^ (-1074 : Int) := by
      rw [show (-1075 : Int) = -1074 - 1 by rfl, zpow_sub_one₀ (by norm_num)]
      ring
    _ ≤ (mantissa - gapBelow mantissa exponent) * 2 ^ exponent := by
      apply mul_le_mul
      · linarith
      · exact zpow_le_zpow_right₀ (by norm_num) fits.2.1
      · positivity
      · linarith
    _ ≤ x := near.low

/-- A decimal is read to the double whose interval it lies in. -/
theorem ofDecimal_eq (negative : Bool) {digits : Nat} {place : Int} (some : 0 < mantissa)
    (fits : Fits mantissa exponent) (near : RoundsTo (digits * 10 ^ place) mantissa exponent) :
    ofDecimal negative digits place = finite negative mantissa exponent fits := by
  have positive : 0 < digits := by
    have := near.pos some
    rw [mul_pos_iff_of_pos_right (by positivity)] at this
    exact_mod_cast this
  set size := (Nat.toDigits 10 digits).length with size_eq
  have sized : 0 < size := Nat.length_toDigits_pos
  have ten : (1 : ℚ) < 10 := by norm_num
  have sizeLow : (10 : ℚ) ^ ((size : Int) - 1) ≤ digits := by
    have : (10 ^ (size - 1) : Nat) ≤ digits := pow_pred_le_of_length positive
    rw [show (size : Int) - 1 = ((size - 1 : Nat) : Int) by omega, zpow_natCast]
    exact_mod_cast this
  have sizeHigh : (digits : ℚ) < 10 ^ (size : Int) := by
    rw [zpow_natCast]
    exact_mod_cast lt_pow_length digits
  have within : ¬ (size : Int) + place > 310 := by
    have chain : (10 : ℚ) ^ ((size : Int) - 1 + place) < 10 ^ (309 : Int) := by
      calc (10 : ℚ) ^ ((size : Int) - 1 + place) = 10 ^ ((size : Int) - 1) * 10 ^ place :=
            zpow_add₀ (by norm_num) _ _
        _ ≤ digits * 10 ^ place := by gcongr
        _ < 10 ^ (309 : Int) := near.lt_greatest fits
    have := (zpow_lt_zpow_iff_right₀ ten).mp chain
    omega
  have without : ¬ (size : Int) + place < -330 := by
    have chain : (10 : ℚ) ^ (-324 : Int) < 10 ^ ((size : Int) + place) := by
      calc (10 : ℚ) ^ (-324 : Int) < digits * 10 ^ place := near.least_lt fits some
        _ < 10 ^ (size : Int) * 10 ^ place := by gcongr
        _ = 10 ^ ((size : Int) + place) := (zpow_add₀ (by norm_num) _ _).symm
    have := (zpow_lt_zpow_iff_right₀ ten).mp chain
    omega
  rw [ofDecimal, if_neg (by simpa using positive.ne')]
  simp only [← size_eq]
  rw [if_neg within, if_neg without]
  split
  · next down =>
    apply ofRatio_eq (Nat.pow_pos (by decide)) negative some
    rw [zpow_of_neg down, ← div_eq_mul_inv] at near
    exact_mod_cast near
  · next up =>
    apply ofRatio_eq Nat.one_pos negative some
    rw [zpow_of_not_neg up] at near
    rw [Nat.cast_one, div_one]
    exact_mod_cast near

end Reading

end Blueprint.Double
