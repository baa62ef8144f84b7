import Blueprint.Proofs.Decimal.Rounding

/-!
The digits that a double is written with lie in its interval, so they are read back to it. Grids of
more and more digits are tried; on one of 17 digits the two neighbours of a double are closer to each
other than the ends of its interval, so one of them is inside.
-/

namespace Blueprint.Double

section Grids

variable {mantissa : Nat} {exponent : Int}

theorem zpow_fraction {base : Nat} (exponent : Int) :
    ((if exponent < 0 then 1 else Nat.pow base exponent.toNat : Nat) : ℚ) /
      (if exponent < 0 then Nat.pow base (-exponent).toNat else 1 : Nat) = base ^ exponent := by
  split
  · next down =>
    rw [zpow_of_neg down]
    push_cast [Nat.pow_eq]
    rw [one_div]
  · next up =>
    rw [zpow_of_not_neg up]
    push_cast [Nat.pow_eq]
    rw [div_one]

theorem rounding_unit (count : Nat) (exponent : Int) :
    ((count * (if exponent - 2 < 0 then 1 else Nat.pow 2 (exponent - 2).toNat) : Nat) : ℚ) /
      (if exponent - 2 < 0 then Nat.pow 2 (-(exponent - 2)).toNat else 1 : Nat) =
        count / 4 * 2 ^ exponent := by
  rw [Nat.cast_mul, mul_div_assoc, zpow_fraction, Nat.cast_ofNat, zpow_sub₀ (by norm_num)]
  ring

theorem rounding_den_pos (mantissa : Nat) (exponent : Int) : 0 < (rounding mantissa exponent).den := by
  unfold rounding
  dsimp only
  split
  · exact Nat.pow_pos (by decide)
  · exact Nat.one_pos

theorem rounding_value (mantissa : Nat) (exponent : Int) :
    ((rounding mantissa exponent).value : ℚ) / (rounding mantissa exponent).den =
      mantissa * 2 ^ exponent := by
  refine (rounding_unit (4 * mantissa) exponent).trans ?_
  push_cast
  ring

private theorem rounding_high (mantissa : Nat) (exponent : Int) :
    ((rounding mantissa exponent).high : ℚ) / (rounding mantissa exponent).den =
      (mantissa + 1 / 2) * 2 ^ exponent := by
  refine (rounding_unit (4 * mantissa + 2) exponent).trans ?_
  push_cast
  ring

theorem rounding_low (some : 0 < mantissa) (exponent : Int) :
    ((rounding mantissa exponent).low : ℚ) / (rounding mantissa exponent).den =
      (mantissa - gapBelow mantissa exponent) * 2 ^ exponent := by
  refine (rounding_unit (4 * mantissa -
    if mantissa == leastNormal && minExponent < exponent then 1 else 2) exponent).trans ?_
  unfold gapBelow
  by_cases power : mantissa = leastNormal ∧ minExponent < exponent
  · have edge : (mantissa == leastNormal && decide (minExponent < exponent)) = true := by
      simpa using power
    rw [edge, if_pos rfl, if_pos power, Nat.cast_sub (by omega)]
    push_cast
    ring
  · have edge : (mantissa == leastNormal && decide (minExponent < exponent)) = false := by
      simpa using power
    rw [edge, if_neg Bool.false_ne_true, if_neg power, Nat.cast_sub (by omega)]
    push_cast
    ring

private theorem zpow_place (place : Int) :
    ((if place < 0 then 1 else Nat.pow 10 place.toNat : Nat) : ℚ) /
      (if place < 0 then Nat.pow 10 (-place).toNat else 1 : Nat) = 10 ^ place :=
  (zpow_fraction place).trans (by rw [Nat.cast_ofNat])

/-- The test of digits at a place decides whether they lie in the interval. -/
theorem holds_iff (some : 0 < mantissa) {digits : Nat} {place : Int} :
    (rounding mantissa exponent).holds digits place = true ↔
      RoundsTo (digits * 10 ^ place) mantissa exponent := by
  have den : (0 : ℚ) < (rounding mantissa exponent).den := by
    exact_mod_cast rounding_den_pos mantissa exponent
  have low := rounding_low some exponent
  have high := rounding_high mantissa exponent
  have closed : (rounding mantissa exponent).closed = (mantissa % 2 == 0) := rfl
  have fraction : (digits : ℚ) * 10 ^ place =
      (if place < 0 then digits else digits * Nat.pow 10 place.toNat : Nat) /
        (if place < 0 then Nat.pow 10 (-place).toNat else 1 : Nat) := by
    rw [← zpow_place]
    split <;> push_cast <;> ring
  have positive : (0 : ℚ) < (if place < 0 then Nat.pow 10 (-place).toNat else 1 : Nat) := by
    split
    · exact_mod_cast Nat.pow_pos (by decide)
    · norm_num
  unfold Rounding.holds
  dsimp only
  generalize (if place < 0 then digits else digits * Nat.pow 10 place.toNat) = top at fraction
  generalize (if place < 0 then Nat.pow 10 (-place).toNat else 1) = bottom at fraction positive
  generalize rounding mantissa exponent = r at den low high closed
  have above : (mantissa - gapBelow mantissa exponent) * 2 ^ exponent ≤ digits * 10 ^ place ↔
      r.low * bottom ≤ top * r.den := by
    rw [fraction, ← low, div_le_div_iff₀ den positive]
    exact_mod_cast Iff.rfl
  have strictlyAbove : (mantissa - gapBelow mantissa exponent) * 2 ^ exponent < digits * 10 ^ place ↔
      r.low * bottom < top * r.den := by
    rw [fraction, ← low, div_lt_div_iff₀ den positive]
    exact_mod_cast Iff.rfl
  have below : (digits : ℚ) * 10 ^ place ≤ (mantissa + 1 / 2) * 2 ^ exponent ↔
      top * r.den ≤ r.high * bottom := by
    rw [fraction, ← high, div_le_div_iff₀ positive den]
    exact_mod_cast Iff.rfl
  have strictlyBelow : (digits : ℚ) * 10 ^ place < (mantissa + 1 / 2) * 2 ^ exponent ↔
      top * r.den < r.high * bottom := by
    rw [fraction, ← high, div_lt_div_iff₀ positive den]
    exact_mod_cast Iff.rfl
  rw [closed]
  by_cases even : mantissa % 2 = 0
  · rw [beq_iff_eq.mpr even, if_pos rfl, Bool.and_eq_true, decide_eq_true_eq, decide_eq_true_eq,
      ← above, ← below]
    constructor
    · rintro ⟨first, second⟩
      exact ⟨first, second, fun odd => by omega⟩
    · intro near
      exact ⟨near.low, near.high⟩
  · rw [beq_eq_false_iff_ne.mpr even, if_neg Bool.false_ne_true, Bool.and_eq_true,
      decide_eq_true_eq, decide_eq_true_eq, ← strictlyAbove, ← strictlyBelow]
    constructor
    · rintro ⟨first, second⟩
      exact roundsTo_of_between first second
    · intro near
      exact near.tie (by omega)

/-- The magnitude of a fraction is the power of ten above it. -/
theorem magnitude_spec {num den : Nat} (whole : 0 < den)
    (least : (10 : ℚ) ^ (-330 : Int) ≤ num / den) :
    (10 : ℚ) ^ (magnitude num den - 1) ≤ num / den ∧ (num : ℚ) / den < 10 ^ magnitude num den := by
  have positive : (0 : ℚ) < den := by exact_mod_cast whole
  have ten : (10 : ℚ) ≠ 0 := by norm_num
  have scale : (0 : ℚ) < 10 ^ (330 : Int) := by positivity
  have power : ∀ places : Nat, ((Nat.pow 10 places : Nat) : ℚ) = 10 ^ (places : Int) := by
    intro places
    rw [Nat.pow_eq, Nat.cast_pow, Nat.cast_ofNat, zpow_natCast]
  unfold magnitude
  generalize Nat.pow 10 = powerOfTen at power
  replace power := power 330
  rw [Nat.cast_ofNat] at power
  generalize powerOfTen 330 = factor at power
  set grains := num * factor / den with grains_eq
  set size := (Nat.toDigits 10 grains).length with size_eq
  have upper : (num : ℚ) / den * 10 ^ (330 : Int) < grains + 1 := by
    have exact : num * factor < (grains + 1) * den := by
      rw [grains_eq, ← Nat.div_lt_iff_lt_mul whole]
      exact Nat.lt_succ_self _
    rw [div_mul_eq_mul_div, div_lt_iff₀ positive, ← power]
    exact_mod_cast exact
  have lower : (grains : ℚ) ≤ num / den * 10 ^ (330 : Int) := by
    rw [div_mul_eq_mul_div, le_div_iff₀ positive, ← power]
    exact_mod_cast Nat.div_mul_le_self (num * factor) den
  have some : 0 < grains := by
    have one : (1 : ℚ) ≤ num / den * 10 ^ (330 : Int) := by
      calc (1 : ℚ) = 10 ^ (-330 : Int) * 10 ^ (330 : Int) := by rw [← zpow_add₀ ten]; rfl
        _ ≤ num / den * 10 ^ (330 : Int) := by gcongr
    have : (0 : ℚ) < grains := by linarith
    exact_mod_cast this
  have sized : 0 < size := Nat.length_toDigits_pos
  constructor
  · have digits : (10 : ℚ) ^ ((size : Int) - 1) ≤ grains := by
      have : (10 ^ (size - 1) : Nat) ≤ grains := pow_pred_le_of_length some
      rw [show (size : Int) - 1 = ((size - 1 : Nat) : Int) by omega, zpow_natCast]
      exact_mod_cast this
    rw [← mul_le_mul_iff_of_pos_right scale, ← zpow_add₀ ten,
      show (size : Int) - 330 - 1 + 330 = size - 1 by ring]
    exact digits.trans lower
  · have digits : (grains : ℚ) + 1 ≤ 10 ^ (size : Int) := by
      rw [zpow_natCast]
      exact_mod_cast lt_pow_length grains
    rw [← mul_lt_mul_iff_of_pos_right scale, ← zpow_add₀ ten, sub_add_cancel]
    exact upper.trans_le digits

private theorem roundDiv_cases {num den below : Nat} (quotient : num / den = below) :
    roundDiv num den = below ∨ roundDiv num den = below + 1 := by
  subst quotient
  unfold roundDiv
  dsimp only
  split
  · exact Or.inl rfl
  · split
    · exact Or.inr rfl
    · split
      · exact Or.inl rfl
      · exact Or.inr rfl

/-- How many steps of a grid are below a value. -/
def Rounding.below (r : Rounding) (place : Int) : Nat :=
  (if place < 0 then r.value * Nat.pow 10 (-place).toNat else r.value) /
    (if place < 0 then r.den else r.den * Nat.pow 10 place.toNat)

/-- A value stands between two neighbours on a grid. -/
theorem Rounding.below_spec (r : Rounding) (whole : 0 < r.den) (place : Int) :
    r.below place * 10 ^ place ≤ (r.value : ℚ) / r.den ∧
      (r.value : ℚ) / r.den < (r.below place + 1) * 10 ^ place := by
  unfold Rounding.below
  set num := if place < 0 then r.value * Nat.pow 10 (-place).toNat else r.value with num_eq
  set den := if place < 0 then r.den else r.den * Nat.pow 10 place.toNat with den_eq
  have units : (num : ℚ) / den = r.value / r.den / 10 ^ place := by
    rw [num_eq, den_eq]
    split
    · next down =>
      rw [zpow_of_neg down]
      push_cast [Nat.pow_eq]
      field_simp
    · next up =>
      rw [zpow_of_not_neg up]
      push_cast [Nat.pow_eq]
      rw [div_div]
  have some : 0 < den := by
    rw [den_eq]
    split
    · exact whole
    · exact Nat.mul_pos whole (Nat.pow_pos (by decide))
  have step : (0 : ℚ) < 10 ^ place := by positivity
  have divisor : (0 : ℚ) < den := by exact_mod_cast some
  constructor
  · rw [← le_div_iff₀ step, ← units, le_div_iff₀ divisor]
    exact_mod_cast Nat.div_mul_le_self num den
  · rw [← div_lt_iff₀ step, ← units, div_lt_iff₀ divisor]
    have : num < (num / den + 1) * den := by
      rw [← Nat.div_lt_iff_lt_mul some]
      exact Nat.lt_succ_self _
    exact_mod_cast this

/-- The number that is taken on a grid is a neighbour of the value within its interval. -/
theorem Rounding.neighbour_of_onGrid? {r : Rounding} {place : Int} {digits : Nat}
    (found : r.onGrid? place = some digits) :
    (digits = r.below place ∨ digits = r.below place + 1) ∧ 0 < digits ∧
      r.holds digits place = true := by
  obtain ⟨below, same⟩ : ∃ below, r.below place = below := ⟨_, rfl⟩
  rw [same]
  unfold Rounding.below at same
  unfold Rounding.onGrid? at found
  simp only [same] at found
  split at found
  · next low high =>
    rw [Bool.and_eq_true, bne_iff_ne] at low
    cases found
    rcases roundDiv_cases same with nearest | nearest
    · rw [nearest]
      exact ⟨Or.inl rfl, Nat.pos_of_ne_zero low.2, low.1⟩
    · rw [nearest]
      exact ⟨Or.inr rfl, Nat.succ_pos _, high⟩
  · next low _ =>
    rw [Bool.and_eq_true, bne_iff_ne] at low
    cases found
    exact ⟨Or.inl rfl, Nat.pos_of_ne_zero low.2, low.1⟩
  · next _ high =>
    cases found
    exact ⟨Or.inr rfl, Nat.succ_pos _, high⟩
  · cases found

/-- None is taken only if both neighbours are outside the interval. -/
theorem Rounding.outside_of_onGrid? {r : Rounding} {place : Int} (found : r.onGrid? place = none) :
    (r.below place ≠ 0 → r.holds (r.below place) place = false) ∧
      r.holds (r.below place + 1) place = false := by
  obtain ⟨below, same⟩ : ∃ below, r.below place = below := ⟨_, rfl⟩
  rw [same]
  unfold Rounding.below at same
  unfold Rounding.onGrid? at found
  simp only [same] at found
  split at found
  · cases found
  · cases found
  · cases found
  · next low high =>
    refine ⟨fun other => ?_, high⟩
    rw [bne_iff_ne.mpr other, Bool.and_true] at low
    exact low

theorem length_digits_neighbour {below digits count : Nat} (first : 1 ≤ count)
    (atLeast : 10 ^ (count - 1) ≤ below) (atMost : below < 10 ^ count)
    (neighbour : digits = below ∨ digits = below + 1) (other : digits ≠ 10 ^ count) :
    (Nat.toDigits 10 digits).length = count := by
  have upper : (Nat.toDigits 10 digits).length ≤ count :=
    (Nat.length_toDigits_le_iff (by decide) (by omega)).mpr (by omega)
  have lower : 10 ^ (count - 1) < 10 ^ (Nat.toDigits 10 digits).length := by
    have := lt_pow_length digits
    omega
  have := (Nat.pow_lt_pow_iff_right (by decide)).mp lower
  omega

/-- The interval of a double is wider than the steps of a grid on which it has 17 digits. -/
theorem onGrid?_isSome (some : 0 < mantissa) (fits : Fits mantissa exponent) {place : Int}
    (digits : (10 : ℚ) ^ (16 : Int) * 10 ^ place ≤ mantissa * 2 ^ exponent) :
    ((rounding mantissa exponent).onGrid? place).isSome := by
  obtain ⟨low, high⟩ :=
    (rounding mantissa exponent).below_spec (rounding_den_pos mantissa exponent) place
  rw [rounding_value] at low high
  have unit : (0 : ℚ) < 2 ^ exponent := by positivity
  have step : (0 : ℚ) < 10 ^ place := by positivity
  have gap := gapBelow_pos mantissa exponent
  have lowEnd : (mantissa - gapBelow mantissa exponent) * 2 ^ exponent < mantissa * 2 ^ exponent :=
    mul_lt_mul_of_pos_right (by linarith) unit
  have highEnd : (mantissa : ℚ) * 2 ^ exponent < (mantissa + 1 / 2) * 2 ^ exponent :=
    mul_lt_mul_of_pos_right (by linarith) unit
  rw [← Option.not_isNone, Bool.not_eq_true', Option.isNone_eq_false_iff, ← Option.ne_none_iff_isSome]
  intro none
  obtain ⟨outLow, outHigh⟩ := Rounding.outside_of_onGrid? none
  generalize (rounding mantissa exponent).below place = below at low high outLow outHigh
  have downTo : (below : ℚ) * 10 ^ place ≤ (mantissa - gapBelow mantissa exponent) * 2 ^ exponent := by
    by_contra inside
    rw [not_le] at inside
    have zero : below ≠ 0 := by
      rintro rfl
      have : (10 : ℚ) ^ (16 : Int) * 10 ^ place < 1 * 10 ^ place := by
        simpa using digits.trans_lt high
      rw [mul_lt_mul_iff_of_pos_right step] at this
      norm_num at this
    have near := roundsTo_of_between inside (low.trans_lt highEnd)
    rw [← holds_iff some, outLow zero] at near
    exact Bool.false_ne_true near
  have upTo : ((mantissa : ℚ) + 1 / 2) * 2 ^ exponent ≤ (below + 1) * 10 ^ place := by
    by_contra inside
    rw [not_le] at inside
    have near := roundsTo_of_between (x := ((below + 1 : Nat) : ℚ) * 10 ^ place)
      (lowEnd.trans (by exact_mod_cast high)) (by exact_mod_cast inside)
    rw [← holds_iff some, outHigh] at near
    exact Bool.false_ne_true near
  -- The step is as wide as the interval, so the mantissa has 17 digits as well.
  have wide : (gapBelow mantissa exponent + 1 / 2) * 2 ^ exponent ≤ 10 ^ place := by linarith
  have many : (10 : ℚ) ^ (16 : Int) * (gapBelow mantissa exponent + 1 / 2) ≤ mantissa := by
    rw [← mul_le_mul_iff_of_pos_right unit, mul_assoc]
    exact le_trans (by gcongr) digits
  unfold gapBelow at many
  split at many
  · next power =>
    rw [power.1] at many
    norm_num [leastNormal] at many
  · have width := fits.1
    norm_num [leastNormal] at many width
    omega

theorem zpow_split (top : Int) (count : Nat) :
    (10 : ℚ) ^ top = 10 ^ count * 10 ^ (top - count) := by
  rw [← zpow_natCast, ← zpow_add₀ (by norm_num), add_sub_cancel]

/-- A number of a grid that lies in the interval has as many digits as the grid, or it is the next
power of ten. -/
theorem onGrid?_spec (some : 0 < mantissa) {top : Int}
    (least : (10 : ℚ) ^ (top - 1) ≤ mantissa * 2 ^ exponent)
    (most : mantissa * 2 ^ exponent < (10 : ℚ) ^ top) {count digits : Nat} (first : 1 ≤ count)
    (grid : (rounding mantissa exponent).onGrid? (top - count) = Option.some digits) :
    0 < digits ∧ RoundsTo (digits * 10 ^ (top - count)) mantissa exponent ∧
      (digits ≠ 10 ^ count → (Digits.mk digits top).size = count) := by
  obtain ⟨low, high⟩ :=
    (rounding mantissa exponent).below_spec (rounding_den_pos mantissa exponent) (top - count)
  rw [rounding_value] at low high
  obtain ⟨neighbour, positive, inside⟩ := Rounding.neighbour_of_onGrid? grid
  refine ⟨positive, (holds_iff some).mp inside, fun other => ?_⟩
  have step : (0 : ℚ) < 10 ^ (top - count) := by positivity
  have atLeast : 10 ^ (count - 1) ≤ (rounding mantissa exponent).below (top - count) := by
    have power := zpow_split (top - 1) (count - 1)
    rw [Nat.cast_sub first, Nat.cast_one, sub_sub_sub_cancel_right] at power
    have := least.trans_lt high
    rw [power, mul_lt_mul_iff_of_pos_right step] at this
    rw [← Nat.lt_succ_iff]
    exact_mod_cast this
  have atMost : (rounding mantissa exponent).below (top - count) < 10 ^ count := by
    have := low.trans_lt most
    rw [zpow_split top count, mul_lt_mul_iff_of_pos_right step] at this
    exact_mod_cast this
  exact length_digits_neighbour first atLeast atMost neighbour other

/-- The first grid that has a number in the interval is one of 17 digits at most. -/
theorem shortestFrom_spec (some : 0 < mantissa) (fits : Fits mantissa exponent) {top : Int}
    (least : (10 : ℚ) ^ (top - 1) ≤ mantissa * 2 ^ exponent)
    (most : mantissa * 2 ^ exponent < (10 : ℚ) ^ top) {fuel count : Nat} (left : fuel + count = 18)
    (first : 1 ≤ count) (last : count ≤ 17) {found : Digits}
    (run : (rounding mantissa exponent).shortestFrom top fuel count = found) :
    0 < found.digits ∧
      RoundsTo (found.digits * 10 ^ (found.point - found.size)) mantissa exponent := by
  induction fuel generalizing count with
  | zero => omega
  | succ fuel ih =>
    unfold Rounding.shortestFrom at run
    split at run
    · next digits grid =>
      obtain ⟨positive, inside, size⟩ := onGrid?_spec some least most first grid
      split at run
      · next full =>
        rw [beq_iff_eq] at full
        subst run full
        refine ⟨Nat.one_pos, ?_⟩
        have place : top + 1 - (Digits.mk 1 (top + 1)).size = top := by
          rw [Digits.size, Nat.toDigits_of_lt_base (Nat.one_lt_ofNat), List.length_singleton]
          omega
        rw [place]
        push_cast [Nat.pow_eq] at inside ⊢
        rwa [one_mul, zpow_split top count]
      · next other =>
        rw [beq_iff_eq, Nat.pow_eq] at other
        subst run
        rw [size other]
        exact ⟨positive, inside⟩
    · next missing =>
      have more : count ≠ 17 := by
        rintro rfl
        have sized : (10 : ℚ) ^ (16 : Int) * 10 ^ (top - (17 : Nat)) ≤ mantissa * 2 ^ exponent := by
          rw [← zpow_add₀ (by norm_num)]
          exact (congrArg _ (by omega)).trans_le least
        have := onGrid?_isSome some fits sized
        rw [missing] at this
        cases this
      exact ih (by omega) (by omega) (by omega) run

/-- The digits of a double are read back to it. -/
theorem shortest_spec (some : 0 < mantissa) (fits : Fits mantissa exponent) :
    0 < (shortest mantissa exponent).digits ∧
      RoundsTo ((shortest mantissa exponent).digits *
        10 ^ ((shortest mantissa exponent).point - (shortest mantissa exponent).size))
        mantissa exponent := by
  have value := rounding_value mantissa exponent
  have least : (10 : ℚ) ^ (-330 : Int) ≤
      (rounding mantissa exponent).value / (rounding mantissa exponent).den := by
    rw [value]
    exact (zpow_le_zpow_right₀ (by norm_num) (by decide)).trans
      ((roundsTo_self mantissa exponent).least_lt fits some).le
  obtain ⟨low, high⟩ := magnitude_spec (rounding_den_pos mantissa exponent) least
  rw [value] at low high
  exact shortestFrom_spec some fits low high rfl (by decide) (by decide) rfl

/-- A whole number that digits are written out as is their value. -/
theorem Digits.whole?_eq {d : Digits} {whole : Nat} (found : d.whole? = some whole) :
    (whole : ℚ) = d.digits * 10 ^ (d.point - d.size) := by
  unfold Digits.whole? at found
  split at found
  · next written =>
    cases found
    rw [zpow_of_not_neg (by omega)]
    push_cast [Nat.pow_eq]
    rfl
  · cases found

/-- Whole numbers are written out up to 16 digits. -/
theorem Digits.length_whole {d : Digits} {whole : Nat} (found : d.whole? = some whole) :
    (Nat.toDigits 10 whole).length ≤ 16 := by
  unfold Digits.whole? at found
  split at found
  · next written =>
    cases found
    rw [Nat.length_toDigits_le_iff (by decide) (by decide)]
    calc d.digits * Nat.pow 10 (d.point - d.size).toNat
        < 10 ^ d.size * 10 ^ (d.point - d.size).toNat :=
          Nat.mul_lt_mul_of_pos_right (lt_pow_length d.digits) (Nat.pow_pos (by decide))
      _ = 10 ^ d.point.toNat := by
          rw [← Nat.pow_add]
          congr 1
          omega
      _ ≤ 10 ^ 16 := Nat.pow_le_pow_right (by decide) (by omega)
  · cases found

end Grids

/-- The number is finite. -/
def IsFinite : Double → Prop
  | finite .. => True
  | _ => False

theorem finite_cases (x : Double) : x = nan ∨ (∃ negative, x = infinite negative) ∨ x.IsFinite := by
  cases x with
  | nan => exact Or.inl rfl
  | infinite negative => exact Or.inr (Or.inl ⟨negative, rfl⟩)
  | finite => exact Or.inr (Or.inr trivial)

end Blueprint.Double
