import Mathlib

/-! # Binary64 arithmetic

Floating-point numbers are the rational numbers they stand for, and an operation is the exact
one followed by `round`, to nearest with ties to even.  Below the normal numbers the last place
stays; numbers too large for the format are not cut off. -/

namespace Binary64

/-- The exponent of the leading binary digit. -/
def binade (x : ℚ) : ℤ :=
  let guess : ℤ := Nat.log2 x.num.natAbs - Nat.log2 x.den
  if 2 ^ guess ≤ |x| then guess else guess - 1

/-- The exponent of the last of the 53 digits. -/
def lastPlace (x : ℚ) : ℤ := max (binade x - 52) (-1074)

/-- To the nearest integer, ties to even. -/
def roundHalfEven (x : ℚ) : ℤ :=
  let rest := x - ⌊x⌋
  if rest < 1 / 2 then ⌊x⌋
  else if 1 / 2 < rest then ⌊x⌋ + 1
  else if 2 ∣ ⌊x⌋ then ⌊x⌋ else ⌊x⌋ + 1

/-- The nearest binary64 number. -/
def round (x : ℚ) : ℚ := roundHalfEven (x / 2 ^ lastPlace x) * 2 ^ lastPlace x

def unitRoundoff : ℚ := 1 / 2 ^ 53

variable {x y bound : ℚ}

/-! ## One rounding -/

theorem abs_roundHalfEven_sub_le (x : ℚ) : |(roundHalfEven x : ℚ) - x| ≤ 1 / 2 := by
  have lower := Int.floor_le x
  have upper := Int.lt_floor_add_one x
  rw [abs_le]
  unfold roundHalfEven
  simp only
  split
  · constructor <;> linarith
  · split
    · push_cast
      constructor <;> linarith
    · split
      · constructor <;> linarith
      · push_cast
        constructor <;> linarith

theorem roundHalfEven_nonneg (nonneg : 0 ≤ x) : 0 ≤ roundHalfEven x := by
  have floor := Int.floor_nonneg.mpr nonneg
  unfold roundHalfEven
  simp only
  split
  · exact floor
  · split
    · omega
    · split <;> omega

theorem round_zero : round 0 = 0 := by simp [round, roundHalfEven]

theorem round_nonneg (nonneg : 0 ≤ x) : 0 ≤ round x := by
  have place : (0 : ℚ) < 2 ^ lastPlace x := by positivity
  have scaled := roundHalfEven_nonneg (div_nonneg nonneg place.le)
  exact mul_nonneg (by exact_mod_cast scaled) place.le

theorem two_zpow_binade_le (nonzero : x ≠ 0) : 2 ^ binade x ≤ |x| := by
  unfold binade
  simp only
  split
  · assumption
  · -- The numerator has at least, and the denominator less than, its power of two.
    have numerator : 2 ^ Nat.log2 x.num.natAbs ≤ x.num.natAbs :=
      Nat.log2_self_le (by simpa using nonzero)
    have denominator : x.den < 2 ^ (Nat.log2 x.den + 1) := Nat.lt_log2_self
    have positive : (0 : ℚ) < x.den := by exact_mod_cast x.den_pos
    have value : |x| = x.num.natAbs / x.den := by
      conv_lhs => rw [← Rat.num_div_den x]
      rw [abs_div, Nat.abs_cast, Nat.cast_natAbs, Int.cast_abs]
    rw [value, le_div_iff₀ positive,
      show (Nat.log2 x.num.natAbs : ℤ) - Nat.log2 x.den - 1 =
        (Nat.log2 x.num.natAbs : ℤ) - (Nat.log2 x.den + 1 : ℕ) by push_cast; ring,
      zpow_sub₀ (by norm_num), zpow_natCast, zpow_natCast, div_mul_eq_mul_div,
      div_le_iff₀ (by positivity)]
    have numerator' : (2 : ℚ) ^ Nat.log2 x.num.natAbs ≤ x.num.natAbs := by exact_mod_cast numerator
    have denominator' : (x.den : ℚ) ≤ 2 ^ (Nat.log2 x.den + 1) := by
      exact_mod_cast denominator.le
    exact mul_le_mul numerator' denominator' positive.le (by positivity)

/-- A rounding is off by half of the last place, which is `unitRoundoff` of any normal bound. -/
theorem abs_round_sub_le (within : |x| ≤ bound) (normal : 2 ^ (-1022 : ℤ) ≤ bound) :
    |round x - x| ≤ unitRoundoff * bound := by
  have positive : (0 : ℚ) < bound := lt_of_lt_of_le (by positivity) normal
  by_cases zero : x = 0
  · subst zero
    rw [round_zero, sub_zero, abs_zero]
    exact mul_nonneg (by norm_num [unitRoundoff]) positive.le
  have place : (0 : ℚ) < 2 ^ lastPlace x := by positivity
  have half := abs_roundHalfEven_sub_le (x / 2 ^ lastPlace x)
  have error : |round x - x| ≤ 1 / 2 * 2 ^ lastPlace x := by
    have scaled : round x - x =
        (roundHalfEven (x / 2 ^ lastPlace x) - x / 2 ^ lastPlace x) * 2 ^ lastPlace x := by
      rw [round, sub_mul, div_mul_cancel₀ _ place.ne']
    rw [scaled, abs_mul, abs_of_pos place]
    exact mul_le_mul_of_nonneg_right half place.le
  refine error.trans ?_
  suffices last : (2 : ℚ) ^ lastPlace x ≤ 2 ^ (-52 : ℤ) * bound by
    unfold unitRoundoff
    norm_num at last ⊢
    linarith
  unfold lastPlace
  obtain normal' | subnormal := le_total (-1074) (binade x - 52)
  · rw [max_eq_left normal']
    have leading := (two_zpow_binade_le zero).trans within
    rw [sub_eq_add_neg, zpow_add₀ (by norm_num), mul_comm]
    exact mul_le_mul_of_nonneg_left leading (by positivity)
  · rw [max_eq_right subnormal]
    calc (2 : ℚ) ^ (-1074 : ℤ) = 2 ^ (-52 : ℤ) * 2 ^ (-1022 : ℤ) := by
          rw [← zpow_add₀ (by norm_num)]; norm_num
      _ ≤ 2 ^ (-52 : ℤ) * bound := mul_le_mul_of_nonneg_left normal (by positivity)

/-! ## Sums -/

/-- One addend of a compensated sum: the total so far, and what its roundings have lost. -/
def compensate (sums : ℚ × ℚ) (x : ℚ) : ℚ × ℚ :=
  let total := round (sums.1 + x)
  let lost :=
    if |x| ≤ |sums.1| then round (round (sums.1 - total) + x)
    else round (round (x - total) + sums.1)
  (total, round (sums.2 + lost))

/-- The compensated sum of some numbers, which begins with the first one. -/
def sum : List ℚ → ℚ
  | [] => 0
  | x :: rest =>
    let sums := rest.foldl compensate (x, 0)
    if sums.2 = 0 then sums.1 else round (sums.1 + sums.2)

theorem sum_singleton : sum [x] = x := by simp [sum]

/-- The lost part of a rounded addition is small, whichever addend it is taken from. -/
theorem abs_lost_le {total : ℚ} (first : 0 ≤ x) (second : 0 ≤ y)
    (normal : 2 ^ (-1022 : ℤ) ≤ x + y) (rounded : |total - (x + y)| ≤ unitRoundoff * (x + y)) :
    |round (round (x - total) + y)| ≤ 4 * unitRoundoff * (x + y) := by
  have positive : (0 : ℚ) < x + y := lt_of_lt_of_le (by positivity) normal
  have unit : unitRoundoff * (x + y) ≤ (x + y) / 8 := by
    rw [unitRoundoff]
    linarith
  obtain ⟨low, high⟩ := abs_le.mp rounded
  have difference : |x - total| ≤ 2 * (x + y) := by
    rw [abs_le]
    constructor <;> linarith
  obtain ⟨low', high'⟩ := abs_le.mp (abs_round_sub_le difference (by linarith))
  have inner : |round (x - total) + y| ≤ 3 * unitRoundoff * (x + y) := by
    rw [abs_le]
    constructor <;> linarith
  obtain ⟨low'', high''⟩ := abs_le.mp inner
  have small : |round (x - total) + y| ≤ x + y := inner.trans (by linarith)
  obtain ⟨below, above⟩ := abs_le.mp (abs_round_sub_le small normal)
  rw [abs_le]
  constructor <;> linarith

/-- The compensated sum of two numbers that are not negative. -/
theorem abs_sum_pair_sub_le (first : 0 ≤ x) (second : 0 ≤ y)
    (normal : 2 ^ (-1022 : ℤ) ≤ x + y) :
    |sum [x, y] - (x + y)| ≤ 8 * unitRoundoff * (x + y) := by
  have positive : (0 : ℚ) < x + y := lt_of_lt_of_le (by positivity) normal
  have unit : unitRoundoff * (x + y) ≤ (x + y) / 8 := by
    rw [unitRoundoff]
    linarith
  have unit' : 0 ≤ unitRoundoff * (x + y) := mul_nonneg (by norm_num [unitRoundoff]) positive.le
  have rounded : |round (x + y) - (x + y)| ≤ unitRoundoff * (x + y) :=
    abs_round_sub_le (abs_of_pos positive).le normal
  obtain ⟨low, high⟩ := abs_le.mp rounded
  have lost : |(compensate (x, 0) y).2| ≤ 5 * unitRoundoff * (x + y) := by
    have either : ∀ part, |part| ≤ 4 * unitRoundoff * (x + y) →
        |round (0 + part)| ≤ 5 * unitRoundoff * (x + y) := by
      intro part small
      obtain ⟨low, high⟩ := abs_le.mp small
      have within : |0 + part| ≤ x + y := by
        rw [abs_le]
        constructor <;> linarith
      obtain ⟨below, above⟩ := abs_le.mp (abs_round_sub_le within normal)
      rw [abs_le]
      constructor <;> linarith
    simp only [compensate]
    split
    · exact either _ (abs_lost_le first second normal rounded)
    · have swapped := @abs_lost_le y x (round (x + y)) second first (by rwa [add_comm])
        (by rwa [add_comm y x])
      rw [add_comm y x] at swapped
      exact either _ swapped
  obtain ⟨low', high'⟩ := abs_le.mp lost
  have total : (compensate (x, 0) y).1 = round (x + y) := rfl
  simp only [sum, List.foldl_cons, List.foldl_nil, total]
  rw [abs_le]
  split
  · constructor <;> linarith
  · have within : |round (x + y) + (compensate (x, 0) y).2| ≤ 2 * (x + y) := by
      rw [abs_le]
      constructor <;> linarith
    obtain ⟨below, above⟩ := abs_le.mp (abs_round_sub_le within (by linarith))
    constructor <;> linarith

end Binary64
