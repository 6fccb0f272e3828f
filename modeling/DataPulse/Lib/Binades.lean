/-
**How far a binary64 rounding moves a number below a power of two.**

* `roundBinary64_error_below`: below `2 ^ k`, by at most `2 ^ (k - 54)`;
* `number_error_below`, `units_of_number_below`, `toFixed_of_number_below`: a number of ten-thousandths of a
  quantity below `2 ^ 38` survives the way through binary64 and back;
* `units_of_difference_below`: and so does the difference of two such numbers, for quantities below `2 ^ 37`
  and a difference below `2 ^ 51`.
-/

import DataPulse.Lib.Binary64

namespace DataPulse.Lib.Binary64

/-- **Below `2 ^ k` a rounding moves a number by at most `2 ^ (k - 54)`**, half of the last place. -/
theorem roundBinary64_error_below {k : ℤ} {q : ℚ} (normal : -1021 ≤ k) (below : |q| < 2 ^ k) :
    |roundBinary64 q - q| ≤ 2 ^ (k - 54) := by
  by_cases zero : q = 0
  · rw [zero, roundBinary64_zero, sub_zero, abs_zero]
    positivity
  · have magnitude : 0 < |q| := abs_pos.2 zero
    have exponent : Int.log 2 |q| < k :=
      (Int.lt_zpow_iff_log_lt (by norm_num) magnitude).1 (by exact_mod_cast below)
    have place : lastPlace q ≤ k - 53 := by
      unfold lastPlace
      omega
    have power : (0 : ℚ) < 2 ^ lastPlace q := by positivity
    have scaled := roundEven_error (q / 2 ^ lastPlace q)
    have unscaled : roundBinary64 q - q =
        ((roundEven (q / 2 ^ lastPlace q) : ℚ) - q / 2 ^ lastPlace q) * 2 ^ lastPlace q := by
      rw [roundBinary64, sub_mul, div_mul_cancel₀ _ power.ne']
    calc |roundBinary64 q - q|
        = |(roundEven (q / 2 ^ lastPlace q) : ℚ) - q / 2 ^ lastPlace q| * 2 ^ lastPlace q := by
          rw [unscaled, abs_mul, abs_of_pos power]
      _ ≤ 1 / 2 * 2 ^ lastPlace q := mul_le_mul_of_nonneg_right scaled power.le
      _ ≤ 1 / 2 * 2 ^ (k - 53) := by
          have wider : (2 : ℚ) ^ lastPlace q ≤ 2 ^ (k - 53) := zpow_le_zpow_right₀ (by norm_num) place
          linarith
      _ = 2 ^ (k - 54) := by
          rw [show k - 53 = (k - 54) + 1 by ring, zpow_add_one₀ (by norm_num)]
          ring

section Units

variable {u v : ℤ}

theorem number_error_below {k : ℤ} (normal : -1021 ≤ k) (below : |(u : ℚ)| < 2 ^ k * 10 ^ 4) :
    |roundBinary64 (u / 10 ^ 4) * 10 ^ 4 - u| ≤ 2 ^ (k - 54) * 10 ^ 4 := by
  have quantity : |(u / 10 ^ 4 : ℚ)| < 2 ^ k := by
    rw [abs_div, abs_of_pos (by norm_num : (0 : ℚ) < 10 ^ 4), div_lt_iff₀ (by norm_num)]
    exact below
  have error := roundBinary64_error_below normal quantity
  have scaled : roundBinary64 (u / 10 ^ 4) * 10 ^ 4 - u =
      (roundBinary64 (u / 10 ^ 4) - u / 10 ^ 4) * 10 ^ 4 := by
    ring
  rw [scaled, abs_mul, abs_of_pos (by norm_num : (0 : ℚ) < 10 ^ 4)]
  exact mul_le_mul_of_nonneg_right error (by norm_num)

/-- **`Math.round(Number(text) * 10 ^ 4)` of a quantity below `2 ^ 38`.** -/
theorem units_of_number_below (below : |(u : ℚ)| < 2 ^ 38 * 10 ^ 4) :
    mathRound (roundBinary64 (roundBinary64 (u / 10 ^ 4) * 10 ^ 4)) = u := by
  have number := number_error_below (k := 38) (by norm_num) (by exact_mod_cast below)
  generalize roundBinary64 (u / 10 ^ 4) * 10 ^ 4 = scaled at number
  have near : |scaled - u| ≤ 1 / 6 := number.trans (by norm_num)
  have small : |scaled| < 2 ^ (52 : ℤ) := by
    have difference := abs_sub_abs_le_abs_sub scaled (u : ℚ)
    have range : |scaled| < 2 ^ 38 * 10 ^ 4 + 1 / 6 := by linarith
    exact range.trans (by norm_num)
  have rounded : |roundBinary64 scaled - scaled| ≤ 1 / 4 :=
    (roundBinary64_error_below (by norm_num) small).trans (by norm_num)
  refine mathRound_eq ?_
  calc |roundBinary64 scaled - u| ≤ |roundBinary64 scaled - scaled| + |scaled - u| := abs_sub_le _ _ _
    _ ≤ 1 / 4 + 1 / 6 := add_le_add rounded near
    _ < 1 / 2 := by norm_num

/-- **`Number(text).toFixed(4)` of a quantity below `2 ^ 39`.** -/
theorem toFixed_of_number_below (below : |(u : ℚ)| < 2 ^ 39 * 10 ^ 4) :
    toFixedUnits (10 ^ 4) (roundBinary64 (u / 10 ^ 4)) = u := by
  have number := number_error_below (k := 39) (by norm_num) (by exact_mod_cast below)
  exact toFixedUnits_eq (lt_of_le_of_lt number (by norm_num))

/-- **`Math.round((Number(u) - Number(v)) * 10 ^ 4)` of quantities below `2 ^ 37`**, with a difference below
`2 ^ 51` units. -/
theorem units_of_difference_below (belowU : |(u : ℚ)| < 2 ^ 37 * 10 ^ 4)
    (belowV : |(v : ℚ)| < 2 ^ 37 * 10 ^ 4) (below : |u - v| < 2 ^ 51) :
    mathRound
      (roundBinary64 (roundBinary64 (roundBinary64 (u / 10 ^ 4) - roundBinary64 (v / 10 ^ 4)) * 10 ^ 4)) =
      u - v := by
  have first := number_error_below (k := 37) (by norm_num) (by exact_mod_cast belowU)
  have second := number_error_below (k := 37) (by norm_num) (by exact_mod_cast belowV)
  have whole : |((u - v : ℤ) : ℚ)| ≤ 2 ^ 51 - 1 := by exact_mod_cast Int.le_sub_one_of_lt below
  obtain ⟨difference, differenceEq⟩ :
    ∃ difference, difference = roundBinary64 (u / 10 ^ 4) - roundBinary64 (v / 10 ^ 4) :=
    ⟨_, rfl⟩
  rw [← differenceEq]
  -- the two numbers, in units, are together within a sixth of the exact difference
  have exact : |difference * 10 ^ 4 - (u - v : ℤ)| ≤ 1 / 6 := by
    have split : difference * 10 ^ 4 - (u - v : ℤ) =
        (roundBinary64 (u / 10 ^ 4) * 10 ^ 4 - u) - (roundBinary64 (v / 10 ^ 4) * 10 ^ 4 - v) := by
      rw [differenceEq]
      push_cast
      ring
    rw [split]
    refine (abs_sub _ _).trans ((add_le_add first second).trans ?_)
    norm_num
  -- rounding the difference itself, in units
  have quantity : |difference| < 2 ^ (38 : ℤ) := by
    have scaled : |difference * 10 ^ 4| = |difference| * 10 ^ 4 := by
      rw [abs_mul, abs_of_pos (by norm_num : (0 : ℚ) < 10 ^ 4)]
    have range := abs_sub_abs_le_abs_sub (difference * 10 ^ 4) ((u - v : ℤ) : ℚ)
    rw [scaled] at range
    have magnitude : |difference| * 10 ^ 4 - (2 ^ 51 - 1) ≤ 1 / 6 :=
      (sub_le_sub_left whole _).trans (range.trans exact)
    rw [show (2 : ℚ) ^ (38 : ℤ) = 2 ^ 38 by norm_num]
    linarith only [magnitude]
  have rounded : |roundBinary64 difference * 10 ^ 4 - (u - v : ℤ)| ≤ 1 / 3 := by
    have moved : |(roundBinary64 difference - difference) * 10 ^ 4| ≤ 10 ^ 4 / 2 ^ 16 := by
      rw [abs_mul, abs_of_pos (by norm_num : (0 : ℚ) < 10 ^ 4)]
      have error := roundBinary64_error_below (by norm_num) quantity
      norm_num at error ⊢
      linarith
    have split : roundBinary64 difference * 10 ^ 4 - (u - v : ℤ) =
        (roundBinary64 difference - difference) * 10 ^ 4 + (difference * 10 ^ 4 - (u - v : ℤ)) := by
      ring
    rw [split]
    refine (abs_add_le _ _).trans ((add_le_add moved exact).trans ?_)
    norm_num
  generalize roundBinary64 difference * 10 ^ 4 = scaled at rounded
  -- and the scaled number, which stays below 2 ^ 51
  have small : |scaled| < 2 ^ (51 : ℤ) := by
    have range := abs_sub_abs_le_abs_sub scaled ((u - v : ℤ) : ℚ)
    rw [show (2 : ℚ) ^ (51 : ℤ) = 2 ^ 51 by norm_num]
    linarith
  have last : |roundBinary64 scaled - scaled| ≤ 1 / 8 :=
    (roundBinary64_error_below (by norm_num) small).trans (by norm_num)
  refine mathRound_eq ?_
  calc |roundBinary64 scaled - (u - v : ℤ)|
      ≤ |roundBinary64 scaled - scaled| + |scaled - (u - v : ℤ)| := abs_sub_le _ _ _
    _ ≤ 1 / 8 + 1 / 3 := add_le_add last rounded
    _ < 1 / 2 := by norm_num

end Units

end DataPulse.Lib.Binary64
