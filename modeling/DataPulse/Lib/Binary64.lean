/-
**Binary64 arithmetic on rationals.**

A finite binary64 number is a rational, and every operation of the format is the exact operation
followed by one rounding to nearest, ties to even. `roundBinary64` is that rounding; the rest of the
format (the sign of a zero, the infinities) is not needed where only finite results are compared.
-/

import Mathlib.Algebra.Order.Field.Power
import Mathlib.Data.Int.Log
import Mathlib.Data.Rat.Floor
import Mathlib.Tactic.Linarith
import Mathlib.Tactic.NormNum
import Mathlib.Tactic.Positivity

namespace DataPulse.Lib.Binary64

variable {scale x : ℚ} {n : ℤ}

/-- Round to the nearest integer, ties to the even one. -/
def roundEven (q : ℚ) : ℤ :=
  let below := ⌊q⌋
  let rest := q - below
  if rest < 1 / 2 then below
  else if 1 / 2 < rest then below + 1
  else if below % 2 = 0 then below else below + 1

/-- The exponent of the last place of the binary64 numbers around `q`. -/
def lastPlace (q : ℚ) : ℤ := max (Int.log 2 |q| - 52) (-1074)

/-- The binary64 number nearest to `q`, ties to even (below the overflow threshold). -/
def roundBinary64 (q : ℚ) : ℚ := roundEven (q / 2 ^ lastPlace q) * 2 ^ lastPlace q

theorem roundEven_error (q : ℚ) : |(roundEven q : ℚ) - q| ≤ 1 / 2 := by
  have lower := Int.floor_le q
  have upper := Int.lt_floor_add_one q
  unfold roundEven
  simp only
  split_ifs <;> rw [abs_le] <;> push_cast <;> constructor <;> linarith

theorem roundEven_neg (q : ℚ) : roundEven (-q) = -roundEven q := by
  have lower := Int.floor_le q
  have upper := Int.lt_floor_add_one q
  by_cases whole : (⌊q⌋ : ℚ) = q
  · have same : ⌊-q⌋ = -⌊q⌋ := by
      rw [← whole, ← Int.cast_neg, Int.floor_intCast, Int.floor_intCast]
    have rest : q - ⌊q⌋ = 0 := by rw [whole, sub_self]
    have rest' : -q - ((-⌊q⌋ : ℤ) : ℚ) = 0 := by
      push_cast
      linarith
    unfold roundEven
    simp only [same, rest, rest']
    norm_num
  · have below : (⌊q⌋ : ℚ) < q := lt_of_le_of_ne lower whole
    have same : ⌊-q⌋ = -⌊q⌋ - 1 := by
      rw [Int.floor_eq_iff]
      push_cast
      constructor <;> linarith
    unfold roundEven
    simp only [same]
    push_cast
    split_ifs <;> first | omega | linarith

theorem lastPlace_neg (q : ℚ) : lastPlace (-q) = lastPlace q := by
  rw [lastPlace, lastPlace, abs_neg]

/-- **The rounding does not look at the sign.** -/
@[simp] theorem roundBinary64_neg (q : ℚ) : roundBinary64 (-q) = -roundBinary64 q := by
  rw [roundBinary64, roundBinary64, lastPlace_neg, neg_div, roundEven_neg, Int.cast_neg, neg_mul]

@[simp] theorem roundBinary64_zero : roundBinary64 0 = 0 := by
  have zero : roundEven 0 = 0 := by simp [roundEven]
  rw [roundBinary64, zero_div, zero, Int.cast_zero, zero_mul]

/-- **One rounding moves a number by at most `2 ^ -53` of its magnitude** (above the subnormals). -/
theorem roundBinary64_error (q : ℚ) (normal : 2 ^ (-1022 : ℤ) ≤ |q|) :
    |roundBinary64 q - q| ≤ |q| * 2 ^ (-53 : ℤ) := by
  have magnitude : 0 < |q| := lt_of_lt_of_le (by positivity) normal
  have exponentLow : -1022 ≤ Int.log 2 |q| := by
    have := (Int.zpow_le_iff_le_log (b := 2) (by norm_num) magnitude).1 (by exact_mod_cast normal)
    exact this
  have place : lastPlace q = Int.log 2 |q| - 52 := by
    unfold lastPlace
    omega
  have power : (0 : ℚ) < 2 ^ lastPlace q := by positivity
  have scaled := roundEven_error (q / 2 ^ lastPlace q)
  have unscaled : roundBinary64 q - q =
      ((roundEven (q / 2 ^ lastPlace q) : ℚ) - q / 2 ^ lastPlace q) * 2 ^ lastPlace q := by
    rw [roundBinary64, sub_mul, div_mul_cancel₀ _ power.ne']
  have leading : (2 : ℚ) ^ Int.log 2 |q| ≤ |q| := by
    exact_mod_cast Int.zpow_log_le_self (b := 2) (by norm_num) magnitude
  calc |roundBinary64 q - q|
      = |(roundEven (q / 2 ^ lastPlace q) : ℚ) - q / 2 ^ lastPlace q| * 2 ^ lastPlace q := by
        rw [unscaled, abs_mul, abs_of_pos power]
    _ ≤ 1 / 2 * 2 ^ lastPlace q := mul_le_mul_of_nonneg_right scaled power.le
    _ = 2 ^ Int.log 2 |q| * 2 ^ (-53 : ℤ) := by
        rw [place, ← zpow_add₀ (by norm_num : (2 : ℚ) ≠ 0),
          show Int.log 2 |q| + -53 = (Int.log 2 |q| - 52) + (-1) by ring,
          zpow_add₀ (by norm_num : (2 : ℚ) ≠ 0), zpow_neg_one]
        ring
    _ ≤ |q| * 2 ^ (-53 : ℤ) := mul_le_mul_of_nonneg_right leading (by positivity)

theorem roundBinary64_error' (q : ℚ) (large : q = 0 ∨ 1 / 100000 ≤ |q|) :
    |roundBinary64 q - q| ≤ |q| * 2 ^ (-53 : ℤ) := by
  rcases large with rfl | large
  · simp
  · refine roundBinary64_error q (le_trans ?_ large)
    have small : (2 : ℚ) ^ (-1022 : ℤ) ≤ 2 ^ (-20 : ℤ) := zpow_le_zpow_right₀ (by norm_num) (by norm_num)
    exact small.trans (by norm_num)

/-! ### Rounding to whole numbers -/

/-- `Math.round`: to the nearest integer, ties upwards. -/
def mathRound (x : ℚ) : ℤ := ⌊x + 1 / 2⌋

/-- The integer `toFixed` prints: the nearest number of `1 / scale` units, ties away from zero. -/
def toFixedUnits (scale : ℚ) (x : ℚ) : ℤ :=
  if x < 0 then -⌊-x * scale + 1 / 2⌋ else ⌊x * scale + 1 / 2⌋

theorem mathRound_eq (near : |x - n| < 1 / 2) : mathRound x = n := by
  rw [abs_lt] at near
  rw [mathRound, Int.floor_eq_iff]
  constructor <;> linarith

theorem toFixedUnits_eq (near : |x * scale - n| < 1 / 2) : toFixedUnits scale x = n := by
  rw [abs_lt] at near
  unfold toFixedUnits
  split_ifs
  · rw [neg_eq_iff_eq_neg, Int.floor_eq_iff]
    push_cast
    constructor <;> linarith
  · rw [Int.floor_eq_iff]
    constructor <;> linarith

theorem toFixedUnits_error (x : ℚ) : |(toFixedUnits scale x : ℚ) - x * scale| ≤ 1 / 2 := by
  have lower := Int.floor_le (x * scale + 1 / 2)
  have upper := Int.lt_floor_add_one (x * scale + 1 / 2)
  have lower' := Int.floor_le (-x * scale + 1 / 2)
  have upper' := Int.lt_floor_add_one (-x * scale + 1 / 2)
  unfold toFixedUnits
  split_ifs <;> rw [abs_le] <;> push_cast <;> constructor <;> linarith

/-! ### Integer numbers of units through binary64 -/

section Units

variable {u v : ℤ}

theorem units_large (u : ℤ) : (u / 10 ^ 4 : ℚ) = 0 ∨ 1 / 100000 ≤ |(u / 10 ^ 4 : ℚ)| := by
  by_cases zero : u = 0
  · left
    simp [zero]
  · right
    have one : (1 : ℚ) ≤ |(u : ℚ)| := by exact_mod_cast Int.one_le_abs zero
    rw [abs_div, abs_of_pos (by norm_num : (0 : ℚ) < 10 ^ 4)]
    linarith

theorem roundBinary64_units_pos : 0 < roundBinary64 (u / 10 ^ 4) ↔ 0 < u := by
  have error := roundBinary64_error' (u / 10 ^ 4) (units_large u)
  have tiny : (2 : ℚ) ^ (-53 : ℤ) ≤ 1 / 2 := by norm_num
  have half : |roundBinary64 (u / 10 ^ 4) - u / 10 ^ 4| ≤ |(u / 10 ^ 4 : ℚ)| * (1 / 2) :=
    error.trans (mul_le_mul_of_nonneg_left tiny (abs_nonneg _))
  have sign : (0 : ℚ) < u / 10 ^ 4 ↔ 0 < u := by
    rw [lt_div_iff₀ (by norm_num), zero_mul, Int.cast_pos]
  rw [← sign]
  generalize roundBinary64 (u / 10 ^ 4) = x at half
  generalize (u / 10 ^ 4 : ℚ) = q at half
  obtain ⟨lower, upper⟩ := abs_le.1 half
  constructor
  · intro positive
    by_contra nonpos
    rw [abs_of_nonpos (not_lt.1 nonpos)] at upper
    linarith
  · intro positive
    rw [abs_of_pos positive] at lower
    linarith

theorem number_error (u : ℤ) :
    |roundBinary64 (u / 10 ^ 4) * 10 ^ 4 - u| ≤ |(u : ℚ)| * 2 ^ (-53 : ℤ) := by
  have error := roundBinary64_error' (u / 10 ^ 4) (units_large u)
  rw [abs_div, abs_of_pos (by norm_num : (0 : ℚ) < 10 ^ 4)] at error
  have scaled : roundBinary64 (u / 10 ^ 4) * 10 ^ 4 - u =
      (roundBinary64 (u / 10 ^ 4) - u / 10 ^ 4) * 10 ^ 4 := by
    ring
  rw [scaled, abs_mul, abs_of_pos (by norm_num : (0 : ℚ) < 10 ^ 4)]
  linarith

theorem rounded_error {y slack : ℚ} (near : |y - u| ≤ slack) (small : slack ≤ 1 / 2) (nonzero : u ≠ 0) :
    |roundBinary64 y - u| ≤ slack + (|(u : ℚ)| + 1 / 2) * 2 ^ (-53 : ℤ) := by
  have one : (1 : ℚ) ≤ |(u : ℚ)| := by exact_mod_cast Int.one_le_abs nonzero
  have lower : |(u : ℚ)| - |y| ≤ |y - u| := by
    rw [abs_sub_comm]
    exact abs_sub_abs_le_abs_sub _ _
  have upper : |y| - |(u : ℚ)| ≤ |y - u| := abs_sub_abs_le_abs_sub _ _
  have error := roundBinary64_error' y (.inr (by linarith))
  have bound : |y| * (2 : ℚ) ^ (-53 : ℤ) ≤ (|(u : ℚ)| + 1 / 2) * 2 ^ (-53 : ℤ) :=
    mul_le_mul_of_nonneg_right (by linarith) (by positivity)
  calc |roundBinary64 y - u| ≤ |roundBinary64 y - y| + |y - u| := abs_sub_le _ _ _
    _ ≤ (|(u : ℚ)| + 1 / 2) * 2 ^ (-53 : ℤ) + slack := add_le_add (error.trans bound) near
    _ = slack + (|(u : ℚ)| + 1 / 2) * 2 ^ (-53 : ℤ) := add_comm _ _

/-- **A number of units below `2 ^ 50` survives `Number(text).toFixed(4)`.** -/
theorem toFixed_of_number (small : |u| ≤ 2 ^ 50) : toFixedUnits (10 ^ 4) (roundBinary64 (u / 10 ^ 4)) = u := by
  have smallQ : |(u : ℚ)| ≤ 2 ^ 50 := by exact_mod_cast small
  refine toFixedUnits_eq (lt_of_le_of_lt (number_error u) ?_)
  have := mul_le_mul_of_nonneg_right smallQ (by positivity : (0 : ℚ) ≤ 2 ^ (-53 : ℤ))
  norm_num at this ⊢
  linarith

/-- **The difference of two numbers of units below `2 ^ 49` survives
`Math.round((Number(u) - Number(v)) * 10 ^ 4)`.** -/
theorem units_of_difference (smallU : |u| ≤ 2 ^ 49) (smallV : |v| ≤ 2 ^ 49) :
    mathRound
      (roundBinary64 (roundBinary64 (roundBinary64 (u / 10 ^ 4) - roundBinary64 (v / 10 ^ 4)) * 10 ^ 4)) =
      u - v := by
  by_cases same : u = v
  · subst same
    simp [mathRound]
    norm_num
  have nonzero : u - v ≠ 0 := sub_ne_zero.2 same
  have smallU' : |(u : ℚ)| ≤ 2 ^ 49 := by exact_mod_cast smallU
  have smallV' : |(v : ℚ)| ≤ 2 ^ 49 := by exact_mod_cast smallV
  have smallD : |((u - v : ℤ) : ℚ)| ≤ 2 ^ 50 := by
    push_cast
    have := abs_sub (u : ℚ) v
    linarith
  have one : (1 : ℚ) ≤ |((u - v : ℤ) : ℚ)| := by exact_mod_cast Int.one_le_abs nonzero
  set difference := roundBinary64 (u / 10 ^ 4) - roundBinary64 (v / 10 ^ 4) with differenceEq
  -- the two numbers, scaled, are together within an eighth of the exact difference
  have exact : |difference * 10 ^ 4 - (u - v : ℤ)| ≤ 1 / 8 := by
    have split : difference * 10 ^ 4 - (u - v : ℤ) =
        (roundBinary64 (u / 10 ^ 4) * 10 ^ 4 - u) - (roundBinary64 (v / 10 ^ 4) * 10 ^ 4 - v) := by
      rw [differenceEq]
      push_cast
      ring
    rw [split]
    refine (abs_sub _ _).trans ?_
    have first := (number_error u).trans
      (mul_le_mul_of_nonneg_right smallU' (by positivity : (0 : ℚ) ≤ 2 ^ (-53 : ℤ)))
    have second := (number_error v).trans
      (mul_le_mul_of_nonneg_right smallV' (by positivity : (0 : ℚ) ≤ 2 ^ (-53 : ℤ)))
    refine (add_le_add first second).trans ?_
    norm_num
  -- rounding the difference itself, seen in units
  have rounded : |roundBinary64 difference * 10 ^ 4 - (u - v : ℤ)| ≤ 1 / 8 + 9 / 64 := by
    have large : 1 / 100000 ≤ |difference| := by
      have scaled : |difference * 10 ^ 4| = |difference| * 10 ^ 4 := by
        rw [abs_mul, abs_of_pos (by norm_num : (0 : ℚ) < 10 ^ 4)]
      have lower := abs_sub_abs_le_abs_sub ((u - v : ℤ) : ℚ) (difference * 10 ^ 4)
      rw [abs_sub_comm, scaled] at lower
      have : 1 - 1 / 8 ≤ |difference| * 10 ^ 4 := (sub_le_sub one exact).trans (sub_le_comm.1 lower)
      linarith only [this]
    have upper : |difference| * 10 ^ 4 ≤ 2 ^ 50 + 1 := by
      have scaled : |difference * 10 ^ 4| = |difference| * 10 ^ 4 := by
        rw [abs_mul, abs_of_pos (by norm_num : (0 : ℚ) < 10 ^ 4)]
      have bound := abs_sub_abs_le_abs_sub (difference * 10 ^ 4) ((u - v : ℤ) : ℚ)
      rw [scaled] at bound
      have : |difference| * 10 ^ 4 - 2 ^ 50 ≤ 1 / 8 := (sub_le_sub_left smallD _).trans (bound.trans exact)
      linarith only [this]
    have error := roundBinary64_error' difference (.inr large)
    have scaledError : |(roundBinary64 difference - difference) * 10 ^ 4| ≤ 9 / 64 := by
      rw [abs_mul, abs_of_pos (by norm_num : (0 : ℚ) < 10 ^ 4)]
      have := mul_le_mul_of_nonneg_right upper (by positivity : (0 : ℚ) ≤ 2 ^ (-53 : ℤ))
      norm_num at this error ⊢
      linarith
    have split : roundBinary64 difference * 10 ^ 4 - (u - v : ℤ) =
        (roundBinary64 difference - difference) * 10 ^ 4 + (difference * 10 ^ 4 - (u - v : ℤ)) := by
      ring
    rw [split]
    refine (abs_add_le _ _).trans ((add_le_add scaledError exact).trans ?_)
    norm_num
  refine mathRound_eq (lt_of_le_of_lt (rounded_error rounded (by norm_num) nonzero) ?_)
  have := mul_le_mul_of_nonneg_right (add_le_add_left smallD (1 / 2)) (by positivity : (0 : ℚ) ≤ 2 ^ (-53 : ℤ))
  norm_num at this ⊢
  linarith

end Units

end DataPulse.Lib.Binary64
