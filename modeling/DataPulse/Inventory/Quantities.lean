/-
**Quantities of the stock ledger.**

A stored quantity is a `Numeric`, in ten-thousandths of the stocking unit; the quantity of a sale
line has two more digits. The services compute on JavaScript numbers, as rationals with binary64
rounding.
-/

import DataPulse.Platform.Values

namespace DataPulse.Inventory

open Lib Lib.Decimal Lib.Binary64 Platform

variable {value : ℚ}

/-! ### The services' arithmetic -/

/-- `Math.round(value * 1e4) / 1e4`. -/
def atScale (value : ℚ) : ℚ :=
  roundBinary64 ((mathRound (roundBinary64 (value * 10 ^ 4)) : ℚ) / 10 ^ 4)

/-- `value.toFixed(4)`. (From `1e21` on the text has an exponent; the server refuses either form, as
too large for the column.) -/
def toFixed4 (value : ℚ) : String := String.ofList (scaledText 4 (toFixedUnits (10 ^ 4) value))

/-- A value of a `numeric(19,6)` column that is not negative, in millionths. -/
structure SoldQuantity where
  micros : Nat
  fits : micros < 10 ^ 19
  deriving DecidableEq

/-- The column's value as the driver hands it out: six fractional digits. -/
def SoldQuantity.text (sold : SoldQuantity) : String := String.ofList (magnitudeText 6 sold.micros)

/-! ### Signs at scale -/

theorem atScale_pos : 0 < atScale value ↔ 0 < mathRound (roundBinary64 (value * 10 ^ 4)) :=
  roundBinary64_units_pos

theorem atScale_neg : atScale value < 0 ↔ mathRound (roundBinary64 (value * 10 ^ 4)) < 0 := by
  have flip : atScale value = -roundBinary64 ((-mathRound (roundBinary64 (value * 10 ^ 4)) : ℤ) / 10 ^ 4) := by
    rw [Int.cast_neg, neg_div, roundBinary64_neg, neg_neg, atScale]
  rw [flip, neg_lt_zero, roundBinary64_units_pos, neg_pos]

theorem atScale_zero : atScale value = 0 ↔ mathRound (roundBinary64 (value * 10 ^ 4)) = 0 := by
  constructor
  · intro zero
    have notPos : ¬ 0 < atScale value := by rw [zero]; exact lt_irrefl 0
    have notNeg : ¬ atScale value < 0 := by rw [zero]; exact lt_irrefl 0
    rw [atScale_pos] at notPos
    rw [atScale_neg] at notNeg
    omega
  · intro zero
    rw [atScale, zero]
    simp

/-! ### Texts and their casts -/

/-- **The server casts `value.toFixed(4)` to the ten-thousandths it prints.** -/
theorem ofText_toFixed4 (value : ℚ) :
    Numeric.ofText (toFixed4 value) = Numeric.ofUnits (toFixedUnits (10 ^ 4) value) := by
  have unchanged := trimBy_eq_self fun c mem => (scaledText_not_space 4 (toFixedUnits (10 ^ 4) value) c mem).1
  have whole : (toFixedUnits (10 ^ 4) value / 10 ^ 4 : ℚ) * 10 ^ 4 = toFixedUnits (10 ^ 4) value := by
    ring
  rw [Numeric.ofText, toFixed4, String.toList_ofList, unchanged, literal_scaledText 4 (by decide)]
  simp only [whole, Numeric.roundHalfAway_intCast]

theorem toFixed4_nonneg (nonneg : 0 ≤ value) :
    ∃ units : Nat, toFixedUnits (10 ^ 4) value = units ∧ (toFixed4 value).toList = magnitudeText 4 units := by
  have units : 0 ≤ toFixedUnits (10 ^ 4) value := by
    rw [toFixedUnits, if_neg (not_lt.2 nonneg)]
    exact Int.floor_nonneg.2 (by positivity)
  obtain ⟨n, same⟩ := Int.eq_ofNat_of_zero_le units
  refine ⟨n, same, ?_⟩
  rw [toFixed4, String.toList_ofList, same, scaledText, if_neg (by omega), Int.natAbs_natCast]

/-- **Behind a minus sign it casts to the opposite.** -/
theorem ofText_minus_toFixed4 (nonneg : 0 ≤ value) :
    Numeric.ofText ("-" ++ toFixed4 value) = Numeric.ofUnits (-toFixedUnits (10 ^ 4) value) := by
  obtain ⟨n, units, text⟩ := toFixed4_nonneg nonneg
  have bare : Bare (toFixed4 value).toList := text ▸ bare_magnitudeText 4 n
  have read : literal (toFixed4 value).toList = some (n / 10 ^ 4 : ℚ) :=
    text ▸ literal_magnitudeText 4 (by decide) n
  have whole : (n / 10 ^ 4 : ℚ) * 10 ^ 4 = (n : ℤ) := by
    push_cast
    ring
  rw [Numeric.ofText_minus bare read, whole, Numeric.roundHalfAway_intCast, units]

/-! ### Counts -/

theorem atScale_difference {u v : ℤ} (smallU : |u| ≤ 2 ^ 49) (smallV : |v| ≤ 2 ^ 49) :
    atScale (roundBinary64 (roundBinary64 (u / 10 ^ 4) - roundBinary64 (v / 10 ^ 4))) =
      roundBinary64 ((u - v : ℤ) / 10 ^ 4) := by
  rw [atScale, units_of_difference smallU smallV]

/-! ### Sold quantities -/

namespace SoldQuantity

variable (sold : SoldQuantity)

theorem toList_text : sold.text.toList = magnitudeText 6 sold.micros := String.toList_ofList

theorem bare_text : Bare sold.text.toList := by
  rw [toList_text]
  exact bare_magnitudeText 6 sold.micros

theorem literal_text : literal sold.text.toList = some (sold.micros / 10 ^ 6 : ℚ) := by
  rw [toList_text]
  exact literal_magnitudeText 6 (by decide) sold.micros

/-- The ten-thousandths the server makes of a sold quantity. -/
def units : ℤ := Numeric.roundHalfAway (sold.micros / 10 ^ 6 * 10 ^ 4)

theorem units_fits : sold.units.natAbs < 10 ^ 19 := by
  have bound : (sold.micros : ℚ) < 10 ^ 19 := by exact_mod_cast sold.fits
  have nonneg : (0 : ℚ) ≤ sold.micros / 10 ^ 6 * 10 ^ 4 := by positivity
  have lower : 0 ≤ sold.units := by
    rw [units, Numeric.roundHalfAway, if_neg (not_lt.2 nonneg)]
    exact Int.floor_nonneg.2 (by linarith)
  have upper : sold.units < 10 ^ 19 := by
    rw [units, Numeric.roundHalfAway, if_neg (not_lt.2 nonneg), Int.floor_lt]
    push_cast
    linarith
  omega

/-- The stored quantity of the outbound movement of a line. -/
def taken : Numeric := -⟨sold.units, sold.units_fits⟩

/-- **`$3::numeric(19,4)` of a sold quantity.** -/
theorem ofText_text : Numeric.ofText sold.text = .ok ⟨sold.units, sold.units_fits⟩ := by
  rw [Numeric.ofText_bare sold.bare_text sold.literal_text]
  exact Numeric.ofUnits_fits sold.units_fits

/-- **The same of its negated text.** -/
theorem ofText_minus : Numeric.ofText ("-" ++ sold.text) = .ok sold.taken := by
  rw [Numeric.ofText_minus sold.bare_text sold.literal_text]
  exact Numeric.ofUnits_units sold.taken

theorem finite : |roundBinary64 (sold.micros / 10 ^ 6 : ℚ)| < 2 ^ 1024 := by
  have bound : (sold.micros : ℚ) < 10 ^ 19 := by exact_mod_cast sold.fits
  have nonneg : (0 : ℚ) ≤ sold.micros := by positivity
  by_cases zero : sold.micros = 0
  · rw [zero]
    simp
  · have one : (1 : ℚ) ≤ sold.micros := by exact_mod_cast Nat.one_le_iff_ne_zero.2 zero
    have magnitude : |(sold.micros / 10 ^ 6 : ℚ)| = sold.micros / 10 ^ 6 := abs_of_nonneg (by positivity)
    have error := roundBinary64_error (sold.micros / 10 ^ 6 : ℚ) (by
      rw [magnitude]
      have tiny : (2 : ℚ) ^ (-1022 : ℤ) ≤ 2 ^ (-20 : ℤ) := zpow_le_zpow_right₀ (by norm_num) (by norm_num)
      exact tiny.trans (by norm_num; linarith))
    rw [magnitude] at error
    have slack : (sold.micros / 10 ^ 6 : ℚ) * 2 ^ (-53 : ℤ) ≤ sold.micros / 10 ^ 6 * 1 :=
      mul_le_mul_of_nonneg_left (zpow_le_one_of_nonpos₀ (by norm_num) (by norm_num))
        (by positivity)
    have triangle := abs_sub_abs_le_abs_sub (roundBinary64 (sold.micros / 10 ^ 6 : ℚ)) (sold.micros / 10 ^ 6)
    rw [magnitude] at triangle
    calc |roundBinary64 (sold.micros / 10 ^ 6 : ℚ)| < 2 ^ 60 := by
          norm_num
          linarith
      _ ≤ 2 ^ 1024 := pow_le_pow_right₀ (by norm_num) (by norm_num)

theorem number_minus : number ("-" ++ sold.text) = some (-roundBinary64 (sold.micros / 10 ^ 6)) :=
  Platform.number_minus sold.bare_text sold.literal_text sold.finite

theorem mathRound_sold_small :
    ∀ micros : Fin 51, mathRound (roundBinary64 (-roundBinary64 ((micros.val : ℚ) / 10 ^ 6) * 10 ^ 4)) =
      0 := by
  decide +kernel

theorem half_lt_roundBinary64 {value : ℚ} (large : 509 / 1000 ≤ value) : 1 / 2 < roundBinary64 value := by
  have magnitude : |value| = value := abs_of_nonneg (by linarith)
  have error := roundBinary64_error' value (.inr (by
    rw [magnitude]
    linarith))
  rw [magnitude] at error
  have slack : value * 2 ^ (-53 : ℤ) ≤ value * (1 / 1000) :=
    mul_le_mul_of_nonneg_left (by norm_num) (by linarith)
  obtain ⟨lower, -⟩ := abs_le.1 (error.trans slack)
  calc (1 : ℚ) / 2 < 509 / 1000 - 509 / 1000 * (1 / 1000) := by norm_num
    _ ≤ value - value * (1 / 1000) := by linarith
    _ ≤ roundBinary64 value := by linarith

theorem mathRound_sold_large {micros : Nat} (large : 51 ≤ micros) :
    mathRound (roundBinary64 (-roundBinary64 ((micros : ℚ) / 10 ^ 6) * 10 ^ 4)) < 0 := by
  have bound : (51 : ℚ) ≤ micros := by exact_mod_cast large
  have magnitude : |(micros / 10 ^ 6 : ℚ)| = micros / 10 ^ 6 := abs_of_nonneg (by positivity)
  have error := roundBinary64_error' (micros / 10 ^ 6 : ℚ) (.inr (by
    rw [magnitude]
    linarith))
  rw [magnitude] at error
  have slack : (micros / 10 ^ 6 : ℚ) * 2 ^ (-53 : ℤ) ≤ micros / 10 ^ 6 * (1 / 1000) :=
    mul_le_mul_of_nonneg_left (by norm_num) (by positivity)
  obtain ⟨lower, -⟩ := abs_le.1 (error.trans slack)
  have half := half_lt_roundBinary64 (by linarith : 509 / 1000 ≤ roundBinary64 ((micros : ℚ) / 10 ^ 6) * 10 ^ 4)
  rw [neg_mul, roundBinary64_neg, mathRound, Int.floor_lt]
  push_cast
  linarith

/-- **At scale, a negated sold quantity is negative from 51 millionths on, and zero below.** -/
theorem atScale_sold :
    (sold.micros ≤ 50 ∧ atScale (-roundBinary64 (sold.micros / 10 ^ 6)) = 0) ∨
      (51 ≤ sold.micros ∧ atScale (-roundBinary64 (sold.micros / 10 ^ 6)) < 0) := by
  rcases Nat.lt_or_ge sold.micros 51 with small | large
  · exact .inl ⟨by omega, atScale_zero.2 (mathRound_sold_small ⟨sold.micros, small⟩)⟩
  · exact .inr ⟨large, atScale_neg.2 (mathRound_sold_large large)⟩

end SoldQuantity

end DataPulse.Inventory
