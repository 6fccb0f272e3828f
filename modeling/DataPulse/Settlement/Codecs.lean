/-
**The codec of the settlement code, over all integers and all decimal texts.**

The two copies without a sign read the part before the dot with its sign and add the part after it: of
`-1.5000` they make `-10000 + 5000`.

* `codecs_exact_iff`: where each copy inverts `fromScaledInt` and keeps the number of a text.
-/

import DataPulse.Settlement.Decisions

namespace DataPulse.Settlement

open Lib.Decimal Platform

/-- The three copies of `toScaledInt`. -/
def toScaledIntCopies : List (String → Option Int) :=
  [ApplyPaymentDecision.toScaledInt, ClaimService.toScaledInt, ReconcileDecision.toScaledInt]

/-- A decimal text of at most four fractional digits, with or without a minus sign. -/
structure DecimalText where
  negative : Bool
  magnitude : List Char
  whole : List Char
  frac : List Char
  parts : PlainParts whole.length 4 magnitude whole frac

namespace DecimalText

variable (decimal : DecimalText)

def text : String :=
  String.ofList (if decimal.negative then '-' :: decimal.magnitude else decimal.magnitude)

/-- The ten-thousandths it denotes. -/
def units : Int := negateIf decimal.negative (plainUnits decimal.whole decimal.frac : ℤ)

/-- The ten-thousandths a copy without a sign makes of it. -/
def unsignedUnits : Int :=
  negateIf decimal.negative (value decimal.whole * 10 ^ 4 : ℤ) +
    value decimal.frac * 10 ^ (4 - decimal.frac.length)

theorem literal_text : literal decimal.text.toList = some (decimal.units / 10 ^ 4 : ℚ) := by
  have magnitude := literal_plainUnits decimal.parts
  rw [text, String.toList_ofList, units]
  cases decimal.negative with
  | false => exact magnitude
  | true =>
    rw [if_pos rfl, literal_minus decimal.parts.signed magnitude, negateIf, if_pos rfl, Int.cast_neg, neg_div]

end DecimalText

section Reading

variable {cs w f : List Char}
variable {whole : Nat}

theorem bigInt_minus (digits : allDigits cs = true) (nonempty : cs ≠ []) :
    bigInt ('-' :: cs) = some (-(value cs : ℤ)) := by
  have noSpace : ∀ c ∈ '-' :: cs, isJsSpace c = false := by
    intro c member
    rcases mem_cons.1 member with rfl | member
    · decide
    · exact (bare_not_space (bare_of_digits digits) c member).2
  simp only [bigInt, trimBy_eq_self noSpace, signed, digits]
  simp [nonempty, negateIf]

theorem wholeAndFrac_minus (parts : PlainParts whole 4 cs w f) : wholeAndFrac ('-' :: cs) = ('-' :: w, f) := by
  have outside : '.' ∉ '-' :: w := by
    intro member
    rcases mem_cons.1 member with same | member
    · cases same
    · exact not_mem_digits parts.wholeDigits '.' (by decide) member
  unfold wholeAndFrac
  rcases parts.text with ⟨rfl, rfl⟩ | rfl
  · rw [List.splitOn_eq_singleton outside]
  · rw [← cons_append, List.splitOn_append_cons_self_of_not_mem outside, splitOn_digits parts.fracDigits]

/-- The part after the dot is added, though the number is negative. -/
theorem scaledMagnitude_minus (parts : PlainParts whole 4 cs w f) :
    scaledMagnitude ('-' :: cs) = some (-(value w * 10 ^ 4 : ℤ) + value f * 10 ^ (4 - f.length)) := by
  rw [scaledMagnitude, wholeAndFrac_minus parts]
  simp only [bigInt_minus parts.wholeDigits parts.nonempty,
    bigInt_fracPadded parts.fracDigits parts.fracLength, bind_eq_bind, bind_some]
  simp [scale, neg_mul]

variable (decimal : DecimalText)

/-- **What the copies read**: the one with a sign the number, the others the sum of the parts. -/
theorem toScaledInt_text :
    ApplyPaymentDecision.toScaledInt decimal.text = some decimal.units ∧
      scaledMagnitude decimal.text.toList = some decimal.unsignedUnits := by
  obtain ⟨negative, magnitude, w, f, parts⟩ := decimal
  cases negative with
  | false =>
    have read := @toScaledInt_of_plain w f _ (String.ofList magnitude) (by rwa [String.toList_ofList])
    have same : DecimalText.unsignedUnits ⟨false, magnitude, w, f, parts⟩ = plainUnits w f := by
      simp [DecimalText.unsignedUnits, negateIf, plainUnits]
    rw [same]
    exact ⟨read.1, read.2.1⟩
  | true =>
    have text : (DecimalText.text ⟨true, magnitude, w, f, parts⟩).toList = '-' :: magnitude :=
      String.toList_ofList
    rw [ApplyPaymentDecision.toScaledInt, text]
    refine ⟨?_, scaledMagnitude_minus parts⟩
    show (scaledMagnitude magnitude).map (negateIf true) = _
    rw [scaledMagnitude_plain parts]
    rfl

/-- The parts of a negative number cancel nothing exactly where there is no fraction. -/
theorem unsignedUnits_eq_iff :
    decimal.unsignedUnits = decimal.units ↔ decimal.negative = false ∨ value decimal.frac = 0 := by
  have pos : 0 < 10 ^ (4 - decimal.frac.length) := Nat.pow_pos (by decide)
  unfold DecimalText.unsignedUnits DecimalText.units plainUnits
  cases decimal.negative with
  | false => simp [negateIf]
  | true =>
    simp only [negateIf, if_true, Bool.true_eq_false, false_or]
    constructor
    · intro same
      have none : value decimal.frac * 10 ^ (4 - decimal.frac.length) = 0 := by
        push_cast at same
        zify
        linarith
      exact (Nat.mul_eq_zero.1 none).resolve_right pos.ne'
    · intro none
      simp [none]

/-- `fromScaledInt(n)` is such a text, of `n`. -/
theorem fromScaledInt_decimal (n : Int) :
    ∃ decimal : DecimalText, decimal.text = fromScaledInt n ∧ decimal.units = n ∧
      (decimal.negative = false ∨ value decimal.frac = 0 ↔ 0 ≤ n ∨ 10 ^ 4 ∣ n) := by
  have small : n.natAbs % 10 ^ 4 < 10 ^ 4 := Nat.mod_lt _ (by decide)
  have length := padded_length 4 _ (by decide) small
  refine ⟨⟨decide (n < 0), magnitudeText 4 n.natAbs, Nat.toDigits 10 (n.natAbs / 10 ^ 4),
    padded 4 (n.natAbs % 10 ^ 4),
    ⟨allDigits_toDigits _, padded_digits _ _, Nat.toDigits_ne_nil, le_refl _, length.le, .inr rfl⟩⟩, ?_, ?_,
    ?_⟩
  · simp only [DecimalText.text, fromScaledInt_eq, scaledText, decide_eq_true_eq]
  · have units : plainUnits (Nat.toDigits 10 (n.natAbs / 10 ^ 4)) (padded 4 (n.natAbs % 10 ^ 4)) = n.natAbs := by
      rw [plainUnits, value_toDigits, padded_value, length, Nat.sub_self, Nat.pow_zero, Nat.mul_one,
        Nat.div_add_mod']
    simp only [DecimalText.units, units, negateIf, decide_eq_true_eq]
    split_ifs <;> omega
  · rw [padded_value, decide_eq_false_iff_not, not_lt]
    have whole : n.natAbs % 10 ^ 4 = 0 ↔ (10 ^ 4 : ℤ) ∣ n := by omega
    rw [whole]

end Reading

/-- `toScaledInt(fromScaledInt(n)) = n`, in each copy. -/
def RoundTrips (n : Int) : Prop := ∀ toScaledInt ∈ toScaledIntCopies, toScaledInt (fromScaledInt n) = some n

/-- The copies agree on the text, and its number is kept. -/
def KeepsNumber (text : String) : Prop :=
  ∃ n, (∀ toScaledInt ∈ toScaledIntCopies, toScaledInt text = some n) ∧
    literal (fromScaledInt n).toList = literal text.toList

theorem copies_read (decimal : DecimalText) (n : Int) :
    (∀ toScaledInt ∈ toScaledIntCopies, toScaledInt decimal.text = some n) ↔
      decimal.units = n ∧ decimal.unsignedUnits = decimal.units := by
  obtain ⟨signed, unsigned⟩ := toScaledInt_text decimal
  simp only [toScaledIntCopies, List.forall_mem_cons, ClaimService.toScaledInt, ReconcileDecision.toScaledInt,
    signed, unsigned, Option.some.injEq, not_mem_nil, false_implies, implies_true, and_true, and_self]
  exact and_congr_right fun same => by rw [same]

/-- **The copies invert `fromScaledInt` at the integers that are not negative or whole, and keep the number of
the texts that are not negative or have no fraction.** -/
theorem codecs_exact_iff (n : Int) (decimal : DecimalText) :
    (RoundTrips n ↔ 0 ≤ n ∨ 10 ^ 4 ∣ n) ∧
      (KeepsNumber decimal.text ↔ decimal.negative = false ∨ value decimal.frac = 0) := by
  constructor
  · obtain ⟨written, text, units, exact⟩ := fromScaledInt_decimal n
    rw [RoundTrips, ← text, copies_read, unsignedUnits_eq_iff, exact, and_iff_right units]
  · rw [← unsignedUnits_eq_iff]
    constructor
    · rintro ⟨n, read, -⟩
      exact ((copies_read decimal n).1 read).2
    · intro same
      refine ⟨decimal.units, (copies_read decimal _).2 ⟨rfl, same⟩, ?_⟩
      rw [fromScaledInt_eq, String.toList_ofList, literal_scaledText 4 (by decide), decimal.literal_text]

/-- The claim service reads -1.5 as -0.5. -/
theorem minus_one_and_a_half :
    ClaimService.toScaledInt (fromScaledInt (-15000)) = some (-5000) ∧ ¬ ∀ n, RoundTrips n := by
  refine ⟨by decide +kernel, fun law => ?_⟩
  have read := law (-15000) ClaimService.toScaledInt (by simp [toScaledIntCopies])
  have wrong : ClaimService.toScaledInt (fromScaledInt (-15000)) = some (-5000) := by decide +kernel
  rw [wrong] at read
  cases read

end DataPulse.Settlement
