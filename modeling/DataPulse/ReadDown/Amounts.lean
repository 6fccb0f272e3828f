/-
**The amount of a sellable row.**

`isRepresentable` counts the fractional digits without trailing zeros; `normalizeAmount` pads or cuts them
to the minor unit of the currency. The cut only ever takes zeros.

* `wire_amount_exact`: the amount on the wire is the number of the row, in the currency's digits.
-/

import DataPulse.ReadDown.Service
import DataPulse.Stock.Canonical

namespace DataPulse.ReadDown

open Lib.Decimal
open Platform hiding number
open Stock (Exact amount number number_nonneg number_strip stripTrailingZeros stripTrailingZeros_spec
      stripTrailingZeros_zeros stripTrailing_length canonOf_eq_iff canonOf_plain decimalParts
      decimalParts_of_plain value_inj)

/-- The text of a `NUMERIC(19, 4)`: a whole part without leading zeros, and up to four fractional digits. -/
structure NumericText where
  text : String
  negative : Bool
  whole : Nat
  frac : List Char
  exact : Exact text negative (Nat.toDigits 10 whole) frac
  short : frac.length ≤ 4

/-- The text of a stored amount, as the driver hands it out. -/
def NumericText.of (stored : Numeric) : NumericText where
  text := stored.text
  negative := decide (stored.units < 0)
  whole := stored.units.natAbs / 10 ^ 4
  frac := padded 4 (stored.units.natAbs % 10 ^ 4)
  exact := by
    refine ⟨_, _, magnitudeText 4 stored.units.natAbs,
      ⟨allDigits_toDigits _, padded_digits _ _, Nat.toDigits_ne_nil, le_rfl, le_rfl, .inr rfl⟩, ?_⟩
    rw [Numeric.text, String.toList_ofList, scaledText]
    simp only [decide_eq_true_eq]
  short := (padded_length 4 _ (by decide) (Nat.mod_lt _ (by decide))).le

/-- **Every amount the resolver reads is the text of a stored one.** -/
theorem resolveRow_price {catalogue : Catalogue} {tenantId storeId : Uuid} {headSeq : Nat} {product : Product}
    {price : String}
    (priced : (resolveRow catalogue tenantId storeId headSeq product).resolvedPrice = some price) :
    ∃ stored, (NumericText.of stored).text = price := by
  obtain ⟨stored, -, same⟩ := Option.map_eq_some_iff.1 priced
  exact ⟨stored, same⟩

section Parts

variable {whole most places : Nat} {cs w f : List Char} {text : String} {negative : Bool}

theorem wholePart (parts : PlainParts whole most cs w f) : cs.takeWhile (· ≠ '.') = w := by
  have plain : ∀ c ∈ w, decide (c ≠ '.') = true := fun c mem => decide_eq_true fun same =>
    not_mem_digits parts.wholeDigits '.' (by decide) (same ▸ mem)
  rcases parts.text with ⟨rfl, -⟩ | rfl
  · exact List.takeWhile_eq_self_iff.2 plain
  · rw [List.takeWhile_append_of_pos plain]
    simp

theorem fractionPart (parts : PlainParts whole most cs w f) : (cs.dropWhile (· ≠ '.')).drop 1 = f := by
  have plain : ∀ c ∈ w, decide (c ≠ '.') = true := fun c mem => decide_eq_true fun same =>
    not_mem_digits parts.wholeDigits '.' (by decide) (same ▸ mem)
  rcases parts.text with ⟨rfl, rfl⟩ | rfl
  · rw [List.dropWhile_eq_nil_iff.2 plain]
    rfl
  · rw [List.dropWhile_append_of_pos plain]
    simp

theorem fractionText_exact (exact : Exact text negative w f) : fractionText text = f := by
  obtain ⟨whole, most, cs, parts, shape⟩ := exact.parts
  rw [fractionText, shape]
  cases negative with
  | false => exact fractionPart parts
  | true =>
    rw [if_pos rfl, List.dropWhile_cons_of_pos (by decide)]
    exact fractionPart parts

/-- The significant digits are those left without trailing zeros. -/
theorem significantFractionDigits_exact (exact : Exact text negative w f) :
    significantFractionDigits text = (stripTrailingZeros f).length := by
  rw [significantFractionDigits, fractionText_exact exact, stripTrailingZeros, List.length_reverse]

/-- The minus sign is read where it is. -/
theorem startsWith_minus (exact : Exact text negative w f) : text.startsWith "-" = negative := by
  obtain ⟨whole, most, cs, parts, shape⟩ := exact.parts
  cases negative with
  | true =>
    rw [String.startsWith_string_iff, shape, if_pos rfl]
    exact ⟨cs, rfl⟩
  | false =>
    rw [String.startsWith_string_eq_false_iff, shape, if_neg false_ne_true]
    rintro ⟨rest, same⟩
    have unsigned := parts.signed
    rw [← same] at unsigned
    cases unsigned

/-- `(fracRaw + "0".repeat(exp)).slice(0, exp)`. -/
def cutTo (places : Nat) (f : List Char) : List Char := (f ++ List.replicate places '0').take places

theorem cutTo_length (places : Nat) (f : List Char) : (cutTo places f).length = places := by
  rw [cutTo, List.length_take, length_append, length_replicate]
  omega

theorem cutTo_digits (places : Nat) (digits : allDigits f = true) : allDigits (cutTo places f) = true := by
  rw [allDigits, all_eq_true] at digits ⊢
  intro c mem
  rcases mem_append.1 (mem_of_mem_take mem) with inside | zero
  · exact digits c inside
  · rw [List.eq_of_mem_replicate zero]
    decide

/-- **A cut to no fewer places than there are significant digits takes zeros only.** -/
theorem cutTo_number (digits : allDigits w = true) (nonempty : w ≠ [])
    (fits : (stripTrailingZeros f).length ≤ places) : number w (cutTo places f) = number w f := by
  obtain ⟨count, split⟩ := stripTrailingZeros_spec f
  have padded : cutTo places f =
      stripTrailingZeros f ++ List.replicate (places - (stripTrailingZeros f).length) '0' := by
    have joined : f ++ List.replicate places '0' =
        stripTrailingZeros f ++ List.replicate (count + places) '0' := by
      conv_lhs => rw [split]
      rw [append_assoc, List.replicate_append_replicate]
    rw [cutTo, joined, take_append, take_of_length_le fits, List.take_replicate, Nat.min_eq_left (by omega)]
  have stripped : stripTrailingZeros (cutTo places f) = stripTrailingZeros f := by
    rw [padded, stripTrailingZeros_zeros, ← stripTrailingZeros_zeros (stripTrailingZeros f) count, ← split]
  rw [← number_strip digits nonempty, stripped, number_strip digits nonempty]

/-- **More significant digits than places are no number of so many places.** -/
theorem number_ne_of_significant {whole' most' : Nat} {cs' w' f' : List Char}
    (one : PlainParts whole most cs w f) (two : PlainParts whole' most' cs' w' f')
    (more : f'.length < (stripTrailingZeros f).length) : number w f ≠ number w' f' := by
  intro same
  have canonical := congrArg decimalParts ((canonOf_eq_iff one two).2 same)
  rw [decimalParts_of_plain (canonOf_plain one), decimalParts_of_plain (canonOf_plain two)] at canonical
  have short := stripTrailing_length f'
  rw [← (Prod.mk.inj canonical).2] at short
  omega

/-! ### The sign -/

/-- What `/^0(\.0+)?$/` matches denotes zero, and of a text without leading zeros nothing else does. -/
theorem isZeroText_iff {n : Nat} (parts : PlainParts whole most text.toList (Nat.toDigits 10 n) f)
    (dotless : f = [] → text.toList = Nat.toDigits 10 n) :
    isZeroText text = true ↔ number (Nat.toDigits 10 n) f = 0 := by
  have power : (10 : ℚ) ^ f.length ≠ 0 := by positivity
  have zero : number (Nat.toDigits 10 n) f = 0 ↔ n = 0 ∧ value f = 0 := by
    rw [number, div_eq_zero_iff, or_iff_left power, Nat.cast_eq_zero, value_append, value_toDigits,
      Nat.add_eq_zero_iff, Nat.mul_eq_zero, or_iff_left (by positivity)]
  rw [zero]
  have wholes := wholePart parts
  have fracs := fractionPart parts
  constructor
  · intro matched
    unfold isZeroText at matched
    split at matched
    · rename_i shape
      rw [shape] at wholes fracs
      have none := congrArg value wholes
      rw [value_toDigits] at none
      exact ⟨none.symm, by rw [← fracs]; rfl⟩
    · rename_i digit rest shape
      rw [shape] at wholes fracs
      have none := congrArg value wholes
      rw [value_toDigits] at none
      have zeros : digit :: rest = List.replicate (digit :: rest).length '0' :=
        List.eq_replicate_of_mem fun c mem => of_decide_eq_true (all_eq_true.1 matched c mem)
      have same : digit :: rest = f := fracs
      exact ⟨none.symm, by rw [← same, zeros, value_zeros]⟩
    · cases matched
  · rintro ⟨rfl, none⟩
    have zeros : f = List.replicate f.length '0' :=
      value_inj parts.fracDigits (allDigits_zeros _) (length_replicate).symm (by rw [none, value_zeros])
    unfold isZeroText
    cases f with
    | nil =>
      rw [dotless rfl]
      rfl
    | cons digit rest =>
      rcases parts.text with ⟨-, empty⟩ | shape
      · cases empty
      · rw [shape]
        show (digit :: rest).all (· = '0') = true
        rw [zeros, List.all_replicate]
        simp

/-- **What `normalizeAmount` writes**: the whole part, the digits cut to the minor unit, and the sign of a
number that is not zero. -/
theorem normalizeAmount_exact (numeric : NumericText) (currencyCode : String) :
    ∃ negative, Exact (normalizeAmount numeric.text currencyCode) negative (Nat.toDigits 10 numeric.whole)
      (cutTo (minorUnitExponent currencyCode) numeric.frac) ∧
      ('.' ∈ (normalizeAmount numeric.text currencyCode).toList ↔ 0 < minorUnitExponent currencyCode) ∧
      (negative = true ↔
        numeric.negative = true ∧
        number (Nat.toDigits 10 numeric.whole) (cutTo (minorUnitExponent currencyCode) numeric.frac) ≠
        0) := by
  obtain ⟨text, negative, n, f, exact, -⟩ := numeric
  dsimp only
  obtain ⟨whole, most, cs, parts, shape⟩ := id exact.parts
  generalize minor : minorUnitExponent currencyCode = places
  have unsigned : (if negative then String.ofList (text.toList.drop 1) else text).toList = cs := by
    rw [shape]
    cases negative with
    | false => simpa using shape
    | true => simp
  have fraction : fractionText (if negative then String.ofList (text.toList.drop 1) else text) = f := by
    rw [fractionText, unsigned]
    exact fractionPart parts
  generalize written : (if places = 0 then Nat.toDigits 10 n
    else Nat.toDigits 10 n ++ '.' :: cutTo places f) = result
  have resultParts : PlainParts (Nat.toDigits 10 n).length places result (Nat.toDigits 10 n)
      (cutTo places f) := by
    refine ⟨parts.wholeDigits, cutTo_digits places parts.fracDigits, parts.nonempty, le_rfl,
      (cutTo_length _ _).le, ?_⟩
    rw [← written]
    split_ifs with none
    · exact .inl ⟨rfl, length_eq_zero_iff.1 ((cutTo_length _ _).trans none)⟩
    · exact .inr rfl
  have noDot : '.' ∉ Nat.toDigits 10 n := not_mem_digits parts.wholeDigits '.' (by decide)
  have dot : '.' ∈ result ↔ 0 < places := by
    rw [← written]
    split_ifs with none
    · simp [noDot, none]
    · simp [Nat.pos_of_ne_zero none]
  have zero : isZeroText (String.ofList result) = true ↔ number (Nat.toDigits 10 n) (cutTo places f) = 0 := by
    refine isZeroText_iff (by rwa [String.toList_ofList]) fun empty => ?_
    have none : places = 0 := by rw [← cutTo_length places f, empty]; rfl
    rw [String.toList_ofList, ← written, if_pos none]
  have normalized : normalizeAmount text currencyCode =
      if negative && !isZeroText (String.ofList result) then "-" ++ String.ofList result else
        String.ofList result := by
    have digits : isZeroText "0" = true := by decide
    have both : ∀ body : String, (negative && (decide (body ≠ "0")) && !isZeroText body) =
        (negative && !isZeroText body) := fun body => by
      by_cases same : body = "0"
      · simp [same, digits]
      · simp [same]
    unfold normalizeAmount
    dsimp only
    rw [startsWith_minus exact, minor, fraction, unsigned, wholePart parts]
    have rendered : (if places = 0 then Nat.toDigits 10 n
        else Nat.toDigits 10 n ++ '.' :: (f ++ List.replicate places '0').take places) = result := written
    rw [rendered, both]
  rw [normalized]
  by_cases signed : (negative && !isZeroText (String.ofList result)) = true
  · rw [if_pos signed]
    simp only [and_eq_true, not_eq_true'] at signed
    have nonzero : number (Nat.toDigits 10 n) (cutTo places f) ≠ 0 := fun none => by
      rw [zero.2 none] at signed
      cases signed.2
    refine ⟨true, ⟨_, _, _, resultParts, by simp⟩, ?_, iff_of_true rfl ⟨signed.1, nonzero⟩⟩
    simpa using dot
  · rw [if_neg signed]
    refine ⟨false, ⟨_, _, _, resultParts, String.toList_ofList⟩, by rwa [String.toList_ofList], ?_⟩
    refine iff_of_false false_ne_true ?_
    rintro ⟨minus, nonzero⟩
    refine signed (and_eq_true_iff.2 ⟨minus, ?_⟩)
    rw [not_eq_true', ← not_eq_true]
    exact fun none => nonzero (zero.1 none)

end Parts

theorem abs_amount (negative : Bool) (w f : List Char) : |amount negative w f| = number w f := by
  rw [amount]
  cases negative with
  | false => exact abs_of_nonneg (number_nonneg w f)
  | true => exact (abs_neg _).trans (abs_of_nonneg (number_nonneg w f))

/-- The text has exactly the places, a dot only before a digit and a minus only before a number that is not
zero. -/
structure InPlaces (places : Nat) (text : String) : Prop where
  exact : ∃ negative w f, Exact text negative w f ∧ f.length = places ∧ (negative = true → number w f ≠ 0)
  dot : '.' ∈ text.toList ↔ 0 < places

/-- **An amount that is representable goes onto the wire as the same number with the currency's fractional
digits and never as a negative zero; one that is not is the number of no text with so many.** -/
theorem wire_amount_exact (numeric : NumericText) (currencyCode : String) (row : ResolvedCatalogRow)
    (responseCursor : Token SnapshotCursor) : (isRepresentable numeric.text currencyCode = true →
      let wire := (toSellableRow { row with amount := numeric.text, currencyCode := currencyCode }
        responseCursor).price.amount
      literal wire.toList = literal numeric.text.toList ∧ InPlaces (minorUnitExponent currencyCode) wire) ∧
    (isRepresentable numeric.text currencyCode = false → ∀ other negative w f, Exact other negative w f →
      f.length = minorUnitExponent currencyCode → literal other.toList ≠ literal numeric.text.toList) := by
  obtain ⟨whole, most, cs, parts, -⟩ := id numeric.exact.parts
  rw [isRepresentable, significantFractionDigits_exact numeric.exact]
  constructor
  · intro fits
    have same := cutTo_number parts.wholeDigits parts.nonempty (of_decide_eq_true fits)
    obtain ⟨negative, exact, dot, sign⟩ := normalizeAmount_exact numeric currencyCode
    refine ⟨?_, ⟨negative, _, _, exact, cutTo_length _ _, fun minus => (sign.1 minus).2⟩, dot⟩
    show literal (normalizeAmount numeric.text currencyCode).toList = _
    rw [exact.literal, numeric.exact.literal, Option.some.injEq, amount, amount, same]
    by_cases none : number (Nat.toDigits 10 numeric.whole) numeric.frac = 0
    · rw [none, neg_zero, ite_self, ite_self]
    · rw [same] at sign
      have signs : negative = numeric.negative := by
        rw [Bool.eq_iff_iff, sign]
        exact and_iff_left none
      rw [signs]
  · intro wide other negative w f exact places denotes
    obtain ⟨whole', most', cs', parts', -⟩ := id exact.parts
    rw [exact.literal, numeric.exact.literal, Option.some.injEq] at denotes
    have magnitudes := congrArg abs denotes
    rw [abs_amount, abs_amount] at magnitudes
    refine number_ne_of_significant parts parts' ?_ magnitudes.symm
    rw [places]
    exact not_le.1 (of_decide_eq_false wide)

end DataPulse.ReadDown
