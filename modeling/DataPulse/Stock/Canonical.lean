/-
**Canonical decimals.**

`canonicalDecimal` cuts the zeros off the two ends of an exact-decimal text. Two texts have one canonical
form exactly where they denote one number.
-/

import DataPulse.Stock.Service
import Mathlib.Data.List.TakeWhile

namespace DataPulse.Stock

open Lib Lib.Decimal Platform

variable {second first : List Char}

/-! ### Digits -/

theorem value_cons (c : Char) (cs : List Char) : value (c :: cs) = value [c] * 10 ^ cs.length + value cs := by
  rw [← singleton_append, value_append]

theorem allDigits_cons {c : Char} {cs : List Char} :
    allDigits (c :: cs) = true ↔ c.isDigit = true ∧ allDigits cs = true := by
  rw [allDigits, all_cons, and_eq_true, ← allDigits]

theorem value_single (c : Char) : value [c] = c.toNat - 48 := by
  simp only [value, Nat.ofDigitChars_cons, Nat.ofDigitChars_nil]
  exact Nat.zero_add _

theorem digit_inj {first second : Char} (one : first.isDigit = true) (two : second.isDigit = true)
    (same : value [first] = value [second]) : first = second := by
  simp only [Char.isDigit, ge_iff_le, and_eq_true, decide_eq_true_eq] at one two
  have lower : 48 ≤ first.toNat := UInt32.le_iff_toNat_le.1 one.1
  have lower' : 48 ≤ second.toNat := UInt32.le_iff_toNat_le.1 two.1
  rw [value_single, value_single] at same
  have nat : first.toNat = second.toNat := by omega
  exact Char.ext (UInt32.toNat_inj.1 nat)

/-- **A run of digits of a given length is determined by its number.** -/
theorem value_inj (one : allDigits first = true) (two : allDigits second = true)
    (lengths : first.length = second.length) (same : value first = value second) : first = second := by
  induction first generalizing second with
  | nil => exact (length_eq_zero_iff.1 lengths.symm).symm
  | cons c cs ih =>
    cases second with
    | nil => cases lengths
    | cons d ds =>
      obtain ⟨digit, digits⟩ := allDigits_cons.1 one
      obtain ⟨digit', digits'⟩ := allDigits_cons.1 two
      have short : cs.length = ds.length := Nat.succ.inj lengths
      have below := value_lt cs digits
      have below' := value_lt ds digits'
      rw [value_cons c, value_cons d, short] at same
      rw [short] at below
      have heads : value [c] = value [d] := by
        have one :=
          Nat.add_mul_div_right (value cs) (value [c]) (Nat.pow_pos (n := ds.length) (Nat.zero_lt_succ 9))
        have two :=
          Nat.add_mul_div_right (value ds) (value [d]) (Nat.pow_pos (n := ds.length) (Nat.zero_lt_succ 9))
        rw [Nat.div_eq_of_lt below, Nat.zero_add, Nat.add_comm] at one
        rw [Nat.div_eq_of_lt below', Nat.zero_add, Nat.add_comm] at two
        rw [← one, ← two, same]
      rw [digit_inj digit digit' heads]
      rw [heads] at same
      rw [ih digits digits' short (Nat.add_left_cancel same)]

/-! ### The two cuts -/

/-- What is left of a run of digits has its number, and starts with a zero only if that is all of it. -/
structure Stripped (w rest : List Char) : Prop where
  digits : allDigits rest = true
  same : value rest = value w
  nonempty : rest ≠ []
  head : rest.head? = some '0' → rest.length = 1

theorem stripLeadingZeros_spec {w : List Char} (digits : allDigits w = true) (nonempty : w ≠ []) :
    Stripped w (stripLeadingZeros w) := by
  induction w using stripLeadingZeros.induct with
  | case1 c rest digit ih =>
    rw [stripLeadingZeros, if_pos digit]
    obtain ⟨digits', same, some, head⟩ := ih (allDigits_cons.1 digits).2 (List.cons_ne_nil _ _)
    refine ⟨digits', same.trans ?_, some, head⟩
    rw [value_cons '0', show value ['0'] = 0 from rfl, Nat.zero_mul, Nat.zero_add]
  | case2 c rest other => exact absurd (allDigits_cons.1 (allDigits_cons.1 digits).2).1 other
  | case3 w shape =>
    rw [stripLeadingZeros.eq_2 _ shape]
    refine ⟨digits, rfl, nonempty, fun zero => ?_⟩
    match w with
    | [] => cases zero
    | [c] => rfl
    | c :: d :: rest =>
      obtain rfl := Option.some.inj zero
      exact absurd rfl (shape d rest)

/-- **Runs of digits of one number are left the same.** -/
theorem Stripped.unique {rest rest' : List Char} (one : Stripped first rest) (two : Stripped second rest')
    (same : value first = value second) : rest = rest' := by
  have positive {w cs : List Char} (stripped : Stripped w cs) : cs.length = 1 ∨
      10 ^ (cs.length - 1) ≤ value cs := by
    obtain ⟨c, rest, rfl⟩ := exists_cons_of_ne_nil stripped.nonempty
    by_cases zero : c = '0'
    · exact .inl (stripped.head (by rw [zero, head?_cons]))
    · right
      have digit := (allDigits_cons.1 stripped.digits).1
      have nonzero : value [c] ≠ 0 := fun none => zero (digit_inj digit (by decide) none)
      rw [value_cons, length_cons, Nat.add_sub_cancel]
      exact Nat.le_add_right_of_le (Nat.le_mul_of_pos_left _ (Nat.pos_of_ne_zero nonzero))
  have values : value rest = value rest' := by rw [one.same, two.same, same]
  have short {w cs w' cs' : List Char} (stripped : Stripped w cs) (stripped' : Stripped w' cs')
      (equal : value cs = value cs') : cs.length ≤ cs'.length := by
    have some := List.length_pos_iff.2 stripped'.nonempty
    rcases positive stripped with single | large
    · omega
    · by_contra longer
      have below := value_lt cs' stripped'.digits
      have power : 10 ^ cs'.length ≤ 10 ^ (cs.length - 1) := Nat.pow_le_pow_right (by decide) (by omega)
      omega
  exact value_inj one.digits two.digits (Nat.le_antisymm (short one two values) (short two one values.symm))
    values

theorem stripTrailingZeros_zeros (f : List Char) (count : Nat) :
    stripTrailingZeros (f ++ List.replicate count '0') = stripTrailingZeros f := by
  unfold stripTrailingZeros
  rw [List.reverse_append, List.reverse_replicate, List.dropWhile_append_of_pos]
  intro c mem
  exact decide_eq_true (List.eq_of_mem_replicate mem)

theorem stripTrailingZeros_spec (f : List Char) : ∃ count, f = stripTrailingZeros f ++
    List.replicate count '0' := by
  have split := List.takeWhile_append_dropWhile (p := fun c => decide (c = '0')) (l := f.reverse)
  have zeros : f.reverse.takeWhile (fun c => decide (c = '0')) =
      List.replicate (f.reverse.takeWhile fun c => decide (c = '0')).length '0' :=
    List.eq_replicate_of_mem fun c mem => of_decide_eq_true
      (List.mem_takeWhile_imp (p := fun c => decide (c = '0')) mem)
  refine ⟨(f.reverse.takeWhile fun c => decide (c = '0')).length, ?_⟩
  rw [stripTrailingZeros, ← List.reverse_replicate, ← zeros, ← List.reverse_append, split, List.reverse_reverse]

/-! ### Exact decimals -/

/-- An exact decimal: its sign, its whole part and its fractional digits. -/
structure Exact (text : String) (neg : Bool) (w f : List Char) : Prop where
  parts : ∃ whole most cs, PlainParts whole most cs w f ∧ text.toList = if neg then '-' :: cs else cs

/-- The fractional digits, as many as `most`. -/
def digitsTo (most : Nat) (f : List Char) : List Char := f ++ List.replicate (most - f.length) '0'

/-- The digits in units of the last of `most` places. -/
def unitsTo (most : Nat) (w f : List Char) : Nat := value w * 10 ^ most + value (digitsTo most f)

def number (w f : List Char) : ℚ := value (w ++ f) / 10 ^ f.length

def amount (neg : Bool) (w f : List Char) : ℚ := if neg then -number w f else number w f

def canonOf (w f : List Char) : List Char :=
  if (stripTrailingZeros f).isEmpty then stripLeadingZeros w else
    stripLeadingZeros w ++ '.' :: stripTrailingZeros f

theorem number_nonneg (w f : List Char) : 0 ≤ number w f := by
  unfold number
  positivity

variable {most : Nat} {w f : List Char}

theorem digitsTo_length (fits : f.length ≤ most) : (digitsTo most f).length = most := by
  rw [digitsTo, length_append, length_replicate, Nat.add_sub_cancel' fits]

theorem digitsTo_digits (most : Nat) (digits : allDigits f = true) : allDigits (digitsTo most f) = true := by
  rw [digitsTo, allDigits_append, digits, allDigits_zeros, Bool.and_self]

theorem strip_digitsTo (most : Nat) (f : List Char) : stripTrailingZeros (digitsTo most f) =
    stripTrailingZeros f :=
  stripTrailingZeros_zeros f _

theorem stripTrailing_digits (digits : allDigits f = true) : allDigits (stripTrailingZeros f) = true := by
  obtain ⟨count, split⟩ := stripTrailingZeros_spec f
  rw [split, allDigits_append, and_eq_true] at digits
  exact digits.1

theorem stripTrailing_length (f : List Char) : (stripTrailingZeros f).length ≤ f.length := by
  obtain ⟨count, split⟩ := stripTrailingZeros_spec f
  have length := congrArg List.length split
  rw [length_append] at length
  omega

theorem digitsTo_strip (fits : f.length ≤ most) : digitsTo most f = digitsTo most (stripTrailingZeros f) := by
  obtain ⟨count, split⟩ := stripTrailingZeros_spec f
  have length := digitsTo_length fits
  have joined : digitsTo most f = stripTrailingZeros f ++ List.replicate (count + (most - f.length)) '0' := by
    conv_lhs => rw [digitsTo, split]
    rw [append_assoc, List.replicate_append_replicate, ← split]
  rw [joined, length_append, length_replicate] at length
  rw [joined, digitsTo, show count + (most - f.length) = most - (stripTrailingZeros f).length by omega]

theorem unitsTo_number (w : List Char) (fits : f.length ≤ most) : (unitsTo most w f : ℚ) =
    number w f * 10 ^ most := by
  have power : (10 : ℚ) ^ most = 10 ^ f.length * 10 ^ (most - f.length) := by
    rw [← pow_add, Nat.add_sub_cancel' fits]
  have split : value (w ++ f) = value w * 10 ^ f.length + value f := value_append w f
  rw [unitsTo, number, digitsTo, value_append, value_zeros, length_replicate, Nat.add_zero, split, power,
    div_mul_eq_mul_div, eq_div_iff (by positivity)]
  push_cast
  rw [power]
  ring

theorem unitsTo_inj {w' f' : List Char} (fits : f.length ≤ most) (fits' : f'.length ≤ most) :
    unitsTo most w f = unitsTo most w' f' ↔ number w f = number w' f' := by
  have scaled : (unitsTo most w f : ℚ) = unitsTo most w' f' ↔ number w f = number w' f' := by
    rw [unitsTo_number w fits, unitsTo_number w' fits', mul_left_inj' (by positivity)]
  rw [← scaled, Nat.cast_inj]

theorem number_strip (digits : allDigits w = true) (nonempty : w ≠ []) :
    number (stripLeadingZeros w) (stripTrailingZeros f) = number w f := by
  have same := (stripLeadingZeros_spec digits nonempty).same
  rw [← unitsTo_inj (stripTrailing_length f) le_rfl, unitsTo, unitsTo, same, digitsTo_strip (f := f) le_rfl]

section Parts

variable {whole : Nat} {cs : List Char}

theorem decimalParts_of_plain (parts : PlainParts whole most cs w f) : decimalParts cs = (w, f) := by
  rcases parts.text with ⟨rfl, rfl⟩ | rfl
  · rw [decimalParts, splitOn_digits parts.wholeDigits]
  · rw [decimalParts, splitOn_split parts.wholeDigits parts.fracDigits]

theorem canonOf_plain (parts : PlainParts whole most cs w f) :
    PlainParts (stripLeadingZeros w).length (stripTrailingZeros f).length (canonOf w f) (stripLeadingZeros w)
      (stripTrailingZeros f) := by
  obtain ⟨digits, -, nonempty, -⟩ := stripLeadingZeros_spec parts.wholeDigits parts.nonempty
  refine ⟨digits, stripTrailing_digits parts.fracDigits, nonempty, le_rfl, le_rfl, ?_⟩
  rw [canonOf]
  split_ifs with empty
  · exact .inl ⟨rfl, isEmpty_iff.1 empty⟩
  · exact .inr rfl

/-- **The canonical digits are determined by the number, and determine it.** -/
theorem canonOf_eq_iff {whole' most' : Nat} {cs' w' f' : List Char} (one : PlainParts whole most cs w f)
    (two : PlainParts whole' most' cs' w' f') : canonOf w f = canonOf w' f' ↔ number w f = number w' f' := by
  constructor
  · intro same
    have parts := congrArg decimalParts same
    rw [decimalParts_of_plain (canonOf_plain one), decimalParts_of_plain (canonOf_plain two)] at parts
    obtain ⟨wholes, fracs⟩ := Prod.mk.inj parts
    rw [← number_strip one.wholeDigits one.nonempty, ← number_strip two.wholeDigits two.nonempty, wholes, fracs]
  · intro same
    have fits : f.length ≤ max f.length f'.length := le_max_left _ _
    have fits' : f'.length ≤ max f.length f'.length := le_max_right _ _
    generalize max f.length f'.length = places at fits fits'
    have below := value_lt _ (digitsTo_digits places one.fracDigits)
    have below' := value_lt _ (digitsTo_digits places two.fracDigits)
    rw [digitsTo_length fits] at below
    rw [digitsTo_length fits'] at below'
    have units := (unitsTo_inj fits fits').2 same
    unfold unitsTo at units
    have wholes : value w = value w' := by
      have scale : 0 < 10 ^ places := Nat.pow_pos (Nat.zero_lt_succ 9)
      have left := Nat.add_mul_div_right (value (digitsTo places f)) (value w) scale
      have right := Nat.add_mul_div_right (value (digitsTo places f')) (value w') scale
      rw [Nat.div_eq_of_lt below, Nat.zero_add, Nat.add_comm] at left
      rw [Nat.div_eq_of_lt below', Nat.zero_add, Nat.add_comm] at right
      rw [← left, ← right, units]
    rw [wholes] at units
    have fracs : digitsTo places f = digitsTo places f' :=
      value_inj (digitsTo_digits places one.fracDigits) (digitsTo_digits places two.fracDigits)
        ((digitsTo_length fits).trans (digitsTo_length fits').symm) (Nat.add_left_cancel units)
    have stripped := stripLeadingZeros_spec one.wholeDigits one.nonempty
    have stripped' := stripLeadingZeros_spec two.wholeDigits two.nonempty
    rw [canonOf, canonOf, stripped.unique stripped' wholes, ← strip_digitsTo places f, fracs, strip_digitsTo]

theorem zero_plain : PlainParts 1 0 ['0'] ['0'] [] :=
  ⟨by decide, rfl, by decide, le_rfl, le_rfl, .inl ⟨rfl, rfl⟩⟩

theorem number_zero : number ['0'] [] = 0 := by
  rw [number, show value (['0'] ++ []) = 0 from rfl, Nat.cast_zero, zero_div]

variable (parts : PlainParts whole most cs w f)
include parts

theorem canonOf_zero : canonOf w f = ['0'] ↔ number w f = 0 := by
  have zero := canonOf_eq_iff parts zero_plain
  rw [number_zero] at zero
  exact zero

theorem canonOf_head : ∃ c rest, canonOf w f = c :: rest ∧ c.isDigit = true := by
  obtain ⟨digits, -, nonempty, -⟩ := stripLeadingZeros_spec parts.wholeDigits parts.nonempty
  obtain ⟨c, rest, shape, digit⟩ := head_of_digits digits nonempty
  rw [canonOf, shape]
  split_ifs
  · exact ⟨c, rest, rfl, digit⟩
  · exact ⟨c, _, cons_append, digit⟩

theorem canonOf_unsigned : (canonOf w f).head? ≠ some '-' := by
  obtain ⟨c, rest, shape, digit⟩ := canonOf_head parts
  rw [shape, head?_cons]
  intro same
  rw [Option.some.inj same] at digit
  exact absurd digit (by decide)

omit parts

end Parts

section Texts

variable {text : String} {neg : Bool}
variable {text' : String}

variable (exact : Exact text neg w f)
include exact

theorem Exact.literal : Decimal.literal text.toList = some (amount neg w f) := by
  obtain ⟨whole, most, cs, parts, shape⟩ := exact.parts
  rw [shape]
  cases neg with
  | false => exact parts.literal
  | true => exact literal_minus parts.signed parts.literal

theorem Exact.canonical :
    canonicalDecimal text =
      if number w f = 0 then "0" else if neg then String.ofList ('-' :: canonOf w f) else
      String.ofList (canonOf w f) := by
  obtain ⟨whole, most, cs, parts, shape⟩ := exact.parts
  have sign : (text.toList.head? = some '-') = (neg = true) := by
    rw [shape]
    cases neg with
    | true => simp
    | false =>
      obtain ⟨c, rest, first, digit⟩ := head_of_digits parts.wholeDigits parts.nonempty
      have apart : c ≠ '-' := by
        rintro rfl
        exact absurd digit (by decide)
      rcases parts.text with ⟨rfl, -⟩ | rfl
      · simp [first, apart]
      · simp [first, apart]
  have body : (if text.toList.head? = some '-' then text.toList.tail else text.toList) = cs := by
    rw [if_congr (Iff.of_eq sign) rfl rfl, shape]
    cases neg <;> rfl
  have zero := canonOf_zero parts
  unfold canonicalDecimal
  dsimp only
  rw [body, decimalParts_of_plain parts]
  simp only [sign]
  rw [show (if (stripTrailingZeros f).isEmpty = true then stripLeadingZeros w
    else stripLeadingZeros w ++ '.' :: stripTrailingZeros f) = canonOf w f from rfl]
  exact if_congr zero rfl rfl

theorem canonicalDecimal_negative : (canonicalDecimal text).toList.head? = some '-' ↔ amount neg w f < 0 := by
  obtain ⟨whole, most, cs, parts, -⟩ := id exact.parts
  have unsigned := canonOf_unsigned parts
  have nonneg := number_nonneg w f
  rw [exact.canonical, amount]
  by_cases none : number w f = 0
  · cases neg <;> simp [none]
  · cases neg with
    | false =>
      rw [if_neg none, if_neg false_ne_true, if_neg false_ne_true, String.toList_ofList]
      exact ⟨fun signed => absurd signed unsigned, fun negative => absurd nonneg (not_le.2 negative)⟩
    | true =>
      rw [if_neg none, if_pos rfl, if_pos rfl, String.toList_ofList, head?_cons, neg_lt_zero]
      exact ⟨fun _ => lt_of_le_of_ne nonneg (Ne.symm none), fun _ => rfl⟩

/-- **A canonical form is an exact decimal of the same number.** -/
theorem Exact.form :
    ∃ neg' w' f', Exact (canonicalDecimal text) neg' w' f' ∧ amount neg' w' f' = amount neg w f := by
  obtain ⟨whole, most, cs, parts, -⟩ := id exact.parts
  rw [exact.canonical]
  by_cases none : number w f = 0
  · refine ⟨false, ['0'], [], ⟨1, 0, ['0'], zero_plain, by rw [if_pos none]; rfl⟩, ?_⟩
    rw [amount, if_neg false_ne_true, number_zero, amount, none]
    cases neg
    · rfl
    · exact neg_zero.symm
  · refine ⟨neg, stripLeadingZeros w, stripTrailingZeros f, ⟨_, _, _, canonOf_plain parts, ?_⟩, ?_⟩
    · rw [if_neg none]
      cases neg <;> exact String.toList_ofList
    · rw [amount, amount, number_strip parts.wholeDigits parts.nonempty]

omit exact

/-- **Exact decimals have one canonical form exactly where they denote one number.** -/
theorem canonicalDecimal_eq_iff {neg' : Bool} {w' f' : List Char} (one : Exact text neg w f)
    (two : Exact text' neg' w' f') :
    canonicalDecimal text = canonicalDecimal text' ↔ amount neg w f = amount neg' w' f' := by
  constructor
  · intro same
    obtain ⟨_, _, _, form, number⟩ := one.form
    obtain ⟨_, _, _, form', number'⟩ := two.form
    rw [same] at form
    rw [← number, ← number']
    exact mem_unique form.literal form'.literal
  · intro same
    obtain ⟨whole, most, cs, parts, -⟩ := id one.parts
    obtain ⟨whole', most', cs', parts', -⟩ := id two.parts
    have digits : number w f = number w' f' := by
      have size {neg : Bool} {w f : List Char} : |amount neg w f| = number w f := by
        rw [amount]
        cases neg
        · exact abs_of_nonneg (number_nonneg w f)
        · exact (abs_neg _).trans (abs_of_nonneg (number_nonneg w f))
      rw [← @size neg w f, same, size]
    rw [one.canonical, two.canonical, digits, (canonOf_eq_iff parts parts').2 digits]
    by_cases none : number w' f' = 0
    · rw [if_pos none, if_pos none]
    · have signs : neg = neg' := by
        rw [amount, amount, digits] at same
        cases neg <;> cases neg'
        · rfl
        · exact absurd (self_eq_neg.1 same) none
        · exact absurd (neg_eq_self.1 same) none
        · rfl
      rw [signs]

theorem canonicalDecimal_twice (exact : Exact text neg w f) :
    canonicalDecimal (canonicalDecimal text) = canonicalDecimal text := by
  obtain ⟨_, _, _, form, number⟩ := exact.form
  exact (canonicalDecimal_eq_iff form exact).2 number

theorem exact_of_plain {whole most : List Char → Nat} (plain : (match text.toList with
      | '-' :: digits => isPlain (whole digits) (most digits) digits
      | digits => isPlain (whole digits) (most digits) digits) = true) : ∃ neg w f, Exact text neg w f := by
  split at plain
  · rename_i digits shape
    obtain ⟨w, f, parts⟩ := plain_split plain
    exact ⟨true, w, f, ⟨_, _, digits, parts, shape⟩⟩
  · obtain ⟨w, f, parts⟩ := plain_split plain
    exact ⟨false, w, f, ⟨_, _, text.toList, parts, rfl⟩⟩

theorem exact_of_quantity (quantity : isQuantity text = true) : ∃ neg w f, Exact text neg w f := by
  unfold isQuantity at quantity
  exact @exact_of_plain text (fun _ => 15) (fun _ => 6) quantity

theorem exact_scaledText (n : ℤ) : ∃ neg w f, Exact (String.ofList (scaledText 4 n)) neg w f := by
  have small : n.natAbs < 10 ^ (n.natAbs + 1 + 4) :=
    (Nat.lt_pow_self (by decide)).trans (Nat.pow_lt_pow_right (by decide) (by omega))
  obtain ⟨w, f, parts⟩ := plain_split (isPlain_magnitudeText 4 (by decide) (Nat.succ_pos _) small)
  refine ⟨decide (n < 0), w, f, ⟨_, _, _, parts, ?_⟩⟩
  rw [String.toList_ofList, scaledText]
  by_cases negative : n < 0 <;> simp [negative]

def quantityOf (text : String) : Option ℚ := Decimal.literal text.toList

/-- **The comparison and the sign of exact decimals are those of their numbers.** -/
theorem canonicalDecimal_number {q q' : ℚ} (one : ∃ neg w f, Exact text neg w f)
    (two : ∃ neg w f, Exact text' neg w f) (first : quantityOf text = some q)
    (second : quantityOf text' = some q') :
    (canonicalDecimal text = canonicalDecimal text' ↔ q = q') ∧
      ((canonicalDecimal text).toList.head? = some '-' ↔ q < 0) := by
  obtain ⟨neg, w, f, exact⟩ := one
  obtain ⟨neg', w', f', exact'⟩ := two
  obtain rfl := mem_unique exact.literal first
  obtain rfl := mem_unique exact'.literal second
  exact ⟨canonicalDecimal_eq_iff exact exact', canonicalDecimal_negative exact⟩

/-- An exact decimal of any length: a minus or none, digits, and a dot with digits or none. -/
def isExactDecimal (text : String) : Bool :=
  match text.toList with
  | '-' :: digits => isPlain digits.length digits.length digits
  | digits => isPlain digits.length digits.length digits

/-- **The canonical form of exact decimals of any length**: it tells their numbers apart, it has a sign
where the number is negative, and it is its own canonical form. -/
theorem canonicalDecimal_canonical (text text' : String) (one : isExactDecimal text = true)
    (two : isExactDecimal text' = true) :
    ∃ q q', quantityOf text = some q ∧ quantityOf text' = some q' ∧
      (canonicalDecimal text = canonicalDecimal text' ↔ q = q') ∧
      ((canonicalDecimal text).toList.head? = some '-' ↔ q < 0) ∧
      canonicalDecimal (canonicalDecimal text) = canonicalDecimal text := by
  obtain ⟨neg, w, f, exact⟩ := @exact_of_plain text List.length List.length one
  obtain ⟨neg', w', f', exact'⟩ := @exact_of_plain text' List.length List.length two
  exact ⟨_, _, exact.literal, exact'.literal, canonicalDecimal_eq_iff exact exact',
    canonicalDecimal_negative exact, canonicalDecimal_twice exact⟩

theorem canonicalDecimal_canonical_sample :
    ∃ q q', quantityOf "-007.12345670" = some q ∧ quantityOf "-7.1234567" = some q' ∧
      (canonicalDecimal "-007.12345670" = canonicalDecimal "-7.1234567" ↔ q = q') ∧
      ((canonicalDecimal "-007.12345670").toList.head? = some '-' ↔ q < 0) ∧
      canonicalDecimal (canonicalDecimal "-007.12345670") = canonicalDecimal "-007.12345670" :=
  canonicalDecimal_canonical "-007.12345670" "-7.1234567" (by decide +kernel) (by decide +kernel)

end Texts

end DataPulse.Stock
