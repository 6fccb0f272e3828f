/-
**Decimal text.**

Amounts and quantities travel as decimal text. This file has the text forms and their values:

* `literal`: the value of a decimal literal (`sign? digits [. digits] [e exponent]`), as a rational;
* `scaledText k n`: the integer `n` read as `n / 10 ^ k`, written with exactly `k` fractional digits;
* `isPlain`: the shape `digits{1,whole} [. digits{1,frac}]` of the request schemas, with `plain_split`
  for what the shape says;
* `literal_scaledText`: writing and reading back gives the same number;
* `literal_plain`: the value of a text of the plain shape.
-/

import DataPulse.Lib.Lists
import Mathlib.Data.List.Induction
import Mathlib.Data.Rat.Defs
import Mathlib.Algebra.Order.Field.Rat
import Mathlib.Tactic.FieldSimp
import Mathlib.Tactic.Ring

namespace DataPulse.Lib.Decimal

variable {cs whole frac w f : List Char}
variable {c : Char}

/-! ### Digits -/

def allDigits (cs : List Char) : Bool := cs.all Char.isDigit

def value (cs : List Char) : Nat := Nat.ofDigitChars 10 cs 0

/-- `n.toString().padStart(width, "0")`. -/
def padded (width n : Nat) : List Char := List.leftpad width '0' (Nat.toDigits 10 n)

theorem allDigits_append (first second : List Char) :
    allDigits (first ++ second) = (allDigits first && allDigits second) := by
  simp [allDigits]

theorem value_append (first second : List Char) :
    value (first ++ second) = value first * 10 ^ second.length + value second := by
  unfold value
  rw [Nat.ofDigitChars_append, Nat.ofDigitChars_eq_ofDigitChars_zero, Nat.mul_comm]

@[simp] theorem value_zeros (count : Nat) : value (List.replicate count '0') = 0 := by
  simp [value]

@[simp] theorem value_toDigits (n : Nat) : value (Nat.toDigits 10 n) = n :=
  Nat.ofDigitChars_ten_toDigits

theorem allDigits_toDigits (n : Nat) : allDigits (Nat.toDigits 10 n) = true := by
  rw [allDigits, all_eq_true]
  exact fun c mem => Nat.isDigit_of_mem_toDigits (by decide) (by decide) mem

theorem allDigits_zeros (count : Nat) : allDigits (List.replicate count '0') = true := by
  rw [allDigits, all_eq_true]
  intro c mem
  rw [List.eq_of_mem_replicate mem]
  decide

theorem value_lt (cs : List Char) (digits : allDigits cs = true) : value cs < 10 ^ cs.length := by
  induction cs using List.reverseRecOn with
  | nil => simp [value]
  | append_singleton front last ih =>
    rw [allDigits_append, and_eq_true] at digits
    have front_lt := ih digits.1
    have last_lt : value [last] < 10 := by
      have range : last.isDigit = true := by simpa [allDigits] using digits.2
      simp only [Char.isDigit, ge_iff_le, and_eq_true, decide_eq_true_eq] at range
      have upper : last.toNat ≤ 57 := by simpa using UInt32.le_iff_toNat_le.1 range.2
      simp only [value, Nat.ofDigitChars_cons, Nat.ofDigitChars_nil]
      change 10 * 0 + (last.toNat - 48) < 10
      omega
    rw [value_append, length_append, List.length_singleton, pow_succ]
    omega

theorem padded_length (width n : Nat) (pos : 0 < width) (small : n < 10 ^ width) : (padded width n).length =
    width := by
  have fits := (Nat.length_toDigits_le_iff (b := 10) (by decide) pos).2 small
  simp only [padded, List.length_leftpad]
  omega

theorem padded_value (width n : Nat) : value (padded width n) = n := by
  rw [padded, List.leftpad, value_append, value_zeros, value_toDigits]
  omega

theorem padded_digits (width n : Nat) : allDigits (padded width n) = true := by
  rw [padded, List.leftpad, allDigits_append, allDigits_zeros, allDigits_toDigits]
  rfl

theorem not_mem_digits (digits : allDigits cs = true) (c : Char) (other : c.isDigit = false) : c ∉ cs := by
  intro mem
  rw [allDigits, all_eq_true] at digits
  rw [digits c mem] at other
  exact absurd other (by decide)

/-! ### Splitting a sign off -/

/-- The sign in front of a number and what follows it. -/
def signed (cs : List Char) : Bool × List Char :=
  match cs with
  | '-' :: rest => (true, rest)
  | '+' :: rest => (false, rest)
  | _ => (false, cs)

theorem signed_of_digit {rest : List Char} (shape : cs = c :: rest) (digit : c.isDigit = true) :
    signed cs = (false, cs) := by
  subst shape
  unfold signed
  split
  · rename_i equal
    rw [List.cons.inj equal |>.1] at digit
    exact absurd digit (by decide)
  · rename_i equal
    rw [List.cons.inj equal |>.1] at digit
    exact absurd digit (by decide)
  · rfl

def negateIf {α : Type} [Neg α] (negative : Bool) (a : α) : α := if negative then -a else a

/-! ### Literals -/

/-- The value of `digits [. digits]`, not both parts empty. -/
def mantissa (cs : List Char) : Option ℚ :=
  match cs.splitOn '.' with
  | [whole] => if allDigits whole && !whole.isEmpty then some (value whole) else none
  | [whole, frac] =>
    if allDigits whole && allDigits frac && !(whole ++ frac).isEmpty then
      some (value (whole ++ frac) / 10 ^ frac.length)
    else none
  | _ => none

/-- The exponent after the `e`: a signed run of digits. -/
def exponent (cs : List Char) : Option ℤ :=
  let (negative, digits) := signed cs
  if allDigits digits && !digits.isEmpty then some (negateIf negative (value digits : ℤ)) else none

def unsignedLiteral (cs : List Char) : Option ℚ :=
  match (cs.map Char.toLower).splitOn 'e' with
  | [digits] => mantissa digits
  | [digits, power] => do
      let m ← mantissa digits
      let e ← exponent power
      some (m * 10 ^ e)
  | _ => none

/-- The value of a decimal literal, `none` when the text is not one. -/
def literal (cs : List Char) : Option ℚ :=
  let (negative, rest) := signed cs
  (unsignedLiteral rest).map (negateIf negative)

/-- A text of digits and dots. -/
def Bare (cs : List Char) : Prop := ∀ c ∈ cs, c.isDigit = true ∨ c = '.'

theorem toLower_digit (digit : c.isDigit = true) : c.toLower = c := by
  simp only [Char.isDigit, ge_iff_le, and_eq_true, decide_eq_true_eq] at digit
  have upper : c.val.toNat ≤ 57 := by simpa using UInt32.le_iff_toNat_le.1 digit.2
  unfold Char.toLower
  split
  · rename_i letter
    have lower : 65 ≤ c.val.toNat := by simpa using UInt32.le_iff_toNat_le.1 letter.1
    omega
  · rfl

theorem signed_of_bare (bare : Bare cs) : signed cs = (false, cs) := by
  unfold signed
  split
  · rcases bare '-' mem_cons_self with digit | equal
    · exact absurd digit (by decide)
    · exact absurd equal (by decide)
  · rcases bare '+' mem_cons_self with digit | equal
    · exact absurd digit (by decide)
    · exact absurd equal (by decide)
  · rfl

theorem map_toLower_of_bare (bare : Bare cs) : cs.map Char.toLower = cs := by
  have fixed : ∀ c ∈ cs, c.toLower = id c := by
    intro c mem
    rcases bare c mem with digit | rfl
    · exact toLower_digit digit
    · decide
  rw [map_congr_left fixed, map_id]

theorem unsignedLiteral_of_bare (bare : Bare cs) : unsignedLiteral cs = mantissa cs := by
  have noExponent : 'e' ∉ cs := by
    intro mem
    rcases bare _ mem with digit | equal
    · exact absurd digit (by decide)
    · exact absurd equal (by decide)
  rw [unsignedLiteral, map_toLower_of_bare bare, List.splitOn_eq_singleton noExponent]

theorem bare_of_digits (digits : allDigits cs = true) : Bare cs := by
  rw [allDigits, all_eq_true] at digits
  exact fun c mem => .inl (digits c mem)

theorem bare_split (wholeDigits : allDigits whole = true) (fracDigits : allDigits frac = true) :
    Bare (whole ++ '.' :: frac) := by
  intro c mem
  rcases mem_append.1 mem with inWhole | inRest
  · exact bare_of_digits wholeDigits c inWhole
  · rcases mem_cons.1 inRest with rfl | inFrac
    · exact .inr rfl
    · exact bare_of_digits fracDigits c inFrac

theorem splitOn_digits (wholeDigits : allDigits whole = true) : whole.splitOn '.' = [whole] :=
  List.splitOn_eq_singleton (not_mem_digits wholeDigits '.' (by decide))

theorem splitOn_split (wholeDigits : allDigits whole = true) (fracDigits : allDigits frac = true) :
    (whole ++ '.' :: frac).splitOn '.' = [whole, frac] := by
  rw [List.splitOn_append_cons_self_of_not_mem (not_mem_digits wholeDigits '.' (by decide)),
    splitOn_digits fracDigits]

theorem head_of_digits (digits : allDigits cs = true) (nonempty : cs ≠ []) :
    ∃ c rest, cs = c :: rest ∧ c.isDigit = true := by
  cases cs with
  | nil => exact absurd rfl nonempty
  | cons c rest =>
    simp only [allDigits, all_cons, and_eq_true] at digits
    exact ⟨c, rest, rfl, digits.1⟩

theorem literal_digits (wholeDigits : allDigits whole = true) (nonempty : whole ≠ []) :
    literal whole = some (value whole : ℚ) := by
  obtain ⟨c, rest, shape, digit⟩ := head_of_digits wholeDigits nonempty
  have noSign : signed whole = (false, whole) := signed_of_digit shape digit
  simp only [literal, noSign, unsignedLiteral_of_bare (bare_of_digits wholeDigits), mantissa,
    splitOn_digits wholeDigits, wholeDigits, negateIf, Option.map]
  simp [nonempty]

theorem literal_split (wholeDigits : allDigits whole = true) (fracDigits : allDigits frac = true)
    (nonempty : whole ≠ []) :
    literal (whole ++ '.' :: frac) = some (value (whole ++ frac) / 10 ^ frac.length : ℚ) := by
  obtain ⟨c, rest, shape, digit⟩ := head_of_digits wholeDigits nonempty
  have shape' : whole ++ '.' :: frac = c :: (rest ++ '.' :: frac) := by rw [shape, cons_append]
  have noSign : signed (whole ++ '.' :: frac) = (false, whole ++ '.' :: frac) := signed_of_digit shape' digit
  simp only [literal, noSign, unsignedLiteral_of_bare (bare_split wholeDigits fracDigits), mantissa,
    splitOn_split wholeDigits fracDigits, wholeDigits, fracDigits, negateIf, Option.map]
  simp [nonempty]

theorem literal_minus {q : ℚ} (unsigned : signed cs = (false, cs)) (read : literal cs = some q) :
    literal ('-' :: cs) = some (-q) := by
  simp only [literal, unsigned] at read
  simp only [literal, signed]
  cases found : unsignedLiteral cs with
  | none => simp [found] at read
  | some m =>
    rw [found, map_some, negateIf, Option.some.injEq] at read
    simpa [negateIf] using read

/-! ### The text of a scaled integer -/

/-- `|n| / 10 ^ scale` with exactly `scale` fractional digits. -/
def magnitudeText (scale n : Nat) : List Char :=
  Nat.toDigits 10 (n / 10 ^ scale) ++ '.' :: padded scale (n % 10 ^ scale)

/-- `n / 10 ^ scale` with exactly `scale` fractional digits. -/
def scaledText (scale : Nat) (n : Int) : List Char :=
  if n < 0 then '-' :: magnitudeText scale n.natAbs else magnitudeText scale n.natAbs

variable (scale : Nat)

theorem signed_magnitudeText (n : Nat) : signed (magnitudeText scale n) = (false, magnitudeText scale n) := by
  obtain ⟨c, rest, shape, digit⟩ := head_of_digits (allDigits_toDigits (n / 10 ^ scale)) Nat.toDigits_ne_nil
  have shape' : magnitudeText scale n = c :: (rest ++ '.' :: padded scale (n % 10 ^ scale)) := by
    rw [magnitudeText, shape, cons_append]
  exact signed_of_digit shape' digit

theorem literal_magnitudeText (pos : 0 < scale) (n : Nat) :
    literal (magnitudeText scale n) = some (n / 10 ^ scale : ℚ) := by
  have small : n % 10 ^ scale < 10 ^ scale := Nat.mod_lt _ (Nat.pow_pos (by decide))
  rw [magnitudeText, literal_split (allDigits_toDigits _) (padded_digits _ _) Nat.toDigits_ne_nil, value_append,
    value_toDigits, padded_value, padded_length scale _ pos small, Nat.div_add_mod']

/-- **Writing a scaled integer and reading the text back gives the same number.** -/
theorem literal_scaledText (pos : 0 < scale) (n : Int) : literal (scaledText scale n) =
    some (n / 10 ^ scale : ℚ) := by
  have read := literal_magnitudeText scale pos n.natAbs
  unfold scaledText
  split
  · rename_i negative
    rw [literal_minus (signed_magnitudeText scale _) read]
    have magnitude : ((n.natAbs : ℤ) : ℚ) = -n := by
      rw [Int.ofNat_natAbs_of_nonpos negative.le, Int.cast_neg]
    rw [← Int.cast_natCast, magnitude, neg_div, neg_neg]
  · rename_i nonneg
    have magnitude : ((n.natAbs : ℤ) : ℚ) = n := by
      rw [Int.natAbs_of_nonneg (not_lt.1 nonneg)]
    rw [read, ← Int.cast_natCast, magnitude]

/-! ### The plain shape -/

/-- `/^\d{1,whole}(\.\d{1,frac})?$/`. -/
def isPlain (whole frac : Nat) (cs : List Char) : Bool :=
  match cs.splitOn '.' with
  | [w] => allDigits w && decide (0 < w.length ∧ w.length ≤ whole)
  | [w, f] => allDigits w && decide (0 < w.length ∧ w.length ≤ whole) &&
      (allDigits f && decide (0 < f.length ∧ f.length ≤ frac))
  | _ => false

/-- What the plain shape says: a whole part and, after a dot or absent, a fractional part. -/
structure PlainParts (whole frac : Nat) (cs w f : List Char) : Prop where
  wholeDigits : allDigits w = true
  fracDigits : allDigits f = true
  nonempty : w ≠ []
  wholeLength : w.length ≤ whole
  fracLength : f.length ≤ frac
  text : cs = w ∧ f = [] ∨ cs = w ++ '.' :: f

theorem plain_split {whole frac : Nat} (plain : isPlain whole frac cs = true) :
    ∃ w f, PlainParts whole frac cs w f := by
  have rejoin : ['.'].intercalate (cs.splitOn '.') = cs := List.intercalate_splitOn '.'
  unfold isPlain at plain
  split at plain
  · rename_i w split
    simp only [and_eq_true, decide_eq_true_eq] at plain
    rw [split] at rejoin
    exact ⟨w, [], plain.1, rfl, List.ne_nil_of_length_pos plain.2.1, plain.2.2, Nat.zero_le _,
      .inl ⟨by simpa [List.intercalate] using rejoin.symm, rfl⟩⟩
  · rename_i w f split
    simp only [and_eq_true, decide_eq_true_eq] at plain
    rw [split] at rejoin
    exact ⟨w, f, plain.1.1, plain.2.1, List.ne_nil_of_length_pos plain.1.2.1, plain.1.2.2,
      plain.2.2.2, .inr (by simpa [List.intercalate] using rejoin.symm)⟩
  · exact absurd plain (by decide)

theorem PlainParts.literal {whole frac : Nat} (parts : PlainParts whole frac cs w f) :
    literal cs = some (value (w ++ f) / 10 ^ f.length : ℚ) := by
  rcases parts.text with ⟨rfl, rfl⟩ | rfl
  · simpa using literal_digits parts.wholeDigits parts.nonempty
  · exact literal_split parts.wholeDigits parts.fracDigits parts.nonempty

theorem PlainParts.signed {whole frac : Nat} (parts : PlainParts whole frac cs w f) : signed cs =
    (false, cs) := by
  obtain ⟨c, rest, shape, digit⟩ := head_of_digits parts.wholeDigits parts.nonempty
  rcases parts.text with ⟨rfl, -⟩ | rfl
  · exact signed_of_digit shape digit
  · have shape' : w ++ '.' :: f = c :: (rest ++ '.' :: f) := by rw [shape, cons_append]
    exact signed_of_digit shape' digit

theorem PlainParts.bare {whole frac : Nat} (parts : PlainParts whole frac cs w f) : Bare cs := by
  rcases parts.text with ⟨rfl, -⟩ | rfl
  · exact bare_of_digits parts.wholeDigits
  · exact bare_split parts.wholeDigits parts.fracDigits

theorem isPlain_magnitudeText {whole : Nat} (pos : 0 < scale) (wholePos : 0 < whole) {n : Nat}
    (small : n < 10 ^ (whole + scale)) : isPlain whole scale (magnitudeText scale n) = true := by
  have fracSmall : n % 10 ^ scale < 10 ^ scale := Nat.mod_lt _ (Nat.pow_pos (by decide))
  have fracLength := padded_length scale _ pos fracSmall
  have wholeLength : (Nat.toDigits 10 (n / 10 ^ scale)).length ≤ whole := by
    refine (Nat.length_toDigits_le_iff (by decide) wholePos).2 ?_
    refine Nat.div_lt_of_lt_mul ?_
    rwa [← Nat.pow_add, Nat.add_comm]
  rw [isPlain, magnitudeText, splitOn_split (allDigits_toDigits _) (padded_digits _ _)]
  simp only [allDigits_toDigits, padded_digits, fracLength, Bool.true_and, and_eq_true, decide_eq_true_eq]
  exact ⟨⟨Nat.length_toDigits_pos, wholeLength⟩, pos, le_refl _⟩

end DataPulse.Lib.Decimal
