/-
**The values that cross between the services and the database.**

* `trim`, `number`: `String.prototype.trim` and `Number(text)` as the services call them; `number` is
  `none` where the source's `Number.isFinite` fails.
-/

import DataPulse.Lib.Binary64
import DataPulse.Lib.Decimal
import Mathlib.Tactic.LinearCombination

namespace DataPulse.Platform

open Lib Lib.Decimal

variable {cs w f : List Char} {whole : Nat} {q : ℚ}

/-! ### Text -/

/-- Cut the characters that satisfy `blank` off both ends. -/
def trimBy (blank : Char → Bool) (cs : List Char) : List Char :=
  ((cs.dropWhile blank).reverse.dropWhile blank).reverse

/-- The white space and line terminators `trim` removes. -/
def isJsSpace (c : Char) : Bool :=
  c.toNat ∈ [0x9, 0xA, 0xB, 0xC, 0xD, 0x20, 0xA0, 0x1680, 0x2028, 0x2029, 0x202F, 0x205F, 0x3000,
    0xFEFF] || (0x2000 ≤ c.toNat && c.toNat ≤ 0x200A)

def isAsciiSpace (c : Char) : Bool := c.toNat ∈ [0x9, 0xA, 0xB, 0xC, 0xD, 0x20]

/-- `text.trim()`. -/
def trim (text : String) : String := String.ofList (trimBy isJsSpace text.toList)

/-- `text.length`: UTF-16 code units. -/
def utf16Length (text : String) : Nat :=
  (text.toList.map fun c => if c.toNat < 0x10000 then 1 else 2).sum

/-- `[...new Set(items)]`: each item once, in the order of its first occurrence. -/
def distinct {α : Type} [DecidableEq α] (items : List α) : List α := items.reverse.dedup.reverse

section Distinct

variable {α : Type} [DecidableEq α] {items : List α}

theorem mem_distinct {item : α} : item ∈ distinct items ↔ item ∈ items := by
  simp [distinct]

theorem distinct_eq_nil : distinct items = [] ↔ items = [] := by
  simp [distinct, eq_nil_iff_forall_not_mem]

theorem distinct_nodup (items : List α) : (distinct items).Nodup :=
  List.nodup_reverse.2 (List.nodup_dedup _)

end Distinct

theorem trimBy_eq_self {blank : Char → Bool} (none : ∀ c ∈ cs, blank c = false) : trimBy blank cs = cs := by
  have keep : ∀ ds : List Char, (∀ c ∈ ds, blank c = false) → ds.dropWhile blank = ds := by
    intro ds clean
    cases ds with
    | nil => rfl
    | cons c rest => rw [List.dropWhile_cons_of_neg (by simp [clean c mem_cons_self])]
  rw [trimBy, keep cs none, keep cs.reverse fun c mem => none c (List.mem_reverse.1 mem), List.reverse_reverse]

/-- `Number(text)`, for decimal text (a hexadecimal or binary literal is not one): `none` for `NaN`
and the infinities. -/
def number (text : String) : Option ℚ :=
  match trimBy isJsSpace text.toList with
  | [] => some 0
  | cs => do
      let q ← literal cs
      let x := Binary64.roundBinary64 q
      if |x| < 2 ^ 1024 then some x else none

/-! ### Errors of the server -/

/-- The SQLSTATE classes the services and this model tell apart. -/
inductive SqlState where
  | invalidText          -- 22P02
  | outOfRange           -- 22003
  | foreignKey           -- 23503
  | unique               -- 23505
  | check                -- 23514
  | exclusion            -- 23P01
  | failedTransaction    -- 25P02
  | rowSecurity          -- 42501
  | other (code : String)
  deriving DecidableEq

/-- An error the server reports for a statement. -/
structure PgError where
  code : SqlState
  constraint : Option String
  deriving DecidableEq

def PgError.plain (code : SqlState) : PgError := ⟨code, none⟩

/-! ### Identifiers -/

/-- `[0-9a-f]`. -/
def isLowerHex (c : Char) : Bool := c.isDigit || ('a' ≤ c && c ≤ 'f')

/-- `/^[0-9a-f]{8}-[0-9a-f]{4}-[0-9a-f]{4}-[0-9a-f]{4}-[0-9a-f]{12}$/`. -/
def isCanonicalUuid (cs : List Char) : Bool :=
  let groups := cs.splitOn '-'
  groups.map List.length = [8, 4, 4, 4, 12] && groups.all fun group => group.all isLowerHex

/-- A value of a `uuid` column. -/
structure Uuid where
  text : String
  canonical : isCanonicalUuid text.toList = true
  deriving DecidableEq

namespace Uuid

theorem ext {first second : Uuid} (same : first.text = second.text) : first = second := by
  cases first
  cases second
  simp_all

/-- The server's reading of a hyphenated identifier, in either letter case: the only form the
request schemas (`z.string().uuid()`, `UUID_RE`) let through. -/
def ofText (text : String) : Option Uuid :=
  let lower := String.ofList (text.toList.map Char.toLower)
  if canonical : isCanonicalUuid lower.toList = true then some ⟨lower, canonical⟩ else none

/-- `UUID_RE.test(text)`. -/
def isUuid (text : String) : Bool := (ofText text).isSome

/-- The order of the column, that of the canonical texts. -/
def precedes (first second : Uuid) : Bool :=
  decide (@LE.le (List Char) List.instLE first.text.toList second.text.toList)

theorem toLower_of_lowerHex {c : Char} (hex : isLowerHex c = true) : c.toLower = c := by
  simp only [isLowerHex, or_eq_true, and_eq_true, decide_eq_true_eq] at hex
  rcases hex with digit | letter
  · exact toLower_digit digit
  · have lower : 97 ≤ c.val.toNat := UInt32.le_iff_toNat_le.1 letter.1
    unfold Char.toLower
    split
    · rename_i upperCase
      have upper : c.val.toNat ≤ 90 := UInt32.le_iff_toNat_le.1 upperCase.2
      omega
    · rfl

theorem mem_splitOn {α : Type} [DecidableEq α] (separator : α) (cs : List α) :
    ∀ c ∈ cs, c = separator ∨ ∃ group ∈ cs.splitOn separator, c ∈ group := by
  induction cs with
  | nil => simp
  | cons head rest ih =>
    obtain ⟨group, groups, split⟩ := exists_cons_of_ne_nil (List.splitOn_ne_nil separator rest)
    rw [split] at ih
    rw [List.splitOn_cons_eq_if_modifyHead, split]
    intro c mem
    by_cases isSeparator : head = separator
    · rcases mem_cons.1 mem with rfl | inRest
      · exact .inl isSeparator
      · rcases ih c inRest with equal | ⟨piece, inGroups, inPiece⟩
        · exact .inl equal
        · exact .inr ⟨piece, by simp_all, inPiece⟩
    · rcases mem_cons.1 mem with rfl | inRest
      · exact .inr ⟨c :: group, by simp [isSeparator], mem_cons_self⟩
      · rcases ih c inRest with equal | ⟨piece, inGroups, inPiece⟩
        · exact .inl equal
        · rcases mem_cons.1 inGroups with rfl | inTail
          · exact .inr ⟨head :: piece, by simp [isSeparator], mem_cons_of_mem _ inPiece⟩
          · exact .inr ⟨piece, by simp [isSeparator, inTail], inPiece⟩

theorem map_toLower_of_canonical {cs : List Char} (canonical : isCanonicalUuid cs = true) :
    cs.map Char.toLower = cs := by
  simp only [isCanonicalUuid, and_eq_true, all_eq_true] at canonical
  have fixed : ∀ c ∈ cs, c.toLower = id c := by
    intro c mem
    rcases mem_splitOn '-' cs c mem with rfl | ⟨group, inGroups, inGroup⟩
    · decide
    · exact toLower_of_lowerHex (canonical.2 group inGroups c inGroup)
  rw [map_congr_left fixed, map_id]

/-- **The text of an identifier reads back as the identifier.** -/
@[simp] theorem ofText_text (id : Uuid) : ofText id.text = some id := by
  have lower := map_toLower_of_canonical id.canonical
  have canonical : isCanonicalUuid (String.ofList (id.text.toList.map Char.toLower)).toList = true := by
    rw [lower, String.ofList_toList]
    exact id.canonical
  rw [ofText]
  simp only [canonical, dite_true, Option.some.injEq]
  exact ext ((congrArg String.ofList lower).trans String.ofList_toList)

def sample : Nat → Uuid
  | 0 => ⟨"00000000-0000-0000-0000-000000000000", by decide⟩
  | 1 => ⟨"00000000-0000-0000-0000-000000000001", by decide⟩
  | 2 => ⟨"00000000-0000-0000-0000-000000000002", by decide⟩
  | 3 => ⟨"00000000-0000-0000-0000-000000000003", by decide⟩
  | 4 => ⟨"00000000-0000-0000-0000-000000000004", by decide⟩
  | 5 => ⟨"00000000-0000-0000-0000-000000000005", by decide⟩
  | 6 => ⟨"00000000-0000-0000-0000-000000000006", by decide⟩
  | 7 => ⟨"00000000-0000-0000-0000-000000000007", by decide⟩
  | 8 => ⟨"00000000-0000-0000-0000-000000000008", by decide⟩
  | _ => ⟨"00000000-0000-0000-0000-000000000009", by decide⟩

def numbered (n : Nat) : Uuid :=
  (ofText ("00000000-0000-0000-0001-" ++
    String.ofList (List.leftpad 12 '0' (Nat.toDigits 10 n)))).getD (sample 0)

end Uuid

export Uuid (sample)

/-! ### Amounts -/

/-- A value of a `numeric(19,4)` column, in ten-thousandths. -/
structure Numeric where
  units : Int
  fits : units.natAbs < 10 ^ 19
  deriving DecidableEq

namespace Numeric

variable {units : Int}

theorem ext {first second : Numeric} (same : first.units = second.units) : first = second := by
  cases first
  cases second
  simp_all

/-- Round to the nearest integer, ties away from zero: the server's rounding of a `numeric`. -/
def roundHalfAway (q : ℚ) : ℤ := if q < 0 then -⌊-q + 1 / 2⌋ else ⌊q + 1 / 2⌋

def ofUnits (units : Int) : Except PgError Numeric :=
  if fits : units.natAbs < 10 ^ 19 then .ok ⟨units, fits⟩ else .error (.plain .outOfRange)

/-- `text::numeric(19,4)`. -/
def ofText (text : String) : Except PgError Numeric :=
  match literal (trimBy isAsciiSpace text.toList) with
  | some q => ofUnits (roundHalfAway (q * 10 ^ 4))
  | none => .error (.plain .invalidText)

/-- The column's value as the driver hands it out: four fractional digits. -/
def text (n : Numeric) : String := String.ofList (scaledText 4 n.units)

theorem roundHalfAway_intCast (n : ℤ) : roundHalfAway n = n := by
  unfold roundHalfAway
  split_ifs
  · rw [neg_eq_iff_eq_neg, Int.floor_eq_iff]
    push_cast
    constructor <;> linarith
  · rw [Int.floor_eq_iff]
    constructor <;> linarith

instance : Neg Numeric := ⟨fun n => ⟨-n.units, by simpa using n.fits⟩⟩

@[simp] theorem neg_units (n : Numeric) : (-n).units = -n.units := rfl

theorem roundHalfAway_neg (q : ℚ) : roundHalfAway (-q) = -roundHalfAway q := by
  unfold roundHalfAway
  rcases lt_trichotomy q 0 with negative | rfl | positive
  · rw [if_neg (by linarith), if_pos negative, neg_neg]
  · norm_num
  · rw [if_pos (by linarith), if_neg (by linarith), neg_neg]

theorem ofUnits_ok {n : Numeric} (stored : ofUnits units = .ok n) : n.units = units := by
  unfold ofUnits at stored
  split at stored
  · exact (congrArg Numeric.units (Except.ok.inj stored)).symm
  · cases stored

@[simp] theorem ofUnits_units (n : Numeric) : ofUnits n.units = .ok n := by
  rw [ofUnits, dif_pos n.fits]

theorem ofUnits_fits (fits : units.natAbs < 10 ^ 19) : ofUnits units = .ok ⟨units, fits⟩ := dif_pos fits

theorem ofUnits_error (large : ¬ units.natAbs < 10 ^ 19) : ofUnits units = .error (.plain .outOfRange) :=
  dif_neg large

end Numeric

/-! ### Reading amounts -/

theorem digit_not_space {c : Char} (digit : c.isDigit = true) : isAsciiSpace c = false ∧ isJsSpace c =
    false := by
  simp only [Char.isDigit, ge_iff_le, and_eq_true, decide_eq_true_eq] at digit
  have lower : 48 ≤ c.toNat := UInt32.le_iff_toNat_le.1 digit.1
  have upper : c.toNat ≤ 57 := UInt32.le_iff_toNat_le.1 digit.2
  constructor <;> simp [isAsciiSpace, isJsSpace] <;> omega

theorem bare_not_space (bare : Bare cs) : ∀ c ∈ cs, isAsciiSpace c = false ∧ isJsSpace c = false := by
  intro c mem
  rcases bare c mem with digit | rfl
  · exact digit_not_space digit
  · decide

theorem Numeric.ofText_bare {text : String} (bare : Bare text.toList) (read : literal text.toList = some q) :
    Numeric.ofText text = Numeric.ofUnits (Numeric.roundHalfAway (q * 10 ^ 4)) := by
  rw [Numeric.ofText, trimBy_eq_self fun c mem => (bare_not_space bare c mem).1, read]

theorem Numeric.ofText_minus {text : String} (bare : Bare text.toList) (read : literal text.toList = some q) :
    Numeric.ofText ("-" ++ text) = Numeric.ofUnits (-Numeric.roundHalfAway (q * 10 ^ 4)) := by
  have shape : ("-" ++ text).toList = '-' :: text.toList := String.toList_append
  have clean : ∀ c ∈ ("-" ++ text).toList, isAsciiSpace c = false := by
    rw [shape]
    intro c mem
    rcases mem_cons.1 mem with rfl | inText
    · decide
    · exact (bare_not_space bare c inText).1
  rw [Numeric.ofText, trimBy_eq_self clean, shape, literal_minus (signed_of_bare bare) read]
  simp only [neg_mul, Numeric.roundHalfAway_neg]

theorem number_bare {text : String} (bare : Bare text.toList) (read : literal text.toList = some q)
    (nonempty : text.toList ≠ []) (finite : |Binary64.roundBinary64 q| < 2 ^ 1024) :
    number text = some (Binary64.roundBinary64 q) := by
  rw [number, trimBy_eq_self fun c mem => (bare_not_space bare c mem).2]
  split
  · exact absurd ‹_› nonempty
  · simp only [read, bind_eq_bind, bind_some]
    exact if_pos finite

theorem number_minus {text : String} (bare : Bare text.toList) (read : literal text.toList = some q)
    (finite : |Binary64.roundBinary64 q| < 2 ^ 1024) :
    number ("-" ++ text) = some (-Binary64.roundBinary64 q) := by
  have shape : ("-" ++ text).toList = '-' :: text.toList := String.toList_append
  have clean : ∀ c ∈ ("-" ++ text).toList, isJsSpace c = false := by
    rw [shape]
    intro c mem
    rcases mem_cons.1 mem with rfl | inText
    · decide
    · exact (bare_not_space bare c inText).2
  rw [number, trimBy_eq_self clean, shape]
  simp only [literal_minus (signed_of_bare bare) read, bind_eq_bind, bind_some, Binary64.roundBinary64_neg,
    abs_neg]
  exact if_pos finite

theorem bare_magnitudeText (scale n : Nat) : Bare (magnitudeText scale n) :=
  bare_split (allDigits_toDigits _) (padded_digits _ _)

theorem scaledText_not_space (scale : Nat) (n : Int) :
    ∀ c ∈ scaledText scale n, isAsciiSpace c = false ∧ isJsSpace c = false := by
  unfold scaledText
  split
  · intro c mem
    rcases mem_cons.1 mem with rfl | inMagnitude
    · decide
    · exact bare_not_space (bare_magnitudeText _ _) c inMagnitude
  · exact bare_not_space (bare_magnitudeText _ _)

theorem scaledText_ne_nil (scale : Nat) (n : Int) : scaledText scale n ≠ [] := by
  unfold scaledText magnitudeText
  split <;> simp

/-- **A stored amount, written out and cast back, is itself.** -/
@[simp] theorem Numeric.ofText_text (n : Numeric) : Numeric.ofText n.text = .ok n := by
  have unchanged := trimBy_eq_self fun c mem => (scaledText_not_space 4 n.units c mem).1
  have whole : (n.units / 10 ^ 4 : ℚ) * 10 ^ 4 = n.units := by ring
  rw [Numeric.ofText, Numeric.text, String.toList_ofList, unchanged, literal_scaledText 4 (by decide)]
  simp only [whole, Numeric.roundHalfAway_intCast, Numeric.ofUnits_units]

/-- The ten-thousandths a text of the plain shape denotes. -/
def plainUnits (w f : List Char) : Nat := value w * 10 ^ 4 + value f * 10 ^ (4 - f.length)

theorem plainUnits_lt (parts : PlainParts whole 4 cs w f) : plainUnits w f < 10 ^ (whole + 4) := by
  have wholeBound : value w < 10 ^ whole :=
    (value_lt w parts.wholeDigits).trans_le (Nat.pow_le_pow_right (by decide) parts.wholeLength)
  have fracBound : value f * 10 ^ (4 - f.length) < 10 ^ 4 := by
    have below := value_lt f parts.fracDigits
    have split : 10 ^ 4 = 10 ^ f.length * 10 ^ (4 - f.length) := by
      rw [← Nat.pow_add, Nat.add_sub_cancel' parts.fracLength]
    rw [split]
    exact Nat.mul_lt_mul_of_pos_right below (Nat.pow_pos (by decide))
  rw [plainUnits, Nat.pow_add]
  nlinarith

theorem literal_plainUnits (parts : PlainParts whole 4 cs w f) :
    literal cs = some ((plainUnits w f : ℤ) / 10 ^ 4 : ℚ) := by
  have split : (10 : ℚ) ^ 4 = 10 ^ f.length * 10 ^ (4 - f.length) := by
    rw [← pow_add, Nat.add_sub_cancel' parts.fracLength]
  rw [parts.literal, value_append, plainUnits, Option.some.injEq]
  push_cast
  rw [eq_div_iff (by norm_num), div_mul_eq_mul_div, div_eq_iff (by positivity)]
  linear_combination (value f : ℚ) * split

theorem Numeric.ofText_plain {text : String} (parts : PlainParts whole 4 text.toList w f) :
    Numeric.ofText text = Numeric.ofUnits (plainUnits w f) := by
  have units : ((plainUnits w f : ℤ) / 10 ^ 4 : ℚ) * 10 ^ 4 = (plainUnits w f : ℤ) := by ring
  rw [Numeric.ofText_bare parts.bare (literal_plainUnits parts), units, Numeric.roundHalfAway_intCast]

theorem roundBinary64_units_finite {u : ℤ} (small : u.natAbs ≤ 10 ^ 19) :
    |Binary64.roundBinary64 (u / 10 ^ 4)| < 2 ^ 1024 := by
  have bound : |(u : ℚ)| ≤ 10 ^ 19 := by
    rw [← Int.cast_abs, Int.abs_eq_natAbs]
    exact_mod_cast small
  have magnitude : |(u / 10 ^ 4 : ℚ)| ≤ 10 ^ 15 := by
    rw [abs_div, abs_of_pos (by norm_num : (0 : ℚ) < 10 ^ 4), div_le_iff₀ (by norm_num)]
    exact bound.trans (by norm_num)
  have error := Binary64.roundBinary64_error' (u / 10 ^ 4) (Binary64.units_large u)
  have slack : |(u / 10 ^ 4 : ℚ)| * 2 ^ (-53 : ℤ) ≤ 10 ^ 15 * 1 :=
    mul_le_mul magnitude (zpow_le_one_of_nonpos₀ (by norm_num) (by norm_num)) (by positivity)
      (by norm_num)
  have triangle := abs_sub_abs_le_abs_sub (Binary64.roundBinary64 (u / 10 ^ 4)) (u / 10 ^ 4 : ℚ)
  calc |Binary64.roundBinary64 (u / 10 ^ 4)| ≤ 10 ^ 15 + 10 ^ 15 * 1 := by
        have := triangle.trans (error.trans slack)
        exact (sub_le_iff_le_add'.1 this).trans (add_le_add_left magnitude _)
    _ < 2 ^ 60 := by norm_num
    _ ≤ 2 ^ 1024 := pow_le_pow_right₀ (by norm_num) (by norm_num)

theorem number_plain {text : String} (bound : whole ≤ 15) (parts : PlainParts whole 4 text.toList w f) :
    number text = some (Binary64.roundBinary64 ((plainUnits w f : ℤ) / 10 ^ 4)) := by
  have small : ((plainUnits w f : ℕ) : ℤ).natAbs ≤ 10 ^ 19 := by
    rw [Int.natAbs_natCast]
    exact (plainUnits_lt parts).le.trans (Nat.pow_le_pow_right (by decide) (by omega))
  have nonempty : text.toList ≠ [] := by
    rcases parts.text with ⟨equal, -⟩ | equal
    · rw [equal]
      exact parts.nonempty
    · rw [equal]
      simp
  exact number_bare parts.bare (literal_plainUnits parts) nonempty (roundBinary64_units_finite small)

/-- **`Number(text)` of a stored amount: one rounding.** -/
theorem number_text (n : Numeric) : number n.text = some (Binary64.roundBinary64 (n.units / 10 ^ 4)) := by
  have unchanged := trimBy_eq_self fun c mem => (scaledText_not_space 4 n.units c mem).2
  rw [number, Numeric.text, String.toList_ofList, unchanged]
  split
  · exact absurd ‹_› (scaledText_ne_nil 4 n.units)
  · simp only [literal_scaledText 4 (by decide), bind_eq_bind, bind_some]
    exact if_pos (roundBinary64_units_finite n.fits.le)

end DataPulse.Platform
