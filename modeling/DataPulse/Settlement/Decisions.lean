/-
**The pure settlement code: lifecycle, money codecs, decisions.**

The three places that compute with money carry their own copy of the codec between an exact-decimal
text and an integer of ten-thousandths. The copy of the payment decision is aware of a sign, the two
others are not; on the amounts that reach them (request amounts and column texts) all three read the
number the text denotes.
-/

import DataPulse.Platform.Values
import Mathlib.Algebra.BigOperators.Ring.Finset

namespace DataPulse.Settlement

open Lib.Decimal Platform

variable {w f cs : List Char}
variable {whole : Nat}

/-! ### The lifecycle -/

inductive ReceivableState where
  | opened          -- "open"
  | partiallyApplied
  | settled
  | claimed
  | flagged
  deriving DecidableEq

def initialReceivableState : ReceivableState := .opened

def validTransitions : ReceivableState → List ReceivableState
  | .opened => [.partiallyApplied, .settled, .claimed]
  | .partiallyApplied => [.settled, .claimed, .flagged]
  | .claimed => [.settled, .partiallyApplied, .flagged]
  | .settled => []
  | .flagged => []

def canTransition (source target : ReceivableState) : Bool := target ∈ validTransitions source

def isTerminalState (state : ReceivableState) : Bool := (validTransitions state).length = 0

theorem isTerminalState_iff (state : ReceivableState) :
    isTerminalState state = true ↔ state = .settled ∨ state = .flagged := by
  cases state <;> simp [isTerminalState, validTransitions]

/-! ### Money columns -/

/-- A value of a `numeric(19,4)` column whose CHECK keeps it non-negative, in ten-thousandths. -/
structure Money where
  units : Nat
  fits : units < 10 ^ 19

namespace Money

theorem ext {first second : Money} (same : first.units = second.units) : first = second := by
  cases first
  cases second
  simp_all

instance : DecidableEq Money := fun first second =>
  decidable_of_iff (first.units = second.units) ⟨ext, congrArg units⟩

/-- The literal `0` of the full-settlement UPDATE. -/
def zero : Money := ⟨0, by decide⟩

def minus (money : Money) (units : Nat) : Money :=
  ⟨money.units - units, (Nat.sub_le _ _).trans_lt money.fits⟩

def numeric (money : Money) : Numeric := ⟨money.units, money.fits⟩

def text (money : Money) : String := money.numeric.text

/-- `CHECK (… >= 0)`. -/
def ofNumeric (constraint : String) (n : Numeric) : Except PgError Money :=
  if 0 ≤ n.units then .ok ⟨n.units.toNat, by have := n.fits; omega⟩
  else .error ⟨.check, some constraint⟩

def ofText (constraint text : String) : Except PgError Money :=
  Numeric.ofText text >>= ofNumeric constraint

theorem text_toList (money : Money) : money.text.toList = magnitudeText 4 money.units := by
  rw [text, Numeric.text, String.toList_ofList, scaledText, if_neg (by simp [numeric])]
  rfl

theorem text_plain (money : Money) : isPlain 15 4 money.text.toList = true := by
  rw [text_toList]
  exact isPlain_magnitudeText 4 (by decide) (by decide) money.fits

theorem ofText_plain {constraint text : String} {w f : List Char} (parts : PlainParts 15 4 text.toList w f) :
    ofText constraint text = .ok ⟨plainUnits w f, plainUnits_lt parts⟩ := by
  have fits : (plainUnits w f : ℤ).natAbs < 10 ^ 19 := by
    simpa using plainUnits_lt parts
  rw [ofText, Numeric.ofText_plain parts, Numeric.ofUnits_fits fits]
  show ofNumeric constraint ⟨_, fits⟩ = _
  rw [ofNumeric, if_pos (Int.natCast_nonneg _)]
  rfl

theorem text_parts (money : Money) : ∃ w f, PlainParts 15 4 money.text.toList w f ∧ plainUnits w f =
    money.units := by
  obtain ⟨w, f, parts⟩ := plain_split money.text_plain
  refine ⟨w, f, parts, ?_⟩
  have cast : Numeric.ofText money.text = .ok money.numeric := Numeric.ofText_text money.numeric
  rw [Numeric.ofText_plain parts] at cast
  have units : ((plainUnits w f : ℕ) : ℤ) = (money.units : ℕ) := (Numeric.ofUnits_ok cast).symm
  exact_mod_cast units

@[simp] theorem ofText_text (constraint : String) (money : Money) : ofText constraint money.text =
    .ok money := by
  obtain ⟨w, f, parts, units⟩ := money.text_parts
  rw [ofText_plain parts]
  exact congrArg Except.ok (ext units)

end Money

def unitsOf (text : String) : Nat :=
  match Money.ofText "" text with
  | .ok money => money.units
  | .error _ => 0

theorem unitsOf_plain {text : String} (parts : PlainParts 15 4 text.toList w f) : unitsOf text =
    plainUnits w f := by
  rw [unitsOf, Money.ofText_plain parts]

/-! ### The codecs -/

def scale : Nat := 4

/-- `BigInt(text)` for decimal text: `none` is the SyntaxError. The empty text is `0n`. -/
def bigInt (cs : List Char) : Option Int :=
  match trimBy isJsSpace cs with
  | [] => some 0
  | trimmed =>
    let (negative, digits) := signed trimmed
    if allDigits digits && !digits.isEmpty then some (negateIf negative (value digits : ℤ))
    else none

/-- `const [whole = "0", frac = ""] = money.split(".")`. -/
def wholeAndFrac (cs : List Char) : List Char × List Char :=
  match cs.splitOn '.' with
  | whole :: frac :: _ => (whole, frac)
  | [whole] => (whole, [])
  | [] => (['0'], [])

/-- `(frac + "0".repeat(SCALE)).slice(0, SCALE)`. -/
def fracPadded (frac : List Char) : List Char := (frac ++ List.replicate scale '0').take scale

/-- `BigInt(whole) * 10n ** BigInt(SCALE) + BigInt(fracPadded || "0")`. -/
def scaledMagnitude (cs : List Char) : Option Int := do
  let (whole, frac) := wholeAndFrac cs
  let wholeUnits ← bigInt whole
  let fracUnits ← bigInt (fracPadded frac)
  some (wholeUnits * 10 ^ scale + fracUnits)

/-- `fromScaledInt(v)`: the same text in all three copies. -/
def fromScaledInt (v : Int) : String :=
  let negative := v < 0
  let abs := v.natAbs
  let unit := 10 ^ scale
  let whole := abs / unit
  let frac := padded scale (abs % unit)
  String.ofList ((if negative then ['-'] else []) ++ (Nat.toDigits 10 whole ++ '.' :: frac))

/-- `toScaledInt(money)` of the payment decision: the sign is stripped and put back. -/
def ApplyPaymentDecision.toScaledInt (money : String) : Option Int :=
  let (negative, abs) := match money.toList with
    | '-' :: rest => (true, rest)
    | cs => (false, cs)
  (scaledMagnitude abs).map (negateIf negative)

/-- `toScaledInt(money)` of the reconciliation decision. -/
def ReconcileDecision.toScaledInt (money : String) : Option Int := scaledMagnitude money.toList

/-- `toScaledInt(money)` of the claim service. -/
def ClaimService.toScaledInt (money : String) : Option Int := scaledMagnitude money.toList

def ClaimService.sumScaled (amounts : List String) : Option String := do
  let units ← amounts.mapM ClaimService.toScaledInt
  some (fromScaledInt units.sum)

theorem fromScaledInt_eq (v : Int) : fromScaledInt v = String.ofList (scaledText 4 v) := by
  unfold fromScaledInt scaledText
  by_cases negative : v < 0
  · simp [negative, magnitudeText, scale]
  · simp [negative, magnitudeText, scale]

theorem fromScaledInt_units (money : Money) : fromScaledInt money.units = money.text :=
  fromScaledInt_eq _

theorem fromScaledInt_parts (n : Nat) :
    ∃ whole w f, PlainParts whole 4 (fromScaledInt n).toList w f ∧ plainUnits w f = n := by
  have small : n % 10 ^ 4 < 10 ^ 4 := Nat.mod_lt _ (by decide)
  have text : (fromScaledInt n).toList = magnitudeText 4 n := by
    rw [fromScaledInt_eq, String.toList_ofList, scaledText, if_neg (by simp)]
    rfl
  refine ⟨_, Nat.toDigits 10 (n / 10 ^ 4), padded 4 (n % 10 ^ 4), ⟨allDigits_toDigits _,
    padded_digits _ _, Nat.toDigits_ne_nil, le_refl _, (padded_length 4 _ (by decide) small).le,
    .inr text⟩, ?_⟩
  rw [plainUnits, value_toDigits, padded_value, padded_length 4 _ (by decide) small, Nat.sub_self,
    Nat.pow_zero, Nat.mul_one, Nat.div_add_mod']

theorem bigInt_digits (digits : allDigits cs = true) (nonempty : cs ≠ []) : bigInt cs = some (value cs : ℤ) := by
  have noSpace : ∀ c ∈ cs, isJsSpace c = false := fun c mem => (bare_not_space (bare_of_digits digits) c mem).2
  obtain ⟨c, rest, shape, digit⟩ := head_of_digits digits nonempty
  subst shape
  simp only [bigInt, trimBy_eq_self noSpace, signed_of_digit rfl digit, digits]
  simp [negateIf]

theorem wholeAndFrac_plain (parts : PlainParts whole 4 cs w f) : wholeAndFrac cs = (w, f) := by
  unfold wholeAndFrac
  rcases parts.text with ⟨rfl, rfl⟩ | rfl
  · rw [splitOn_digits parts.wholeDigits]
  · rw [splitOn_split parts.wholeDigits parts.fracDigits]

theorem bigInt_fracPadded {frac : List Char} (digits : allDigits frac = true) (short : frac.length ≤ 4) :
    bigInt (fracPadded frac) = some (value frac * 10 ^ (4 - frac.length) : ℕ) := by
  have padding : fracPadded frac = frac ++ List.replicate (4 - frac.length) '0' := by
    rw [fracPadded, scale, take_append, take_of_length_le short, List.take_replicate]
    simp
  have nonempty : fracPadded frac ≠ [] := by
    intro empty
    have lengths := congrArg List.length (padding.symm.trans empty)
    simp only [length_append, length_replicate, length_nil] at lengths
    omega
  have allDigits' : allDigits (fracPadded frac) = true := by
    rw [padding, allDigits_append, digits, allDigits_zeros]
    rfl
  rw [bigInt_digits allDigits' nonempty, padding, value_append]
  simp

theorem scaledMagnitude_plain (parts : PlainParts whole 4 cs w f) : scaledMagnitude cs =
    some (plainUnits w f : ℤ) := by
  rw [scaledMagnitude, wholeAndFrac_plain parts]
  simp only [bigInt_digits parts.wholeDigits parts.nonempty,
    bigInt_fracPadded parts.fracDigits parts.fracLength, bind_eq_bind, bind_some]
  simp [plainUnits, scale]

/-- **The sign-aware copy agrees with the others on a text of the request shape.** -/
theorem toScaledInt_of_plain {text : String} (parts : PlainParts whole 4 text.toList w f) :
    ApplyPaymentDecision.toScaledInt text = some (plainUnits w f : ℤ) ∧
      ReconcileDecision.toScaledInt text = some (plainUnits w f : ℤ) ∧
      ClaimService.toScaledInt text = some (plainUnits w f : ℤ) := by
  have unsigned := scaledMagnitude_plain parts
  refine ⟨?_, unsigned, unsigned⟩
  have noSign := parts.signed
  unfold ApplyPaymentDecision.toScaledInt
  split
  · rename_i negative rest split
    split at split
    · rename_i minus
      rw [minus] at noSign
      simp [signed] at noSign
    · simp only [Prod.mk.injEq] at split
      obtain ⟨rfl, rfl⟩ := split
      rw [unsigned]
      rfl

theorem toScaledInt_of_money (money : Money) :
    ApplyPaymentDecision.toScaledInt money.text = some (money.units : ℤ) ∧
      ReconcileDecision.toScaledInt money.text = some (money.units : ℤ) ∧
      ClaimService.toScaledInt money.text = some (money.units : ℤ) := by
  obtain ⟨w, f, parts, units⟩ := money.text_parts
  rw [← units]
  exact toScaledInt_of_plain parts

theorem sumScaled_of_money (amounts : List Money) :
    ClaimService.sumScaled (amounts.map Money.text) =
      some (fromScaledInt ((amounts.map Money.units).sum : ℕ)) := by
  have read : (amounts.map Money.text).mapM ClaimService.toScaledInt =
      some (amounts.map fun money => (money.units : ℤ)) := by
    induction amounts with
    | nil => rfl
    | cons money rest ih =>
      rw [map_cons, mapM_cons, (toScaledInt_of_money money).2.2, ih]
      rfl
  have total : (amounts.map fun money => (money.units : ℤ)).sum = ((amounts.map Money.units).sum : ℕ) := by
    rw [Nat.cast_list_sum, map_map]
    rfl
  rw [ClaimService.sumScaled, read, ← total]
  rfl

/-! ### The decisions -/

structure ApplyInput where
  outstandingBalance : String
  amount : String
  currentState : ReceivableState := .opened

inductive ApplyDecision where
  | ok (newBalance : String) (newState : ReceivableState)
  | overApplication

/-- `decideApplication(input)`; `none` is the SyntaxError of `BigInt`. -/
def decideApplication (input : ApplyInput) : Option ApplyDecision := do
  let balance ← ApplyPaymentDecision.toScaledInt input.outstandingBalance
  let amount ← ApplyPaymentDecision.toScaledInt input.amount
  if amount > balance then some .overApplication
  else
    let newBalance := balance - amount
    let newState := if newBalance = 0 then .settled else .partiallyApplied
    some (.ok (fromScaledInt newBalance) newState)

inductive ReconcileOutcome where
  | settled
  | partially        -- "partial"
  | flagged

structure ReconcileDecision where
  outcome : ReconcileOutcome
  variance : String

def outcomeOf (variance : Int) : ReconcileOutcome :=
  if variance = 0 then .settled else if variance > 0 then .partially else .flagged

def decideReconciliation (claimedAmount remittedAmount : String) : Option ReconcileDecision := do
  let claimed ← ReconcileDecision.toScaledInt claimedAmount
  let remitted ← ReconcileDecision.toScaledInt remittedAmount
  let variance := claimed - remitted
  some ⟨outcomeOf variance, fromScaledInt variance⟩

theorem decideApplication_of_money {balance : Money} {amount : String} {state : ReceivableState}
    (parts : PlainParts 15 4 amount.toList w f) :
    decideApplication ⟨balance.text, amount, state⟩ =
      if plainUnits w f > balance.units then some .overApplication else
      some
      (.ok (fromScaledInt (balance.units - plainUnits w f : ℕ))
        (if balance.units - plainUnits w f = 0 then .settled else .partiallyApplied)) := by
  simp only [decideApplication, (toScaledInt_of_money balance).1, (toScaledInt_of_plain parts).1,
    bind_eq_bind, bind_some]
  by_cases exceeds : plainUnits w f > balance.units
  · rw [if_pos exceeds, if_pos (by exact_mod_cast exceeds)]
  · have difference : (balance.units : ℤ) - plainUnits w f = (balance.units - plainUnits w f : ℕ) := by
      omega
    rw [if_neg exceeds, if_neg (by exact_mod_cast exceeds), difference]
    simp only [Nat.cast_eq_zero]

theorem decideReconciliation_of_money {claimed : Nat} {remitted : String}
    (parts : PlainParts 15 4 remitted.toList w f) :
    decideReconciliation (fromScaledInt claimed) remitted =
      some ⟨outcomeOf (claimed - plainUnits w f), fromScaledInt (claimed - plainUnits w f)⟩ := by
  obtain ⟨whole, w', f', parts', units⟩ := fromScaledInt_parts claimed
  simp only [decideReconciliation, (toScaledInt_of_plain parts').2.1,
    (toScaledInt_of_plain parts).2.1, bind_eq_bind, bind_some, units]

end DataPulse.Settlement
