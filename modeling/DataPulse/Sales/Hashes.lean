/-
**The hash of a sale's payload.**

`canonicalJson` writes a value with its keys sorted, and the payload's hash is the SHA-256 of that text. The
text is read back unambiguously, so two values have one text exactly where they differ in the order of keys
at most.

A text of JavaScript is its UTF-16 code units. A number is the text `Number::toString` gives it, the same
for `0` and `-0`; values are what `JSON.parse` yields, so an object has each key once and no member is
`undefined`.
-/

import DataPulse.Lib.Lists
import Mathlib.Data.List.Nodup
import Mathlib.Data.List.Sort

namespace DataPulse.Sales.Hashes

abbrev Units := List UInt16

/-! ### Values -/

/-- A digit, or one of `+`, `-`, `.` and `e`. -/
def isNumeric (unit : UInt16) : Bool :=
  (48 ≤ unit && unit ≤ 57) || unit = 43 || unit = 45 || unit = 46 || unit = 101

structure NumberText where
  units : Units
  numeric : units ≠ [] ∧ ∀ unit ∈ units, isNumeric unit = true

inductive Json where
  | null
  | bool (value : Bool)
  | number (text : NumberText)
  | string (text : Units)
  | array (items : List Json)
  | object (fields : List (Units × Json))

inductive Json.KeysOnce : Json → Prop where
  | null : KeysOnce null
  | bool (value : Bool) : KeysOnce (bool value)
  | number (text : NumberText) : KeysOnce (number text)
  | string (text : Units) : KeysOnce (string text)
  | array {items : List Json} (each : ∀ item ∈ items, KeysOnce item) : KeysOnce (array items)
  | object {fields : List (Units × Json)} (once : (fields.map Prod.fst).Nodup)
      (each : ∀ field ∈ fields, KeysOnce field.2) : KeysOnce (object fields)

/-- A value of `JSON.parse`. -/
structure Value where
  json : Json
  keysOnce : json.KeysOnce

/-- Equal up to the order of object keys. -/
inductive Json.Same : Json → Json → Prop where
  | null : Same null null
  | bool (value : Bool) : Same (bool value) (bool value)
  | number (text : NumberText) : Same (number text) (number text)
  | string (text : Units) : Same (string text) (string text)
  | array {items items' : List Json} (lengths : items.length = items'.length)
      (each : ∀ (i : Nat) (item item' : Json), items[i]? = some item → items'[i]? = some item' →
      Same item item') :
      Same (array items) (array items')
  | object {fields fields' : List (Units × Json)} (keys : ∀ key, key ∈ fields.map Prod.fst ↔ key ∈
      fields'.map Prod.fst)
      (each : ∀ key item item', (key, item) ∈ fields → (key, item') ∈ fields' → Same item item') :
      Same (object fields) (object fields')

/-! ### `JSON.stringify` of a text -/

/-- The units with an escape of two characters, and its second one. -/
def shortEscapes : List (UInt16 × UInt16) :=
  [(8, 98), (9, 116), (10, 110), (12, 102), (13, 114), (34, 34), (92, 92)]

def hexDigit (n : Nat) : UInt16 := UInt16.ofNat (if n < 10 then 48 + n else 87 + n)

/-- `\uXXXX`. -/
def unicodeEscape (unit : UInt16) : Units :=
  [92, 117, hexDigit (unit.toNat / 4096), hexDigit (unit.toNat / 256 % 16), hexDigit (unit.toNat / 16 % 16),
    hexDigit (unit.toNat % 16)]

def isLead (unit : UInt16) : Bool := 0xD800 ≤ unit && unit ≤ 0xDBFF

def isTrail (unit : UInt16) : Bool := 0xDC00 ≤ unit && unit ≤ 0xDFFF

def quoteUnit (lone : Bool) (unit : UInt16) : Units :=
  match shortEscapes.lookup unit with
  | some letter => [92, letter]
  | none => if unit < 0x20 || lone then unicodeEscape unit else [unit]

/-- The units of a text behind a lead surrogate or not: one without its other half is escaped. -/
def quoteUnits (afterLead : Bool) : Units → Units
  | [] => []
  | unit :: rest =>
    quoteUnit ((isLead unit && !rest.head?.any isTrail) || (isTrail unit && !afterLead)) unit ++
      quoteUnits (isLead unit) rest

/-- `JSON.stringify(text)`. -/
def quote (text : Units) : Units := 34 :: quoteUnits false text ++ [34]

/-! ### The canonical text -/

/-- `texts.join(",")`. -/
def join (texts : List Units) : Units := (texts.flatMap fun text => 44 :: text).tail

/-- The comparison of `Array.prototype.sort`. -/
def sortsBefore (first second : Units) : Bool :=
  decide (@LE.le (List Nat) List.instLE (first.map UInt16.toNat) (second.map UInt16.toNat))

/-- The fields in the order of their sorted keys. -/
def sortFields (fields : List (Units × Json)) : List (Units × Json) :=
  fields.insertionSort fun first second => sortsBefore first.1 second.1

theorem mem_sortFields {fields : List (Units × Json)} {field : Units × Json} :
    field ∈ sortFields fields ↔ field ∈ fields :=
  mem_insertionSort _

def canonicalJson : Json → Units
  | .null => [110, 117, 108, 108]
  | .bool true => [116, 114, 117, 101]
  | .bool false => [102, 97, 108, 115, 101]
  | .number text => text.units
  | .string text => quote text
  | .array items => 91 :: join (items.map canonicalJson) ++ [93]
  | .object fields =>
    123 :: join ((sortFields fields).attach.map fun field => quote field.1.1 ++ 58 :: canonicalJson field.1.2)
      ++ [125]
termination_by json => sizeOf json
decreasing_by
  · have small := List.sizeOf_lt_of_mem ‹_›
    simp only [Json.array.sizeOf_spec]
    omega
  · have small := List.sizeOf_lt_of_mem (mem_sortFields.1 field.2)
    obtain ⟨⟨key, item⟩, member⟩ := field
    simp only [Json.object.sizeOf_spec, Prod.mk.sizeOf_spec] at small ⊢
    omega

/-- `sha256CanonicalHex(value)`. -/
def sha256CanonicalHex (sha256 : Units → String) (value : Value) : String := sha256 (canonicalJson value.json)

theorem canonicalJson_array (items : List Json) :
    canonicalJson (.array items) = 91 :: join (items.map canonicalJson) ++ [93] := by
  rw [canonicalJson]

def fieldText (field : Units × Json) : Units := quote field.1 ++ 58 :: canonicalJson field.2

theorem canonicalJson_object (fields : List (Units × Json)) :
    canonicalJson (.object fields) = 123 :: join ((sortFields fields).map fieldText) ++ [125] := by
  rw [canonicalJson]
  have texts : ((sortFields fields).attach.map fun field => fieldText field.1) =
      (sortFields fields).map fieldText :=
    List.attach_map_val
  exact congrArg (fun texts => 123 :: join texts ++ [125]) texts

/-! ### Reading a text back -/

/-- Nothing of a number may follow. -/
def Stops (rest : Units) : Prop := ∀ unit ∈ rest.head?, isNumeric unit = false

theorem hexDigit_inj : ∀ n < 16, ∀ m < 16, hexDigit n = hexDigit m → n = m := by
  decide

theorem unicodeEscape_inj {first second : UInt16} (same : unicodeEscape first = unicodeEscape second) :
    first = second := by
  have small := first.toNat_lt
  have small' := second.toNat_lt
  simp only [unicodeEscape, List.cons.injEq, and_true, true_and] at same
  obtain ⟨one, two, three, four⟩ := same
  have one := hexDigit_inj _ (by omega) _ (by omega) one
  have two := hexDigit_inj _ (by omega) _ (by omega) two
  have three := hexDigit_inj _ (by omega) _ (by omega) three
  have four := hexDigit_inj _ (by omega) _ (by omega) four
  exact UInt16.toNat_inj.1 (by omega)

variable {unit : UInt16} {rest : Units} {json : Json}

theorem shortEscapes_some {letter : UInt16} (found : shortEscapes.lookup unit = some letter) :
    (unit, letter) ∈ shortEscapes := by
  obtain ⟨before, after, split, -⟩ := List.lookup_eq_some_iff.1 found
  rw [split]
  exact mem_append_right _ mem_cons_self

theorem shortEscapes_letters : ∀ one ∈ shortEscapes, one.2 ≠ 117 ∧ ∀ two ∈ shortEscapes, one.2 = two.2 → one =
    two := by
  simp [shortEscapes]

theorem shortEscapes_none (none : shortEscapes.lookup unit = none) : unit ≠ 34 ∧ unit ≠ 92 := by
  constructor <;> rintro rfl <;> cases none

/-- The three forms of a quoted unit. -/
theorem quoteUnit_cases (lone : Bool) (unit : UInt16) :
    (∃ letter, (unit, letter) ∈ shortEscapes ∧ quoteUnit lone unit = [92, letter]) ∨
      quoteUnit lone unit = unicodeEscape unit ∨ (unit ≠ 34 ∧ unit ≠ 92) ∧ quoteUnit lone unit = [unit] := by
  unfold quoteUnit
  cases found : shortEscapes.lookup unit with
  | some letter => exact .inl ⟨letter, shortEscapes_some found, rfl⟩
  | none =>
    dsimp only
    split_ifs
    · exact .inr (.inl rfl)
    · exact .inr (.inr ⟨shortEscapes_none found, rfl⟩)

variable {rest' : Units} {json' : Json}

/-- **What begins with a quoted unit begins with that unit.** -/
theorem quoteUnit_cancel {lone lone' : Bool} {unit' : UInt16}
    (same : quoteUnit lone unit ++ rest = quoteUnit lone' unit' ++ rest') : unit = unit' ∧ rest = rest' := by
  rcases quoteUnit_cases lone unit with ⟨letter, mem, form⟩ | form | ⟨plain, form⟩ <;>
    rcases quoteUnit_cases lone' unit' with ⟨letter', member', form'⟩ | form' | ⟨plain', form'⟩ <;>
    rw [form, form'] at same
  · obtain ⟨letters, rests⟩ := List.cons.inj (List.cons.inj same).2
    exact ⟨congrArg Prod.fst ((shortEscapes_letters _ mem).2 _ member' letters), rests⟩
  · exact absurd (List.cons.inj (List.cons.inj same).2).1 (shortEscapes_letters _ mem).1
  · exact absurd (List.cons.inj same).1.symm plain'.2
  · exact absurd (List.cons.inj (List.cons.inj same).2).1.symm (shortEscapes_letters _ member').1
  · obtain ⟨escapes, rests⟩ := List.append_inj same rfl
    exact ⟨unicodeEscape_inj escapes, rests⟩
  · exact absurd (List.cons.inj same).1.symm plain'.2
  · exact absurd (List.cons.inj same).1 plain.2
  · exact absurd (List.cons.inj same).1 plain.2
  · exact List.cons.inj same

/-- A quoted unit is no quotation mark. -/
theorem quoteUnit_head {lone : Bool} {after : Units} (same : quoteUnit lone unit ++ rest = 34 :: after) :
    False := by
  rcases quoteUnit_cases lone unit with ⟨letter, -, form⟩ | form | ⟨plain, form⟩ <;> rw [form] at same
  · exact absurd (List.cons.inj same).1 (by decide)
  · exact absurd (List.cons.inj same).1 (by decide)
  · exact plain.1 (List.cons.inj same).1

theorem quoteUnits_cancel {after after' : Bool} {text text' : Units}
    (same : quoteUnits after text ++ 34 :: rest = quoteUnits after' text' ++ 34 :: rest') :
    text = text' ∧ rest = rest' := by
  induction text generalizing after after' text' with
  | nil =>
    cases text' with
    | nil => exact ⟨rfl, (List.cons.inj same).2⟩
    | cons unit' text' =>
      rw [quoteUnits, quoteUnits, append_assoc] at same
      exact (quoteUnit_head same.symm).elim
  | cons unit text ih =>
    cases text' with
    | nil =>
      rw [quoteUnits, quoteUnits, append_assoc] at same
      exact (quoteUnit_head same).elim
    | cons unit' text' =>
      rw [quoteUnits, quoteUnits, append_assoc, append_assoc] at same
      obtain ⟨rfl, onward⟩ := quoteUnit_cancel same
      obtain ⟨rfl, rests⟩ := ih onward
      exact ⟨rfl, rests⟩

/-- **What begins with a quoted text begins with that text.** -/
theorem quote_cancel {text text' : Units} (same : quote text ++ rest = quote text' ++ rest') :
    text = text' ∧ rest = rest' := by
  simp only [quote, cons_append, append_assoc] at same
  exact quoteUnits_cancel (List.cons.inj same).2

theorem number_cancel {text text' : NumberText} (stops : Stops rest) (stops' : Stops rest')
    (same : text.units ++ rest = text'.units ++ rest') : text = text' ∧ rest = rest' := by
  have whole {text : NumberText} {rest : Units} (stops : Stops rest) :
      (text.units ++ rest).takeWhile isNumeric = text.units := by
    rw [List.takeWhile_append_of_pos text.numeric.2]
    cases rest with
    | nil => simp
    | cons unit rest => rw [List.takeWhile_cons_of_neg (by simp [stops unit rfl]), append_nil]
  have equal : text.units = text'.units := by
    rw [← whole stops, same, whole stops']
  rw [equal] at same
  cases text
  cases text'
  cases equal
  exact ⟨rfl, List.append_cancel_left same⟩

/-- What a value is, and which kind of value begins with a unit. -/
def Json.kind : Json → Nat
  | null => 0
  | bool _ => 1
  | number _ => 2
  | string _ => 3
  | array _ => 4
  | object _ => 5

def kindOf (unit : UInt16) : Nat :=
  if isNumeric unit then 2 else ([(110, 0), (116, 1), (102, 1), (34, 3), (91, 4), (123, 5)].lookup unit).getD 6

theorem canonicalJson_head (json : Json) : ∃ unit rest, canonicalJson json = unit :: rest ∧ kindOf unit =
    json.kind := by
  cases json with
  | null => exact ⟨_, _, by rw [canonicalJson], by decide⟩
  | bool value => cases value <;> exact ⟨_, _, by rw [canonicalJson], by decide⟩
  | number text =>
    obtain ⟨unit, rest, units⟩ := exists_cons_of_ne_nil text.numeric.1
    have numeric := text.numeric.2 unit (units ▸ mem_cons_self)
    exact ⟨unit, rest, by rw [canonicalJson, units], by rw [kindOf, if_pos numeric, Json.kind]⟩
  | string text => exact ⟨_, _, by rw [canonicalJson, quote, cons_append], (by decide : kindOf 34 = 3)⟩
  | array items => exact ⟨_, _, by rw [canonicalJson_array, cons_append], (by decide : kindOf 91 = 4)⟩
  | object fields => exact ⟨_, _, by rw [canonicalJson_object, cons_append], (by decide : kindOf 123 = 5)⟩

theorem kind_of_same (same : canonicalJson json ++ rest = canonicalJson json' ++ rest') :
    json.kind = json'.kind := by
  obtain ⟨unit, after, text, kind⟩ := canonicalJson_head json
  obtain ⟨unit', after', text', kind'⟩ := canonicalJson_head json'
  rw [text, text'] at same
  rw [← kind, ← kind', (List.cons.inj same).1]

theorem not_closed (other : kindOf unit = 6) (same : canonicalJson json ++ rest = unit :: rest') : False := by
  obtain ⟨first, after, text, kind⟩ := canonicalJson_head json
  rw [text] at same
  rw [(List.cons.inj same).1, other] at kind
  cases json <;> cases kind

section Lists

variable {α : Type} {emit : α → Units} {R : α → α → Prop} {close : UInt16} {xs ys : List α} {rest rest' : Units}

/-- What stands behind an item: a comma, or the bracket that closes the list. -/
theorem stops_tail (plain : isNumeric close = false) : Stops (((xs.map emit).flatMap (44 :: ·)) ++
    close :: rest) := by
  cases xs with
  | nil => exact fun unit head => Option.some.inj head ▸ plain
  | cons x xs => exact fun unit head => Option.some.inj head ▸ (by decide : isNumeric 44 = false)

theorem tail_cancel (plain : isNumeric close = false) (apart : close ≠ 44)
    (one : ∀ x ∈ xs, ∀ y ∈ ys, ∀ {rest rest' : Units}, Stops rest → Stops rest' →
        emit x ++ rest = emit y ++ rest' → R x y ∧ rest = rest')
    (same : (xs.map emit).flatMap (44 :: ·) ++ close :: rest =
      (ys.map emit).flatMap (44 :: ·) ++ close :: rest') : List.Forall₂ R xs ys ∧ rest = rest' := by
  induction xs generalizing ys with
  | nil =>
    cases ys with
    | nil => exact ⟨.nil, (List.cons.inj same).2⟩
    | cons y ys => exact absurd (List.cons.inj same).1 apart
  | cons x xs ih =>
    cases ys with
    | nil => exact absurd (List.cons.inj same).1.symm apart
    | cons y ys =>
      simp only [map_cons, flatMap_cons, append_assoc, cons_append] at same
      obtain ⟨here, onward⟩ := one x mem_cons_self y mem_cons_self (stops_tail plain) (stops_tail plain)
        (List.cons.inj same).2
      obtain ⟨later, rests⟩ := ih (fun x mem y member' => one x (mem_cons_of_mem _ mem) y
        (mem_cons_of_mem _ member')) onward
      exact ⟨.cons here later, rests⟩

/-- **What begins with joined texts begins with those texts.** -/
theorem join_cancel (plain : isNumeric close = false) (apart : close ≠ 44)
    (one : ∀ x ∈ xs, ∀ y ∈ ys, ∀ {rest rest' : Units}, Stops rest → Stops rest' →
        emit x ++ rest = emit y ++ rest' → R x y ∧ rest = rest')
    (opens : ∀ {x : α} {rest rest' : Units}, emit x ++ rest = close :: rest' → False)
    (same : join (xs.map emit) ++ close :: rest = join (ys.map emit) ++ close :: rest') :
    List.Forall₂ R xs ys ∧ rest = rest' := by
  unfold join at same
  cases xs with
  | nil =>
    cases ys with
    | nil => exact ⟨.nil, (List.cons.inj same).2⟩
    | cons y ys => exact (opens ((append_assoc ..).symm.trans same.symm)).elim
  | cons x xs =>
    cases ys with
    | nil => exact (opens ((append_assoc ..).symm.trans same)).elim
    | cons y ys => exact tail_cancel plain apart one (congrArg (44 :: ·) same)

theorem exists_of_forall₂ (all : List.Forall₂ R xs ys) : (∀ x ∈ xs, ∃ y ∈ ys, R x y) ∧ ∀ y ∈ ys, ∃ x ∈ xs,
    R x y := by
  induction all with
  | nil => exact ⟨by simp, by simp⟩
  | cons here _ ih =>
    simp only [mem_cons, exists_eq_or_imp, forall_eq_or_imp]
    exact ⟨⟨.inl here, fun x mem => .inr (ih.1 x mem)⟩, .inl here, fun y mem => .inr (ih.2 y mem)⟩

end Lists

/-- **What begins with the text of a value begins with one of the same value.** -/
theorem canonicalJson_cancel (once : json.KeysOnce) (once' : json'.KeysOnce) (stops : Stops rest)
    (stops' : Stops rest') (same : canonicalJson json ++ rest = canonicalJson json' ++ rest') :
    json.Same json' ∧ rest = rest' := by
  induction once generalizing json' rest rest' with
  | null =>
    cases json' <;> cases kind_of_same same
    exact ⟨.null, List.append_cancel_left same⟩
  | bool value =>
    cases json' <;> cases kind_of_same same
    rename_i value'
    cases value <;> cases value' <;> simp only [canonicalJson] at same <;> cases same
    · exact ⟨.bool false, rfl⟩
    · exact ⟨.bool true, rfl⟩
  | number text =>
    cases json' <;> cases kind_of_same same
    simp only [canonicalJson] at same
    obtain ⟨rfl, rests⟩ := number_cancel stops stops' same
    exact ⟨.number text, rests⟩
  | string text =>
    cases json' <;> cases kind_of_same same
    simp only [canonicalJson] at same
    obtain ⟨rfl, rests⟩ := quote_cancel same
    exact ⟨.string text, rests⟩
  | @array items each ih =>
    cases once' <;> cases kind_of_same same
    rename_i items' each'
    simp only [canonicalJson_array, cons_append, append_assoc] at same
    obtain ⟨all, rests⟩ := join_cancel (R := Json.Same) (by decide) (by decide) (fun item mem item' member' =>
      ih item mem (each' item' member')) (not_closed (by decide))
      (List.cons.inj same).2
    refine ⟨.array all.length_eq fun i item item' found found' => ?_, rests⟩
    obtain ⟨inside, rfl⟩ := getElem?_eq_some_iff.1 found
    obtain ⟨inside', rfl⟩ := getElem?_eq_some_iff.1 found'
    exact all.get inside inside'
  | @object fields once each ih =>
    cases once' <;> cases kind_of_same same
    rename_i fields' once' each'
    simp only [canonicalJson_object, cons_append, append_assoc] at same
    obtain ⟨all, rests⟩ := join_cancel (R := fun field field' => field.1 = field'.1 ∧ field.2.Same field'.2)
      (by decide) (by decide) (fun field mem field' member' rest rest' stops stops' same => by
        simp only [fieldText, append_assoc, cons_append] at same
        obtain ⟨keys, after⟩ := quote_cancel same
        obtain ⟨items, rests⟩ :=
          ih field (mem_sortFields.1 mem) (each' field' (mem_sortFields.1 member')) stops stops'
            (List.cons.inj after).2
        exact ⟨⟨keys, items⟩, rests⟩)
      (fun same => by cases (List.cons.inj same).1) (List.cons.inj same).2
    obtain ⟨there, back⟩ := exists_of_forall₂ all
    simp only [mem_sortFields] at there back
    refine ⟨.object (fun key => ?_) fun key item item' inside inside' => ?_, rests⟩
    · simp only [mem_map]
      constructor
      · rintro ⟨field, mem, rfl⟩
        obtain ⟨field', member', keys, -⟩ := there field mem
        exact ⟨field', member', keys.symm⟩
      · rintro ⟨field', member', rfl⟩
        obtain ⟨field, mem, keys, -⟩ := back field' member'
        exact ⟨field, mem, keys⟩
    · obtain ⟨field', member', keys, items⟩ := there _ inside
      have one := inj_on_of_nodup_map once' member' inside' keys.symm
      rwa [one] at items

/-! ### Sorting -/

theorem sortsBefore_antisymm {first second : Units} (one : sortsBefore first second = true)
    (two : sortsBefore second first = true) : first = second := by
  simp only [sortsBefore, decide_eq_true_eq] at one two
  exact List.map_injective_iff.2 (fun _ _ => UInt16.toNat_inj.1) (List.le_antisymm one two)

theorem sorted_sortFields (fields : List (Units × Json)) :
    (sortFields fields).Pairwise fun first second => sortsBefore first.1 second.1 = true := by
  have : Std.Total fun first second : Units × Json => sortsBefore first.1 second.1 = true :=
    ⟨fun first second => by simpa [sortsBefore] using List.le_total (first.1.map UInt16.toNat) _⟩
  have : IsTrans (Units × Json) fun first second => sortsBefore first.1 second.1 = true :=
    ⟨fun _ _ _ one two => by
      simp only [sortsBefore, decide_eq_true_eq] at one two ⊢
      exact List.le_trans one two⟩
  exact pairwise_insertionSort _ fields

/-- **Values that differ in the order of keys at most have one text.** -/
theorem canonicalJson_same (same : json.Same json') (once : json.KeysOnce) (once' : json'.KeysOnce) :
    canonicalJson json = canonicalJson json' := by
  induction same with
  | null | bool | number | string => rfl
  | @array items items' lengths each ih =>
    cases once with | array once =>
    cases once' with | array once' =>
    have texts : items.map canonicalJson = items'.map canonicalJson := by
      refine List.ext_getElem (by simpa using lengths) fun i inside inside' => ?_
      rw [List.getElem_map, List.getElem_map]
      exact ih i _ _ (List.getElem?_eq_getElem _) (List.getElem?_eq_getElem _) (once _ (List.getElem_mem _))
        (once' _ (List.getElem_mem _))
    rw [canonicalJson_array, canonicalJson_array, texts]
  | @object fields fields' keys each ih =>
    cases once with | object once below =>
    cases once' with | object once' below' =>
    let written : Units × Json → Units × Units := fun field => (field.1, canonicalJson field.2)
    have nodup {fields : List (Units × Json)}
        (once : (fields.map Prod.fst).Nodup) : (fields.map written).Nodup :=
      List.Nodup.of_map Prod.fst (by rwa [map_map])
    have sorted (fields : List (Units × Json)) : ((sortFields fields).map written).Pairwise fun first second =>
        sortsBefore first.1 second.1 = true := pairwise_map.2 (sorted_sortFields fields)
    have perm : (fields.map written).Perm (fields'.map written) := by
      refine (List.perm_ext_iff_of_nodup (nodup once) (nodup once')).2 fun pair => ?_
      simp only [mem_map, Prod.exists]
      constructor
      · rintro ⟨key, item, mem, rfl⟩
        obtain ⟨field', member', rfl⟩ := mem_map.1 ((keys key).1 (mem_map_of_mem mem))
        exact ⟨_, _, member', congrArg (Prod.mk _) (ih _ _ _ mem member' (below _ mem) (below' _ member')).symm⟩
      · rintro ⟨key, item', member', rfl⟩
        obtain ⟨field, mem, rfl⟩ := mem_map.1 ((keys key).2 (mem_map_of_mem member'))
        exact ⟨_, _, mem, congrArg (Prod.mk _) (ih _ _ _ mem member' (below _ mem) (below' _ member'))⟩
    have equal : (sortFields fields).map written = (sortFields fields').map written := by
      have sorts (fields : List (Units × Json)) : ((sortFields fields).map written).Perm (fields.map written) :=
        (perm_insertionSort _ fields).map written
      have whole := (sorts fields).trans (perm.trans (sorts fields').symm)
      refine List.Perm.eq_of_pairwise (fun first second mem member' one two => ?_) (sorted fields)
        (sorted fields') whole
      have once'' : (((sortFields fields').map written).map Prod.fst).Nodup := by
        rw [map_map]
        exact ((perm_insertionSort _ fields').map Prod.fst).nodup_iff.2 once'
      exact inj_on_of_nodup_map once'' (whole.subset mem) member' (sortsBefore_antisymm one two)
    have texts (fields : List (Units × Json)) : (sortFields fields).map fieldText =
        ((sortFields fields).map written).map fun pair => quote pair.1 ++ 58 :: pair.2 := by
      rw [map_map]
      rfl
    rw [canonicalJson_object, canonicalJson_object, texts, texts, equal]

/-- **Two values have one text exactly where they are the same up to the order of keys**; so they have one
hash exactly where they are, or where SHA-256 collides on two texts. -/
theorem canonicalJson_eq_iff (sha256 : Units → String) (value value' : Value) :
    (canonicalJson value.json = canonicalJson value'.json ↔ value.json.Same value'.json) ∧
      (sha256CanonicalHex sha256 value = sha256CanonicalHex sha256 value' ↔
        value.json.Same value'.json ∨
        canonicalJson value.json ≠ canonicalJson value'.json ∧
        sha256 (canonicalJson value.json) = sha256 (canonicalJson value'.json)) := by
  have texts : canonicalJson value.json = canonicalJson value'.json ↔ value.json.Same value'.json := by
    refine ⟨fun same => ?_, fun same => canonicalJson_same same value.keysOnce value'.keysOnce⟩
    have none : Stops [] := fun unit head => nomatch head
    exact (canonicalJson_cancel value.keysOnce value'.keysOnce none none (by rw [same])).1
  refine ⟨texts, fun hash => ?_, fun same => ?_⟩
  · by_cases equal : canonicalJson value.json = canonicalJson value'.json
    · exact .inl (texts.1 equal)
    · exact .inr ⟨equal, hash⟩
  · rcases same with same | ⟨-, collide⟩
    · exact congrArg sha256 (texts.2 same)
    · exact collide

end DataPulse.Sales.Hashes
