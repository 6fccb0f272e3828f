/-
**The orders of texts and of identifiers.**

* `codeUnits`: the UTF-16 code units of a text, the elements JavaScript compares texts by;
  `codeUnits_injective`: a text is known by them.
-/

import DataPulse.Platform.Values
import Mathlib.Data.List.Sort

namespace DataPulse.Platform

variable {second first : String}

/-- The code units of a character: itself, or a surrogate pair. -/
def charUnits (c : Char) : List Nat :=
  if c.toNat < 0x10000 then [c.toNat]
  else [0xD800 + (c.toNat - 0x10000) / 0x400, 0xDC00 + (c.toNat - 0x10000) % 0x400]

def codeUnits (text : String) : List Nat := text.toList.flatMap charUnits

def sortsBefore (first second : String) : Bool :=
  decide (@LE.le (List Nat) List.instLE (codeUnits first) (codeUnits second))

/-- `texts.sort()`. -/
def sortTexts (texts : List String) : List String :=
  texts.insertionSort fun first second => sortsBefore first second

theorem char_not_surrogate (c : Char) : c.toNat < 0xD800 ∨ (0xDFFF < c.toNat ∧ c.toNat < 0x110000) := by
  rcases c.valid with low | high
  · exact .inl low
  · exact .inr high

/-- **What begins with the units of a character begins with that character.** -/
theorem charUnits_cancel {c d : Char} {first second : List Nat}
    (same : charUnits c ++ first = charUnits d ++ second) : c = d ∧ first = second := by
  have inC := char_not_surrogate c
  have inD := char_not_surrogate d
  have equal : c.toNat = d.toNat → c = d := fun same => Char.toNat_inj.1 same
  unfold charUnits at same
  by_cases plainC : c.toNat < 0x10000
  · by_cases plainD : d.toNat < 0x10000
    · rw [if_pos plainC, if_pos plainD] at same
      obtain ⟨head, tail⟩ := List.cons.inj same
      exact ⟨equal head, tail⟩
    · rw [if_pos plainC, if_neg plainD] at same
      have head := (List.cons.inj same).1
      omega
  · by_cases plainD : d.toNat < 0x10000
    · rw [if_neg plainC, if_pos plainD] at same
      have head := (List.cons.inj same).1
      omega
    · rw [if_neg plainC, if_neg plainD] at same
      obtain ⟨high, rest⟩ := List.cons.inj same
      obtain ⟨low, tail⟩ := List.cons.inj rest
      exact ⟨equal (by omega), tail⟩

theorem flatMap_charUnits_injective :
    ∀ first second : List Char, first.flatMap charUnits = second.flatMap charUnits → first = second := by
  intro first
  induction first with
  | nil =>
    intro second same
    cases second with
    | nil => rfl
    | cons d rest =>
      exfalso
      rw [flatMap_nil, flatMap_cons] at same
      have none := (append_eq_nil_iff.1 same.symm).1
      unfold charUnits at none
      split at none <;> cases none
  | cons c first ih =>
    intro second same
    cases second with
    | nil =>
      exfalso
      rw [flatMap_nil, flatMap_cons] at same
      have none := (append_eq_nil_iff.1 same).1
      unfold charUnits at none
      split at none <;> cases none
    | cons d second =>
      rw [flatMap_cons, flatMap_cons] at same
      obtain ⟨rfl, rest⟩ := charUnits_cancel same
      rw [ih second rest]

/-- **A text is known by its code units.** -/
theorem codeUnits_injective (same : codeUnits first = codeUnits second) : first = second :=
  String.toList_injective (flatMap_charUnits_injective _ _ same)

theorem sortsBefore_total (first second : String) :
    sortsBefore first second = true ∨ sortsBefore second first = true := by
  simpa [sortsBefore] using List.le_total (codeUnits first) (codeUnits second)

theorem sortsBefore_trans {third : String} (one : sortsBefore first second = true)
    (two : sortsBefore second third = true) : sortsBefore first third = true := by
  simp only [sortsBefore, decide_eq_true_eq] at one two ⊢
  exact List.le_trans one two

theorem sortsBefore_antisymm (one : sortsBefore first second = true) (two : sortsBefore second first = true) :
    first = second := by
  simp only [sortsBefore, decide_eq_true_eq] at one two
  exact codeUnits_injective (List.le_antisymm one two)

theorem perm_sortTexts (texts : List String) : (sortTexts texts).Perm texts :=
  perm_insertionSort _ texts

theorem sorted_sortTexts (texts : List String) :
    (sortTexts texts).Pairwise fun first second => sortsBefore first second = true := by
  have : Std.Total fun first second : String => sortsBefore first second = true := ⟨sortsBefore_total⟩
  have : IsTrans String fun first second => sortsBefore first second = true := ⟨fun _ _ _ => sortsBefore_trans⟩
  exact pairwise_insertionSort _ texts

/-- **Two lists sort to the same list exactly if they are permutations of each other.** -/
theorem sortTexts_eq_iff {first second : List String} : sortTexts first = sortTexts second ↔
    first.Perm second := by
  constructor
  · intro same
    calc first.Perm (sortTexts first) := (perm_sortTexts first).symm
      _ = sortTexts second := same
      _ |>.Perm second := perm_sortTexts second
  · intro perm
    refine List.Perm.eq_of_pairwise ?_ (sorted_sortTexts first) (sorted_sortTexts second) ?_
    · exact fun _ _ _ _ => sortsBefore_antisymm
    · exact (perm_sortTexts first).trans (perm.trans (perm_sortTexts second).symm)

/-! ### Identifiers -/

namespace Uuid

theorem precedes_total (first second : Uuid) : first.precedes second = true ∨ second.precedes first = true := by
  simpa [precedes] using List.le_total first.text.toList second.text.toList

theorem precedes_trans {first second third : Uuid} (one : first.precedes second = true)
    (two : second.precedes third = true) : first.precedes third = true := by
  simp only [precedes, decide_eq_true_eq] at one two ⊢
  exact List.le_trans one two

theorem precedes_antisymm {first second : Uuid} (one : first.precedes second = true)
    (two : second.precedes first = true) : first = second := by
  simp only [precedes, decide_eq_true_eq] at one two
  exact ext (String.toList_injective (List.le_antisymm one two))

end Uuid

end DataPulse.Platform
