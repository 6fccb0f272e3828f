/-
**Pages behind a cursor.**

A reader asks for the rows whose key lies behind its cursor, in the order of the keys and up to a limit, and
goes on behind the last key it was given.

* **`offered_iff`**: the pages offer exactly the keys behind the cursor.
-/

import DataPulse.Lib.Lists
import Mathlib.Data.List.Sort

namespace DataPulse.Lib.Keyset

variable {α κ : Type} (key : α → κ) (before : κ → κ → Bool)
variable {row : α}

/-- Behind the cursor, or anywhere without one. -/
def beyond (since : Option κ) (k : κ) : Bool := since.all fun cursor => !before k cursor

/-- The rows behind a cursor, in the order of their keys. -/
def behind (rows : List α) (since : Option κ) : List α :=
  (rows.filter fun row => beyond before since (key row)).insertionSort fun first second =>
    before (key first) (key second)

def page (rows : List α) (limit : Nat) (since : Option κ) : List α := (behind key before rows since).take limit

/-- A key that the pages from a cursor on offer. -/
inductive Offered (rows : List α) (limit : Nat) : Option κ → κ → Prop where
  | here {since : Option κ} {row : α} (member : row ∈ page key before rows limit since) :
      Offered rows limit since (key row)
  | next {since : Option κ} {last : α} {k : κ}
      (ends : (page key before rows limit since).getLast? = some last)
      (onward : Offered rows limit (some (key last)) k) : Offered rows limit since k

variable {key before} {rows : List α} {limit : Nat} {since : Option κ} {k : κ}

theorem mem_behind : row ∈ behind key before rows since ↔ row ∈ rows ∧ beyond before since (key row) = true := by
  rw [behind, mem_insertionSort, mem_filter]

theorem mem_page (mem : row ∈ page key before rows limit since) : row ∈ rows ∧ beyond before since (key row) =
    true :=
  mem_behind.1 (mem_of_mem_take mem)

section Ordered

variable (total : ∀ first second : κ, before first second = true ∨ before second first = true)
  (trans : ∀ first second third : κ, before first second = true → before second third = true →
    before first third = true)
include total trans

theorem beyond_of_beyond {last : κ} (ahead : beyond before since last = true)
    (further : beyond before (some last) k = true) : beyond before since k = true := by
  cases since with
  | none => rfl
  | some cursor =>
    simp only [beyond, all_some, not_eq_true'] at ahead further ⊢
    by_contra back
    rw [not_eq_false] at back
    have ordered : before last k = true := (total last k).resolve_right (by simp [further])
    rw [trans _ _ _ ordered back] at ahead
    cases ahead

theorem sorted_behind :
    (behind key before rows since).Pairwise fun first second => before (key first) (key second) = true := by
  have : Std.Total fun first second : α => before (key first) (key second) = true :=
    ⟨fun first second => total _ _⟩
  have : IsTrans α fun first second => before (key first) (key second) = true := ⟨fun _ _ _ => trans _ _ _⟩
  exact pairwise_insertionSort _ _

/-- **A row behind the cursor is on the page, has the key of its last row, or lies behind it; and behind the
last row of a page there are fewer rows.** -/
theorem page_or_behind (positive : 1 ≤ limit) {row : α} (mem : row ∈ behind key before rows since) :
    row ∈ page key before rows limit since ∨
      ∃ last, (page key before rows limit since).getLast? = some last ∧ before (key last) (key row) = true ∧
      (rows.filter fun row => beyond before (some (key last)) (key row)).length <
      (rows.filter fun row => beyond before since (key row)).length := by
  by_cases early : row ∈ page key before rows limit since
  · exact .inl early
  · right
    have late : row ∈ (behind key before rows since).drop limit := by
      rw [← take_append_drop limit (behind key before rows since)] at mem
      exact (mem_append.1 mem).resolve_left early
    have some : page key before rows limit since ≠ [] := by
      intro none
      rw [page, List.take_eq_nil_iff] at none
      rcases none with zero | nothing
      · omega
      · rw [nothing] at mem
        cases mem
    have ends := List.getLast?_eq_some_getLast some
    have onPage := List.getLast_mem some
    generalize (page key before rows limit since).getLast some = last at ends onPage
    refine ⟨last, ends, ?_, ?_⟩
    · have sorted : (behind key before rows since).Pairwise fun first second =>
          before (key first) (key second) = true := sorted_behind total trans
      rw [← take_append_drop limit (behind key before rows since)] at sorted
      exact (pairwise_append.1 sorted).2.2 last onPage row late
    · obtain ⟨there, ahead⟩ := mem_page onPage
      have nested : (rows.filter fun row => beyond before (Option.some (key last)) (key row)) =
          (rows.filter fun row => beyond before since (key row)).filter fun row => beyond before
          (Option.some (key last)) (key row) := by
        rw [filter_filter]
        refine filter_congr fun row _ => ?_
        by_cases further : beyond before (Option.some (key last)) (key row) = true
        · rw [further, beyond_of_beyond total trans ahead further]
          rfl
        · rw [Bool.eq_false_of_not_eq_true further]
          rfl
      rw [nested]
      refine List.length_filter_lt_length_iff_exists.2 ⟨last, mem_filter.2 ⟨there, ahead⟩, ?_⟩
      have itself : before (key last) (key last) = true := (total _ _).elim id id
      simp [beyond, itself]

/-- **The pages from a cursor on offer exactly the keys behind it.** -/
theorem offered_iff
    (antisymm : ∀ first second : κ, before first second = true → before second first = true → first = second)
    (positive : 1 ≤ limit) :
    Offered key before rows limit since k ↔ ∃ row ∈ rows, key row = k ∧ beyond before since k = true := by
  constructor
  · intro offered
    induction offered with
    | here mem =>
      obtain ⟨there, ahead⟩ := mem_page mem
      exact ⟨_, there, rfl, ahead⟩
    | next ends onward ih =>
      obtain ⟨row, there, same, further⟩ := ih
      obtain ⟨-, ahead⟩ := mem_page (mem_of_getLast? ends)
      exact ⟨row, there, same, beyond_of_beyond total trans ahead further⟩
  · rintro ⟨row, there, rfl, ahead⟩
    -- on the number of rows behind the cursor
    induction left : (rows.filter fun row => beyond before since (key row)).length
      using Nat.strong_induction_on generalizing since with
    | _ count ih =>
      rcases page_or_behind total trans positive (mem_behind.2 ⟨there, ahead⟩) with
        onPage | ⟨last, ends, ordered, fewer⟩
      · exact .here onPage
      · by_cases back : before (key row) (key last) = true
        · rw [antisymm _ _ back ordered]
          exact .here (mem_of_getLast? ends)
        · have further : beyond before (some (key last)) (key row) = true := by
            simp [beyond, back]
          rw [left] at fewer
          exact .next ends (ih _ fewer further rfl)

end Ordered

end DataPulse.Lib.Keyset
