/-
**The first row of a sorted answer.**

`ORDER BY … LIMIT 1` over rows that stand in a table in some order; the sort is stable.

* `First`: a row comes before every other one, by the order or, where the order ties, by the table;
* `head_first`: the head of the sorted rows is the first; `First.unique`: there is only one.
-/

import DataPulse.Lib.Lists
import Mathlib.Data.List.Sort

namespace DataPulse.Lib

open scoped List

section Sorting

variable {α : Type} {before : α → α → Prop} {rows : List α} {row other : α}

theorem pair_sublist_or (first : row ∈ rows) (second : other ∈ rows) (unlike : row ≠ other) :
    [row, other] <+ rows ∨ [other, row] <+ rows := by
  induction rows with
  | nil => cases first
  | cons head rest ih =>
    rcases mem_cons.1 first with rfl | inRest
    · have later := (mem_cons.1 second).resolve_left (Ne.symm unlike)
      exact .inl ((List.singleton_sublist.2 later).cons_cons row)
    · rcases mem_cons.1 second with rfl | inRest'
      · exact .inr ((List.singleton_sublist.2 inRest).cons_cons other)
      · exact (ih inRest inRest').imp (.cons head) (.cons head)

theorem not_pair_sublist (nodup : rows.Nodup) (unlike : row ≠ other) (sublist : [row, other] <+ rows) :
    ¬ [other, row] <+ rows := by
  induction rows with
  | nil => cases sublist
  | cons head rest ih =>
    obtain ⟨fresh, nodup⟩ := nodup_cons.1 nodup
    intro swapped
    cases sublist with
    | cons _ sublist =>
      cases swapped with
      | cons _ swapped => exact ih nodup sublist swapped
      | cons_cons _ swapped => exact fresh (sublist.subset (mem_cons_of_mem _ mem_cons_self))
    | cons_cons _ sublist =>
      cases swapped with
      | cons _ swapped => exact fresh (swapped.subset (mem_cons_of_mem _ mem_cons_self))
      | cons_cons _ swapped => exact unlike rfl

/-- The row comes before every other one. -/
structure First (before : α → α → Prop) (rows : List α) (row : α) : Prop where
  member : row ∈ rows
  least : ∀ other ∈ rows, other ≠ row → before row other
  tied : ∀ other ∈ rows, other ≠ row → before other row → [row, other] <+ rows

/-- **There is one first row.** -/
theorem First.unique (nodup : rows.Nodup) (first : First before rows row) (second : First before rows other) :
    row = other := by
  by_contra unlike
  have one := first.tied other second.member (Ne.symm unlike) (second.least row first.member unlike)
  have two := second.tied row first.member unlike (first.least other second.member (Ne.symm unlike))
  exact not_pair_sublist nodup unlike one two

variable [DecidableRel before] [Std.Total before] [IsTrans α before]

theorem head_least (head : (rows.insertionSort before).head? = some row) :
    row ∈ rows ∧ ∀ other ∈ rows, other ≠ row → before row other := by
  have inside : row ∈ rows := (mem_insertionSort before).1 (mem_of_mem_head? head)
  refine ⟨inside, fun other mem unlike => ?_⟩
  have sorted := pairwise_insertionSort before rows
  have there := (mem_insertionSort before).2 mem
  cases ordered : rows.insertionSort before with
  | nil =>
    rw [ordered] at there
    cases there
  | cons first rest =>
    rw [ordered] at head sorted there
    obtain rfl := Option.some.inj head
    exact (pairwise_cons.1 sorted).1 other ((mem_cons.1 there).resolve_left unlike)

/-- **The head of the sorted rows is the first.** -/
theorem head_first (nodup : rows.Nodup) (head : (rows.insertionSort before).head? = some row) :
    First before rows row := by
  obtain ⟨mem, least⟩ := head_least head
  refine ⟨mem, least, fun other inside unlike ties => ?_⟩
  refine (pair_sublist_or mem inside (Ne.symm unlike)).resolve_right fun swapped => ?_
  have stable := List.pair_sublist_insertionSort ties swapped
  have nodup' : (rows.insertionSort before).Nodup := (perm_insertionSort before rows).nodup_iff.2 nodup
  cases ordered : rows.insertionSort before with
  | nil =>
    rw [ordered] at head
    cases head
  | cons first rest =>
    rw [ordered] at head stable nodup'
    obtain rfl := Option.some.inj head
    cases stable with
    | cons _ stable =>
      exact (nodup_cons.1 nodup').1 (stable.subset (mem_cons_of_mem _ mem_cons_self))
    | cons_cons _ stable => exact unlike rfl

end Sorting

end DataPulse.Lib
