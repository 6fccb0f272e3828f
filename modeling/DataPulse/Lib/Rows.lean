/-
**Rows of a table.**

`UPDATE … SET … WHERE …` on the list of a table's rows, and what it leaves alone; the rows with a property of
which no two can have it; writes that clash with nothing.
-/

import DataPulse.Lib.Lists
import Mathlib.Data.List.Basic

namespace DataPulse.Lib

variable {Row Column : Type}
variable {set : Row → Row}

/-- `UPDATE … SET … WHERE …`. -/
def updateWhere (passes : Row → Bool) (set : Row → Row) (rows : List Row) : List Row :=
  rows.map fun row => if passes row then set row else row

theorem mem_updateWhere {passes : Row → Bool} {rows : List Row} {row : Row} :
    row ∈ updateWhere passes set rows ↔ ∃ old ∈ rows, (if passes old then set old else old) = row := mem_map

theorem map_updateWhere {column : Row → Column} (kept : ∀ row, column (set row) = column row)
    (passes : Row → Bool) (rows : List Row) : (updateWhere passes set rows).map column = rows.map column := by
  rw [updateWhere, map_map]
  refine map_congr_left fun row mem => ?_
  rw [Function.comp_apply]
  split_ifs
  · exact kept row
  · rfl

theorem filter_length_le_one {p : Row → Bool} {list : List Row}
    (apart : list.Pairwise fun first second => ¬ (p first = true ∧ p second = true)) :
    (list.filter p).length ≤ 1 := by
  have alone := apart.filter p
  match same : list.filter p with
  | [] => exact Nat.zero_le 1
  | [_] => exact Nat.le_refl 1
  | first :: second :: rest =>
    rw [same] at alone
    have inside : ∀ element ∈ first :: second :: rest, p element = true := fun element mem =>
      (mem_filter.1 (same ▸ mem)).2
    exact absurd ⟨inside first mem_cons_self, inside second (mem_cons_of_mem _ mem_cons_self)⟩
      ((pairwise_cons.1 alone).1 second mem_cons_self)

section Refuses

variable {Write : Type} {clash : Write → Write → Bool} {view writes : List Write}

theorem refuses_none :
    ([] : List Write).Pairwise (fun first second => clash first second = false) ∧
      ∀ first ∈ view, ∀ second ∈ ([] : List Write), clash first second = false :=
  ⟨List.Pairwise.nil, fun _ _ _ none => by cases none⟩

theorem refuses_single {write : Write} (apart : ∀ first ∈ view, clash first write = false) :
    [write].Pairwise (fun first second => clash first second = false) ∧
      ∀ first ∈ view, ∀ second ∈ [write], clash first second = false := by
  refine ⟨pairwise_singleton _ _, fun first mem second new => ?_⟩
  rw [mem_singleton.1 new]
  exact apart first mem

theorem refuses_apart (apart : ∀ first, ∀ second ∈ writes, clash first second = false) :
    writes.Pairwise (fun first second => clash first second = false) ∧
      ∀ first ∈ view, ∀ second ∈ writes, clash first second = false :=
  ⟨List.pairwise_of_forall_mem_list fun first _ => apart first, fun first _ => apart first⟩

end Refuses

end DataPulse.Lib
