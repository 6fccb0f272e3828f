/-
**Pages of a filtered list.**

A reader walks a strictly ordered list in pages. A page looks at a window of one row more than the limit,
hands out the rows of the window that are kept, up to the limit, and goes on behind the last row it handed
out, if it handed out any and the window has a row behind it.

* **`Walk.emits_iff`**: a walk hands out exactly the kept rows if and only if none of its pages is cut;
  `Walk.sublist`: it never hands out anything else, or anything twice.
-/

import DataPulse.Lib.Lists
import Mathlib.Data.List.Basic
import Mathlib.Data.List.Pairwise

namespace DataPulse.Lib.Paging

open scoped List

section Paging

variable {α : Type} (before : α → α → Bool) (limit : Nat) (keep : α → Bool)
variable {last : α}
variable {start : List α}

def window (rows : List α) : List α := rows.take (limit + 1)

def emitted (rows : List α) : List α := ((window limit rows).filter keep).take limit

/-- The page goes on behind its last row. -/
def continues (rows : List α) : Bool :=
  match (emitted limit keep rows).getLast? with
  | some last => (window limit rows).any (before last)
  | none => false

/-- The rows behind the last one handed out. -/
def remaining (rows : List α) : List α :=
  match (emitted limit keep rows).getLast? with
  | some last => rows.filter (before last)
  | none => []

inductive Walk : List α → List (List α) → Prop where
  | last {rows : List α} (ends : continues before limit keep rows = false) :
      Walk rows [emitted limit keep rows]
  | next {rows : List α} {pages : List (List α)} (goes : continues before limit keep rows = true)
      (onward : Walk (remaining before limit keep rows) pages) :
      Walk rows (emitted limit keep rows :: pages)

/-- The pages of a walk start here. -/
inductive Start (rows : List α) : List α → Prop where
  | first : Start rows rows
  | next {start : List α} (before' : Start rows start)
      (goes : continues before limit keep start = true) :
      Start rows (remaining before limit keep start)

/-- The page hides a kept row: its window is full, none of it is kept, or its end is and something of it
is not, and a kept row follows. -/
def Cut (rows : List α) : Prop :=
  limit < rows.length ∧
    ((∀ row ∈ window limit rows, keep row = false) ∨
      (∃ row ∈ (window limit rows).getLast?, keep row = true) ∧
        ∃ row ∈ window limit rows, keep row = false) ∧
    ∃ row ∈ rows.drop (limit + 1), keep row = true

variable {before limit keep} {rows : List α}

/-! ### One page -/

theorem take_filter_split {count : Nat} (ends : ((rows.filter keep).take count).getLast? = some last) :
    ∃ front back, rows = front ++ last :: back ∧
      (rows.filter keep).take count = (front ++ [last]).filter keep ∧ keep last = true := by
  induction rows generalizing count with
  | nil => simp at ends
  | cons row rest ih =>
    by_cases kept : keep row = true
    · cases count with
      | zero => simp at ends
      | succ count =>
        rw [filter_cons_of_pos kept, take_succ_cons] at ends ⊢
        cases onward : ((rest.filter keep).take count).getLast? with
        | none =>
          -- The row is the last one.
          have nothing := List.getLast?_eq_none_iff.1 onward
          rw [nothing] at ends ⊢
          obtain rfl : row = last := by simpa using ends
          exact ⟨[], rest, rfl, by simp [kept], kept⟩
        | some other =>
          have equal : other = last := by
            rw [List.getLast?_cons, onward] at ends
            simpa using ends
          obtain ⟨front, back, split, same, keeps⟩ := ih (equal ▸ onward)
          exact ⟨row :: front, back, by rw [split]; rfl, by simp [kept, same], keeps⟩
    · rw [List.filter_cons_of_neg kept] at ends ⊢
      obtain ⟨front, back, split, same, keeps⟩ := ih ends
      exact ⟨row :: front, back, by rw [split]; rfl, by simp [kept, same], keeps⟩

variable (sorted : rows.Pairwise fun first second => before first second = true)
include sorted

variable (strict : ∀ first second, before first second = true → before second first = false)
include strict

theorem filter_before
    {front back : List α} (split : rows = front ++ last :: back) :
    rows.filter (before last) = back ∧ ∀ row ∈ front ++ [last], before last row = false := by
  subst split
  obtain ⟨-, tail, across⟩ := pairwise_append.1 sorted
  have behind := (pairwise_cons.1 tail).1
  have self : before last last = false := by
    cases order : before last last with
    | false => rfl
    | true => exact absurd (strict last last order) (by simp [order])
  have upTo : ∀ row ∈ front ++ [last], before last row = false := by
    intro row mem
    rcases mem_append.1 mem with inFront | atLast
    · exact strict _ _ (across row inFront last mem_cons_self)
    · rw [mem_singleton.1 atLast]
      exact self
  refine ⟨?_, upTo⟩
  have none : (front ++ [last]).filter (before last) = [] := by
    rw [filter_eq_nil_iff]
    intro row mem
    simp [upTo row mem]
  calc (front ++ last :: back).filter (before last)
      = (front ++ [last]).filter (before last) ++ back.filter (before last) := by
        rw [← filter_append, append_assoc, singleton_append]
    _ = back := by
        rw [none, nil_append, filter_eq_self]
        exact behind

/-- **What a page hands out is what is kept up to its last row.** -/
theorem page_split
    (ends : (emitted limit keep rows).getLast? = some last) :
    ∃ front back, window limit rows = front ++ last :: back ∧
      remaining before limit keep rows = back ++ rows.drop (limit + 1) ∧
      emitted limit keep rows = (front ++ [last]).filter keep ∧ keep last = true ∧
      (continues before limit keep rows = true ↔ back ≠ []) := by
  obtain ⟨front, back, split, same, kept⟩ := take_filter_split ends
  have whole : rows = front ++ last :: (back ++ rows.drop (limit + 1)) := by
    conv_lhs => rw [← take_append_drop (limit + 1) rows]
    change window limit rows ++ _ = _
    rw [split, append_assoc, cons_append]
  obtain ⟨behind, upTo⟩ := filter_before sorted strict whole
  refine ⟨front, back, split, ?_, same, kept, ?_⟩
  · rw [remaining, ends]
    exact behind
  · rw [continues, ends]
    dsimp only
    rw [split, List.any_eq_true]
    constructor
    · rintro ⟨row, mem, later⟩ rfl
      rw [upTo row mem] at later
      cases later
    · intro more
      obtain ⟨row, mem⟩ := exists_mem_of_ne_nil back more
      refine ⟨row, mem_append_right _ (mem_cons_of_mem _ mem), ?_⟩
      have inBack : row ∈ rows.filter (before last) := by
        rw [behind]
        exact mem_append_left _ mem
      exact (mem_filter.1 inBack).2

theorem page_filter
    (ends : (emitted limit keep rows).getLast? = some last) :
    rows.filter keep = emitted limit keep rows ++ (remaining before limit keep rows).filter keep := by
  obtain ⟨front, back, split, remains, hands, -⟩ := page_split sorted strict ends
  have whole : rows = (front ++ [last]) ++ remaining before limit keep rows := by
    rw [remains]
    conv_lhs => rw [← take_append_drop (limit + 1) rows]
    change window limit rows ++ _ = _
    rw [split]
    simp
  conv_lhs => rw [whole, filter_append]
  rw [hands]

theorem remaining_shorter
    (goes : continues before limit keep rows = true) :
    (remaining before limit keep rows).length < rows.length := by
  cases ends : (emitted limit keep rows).getLast? with
  | none => simp [continues, ends] at goes
  | some last =>
    obtain ⟨front, back, split, rest, -⟩ := page_split sorted strict ends
    have lengths := congrArg List.length (take_append_drop (limit + 1) rows)
    have windows := congrArg List.length split
    simp only [window, length_append, length_cons] at lengths windows
    rw [rest, length_append]
    omega

omit strict

omit sorted

theorem remaining_sublist : remaining before limit keep rows <+ rows := by
  rw [remaining]
  split
  · exact filter_sublist
  · exact nil_sublist rows

/-! ### Walks -/

section Strict

variable (strict : ∀ first second, before first second = true → before second first = false)

include strict

/-- **A walk ends.** -/
theorem Walk.total (rows : List α) (sorted : rows.Pairwise fun first second => before first second = true) :
    ∃ pages, Walk before limit keep rows pages := by
  cases goes : continues before limit keep rows with
  | false => exact ⟨_, .last goes⟩
  | true =>
    have shorter := remaining_shorter sorted strict goes
    obtain ⟨pages, onward⟩ := Walk.total (remaining before limit keep rows) (sorted.sublist remaining_sublist)
    exact ⟨_, .next goes onward⟩
termination_by rows.length

theorem Walk.sublist {pages : List (List α)} (walk : Walk before limit keep rows pages)
    (sorted : rows.Pairwise fun first second => before first second = true) :
    pages.flatten <+ rows.filter keep := by
  have page : ∀ rows : List α, emitted limit keep rows <+ (window limit rows).filter keep :=
    fun rows => List.take_sublist _ _
  induction walk with
  | @last rows ends =>
    rw [List.flatten_singleton]
    exact (page rows).trans ((List.take_sublist _ _).filter keep)
  | @next rows pages goes onward ih =>
    have rest := ih (sorted.sublist remaining_sublist)
    cases ends : (emitted limit keep rows).getLast? with
    | none => simp [continues, ends] at goes
    | some last =>
      rw [List.flatten_cons, page_filter sorted strict ends]
      exact List.Sublist.append (List.Sublist.refl _) rest

end Strict

/-! ### What a walk leaves out -/

theorem not_cut_of_continues (sorted : rows.Pairwise fun first second => before first second = true)
    (strict : ∀ first second, before first second = true → before second first = false)
    (goes : continues before limit keep rows = true) : ¬ Cut limit keep rows := by
  rintro ⟨full, shape, -⟩
  cases ends : (emitted limit keep rows).getLast? with
  | none => simp [continues, ends] at goes
  | some last =>
    obtain ⟨front, back, split, -, hands, kept, more⟩ := page_split sorted strict ends
    have inside : last ∈ window limit rows := by simp [split]
    rcases shape with bare | ⟨⟨row, atEnd, keptEnd⟩, other, inWindow, leftOut⟩
    · rw [bare last inside] at kept
      cases kept
    · -- The kept row at the end is the one row too many: every row of the window is kept.
      obtain ⟨init, shape⟩ : ∃ init, back = init ++ [row] := by
        have nonempty := more.1 goes
        refine ⟨back.dropLast, ?_⟩
        rw [split, List.getLast?_append, List.getLast?_cons_of_ne_nil nonempty,
          List.getLast?_eq_some_getLast nonempty] at atEnd
        have same : back.getLast nonempty = row := by simpa using atEnd
        rw [← same, List.dropLast_append_getLast]
      have count : (window limit rows).length = limit + 1 := by
        rw [window, List.length_take]
        omega
      have large : limit ≤ (emitted limit keep rows).length := by
        by_contra small
        have whole : emitted limit keep rows = (window limit rows).filter keep := by
          rw [emitted, take_of_length_le]
          have short := small
          rw [emitted, List.length_take] at short
          omega
        rw [hands, split, shape] at whole
        have lengths := congrArg List.length whole
        simp [filter_append, keptEnd, kept] at lengths
      have fewer : ((window limit rows).filter keep).length < (window limit rows).length := by
        refine List.length_filter_lt_length_iff_exists.2 ⟨other, inWindow, ?_⟩
        simp [leftOut]
      have exact : limit ≤ (((front ++ [last]).filter keep)).length := hands ▸ large
      rw [split, shape] at fewer
      rw [split, shape] at count
      simp only [filter_append, List.filter_cons, kept, keptEnd, if_true, List.filter_nil,
        length_append, length_cons, length_nil] at fewer exact count
      omega

theorem closed {back : List α} (more : continues before limit keep rows = true ↔ back ≠ [])
    (ends : continues before limit keep rows = false) : back = [] := by
  by_contra nonempty
  rw [more.2 nonempty] at ends
  cases ends

theorem cut_iff_of_ends (positive : 0 < limit)
    (sorted : rows.Pairwise fun first second => before first second = true)
    (strict : ∀ first second, before first second = true → before second first = false)
    (ends : continues before limit keep rows = false) :
    emitted limit keep rows = rows.filter keep ↔ ¬ Cut limit keep rows := by
  have parts : rows.filter keep = (window limit rows).filter keep ++ (rows.drop (limit + 1)).filter keep := by
    rw [window, ← filter_append, take_append_drop]
  -- The page hands out what is kept in its window.
  have hands : emitted limit keep rows = (window limit rows).filter keep := by
    cases tail : (emitted limit keep rows).getLast? with
    | none =>
      have nothing := List.getLast?_eq_none_iff.1 tail
      rw [nothing]
      rcases List.take_eq_nil_iff.1 nothing with zero | empty
      · omega
      · exact empty.symm
    | some last =>
      obtain ⟨front, back, split, -, hands, -, more⟩ := page_split sorted strict tail
      rw [hands, split, closed more ends]
  have short : ((window limit rows).filter keep).length ≤ limit := by
    rw [← hands, emitted, List.length_take]
    omega
  rw [hands, parts, List.self_eq_append_right, filter_eq_nil_iff]
  constructor
  · rintro none ⟨-, -, row, later, kept⟩
    exact none row later kept
  · intro whole row later kept
    have full : limit < rows.length := by
      have nonempty := length_pos_of_mem later
      rw [List.length_drop] at nonempty
      omega
    refine whole ⟨full, ?_, row, later, kept⟩
    cases tail : (emitted limit keep rows).getLast? with
    | none =>
      refine .inl fun other mem => ?_
      have nothing := List.getLast?_eq_none_iff.1 tail
      rw [hands, filter_eq_nil_iff] at nothing
      simpa using nothing other mem
    | some last =>
      obtain ⟨front, back, split, -, -, keptLast, more⟩ := page_split sorted strict tail
      refine .inr ⟨⟨last, by simp [split, closed more ends], keptLast⟩, ?_⟩
      by_contra all
      have everything : (window limit rows).filter keep = window limit rows := by
        rw [filter_eq_self]
        intro other mem
        by_contra out
        exact all ⟨other, mem, by simpa using out⟩
      rw [everything, window, List.length_take] at short
      omega

theorem Start.cases_remaining (starts : Start before limit keep rows start) :
    start = rows ∨
      continues before limit keep rows = true ∧
      Start before limit keep (remaining before limit keep rows) start := by
  induction starts with
  | first => exact .inl rfl
  | next _ goes ih =>
    rcases ih with rfl | ⟨first, later⟩
    · exact .inr ⟨goes, .first⟩
    · exact .inr ⟨first, .next later goes⟩

theorem Start.of_remaining (goes : continues before limit keep rows = true)
    (starts : Start before limit keep (remaining before limit keep rows) start) :
    Start before limit keep rows start := by
  induction starts with
  | first => exact .next .first goes
  | next _ more ih => exact .next ih more

/-- **A walk hands out exactly the kept rows if and only if none of its pages is cut.** -/
theorem Walk.emits_iff {pages : List (List α)} (walk : Walk before limit keep rows pages)
    (positive : 0 < limit) (sorted : rows.Pairwise fun first second => before first second = true)
    (strict : ∀ first second, before first second = true → before second first = false) :
    pages.flatten = rows.filter keep ↔
      ∀ start, Start before limit keep rows start → ¬ Cut limit keep start := by
  induction walk with
  | @last rows ends =>
    rw [List.flatten_singleton, cut_iff_of_ends positive sorted strict ends]
    constructor
    · intro whole start starts
      rcases starts.cases_remaining with rfl | ⟨goes, -⟩
      · exact whole
      · rw [ends] at goes
        cases goes
    · intro whole
      exact whole rows .first
  | @next rows pages goes onward ih =>
    have rest := ih (sorted.sublist remaining_sublist)
    cases tail : (emitted limit keep rows).getLast? with
    | none => simp [continues, tail] at goes
    | some last =>
      rw [List.flatten_cons, page_filter sorted strict tail, List.append_cancel_left_eq, rest]
      constructor
      · intro later start starts
        rcases starts.cases_remaining with rfl | ⟨-, inRest⟩
        · exact not_cut_of_continues sorted strict goes
        · exact later start inRest
      · intro all start starts
        exact all start (.of_remaining goes starts)

end Paging

end DataPulse.Lib.Paging
