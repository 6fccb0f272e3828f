/-
**The run history, followed by its cursor.**

`listReconciliationRuns` pages from newer to older runs. Its cursor carries `started_at` through a
JavaScript `Date`, so it is cut to the millisecond, while the statement compares and orders by the
microsecond: behind a full page it leaves out every older run of the same millisecond.

* `history_complete_iff`: following the cursor gives the listing exactly where no page ends before such a
  run.
-/

import DataPulse.Platform.Strings
import Mathlib.Data.List.Sort

namespace DataPulse.SyncOps

open Platform

/-- A row of `erpnext_reconciliation_run`, in microseconds; the columns the statement does not compare are
left out. -/
structure ReconciliationRun where
  id : Uuid
  storeId : Uuid
  startedAt : Int
  deriving DecidableEq

/-- The runs of the tenant. -/
structure RunTable where
  runs : List ReconciliationRun
  unique : ∀ first ∈ runs, ∀ second ∈ runs, first.id = second.id → first = second

/-- What `<startedAtISO>|<runId>` says: a time of whole milliseconds, and a run. -/
structure RunCursor where
  millis : Int
  id : Uuid
  deriving DecidableEq

def LIST_MAX_PAGE : Int := 200

/-- `Math.min(Math.max(1, input.limit), LIST_MAX_PAGE)`. -/
def pageLimit (limit : Int) : Nat := (min (max 1 limit) LIST_MAX_PAGE).toNat

/-- `ORDER BY started_at DESC, id DESC`. -/
def newer (first second : ReconciliationRun) : Prop :=
  second.startedAt < first.startedAt ∨
    second.startedAt = first.startedAt ∧ second.id.precedes first.id = true

instance : DecidableRel newer := fun _ _ => inferInstanceAs (Decidable (_ ∨ _))

/-- `(started_at, id) < ($2::timestamptz, $3::uuid)`, or no cursor. -/
def admits (cursor : Option RunCursor) (run : ReconciliationRun) : Bool :=
  cursor.all fun cursor => run.startedAt < cursor.millis * 1000 ||
    run.startedAt = cursor.millis * 1000 && !cursor.id.precedes run.id

/-- `${new Date(last.started_at).toISOString()}|${last.id}`. -/
def cursorOf (last : ReconciliationRun) : RunCursor := ⟨last.startedAt / 1000, last.id⟩

section Listing

variable (table : RunTable) (storeId : Option Uuid) (limit : Int)

/-- The rows of the statement, without its `LIMIT`. -/
def listing (cursor : Option RunCursor) : List ReconciliationRun :=
  (table.runs.filter fun run => (storeId.all fun storeId => run.storeId = storeId) &&
  admits cursor run).insertionSort newer

/-- The rows of `listReconciliationRuns(input)`, and its `nextCursor`. -/
def listReconciliationRuns (cursor : Option RunCursor) : List ReconciliationRun × Option RunCursor :=
  let rows := (listing table storeId cursor).take (pageLimit limit)
  (rows, if rows.length = pageLimit limit then rows.getLast?.map cursorOf else none)

/-- The pages from a cursor on, until there is no next one. -/
inductive Followed : Option RunCursor → List (List ReconciliationRun) → Prop where
  | last {cursor : Option RunCursor} (ends : (listReconciliationRuns table storeId limit cursor).2 = none) :
      Followed cursor [(listReconciliationRuns table storeId limit cursor).1]
  | next {cursor : Option RunCursor} {behind : RunCursor} {pages : List (List ReconciliationRun)}
      (more : (listReconciliationRuns table storeId limit cursor).2 =
      some behind) (onward : Followed (some behind) pages) :
      Followed cursor ((listReconciliationRuns table storeId limit cursor).1 :: pages)

end Listing

/-- The cursor of the last row of each full page admits all rows after it. -/
def NoneHidden (size : Nat) (rows : List ReconciliationRun) : Prop :=
  ∀ n last, rows[n * size + (size - 1)]? = some last →
    ∀ run ∈ rows.drop ((n + 1) * size), admits (some (cursorOf last)) run = true

/-! ### The order -/

section Order

variable {first second third run last : ReconciliationRun} {cursor : Option RunCursor}

theorem newer_total (first second : ReconciliationRun) : newer first second ∨ newer second first := by
  rcases lt_trichotomy first.startedAt second.startedAt with less | same | more
  · exact .inr (.inl less)
  · rcases Uuid.precedes_total first.id second.id with ordered | ordered
    · exact .inr (.inr ⟨same, ordered⟩)
    · exact .inl (.inr ⟨same.symm, ordered⟩)
  · exact .inl (.inl more)

theorem newer_trans (one : newer first second) (two : newer second third) : newer first third := by
  rcases one with less | ⟨same, ordered⟩ <;> rcases two with less' | ⟨same', ordered'⟩
  · exact .inl (less'.trans less)
  · exact .inl (same' ▸ less)
  · exact .inl (same ▸ less')
  · exact .inr ⟨same'.trans same, Uuid.precedes_trans ordered' ordered⟩

theorem newer_antisymm {table : RunTable} (inTable : first ∈ table.runs) (inTable' : second ∈ table.runs)
    (one : newer first second) (two : newer second first) : first = second := by
  rcases one with less | ⟨same, ordered⟩ <;> rcases two with less' | ⟨same', ordered'⟩
  · exact absurd (less.trans less') (lt_irrefl _)
  · exact absurd same' less.ne'
  · exact absurd same less'.ne'
  · exact table.unique first inTable second inTable' (Uuid.precedes_antisymm ordered' ordered)

/-- A cursor admits what is older than a row it admits. -/
theorem admits_older (older : newer first second) (admitted : admits cursor first = true) :
    admits cursor second = true := by
  cases cursor with
  | none => rfl
  | some cursor =>
    simp only [admits, all_some, or_eq_true, decide_eq_true_eq, and_eq_true, not_eq_true'] at admitted ⊢
    rcases older with less | ⟨same, ordered⟩ <;> rcases admitted with less' | ⟨same', strictly⟩
    · exact .inl (less.trans less')
    · exact .inl (same' ▸ less)
    · exact .inl (same ▸ less')
    · refine .inr ⟨same.trans same', ?_⟩
      by_contra back
      rw [not_eq_false] at back
      rw [Uuid.precedes_trans back ordered] at strictly
      cases strictly

/-- The cursor of a row admits neither it nor what is newer, and nothing an earlier cursor does not. -/
theorem cursorOf_excludes (notOlder : newer run last) : admits (some (cursorOf last)) run = false := by
  have cut : last.startedAt / 1000 * 1000 ≤ last.startedAt := Int.ediv_mul_le _ (by decide)
  simp only [admits, cursorOf, all_some, or_eq_false_iff, decide_eq_false_iff_not, not_lt]
  rcases notOlder with less | ⟨same, ordered⟩
  · exact ⟨by omega, by simp; omega⟩
  · exact ⟨by omega, by simp [ordered]⟩

theorem admits_of_cursorOf (inside : admits cursor last = true)
    (admitted : admits (some (cursorOf last)) run = true) : admits cursor run = true := by
  rcases newer_total last run with older | notOlder
  · exact admits_older older inside
  · rw [cursorOf_excludes notOlder] at admitted
    cases admitted

theorem pageLimit_pos (limit : Int) : 0 < pageLimit limit := by
  unfold pageLimit LIST_MAX_PAGE
  omega

end Order

/-! ### One page -/

section Pages

variable {table : RunTable} {storeId : Option Uuid} {limit : Int} {cursor : Option RunCursor}
variable {run last : ReconciliationRun} {size : Nat} {rows : List ReconciliationRun}

theorem listing_sorted : (listing table storeId cursor).Pairwise newer := by
  have : Std.Total newer := ⟨newer_total⟩
  have : IsTrans ReconciliationRun newer := ⟨fun _ _ _ => newer_trans⟩
  exact pairwise_insertionSort _ _

theorem mem_listing :
    run ∈ listing table storeId cursor ↔
      run ∈ table.runs ∧ (storeId.all fun storeId => run.storeId = storeId) = true ∧
      admits cursor run = true := by
  rw [listing, mem_insertionSort, mem_filter, and_eq_true]

/-- **Behind the last row of a full page comes what its cursor admits of the rest.** -/
theorem listing_next (full : ((listing table storeId cursor).take size).getLast? = some last) :
    listing table storeId (some (cursorOf last)) =
      ((listing table storeId cursor).drop size).filter (admits (some (cursorOf last))) := by
  set rows := listing table storeId cursor with rows_eq
  have sorted : rows.Pairwise newer := listing_sorted
  have onPage := mem_of_getLast? full
  have inside : admits cursor last = true := (mem_listing.1 (mem_of_mem_take onPage)).2.2
  have passed : (rows.take size).filter (admits (some (cursorOf last))) = [] := by
    rw [filter_eq_nil_iff]
    intro run mem
    rw [cursorOf_excludes, false_eq_true]
    · exact not_false
    · obtain ⟨init, shape⟩ := List.getLast?_eq_some_iff.1 full
      have pairs : (rows.take size).Pairwise newer := sorted.sublist (List.take_sublist _ _)
      rw [shape] at pairs mem
      rcases mem_append.1 mem with early | here
      · exact (pairwise_append.1 pairs).2.2 run early last (mem_singleton_self _)
      · rw [mem_singleton.1 here]
        exact (newer_total last last).elim id id
  have behind : rows.filter (admits (some (cursorOf last))) =
      (rows.drop size).filter (admits (some (cursorOf last))) := by
    conv_lhs => rw [← take_append_drop size rows]
    rw [filter_append, passed, nil_append]
  rw [← behind]
  refine List.Perm.eq_of_pairwise (fun first second here there => newer_antisymm (mem_listing.1 here).1
    (mem_listing.1 (mem_of_mem_filter there)).1) listing_sorted (sorted.filter _) ?_
  have permuted : (rows.filter (admits (some (cursorOf last)))).Perm ((table.runs.filter fun run =>
      (storeId.all fun storeId => run.storeId = storeId) &&
        admits cursor run).filter (admits (some (cursorOf last)))) :=
    (perm_insertionSort _ _).filter _
  refine (perm_insertionSort _ _).trans (List.Perm.trans (.of_eq ?_) permuted.symm)
  rw [filter_filter]
  refine filter_congr fun run _ => ?_
  cases admitted : admits (some (cursorOf last)) run with
  | false => simp
  | true => simp [admits_of_cursorOf inside admitted]

theorem page_ends (ends : (listReconciliationRuns table storeId limit cursor).2 = none) :
    (listing table storeId cursor).length < pageLimit limit := by
  have pos := pageLimit_pos limit
  by_contra long
  rw [not_lt] at long
  have length : ((listing table storeId cursor).take (pageLimit limit)).length = pageLimit limit :=
    List.length_take_of_le long
  simp only [listReconciliationRuns, if_pos length, Option.map_eq_none_iff, List.getLast?_eq_none_iff] at ends
  rw [ends] at length
  exact absurd length pos.ne

theorem page_goes {behind : RunCursor}
    (more : (listReconciliationRuns table storeId limit cursor).2 = some behind) :
    pageLimit limit ≤ (listing table storeId cursor).length ∧
      ∃ last, (listing table storeId cursor)[pageLimit limit - 1]? = some last ∧ behind = cursorOf last ∧
      ((listing table storeId cursor).take (pageLimit limit)).getLast? = some last := by
  simp only [listReconciliationRuns] at more
  split_ifs at more with full
  obtain ⟨last, ends, rfl⟩ := map_eq_some_iff.1 more
  refine ⟨by rw [List.length_take] at full; omega, last, ?_, rfl, ends⟩
  have pos := pageLimit_pos limit
  rw [List.getLast?_eq_getElem?, full, List.getElem?_take_of_lt (by omega)] at ends
  exact ends

/-- The boundaries after a full page are those of the rest. -/
theorem noneHidden_drop (ends : rows[size - 1]? = some last) :
    NoneHidden size rows ↔
      (∀ run ∈ rows.drop size, admits (some (cursorOf last)) run = true) ∧
      NoneHidden size (rows.drop size) := by
  have shift : ∀ n, (n + 1) * size + (size - 1) = size + (n * size + (size - 1)) := fun n => by
    rw [Nat.succ_mul]
    omega
  have further : ∀ n, size + (n + 1) * size = (n + 1 + 1) * size := fun n => by
    rw [Nat.succ_mul (n + 1), Nat.add_comm]
  constructor
  · refine fun clear => ⟨?_, fun n other there => ?_⟩
    · have first := clear 0 last (by rwa [Nat.zero_mul, Nat.zero_add])
      rwa [Nat.zero_add, Nat.one_mul] at first
    · rw [List.getElem?_drop, ← shift] at there
      rw [List.drop_drop, further]
      exact clear (n + 1) other there
  · rintro ⟨here, clear⟩ (_ | n) other there
    · rw [Nat.zero_mul, Nat.zero_add, ends] at there
      cases there
      rwa [Nat.zero_add, Nat.one_mul]
    · rw [shift, ← List.getElem?_drop] at there
      have rest := clear n other there
      rwa [List.drop_drop, further] at rest

/-! ### All pages -/

theorem exists_followed (count : Nat) :
    ∀ {cursor : Option RunCursor}, (listing table storeId cursor).length ≤ count →
      ∃ pages, Followed table storeId limit cursor pages := by
  induction count with
  | zero =>
    intro cursor short
    refine ⟨_, .last ?_⟩
    have pos := pageLimit_pos limit
    cases next : (listReconciliationRuns table storeId limit cursor).2 with
    | none => rfl
    | some behind =>
      have long := (page_goes next).1
      omega
  | succ count ih =>
    intro cursor short
    cases next : (listReconciliationRuns table storeId limit cursor).2 with
    | none => exact ⟨_, .last next⟩
    | some behind =>
      obtain ⟨long, last, -, rfl, ends⟩ := page_goes next
      have fewer : (listing table storeId (some (cursorOf last))).length ≤ count := by
        have filtered := List.length_filter_le (admits (some (cursorOf last)))
          ((listing table storeId cursor).drop (pageLimit limit))
        rw [← listing_next ends, List.length_drop] at filtered
        have pos := pageLimit_pos limit
        omega
      obtain ⟨pages, onward⟩ := ih fewer
      exact ⟨_, .next next onward⟩

/-- **The pages are the rows, in their order, exactly where no page hides a row; and never more.** -/
theorem Followed.flatten {pages : List (List ReconciliationRun)}
    (followed : Followed table storeId limit cursor pages) :
    pages.flatten.Sublist (listing table storeId cursor) ∧
      (pages.flatten = listing table storeId cursor ↔
        NoneHidden (pageLimit limit) (listing table storeId cursor)) := by
  induction followed with
  | @last cursor ends =>
    have short := page_ends ends
    have whole : [(listReconciliationRuns table storeId limit cursor).1].flatten =
        listing table storeId cursor := by
      rw [List.flatten_singleton]
      exact take_of_length_le short.le
    refine ⟨whole ▸ .refl _, iff_of_true whole fun n last there => ?_⟩
    have inside := (getElem?_eq_some_iff.1 there).1
    omega
  | @next cursor behind pages more onward ih =>
    obtain ⟨long, last, there, rfl, ends⟩ := page_goes more
    obtain ⟨sub, exact⟩ := ih
    rw [listing_next ends] at sub exact
    rw [noneHidden_drop there, List.flatten_cons]
    set rows := listing table storeId cursor
    have split : rows.take (pageLimit limit) ++ rows.drop (pageLimit limit) = rows := take_append_drop _ _
    have page : (listReconciliationRuns table storeId limit cursor).1 = rows.take (pageLimit limit) := rfl
    rw [page]
    constructor
    · conv_rhs => rw [← split]
      exact (List.append_sublist_append_left _).2 (sub.trans filter_sublist)
    · have cut : rows.take (pageLimit limit) ++ pages.flatten = rows ↔
          pages.flatten = rows.drop (pageLimit limit) := by
        constructor
        · exact fun whole => List.append_cancel_left (whole.trans split.symm)
        · exact fun rest => by rw [rest, split]
      rw [cut]
      constructor
      · intro same
        have all : (rows.drop (pageLimit limit)).filter (admits (some (cursorOf last))) =
            rows.drop (pageLimit limit) := by
          refine filter_sublist.eq_of_length_le ?_
          rw [← same]
          exact same ▸ sub.length_le
        exact ⟨filter_eq_self.1 all, by rw [all] at exact; exact exact.1 same⟩
      · rintro ⟨admitted, clear⟩
        rw [filter_eq_self.2 admitted] at exact
        exact exact.2 clear

end Pages

/-- **Following the cursor from the first page ends, and yields every run of the listing once and in its
order exactly where the cursor of no full page hides a run behind it.** -/
theorem history_complete_iff (table : RunTable) (storeId : Option Uuid) (limit : Int) :
    (∃ pages, Followed table storeId limit none pages) ∧
      ∀ pages, Followed table storeId limit none pages →
      (pages.flatten = listing table storeId none ↔
        NoneHidden (pageLimit limit) (listing table storeId none)) :=
  ⟨exists_followed _ le_rfl, fun _ followed => followed.flatten.2⟩

def closeRuns : RunTable where
  runs := [⟨.sample 1, .sample 0, 1001⟩, ⟨.sample 2, .sample 0, 1002⟩]
  unique := by decide

/-- Three runs, no two of one millisecond. -/
def spreadRuns : RunTable where
  runs := [⟨.sample 1, .sample 0, 1999⟩, ⟨.sample 2, .sample 0, 2001⟩, ⟨.sample 3, .sample 0, 3500⟩]
  unique := by decide

theorem spreadRuns_listing :
    listing spreadRuns none none =
      [⟨.sample 3, .sample 0, 3500⟩, ⟨.sample 2, .sample 0, 2001⟩, ⟨.sample 1, .sample 0, 1999⟩] := by
  decide +kernel

/-- Pages of two: the oldest run lies behind the first. -/
theorem history_complete_iff_sample :
    ∃ pages, Followed spreadRuns none 2 none pages ∧ pages.flatten = listing spreadRuns none none := by
  obtain ⟨⟨pages, followed⟩, exact⟩ := history_complete_iff spreadRuns none 2
  refine ⟨pages, followed, (exact pages followed).2 fun n last there run mem => ?_⟩
  have size : pageLimit 2 = 2 := rfl
  rw [spreadRuns_listing, size] at there mem
  cases n with
  | zero =>
    cases there
    rw [mem_singleton.1 mem]
    decide
  | succ n =>
    obtain ⟨inside, -⟩ := List.getElem?_eq_some_iff.1 there
    simp only [length_cons, length_nil] at inside
    omega

/-- Pages of one run: the older of the two is never listed. -/
theorem run_hidden :
    ¬
      ∀ table storeId limit pages, Followed table storeId limit none pages →
      pages.flatten = listing table storeId none := by
  intro law
  obtain ⟨pages, followed⟩ := @exists_followed closeRuns none 1 _ none le_rfl
  have clear := followed.flatten.2.1 (law closeRuns none 1 pages followed)
  have listed : listing closeRuns none none = [⟨.sample 2, .sample 0, 1002⟩, ⟨.sample 1, .sample 0, 1001⟩] := by
    decide +kernel
  rw [listed] at clear
  have hidden := clear 0 ⟨.sample 2, .sample 0, 1002⟩ rfl ⟨.sample 1, .sample 0,
    1001⟩ (by simp [pageLimit, LIST_MAX_PAGE])
  exact absurd hidden (by decide +kernel)

end DataPulse.SyncOps
