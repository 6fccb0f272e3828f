/-
**A list of dismissals.**

`bulkDismissUnknownItems` dismisses its items one after the other, each in a transaction of its own, and
shows the state of an item that is already reconciled. With nobody else on the server it leaves the
contents, and answers of every item, what the dismissals leave and answer one by one; and what it answers of
an item depends on that item alone (`bulkDismiss_folds`).
-/

import DataPulse.Lib.Solo
import DataPulse.Unknowns.Effects

namespace DataPulse.Unknowns

open Lib Lib.Prog Platform

section Bulk

variable (reference : Reference) (input : BulkInput) (clock : Nat → Int)

def BulkInput.context (now : Int) : Context := ⟨input.tenantId, input.storeId, now⟩

/-- `dismissUnknownItem` of one item: what it answers or throws, and the contents it leaves. -/
def dismissOne (now : Int) (id : Uuid) (writes : List Write) : Option (Except Thrown Body × List Write) :=
  ((dismissUnknownItem (input.dismissal id)).evaluate (exec reference (input.context now)) writes).map
  fun ended =>
    (report (.ok (.dismissed ended.1)), ended.2)

/-- The dismissals one by one, at the times of the clock. -/
def dismissEach : Nat → List Uuid → List Write → Option (List (Except Thrown Body) × List Write)
  | _, [], writes => some ([], writes)
  | tick, id :: ids, writes => do
    let ended ← dismissOne reference input (clock tick) id writes
    let rest ← dismissEach (tick + 1) ids ended.2
    return (ended.1 :: rest.1, rest.2)

/-- The loop of `bulkDismissUnknownItems` over the ids that are left. -/
def bulkDismissUnknownItems :
    Nat → List Uuid → List Write → Option (Except Thrown (List BulkDismissOutcome) × List Write)
  | _, [], writes => some (.ok [], writes)
  | tick, id :: ids, writes => do
    let ended ← dismissOne reference input (clock tick) id writes
    match ended.1 with
    | .ok _ =>
      let rest ← bulkDismissUnknownItems (tick + 1) ids ended.2
      return (rest.1.map (.dismissed :: ·), rest.2)
    | .error (.conflict ..) =>
      let read ← (clientQuery (.itemStatus id)).evaluate (exec reference (input.context (clock tick))) ended.2
      let rest ← bulkDismissUnknownItems (tick + 1) ids read.2
      return (rest.1.map (.alreadyReconciled (priorState (.ok (.status read.1))) :: ·), rest.2)
    | .error .notFound =>
      let rest ← bulkDismissUnknownItems (tick + 1) ids ended.2
      return (rest.1.map (.notFound :: ·), rest.2)
    | .error error => return (.error error, ended.2)

/-- The state of the item, if the caller sees it. -/
def BulkInput.status (writes : List Write) (id : Uuid) : Option ResolutionStatus :=
  (visibleItem (input.context 0) writes id).map UnknownItem.resolutionStatus

/-- What a bulk call answers of an item that is in that state before the call, and that may stand `earlier`
in its list. -/
def BulkDismissOutcome.of (status : Option ResolutionStatus) (earlier : Bool) : BulkDismissOutcome :=
  match status with
  | none => .notFound
  | some .pending => if earlier then .alreadyReconciled (some .dismissed) else .dismissed
  | some status => .alreadyReconciled (some status)

/-- The bulk call says of an item what its dismissal says. -/
inductive Reports : Except Thrown Body → BulkDismissOutcome → Prop where
  | dismissed (row : UnknownItem) : Reports (.ok (.dismissed (.ok row))) .dismissed
  | alreadyReconciled (message : String) (prior : Option ResolutionStatus) :
    Reports (.error (.conflict "already_reconciled" message)) (.alreadyReconciled prior)
  | notFound : Reports (.error .notFound) .notFound

end Bulk

section Steps

variable {reference : Reference} {input : BulkInput} {clock : Nat → Int} {now : Int} {id : Uuid}
  {writes : List Write}

theorem dismissOne_cases (reference : Reference) (input : BulkInput) (now : Int) (id : Uuid)
    (writes : List Write) :
    (input.status writes id = none ∧
        dismissOne reference input now id writes = some (.error .notFound, writes)) ∨
      (input.status writes id = some .pending ∧
          ∃ row, dismissOne reference input now id writes =
          some (.ok (.dismissed (.ok row)), writes ++ [.dismiss id input.actorUserId now])) ∨
      ∃ status, status ≠ .pending ∧ input.status writes id = some status ∧
      dismissOne reference input now id writes =
      some (report (.ok (.dismissed .alreadyReconciled)), writes) := by
  unfold dismissOne BulkInput.status
  have updates : exec reference (input.context now) writes (.dismissItem id input.actorUserId) =
    updateItem (input.context now) writes id (.dismiss id input.actorUserId now) := rfl
  have reads : exec reference (input.context now) writes (.itemStatus id) =
    .ok ((visibleItem (input.context now) writes id).map UnknownItem.resolutionStatus, []) := rfl
  unfold updateItem at updates
  cases found : visibleItem (input.context now) writes id with
  | none =>
    rw [found] at updates reads
    refine .inl ⟨congrArg (Option.map _) found, ?_⟩
    have ends : (dismissUnknownItem (input.dismissal id)).evaluate (exec reference (input.context now)) writes =
        some (.notFound, writes) := (evaluate_read updates).trans (evaluate_read reads)
    rw [ends]
    rfl
  | some row =>
    by_cases pending : row.isPending = true
    · rw [found, filter_some, if_pos pending] at updates
      refine .inr (.inl ⟨(congrArg (Option.map _) found).trans
        (congrArg some (of_decide_eq_true pending)), row.apply (.dismiss id input.actorUserId now), ?_⟩)
      have ends : (dismissUnknownItem (input.dismissal id)).evaluate (exec reference (input.context now))
          writes = some (.ok _, writes ++ [_]) :=
        evaluate_query updates
      rw [ends]
      rfl
    · rw [found, filter_some, if_neg pending] at updates
      rw [found] at reads
      refine .inr (.inr ⟨row.resolutionStatus, fun same => pending (decide_eq_true same),
        congrArg (Option.map _) found, ?_⟩)
      have ends : (dismissUnknownItem (input.dismissal id)).evaluate (exec reference (input.context now))
          writes = some (.alreadyReconciled, writes) :=
        (evaluate_read updates).trans (evaluate_read reads)
      rw [ends]
      rfl

theorem visibleItem_dismissed (context : Context) (writes : List Write) (id other actor : Uuid) (now : Int) :
    visibleItem context (writes ++ [.dismiss id actor now]) other =
      (visibleItem context writes other).map (·.apply (.dismiss id actor now)) := by
  have rows : itemsOf (writes ++ [.dismiss id actor now]) =
      (itemsOf writes).map (·.apply (.dismiss id actor now)) := by
    simp [itemsOf, insertedItems, UnknownItem.after, Function.comp_def]
  have same : ∀ row : UnknownItem, (row.apply (.dismiss id actor now)).id = row.id ∧
      context.sees (row.apply (.dismiss id actor now)) = context.sees row := by
    intro row
    by_cases named : row.id = id
    · simp only [UnknownItem.apply, if_pos named]
      exact ⟨trivial, rfl⟩
    · simp only [UnknownItem.apply, if_neg named, and_self]
  unfold visibleItem
  rw [rows, find?_map]
  simp only [Function.comp_def, same]

/-- A dismissal changes the item it dismisses and no other. -/
theorem status_dismissed (pending : input.status writes id = some .pending) (other : Uuid) :
    input.status (writes ++ [.dismiss id input.actorUserId now]) other =
      if other = id then some .dismissed else input.status writes other := by
  unfold BulkInput.status at pending ⊢
  rw [visibleItem_dismissed]
  cases found : visibleItem (input.context 0) writes other with
  | none =>
    have apart : other ≠ id := by
      rintro rfl
      rw [found] at pending
      cases pending
    rw [if_neg apart]
    rfl
  | some row =>
    have named := find?_some found
    rw [and_eq_true, decide_eq_true_eq] at named
    simp only [map_some, UnknownItem.apply, named.1]
    split_ifs <;> rfl

theorem of_dismissed (pending : input.status writes id = some .pending) (other : Uuid) (earlier : Bool) :
    BulkDismissOutcome.of (input.status (writes ++ [.dismiss id input.actorUserId now]) other) earlier =
      .of (input.status writes other) (decide (other = id) || earlier) := by
  rw [status_dismissed pending]
  by_cases same : other = id
  · subst same
    simp [BulkDismissOutcome.of, pending]
  · simp [same]

/-- A dismissal of an item that is not pending changes none. -/
theorem of_settled (settled : input.status writes id ≠ some .pending) (other : Uuid) (earlier : Bool) :
    BulkDismissOutcome.of (input.status writes other) earlier =
      .of (input.status writes other) (decide (other = id) || earlier) := by
  by_cases same : other = id
  · subst same
    unfold BulkDismissOutcome.of
    split
    · rfl
    · exact absurd ‹_› settled
    · rfl
  · simp [same]

/-- The outcomes of a list are those of its head and, knowing the head, of its tail. -/
theorem outcomes_cons {outcomes : List BulkDismissOutcome} {ids : List Uuid}
    (tail : ∀ index other, ids[index]? = some other →
      outcomes[index]? =
      some
      (BulkDismissOutcome.of (input.status writes other)
        (decide (other = id) || decide (other ∈ ids.take index)))) :
    ∀ index other, (id :: ids)[index]? = some other →
      (BulkDismissOutcome.of (input.status writes id) false :: outcomes)[index]? =
      some (BulkDismissOutcome.of (input.status writes other) (decide (other ∈ (id :: ids).take index))) := by
  intro index other found
  cases index with
  | zero =>
    cases found
    rfl
  | succ index =>
    rw [List.getElem?_cons_succ] at found ⊢
    rw [tail index other found, take_succ_cons, ← Bool.decide_or]
    simp only [mem_cons]

/-- What a list of dismissals comes to, from any contents and at any tick of the clock. -/
theorem bulkDismiss_from (reference : Reference) (input : BulkInput) (clock : Nat → Int) (tick : Nat)
    (ids : List Uuid) (writes : List Write) :
    ∃ outcomes ended after, bulkDismissUnknownItems reference input clock tick ids writes =
      some (.ok outcomes, after) ∧ dismissEach reference input clock tick ids writes = some (ended, after) ∧
      List.Forall₂ Reports ended outcomes ∧
      ∀ index id, ids[index]? = some id →
      outcomes[index]? =
      some (BulkDismissOutcome.of (input.status writes id) (decide (id ∈ ids.take index))) := by
  induction ids generalizing tick writes with
  | nil => exact ⟨[], [], writes, rfl, rfl, .nil, nofun⟩
  | cons id ids ih =>
    rcases dismissOne_cases reference input (clock tick) id writes with
      ⟨unseen, ends⟩ | ⟨pending, row, ends⟩ | ⟨status, settled, seen, ends⟩
    · obtain ⟨outcomes, ended, after, bulk, each, reports, shown⟩ := ih (tick + 1) writes
      refine ⟨BulkDismissOutcome.of (input.status writes id) false :: outcomes, .error .notFound :: ended,
        after, ?_, ?_, ?_, outcomes_cons fun index other found => (shown index other found).trans ?_⟩
      · simp [bulkDismissUnknownItems, ends, bulk, unseen, BulkDismissOutcome.of, Except.map]
      · simp [dismissEach, ends, each]
      · rw [unseen]
        exact .cons .notFound reports
      · rw [of_settled (by rw [unseen]; nofun)]
    · obtain ⟨outcomes, ended, after, bulk, each, reports, shown⟩ :=
        ih (tick + 1) (writes ++ [.dismiss id input.actorUserId (clock tick)])
      refine ⟨BulkDismissOutcome.of (input.status writes id) false :: outcomes,
        .ok (.dismissed (.ok row)) :: ended, after, ?_, ?_, ?_,
        outcomes_cons fun index other found => (shown index other found).trans ?_⟩
      · simp [bulkDismissUnknownItems, ends, bulk, pending, BulkDismissOutcome.of, Except.map]
      · simp [dismissEach, ends, each]
      · rw [pending]
        exact .cons (.dismissed row) reports
      · rw [of_dismissed pending]
    · obtain ⟨outcomes, ended, after, bulk, each, reports, shown⟩ := ih (tick + 1) writes
      have alike : BulkDismissOutcome.of (some status) false = .alreadyReconciled (some status) := by
        cases status with
        | pending => exact absurd rfl settled
        | _ => rfl
      have read : (clientQuery (.itemStatus id)).evaluate (exec reference (input.context (clock tick))) writes =
          some (input.status writes id, writes) := by
        show some (input.status writes id, writes ++ []) = _
        rw [append_nil]
      refine ⟨BulkDismissOutcome.of (input.status writes id) false :: outcomes,
        report (.ok (.dismissed .alreadyReconciled)) :: ended, after, ?_, ?_, ?_,
        outcomes_cons fun index other found => (shown index other found).trans ?_⟩
      · simp [bulkDismissUnknownItems, ends, report, read, seen, alike, priorState, Except.map]
        show (bulkDismissUnknownItems reference input clock (tick + 1) ids writes).bind _ = _
        rw [bulk]
        rfl
      · simp [dismissEach, ends, each]
      · rw [seen, alike]
        exact .cons (.alreadyReconciled _ _) reports
      · rw [of_settled (by rw [seen]; exact fun same => settled (Option.some.inj same))]

/-- **A bulk call dismisses as the dismissals one by one do**: it leaves the contents they leave, it reports
of each item what they answer or throw, and what it answers of an item depends on the state of that item
before the call and on whether the item stands in the list before. -/
theorem bulkDismiss_folds (reference : Reference) (input : BulkInput) (clock : Nat → Int)
    (writes : List Write) :
    ∃ outcomes ended after,
      bulkDismissUnknownItems reference input clock 0 input.ids writes = some (.ok outcomes, after) ∧
      dismissEach reference input clock 0 input.ids writes = some (ended, after) ∧
      List.Forall₂ Reports ended outcomes ∧
      ∀ index id, input.ids[index]? = some id →
      outcomes[index]? =
      some (BulkDismissOutcome.of (input.status writes id) (decide (id ∈ input.ids.take index))) :=
  bulkDismiss_from reference input clock 0 input.ids writes

end Steps

end DataPulse.Unknowns
