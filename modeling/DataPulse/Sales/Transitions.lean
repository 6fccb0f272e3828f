/-
**The sync status of a sale over a run.**

Four writers move `sales.sync_status`, each with a guard of its own. Two of them can leave the table of
transitions: the drain asks for `processed_at IS NULL` only, so it also takes a sale that waits for a
repair; and the repair writes its UPDATE without a guard, so it also takes a sale that was drained
since the repair read it.

* `transitions_allowed`: in a run of such UPDATEs, every change is an edge of
  `SALE_SYNC_STATUS_TRANSITIONS`;
* `processed_iff_synced`: in a run whose repairs spare synced sales, a sale is processed exactly when
  it is synced.
-/

import DataPulse.Sales.Deeds

namespace DataPulse.Sales

open Lib Lib.Interleave Platform

/-! ### The guards that are missing -/

def hasStatus (writes : List Write) (saleId : Uuid) (status : SaleSyncStatus) : Bool :=
  (salesOf writes).any fun sale => sale.id = saleId && sale.syncStatus = status

/-- The drain's UPDATE takes no sale that waits for a repair. -/
def drainSparesRepairs (present : List Write) : Stmt → List Write → Bool
  | .processSale .., [.process saleId _ _] => !hasStatus present saleId .failedNeedsRepair
  | _, _ => true

def requeueSparesSynced (present : List Write) : Stmt → List Write → Bool
  | .requeueSale _, [.setStatus saleId _] => !hasStatus present saleId .synced
  | _, _ => true

theorem status_ne {writes : List Write} {row : Sale} {status : SaleSyncStatus} (mem : .sale row ∈ writes)
    (spared : (!hasStatus writes row.id status) = true) : (row.after writes).syncStatus ≠ status := by
  intro same
  have has : hasStatus writes row.id status = true :=
    List.any_eq_true.2 ⟨_, mem_salesOf.2 ⟨row, mem, rfl⟩, by simp [same]⟩
  rw [has] at spared
  cases spared

/-! ### Every change -/

section Runs

variable {reference : Reference} {config : Config}
variable {before after : List Write}
variable {row : Sale}

/-- **Where a sale changes in a run, a writer updates it, and meets it as it was.** -/
theorem Reachable.update_of (reach : Reachable reference config) {write : Write}
    (ledger : config.ledger = before ++ write :: after) (added : .sale row ∈ before)
    (about : write.saleUpdated = some row.id) :
    ∃ prior pid writes later proc, config.commits = prior ++ (pid, writes) :: later ∧
      config.procs[pid]? = some proc ∧ Held (salesServer reference) prior proc.log ∧
      Update prior proc.call proc.log row write ∧ row.after before = row.after (contents prior) := by
  obtain ⟨prior, pid, early, late, later, commits, rfl⟩ := contents_at ledger
  obtain ⟨proc, value, found, -, wrote, kept⟩ := Reachable.commit_of reach commits
  have deed := kept.deed
  rw [← wrote] at deed
  obtain ⟨untouched, -, updated, update, same⟩ := deed.update rfl about
  have onLedger : .sale updated ∈ config.ledger := by
    rw [ledger]
    exact mem_append_left _ (mem_append_left _ update.present)
  obtain rfl := reach.one_sale onLedger (ledger ▸ mem_append_left _ added) same
  refine ⟨prior, pid, _, later, proc, commits, found, kept.held, update, ?_⟩
  rw [Sale.after_append]
  refine Sale.after_untouched fun other mem => ?_
  rw [(untouched other mem).1]
  exact fun none => by cases none

/-- **Every change of a sale's status is an edge of the table, while drains spare the sales that wait
for a repair and repairs spare the synced ones.** -/
theorem transitions_allowed (reachable : Reachable reference config)
    (drains : Passes drainSparesRepairs config = true) (requeues : Passes requeueSparesSynced config = true)
    {before after : List Write} {write : Write} (ledger : config.ledger = before ++ write :: after)
    {row : Sale} (inserted : .sale row ∈ before)
    (changed : (row.after (before ++ [write])).syncStatus ≠ (row.after before).syncStatus) :
    isAllowedSaleSyncTransition (row.after before).syncStatus (row.after (before ++ [write])).syncStatus =
      true := by
  have one : row.after (before ++ [write]) = (row.after before).apply write := Sale.after_append
  rw [one] at changed ⊢
  have about : write.saleUpdated = some row.id := by
    by_contra other
    refine changed (congrArg Sale.syncStatus (Sale.apply_untouched ?_))
    rwa [Sale.after_id]
  obtain ⟨prior, pid, writes, later, proc, commits, found, held, update, same⟩ :=
    reachable.update_of ledger inserted about
  rw [same] at changed ⊢
  have id : (row.after (contents prior)).id = row.id := Sale.after_id
  cases update with
  | @process job row mismatchFlag event process unprocessed =>
    obtain ⟨seen, early, answered, there, -⟩ := process.updated
    have spared := status_ne there (Passes.entry drains commits found answered early)
    rw [← after_seen held answered mem_cons_self rfl] at spared
    rw [← id, Sale.apply_process] at changed ⊢
    revert changed spared
    generalize (row.after (contents prior)).syncStatus = source
    cases source <;> simp [isAllowedSaleSyncTransition, SALE_SYNC_STATUS_TRANSITIONS]
  | @advance input row advance unsynced =>
    rw [← id, Sale.apply_setStatus] at changed ⊢
    revert changed unsynced
    generalize (row.after (contents prior)).syncStatus = source
    cases source <;> cases input.target <;>
      simp [SaleSyncFailureStatus.status, isAllowedSaleSyncTransition, SALE_SYNC_STATUS_TRANSITIONS]
  | @requeue saleId row deadletter repair =>
    obtain ⟨seen, early, answered, there⟩ := repair.requeued
    have spared := status_ne there (Passes.entry requeues commits found answered early)
    rw [← after_seen held answered mem_cons_self rfl] at spared
    rw [← id, Sale.apply_setStatus] at changed ⊢
    revert changed spared
    generalize (row.after (contents prior)).syncStatus = source
    cases source <;> simp [isAllowedSaleSyncTransition, SALE_SYNC_STATUS_TRANSITIONS]

theorem Reachable.untouched_before (reach : Reachable reference config)
    (ledger : config.ledger = before ++ .sale row :: after) :
    ∀ write ∈ before, write.saleUpdated ≠ some row.id := by
  intro write mem about
  obtain ⟨first, rest, rfl⟩ := append_of_mem mem
  rw [append_assoc, cons_append] at ledger
  obtain ⟨prior, pid, early, late, later, commits, rfl⟩ := contents_at ledger
  obtain ⟨proc, value, -, -, wrote, kept⟩ := Reachable.commit_of reach commits
  have deed := kept.deed
  rw [← wrote] at deed
  obtain ⟨sale, there, same⟩ := deed.updates (mem_append_right _ mem_cons_self) about
  have free : config.ledger.Pairwise fun first second => collide first second = false := reach.collideFree.ledger
  rw [ledger] at free
  have apart := (pairwise_append.1 free).2.2 _ (mem_append_left early there) (.sale row)
    (mem_cons_of_mem _ (mem_append_right _ mem_cons_self))
  simp [collide, same] at apart

/-- **A sale is processed exactly when it is synced, while repairs spare the synced ones.** -/
theorem processed_iff_synced (reachable : Reachable reference config)
    (requeues : Passes requeueSparesSynced config = true) :
    ∀ sale ∈ salesOf config.ledger, sale.processedAt.isSome = true ↔ sale.syncStatus = .synced := by
  suffices each : ∀ before after, config.ledger = before ++ after → ∀ row, Write.sale row ∈ before →
      ((row.after before).processedAt.isSome = true ↔ (row.after before).syncStatus = .synced) by
    intro sale mem
    obtain ⟨row, added, rfl⟩ := mem_salesOf.1 mem
    exact each config.ledger [] (append_nil _).symm row added
  refine prefix_induction (fun before => ∀ row, Write.sale row ∈ before →
      ((row.after before).processedAt.isSome = true ↔ (row.after before).syncStatus = .synced))
    (fun _ none => by cases none) fun before write after ledger agree row mem => ?_
  rw [Sale.after_append]
  show ((row.after before).apply write).processedAt.isSome = true ↔
    ((row.after before).apply write).syncStatus = .synced
  have id : (row.after before).id = row.id := Sale.after_id
  rcases mem_append.1 mem with old | new
  · by_cases about : write.saleUpdated = some row.id
    swap
    · rw [Sale.apply_untouched (by rwa [id])]
      exact agree row old
    obtain ⟨prior, pid, writes, later, proc, commits, found, held, update, same⟩ :=
      reachable.update_of ledger old about
    cases update with
    | process process unprocessed =>
      rw [← id, Sale.apply_process]
      simp
    | @advance input row advance unsynced =>
      rw [← id, Sale.apply_setStatus]
      have before := agree row old
      rw [same] at before ⊢
      have unprocessed : (row.after (contents prior)).processedAt.isSome = false := by
        simpa [unsynced] using before
      rw [unprocessed]
      cases input.target <;> simp [SaleSyncFailureStatus.status]
    | @requeue saleId row deadletter repair =>
      obtain ⟨seen, early, answered, there⟩ := repair.requeued
      have spared := status_ne there (Passes.entry requeues commits found answered early)
      rw [← after_seen held answered mem_cons_self rfl] at spared
      rw [← id, Sale.apply_setStatus]
      have before := agree row old
      rw [same] at before ⊢
      have unprocessed : (row.after (contents prior)).processedAt.isSome = false := by
        simpa [spared] using before
      rw [unprocessed]
      simp
  · obtain rfl := mem_singleton.1 new
    rw [Sale.after_untouched (reachable.untouched_before ledger)]
    obtain ⟨prior, pid, early, late, later, commits, -⟩ := contents_at ledger
    obtain ⟨proc, value, -, -, wrote, kept⟩ := Reachable.commit_of reachable commits
    have deed := kept.deed
    rw [← wrote] at deed
    obtain ⟨status, unprocessed⟩ := deed.inserts_sale (mem_append_right _ mem_cons_self)
    show row.processedAt.isSome = true ↔ row.syncStatus = .synced
    rw [status, unprocessed]
    simp

end Runs

/-! ### Runs of one sale -/

def sampleReference : Reference where
  tenants id := id = sample 0
  stores id :=
    if id = sample 1 || id = sample 2 then some ⟨sample 0, "UTC"⟩ else none
  calendarDate _ _ := some "2026-06-12"
  collates first second := first ≤ second

def sampleCapture : CaptureSaleInput :=
  ⟨(sample 0).text, (sample 1).text, (sample 0).text, ⟨"pos", "s-1", "EGP", "10.00", 0,
    none, [⟨"tea", "10.00", "EGP", "1", "10.00", none, "cup", none⟩]⟩⟩

def sampleJob : SaleProcessingJob :=
  ⟨(sample 3).text, (sample 0).text, (sample 1).text⟩

def sampleQuarantine (condition : SyncFailureCondition) : QuarantineInput :=
  ⟨(sample 3).text, (sample 0).text, (sample 1).text, condition, "pos", "s-1", none⟩

def captureEvents : List (Event Uuid PgError Call) :=
  [.start ⟨1, .captureSale sampleCapture⟩, .ask 0, .draw 0 (sample 3), .ask 0, .ask 0,
    .draw 0 (sample 4), .ask 0, .draw 0 (sample 5), .ask 0, .stop 0 none]

def quarantineEvents (condition : SyncFailureCondition) : List (Event Uuid PgError Call) :=
  [.start ⟨2, .quarantine (sampleQuarantine condition)⟩, .ask 1, .draw 1 (sample 6), .ask 1,
    .ask 1, .stop 1 none]

def drainEvents (pid : Nat) : List (Event Uuid PgError Call) :=
  [.start ⟨3, .process sampleJob⟩, .ask pid, .ask pid, .draw pid (sample 7), .ask pid,
    .stop pid none]

def repairReads : List (Event Uuid PgError Call) :=
  [.start ⟨4, .repairSaleSync (sample 0).text (sample 3).text⟩, .ask 2]

def repairWrites : List (Event Uuid PgError Call) := [.ask 2, .ask 2, .ask 2, .ask 2, .stop 2 none]

def statusMoves (ledger : List Write) : List (SaleSyncStatus × SaleSyncStatus) :=
  (List.range ledger.length).flatMap fun n => (insertedSales (ledger.take n)).map fun row =>
    ((row.after (ledger.take n)).syncStatus, (row.after (ledger.take (n + 1))).syncStatus)

theorem statusMoves_mem {ledger : List Write} {source target : SaleSyncStatus}
    (mem : (source, target) ∈ statusMoves ledger) :
    ∃ before write after row, ledger = before ++ write :: after ∧ Write.sale row ∈ before ∧
      (row.after before).syncStatus = source ∧ (row.after (before ++ [write])).syncStatus = target := by
  obtain ⟨n, inRange, mem⟩ := mem_flatMap.1 mem
  obtain ⟨row, added, same⟩ := mem_map.1 mem
  obtain ⟨rfl, rfl⟩ := Prod.mk.inj same
  have short := List.mem_range.1 inRange
  refine ⟨ledger.take n, ledger[n], ledger.drop (n + 1), row, ?_, mem_insertedSales.1 added, rfl, ?_⟩
  · rw [← List.drop_eq_getElem_cons short, take_append_drop]
  · rw [List.take_append_getElem short]

/-- The four runs, evaluated together: they begin alike. -/
theorem statusRuns :
    (run (salesServer sampleReference)
        (captureEvents ++ quarantineEvents .validationFailure ++ drainEvents 2)).any
      (fun config => (.failedNeedsRepair, .synced) ∈ statusMoves config.ledger) = true ∧
      (run (salesServer sampleReference) (captureEvents ++ quarantineEvents .transient ++ drainEvents 2)).any
        (fun config => (.failedRetryable, .synced) ∈ statusMoves config.ledger ∧
          Passes drainSparesRepairs config = true ∧ Passes requeueSparesSynced config = true) = true ∧
      (run (salesServer sampleReference)
          (captureEvents ++ quarantineEvents .validationFailure ++ repairReads ++ drainEvents 3 ++
            repairWrites)).any
        (fun config => (salesOf config.ledger).any fun sale => sale.processedAt.isSome && sale.syncStatus =
          .failedRetryable) = true ∧
      (run (salesServer sampleReference)
        (captureEvents ++ quarantineEvents .validationFailure ++ repairReads ++ repairWrites ++
          drainEvents 3)).any (fun config => Passes requeueSparesSynced config = true) = true := by
  decide +kernel

/-- **A drain takes a sale that waits for a repair to `synced`, which is no edge.** -/
theorem drained_from_repair :
    ∃ config, Reachable sampleReference config ∧
      ¬
      ∀ before write after row, config.ledger = before ++ write :: after → Write.sale row ∈ before →
      (row.after (before ++ [write])).syncStatus ≠ (row.after before).syncStatus →
      isAllowedSaleSyncTransition (row.after before).syncStatus (row.after (before ++ [write])).syncStatus =
      true := by
  have ran := statusRuns.1
  obtain ⟨config, ran, seen⟩ := (any_eq_true _ _).1 ran
  refine ⟨config, run_reachable _ ran, fun allowed => ?_⟩
  obtain ⟨before, write, after, row, ledger, added, source, target⟩ := statusMoves_mem (of_decide_eq_true seen)
  have edge := allowed before write after row ledger added (by rw [source, target]; decide)
  rw [source, target] at edge
  cases edge

theorem transitions_allowed_sample :
    ∃ config before write after row,
      run (salesServer sampleReference) (captureEvents ++ quarantineEvents .transient ++ drainEvents 2) =
      some config ∧ config.ledger = before ++ write :: after ∧ Write.sale row ∈ before ∧
      (row.after before).syncStatus = .failedRetryable ∧
      (row.after (before ++ [write])).syncStatus = .synced ∧
      isAllowedSaleSyncTransition (row.after before).syncStatus (row.after (before ++ [write])).syncStatus =
      true := by
  have ran := statusRuns.2.1
  obtain ⟨config, ran, seen⟩ := (any_eq_true _ _).1 ran
  obtain ⟨moved, drains, requeues⟩ := of_decide_eq_true seen
  obtain ⟨before, write, after, row, ledger, added, source, target⟩ := statusMoves_mem moved
  exact ⟨config, before, write, after, row, ran, ledger, added, source, target,
    transitions_allowed (run_reachable _ ran) drains requeues ledger added (by rw [source, target]; decide)⟩

/-- **A repair takes a sale that was drained since the repair read it back to a failed status.** -/
theorem requeued_after_drain :
    ∃ config, Reachable sampleReference config ∧
      ¬ ∀ sale ∈ salesOf config.ledger, sale.processedAt.isSome = true ↔ sale.syncStatus = .synced := by
  have ran := statusRuns.2.2.1
  obtain ⟨config, ran, seen⟩ := (any_eq_true _ _).1 ran
  refine ⟨config, run_reachable _ ran, fun agree => ?_⟩
  obtain ⟨sale, mem, holds⟩ := List.any_eq_true.1 seen
  rw [and_eq_true, decide_eq_true_eq] at holds
  have synced := (agree sale mem).1 holds.1
  rw [holds.2] at synced
  cases synced

theorem processed_iff_synced_sample :
    ∃ config, run (salesServer sampleReference)
      (captureEvents ++ quarantineEvents .validationFailure ++ repairReads ++ repairWrites ++ drainEvents 3) =
      some config ∧
      ∀ sale ∈ salesOf config.ledger, sale.processedAt.isSome = true ↔ sale.syncStatus = .synced := by
  have ran := statusRuns.2.2.2
  obtain ⟨config, ran, requeues⟩ := (any_eq_true _ _).1 ran
  exact ⟨config, ran, processed_iff_synced (run_reachable _ ran) (of_decide_eq_true requeues)⟩

end DataPulse.Sales
