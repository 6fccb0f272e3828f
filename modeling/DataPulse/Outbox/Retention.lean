/-
**The retention sweep of the outbox.**

The sweep computes its cutoffs once and deletes in batches, until one is not full. A batch takes the
oldest rows that the policy allows and that nobody has locked.

* `process_purges`: for every table and every batch size but 0, whatever others lock meanwhile, the job
  returns; it deletes rows of the policy only, none pending or claimed; and it leaves none of the policy
  when none of them is locked;
* `retryable_purged`: a failed row that the drainer may still claim can be one of them.
-/

import DataPulse.Lib.Batches
import DataPulse.Outbox.Runs
import DataPulse.Platform.Json

namespace DataPulse.Outbox.Retention

open Lib Platform

variable {batchSize : Nat}

/-! ### The policy -/

def DELIVERED_RETENTION_DAYS : Int := 90

def FAILED_RETENTION_DAYS : Int := 365

def BATCH_SIZE : Nat := 1000

/-- `computeCutoff(now, days)`: that many UTC days earlier, in milliseconds. -/
def computeCutoff (now days : Int) : Int := now - days * 86400000

/-- `computeRetentionCutoffs(now)`; the database reads them in microseconds. -/
def computeRetentionCutoffs (now : Int) : RetentionCutoffs where
  deliveredCutoff := computeCutoff now DELIVERED_RETENTION_DAYS * 1000
  failedCutoff := computeCutoff now FAILED_RETENTION_DAYS * 1000

/-! ### The table -/

/-- The rows of `outbox_events`, under their primary key. -/
structure OutboxTable where
  rows : List OutboxEvent
  keyed : (rows.map OutboxEvent.eventId).Nodup

def OutboxTable.purgeable (cutoffs : RetentionCutoffs) (table : OutboxTable) : List OutboxEvent :=
  table.rows.filter (OutboxEvent.purgeable cutoffs)

/-- `purgeBatch(cutoffs, batchSize)`: the number of the rows that it deletes, and the others. -/
def OutboxTable.purgeBatch (locked : Uuid → Bool) (cutoffs : RetentionCutoffs) (batchSize : Nat)
    (table : OutboxTable) : Nat × OutboxTable :=
  let ids := purgeIds locked cutoffs batchSize table.rows
  ((table.rows.filter fun row => row.eventId ∈ ids).length,
    { rows := table.rows.filter fun row => row.eventId ∉ ids
      keyed := table.keyed.sublist (filter_sublist.map _) })

/-! ### The processor -/

def OUTBOX_RETENTION_JOB_NAME : String := "outbox-retention-sweep"

inductive RetentionError where
  | unknownJob (message : String)
  | malformedJob (message : String)

/-- `OutboxRetentionSweepResult`, but for the duration. -/
structure OutboxRetentionSweepResult where
  purgedCount : Nat
  batchCount : Nat

/-- The `do … while (batchPurged === BATCH_SIZE)`; `locked` says what others have locked at each batch. -/
def sweep (locked : Nat → Uuid → Bool) (cutoffs : RetentionCutoffs) (batchSize fuel : Nat)
    (table : OutboxTable) : Option (OutboxRetentionSweepResult × OutboxTable) :=
  (repeatWhileFull (fun n table => table.purgeBatch (locked n) cutoffs batchSize) batchSize fuel 0
    table).map fun result => (⟨result.total, result.batches⟩, result.last)

def parseJobData (jobName : String) (data : Json) : Except RetentionError Unit :=
  match Json.safeParse (fun _ => []) (fun _ => ()) data with
  | .ok parsed => .ok parsed
  | .error issue =>
    let path := String.intercalate "." issue.path
    .error (.malformedJob ("Malformed outbox-retention job '" ++ jobName ++ "': " ++
      (if path = "" then "<root>" else path) ++ ": " ++ issue.message))

/-- `process(jobName, data)`; `batchSize` stands for `BATCH_SIZE`, and `now` is the clock's. -/
def process (locked : Nat → Uuid → Bool) (batchSize fuel : Nat) (jobName : String) (data : Json)
    (now : Int) (table : OutboxTable) :
    Except RetentionError (Option (OutboxRetentionSweepResult × OutboxTable)) := do
  if jobName ≠ OUTBOX_RETENTION_JOB_NAME then
    .error (.unknownJob ("Unknown outbox-retention job name: '" ++ jobName ++ "'"))
  parseJobData jobName data
  return sweep locked (computeRetentionCutoffs now) batchSize fuel table

/-! ### One batch -/

section Batch

variable {locked : Uuid → Bool} {cutoffs : RetentionCutoffs} {batchSize : Nat} {table : OutboxTable}
  {row : OutboxEvent}

theorem purgeable_of_taken (mem : row ∈ table.rows)
    (taken : row.eventId ∈ purgeIds locked cutoffs batchSize table.rows) : row.purgeable cutoffs = true := by
  obtain ⟨other, known, same, purgeable, -⟩ := mem_purgeIds taken
  rwa [same_row table.keyed mem known same.symm]

theorem mem_purgeBatch :
    row ∈ (table.purgeBatch locked cutoffs batchSize).2.rows ↔
      row ∈ table.rows ∧ row.eventId ∉ purgeIds locked cutoffs batchSize table.rows := by
  simp [OutboxTable.purgeBatch]

theorem purgeBatch_rows (locked : Uuid → Bool) (cutoffs : RetentionCutoffs) (batchSize : Nat)
    (table : OutboxTable) :
    (table.purgeBatch locked cutoffs batchSize).1 +
      (table.purgeBatch locked cutoffs batchSize).2.rows.length = table.rows.length := by
  have split := List.length_eq_length_filter_add (l := table.rows)
    fun row => decide (row.eventId ∈ purgeIds locked cutoffs batchSize table.rows)
  rw [split]
  simp [OutboxTable.purgeBatch]

theorem purgeBatch_purgeable (locked : Uuid → Bool) (cutoffs : RetentionCutoffs) (batchSize : Nat)
    (table : OutboxTable) :
    ((table.purgeBatch locked cutoffs batchSize).2.purgeable cutoffs).length +
      (table.purgeBatch locked cutoffs batchSize).1 = (table.purgeable cutoffs).length := by
  have split := @List.length_eq_length_filter_add _ (table.purgeable cutoffs)
    fun row => decide (row.eventId ∈ purgeIds locked cutoffs batchSize table.rows)
  have taken : (table.purgeable cutoffs).filter (fun row =>
      decide (row.eventId ∈ purgeIds locked cutoffs batchSize table.rows)) =
      table.rows.filter fun row =>
        decide (row.eventId ∈ purgeIds locked cutoffs batchSize table.rows) := by
    rw [OutboxTable.purgeable, filter_filter]
    refine filter_congr fun row mem => ?_
    by_cases inside : row.eventId ∈ purgeIds locked cutoffs batchSize table.rows
    · rw [purgeable_of_taken mem inside, Bool.and_true]
    · rw [decide_eq_false inside, Bool.false_and]
  have stays : (table.purgeable cutoffs).filter (fun row =>
      !decide (row.eventId ∈ purgeIds locked cutoffs batchSize table.rows)) =
      (table.purgeBatch locked cutoffs batchSize).2.purgeable cutoffs := by
    simp only [OutboxTable.purgeable, OutboxTable.purgeBatch, filter_filter]
    refine filter_congr fun row _ => ?_
    rw [Bool.and_comm, decide_not]
  rw [split, taken, stays, Nat.add_comm]
  rfl

theorem purgeBatch_count (locked : Uuid → Bool) (cutoffs : RetentionCutoffs) (batchSize : Nat)
    (table : OutboxTable) :
    (table.purgeBatch locked cutoffs batchSize).1 =
      (purgeIds locked cutoffs batchSize table.rows).length := by
  have unique : ((table.rows.filter fun row =>
      decide (row.eventId ∈ purgeIds locked cutoffs batchSize table.rows)).map
        OutboxEvent.eventId).Nodup := table.keyed.sublist (filter_sublist.map _)
  have same := (List.perm_ext_iff_of_nodup unique (purgeIds_nodup table.keyed)).2 fun id => by
    rw [mem_map]
    constructor
    · rintro ⟨row, mem, rfl⟩
      exact of_decide_eq_true (mem_filter.1 mem).2
    · intro taken
      obtain ⟨row, mem, rfl, -⟩ := mem_purgeIds taken
      exact ⟨row, mem_filter.2 ⟨mem, decide_eq_true taken⟩, rfl⟩
  rw [← same.length_eq, length_map]
  rfl

/-- **A batch that is not full takes every row of the policy that nobody has locked.** -/
theorem purgeBatch_short (short : (table.purgeBatch locked cutoffs batchSize).1 ≠ batchSize)
    (mem : row ∈ table.rows) (purgeable : row.purgeable cutoffs = true)
    (unlocked : locked row.eventId = false) : row.eventId ∈ purgeIds locked cutoffs batchSize table.rows := by
  rw [purgeBatch_count] at short
  unfold purgeIds at short ⊢
  rw [length_map, List.length_take] at short
  refine mem_map_of_mem ?_
  rw [take_of_length_le (by omega), (perm_insertionSort _ _).mem_iff, mem_filter]
  exact ⟨mem, by rw [purgeable, unlocked]; rfl⟩

end Batch

/-! ### The sweep -/

/-- What a sweep may have left of a table: some of its rows, and all that the policy does not name. -/
def PurgedOnly (cutoffs : RetentionCutoffs) (table after : OutboxTable) : Prop :=
  (∀ row ∈ after.rows, row ∈ table.rows) ∧
    ∀ row ∈ table.rows, row ∉ after.rows → row.purgeable cutoffs = true

theorem PurgedOnly.batch {locked : Uuid → Bool} {cutoffs : RetentionCutoffs} {table after : OutboxTable}
    (purged : PurgedOnly cutoffs table after) :
    PurgedOnly cutoffs table (after.purgeBatch locked cutoffs batchSize).2 := by
  obtain ⟨within, only⟩ := purged
  refine ⟨fun row mem => within row (mem_purgeBatch.1 mem).1, fun row mem gone => ?_⟩
  by_cases there : row ∈ after.rows
  · by_contra other
    exact gone (mem_purgeBatch.2 ⟨there, fun taken => other (purgeable_of_taken there taken)⟩)
  · exact only row mem there

/-- The sweep returns, deletes rows of the policy only, none of them active, and leaves none of the policy
when none of them is locked. -/
theorem sweep_purges (locked : Nat → Uuid → Bool) (cutoffs : RetentionCutoffs) (positive : 0 < batchSize)
    (table : OutboxTable) :
    ∃ fuel result after, sweep locked cutoffs batchSize fuel table = some (result, after) ∧
      (result.batchCount - 1) * batchSize ≤ (table.purgeable cutoffs).length ∧
      result.purgedCount + after.rows.length = table.rows.length ∧ (∀ row ∈ after.rows, row ∈ table.rows) ∧
      (∀ row ∈ table.rows, row ∉ after.rows →
          row.purgeable cutoffs = true ∧ row.deliveryState ≠ .pending ∧ row.deliveryState ≠ .claimed) ∧
      ((∀ n, ∀ row ∈ table.rows, row.purgeable cutoffs = true → locked n row.eventId = false) →
        ∀ row ∈ after.rows, row.purgeable cutoffs = false) := by
  obtain ⟨batched, gave, bound⟩ :=
    repeatWhileFull_returns (fun table : OutboxTable => (table.purgeable cutoffs).length)
      (fun n table => Nat.le_of_eq (purgeBatch_purgeable (locked n) cutoffs batchSize table))
      ((table.purgeable cutoffs).length + 1) 0 table
      (Nat.lt_of_lt_of_le (Nat.lt_succ_self _) (Nat.le_mul_of_pos_right _ positive))
  have total := repeatWhileFull_total (fun table : OutboxTable => table.rows.length)
    (fun n table => purgeBatch_rows (locked n) cutoffs batchSize table) gave
  obtain ⟨k, before, purged, short, last⟩ := repeatWhileFull_ends (fun n after (purged : PurgedOnly cutoffs table
    after) => purged.batch) ⟨fun _ mem => mem, fun _ mem gone => absurd mem gone⟩ gave
  have purgedAfter : PurgedOnly cutoffs table batched.last := last ▸ purged.batch
  refine ⟨(table.purgeable cutoffs).length + 1, ⟨batched.total, batched.batches⟩, batched.last, ?_, bound,
    total, purgedAfter.1, fun row mem gone => ?_, fun unlocked row mem => ?_⟩
  · rw [sweep, gave, map_some]
  · have purgeable := purgedAfter.2 row mem gone
    refine ⟨purgeable, fun active => ?_, fun active => ?_⟩
    · rcases OutboxEvent.purgeable_state purgeable with failed | terminal
      · rw [active] at failed
        cases failed
      · simp [OutboxEvent.terminal, active] at terminal
    · rcases OutboxEvent.purgeable_state purgeable with failed | terminal
      · rw [active] at failed
        cases failed
      · simp [OutboxEvent.terminal, active] at terminal
  · rw [last, mem_purgeBatch] at mem
    by_contra purgeable
    have purgeable := not_eq_false _ ▸ purgeable
    exact mem.2 (purgeBatch_short short mem.1 purgeable (unlocked k row (purged.1 row mem.1) purgeable))

/-! ### The main result -/

/-- **The job returns, deletes rows of the policy only, none of them active, and leaves none of the policy
when none of them is locked.** -/
theorem process_purges (locked : Nat → Uuid → Bool) {batchSize : Nat} (positive : 0 < batchSize)
    (fields : List (String × Json)) (now : Int) (table : OutboxTable) :
    ∃ fuel result after, process locked batchSize fuel OUTBOX_RETENTION_JOB_NAME (.object fields) now table =
      .ok (some (result, after)) ∧
      (result.batchCount - 1) * batchSize ≤ (table.purgeable (computeRetentionCutoffs now)).length ∧
      result.purgedCount + after.rows.length = table.rows.length ∧ (∀ row ∈ after.rows, row ∈ table.rows) ∧
      (∀ row ∈ table.rows, row ∉ after.rows →
          row.purgeable (computeRetentionCutoffs now) = true ∧ row.deliveryState ≠ .pending ∧
          row.deliveryState ≠ .claimed) ∧
      ((∀ n, ∀ row ∈ table.rows, row.purgeable (computeRetentionCutoffs now) = true →
          locked n row.eventId = false) →
        ∀ row ∈ after.rows, row.purgeable (computeRetentionCutoffs now) = false) := by
  obtain ⟨fuel, result, after, swept, rest⟩ := sweep_purges locked (computeRetentionCutoffs now) positive table
  refine ⟨fuel, result, after, ?_, rest⟩
  unfold process
  rw [swept]
  rfl

/-- An event whose delivery failed once, and that was not tried again for 400 days. -/
def staleFailure : OutboxEvent where
  eventId := sample 1
  tenantId := sample 0
  storeId := none
  eventType := "sale.captured"
  payload := "\x7b\x7d"
  deliveryState := .failed
  attempts := 1
  nextAttemptAt := some 30000000
  lastError := some "TimeoutError"
  occurredAt := 0
  createdAt := 0
  updatedAt := 0
  processedAt := none
  correlationId := none

/-- An event that was never tried. -/
def waiting : OutboxEvent := { staleFailure with eventId := sample 4, deliveryState := .pending }

def sampleTable : OutboxTable where
  rows := waiting :: [1, 2, 3].map fun n => { staleFailure with eventId := sample n }
  keyed := by decide

/-- Three events of the policy go in batches of two, and the one that waits stays. -/
theorem process_purges_sample :
    ∃ fuel result after, process (fun _ _ => false) 2 fuel OUTBOX_RETENTION_JOB_NAME (.object []) 34560000000
      sampleTable = .ok (some (result, after)) ∧ result.purgedCount + after.rows.length = 4 ∧
      ∀ row, row ∈ after.rows ↔ row = waiting := by
  obtain ⟨fuel, result, after, gave, -, counted, stays, gone, none⟩ := process_purges (fun _ _ => false)
    (show 0 < 2 by decide) [] 34560000000 sampleTable
  refine ⟨fuel, result, after, gave, counted, fun row => ⟨fun mem => ?_, ?_⟩⟩
  · have kept := none (fun _ _ _ _ => rfl) row mem
    rcases mem_cons.1 (stays row mem) with same | purged
    · exact same
    · obtain ⟨n, -, rfl⟩ := mem_map.1 purged
      cases kept
  · rintro rfl
    by_contra taken
    exact (gone waiting mem_cons_self taken).2.1 rfl

/-- **The job deletes a failed event that the drainer may still claim.** -/
theorem retryable_purged :
    ∃ (now : Int) (table : OutboxTable) (row : OutboxEvent) (fuel : Nat) (result : OutboxRetentionSweepResult)
      (after : OutboxTable), process (fun _ _ => false) BATCH_SIZE fuel OUTBOX_RETENTION_JOB_NAME (.object [])
      now table = .ok (some (result, after)) ∧ row ∈ table.rows ∧ row ∉ after.rows ∧
      row.deliveryState = .failed ∧ row.attempts < MAX_ATTEMPTS ∧ row.claimable (now * 1000) = true := by
  refine ⟨34560000000, ⟨[staleFailure], nodup_singleton _⟩, staleFailure, 1, ⟨1, 1⟩,
    ⟨[], nodup_nil⟩, rfl, mem_singleton_self _, not_mem_nil, rfl, by decide, by decide⟩

end DataPulse.Outbox.Retention
