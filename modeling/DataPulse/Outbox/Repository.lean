/-
**The outbox table and its statements.**

`outbox_events` holds one row per event. Producers insert rows, the drainer claims and marks them, and
the retention job deletes old ones.

Times of the database are in microseconds, those of the worker's clock in milliseconds. Row locks are
a parameter here: `locked` says which rows another open transaction has locked.
-/

import DataPulse.Platform.Values
import Mathlib.Data.List.Sort

namespace DataPulse.Outbox

open Platform

/-! ### Rows -/

/-- `outbox_events.delivery_state`. -/
inductive DeliveryState where
  | pending
  | claimed
  | delivered
  | failed
  | deadLettered
  deriving DecidableEq

/-- `outbox_events`; `payload` is the text of the JSON. -/
structure OutboxEvent where
  eventId : Uuid
  tenantId : Uuid
  storeId : Option Uuid
  eventType : String
  payload : String
  deliveryState : DeliveryState
  attempts : Nat
  nextAttemptAt : Option Int
  lastError : Option String
  occurredAt : Int
  createdAt : Int
  updatedAt : Int
  processedAt : Option Int
  correlationId : Option Uuid
  deriving DecidableEq

/-- What the drainer is given of a row it claimed. -/
structure ClaimedOutboxEvent where
  eventId : Uuid
  eventType : String
  tenantId : Uuid
  storeId : Option Uuid
  payload : String
  correlationId : Option Uuid
  occurredAt : Int
  attempts : Nat
  deriving DecidableEq

structure OutboxEmitInput where
  eventType : String
  tenantId : Uuid
  storeId : Option Uuid
  payload : String
  correlationId : Option Uuid
  occurredAt : Option Int
  deriving DecidableEq

/-- The row `emit` inserts. -/
def OutboxEmitInput.row (input : OutboxEmitInput) (eventId : Uuid) (now : Int) : OutboxEvent where
  eventId := eventId
  tenantId := input.tenantId
  storeId := input.storeId
  eventType := input.eventType
  payload := input.payload
  deliveryState := .pending
  attempts := 0
  nextAttemptAt := none
  lastError := none
  occurredAt := input.occurredAt.getD now
  createdAt := now
  updatedAt := now
  processedAt := none
  correlationId := input.correlationId

/-! ### Claiming -/

def MAX_ATTEMPTS : Nat := 8

def nextAttemptDelayMs (attempts : Nat) : Int :=
  if attempts ≤ 1 then 30000
  else if attempts = 2 then 2 * 60000
  else if attempts = 3 then 10 * 60000
  else 60 * 60000

namespace OutboxEvent

/-- `delivery_state IN ('pending', 'failed') AND (next_attempt_at IS NULL OR next_attempt_at <= now())`. -/
def claimable (now : Int) (row : OutboxEvent) : Bool :=
  (row.deliveryState = .pending ∨ row.deliveryState = .failed) && row.nextAttemptAt.all (· ≤ now)

def claim (now : Int) (row : OutboxEvent) : OutboxEvent :=
  { row with deliveryState := .claimed, attempts := row.attempts + 1, updatedAt := now }

def toClaimed (row : OutboxEvent) : ClaimedOutboxEvent where
  eventId := row.eventId
  eventType := row.eventType
  tenantId := row.tenantId
  storeId := row.storeId
  payload := row.payload
  correlationId := row.correlationId
  occurredAt := row.occurredAt
  attempts := row.attempts

/-- `delivered` and `dead_lettered`. -/
def terminal (row : OutboxEvent) : Bool :=
  row.deliveryState = .delivered || row.deliveryState = .deadLettered

end OutboxEvent

/-- The rows the inner SELECT may take, in the order it takes them. -/
def candidates (locked : Uuid → Bool) (now : Int) (rows : List OutboxEvent) : List OutboxEvent :=
  (rows.filter fun row => row.claimable now && !locked row.eventId).insertionSort
    fun first second => first.occurredAt ≤ second.occurredAt

/-- The inner SELECT of the claim, `LIMIT batchSize FOR UPDATE SKIP LOCKED`. -/
def claimIds (locked : Uuid → Bool) (now : Int) (batchSize : Nat) (rows : List OutboxEvent) :
    List Uuid :=
  ((candidates locked now rows).take batchSize).map OutboxEvent.eventId

def claimRows (ids : List Uuid) (now : Int) (rows : List OutboxEvent) : List OutboxEvent :=
  rows.map fun row => if row.eventId ∈ ids then row.claim now else row

def claimedEvents (ids : List Uuid) (now : Int) (rows : List OutboxEvent) :
    List ClaimedOutboxEvent :=
  (rows.filter fun row => row.eventId ∈ ids).map fun row => (row.claim now).toClaimed

def claimBatch (locked : Uuid → Bool) (now : Int) (batchSize : Nat) (rows : List OutboxEvent) :
    Except String (List ClaimedOutboxEvent × List OutboxEvent) :=
  if batchSize = 0 then .error "claimBatch: batchSize must be a positive integer, got 0."
  else
    let ids := claimIds locked now batchSize rows
    .ok (claimedEvents ids now rows, claimRows ids now rows)

/-! ### Marks -/

/-- The three ways a claimed row goes on, with what the UPDATE sets. -/
inductive Mark where
  | delivered
  | failed (errorClass : String) (nextAttemptAt : Int)
  | deadLettered (errorClass : String)
  deriving DecidableEq

def Mark.apply (now : Int) (row : OutboxEvent) : Mark → OutboxEvent
  | delivered =>
    { row with deliveryState := .delivered, processedAt := some now, updatedAt := now }
  | failed errorClass nextAttemptAt =>
    { row with
      deliveryState := .failed, lastError := some errorClass
      nextAttemptAt := some nextAttemptAt, updatedAt := now }
  | deadLettered errorClass =>
    { row with
      deliveryState := .deadLettered, lastError := some errorClass
      processedAt := some now, updatedAt := now }

/-- `WHERE event_id = $1 AND delivery_state = 'claimed'`. -/
def OutboxEvent.markable (eventId : Uuid) (row : OutboxEvent) : Bool :=
  row.eventId = eventId && row.deliveryState = .claimed

structure OutboxStateTransitionError where
  message : String

def Mark.op : Mark → String
  | delivered => "markDelivered"
  | failed .. => "markFailed"
  | deadLettered _ => "markDeadLettered"

/-- The UPDATE of a mark, with `assertSingleRow`. -/
def mark (change : Mark) (eventId : Uuid) (now : Int) (rows : List OutboxEvent) :
    Except OutboxStateTransitionError (List OutboxEvent) :=
  let rowCount := (rows.filter (OutboxEvent.markable eventId)).length
  if rowCount = 1 then
    .ok (rows.map fun row => if row.markable eventId then change.apply now row else row)
  else .error ⟨change.op ++ ": expected exactly 1 'claimed' row for event_id=" ++ eventId.text ++
    ", UPDATE affected " ++ toString rowCount ++ ". Row is not in 'claimed' state, " ++
    "was deleted, or never existed."⟩

def markDelivered (eventId : Uuid) (now : Int) (rows : List OutboxEvent) :
    Except OutboxStateTransitionError (List OutboxEvent) :=
  mark .delivered eventId now rows

/-- The mark `markFailed` makes, unless the budget is exhausted; `date` is the worker's clock. -/
def failedMark (eventId : Uuid) (attempts : Nat) (errorClass : String) (date : Int) :
    Except OutboxStateTransitionError Mark :=
  if MAX_ATTEMPTS ≤ attempts then
    .error ⟨"markFailed: attempts=" ++ toString attempts ++ " has reached MAX_ATTEMPTS=" ++
      toString MAX_ATTEMPTS ++ "; caller must invoke markDeadLettered. event_id=" ++ eventId.text⟩
  else .ok (.failed errorClass ((date + nextAttemptDelayMs attempts) * 1000))

def markFailed (eventId : Uuid) (attempts : Nat) (errorClass : String) (date now : Int)
    (rows : List OutboxEvent) : Except OutboxStateTransitionError (List OutboxEvent) := do
  let change ← failedMark eventId attempts errorClass date
  mark change eventId now rows

def markDeadLettered (eventId : Uuid) (errorClass : String) (now : Int) (rows : List OutboxEvent) :
    Except OutboxStateTransitionError (List OutboxEvent) :=
  mark (.deadLettered errorClass) eventId now rows

/-! ### What the statements do -/

section Statements

variable {row : OutboxEvent} {rows : List OutboxEvent} {eventId : Uuid}
variable {now : Int}
variable {locked : Uuid → Bool} {batchSize : Nat}

@[simp] theorem OutboxEvent.claim_eventId (now : Int) (row : OutboxEvent) :
    (row.claim now).eventId = row.eventId := rfl

@[simp] theorem Mark.apply_eventId (now : Int) (row : OutboxEvent) (change : Mark) :
    (change.apply now row).eventId = row.eventId := by cases change <;> rfl

@[simp] theorem Mark.apply_attempts (now : Int) (row : OutboxEvent) (change : Mark) :
    (change.apply now row).attempts = row.attempts := by cases change <;> rfl

theorem OutboxEvent.claimable_iff :
    row.claimable now = true ↔
      (row.deliveryState = .pending ∨ row.deliveryState = .failed) ∧
      ∀ next, row.nextAttemptAt = some next → next ≤ now := by
  unfold OutboxEvent.claimable
  cases row.nextAttemptAt <;> simp

theorem OutboxEvent.markable_iff :
    row.markable eventId = true ↔ row.eventId = eventId ∧ row.deliveryState = .claimed := by
  simp [OutboxEvent.markable]

theorem same_row {other : OutboxEvent} (keyed : (rows.map OutboxEvent.eventId).Nodup) (mem : row ∈ rows)
    (member' : other ∈ rows) (same : row.eventId = other.eventId) : row = other :=
  inj_on_of_nodup_map keyed mem member' same

theorem mem_candidates :
    row ∈ candidates locked now rows ↔
      row ∈ rows ∧ row.claimable now = true ∧ locked row.eventId = false := by
  unfold candidates
  rw [(perm_insertionSort _ _).mem_iff, mem_filter]
  simp

theorem mem_claimIds (taken : eventId ∈ claimIds locked now batchSize rows) :
    ∃ row ∈ rows, row.eventId = eventId ∧ row.claimable now = true ∧ locked eventId = false := by
  obtain ⟨row, mem, rfl⟩ := mem_map.1 taken
  obtain ⟨mem, fits, unlocked⟩ := mem_candidates.1 (mem_of_mem_take mem)
  exact ⟨row, mem, rfl, fits, unlocked⟩

variable (keyed : (rows.map OutboxEvent.eventId).Nodup)
include keyed

theorem candidates_nodup : ((candidates locked now rows).map OutboxEvent.eventId).Nodup := by
  unfold candidates
  rw [((perm_insertionSort _ _).map OutboxEvent.eventId).nodup_iff]
  exact keyed.sublist (filter_sublist.map _)

theorem claimIds_nodup : (claimIds locked now batchSize rows).Nodup :=
  (candidates_nodup keyed).sublist ((List.take_sublist _ _).map _)

theorem filter_markable (mem : row ∈ rows) (claimed : row.deliveryState = .claimed) :
    rows.filter (OutboxEvent.markable row.eventId) = [row] := by
  have nodup : (rows.filter (OutboxEvent.markable row.eventId)).Nodup := (List.Nodup.of_map _ keyed).filter _
  refine List.perm_singleton.1 ((List.perm_ext_iff_of_nodup nodup (nodup_singleton _)).2 ?_)
  intro other
  rw [mem_filter, OutboxEvent.markable_iff, mem_singleton]
  constructor
  · rintro ⟨member', same, -⟩
    exact same_row keyed member' mem same
  · rintro rfl
    exact ⟨mem, rfl, claimed⟩

/-- **A mark of a claimed row succeeds, and changes that row only.** -/
theorem mark_claimed {change : Mark} (mem : row ∈ rows) (claimed : row.deliveryState = .claimed) :
    mark change row.eventId now rows =
      .ok (rows.map fun other => if other.eventId = row.eventId then change.apply now other else other) := by
  unfold mark
  simp only [filter_markable keyed mem claimed, List.length_singleton, if_true]
  refine congrArg Except.ok (map_congr_left fun other member' => ?_)
  by_cases same : other.eventId = row.eventId
  · have one := same_row keyed member' mem same
    rw [if_pos (OutboxEvent.markable_iff.2 ⟨same, one ▸ claimed⟩), if_pos same]
  · rw [if_neg fun fits => same (OutboxEvent.markable_iff.1 fits).1, if_neg same]

omit keyed

end Statements

/-! ### Retention -/

def AUDIT_EVENT_TYPE : String := "audit.event.created"

structure RetentionCutoffs where
  deliveredCutoff : Int
  failedCutoff : Int

def OutboxEvent.purgeable (cutoffs : RetentionCutoffs) (row : OutboxEvent) : Bool :=
  (row.deliveryState = .delivered && decide (row.eventType ≠ AUDIT_EVENT_TYPE) &&
      row.processedAt.any (· < cutoffs.deliveredCutoff)) ||
    ((row.deliveryState = .failed || row.deliveryState = .deadLettered) &&
      decide (row.processedAt.getD row.updatedAt < cutoffs.failedCutoff)) ||
    (row.deliveryState = .delivered && decide (row.eventType = AUDIT_EVENT_TYPE) &&
      row.processedAt.any (· < cutoffs.failedCutoff))

def purgeIds (locked : Uuid → Bool) (cutoffs : RetentionCutoffs) (batchSize : Nat)
    (rows : List OutboxEvent) : List Uuid :=
  (((rows.filter fun row => row.purgeable cutoffs && !locked row.eventId).insertionSort
    fun first second => first.occurredAt ≤ second.occurredAt).take batchSize).map
      OutboxEvent.eventId

end DataPulse.Outbox
