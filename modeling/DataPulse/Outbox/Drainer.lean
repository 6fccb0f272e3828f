/-
**What the drainer does with a row it claimed.**

What a consumer makes of an event is given (`Outcome`). The drainer sees whether its promise was
fulfilled; a retryable failure, a permanent failure and a timeout all are a rejection with an error.
-/

import DataPulse.Outbox.Repository

namespace DataPulse.Outbox

open Platform

/-! ### Consumers -/

structure OutboxConsumer where
  consumerId : String
  eventType : String

structure OutboxConsumerRegistry where
  consumers : List OutboxConsumer
  distinct : (consumers.map OutboxConsumer.eventType).Nodup

namespace OutboxConsumerRegistry

def resolve (registry : OutboxConsumerRegistry) (eventType : String) : Option OutboxConsumer :=
  registry.consumers.find? fun consumer => consumer.eventType = eventType

end OutboxConsumerRegistry

/-- The consumers the worker registers at its start, first to last. -/
def workerConsumers : List OutboxConsumer :=
  [⟨"worker.audit.event.created", "audit.event.created"⟩,
    ⟨"worker.sale.captured", "sale.captured"⟩,
    ⟨"worker.erpnext.posting.requested", "erpnext.posting.requested"⟩,
    ⟨"worker.erpnext.reconciliation.requested", "erpnext.reconciliation.requested"⟩,
    ⟨"worker.erpnext.product_reconciliation.requested", "erpnext.product_reconciliation.requested"⟩]

/-- What was thrown: an `Error` with its name, or something else. -/
inductive Thrown where
  | error (name : String)
  | other
  deriving DecidableEq

/-- What came of `invokeConsumer`. -/
inductive Outcome where
  | returned
  | threw (error : Thrown)

/-- `err instanceof Error ? err.name || "Error" : "UnknownError"`. -/
def extractErrorClass : Thrown → String
  | .error name => if name = "" then "Error" else name
  | .other => "UnknownError"

/-! ### One row -/

section ProcessRow

variable (registry : OutboxConsumerRegistry)

def safely (rows : List OutboxEvent) :
    Except OutboxStateTransitionError (List OutboxEvent) → List OutboxEvent
  | .ok rows' => rows'
  | .error _ => rows

def safeMarkDelivered (eventId : Uuid) (now : Int) (rows : List OutboxEvent) : List OutboxEvent :=
  safely rows (markDelivered eventId now rows)

def safeMarkFailed (eventId : Uuid) (attempts : Nat) (errorClass : String) (date now : Int)
    (rows : List OutboxEvent) : List OutboxEvent :=
  safely rows (markFailed eventId attempts errorClass date now rows)

def safeMarkDeadLettered (eventId : Uuid) (errorClass : String) (now : Int)
    (rows : List OutboxEvent) : List OutboxEvent :=
  safely rows (markDeadLettered eventId errorClass now rows)

/-- The table after `processRow`, when the database is available; `date` is the worker's clock and
`now` the database's when the row is marked. -/
def processRow (outcome : Outcome) (date now : Int) (row : ClaimedOutboxEvent)
    (rows : List OutboxEvent) : List OutboxEvent :=
  match registry.resolve row.eventType with
  | none => safeMarkFailed row.eventId row.attempts "UnroutableEventType" date now rows
  | some _ =>
    match outcome with
    | .returned => safeMarkDelivered row.eventId now rows
    | .threw err =>
      if MAX_ATTEMPTS ≤ row.attempts then
        safeMarkDeadLettered row.eventId (extractErrorClass err) now rows
      else safeMarkFailed row.eventId row.attempts (extractErrorClass err) date now rows

/-- The mark `processRow` is going to make; an error when `markFailed` throws before it sends
anything. -/
def chosen (outcome : Outcome) (date : Int) (row : ClaimedOutboxEvent) :
    Except OutboxStateTransitionError Mark :=
  match registry.resolve row.eventType with
  | none => failedMark row.eventId row.attempts "UnroutableEventType" date
  | some _ =>
    match outcome with
    | .returned => .ok .delivered
    | .threw err =>
      if MAX_ATTEMPTS ≤ row.attempts then .ok (.deadLettered (extractErrorClass err))
      else failedMark row.eventId row.attempts (extractErrorClass err) date

variable {registry} {outcome : Outcome} {date now : Int} {row : ClaimedOutboxEvent}
  {rows : List OutboxEvent}

theorem safeMarkFailed_eq (errorClass : String) :
    safeMarkFailed row.eventId row.attempts errorClass date now rows =
      match failedMark row.eventId row.attempts errorClass date with
      | .ok change => safely rows (mark change row.eventId now rows)
      | .error _ => rows := by
  unfold safeMarkFailed markFailed
  cases failedMark row.eventId row.attempts errorClass date <;> rfl

/-- **`processRow` makes the chosen mark.** -/
theorem processRow_eq :
    processRow registry outcome date now row rows = match chosen registry outcome date row with
    | .ok change => safely rows (mark change row.eventId now rows)
    | .error _ => rows := by
  unfold processRow chosen
  cases registry.resolve row.eventType with
  | none => exact safeMarkFailed_eq _
  | some consumer =>
    cases outcome with
    | returned => rfl
    | threw err =>
      by_cases exhausted : MAX_ATTEMPTS ≤ row.attempts
      · simp only [if_pos exhausted]
        rfl
      · simp only [if_neg exhausted]
        exact safeMarkFailed_eq _

theorem failedMark_ok_iff {errorClass : String} :
    (∃ change, failedMark row.eventId row.attempts errorClass date = .ok change) ↔
      row.attempts < MAX_ATTEMPTS := by
  unfold failedMark
  by_cases exhausted : MAX_ATTEMPTS ≤ row.attempts
  · rw [if_pos exhausted]
    refine ⟨?_, fun budget => absurd exhausted (Nat.not_le.2 budget)⟩
    rintro ⟨_, ok⟩
    cases ok
  · rw [if_neg exhausted]
    exact ⟨fun _ => Nat.not_le.1 exhausted, fun _ => ⟨_, rfl⟩⟩

/-- **There is a mark to make, unless nobody handles the event and its budget is exhausted.** -/
theorem chosen_ok_iff :
    (∃ change, chosen registry outcome date row = .ok change) ↔
      (registry.resolve row.eventType).isSome ∨ row.attempts < MAX_ATTEMPTS := by
  unfold chosen
  cases registry.resolve row.eventType with
  | none => simpa using failedMark_ok_iff
  | some consumer =>
    refine ⟨fun _ => .inl rfl, fun _ => ?_⟩
    cases outcome with
    | returned => exact ⟨_, rfl⟩
    | threw err =>
      by_cases exhausted : MAX_ATTEMPTS ≤ row.attempts
      · exact ⟨_, if_pos exhausted⟩
      · obtain ⟨change, made⟩ := failedMark_ok_iff.2 (Nat.not_le.1 exhausted)
        exact ⟨change, (if_neg exhausted).trans made⟩

end ProcessRow

/-! ### Settled rows -/

section Settled

/-- The event has its row in the table, and the row is delivered, failed with a next attempt, or
dead-lettered. -/
def Settled (rows : List OutboxEvent) (eventId : Uuid) : Prop :=
  ∃ row ∈ rows, row.eventId = eventId ∧ (row.deliveryState = .delivered ∨
    (row.deliveryState = .failed ∧ row.nextAttemptAt.isSome) ∨ row.deliveryState = .deadLettered)

instance (rows : List OutboxEvent) (eventId : Uuid) : Decidable (Settled rows eventId) :=
  inferInstanceAs (Decidable (∃ row ∈ rows, _))

/-- The row of a claimed event is in the table as it was claimed. -/
structure Held (rows : List OutboxEvent) (event : ClaimedOutboxEvent) : Prop where
  keyed : (rows.map OutboxEvent.eventId).Nodup
  row : ∃ row ∈ rows, row.eventId = event.eventId ∧ row.deliveryState = .claimed ∧
    row.attempts = event.attempts

variable {registry : OutboxConsumerRegistry} {outcome : Outcome} {date now : Int}
  {event : ClaimedOutboxEvent} {rows : List OutboxEvent}

theorem Mark.apply_settled (change : Mark) (row : OutboxEvent) :
    (change.apply now row).deliveryState = .delivered ∨
      ((change.apply now row).deliveryState = .failed ∧ (change.apply now row).nextAttemptAt.isSome) ∨
      (change.apply now row).deliveryState = .deadLettered := by
  cases change with
  | delivered => exact .inl rfl
  | failed errorClass nextAttemptAt => exact .inr (.inl ⟨rfl, rfl⟩)
  | deadLettered errorClass => exact .inr (.inr rfl)

theorem Held.not_settled (held : Held rows event) : ¬ Settled rows event.eventId := by
  obtain ⟨row, mem, same, claimed, -⟩ := held.row
  rintro ⟨other, member', same', settled⟩
  obtain rfl := same_row held.keyed member' mem (same'.trans same.symm)
  rw [claimed] at settled
  simp at settled

/-- **What `processRow` leaves of a row it holds: it is settled, if and only if somebody handles the
event or its budget is not exhausted.** -/
theorem processRow_settles_iff (held : Held rows event) :
    Settled (processRow registry outcome date now event rows) event.eventId ↔
      (registry.resolve event.eventType).isSome ∨ event.attempts < MAX_ATTEMPTS := by
  rw [processRow_eq, ← @chosen_ok_iff registry outcome date event]
  cases chosen registry outcome date event with
  | error error =>
    refine ⟨fun settled => absurd settled held.not_settled, ?_⟩
    rintro ⟨_, ok⟩
    cases ok
  | ok change =>
    obtain ⟨row, mem, same, claimed, -⟩ := held.row
    refine ⟨fun _ => ⟨change, rfl⟩, fun _ => ?_⟩
    show Settled (safely rows (mark change event.eventId now rows)) event.eventId
    rw [← same, mark_claimed held.keyed mem claimed]
    refine ⟨change.apply now row, mem_map.2 ⟨row, mem, if_pos rfl⟩, ?_, ?_⟩
    · exact change.apply_eventId now row
    · exact change.apply_settled row

theorem claimBatch_held {locked : Uuid → Bool} {batchSize : Nat} {batch : List ClaimedOutboxEvent}
    {after : List OutboxEvent} (keyed : (rows.map OutboxEvent.eventId).Nodup)
    (claims : claimBatch locked now batchSize rows = .ok (batch, after)) (mem : event ∈ batch) :
    Held after event := by
  unfold claimBatch at claims
  split_ifs at claims
  cases claims
  obtain ⟨row, inside, rfl⟩ := mem_map.1 mem
  obtain ⟨inside, taken⟩ := mem_filter.1 inside
  constructor
  · have same : (claimRows (claimIds locked now batchSize rows) now rows).map OutboxEvent.eventId =
        rows.map OutboxEvent.eventId := by
      unfold claimRows
      rw [map_map]
      refine map_congr_left fun other _ => ?_
      show (if _ then other.claim now else other).eventId = other.eventId
      split_ifs <;> rfl
    rw [same]
    exact keyed
  · refine ⟨row.claim now, mem_map.2 ⟨row, inside, ?_⟩, rfl, rfl, rfl⟩
    exact if_pos (by simpa using taken)

theorem Held.of_same {others : List OutboxEvent} (held : Held rows event)
    (keyed : (others.map OutboxEvent.eventId).Nodup)
    (same : ∀ row, row.eventId = event.eventId → (row ∈ others ↔ row ∈ rows)) : Held others event := by
  obtain ⟨row, mem, id, claimed, attempts⟩ := held.row
  exact ⟨keyed, row, (same row id).2 mem, id, claimed, attempts⟩

/-- **A row a tick claimed is settled by `processRow`, whatever happened to other rows meanwhile, if
and only if a consumer is registered for its type or its budget is not exhausted.** -/
theorem claimed_settles_iff {locked : Uuid → Bool} {claimedAt : Int} {batchSize : Nat}
    {batch : List ClaimedOutboxEvent} {before after : List OutboxEvent}
    (keyedBefore : (before.map OutboxEvent.eventId).Nodup)
    (claims : claimBatch locked claimedAt batchSize before = .ok (batch, after)) (member : event ∈ batch)
    (keyed : (rows.map OutboxEvent.eventId).Nodup)
    (same : ∀ row, row.eventId = event.eventId → (row ∈ rows ↔ row ∈ after)) :
    Settled (processRow registry outcome date now event rows) event.eventId ↔
      (registry.resolve event.eventType).isSome ∨ event.attempts < MAX_ATTEMPTS :=
  processRow_settles_iff ((claimBatch_held keyedBefore claims member).of_same keyed same)

end Settled

/-! ### Events of the worker -/

section Samples

def workerRegistry : OutboxConsumerRegistry := ⟨workerConsumers, by decide⟩

def OutboxEvent.sample (eventType : String) (attempts : Nat) : OutboxEvent where
  eventId := .sample 0
  tenantId := .sample 1
  storeId := some (.sample 2)
  eventType := eventType
  payload := "\x7b\x7d"
  deliveryState := if attempts = 0 then .pending else .failed
  attempts := attempts
  nextAttemptAt := if attempts = 0 then none else some 0
  lastError := if attempts = 0 then none else some "UnroutableEventType"
  occurredAt := 0
  createdAt := 0
  updatedAt := 0
  processedAt := none
  correlationId := none

theorem claimed_settles_sample :
    Settled
      (processRow workerRegistry (.threw .other) 0 0
          ((OutboxEvent.sample "sale.captured" 7).claim 0).toClaimed
          [(OutboxEvent.sample "sale.captured" 7).claim 0]) (.sample 0) := by
  refine (@claimed_settles_iff workerRegistry (.threw .other) 0 0
    ((OutboxEvent.sample "sale.captured" 7).claim 0).toClaimed
    [(OutboxEvent.sample "sale.captured" 7).claim 0] (fun _ => false) 0 50
    [((OutboxEvent.sample "sale.captured" 7).claim 0).toClaimed]
    [OutboxEvent.sample "sale.captured" 7]
    [(OutboxEvent.sample "sale.captured" 7).claim 0] (nodup_singleton _)
    (by decide +kernel) (mem_singleton_self _) (nodup_singleton _)
    fun _ _ => Iff.rfl).2 ?_
  decide +kernel

/-- The worker has no consumer for the events of the stock ledger: such an event stays claimed when
its last attempt is over. -/
theorem last_attempt_unroutable :
    ∃ row : OutboxEvent, row.deliveryState = .failed ∧
      claimBatch (fun _ => false) 0 50 [row] = .ok ([(row.claim 0).toClaimed], [row.claim 0]) ∧
      processRow workerRegistry .returned 0 0 (row.claim 0).toClaimed [row.claim 0] = [row.claim 0] ∧
      (row.claim 0).deliveryState = .claimed ∧ ¬ Settled [row.claim 0] row.eventId :=
  ⟨.sample "inventory.movement.created" 7, by decide +kernel⟩

end Samples

end DataPulse.Outbox
