/-
**Audit events from the outbox to their rows.**

`AuditEventCreatedConsumer` turns an `audit.event.created` event into a job of the `audit` queue, without
an id of its own; `AuditFanoutProcessor` turns a job into a row of `audit_events`, under an identifier it
draws in each attempt. Both stages repeat: the drainer after a call of the consumer that failed, the
queue after an attempt that failed or stalled.

* `fanout_once`: once all is processed, one row carries the event, with its tenant and its store.
-/

import DataPulse.Outbox.Captures
import DataPulse.Outbox.Runs

namespace DataPulse.Outbox

open Lib Platform

/-! ### The consumer -/

/-- `AuditEventCreatedPayload` and `AuditFanoutJobData`: one schema. -/
structure AuditFanoutJobData where
  actorUserId : Option String
  actorLabel : Option String
  tenantId : Option String
  storeId : Option String
  action : String
  targetType : Option String
  targetId : Option String
  requestId : Option String
  /-- `z.unknown().nullable()`: nothing when the key is absent. -/
  metadata : Option Json

/-- The issues of `AuditEventCreatedPayloadSchema` and `AuditFanoutJobSchema`. -/
def auditJobIssues (fields : List (String × Json)) : List Issue :=
  Json.nullableField fields "actor_user_id" uuidIssues ++
  Json.nullableField fields "actor_label" anyText ++
  Json.nullableField fields "tenant_id" uuidIssues ++
  Json.nullableField fields "store_id" uuidIssues ++
  Json.textField fields "action" nonEmpty ++
  Json.nullableField fields "target_type" anyText ++
  Json.nullableField fields "target_id" uuidIssues ++
  Json.nullableField fields "request_id" anyText

def readAuditJob (fields : List (String × Json)) : AuditFanoutJobData where
  actorUserId := Json.textOf fields "actor_user_id"
  actorLabel := Json.textOf fields "actor_label"
  tenantId := Json.textOf fields "tenant_id"
  storeId := Json.textOf fields "store_id"
  action := (Json.textOf fields "action").getD ""
  targetType := Json.textOf fields "target_type"
  targetId := Json.textOf fields "target_id"
  requestId := Json.textOf fields "request_id"
  metadata := fields.lookup "metadata"

/-- `safeParse` of both. -/
def parseAuditJob : Json → Except Issue AuditFanoutJobData :=
  Json.safeParse auditJobIssues readAuditJob

/-- `AUDIT_EVENT_CREATED`, the type the consumer is registered for. -/
def AUDIT_EVENT_CREATED : String := "audit.event.created"

/-- `NIL_UUID`, the tenant of a platform event in the outbox. -/
def NIL_UUID : Uuid := .sample 0

/-- The tenant of an audit event: none for the platform. -/
def authoritativeTenantId (tenantId : Uuid) : Option Uuid :=
  if tenantId = NIL_UUID then none else some tenantId

/-- `AuditEventCreatedConsumer.handle(event)`: the data of the job it adds. -/
def auditJob (event : ClaimedOutboxEvent) (payload : Json) :
    Except ConsumerError AuditFanoutJobData :=
  match parseAuditJob payload with
  | .error issue =>
    .error ⟨.error "Error", "AuditEventCreatedConsumer: malformed payload — " ++ issue.detail⟩
  | .ok parsed => .ok { parsed with
      tenantId := (authoritativeTenantId event.tenantId).map Uuid.text
      storeId := event.storeId.map Uuid.text
      requestId := parsed.requestId.or (event.correlationId.map Uuid.text) }

/-! ### The processor -/

/-- `audit_events`. -/
structure AuditEventRow where
  id : Uuid
  actorUserId : Option Uuid
  actorLabel : Option String
  tenantId : Option Uuid
  storeId : Option Uuid
  action : String
  targetType : Option String
  targetId : Option Uuid
  requestId : Option Uuid
  metadata : List (String × Json)

def BLOCKED_KEYS : List String :=
  ["password", "token", "access_token", "refresh_token", "authorization", "cookie", "secret"]

/-- `key.toLowerCase()`, as far as it can be a blocked key: of the letters outside ASCII only the Kelvin
sign becomes one inside, a `k`. -/
def toLowerCase (key : String) : String :=
  String.ofList (key.toList.map fun c => if c = '\u212A' then 'k' else c.toLower)

mutual

/-- `hasBlockedKey(obj, depth)`: deeper than ten levels is not safe to look into. -/
def hasBlockedKey (depth : Nat) : List (String × Json) → Bool
  | [] => 10 < depth
  | (key, child) :: rest =>
    10 < depth || decide (toLowerCase key ∈ BLOCKED_KEYS) || childBlocked depth child ||
      hasBlockedKey depth rest

def childBlocked (depth : Nat) : Json → Bool
  | .object fields => hasBlockedKey (depth + 1) fields
  | .array items => hasBlockedKeyInArray (depth + 1) items
  | _ => false

def hasBlockedKeyInArray (depth : Nat) : List Json → Bool
  | [] => 10 < depth
  | item :: rest => 10 < depth || childBlocked depth item || hasBlockedKeyInArray depth rest

end

def safeMetadata : Option Json → List (String × Json)
  | some (.object fields) => if hasBlockedKey 0 fields then [] else fields
  | _ => []

def AUDIT_FANOUT_JOB_NAME : String := "audit-fanout"

/-- The row of a job, under the identifier of the attempt. A text that is no `uuid` is none here: those of
the other columns have passed the schema. -/
def AuditFanoutJobData.row (data : AuditFanoutJobData) (id : Uuid) : AuditEventRow where
  id := id
  actorUserId := data.actorUserId.bind Uuid.ofText
  actorLabel := data.actorLabel
  tenantId := data.tenantId.bind Uuid.ofText
  storeId := data.storeId.bind Uuid.ofText
  action := data.action
  targetType := data.targetType
  targetId := data.targetId.bind Uuid.ofText
  requestId := data.requestId.bind Uuid.ofText
  metadata := safeMetadata data.metadata

/-- `process(jobName, data)`, up to its INSERT. -/
def process (jobName : String) (data : Json) (id : Uuid) : Except ConsumerError AuditEventRow :=
  if jobName = AUDIT_FANOUT_JOB_NAME then
    match parseAuditJob data with
    | .error issue => .error ⟨.error "MalformedAuditJobError",
        "Malformed audit job '" ++ jobName ++ "': " ++ issue.detail⟩
    | .ok parsed => .ok (parsed.row id)
  else .error ⟨.error "UnknownAuditJobError", "Unknown audit job name: '" ++ jobName ++ "'"⟩

/-- A text or `null`. -/
def nullable : Option String → Json
  | none => .null
  | some text => .string text

def AuditFanoutJobData.fields (data : AuditFanoutJobData) : List (String × Json) :=
  [("actor_user_id", nullable data.actorUserId), ("actor_label", nullable data.actorLabel),
    ("tenant_id", nullable data.tenantId), ("store_id", nullable data.storeId),
    ("action", .string data.action), ("target_type", nullable data.targetType),
    ("target_id", nullable data.targetId), ("request_id", nullable data.requestId)] ++
    (data.metadata.map fun metadata => ("metadata", metadata)).toList

def AuditFanoutJobData.json (data : AuditFanoutJobData) : Json := .object data.fields

variable {data : AuditFanoutJobData} {world' : World} {eventId : Uuid} {event : Event} {hand : Hand}
  {index : Nat}

variable {fields : List (String × Json)} {claimed : ClaimedOutboxEvent}

section Parsing

variable {key : String}

/-- The texts of a job that its schema looks into. -/
structure AuditFanoutJobData.Valid (data : AuditFanoutJobData) : Prop where
  actorUserId : ∀ text, data.actorUserId = some text → Uuid.isUuid text = true
  tenantId : ∀ text, data.tenantId = some text → Uuid.isUuid text = true
  storeId : ∀ text, data.storeId = some text → Uuid.isUuid text = true
  targetId : ∀ text, data.targetId = some text → Uuid.isUuid text = true
  action : 1 ≤ utf16Length data.action

theorem parse_json {parsed : AuditFanoutJobData} (taken : parseAuditJob data.json = .ok parsed) : parsed =
    data := by
  obtain ⟨fields, same, -, rfl⟩ := Json.safeParse_ok taken
  cases same
  rcases data with ⟨actor, label, tenant, store, action, type, target, request, metadata⟩
  unfold readAuditJob
  simp only [AuditFanoutJobData.mk.injEq]
  refine ⟨?_, ?_, ?_, ?_, rfl, ?_, ?_, ?_, ?_⟩
  · cases actor <;> rfl
  · cases label <;> rfl
  · cases tenant <;> rfl
  · cases store <;> rfl
  · cases type <;> rfl
  · cases target <;> rfl
  · cases request <;> rfl
  · cases metadata <;> rfl

theorem uuid_valid {text : String} (none : Json.nullableField fields key uuidIssues = [])
    (read : Json.textOf fields key = some text) : Uuid.isUuid text = true := by
  unfold Json.textOf at read
  split at read
  · rename_i found
    obtain rfl := Option.some.inj read
    simp only [Json.nullableField, Json.textField, found] at none
    exact check_nil none
  · cases read

theorem nullableField_nullable (text : Option String) {issues : List String → String → List Issue}
    (found : fields.lookup key = some (nullable text))
    (fits : ∀ read, text = some read → issues [key] read = []) :
    Json.nullableField fields key issues = [] := by
  cases text with
  | none => simp only [Json.nullableField, found, nullable]
  | some read =>
      simp only [Json.nullableField, Json.textField, found, nullable]
      exact fits read rfl

/-- A job with valid texts has no issue. -/
theorem issues_valid (valid : data.Valid) : auditJobIssues data.fields = [] := by
  have uuid : ∀ {path : List String} {text : String}, Uuid.isUuid text = true →
      uuidIssues path text = [] := fun holds => by simp [uuidIssues, check, holds]
  have action : Json.textField data.fields "action" nonEmpty = [] := by
    show nonEmpty ["action"] data.action = []
    simp [nonEmpty, check, valid.action]
  simp only [auditJobIssues, append_eq_nil_iff]
  refine ⟨⟨⟨⟨⟨⟨⟨?_, ?_⟩, ?_⟩, ?_⟩, action⟩, ?_⟩, ?_⟩, ?_⟩
  · exact nullableField_nullable data.actorUserId rfl fun _ read => uuid (valid.actorUserId _ read)
  · exact nullableField_nullable data.actorLabel rfl fun _ _ => rfl
  · exact nullableField_nullable data.tenantId rfl fun _ read => uuid (valid.tenantId _ read)
  · exact nullableField_nullable data.storeId rfl fun _ read => uuid (valid.storeId _ read)
  · exact nullableField_nullable data.targetType rfl fun _ _ => rfl
  · exact nullableField_nullable data.targetId rfl fun _ read => uuid (valid.targetId _ read)
  · exact nullableField_nullable data.requestId rfl fun _ _ => rfl

/-- A job with valid texts is read back. -/
theorem parse_valid (valid : data.Valid) : parseAuditJob data.json = .ok data := by
  have read : parseAuditJob data.json = .ok (readAuditJob data.fields) := by
    simp only [parseAuditJob, AuditFanoutJobData.json, Json.safeParse, issues_valid valid]
  rw [read, parse_json read]

theorem bind_text (id : Option Uuid) : (id.map Uuid.text).bind Uuid.ofText = id := by
  cases id with
  | none => rfl
  | some id => exact Uuid.ofText_text id

/-- **What the consumer adds, the processor accepts**, and files under the tenant and store of the event,
whatever the payload names. -/
theorem auditJob_accepted {event : ClaimedOutboxEvent} {payload : Json}
    (added : auditJob event payload = .ok data) (id : Uuid) :
    process AUDIT_FANOUT_JOB_NAME data.json id = .ok (data.row id) ∧
      (data.row id).tenantId = authoritativeTenantId event.tenantId ∧
      (data.row id).storeId = event.storeId := by
  unfold auditJob at added
  split at added
  · cases added
  · rename_i parsed taken
    obtain rfl := Except.ok.inj added
    refine ⟨?_, bind_text _, bind_text _⟩
    obtain ⟨fields, -, clean, rfl⟩ := Json.safeParse_ok taken
    unfold auditJobIssues at clean
    simp only [append_eq_nil_iff] at clean
    obtain ⟨⟨⟨⟨⟨⟨⟨actor, -⟩, -⟩, -⟩, action⟩, -⟩, target⟩, -⟩ := clean
    have canonical : ∀ id : Uuid, Uuid.isUuid id.text = true := fun id => by
      simp [Uuid.isUuid, Uuid.ofText_text]
    unfold process
    rw [if_pos rfl, parse_valid]
    constructor
    · exact fun text read => uuid_valid actor read
    · intro text read
      obtain ⟨tenantId, -, rfl⟩ := map_eq_some_iff.1 read
      exact canonical tenantId
    · intro text read
      obtain ⟨storeId, -, rfl⟩ := map_eq_some_iff.1 read
      exact canonical storeId
    · exact fun text read => uuid_valid target read
    · obtain ⟨text, found, long⟩ := Json.textField_nil action
      have read : Json.textOf fields "action" = some text := by simp [Json.textOf, found]
      have same : (readAuditJob fields).action = text := by simp [readAuditJob, read]
      show 1 ≤ utf16Length (readAuditJob fields).action
      rw [same]
      exact of_decide_eq_true (check_nil long)

end Parsing

theorem auditJob_accepted_sample :
    ∃ event payload data, auditJob event payload = .ok data ∧
      process AUDIT_FANOUT_JOB_NAME data.json (.sample 3) = .ok (data.row (.sample 3)) ∧
      (data.row (.sample 3)).tenantId = some (.sample 2) := by
  obtain ⟨data, added⟩ : ∃ data, auditJob ⟨.sample 1, AUDIT_EVENT_CREATED, .sample 2, none, "", none, 0, 1⟩
      (AuditFanoutJobData.json ⟨none, none, none, none, "auth.login", none, none, none, none⟩) = .ok data :=
    ⟨_, rfl⟩
  obtain ⟨accepted, tenant, -⟩ := auditJob_accepted added (.sample 3)
  exact ⟨_, _, data, added, accepted, tenant.trans rfl⟩

/-! ### Outbox, queue and rows -/

/-- `DEFAULT_JOB_OPTIONS.attempts`. -/
def JOB_ATTEMPTS : Nat := 5

/-- `DEFAULT_WORKER_OPTIONS.maxStalledCount`. -/
def MAX_STALLED_COUNT : Nat := 1

/-- Where a job of the queue is; an attempt in progress has inserted its row or not. -/
inductive JobStatus where
  | waiting
  | active (inserted : Bool)
  | completed
  | failed
  deriving DecidableEq

/-- A job of the `audit` queue. -/
structure FanoutJob where
  /-- The event whose delivery added the job. -/
  origin : Uuid
  data : AuditFanoutJobData
  attemptsMade : Nat
  stalledCount : Nat
  status : JobStatus
  /-- Attempts that lost the job before their INSERT and are not over. -/
  strays : Nat

/-- The outbox with what lies behind it: the jobs, and the rows with the job each was written for;
`emissions` are the events ever inserted. -/
structure Fanout where
  world : World
  emissions : List (Uuid × OutboxEmitInput)
  jobs : List FanoutJob
  rows : List (Nat × AuditEventRow)

/-- The workers: how many rows each drainer claims at once, and what the driver makes of a payload. -/
structure Pipeline where
  batchSize : Nat → Nat
  positive : ∀ drainer, 0 < batchSize drainer
  decode : String → Json

def Pipeline.deployment (pipeline : Pipeline) : Deployment :=
  ⟨workerRegistry, pipeline.batchSize, pipeline.positive⟩

/-- How a call of the consumer goes, where the payload is accepted: `add` and the call succeed; `add`
fails; `add` takes effect and the call fails afterwards; `add` takes effect and the worker is gone. -/
inductive HandEnding where
  | answered
  | refused (thrown : Thrown)
  | lost (thrown : Thrown)
  | crashed
  deriving DecidableEq

inductive FanoutEvent where
  | outbox (event : Event)
  | deliver (hand : Nat) (date : Int) (ending : HandEnding)
  | take (job : Nat)
  | insert (job : Nat) (id : Uuid)
  | complete (job : Nat)
  | fail (job : Nat)
  /-- The queue takes the job from an attempt, which may go on. -/
  | stall (job : Nat) (goesOn : Bool)
  /-- The INSERT of an attempt that lost its job commits. -/
  | stray (job : Nat) (id : Uuid)
  /-- Such an attempt is over. -/
  | leave (job : Nat)

/-- An event that is not the end of a consumer's call for an audit event. -/
def Event.passes (world : World) : Event → Bool
  | .finish index _ _ =>
    (world.hands[index]?).all fun hand => hand.event.eventType ≠ AUDIT_EVENT_CREATED
  | _ => true

def Event.record (emissions : List (Uuid × OutboxEmitInput)) : Event → List (Uuid × OutboxEmitInput)
  | .emit input eventId => (eventId, input) :: emissions
  | _ => emissions

/-- What a call of the consumer comes to: the job it added, and how the drainer goes on. -/
def delivery (event : ClaimedOutboxEvent) (payload : Json) (index : Nat) (date : Int) :
    HandEnding → Option FanoutJob × Event
  | ending =>
    match auditJob event payload with
    | .error err => (none, .finish index (.threw err.thrown) date)
    | .ok data =>
      let job : FanoutJob := ⟨event.eventId, data, 0, 0, .waiting, 0⟩
      match ending with
      | .answered => (some job, .finish index .returned date)
      | .refused thrown => (none, .finish index (.threw thrown) date)
      | .lost thrown => (some job, .finish index (.threw thrown) date)
      | .crashed => (some job, .lose index)

namespace Fanout

def put (chain : Fanout) (index : Nat) (job : FanoutJob) : Fanout :=
  { chain with jobs := chain.jobs.set index job }

def write (chain : Fanout) (index : Nat) (row : AuditEventRow) : Fanout :=
  { chain with rows := chain.rows ++ [(index, row)] }

end Fanout

def FanoutJob.retried (job : FanoutJob) : FanoutJob :=
  { job with
    attemptsMade := job.attemptsMade + 1
    status := if job.attemptsMade + 1 < JOB_ATTEMPTS then .waiting else .failed }

def FanoutJob.recovered (job : FanoutJob) (goesOn : Bool) : FanoutJob :=
  { job with
    stalledCount := job.stalledCount + 1
    status := if job.stalledCount < MAX_STALLED_COUNT then .waiting else .failed
    strays := if goesOn && job.status = .active false then job.strays + 1 else job.strays }

def fanoutStep (pipeline : Pipeline) (chain : Fanout) : FanoutEvent → Option Fanout
  | .outbox event =>
    if event.passes chain.world then
      (step pipeline.deployment chain.world event).map fun world =>
        { chain with world := world, emissions := event.record chain.emissions }
    else none
  | .deliver index date ending =>
    (chain.world.hands[index]?).bind fun hand =>
      if hand.phase = .handling ∧ hand.event.eventType = AUDIT_EVENT_CREATED then
        let done := delivery hand.event (pipeline.decode hand.event.payload) index date ending
        (step pipeline.deployment chain.world done.2).map fun world =>
          { chain with world := world, jobs := chain.jobs ++ done.1.toList }
      else none
  | .take index =>
    (chain.jobs[index]?).bind fun job =>
      if job.status = .waiting then some (chain.put index { job with status := .active false })
      else none
  | .insert index id =>
    (chain.jobs[index]?).bind fun job =>
      if job.status = .active false then
        match process AUDIT_FANOUT_JOB_NAME job.data.json id with
        | .ok row => some ((chain.write index row).put index { job with status := .active true })
        | .error _ => none
      else none
  | .complete index =>
    (chain.jobs[index]?).bind fun job =>
      if job.status = .active true then some (chain.put index { job with status := .completed })
      else none
  | .fail index =>
    (chain.jobs[index]?).bind fun job =>
      match job.status with
      | .active _ => some (chain.put index job.retried)
      | _ => none
  | .stall index goesOn =>
    (chain.jobs[index]?).bind fun job =>
      match job.status with
      | .active _ => some (chain.put index (job.recovered goesOn))
      | _ => none
  | .stray index id =>
    (chain.jobs[index]?).bind fun job =>
      if 0 < job.strays then
        match process AUDIT_FANOUT_JOB_NAME job.data.json id with
        | .ok row =>
          some ((chain.write index row).put index { job with strays := job.strays - 1 })
        | .error _ => none
      else none
  | .leave index =>
    (chain.jobs[index]?).bind fun job =>
      if 0 < job.strays then some (chain.put index { job with strays := job.strays - 1 }) else none

/-- The machine, from an empty outbox and an empty queue. -/
def fanout (pipeline : Pipeline) : Machine Fanout FanoutEvent :=
  ⟨⟨.empty, [], [], []⟩, fanoutStep pipeline⟩

/-! ### What is claimed of an event -/

/-- The rows of the jobs that deliveries of the event added. -/
def Fanout.rowsOf (chain : Fanout) (eventId : Uuid) : List AuditEventRow :=
  (chain.rows.filter fun written =>
    (chain.jobs[written.1]?).any fun job => job.origin = eventId).map Prod.snd

/-- Nothing is left to do for the event: its row is delivered, dead-lettered or deleted, nobody is at work
on it, and each of its jobs is completed or given up. -/
structure Fanout.Processed (chain : Fanout) (eventId : Uuid) : Prop where
  rows : ∀ row ∈ chain.world.rows, row.eventId = eventId → row.terminal = true
  hands : ∀ hand ∈ chain.world.hands, hand.event.eventId ≠ eventId
  opened : ∀ txn ∈ chain.world.opened, eventId ∉ txn.ids
  jobs : ∀ job ∈ chain.jobs, job.origin = eventId →
    (job.status = .completed ∨ job.status = .failed) ∧ job.strays = 0

/-- One row carries the event, with its tenant and its store. -/
def Fanout.CarriedOnce (chain : Fanout) (eventId : Uuid) (input : OutboxEmitInput) : Prop :=
  ∃ row, chain.rowsOf eventId = [row] ∧
    row.tenantId = authoritativeTenantId input.tenantId ∧ row.storeId = input.storeId

/-- The steps that repeat nothing of the event and give nothing of it up. -/
def Undisturbed (pipeline : Pipeline) (eventId : Uuid) (chain : Fanout) : FanoutEvent → Prop
  -- the retention job takes the row only when it is delivered or dead-lettered
  | .outbox (.purge cutoffs batchSize) => ∀ row ∈ chain.world.rows, row.eventId = eventId →
      eventId ∈ purgeIds chain.world.locked cutoffs batchSize chain.world.rows → row.terminal = true
  -- a call does not fail once its `add` took effect, and not at the last attempt
  | .deliver index _ ending => ∀ hand, chain.world.hands[index]? = some hand →
      hand.event.eventId = eventId →
        (∀ thrown, ending ≠ .lost thrown) ∧
        (MAX_ATTEMPTS ≤ hand.event.attempts →
          (ending = .answered ∨ ending = .crashed) ∧
            ∃ data, auditJob hand.event (pipeline.decode hand.event.payload) = .ok data)
  -- an attempt does not fail or stall after its INSERT, and not for the last time
  | .fail index => ∀ job, chain.jobs[index]? = some job → job.origin = eventId →
      job.status = .active false ∧ job.attemptsMade + 1 < JOB_ATTEMPTS
  | .stall index _ => ∀ job, chain.jobs[index]? = some job → job.origin = eventId →
      job.status = .active false ∧ job.stalledCount < MAX_STALLED_COUNT
  -- an attempt that lost its job does not go on to its INSERT
  | .stray index _ => ∀ job, chain.jobs[index]? = some job → job.origin ≠ eventId
  | _ => True

/-! ### An event in the outbox -/

section Outbox

variable {deployment : Deployment} {world : World}
variable {hands : List Hand}

/-- No call for the event has succeeded: its row is to be claimed, or claimed, or marked failed. -/
structure Waiting (world : World) (eventId : Uuid) : Prop where
  row : eventId ∈ world.emitted → ∃ row ∈ world.rows, row.eventId = eventId ∧ row.terminal = false
  hands : ∀ hand ∈ world.hands, hand.event.eventId = eventId →
    ∀ change, hand.phase = .marking change → ∃ errorClass date, change = .failed errorClass date
  opened : ∀ txn ∈ world.opened, eventId ∈ txn.ids → (∃ drainer, txn.work = .claim drainer) ∨
    ∃ drainer errorClass date, txn.work = .mark drainer (.failed errorClass date)

/-- A call for the event has succeeded, or its worker is gone: the event is not delivered again. -/
structure Spent (world : World) (eventId : Uuid) : Prop where
  emitted : eventId ∈ world.emitted
  rows : ∀ row ∈ world.rows, row.eventId = eventId →
    row.deliveryState = .claimed ∨ row.terminal = true
  hands : ∀ hand ∈ world.hands, hand.event.eventId = eventId →
    hand.phase = .marking .delivered ∨ hand.phase = .sent
  opened : ∀ txn ∈ world.opened, eventId ∈ txn.ids →
    (∃ drainer, txn.work = .mark drainer .delivered) ∨ txn.work = .purge

theorem World.mem_handsAfter {txn : Txn} {heard : Bool} (mem : hand ∈ world.handsAfter txn heard) :
    hand ∈ world.hands ∨
      ∃ drainer, txn.work = .claim drainer ∧
      ∃ row ∈ world.rows, row.eventId ∈ txn.ids ∧
      hand = ⟨drainer, (row.claim txn.now).toClaimed, .handling⟩ := by
  unfold World.handsAfter at mem
  split at mem
  · rename_i drainer work
    split_ifs at mem
    · rcases mem_append.1 mem with old | new
      · exact .inl old
      · obtain ⟨claimed, taken, rfl⟩ := mem_map.1 new
        obtain ⟨row, inside, rfl⟩ := mem_map.1 taken
        obtain ⟨inside, chosen⟩ := mem_filter.1 inside
        exact .inr ⟨drainer, work, row, inside, of_decide_eq_true chosen, rfl⟩
    · exact .inl mem
  · exact .inl (mem_of_mem_filter mem)
  · exact .inl mem

theorem chosen_failed {registry : OutboxConsumerRegistry} {thrown : Thrown} {date : Int} {change : Mark}
    (budget : claimed.attempts < MAX_ATTEMPTS)
    (chose : chosen registry (.threw thrown) date claimed = .ok change) :
    ∃ errorClass date, change = .failed errorClass date := by
  have failed : ∀ errorClass, failedMark claimed.eventId claimed.attempts errorClass date =
      .ok change → ∃ errorClass date, change = .failed errorClass date := by
    intro errorClass made
    unfold failedMark at made
    split_ifs at made
    cases made
    exact ⟨_, _, rfl⟩
  unfold chosen at chose
  split at chose
  · exact failed _ chose
  · split_ifs at chose with exhausted
    · exact absurd exhausted (Nat.not_le.2 budget)
    · exact failed _ chose

theorem Waiting.drop (waiting : Waiting world eventId) (fewer : ∀ hand ∈ hands, hand ∈ world.hands) :
    Waiting { world with hands := hands } eventId :=
  ⟨waiting.row, fun hand mem => waiting.hands hand (fewer hand mem), waiting.opened⟩

theorem Spent.drop (spent : Spent world eventId) (fewer : ∀ hand ∈ hands, hand ∈ world.hands) :
    Spent { world with hands := hands } eventId :=
  ⟨spent.emitted, spent.rows, fun hand mem => spent.hands hand (fewer hand mem), spent.opened⟩

/-- **Until a call for the event succeeds, the event stays to be delivered.** -/
theorem Waiting.step (sound : Sound world) (waiting : Waiting world eventId)
    (ends : ∀ index outcome date hand,
        event = .finish index outcome date → world.hands[index]? = some hand → hand.event.eventId = eventId →
        (∃ thrown, outcome = .threw thrown) ∧ hand.event.attempts < MAX_ATTEMPTS)
    (purges : ∀ cutoffs batchSize, event = .purge cutoffs batchSize →
        ∀ row ∈ world.rows, row.eventId = eventId →
        eventId ∈ purgeIds world.locked cutoffs batchSize world.rows → row.terminal = true)
    (stepped : step deployment world event = some world') : Waiting world' eventId := by
  cases step_does stepped with
  | wait time => exact { waiting with }
  | @emit input id new =>
    refine { waiting with row := fun emitted => ?_ }
    rcases mem_cons.1 emitted with rfl | before
    · exact ⟨_, mem_append_right _ (mem_singleton_self _), rfl, rfl⟩
    · obtain ⟨row, inside, rest⟩ := waiting.row before
      exact ⟨row, mem_append_left _ inside, rest⟩
  | @claim drainer started past =>
    refine { waiting with opened := fun txn mem inside => ?_ }
    rcases mem_append.1 mem with old | new
    · exact waiting.opened txn old inside
    · obtain rfl := mem_singleton.1 new
      exact .inl ⟨drainer, rfl⟩
  | @chose index hand outcome date change found phase chose =>
    refine { waiting with hands := fun other mem same chosen chose' => ?_ }
    rcases mem_or_eq_of_mem_set mem with old | rfl
    · exact waiting.hands other old same chosen chose'
    · obtain rfl := Phase.marking.inj chose'
      obtain ⟨⟨thrown, rfl⟩, budget⟩ := ends index outcome date hand rfl found same
      exact chosen_failed budget chose
  | unmarkable found phase throws =>
    exact waiting.drop fun hand => mem_of_mem_eraseIdx
  | @marked index hand change started found phase free =>
    refine { waiting with hands := fun other mem same chosen chose' => ?_, opened := ?_ }
    · rcases mem_or_eq_of_mem_set mem with old | rfl
      · exact waiting.hands other old same chosen chose'
      · cases chose'
    · intro txn mem inside
      rcases mem_append.1 mem with old | new
      · exact waiting.opened txn old inside
      · obtain rfl := mem_singleton.1 new
        obtain ⟨errorClass, date, rfl⟩ := waiting.hands hand (mem_of_getElem? found)
          (mem_singleton.1 inside).symm change phase
        exact .inr ⟨_, _, _, rfl⟩
  | unmarked found phase throws | lose found =>
    exact waiting.drop fun hand => mem_of_mem_eraseIdx
  | purge cutoffs batchSize =>
    refine { waiting with opened := fun txn mem inside => ?_ }
    rcases mem_append.1 mem with old | new
    · exact waiting.opened txn old inside
    · obtain rfl := mem_singleton.1 new
      obtain ⟨row, there, same, -⟩ := mem_purgeIds inside
      have terminal := purges cutoffs batchSize rfl row there same inside
      obtain ⟨other, there', same', live⟩ := waiting.row (same ▸ (sound.rows row there).emitted)
      obtain rfl := same_row sound.keyed there there' (same.trans same'.symm)
      rw [live] at terminal
      cases terminal
  | @commit index txn heard found =>
    have inside := mem_of_getElem? found
    refine ⟨fun emitted => ?_, fun hand mem same change phase => ?_, fun other mem =>
      waiting.opened other (mem_of_mem_eraseIdx mem)⟩
    · obtain ⟨row, there, rfl, live⟩ := waiting.row emitted
      by_cases taken : row.eventId ∈ txn.ids
      · rcases waiting.opened txn inside taken with ⟨drainer, work⟩ | ⟨drainer, errorClass, date, work⟩
        · exact ⟨row.claim txn.now, Txn.mem_apply.2 (.inr ⟨row, there, taken, by rw [work]; rfl⟩),
            rfl, rfl⟩
        · exact ⟨(Mark.failed errorClass date).apply txn.now row,
            Txn.mem_apply.2 (.inr ⟨row, there, taken, by rw [work]; rfl⟩), rfl, rfl⟩
      · exact ⟨row, (Txn.mem_apply_of_not_mem taken).2 there, rfl, live⟩
    · rcases World.mem_handsAfter mem with old | ⟨drainer, -, row, -, -, rfl⟩
      · exact waiting.hands hand old same change phase
      · cases phase
  | @rollback index txn found =>
    refine ⟨waiting.row, fun hand mem => waiting.hands hand ?_, fun other mem =>
      waiting.opened other (mem_of_mem_eraseIdx mem)⟩
    unfold World.rollback at mem
    split at mem
    · exact mem_of_mem_filter mem
    · exact mem

/-- **An event that is spent stays so.** -/
theorem Spent.step (spent : Spent world eventId) (stepped : step deployment world event = some world') :
    Spent world' eventId := by
  cases step_does stepped with
  | wait time => exact { spent with }
  | @emit input id new =>
    refine { spent with emitted := mem_cons_of_mem _ spent.emitted, rows := ?_ }
    intro row mem same
    rcases mem_append.1 mem with old | added
    · exact spent.rows row old same
    · obtain rfl := mem_singleton.1 added
      obtain rfl : id = eventId := same
      exact absurd spent.emitted new
  | @claim drainer started past =>
    refine { spent with opened := fun txn mem inside => ?_ }
    rcases mem_append.1 mem with old | new
    · exact spent.opened txn old inside
    · obtain rfl := mem_singleton.1 new
      obtain ⟨row, there, same, claimable, -⟩ := mem_claimIds inside
      have ready := (OutboxEvent.claimable_iff.1 claimable).1
      rcases spent.rows row there same with claimed | terminal
      · rw [claimed] at ready
        simp at ready
      · unfold OutboxEvent.terminal at terminal
        rcases ready with state | state <;> simp [state] at terminal
  | @chose index hand outcome date change found phase chose =>
    refine { spent with hands := fun other mem same => ?_ }
    rcases mem_or_eq_of_mem_set mem with old | rfl
    · exact spent.hands other old same
    · rcases spent.hands hand (mem_of_getElem? found) same with marking | sent
      · rw [phase] at marking
        cases marking
      · rw [phase] at sent
        cases sent
  | unmarkable found phase throws =>
    exact spent.drop fun hand => mem_of_mem_eraseIdx
  | @marked index hand change started found phase free =>
    refine { spent with hands := fun other mem same => ?_, opened := ?_ }
    · rcases mem_or_eq_of_mem_set mem with old | rfl
      · exact spent.hands other old same
      · exact .inr rfl
    · intro txn mem inside
      rcases mem_append.1 mem with old | new
      · exact spent.opened txn old inside
      · obtain rfl := mem_singleton.1 new
        rcases spent.hands hand (mem_of_getElem? found) (mem_singleton.1 inside).symm with marking | sent
        · obtain rfl := Phase.marking.inj (phase.symm.trans marking)
          exact .inl ⟨_, rfl⟩
        · rw [phase] at sent
          cases sent
  | unmarked found phase throws | lose found =>
    exact spent.drop fun hand => mem_of_mem_eraseIdx
  | purge cutoffs batchSize =>
    refine { spent with opened := fun txn mem inside => ?_ }
    rcases mem_append.1 mem with old | new
    · exact spent.opened txn old inside
    · obtain rfl := mem_singleton.1 new
      exact .inr rfl
  | @commit index txn heard found =>
    have open' := spent.opened txn (mem_of_getElem? found)
    refine ⟨spent.emitted, fun row mem same => ?_, fun hand mem same => ?_,
      fun other mem => spent.opened other (mem_of_mem_eraseIdx mem)⟩
    · rcases Txn.mem_apply.1 mem with ⟨old, -⟩ | ⟨before, there, taken, changed⟩
      · exact spent.rows row old same
      · have id := Work.change_eventId changed
        rcases open' (same ▸ id ▸ taken) with ⟨drainer, work⟩ | work
        · rw [work] at changed
          cases changed
          exact .inr rfl
        · rw [work] at changed
          cases changed
    · rcases World.mem_handsAfter mem with old | ⟨drainer, work, row, there, taken, rfl⟩
      · exact spent.hands hand old same
      · rcases open' (same ▸ taken) with ⟨drainer', work'⟩ | work' <;>
        · rw [work] at work'
          cases work'
  | @rollback index txn found =>
    refine ⟨spent.emitted, spent.rows, fun hand mem => spent.hands hand ?_, fun other mem =>
      spent.opened other (mem_of_mem_eraseIdx mem)⟩
    unfold World.rollback at mem
    split at mem
    · exact mem_of_mem_filter mem
    · exact mem

/-- What is known of the emissions: each has its own identifier, and the rows and calls of an event carry
what was emitted. -/
structure Known (emissions : List (Uuid × OutboxEmitInput)) (world : World) : Prop where
  keys : emissions.map Prod.fst = world.emitted
  once : world.emitted.Nodup
  rows : ∀ row ∈ world.rows, ∃ input, (row.eventId, input) ∈ emissions ∧
    row.tenantId = input.tenantId ∧ row.storeId = input.storeId ∧ row.eventType = input.eventType
  hands : ∀ hand ∈ world.hands, ∃ input, (hand.event.eventId, input) ∈ emissions ∧
    hand.event.tenantId = input.tenantId ∧ hand.event.storeId = input.storeId ∧
    hand.event.eventType = input.eventType

variable {emissions : List (Uuid × OutboxEmitInput)}

theorem Known.unique (known : Known emissions world) {input input' : OutboxEmitInput}
    (one : (eventId, input) ∈ emissions) (other : (eventId, input') ∈ emissions) : input = input' := by
  have distinct : (emissions.map Prod.fst).Nodup := known.keys ▸ known.once
  exact congrArg Prod.snd (inj_on_of_nodup_map distinct one other rfl)

theorem Known.drop (known : Known emissions world)
    (fewer : ∀ hand ∈ hands, ∃ old ∈ world.hands, old.event = hand.event) :
    Known emissions { world with hands := hands } := by
  refine ⟨known.keys, known.once, known.rows, fun hand mem => ?_⟩
  obtain ⟨old, there, same⟩ := fewer hand mem
  rw [← same]
  exact known.hands old there

theorem set_events (phase : Phase) (found : world.hands[index]? = some hand) :
    ∀ other ∈ world.hands.set index { hand with phase := phase }, ∃ old ∈ world.hands, old.event =
      other.event := by
  intro other mem
  rcases mem_or_eq_of_mem_set mem with old | rfl
  · exact ⟨other, old, rfl⟩
  · exact ⟨hand, mem_of_getElem? found, rfl⟩

/-- **Rows and calls keep what was emitted.** -/
theorem Known.step (known : Known emissions world) (stepped : step deployment world event = some world') :
    Known (event.record emissions) world' := by
  cases step_does stepped with
  | wait time => exact { known with }
  | @emit input id new =>
    refine ⟨congrArg (id :: ·) known.keys, nodup_cons.2 ⟨new, known.once⟩, ?_, ?_⟩
    · intro row mem
      rcases mem_append.1 mem with old | added
      · obtain ⟨input', inside, rest⟩ := known.rows row old
        exact ⟨input', mem_cons_of_mem _ inside, rest⟩
      · obtain rfl := mem_singleton.1 added
        exact ⟨input, mem_cons_self, rfl, rfl, rfl⟩
    · intro hand mem
      obtain ⟨input', inside, rest⟩ := known.hands hand mem
      exact ⟨input', mem_cons_of_mem _ inside, rest⟩
  | claim past => exact { known with }
  | chose found phase chose => exact known.drop (set_events _ found)
  | unmarkable found phase throws =>
    exact known.drop fun hand mem => ⟨hand, mem_of_mem_eraseIdx mem, rfl⟩
  | marked found phase free =>
    have dropped := known.drop (set_events .sent found)
    exact { dropped with }
  | unmarked found phase throws =>
    exact known.drop fun hand mem => ⟨hand, mem_of_mem_eraseIdx mem, rfl⟩
  | lose found => exact known.drop fun hand mem => ⟨hand, mem_of_mem_eraseIdx mem, rfl⟩
  | purge cutoffs batchSize => exact { known with }
  | @commit index txn heard found =>
    refine ⟨known.keys, known.once, fun row mem => ?_, fun hand mem => ?_⟩
    · rcases Txn.mem_apply.1 mem with ⟨old, -⟩ | ⟨before, there, -, changed⟩
      · exact known.rows row old
      · have kept : row.eventId = before.eventId ∧ row.tenantId = before.tenantId ∧
            row.storeId = before.storeId ∧ row.eventType = before.eventType := by
          cases work : txn.work with
          | claim drainer =>
            rw [work] at changed
            cases changed
            exact ⟨rfl, rfl, rfl, rfl⟩
          | mark drainer change =>
            rw [work] at changed
            cases changed
            cases change <;> exact ⟨rfl, rfl, rfl, rfl⟩
          | purge =>
            rw [work] at changed
            cases changed
        rw [kept.1, kept.2.1, kept.2.2.1, kept.2.2.2]
        exact known.rows before there
    · rcases World.mem_handsAfter mem with old | ⟨drainer, -, row, there, -, rfl⟩
      · exact known.hands hand old
      · exact known.rows row there
  | @rollback index txn found =>
    have dropped : Known emissions { world with hands := (world.rollback index txn).hands } :=
        known.drop fun hand mem => by
      refine ⟨hand, ?_, rfl⟩
      unfold World.rollback at mem
      split at mem
      · exact mem_of_mem_filter mem
      · exact mem
    exact { dropped with }

theorem Sound.only_hand (sound : Sound world) {place : Nat} {other : Hand}
    (found : world.hands[index]? = some hand) (found' : world.hands[place]? = some other)
    (same : other.event.eventId = hand.event.eventId) : place = index := by
  have bound : place < (world.hands.map fun hand => hand.event.eventId).length := by
    simpa using (getElem?_eq_some_iff.1 found').1
  refine (List.getElem?_inj bound sound.once).1 ?_
  rw [getElem?_map, getElem?_map, found', found]
  exact congrArg some same

/-- **An event whose call is about to be marked delivered, or lost, is spent.** -/
theorem Sound.spent (sound : Sound world) (found : world.hands[index]? = some hand)
    (phase : hand.phase = .handling)
    (left : ∀ other ∈ hands, other.event.eventId = hand.event.eventId →
      other.phase = .marking .delivered ∨ ∃ place, place ≠ index ∧ world.hands[place]? = some other) :
    Spent { world with hands := hands } hand.event.eventId := by
  have mem := mem_of_getElem? found
  refine ⟨?_, fun row there same => .inl (sound.claimed_row mem there same).1,
    fun other there same => ?_, fun txn there inside => ?_⟩
  · obtain ⟨row, there, same, -⟩ := (sound.hands hand mem).row
    rw [← same]
    exact (sound.rows row there).emitted
  · rcases left other there same with marking | ⟨place, elsewhere, found'⟩
    · exact .inl marking
    · exact absurd (sound.only_hand found found' same) elsewhere
  · have free := (sound.hands hand mem).free (by rw [phase]; exact nofun)
    exact absurd inside (World.locked_false.1 free txn there)

end Outbox

/-! ### An event on its way -/

section Chain

variable {pipeline : Pipeline} {chain chain' : Fanout} {input : OutboxEmitInput}
variable {job job' : FanoutJob}
variable {rows : List (Nat × AuditEventRow)}
variable {date : Int}

def written (rows : List (Nat × AuditEventRow)) (index : Nat) : List AuditEventRow :=
  (rows.filter fun row => row.1 = index).map Prod.snd

theorem written_append (rows : List (Nat × AuditEventRow)) (place index : Nat) (row : AuditEventRow) :
    written (rows ++ [(place, row)]) index = written rows index ++ if place = index then [row] else [] := by
  unfold written
  by_cases same : place = index <;> simp [filter_append, same]

theorem written_nil (placed : ∀ row ∈ rows, row.1 < index) : written rows index = [] := by
  unfold written
  rw [filter_eq_nil_iff.2]
  · rfl
  · intro row mem same
    exact absurd (of_decide_eq_true same) (placed row mem).ne

def AuditEventRow.Carries (row : AuditEventRow) (data : AuditFanoutJobData) : Prop :=
  row.tenantId = data.tenantId.bind Uuid.ofText ∧ row.storeId = data.storeId.bind Uuid.ofText

/-- One row is written for a job, by the attempt that is about to complete it or has. -/
def FanoutJob.Fits (job : FanoutJob) (rows : List AuditEventRow) : Prop :=
  match job.status with
  | .waiting | .active false => rows = []
  | .active true | .completed => ∃ row, rows = [row] ∧ row.Carries job.data
  | .failed => False

/-- Where an event is: it has no job and is to be delivered, or it has one job and is not. -/
inductive Stage (eventId : Uuid) (chain : Fanout) : Prop where
  | unqueued (none : ∀ job ∈ chain.jobs, job.origin ≠ eventId) (waiting : Waiting chain.world eventId)
  | queued {index : Nat} {job : FanoutJob} (found : chain.jobs[index]? = some job)
      (origin : job.origin = eventId)
      (only : ∀ place other, chain.jobs[place]? = some other → other.origin = eventId → place = index)
      (fits : job.Fits (written chain.rows index)) (spent : Spent chain.world eventId)

/-- What holds of an event along steps that do not disturb it. -/
structure Carried (eventId : Uuid) (chain : Fanout) : Prop where
  sound : Sound chain.world
  known : Known chain.emissions chain.world
  jobs : ∀ job ∈ chain.jobs, ∃ input, (job.origin, input) ∈ chain.emissions ∧
    job.data.tenantId = (authoritativeTenantId input.tenantId).map Uuid.text ∧
    job.data.storeId = input.storeId.map Uuid.text
  placed : ∀ row ∈ chain.rows, row.1 < chain.jobs.length
  stage : (∃ input, (eventId, input) ∈ chain.emissions ∧ input.eventType ≠ AUDIT_EVENT_CREATED) ∨
    Stage eventId chain

theorem Carried.start : Carried eventId (fanout pipeline).start where
  sound := Sound.empty
  known := ⟨rfl, nodup_nil, fun _ mem => absurd mem not_mem_nil,
    fun _ mem => absurd mem not_mem_nil⟩
  jobs := fun _ mem => absurd mem not_mem_nil
  placed := fun _ mem => absurd mem not_mem_nil
  stage := .inr (.unqueued (fun _ mem => absurd mem not_mem_nil)
    ⟨fun emitted => absurd emitted not_mem_nil, fun _ mem => absurd mem not_mem_nil,
      fun _ mem => absurd mem not_mem_nil⟩)

theorem Carried.update (carried : Carried eventId chain) (found : chain.jobs[index]? = some job)
    (origin : job'.origin = job.origin) (data : job'.data = job.data)
    (placed : ∀ row ∈ rows, row ∈ chain.rows ∨ row.1 = index)
    (elsewhere : ∀ place, place ≠ index → written rows place = written chain.rows place)
    (fits : job.origin = eventId → job.Fits (written chain.rows index) → job'.Fits (written rows index)) :
    Carried eventId { chain with jobs := chain.jobs.set index job', rows := rows } := by
  have bound := (getElem?_eq_some_iff.1 found).1
  refine { carried with jobs := ?_, placed := ?_, stage := ?_ }
  · intro other mem
    rcases mem_or_eq_of_mem_set mem with old | rfl
    · exact carried.jobs other old
    · rw [origin, data]
      exact carried.jobs job (mem_of_getElem? found)
  · intro row mem
    rw [List.length_set]
    rcases placed row mem with old | same
    · exact carried.placed row old
    · rw [same]
      exact bound
  · refine carried.stage.imp_right fun stage => ?_
    have origins : ∀ (place : Nat) (other : FanoutJob), (chain.jobs.set index job')[place]? = some other →
        ∃ old : FanoutJob, chain.jobs[place]? = some old ∧ other.origin = old.origin := by
      intro place other here
      rw [getElem?_set] at here
      split_ifs at here with same
      · obtain rfl := Option.some.inj here
        exact ⟨job, same ▸ found, origin⟩
      · exact ⟨other, here, rfl⟩
    cases stage with
    | unqueued none waiting =>
      refine .unqueued (fun other mem => ?_) waiting
      obtain ⟨place, here⟩ := mem_iff_getElem?.1 mem
      obtain ⟨old, there, same⟩ := origins place other here
      rw [same]
      exact none old (mem_of_getElem? there)
    | @queued place mine found' origin' only fits' spent =>
      have only' : ∀ place' other, (chain.jobs.set index job')[place']? = some other →
          other.origin = eventId → place' = place := by
        intro place' other here same
        obtain ⟨old, there, same'⟩ := origins place' other here
        exact only place' old there (same'.symm.trans same)
      by_cases here : place = index
      · subst here
        obtain rfl := mem_unique found' found
        exact .queued (getElem?_set_self bound) (origin.trans origin') only' (fits origin' fits') spent
      · refine .queued ((List.getElem?_set_ne (Ne.symm here)).trans found') origin' only' ?_ spent
        rw [elsewhere place here]
        exact fits'

theorem process_row {id : Uuid} {row : AuditEventRow}
    (processed : process AUDIT_FANOUT_JOB_NAME data.json id = .ok row) : row = data.row id := by
  unfold process at processed
  rw [if_pos rfl] at processed
  split at processed
  · cases processed
  · rename_i parsed taken
    obtain rfl := Except.ok.inj processed
    rw [parse_json taken]

theorem Carried.goOn (carried : Carried eventId chain) (found : chain.jobs[index]? = some job)
    (origin : job'.origin = job.origin) (data : job'.data = job.data)
    (fits : job.origin = eventId → ∀ rows, job.Fits rows → job'.Fits rows) :
    Carried eventId (chain.put index job') :=
  carried.update found origin data (fun _ => .inl) (fun _ _ => rfl)
    fun same => fits same _

theorem Carried.writes (carried : Carried eventId chain) {row : AuditEventRow}
    (found : chain.jobs[index]? = some job) (origin : job'.origin = job.origin) (data : job'.data = job.data)
    (fits : job.origin = eventId → ∀ rows, job.Fits rows → job'.Fits (rows ++ [row])) :
    Carried eventId ((chain.write index row).put index job') := by
  refine carried.update found origin data (fun other mem => ?_) (fun place apart => ?_) fun same before => ?_
  · rcases mem_append.1 mem with old | new
    · exact .inl old
    · exact .inr (congrArg Prod.fst (mem_singleton.1 new))
  · exact (written_append _ _ _ _).trans (by rw [if_neg (Ne.symm apart), append_nil])
  · have grown : written (chain.write index row).rows index = written chain.rows index ++ [row] :=
      (written_append _ _ _ _).trans (by rw [if_pos rfl])
    rw [grown]
    exact fits same _ before

theorem delivery_cases (claimed : ClaimedOutboxEvent) (payload : Json) (index : Nat) (date : Int)
    (ending : HandEnding) :
    (∃ thrown, delivery claimed payload index date ending = (none, .finish index (.threw thrown) date) ∧
        ((∃ data, auditJob claimed payload = .ok data) → ∃ thrown, ending = .refused thrown)) ∨
      ∃ data, auditJob claimed payload = .ok data ∧
      ∃ event,
      delivery claimed payload index date ending = (some ⟨claimed.eventId, data, 0, 0, .waiting, 0⟩, event) ∧
      (event = .finish index .returned date ∨ event = .lose index ∨
        ∃ thrown, ending = .lost thrown ∧ event = .finish index (.threw thrown) date) := by
  unfold delivery
  cases made : auditJob claimed payload with
  | error err => exact .inl ⟨_, rfl, fun ⟨data, ok⟩ => nomatch ok⟩
  | ok data =>
    cases ending with
    | answered => exact .inr ⟨data, rfl, _, rfl, .inl rfl⟩
    | refused thrown => exact .inl ⟨_, rfl, fun _ => ⟨thrown, rfl⟩⟩
    | lost thrown => exact .inr ⟨data, rfl, _, rfl, .inr (.inr ⟨thrown, rfl, rfl⟩)⟩
    | crashed => exact .inr ⟨data, rfl, _, rfl, .inr (.inl rfl)⟩

theorem auditJob_envelope {payload : Json} (made : auditJob claimed payload = .ok data) :
    data.tenantId = (authoritativeTenantId claimed.tenantId).map Uuid.text ∧
      data.storeId = claimed.storeId.map Uuid.text := by
  unfold auditJob at made
  split at made
  · cases made
  · cases made
    exact ⟨rfl, rfl⟩

theorem Carried.outbox (carried : Carried eventId chain)
    (undisturbed : Undisturbed pipeline eventId chain (.outbox event))
    (passes : event.passes chain.world = true)
    (stepped : step pipeline.deployment chain.world event = some world') :
    Carried eventId { chain with world := world', emissions := event.record chain.emissions } := by
  have known := carried.known.step stepped
  have grows : ∀ emission ∈ chain.emissions, emission ∈ event.record chain.emissions := by
    intro emission mem
    cases event with
    | emit input id => exact mem_cons_of_mem _ mem
    | _ => exact mem
  refine ⟨sound_step carried.sound stepped, known, fun job mem => ?_, carried.placed, ?_⟩
  · obtain ⟨input, inside, rest⟩ := carried.jobs job mem
    exact ⟨input, grows _ inside, rest⟩
  · rcases carried.stage with ⟨input, inside, other⟩ | stage
    · exact .inl ⟨input, grows _ inside, other⟩
    · cases stage with
      | @queued index job found origin only fits spent =>
        exact .inr (.queued found origin only fits (spent.step stepped))
      | unqueued none waiting =>
        by_cases typed : ∃ input, (eventId, input) ∈ event.record chain.emissions ∧
            input.eventType ≠ AUDIT_EVENT_CREATED
        · exact .inl typed
        · refine .inr (.unqueued none (waiting.step carried.sound ?_ ?_ stepped))
          · rintro index outcome date hand rfl found rfl
            obtain ⟨input, inside, -, -, type⟩ := carried.known.hands hand (mem_of_getElem? found)
            have audit : hand.event.eventType = AUDIT_EVENT_CREATED := by
              by_contra foreign
              exact typed ⟨input, grows _ inside, type ▸ foreign⟩
            simp [Event.passes, found, audit] at passes
          · rintro cutoffs batchSize rfl
            exact undisturbed

theorem Sound.spent_of_delivery {world : World} (sound : Sound world)
    (found : world.hands[index]? = some hand) (phase : hand.phase = .handling)
    (type : hand.event.eventType = AUDIT_EVENT_CREATED)
    (ends : event = .finish index .returned date ∨ event = .lose index)
    (stepped : step pipeline.deployment world event = some world') : Spent world' hand.event.eventId := by
  have elsewhere : ∀ other ∈ world.hands.eraseIdx index,
      ∃ place, place ≠ index ∧ world.hands[place]? = some other := fun other mem => by
    obtain ⟨place, apart, here⟩ := List.mem_eraseIdx_iff_getElem?.1 mem
    exact ⟨place, apart, here⟩
  rcases ends with rfl | rfl
  · have routed : chosen pipeline.deployment.registry .returned date hand.event = .ok .delivered := by
      unfold chosen
      rw [type]
      rfl
    have moved : step pipeline.deployment world (.finish index .returned date) =
        some { world with hands := world.hands.set index { hand with phase := .marking .delivered } } := by
      show (world.hands[index]?).bind _ = _
      simp only [found, bind_some, if_pos phase, routed]
    obtain rfl := mem_unique stepped moved
    refine sound.spent found phase fun other mem same => ?_
    obtain ⟨place, here⟩ := mem_iff_getElem?.1 mem
    rw [getElem?_set] at here
    split_ifs at here with at'
    · obtain rfl := Option.some.inj here
      exact .inl rfl
    · exact .inr ⟨place, Ne.symm at', here⟩
  · have moved : step pipeline.deployment world (.lose index) =
        some { world with hands := world.hands.eraseIdx index } := by
      show (world.hands[index]?).bind _ = _
      rw [found]
      rfl
    obtain rfl := mem_unique stepped moved
    exact sound.spent found phase fun other mem _ => .inr (elsewhere other mem)

theorem Stage.moved (stage : Stage eventId chain)
    (waits : Waiting chain.world eventId → Waiting world' eventId)
    (spends : Spent chain.world eventId → Spent world' eventId) :
    Stage eventId { chain with world := world' } := by
  cases stage with
  | queued found origin only fits spent => exact .queued found origin only fits (spends spent)
  | unqueued none waiting => exact .unqueued none (waits waiting)

/-- The job of another event changes nothing. -/
theorem Stage.add_other (stage : Stage eventId { chain with world := world' }) (foreign : job.origin ≠ eventId) :
    Stage eventId { chain with world := world', jobs := chain.jobs ++ [job] } := by
  cases stage with
  | queued found origin only fits spent =>
    have there := getElem?_eq_some_iff.1 found
    refine .queued ((List.getElem?_append_left there.1).trans found) origin ?_ fits spent
    intro place other here same
    rw [List.getElem?_append] at here
    split_ifs at here with inside
    · exact only place other here same
    · obtain rfl := mem_singleton.1 (mem_of_getElem? here)
      exact absurd same foreign
  | unqueued none waiting =>
    refine .unqueued (fun other mem => ?_) waiting
    rcases mem_append.1 mem with old | new
    · exact none other old
    · obtain rfl := mem_singleton.1 new
      exact foreign

/-- The first job of the event is its one job. -/
theorem Stage.add_own (none : ∀ job ∈ chain.jobs, job.origin ≠ eventId)
    (placed : ∀ row ∈ chain.rows, row.1 < chain.jobs.length) (spent : Spent world' eventId) :
    Stage eventId { chain with
      world := world', jobs := chain.jobs ++ [⟨eventId, data, 0, 0, .waiting, 0⟩] } := by
  have here : (chain.jobs ++ [(⟨eventId, data, 0, 0, .waiting, 0⟩ : FanoutJob)])[chain.jobs.length]? =
      some ⟨eventId, data, 0, 0, .waiting, 0⟩ := by simp
  refine .queued here rfl ?_ (written_nil placed) spent
  intro place other there same
  by_contra apart
  rw [List.getElem?_append] at there
  split_ifs at there with inside
  · exact none other (mem_of_getElem? there) same
  · have past := (getElem?_eq_some_iff.1 there).1
    simp only [List.length_singleton] at past
    omega

theorem Carried.deliver (carried : Carried eventId chain) {ending : HandEnding}
    (undisturbed : Undisturbed pipeline eventId chain (.deliver index date ending))
    (found : chain.world.hands[index]? = some hand) (phase : hand.phase = .handling)
    (type : hand.event.eventType = AUDIT_EVENT_CREATED)
    (stepped : step pipeline.deployment chain.world
      (delivery hand.event (pipeline.decode hand.event.payload) index date ending).2 = some world') :
    Carried eventId { chain with
      world := world'
      jobs := chain.jobs ++
        (delivery hand.event (pipeline.decode hand.event.payload) index date ending).1.toList } := by
  have calm := undisturbed hand found
  rcases delivery_cases hand.event (pipeline.decode hand.event.payload) index date ending with
    ⟨thrown, comes, refused⟩ | ⟨data, made, event, comes, ends⟩
  · rw [comes] at stepped ⊢
    simp only [Option.toList_none, append_nil]
    refine { carried with
      sound := sound_step carried.sound stepped
      known := carried.known.step stepped
      stage := ?_ }
    refine carried.stage.imp_right fun stage =>
      stage.moved (fun waiting => waiting.step carried.sound ?_ ?_ stepped) fun spent => spent.step stepped
    · rintro _ _ _ other same found' own
      cases same
      obtain rfl := mem_unique found' found
      refine ⟨⟨_, rfl⟩, ?_⟩
      by_contra exhausted
      obtain ⟨ends, data⟩ := (calm own).2 (Nat.not_lt.1 exhausted)
      obtain ⟨thrown', rfl⟩ := refused data
      rcases ends with ends | ends <;> cases ends
    · rintro _ _ same
      cases same
  · rw [comes] at stepped ⊢
    simp only [Option.toList_some]
    have known : Known chain.emissions world' := by
      have next := carried.known.step stepped
      rcases ends with rfl | rfl | ⟨thrown, -, rfl⟩ <;> exact next
    refine ⟨sound_step carried.sound stepped, known, fun job mem => ?_, fun row mem => ?_,
      carried.stage.imp_right fun stage => ?_⟩
    · rcases mem_append.1 mem with old | new
      · exact carried.jobs job old
      · obtain rfl := mem_singleton.1 new
        obtain ⟨input, inside, tenant, store, -⟩ := carried.known.hands hand (mem_of_getElem? found)
        obtain ⟨tenant', store'⟩ := auditJob_envelope made
        exact ⟨input, inside, tenant ▸ tenant', store ▸ store'⟩
    · rw [length_append]
      exact Nat.lt_add_right _ (carried.placed row mem)
    by_cases own : hand.event.eventId = eventId
    · cases stage with
      | queued found' origin only fits spent =>
        -- the event of a queued job is not being handled
        rcases spent.hands hand (mem_of_getElem? found) own with marking | sent
        · rw [phase] at marking
          cases marking
        · rw [phase] at sent
          cases sent
      | unqueued none waiting =>
        have ends' : event = .finish index .returned date ∨ event = .lose index := by
          rcases ends with ends | ends | ⟨thrown, lost, -⟩
          · exact .inl ends
          · exact .inr ends
          · exact absurd lost ((calm own).1 thrown)
        subst own
        exact Stage.add_own none carried.placed
          (carried.sound.spent_of_delivery found phase type ends' stepped)
    · refine Stage.add_other (stage.moved (fun waiting =>
        waiting.step carried.sound ?_ ?_ stepped) fun spent => spent.step stepped) own
      · rintro index' outcome date' other rfl found' own'
        rcases ends with same | same | ⟨_, -, same⟩ <;> cases same <;>
        · obtain rfl := mem_unique found' found
          exact absurd own' own
      · rintro cutoffs batchSize rfl
        rcases ends with same | same | ⟨_, -, same⟩ <;> cases same

/-- **A step that does not disturb the event keeps what holds of it.** -/
theorem carried_step {event : FanoutEvent} (carried : Carried eventId chain)
    (undisturbed : Undisturbed pipeline eventId chain event)
    (step : fanoutStep pipeline chain event = some chain') : Carried eventId chain' := by
  cases event with
  | outbox event =>
    simp only [fanoutStep] at step
    split_ifs at step with passes
    obtain ⟨world', moved, rfl⟩ := map_eq_some_iff.1 step
    exact carried.outbox undisturbed passes moved
  | deliver index date ending =>
    obtain ⟨hand, found, step⟩ := bind_eq_some_iff.1 step
    split_ifs at step with ready
    obtain ⟨world', moved, rfl⟩ := map_eq_some_iff.1 step
    exact carried.deliver undisturbed found ready.1 ready.2 moved
  | take index =>
    obtain ⟨job, found, step⟩ := bind_eq_some_iff.1 step
    split_ifs at step with status
    cases step
    refine carried.goOn found rfl rfl fun _ rows fits => ?_
    simpa only [FanoutJob.Fits, status] using fits
  | insert index id =>
    obtain ⟨job, found, step⟩ := bind_eq_some_iff.1 step
    split_ifs at step with status
    split at step
    · rename_i row processed
      cases step
      refine carried.writes found rfl rfl fun _ rows fits => ?_
      have empty : rows = [] := by simpa only [FanoutJob.Fits, status] using fits
      obtain rfl := process_row processed
      exact ⟨_, by rw [empty]; rfl, rfl, rfl⟩
    · cases step
  | complete index =>
    obtain ⟨job, found, step⟩ := bind_eq_some_iff.1 step
    split_ifs at step with status
    cases step
    refine carried.goOn found rfl rfl fun _ rows fits => ?_
    simpa only [FanoutJob.Fits, status] using fits
  | fail index =>
    obtain ⟨job, found, step⟩ := bind_eq_some_iff.1 step
    split at step
    · cases step
      refine carried.goOn found rfl rfl fun own rows fits => ?_
      obtain ⟨status, budget⟩ := undisturbed job found own
      have empty : rows = [] := by simpa only [FanoutJob.Fits, status] using fits
      simpa only [FanoutJob.Fits, FanoutJob.retried, if_pos budget] using empty
    · cases step
  | stall index goesOn =>
    obtain ⟨job, found, step⟩ := bind_eq_some_iff.1 step
    split at step
    · cases step
      refine carried.goOn found rfl rfl fun own rows fits => ?_
      obtain ⟨status, budget⟩ := undisturbed job found own
      have empty : rows = [] := by simpa only [FanoutJob.Fits, status] using fits
      simpa only [FanoutJob.Fits, FanoutJob.recovered, if_pos budget] using empty
    · cases step
  | stray index id =>
    obtain ⟨job, found, step⟩ := bind_eq_some_iff.1 step
    split_ifs at step with status
    split at step
    · cases step
      exact carried.writes found rfl rfl fun own => absurd own (undisturbed job found)
    · cases step
  | leave index =>
    obtain ⟨job, found, step⟩ := bind_eq_some_iff.1 step
    split_ifs at step with status
    cases step
    exact carried.goOn found rfl rfl fun _ rows fits => fits

theorem read_text (id : Option Uuid) : (id.map Uuid.text).bind Uuid.ofText = id := by
  cases id with
  | none => rfl
  | some id => rw [map_some, bind_some, Uuid.ofText_text]

theorem rowsOf_queued (found : chain.jobs[index]? = some job) (origin : job.origin = eventId)
    (only : ∀ place other, chain.jobs[place]? = some other → other.origin = eventId → place = index) :
    chain.rowsOf eventId = written chain.rows index := by
  unfold Fanout.rowsOf written
  refine congrArg (List.map Prod.snd) (filter_congr fun row _ => ?_)
  by_cases same : row.1 = index
  · simp [same, found, origin]
  · cases here : chain.jobs[row.1]? with
    | none => simp [same]
    | some other =>
      have foreign : other.origin ≠ eventId := fun own => same (only row.1 other here own)
      simp [same, foreign]

/-- **One row carries the event once all is processed.** -/
theorem Carried.once (carried : Carried eventId chain) (emitted : (eventId, input) ∈ chain.emissions)
    (audit : input.eventType = AUDIT_EVENT_CREATED) (processed : chain.Processed eventId) :
    chain.CarriedOnce eventId input := by
  rcases carried.stage with ⟨input', inside, other⟩ | stage
  · obtain rfl := carried.known.unique emitted inside
    exact absurd audit other
  · cases stage with
    | unqueued none waiting =>
      have known : eventId ∈ chain.world.emitted := by
        rw [← carried.known.keys]
        exact mem_map_of_mem emitted
      obtain ⟨row, inside, same, live⟩ := waiting.row known
      rw [processed.rows row inside same] at live
      cases live
    | @queued index job found origin only fits spent =>
      have inside := mem_of_getElem? found
      have rows := rowsOf_queued found origin only
      obtain ⟨input', inside', tenant, store⟩ := carried.jobs job inside
      obtain rfl := carried.known.unique emitted (origin ▸ inside')
      have complete : ∃ row, written chain.rows index = [row] ∧ row.Carries job.data := by
        rcases (processed.jobs job inside origin).1 with status | status
        · simpa only [FanoutJob.Fits, status] using fits
        · simp only [FanoutJob.Fits, status] at fits
      obtain ⟨row, single, tenant', store'⟩ := complete
      refine ⟨row, rows.trans single, ?_, ?_⟩
      · rw [tenant', tenant, read_text]
      · rw [store', store, read_text]

/-- **Along steps that do not disturb it, an audit event has one row once all is processed, and the row
has its tenant and its store.** -/
theorem fanout_once
    (undisturbed : (fanout pipeline).Reaches (Undisturbed pipeline eventId) (fanout pipeline).start chain)
    (emitted : (eventId, input) ∈ chain.emissions) (audit : input.eventType = AUDIT_EVENT_CREATED)
    (processed : chain.Processed eventId) : chain.CarriedOnce eventId input := by
  have carried : Carried eventId chain := Machine.Reaches.invariant undisturbed Carried.start
    fun _ _ _ carried fits step => carried_step carried fits step
  exact carried.once emitted audit processed

end Chain

/-! ### An emission and its rows -/

section Samples

instance (chain : Fanout) (eventId : Uuid) : Decidable (chain.Processed eventId) :=
  decidable_of_iff ((∀ row ∈ chain.world.rows, row.eventId = eventId → row.terminal = true) ∧
    (∀ hand ∈ chain.world.hands, hand.event.eventId ≠ eventId) ∧
    (∀ txn ∈ chain.world.opened, eventId ∉ txn.ids) ∧
    ∀ job ∈ chain.jobs, job.origin = eventId →
      (job.status = .completed ∨ job.status = .failed) ∧ job.strays = 0)
    ⟨fun ⟨rows, hands, opened, jobs⟩ => ⟨rows, hands, opened, jobs⟩,
      fun ⟨rows, hands, opened, jobs⟩ => ⟨rows, hands, opened, jobs⟩⟩

theorem fifty_pos (_drainer : Nat) : 0 < 50 := by
  decide

def Pipeline.sample : Pipeline where
  batchSize _ := 50
  positive := fifty_pos
  decode _ := .object [("actor_user_id", .null), ("actor_label", .null), ("tenant_id", .null),
    ("store_id", .null), ("action", .string "auth.login"), ("target_type", .null),
    ("target_id", .null), ("request_id", .null), ("metadata", .object [])]

def OutboxEmitInput.audit : OutboxEmitInput where
  eventType := AUDIT_EVENT_CREATED
  tenantId := .sample 1
  storeId := some (.sample 2)
  payload := ""
  correlationId := none
  occurredAt := none

/-- The event is delivered, and a worker takes its job. -/
def delivered : List FanoutEvent :=
  [.outbox (.emit .audit (.sample 3)), .outbox (.claim 0 0), .outbox (.commit 0 true),
    .deliver 0 0 .answered, .outbox (.mark 0 0), .outbox (.commit 0 true), .take 0]

def fanoutAfter (events : List FanoutEvent) : Option Fanout :=
  (fanout .sample).run (fanout .sample).start events

/-- The worker is gone after its INSERT, and another one takes the job. -/
def repeated : List FanoutEvent :=
  delivered ++ [.insert 0 (.sample 4), .stall 0 false, .take 0, .insert 0 (.sample 5), .complete 0]

def Fanout.doubled (chain : Fanout) : Bool :=
  (.sample 3, OutboxEmitInput.audit) ∈ chain.emissions && chain.Processed (.sample 3) &&
    (chain.rowsOf (.sample 3)).length = 2

/-- A stall after the INSERT writes a second row. -/
theorem fanout_twice :
    ¬
      ∀ (pipeline : Pipeline) (chain : Fanout) (eventId : Uuid) (input : OutboxEmitInput),
      (fanout pipeline).Reachable chain → (eventId, input) ∈ chain.emissions →
      input.eventType = AUDIT_EVENT_CREATED → chain.Processed eventId → chain.CarriedOnce eventId input := by
  intro once
  have ran : (fanoutAfter repeated).any Fanout.doubled = true := by decide +kernel
  cases reached : fanoutAfter repeated with
  | none =>
    rw [reached] at ran
    cases ran
  | some chain =>
    rw [reached] at ran
    simp only [any_some, Fanout.doubled, and_eq_true, decide_eq_true_eq] at ran
    obtain ⟨⟨emitted, processed⟩, two⟩ := ran
    unfold fanoutAfter at reached
    obtain ⟨row, single, -⟩ :=
      once .sample chain (.sample 3) .audit (Machine.run_later reached) emitted rfl processed
    rw [single] at two
    cases two

/-- An event that disturbs nothing, whatever the state. -/
def FanoutEvent.calm : FanoutEvent → Bool
  | .outbox (.purge ..) | .fail _ | .stall .. | .stray .. => false
  | .deliver _ _ ending => ending = .answered
  | _ => true

theorem undisturbed_of_calm {pipeline : Pipeline} {eventId : Uuid} {chain : Fanout} {event : FanoutEvent}
    (accepts : ∀ claimed : ClaimedOutboxEvent, ∃ data, auditJob claimed (pipeline.decode claimed.payload) =
        .ok data) (calm : event.calm = true) : Undisturbed pipeline eventId chain event := by
  cases event with
  | outbox event =>
    cases event with
    | purge => cases calm
    | _ => trivial
  | deliver index date ending =>
    obtain rfl : ending = .answered := of_decide_eq_true calm
    exact fun hand _ _ => ⟨nofun, fun _ => ⟨.inl rfl, accepts hand.event⟩⟩
  | fail | stall | stray => cases calm
  | _ => trivial

theorem fanout_once_sample : ∃ chain : Fanout, chain.Processed (.sample 3) ∧
    chain.CarriedOnce (.sample 3) .audit := by
  have ran : (fanoutAfter (delivered ++ [.insert 0 (.sample 4), .complete 0])).any
      (fun chain => (.sample 3, OutboxEmitInput.audit) ∈ chain.emissions &&
        chain.Processed (.sample 3)) = true := by decide +kernel
  cases reached : fanoutAfter (delivered ++ [.insert 0 (.sample 4), .complete 0]) with
  | none =>
    rw [reached] at ran
    cases ran
  | some chain =>
    rw [reached] at ran
    simp only [any_some, and_eq_true, decide_eq_true_eq] at ran
    unfold fanoutAfter at reached
    have calm : (fanout .sample).Reaches (fun _ event => event.calm = true)
        (fanout .sample).start chain := Machine.run_reaches reached (by decide +kernel)
    have undisturbed : (fanout .sample).Reaches (Undisturbed .sample (.sample 3)) (fanout .sample).start chain :=
      calm.mono fun _ _ => undisturbed_of_calm fun _ => ⟨_, rfl⟩
    exact ⟨chain, ran.2, fanout_once undisturbed ran.1 rfl ran.2⟩

end Samples

end DataPulse.Outbox
