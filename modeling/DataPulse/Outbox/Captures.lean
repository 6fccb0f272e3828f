/-
**Captured sales on their way to the processing queue.**

`SaleCapturedConsumer` turns a `sale.captured` event into a job of the `sale-processing` queue, under an
id made of its own name, a colon and the event's id, so that a second delivery adds no second job.
The queue refuses such an id (`validId`).

* `captured_never`: no event is bridged, in any run of deliveries.
-/

import DataPulse.Outbox.Drainer
import DataPulse.Platform.Json

namespace DataPulse.Outbox

open Platform

/-! ### Queues -/

/-- What a consumer throws: an `Error`, and its message. -/
structure ConsumerError where
  thrown : Thrown
  message : String

/-- A job as the queue holds it. -/
structure Job (Data : Type) where
  id : String
  name : String
  data : Data

/-- The custom ids that `Job.validateOptions` lets through: without a `:`, or of three parts with one
between them. -/
def validId (jobId : String) : Bool := jobId.toList.count ':' = 0 || jobId.toList.count ':' = 2

/-- `Queue.add(name, data, { jobId })` of BullMQ on the jobs of a queue, as the repository records it. -/
structure QueueApi (Data : Type) where
  add : List (Job Data) → String → Data → String → Except ConsumerError (List (Job Data))
  /-- Another id is refused. -/
  refuses : ∀ jobs name data jobId, validId jobId = false → ∃ err, add jobs name data jobId = .error err
  /-- An id that exists already adds nothing. -/
  ignores : ∀ jobs name data jobId, validId jobId = true → (∃ job ∈ jobs, job.id = jobId) →
    add jobs name data jobId = .ok jobs
  /-- Any other job is added. -/
  appends : ∀ jobs name data jobId, validId jobId = true → (∀ job ∈ jobs, job.id ≠ jobId) →
    add jobs name data jobId = .ok (jobs ++ [⟨jobId, name, data⟩])

/-- A queue that does just this. -/
def QueueApi.plain (Data : Type) : QueueApi Data where
  add jobs name data jobId :=
    if validId jobId then
      if ∃ job ∈ jobs, job.id = jobId then .ok jobs else .ok (jobs ++ [⟨jobId, name, data⟩])
    else .error ⟨.error "Error", "Custom Id cannot contain :"⟩
  refuses _ _ _ _ invalid := ⟨_, if_neg (by simp [invalid])⟩
  ignores _ _ _ _ valid present := (if_pos valid).trans (if_pos present)
  appends _ _ _ _ valid absent := (if_pos valid).trans (if_neg fun ⟨job, member, same⟩ =>
    absent job member same)

/-! ### The consumer -/

def SALE_CAPTURED_CONSUMER_ID : String := "worker.sale.captured"

def OUTBOX_SALE_PROCESSING_JOB_NAME : String := "sale-processing"

/-- `OutboxEventEnvelope`, with the decoded payload. -/
structure OutboxEventEnvelope where
  eventId : Uuid
  eventType : String
  tenantId : Uuid
  storeId : Option Uuid
  payload : Json
  correlationId : Option Uuid
  attempts : Nat

structure SaleCapturedPayload where
  saleId : String
  storeId : String

structure SaleProcessingJob where
  saleId : String
  tenantId : Uuid
  storeId : String
  correlationId : Option Uuid

/-- `SaleCapturedPayloadSchema.safeParse(payload)`. -/
def parseSaleCaptured : Json → Except Issue SaleCapturedPayload :=
  Json.safeParse
    (fun fields => Json.textField fields "sale_id" uuidIssues ++
      Json.textField fields "store_id" uuidIssues)
    fun fields => ⟨(Json.textOf fields "sale_id").getD "", (Json.textOf fields "store_id").getD ""⟩

def jobId (eventId : Uuid) : String := SALE_CAPTURED_CONSUMER_ID ++ ":" ++ eventId.text

def saleJob (event : OutboxEventEnvelope) (payload : SaleCapturedPayload) : SaleProcessingJob where
  saleId := payload.saleId
  tenantId := event.tenantId
  storeId := payload.storeId
  correlationId := event.correlationId

section Consumer

variable (api : QueueApi SaleProcessingJob)

/-- `SaleCapturedConsumer.handle(event)`: the jobs of the queue after it, or what it throws. -/
def handle (jobs : List (Job SaleProcessingJob)) (event : OutboxEventEnvelope) :
    Except ConsumerError (List (Job SaleProcessingJob)) :=
  match parseSaleCaptured event.payload with
  | .error issue =>
    .error ⟨.error "Error", "SaleCapturedConsumer: malformed payload — " ++ issue.detail⟩
  | .ok payload =>
    api.add jobs OUTBOX_SALE_PROCESSING_JOB_NAME (saleJob event payload) (jobId event.eventId)

def deliver (jobs : List (Job SaleProcessingJob)) (event : OutboxEventEnvelope) :
    List (Job SaleProcessingJob) :=
  match handle api jobs event with
  | .ok jobs' => jobs'
  | .error _ => jobs

def deliverAll : List (Job SaleProcessingJob) → List OutboxEventEnvelope → List (Job SaleProcessingJob) :=
  List.foldl (deliver api)

end Consumer

def OutboxEventEnvelope.WellFormed (event : OutboxEventEnvelope) : Prop :=
  event.eventType = "sale.captured" ∧ ∃ payload, parseSaleCaptured event.payload = .ok payload

/-- The jobs that process the sale of an event: those under its id. -/
def jobsOf (jobs : List (Job SaleProcessingJob)) (event : OutboxEventEnvelope) :
    List (Job SaleProcessingJob) :=
  jobs.filter fun job => job.id = jobId event.eventId

/-- The event reaches the queue: each of its deliveries succeeds, one job carries it with its tenant, and
no other event that was delivered has that job. -/
structure Bridged (api : QueueApi SaleProcessingJob) (jobs : List (Job SaleProcessingJob))
    (deliveries : List OutboxEventEnvelope) (event : OutboxEventEnvelope) : Prop where
  succeeds : ∀ before after, deliveries = before ++ event :: after →
    ∃ jobs', handle api (deliverAll api jobs before) event = .ok jobs'
  carried : ∃ job, jobsOf (deliverAll api jobs deliveries) event = [job] ∧
    job.data.tenantId = event.tenantId
  unshared : ∀ other ∈ deliveries, other.eventId ≠ event.eventId →
    ∀ job ∈ jobsOf (deliverAll api jobs deliveries) event,
      job ∉ jobsOf (deliverAll api jobs deliveries) other

section Captures

variable {api : QueueApi SaleProcessingJob} {jobs : List (Job SaleProcessingJob)}
  {deliveries : List OutboxEventEnvelope} {event : OutboxEventEnvelope}

theorem colon_notMem_text (id : Uuid) : ':' ∉ id.text.toList := by
  intro mem
  have canonical := id.canonical
  simp only [isCanonicalUuid, and_eq_true, all_eq_true] at canonical
  rcases Uuid.mem_splitOn '-' _ _ mem with dash | ⟨group, inGroups, inGroup⟩
  · exact absurd dash (by decide)
  · exact absurd (canonical.2 group inGroups ':' inGroup) (by decide)

/-- **The id has one colon**: that between the name of the consumer and the event's id. -/
theorem jobId_invalid (eventId : Uuid) : validId (jobId eventId) = false := by
  have one : (jobId eventId).toList.count ':' = 1 := by
    rw [jobId, String.toList_append, String.toList_append, List.count_append, List.count_append,
      List.count_eq_zero.2 (colon_notMem_text eventId)]
    decide
  simp [validId, one]

/-- **The queue refuses the job of every event.** -/
theorem handle_refused (api : QueueApi SaleProcessingJob) (jobs : List (Job SaleProcessingJob))
    (event : OutboxEventEnvelope) : ∃ err, handle api jobs event = .error err := by
  unfold handle
  split
  · exact ⟨_, rfl⟩
  · rename_i payload _
    exact api.refuses jobs OUTBOX_SALE_PROCESSING_JOB_NAME (saleJob event payload)
      (jobId event.eventId) (jobId_invalid _)

/-- **No captured sale reaches the queue, whatever is delivered and in whatever order.** -/
theorem captured_never (delivered : event ∈ deliveries) : ¬ Bridged api jobs deliveries event := by
  intro bridged
  obtain ⟨before, after, split⟩ := append_of_mem delivered
  obtain ⟨jobs', succeeded⟩ := bridged.succeeds before after split
  obtain ⟨err, refused⟩ := handle_refused api (deliverAll api jobs before) event
  rw [refused] at succeeded
  cases succeeded

end Captures

/-! ### A captured sale -/

section Samples

def OutboxEventEnvelope.captured : OutboxEventEnvelope where
  eventId := .sample 0
  eventType := "sale.captured"
  tenantId := .sample 1
  storeId := some (.sample 2)
  payload := .object [("sale_id", .string (sample 3).text), ("store_id", .string (sample 2).text)]
  correlationId := none
  attempts := 1

/-- A captured sale that is delivered once is not bridged. -/
theorem captured_unbridged :
    ¬
      ∀ (api : QueueApi SaleProcessingJob) (jobs : List (Job SaleProcessingJob))
      (deliveries : List OutboxEventEnvelope) (event : OutboxEventEnvelope), event.WellFormed →
      event ∈ deliveries → Bridged api jobs deliveries event := by
  intro bridged
  obtain ⟨jobs, succeeded⟩ := (bridged (.plain _) [] [.captured] .captured ⟨rfl, _, rfl⟩
    mem_cons_self).succeeds [] [] rfl
  have refused : handle (.plain _) [] .captured = .error ⟨.error "Error", "Custom Id cannot contain :"⟩ :=
    rfl
  cases refused.symm.trans succeeded

theorem captured_never_sample : ¬ Bridged (.plain _) [] [.captured, .captured] .captured :=
  captured_never mem_cons_self

end Samples

end DataPulse.Outbox
