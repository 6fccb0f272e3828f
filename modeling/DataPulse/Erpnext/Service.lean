/-
**Who moves a posting.**

`PostingRequestedConsumer` of the worker, which creates the row; `ErpnextPostingService`, whose
connector pulls pending rows and acks what became of them; and `repairPosting` of the console. Each is a
client program over the statements of `Ledger`, and `erpnextServer` is all of them on one server,
together with whoever else writes sales and maps (`record`).

The guards in front of the routes are not part of the model: the identifiers of a call were parsed
(`ParseUUIDPipe`), and its tenant is that of its principal, or of the event's envelope. Metrics are left
out.
-/

import DataPulse.Erpnext.Ledger
import DataPulse.Lib.Locks
import DataPulse.Platform.Schema

namespace DataPulse.Erpnext

open Lib Lib.Prog Platform
open Inventory (TenantContext SoldQuantity)
open Sales (SaleLine TerminalKind)

/-! ### Errors -/

/-- What the services throw. -/
inductive Thrown where
  | pg (error : PgError)
  | error (message : String)
  | ackNotFound
  | ackConflict
  | ackValidation (message : String)
  | repairNotFound
  deriving DecidableEq

/-- The message of each error of the services. -/
def Thrown.message : Thrown → Option String
  | pg _ => none
  | error message => some message
  | ackNotFound => some "not found"
  | ackConflict => some "idempotency key conflict"
  | ackValidation message => some message
  | repairNotFound => some "not found"

/-- A method, or a part of one. -/
abbrev Service := Prog Stmt Reply Fresh Thrown

/-- `client.query(…)`. -/
def clientQuery (statement : Stmt) : Service (Reply statement) := query statement

/-- `newId()`. -/
def newUuid : Service Uuid :=
  .draw fun
    | .uuid id => .done id
    | .sequence _ => .fail (.error "not a UUID")

/-- `nextval` of the identity column, which starts at 1. -/
def nextSequence : Service Nat :=
  .draw fun
    | .sequence number => .done (number + 1)
    | .uuid _ => .fail (.error "not a sequence value")

/-! ### The consumer -/

/-- A field of a JSON object: absent, a text, or a value of another type. -/
inductive Field where
  | missing
  | text (value : String)
  | other (received : String)

/-- The payload of an `erpnext.posting.requested` event as it was stored. -/
inductive RawPayload where
  | object (saleId storeId kind sourceRefId : Field)
  | other (received : String)

/-- The payload once parsed. -/
structure PostingRequestedPayload where
  saleId : Uuid
  storeId : Uuid
  kind : PostingKind
  sourceRefId : Uuid

/-- `z.string().uuid()`. -/
def Field.uuid (path : String) : Field → Except Issue Uuid
  | missing => .error ⟨[path], "Required"⟩
  | other received => .error ⟨[path], "Expected string, received " ++ received⟩
  | text value =>
    match Uuid.ofText value with
    | some id => .ok id
    | none => .error ⟨[path], "Invalid uuid"⟩

/-- `z.enum(["sale_post", "reversal"])`. -/
def Field.kind (path : String) : Field → Except Issue PostingKind
  | missing => .error ⟨[path], "Required"⟩
  | other received => .error ⟨[path], "Expected 'sale_post' | 'reversal', received " ++ received⟩
  | text "sale_post" => .ok .salePost
  | text "reversal" => .ok .reversal
  | text value => .error ⟨[path],
      "Invalid enum value. Expected 'sale_post' | 'reversal', received '" ++ value ++ "'"⟩

/-- `PostingRequestedPayloadSchema.safeParse(payload)`, with the first issue. -/
def RawPayload.parse : RawPayload → Except Issue PostingRequestedPayload
  | other received => .error ⟨[], "Expected object, received " ++ received⟩
  | object saleId storeId kind sourceRefId => do
      let saleId ← saleId.uuid "sale_id"
      let storeId ← storeId.uuid "store_id"
      let kind ← kind.kind "kind"
      let sourceRefId ← sourceRefId.uuid "source_ref_id"
      .ok ⟨saleId, storeId, kind, sourceRefId⟩

/-- The error of a payload with this first issue. -/
def malformed (issue : Issue) : String :=
  let path := ".".intercalate issue.path
  "PostingRequestedConsumer: malformed payload — " ++ (if path = "" then "<root>" else path) ++ ": " ++
    issue.message

/-- The event with its envelope. -/
structure PostingRequestedEvent where
  tenantId : Uuid
  payload : RawPayload
  correlationId : Option Uuid

/-- With which status a posting starts. -/
inductive Verdict where
  | pending
  | permanentlyRejected (rejectionCategory : String)
  deriving DecidableEq

/-- `verdict.status`. -/
def Verdict.status : Verdict → PostingState
  | pending => .pending
  | permanentlyRejected _ => .permanentlyRejected

/-- `verdict.rejectionCategory`, or NULL. -/
def Verdict.rejectionCategory : Verdict → Option String
  | pending => none
  | permanentlyRejected category => some category

/-- The store needs a warehouse, then every line an item. -/
def resolveEligibility (saleId storeId : Uuid) : Service Verdict := do
  let warehouses : Nat ← clientQuery (.countWarehouses storeId)
  if warehouses = 0 then return .permanentlyRejected "unmapped_store"
  else do
    let unmapped : Nat ← clientQuery (.countUnmapped saleId)
    if 0 < unmapped then return .permanentlyRejected "unmapped_item"
    else return .pending

/-- The INSERT of the posting, which may find its key taken. -/
def PostingRequestedEvent.project (event : PostingRequestedEvent)
    (payload : PostingRequestedPayload) : Service Unit := do
  let verdict ← resolveEligibility payload.saleId payload.storeId
  let id ← newUuid
  let sequence ← nextSequence
  let _inserted ← clientQuery (.insertPosting {
    id := id
    tenantId := event.tenantId
    storeId := payload.storeId
    saleId := payload.saleId
    kind := payload.kind
    sourceRefId := payload.sourceRefId
    status := verdict.status
    rejectionCategory := verdict.rejectionCategory
    correlationId := event.correlationId
    sequence := sequence })
  return ()

/-- `handle(event)`. -/
def PostingRequestedEvent.handle (event : PostingRequestedEvent) : Service Unit :=
  match event.payload.parse with
  | .error issue => .fail (.error (malformed issue))
  | .ok payload => event.project payload

/-! ### The ack -/

/-- How often a posting is offered again. -/
def POSTING_RETRY_BUDGET : Nat := 5

/-- What became of a posting. -/
inductive AckOutcomeKind where
  | posted
  | failedTransient
  | permanentlyRejected
  deriving DecidableEq

/-- The status of each outcome. -/
def AckOutcomeKind.state : AckOutcomeKind → PostingState
  | posted => .posted
  | failedTransient => .failedTransient
  | permanentlyRejected => .permanentlyRejected

/-- `AckOutcomeInput`; of the reason, whose message nothing reads, its category. -/
structure AckOutcomeInput where
  tenantId : Uuid
  workItemRef : Uuid
  outcome : AckOutcomeKind
  documentRef : Option DocumentRef
  reason : Option String

/-- What an ack is answered. -/
structure RecordedOutcome where
  workItemRef : Uuid
  outcome : PostingState
  documentRef : Option DocumentRef
  recordedAt : Int
  dlqueued : Bool
  deriving DecidableEq

/-- The outcome, and whether it stood already. -/
structure AckOutcomeResult where
  outcome : RecordedOutcome
  replayed : Bool
  deriving DecidableEq

/-- `rows[0]!.updated_at`. -/
def updatedAt : Option Int → Service Int
  | some time => .done time
  | none => .fail (.error "Cannot read properties of undefined (reading 'updated_at')")

/-- The outcome that a row records. -/
def PostingStatus.project (row : PostingStatus) (workItemRef : Uuid) : RecordedOutcome where
  workItemRef := workItemRef
  outcome := row.status
  documentRef := row.documentRef
  recordedAt := row.updatedAt
  dlqueued := decide (row.status = .permanentlyRejected)

namespace AckOutcomeInput

/-- A posted row must name the same document. -/
def sameLogicalOutcome (input : AckOutcomeInput) (row : PostingStatus) : Bool :=
  if row.status ≠ input.outcome.state then false
  else if row.status = .posted then
    row.documentRef.isSome && row.documentRef = input.documentRef
  else true

/-- `posted`, which needs its document. -/
def applyPosted (input : AckOutcomeInput) : Service RecordedOutcome :=
  match input.documentRef with
  | none => .fail (.ackValidation "documentRef is required when outcome is 'posted'")
  | some documentRef => do
      let updated ← clientQuery (.post input.workItemRef documentRef)
      let recordedAt ← Erpnext.updatedAt updated
      return ⟨input.workItemRef, .posted, some documentRef, recordedAt, false⟩

end AckOutcomeInput

/-- `permanently_rejected`. -/
def applyRejected (workItemRef : Uuid) (category : String) : Service RecordedOutcome := do
  let updated ← clientQuery (.reject workItemRef category)
  let recordedAt ← Erpnext.updatedAt updated
  return ⟨workItemRef, .permanentlyRejected, none, recordedAt, true⟩

/-- The row is offered again until the budget is spent. -/
def applyTransient (workItemRef : Uuid) (retryCount : Nat) : Service RecordedOutcome :=
  if POSTING_RETRY_BUDGET ≤ retryCount then applyRejected workItemRef "retry_budget_exhausted"
  else do
    let sequence ← nextSequence
    let updated ← clientQuery (.reoffer workItemRef sequence)
    let recordedAt ← Erpnext.updatedAt updated
    return ⟨workItemRef, .failedTransient, none, recordedAt, false⟩

namespace AckOutcomeInput

/-- The outcome on a row that is not terminal. -/
def apply (input : AckOutcomeInput) (row : PostingStatus) : Service RecordedOutcome :=
  match input.outcome with
  | .posted => input.applyPosted
  | .permanentlyRejected => applyRejected input.workItemRef (input.reason.getD "other")
  | .failedTransient => applyTransient input.workItemRef row.retryCount

/-- `ackOutcome(input)`. -/
def ackOutcome (input : AckOutcomeInput) : Service AckOutcomeResult := do
  let row ← clientQuery (.lockPosting input.workItemRef)
  match (row : Option PostingStatus) with
  | none => .fail .ackNotFound
  | some row =>
    if row.status = .posted ∨ row.status = .permanentlyRejected then
      if input.sameLogicalOutcome row then return ⟨row.project input.workItemRef, true⟩
      else .fail .ackConflict
    else do
      let outcome ← input.apply row
      return ⟨outcome, false⟩

end AckOutcomeInput

/-! ### The repair -/

/-- The retries of a requeued posting. -/
def REPAIR_RESET_RETRY_COUNT : Nat := 0

/-- A posting to repair, and by whom. -/
structure RepairPostingInput where
  tenantId : Uuid
  actorUserId : Uuid
  workItemRef : Uuid

/-- `RepairResult`, of a posting. -/
structure RepairResult where
  targetRef : Uuid
  outcome : RepairOutcome
  resolvedDocumentRef : Option DocumentRef
  recordedAt : Int
  replayed : Bool

/-- Whether the store and all lines are mapped now. -/
def resolvePostingEligibility (saleId storeId : Uuid) : Service Bool := do
  let warehouses : Nat ← clientQuery (.countWarehouses storeId)
  if warehouses = 0 then return false
  else do
    let unmapped : Nat ← clientQuery (.countUnmapped saleId)
    return decide (unmapped = 0)

namespace RepairPostingInput

/-- The attempt and its audit row. -/
def recordRepair (input : RepairPostingInput) (outcome : RepairOutcome)
    (documentRef : Option DocumentRef) (replayed : Bool) : Service RepairResult := do
  let id ← newUuid
  let inserted ← clientQuery
    (.insertAttempt id input.tenantId input.workItemRef input.actorUserId outcome documentRef)
  let auditId ← newUuid
  clientQuery (.insertAudit ⟨auditId, input.actorUserId, input.tenantId,
    "erpnext_reconciliation.posting.repaired", "erpnext_posting_status", input.workItemRef, outcome,
    "re_post"⟩)
  let recordedAt ← Erpnext.updatedAt inserted
  return ⟨input.workItemRef, outcome, documentRef, recordedAt, replayed⟩

/-- What the repair does to a row that is neither posted nor pending. -/
def reevaluate (input : RepairPostingInput) (row : PostingStatus) : Service RepairResult := do
  let resolvable ← resolvePostingEligibility row.saleId row.storeId
  if !resolvable then input.recordRepair .stillFailing none false
  else do
    let sequence ← nextSequence
    clientQuery (.requeue input.workItemRef sequence REPAIR_RESET_RETRY_COUNT)
    input.recordRepair .eligibleAgain none false

/-- `repairPosting(input)`. -/
def repairPosting (input : RepairPostingInput) : Service RepairResult := do
  let row ← clientQuery (.lockPosting input.workItemRef)
  match (row : Option PostingStatus) with
  | none => .fail .repairNotFound
  | some row =>
    if row.status = .posted then input.recordRepair .noOpEcho row.documentRef true
    else if row.status = .pending then input.recordRepair .noOpEcho none true
    else input.reevaluate row

end RepairPostingInput

/-! ### The feed -/

/-- The longest page. -/
def POSTING_FEED_MAX_PAGE : Int := 500

/-- A page of the feed, asked for. -/
structure PullPostingsInput where
  tenantId : Uuid
  since : Option Nat
  limit : Int
  deriving DecidableEq

/-- A line of a work item. -/
structure WorkItemLine where
  lineName : String
  unitPrice : Numeric
  currencyCode : String
  quantity : SoldQuantity
  lineAmount : Numeric
  taxAmount : Option Numeric
  unit : String
  erpnextItemRef : String
  tenantProductRef : Option Uuid

/-- What a reversal reverses. -/
structure ReversalRef where
  sourceSystem : String
  externalId : String
  reversalKind : TerminalKind

/-- The sale of a work item. -/
structure WorkItemSale where
  saleRef : Uuid
  storeId : Uuid
  currencyCode : String
  posTotal : Numeric
  occurredAt : Int
  businessDate : String
  sourceSystem : String
  externalId : String
  lines : List WorkItemLine

/-- A posting as the connector gets it. -/
structure PostingWorkItem where
  workItemRef : Uuid
  kind : PostingKind
  sourceSystem : String
  externalId : String
  payloadHash : String
  businessDate : String
  reversalOf : Option ReversalRef
  sale : WorkItemSale
  itemCursor : Nat

/-- A page of the feed. -/
structure PullPostingsResult where
  items : List PostingWorkItem
  cursor : Option Nat
  nextPageToken : Option Nat

/-- The wire shape of a line, unless its map was retired. -/
def wireLine : MappedLine → Option WorkItemLine
  | (line, erpnextItemRef) => (erpnextItemRef.filter (· ≠ "")).map fun ref => {
      lineName := line.lineName
      unitPrice := line.unitPrice
      currencyCode := line.currencyCode
      quantity := line.quantity
      lineAmount := line.lineAmount
      taxAmount := line.taxAmount
      unit := line.unit
      erpnextItemRef := ref
      tenantProductRef := line.tenantProductRef }

/-- The work item of a row. -/
def PostingStatus.workItem (row : PostingStatus) (sale : SaleFact) (lines : List WorkItemLine)
    (reversal : Option TerminalKind) : PostingWorkItem where
  workItemRef := row.id
  kind := row.kind
  sourceSystem := row.sourceSystem
  externalId := row.externalId
  payloadHash := row.payloadHash
  businessDate := sale.businessDate
  reversalOf := reversal.map fun kind => ⟨sale.sourceSystem, sale.externalId, kind⟩
  sale := {
    saleRef := sale.id
    storeId := sale.storeId
    currencyCode := sale.currencyCode
    posTotal := sale.posTotal
    occurredAt := sale.occurredAt
    businessDate := sale.businessDate
    sourceSystem := sale.sourceSystem
    externalId := sale.externalId
    lines := lines }
  itemCursor := row.sequence

/-- The end of `buildWorkItem`, once every line is mapped. -/
def classifyReversal (row : PostingStatus) (sale : SaleFact) (lines : List WorkItemLine) :
    Service (Option PostingWorkItem) :=
  match row.kind with
  | .salePost => return some (row.workItem sale lines none)
  | .reversal => do
      let kind ← clientQuery (.reversalKind row.sourceRefId)
      return (kind : Option TerminalKind).map fun kind => row.workItem sale lines (some kind)

/-- None without the sale, or with a line unmapped. -/
def buildWorkItem (row : PostingStatus) : Service (Option PostingWorkItem) := do
  let sale ← clientQuery (.selectSale row.saleId)
  match (sale : Option SaleFact) with
  | none => return none
  | some sale => do
      let lines ← clientQuery (.selectLines row.saleId)
      match List.mapM wireLine lines with
      | none => return none
      | some lines => classifyReversal row sale lines

/-- `Math.min(Math.max(1, input.limit), POSTING_FEED_MAX_PAGE)`. -/
def PullPostingsInput.pageSize (input : PullPostingsInput) : Nat :=
  (min (max 1 input.limit) POSTING_FEED_MAX_PAGE).toNat

/-- `pullPostings(input)`. -/
def PullPostingsInput.pullPostings (input : PullPostingsInput) : Service PullPostingsResult := do
  let rows ← clientQuery (.pendingPage input.since input.pageSize)
  let items ← forEach buildWorkItem rows
  let advanced := (List.getLast? rows).map PostingStatus.sequence
  return ⟨items.filterMap id, advanced, if List.length rows = input.pageSize then advanced else none⟩

/-! ### All of them on one server -/

/-- The operations of the services. -/
inductive Operation where
  | record (fact : Fact)
  | handle (event : PostingRequestedEvent)
  | ackOutcome (input : AckOutcomeInput)
  | repairPosting (input : RepairPostingInput)
  | pullPostings (input : PullPostingsInput)

/-- What each operation returns. -/
inductive Body where
  | done
  | acked (result : AckOutcomeResult)
  | repaired (result : RepairResult)
  | page (result : PullPostingsResult)

namespace Operation

/-- The tenant whose context the operation sets. -/
def tenant : Operation → Option Uuid
  | record _ => none
  | handle event => some event.tenantId
  | ackOutcome input => some input.tenantId
  | repairPosting input => some input.tenantId
  | pullPostings input => some input.tenantId

/-- What each operation runs. -/
def program : Operation → Service Body
  | record fact => (clientQuery (.recordFact fact)).bind fun _ => .done .done
  | handle event => event.handle.bind fun _ => .done .done
  | ackOutcome input => input.ackOutcome.bind fun result => .done (.acked result)
  | repairPosting input => input.repairPosting.bind fun result => .done (.repaired result)
  | pullPostings input => input.pullPostings.bind fun result => .done (.page result)

end Operation

/-- An operation, and the time of its transaction. -/
structure Call where
  now : Int
  operation : Operation

/-- The context that its statements see. -/
def Call.context (call : Call) : TenantContext := ⟨call.operation.tenant, call.now⟩

@[simp] theorem Call.context_now (call : Call) : call.context.now = call.now := rfl

/-- **The posting services as clients of one server.** -/
def erpnextServer (users : Uuid → Bool) : System Stmt Reply Fresh Thrown PgError Write Call Body where
  program call := call.operation.program
  exec call writes statement := exec users call.context writes statement
  thrown := .pg
  refused := .plain .failedTransaction
  clash := clash

/-- What any order of steps leads to. -/
abbrev Reachable (users : Uuid → Bool) := Interleave.Reachable (erpnextServer users)

/-- The clients and the commits. -/
abbrev Config := Interleave.Config Stmt Reply Fresh Thrown PgError Write Call Body

/-- A client. -/
abbrev Proc := Interleave.Proc Stmt Reply Fresh Thrown PgError Write Call Body

/-- What a client was answered. -/
abbrev Log := List (Interleave.Entry Stmt Reply Fresh PgError Write)

end DataPulse.Erpnext
