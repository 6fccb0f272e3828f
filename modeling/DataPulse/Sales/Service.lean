/-
**The writers of the sales tables.**

`SalesService`, the processor and the dead-letter producer of the worker, and the two sync operations
of the console, as client programs over the statements of `Ledger`; and `salesServer`, all of them as
clients of one server.

`captureSale` runs two transactions, one after the other: `captureTransaction` and
`readSaleProjection`. Each is a client of its own here; `Captured` in `Capture` is the whole call.

The guards in front of the routes and the idempotency interceptor are not part of the model: a call
below is one that reached its method, and its tenant, store and user are those of its session. Logging
is left out, and with it the correlation id of a job, which is only logged.
-/

import DataPulse.Lib.Locks
import DataPulse.Sales.Statements

namespace DataPulse.Sales

open Lib Lib.Prog Platform
open Inventory (TenantContext)

/-! ### Errors -/

/-- What the writers throw: an error of the server, or one of their own. -/
inductive Thrown where
  | pg (error : PgError)
  | error (message : String)
  | saleNotFound
  | provenanceConflict
  | processingNotFound
  | quarantineNotFound
  | syncNotFound
  | repairConflict
  deriving DecidableEq

/-- The message of each error of the service. -/
def Thrown.message : Thrown → Option String
  | pg _ => none
  | error message => some message
  | saleNotFound => some "sale not found"
  | provenanceConflict => some "terminal event provenance already used for a different sale"
  | processingNotFound => some "sale not found for processing"
  | quarantineNotFound => some "sale not found for quarantine"
  | syncNotFound => some "sale not found"
  | repairConflict => some "sale is not in a repairable state"

/-- A method, or a part of one. -/
abbrev Service := Prog Stmt Reply Uuid Thrown

/-- `client.query(…)`. -/
def clientQuery (statement : Stmt) : Service (Reply statement) := query statement

/-- The work in a transaction of the tenant. -/
def runWithTenantContext {α : Type} (tenantId : String) (work : Service α) : Service α :=
  if Uuid.isUuid tenantId then work
  else .fail (.error "runWithTenantContext: tenantId must be a UUID string or null")

/-- `if (wrong) throw error`. -/
def throwWhen (wrong : Bool) (error : Thrown) : Service Unit := if wrong then .fail error else .done ()

/-- `if (!UUID_RE.test(text)) throw new Error(message)`. -/
def assertUuid (text message : String) : Service Unit :=
  throwWhen (!Uuid.isUuid text) (.error message)

/-! ### Inputs and bodies -/

/-- A line of the request. -/
structure CaptureSaleLineDto where
  lineName : String
  unitPrice : String
  currencyCode : String
  quantity : String
  lineAmount : String
  taxAmount : Option String
  unit : String
  tenantProductRef : Option String

/-- The request of a capture. -/
structure CaptureSaleRequestDto where
  sourceSystem : String
  externalId : String
  currencyCode : String
  posTotal : String
  occurredAt : Int
  sourceClockAt : Option Int
  lines : List CaptureSaleLineDto

/-- A capture, by whom and where. -/
structure CaptureSaleInput where
  tenantId : String
  storeId : String
  actorUserId : String
  body : CaptureSaleRequestDto

/-- What the first transaction of `captureSale` returns. -/
structure CaptureOutcome where
  saleId : Uuid
  created : Bool
  deriving DecidableEq

/-- A line as the client sees it. -/
structure SaleLineProjection where
  lineName : String
  unitPrice : String
  currencyCode : String
  quantity : String
  lineAmount : String
  taxAmount : Option String
  unit : String
  tenantProductRef : Option Uuid
  deriving DecidableEq

/-- A sale as the client sees it. -/
structure SaleProjection where
  saleRef : Uuid
  storeId : Uuid
  currencyCode : String
  posTotal : String
  occurredAt : Int
  receivedAt : Int
  businessDate : String
  processedAt : Option Int
  sourceClockAt : Option Int
  sourceSystem : String
  externalId : String
  mismatchFlag : Bool
  syncStatus : SaleSyncStatus
  lines : List SaleLineProjection
  deriving DecidableEq

/-- A line of `toBody`. -/
def SaleLine.projection (line : SaleLine) : SaleLineProjection where
  lineName := line.lineName
  unitPrice := line.unitPrice.text
  currencyCode := line.currencyCode
  quantity := line.quantity.text
  lineAmount := line.lineAmount.text
  taxAmount := line.taxAmount.map Numeric.text
  unit := line.unit
  tenantProductRef := line.tenantProductRef

/-- The projection of a sale and its lines. -/
def toBody (row : Sale) (lines : List SaleLine) : SaleProjection where
  saleRef := row.id
  storeId := row.storeId
  currencyCode := row.currencyCode
  posTotal := row.posTotal.text
  occurredAt := row.occurredAt
  receivedAt := row.receivedAt
  businessDate := row.businessDate
  processedAt := row.processedAt
  sourceClockAt := row.sourceClockAt
  sourceSystem := row.sourceSystem
  externalId := row.externalId
  mismatchFlag := row.mismatchFlag.getD false
  syncStatus := row.syncStatus
  lines := lines.map SaleLine.projection

/-- The request of a void. -/
structure RecordVoidRequestDto where
  sourceSystem : String
  externalId : String

/-- The request of a refund. -/
structure RecordRefundRequestDto where
  sourceSystem : String
  externalId : String
  posRefundAmount : String
  currencyCode : String

/-- `RecordVoidInput` and `RecordRefundInput`, with the body each of them takes. -/
structure TerminalInput (Body : Type) where
  tenantId : String
  storeId : String
  actorUserId : String
  saleRef : String
  body : Body

/-- The input of `recordVoid`. -/
abbrev RecordVoidInput := TerminalInput RecordVoidRequestDto

/-- The input of `recordRefund`. -/
abbrev RecordRefundInput := TerminalInput RecordRefundRequestDto

/-- A void or a refund as the client sees it. -/
structure TerminalEventProjection where
  eventRef : Uuid
  saleRef : String
  kind : TerminalKind
  recordedAt : Int
  posRefundAmount : Option String
  currencyCode : Option String
  deriving DecidableEq

/-- The event, and whether this call recorded it. -/
structure TerminalEventResult where
  projection : TerminalEventProjection
  created : Bool
  deriving DecidableEq

/-- `toTerminalEvent(…)` of a row, for the sale as the caller writes it. -/
def toTerminalEvent (kind : TerminalKind) (row : TerminalEvent) (saleRef : String) :
    TerminalEventProjection where
  eventRef := row.id
  saleRef := saleRef
  kind := kind
  recordedAt := row.recordedAt
  posRefundAmount := row.refunded.map fun refunded => refunded.1.text
  currencyCode := row.refunded.map Prod.snd

/-- The job of a captured sale. -/
structure SaleProcessingJob where
  saleId : String
  tenantId : String
  storeId : String

/-- What a job found or wrote. -/
structure SaleProcessingResult where
  saleId : String
  mismatchFlag : Option Bool
  processedAt : Int
  applied : Bool
  deriving DecidableEq

/-- A sale that failed, and how. -/
structure QuarantineInput where
  saleId : String
  tenantId : String
  storeId : String
  condition : SyncFailureCondition
  sourceSystem : String
  externalId : String
  correlationId : Option String

/-- What a quarantine wrote. -/
structure QuarantineResult where
  saleId : String
  classification : SyncFailureClassification
  quarantined : Bool
  statusAdvanced : Bool
  deriving DecidableEq

/-- The dead letter in a status body. -/
structure DeadLetterDetail where
  classification : DeadLetterClassification
  reasonCode : String
  retryCount : Nat
  quarantinedAt : Int
  resolvedAt : Option Int
  deriving DecidableEq

/-- The body of a sync status. -/
structure SaleSyncStatusBody where
  saleRef : Uuid
  storeId : Uuid
  syncStatus : SaleSyncStatus
  sourceSystem : String
  externalId : String
  processedAt : Option Int
  deadLetter : Option DeadLetterDetail
  deriving DecidableEq

/-- The body of a sale and its open dead letter. -/
def toStatusBody (row : Sale) (deadLetter : Option Deadletter) : SaleSyncStatusBody where
  saleRef := row.id
  storeId := row.storeId
  syncStatus := row.syncStatus
  sourceSystem := row.sourceSystem
  externalId := row.externalId
  processedAt := row.processedAt
  deadLetter := deadLetter.map fun row =>
    ⟨row.classification, row.reasonCode, row.retryCount, row.quarantinedAt, row.resolvedAt⟩

/-- A page of the repair queue, asked for. -/
structure ListNeedsRepairInput where
  tenantId : String
  storeId : Option String
  cursor : Option String
  limit : Int

/-- An entry of the repair queue. -/
structure NeedsRepairItem where
  saleRef : Uuid
  storeId : Uuid
  syncStatus : SaleSyncStatus
  sourceSystem : String
  externalId : String
  reasonCode : String
  retryCount : Nat
  quarantinedAt : Int
  deriving DecidableEq

/-- The entry of a row. -/
def NeedsRepairRow.item (row : NeedsRepairRow) : NeedsRepairItem where
  saleRef := row.deadletter.saleId
  storeId := row.sale.storeId
  syncStatus := row.sale.syncStatus
  sourceSystem := row.deadletter.sourceSystem
  externalId := row.deadletter.externalId
  reasonCode := row.deadletter.reasonCode
  retryCount := row.deadletter.retryCount
  quarantinedAt := row.deadletter.quarantinedAt

/-- `Page<NeedsRepairItem>`. -/
structure NeedsRepairPage where
  items : List NeedsRepairItem
  nextCursor : Option Uuid
  deriving DecidableEq

/-! ### The outbox -/

/-- `OUTBOX_EVENT_TYPES.SALE_CAPTURED`. -/
def SALE_CAPTURED : String := "sale.captured"

/-- `OUTBOX_EVENT_TYPES.ERPNEXT_POSTING_REQUESTED`. -/
def ERPNEXT_POSTING_REQUESTED : String := "erpnext.posting.requested"

/-- `emit(client, event)` of the outbox. -/
def emit (eventType tenantId storeId : String) (payload : Payload) : Service Uuid := do
  let eventId ← newId
  clientQuery (.insertEvent ⟨eventId, tenantId, storeId, eventType, payload⟩)
  return eventId

/-- The `emit` of a posting request. -/
def emitPostingRequested (tenantId storeId saleId kind sourceRefId : String) : Service Unit := do
  let _ ← emit ERPNEXT_POSTING_REQUESTED tenantId storeId
    ⟨saleId, storeId, some kind, some sourceRefId⟩

/-! ### Capture -/

/-- The VALUES of one line of `captureSale`. -/
def CaptureSaleLineDto.values (line : CaptureSaleLineDto) (input : CaptureSaleInput) (saleId id : Uuid) :
    LineValues where
  id := id
  saleId := saleId
  tenantId := input.tenantId
  storeId := input.storeId
  lineName := line.lineName
  unitPrice := line.unitPrice
  currencyCode := line.currencyCode
  quantity := line.quantity
  lineAmount := line.lineAmount
  taxAmount := line.taxAmount
  unit := line.unit
  tenantProductRef := line.tenantProductRef

/-- The VALUES of the sale of `captureSale`. -/
def CaptureSaleInput.values (input : CaptureSaleInput) (id : Uuid) (mismatchFlag : Bool)
    (timezone : String) : SaleValues where
  id := id
  tenantId := input.tenantId
  storeId := input.storeId
  currencyCode := input.body.currencyCode
  posTotal := input.body.posTotal
  occurredAt := input.body.occurredAt
  sourceClockAt := input.body.sourceClockAt
  sourceSystem := input.body.sourceSystem
  externalId := input.body.externalId
  mismatchFlag := mismatchFlag
  createdBy := input.actorUserId
  timezone := timezone
  syncStatus := .captured

/-- `SELECT timezone FROM stores`, which must answer a text that is not empty. -/
def resolveTimezone (storeId : String) : Service String := do
  let timezone ← clientQuery (.storeTimezone storeId)
  match (timezone : Option String).filter (· ≠ "") with
  | some timezone => pure timezone
  | none => .fail (.error "store timezone not resolvable for capture")

/-- The lines, each under a fresh id. -/
def insertLines (input : CaptureSaleInput) (saleId : Uuid) : Service Unit := do
  let _ ← forEach (fun line : CaptureSaleLineDto => do
    let lineId ← newId
    clientQuery (.insertLine (line.values input saleId lineId))) input.body.lines

/-- The sale that has the key already. -/
def resolveWinner (input : CaptureSaleInput) : Service CaptureOutcome := do
  let winner ← clientQuery
    (.findWinner input.tenantId input.body.sourceSystem input.body.externalId)
  match (winner : Option Uuid) with
  | some winnerId => pure ⟨winnerId, false⟩
  | none => .fail (.error "dedup conflict but no existing sale row found")

/-- The first transaction of `captureSale(input)`. -/
def captureTransaction (input : CaptureSaleInput) : Service CaptureOutcome :=
  runWithTenantContext input.tenantId do
    let compare ← clientQuery
      (.compareTotal input.body.posTotal (input.body.lines.map CaptureSaleLineDto.lineAmount))
    let mismatchFlag := Option.getD compare false
    let saleId ← newId
    let timezone ← resolveTimezone input.storeId
    let inserted ← clientQuery (.insertSale (input.values saleId mismatchFlag timezone))
    match (inserted : Option Uuid) with
    | none => resolveWinner input
    | some _ => do
        insertLines input saleId
        let _ ← emit SALE_CAPTURED input.tenantId input.storeId
          ⟨saleId.text, input.storeId, none, none⟩
        return ⟨saleId, true⟩

/-- `readSaleProjection(tenantId, storeId, saleId)`, the second transaction of `captureSale`. -/
def readSaleProjection (tenantId storeId saleId : String) : Service SaleProjection :=
  runWithTenantContext tenantId do
    let sale ← clientQuery (.selectSale saleId storeId)
    match (sale : Option Sale) with
    | none => .fail .saleNotFound
    | some row => do
        let lines ← clientQuery (.selectLines saleId)
        return toBody row lines

/-! ### Terminal events -/

/-- `SELECT id FROM sales WHERE id = $1 AND store_id = $2`, or the error of the caller. -/
def requireSale (saleId storeId : String) (missing : Thrown) : Service Unit := do
  let sale ← clientQuery (.selectSale saleId storeId)
  throwWhen (Option.isNone sale) missing

/-- What `recordVoid` and `recordRefund` do with the amount of a refund, or none. -/
def recordTerminal (kind : TerminalKind) (input : TerminalInput (String × String))
    (refunded : Option (String × String)) (missing : String) : Service TerminalEventResult :=
  runWithTenantContext input.tenantId do
    requireSale input.saleRef input.storeId .saleNotFound
    let eventId ← newId
    let inserted ← clientQuery (.insertTerminal ⟨eventId, input.saleRef, input.tenantId, input.storeId,
      refunded, input.body.1, input.body.2, input.actorUserId⟩)
    match (inserted : Option TerminalEvent) with
    | none => do
        let existing ← clientQuery
          (.findTerminal kind input.tenantId input.body.1 input.body.2)
        match (existing : Option TerminalEvent) with
        | none => .fail (.error missing)
        | some row =>
          if row.saleId.text ≠ input.saleRef then .fail .provenanceConflict
          else return ⟨toTerminalEvent kind row row.saleId.text, false⟩
    | some row => do
        emitPostingRequested input.tenantId input.storeId input.saleRef "reversal" row.id.text
        return ⟨toTerminalEvent kind row input.saleRef, true⟩

/-- `recordVoid(input)`. -/
def recordVoid (input : RecordVoidInput) : Service TerminalEventResult :=
  recordTerminal .void { input with body := (input.body.sourceSystem, input.body.externalId) } none
    "void conflict but no existing terminal event found"

/-- `recordRefund(input)`. -/
def recordRefund (input : RecordRefundInput) : Service TerminalEventResult :=
  recordTerminal .refund { input with body := (input.body.sourceSystem, input.body.externalId) }
    (some (input.body.posRefundAmount, input.body.currencyCode))
    "refund conflict but no existing terminal event found"

/-! ### Processing -/

namespace SaleProcessingJob

/-- The ids of a job must be UUIDs. -/
def assertJob (job : SaleProcessingJob) : Service Unit := do
  assertUuid job.saleId "SaleProcessingProcessor: saleId must be a UUID string"
  assertUuid job.tenantId "SaleProcessingProcessor: tenantId must be a UUID string"
  assertUuid job.storeId "SaleProcessingProcessor: storeId must be a UUID string"

/-- What the transaction of `process(job)` does when the UPDATE found the sale processed. -/
def converge (job : SaleProcessingJob) : Service SaleProcessingResult := do
  let existing ← clientQuery (.selectSale job.saleId job.storeId)
  match (existing : Option Sale).bind fun row => row.processedAt.map (row.mismatchFlag, ·) with
  | none => .fail .processingNotFound
  | some (mismatchFlag, processedAt) => return ⟨job.saleId, mismatchFlag, processedAt, false⟩

/-- `process(job)`: the sale is processed once. -/
def process (job : SaleProcessingJob) : Service SaleProcessingResult := do
  job.assertJob
  runWithTenantContext job.tenantId do
    requireSale job.saleId job.storeId .processingNotFound
    let updated ← clientQuery (.processSale job.saleId job.storeId)
    match (updated : Option (Bool × Int)) with
    | some (mismatchFlag, processedAt) => do
        emitPostingRequested job.tenantId job.storeId job.saleId "sale_post" job.saleId
        return ⟨job.saleId, some mismatchFlag, processedAt, true⟩
    | none => job.converge

end SaleProcessingJob

/-! ### Quarantine -/

namespace QuarantineInput

/-- The checks before a quarantine. -/
def assertInput (input : QuarantineInput) : Service Unit := do
  assertUuid input.saleId "SaleSyncDeadletterProducer: saleId must be a UUID string"
  assertUuid input.tenantId "SaleSyncDeadletterProducer: tenantId must be a UUID string"
  assertUuid input.storeId "SaleSyncDeadletterProducer: storeId must be a UUID string"
  throwWhen (input.sourceSystem = "")
    (.error "SaleSyncDeadletterProducer: sourceSystem must be a non-empty string")
  throwWhen (input.externalId = "")
    (.error "SaleSyncDeadletterProducer: externalId must be a non-empty string")
  throwWhen (input.correlationId.any fun id => !Uuid.isUuid id)
    (.error "SaleSyncDeadletterProducer: correlationId must be a UUID string or null")

/-- Whether the dead letter was inserted. -/
def insertDeadletter (input : QuarantineInput) (classification : SyncFailureClassification) :
    Service Bool := do
  let id ← newId
  let inserted ← clientQuery (.insertDeadletter ⟨id, input.saleId, input.tenantId, input.storeId,
    classification.classification, classification.reasonCode, input.sourceSystem, input.externalId,
    input.correlationId⟩)
  return Option.isSome inserted

/-- Whether the status was moved. -/
def advanceStatus (input : QuarantineInput) (classification : SyncFailureClassification) :
    Service Bool := do
  let updated ← clientQuery
    (.advanceStatus input.saleId input.storeId classification.syncStatus)
  return Option.isSome updated

/-- The status moves only with a new dead letter. -/
def quarantine (input : QuarantineInput) : Service QuarantineResult := do
  input.assertInput
  let classification := classifySyncFailure input.condition
  runWithTenantContext input.tenantId do
    requireSale input.saleId input.storeId .quarantineNotFound
    let quarantined ← input.insertDeadletter classification
    let statusAdvanced ←
      if quarantined then input.advanceStatus classification else (.done false : Service Bool)
    return ⟨input.saleId, classification, quarantined, statusAdvanced⟩

end QuarantineInput

/-! ### Repair -/

/-- The sale, or `syncNotFound`. -/
def readSaleStatusRow (saleId : String) : Service Sale := do
  let row ← clientQuery (.readSaleStatus saleId)
  match (row : Option Sale) with
  | none => .fail .syncNotFound
  | some row => pure row

/-- The dead letter is resolved, and the sale requeued. -/
def repairSaleSync (tenantId saleId : String) : Service SaleSyncStatusBody :=
  runWithTenantContext tenantId do
    let row ← readSaleStatusRow saleId
    throwWhen (row.syncStatus ≠ .failedNeedsRepair) .repairConflict
    let resolved ← clientQuery (.resolveDeadletter saleId)
    throwWhen (Option.isNone resolved) .repairConflict
    clientQuery (.requeueSale saleId)
    let after ← readSaleStatusRow saleId
    let deadLetter ← clientQuery (.readOpenDeadletter saleId)
    return toStatusBody after deadLetter

/-- The longest page. -/
def LIST_MAX_PAGE : Int := 200

/-- A full page names the last sale as its cursor. -/
def listNeedsRepair (input : ListNeedsRepairInput) : Service NeedsRepairPage :=
  let limit := min (max 1 input.limit) LIST_MAX_PAGE
  runWithTenantContext input.tenantId do
    let rows ← clientQuery (.needsRepairPage input.storeId input.cursor limit.toNat)
    let items := List.map NeedsRepairRow.item rows
    let last := List.getLast? rows
    let nextCursor := if (List.length rows : Int) = limit then
      last.map fun row => row.deadletter.saleId else none
    return ⟨items, nextCursor⟩

/-! ### All of them on one server -/

/-- The operations of the writers. -/
inductive Operation where
  | captureSale (input : CaptureSaleInput)
  | readSaleProjection (tenantId storeId saleId : String)
  | recordVoid (input : RecordVoidInput)
  | recordRefund (input : RecordRefundInput)
  | process (job : SaleProcessingJob)
  | quarantine (input : QuarantineInput)
  | repairSaleSync (tenantId saleId : String)
  | listNeedsRepair (input : ListNeedsRepairInput)

/-- What each operation returns. -/
inductive Body where
  | captured (outcome : CaptureOutcome)
  | sale (projection : SaleProjection)
  | terminal (result : TerminalEventResult)
  | processed (result : SaleProcessingResult)
  | quarantined (result : QuarantineResult)
  | status (body : SaleSyncStatusBody)
  | page (page : NeedsRepairPage)
  deriving DecidableEq

namespace Operation

/-- The tenant whose context the operation sets. -/
def tenantId : Operation → String
  | captureSale input => input.tenantId
  | readSaleProjection tenantId _ _ => tenantId
  | recordVoid input => input.tenantId
  | recordRefund input => input.tenantId
  | process job => job.tenantId
  | quarantine input => input.tenantId
  | repairSaleSync tenantId _ => tenantId
  | listNeedsRepair input => input.tenantId

/-- What each operation runs. -/
def program : Operation → Service Body
  | captureSale input => (captureTransaction input).bind fun outcome => .done (.captured outcome)
  | readSaleProjection tenantId storeId saleId =>
    (Sales.readSaleProjection tenantId storeId saleId).bind fun projection =>
      .done (.sale projection)
  | recordVoid input => (Sales.recordVoid input).bind fun result => .done (.terminal result)
  | recordRefund input => (Sales.recordRefund input).bind fun result => .done (.terminal result)
  | process job => job.process.bind fun result => .done (.processed result)
  | quarantine input => input.quarantine.bind fun result => .done (.quarantined result)
  | repairSaleSync tenantId saleId =>
    (Sales.repairSaleSync tenantId saleId).bind fun body => .done (.status body)
  | listNeedsRepair input => (Sales.listNeedsRepair input).bind fun page => .done (.page page)

end Operation

/-- An operation, and the time of its transaction. -/
structure Call where
  now : Int
  operation : Operation

/-- The context that its statements see. -/
def Call.context (call : Call) : TenantContext := ⟨Uuid.ofText call.operation.tenantId, call.now⟩

@[simp] theorem Call.context_now (call : Call) : call.context.now = call.now := rfl

/-- The writers as clients of one server. -/
def salesServer (reference : Reference) :
    System Stmt Reply Uuid Thrown PgError Write Call Body where
  program call := call.operation.program
  exec call writes statement := exec reference call.context writes statement
  thrown := .pg
  refused := .plain .failedTransaction
  clash := clash

/-- What any order of steps leads to. -/
abbrev Reachable (reference : Reference) := Interleave.Reachable (salesServer reference)

/-- The clients and the commits. -/
abbrev Config := Interleave.Config Stmt Reply Uuid Thrown PgError Write Call Body

/-- A client. -/
abbrev Proc := Interleave.Proc Stmt Reply Uuid Thrown PgError Write Call Body

/-- What a client was answered. -/
abbrev Log := List (Interleave.Entry Stmt Reply Uuid PgError Write)

theorem salesServer_lawful (reference : Reference) :
    Interleave.Lawful { salesServer reference with clash := collide } :=
  ⟨collide_comm, fun _ _ _ _ _ ran => exec_refuses ran⟩

/-- **No two committed writes collide.** -/
theorem Reachable.collideFree {reference : Reference} {config : Config} (reach : Reachable reference config) :
    Interleave.ClashFree { salesServer reference with clash := collide } config :=
  (Interleave.Reachable.weaken (fun _ _ => clash_of_collide) reach).clashFree (salesServer_lawful reference)

end DataPulse.Sales
