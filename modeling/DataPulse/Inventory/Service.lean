/-
**The writers of the stock ledger.**

The five write methods of `InventoryService`, the three POST routes in front of the public ones, and
the backfill job of the worker, as client programs over the statements of `Ledger`; and `inventory`,
all of them as clients of one server.

The guards in front of the routes and the idempotency interceptor are not part of the model: a request
below is one that reached its handler, and its tenant, user and store scope are those of its session.
The metric that a negative on-hand bumps is left out.
-/

import DataPulse.Inventory.Ledger
import DataPulse.Lib.Interleave
import DataPulse.Platform.Schema

namespace DataPulse.Inventory

open Lib Lib.Decimal Lib.Prog Platform

/-! ### Errors -/

/-- What the writers throw: an error of the server, an exception of the API, an error of the worker. -/
inductive Thrown where
  | pg (error : PgError)
  | badRequest (message : String)
  | crossUnit (expectedUnit suppliedUnit : String)
  | notFound
  | error (message : String)
  | saleNotFound
  | backfillCrossUnit (expectedUnit suppliedUnit : String)
  | tooManyLines (lineCount : Nat)
  deriving DecidableEq

def maxBackfillMovements : Nat := 500

def Thrown.message : Thrown → Option String
  | pg _ => none
  | badRequest message => some message
  | crossUnit expectedUnit suppliedUnit => some ("stockingUnit '" ++ suppliedUnit ++
      "' does not match the product's stocking unit '" ++ expectedUnit ++ "'")
  | notFound => some "Not Found"
  | error message => some message
  | saleNotFound => some "captured sale not found for backfill"
  | backfillCrossUnit expectedUnit suppliedUnit => some ("sale line unit '" ++ suppliedUnit ++
      "' does not match the product's stocking unit '" ++ expectedUnit ++ "'")
  | tooManyLines lineCount => some ("backfill job has " ++ toString lineCount ++
      " sale lines, exceeding the per-request ceiling of " ++ toString maxBackfillMovements)

def isUnitExclusionViolation (error : Thrown) : Bool := error = .pg unitViolation

abbrev Service := Prog Stmt Reply Uuid Thrown

def clientQuery (statement : Stmt) : Service (Reply statement) := query statement

def orThrow {α : Type} : Except Thrown α → Service α
  | .ok value => .done value
  | .error error => .fail error

/-- `if (wrong) throw error`. -/
def throwWhen (wrong : Bool) (error : Thrown) : Except Thrown Unit :=
  if wrong then .error error else .ok ()

def runWithTenantContext {α : Type} (tenantId : String) (work : Service α) : Service α :=
  if Uuid.isUuid tenantId then work
  else .fail (.error "runWithTenantContext: tenantId must be a UUID string or null")

/-! ### Inputs and bodies -/

inductive ManualMovementType where
  | inbound
  | outbound
  | adjustment
  deriving DecidableEq

def ManualMovementType.movementType : ManualMovementType → MovementType
  | inbound => .inbound
  | outbound => .outbound
  | adjustment => .adjustment

structure CreateStockMovementInput where
  tenantId : String
  storeId : String
  userId : String
  movementType : ManualMovementType
  quantity : String
  stockingUnit : String
  tenantProductRef : Option String := none
  reason : Option String := none
  occurredAt : Option Int := none
  saleId : Option String := none
  saleLineId : Option String := none
  terminalEventRef : Option String := none

structure CreateStockTransferInput where
  tenantId : String
  userId : String
  sourceStoreId : String
  destinationStoreId : String
  tenantProductRef : String
  quantity : String
  stockingUnit : String
  reason : Option String := none

structure RecordStockCountInput where
  tenantId : String
  storeId : String
  userId : String
  tenantProductRef : String
  countedQuantity : String
  stockingUnit : String
  countedAt : Option Int := none
  deriving DecidableEq

/-- `BackfillSaleLinkedOutboundInput` and `BackfillRestockInboundInput`, without the movement type
each of them fixes. -/
structure BackfillInput where
  tenantId : String
  storeId : String
  userId : String
  sourceSystem : String
  externalId : String
  quantity : String
  stockingUnit : String
  tenantProductRef : Option String := none
  reason : Option String := none
  occurredAt : Option Int := none
  saleId : Option String := none
  saleLineId : Option String := none
  terminalEventRef : Option String := none
  correlationId : Option String := none

structure InventoryBackfillJob where
  saleId : String
  tenantId : String
  storeId : String
  actorId : String
  sourceSystem : String
  correlationId : Option String := none

structure StockMovementBody where
  id : Uuid
  storeId : Uuid
  movementType : String
  quantity : String
  stockingUnit : String
  tenantProductRef : Option Uuid
  reason : Option String
  occurredAt : Int
  receivedAt : Int
  saleId : Option Uuid
  saleLineId : Option Uuid
  terminalEventRef : Option Uuid
  transferGroupId : Option Uuid
  stockCountId : Option Uuid
  createdBy : Uuid
  deriving DecidableEq

def toMovementBody (row : Movement) : StockMovementBody where
  id := row.id
  storeId := row.storeId
  movementType := row.movementType.text
  quantity := row.quantity.text
  stockingUnit := row.stockingUnit
  tenantProductRef := row.tenantProductRef
  reason := row.reason
  occurredAt := row.occurredAt
  receivedAt := row.receivedAt
  saleId := row.saleId
  saleLineId := row.saleLineId
  terminalEventRef := row.terminalEventRef
  transferGroupId := row.transferGroupId
  stockCountId := row.stockCountId
  createdBy := row.createdBy

structure StockTransferBody where
  transferGroupId : Uuid
  outbound : StockMovementBody
  inbound : StockMovementBody
  deriving DecidableEq

structure StockCountResultBody where
  stockCountId : Uuid
  countedQuantity : String
  variance : String
  correctionMovement : Option StockMovementBody
  deriving DecidableEq

structure InventoryBackfillResult where
  saleId : String
  appended : Nat
  deduped : Nat
  applied : Bool
  deriving DecidableEq

/-! ### The shared statements -/

def assertUnitMatchesEstablished (storeId tenantProductRef suppliedUnit : String) :
    Service Unit := do
  let established ← clientQuery (.establishedUnit storeId tenantProductRef)
  match established with
  | some unit => if unit ≠ suppliedUnit then .fail (.crossUnit unit suppliedUnit) else pure ()
  | none => pure ()

/-- The check as the movement methods make it: not of an ad-hoc movement. -/
def assertUnitOfProduct (storeId : String) (tenantProductRef : Option String)
    (suppliedUnit : String) : Service Unit :=
  match tenantProductRef with
  | some product => assertUnitMatchesEstablished storeId product suppliedUnit
  | none => pure ()

/-- `insertMovementRow(client, sql, params, context)`; every caller's context repeats the store, the
product and the unit of the parameters. -/
def insertMovementRow (values : MovementValues) (doNothing : Bool) : Service (Option Movement) :=
  (clientQuery (.insertMovement values doNothing)).rescue fun error =>
    match isUnitExclusionViolation error, values.tenantProductRef with
    | true, some product => do
        let established ← clientQuery (.establishedUnit values.storeId product)
        .fail (.crossUnit (Option.getD established values.stockingUnit) values.stockingUnit)
    | _, _ => .fail error

/-- `inserted.rows[0]`, or the error of the caller. -/
def orMissing (row : Option Movement) (message : String) : Service Movement :=
  match row with
  | some row => pure row
  | none => .fail (.error message)

/-- `flagIfNegativeOnHand(client, storeId, tenantProductRef)`. The sum is read and compared with
zero; a failure is swallowed. -/
def flagIfNegativeOnHand (storeId : String) (tenantProductRef : Option String) : Service Unit :=
  match tenantProductRef with
  | none => pure ()
  | some product =>
    Prog.rescue ((clientQuery (.onHand storeId product)).bind fun _ => .done ()) fun _ => .done ()

/-- `OutboxEmitInput`, as the inventory writers fill it. -/
structure OutboxEmitInput where
  eventType : String
  tenantId : String
  storeId : String
  payload : Payload
  correlationId : Option String

def emit (input : OutboxEmitInput) : Service Uuid := do
  let eventId ← newId
  clientQuery (.insertEvent
    ⟨eventId, input.tenantId, input.storeId, input.eventType, input.payload, input.correlationId⟩)
  return eventId

/-- `OUTBOX_EVENT_TYPES.INVENTORY_MOVEMENT_CREATED`. -/
def inventoryMovementCreated : String := "inventory.movement.created"

def emitMovementCreated (tenantId storeId : String) (payload : Payload)
    (correlationId : Option String := none) : Service Unit := do
  let _ ← emit ⟨inventoryMovementCreated, tenantId, storeId, payload,
    correlationId.filter Uuid.isUuid⟩

/-! ### Checks before the transaction -/

/-- What the checks of a method leave: the quantity at scale, the unit and the reason. -/
structure Checked where
  quantity : ℚ
  stockingUnit : String
  reason : Option String

/-- `typeof reason === 'string' && reason.trim().length > 0 ? reason.trim() : null`. -/
def trimmedReason (reason : Option String) : Option String :=
  (reason.map trim).filter fun text => text ≠ ""

/-- `Number(text)`, which must be finite, at scale. -/
def finiteAtScale (text message : String) : Except Thrown ℚ :=
  match number text with
  | some value => .ok (atScale value)
  | none => .error (.badRequest message)

/-- The checks of `createStockMovement`. (A body's movement type is one of the three.) -/
def CreateStockMovementInput.check (input : CreateStockMovementInput) : Except Thrown Checked := do
  let quantity ← finiteAtScale input.quantity "quantity must be a number"
  throwWhen (quantity = 0) (.badRequest "quantity must be non-zero at numeric(19,4) scale")
  throwWhen (input.movementType = .inbound && quantity < 0)
    (.badRequest "inbound quantity must be positive")
  throwWhen (input.movementType = .outbound && 0 < quantity)
    (.badRequest "outbound quantity must be negative")
  let reason := trimmedReason input.reason
  throwWhen (input.movementType = .adjustment && reason.isNone)
    (.badRequest "adjustment requires a reason")
  let stockingUnit := trim input.stockingUnit
  throwWhen (stockingUnit = "") (.badRequest "stockingUnit is required")
  .ok ⟨quantity, stockingUnit, reason⟩

/-- The checks of `createStockTransfer`. -/
def CreateStockTransferInput.check (input : CreateStockTransferInput) : Except Thrown Checked := do
  throwWhen (input.sourceStoreId = input.destinationStoreId)
    (.badRequest "source and destination stores must differ")
  let quantity ← finiteAtScale input.quantity "quantity must be a number"
  throwWhen (quantity ≤ 0) (.badRequest "transfer quantity must be strictly positive")
  let stockingUnit := trim input.stockingUnit
  throwWhen (stockingUnit = "") (.badRequest "stockingUnit is required")
  .ok ⟨quantity, stockingUnit, trimmedReason input.reason⟩

/-- The checks of `recordStockCount`. -/
def RecordStockCountInput.check (input : RecordStockCountInput) : Except Thrown Checked := do
  let counted ← finiteAtScale input.countedQuantity "countedQuantity must be a number"
  throwWhen (counted < 0) (.badRequest "countedQuantity must be non-negative")
  let stockingUnit := trim input.stockingUnit
  throwWhen (stockingUnit = "") (.badRequest "stockingUnit is required")
  .ok ⟨counted, stockingUnit, none⟩

/-! ### InventoryService -/

/-- The VALUES of `createStockMovement`. -/
def CreateStockMovementInput.values (input : CreateStockMovementInput) (checked : Checked)
    (movementId : Uuid) : MovementValues where
  id := movementId
  tenantId := input.tenantId
  storeId := input.storeId
  movementType := input.movementType.movementType
  quantity := .cast input.quantity
  stockingUnit := checked.stockingUnit
  tenantProductRef := input.tenantProductRef
  reason := checked.reason
  occurredAt := input.occurredAt
  saleId := input.saleId
  saleLineId := input.saleLineId
  terminalEventRef := input.terminalEventRef
  createdBy := input.userId

def createStockMovement (input : CreateStockMovementInput) : Service StockMovementBody := do
  let checked ← orThrow input.check
  let movementId ← newId
  let auditId ← newId
  runWithTenantContext input.tenantId do
    assertUnitOfProduct input.storeId input.tenantProductRef checked.stockingUnit
    let inserted ← insertMovementRow (input.values checked movementId) false
    let row ← orMissing inserted "InventoryService.createStockMovement: INSERT returned no row"
    clientQuery (.insertAudit ⟨auditId, input.userId, input.tenantId, "inventory.movement.create",
      "stock_movement", row.id, []⟩)
    emitMovementCreated input.tenantId input.storeId
      ⟨[row.id], row.movementType.text, input.tenantProductRef, []⟩
    if input.movementType = .outbound then
      flagIfNegativeOnHand input.storeId input.tenantProductRef
    return toMovementBody row

/-- The VALUES of a leg of `createStockTransfer`. -/
def CreateStockTransferInput.leg (input : CreateStockTransferInput) (checked : Checked)
    (id transferGroupId : Uuid) (movementType : MovementType) (storeId quantity : String) :
    MovementValues where
  id := id
  tenantId := input.tenantId
  storeId := storeId
  movementType := movementType
  quantity := .cast quantity
  stockingUnit := checked.stockingUnit
  tenantProductRef := some input.tenantProductRef
  reason := checked.reason
  transferGroupId := some transferGroupId
  createdBy := input.userId

def createStockTransfer (input : CreateStockTransferInput) : Service StockTransferBody := do
  let checked ← orThrow input.check
  let outQty := "-" ++ toFixed4 checked.quantity
  let inQty := toFixed4 checked.quantity
  let transferGroupId ← newId
  let outId ← newId
  let inId ← newId
  let auditId ← newId
  runWithTenantContext input.tenantId do
    let dest ← clientQuery (.findStore input.destinationStoreId)
    if Option.isNone dest then .fail .notFound
    else do
      assertUnitMatchesEstablished input.sourceStoreId input.tenantProductRef checked.stockingUnit
      assertUnitMatchesEstablished input.destinationStoreId input.tenantProductRef
        checked.stockingUnit
      let out ← insertMovementRow
        (input.leg checked outId transferGroupId .transferOut input.sourceStoreId outQty) false
      let inb ← insertMovementRow
        (input.leg checked inId transferGroupId .transferIn input.destinationStoreId inQty) false
      let outRow ← orMissing out "InventoryService.createStockTransfer: INSERT returned no row"
      let inRow ← orMissing inb "InventoryService.createStockTransfer: INSERT returned no row"
      clientQuery (.insertAudit ⟨auditId, input.userId, input.tenantId,
        "inventory.transfer.create", "stock_transfer", transferGroupId,
        [("sourceStoreId", .text input.sourceStoreId),
          ("destinationStoreId", .text input.destinationStoreId)]⟩)
      emitMovementCreated input.tenantId input.sourceStoreId
        ⟨[outRow.id, inRow.id], "transfer", some input.tenantProductRef,
          [("transferGroupId", .text transferGroupId.text),
            ("sourceStoreId", .text input.sourceStoreId),
            ("destinationStoreId", .text input.destinationStoreId)]⟩
      flagIfNegativeOnHand input.sourceStoreId (some input.tenantProductRef)
      return ⟨transferGroupId, toMovementBody outRow, toMovementBody inRow⟩

/-- `Number(text)` of a total the server sent, which is always a number. -/
def derivedOnHand (quantity : String) : ℚ := (number quantity).getD 0

/-- `Math.round((counted - derivedOnHand) * 1e4) / 1e4`. -/
def variance (counted derived : ℚ) : ℚ := atScale (Binary64.roundBinary64 (counted - derived))

/-- The VALUES of the count of `recordStockCount`. -/
def RecordStockCountInput.count (input : RecordStockCountInput) (checked : Checked)
    (stockCountId : Uuid) (derived : ℚ) : CountValues where
  id := stockCountId
  tenantId := input.tenantId
  storeId := input.storeId
  tenantProductRef := input.tenantProductRef
  countedQuantity := toFixed4 checked.quantity
  derivedOnHandAtCount := toFixed4 derived
  stockingUnit := checked.stockingUnit
  countedAt := input.countedAt
  createdBy := input.userId

/-- The VALUES of the correction of `recordStockCount`. -/
def RecordStockCountInput.correction (input : RecordStockCountInput) (checked : Checked)
    (id stockCountId : Uuid) (quantity : String) : MovementValues where
  id := id
  tenantId := input.tenantId
  storeId := input.storeId
  movementType := .countCorrection
  quantity := .cast quantity
  stockingUnit := checked.stockingUnit
  tenantProductRef := some input.tenantProductRef
  reason := some "count variance"
  stockCountId := some stockCountId
  createdBy := input.userId

/-- The correction of a variance, appended only when there is one. -/
def RecordStockCountInput.correct (input : RecordStockCountInput) (checked : Checked)
    (stockCountId : Uuid) (difference : ℚ) : Service (Option Movement) :=
  if difference ≠ 0 then do
    let id ← newId
    let corr ← insertMovementRow
      (input.correction checked id stockCountId (toFixed4 difference)) false
    let row ← orMissing corr
      "InventoryService.recordStockCount: correction INSERT returned no row"
    return some row
  else return none

def RecordStockCountInput.announce (input : RecordStockCountInput) (stockCountId : Uuid)
    (correction : Option Movement) : Service Unit :=
  match correction with
  | some row => emitMovementCreated input.tenantId input.storeId
      ⟨[row.id], row.movementType.text, some input.tenantProductRef,
        [("stockCountId", .text stockCountId.text)]⟩
  | none => pure ()

def recordStockCount (input : RecordStockCountInput) : Service StockCountResultBody := do
  let checked ← orThrow input.check
  let stockCountId ← newId
  let auditId ← newId
  runWithTenantContext input.tenantId do
    assertUnitMatchesEstablished input.storeId input.tenantProductRef checked.stockingUnit
    let quantity ← clientQuery (.onHand input.storeId input.tenantProductRef)
    let derived := derivedOnHand quantity
    let difference := variance checked.quantity derived
    clientQuery (.insertCount (input.count checked stockCountId derived))
    let correction ← input.correct checked stockCountId difference
    clientQuery (.insertAudit ⟨auditId, input.userId, input.tenantId, "inventory.count.record",
      "stock_count", stockCountId,
      [("variance", .text (toFixed4 difference)), ("hasCorrection", .bool (difference ≠ 0))]⟩)
    input.announce stockCountId correction
    return ⟨stockCountId, toFixed4 checked.quantity, toFixed4 difference,
      correction.map toMovementBody⟩

/-- What the two backfill methods do not share. -/
structure BackfillKind where
  movementType : MovementType
  wrongSign : ℚ → Bool
  signMessage : String
  provenanceMessage : String
  conflictMessage : String
  auditRefs : BackfillInput → List (String × Json)
  eventRefs : BackfillInput → List (String × Json)
  flags : Bool

def BackfillKind.check (kind : BackfillKind) (input : BackfillInput) : Except Thrown Checked := do
  let quantity ← finiteAtScale input.quantity "quantity must be a number"
  throwWhen (quantity = 0) (.badRequest "quantity must be non-zero at numeric(19,4) scale")
  throwWhen (kind.wrongSign quantity) (.badRequest kind.signMessage)
  throwWhen (trim input.sourceSystem = "" || trim input.externalId = "")
    (.badRequest kind.provenanceMessage)
  let stockingUnit := trim input.stockingUnit
  throwWhen (stockingUnit = "") (.badRequest "stockingUnit is required")
  .ok ⟨quantity, stockingUnit, trimmedReason input.reason⟩

def BackfillKind.values (kind : BackfillKind) (input : BackfillInput) (checked : Checked)
    (movementId : Uuid) : MovementValues where
  id := movementId
  tenantId := input.tenantId
  storeId := input.storeId
  movementType := kind.movementType
  quantity := .cast input.quantity
  stockingUnit := checked.stockingUnit
  tenantProductRef := input.tenantProductRef
  reason := checked.reason
  occurredAt := input.occurredAt
  provenance := some (trim input.sourceSystem, trim input.externalId)
  saleId := input.saleId
  saleLineId := input.saleLineId
  terminalEventRef := input.terminalEventRef
  createdBy := input.userId

/-- The audit row and the event of a genuine append, and the negative-balance signal. -/
def BackfillKind.record (kind : BackfillKind) (input : BackfillInput) (auditId : Uuid)
    (row : Movement) : Service StockMovementBody := do
  clientQuery (.insertAudit ⟨auditId, input.userId, input.tenantId, "inventory.movement.backfill",
    "stock_movement", row.id,
    [("sourceSystem", .text (trim input.sourceSystem)),
      ("externalId", .text (trim input.externalId))] ++ kind.auditRefs input ++
    [("correlationId", .ofOption input.correlationId)]⟩)
  emitMovementCreated input.tenantId input.storeId
    ⟨[row.id], row.movementType.text, input.tenantProductRef,
      [("sourceSystem", .text (trim input.sourceSystem)),
        ("externalId", .text (trim input.externalId))] ++ kind.eventRefs input⟩
    input.correlationId
  if kind.flags then flagIfNegativeOnHand input.storeId input.tenantProductRef
  return toMovementBody row

def BackfillKind.existing (kind : BackfillKind) (input : BackfillInput) :
    Service StockMovementBody := do
  let existing ← clientQuery
    (.findMovement input.tenantId (trim input.sourceSystem) (trim input.externalId))
  let row ← orMissing existing kind.conflictMessage
  return toMovementBody row

/-- The common text of `backfillSaleLinkedOutbound` and `backfillRestockInbound`. -/
def BackfillKind.backfill (kind : BackfillKind) (input : BackfillInput) :
    Service StockMovementBody := do
  let checked ← orThrow (kind.check input)
  let movementId ← newId
  let auditId ← newId
  runWithTenantContext input.tenantId do
    assertUnitOfProduct input.storeId input.tenantProductRef checked.stockingUnit
    let inserted ← insertMovementRow (kind.values input checked movementId) true
    match inserted with
    | none => kind.existing input
    | some row => kind.record input auditId row

def saleLinkedOutbound : BackfillKind where
  movementType := .outbound
  wrongSign quantity := 0 < quantity
  signMessage := "outbound quantity must be negative"
  provenanceMessage := "backfill requires a non-empty sourceSystem and externalId"
  conflictMessage :=
    "InventoryService.backfillSaleLinkedOutbound: conflict with no matching provenance row"
  auditRefs _ := []
  eventRefs input := [("saleId", .ofOption input.saleId)]
  flags := true

def backfillSaleLinkedOutbound (input : BackfillInput) : Service StockMovementBody :=
  saleLinkedOutbound.backfill input

/-- The restock inbound; it cannot drive the on-hand below zero and is not flagged. -/
def restockInbound : BackfillKind where
  movementType := .inbound
  wrongSign quantity := quantity < 0
  signMessage := "inbound (restock) quantity must be positive"
  provenanceMessage := "restock requires a non-empty sourceSystem and externalId"
  conflictMessage :=
    "InventoryService.backfillRestockInbound: conflict with no matching provenance row"
  auditRefs input := [("terminalEventRef", .ofOption input.terminalEventRef)]
  eventRefs input := [("terminalEventRef", .ofOption input.terminalEventRef)]
  flags := false

def backfillRestockInbound (input : BackfillInput) : Service StockMovementBody :=
  restockInbound.backfill input

/-! ### InventoryBackfillProcessor -/

def InventoryBackfillJob.assertJob (job : InventoryBackfillJob) : Except Thrown Unit := do
  throwWhen (!Uuid.isUuid job.saleId)
    (.error "InventoryBackfillProcessor: saleId must be a UUID string")
  throwWhen (!Uuid.isUuid job.tenantId)
    (.error "InventoryBackfillProcessor: tenantId must be a UUID string")
  throwWhen (!Uuid.isUuid job.storeId)
    (.error "InventoryBackfillProcessor: storeId must be a UUID string")
  throwWhen (!Uuid.isUuid job.actorId)
    (.error "InventoryBackfillProcessor: actorId must be a UUID string")
  throwWhen (trim job.sourceSystem = "")
    (.error "InventoryBackfillProcessor: sourceSystem is required")

/-- The cross-unit check of a line: not of an ad-hoc line. -/
def InventoryBackfillJob.assertUnit (job : InventoryBackfillJob) (line : SaleLine) :
    Service Unit :=
  match line.tenantProductRef with
  | none => pure ()
  | some product => do
      let established ← clientQuery (.establishedUnit job.storeId product.text)
      match established with
      | some unit => if unit ≠ line.unit then .fail (.backfillCrossUnit unit line.unit) else pure ()
      | none => pure ()

/-- The VALUES of a line's movement; its identifier is the column's `gen_random_uuid()`. -/
def InventoryBackfillJob.values (job : InventoryBackfillJob) (line : SaleLine) (id : Uuid) :
    MovementValues where
  id := id
  tenantId := job.tenantId
  storeId := job.storeId
  movementType := .outbound
  quantity := .negatedCast line.quantity.text
  stockingUnit := line.unit
  tenantProductRef := line.tenantProductRef.map Uuid.text
  provenance := some (job.sourceSystem, line.id.text)
  saleId := some job.saleId
  saleLineId := some line.id.text
  createdBy := job.actorId

def InventoryBackfillJob.insertLine (job : InventoryBackfillJob) (line : SaleLine) (id : Uuid) :
    Service (Option Movement) :=
  (clientQuery (.insertMovement (job.values line id) true)).rescue fun error =>
    if isUnitExclusionViolation error then .fail (.backfillCrossUnit line.unit line.unit)
    else .fail error

def InventoryBackfillJob.record (job : InventoryBackfillJob) (line : SaleLine) (row : Movement) :
    Service Unit := do
  let auditId ← newId
  clientQuery (.insertAudit ⟨auditId, job.actorId, job.tenantId, "inventory.movement.backfill",
    "stock_movement", row.id,
    [("sourceSystem", .text job.sourceSystem), ("externalId", .text line.id.text),
      ("saleId", .text job.saleId), ("correlationId", .ofOption job.correlationId)]⟩)
  let _ ← emit ⟨inventoryMovementCreated, job.tenantId, job.storeId,
    ⟨[row.id], "outbound", line.tenantProductRef.map Uuid.text,
      [("sourceSystem", .text job.sourceSystem), ("externalId", .text line.id.text),
        ("saleId", .text job.saleId)]⟩,
    job.correlationId.filter Uuid.isUuid⟩

/-- One line of the job: `true` when it was appended, `false` when it was there already. -/
def InventoryBackfillJob.backfillLine (job : InventoryBackfillJob) (line : SaleLine) :
    Service Bool := do
  job.assertUnit line
  let id ← newId
  let inserted ← job.insertLine line id
  match inserted with
  | none => return false
  | some row => do
      job.record line row
      return true

def InventoryBackfillJob.process (job : InventoryBackfillJob) : Service InventoryBackfillResult := do
  orThrow job.assertJob
  runWithTenantContext job.tenantId do
    let sale ← clientQuery (.selectSale job.saleId job.storeId)
    if Option.isNone sale then .fail .saleNotFound
    else do
      let lines ← clientQuery (.selectSaleLines job.saleId job.storeId)
      if maxBackfillMovements < List.length lines then .fail (.tooManyLines (List.length lines))
      else do
        let appended ← forEach job.backfillLine lines
        return ⟨job.saleId, appended.count true, appended.count false, 0 < appended.count true⟩

/-! ### InventoryController -/

/-- `ResolvedContext`, as the routes read it. -/
structure ResolvedContext where
  tenantId : String
  userId : String
  storeId : Option String

structure CreateStockTransferDto where
  sourceStoreId : String
  destinationStoreId : String
  tenantProductRef : String
  quantity : String
  stockingUnit : String
  reason : Option String := none

/-- `/^\d{1,15}(\.\d{1,4})?$/.test(text)`. -/
def isUnsignedQuantity (text : String) : Bool := isPlain 15 4 text.toList

/-- `z.string().min(1).max(32)`. -/
def unitIssues (text : String) : List Issue :=
  check (1 ≤ utf16Length text) ["stockingUnit"] "String must contain at least 1 character(s)" ++
    lengthIssues ["stockingUnit"] 32 (some text)

/-- `Math.round(Number(s) * 1e4) > 0`. -/
def isPositiveQuantity (text : String) : Bool :=
  (number text).any fun value =>
    0 < Binary64.mathRound (Binary64.roundBinary64 (value * 10 ^ 4))

/-- `CreateStockTransferSchema`. -/
def CreateStockTransferDto.issues (body : CreateStockTransferDto) : List Issue :=
  uuidIssues ["sourceStoreId"] body.sourceStoreId ++
    uuidIssues ["destinationStoreId"] body.destinationStoreId ++
    uuidIssues ["tenantProductRef"] body.tenantProductRef ++
    check (isUnsignedQuantity body.quantity) ["quantity"] ("quantity must be an unsigned " ++
      "numeric(19,4) decimal string (≤15 integer, ≤4 fraction digits)") ++
    check (isPositiveQuantity body.quantity) ["quantity"]
      "transfer quantity must be strictly positive" ++
    unitIssues body.stockingUnit ++
    lengthIssues ["reason"] 500 body.reason

/-- What a route answers instead of calling the service. -/
inductive Refusal where
  | validation (issues : List Issue)
  | notFound

def ResolvedContext.authorizeStore (ctx : ResolvedContext) (storeId : String) :
    Except Refusal Unit :=
  if ctx.storeId.all fun own => own = storeId then .ok () else .error .notFound

def accept (issues : List Issue) : Except Refusal Unit :=
  if issues.isEmpty then .ok () else .error (.validation issues)

def postTransfer (ctx : ResolvedContext) (body : CreateStockTransferDto) :
    Except Refusal CreateStockTransferInput := do
  accept body.issues
  ctx.authorizeStore body.sourceStoreId
  .ok ⟨ctx.tenantId, ctx.userId, body.sourceStoreId, body.destinationStoreId,
    body.tenantProductRef, body.quantity, body.stockingUnit, body.reason⟩

/-! ### All of them on one server -/

inductive Operation where
  | createStockMovement (input : CreateStockMovementInput)
  | createStockTransfer (input : CreateStockTransferInput)
  | recordStockCount (input : RecordStockCountInput)
  | backfillSaleLinkedOutbound (input : BackfillInput)
  | backfillRestockInbound (input : BackfillInput)
  | process (job : InventoryBackfillJob)

inductive Body where
  | movement (body : StockMovementBody)
  | transfer (body : StockTransferBody)
  | count (body : StockCountResultBody)
  | backfill (result : InventoryBackfillResult)
  deriving DecidableEq

namespace Operation

def tenantId : Operation → String
  | createStockMovement input => input.tenantId
  | createStockTransfer input => input.tenantId
  | recordStockCount input => input.tenantId
  | backfillSaleLinkedOutbound input => input.tenantId
  | backfillRestockInbound input => input.tenantId
  | process job => job.tenantId

def program : Operation → Service Body
  | createStockMovement input => (Inventory.createStockMovement input).bind fun body =>
    .done (.movement body)
  | createStockTransfer input => (Inventory.createStockTransfer input).bind fun body =>
    .done (.transfer body)
  | recordStockCount input => (Inventory.recordStockCount input).bind fun body =>
    .done (.count body)
  | backfillSaleLinkedOutbound input => (Inventory.backfillSaleLinkedOutbound input).bind
      fun body => .done (.movement body)
  | backfillRestockInbound input => (Inventory.backfillRestockInbound input).bind
      fun body => .done (.movement body)
  | process job => job.process.bind fun result => .done (.backfill result)

end Operation

structure Call where
  now : Int
  operation : Operation

def Call.context (call : Call) : TenantContext := ⟨Uuid.ofText call.operation.tenantId, call.now⟩

theorem Call.context_tenant (call : Call) : call.context.tenant = Uuid.ofText call.operation.tenantId := by
  simp only [Call.context]

/-- **The writers as clients of one server.** -/
def inventory (reference : Reference) :
    System Stmt Reply Uuid Thrown PgError Row Call Body where
  program call := call.operation.program
  exec call rows statement := exec reference call.context rows statement
  thrown := .pg
  refused := .plain .failedTransaction
  clash := clash

theorem inventory_program (reference : Reference) (call : Call) :
    (inventory reference).program call = call.operation.program := rfl

theorem inventory_lawful (reference : Reference) : Interleave.Lawful (inventory reference) :=
  ⟨clash_comm, fun _ _ _ _ _ ran => exec_refuses ran⟩

abbrev Reachable (reference : Reference) :=
  Interleave.Reachable (inventory reference)

end DataPulse.Inventory
