/-
**The sales tables and the statements their writers send.**

The contents of the tables are what was written to them, in the order of the commits: rows, and the
UPDATEs of the two tables that have any (`sales`, `sale_sync_deadletters`). A row stands in its table
with every UPDATE of it applied (`Sale.after`, `Deadletter.after`).

* `exec`: the server. It casts the parameters, applies the row-level security of the session's tenant,
  and checks keys, foreign keys and CHECKs;
* `clash`: two writes of which the second waits for the transaction of the first; `collide`: two writes
  that can never both be there. `exec_refuses`: the server refuses a write that collides with one it
  sees;
* `Sale.after_untouched`: a row that no UPDATE is about stays as it is;
* `insertSale_ok`, `processSale_ok`, …: what a statement that succeeded found, and what it wrote.

`sale_voids` and `sale_refunds` are one list of terminal events, of which the refunds have an amount.
Timestamps are opaque numbers and a session has one `now()`; `payload_hash`, which nothing reads, is
left out. Texts hold no NUL character.
-/

import DataPulse.Inventory.Ledger
import DataPulse.Sales.SyncStatus

namespace DataPulse.Sales

open Lib Lib.Decimal Platform
open Inventory (SoldQuantity TenantContext castUuid castOptional require require_ok
  castUuid_ok castUuid_text)

/-! ### Rows -/

structure Sale where
  id : Uuid
  tenantId : Uuid
  storeId : Uuid
  currencyCode : String
  posTotal : Numeric
  occurredAt : Int
  receivedAt : Int
  businessDate : String
  processedAt : Option Int
  sourceClockAt : Option Int
  sourceSystem : String
  externalId : String
  mismatchFlag : Option Bool
  createdBy : Uuid
  syncStatus : SaleSyncStatus
  deriving DecidableEq

structure SaleLine where
  id : Uuid
  saleId : Uuid
  tenantId : Uuid
  storeId : Uuid
  lineName : String
  unitPrice : Numeric
  currencyCode : String
  quantity : SoldQuantity
  lineAmount : Numeric
  taxAmount : Option Numeric
  unit : String
  tenantProductRef : Option Uuid
  deriving DecidableEq

inductive TerminalKind where
  | void
  | refund
  deriving DecidableEq

/-- `sale_voids`, and `sale_refunds` with the refunded amount and its currency. -/
structure TerminalEvent where
  id : Uuid
  saleId : Uuid
  tenantId : Uuid
  storeId : Uuid
  recordedAt : Int
  refunded : Option (Numeric × String)
  sourceSystem : String
  externalId : String
  createdBy : Uuid
  deriving DecidableEq

def TerminalEvent.kind (event : TerminalEvent) : TerminalKind :=
  if event.refunded.isSome then .refund else .void

/-- `sale_sync_deadletters`. -/
structure Deadletter where
  id : Uuid
  saleId : Uuid
  tenantId : Uuid
  storeId : Uuid
  classification : DeadLetterClassification
  reasonCode : String
  sourceSystem : String
  externalId : String
  correlationId : Option Uuid
  retryCount : Nat
  quarantinedAt : Int
  resolvedAt : Option Int
  deriving DecidableEq

structure Payload where
  saleId : String
  storeId : String
  kind : Option String
  sourceRefId : Option String
  deriving DecidableEq

/-- `outbox_events`, pending and not attempted yet. -/
structure OutboxEvent where
  eventId : Uuid
  tenantId : Uuid
  storeId : Uuid
  eventType : String
  payload : Payload
  occurredAt : Int
  deriving DecidableEq

/-- What a statement writes: a row, or the UPDATE of one. -/
inductive Write where
  | sale (row : Sale)
  | line (row : SaleLine)
  | terminal (row : TerminalEvent)
  | deadletter (row : Deadletter)
  | event (row : OutboxEvent)
  | process (saleId : Uuid) (mismatchFlag : Bool) (processedAt : Int)
  | setStatus (saleId : Uuid) (status : SaleSyncStatus)
  | resolve (id saleId : Uuid) (resolvedAt : Int)
  deriving DecidableEq

/-! ### Tables -/

/-- The rows inserted into `sales`. -/
def insertedSales (writes : List Write) : List Sale :=
  writes.filterMap fun | .sale row => some row | _ => none

/-- `sale_lines`. -/
def linesOf (writes : List Write) : List SaleLine :=
  writes.filterMap fun | .line row => some row | _ => none

/-- `sale_voids` and `sale_refunds`. -/
def terminalsOf (writes : List Write) : List TerminalEvent :=
  writes.filterMap fun | .terminal row => some row | _ => none

/-- The rows inserted into `sale_sync_deadletters`. -/
def insertedDeadletters (writes : List Write) : List Deadletter :=
  writes.filterMap fun | .deadletter row => some row | _ => none

/-- `outbox_events`. -/
def eventsOf (writes : List Write) : List OutboxEvent :=
  writes.filterMap fun | .event row => some row | _ => none

/-- The row of `sales` after a write. -/
def Sale.apply (sale : Sale) : Write → Sale
  | .process saleId mismatchFlag processedAt =>
    if sale.id = saleId then
      { sale with
        mismatchFlag := some mismatchFlag
        processedAt := some processedAt
        syncStatus := .synced }
    else sale
  | .setStatus saleId status => if sale.id = saleId then { sale with syncStatus := status } else sale
  | _ => sale

def Sale.after (writes : List Write) (sale : Sale) : Sale := writes.foldl Sale.apply sale

/-- The row of `sale_sync_deadletters` after a write. -/
def Deadletter.apply (row : Deadletter) : Write → Deadletter
  | .resolve id _ resolvedAt =>
    if row.id = id then
      { row with resolvedAt := some resolvedAt, retryCount := row.retryCount + 1 }
    else row
  | _ => row

def Deadletter.after (writes : List Write) (row : Deadletter) : Deadletter :=
  writes.foldl Deadletter.apply row

def salesOf (writes : List Write) : List Sale := (insertedSales writes).map (Sale.after writes)

/-- `sale_sync_deadletters`. -/
def deadlettersOf (writes : List Write) : List Deadletter :=
  (insertedDeadletters writes).map (Deadletter.after writes)

/-- `resolved_at IS NULL`. -/
def Deadletter.isOpen (row : Deadletter) : Bool := row.resolvedAt.isNone

def Deadletter.opens (saleId : Uuid) (row : Deadletter) : Bool := row.saleId = saleId && row.isOpen

/-! ### Statements -/

/-- A store: its tenant and its time zone. -/
structure Store where
  tenantId : Uuid
  timezone : String

/-- The tables the writers only read, the server's time-zone database (the calendar date of an instant
in a zone it knows) and the order of its texts. -/
structure Reference where
  tenants : Uuid → Bool
  stores : Uuid → Option Store
  calendarDate : String → Int → Option String
  collates : String → String → Bool

/-- The VALUES of an INSERT into `sales`. -/
structure SaleValues where
  id : Uuid
  tenantId : String
  storeId : String
  currencyCode : String
  posTotal : String
  occurredAt : Int
  sourceClockAt : Option Int
  sourceSystem : String
  externalId : String
  mismatchFlag : Bool
  createdBy : String
  timezone : String
  syncStatus : SaleSyncStatus

/-- The VALUES of an INSERT into `sale_lines`. -/
structure LineValues where
  id : Uuid
  saleId : Uuid
  tenantId : String
  storeId : String
  lineName : String
  unitPrice : String
  currencyCode : String
  quantity : String
  lineAmount : String
  taxAmount : Option String
  unit : String
  tenantProductRef : Option String

/-- The VALUES of an INSERT into `sale_voids`, and into `sale_refunds` with an amount. -/
structure TerminalValues where
  id : Uuid
  saleId : String
  tenantId : String
  storeId : String
  refunded : Option (String × String)
  sourceSystem : String
  externalId : String
  createdBy : String

/-- The VALUES of an INSERT into `sale_sync_deadletters`; `id` is the column's default. -/
structure DeadletterValues where
  id : Uuid
  saleId : String
  tenantId : String
  storeId : String
  classification : DeadLetterClassification
  reasonCode : String
  sourceSystem : String
  externalId : String
  correlationId : Option String

/-- The VALUES of an INSERT into `outbox_events`; the sales events have no correlation id. -/
structure EventValues where
  eventId : Uuid
  tenantId : String
  storeId : String
  eventType : String
  payload : Payload

/-- A row of the needs-repair queue: a dead letter and its sale. -/
structure NeedsRepairRow where
  deadletter : Deadletter
  sale : Sale

/-- The statements of the writers and of the sync operations, with the parameters they send. -/
inductive Stmt where
  /-- `SELECT (round(SUM(amt)::numeric, 4) <> $1::numeric) AS mismatch FROM unnest($2::numeric[]) AS
  amt`. -/
  | compareTotal (posTotal : String) (lineAmounts : List String)
  /-- `SELECT timezone FROM stores WHERE id = $1`. -/
  | storeTimezone (storeId : String)
  /-- `INSERT INTO sales … ON CONFLICT (tenant_id, source_system, external_id) DO NOTHING RETURNING
  id`. -/
  | insertSale (values : SaleValues)
  /-- `SELECT id FROM sales WHERE tenant_id = $1 AND source_system = $2 AND external_id = $3 LIMIT 1`. -/
  | findWinner (tenantId sourceSystem externalId : String)
  /-- `INSERT INTO sale_lines`. -/
  | insertLine (values : LineValues)
  /-- `INSERT INTO outbox_events`. -/
  | insertEvent (values : EventValues)
  /-- `SELECT … FROM sales WHERE id = $1 AND store_id = $2`. -/
  | selectSale (saleId storeId : String)
  /-- `SELECT … FROM sale_lines WHERE sale_id = $1 ORDER BY line_name`. -/
  | selectLines (saleId : String)
  /-- `INSERT INTO sale_voids …`, or `INSERT INTO sale_refunds …`, `ON CONFLICT (tenant_id,
  source_system, external_id) DO NOTHING RETURNING …`. -/
  | insertTerminal (values : TerminalValues)
  /-- `SELECT … FROM sale_voids WHERE tenant_id = $1 AND source_system = $2 AND external_id = $3
  LIMIT 1`, or the same of `sale_refunds`. -/
  | findTerminal (kind : TerminalKind) (tenantId sourceSystem externalId : String)
  /-- `UPDATE sales AS s SET mismatch_flag = (…), processed_at = now(), sync_status = 'synced' WHERE
  s.id = $1 AND s.store_id = $2 AND s.processed_at IS NULL RETURNING mismatch_flag, processed_at`. -/
  | processSale (saleId storeId : String)
  /-- `INSERT INTO sale_sync_deadletters … ON CONFLICT (sale_id) WHERE resolved_at IS NULL DO NOTHING
  RETURNING id`. -/
  | insertDeadletter (values : DeadletterValues)
  /-- `UPDATE sales SET sync_status = $3 WHERE id = $1 AND store_id = $2 AND sync_status <> 'synced'
  RETURNING id`. -/
  | advanceStatus (saleId storeId : String) (status : SaleSyncFailureStatus)
  /-- `SELECT … FROM sales WHERE id = $1`. -/
  | readSaleStatus (saleId : String)
  /-- `SELECT … FROM sale_sync_deadletters WHERE sale_id = $1 AND resolved_at IS NULL ORDER BY
  quarantined_at DESC LIMIT 1`. -/
  | readOpenDeadletter (saleId : String)
  /-- `UPDATE sale_sync_deadletters SET resolved_at = now(), retry_count = retry_count + 1 WHERE
  sale_id = $1 AND classification = 'needs-repair' AND resolved_at IS NULL RETURNING id`. -/
  | resolveDeadletter (saleId : String)
  /-- `UPDATE sales SET sync_status = 'failed-retryable' WHERE id = $1`. -/
  | requeueSale (saleId : String)
  /-- `SELECT … FROM sale_sync_deadletters d JOIN sales s ON s.id = d.sale_id WHERE d.classification =
  'needs-repair' AND d.resolved_at IS NULL AND ($1 IS NULL OR s.store_id = $1) AND ($2 IS NULL OR
  d.sale_id < $2) ORDER BY d.sale_id DESC LIMIT $3`. -/
  | needsRepairPage (storeId cursor : Option String) (limit : Nat)

/-- What each statement answers; `RETURNING` answers the row it wrote, if there is one. -/
def Reply : Stmt → Type
  | .compareTotal .. => Option Bool
  | .storeTimezone .. => Option String
  | .insertSale .. => Option Uuid
  | .findWinner .. => Option Uuid
  | .selectSale .. => Option Sale
  | .selectLines .. => List SaleLine
  | .insertTerminal .. => Option TerminalEvent
  | .findTerminal .. => Option TerminalEvent
  | .processSale .. => Option (Bool × Int)
  | .insertDeadletter .. => Option Uuid
  | .advanceStatus .. => Option Uuid
  | .readSaleStatus .. => Option Sale
  | .readOpenDeadletter .. => Option Deadletter
  | .resolveDeadletter .. => Option Uuid
  | .needsRepairPage .. => List NeedsRepairRow
  | _ => Unit

/-! ### The server -/

/-- `$n::numeric`. -/
def castNumeric (text : String) : Except PgError ℚ :=
  match literal (trimBy isAsciiSpace text.toList) with
  | some q => .ok q
  | none => .error (.plain .invalidText)

def castAmount : Option String → Except PgError (Option Numeric)
  | none => .ok none
  | some text => do
      let amount ← Numeric.ofText text
      .ok (some amount)

/-- `$n::numeric` in the `numeric(19,6)` column of a sold quantity, which is not negative. -/
def castQuantity (text : String) : Except PgError SoldQuantity := do
  let q ← castNumeric text
  let micros := Numeric.roundHalfAway (q * 10 ^ 6)
  if fits : micros.natAbs < 10 ^ 19 then
    if 0 ≤ micros then .ok ⟨micros.natAbs, fits⟩
    else .error ⟨.check, some "sale_lines_quantity_non_negative"⟩
  else .error (.plain .outOfRange)

/-- `~ '^[A-Z]{3}$'`. -/
def isCurrencyCode (code : String) : Bool :=
  code.toList.length = 3 && code.toList.all fun c => 'A' ≤ c && c ≤ 'Z'

def SaleValues.row (values : SaleValues) (reference : Reference) (context : TenantContext) :
    Except PgError Sale := do
  let tenantId ← castUuid values.tenantId
  let storeId ← castUuid values.storeId
  let posTotal ← Numeric.ofText values.posTotal
  let createdBy ← castUuid values.createdBy
  match reference.calendarDate values.timezone values.occurredAt with
  | none => .error (.plain (.other "22023"))
  | some businessDate => .ok {
      id := values.id
      tenantId := tenantId
      storeId := storeId
      currencyCode := values.currencyCode
      posTotal := posTotal
      occurredAt := values.occurredAt
      receivedAt := context.now
      businessDate := businessDate
      processedAt := none
      sourceClockAt := values.sourceClockAt
      sourceSystem := values.sourceSystem
      externalId := values.externalId
      mismatchFlag := some values.mismatchFlag
      createdBy := createdBy
      syncStatus := values.syncStatus }

def LineValues.row (values : LineValues) : Except PgError SaleLine := do
  let tenantId ← castUuid values.tenantId
  let storeId ← castUuid values.storeId
  let unitPrice ← Numeric.ofText values.unitPrice
  let quantity ← castQuantity values.quantity
  let lineAmount ← Numeric.ofText values.lineAmount
  let taxAmount ← castAmount values.taxAmount
  let tenantProductRef ← castOptional values.tenantProductRef
  .ok {
    id := values.id
    saleId := values.saleId
    tenantId := tenantId
    storeId := storeId
    lineName := values.lineName
    unitPrice := unitPrice
    currencyCode := values.currencyCode
    quantity := quantity
    lineAmount := lineAmount
    taxAmount := taxAmount
    unit := values.unit
    tenantProductRef := tenantProductRef }

def castRefunded : Option (String × String) → Except PgError (Option (Numeric × String))
  | none => .ok none
  | some (amount, currencyCode) => do
      let amount ← Numeric.ofText amount
      .ok (some (amount, currencyCode))

def TerminalValues.row (values : TerminalValues) (context : TenantContext) :
    Except PgError TerminalEvent := do
  let saleId ← castUuid values.saleId
  let tenantId ← castUuid values.tenantId
  let storeId ← castUuid values.storeId
  let refunded ← castRefunded values.refunded
  let createdBy ← castUuid values.createdBy
  .ok {
    id := values.id
    saleId := saleId
    tenantId := tenantId
    storeId := storeId
    recordedAt := context.now
    refunded := refunded
    sourceSystem := values.sourceSystem
    externalId := values.externalId
    createdBy := createdBy }

def DeadletterValues.row (values : DeadletterValues) (context : TenantContext) :
    Except PgError Deadletter := do
  let saleId ← castUuid values.saleId
  let tenantId ← castUuid values.tenantId
  let storeId ← castUuid values.storeId
  let correlationId ← castOptional values.correlationId
  .ok {
    id := values.id
    saleId := saleId
    tenantId := tenantId
    storeId := storeId
    classification := values.classification
    reasonCode := values.reasonCode
    sourceSystem := values.sourceSystem
    externalId := values.externalId
    correlationId := correlationId
    retryCount := 0
    quarantinedAt := context.now
    resolvedAt := none }

def EventValues.row (values : EventValues) (context : TenantContext) :
    Except PgError OutboxEvent := do
  let tenantId ← castUuid values.tenantId
  let storeId ← castUuid values.storeId
  .ok {
    eventId := values.eventId
    tenantId := tenantId
    storeId := storeId
    eventType := values.eventType
    payload := values.payload
    occurredAt := context.now }

/-- `uq_sales_tenant_source_external`: equal keys. -/
def Sale.sameKey (first second : Sale) : Bool :=
  first.tenantId = second.tenantId && first.sourceSystem = second.sourceSystem &&
    first.externalId = second.externalId

/-- `uq_sale_voids_tenant_source_external` and `uq_sale_refunds_tenant_source_external`: equal keys
in one table. -/
def TerminalEvent.sameKey (first second : TerminalEvent) : Bool :=
  first.kind = second.kind && first.tenantId = second.tenantId &&
    first.sourceSystem = second.sourceSystem && first.externalId = second.externalId

/-- `REFERENCES sales (id, tenant_id, store_id)`. -/
def hasSale (writes : List Write) (saleId tenantId storeId : Uuid) : Bool :=
  (insertedSales writes).any fun sale =>
    sale.id = saleId && sale.tenantId = tenantId && sale.storeId = storeId

/-- The row of `sales` under the identifier, if the tenant sees it. -/
def visibleSale (context : TenantContext) (writes : List Write) (saleId : Uuid) : Option Sale :=
  (salesOf writes).find? fun sale => sale.id = saleId && some sale.tenantId = context.tenant

def saleInScope (context : TenantContext) (writes : List Write) (saleId storeId : Uuid) :
    Option Sale :=
  (salesOf writes).find? fun sale =>
    sale.id = saleId && sale.storeId = storeId && some sale.tenantId = context.tenant

/-- `COALESCE(SUM(line_amount), 0)`, in ten-thousandths. -/
def lineTotal (context : TenantContext) (writes : List Write) (saleId : Uuid) : Int :=
  (((linesOf writes).filter fun line =>
    line.saleId = saleId && some line.tenantId = context.tenant).map fun line =>
      line.lineAmount.units).sum

def needsRepairRows (context : TenantContext) (writes : List Write) (storeId cursor : Option Uuid) :
    List NeedsRepairRow :=
  let rows := (deadlettersOf writes).filterMap fun deadletter =>
    if deadletter.classification = .needsRepair && deadletter.isOpen &&
        some deadletter.tenantId = context.tenant &&
        cursor.all (fun last => deadletter.saleId ≠ last && deadletter.saleId.precedes last) then
      ((visibleSale context writes deadletter.saleId).filter fun sale =>
        storeId.all (sale.storeId = ·)).map fun sale => ⟨deadletter, sale⟩
    else none
  rows.insertionSort fun first second =>
    second.deadletter.saleId.precedes first.deadletter.saleId = true

/-- The server inserts a row into `sales`; an equal key inserts none. -/
def insertSale (reference : Reference) (context : TenantContext) (writes : List Write)
    (values : SaleValues) : Except PgError (Option Uuid × List Write) := do
  let row ← values.row reference context
  let others := insertedSales writes
  require (some row.tenantId = context.tenant) (.plain .rowSecurity)
  require (isCurrencyCode row.currencyCode) ⟨.check, some "sales_currency_code_format"⟩
  require (0 ≤ row.posTotal.units) ⟨.check, some "sales_pos_total_non_negative"⟩
  if others.any row.sameKey then .ok (none, [])
  else do
    require (others.all fun other => other.id ≠ row.id) ⟨.unique, some "sales_pkey"⟩
    require (reference.tenants row.tenantId) ⟨.foreignKey, some "sales_tenant_id_fkey"⟩
    require (reference.stores row.storeId).isSome ⟨.foreignKey, some "sales_store_id_fkey"⟩
    .ok (some row.id, [.sale row])

/-- The server inserts a row into `sale_lines`. -/
def insertLine (writes : List Write) (context : TenantContext) (values : LineValues) :
    Except PgError (Unit × List Write) := do
  let row ← values.row
  require (some row.tenantId = context.tenant) (.plain .rowSecurity)
  require (isCurrencyCode row.currencyCode) ⟨.check, some "sale_lines_currency_code_format"⟩
  require (0 ≤ row.unitPrice.units) ⟨.check, some "sale_lines_unit_price_non_negative"⟩
  require (0 ≤ row.lineAmount.units) ⟨.check, some "sale_lines_line_amount_non_negative"⟩
  require (row.taxAmount.all fun amount => 0 ≤ amount.units)
    ⟨.check, some "sale_lines_tax_amount_non_negative"⟩
  require ((linesOf writes).all fun other => other.id ≠ row.id) ⟨.unique, some "sale_lines_pkey"⟩
  require (hasSale writes row.saleId row.tenantId row.storeId)
    ⟨.foreignKey, some "fk_sale_lines_sale_tenant_store"⟩
  .ok ((), [.line row])

/-- The server inserts a row into `sale_voids` or `sale_refunds`; an equal key inserts none. -/
def insertTerminal (context : TenantContext) (writes : List Write) (values : TerminalValues) :
    Except PgError (Option TerminalEvent × List Write) := do
  let row ← values.row context
  let others := terminalsOf writes
  require (some row.tenantId = context.tenant) (.plain .rowSecurity)
  require (row.refunded.all fun refunded => isCurrencyCode refunded.2)
    ⟨.check, some "sale_refunds_currency_code_format"⟩
  require (row.refunded.all fun refunded => 0 ≤ refunded.1.units)
    ⟨.check, some "sale_refunds_pos_refund_amount_non_negative"⟩
  if others.any row.sameKey then .ok (none, [])
  else do
    require (others.all fun other => other.kind ≠ row.kind || other.id ≠ row.id)
      (.plain .unique)
    require (hasSale writes row.saleId row.tenantId row.storeId) (.plain .foreignKey)
    .ok (some row, [.terminal row])

/-- The server inserts a row into `sale_sync_deadletters`; next to an open one it inserts none. -/
def insertDeadletter (context : TenantContext) (writes : List Write) (values : DeadletterValues) :
    Except PgError (Option Uuid × List Write) := do
  let row ← values.row context
  require (some row.tenantId = context.tenant) (.plain .rowSecurity)
  require (trimBy (· = ' ') row.reasonCode.toList ≠ [])
    ⟨.check, some "sale_sync_deadletters_reason_code_non_empty"⟩
  if (deadlettersOf writes).any (Deadletter.opens row.saleId) then .ok (none, [])
  else do
    require ((insertedDeadletters writes).all fun other => other.id ≠ row.id)
      ⟨.unique, some "sale_sync_deadletters_pkey"⟩
    require (hasSale writes row.saleId row.tenantId row.storeId)
      ⟨.foreignKey, some "fk_sale_sync_deadletters_sale_tenant_store"⟩
    .ok (some row.id, [.deadletter row])

/-- The server executes one statement, where it sees the writes. -/
def exec (reference : Reference) (context : TenantContext) (writes : List Write) :
    (statement : Stmt) → Except PgError (Reply statement × List Write)
  | .compareTotal posTotal lineAmounts => do
      let posTotal ← castNumeric posTotal
      let amounts ← lineAmounts.mapM castNumeric
      let rounded := (Numeric.roundHalfAway (amounts.sum * 10 ^ 4) : ℚ) / 10 ^ 4
      -- the SUM of no rows is NULL, and so is the comparison
      .ok (if amounts.isEmpty then none else some (decide (rounded ≠ posTotal)), [])
  | .storeTimezone storeId => do
      let storeId ← castUuid storeId
      let store := (reference.stores storeId).filter fun store =>
        some store.tenantId = context.tenant
      .ok (store.map Store.timezone, [])
  | .insertSale values => insertSale reference context writes values
  | .findWinner tenantId sourceSystem externalId => do
      let tenantId ← castUuid tenantId
      let found := (salesOf writes).find? fun sale => some sale.tenantId = context.tenant &&
        sale.tenantId = tenantId && sale.sourceSystem = sourceSystem &&
        sale.externalId = externalId
      .ok (found.map Sale.id, [])
  | .insertLine values => insertLine writes context values
  | .insertEvent values => do
      let row ← values.row context
      require (some row.tenantId = context.tenant) (.plain .rowSecurity)
      require ((eventsOf writes).all fun other => other.eventId ≠ row.eventId)
        ⟨.unique, some "outbox_events_pkey"⟩
      .ok ((), [.event row])
  | .selectSale saleId storeId => do
      let saleId ← castUuid saleId
      let storeId ← castUuid storeId
      .ok (saleInScope context writes saleId storeId, [])
  | .selectLines saleId => do
      let saleId ← castUuid saleId
      let lines := (linesOf writes).filter fun line =>
        line.saleId = saleId && some line.tenantId = context.tenant
      .ok (lines.insertionSort fun first second =>
        reference.collates first.lineName second.lineName = true, [])
  | .insertTerminal values => insertTerminal context writes values
  | .findTerminal kind tenantId sourceSystem externalId => do
      let tenantId ← castUuid tenantId
      let found := (terminalsOf writes).find? fun row => some row.tenantId = context.tenant &&
        row.kind = kind && row.tenantId = tenantId && row.sourceSystem = sourceSystem &&
        row.externalId = externalId
      .ok (found, [])
  | .processSale saleId storeId => do
      let saleId ← castUuid saleId
      let storeId ← castUuid storeId
      match (saleInScope context writes saleId storeId).filter fun sale =>
          sale.processedAt.isNone with
      | none => .ok (none, [])
      | some sale =>
        let mismatchFlag := decide (lineTotal context writes saleId ≠ sale.posTotal.units)
        .ok (some (mismatchFlag, context.now), [.process saleId mismatchFlag context.now])
  | .insertDeadletter values => insertDeadletter context writes values
  | .advanceStatus saleId storeId status => do
      let saleId ← castUuid saleId
      let storeId ← castUuid storeId
      match (saleInScope context writes saleId storeId).filter fun sale =>
          sale.syncStatus ≠ .synced with
      | none => .ok (none, [])
      | some _ => .ok (some saleId, [.setStatus saleId status.status])
  | .readSaleStatus saleId => do
      let saleId ← castUuid saleId
      .ok (visibleSale context writes saleId, [])
  | .readOpenDeadletter saleId => do
      let saleId ← castUuid saleId
      -- at most one row is open, by `uq_sale_sync_deadletters_open`
      let found := (deadlettersOf writes).find? fun row =>
        row.opens saleId && some row.tenantId = context.tenant
      .ok (found, [])
  | .resolveDeadletter saleId => do
      let saleId ← castUuid saleId
      let found := (deadlettersOf writes).find? fun row => row.opens saleId &&
        row.classification = .needsRepair && some row.tenantId = context.tenant
      match found with
      | none => .ok (none, [])
      | some row => .ok (some row.id, [.resolve row.id saleId context.now])
  | .requeueSale saleId => do
      let saleId ← castUuid saleId
      match visibleSale context writes saleId with
      | none => .ok ((), [])
      | some _ => .ok ((), [.setStatus saleId .failedRetryable])
  | .needsRepairPage storeId cursor limit => do
      let storeId ← castOptional storeId
      let cursor ← castOptional cursor
      .ok ((needsRepairRows context writes storeId cursor).take limit, [])

/-- The row of `sales` an UPDATE is about. -/
def Write.saleUpdated : Write → Option Uuid
  | process saleId _ _ => some saleId
  | setStatus saleId _ => some saleId
  | _ => none

/-- Two writes of which the second waits for the transaction of the first: rows with one key, UPDATEs
of one row, and an open dead letter next to another one, or to one that is being resolved. -/
def clash : Write → Write → Bool
  | .sale first, .sale second => first.id = second.id || first.sameKey second
  | .line first, .line second => first.id = second.id
  | .terminal first, .terminal second =>
    (first.kind = second.kind && first.id = second.id) || first.sameKey second
  | .event first, .event second => first.eventId = second.eventId
  | .deadletter first, .deadletter second => first.id = second.id || first.saleId = second.saleId
  | .deadletter row, .resolve _ saleId _ => row.saleId = saleId
  | .resolve _ saleId _, .deadletter row => row.saleId = saleId
  | .resolve first _ _, .resolve second _ _ => first = second
  | first, second => first.saleUpdated.isSome && first.saleUpdated = second.saleUpdated

def collide : Write → Write → Bool
  | .sale first, .sale second => first.id = second.id || first.sameKey second
  | .line first, .line second => first.id = second.id
  | .terminal first, .terminal second =>
    (first.kind = second.kind && first.id = second.id) || first.sameKey second
  | .event first, .event second => first.eventId = second.eventId
  | .deadletter first, .deadletter second => first.id = second.id
  | .resolve first _ _, .resolve second _ _ => first = second
  | .process first _ _, .process second _ _ => first = second
  | _, _ => false

end DataPulse.Sales
