/-
**Reconciliation runs, the warehouse mappings and reports they wait for, and the statements sent about
them.**

The contents are what was written to the tables, in the order of the commits: rows, row locks, and the
UPDATEs of a run, of a mapping or of an outbox event. A row stands in its table with every UPDATE of it
applied (`WarehouseMap.after`, `ReconciliationRun.after`, `OutboxEvent.after`).

* The `summary` of a run has the one key `bin_view_report`, and its `kind` the one value `stock`.
* An item mapping is as the service that owns it leaves it, a later row under its id in place of an earlier
  one; movements of stock are only added.
* `exec`: the server, with the row-level security of the session's tenant. The drainer's session sees the
  outbox of every tenant. Rows that a query may answer in any order come in the order of their commits.

`erpnext_warehouse_map` has a partial unique index on the active mappings of a store and purpose. An INSERT
that meets an uncommitted retirement is answered at once, as one that came before it. Timestamps are opaque
numbers and a session has one `now()`.
-/

import DataPulse.ItemMaps.Ledger
import DataPulse.Outbox.Repository

namespace DataPulse.Stock

open Lib Platform
open Inventory (require Movement)
open ItemMaps (Mapping ResultState MAX_INTEGER)
open Outbox (DeliveryState)

/-! ### Rows -/

/-- `erpnext_warehouse_map.purpose`. -/
inductive Purpose where
  | stock
  | returns
  deriving DecidableEq

/-- `erpnext_warehouse_map`. -/
structure WarehouseMap where
  id : Uuid
  tenantId : Uuid
  storeId : Uuid
  purpose : Purpose
  erpnextWarehouseRef : String
  setBy : Option Uuid
  setAt : Int
  version : Nat
  retiredAt : Option Int
  createdAt : Int
  updatedAt : Int
  deriving DecidableEq

/-- An entry of a `StoredBinViewReport`. -/
structure StoredEntry where
  erpnextItemRef : String
  tenantProductRef : Option Uuid
  quantity : String
  stockUom : String
  deriving DecidableEq

structure StoredBinViewReport where
  requestRef : String
  runRef : Uuid
  erpnextWarehouseRef : String
  readAt : String
  recordedAt : Int
  acceptedEntryCount : Nat
  entries : List StoredEntry
  deriving DecidableEq

/-- `erpnext_reconciliation_run.trigger`. -/
inductive RunTrigger where
  | onDemand
  | scheduled
  deriving DecidableEq

/-- `erpnext_reconciliation_run.status`. -/
inductive RunStatus where
  | running
  | completed
  | failed
  deriving DecidableEq

/-- `erpnext_reconciliation_run`. -/
structure ReconciliationRun where
  id : Uuid
  tenantId : Uuid
  storeId : Uuid
  trigger : RunTrigger
  status : RunStatus
  startedAt : Int
  finishedAt : Option Int
  summary : Option StoredBinViewReport
  actorUserId : Option Uuid
  updatedAt : Int
  deriving DecidableEq

inductive MismatchClass where
  | matched
  | quantityDivergence
  | unmappedStore
  | unmappedItem
  | dp2Only
  | erpnextOnly
  | negativeBalanceFlagged
  deriving DecidableEq

/-- `detail` of a result. -/
structure Detail where
  dp2OnHand : Option String
  erpnextBin : Option String
  deriving DecidableEq

/-- `erpnext_reconciliation_result`. -/
structure ReconciliationResult where
  id : Uuid
  runId : Uuid
  tenantId : Uuid
  mismatchClass : MismatchClass
  sourceRefId : Option Uuid
  resultState : ResultState
  detail : Option Detail

structure Payload where
  runId : Uuid
  storeId : Uuid
  deriving DecidableEq

/-- `outbox_events`, as far as reconciliation and the drainer look at it. -/
structure OutboxEvent where
  eventId : Uuid
  tenantId : Uuid
  storeId : Uuid
  eventType : String
  payload : Payload
  deliveryState : DeliveryState
  occurredAt : Int
  deriving DecidableEq

/-- `audit_events`; `storeId` is its `metadata`. -/
structure AuditEvent where
  id : Uuid
  actorUserId : Uuid
  tenantId : Uuid
  action : String
  targetType : String
  targetId : Uuid
  storeId : Uuid

inductive Write where
  | map (row : WarehouseMap)
  | retire (id : Uuid) (time : Int)
  | run (row : ReconciliationRun)
  | lockRun (id : Uuid)
  | report (id : Uuid) (report : StoredBinViewReport) (time : Int)
  | complete (id : Uuid) (time : Int)
  | event (row : OutboxEvent)
  | settle (id : Uuid) (state : DeliveryState)
  | result (row : ReconciliationResult)
  | audit (row : AuditEvent)
  | movement (row : Movement)
  | itemMap (row : Mapping)

/-! ### Tables -/

/-- The rows inserted into `erpnext_warehouse_map`. -/
def insertedMaps (writes : List Write) : List WarehouseMap :=
  writes.filterMap fun | .map row => some row | _ => none

/-- The rows inserted into `erpnext_reconciliation_run`. -/
def insertedRuns (writes : List Write) : List ReconciliationRun :=
  writes.filterMap fun | .run row => some row | _ => none

/-- The rows inserted into `outbox_events`. -/
def insertedEvents (writes : List Write) : List OutboxEvent :=
  writes.filterMap fun | .event row => some row | _ => none

/-- `erpnext_reconciliation_result`. -/
def resultsOf (writes : List Write) : List ReconciliationResult :=
  writes.filterMap fun | .result row => some row | _ => none

/-- `audit_events`. -/
def auditsOf (writes : List Write) : List AuditEvent :=
  writes.filterMap fun | .audit row => some row | _ => none

/-- `stock_movements`. -/
def movementsOf (writes : List Write) : List Movement :=
  writes.filterMap fun | .movement row => some row | _ => none

/-- The rows with one of them in its place, or at their end. -/
def putMapping (rows : List Mapping) (row : Mapping) : List Mapping :=
  if rows.any fun other => other.id = row.id then
    rows.map fun other => if other.id = row.id then row else other
  else rows ++ [row]

/-- `erpnext_item_map`. -/
def itemMapsOf (writes : List Write) : List Mapping :=
  (writes.filterMap fun | .itemMap row => some row | _ => none).foldl putMapping []

def WarehouseMap.apply (row : WarehouseMap) : Write → WarehouseMap
  | .retire id time =>
    if row.id = id then
      { row with
        retiredAt := some time
        version := row.version + 1
        updatedAt := time }
    else row
  | _ => row

def WarehouseMap.after (writes : List Write) (row : WarehouseMap) : WarehouseMap :=
  writes.foldl WarehouseMap.apply row

def ReconciliationRun.apply (row : ReconciliationRun) : Write → ReconciliationRun
  | .report id report time =>
    if row.id = id then { row with summary := some report, updatedAt := time } else row
  | .complete id time =>
    if row.id = id then
      { row with
        status := .completed
        finishedAt := some time
        updatedAt := time }
    else row
  | _ => row

def ReconciliationRun.after (writes : List Write) (row : ReconciliationRun) : ReconciliationRun :=
  writes.foldl ReconciliationRun.apply row

def OutboxEvent.apply (row : OutboxEvent) : Write → OutboxEvent
  | .settle id state => if row.eventId = id then { row with deliveryState := state } else row
  | _ => row

/-- The inserted event with every UPDATE of it applied. -/
def OutboxEvent.after (writes : List Write) (row : OutboxEvent) : OutboxEvent :=
  writes.foldl OutboxEvent.apply row

/-- `erpnext_warehouse_map`. -/
def mapsOf (writes : List Write) : List WarehouseMap :=
  (insertedMaps writes).map (WarehouseMap.after writes)

/-- `erpnext_reconciliation_run`. -/
def runsOf (writes : List Write) : List ReconciliationRun :=
  (insertedRuns writes).map (ReconciliationRun.after writes)

/-- `outbox_events`. -/
def eventsOf (writes : List Write) : List OutboxEvent :=
  (insertedEvents writes).map (OutboxEvent.after writes)

/-- `retired_at IS NULL`. -/
def WarehouseMap.isActive (row : WarehouseMap) : Bool := row.retiredAt.isNone

/-- Equal keys in `UQ_idx_erpnext_warehouse_map_active`. -/
def WarehouseMap.sameKey (first second : WarehouseMap) : Bool :=
  first.tenantId = second.tenantId && first.storeId = second.storeId && first.purpose = second.purpose

/-! ### Statements -/

/-- The tables nobody here writes; a store has its tenant. -/
structure Reference where
  tenants : Uuid → Bool
  stores : Uuid → Option Uuid
  users : Uuid → Bool

/-- The context of a transaction: its tenant, if it set one, and its time. -/
structure Context where
  tenant : Option Uuid
  now : Int

/-- The VALUES of an INSERT into `erpnext_reconciliation_run`. -/
structure RunValues where
  id : Uuid
  tenantId : Uuid
  storeId : Uuid
  actorUserId : Uuid

structure EventValues where
  eventId : Uuid
  tenantId : Uuid
  storeId : Uuid
  eventType : String
  payload : Payload

/-- The VALUES of an INSERT into `erpnext_warehouse_map`. -/
structure MapValues where
  id : Uuid
  tenantId : Uuid
  storeId : Uuid
  erpnextWarehouseRef : String
  setBy : Uuid

inductive Change where
  | movement (row : Movement)
  | itemMap (row : Mapping)
  deriving DecidableEq

inductive DrainerUpdate where
  | claim
  | markDelivered
  | markFailed
  | markDeadLettered
  deriving DecidableEq

def DrainerUpdate.admits : DrainerUpdate → DeliveryState → Bool
  | claim, state => state = .pending || state = .failed
  | _, state => state = .claimed

def DrainerUpdate.state : DrainerUpdate → DeliveryState
  | claim => .claimed
  | markDelivered => .delivered
  | markFailed => .failed
  | markDeadLettered => .deadLettered

/-- A run on the feed: the join of an open run with the active mapping of its store. -/
structure RequestRow where
  runId : Uuid
  storeId : Uuid
  erpnextWarehouseRef : String
  startedAt : Int
  summary : Option StoredBinViewReport

structure OnHandRow where
  tenantProductRef : Uuid
  onHand : String
  hasConfirmedMap : Bool

/-- The statements about stock reconciliation, with the parameters they send. -/
inductive Stmt where
  | change (change : Change)
  /-- `SELECT id FROM stores WHERE id = $1`. -/
  | findStore (id : Uuid)
  /-- `INSERT INTO erpnext_reconciliation_run … VALUES ($1, $2, $3, 'stock', 'on_demand', 'running', $4)
  RETURNING …`. -/
  | insertRun (values : RunValues)
  /-- `INSERT INTO audit_events`. -/
  | insertAudit (row : AuditEvent)
  /-- `SELECT count(*)::text AS n FROM erpnext_warehouse_map WHERE store_id = $1 AND purpose = 'stock' AND
  retired_at IS NULL`; the processor's leaves the purpose out. -/
  | countMaps (storeId : Uuid) (purpose : Option Purpose)
  /-- `INSERT INTO outbox_events`. -/
  | insertEvent (values : EventValues)
  /-- `SELECT … FROM erpnext_reconciliation_run run JOIN erpnext_warehouse_map whm ON whm.store_id =
  run.store_id AND whm.purpose = 'stock' AND whm.retired_at IS NULL WHERE run.kind = 'stock' AND run.status =
  'running' AND ($1::uuid IS NULL OR run.id > $1::uuid) ORDER BY run.id LIMIT $2`. -/
  | openRuns (since : Option Uuid) (limit : Nat)
  /-- The same join, `FOR UPDATE OF run`. -/
  | lockRunning
  /-- `SELECT DISTINCT ON (erpnext_item_ref) erpnext_item_ref, tenant_product_id FROM erpnext_item_map WHERE
  erpnext_item_ref = ANY($1::text[]) AND state = 'confirmed' AND retired_at IS NULL ORDER BY
  erpnext_item_ref, confirmed_at DESC`. -/
  | resolveItems (refNames : List String)
  /-- `UPDATE erpnext_reconciliation_run SET summary = COALESCE(summary, '{}'::jsonb) ||
  jsonb_build_object('bin_view_report', $2::jsonb), updated_at = now() WHERE id = $1 AND status =
  'running'`. -/
  | storeReport (runId : Uuid) (report : StoredBinViewReport)
  /-- `SELECT store_id, status FROM erpnext_reconciliation_run WHERE id = $1 FOR UPDATE`. -/
  | lockRun (id : Uuid)
  /-- The on-hand of a store's products, each with whether it has a confirmed item mapping. -/
  | onHand (storeId : Uuid)
  /-- `SELECT summary FROM erpnext_reconciliation_run WHERE id = $1`. -/
  | runReport (id : Uuid)
  /-- `INSERT INTO erpnext_reconciliation_result`. -/
  | insertResult (row : ReconciliationResult)
  /-- `UPDATE erpnext_reconciliation_run SET status = 'completed', finished_at = now(), updated_at = now()
  WHERE id = $1 AND status = 'running'`. -/
  | completeRun (id : Uuid)
  /-- `INSERT INTO erpnext_warehouse_map … VALUES ($1, $2, $3, 'stock', $4, $5, 1) RETURNING …`. -/
  | insertMap (values : MapValues)
  /-- `UPDATE erpnext_warehouse_map SET retired_at = now(), version = version + 1, updated_at = now() WHERE
  id = $1 AND version = $2 AND retired_at IS NULL RETURNING …`. -/
  | retireMap (id : Uuid) (version : Nat)
  /-- `SELECT id FROM erpnext_warehouse_map WHERE id = $1 LIMIT 1`. -/
  | findMap (id : Uuid)
  /-- `UPDATE outbox_events SET delivery_state = … WHERE event_id = $1 AND delivery_state …`. -/
  | updateEvent (id : Uuid) (update : DrainerUpdate)

def Reply : Stmt → Type
  | .findStore .. => Bool
  | .insertRun .. => ReconciliationRun
  | .countMaps .. => Nat
  | .openRuns .. => List RequestRow
  | .lockRunning => List RequestRow
  | .resolveItems .. => List (String × Uuid)
  | .lockRun .. => Option (Uuid × RunStatus)
  | .onHand .. => List OnHandRow
  | .runReport .. => Option StoredBinViewReport
  | .insertMap .. => WarehouseMap
  | .retireMap .. => Option WarehouseMap
  | .findMap .. => Bool
  | .updateEvent .. => Bool
  | _ => Unit

/-! ### The server -/

/-- Above the cursor, or anywhere without one: `$1::uuid IS NULL OR id > $1::uuid`. -/
def beyond (since : Option Uuid) (id : Uuid) : Bool := since.all fun cursor => !id.precedes cursor

section Server

variable (reference : Reference) (context : Context) (writes : List Write)

def Context.sees (tenantId : Uuid) : Bool := context.tenant = some tenantId

def visibleRuns : List ReconciliationRun :=
  (runsOf writes).filter fun run => context.sees run.tenantId

/-- The active mappings of a store that the session sees. -/
def activeMaps (storeId : Uuid) : List WarehouseMap :=
  (mapsOf writes).filter fun row => row.storeId = storeId && row.isActive && context.sees row.tenantId

/-- The open runs, each joined with the active `stock` mappings of its store. -/
def wanted : List RequestRow :=
  ((visibleRuns context writes).filter fun run => run.status = .running).flatMap fun run =>
    ((activeMaps context writes run.storeId).filter fun row => row.purpose = .stock).map fun row =>
      ⟨run.id, run.storeId, row.erpnextWarehouseRef, run.startedAt, run.summary⟩

/-- The open runs above a cursor, in the order of their identifiers. -/
def feed (since : Option Uuid) : List RequestRow :=
  ((wanted context writes).filter fun row => beyond since row.runId).insertionSort
    fun first second => first.runId.precedes second.runId

/-- `confirmed_at DESC`, where a NULL comes first. -/
def laterConfirmed (first second : Mapping) : Bool :=
  match first.confirmedAt, second.confirmedAt with
  | none, _ => true
  | some _, none => false
  | some one, some two => two ≤ one

def confirmedMappings : List Mapping :=
  (itemMapsOf writes).filter fun row => row.isConfirmed && context.sees row.tenantId

def resolvedItems (refNames : List String) : List (String × Uuid) :=
  let rows := (confirmedMappings context writes).filter fun row => row.erpnextItemRef ∈ refNames
  (rows.map Mapping.erpnextItemRef).dedup.filterMap fun ref =>
    ((rows.filter fun row => row.erpnextItemRef = ref).insertionSort fun first second =>
      laterConfirmed first second).head?.map fun row => (ref, row.tenantProductId)

/-- The on-hand of a store: a row for each product it moved, or one for each confirmed mapping of the
product. -/
def onHandRows (storeId : Uuid) : List OnHandRow :=
  let movements := (movementsOf writes).filter fun row =>
    row.storeId = storeId && context.sees row.tenantId
  (movements.filterMap Movement.tenantProductRef).dedup.flatMap fun product =>
    let units := ((movements.filter fun row => row.tenantProductRef = some product).map fun row =>
      row.quantity.units).sum
    let text := String.ofList (Decimal.scaledText 4 units)
    match (confirmedMappings context writes).filter fun row => row.tenantProductId = product with
    | [] => [⟨product, text, false⟩]
    | maps => maps.map fun _ => ⟨product, text, true⟩

def RunValues.row (values : RunValues) : ReconciliationRun where
  id := values.id
  tenantId := values.tenantId
  storeId := values.storeId
  trigger := .onDemand
  status := .running
  startedAt := context.now
  finishedAt := none
  summary := none
  actorUserId := some values.actorUserId
  updatedAt := context.now

def EventValues.row (values : EventValues) : OutboxEvent where
  eventId := values.eventId
  tenantId := values.tenantId
  storeId := values.storeId
  eventType := values.eventType
  payload := values.payload
  deliveryState := .pending
  occurredAt := context.now

def MapValues.row (values : MapValues) : WarehouseMap where
  id := values.id
  tenantId := values.tenantId
  storeId := values.storeId
  purpose := .stock
  erpnextWarehouseRef := values.erpnextWarehouseRef
  setBy := some values.setBy
  setAt := context.now
  version := 1
  retiredAt := none
  createdAt := context.now
  updatedAt := context.now

def insertRun (values : RunValues) : Except PgError (ReconciliationRun × List Write) := do
  require (context.sees values.tenantId) (.plain .rowSecurity)
  require ((insertedRuns writes).all fun other => other.id ≠ values.id)
    ⟨.unique, some "erpnext_reconciliation_run_pkey"⟩
  require (reference.tenants values.tenantId)
    ⟨.foreignKey, some "erpnext_reconciliation_run_tenant_id_fkey"⟩
  require (reference.stores values.storeId).isSome
    ⟨.foreignKey, some "erpnext_reconciliation_run_store_id_fkey"⟩
  require (reference.users values.actorUserId)
    ⟨.foreignKey, some "erpnext_reconciliation_run_actor_user_id_fkey"⟩
  .ok (values.row context, [.run (values.row context)])

def insertAudit (row : AuditEvent) : Except PgError (Unit × List Write) := do
  require ((auditsOf writes).all fun other => other.id ≠ row.id) ⟨.unique, some "audit_events_pkey"⟩
  .ok ((), [.audit row])

def insertEvent (values : EventValues) : Except PgError (Unit × List Write) := do
  require (context.sees values.tenantId) (.plain .rowSecurity)
  require ((insertedEvents writes).all fun other => other.eventId ≠ values.eventId)
    ⟨.unique, some "outbox_events_pkey"⟩
  .ok ((), [.event (values.row context)])

def insertResult (row : ReconciliationResult) : Except PgError (Unit × List Write) := do
  require (context.sees row.tenantId) (.plain .rowSecurity)
  require ((resultsOf writes).all fun other => other.id ≠ row.id)
    ⟨.unique, some "erpnext_reconciliation_result_pkey"⟩
  require ((insertedRuns writes).any fun run => run.id = row.runId)
    ⟨.foreignKey, some "erpnext_reconciliation_result_run_id_fkey"⟩
  .ok ((), [.result row])

/-- The server inserts a warehouse mapping; an active one of its store refuses it. -/
def insertMap (values : MapValues) : Except PgError (WarehouseMap × List Write) := do
  require (context.sees values.tenantId) (.plain .rowSecurity)
  require (1 ≤ values.erpnextWarehouseRef.length && values.erpnextWarehouseRef.length ≤ 180)
    ⟨.check, some "erpnext_warehouse_map_ref_length"⟩
  require ((insertedMaps writes).all fun other => other.id ≠ values.id)
    ⟨.unique, some "erpnext_warehouse_map_pkey"⟩
  require ((mapsOf writes).all fun other => !(other.isActive && other.sameKey (values.row context)))
    ⟨.unique, some "UQ_idx_erpnext_warehouse_map_active"⟩
  require (reference.tenants values.tenantId)
    ⟨.foreignKey, some "erpnext_warehouse_map_tenant_id_fkey"⟩
  require (reference.stores values.storeId).isSome
    ⟨.foreignKey, some "erpnext_warehouse_map_store_id_fkey"⟩
  .ok (values.row context, [.map (values.row context)])

/-- The run under the identifier, if the session sees it. -/
def visibleRun (id : Uuid) : Option ReconciliationRun :=
  (visibleRuns context writes).find? fun run => run.id = id

/-- The server updates the run under the identifier, if the session sees it and it is open. -/
def updateRun (id : Uuid) (write : Write) : List Write :=
  if (visibleRun context writes id).any fun run => run.status = .running then [write] else []

def visibleMap (id : Uuid) : Option WarehouseMap :=
  (mapsOf writes).find? fun row => row.id = id && context.sees row.tenantId

def retireMap (id : Uuid) (version : Nat) : Option WarehouseMap × List Write :=
  match (visibleMap context writes id).filter fun row => row.version = version && row.isActive with
  | none => (none, [])
  | some row => (some (row.apply (.retire id context.now)), [.retire id context.now])

/-- The server takes over a row another service leaves: a movement under a new identifier, or an item
mapping of its tenant. -/
def insertChange : Change → Except PgError (List Write)
  | .movement row => do
      require (context.sees row.tenantId) (.plain .rowSecurity)
      require ((movementsOf writes).all fun other => other.id ≠ row.id)
        ⟨.unique, some "stock_movements_pkey"⟩
      .ok [.movement row]
  | .itemMap row => do
      require (context.sees row.tenantId) (.plain .rowSecurity)
      .ok [.itemMap row]

/-- **The server executes a statement.** -/
def exec : (statement : Stmt) → Except PgError (Reply statement × List Write)
  | .change edit => (insertChange context writes edit).map fun wrote => ((), wrote)
  | .findStore id => .ok ((reference.stores id).any context.sees, [])
  | .insertRun values => insertRun reference context writes values
  | .insertAudit row => insertAudit writes row
  | .countMaps storeId purpose => .ok (((activeMaps context writes storeId).filter fun row =>
    purpose.all fun purpose => row.purpose = purpose).length, [])
  | .insertEvent values => insertEvent context writes values
  | .openRuns since limit => .ok ((feed context writes since).take limit, [])
  | .lockRunning => .ok (wanted context writes, (wanted context writes).map fun row => .lockRun row.runId)
  | .resolveItems refNames => .ok (resolvedItems context writes refNames, [])
  | .storeReport runId report => .ok ((), updateRun context writes runId (.report runId report context.now))
  | .lockRun id =>
    match visibleRun context writes id with
    | none => .ok (none, [])
    | some run => .ok (some (run.storeId, run.status), [.lockRun id])
  | .onHand storeId => .ok (onHandRows context writes storeId, [])
  | .runReport id => .ok ((visibleRun context writes id).bind ReconciliationRun.summary, [])
  | .insertResult row => insertResult context writes row
  | .completeRun id => .ok ((), updateRun context writes id (.complete id context.now))
  | .insertMap values => insertMap reference context writes values
  | .retireMap id version => do
      require (version ≤ MAX_INTEGER) (.plain .outOfRange)
      .ok (retireMap context writes id version)
  | .findMap id => .ok ((visibleMap context writes id).isSome, [])
  | .updateEvent id update =>
    if (eventsOf writes).any fun row => row.eventId = id && update.admits row.deliveryState then
      .ok (true, [.settle id update.state])
    else .ok (false, [])

end Server

def Write.holdsRun : Write → Option Uuid
  | lockRun id => some id
  | report id _ _ => some id
  | complete id _ => some id
  | _ => none

def Write.changes : Write → Option Uuid
  | retire id _ => some id
  | settle id _ => some id
  | itemMap row => some row.id
  | _ => none

def clash : Write → Write → Bool
  | .map first, .map second => first.id = second.id || first.sameKey second
  | .run first, .run second => first.id = second.id
  | .event first, .event second => first.eventId = second.eventId
  | .result first, .result second => first.id = second.id
  | .audit first, .audit second => first.id = second.id
  | .movement first, .movement second => first.id = second.id
  | first, second => (first.changes.isSome && first.changes = second.changes) ||
      (first.holdsRun.isSome && first.holdsRun = second.holdsRun)

end DataPulse.Stock
