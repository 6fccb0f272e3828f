/-
**The stock ledger and the statements its writers send to it.**

The four tables the inventory writers insert into (`stock_movements`, `stock_counts`, `audit_events`,
`outbox_events`) only grow, so their contents are the rows in the order of their commits. The tables
they only read (tenants, stores, products, users, sales and their lines) are a `Reference`, the same
throughout a run.

* `exec`: the server. It casts the parameters, applies the row-level security of the session's tenant,
  and checks CHECKs, unique indexes, the EXCLUDE constraint and foreign keys;
* `clash`: two rows that cannot both be in the ledger; `exec_refuses`: the server refuses a row that
  clashes with one it sees;
* `insertMovement_ok`, `insertAudit_ok`, …: what a statement that succeeded was given, and what it
  inserted.

Timestamps are opaque numbers and a session has one `now()`. Texts hold no NUL character.
-/

import DataPulse.Lib.Prog
import DataPulse.Lib.Rows
import DataPulse.Inventory.Quantities
import Mathlib.Data.List.Sort

namespace DataPulse.Inventory

open Lib Platform

variable {done : Unit}

/-! ### Rows -/

/-- `stock_movements.movement_type`. -/
inductive MovementType where
  | inbound
  | outbound
  | adjustment
  | transferOut
  | transferIn
  | countCorrection
  deriving DecidableEq

def MovementType.text : MovementType → String
  | inbound => "inbound"
  | outbound => "outbound"
  | adjustment => "adjustment"
  | transferOut => "transfer_out"
  | transferIn => "transfer_in"
  | countCorrection => "count_correction"

/-- `stock_movements`. The pair of `source_system` and `external_id` is all or nothing. -/
structure Movement where
  id : Uuid
  tenantId : Uuid
  storeId : Uuid
  movementType : MovementType
  quantity : Numeric
  stockingUnit : String
  tenantProductRef : Option Uuid
  reason : Option String
  occurredAt : Int
  receivedAt : Int
  provenance : Option (String × String)
  saleId : Option Uuid
  saleLineId : Option Uuid
  terminalEventRef : Option Uuid
  transferGroupId : Option Uuid
  stockCountId : Option Uuid
  createdBy : Uuid
  deriving DecidableEq

structure StockCount where
  id : Uuid
  tenantId : Uuid
  storeId : Uuid
  tenantProductRef : Uuid
  countedQuantity : Numeric
  derivedOnHandAtCount : Numeric
  stockingUnit : String
  countedAt : Int
  createdBy : Uuid

/-- A value in a JSON object of this package. -/
inductive Json where
  | null
  | text (value : String)
  | bool (value : Bool)

/-- `value ?? null`. -/
def Json.ofOption : Option String → Json
  | none => .null
  | some value => .text value

structure AuditEvent where
  id : Uuid
  actorUserId : Uuid
  tenantId : Uuid
  action : String
  targetType : String
  targetId : Uuid
  metadata : List (String × Json)

/-- The payload of a movement event; `provenance` has the further keys spread into it. -/
structure Payload where
  movementIds : List Uuid
  movementType : String
  tenantProductRef : Option String
  provenance : List (String × Json)

/-- `outbox_events`, pending and not attempted yet. -/
structure OutboxEvent where
  eventId : Uuid
  tenantId : Uuid
  storeId : Uuid
  eventType : String
  payload : Payload
  correlationId : Option Uuid
  occurredAt : Int

/-- A row of one of the four tables. -/
inductive Row where
  | movement (row : Movement)
  | count (row : StockCount)
  | audit (row : AuditEvent)
  | event (row : OutboxEvent)

/-- The rows of `stock_movements`. -/
def movementsOf (rows : List Row) : List Movement :=
  rows.filterMap fun | .movement row => some row | _ => none

/-- The rows of `stock_counts`. -/
def countsOf (rows : List Row) : List StockCount :=
  rows.filterMap fun | .count row => some row | _ => none

/-- The rows of `audit_events`. -/
def auditsOf (rows : List Row) : List AuditEvent :=
  rows.filterMap fun | .audit row => some row | _ => none

/-- The rows of `outbox_events`. -/
def eventsOf (rows : List Row) : List OutboxEvent :=
  rows.filterMap fun | .event row => some row | _ => none

section Tables

variable {rows more : List Row}

@[simp] theorem mem_movementsOf {m : Movement} : m ∈ movementsOf rows ↔ Row.movement m ∈ rows := by
  simp only [movementsOf, mem_filterMap]
  constructor
  · rintro ⟨row, mem, same⟩
    cases row <;> cases same
    exact mem
  · exact fun mem => ⟨_, mem, rfl⟩

@[simp] theorem movementsOf_append : movementsOf (rows ++ more) = movementsOf rows ++ movementsOf more :=
  filterMap_append

@[simp] theorem auditsOf_append : auditsOf (rows ++ more) = auditsOf rows ++ auditsOf more :=
  filterMap_append

@[simp] theorem eventsOf_append : eventsOf (rows ++ more) = eventsOf rows ++ eventsOf more :=
  filterMap_append

end Tables

/-! ### Tables that are only read -/

/-- `sales`, as far as the backfill reads it. -/
structure Sale where
  tenantId : Uuid
  storeId : Uuid
  processed : Bool

/-- `sale_lines`, as far as the backfill reads it. -/
structure SaleLine where
  id : Uuid
  saleId : Uuid
  tenantId : Uuid
  storeId : Uuid
  quantity : SoldQuantity
  unit : String
  tenantProductRef : Option Uuid

/-- The tables the writers only read, with the keys the migrations put on them. -/
structure Reference where
  tenants : Uuid → Bool
  stores : Uuid → Option Uuid
  products : Uuid → Bool
  users : Uuid → Bool
  sales : Uuid → Option Sale
  saleLines : List SaleLine
  lineOnce : (saleLines.map SaleLine.id).Nodup
  lineTenant : ∀ line ∈ saleLines, tenants line.tenantId = true
  lineStore : ∀ line ∈ saleLines, (stores line.storeId).isSome = true

/-! ### Statements -/

/-- The SQL of a quantity: `$n::numeric(19,4)`, or `(-1) * $n::numeric(19,4)`. -/
inductive QuantitySql where
  | cast (text : String)
  | negatedCast (text : String)

/-- The VALUES of an INSERT into `stock_movements`; columns that are not listed are `none`. -/
structure MovementValues where
  id : Uuid
  tenantId : String
  storeId : String
  movementType : MovementType
  quantity : QuantitySql
  stockingUnit : String
  tenantProductRef : Option String
  reason : Option String := none
  occurredAt : Option Int := none
  provenance : Option (String × String) := none
  saleId : Option String := none
  saleLineId : Option String := none
  terminalEventRef : Option String := none
  transferGroupId : Option Uuid := none
  stockCountId : Option Uuid := none
  createdBy : String

/-- The VALUES of an INSERT into `stock_counts`. -/
structure CountValues where
  id : Uuid
  tenantId : String
  storeId : String
  tenantProductRef : String
  countedQuantity : String
  derivedOnHandAtCount : String
  stockingUnit : String
  countedAt : Option Int
  createdBy : String

/-- The VALUES of an INSERT into `audit_events`. -/
structure AuditValues where
  id : Uuid
  actorUserId : String
  tenantId : String
  action : String
  targetType : String
  targetId : Uuid
  metadata : List (String × Json)

/-- The VALUES of an INSERT into `outbox_events`. -/
structure EventValues where
  eventId : Uuid
  tenantId : String
  storeId : String
  eventType : String
  payload : Payload
  correlationId : Option String

/-- The statements of the writers, with the parameters they send. -/
inductive Stmt where
  /-- `SELECT stocking_unit FROM stock_movements WHERE store_id = $1 AND tenant_product_ref = $2
  ORDER BY received_at ASC, id ASC LIMIT 1`. -/
  | establishedUnit (storeId tenantProductRef : String)
  /-- `SELECT COALESCE(SUM(quantity), 0)::numeric(19,4)::text FROM stock_movements WHERE store_id = $1
  AND tenant_product_ref = $2`. -/
  | onHand (storeId tenantProductRef : String)
  /-- `SELECT id FROM stores WHERE id = $1`. -/
  | findStore (id : String)
  /-- `INSERT INTO stock_movements … RETURNING …`, with or without `ON CONFLICT (tenant_id,
  source_system, external_id) … DO NOTHING`. -/
  | insertMovement (values : MovementValues) (doNothing : Bool)
  /-- `SELECT … FROM stock_movements WHERE tenant_id = $1 AND source_system = $2 AND
  external_id = $3`. -/
  | findMovement (tenantId sourceSystem externalId : String)
  /-- `INSERT INTO stock_counts`. -/
  | insertCount (values : CountValues)
  /-- `INSERT INTO audit_events`. -/
  | insertAudit (values : AuditValues)
  /-- `INSERT INTO outbox_events`. -/
  | insertEvent (values : EventValues)
  /-- `SELECT id FROM sales WHERE id = $1 AND store_id = $2 AND processed_at IS NULL`. -/
  | selectSale (saleId storeId : String)
  /-- `SELECT id, quantity, unit, tenant_product_ref FROM sale_lines WHERE sale_id = $1 AND
  store_id = $2 ORDER BY id ASC`. -/
  | selectSaleLines (saleId storeId : String)

/-- What each statement answers. A row is handed out with its columns as they are stored; the driver's
text of a quantity is `Numeric.text`. -/
def Reply : Stmt → Type
  | .establishedUnit .. => Option String
  | .onHand .. => String
  | .findStore .. => Option Uuid
  | .insertMovement .. => Option Movement
  | .findMovement .. => Option Movement
  | .selectSale .. => Option Uuid
  | .selectSaleLines .. => List SaleLine
  | _ => Unit

/-- `TenantContext` of a transaction: `app.current_tenant`, as the server casts it, and `now()`. -/
structure TenantContext where
  tenant : Option Uuid
  now : Int

/-! ### The server -/

/-- `$n::uuid`. -/
def castUuid (text : String) : Except PgError Uuid :=
  match Uuid.ofText text with
  | some id => .ok id
  | none => .error (.plain .invalidText)

def castOptional : Option String → Except PgError (Option Uuid)
  | none => .ok none
  | some text => do
      let id ← castUuid text
      .ok (some id)

def require (holds : Bool) (error : PgError) : Except PgError Unit :=
  if holds then .ok () else .error error

def unitGuardConstraint : String := "stock_movements_one_unit_per_product"

def unitViolation : PgError := ⟨.exclusion, some unitGuardConstraint⟩

def QuantitySql.value : QuantitySql → Except PgError Numeric
  | cast text => Numeric.ofText text
  | negatedCast text => do
      let value ← Numeric.ofText text
      .ok (-value)

/-- The row of the VALUES, with the defaults of the columns. -/
def MovementValues.row (values : MovementValues) (context : TenantContext) :
    Except PgError Movement := do
  let tenantId ← castUuid values.tenantId
  let storeId ← castUuid values.storeId
  let quantity ← values.quantity.value
  let tenantProductRef ← castOptional values.tenantProductRef
  let saleId ← castOptional values.saleId
  let saleLineId ← castOptional values.saleLineId
  let terminalEventRef ← castOptional values.terminalEventRef
  let createdBy ← castUuid values.createdBy
  .ok {
    id := values.id
    tenantId := tenantId
    storeId := storeId
    movementType := values.movementType
    quantity := quantity
    stockingUnit := values.stockingUnit
    tenantProductRef := tenantProductRef
    reason := values.reason
    occurredAt := values.occurredAt.getD context.now
    receivedAt := context.now
    provenance := values.provenance
    saleId := saleId
    saleLineId := saleLineId
    terminalEventRef := terminalEventRef
    transferGroupId := values.transferGroupId
    stockCountId := values.stockCountId
    createdBy := createdBy }

def CountValues.row (values : CountValues) (context : TenantContext) : Except PgError StockCount := do
  let tenantId ← castUuid values.tenantId
  let storeId ← castUuid values.storeId
  let tenantProductRef ← castUuid values.tenantProductRef
  let countedQuantity ← Numeric.ofText values.countedQuantity
  let derivedOnHandAtCount ← Numeric.ofText values.derivedOnHandAtCount
  let createdBy ← castUuid values.createdBy
  .ok {
    id := values.id
    tenantId := tenantId
    storeId := storeId
    tenantProductRef := tenantProductRef
    countedQuantity := countedQuantity
    derivedOnHandAtCount := derivedOnHandAtCount
    stockingUnit := values.stockingUnit
    countedAt := values.countedAt.getD context.now
    createdBy := createdBy }

def AuditValues.row (values : AuditValues) : Except PgError AuditEvent := do
  let actorUserId ← castUuid values.actorUserId
  let tenantId ← castUuid values.tenantId
  .ok {
    id := values.id
    actorUserId := actorUserId
    tenantId := tenantId
    action := values.action
    targetType := values.targetType
    targetId := values.targetId
    metadata := values.metadata }

def EventValues.row (values : EventValues) (context : TenantContext) :
    Except PgError OutboxEvent := do
  let tenantId ← castUuid values.tenantId
  let storeId ← castUuid values.storeId
  let correlationId ← castOptional values.correlationId
  .ok {
    eventId := values.eventId
    tenantId := tenantId
    storeId := storeId
    eventType := values.eventType
    payload := values.payload
    correlationId := correlationId
    occurredAt := context.now }

namespace Movement

/-- `uq_stock_movements_tenant_source_external`: equal keys, where both halves are present. -/
def sameKey (first second : Movement) : Bool :=
  first.provenance.isSome && first.provenance = second.provenance &&
    first.tenantId = second.tenantId

/-- `stock_movements_one_unit_per_product`: equal store, equal product, unequal unit. -/
def otherUnit (first second : Movement) : Bool :=
  first.tenantProductRef.isSome && first.tenantProductRef = second.tenantProductRef &&
    first.storeId = second.storeId && first.stockingUnit ≠ second.stockingUnit

/-- The movement counts towards the on-hand of the product at the store, in the eyes of the tenant. -/
def counts (tenant : Option Uuid) (storeId product : Uuid) (movement : Movement) : Bool :=
  some movement.tenantId = tenant && movement.storeId = storeId &&
    movement.tenantProductRef = some product

/-- `ORDER BY received_at ASC, id ASC`. -/
def precedes (first second : Movement) : Bool :=
  first.receivedAt < second.receivedAt ||
    (first.receivedAt = second.receivedAt && first.id.precedes second.id)

end Movement

/-- `ORDER BY received_at ASC, id ASC LIMIT 1`. -/
def earliest : List Movement → Option Movement
  | [] => none
  | movement :: rest =>
    match earliest rest with
    | some other => if movement.precedes other then some movement else some other
    | none => some movement

/-- The movements of a product at a store that the tenant sees. -/
def ofPair (tenant : Option Uuid) (storeId product : Uuid) (rows : List Row) : List Movement :=
  (movementsOf rows).filter (Movement.counts tenant storeId product)

def total (movements : List Movement) : Int := (movements.map fun m => m.quantity.units).sum

/-- The server inserts a row into `stock_movements`; with `doNothing`, an equal key inserts none. -/
def insertMovement (reference : Reference) (context : TenantContext) (rows : List Row)
    (values : MovementValues) (doNothing : Bool) :
    Except PgError (Option Movement × List Row) := do
  let row ← values.row context
  let others := movementsOf rows
  require (some row.tenantId = context.tenant) (.plain .rowSecurity)
  require (row.reason.all fun reason => reason.length ≤ 500)
    ⟨.check, some "stock_movements_reason_length"⟩
  require ((row.movementType = .countCorrection) == row.stockCountId.isSome)
    ⟨.check, some "stock_movements_count_correction_link"⟩
  if doNothing && others.any row.sameKey then .ok (none, [])
  else do
    require (others.all fun other => other.id ≠ row.id) ⟨.unique, some "stock_movements_pkey"⟩
    require (others.all fun other => !other.sameKey row)
      ⟨.unique, some "uq_stock_movements_tenant_source_external"⟩
    require (others.all fun other => !other.otherUnit row) unitViolation
    require (reference.tenants row.tenantId) ⟨.foreignKey, some "stock_movements_tenant_id_fkey"⟩
    require (reference.stores row.storeId).isSome
      ⟨.foreignKey, some "stock_movements_store_id_fkey"⟩
    require (row.tenantProductRef.all reference.products)
      ⟨.foreignKey, some "stock_movements_tenant_product_ref_fkey"⟩
    require (row.stockCountId.all fun id => (countsOf rows).any fun count =>
        count.id = id && count.tenantId = row.tenantId && count.storeId = row.storeId)
      ⟨.foreignKey, some "fk_stock_movements_count_tenant_store"⟩
    .ok (some row, [.movement row])

/-- The server executes one statement, where it sees the rows. -/
def exec (reference : Reference) (context : TenantContext) (rows : List Row) :
    (statement : Stmt) → Except PgError (Reply statement × List Row)
  | .establishedUnit storeId product => do
      let storeId ← castUuid storeId
      let product ← castUuid product
      let first := earliest (ofPair context.tenant storeId product rows)
      .ok (first.map Movement.stockingUnit, [])
  | .onHand storeId product => do
      let storeId ← castUuid storeId
      let product ← castUuid product
      let sum ← Numeric.ofUnits (total (ofPair context.tenant storeId product rows))
      .ok (sum.text, [])
  | .findStore id => do
      let id ← castUuid id
      let owner := (reference.stores id).filter fun tenant => some tenant = context.tenant
      .ok (owner.map fun _ => id, [])
  | .insertMovement values doNothing => insertMovement reference context rows values doNothing
  | .findMovement tenantId sourceSystem externalId => do
      let tenantId ← castUuid tenantId
      let found := (movementsOf rows).find? fun m => some m.tenantId = context.tenant &&
        m.tenantId = tenantId && m.provenance = some (sourceSystem, externalId)
      .ok (found, [])
  | .insertCount values => do
      let row ← values.row context
      require (some row.tenantId = context.tenant) (.plain .rowSecurity)
      require ((countsOf rows).all fun other => other.id ≠ row.id)
        ⟨.unique, some "stock_counts_pkey"⟩
      require (reference.tenants row.tenantId) ⟨.foreignKey, some "stock_counts_tenant_id_fkey"⟩
      require (reference.stores row.storeId).isSome ⟨.foreignKey, some "stock_counts_store_id_fkey"⟩
      require (reference.products row.tenantProductRef)
        ⟨.foreignKey, some "stock_counts_tenant_product_ref_fkey"⟩
      .ok ((), [.count row])
  | .insertAudit values => do
      let row ← values.row
      require (some row.tenantId = context.tenant) (.plain .rowSecurity)
      require ((auditsOf rows).all fun other => other.id ≠ row.id)
        ⟨.unique, some "audit_events_pkey"⟩
      require (reference.users row.actorUserId)
        ⟨.foreignKey, some "audit_events_actor_user_id_fkey"⟩
      require (reference.tenants row.tenantId) ⟨.foreignKey, some "audit_events_tenant_id_fkey"⟩
      .ok ((), [.audit row])
  | .insertEvent values => do
      let row ← values.row context
      require (some row.tenantId = context.tenant) (.plain .rowSecurity)
      require ((eventsOf rows).all fun other => other.eventId ≠ row.eventId)
        ⟨.unique, some "outbox_events_pkey"⟩
      .ok ((), [.event row])
  | .selectSale saleId storeId => do
      let saleId ← castUuid saleId
      let storeId ← castUuid storeId
      let sale := (reference.sales saleId).filter fun sale =>
        some sale.tenantId = context.tenant && sale.storeId = storeId && !sale.processed
      .ok (sale.map fun _ => saleId, [])
  | .selectSaleLines saleId storeId => do
      let saleId ← castUuid saleId
      let storeId ← castUuid storeId
      let lines := reference.saleLines.filter fun line =>
        some line.tenantId = context.tenant && line.saleId = saleId && line.storeId = storeId
      .ok (lines.insertionSort fun first second => first.id.precedes second.id = true, [])

def clash : Row → Row → Bool
  | .movement first, .movement second =>
    first.id = second.id || first.sameKey second || first.otherUnit second
  | .count first, .count second => first.id = second.id
  | .audit first, .audit second => first.id = second.id
  | .event first, .event second => first.eventId = second.eventId
  | _, _ => false

/-! ### What a successful statement did -/

variable {values : MovementValues} {movement : Movement} {statement : Stmt}
  {storeId product : String} {error : PgError} {id : Uuid} {reply : Reply statement}

theorem require_ok {holds : Bool} (passed : require holds error = .ok done) : holds = true := by
  unfold require at passed
  split at passed
  · assumption
  · cases passed

theorem require_all {α : Type} {rows : List α} {holds : α → Prop} [DecidablePred holds]
    (passed : require (rows.all fun row => holds row) error = .ok done) : ∀ row ∈ rows, holds row :=
  fun row mem => of_decide_eq_true (all_eq_true.1 (require_ok passed) row mem)

variable {text : String}

theorem castUuid_ok (cast : castUuid text = .ok id) : Uuid.ofText text = some id := by
  unfold castUuid at cast
  split at cast
  · cases cast
    assumption
  · cases cast

theorem castUuid_of (read : Uuid.ofText text = some id) : castUuid text = .ok id := by
  rw [castUuid, read]

@[simp] theorem castUuid_text (id : Uuid) : castUuid id.text = .ok id :=
  castUuid_of (Uuid.ofText_text id)

theorem castOptional_of (read : Uuid.ofText text = some id) : castOptional (some text) = .ok (some id) := by
  show (castUuid text >>= fun id => .ok (some id)) = _
  rw [castUuid_of read]
  rfl

@[simp] theorem castOptional_text (id : Option Uuid) : castOptional (id.map Uuid.text) = .ok id := by
  cases id with
  | none => rfl
  | some id =>
    show (castUuid id.text >>= fun id => .ok (some id)) = _
    rw [castUuid_text]
    rfl

/-- The columns of an inserted movement, as far as they are not NULL by default. -/
structure MovementValues.Gives (values : MovementValues) (movement : Movement) : Prop where
  id : movement.id = values.id
  tenant : Uuid.ofText values.tenantId = some movement.tenantId
  store : Uuid.ofText values.storeId = some movement.storeId
  movementType : movement.movementType = values.movementType
  quantity : values.quantity.value = .ok movement.quantity
  unit : movement.stockingUnit = values.stockingUnit
  product : castOptional values.tenantProductRef = .ok movement.tenantProductRef
  provenance : movement.provenance = values.provenance
  transferGroup : movement.transferGroupId = values.transferGroupId
  stockCount : movement.stockCountId = values.stockCountId
  creator : Uuid.ofText values.createdBy = some movement.createdBy

variable {context : TenantContext}

theorem MovementValues.row_ok (read : values.row context = .ok movement) : values.Gives movement := by
  obtain ⟨tenantId, tenant, read⟩ := bind_ok read
  obtain ⟨storeId, store, read⟩ := bind_ok read
  obtain ⟨quantity, value, read⟩ := bind_ok read
  obtain ⟨tenantProductRef, product, read⟩ := bind_ok read
  obtain ⟨saleId, -, read⟩ := bind_ok read
  obtain ⟨saleLineId, -, read⟩ := bind_ok read
  obtain ⟨terminalEventRef, -, read⟩ := bind_ok read
  obtain ⟨createdBy, creator, read⟩ := bind_ok read
  cases read
  exact ⟨rfl, castUuid_ok tenant, castUuid_ok store, rfl, value, rfl, product, rfl, rfl, rfl,
    castUuid_ok creator⟩

structure CountValues.Gives (values : CountValues) (count : StockCount) : Prop where
  id : count.id = values.id
  tenant : Uuid.ofText values.tenantId = some count.tenantId
  store : Uuid.ofText values.storeId = some count.storeId
  product : Uuid.ofText values.tenantProductRef = some count.tenantProductRef
  counted : Numeric.ofText values.countedQuantity = .ok count.countedQuantity
  derived : Numeric.ofText values.derivedOnHandAtCount = .ok count.derivedOnHandAtCount

theorem CountValues.row_ok {values : CountValues} {count : StockCount}
    (read : values.row context = .ok count) : values.Gives count := by
  obtain ⟨tenantId, tenant, read⟩ := bind_ok read
  obtain ⟨storeId, store, read⟩ := bind_ok read
  obtain ⟨tenantProductRef, product, read⟩ := bind_ok read
  obtain ⟨countedQuantity, counted, read⟩ := bind_ok read
  obtain ⟨derivedOnHandAtCount, derived, read⟩ := bind_ok read
  obtain ⟨createdBy, -, read⟩ := bind_ok read
  cases read
  exact ⟨rfl, castUuid_ok tenant, castUuid_ok store, castUuid_ok product, counted, derived⟩

theorem AuditValues.row_ok {values : AuditValues} {audit : AuditEvent} (read : values.row = .ok audit) :
    audit.targetType = values.targetType ∧ audit.targetId = values.targetId := by
  obtain ⟨actorUserId, -, read⟩ := bind_ok read
  obtain ⟨tenantId, -, read⟩ := bind_ok read
  cases read
  exact ⟨rfl, rfl⟩

theorem EventValues.row_ok {values : EventValues} {event : OutboxEvent}
    (read : values.row context = .ok event) :
    event.eventId = values.eventId ∧ event.eventType = values.eventType ∧ event.payload = values.payload := by
  obtain ⟨tenantId, -, read⟩ := bind_ok read
  obtain ⟨storeId, -, read⟩ := bind_ok read
  obtain ⟨correlationId, -, read⟩ := bind_ok read
  cases read
  exact ⟨rfl, rfl, rfl⟩

/-- A movement next to the ones the server saw. -/
structure Movement.Fits (reference : Reference) (context : TenantContext) (rows : List Row)
    (movement : Movement) : Prop where
  tenant : some movement.tenantId = context.tenant
  fresh : ∀ other ∈ movementsOf rows, clash (.movement other) (.movement movement) = false
  known : reference.tenants movement.tenantId = true
  product : movement.tenantProductRef.all reference.products = true

variable {reference : Reference} {context : TenantContext} {rows writes : List Row}

/-- **An INSERT into `stock_movements` inserts its row, or found its key taken.** -/
theorem insertMovement_ok {doNothing : Bool} {reply : Option Movement}
    (added : insertMovement reference context rows values doNothing = .ok (reply, writes)) :
    ∃ movement, values.row context = .ok movement ∧
      ((reply = some movement ∧ writes = [.movement movement] ∧ movement.Fits reference context rows) ∨
        (doNothing = true ∧ reply = none ∧ writes = [] ∧ some movement.tenantId = context.tenant ∧
          ∃ other ∈ movementsOf rows, movement.sameKey other = true)) := by
  obtain ⟨movement, read, added⟩ := bind_ok added
  obtain ⟨_, tenant, added⟩ := bind_ok added
  obtain ⟨-, -, added⟩ := bind_ok₂ added
  have tenant := of_decide_eq_true (require_ok tenant)
  refine ⟨movement, read, ?_⟩
  split at added
  · rename_i taken
    cases added
    rw [and_eq_true] at taken
    obtain ⟨other, mem, same⟩ := List.any_eq_true.1 taken.2
    exact .inr ⟨taken.1, rfl, rfl, tenant, other, mem, same⟩
  · obtain ⟨_, ids, added⟩ := bind_ok added
    obtain ⟨_, keys, added⟩ := bind_ok added
    obtain ⟨_, units, added⟩ := bind_ok added
    obtain ⟨_, known, added⟩ := bind_ok added
    obtain ⟨-, -, added⟩ := bind_ok added
    obtain ⟨_, product, added⟩ := bind_ok added
    obtain ⟨-, -, added⟩ := bind_ok added
    cases added
    refine .inl ⟨rfl, rfl, tenant, fun other mem => ?_, require_ok known, require_ok product⟩
    have id := all_eq_true.1 (require_ok ids) other mem
    have key := all_eq_true.1 (require_ok keys) other mem
    have unit := all_eq_true.1 (require_ok units) other mem
    simp only [decide_eq_true_eq, not_eq_true'] at id key unit
    simp [clash, id, key, unit]

theorem earliest_mem {movements : List Movement} (first : earliest movements = some movement) :
    movement ∈ movements := by
  induction movements generalizing movement with
  | nil => cases first
  | cons head rest ih =>
    unfold earliest at first
    cases found : earliest rest with
    | none =>
      rw [found] at first
      cases first
      exact mem_cons_self
    | some other =>
      rw [found] at first
      by_cases before : head.precedes other = true
      · simp only [before, if_true, Option.some.injEq] at first
        rw [← first]
        exact mem_cons_self
      · simp only [before, false_eq_true, if_false, Option.some.injEq] at first
        rw [← first]
        exact mem_cons_of_mem _ (ih found)

def Stmt.reads : Stmt → Bool
  | .insertMovement .. | .insertCount .. | .insertAudit .. | .insertEvent .. => false
  | _ => true

theorem exec_reads (reads : statement.reads = true)
    (ran : exec reference context rows statement = .ok (reply, writes)) : writes = [] := by
  cases statement with
  | establishedUnit storeId product =>
    obtain ⟨_, _, ran⟩ := bind_ok₂ ran
    cases ran
    rfl
  | onHand storeId product =>
    obtain ⟨_, _, _, ran⟩ := bind_ok₃ ran
    cases ran
    rfl
  | findStore id | findMovement tenantId sourceSystem externalId =>
    obtain ⟨_, -, ran⟩ := bind_ok ran
    cases ran
    rfl
  | selectSale saleId storeId | selectSaleLines saleId storeId =>
    obtain ⟨_, _, ran⟩ := bind_ok₂ ran
    cases ran
    rfl
  | _ => cases reads

theorem establishedUnit_ok {unit : Option String}
    (ran : exec reference context rows (.establishedUnit storeId product) = .ok (unit, writes)) :
    ∃ store item, Uuid.ofText storeId = some store ∧ Uuid.ofText product = some item ∧
      unit = (earliest (ofPair context.tenant store item rows)).map Movement.stockingUnit := by
  obtain ⟨store, storeCast, ran⟩ := bind_ok ran
  obtain ⟨item, productCast, ran⟩ := bind_ok ran
  cases ran
  exact ⟨store, item, castUuid_ok storeCast, castUuid_ok productCast, rfl⟩

theorem onHand_ok {quantity : String}
    (ran : exec reference context rows (.onHand storeId product) = .ok (quantity, writes)) :
    ∃ store item sum, Uuid.ofText storeId = some store ∧ Uuid.ofText product = some item ∧
      sum.units = total (ofPair context.tenant store item rows) ∧ quantity = Numeric.text sum := by
  obtain ⟨store, storeCast, ran⟩ := bind_ok ran
  obtain ⟨item, productCast, ran⟩ := bind_ok ran
  obtain ⟨sum, fits, ran⟩ := bind_ok ran
  cases ran
  exact ⟨store, item, sum, castUuid_ok storeCast, castUuid_ok productCast, Numeric.ofUnits_ok fits, rfl⟩

theorem findMovement_ok {tenantId sourceSystem externalId : String} {found : Option Movement}
    (ran : exec reference context rows (.findMovement tenantId sourceSystem externalId) =
      .ok (found, writes)) :
    ∃ tenant, Uuid.ofText tenantId = some tenant ∧
      ∀ movement, found = some movement →
      movement ∈ movementsOf rows ∧ movement.tenantId = tenant ∧
      movement.provenance = some (sourceSystem, externalId) := by
  obtain ⟨tenant, tenantCast, ran⟩ := bind_ok ran
  cases ran
  refine ⟨tenant, castUuid_ok tenantCast, fun movement found => ?_⟩
  have holds := find?_some found
  simp only [and_eq_true, decide_eq_true_eq] at holds
  exact ⟨mem_of_find?_eq_some found, holds.1.2, holds.2⟩

theorem insertCount_ok {values : CountValues}
    (ran : exec reference context rows (.insertCount values) = .ok ((), writes)) :
    ∃ count, values.row context = .ok count ∧ writes = [.count count] ∧ some count.tenantId = context.tenant ∧
      ∀ other ∈ countsOf rows, other.id ≠ count.id := by
  obtain ⟨count, read, ran⟩ := bind_ok ran
  obtain ⟨_, tenant, ran⟩ := bind_ok ran
  obtain ⟨_, ids, ran⟩ := bind_ok ran
  obtain ⟨-, -, -, ran⟩ := bind_ok₃ ran
  cases ran
  exact ⟨count, read, rfl, of_decide_eq_true (require_ok tenant), require_all ids⟩

theorem insertAudit_ok {values : AuditValues}
    (ran : exec reference context rows (.insertAudit values) = .ok ((), writes)) :
    ∃ audit, values.row = .ok audit ∧ writes = [.audit audit] ∧
      ∀ other ∈ auditsOf rows, other.id ≠ audit.id := by
  obtain ⟨audit, read, ran⟩ := bind_ok ran
  obtain ⟨-, -, ran⟩ := bind_ok ran
  obtain ⟨_, ids, ran⟩ := bind_ok ran
  obtain ⟨-, -, ran⟩ := bind_ok₂ ran
  cases ran
  exact ⟨audit, read, rfl, require_all ids⟩

theorem insertEvent_ok {values : EventValues}
    (ran : exec reference context rows (.insertEvent values) = .ok ((), writes)) :
    ∃ event, values.row context = .ok event ∧ writes = [.event event] ∧
      ∀ other ∈ eventsOf rows, other.eventId ≠ event.eventId := by
  obtain ⟨event, read, ran⟩ := bind_ok ran
  obtain ⟨-, -, ran⟩ := bind_ok ran
  obtain ⟨_, ids, ran⟩ := bind_ok ran
  cases ran
  exact ⟨event, read, rfl, require_all ids⟩

/-! ### Rows that clash -/

theorem clash_comm (first second : Row) : clash first second = clash second first := by
  cases first <;> cases second <;>
    simp only [clash, Movement.sameKey, Movement.otherUnit, eq_comm]
  rename_i first second
  cases first.provenance <;> cases second.provenance <;> cases first.tenantProductRef <;>
    cases second.tenantProductRef <;> simp [eq_comm]

/-- **The server refuses a row that clashes with one it sees.** -/
theorem exec_refuses (ran : exec reference context rows statement = .ok (reply, writes)) :
    writes.Pairwise (fun first second => clash first second = false) ∧
      ∀ first ∈ rows, ∀ second ∈ writes, clash first second = false := by
  by_cases reads : statement.reads = true
  · rw [exec_reads reads ran]
    exact refuses_none
  · cases statement with
    | insertMovement values doNothing =>
      obtain ⟨movement, -, ⟨-, rfl, fits⟩ | ⟨-, -, rfl, -⟩⟩ := insertMovement_ok ran
      · refine refuses_single fun first mem => ?_
        cases first with
        | movement other => exact fits.fresh other (mem_movementsOf.2 mem)
        | _ => rfl
      · exact refuses_none
    | insertCount values =>
      obtain ⟨count, -, rfl, -, fresh⟩ := insertCount_ok ran
      refine refuses_single fun first mem => ?_
      cases first with
      | count other =>
        have mem : other ∈ countsOf rows := mem_filterMap.2 ⟨_, mem, rfl⟩
        exact decide_eq_false (fresh other mem)
      | _ => rfl
    | insertAudit values =>
      obtain ⟨audit, -, rfl, fresh⟩ := insertAudit_ok ran
      refine refuses_single fun first mem => ?_
      cases first with
      | audit other =>
        have mem : other ∈ auditsOf rows := mem_filterMap.2 ⟨_, mem, rfl⟩
        exact decide_eq_false (fresh other mem)
      | _ => rfl
    | insertEvent values =>
      obtain ⟨event, -, rfl, fresh⟩ := insertEvent_ok ran
      refine refuses_single fun first mem => ?_
      cases first with
      | event other =>
        have mem : other ∈ eventsOf rows := mem_filterMap.2 ⟨_, mem, rfl⟩
        exact decide_eq_false (fresh other mem)
      | _ => rfl
    | _ => exact absurd rfl reads

end DataPulse.Inventory
