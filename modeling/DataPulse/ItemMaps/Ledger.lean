/-
**Item mappings, the repairs that drive them, and the statements sent about them.**

The contents are what was written to the tables, in the order of the commits: rows, and the UPDATEs of a
mapping or of a reconciliation result. A row stands in its table with every UPDATE of it applied
(`Mapping.after`, `ReconciliationResult.after`).

* `SAVEPOINT sp_suggest`, the INSERT of a mapping and `RELEASE` or `ROLLBACK TO SAVEPOINT` are one statement
  that answers with the row or with the error of the INSERT, and does not abort its transaction.
* An UPDATE of a mapping holds its row until the commit, and an INSERT keeps others of its product waiting.
  One that meets an uncommitted retirement is answered at once, as one that came before it.
* `exec`: the server, with the row-level security of the session's tenant. A version is an `integer`.

`erpnext_item_map` has a partial unique index on the active mappings of a product. Timestamps are opaque
numbers and a session has one `now()`.
-/

import DataPulse.Inventory.Ledger

namespace DataPulse.ItemMaps

open Lib Platform
open Inventory (require)

/-! ### Rows -/

/-- `erpnext_item_map.state`. -/
inductive MappingState where
  | suggested
  | confirmed
  deriving DecidableEq

inductive SuggestionSource where
  | barcode
  | itemCode
  | manual
  deriving DecidableEq

/-- `erpnext_item_map`. -/
structure Mapping where
  id : Uuid
  tenantId : Uuid
  tenantProductId : Uuid
  erpnextItemRef : String
  state : MappingState
  suggestionSource : SuggestionSource
  version : Nat
  suggestedBy : Option Uuid
  suggestedAt : Int
  confirmedBy : Option Uuid
  confirmedAt : Option Int
  retiredAt : Option Int
  createdAt : Int
  updatedAt : Int
  deriving DecidableEq

/-- `tenant_products`. -/
structure Product where
  id : Uuid
  tenantId : Uuid

/-- `erpnext_product_reconciliation_run`. -/
structure ReconciliationRun where
  id : Uuid
  tenantId : Uuid

inductive ResultState where
  | opened
  | repaired
  | accepted
  deriving DecidableEq

/-- `erpnext_product_reconciliation_result`. -/
structure ReconciliationResult where
  id : Uuid
  runId : Uuid
  tenantId : Uuid
  tenantProductId : Option Uuid
  resultState : ResultState
  updatedAt : Int

inductive TargetKind where
  | backlogItem
  | result
  deriving DecidableEq

inductive RepairKind where
  | confirm
  | suggestConfirm
  | rePoint
  deriving DecidableEq

inductive RepairOutcome where
  | mapped
  | stillUnmapped
  | noOpEcho
  | conflict
  deriving DecidableEq

/-- `erpnext_product_reconciliation_repair_attempt`. -/
structure RepairAttempt where
  id : Uuid
  tenantId : Uuid
  targetKind : TargetKind
  targetRefId : Uuid
  repairKind : RepairKind
  actorUserId : Uuid
  outcome : RepairOutcome
  resolvedItemMapId : Option Uuid
  expectedVersion : Option Nat
  createdAt : Int
  deriving DecidableEq

/-- `audit_events`; `outcome` and `repairKind` are its `metadata`. -/
structure AuditEvent where
  id : Uuid
  actorUserId : Uuid
  tenantId : Uuid
  action : String
  targetType : String
  targetId : Uuid
  outcome : RepairOutcome
  repairKind : RepairKind
  deriving DecidableEq

inductive Write where
  | product (row : Product)
  | run (row : ReconciliationRun)
  | result (row : ReconciliationResult)
  | mapping (row : Mapping)
  | confirm (id actor : Uuid) (time : Int)
  | retire (id : Uuid) (time : Int)
  | lockResult (id : Uuid)
  | repaired (id : Uuid) (time : Int)
  | attempt (row : RepairAttempt)
  | audit (row : AuditEvent)

/-! ### Tables -/

def productsOf (writes : List Write) : List Product :=
  writes.filterMap fun | .product row => some row | _ => none

/-- The rows inserted into `erpnext_product_reconciliation_run`. -/
def runsOf (writes : List Write) : List ReconciliationRun :=
  writes.filterMap fun | .run row => some row | _ => none

/-- The rows inserted into `erpnext_product_reconciliation_result`. -/
def insertedResults (writes : List Write) : List ReconciliationResult :=
  writes.filterMap fun | .result row => some row | _ => none

/-- The rows inserted into `erpnext_item_map`. -/
def insertedMappings (writes : List Write) : List Mapping :=
  writes.filterMap fun | .mapping row => some row | _ => none

/-- `erpnext_product_reconciliation_repair_attempt`. -/
def attemptsOf (writes : List Write) : List RepairAttempt :=
  writes.filterMap fun | .attempt row => some row | _ => none

/-- `audit_events`. -/
def auditsOf (writes : List Write) : List AuditEvent :=
  writes.filterMap fun | .audit row => some row | _ => none

def Write.updated : Write → Option Uuid
  | confirm id _ _ => some id
  | retire id _ => some id
  | _ => none

def Write.maps : Write → Bool
  | mapping _ => true
  | confirm _ _ _ => true
  | retire _ _ => true
  | _ => false

def Write.holdsResult : Write → Option Uuid
  | lockResult id => some id
  | repaired id _ => some id
  | _ => none

def Mapping.apply (row : Mapping) : Write → Mapping
  | .confirm id actor time =>
    if row.id = id then
      { row with
        state := .confirmed
        confirmedBy := some actor
        confirmedAt := some time
        version := row.version + 1
        updatedAt := time }
    else row
  | .retire id time =>
    if row.id = id then
      { row with
        retiredAt := some time
        version := row.version + 1
        updatedAt := time }
    else row
  | _ => row

/-- The inserted mapping with every UPDATE of it applied. -/
def Mapping.after (writes : List Write) (row : Mapping) : Mapping := writes.foldl Mapping.apply row

def ReconciliationResult.apply (row : ReconciliationResult) : Write → ReconciliationResult
  | .repaired id time =>
    if row.id = id then { row with resultState := .repaired, updatedAt := time } else row
  | _ => row

/-- The inserted result with every UPDATE of it applied. -/
def ReconciliationResult.after (writes : List Write) (row : ReconciliationResult) : ReconciliationResult :=
  writes.foldl ReconciliationResult.apply row

/-- `erpnext_item_map`. -/
def mappingsOf (writes : List Write) : List Mapping := (insertedMappings writes).map (Mapping.after writes)

/-- `erpnext_product_reconciliation_result`. -/
def resultsOf (writes : List Write) : List ReconciliationResult :=
  (insertedResults writes).map (ReconciliationResult.after writes)

/-- `retired_at IS NULL`. -/
def Mapping.isActive (row : Mapping) : Bool := row.retiredAt.isNone

def Mapping.isConfirmed (row : Mapping) : Bool := row.state = .confirmed && row.isActive

/-- Equal keys in `UQ_idx_erpnext_item_map_active`. -/
def Mapping.sameProduct (first second : Mapping) : Bool :=
  first.tenantId = second.tenantId && first.tenantProductId = second.tenantProductId

/-! ### Statements -/

structure Reference where
  tenants : Uuid → Bool
  users : Uuid → Bool

/-- The context of a transaction: its tenant, and its time. -/
structure Context where
  tenant : Uuid
  now : Int

/-- The VALUES of an INSERT into `erpnext_item_map`. -/
structure MappingValues where
  id : Uuid
  tenantId : Uuid
  tenantProductId : Uuid
  erpnextItemRef : String
  suggestedBy : Uuid

/-- The VALUES of an INSERT into `erpnext_product_reconciliation_repair_attempt`. -/
structure AttemptValues where
  id : Uuid
  tenantId : Uuid
  targetKind : TargetKind
  targetRefId : Uuid
  repairKind : RepairKind
  actorUserId : Uuid
  outcome : RepairOutcome
  resolvedItemMapId : Option Uuid
  expectedVersion : Option Nat

/-- An INSERT of the catalogue, or of the worker that reconciles it. -/
inductive Change where
  | product (id : Uuid)
  | run (id : Uuid)
  | result (id runId : Uuid) (tenantProductId : Option Uuid)
  deriving DecidableEq

/-- The statements about item mappings, with the parameters they send. -/
inductive Stmt where
  | change (change : Change)
  /-- `SELECT id FROM tenant_products WHERE id = $1 LIMIT 1`. -/
  | findProduct (id : Uuid)
  /-- `SAVEPOINT sp_suggest; INSERT INTO erpnext_item_map … RETURNING …; RELEASE SAVEPOINT sp_suggest`, or
  `ROLLBACK TO SAVEPOINT sp_suggest` where the INSERT fails. -/
  | insertMapping (values : MappingValues)
  /-- `UPDATE erpnext_item_map SET state = 'confirmed', confirmed_by = $3, confirmed_at = now(), version =
  version + 1, updated_at = now() WHERE id = $1 AND version = $2 AND state = 'suggested' AND retired_at IS
  NULL RETURNING …`. -/
  | confirmMapping (id : Uuid) (version : Nat) (actor : Uuid)
  /-- `UPDATE erpnext_item_map SET retired_at = now(), version = version + 1, updated_at = now() WHERE id =
  $1 AND version = $2 AND retired_at IS NULL RETURNING …`. -/
  | retireMapping (id : Uuid) (version : Nat)
  /-- `SELECT … FROM erpnext_item_map WHERE id = $1 LIMIT 1`. -/
  | findMapping (id : Uuid)
  /-- `SELECT id, state FROM erpnext_item_map WHERE tenant_product_id = $1 AND retired_at IS NULL LIMIT
  1`. -/
  | findActive (tenantProductId : Uuid)
  /-- `SELECT res.result_state FROM erpnext_product_reconciliation_result res JOIN
  erpnext_product_reconciliation_run run ON run.id = res.run_id WHERE res.id = $1 AND res.run_id = $2 FOR
  UPDATE OF res`. -/
  | lockResult (id runId : Uuid)
  /-- `UPDATE erpnext_product_reconciliation_result SET result_state = 'repaired', updated_at = now() WHERE
  id = $1`. -/
  | markRepaired (id : Uuid)
  /-- `INSERT INTO erpnext_product_reconciliation_repair_attempt … RETURNING created_at`. -/
  | insertAttempt (values : AttemptValues)
  /-- `INSERT INTO audit_events`. -/
  | insertAudit (row : AuditEvent)

def Reply : Stmt → Type
  | .findProduct .. => Bool
  | .insertMapping .. => Except PgError Mapping
  | .confirmMapping .. => Option Mapping
  | .retireMapping .. => Option Mapping
  | .findMapping .. => Option Mapping
  | .findActive .. => Option Mapping
  | .lockResult .. => Option ResultState
  | .insertAttempt .. => Int
  | _ => Unit

/-! ### The server -/

/-- The largest `integer`. -/
def MAX_INTEGER : Nat := 2147483647

section Server

variable (reference : Reference) (context : Context) (writes : List Write)

/-- The mapping under the identifier, if the session sees it. -/
def visibleMapping (id : Uuid) : Option Mapping :=
  (mappingsOf writes).find? fun row => row.id = id && row.tenantId = context.tenant

def MappingValues.row (values : MappingValues) : Mapping where
  id := values.id
  tenantId := values.tenantId
  tenantProductId := values.tenantProductId
  erpnextItemRef := values.erpnextItemRef
  state := .suggested
  suggestionSource := .manual
  version := 1
  suggestedBy := some values.suggestedBy
  suggestedAt := context.now
  confirmedBy := none
  confirmedAt := none
  retiredAt := none
  createdAt := context.now
  updatedAt := context.now

def AttemptValues.row (values : AttemptValues) : RepairAttempt where
  id := values.id
  tenantId := values.tenantId
  targetKind := values.targetKind
  targetRefId := values.targetRefId
  repairKind := values.repairKind
  actorUserId := values.actorUserId
  outcome := values.outcome
  resolvedItemMapId := values.resolvedItemMapId
  expectedVersion := values.expectedVersion
  createdAt := context.now

/-- Whether the INSERT of a mapping goes in; an active one of its product refuses it. -/
def admits (row : Mapping) : Except PgError Unit := do
  require (row.tenantId = context.tenant) (.plain .rowSecurity)
  require (1 ≤ row.erpnextItemRef.length && row.erpnextItemRef.length ≤ 140)
    ⟨.check, some "erpnext_item_map_item_ref_length"⟩
  require ((insertedMappings writes).all fun other => other.id ≠ row.id)
    ⟨.unique, some "erpnext_item_map_pkey"⟩
  require ((mappingsOf writes).all fun other => !(other.isActive && other.sameProduct row))
    ⟨.unique, some "UQ_idx_erpnext_item_map_active"⟩
  require (reference.tenants row.tenantId) ⟨.foreignKey, some "erpnext_item_map_tenant_id_fkey"⟩
  require ((productsOf writes).any fun product => product.id = row.tenantProductId)
    ⟨.foreignKey, some "erpnext_item_map_tenant_product_id_fkey"⟩

/-- The server updates the mapping under the identifier, if the session sees it and it passes. -/
def updateMapping (id : Uuid) (passes : Mapping → Bool) (write : Write) :
    Option Mapping × List Write :=
  match (visibleMapping context writes id).filter passes with
  | none => (none, [])
  | some row => (some (row.apply write), [write])

/-- The result that is addressed through its run, if the session sees both. -/
def visibleResult (id runId : Uuid) : Option ReconciliationResult :=
  ((resultsOf writes).find? fun row => row.id = id && row.tenantId = context.tenant).filter fun row =>
    row.runId = runId && (runsOf writes).any fun run => run.id = runId && run.tenantId = context.tenant

/-- The server inserts a product, a run or a result for its tenant. -/
def insertChange : Change → Except PgError (List Write)
  | .product id => do
      require ((productsOf writes).all fun other => other.id ≠ id) ⟨.unique, some "tenant_products_pkey"⟩
      .ok [.product ⟨id, context.tenant⟩]
  | .run id => do
      require ((runsOf writes).all fun other => other.id ≠ id)
        ⟨.unique, some "erpnext_product_reconciliation_run_pkey"⟩
      .ok [.run ⟨id, context.tenant⟩]
  | .result id runId tenantProductId => do
      require ((insertedResults writes).all fun other => other.id ≠ id)
        ⟨.unique, some "erpnext_product_reconciliation_result_pkey"⟩
      require ((runsOf writes).any fun run => run.id = runId)
        ⟨.foreignKey, some "erpnext_product_reconciliation_result_run_id_fkey"⟩
      .ok [.result ⟨id, runId, context.tenant, tenantProductId, .opened, context.now⟩]

def insertAttempt (values : AttemptValues) : Except PgError (Int × List Write) := do
  require (values.expectedVersion.all fun version => version ≤ MAX_INTEGER) (.plain .outOfRange)
  require (values.tenantId = context.tenant) (.plain .rowSecurity)
  require ((attemptsOf writes).all fun other => other.id ≠ values.id)
    ⟨.unique, some "erpnext_product_reconciliation_repair_attempt_pkey"⟩
  require (reference.tenants values.tenantId)
    ⟨.foreignKey, some "erpnext_product_reconciliation_repair_attempt_tenant_id_fkey"⟩
  require (reference.users values.actorUserId)
    ⟨.foreignKey, some "erpnext_product_reconciliation_repair_attempt_actor_user_id_fkey"⟩
  .ok (context.now, [.attempt (values.row context)])

def insertAudit (row : AuditEvent) : Except PgError (Unit × List Write) := do
  require ((auditsOf writes).all fun other => other.id ≠ row.id) ⟨.unique, some "audit_events_pkey"⟩
  .ok ((), [.audit row])

def exec : (statement : Stmt) → Except PgError (Reply statement × List Write)
  | .change change => (insertChange context writes change).map fun written => ((), written)
  | .findProduct id => .ok ((productsOf writes).any fun product =>
    product.id = id && product.tenantId = context.tenant, [])
  | .insertMapping values =>
    match admits reference context writes (values.row context) with
    | .error error => .ok (.error error, [])
    | .ok () => .ok (.ok (values.row context), [.mapping (values.row context)])
  | .confirmMapping id version actor => do
      require (version ≤ MAX_INTEGER) (.plain .outOfRange)
      .ok (updateMapping context writes id (fun row =>
        row.version = version && row.state = .suggested && row.isActive) (.confirm id actor context.now))
  | .retireMapping id version => do
      require (version ≤ MAX_INTEGER) (.plain .outOfRange)
      .ok (updateMapping context writes id (fun row => row.version = version && row.isActive)
        (.retire id context.now))
  | .findMapping id => .ok (visibleMapping context writes id, [])
  | .findActive tenantProductId => .ok ((mappingsOf writes).find? fun row =>
    row.tenantProductId = tenantProductId && row.isActive && row.tenantId = context.tenant, [])
  | .lockResult id runId =>
    match visibleResult context writes id runId with
    | none => .ok (none, [])
    | some row => .ok (some row.resultState, [.lockResult id])
  | .markRepaired id => .ok ((), if (resultsOf writes).any fun row =>
    row.id = id && row.tenantId = context.tenant then [.repaired id context.now] else [])
  | .insertAttempt values => insertAttempt reference context writes values
  | .insertAudit row => insertAudit writes row

end Server

/-- Two writes of which the second waits for the transaction of the first: rows with one key, and changes
and locks of one row. -/
def clash : Write → Write → Bool
  | .product first, .product second => first.id = second.id
  | .run first, .run second => first.id = second.id
  | .result first, .result second => first.id = second.id
  | .mapping first, .mapping second => first.id = second.id || first.sameProduct second
  | .attempt first, .attempt second => first.id = second.id
  | .audit first, .audit second => first.id = second.id
  | first, second => (first.updated.isSome && first.updated = second.updated) ||
      (first.holdsResult.isSome && first.holdsResult = second.holdsResult)

end DataPulse.ItemMaps
