/-
**The posting rows and the statements sent about them.**

`erpnext_posting_status`, the tables its readers join, and what `repairPosting` adds to its trail. The
contents are what was written, in the order of the commits: rows, and the UPDATEs of a posting, which
stands in its table with every UPDATE of it applied (`PostingStatus.after`).

* The sales, their lines and terminal events, and the two ERPNext maps are written by other services:
  `recordFact` is any one row of theirs. A map changes by a new version of its row.
* `SELECT … FOR UPDATE` writes a `lock`: who locks the same row waits for the transaction of the first.
  Every UPDATE of a posting is sent under its lock.
* `document_ref` holds the text of a JSON object that only the ack writes and that every reader parses;
  the model keeps the object.

Timestamps are opaque numbers and a session has one `now()`.
-/

import DataPulse.Inventory.Ledger
import DataPulse.Sales.Ledger

namespace DataPulse.Erpnext

open Lib Platform
open Inventory (TenantContext require)
open Sales (Sale SaleLine TerminalEvent TerminalKind)

/-! ### Rows -/

/-- What the posting rows are drawn from: a UUID, or the next value of the `sequence` column. -/
inductive Fresh where
  | uuid (id : Uuid)
  | sequence (number : Nat)
  deriving DecidableEq

/-- `kind`. -/
inductive PostingKind where
  | salePost
  | reversal
  deriving DecidableEq

/-- `status`; the outcomes a connector acks are the ones other than `pending`. -/
inductive PostingState where
  | pending
  | posted
  | failedTransient
  | permanentlyRejected
  deriving DecidableEq

structure DocumentRef where
  doctype : String
  name : String
  deriving DecidableEq

/-- `erpnext_posting_status`. -/
structure PostingStatus where
  id : Uuid
  tenantId : Uuid
  storeId : Uuid
  saleId : Uuid
  kind : PostingKind
  sourceRefId : Uuid
  sourceSystem : String
  externalId : String
  payloadHash : String
  status : PostingState
  documentRef : Option DocumentRef
  rejectionCategory : Option String
  retryCount : Nat
  sequence : Nat
  updatedAt : Int
  correlationId : Option Uuid
  deriving DecidableEq

/-- `sales`, with the hash of the captured payload. -/
structure SaleFact extends Sale where
  payloadHash : String
  deriving DecidableEq

/-- `erpnext_item_map`. -/
structure ItemMap where
  id : Uuid
  tenantId : Uuid
  tenantProductId : Uuid
  erpnextItemRef : String
  confirmed : Bool
  retiredAt : Option Int
  deriving DecidableEq

/-- `erpnext_warehouse_map`. -/
structure WarehouseMap where
  id : Uuid
  tenantId : Uuid
  storeId : Uuid
  purpose : String
  retiredAt : Option Int
  deriving DecidableEq

/-- A row another service writes. -/
inductive Fact where
  | sale (row : SaleFact)
  | line (row : SaleLine)
  | terminal (row : TerminalEvent)
  | itemMap (row : ItemMap)
  | warehouseMap (row : WarehouseMap)
  deriving DecidableEq

inductive RepairOutcome where
  | eligibleAgain
  | stillFailing
  | noOpEcho
  deriving DecidableEq

/-- `erpnext_reconciliation_repair_attempt`, of a posting. -/
structure RepairAttempt where
  id : Uuid
  tenantId : Uuid
  targetRefId : Uuid
  actorUserId : Uuid
  outcome : RepairOutcome
  resolvedDocumentRef : Option DocumentRef
  createdAt : Int
  deriving DecidableEq

/-- `audit_events`, of a repair. -/
structure AuditEvent where
  id : Uuid
  actorUserId : Uuid
  tenantId : Uuid
  action : String
  targetType : String
  targetId : Uuid
  outcome : RepairOutcome
  repairKind : String
  deriving DecidableEq

/-- What a statement writes: a row, a row lock, or the UPDATE of a posting. -/
inductive Write where
  | fact (fact : Fact)
  | posting (row : PostingStatus)
  | attempt (row : RepairAttempt)
  | audit (row : AuditEvent)
  | lock (id : Uuid)
  | post (id : Uuid) (documentRef : DocumentRef) (updatedAt : Int)
  | reject (id : Uuid) (category : String) (updatedAt : Int)
  | reoffer (id : Uuid) (sequence : Nat) (updatedAt : Int)
  | requeue (id : Uuid) (sequence retryCount : Nat) (updatedAt : Int)
  deriving DecidableEq

/-! ### Tables -/

def factsOf (writes : List Write) : List Fact :=
  writes.filterMap fun | .fact fact => some fact | _ => none

/-- The rows inserted into `erpnext_posting_status`. -/
def insertedPostings (writes : List Write) : List PostingStatus :=
  writes.filterMap fun | .posting row => some row | _ => none

def Write.updated : Write → Option Uuid
  | post id _ _ => some id
  | reject id _ _ => some id
  | reoffer id _ _ => some id
  | requeue id _ _ _ => some id
  | _ => none

def PostingStatus.set (row : PostingStatus) : Write → PostingStatus
  | .post _ documentRef updatedAt =>
    { row with status := .posted, documentRef := some documentRef, updatedAt := updatedAt }
  | .reject _ category updatedAt =>
    { row with
      status := .permanentlyRejected
      rejectionCategory := some category
      updatedAt := updatedAt }
  | .reoffer _ sequence updatedAt =>
    { row with
      status := .pending
      retryCount := row.retryCount + 1
      sequence := sequence
      updatedAt := updatedAt }
  | .requeue _ sequence retryCount updatedAt =>
    { row with
      status := .pending
      sequence := sequence
      retryCount := retryCount
      updatedAt := updatedAt }
  | _ => row

def PostingStatus.apply (row : PostingStatus) (write : Write) : PostingStatus :=
  if write.updated = some row.id then row.set write else row

def PostingStatus.after (writes : List Write) (row : PostingStatus) : PostingStatus :=
  writes.foldl PostingStatus.apply row

/-- `erpnext_posting_status`. -/
def postingsOf (writes : List Write) : List PostingStatus :=
  (insertedPostings writes).map (PostingStatus.after writes)

def salesOf (writes : List Write) : List SaleFact :=
  (factsOf writes).filterMap fun | .sale row => some row | _ => none

/-- `sale_lines`. -/
def linesOf (writes : List Write) : List SaleLine :=
  (factsOf writes).filterMap fun | .line row => some row | _ => none

/-- `sale_voids` and `sale_refunds`. -/
def terminalsOf (writes : List Write) : List TerminalEvent :=
  (factsOf writes).filterMap fun | .terminal row => some row | _ => none

def latest {Row : Type} (id : Row → Uuid) : List Row → List Row
  | [] => []
  | row :: later =>
    if later.any fun other => id other = id row then latest id later else row :: latest id later

/-- `erpnext_item_map`. -/
def itemMapsOf (writes : List Write) : List ItemMap :=
  latest ItemMap.id ((factsOf writes).filterMap fun | .itemMap row => some row | _ => none)

/-- `erpnext_warehouse_map`. -/
def warehouseMapsOf (writes : List Write) : List WarehouseMap :=
  latest WarehouseMap.id
    ((factsOf writes).filterMap fun | .warehouseMap row => some row | _ => none)

/-- `(tenant_id, source_ref_id)`: the originating row of a posting. -/
def PostingStatus.originates (tenantId sourceRefId : Uuid) (row : PostingStatus) : Bool :=
  row.tenantId = tenantId && row.sourceRefId = sourceRefId

def PostingStatus.sameSource (first second : PostingStatus) : Bool :=
  first.tenantId = second.tenantId && first.sourceRefId = second.sourceRefId

/-! ### Statements -/

/-- The VALUES of the INSERT … SELECT into `erpnext_posting_status`; `sequence` is the column's. -/
structure PostingValues where
  id : Uuid
  tenantId : Uuid
  storeId : Uuid
  saleId : Uuid
  kind : PostingKind
  sourceRefId : Uuid
  status : PostingState
  rejectionCategory : Option String
  correlationId : Option Uuid
  sequence : Nat

/-- A line of a sale with the reference of its confirmed map. -/
abbrev MappedLine := SaleLine × Option String

/-- The statements about postings, with the parameters they send. -/
inductive Stmt where
  | recordFact (fact : Fact)
  /-- `SELECT count(*) FROM erpnext_warehouse_map WHERE store_id = $1 AND retired_at IS NULL`. -/
  | countWarehouses (storeId : Uuid)
  /-- `SELECT count(*) FROM sale_lines sl LEFT JOIN erpnext_item_map m ON m.tenant_product_id =
  sl.tenant_product_ref AND m.state = 'confirmed' AND m.retired_at IS NULL WHERE sl.sale_id = $1 AND
  (sl.tenant_product_ref IS NULL OR m.id IS NULL)`. -/
  | countUnmapped (saleId : Uuid)
  /-- `INSERT INTO erpnext_posting_status … SELECT … FROM sales s WHERE s.id = $4 AND s.store_id = $3
  ON CONFLICT (tenant_id, source_ref_id) DO NOTHING RETURNING id`. -/
  | insertPosting (values : PostingValues)
  /-- `SELECT … FROM erpnext_posting_status WHERE id = $1 FOR UPDATE`. -/
  | lockPosting (id : Uuid)
  /-- `UPDATE erpnext_posting_status SET status='posted', document_ref=$2, updated_at=now() WHERE id=$1
  RETURNING updated_at`. -/
  | post (id : Uuid) (documentRef : DocumentRef)
  /-- `UPDATE erpnext_posting_status SET status='permanently_rejected', rejection_category=$2,
  updated_at=now() WHERE id=$1 RETURNING updated_at`. -/
  | reject (id : Uuid) (category : String)
  /-- `UPDATE erpnext_posting_status SET status='pending', retry_count=retry_count+1, sequence=DEFAULT,
  updated_at=now() WHERE id=$1 RETURNING updated_at`. -/
  | reoffer (id : Uuid) (sequence : Nat)
  /-- `UPDATE erpnext_posting_status SET status = 'pending', sequence = DEFAULT, retry_count = $2,
  updated_at = now() WHERE id = $1`. -/
  | requeue (id : Uuid) (sequence retryCount : Nat)
  /-- `INSERT INTO erpnext_reconciliation_repair_attempt … RETURNING created_at`. -/
  | insertAttempt (id tenantId targetRefId actorUserId : Uuid) (outcome : RepairOutcome)
      (resolvedDocumentRef : Option DocumentRef)
  /-- `INSERT INTO audit_events`. -/
  | insertAudit (row : AuditEvent)
  /-- `SELECT … FROM erpnext_posting_status WHERE status = 'pending' AND ($1::bigint IS NULL OR
  sequence > $1::bigint) ORDER BY sequence LIMIT $2`. -/
  | pendingPage (since : Option Nat) (limit : Nat)
  /-- `SELECT … FROM sales WHERE id = $1`. -/
  | selectSale (id : Uuid)
  /-- `SELECT … FROM sale_lines sl LEFT JOIN erpnext_item_map m ON … WHERE sl.sale_id = $1 ORDER BY
  sl.id`. -/
  | selectLines (saleId : Uuid)
  /-- `SELECT 'void' … FROM sale_voids WHERE id = $1 UNION ALL SELECT 'refund' … FROM sale_refunds
  WHERE id = $1 LIMIT 1`. -/
  | reversalKind (sourceRefId : Uuid)

/-- What each statement answers; `RETURNING` answers the column of the row it wrote, if there is one. -/
def Reply : Stmt → Type
  | .countWarehouses .. => Nat
  | .countUnmapped .. => Nat
  | .insertPosting .. => Option Uuid
  | .lockPosting .. => Option PostingStatus
  | .post .. => Option Int
  | .reject .. => Option Int
  | .reoffer .. => Option Int
  | .insertAttempt .. => Option Int
  | .pendingPage .. => List PostingStatus
  | .selectSale .. => Option SaleFact
  | .selectLines .. => List MappedLine
  | .reversalKind .. => Option TerminalKind
  | _ => Unit

/-! ### The server -/

section Server

variable (users : Uuid → Bool) (context : TenantContext) (writes : List Write)

/-- `payload_hash ~ '^[a-f0-9]{64}$'`. -/
def isPayloadHash (hash : String) : Bool :=
  hash.toList.length = 64 && hash.toList.all isLowerHex

/-- The posting under the identifier, if the tenant sees it. -/
def visiblePosting (id : Uuid) : Option PostingStatus :=
  (postingsOf writes).find? fun row => row.id = id && some row.tenantId = context.tenant

/-- The confirmed map of a line that is not retired, if the tenant sees it. -/
def confirmedMap (line : SaleLine) : Option ItemMap :=
  (itemMapsOf writes).find? fun map => some map.tenantProductId = line.tenantProductRef &&
    map.confirmed && map.retiredAt.isNone && some map.tenantId = context.tenant

def saleLines (saleId : Uuid) : List SaleLine :=
  (linesOf writes).filter fun line => line.saleId = saleId && some line.tenantId = context.tenant

/-- The active warehouse maps of a store the tenant sees. -/
def activeWarehouses (storeId : Uuid) : List WarehouseMap :=
  (warehouseMapsOf writes).filter fun map =>
    map.storeId = storeId && map.retiredAt.isNone && some map.tenantId = context.tenant

/-- The kinds of the terminal events under the identifier that the tenant sees, voids first. -/
def reversalKinds (sourceRefId : Uuid) : List TerminalKind :=
  let kinds := ((terminalsOf writes).filter fun row =>
    row.id = sourceRefId && some row.tenantId = context.tenant).map TerminalEvent.kind
  kinds.filter (· = .void) ++ kinds.filter (· = .refund)

/-- The pending postings after a place of the feed, in its order. -/
def pendingRows (since : Option Nat) : List PostingStatus :=
  ((postingsOf writes).filter fun row => row.status = .pending && since.all (· < row.sequence) &&
    some row.tenantId = context.tenant).insertionSort
      fun first second => first.sequence ≤ second.sequence

/-- The keys and references of a row of another service hold. -/
def Fact.fits : Fact → Bool
  | .sale row => (salesOf writes).all fun other => other.id ≠ row.id
  | .line row => ((linesOf writes).all fun other => other.id ≠ row.id) &&
      (salesOf writes).any fun sale =>
        sale.id = row.saleId && sale.tenantId = row.tenantId && sale.storeId = row.storeId
  | .terminal row =>
    ((terminalsOf writes).all fun other => other.kind ≠ row.kind || other.id ≠ row.id) &&
      (salesOf writes).any fun sale =>
        sale.id = row.saleId && sale.tenantId = row.tenantId && sale.storeId = row.storeId
  | .itemMap row => (itemMapsOf writes).all fun other => other.id = row.id ||
      row.retiredAt.isSome || other.retiredAt.isSome || other.tenantId ≠ row.tenantId ||
        other.tenantProductId ≠ row.tenantProductId
  | .warehouseMap row => (warehouseMapsOf writes).all fun other => other.id = row.id ||
      row.retiredAt.isSome || other.retiredAt.isSome || other.tenantId ≠ row.tenantId ||
        other.storeId ≠ row.storeId || other.purpose ≠ row.purpose

def PostingValues.row (values : PostingValues) (sale : SaleFact) : PostingStatus where
  id := values.id
  tenantId := values.tenantId
  storeId := values.storeId
  saleId := values.saleId
  kind := values.kind
  sourceRefId := values.sourceRefId
  sourceSystem := sale.sourceSystem
  externalId := sale.externalId
  payloadHash := sale.payloadHash
  status := values.status
  documentRef := none
  rejectionCategory := values.rejectionCategory
  retryCount := 0
  sequence := values.sequence
  updatedAt := context.now
  correlationId := values.correlationId

/-- `erpnext_posting_status_document_ref_when_posted`. -/
def PostingStatus.documented (row : PostingStatus) : Bool :=
  decide (row.status = .posted) = row.documentRef.isSome

/-- The server inserts a posting for the sale, if the tenant sees it at the store; next to a posting of
the same originating row it inserts none. -/
def insertPosting (values : PostingValues) : Except PgError (Option Uuid × List Write) :=
  match (salesOf writes).find? fun sale => sale.id = values.saleId &&
      sale.storeId = values.storeId && some sale.tenantId = context.tenant with
  | none => .ok (none, [])
  | some sale => do
      let row := values.row context sale
      let others := insertedPostings writes
      require (some row.tenantId = context.tenant) (.plain .rowSecurity)
      require (isPayloadHash row.payloadHash)
        ⟨.check, some "erpnext_posting_status_payload_hash_format"⟩
      require row.documented ⟨.check, some "erpnext_posting_status_document_ref_when_posted"⟩
      if others.any row.sameSource then .ok (none, [])
      else do
        require (others.all fun other => other.id ≠ row.id)
          ⟨.unique, some "erpnext_posting_status_pkey"⟩
        .ok (some row.id, [.posting row])

/-- The server updates the posting under the identifier, if the tenant sees it. -/
def updatePosting (id : Uuid) (write : Write) : Except PgError (Option Int × List Write) :=
  match visiblePosting context writes id with
  | none => .ok (none, [])
  | some row => do
      require (row.set write).documented
        ⟨.check, some "erpnext_posting_status_document_ref_when_posted"⟩
      .ok (some context.now, [write])

def exec : (statement : Stmt) → Except PgError (Reply statement × List Write)
  | .recordFact fact => do
      require (fact.fits writes) (.plain .unique)
      .ok ((), [.fact fact])
  | .countWarehouses storeId => .ok ((activeWarehouses context writes storeId).length, [])
  | .countUnmapped saleId =>
    .ok (((saleLines context writes saleId).filter fun line =>
      (confirmedMap context writes line).isNone).length, [])
  | .insertPosting values => insertPosting context writes values
  | .lockPosting id =>
    match visiblePosting context writes id with
    | none => .ok (none, [])
    | some row => .ok (some row, [.lock id])
  | .post id documentRef => updatePosting context writes id (.post id documentRef context.now)
  | .reject id category => updatePosting context writes id (.reject id category context.now)
  | .reoffer id sequence => updatePosting context writes id (.reoffer id sequence context.now)
  | .requeue id sequence retryCount => do
      let updated ← updatePosting context writes id (.requeue id sequence retryCount context.now)
      .ok ((), updated.2)
  | .insertAttempt id tenantId targetRefId actorUserId outcome resolvedDocumentRef => do
      require (some tenantId = context.tenant) (.plain .rowSecurity)
      require (users actorUserId) (.plain .foreignKey)
      .ok (some context.now, [.attempt ⟨id, tenantId, targetRefId, actorUserId, outcome,
        resolvedDocumentRef, context.now⟩])
  | .insertAudit row => do
      require (some row.tenantId = context.tenant) (.plain .rowSecurity)
      require (users row.actorUserId) (.plain .foreignKey)
      .ok ((), [.audit row])
  | .pendingPage since limit => .ok ((pendingRows context writes since).take limit, [])
  | .selectSale id =>
    .ok ((salesOf writes).find? fun sale => sale.id = id && some sale.tenantId = context.tenant, [])
  | .selectLines saleId =>
    let lines := (saleLines context writes saleId).insertionSort fun first second =>
      first.id.precedes second.id = true
    .ok (lines.map fun line => (line, (confirmedMap context writes line).map ItemMap.erpnextItemRef),
      [])
  | .reversalKind sourceRefId => .ok ((reversalKinds context writes sourceRefId).head?, [])

end Server

/-- Two writes of which the second waits for the transaction of the first: postings with one key, and
locks of one posting. -/
def clash : Write → Write → Bool
  | .posting first, .posting second => first.id = second.id || first.sameSource second
  | .lock first, .lock second => first = second
  | _, _ => false

def collide : Write → Write → Bool
  | .posting first, .posting second => first.id = second.id || first.sameSource second
  | _, _ => false

end DataPulse.Erpnext
