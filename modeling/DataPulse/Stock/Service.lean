/-
**Triggering a reconciliation run, reporting the stock it waits for, and processing it.**

`triggerRun` of `ErpnextReconciliationService`, `pullRequests` and `reportSnapshot` of
`ErpnextBinViewService`, `set` and `retire` of `ErpnextWarehouseMapService`, and `process` of the worker's
`ReconciliationRunProcessor` over the `ReportBackedBinView`, as client programs over the statements of
`Ledger`; and `stockServer`, all of them on one server together with the drainer's UPDATEs of the outbox and
whoever else adds movements and item mappings.

* A request is named after its run by `deterministicId`, which is a parameter here.
* `ReportBackedBinView` reads the report of a run on a connection of its own. The processor wrote nothing
  about the run until then but its lock, so the read is a statement of the processor here.
* `Operation.process` is what the consumer does with an event: the payload of every event has the two
  identifiers it parses.

The guards and the request schemas in front of the routes are not part of the model, apart from the bounds a
reported entry carries. Log lines are left out.
-/

import DataPulse.Lib.Logs
import DataPulse.Platform.Strings
import DataPulse.Stock.Ledger

namespace DataPulse.Stock

open Lib Lib.Prog Platform
open ItemMaps (ResultState)

inductive Thrown where
  | pg (error : PgError)
  | storeNotFound
  | binViewNotFound
  | binViewConflict
  deriving DecidableEq

abbrev Service := Prog Stmt Reply Uuid Thrown

def clientQuery (statement : Stmt) : Service (Reply statement) := query statement

/-! ### Triggering a run -/

/-- `OUTBOX_EVENT_TYPES.ERPNEXT_RECONCILIATION_REQUESTED`. -/
def ERPNEXT_RECONCILIATION_REQUESTED : String := "erpnext.reconciliation.requested"

def emit (tenantId storeId runId : Uuid) : Service Unit := do
  let eventId ← newId
  clientQuery (.insertEvent ⟨eventId, tenantId, storeId, ERPNEXT_RECONCILIATION_REQUESTED,
    ⟨runId, storeId⟩⟩)

structure TriggerRunInput where
  tenantId : Uuid
  storeId : Uuid
  actorUserId : Uuid
  deriving DecidableEq

structure ReconciliationRunBody where
  id : Uuid
  storeId : Uuid
  trigger : RunTrigger
  status : RunStatus
  startedAt : Int
  finishedAt : Option Int
  summary : Option StoredBinViewReport
  deriving DecidableEq

def toRunBody (row : ReconciliationRun) : ReconciliationRunBody :=
  ⟨row.id, row.storeId, row.trigger, row.status, row.startedAt, row.finishedAt, row.summary⟩

/-- The `emit` of `triggerRun`: only a run of an unmapped store is requested at once. -/
def emitUnlessMapped (input : TriggerRunInput) (runId : Uuid) (mapped : Nat) : Service Unit :=
  if mapped = 0 then emit input.tenantId input.storeId runId else .done ()

def triggerRun (input : TriggerRunInput) : Service ReconciliationRunBody := do
  let store ← clientQuery (.findStore input.storeId)
  if Bool.not store then .fail .storeNotFound
  else do
    let runId ← newId
    let row ← clientQuery (.insertRun ⟨runId, input.tenantId, input.storeId, input.actorUserId⟩)
    let auditId ← newId
    clientQuery (.insertAudit ⟨auditId, input.actorUserId, input.tenantId,
      "erpnext_reconciliation.run.triggered", "erpnext_reconciliation_run", runId, input.storeId⟩)
    let mapped ← clientQuery (.countMaps input.storeId (some .stock))
    emitUnlessMapped input runId mapped
    return toRunBody row

/-! ### The feed -/

def BIN_VIEW_FEED_MAX_PAGE : Int := 500

def BIN_VIEW_WINDOW_MAX_ITEMS : Nat := 500

def BIN_VIEW_REQUEST_NS : String := "0190b1de-0000-7000-8000-0000000be019"

structure BinViewItemWindow where
  windowSeq : Nat
  maxItems : Nat
  fromItemRef : Option String
  toItemRef : Option String
  deriving DecidableEq

structure BinViewRequest where
  requestRef : Uuid
  storeId : Uuid
  erpnextWarehouseRef : String
  runRef : Uuid
  itemWindow : BinViewItemWindow
  itemCursor : Uuid
  deriving DecidableEq

structure PullRequestsInput where
  tenantId : Uuid
  since : Option String
  limit : Int
  deriving DecidableEq

structure PullRequestsResult where
  items : List BinViewRequest
  cursor : Option Uuid
  nextPageToken : Option Uuid
  deriving DecidableEq

/-- `input.since && UUID_RE.test(input.since) ? input.since : null`, as the server reads it. -/
def servableCursor (since : Option String) : Option Uuid := since.bind Uuid.ofText

/-- `Math.min(Math.max(1, limit), BIN_VIEW_FEED_MAX_PAGE)`. -/
def pageLimit (limit : Int) : Nat := (min (max 1 limit) BIN_VIEW_FEED_MAX_PAGE).toNat

section Requests

variable (deterministicId : String → String → Uuid)

/-- `deterministicId(BIN_VIEW_REQUEST_NS, runId + ":" + windowSeq)`. -/
def requestRef (runId : Uuid) (windowSeq : Nat) : Uuid :=
  deterministicId BIN_VIEW_REQUEST_NS (runId.text ++ ":" ++ toString windowSeq)

def RequestRow.item (row : RequestRow) : BinViewRequest where
  requestRef := requestRef deterministicId row.runId 0
  storeId := row.storeId
  erpnextWarehouseRef := row.erpnextWarehouseRef
  runRef := row.runId
  itemWindow := ⟨0, BIN_VIEW_WINDOW_MAX_ITEMS, none, none⟩
  itemCursor := row.runId

def requestPage (limit : Nat) (rows : List RequestRow) : PullRequestsResult where
  items := rows.map (RequestRow.item deterministicId)
  cursor := rows.getLast?.map RequestRow.runId
  nextPageToken := if rows.length = limit then rows.getLast?.map RequestRow.runId else none

def pullRequests (input : PullRequestsInput) : Service PullRequestsResult := do
  let rows ← clientQuery (.openRuns (servableCursor input.since) (pageLimit input.limit))
  return requestPage deterministicId (pageLimit input.limit) rows

/-- The `cursor` of the response: the page's, or the one that was sent, or the sentinel. -/
def wireCursor (since : Option String) (page : PullRequestsResult) : String :=
  match page.cursor, since with
  | some last, _ => last.text
  | none, some since => since
  | none, none => "00000000-0000-0000-0000-000000000000"

/-! ### Reporting a snapshot -/

/-- `QUANTITY_PATTERN`. -/
def isQuantity (text : String) : Bool :=
  match text.toList with
  | '-' :: digits => Decimal.isPlain 15 6 digits
  | digits => Decimal.isPlain 15 6 digits

/-- An entry of the body, as the request schema accepts it. -/
structure BinEntryInput where
  name : String
  quantity : String
  stockUom : String
  named : 1 ≤ utf16Length name ∧ utf16Length name ≤ 140
  exact : isQuantity quantity = true
  united : 1 ≤ utf16Length stockUom ∧ utf16Length stockUom ≤ 140
  deriving DecidableEq

/-- `SnapshotReportBody`; `readAt` is its text. -/
structure SnapshotReportBody where
  entries : List BinEntryInput
  readAt : String
  bounded : entries.length ≤ 500
  deriving DecidableEq

structure ReportSnapshotInput where
  tenantId : Uuid
  requestRef : String
  body : SnapshotReportBody
  idempotencyKey : String
  deriving DecidableEq

structure RecordedBinView where
  requestRef : String
  runRef : Uuid
  erpnextWarehouseRef : String
  acceptedEntryCount : Nat
  readAt : String
  recordedAt : Int
  deriving DecidableEq

structure ReportSnapshotResult where
  replayed : Bool
  view : RecordedBinView
  deriving DecidableEq

def StoredBinViewReport.project (stored : StoredBinViewReport) : RecordedBinView :=
  ⟨stored.requestRef, stored.runRef, stored.erpnextWarehouseRef, stored.acceptedEntryCount,
    stored.readAt, stored.recordedAt⟩

def BinEntryInput.resolve (resolved : List (String × Uuid)) (entry : BinEntryInput) : StoredEntry :=
  ⟨entry.name, (resolved.find? fun pair => pair.1 = entry.name).map Prod.snd, entry.quantity,
    entry.stockUom⟩

def StoredEntry.key (entry : StoredEntry) : String :=
  entry.erpnextItemRef ++ "|" ++ entry.quantity ++ "|" ++ entry.stockUom

def sameLogicalReport (existing : StoredBinViewReport) (body : SnapshotReportBody)
    (resolved : List StoredEntry) : Bool :=
  if existing.readAt ≠ body.readAt then false
  else if existing.entries.length ≠ resolved.length then false
  else
    let a := sortTexts (existing.entries.map StoredEntry.key)
    let b := sortTexts (resolved.map StoredEntry.key)
    a.zipIdx.all fun (v, i) => b[i]? = some v

def resolveEntries (entries : List BinEntryInput) : Service (List StoredEntry) :=
  let refNames := distinct (entries.map BinEntryInput.name)
  if refNames.isEmpty then .done (entries.map (BinEntryInput.resolve []))
  else (clientQuery (.resolveItems refNames)).bind fun resolved =>
    .done (entries.map (BinEntryInput.resolve resolved))

def storedReport (input : ReportSnapshotInput) (row : RequestRow) (resolved : List StoredEntry)
    (recordedAt : Int) : StoredBinViewReport where
  requestRef := input.requestRef
  runRef := row.runId
  erpnextWarehouseRef := row.erpnextWarehouseRef
  readAt := input.body.readAt
  recordedAt := recordedAt
  acceptedEntryCount := resolved.length
  entries := resolved

/-- The MERGE write and the `emit` of a fresh report. -/
def record (tenantId : Uuid) (row : RequestRow) (stored : StoredBinViewReport) :
    Service ReportSnapshotResult := do
  clientQuery (.storeReport row.runId stored)
  emit tenantId row.storeId row.runId
  return ⟨false, stored.project⟩

/-- `reportSnapshot(input)`; `date` is the clock of the service. -/
def reportSnapshot (input : ReportSnapshotInput) (date : Int) : Service ReportSnapshotResult := do
  let rows ← clientQuery .lockRunning
  match (rows : List RequestRow).find? fun row =>
      (requestRef deterministicId row.runId 0).text = input.requestRef with
  | none => .fail .binViewNotFound
  | some row => do
      let resolved ← resolveEntries input.body.entries
      match row.summary.filter fun existing => existing.requestRef = input.requestRef with
      | some existing =>
        if sameLogicalReport existing input.body resolved then return ⟨true, existing.project⟩
        else .fail .binViewConflict
      | none => record input.tenantId row (storedReport input row resolved date)

end Requests

/-! ### Warehouse mappings -/

/-- `SetResult` and `RetireResult`. -/
inductive MapResult where
  | ok (row : WarehouseMap)
  | notFound
  | conflict
  deriving DecidableEq

/-- The input of `set`. -/
structure SetInput where
  tenantId : Uuid
  storeId : Uuid
  erpnextWarehouseRef : String
  actorUserId : Uuid
  deriving DecidableEq

/-- The body of the `try`. -/
def insertMapping (input : SetInput) : Service MapResult := do
  let id ← newId
  let row ← clientQuery (.insertMap ⟨id, input.tenantId, input.storeId, input.erpnextWarehouseRef,
    input.actorUserId⟩)
  return .ok row

/-- Its `catch`. -/
def insertFailed : Thrown → Service MapResult
  | .pg error =>
    if error.code = .unique then .done .conflict
    else if error.code = .foreignKey then .done .notFound
    else .fail (.pg error)
  | error => .fail error

def set (input : SetInput) : Service MapResult := do
  let store ← clientQuery (.findStore input.storeId)
  if Bool.not store then return .notFound
  else (insertMapping input).rescue insertFailed

structure RetireInput where
  tenantId : Uuid
  id : Uuid
  version : Nat
  deriving DecidableEq

def retire (input : RetireInput) : Service MapResult := do
  let updated ← clientQuery (.retireMap input.id input.version)
  match (updated : Option WarehouseMap) with
  | some row => return .ok row
  | none => do
      let existing ← clientQuery (.findMap input.id)
      if Bool.not existing then return .notFound else return .conflict

/-! ### Processing a run -/

/-- `intPartRaw.replace(/^0+(?=\d)/, "")`. -/
def stripLeadingZeros : List Char → List Char
  | '0' :: c :: rest => if c.isDigit then stripLeadingZeros (c :: rest) else '0' :: c :: rest
  | digits => digits

/-- `fracPartRaw.replace(/0+$/, "")`. -/
def stripTrailingZeros (digits : List Char) : List Char :=
  (digits.reverse.dropWhile fun c => c = '0').reverse

/-- `body.split(".")`, its first two pieces. -/
def decimalParts (body : List Char) : List Char × List Char :=
  match body.splitOn '.' with
  | [] => (['0'], [])
  | [whole] => (whole, [])
  | whole :: frac :: _ => (whole, frac)

def canonicalDecimal (value : String) : String :=
  let neg := value.toList.head? = some '-'
  let body := if neg then value.toList.tail else value.toList
  let parts := decimalParts body
  let whole := stripLeadingZeros parts.1
  let frac := stripTrailingZeros parts.2
  let canon := if frac.isEmpty then whole else whole ++ '.' :: frac
  if canon = ['0'] then "0"
  else if neg then String.ofList ('-' :: canon) else String.ofList canon

def classify (onHand : String) (hasConfirmedMap : Bool) (binQty : Option String) : MismatchClass :=
  if (canonicalDecimal onHand).toList.head? = some '-' then .negativeBalanceFlagged
  else if !hasConfirmedMap then .unmappedItem
  else match binQty with
    | none => .dp2Only
    | some binQty =>
      if canonicalDecimal onHand ≠ canonicalDecimal binQty then .quantityDivergence else .matched

/-- A map with the value of a key replaced, or with the key at its end: `out.set(key, value)`. -/
def setEntry {Key Value : Type} [DecidableEq Key] (entries : List (Key × Value)) (key : Key)
    (value : Value) : List (Key × Value) :=
  if entries.any fun pair => pair.1 = key then
    entries.map fun pair => if pair.1 = key then (key, value) else pair
  else entries ++ [(key, value)]

/-- The value of a key: `entries.get(key)`. -/
def getEntry {Key Value : Type} [DecidableEq Key] (entries : List (Key × Value)) (key : Key) :
    Option Value :=
  (entries.find? fun pair => pair.1 = key).map Prod.snd

/-- `fetchBinView(input)`, of the report it reads. -/
def binViewOf (report : Option StoredBinViewReport) : List (Uuid × String) :=
  ((report.map StoredBinViewReport.entries).getD []).foldl (fun out entry =>
    match entry.tenantProductRef with
    | some product => setEntry out product entry.quantity
    | none => out) []

/-- A compared item: its class, its product, and the two quantities. -/
structure ComparedLine where
  mismatchClass : MismatchClass
  sourceRefId : Option Uuid
  detail : Option Detail
  deriving DecidableEq

/-- The items the processor compares: those with stock, then those that only the report has. -/
def comparedLines (dp2 : List OnHandRow) (binView : List (Uuid × String)) : List ComparedLine :=
  (dp2.map fun row =>
    let binQty := getEntry binView row.tenantProductRef
    ⟨classify row.onHand row.hasConfirmedMap binQty, some row.tenantProductRef,
      some ⟨some row.onHand, binQty⟩⟩) ++
  (binView.filter fun pair => pair.1 ∉ dp2.map OnHandRow.tenantProductRef).map fun pair =>
    ⟨.erpnextOnly, some pair.1, some ⟨none, some pair.2⟩⟩

/-- The counts by class, in the order the classes came up. -/
def countClasses (lines : List ComparedLine) : List (MismatchClass × Nat) :=
  lines.foldl (fun counts line => setEntry counts line.mismatchClass
    ((getEntry counts line.mismatchClass).getD 0 + 1)) []

/-- What the consumer hands to the processor: the run of the payload, the tenant of the envelope. -/
structure ProcessInput where
  runId : Uuid
  tenantId : Uuid
  deriving DecidableEq

/-- `status` of a `ReconciliationRunResult`. -/
inductive ProcessStatus where
  | completed
  | skipped
  deriving DecidableEq

structure ReconciliationRunResult where
  runId : Uuid
  status : ProcessStatus
  counts : List (MismatchClass × Nat)
  deriving DecidableEq

/-- `insertResult(client, runId, tenantId, opts)`. -/
def insertLine (input : ProcessInput) (line : ComparedLine) : Service Unit := do
  let id ← newId
  clientQuery (.insertResult ⟨id, input.runId, input.tenantId, line.mismatchClass, line.sourceRefId,
    .opened, line.detail⟩)

/-- The results of the compared items, and the guarded terminal write. -/
def finish (input : ProcessInput) (lines : List ComparedLine) : Service ReconciliationRunResult := do
  let _ ← forEach (insertLine input) lines
  clientQuery (.completeRun input.runId)
  return ⟨input.runId, .completed, countClasses lines⟩

def compare (input : ProcessInput) (storeId : Uuid) : Service ReconciliationRunResult := do
  let count ← clientQuery (.countMaps storeId none)
  if Nat.beq count 0 then finish input [⟨.unmappedStore, none, none⟩]
  else do
    let dp2 ← clientQuery (.onHand storeId)
    let report ← clientQuery (.runReport input.runId)
    finish input (comparedLines dp2 (binViewOf report))

def process (input : ProcessInput) : Service ReconciliationRunResult := do
  let run ← clientQuery (.lockRun input.runId)
  match (run : Option (Uuid × RunStatus)) with
  | none => return ⟨input.runId, .skipped, []⟩
  | some (storeId, status) =>
    if status = .running then compare input storeId else return ⟨input.runId, .skipped, []⟩

/-! ### All of them on one server -/

inductive Operation where
  | change (tenantId : Uuid) (change : Change)
  | triggerRun (input : TriggerRunInput)
  | pullRequests (input : PullRequestsInput)
  | reportSnapshot (input : ReportSnapshotInput) (date : Int)
  | set (input : SetInput)
  | retire (input : RetireInput)
  | process (input : ProcessInput)
  | drain (eventId : Uuid) (update : DrainerUpdate)
  deriving DecidableEq

inductive Body where
  | done
  | run (body : ReconciliationRunBody)
  | page (result : PullRequestsResult)
  | reported (result : ReportSnapshotResult)
  | map (result : MapResult)
  | processed (result : ReconciliationRunResult)
  deriving DecidableEq

namespace Operation

def tenant : Operation → Option Uuid
  | change tenantId _ => some tenantId
  | triggerRun input => some input.tenantId
  | pullRequests input => some input.tenantId
  | reportSnapshot input _ => some input.tenantId
  | set input => some input.tenantId
  | retire input => some input.tenantId
  | process input => some input.tenantId
  | drain _ _ => none

def program (deterministicId : String → String → Uuid) : Operation → Service Body
  | change _ edit => (clientQuery (.change edit)).bind fun _ => .done .done
  | triggerRun input => (Stock.triggerRun input).bind fun body => .done (.run body)
  | pullRequests input => (Stock.pullRequests deterministicId input).bind fun page => .done (.page page)
  | reportSnapshot input date => (Stock.reportSnapshot deterministicId input date).bind fun result =>
    .done (.reported result)
  | set input => (Stock.set input).bind fun result => .done (.map result)
  | retire input => (Stock.retire input).bind fun result => .done (.map result)
  | process input => (Stock.process input).bind fun result => .done (.processed result)
  | drain eventId update => (clientQuery (.updateEvent eventId update)).bind fun _ => .done .done

end Operation

structure Call where
  now : Int
  operation : Operation

def Call.context (call : Call) : Context := ⟨call.operation.tenant, call.now⟩

/-- What the services take from outside: the tables nobody writes, and the naming of requests. -/
structure Outside where
  reference : Reference
  deterministicId : String → String → Uuid

def stockServer (outside : Outside) : System Stmt Reply Uuid Thrown PgError Write Call Body where
  program call := call.operation.program outside.deterministicId
  exec call writes statement := exec outside.reference call.context writes statement
  thrown := .pg
  refused := .plain .failedTransaction
  clash := clash

abbrev Reachable (outside : Outside) := Interleave.Reachable (stockServer outside)

abbrev Config := Interleave.Config Stmt Reply Uuid Thrown PgError Write Call Body

abbrev Proc := Interleave.Proc Stmt Reply Uuid Thrown PgError Write Call Body

abbrev Log := List (Interleave.Entry Stmt Reply Uuid PgError Write)

end DataPulse.Stock
