/-
**Suggesting, confirming and retiring item mappings, and the repairs that compose them.**

`suggest`, `confirm` and `retire` of `ErpnextItemMapService`, `repairBacklogItem` and `repairResult` of
`ErpnextProductReconciliationService`, as client programs over the statements of `Ledger`; and
`itemMapServer`, all of them on one server together with whoever else adds products, runs and results
(`change`).

A program is what a method does up to the end of its transaction; `Operation.report` is what the method
makes of it. `validateRepair` throws before the transaction begins, so its program sends nothing.

The guards and the request schemas in front of the routes are not part of the model: the identifiers of a
call were parsed, its tenant and user are those of its principal, and a version is a natural number. Log
lines and the metric of a repair are left out.
-/

import DataPulse.Lib.Logs
import DataPulse.ItemMaps.Ledger

namespace DataPulse.ItemMaps

open Lib Lib.Prog Platform

/-! ### Errors -/

structure RecordedProductRepair where
  targetKind : TargetKind
  targetRef : Uuid
  repairKind : RepairKind
  outcome : RepairOutcome
  resolvedItemMapId : Option Uuid
  recordedAt : Int
  deriving DecidableEq

inductive Thrown where
  | pg (error : PgError)
  | repairValidation (message : String)
  | runNotFound
  deriving DecidableEq

abbrev Service := Prog Stmt Reply Uuid Thrown

def clientQuery (statement : Stmt) : Service (Reply statement) := query statement

/-! ### Mappings -/

/-- `SuggestResult`, `ConfirmResult` and `RetireResult`. -/
inductive MappingResult where
  | ok (row : Mapping)
  | notFound
  | conflict
  deriving DecidableEq

/-- The input of `suggest`. -/
structure SuggestInput where
  tenantId : Uuid
  tenantProductId : Uuid
  erpnextItemRef : String
  actorUserId : Uuid
  deriving DecidableEq

def suggestOnClient (input : SuggestInput) : Service MappingResult := do
  let product ← clientQuery (.findProduct input.tenantProductId)
  if Bool.not product then return .notFound
  else do
    let id ← newId
    let inserted ← clientQuery (.insertMapping ⟨id, input.tenantId, input.tenantProductId,
      input.erpnextItemRef, input.actorUserId⟩)
    match (inserted : Except PgError Mapping) with
    | .ok row => return .ok row
    | .error error =>
      if error.code = .unique then return .conflict
      else if error.code = .foreignKey then return .notFound
      else .fail (.pg error)

/-- The input of `confirm`. -/
structure ConfirmInput where
  tenantId : Uuid
  id : Uuid
  version : Nat
  actorUserId : Uuid
  deriving DecidableEq

/-- What an UPDATE with no row means: the mapping is there, or it is not. -/
def disambiguate (id : Uuid) : Service MappingResult := do
  let existing ← clientQuery (.findMapping id)
  if Option.isSome existing then return .conflict else return .notFound

def confirmOnClient (input : ConfirmInput) : Service MappingResult := do
  let updated ← clientQuery (.confirmMapping input.id input.version input.actorUserId)
  match (updated : Option Mapping) with
  | some row => return .ok row
  | none => disambiguate input.id

/-- The input of `retire`. -/
structure RetireInput where
  tenantId : Uuid
  id : Uuid
  version : Nat
  deriving DecidableEq

def retireOnClient (input : RetireInput) : Service MappingResult := do
  let updated ← clientQuery (.retireMapping input.id input.version)
  match (updated : Option Mapping) with
  | some row => return .ok row
  | none => disambiguate input.id

/-! ### Repairs -/

structure RepairInput where
  tenantId : Uuid
  actorUserId : Uuid
  repairKind : RepairKind
  tenantProductId : Uuid
  mappingId : Option Uuid
  erpnextItemRef : Option String
  version : Option Nat
  deriving DecidableEq

structure RepairResult where
  repair : RecordedProductRepair
  replayed : Bool
  deriving DecidableEq

def RepairKind.text : RepairKind → String
  | confirm => "confirm"
  | suggestConfirm => "suggest_confirm"
  | rePoint => "re_point"

/-- What a repair is to do, once it is validated. -/
inductive Instruction where
  | confirm (mappingId : Uuid) (version : Nat)
  | suggestConfirm (erpnextItemRef : String)

/-- `validateRepair(input)`, with the fields it leaves defined. -/
def validateRepair (input : RepairInput) : Except Thrown Instruction :=
  match input.repairKind with
  | .suggestConfirm =>
    match input.erpnextItemRef with
    | none => .error (.repairValidation "suggest_confirm requires erpnextItemRef")
    | some ref =>
      if ref = "" then .error (.repairValidation "suggest_confirm requires erpnextItemRef")
      else .ok (.suggestConfirm ref)
  | kind =>
    match input.mappingId, input.version with
    | some mappingId, some version => .ok (.confirm mappingId version)
    | _, _ => .error (.repairValidation (kind.text ++ " requires mappingId + version"))

/-- The outcome of a repair, with the mapping it resolved to. -/
abbrev Driven := RepairOutcome × Option Uuid

/-- `runRepair`, `confirm` and `re_point`: the existing suggestion is confirmed. -/
def driveConfirm (input : RepairInput) (mappingId : Uuid) (version : Nat) : Service Driven := do
  let result ← confirmOnClient ⟨input.tenantId, mappingId, version, input.actorUserId⟩
  match result with
  | .ok row => return (.mapped, some row.id)
  | .notFound => return (.stillUnmapped, none)
  | .conflict => do
      let existing ← clientQuery (.findMapping mappingId)
      match (existing : Option Mapping) with
      | some row =>
        if row.isConfirmed then return (.noOpEcho, some row.id) else return (.conflict, none)
      | none => return (.conflict, none)

/-- `runRepair`, `suggest_confirm`: a suggestion is recorded, and confirmed. -/
def driveSuggest (input : RepairInput) (erpnextItemRef : String) : Service Driven := do
  let result ← suggestOnClient ⟨input.tenantId, input.tenantProductId, erpnextItemRef,
    input.actorUserId⟩
  match result with
  | .notFound => return (.stillUnmapped, none)
  | .conflict => do
      let active ← clientQuery (.findActive input.tenantProductId)
      match (active : Option Mapping) with
      | some row =>
        if row.state = .confirmed then return (.noOpEcho, some row.id) else return (.conflict, none)
      | none => return (.conflict, none)
  | .ok row => do
      let confirmed ← confirmOnClient ⟨input.tenantId, row.id, row.version, input.actorUserId⟩
      match confirmed with
      | .ok row => return (.mapped, some row.id)
      | _ => return (.stillUnmapped, none)

/-- `runRepair`, up to the outcome. -/
def drive (input : RepairInput) : Instruction → Service Driven
  | .confirm mappingId version => driveConfirm input mappingId version
  | .suggestConfirm ref => driveSuggest input ref

/-- `target_type` of the audit. -/
def TargetKind.table : TargetKind → String
  | backlogItem => "tenant_products"
  | result => "erpnext_product_reconciliation_result"

def recordRepairAttempt (input : RepairInput) (targetKind : TargetKind) (targetRefId : Uuid)
    (driven : Driven) : Service Int := do
  let id ← newId
  let recordedAt ← clientQuery (.insertAttempt ⟨id, input.tenantId, targetKind, targetRefId,
    input.repairKind, input.actorUserId, driven.1, driven.2, input.version⟩)
  let auditId ← newId
  clientQuery (.insertAudit ⟨auditId, input.actorUserId, input.tenantId,
    "erpnext_product_reconciliation.repaired", targetKind.table, targetRefId, driven.1,
    input.repairKind⟩)
  return recordedAt

def runRepair (input : RepairInput) (instruction : Instruction) (targetKind : TargetKind)
    (targetRefId : Uuid) : Service RepairResult := do
  let driven ← drive input instruction
  let recordedAt ← recordRepairAttempt input targetKind targetRefId driven
  return ⟨⟨targetKind, targetRefId, input.repairKind, driven.1, driven.2, recordedAt⟩,
    driven.1 = .noOpEcho⟩

/-- `repairBacklogItem(input)`, up to the end of its transaction. -/
def repairBacklogItem (input : RepairInput) : Service RepairResult :=
  match validateRepair input with
  | .error error => .fail error
  | .ok instruction => runRepair input instruction .backlogItem input.tenantProductId

/-- `UPDATE erpnext_product_reconciliation_result`, where the repair mapped an open result. -/
def markRepaired (resultId : Uuid) (state : ResultState) (result : RepairResult) :
    Service RepairResult :=
  if result.repair.outcome = .mapped ∧ state = .opened then
    (clientQuery (.markRepaired resultId)).bind fun _ => .done result
  else .done result

/-- `repairResult(input)`, up to the end of its transaction. -/
def repairResult (input : RepairInput) (runId resultId : Uuid) : Service RepairResult :=
  match validateRepair input with
  | .error error => .fail error
  | .ok instruction => do
      let cur ← clientQuery (.lockResult resultId runId)
      match (cur : Option ResultState) with
      | none => .fail .runNotFound
      | some state => do
          let result ← runRepair input instruction .result resultId
          markRepaired resultId state result

/-! ### All of them on one server -/

inductive Operation where
  | change (tenantId : Uuid) (change : Change)
  | suggest (input : SuggestInput)
  | confirm (input : ConfirmInput)
  | retire (input : RetireInput)
  | repairBacklogItem (input : RepairInput)
  | repairResult (input : RepairInput) (runId resultId : Uuid)
  deriving DecidableEq

inductive Body where
  | done
  | mapping (result : MappingResult)
  | repaired (result : RepairResult)
  deriving DecidableEq

namespace Operation

def tenant : Operation → Uuid
  | change tenantId _ => tenantId
  | suggest input => input.tenantId
  | confirm input => input.tenantId
  | retire input => input.tenantId
  | repairBacklogItem input => input.tenantId
  | repairResult input _ _ => input.tenantId

def program : Operation → Service Body
  | change _ edit => (clientQuery (.change edit)).bind fun _ => .done .done
  | suggest input => (suggestOnClient input).bind fun result => .done (.mapping result)
  | confirm input => (confirmOnClient input).bind fun result => .done (.mapping result)
  | retire input => (retireOnClient input).bind fun result => .done (.mapping result)
  | repairBacklogItem input => (ItemMaps.repairBacklogItem input).bind fun result =>
    .done (.repaired result)
  | repairResult input runId resultId => (ItemMaps.repairResult input runId resultId).bind fun result =>
    .done (.repaired result)

end Operation

structure Call where
  now : Int
  operation : Operation

def Call.context (call : Call) : Context := ⟨call.operation.tenant, call.now⟩

def itemMapServer (reference : Reference) :
    System Stmt Reply Uuid Thrown PgError Write Call Body where
  program call := call.operation.program
  exec call writes statement := exec reference call.context writes statement
  thrown := .pg
  refused := .plain .failedTransaction
  clash := clash

abbrev Reachable (reference : Reference) := Interleave.Reachable (itemMapServer reference)

abbrev Config := Interleave.Config Stmt Reply Uuid Thrown PgError Write Call Body

abbrev Proc := Interleave.Proc Stmt Reply Uuid Thrown PgError Write Call Body

abbrev Log := List (Interleave.Entry Stmt Reply Uuid PgError Write)

end DataPulse.ItemMaps
