/-
**The settlement services and their routes.**

`openFromIntent`, `applyPayment`, `submitClaim` and `reconcileRemittance` as client programs over the
statements of `Store`, then the four POST routes around them: the request schema, one transaction of
the tenant in the session, and the HTTP error of each result. A `World` supplies the identifiers and
may fail any statement.

The guards in front of the routes and the idempotency interceptor are not part of the model: a
request below is one that reached its handler. The tenant and the store of a request come from its
session. Bodies are typed, so the schema checks left are those on values.

* `handle`: one request against the tables;
* `run`: a sequence of them.
-/

import DataPulse.Platform.Schema
import DataPulse.Settlement.Store

namespace DataPulse.Settlement

open Lib Lib.Decimal Lib.Prog Platform

/-- A service method's work inside `runWithTenantContext`. -/
abbrev Service := Prog Stmt Reply Uuid Thrown

def clientQuery (statement : Stmt) : Service (Reply statement) := query statement

/-- `BigInt` throws on a text that is not a number. -/
def orSyntaxError {α : Type} : Option α → Service α
  | some value => .done value
  | none => .fail .syntaxError

def isPgCode (error : Thrown) (code : SqlState) : Bool :=
  match error with
  | .pg reported => reported.code = code
  | .syntaxError => false

/-! ### ReceivableService -/

structure ReceivableRow where
  id : Uuid
  saleId : Uuid
  payerId : Uuid
  outstandingBalance : String
  state : ReceivableState
  erpnextPaymentEntryRef : Option String
  taxPlaceholder : Option String
  version : Nat

def toRow (r : DbRow) : ReceivableRow where
  id := r.id
  saleId := r.saleId
  payerId := r.payerId
  outstandingBalance := r.outstandingBalance
  state := r.state
  erpnextPaymentEntryRef := r.erpnextPaymentEntryRef
  taxPlaceholder := r.taxPlaceholder
  version := r.version

/-- `IntentPayerInput`, without the claim metadata the service ignores. -/
structure IntentPayerInput where
  payerRef : String
  owedAmount : String

structure OpenIntentInput where
  tenantId : Uuid
  storeId : Uuid
  saleRef : String
  payers : List IntentPayerInput

inductive OpenIntentResult where
  | ok (rows : List ReceivableRow)
  | conflict

/-- The scope check in front of the inserts: stops at the first payer that is not in scope. -/
def payersInScope (storeId : Uuid) : List IntentPayerInput → Service Bool
  | [] => return true
  | payer :: rest => do
      let found ← clientQuery (.selectPayer payer.payerRef (some storeId))
      if found.isNone then return false
      else payersInScope storeId rest

def insertReceivable (input : OpenIntentInput) (payer : IntentPayerInput) :
    Service ReceivableRow := do
  let id ← newId
  let inserted ← clientQuery (.insertReceivable id input.tenantId input.storeId input.saleRef
    payer.payerRef payer.owedAmount initialReceivableState none)
  return toRow inserted

def openFromIntent (input : OpenIntentInput) : Service OpenIntentResult := do
  let inScope ← payersInScope input.storeId input.payers
  if !inScope then return .conflict
  else
    let insertAll : Service OpenIntentResult := do
      let rows ← forEach (insertReceivable input) input.payers
      return .ok rows
    insertAll.rescue fun error =>
      if isPgCode error .foreignKey then return .conflict else raise error

structure ApplyPaymentInput where
  tenantId : Uuid
  receivableRef : String
  amount : String
  version : Nat
  note : Option String

inductive ApplyPaymentResult where
  | ok (row : ReceivableRow)
  | notFound
  | conflict

/-- The ledger row and the receivable's new balance and state. -/
def writePayment (input : ApplyPaymentInput) (storeId : Uuid) (newBalance : String)
    (newState : ReceivableState) : Service ApplyPaymentResult := do
  let id ← newId
  let _ ← clientQuery (.insertPaymentApplication id input.tenantId storeId input.receivableRef
    input.amount input.note)
  let updated ← clientQuery
    (.updateReceivable input.receivableRef newBalance newState input.version)
  match updated with
  | some row => return .ok (toRow row)
  | none => return .conflict

/-- The payment of a receivable that was found and locked. -/
def payReceivable (input : ApplyPaymentInput) (row : DbRow) (storeId : Uuid) :
    Service ApplyPaymentResult :=
  if row.version ≠ input.version ∨ row.state = .settled ∨ row.state = .flagged then
    return .conflict
  else do
    let decision ← orSyntaxError
      (decideApplication ⟨row.outstandingBalance, input.amount, row.state⟩)
    match decision with
    | .overApplication => return .conflict
    | .ok newBalance newState => writePayment input storeId newBalance newState

def applyPayment (input : ApplyPaymentInput) : Service ApplyPaymentResult := do
  let current ← clientQuery (.lockReceivable input.receivableRef)
  match current with
  | none => return .notFound
  | some (row, storeId) => payReceivable input row storeId

/-! ### ClaimService -/

structure SubmitClaimInput where
  tenantId : Uuid
  payerRef : String
  receivableRefs : List String

structure ClaimBody where
  claimRef : Uuid
  payerRef : String
  status : ClaimStatus
  receivableRefs : List String

inductive SubmitClaimResult where
  | ok (claim : ClaimBody)
  | notFound
  | conflict

def claimableStates : List ReceivableState := [.opened, .partiallyApplied]

/-- The join rows and the transition of the receivables. -/
def linkReceivables (input : SubmitClaimInput) (storeId claimId : Uuid) (refs : List String) :
    Service Unit := do
  let _ ← forEach (fun ref => do
    let id ← newId
    clientQuery (.insertClaimReceivable id input.tenantId storeId claimId ref)) refs
  clientQuery (.claimReceivables refs)

/-- The claim over receivables that were found and locked. -/
def claimFound (input : SubmitClaimInput) (refs : List String) (found : List FoundRow) :
    Service SubmitClaimResult :=
  if found.length ≠ refs.length then return .conflict
  else if ∃ r ∈ found, r.state ∉ claimableStates then return .conflict
  else if ∃ r ∈ found, r.payerId.text ≠ input.payerRef then return .conflict
  else
    match distinct (found.map FoundRow.storeId) with
    | [storeId] => do
        let claimId ← newId
        let _ ← clientQuery (.insertClaim claimId input.tenantId storeId input.payerRef)
        linkReceivables input storeId claimId refs
        return .ok ⟨claimId, input.payerRef, .submitted, refs⟩
    | _ => return .conflict

def submitClaim (input : SubmitClaimInput) : Service SubmitClaimResult := do
  let payer ← clientQuery (.selectPayer input.payerRef none)
  if payer.isNone then return .notFound
  else
    let refs := distinct input.receivableRefs
    let found ← clientQuery (.lockReceivables refs)
    claimFound input refs found

structure ReconcileInput where
  tenantId : Uuid
  claimRef : String
  remittedAmount : String
  remittanceRef : Option String

structure ReconciliationResultBody where
  claimRef : String
  claimedAmount : String
  remittedAmount : String
  variance : String
  outcome : ReconcileOutcome

inductive ReconcileResult where
  | ok (result : ReconciliationResultBody)
  | notFound
  | conflict

def recordRemittance (input : ReconcileInput) (storeId : Uuid) (claimed : String)
    (decision : ReconcileDecision) : Service Unit := do
  let remittanceId ← newId
  let _ ← clientQuery (.insertRemittance remittanceId input.tenantId storeId input.claimRef
    input.remittedAmount input.remittanceRef)
  let resultId ← newId
  clientQuery (.insertReconciliationResult resultId input.tenantId storeId input.claimRef claimed
    input.remittedAmount decision.variance decision.outcome)

/-- The settled and the flagged branch: every line is cleared. -/
def clearLines (nextState : ReceivableState) (lines : List LineRow) : Service Unit := do
  let _ ← forEach (fun line : LineRow => clientQuery (.clearReceivable line.id nextState)) lines
  return ()

/-- The partial branch: the remitted amount is used up line by line. -/
def apportionLines (remaining : Int) : List LineRow → Service Unit
  | [] => return ()
  | line :: rest =>
    if remaining ≤ 0 then return ()
    else do
      let balance ← orSyntaxError (ClaimService.toScaledInt line.outstandingBalance)
      let applied := if remaining < balance then remaining else balance
      if applied ≤ 0 then apportionLines remaining rest
      else
        let newBalance := balance - applied
        let _ ← clientQuery (.reduceReceivable line.id (fromScaledInt newBalance))
        apportionLines (remaining - applied) rest

def applyRemittance (input : ReconcileInput) (outcome : ReconcileOutcome) (lines : List LineRow) :
    Service Unit :=
  match outcome with
  | .settled => clearLines .settled lines
  | .flagged => clearLines .flagged lines
  | .partially => do
      let remaining ← orSyntaxError (ClaimService.toScaledInt input.remittedAmount)
      apportionLines remaining lines

def writeReconciliation (input : ReconcileInput) (storeId : Uuid) (lines : List LineRow)
    (claimed : String) (decision : ReconcileDecision) : Service ReconcileResult := do
  recordRemittance input storeId claimed decision
  applyRemittance input decision.outcome lines
  let _ ← clientQuery (.reconcileClaim input.claimRef)
  return .ok ⟨input.claimRef, claimed, input.remittedAmount, decision.variance, decision.outcome⟩

/-- The reconciliation of a claim whose lines were found and locked. -/
def reconcileLines (input : ReconcileInput) (storeId : Uuid) (lines : List LineRow) :
    Service ReconcileResult :=
  if lines.length = 0 then return .conflict
  else if ∃ r ∈ lines, r.state ≠ .claimed then return .conflict
  else do
    let claimed ← orSyntaxError (ClaimService.sumScaled (lines.map LineRow.outstandingBalance))
    let decision ← orSyntaxError (decideReconciliation claimed input.remittedAmount)
    writeReconciliation input storeId lines claimed decision

/-- The reconciliation of a claim that was found and locked. -/
def reconcileFound (input : ReconcileInput) (status : ClaimStatus) (storeId : Uuid) :
    Service ReconcileResult :=
  if status = .reconciled then return .conflict
  else do
    let lines ← clientQuery (.lockClaimLines input.claimRef)
    reconcileLines input storeId lines

def reconcileRemittance (input : ReconcileInput) : Service ReconcileResult := do
  let claim ← clientQuery (.lockClaim input.claimRef)
  match claim with
  | none => return .notFound
  | some (status, storeId) => reconcileFound input status storeId

/-! ### Request schemas -/

/-- `/^\d{1,15}(\.\d{1,4})?$/.test(text)`. -/
def isMoneyText (text : String) : Bool := isPlain 15 4 text.toList

/-- `Number(text) > 0`; an infinity never passes the shape check next to it. -/
def isPositive (text : String) : Bool := (number text).any fun x => 0 < x

structure SettlementIntentBody where
  saleRef : String
  cashTendered : Option String
  payers : List IntentPayerInput

/-- `SettlementIntentPayerSchema`. -/
def payerIssues (index : Nat) (payer : IntentPayerInput) : List Issue :=
  let path := ["payers", toString index]
  uuidIssues (path ++ ["payerRef"]) payer.payerRef ++
    check (isMoneyText payer.owedAmount) (path ++ ["owedAmount"])
      "owedAmount must be an exact-decimal money string (<=4 dp)" ++
    check (isPositive payer.owedAmount) (path ++ ["owedAmount"])
      "owedAmount must be greater than zero"

/-- `SettlementIntentCreateSchema`. -/
def intentIssues (body : SettlementIntentBody) : List Issue :=
  uuidIssues ["saleRef"] body.saleRef ++
    check (body.cashTendered.all isMoneyText) ["cashTendered"]
      "cashTendered must be an exact-decimal money string" ++
    sizeIssues ["payers"] 16 body.payers ++
    (body.payers.zipIdx.flatMap fun (payer, index) => payerIssues index payer)

structure ApplyPaymentBody where
  amount : String
  version : Int
  note : Option String

/-- `ApplyPaymentRequestSchema`. -/
def paymentIssues (body : ApplyPaymentBody) : List Issue :=
  check (isMoneyText body.amount) ["amount"] "amount must be an exact-decimal money string" ++
    check (isPositive body.amount) ["amount"] "amount must be greater than zero" ++
    check (0 ≤ body.version) ["version"] "Number must be greater than or equal to 0" ++
    lengthIssues ["note"] 500 body.note

structure ClaimCreateBody where
  payerRef : String
  receivableRefs : List String

/-- `ClaimCreateSchema`. -/
def claimIssues (body : ClaimCreateBody) : List Issue :=
  uuidIssues ["payerRef"] body.payerRef ++
    sizeIssues ["receivableRefs"] 500 body.receivableRefs ++
    (body.receivableRefs.zipIdx.flatMap fun (ref, index) =>
      uuidIssues ["receivableRefs", toString index] ref)

structure RemittanceBody where
  remittedAmount : String
  remittanceRef : Option String

/-- `RemittanceReconcileSchema`. -/
def remittanceIssues (body : RemittanceBody) : List Issue :=
  check (isMoneyText body.remittedAmount) ["remittedAmount"]
      "amount must be an exact-decimal money string" ++
    lengthIssues ["remittanceRef"] 255 body.remittanceRef

/-! ### SettlementController -/

/-- What a route answers instead of a body. -/
inductive Failure where
  | validation (issues : List Issue)
  | http (status : Nat) (code message : String)
  | thrown (error : Thrown)

/-- `NotFoundException`. -/
def Failure.notFound : Failure := .http 404 "not_found" "Not found."

/-- `ConflictException`. -/
def Failure.conflict (message : String) : Failure := .http 409 "conflict" message

def assertUuid (value field : String) : Except Failure Unit :=
  if Uuid.isUuid value then .ok ()
  else .error (.http 400 "validation_error" (field ++ " must be a valid UUID."))

structure ReceivableBody where
  receivableRef : Uuid
  saleRef : Uuid
  payerRef : Uuid
  outstandingBalance : String
  state : ReceivableState
  erpnextPaymentEntryRef : Option String
  taxPlaceholder : Option String
  version : Nat

def toReceivable (row : ReceivableRow) : ReceivableBody where
  receivableRef := row.id
  saleRef := row.saleId
  payerRef := row.payerId
  outstandingBalance := row.outstandingBalance
  state := row.state
  erpnextPaymentEntryRef := row.erpnextPaymentEntryRef
  taxPlaceholder := row.taxPlaceholder
  version := row.version

inductive ResponseBody where
  | intent (saleRef : String) (receivables : List ReceivableBody)
  | receivable (body : ReceivableBody)
  | claim (body : ClaimBody)
  | reconciliation (body : ReconciliationResultBody)

/-- One request: the route, the session's tenant (and store), the path and the body. -/
inductive Request where
  | recordIntent (tenantId storeId : Uuid) (body : SettlementIntentBody)
  | applyPayment (tenantId : Uuid) (receivableRef : String) (body : ApplyPaymentBody)
  | submitClaim (tenantId : Uuid) (body : ClaimCreateBody)
  | reconcileRemittance (tenantId : Uuid) (claimRef : String) (body : RemittanceBody)

namespace Request

def tenantId : Request → Uuid
  | recordIntent tenantId .. => tenantId
  | applyPayment tenantId .. => tenantId
  | submitClaim tenantId .. => tenantId
  | reconcileRemittance tenantId .. => tenantId

def validate : Request → Except Failure Unit
  | recordIntent _ _ body => refuse (intentIssues body)
  | applyPayment _ receivableRef body => do
      refuse (paymentIssues body)
      assertUuid receivableRef "receivableRef"
  | submitClaim _ body => refuse (claimIssues body)
  | reconcileRemittance _ claimRef body => do
      refuse (remittanceIssues body)
      assertUuid claimRef "claimRef"
where
  refuse (issues : List Issue) : Except Failure Unit :=
    if issues.isEmpty then .ok () else .error (.validation issues)

/-- The service call of the route, and what the route makes of the result. -/
def service : Request → Service (Except Failure ResponseBody)
  | recordIntent tenantId storeId body => do
      match ← openFromIntent ⟨tenantId, storeId, body.saleRef, body.payers⟩ with
      | .ok rows => return .ok (.intent body.saleRef (rows.map toReceivable))
      | .conflict => return .error (.conflict
          "The settlement intent references an unknown payer or sale.")
  | applyPayment tenantId receivableRef body => do
      match ← Settlement.applyPayment
        ⟨tenantId, receivableRef, body.amount, body.version.toNat, body.note⟩ with
      | .ok row => return .ok (.receivable (toReceivable row))
      | .notFound => return .error .notFound
      | .conflict => return .error (.conflict
          ("Stale version, the receivable is already terminal, or the amount " ++
            "exceeds the outstanding balance (§III)."))
  | submitClaim tenantId body => do
      match ← Settlement.submitClaim ⟨tenantId, body.payerRef, body.receivableRefs⟩ with
      | .ok claim => return .ok (.claim claim)
      | .notFound => return .error .notFound
      | .conflict => return .error (.conflict
          ("One or more receivables are unknown, not claimable (must be open " ++
            "or partially applied), or span multiple stores."))
  | reconcileRemittance tenantId claimRef body => do
      match ← Settlement.reconcileRemittance
        ⟨tenantId, claimRef, body.remittedAmount, body.remittanceRef⟩ with
      | .ok result => return .ok (.reconciliation result)
      | .notFound => return .error .notFound
      | .conflict => return .error (.conflict
          "The claim is not in a reconcilable state (already reconciled).")

end Request

/-- A request in the world it meets. -/
structure Call where
  request : Request
  world : World Uuid Thrown

def handle (call : Call) (db : Db) : Except Failure ResponseBody × Db :=
  match call.request.validate with
  | .error failure => (.error failure, db)
  | .ok () =>
    match call.request.service.transaction (engine call.request.tenantId) call.world db with
    | (.ok answer, after) => (answer, after)
    | (.error error, after) => (.error (.thrown error), after)

def run (calls : List Call) (db : Db) : Db :=
  calls.foldl (fun db call => (handle call db).2) db

/-- Payers and sales, and nothing settled yet. -/
structure Reference where
  payers : Uuid → Option PayerAccount
  sales : Uuid → Option Sale

def Reference.start (reference : Reference) : Db where
  payers := reference.payers
  sales := reference.sales
  receivables := fun _ => none
  claims := fun _ => none
  paymentApplications := []
  claimReceivables := []
  remittances := []
  reconciliationResults := []

def Reference.sample : Reference where
  payers := fun id => if id = .sample 9 then some ⟨.sample 7, none⟩ else none
  sales := fun id => if id = .sample 8 then some ⟨.sample 7, .sample 6⟩ else none

def sampleWorld (first : Nat) : World Uuid Thrown := ⟨fun k => .sample (first + k), fun _ => none⟩

/-- Receivables over 10.00 and 20.00, both put on a claim. -/
def twoLineClaim : List Call := [
  ⟨.recordIntent (.sample 7) (.sample 6) ⟨(sample 8).text, none,
    [⟨(sample 9).text, "10.00"⟩, ⟨(sample 9).text, "20.00"⟩]⟩, sampleWorld 1⟩,
  ⟨.submitClaim (.sample 7) ⟨(sample 9).text, [(sample 1).text, (sample 2).text]⟩,
    sampleWorld 1⟩]

end DataPulse.Settlement
