/-
**The settlement tables and the statements the services send to them.**

`Db` holds the six tables of the settlement migration that the four operations write, and the payer
accounts and sales they refer to. A table whose rows are updated is a map from its primary key; a
table that only grows is a list. `exec` is the server: it casts the parameters, applies the row-level
security of the session's tenant, and checks keys, foreign keys, CHECKs and the width of the version
counters. The foreign keys to tenants and stores follow from the composite ones and are left out.

* `Db.updateReceivable`, with `updateReceivable_ok`: every UPDATE of a receivable raises its version;
* `insertReceivable_ok`, `lockReceivable_ok`, …: what a statement that succeeded was given, and what
  it did.
-/

import DataPulse.Lib.Atomic
import DataPulse.Settlement.Decisions
import Mathlib.Data.List.Dedup
import Mathlib.Data.List.Sort
import Mathlib.Logic.Function.Basic

namespace DataPulse.Settlement

open Lib Platform

/-! ### Rows -/

inductive Thrown where
  | pg (error : PgError)
  | syntaxError
  deriving DecidableEq

/-- `payer_account`: a payer without a store is tenant-wide. -/
structure PayerAccount where
  tenantId : Uuid
  storeId : Option Uuid

/-- `sales`, as far as a receivable refers to it. -/
structure Sale where
  tenantId : Uuid
  storeId : Uuid
  deriving DecidableEq

structure Receivable where
  tenantId : Uuid
  storeId : Uuid
  saleId : Uuid
  payerId : Uuid
  outstandingBalance : Money
  state : ReceivableState
  erpnextPaymentEntryRef : Option String
  taxPlaceholder : Option String
  version : Nat
  deriving DecidableEq

inductive ClaimStatus where
  | submitted
  | acknowledged
  | reconciled
  deriving DecidableEq

structure Claim where
  tenantId : Uuid
  storeId : Uuid
  payerId : Uuid
  status : ClaimStatus
  version : Nat
  deriving DecidableEq

structure PaymentApplication where
  id : Uuid
  tenantId : Uuid
  storeId : Uuid
  receivableId : Uuid
  appliedAmount : Money
  note : Option String

structure ClaimReceivable where
  id : Uuid
  tenantId : Uuid
  storeId : Uuid
  claimId : Uuid
  receivableId : Uuid

structure Remittance where
  id : Uuid
  tenantId : Uuid
  storeId : Uuid
  claimId : Uuid
  remittedAmount : Money
  remittanceRef : Option String

structure ReconciliationResult where
  id : Uuid
  tenantId : Uuid
  storeId : Uuid
  claimId : Uuid
  claimedAmount : Numeric
  remittedAmount : Numeric
  variance : Numeric
  outcome : ReconcileOutcome

structure Db where
  payers : Uuid → Option PayerAccount
  sales : Uuid → Option Sale
  receivables : Uuid → Option Receivable
  claims : Uuid → Option Claim
  paymentApplications : List PaymentApplication
  claimReceivables : List ClaimReceivable
  remittances : List Remittance
  reconciliationResults : List ReconciliationResult

/-! ### Statements -/

/-- The columns of `SELECT_COLS` as the driver hands them out. An identifier is handed out as its
canonical text, which the `Uuid` carries. -/
structure DbRow where
  id : Uuid
  saleId : Uuid
  payerId : Uuid
  outstandingBalance : String
  state : ReceivableState
  erpnextPaymentEntryRef : Option String
  taxPlaceholder : Option String
  version : Nat

/-- The row of the claimability check. -/
structure FoundRow where
  id : Uuid
  state : ReceivableState
  storeId : Uuid
  payerId : Uuid

/-- The row of a claim line joined with its receivable. -/
structure LineRow where
  id : Uuid
  state : ReceivableState
  outstandingBalance : String

/-- The statements of the two services, with the parameters they send. -/
inductive Stmt where
  /-- `SELECT … FROM payer_account WHERE id = $1::uuid AND ($2::uuid IS NULL OR store_id IS NULL OR
  store_id = $2::uuid)`; the claim service asks without a store. -/
  | selectPayer (payerRef : String) (storeId : Option Uuid)
  /-- `INSERT INTO receivable … RETURNING …`, version 0. -/
  | insertReceivable (id tenantId storeId : Uuid) (saleId payerId outstandingBalance : String)
      (state : ReceivableState) (taxPlaceholder : Option String)
  /-- `SELECT …, store_id FROM receivable WHERE id = $1::uuid FOR UPDATE`. -/
  | lockReceivable (id : String)
  /-- `INSERT INTO payment_application`. -/
  | insertPaymentApplication (id tenantId storeId : Uuid) (receivableId appliedAmount : String)
      (note : Option String)
  /-- `UPDATE receivable SET outstanding_balance = $2, state = $3, version = version + 1 WHERE
  id = $1::uuid AND version = $4 RETURNING …`. -/
  | updateReceivable (id outstandingBalance : String) (state : ReceivableState) (version : Nat)
  /-- `SELECT id, state, store_id, payer_id FROM receivable WHERE id = ANY($1::uuid[]) FOR UPDATE`. -/
  | lockReceivables (ids : List String)
  /-- `INSERT INTO claim … VALUES (…, 'submitted', 0)`. -/
  | insertClaim (id tenantId storeId : Uuid) (payerId : String)
  /-- `INSERT INTO claim_receivables`. -/
  | insertClaimReceivable (id tenantId storeId claimId : Uuid) (receivableId : String)
  /-- `UPDATE receivable SET state = 'claimed', version = version + 1 WHERE id = ANY($1::uuid[])`. -/
  | claimReceivables (ids : List String)
  /-- `SELECT status, store_id FROM claim WHERE id = $1::uuid FOR UPDATE`. -/
  | lockClaim (id : String)
  /-- The claim's lines joined with their receivables, `ORDER BY r.id FOR UPDATE OF r`. -/
  | lockClaimLines (claimId : String)
  /-- `INSERT INTO remittance`. -/
  | insertRemittance (id tenantId storeId : Uuid) (claimId remittedAmount : String)
      (remittanceRef : Option String)
  /-- `INSERT INTO reconciliation_result`. -/
  | insertReconciliationResult (id tenantId storeId : Uuid)
      (claimId claimedAmount remittedAmount variance : String) (outcome : ReconcileOutcome)
  /-- `UPDATE receivable SET outstanding_balance = 0, state = $2, version = version + 1 WHERE
  id = $1::uuid`. -/
  | clearReceivable (id : Uuid) (state : ReceivableState)
  /-- `UPDATE receivable SET outstanding_balance = $2, version = version + 1 WHERE id = $1::uuid`. -/
  | reduceReceivable (id : Uuid) (outstandingBalance : String)
  /-- `UPDATE claim SET status = 'reconciled', version = version + 1 WHERE id = $1::uuid`. -/
  | reconcileClaim (id : String)

def Reply : Stmt → Type
  | .selectPayer .. => Option PayerAccount
  | .insertReceivable .. => DbRow
  | .lockReceivable .. => Option (DbRow × Uuid)
  | .updateReceivable .. => Option DbRow
  | .lockReceivables .. => List FoundRow
  | .lockClaim .. => Option (ClaimStatus × Uuid)
  | .lockClaimLines .. => List LineRow
  | _ => Unit

/-! ### The server -/

/-- `$n::uuid`. -/
def castUuid (text : String) : Except Thrown Uuid :=
  match Uuid.ofText text with
  | some id => .ok id
  | none => .error (.pg (.plain .invalidText))

def orThrow {α : Type} : Except PgError α → Except Thrown α
  | .ok value => .ok value
  | .error error => .error (.pg error)

def require (holds : Bool) (code : SqlState) (constraint : String) : Except Thrown Unit :=
  if holds then .ok () else .error (.pg ⟨code, some constraint⟩)

/-- Row-level security: a session sees the rows of its tenant. -/
def visible {Row : Type} (tenantOf : Row → Uuid) (tenant : Uuid) (row : Option Row) : Option Row :=
  row.filter fun r => tenantOf r = tenant

/-- The largest `INTEGER`. -/
def maxInteger : Nat := 2147483647

/-- `version + 1` in an `INTEGER` column. -/
def nextVersion (version : Nat) : Except Thrown Nat :=
  if version < maxInteger then .ok (version + 1) else .error (.pg (.plain .outOfRange))

/-- `ORDER BY id`. -/
def byId (first second : Uuid × Receivable) : Prop := Uuid.precedes first.1 second.1 = true

instance : DecidableRel byId := fun _ _ => inferInstanceAs (Decidable (_ = true))

namespace Receivable

/-- The row of `SELECT_COLS`. -/
def dbRow (id : Uuid) (r : Receivable) : DbRow where
  id := id
  saleId := r.saleId
  payerId := r.payerId
  outstandingBalance := r.outstandingBalance.text
  state := r.state
  erpnextPaymentEntryRef := r.erpnextPaymentEntryRef
  taxPlaceholder := r.taxPlaceholder
  version := r.version

end Receivable

namespace Db

def setReceivable (db : Db) (id : Uuid) (r : Receivable) : Db :=
  { db with receivables := Function.update db.receivables id (some r) }

def setClaim (db : Db) (id : Uuid) (c : Claim) : Db :=
  { db with claims := Function.update db.claims id (some c) }

/-- An UPDATE of one receivable: `set` is the SET list without the version. -/
def updateReceivable (tenant id : Uuid) (set : Receivable → Receivable) (db : Db) :
    Except Thrown (Option DbRow × Db) :=
  match visible Receivable.tenantId tenant (db.receivables id) with
  | none => .ok (none, db)
  | some row => do
      let version ← nextVersion row.version
      let row' := { set row with version := version }
      .ok (some (row'.dbRow id), db.setReceivable id row')

/-- An UPDATE of one receivable that names the version it expects. -/
def updateReceivableAt (tenant id : Uuid) (version : Nat) (set : Receivable → Receivable)
    (db : Db) : Except Thrown (Option DbRow × Db) :=
  if (db.receivables id).any fun r => r.version = version then db.updateReceivable tenant id set
  else .ok (none, db)

def updateReceivables (tenant : Uuid) (set : Receivable → Receivable) :
    List Uuid → Db → Except Thrown Db
  | [], db => .ok db
  | id :: rest, db => do
      let (_, db) ← db.updateReceivable tenant id set
      updateReceivables tenant set rest db

/-- The receivables of a claim's lines, in the order of their identifiers. -/
def claimLines (tenant claimId : Uuid) (db : Db) : List (Uuid × Receivable) :=
  let lines := db.claimReceivables.filter fun line =>
    line.tenantId = tenant && line.claimId = claimId
  let joined := lines.filterMap fun line =>
    (visible Receivable.tenantId tenant (db.receivables line.receivableId)).map
      fun r => (line.receivableId, r)
  joined.insertionSort byId

def hasReceivable (db : Db) (id tenantId storeId : Uuid) : Bool :=
  (db.receivables id).any fun r => r.tenantId = tenantId && r.storeId = storeId

def hasClaim (db : Db) (id tenantId storeId : Uuid) : Bool :=
  (db.claims id).any fun c => c.tenantId = tenantId && c.storeId = storeId

end Db

/-- The server executes one statement in a session of the tenant. -/
def exec (tenant : Uuid) : (statement : Stmt) → Db → Except Thrown (Reply statement × Db)
  | .selectPayer payerRef storeId, db => do
      let id ← castUuid payerRef
      let payer := (visible PayerAccount.tenantId tenant (db.payers id)).filter fun payer =>
        storeId = none || payer.storeId = none || payer.storeId = storeId
      .ok (payer, db)
  | .insertReceivable id tenantId storeId saleId payerId outstandingBalance state tax, db => do
      let saleId ← castUuid saleId
      let payerId ← castUuid payerId
      let balance ← orThrow (Money.ofText "receivable_balance_non_negative" outstandingBalance)
      require (tenantId = tenant) .rowSecurity "receivable_tenant_insert"
      require (db.receivables id).isNone .unique "receivable_pkey"
      require (db.sales saleId = some ⟨tenantId, storeId⟩) .foreignKey
        "fk_receivable_sale_tenant_store"
      require (db.payers payerId).isSome .foreignKey "receivable_payer_id_fkey"
      let row : Receivable := ⟨tenantId, storeId, saleId, payerId, balance, state, none, tax, 0⟩
      .ok (row.dbRow id, db.setReceivable id row)
  | .lockReceivable id, db => do
      let id ← castUuid id
      let row := visible Receivable.tenantId tenant (db.receivables id)
      .ok (row.map fun r => (r.dbRow id, r.storeId), db)
  | .insertPaymentApplication id tenantId storeId receivableId appliedAmount note, db => do
      let receivableId ← castUuid receivableId
      let amount ← orThrow (Money.ofText "payment_application_amount_positive" appliedAmount)
      require (0 < amount.units) .check "payment_application_amount_positive"
      require (tenantId = tenant) .rowSecurity "payment_application_tenant_insert"
      require (db.paymentApplications.all fun p => p.id ≠ id) .unique "payment_application_pkey"
      require (db.hasReceivable receivableId tenantId storeId) .foreignKey
        "fk_payment_application_receivable"
      let row : PaymentApplication := ⟨id, tenantId, storeId, receivableId, amount, note⟩
      .ok ((), { db with paymentApplications := db.paymentApplications ++ [row] })
  | .updateReceivable id outstandingBalance state version, db => do
      let id ← castUuid id
      let balance ← orThrow (Money.ofText "receivable_balance_non_negative" outstandingBalance)
      db.updateReceivableAt tenant id version fun r =>
        { r with outstandingBalance := balance, state := state }
  | .lockReceivables ids, db => do
      let ids ← ids.mapM castUuid
      .ok (ids.dedup.filterMap fun id =>
        (visible Receivable.tenantId tenant (db.receivables id)).map fun r =>
          ⟨id, r.state, r.storeId, r.payerId⟩, db)
  | .insertClaim id tenantId storeId payerId, db => do
      let payerId ← castUuid payerId
      require (tenantId = tenant) .rowSecurity "claim_tenant_insert"
      require (db.claims id).isNone .unique "claim_pkey"
      require (db.payers payerId).isSome .foreignKey "claim_payer_id_fkey"
      let row : Claim := ⟨tenantId, storeId, payerId, .submitted, 0⟩
      .ok ((), db.setClaim id row)
  | .insertClaimReceivable id tenantId storeId claimId receivableId, db => do
      let receivableId ← castUuid receivableId
      require (tenantId = tenant) .rowSecurity "claim_receivables_tenant_insert"
      require (db.claimReceivables.all fun line => line.id ≠ id) .unique "claim_receivables_pkey"
      require (db.claimReceivables.all fun line =>
        !(line.claimId = claimId && line.receivableId = receivableId)) .unique "uq_claim_receivables"
      require (db.hasClaim claimId tenantId storeId) .foreignKey "fk_claim_receivables_claim"
      require (db.hasReceivable receivableId tenantId storeId) .foreignKey
        "fk_claim_receivables_receivable"
      let row : ClaimReceivable := ⟨id, tenantId, storeId, claimId, receivableId⟩
      .ok ((), { db with claimReceivables := db.claimReceivables ++ [row] })
  | .claimReceivables ids, db => do
      let ids ← ids.mapM castUuid
      let db ← db.updateReceivables tenant (fun r => { r with state := .claimed }) ids.dedup
      .ok ((), db)
  | .lockClaim id, db => do
      let id ← castUuid id
      let claim := visible Claim.tenantId tenant (db.claims id)
      .ok (claim.map fun c => (c.status, c.storeId), db)
  | .lockClaimLines claimId, db => do
      let claimId ← castUuid claimId
      .ok ((db.claimLines tenant claimId).map fun (id, r) =>
        ⟨id, r.state, r.outstandingBalance.text⟩, db)
  | .insertRemittance id tenantId storeId claimId remittedAmount remittanceRef, db => do
      let claimId ← castUuid claimId
      let remitted ← orThrow (Money.ofText "remittance_amount_non_negative" remittedAmount)
      require (tenantId = tenant) .rowSecurity "remittance_tenant_insert"
      require (db.remittances.all fun r => r.id ≠ id) .unique "remittance_pkey"
      require (db.hasClaim claimId tenantId storeId) .foreignKey "fk_remittance_claim"
      let row : Remittance := ⟨id, tenantId, storeId, claimId, remitted, remittanceRef⟩
      .ok ((), { db with remittances := db.remittances ++ [row] })
  | .insertReconciliationResult id tenantId storeId claimId claimedAmount remittedAmount variance
      outcome, db => do
      let claimId ← castUuid claimId
      let claimed ← orThrow (Numeric.ofText claimedAmount)
      let remitted ← orThrow (Numeric.ofText remittedAmount)
      let variance ← orThrow (Numeric.ofText variance)
      require (tenantId = tenant) .rowSecurity "reconciliation_result_tenant_insert"
      require (db.reconciliationResults.all fun r => r.id ≠ id) .unique
        "reconciliation_result_pkey"
      require (db.hasClaim claimId tenantId storeId) .foreignKey "fk_reconciliation_result_claim"
      let row : ReconciliationResult :=
        ⟨id, tenantId, storeId, claimId, claimed, remitted, variance, outcome⟩
      .ok ((), { db with reconciliationResults := db.reconciliationResults ++ [row] })
  | .clearReceivable id state, db => do
      let (_, db) ← db.updateReceivable tenant id fun r =>
        { r with outstandingBalance := .zero, state := state }
      .ok ((), db)
  | .reduceReceivable id outstandingBalance, db => do
      let balance ← orThrow (Money.ofText "receivable_balance_non_negative" outstandingBalance)
      let (_, db) ← db.updateReceivable tenant id fun r => { r with outstandingBalance := balance }
      .ok ((), db)
  | .reconcileClaim id, db => do
      let id ← castUuid id
      match visible Claim.tenantId tenant (db.claims id) with
      | none => .ok ((), db)
      | some claim => do
          let version ← nextVersion claim.version
          let claim' := { claim with status := .reconciled, version := version }
          .ok ((), db.setClaim id claim')

/-- The server as the engine of the transactions of a tenant. -/
def engine (tenant : Uuid) : Engine Stmt Reply Thrown Db where
  exec := exec tenant
  refused := .pg (.plain .failedTransaction)

/-! ### What a successful statement did -/

theorem orThrow_ok {α : Type} {result : Except PgError α} {value : α} (works : orThrow result = .ok value) :
    result = .ok value := by
  cases result with
  | error error => cases works
  | ok value' => exact congrArg Except.ok (Except.ok.inj works)

theorem castUuid_ok {text : String} {id : Uuid} (works : castUuid text = .ok id) : Uuid.ofText text =
    some id := by
  unfold castUuid at works
  split at works
  · rename_i id' read
    rw [read, Except.ok.inj works]
  · cases works

@[simp] theorem castUuid_text (id : Uuid) : castUuid id.text = .ok id := by
  simp [castUuid]

theorem require_ok {holds : Bool} {code : SqlState} {constraint : String} {done : Unit}
    (works : require holds code constraint = .ok done) : holds = true := by
  unfold require at works
  split at works
  · assumption
  · cases works

@[simp] theorem require_true (code : SqlState) (constraint : String) : require true code constraint = .ok () :=
  rfl

theorem visible_some {Row : Type} {tenantOf : Row → Uuid} {tenant : Uuid} {row : Option Row} {r : Row} :
    visible tenantOf tenant row = some r ↔ row = some r ∧ tenantOf r = tenant := by
  simp [visible, filter_eq_some_iff]

theorem nextVersion_ok {version next : Nat} (works : nextVersion version = .ok next) :
    version < maxInteger ∧ next = version + 1 := by
  unfold nextVersion at works
  split at works
  · exact ⟨‹_›, (Except.ok.inj works).symm⟩
  · cases works

def Receivable.updated (set : Receivable → Receivable) (r : Receivable) : Receivable :=
  { set r with version := r.version + 1 }

namespace Db

variable {tenant id : Uuid} {set : Receivable → Receivable} {db db' : Db}
variable {row : Option DbRow}
variable {r : Receivable}

@[simp] theorem setReceivable_self (r : Receivable) : (db.setReceivable id r).receivables id = some r :=
  Function.update_self _ _ _

theorem setReceivable_of_ne {other : Uuid} (unlike : other ≠ id) (r : Receivable) :
    (db.setReceivable id r).receivables other = db.receivables other :=
  Function.update_of_ne unlike _ _

/-- **An UPDATE of a receivable finds no row, or writes the one it finds with the next version.** -/
theorem updateReceivable_ok (works : db.updateReceivable tenant id set = .ok (row, db')) :
    (visible Receivable.tenantId tenant (db.receivables id) = none ∧ row = none ∧ db' = db) ∨
      ∃ r, db.receivables id = some r ∧ r.tenantId = tenant ∧ row = some ((r.updated set).dbRow id) ∧
      db' = db.setReceivable id (r.updated set) := by
  unfold updateReceivable at works
  split at works
  · rename_i hidden
    cases works
    exact .inl ⟨hidden, rfl, rfl⟩
  · rename_i r found
    obtain ⟨version, next, works⟩ := bind_ok works
    obtain ⟨-, rfl⟩ := nextVersion_ok next
    cases works
    obtain ⟨here, own⟩ := visible_some.1 found
    exact .inr ⟨r, here, own, rfl, rfl⟩

theorem updateReceivableAt_ok {version : Nat}
    (works : db.updateReceivableAt tenant id version set = .ok (row, db')) (here : db.receivables id = some r)
    (own : r.tenantId = tenant) (current : r.version = version) :
    row = some ((r.updated set).dbRow id) ∧ db' = db.setReceivable id (r.updated set) := by
  rw [updateReceivableAt, if_pos (by simp [here, current])] at works
  rcases updateReceivable_ok works with ⟨hidden, -, -⟩ | ⟨r', present', -, rfl, rfl⟩
  · rw [visible_some.2 ⟨here, own⟩] at hidden
    cases hidden
  · rw [mem_unique here present']
    exact ⟨rfl, rfl⟩

theorem updateReceivable_of_visible (here : db.receivables id = some r) (own : r.tenantId = tenant)
    (room : r.version < maxInteger) :
    db.updateReceivable tenant id set =
      .ok (some ((r.updated set).dbRow id), db.setReceivable id (r.updated set)) := by
  unfold updateReceivable
  rw [visible_some.2 ⟨here, own⟩]
  simp only [nextVersion, if_pos room]
  rfl

/-- With room in its version, if it is there at all, an UPDATE by identifier succeeds, and writes
no other receivable. -/
theorem updateReceivable_room (tenant : Uuid) (set : Receivable → Receivable)
    (room : ∀ r, db.receivables id = some r → r.version < maxInteger) :
    ∃ row db', db.updateReceivable tenant id set = .ok (row, db') ∧
      ∀ other, other ≠ id → db'.receivables other = db.receivables other := by
  cases shown : visible Receivable.tenantId tenant (db.receivables id) with
  | none =>
    refine ⟨none, db, ?_, fun _ _ => rfl⟩
    rw [updateReceivable, shown]
  | some r =>
    obtain ⟨here, own⟩ := visible_some.1 shown
    exact ⟨_, _, updateReceivable_of_visible here own (room r here), fun other unlike => setReceivable_of_ne
      unlike _⟩

end Db

section Statements

variable {tenant : Uuid} {db db' : Db}
variable {ref : String} {storeId id : Uuid} {done : Unit}
variable {tenantId : Uuid} {state : ReceivableState} {refs : List String}
  {payerRef balance amount : String}

theorem selectPayer_ok {storeId : Option Uuid} {payer : Option PayerAccount}
    (works : exec tenant (.selectPayer payerRef storeId) db = .ok (payer, db')) : db' = db := by
  obtain ⟨id, -, works⟩ := bind_ok works
  cases works
  rfl

theorem insertReceivable_ok {saleId payerId : String} {tax : Option String} {row : DbRow}
    (works : exec tenant (.insertReceivable id tenantId storeId saleId payerId balance state tax) db =
      .ok (row, db')) :
    ∃ r, db.receivables id = none ∧ r.state = state ∧ r.version = 0 ∧ row = r.dbRow id ∧
      Money.ofText "receivable_balance_non_negative" balance = .ok r.outstandingBalance ∧
      db' = db.setReceivable id r := by
  obtain ⟨saleId, -, works⟩ := bind_ok works
  obtain ⟨payerId, -, works⟩ := bind_ok works
  obtain ⟨balance, cast, works⟩ := bind_ok works
  obtain ⟨_, -, works⟩ := bind_ok works
  obtain ⟨_, free, works⟩ := bind_ok works
  obtain ⟨_, _, works⟩ := bind_ok₂ works
  cases works
  exact ⟨_, isNone_iff_eq_none.1 (require_ok free), rfl, rfl, rfl, orThrow_ok cast, rfl⟩

theorem lockReceivable_ok {row : Option (DbRow × Uuid)}
    (works : exec tenant (.lockReceivable ref) db = .ok (row, db')) :
    ∃ id, Uuid.ofText ref = some id ∧ db' = db ∧
      row =
      (visible Receivable.tenantId tenant (db.receivables id)).map fun r => (r.dbRow id, r.storeId) := by
  obtain ⟨id, cast, works⟩ := bind_ok works
  cases works
  exact ⟨id, castUuid_ok cast, rfl, rfl⟩

theorem insertPaymentApplication_ok {note : Option String}
    (works : exec tenant (.insertPaymentApplication id tenantId storeId ref amount note) db =
      .ok (done, db')) :
    ∃ p : PaymentApplication, Uuid.ofText ref = some p.receivableId ∧
      Money.ofText "payment_application_amount_positive" amount = .ok p.appliedAmount ∧
      0 < p.appliedAmount.units ∧ db' = { db with paymentApplications := db.paymentApplications ++ [p] } := by
  obtain ⟨receivableId, castRef, works⟩ := bind_ok works
  obtain ⟨amount, castAmount, works⟩ := bind_ok works
  obtain ⟨_, positive, works⟩ := bind_ok works
  obtain ⟨_, _, _, works⟩ := bind_ok₃ works
  cases works
  exact ⟨_, castUuid_ok castRef, orThrow_ok castAmount, of_decide_eq_true (require_ok positive), rfl⟩

theorem updateReceivable_ok {version : Nat} {row : Option DbRow}
    (works : exec tenant (.updateReceivable ref balance state version) db = .ok (row, db')) :
    ∃ id money,
      Uuid.ofText ref = some id ∧ Money.ofText "receivable_balance_non_negative" balance = .ok money ∧
      ∀ r, db.receivables id = some r → r.tenantId = tenant → r.version = version →
      row.isSome ∧
      db' =
      db.setReceivable id
      { r with outstandingBalance := money, state := state, version := r.version + 1 } := by
  obtain ⟨id, castRef, works⟩ := bind_ok works
  obtain ⟨money, castAmount, works⟩ := bind_ok works
  refine ⟨id, money, castUuid_ok castRef, orThrow_ok castAmount, fun r here own current => ?_⟩
  obtain ⟨rfl, rfl⟩ := Db.updateReceivableAt_ok works here own current
  exact ⟨rfl, rfl⟩

theorem mapM_castUuid_ok {texts : List String} {ids : List Uuid} (works : texts.mapM castUuid = .ok ids) :
    texts.map Uuid.ofText = ids.map some := by
  induction texts generalizing ids with
  | nil =>
    cases works
    rfl
  | cons text rest ih =>
    rw [mapM_cons] at works
    obtain ⟨id, cast, works⟩ := bind_ok works
    obtain ⟨ids', later, works⟩ := bind_ok works
    cases works
    rw [map_cons, map_cons, castUuid_ok cast, ih later]

theorem lockReceivables_ok {rows : List FoundRow}
    (works : exec tenant (.lockReceivables refs) db = .ok (rows, db')) :
    ∃ ids, refs.mapM castUuid = .ok ids ∧ db' = db ∧
      rows =
      ids.dedup.filterMap fun id => (visible Receivable.tenantId tenant (db.receivables id)).map
      fun r => ⟨id, r.state, r.storeId, r.payerId⟩ := by
  obtain ⟨ids, cast, works⟩ := bind_ok works
  cases works
  exact ⟨ids, cast, rfl, rfl⟩

theorem insertClaim_ok
    (works : exec tenant (.insertClaim id tenantId storeId payerRef) db = .ok (done, db')) :
    ∃ payerId, db.claims id = none ∧ tenantId = tenant ∧
      db' = db.setClaim id ⟨tenantId, storeId, payerId, .submitted, 0⟩ := by
  obtain ⟨payerId, -, works⟩ := bind_ok works
  obtain ⟨_, own, works⟩ := bind_ok works
  obtain ⟨_, free, works⟩ := bind_ok works
  obtain ⟨_, -, works⟩ := bind_ok works
  cases works
  exact ⟨payerId, isNone_iff_eq_none.1 (require_ok free), of_decide_eq_true (require_ok own), rfl⟩

theorem insertClaimReceivable_ok {claimId : Uuid}
    (works : exec tenant (.insertClaimReceivable id tenantId storeId claimId ref) db = .ok (done, db')) :
    ∃ receivableId, Uuid.ofText ref = some receivableId ∧ (∀ line ∈ db.claimReceivables,
        ¬ (line.claimId = claimId ∧ line.receivableId = receivableId)) ∧ db' = { db with claimReceivables :=
        db.claimReceivables ++ [⟨id, tenantId, storeId, claimId, receivableId⟩] } := by
  obtain ⟨receivableId, cast, works⟩ := bind_ok works
  obtain ⟨_, _, works⟩ := bind_ok₂ works
  obtain ⟨_, free, works⟩ := bind_ok works
  obtain ⟨_, _, works⟩ := bind_ok₂ works
  cases works
  refine ⟨receivableId, castUuid_ok cast, fun line mem same => ?_, rfl⟩
  have free := all_eq_true.1 (require_ok free) line mem
  simp [same.1, same.2] at free

theorem claimReceivables_ok (works : exec tenant (.claimReceivables refs) db = .ok (done, db')) :
    ∃ ids, refs.mapM castUuid = .ok ids ∧
      db.updateReceivables tenant (fun r => { r with state := .claimed }) ids.dedup = .ok db' := by
  obtain ⟨ids, cast, works⟩ := bind_ok works
  obtain ⟨after, updated, works⟩ := bind_ok works
  cases works
  exact ⟨ids, cast, updated⟩

theorem lockClaim_ok {row : Option (ClaimStatus × Uuid)}
    (works : exec tenant (.lockClaim ref) db = .ok (row, db')) :
    ∃ id, Uuid.ofText ref = some id ∧ db' = db ∧
      row = (visible Claim.tenantId tenant (db.claims id)).map fun c => (c.status, c.storeId) := by
  obtain ⟨id, cast, works⟩ := bind_ok works
  cases works
  exact ⟨id, castUuid_ok cast, rfl, rfl⟩

theorem lockClaimLines_ok {rows : List LineRow}
    (works : exec tenant (.lockClaimLines ref) db = .ok (rows, db')) :
    ∃ claimId, Uuid.ofText ref = some claimId ∧ db' = db ∧
      rows =
      (db.claimLines tenant claimId).map fun line => ⟨line.1, line.2.state,
       line.2.outstandingBalance.text⟩ := by
  obtain ⟨claimId, cast, works⟩ := bind_ok works
  cases works
  exact ⟨claimId, castUuid_ok cast, rfl, rfl⟩

theorem insertRemittance_ok {remittanceRef : Option String}
    (works : exec tenant (.insertRemittance id tenantId storeId ref amount remittanceRef) db =
      .ok (done, db')) : ∃ r, db' = { db with remittances := db.remittances ++ [r] } := by
  obtain ⟨claimId, -, works⟩ := bind_ok works
  obtain ⟨amount, -, works⟩ := bind_ok works
  obtain ⟨_, _, _, works⟩ := bind_ok₃ works
  cases works
  exact ⟨_, rfl⟩

theorem insertReconciliationResult_ok {claimed remitted variance : String} {outcome : ReconcileOutcome}
    (works :
      exec tenant (.insertReconciliationResult id tenantId storeId ref claimed remitted variance outcome) db =
      .ok (done, db')) :
    ∃ r, Numeric.ofText variance = .ok r.variance ∧
      db' = { db with reconciliationResults := db.reconciliationResults ++ [r] } := by
  obtain ⟨claimId, -, works⟩ := bind_ok works
  obtain ⟨claimed, -, works⟩ := bind_ok works
  obtain ⟨remitted, -, works⟩ := bind_ok works
  obtain ⟨variance, cast, works⟩ := bind_ok works
  obtain ⟨_, _, _, works⟩ := bind_ok₃ works
  cases works
  exact ⟨_, orThrow_ok cast, rfl⟩

theorem reconcileClaim_ok (works : exec tenant (.reconcileClaim ref) db = .ok (done, db')) :
    ∃ id, Uuid.ofText ref = some id ∧
      ∀ c, db.claims id = some c → c.tenantId = tenant →
      db' = db.setClaim id { c with status := .reconciled, version := c.version + 1 } := by
  obtain ⟨id, cast, works⟩ := bind_ok works
  refine ⟨id, castUuid_ok cast, fun c here own => ?_⟩
  rw [visible_some.2 ⟨here, own⟩] at works
  obtain ⟨version, next, works⟩ := bind_ok works
  obtain ⟨-, rfl⟩ := nextVersion_ok next
  cases works
  rfl

end Statements

end DataPulse.Settlement
