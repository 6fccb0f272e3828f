/-
**Capturing and reconciling unknown items.**

`captureItem`, `dismissUnknownItem` and `bulkDismissUnknownItems` of `UnknownItemsService`, and the three
operations of `ReconciliationService`, as client programs over the statements of `Ledger`; and
`unknownsServer`, all of them on one server together with whoever else changes the catalogue (`change`).

A program is what a method does inside its transaction; `Operation.report` is what the method makes of
its end. A bulk call runs one dismissal after the other, each in a transaction of its own: `BulkCall`
says which clients are those of one call, and what it answers.

The guards and the request schemas in front of the routes are not part of the model: the identifiers of a
call were parsed, its tenant, store and user are those of its principal. Metrics and audit jobs, which are
sent after the transaction, are left out.
-/

import DataPulse.Lib.Locks
import DataPulse.Unknowns.Ledger

namespace DataPulse.Unknowns

open Lib Lib.Prog Platform

/-! ### Errors -/

/-- What a call throws: an error of the server, or one of its own. -/
inductive Thrown where
  | pg (error : PgError)
  | error (message : String)
  | aliasConflictSentinel
  | conflict (code message : String)
  | notFound
  deriving DecidableEq

abbrev Service := Prog Stmt Reply Uuid Thrown

def clientQuery (statement : Stmt) : Service (Reply statement) := query statement

/-! ### Capture -/

/-- `CaptureItemInput`; nothing reads the actor. -/
structure CaptureItemInput where
  tenantId : Uuid
  storeId : Uuid
  identifier : Identifier
  saleContext : Option String
  correlationId : Uuid
  deriving DecidableEq

/-- `CaptureItemResult`, and whether the item was inserted, which decides on a metric. -/
inductive CaptureItemResult where
  | resolved (productId aliasId : Uuid)
  | unknown (row : UnknownItem) (inserted : Bool)
  deriving DecidableEq

def captureItem (input : CaptureItemInput) : Service CaptureItemResult := do
  let id ← newId
  let hit ← clientQuery (.resolveAlias input.tenantId input.identifier.identifierType
    input.identifier.value input.storeId)
  match (hit : Option Alias) with
  | some hit => return .resolved hit.productId hit.id
  | none => do
      let existing ← clientQuery (.findPending input.tenantId input.storeId input.identifier)
      match (existing : Option UnknownItem) with
      | some existing => return .unknown existing false
      | none => do
          let inserted ← clientQuery (.insertItem ⟨id, input.tenantId, input.storeId,
            input.identifier, input.saleContext, input.correlationId⟩)
          match (inserted : Option UnknownItem) with
          | none => .fail (.error "unknown_items: insert produced no row")
          | some row => return .unknown row true

/-! ### Link -/

/-- The input of `linkUnknownItem`. -/
structure LinkInput where
  tenantId : Uuid
  storeId : Option Uuid
  unknownItemId : Uuid
  productId : Uuid
  actorUserId : Uuid
  deriving DecidableEq

inductive LinkResult where
  | ok (row : UnknownItem)
  | notFound
  | alreadyReconciled
  | aliasConflict
  | targetUnavailable
  deriving DecidableEq

def Thrown.isUnique : Thrown → Bool
  | pg fault => fault.code = .unique
  | _ => false

/-- `INSERT INTO product_aliases` for the item's identifier and store: whether it went in, unless the
handler throws. -/
def insertAliasFor (tenantId productId actorUserId : Uuid) (item : UnknownItem)
    (onConflict : Service Bool) : Service Bool := do
  let id ← newId
  let inserted : Service Bool :=
    (clientQuery (.insertAlias ⟨id, tenantId, productId, item.identifier, some item.storeId,
      actorUserId⟩)).bind fun _ => .done true
  inserted.rescue fun error => if error.isUnique then onConflict else .fail error

def linkUnknownItem (input : LinkInput) : Service LinkResult := do
  let existing ← clientQuery (.lockItem input.unknownItemId)
  match (existing : Option UnknownItem) with
  | none => return .notFound
  | some existing =>
    if existing.resolutionStatus ≠ .pending then return .alreadyReconciled
    else do
      let product ← clientQuery (.findProduct input.productId input.tenantId)
      match (product : Option Product) with
      | none => return .notFound
      | some product =>
        if product.retiredAt.isSome then return .targetUnavailable
        else do
          let inserted ← insertAliasFor input.tenantId input.productId input.actorUserId existing
            (.done false)
          if !inserted then return .aliasConflict
          else do
            let updated ← clientQuery (.resolveItem input.unknownItemId .linked
              input.actorUserId input.productId)
            match (updated : Option UnknownItem) with
            | none => .fail (.error ("reconciliation.linkUnknownItem invariant: unknown_items " ++
                "UPDATE returned 0 rows after FOR UPDATE lock + pending check"))
            | some row => return .ok row

/-! ### Create -/

/-- The input of `createProductFromUnknownItem`. -/
structure CreateInput where
  tenantId : Uuid
  storeId : Option Uuid
  unknownItemId : Uuid
  actorUserId : Uuid
  name : String
  taxCategory : String
  categoryId : Option Uuid
  deriving DecidableEq

inductive CreateResult where
  | ok (row : UnknownItem) (productId : Uuid)
  | notFound
  | alreadyReconciled
  | aliasConflict
  deriving DecidableEq

/-- `createProductFromUnknownItem(input)`, up to the end of its transaction. -/
def createProductFromUnknownItem (input : CreateInput) : Service CreateResult := do
  let existing ← clientQuery (.lockItem input.unknownItemId)
  match (existing : Option UnknownItem) with
  | none => return .notFound
  | some existing =>
    if existing.resolutionStatus ≠ .pending then return .alreadyReconciled
    else do
      let productId ← newId
      clientQuery (.insertProduct ⟨productId, input.tenantId, input.name, input.taxCategory,
        input.categoryId, input.actorUserId⟩)
      let _inserted ← insertAliasFor input.tenantId productId input.actorUserId existing
        (.fail .aliasConflictSentinel)
      let updated ← clientQuery (.resolveItem input.unknownItemId .created input.actorUserId
        productId)
      match (updated : Option UnknownItem) with
      | none => .fail (.error ("reconciliation.createProductFromUnknownItem invariant: " ++
          "unknown_items UPDATE returned 0 rows after FOR UPDATE lock + pending check"))
      | some row => return .ok row productId

/-! ### Dismiss -/

/-- The input of `dismissUnknownItem`. -/
structure DismissInput where
  id : Uuid
  tenantId : Uuid
  storeId : Option Uuid
  actorUserId : Uuid
  deriving DecidableEq

inductive DismissResult where
  | ok (row : UnknownItem)
  | alreadyReconciled
  | notFound
  deriving DecidableEq

/-- `dismissUnknownItem(input)`, up to the end of its transaction. -/
def dismissUnknownItem (input : DismissInput) : Service DismissResult := do
  let updated ← clientQuery (.dismissItem input.id input.actorUserId)
  match (updated : Option UnknownItem) with
  | some row => return .ok row
  | none => do
      let status ← clientQuery (.itemStatus input.id)
      if Option.isSome status then return .alreadyReconciled else return .notFound

/-! ### Reopen -/

/-- The input of `reopenUnknownItem`; nothing in the transaction reads the actor. -/
structure ReopenInput where
  tenantId : Uuid
  storeId : Option Uuid
  unknownItemId : Uuid
  isTenantWide : Bool
  correlationId : Uuid
  deriving DecidableEq

inductive ReopenResult where
  | ok (row : UnknownItem) (createdFresh : Bool)
  | notFound
  | forbidden
  | alreadyReconciled (priorState : ResolutionStatus)
  deriving DecidableEq

def reopenDismissed (freshRowId correlationId : Uuid) (target : UnknownItem) :
    Service ReopenResult := do
  let sibling ← clientQuery (.findPending target.tenantId target.storeId target.identifier)
  match (sibling : Option UnknownItem) with
  | some sibling => return .ok sibling false
  | none => do
      let inserted ← clientQuery (.insertItem ⟨freshRowId, target.tenantId, target.storeId,
        target.identifier, none, correlationId⟩)
      match (inserted : Option UnknownItem) with
      | none => .fail (.error "unknown_items: reopen insert produced no row")
      | some row => return .ok row true

def reopenUnknownItem (input : ReopenInput) : Service ReopenResult := do
  let freshRowId ← newId
  let target ← clientQuery (.lockItem input.unknownItemId)
  match (target : Option UnknownItem) with
  | none => return .notFound
  | some target =>
    if !input.isTenantWide then return .forbidden
    else match target.resolutionStatus with
      | .resolved => return .alreadyReconciled .resolved
      | .pending => return .ok target false
      | .dismissed => reopenDismissed freshRowId input.correlationId target

/-! ### All of them on one server -/

inductive Operation where
  | change (tenantId : Uuid) (change : CatalogChange)
  | captureItem (input : CaptureItemInput)
  | link (input : LinkInput)
  | create (input : CreateInput)
  | dismiss (input : DismissInput)
  | reopen (input : ReopenInput)
  | findById (input : DismissInput)
  deriving DecidableEq

inductive Body where
  | done
  | captured (result : CaptureItemResult)
  | linked (result : LinkResult)
  | created (result : CreateResult)
  | dismissed (result : DismissResult)
  | reopened (result : ReopenResult)
  | status (status : Option ResolutionStatus)
  deriving DecidableEq

namespace Operation

def tenant : Operation → Uuid
  | change tenantId _ => tenantId
  | captureItem input => input.tenantId
  | link input => input.tenantId
  | create input => input.tenantId
  | dismiss input => input.tenantId
  | reopen input => input.tenantId
  | findById input => input.tenantId

/-- The store it sets, unless it sets `*`. -/
def store : Operation → Option Uuid
  | change .. => none
  | captureItem input => some input.storeId
  | link input => input.storeId
  | create input => input.storeId
  | dismiss input => input.storeId
  | reopen input => input.storeId
  | findById input => input.storeId

def program : Operation → Service Body
  | change _ edit => (clientQuery (.change edit)).bind fun _ => .done .done
  | captureItem input => (Unknowns.captureItem input).bind fun result => .done (.captured result)
  | link input => (linkUnknownItem input).bind fun result => .done (.linked result)
  | create input => (createProductFromUnknownItem input).bind fun result => .done (.created result)
  | dismiss input => (dismissUnknownItem input).bind fun result => .done (.dismissed result)
  | reopen input => (reopenUnknownItem input).bind fun result => .done (.reopened result)
  | findById input => (clientQuery (.itemStatus input.id)).bind fun status => .done (.status status)

end Operation

/-- What a method makes of the end of its transaction: the sentinel of a creation is an answer, and a
dismissal throws unless it dismissed. -/
def report : Except Thrown Body → Except Thrown Body
  | .error .aliasConflictSentinel => .ok (.created .aliasConflict)
  | .ok (.dismissed .alreadyReconciled) => .error (.conflict "already_reconciled"
      ("The unknown item is already resolved or dismissed; lifecycle transitions are monotonic per " ++
        "FR-004."))
  | .ok (.dismissed .notFound) => .error .notFound
  | result => result

def Body.succeeds : Body → Bool
  | linked (.ok _) => true
  | linked _ => false
  | created (.ok ..) => true
  | created _ => false
  | reopened (.ok ..) => true
  | reopened _ => false
  | _ => true

def succeeds (result : Except Thrown Body) : Bool :=
  match report result with
  | .ok body => body.succeeds
  | .error _ => false

structure Call where
  now : Int
  operation : Operation

def Call.context (call : Call) : Context := ⟨call.operation.tenant, call.operation.store, call.now⟩

/-- **The services as clients of one server.** -/
def unknownsServer (reference : Reference) :
    System Stmt Reply Uuid Thrown PgError Write Call Body where
  program call := call.operation.program
  exec call writes statement := exec reference call.context writes statement
  thrown := .pg
  refused := .plain .failedTransaction
  clash := clash

abbrev Reachable (reference : Reference) := Interleave.Reachable (unknownsServer reference)

abbrev Config := Interleave.Config Stmt Reply Uuid Thrown PgError Write Call Body

abbrev Proc := Interleave.Proc Stmt Reply Uuid Thrown PgError Write Call Body

abbrev Log := List (Interleave.Entry Stmt Reply Uuid PgError Write)

/-! ### Bulk dismissals -/

/-- The input of `bulkDismissUnknownItems`; the correlation id is for the audit only. -/
structure BulkInput where
  tenantId : Uuid
  storeId : Option Uuid
  actorUserId : Uuid
  ids : List Uuid

def BulkInput.dismissal (input : BulkInput) (id : Uuid) : DismissInput :=
  ⟨id, input.tenantId, input.storeId, input.actorUserId⟩

inductive BulkDismissOutcome where
  | dismissed
  | alreadyReconciled (priorState : Option ResolutionStatus)
  | notFound

/-- The prior state that the read after a conflict shows; a read that throws shows none. -/
def priorState : Except Thrown Body → Option ResolutionStatus
  | .ok (.status status) => status
  | _ => none

def Ended (config : Config) (pid : Nat) (operation : Operation) (result : Except Thrown Body) : Prop :=
  ∃ proc, config.procs[pid]? = some proc ∧ proc.call.operation = operation ∧
    proc.result = some result

/-- The loop of a bulk call over the ids that are left: the clients of its dismissals, and what it
answers or throws. -/
inductive BulkCall (config : Config) (input : BulkInput) :
    List Uuid → List Nat → Except Thrown (List BulkDismissOutcome) → Prop where
  | done : BulkCall config input [] [] (.ok [])
  | dismissed {id : Uuid} {ids : List Uuid} {pid : Nat} {pids : List Nat}
      {result : Except Thrown Body} {body : Body} {outcomes : Except Thrown (List BulkDismissOutcome)}
      (ended : Ended config pid (.dismiss (input.dismissal id)) result)
      (reported : report result = .ok body) (rest : BulkCall config input ids pids outcomes) :
      BulkCall config input (id :: ids) (pid :: pids) (outcomes.map (.dismissed :: ·))
  | alreadyReconciled {id : Uuid} {ids : List Uuid} {pid reader : Nat} {pids : List Nat}
      {result read : Except Thrown Body} {code message : String}
      {outcomes : Except Thrown (List BulkDismissOutcome)}
      (ended : Ended config pid (.dismiss (input.dismissal id)) result)
      (reported : report result = .error (.conflict code message))
      (showed : Ended config reader (.findById (input.dismissal id)) read)
      (rest : BulkCall config input ids pids outcomes) :
      BulkCall config input (id :: ids) (pid :: pids)
        (outcomes.map (.alreadyReconciled (priorState read) :: ·))
  | notFound {id : Uuid} {ids : List Uuid} {pid : Nat} {pids : List Nat}
      {result : Except Thrown Body} {outcomes : Except Thrown (List BulkDismissOutcome)}
      (ended : Ended config pid (.dismiss (input.dismissal id)) result)
      (reported : report result = .error .notFound) (rest : BulkCall config input ids pids outcomes) :
      BulkCall config input (id :: ids) (pid :: pids) (outcomes.map (.notFound :: ·))
  | throws {id : Uuid} {ids : List Uuid} {pid : Nat} {result : Except Thrown Body} {error : Thrown}
      (ended : Ended config pid (.dismiss (input.dismissal id)) result)
      (reported : report result = .error error) (unexpected : error ≠ .notFound)
      (unexpected' : ∀ code message, error ≠ .conflict code message) :
      BulkCall config input (id :: ids) [pid] (.error error)

end DataPulse.Unknowns
