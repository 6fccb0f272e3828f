/-
**The audit events of the terminals.**

`PosAuditEventsService` takes batches of events that terminals recorded offline. Each event is checked, its
operator is looked up, and one transaction writes it and, where it opens a shift, the shift. Batches of any
devices run side by side; the directory of users, devices and sign-ins changes under them.
-/

import DataPulse.Auth.Identities
import DataPulse.Lib.Machine
import DataPulse.Platform.Json

namespace DataPulse.PosAudit

open Platform Lib
open Auth (AuthToken Device Digest Identities)

/-! ### The wire -/

/-- `z.string().uuid()`: the text, and the identifier the server reads in it. -/
structure UuidText where
  text : String
  id : Uuid
  reads : Uuid.ofText text = some id

def UuidText.of (id : Uuid) : UuidText := ⟨id.text, id, Uuid.ofText_text id⟩

/-- `AuditEventItemInput`, with its time as the server reads it. -/
structure AuditEventItem where
  eventId : UuidText
  tenantId : UuidText
  branchId : UuidText
  originatingTerminalId : UuidText
  actingOperatorId : String
  actionCategory : String
  createdAt : Int
  payload : List (String × Json)

def POS_AUDIT_ACTION_CATEGORIES : List String :=
  ["shift.open", "shift.close", "shift.forced_close", "operator.session.takeover", "cashier.pin.reset",
    "cashier.pin.unlock"]

/-- The actions that no other writer of the audit log uses. -/
def shiftActions : List String := ["shift.open", "shift.close", "shift.forced_close"]

def FORBIDDEN_PAYLOAD_KEYS : List String :=
  ["pin", "pin_hash", "password", "password_hash", "clerk_jwt", "clerk_session_token", "device_token",
    "device_token_attestation", "token", "secret", "credential"]

/-- `hasForbiddenField(value)`, with the levels it still goes down. -/
def hasForbiddenField : Nat → Json → Bool
  | 0, _ => false
  | levels + 1, .array items => items.any (hasForbiddenField levels)
  | levels + 1, .object fields =>
    fields.any fun field => decide (field.1 ∈ FORBIDDEN_PAYLOAD_KEYS) || hasForbiddenField levels field.2
  | _ + 1, _ => false

/-- `payload["shift_id"]`, where it is a text that `UUID_RE` matches. -/
def shiftIdOf (payload : List (String × Json)) : Option Uuid :=
  match payload.lookup "shift_id" with
  | some (.string text) => Uuid.ofText text
  | _ => none

/-- `RejectedEvent["category"]`. -/
inductive RejectionCategory where
  | invalidInput
  | tenantMismatch
  | schemaViolation
  deriving DecidableEq

structure RejectedEvent where
  eventId : String
  category : RejectionCategory

/-! ### The tables -/

/-- The directory: who operators and devices are, and the operator sessions. -/
structure Registry extends Identities where
  tokens : List AuthToken
  /-- `devices.label`. -/
  label : Uuid → String
  /-- `stores.tenant_id`. -/
  storeTenant : Uuid → Option Uuid

/-- `audit_events`. -/
structure AuditRow where
  id : Uuid
  occurredAt : Int
  actorUserId : Option Uuid
  tenantId : Option Uuid
  storeId : Option Uuid
  action : String
  metadata : List (String × Json)
  requestId : Option Uuid

/-- `shifts.lifecycle_state`. -/
inductive LifecycleState where
  | opened
  | closed
  | closedForced
  deriving DecidableEq

/-- `shifts`. -/
structure ShiftRow where
  shiftId : Uuid
  tenantId : Uuid
  storeId : Uuid
  openingCashierUserId : Uuid
  openingDeviceId : Uuid
  openedAt : Int
  lifecycleState : LifecycleState

structure Tables where
  events : List AuditRow
  shifts : List ShiftRow

/-! ### One event -/

/-- Where a database call fails once: at the lookup of the operator, in the transaction, or after its
`COMMIT`, before the acknowledgement arrives. -/
inductive Fault where
  | lookup
  | transaction
  | acknowledgement
  deriving DecidableEq

inductive Verdict where
  | accepted
  | duplicate
  | rejected (category : RejectionCategory)
  deriving DecidableEq

/-- What the service is given: the hash of an attestation, and which times and payloads `timestamptz` and
`jsonb` hold. -/
structure Server where
  hashToken : String → Digest
  representable : Int → List (String × Json) → Bool

section Processing

variable (server : Server) (registry : Registry) (device : Device) (event : AuditEventItem)

def resolveActorUserId (clerkSubject : String) (tenantId : Uuid) : Option Uuid :=
  ((registry.users.filter fun user => user.clerkUserId = some clerkSubject && user.deletedAt.isNone &&
      registry.memberships.any fun membership => membership.userId = user.id && membership.tenantId = tenantId &&
        membership.deletedAt.isNone && membership.revokedAt.isNone).map Auth.User.id).head?

/-- The row the first `INSERT` writes. -/
def auditRow (actorUserId : Uuid) (requestId : Option Uuid) : AuditRow where
  id := event.eventId.id
  occurredAt := event.createdAt
  actorUserId := some actorUserId
  tenantId := some event.tenantId.id
  storeId := some event.branchId.id
  action := event.actionCategory
  metadata := event.payload
  requestId := requestId

/-- The row the second `INSERT` writes. -/
def shiftRow (actorUserId shiftId : Uuid) : ShiftRow where
  shiftId := shiftId
  tenantId := event.tenantId.id
  storeId := event.branchId.id
  openingCashierUserId := actorUserId
  openingDeviceId := event.originatingTerminalId.id
  openedAt := event.createdAt
  lifecycleState := .opened

def opens : Option Uuid :=
  if event.actionCategory = "shift.open" then shiftIdOf event.payload else none

/-- `INSERT INTO shifts … ON CONFLICT (shift_id) DO NOTHING`; the terminal is a row of `devices`. -/
def insertShift (actorUserId shiftId : Uuid) (shifts : List ShiftRow) : Option (List ShiftRow) :=
  if shifts.any fun row => row.shiftId = shiftId then some shifts
  else if registry.devices.any fun row => row.id = event.originatingTerminalId.id then
    some (shiftRow event actorUserId shiftId :: shifts)
  else none

/-- The transaction: the tables after it and whether the event is new, unless the server refuses it. -/
def insertEvent (actorUserId : Uuid) (requestId : Option Uuid) (tables : Tables) : Option (Tables × Bool) :=
  if server.representable event.createdAt event.payload then
    if tables.events.any fun row => row.id = event.eventId.id then some (tables, false)
    else
      let events := auditRow event actorUserId requestId :: tables.events
      match opens event with
      | none => some (⟨events, tables.shifts⟩, true)
      | some shiftId =>
        (insertShift registry event actorUserId shiftId tables.shifts).map fun shifts => (⟨events, shifts⟩, true)
  else none

/-- `processEvent(event, …)`: the tables after it, and the verdict unless it throws. -/
def processEvent (requestId : Option Uuid) (fault : Option Fault) (tables : Tables) : Tables × Option Verdict :=
  if event.actionCategory ∉ POS_AUDIT_ACTION_CATEGORIES then (tables, some (.rejected .schemaViolation))
  else if hasForbiddenField 21 (.object event.payload) then (tables, some (.rejected .schemaViolation))
  else if event.actionCategory = "shift.open" ∧ shiftIdOf event.payload = none then
    (tables, some (.rejected .schemaViolation))
  else if event.tenantId.text ≠ device.tenantId.text ∨ event.branchId.text ≠ device.storeId.text then
    (tables, some (.rejected .tenantMismatch))
  else if fault = some .lookup then (tables, none)
  else match resolveActorUserId registry event.actingOperatorId device.tenantId with
    | none => (tables, some (.rejected .invalidInput))
    | some actorUserId =>
      match insertEvent server registry event actorUserId requestId tables with
      | none => (tables, none)
      | some (written, fresh) =>
        match fault with
        | some .acknowledgement => (written, none)
        | some _ => (tables, none)
        | none => (written, some (if fresh then .accepted else .duplicate))

/-- The event passes what is checked of it before the transaction. -/
structure Screened : Prop where
  category : event.actionCategory ∈ POS_AUDIT_ACTION_CATEGORIES
  payload : hasForbiddenField 21 (.object event.payload) = false
  shift : event.actionCategory = "shift.open" → shiftIdOf event.payload ≠ none
  tenant : event.tenantId.id = device.tenantId
  branch : event.branchId.id = device.storeId
  canonical : event.tenantId.text = device.tenantId.text ∧ event.branchId.text = device.storeId.text
  actor : resolveActorUserId registry event.actingOperatorId device.tenantId ≠ none

/-- **An event that is valid in itself**: it passes the checks, the server can hold it, and a shift it opens
is opened at a device. -/
structure Valid : Prop extends Screened registry device event where
  held : server.representable event.createdAt event.payload = true
  terminal : event.actionCategory = "shift.open" → ∃ row ∈ registry.devices, row.id =
    event.originatingTerminalId.id

variable {server registry device event}

/-- **What the transaction wrote**: nothing, of an event whose identifier is taken; or the event, and the
shift it opens unless a shift of that identifier is there. -/
theorem insertEvent_ok {actorUserId : Uuid} {requestId : Option Uuid} {tables written : Tables} {fresh : Bool}
    (added : insertEvent server registry event actorUserId requestId tables = some (written, fresh)) :
    (fresh = false ∧ written = tables ∧ ∃ row ∈ tables.events, row.id = event.eventId.id) ∨
      (fresh = true ∧ (∀ row ∈ tables.events, row.id ≠ event.eventId.id) ∧
        written.events = auditRow event actorUserId requestId :: tables.events ∧
        (opens event = none ∧ written.shifts = tables.shifts ∨
          ∃ shiftId, opens event = some shiftId ∧
          ((∃ row ∈ tables.shifts, row.shiftId = shiftId) ∧ written.shifts = tables.shifts ∨
            (∃ row ∈ registry.devices, row.id = event.originatingTerminalId.id) ∧
            written.shifts = shiftRow event actorUserId shiftId :: tables.shifts))) := by
  unfold insertEvent at added
  split at added
  swap
  · cases added
  split at added
  · rename_i taken
    cases added
    exact .inl ⟨rfl, rfl, by simpa using taken⟩
  · rename_i free
    have free : ∀ row ∈ tables.events, row.id ≠ event.eventId.id := by simpa using free
    cases opened : opens event with
    | none =>
      simp only [opened] at added
      cases added
      exact .inr ⟨rfl, free, rfl, .inl ⟨rfl, rfl⟩⟩
    | some shiftId =>
      simp only [opened, map_eq_some_iff] at added
      obtain ⟨shifts, stored, same⟩ := added
      cases same
      refine .inr ⟨rfl, free, rfl, .inr ⟨shiftId, rfl, ?_⟩⟩
      unfold insertShift at stored
      split at stored
      · rename_i known
        cases stored
        exact .inl ⟨by simpa using known, rfl⟩
      · split at stored
        · rename_i terminal
          cases stored
          exact .inr ⟨by simpa using terminal, rfl⟩
        · cases stored

theorem insertEvent_valid (valid : Valid server registry device event) (actorUserId : Uuid)
    (requestId : Option Uuid) (tables : Tables) :
    insertEvent server registry event actorUserId requestId tables ≠ none := by
  unfold insertEvent
  rw [if_pos valid.held]
  split
  · simp
  · cases opened : opens event with
    | none => simp
    | some shiftId =>
      have opening : event.actionCategory = "shift.open" := by
        by_contra other
        simp [opens, other] at opened
      obtain ⟨row, known, same⟩ := valid.terminal opening
      have terminal : (registry.devices.any fun row => row.id = event.originatingTerminalId.id) = true :=
        List.any_eq_true.2 ⟨row, known, by simpa using same⟩
      rw [Ne, Option.map_eq_none_iff, insertShift, if_pos terminal]
      split <;> simp

theorem UuidText.id_eq {text : UuidText} {id : Uuid} (same : text.text = id.text) : text.id = id := by
  have reads := text.reads
  rw [same, Uuid.ofText_text] at reads
  exact (Option.some.inj reads).symm

/-- **What processing an event can do**: it rejects what it does not let pass, throws and writes nothing, or
runs the transaction for the operator it looked up. -/
theorem processEvent_cases (requestId : Option Uuid) (fault : Option Fault) (tables : Tables) :
    (∃ category, processEvent server registry device event requestId fault tables =
        (tables, some (.rejected category)) ∧ ¬ Screened registry device event) ∨
      (processEvent server registry device event requestId fault tables = (tables, none) ∧
          (Valid server registry device event → fault ≠ none)) ∨
      (Screened registry device event ∧
        ∃ actorUserId,
        resolveActorUserId registry event.actingOperatorId event.tenantId.id = some actorUserId ∧
        ∃ written fresh,
        insertEvent server registry event actorUserId requestId tables = some (written, fresh) ∧
        (fault = some .acknowledgement ∧
          processEvent server registry device event requestId fault tables = (written, none) ∨
          fault = none ∧
          processEvent server registry device event requestId fault tables =
          (written, some (if fresh then .accepted else .duplicate)))) := by
  unfold processEvent
  by_cases category : event.actionCategory ∈ POS_AUDIT_ACTION_CATEGORIES
  swap
  · exact .inl ⟨_, if_pos category, fun screened => category screened.category⟩
  rw [if_neg (not_not_intro category)]
  by_cases payload : hasForbiddenField 21 (.object event.payload) = true
  · exact .inl ⟨_, if_pos payload, fun screened => by simp [screened.payload] at payload⟩
  rw [if_neg payload]
  by_cases shift : event.actionCategory = "shift.open" ∧ shiftIdOf event.payload = none
  · exact .inl ⟨_, if_pos shift, fun screened => screened.shift shift.1 shift.2⟩
  rw [if_neg shift]
  by_cases scope : event.tenantId.text ≠ device.tenantId.text ∨ event.branchId.text ≠ device.storeId.text
  · refine .inl ⟨_, if_pos scope, fun screened => ?_⟩
    rcases scope with astray | astray
    · exact astray screened.canonical.1
    · exact astray screened.canonical.2
  rw [if_neg scope]
  push Not at scope
  have tenant := UuidText.id_eq scope.1
  by_cases lookup : fault = some .lookup
  · exact .inr (.inl ⟨if_pos lookup, fun _ => by simp [lookup]⟩)
  rw [if_neg lookup, tenant]
  cases resolved : resolveActorUserId registry event.actingOperatorId device.tenantId with
  | none => exact .inl ⟨_, rfl, fun screened => screened.actor resolved⟩
  | some actorUserId =>
    have screened : Screened registry device event :=
      ⟨category, by simpa using payload, fun opens missing => shift ⟨opens, missing⟩, tenant,
        UuidText.id_eq scope.2, scope, by simp [resolved]⟩
    dsimp only
    cases added : insertEvent server registry event actorUserId requestId tables with
    | none =>
      exact .inr (.inl ⟨rfl, fun valid => absurd added (insertEvent_valid valid _ _ _)⟩)
    | some outcome =>
      obtain ⟨written, fresh⟩ := outcome
      cases fault with
      | none => exact .inr (.inr ⟨screened, actorUserId, rfl, written, fresh, added, .inr ⟨rfl, rfl⟩⟩)
      | some fault =>
        cases fault with
        | lookup => exact absurd rfl lookup
        | transaction => exact .inr (.inl ⟨rfl, fun _ => by simp⟩)
        | acknowledgement =>
          exact .inr (.inr ⟨screened, actorUserId, rfl, written, fresh, added, .inl ⟨rfl, rfl⟩⟩)

end Processing

/-! ### Batches -/

/-- An occurrence of an event, the directory it was processed under, and what became of it. -/
structure Settled where
  event : AuditEventItem
  registry : Registry
  verdict : Verdict

/-- `syncBatch(body, requestId)` under way, for a device it resolved. `settled` is a history: the code keeps
only the three lists. -/
structure Call where
  device : Device
  requestId : Option Uuid
  batch : List AuditEventItem
  pending : List AuditEventItem
  accepted : List String
  duplicates : List String
  rejected : List RejectedEvent
  settled : List Settled

def Call.push (call : Call) (rest : List AuditEventItem) (settled : Settled) : Call :=
  let text := settled.event.eventId.text
  let next := { call with pending := rest, settled := call.settled ++ [settled] }
  match settled.verdict with
  | .accepted => { next with accepted := call.accepted ++ [text] }
  | .duplicate => { next with duplicates := call.duplicates ++ [text] }
  | .rejected category => { next with rejected := call.rejected ++ [⟨text, category⟩] }

@[simp] theorem Call.push_device (call : Call) (rest : List AuditEventItem) (settled : Settled) :
    (call.push rest settled).device = call.device := by
  unfold push
  cases settled.verdict <;> rfl

@[simp] theorem Call.push_settled (call : Call) (rest : List AuditEventItem) (settled : Settled) :
    (call.push rest settled).settled = call.settled ++ [settled] := by
  unfold push
  cases settled.verdict <;> rfl

/-- The directory, the tables and the batches. -/
structure State where
  registry : Registry
  tables : Tables
  calls : List Call

/-- What happens: a terminal sends a batch, the loop of a batch takes its next event, the directory changes,
or another writer of the audit log adds a row. -/
inductive Event where
  | sync (attestation : String) (events : List AuditEventItem) (requestId : Option Uuid)
  | process (call : Nat) (fault : Option Fault)
  | registry (next : Registry)
  | write (row : AuditRow)

def Registry.extends (next registry : Registry) : Bool :=
  (registry.users.all fun user => next.users.any fun other => other.id = user.id) &&
    registry.devices.all fun device => next.devices.any fun other => other.id = device.id

namespace State

variable (server : Server) (state : State)

/-- The events of a batch are taken in their order; one that throws is rejected and the loop goes on. -/
def process (call : Nat) (fault : Option Fault) : Option State :=
  match state.calls[call]? with
  | none => none
  | some running =>
    match running.pending with
    | [] => none
    | event :: rest =>
      let (tables, verdict) := processEvent server state.registry running.device event running.requestId fault
        state.tables
      some { state with
        tables := tables
        calls := state.calls.set call
          (running.push rest ⟨event, state.registry, verdict.getD (.rejected .invalidInput)⟩) }

def step : Event → Option State
  | .sync attestation events requestId =>
    match state.registry.findActiveByHash (server.hashToken attestation) with
    | none => some state
    | some device => some { state with
        calls := state.calls ++ [⟨device, requestId, events, events, [], [], [], []⟩] }
  | .process call fault => state.process server call fault
  | .registry next => if next.extends state.registry then some { state with registry := next } else none
  | .write row =>
    if row.action ∉ shiftActions ∧ ¬ (state.tables.events.any fun other => other.id = row.id) then
      some { state with tables := { state.tables with events := row :: state.tables.events } }
    else none

end State

/-- The machine: empty tables, and the directory as it then is. -/
def ingestion (server : Server) (registry : Registry) : Machine State Event :=
  ⟨⟨registry, ⟨[], []⟩, []⟩, fun state event => state.step server event⟩

/-- **What processing an event does to a state**: one of the cases of `processEvent_cases`, and the verdict
on its call. -/
theorem State.process_ok {server : Server} {state next : State} {call : Nat} {fault : Option Fault}
    (step : state.process server call fault = some next) :
    ∃ running event rest, state.calls[call]? = some running ∧ running.pending = event :: rest ∧
      ∃ tables verdict, processEvent server state.registry running.device event running.requestId fault
          state.tables =
          (tables, verdict) ∧ next = { state with
          tables := tables
          calls := state.calls.set call
            (running.push rest ⟨event, state.registry, verdict.getD (.rejected .invalidInput)⟩) } := by
  unfold process at step
  split at step
  · cases step
  · rename_i running found
    split at step
    · cases step
    · rename_i event rest pending
      cases step
      exact ⟨running, event, rest, found, pending, _, _, rfl, rfl⟩

end DataPulse.PosAudit
