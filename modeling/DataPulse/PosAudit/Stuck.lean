/-
**The shifts that are stuck.**

`PosShiftsService` lists the shifts of a store that are on record as open, whose cashier has gone. The
record is written from the log of audit events, and nothing in it ever becomes closed.

* `stuck_exact`: over every run of such steps the listing is what the log says; `closed_listed`: not over
  every run.
-/

import DataPulse.PosAudit.Batches

namespace DataPulse.PosAudit

open Platform Lib
open Auth (Membership StoreAccessKind ELIGIBLE_INTERNAL_ROLES)

variable {state : State} {server : Server}
variable {shiftId : Uuid} {next : State}

/-! ### `PosShiftsService` -/

structure StuckShiftItem where
  shiftId : Uuid
  cashierDisplayName : String
  terminalLabel : String
  openedAt : Int
  durationMinutes : Int

section Service

variable (registry : Registry) (now : Int)
variable {stuckThresholdMinutes : Nat}
variable {shifts : List ShiftRow} {branchId : Uuid}

def liveSession (userId storeId : Uuid) : Bool :=
  registry.tokens.any fun token => token.scope = .posOperator && token.userId = some userId &&
    token.storeId = some storeId && token.revokedAt.isNone && now < token.expiresAt

/-- The query for stuck shifts, and the items of its rows. Times are in milliseconds. -/
def listing (tenantId branchId : Uuid) (stuckThresholdMinutes : Nat) (shifts : List ShiftRow) : List
    StuckShiftItem :=
  ((shifts.filter fun shift => shift.tenantId = tenantId && shift.storeId = branchId &&
      shift.lifecycleState = .opened && shift.openedAt < now - stuckThresholdMinutes * 60000 &&
      !liveSession registry now shift.openingCashierUserId shift.storeId).flatMap fun shift =>
    (registry.users.filter fun user => user.id = shift.openingCashierUserId).flatMap fun user =>
      (registry.devices.filter fun device => device.id = shift.openingDeviceId).flatMap fun device =>
        match user.displayName with
        | none => []
        | some name => [⟨shift.shiftId, name, registry.label device.id, shift.openedAt,
            (now - shift.openedAt) / 60000⟩]).insertionSort fun first second =>
    first.openedAt ≤ second.openedAt

/-- The active membership of the caller in the tenant of the branch, with the code of its role. -/
def callerMembership (userId branchId : Uuid) : Option (Membership × String) :=
  ((registry.memberships.filter fun membership => membership.userId = userId && membership.revokedAt.isNone &&
      membership.deletedAt.isNone && registry.storeTenant branchId = some membership.tenantId).filterMap
    fun membership => (registry.roles.find? fun role => role.id = membership.roleId).map fun role =>
      (membership, role.code)).head?

/-- `getStuck(rawJwt, branchId)`, unless the caller is refused. `verify` is `ClerkVerifier.verify`. -/
def getStuck (verify : String → Option String) (stuckThresholdMinutes : Nat) (rawJwt : String) (branchId : Uuid)
    (shifts : List ShiftRow) : Option (List StuckShiftItem) :=
  match verify rawJwt with
  | none => none
  | some subject =>
    match registry.users.find? fun user => user.clerkUserId = some subject && user.deletedAt.isNone with
    | none => none
    | some user =>
      match callerMembership registry user.id branchId with
      | none => none
      | some (membership, roleCode) =>
        if roleCode ∈ ELIGIBLE_INTERNAL_ROLES then
          if membership.storeAccessKind = .specific ∧
              registry.storeIsInAccessSet membership.id branchId = false then none
          else some (listing registry now membership.tenantId branchId stuckThresholdMinutes shifts)
        else none

variable {registry now}

/-- **What a caller who is not refused is shown**: the listing of the branch, in its tenant. -/
theorem getStuck_ok {verify : String → Option String} {rawJwt : String} {items : List StuckShiftItem}
    (shown : getStuck registry now verify stuckThresholdMinutes rawJwt branchId shifts = some items) :
    ∃ tenantId, registry.storeTenant branchId = some tenantId ∧
      items = listing registry now tenantId branchId stuckThresholdMinutes shifts := by
  unfold getStuck at shown
  split at shown
  · cases shown
  split at shown
  · cases shown
  rename_i user _
  split at shown
  · cases shown
  rename_i membership roleCode found
  split at shown
  swap
  · cases shown
  split at shown
  · cases shown
  cases shown
  obtain ⟨row, listed, coded⟩ := mem_filterMap.1 (mem_of_mem_head? found)
  obtain ⟨role, -, same⟩ := map_eq_some_iff.1 coded
  cases same
  have passed := (mem_filter.1 listed).2
  simp only [and_eq_true, decide_eq_true_eq] at passed
  exact ⟨membership.tenantId, passed.2, rfl⟩

def Displayed (registry : Registry) (userId : Uuid) : Prop :=
  ∃ user ∈ registry.users, user.id = userId ∧ user.displayName ≠ none

/-- The shift is on record as open, old, and its cashier has gone. -/
structure Abandoned (registry : Registry) (now : Int) (tenantId branchId : Uuid) (stuckThresholdMinutes : Nat)
    (shift : ShiftRow) : Prop where
  tenant : shift.tenantId = tenantId
  store : shift.storeId = branchId
  opened : shift.lifecycleState = .opened
  old : shift.openedAt < now - stuckThresholdMinutes * 60000
  gone : liveSession registry now shift.openingCashierUserId branchId = false

/-- **What the query lists**: the abandoned shifts whose cashier has a name to show. -/
theorem mem_listing {tenantId : Uuid} {shiftId : Uuid} :
    shiftId ∈
      (listing registry now tenantId branchId stuckThresholdMinutes shifts).map StuckShiftItem.shiftId ↔
      ∃ shift ∈ shifts,
      shift.shiftId = shiftId ∧ Abandoned registry now tenantId branchId stuckThresholdMinutes shift ∧
      Displayed registry shift.openingCashierUserId ∧
      ∃ device ∈ registry.devices, device.id = shift.openingDeviceId := by
  simp only [listing, mem_map, mem_insertionSort, mem_flatMap, mem_filter, and_eq_true, decide_eq_true_eq,
    not_eq_true']
  constructor
  · rintro ⟨item, ⟨shift, ⟨recorded, ⟨⟨⟨tenant, store⟩, opened⟩, old⟩, gone⟩, user, ⟨known, cashier⟩, device,
      ⟨registered, terminal⟩, shown⟩, rfl⟩
    split at shown
    · cases shown
    · rename_i name named
      rw [mem_singleton.1 shown]
      exact ⟨shift, recorded, rfl, ⟨tenant, store, opened, old, store ▸ gone⟩,
        ⟨user, known, cashier, by simp [named]⟩, device, registered, terminal⟩
  · rintro ⟨shift, recorded, rfl, ⟨tenant, store, opened, old, gone⟩, ⟨user, known, cashier, named⟩, device,
      registered, terminal⟩
    obtain ⟨name, named⟩ := Option.ne_none_iff_exists'.1 named
    refine ⟨⟨shift.shiftId, name, registry.label device.id, shift.openedAt, (now - shift.openedAt) / 60000⟩,
      ⟨shift, ⟨recorded, ⟨⟨⟨tenant, store⟩, opened⟩, old⟩, store ▸ gone⟩, user, ⟨known, cashier⟩, device,
        ⟨registered, terminal⟩, ?_⟩, rfl⟩
    simp [named]

end Service

/-! ### What the log says -/

section Log

variable (tenantId storeId shiftId : Uuid) (row : AuditRow)

/-- The shift's `shift.open`, of a tenant's store. -/
structure OpensShift : Prop where
  action : row.action = "shift.open"
  tenant : row.tenantId = some tenantId
  store : row.storeId = some storeId
  shift : shiftIdOf row.metadata = some shiftId

def closingActions : List String := ["shift.close", "shift.forced_close"]

/-- The shift's close or forced close, of a tenant's store. -/
structure ClosesShift : Prop where
  action : row.action ∈ closingActions
  tenant : row.tenantId = some tenantId
  store : row.storeId = some storeId
  shift : shiftIdOf row.metadata = some shiftId

/-- **A stuck shift**: its `shift.open` was accepted, no close of it was, it is older than the threshold,
and its cashier has no live operator session at the store. -/
structure Stuck (registry : Registry) (events : List AuditRow) (now : Int) (stuckThresholdMinutes : Nat) : Prop
  where
  opened : ∃ row ∈ events, OpensShift tenantId storeId shiftId row ∧
    row.occurredAt < now - stuckThresholdMinutes * 60000 ∧
    ∃ cashier, row.actorUserId = some cashier ∧ liveSession registry now cashier storeId = false
  unclosed : ∀ row ∈ events, ¬ ClosesShift tenantId storeId shiftId row

end Log

/-- Every shift is opened once, by a cashier with a display name; what is opened is not closed, before or
after; and the cashiers keep a display name. -/
def Regular (state : State) : Event → Prop
  | .process call fault => ∀ running event rest, state.calls[call]? = some running → running.pending =
      event :: rest →
      fault ≠ some .lookup → fault ≠ some .transaction → Screened state.registry running.device event →
      (∀ row ∈ state.tables.events, row.id ≠ event.eventId.id) →
        (∀ shiftId, opens event = some shiftId → (∀ shift ∈ state.tables.shifts, shift.shiftId ≠ shiftId) ∧
          (∀ row ∈ state.tables.events, ¬ ClosesShift event.tenantId.id event.branchId.id shiftId row) ∧
          ∀ cashier, resolveActorUserId state.registry event.actingOperatorId event.tenantId.id = some cashier →
            Displayed state.registry cashier) ∧
        (event.actionCategory ∈ closingActions → ∀ shiftId, shiftIdOf event.payload = some shiftId →
          ∀ row ∈ state.tables.events, ¬ OpensShift event.tenantId.id event.branchId.id shiftId row)
  | .registry next => ∀ shift ∈ state.tables.shifts, Displayed next shift.openingCashierUserId
  | _ => True

/-! ### The record and the log -/

/-- **The record of shifts is what the log says**, and no shift in it is both opened and closed. -/
structure Recorded (state : State) : Prop where
  opened : ∀ row ∈ state.tables.events, ∀ tenantId storeId shiftId, OpensShift tenantId storeId shiftId row →
    ∃ shift ∈ state.tables.shifts, shift.shiftId = shiftId ∧ shift.tenantId = tenantId ∧ shift.storeId =
      storeId ∧
      shift.lifecycleState = .opened ∧ shift.openedAt = row.occurredAt ∧
        row.actorUserId = some shift.openingCashierUserId
  logged : ∀ shift ∈ state.tables.shifts, ∃ row ∈ state.tables.events,
    OpensShift shift.tenantId shift.storeId shift.shiftId row ∧ row.occurredAt = shift.openedAt ∧
      row.actorUserId = some shift.openingCashierUserId
  apart : ∀ tenantId storeId shiftId, ∀ first ∈ state.tables.events, ∀ second ∈ state.tables.events,
    OpensShift tenantId storeId shiftId first → ¬ ClosesShift tenantId storeId shiftId second
  named : ∀ shift ∈ state.tables.shifts, Displayed state.registry shift.openingCashierUserId
  terminals : ∀ shift ∈ state.tables.shifts, ∃ device ∈ state.registry.devices, device.id = shift.openingDeviceId

theorem Recorded.listing_iff (recorded : Recorded state) {now : Int} {tenantId branchId : Uuid}
    {stuckThresholdMinutes : Nat} :
    shiftId ∈
      (listing state.registry now tenantId branchId stuckThresholdMinutes state.tables.shifts).map
      StuckShiftItem.shiftId ↔
      Stuck tenantId branchId shiftId state.registry state.tables.events now stuckThresholdMinutes := by
  rw [mem_listing]
  constructor
  · rintro ⟨shift, known, rfl, ⟨rfl, rfl, -, old, gone⟩, -, -⟩
    obtain ⟨row, there, opens, time, cashier⟩ := recorded.logged shift known
    exact ⟨⟨row, there, opens, time.symm ▸ old, shift.openingCashierUserId, cashier, gone⟩,
      fun other there' => recorded.apart _ _ _ row there other there' opens⟩
  · rintro ⟨⟨row, there, opens, old, cashier, actor, gone⟩, -⟩
    obtain ⟨shift, known, rfl, tenant, rfl, state, time, same⟩ := recorded.opened row there _ _ _ opens
    have one : cashier = shift.openingCashierUserId := mem_unique actor same
    exact ⟨shift, known, rfl, ⟨tenant, rfl, state, time ▸ old, one ▸ gone⟩, recorded.named shift known,
      recorded.terminals shift known⟩

variable {calls : List Call}

theorem Recorded.cons {state : State} (recorded : Recorded state) {row : AuditRow}
    (opens : row.action ≠ "shift.open")
    (closes : row.action ∈ closingActions →
      ∀ tenantId storeId shiftId, ClosesShift tenantId storeId shiftId row →
      ∀ other ∈ state.tables.events, ¬ OpensShift tenantId storeId shiftId other) :
    Recorded ⟨state.registry, ⟨row :: state.tables.events, state.tables.shifts⟩, calls⟩ := by
  refine ⟨fun other there tenantId storeId shiftId opening => ?_, fun shift known => ?_, ?_, recorded.named,
    recorded.terminals⟩
  · rcases mem_cons.1 there with rfl | before
    · exact absurd opening.action opens
    · exact recorded.opened other before tenantId storeId shiftId opening
  · obtain ⟨other, before, same⟩ := recorded.logged shift known
    exact ⟨other, mem_cons_of_mem _ before, same⟩
  · intro tenantId storeId shiftId first there second there' opening closing
    rcases mem_cons.1 there with rfl | before
    · exact opens opening.action
    rcases mem_cons.1 there' with rfl | before'
    · exact closes closing.action tenantId storeId shiftId closing first before opening
    · exact recorded.apart tenantId storeId shiftId first before second before' opening closing

theorem Recorded.open (recorded : Recorded state) {event : AuditEventItem} {cashier : Uuid}
    {requestId : Option Uuid} (opening : event.actionCategory = "shift.open")
    (read : shiftIdOf event.payload = some shiftId)
    (unclosed : ∀ row ∈ state.tables.events, ¬ ClosesShift event.tenantId.id event.branchId.id shiftId row)
    (shown : Displayed state.registry cashier)
    (terminal : ∃ device ∈ state.registry.devices, device.id = event.originatingTerminalId.id) :
    Recorded
      ⟨state.registry,
       ⟨auditRow event cashier requestId :: state.tables.events,
          shiftRow event cashier shiftId :: state.tables.shifts⟩, calls⟩ := by
  refine ⟨fun other there tenantId storeId openedId opens => ?_, fun shift known => ?_, ?_, fun shift known =>
    ?_, fun shift known => ?_⟩
  · rcases mem_cons.1 there with rfl | before
    · have tenant : event.tenantId.id = tenantId := Option.some.inj opens.tenant
      have store : event.branchId.id = storeId := Option.some.inj opens.store
      have shift : shiftId = openedId := mem_unique read opens.shift
      exact ⟨_, mem_cons_self, shift, tenant, store, rfl, rfl, rfl⟩
    · obtain ⟨shift, known, same⟩ := recorded.opened other before tenantId storeId openedId opens
      exact ⟨shift, mem_cons_of_mem _ known, same⟩
  · rcases mem_cons.1 known with rfl | before
    · exact ⟨_, mem_cons_self, ⟨opening, rfl, rfl, read⟩, rfl, rfl⟩
    · obtain ⟨other, there, same⟩ := recorded.logged shift before
      exact ⟨other, mem_cons_of_mem _ there, same⟩
  · intro tenantId storeId openedId first there second there' opens closing
    rcases mem_cons.1 there' with rfl | before'
    · have closed : event.actionCategory ∈ closingActions := closing.action
      rw [opening] at closed
      exact absurd closed (by decide)
    rcases mem_cons.1 there with rfl | before
    · have tenant : event.tenantId.id = tenantId := Option.some.inj opens.tenant
      have store : event.branchId.id = storeId := Option.some.inj opens.store
      have shift : shiftId = openedId := mem_unique read opens.shift
      subst tenant store shift
      exact unclosed second before' closing
    · exact recorded.apart tenantId storeId openedId first before second before' opens closing
  · rcases mem_cons.1 known with rfl | before
    · exact shown
    · exact recorded.named shift before
  · rcases mem_cons.1 known with rfl | before
    · exact terminal
    · exact recorded.terminals shift before

/-- **One event keeps the record what the log says.** -/
theorem process_recorded {call : Nat} {fault : Option Fault} (recorded : Recorded state)
    (regular : Regular state (.process call fault)) (step : state.process server call fault = some next) :
    Recorded next := by
  obtain ⟨running, event, rest, found, pending, tables, verdict, processed, rfl⟩ := State.process_ok step
  have same (calls : List Call) : Recorded { state with calls := calls } :=
    ⟨recorded.opened, recorded.logged, recorded.apart, recorded.named, recorded.terminals⟩
  have wrote : ∀ fresh cashier, fault ≠ some .lookup → fault ≠ some .transaction → Screened state.registry
      running.device event → resolveActorUserId state.registry event.actingOperatorId event.tenantId.id =
      some cashier
      → insertEvent server state.registry event cashier running.requestId state.tables = some (tables, fresh) → ∀
      calls, Recorded { state with tables := tables, calls := calls } := by
    intro fresh cashier unlocked kept screened resolved added calls
    obtain ⟨-, rfl, -⟩ | ⟨-, free, events, outcome⟩ := insertEvent_ok added
    · exact same calls
    have fits := regular running event rest found pending unlocked kept screened free
    obtain ⟨written, shifts⟩ := tables
    dsimp only at events outcome
    subst events
    obtain ⟨missing, rfl⟩ | ⟨shiftId, opened, ⟨⟨shift, known, taken⟩, -⟩ | ⟨terminal, rfl⟩⟩ := outcome
    · refine recorded.cons (fun opening => ?_)
        fun closing tenantId storeId shiftId closes other there opens => ?_
      · exact screened.shift opening ((opens_eq opening).symm.trans missing)
      · have tenant : event.tenantId.id = tenantId := Option.some.inj closes.tenant
        have store : event.branchId.id = storeId := Option.some.inj closes.store
        subst tenant store
        exact fits.2 closing shiftId closes.shift other there opens
    · exact absurd taken ((fits.1 shiftId opened).1 shift known)
    · have opening : event.actionCategory = "shift.open" := by
        by_contra other
        simp [opens, other] at opened
      have fit := fits.1 shiftId opened
      exact recorded.open opening ((opens_eq opening).symm.trans opened) fit.2.1 (fit.2.2 cashier resolved)
        terminal
  obtain ⟨_, rejected, -⟩ | ⟨threw, -⟩ | ⟨screened, cashier, resolved, stored, fresh, added, outcome⟩ :=
    @processEvent_cases server state.registry running.device event running.requestId fault state.tables
  · cases rejected.symm.trans processed
    exact same _
  · cases threw.symm.trans processed
    exact same _
  · rcases outcome with ⟨rfl, threw⟩ | ⟨rfl, done⟩
    · cases threw.symm.trans processed
      exact wrote fresh cashier (by decide) (by decide) screened resolved added _
    · cases done.symm.trans processed
      exact wrote fresh cashier (by decide) (by decide) screened resolved added _

theorem step_recorded {event : Event} (recorded : Recorded state) (regular : Regular state event)
    (step : state.step server event = some next) : Recorded next := by
  cases event with
  | sync attestation events requestId =>
    dsimp only [State.step] at step
    split at step <;> cases step
    · exact recorded
    · exact ⟨recorded.opened, recorded.logged, recorded.apart, recorded.named, recorded.terminals⟩
  | process call fault => exact process_recorded recorded regular step
  | registry registry =>
    dsimp only [State.step] at step
    split at step
    · rename_i kept
      cases step
      refine ⟨recorded.opened, recorded.logged, recorded.apart, regular, fun shift known => ?_⟩
      obtain ⟨device, there, terminal⟩ := recorded.terminals shift known
      simp only [Registry.extends, and_eq_true, all_eq_true, List.any_eq_true, decide_eq_true_eq] at kept
      obtain ⟨other, there', same⟩ := kept.2 device there
      exact ⟨other, there', same.trans terminal⟩
    · cases step
  | write row =>
    dsimp only [State.step] at step
    split at step
    · rename_i foreign
      cases step
      refine recorded.cons (fun opening => foreign.1 (opening ▸ by decide)) fun closing => ?_
      have pos : ∀ action ∈ closingActions, action ∈ shiftActions := by decide
      exact absurd (pos row.action closing) foreign.1
    · cases step

/-! ### Every run -/

/-- **Over any run in which every shift is opened once, by a cashier with a display name, and what is opened
is not closed, the stuck shifts that a caller is shown of a store are exactly those of the log.** -/
theorem stuck_exact {server : Server} {registry : Registry} {state : State}
    (reaches : (ingestion server registry).Reaches Regular (ingestion server registry).start state)
    {verify : String → Option String} {now : Int} {stuckThresholdMinutes : Nat} {rawJwt : String}
    {branchId : Uuid} {items : List StuckShiftItem}
    (shown : getStuck state.registry now verify stuckThresholdMinutes rawJwt branchId state.tables.shifts =
      some items) :
    ∃ tenantId, state.registry.storeTenant branchId = some tenantId ∧
      ∀ shiftId, shiftId ∈ items.map StuckShiftItem.shiftId ↔
      Stuck tenantId branchId shiftId state.registry state.tables.events now stuckThresholdMinutes := by
  have recorded : Recorded state := by
    refine @Machine.Reaches.invariant _ _ _ _ _ _ Recorded reaches ?_
      fun before event after recorded regular step => step_recorded recorded regular step
    refine ⟨fun row there => ?_, fun shift known => ?_, fun _ _ _ row there => ?_, fun shift known => ?_,
      fun shift known => ?_⟩
    · cases there
    · cases known
    · cases there
    · cases known
    · cases known
  obtain ⟨tenantId, branch, rfl⟩ := getStuck_ok shown
  exact ⟨tenantId, branch, fun shiftId => recorded.listing_iff⟩

/-! ### A shift that is closed -/

section Samples

def storeRegistry : Registry where
  users := [⟨.sample 5, "owner@example.com", some "Owner", some "clerk", none⟩]
  links := []
  devices := [⟨.sample 6, .sample 1, .sample 2, [], none⟩]
  roles := [⟨.sample 0, "owner"⟩]
  memberships := [⟨.sample 8, .sample 1, .sample 5, .sample 0, .all, none, none⟩]
  storeAccess := []
  userIds := nodup_singleton _
  deviceIds := nodup_singleton _
  deviceHashes := nodup_singleton _
  linkUsers := by simp
  tokens := []
  label _ := "Till"
  storeTenant storeId := if storeId = .sample 2 then some (.sample 1) else none

def shiftEvent (eventId : Uuid) (actionCategory : String) : AuditEventItem where
  eventId := .of eventId
  tenantId := .of (.sample 1)
  branchId := .of (.sample 2)
  originatingTerminalId := .of (.sample 6)
  actingOperatorId := "clerk"
  actionCategory := actionCategory
  createdAt := 0
  payload := [("shift_id", .string (sample 10).text)]

/-- A shift is opened and closed: it is listed as stuck. -/
theorem closed_listed :
    ¬
      ∀ (server : Server) (registry : Registry) (state : State), (ingestion server registry).Reachable state →
      ∀ (verify : String → Option String) (now : Int) (stuckThresholdMinutes : Nat) (rawJwt : String)
      (branchId : Uuid) (items : List StuckShiftItem), getStuck state.registry now verify
      stuckThresholdMinutes rawJwt branchId state.tables.shifts = some items →
      ∃ tenantId, state.registry.storeTenant branchId = some tenantId ∧
      ∀ shiftId, shiftId ∈ items.map StuckShiftItem.shiftId ↔
      Stuck tenantId branchId shiftId state.registry state.tables.events now stuckThresholdMinutes := by
  intro law
  have ran : ((ingestion sampleServer storeRegistry).run (ingestion sampleServer storeRegistry).start
      [.sync "first" [shiftEvent (.sample 7) "shift.open", shiftEvent (.sample 9) "shift.close"] none,
        .process 0 none, .process 0 none]).any (fun state =>
      (getStuck state.registry 10000000 some 15 "clerk" (.sample 2) state.tables.shifts).any (fun items =>
        decide (.sample 10 ∈ items.map StuckShiftItem.shiftId) &&
        decide (state.registry.storeTenant (.sample 2) = some (.sample 1)) &&
        state.tables.events.any fun row => decide (row.action ∈ closingActions) &&
          decide (row.tenantId = some (.sample 1)) && decide (row.storeId = some (.sample 2)) &&
          decide (shiftIdOf row.metadata = some (.sample 10)))) = true := by
    decide +kernel
  obtain ⟨state, reached, listed⟩ := (any_eq_true _ _).1 ran
  obtain ⟨items, shown, listed⟩ := (any_eq_true _ _).1 listed
  simp only [and_eq_true, decide_eq_true_eq, List.any_eq_true] at listed
  obtain ⟨⟨mem, tenant⟩, row, there, ⟨⟨action, ofTenant⟩, ofStore⟩, ofShift⟩ := listed
  obtain ⟨tenantId, branch, exact⟩ := law _ _ state (Machine.run_later reached) _ _ _ _ _ items shown
  have same : tenantId = .sample 1 := mem_unique branch tenant
  subst same
  exact ((exact (.sample 10)).1 mem).unclosed row there ⟨action, ofTenant, ofStore, ofShift⟩

instance (event : AuditEventItem) (row : AuditRow) (shiftId : Uuid) :
    Decidable (ClosesShift event.tenantId.id event.branchId.id shiftId row) :=
  decidable_of_iff (row.action ∈ closingActions ∧ row.tenantId = some event.tenantId.id ∧
      row.storeId = some event.branchId.id ∧ shiftIdOf row.metadata = some shiftId)
    ⟨fun ⟨action, tenant, store, shift⟩ => ⟨action, tenant, store, shift⟩,
      fun closes => ⟨closes.action, closes.tenant, closes.store, closes.shift⟩⟩

/-- `Regular`, checked where no event of a batch closes a shift. -/
def regularly (state : State) : Event → Bool
  | .process call _ => (state.nextEvent call).all fun event => decide (event.actionCategory ∉ closingActions) &&
      ((state.tables.events.any fun row => row.id = event.eventId.id) || (opens event).all fun shiftId =>
        (state.tables.shifts.all fun shift => shift.shiftId ≠ shiftId) &&
        (state.tables.events.all fun row =>
          !decide (ClosesShift event.tenantId.id event.branchId.id shiftId row)) &&
        (resolveActorUserId state.registry event.actingOperatorId event.tenantId.id).all fun cashier =>
          state.registry.users.any fun user => user.id = cashier && user.displayName.isSome)
  | .registry next => state.tables.shifts.all fun shift =>
      next.users.any fun user => user.id = shift.openingCashierUserId && user.displayName.isSome
  | _ => true

theorem displayed_of_any {registry : Registry} {userId : Uuid}
    (found : (registry.users.any fun user => user.id = userId && user.displayName.isSome) = true) :
    Displayed registry userId := by
  obtain ⟨user, known, same⟩ := List.any_eq_true.1 found
  simp only [and_eq_true, decide_eq_true_eq] at same
  exact ⟨user, known, same.1, Option.isSome_iff_ne_none.1 same.2⟩

theorem regular_of_regularly (state : State) (event : Event) (holds : regularly state event = true) :
    Regular state event := by
  cases event with
  | process call fault =>
    intro running event rest found pending _ _ _ free
    simp only [regularly, State.nextEvent_eq found pending, Option.all_some, and_eq_true, or_eq_true,
      decide_eq_true_eq] at holds
    refine ⟨fun shiftId opened => ?_, fun closing => absurd closing holds.1⟩
    rcases holds.2 with taken | holds
    · obtain ⟨row, there, same⟩ := List.any_eq_true.1 taken
      exact absurd (of_decide_eq_true same) (free row there)
    · rw [opened] at holds
      simp only [Option.all_some, and_eq_true, all_eq_true, decide_eq_true_eq, not_eq_true',
        decide_eq_false_iff_not] at holds
      refine ⟨holds.1.1, holds.1.2, fun cashier resolved => displayed_of_any ?_⟩
      rw [resolved] at holds
      exact holds.2
  | registry next => exact fun shift known => displayed_of_any (all_eq_true.1 holds shift known)
  | sync | write => trivial

/-- The directory while the cashier is signed in, and after the sign-out at the time. -/
def signedIn (revokedAt : Option Int) : Registry :=
  { storeRegistry with tokens := [⟨.sample 3, [], some (.sample 1), some (.sample 5), some (.sample 6),
      some (.sample 2), .posOperator, 20000000, revokedAt⟩] }

/-- A cashier signs in and opens a shift; the terminal sends its event again with one of the cashier's PIN;
the cashier signs out. -/
def shiftLeft : List Event :=
  [.registry (signedIn none), .sync "first" [shiftEvent (.sample 7) "shift.open"] none, .process 0 none,
    .sync "first" [shiftEvent (.sample 7) "shift.open", shiftEvent (.sample 9) "cashier.pin.unlock"] none,
    .process 1 none, .process 1 none, .registry (signedIn (some 5))]

theorem stuck_exact_sample :
    ∃ state, (ingestion sampleServer storeRegistry).run (ingestion sampleServer storeRegistry).start
      shiftLeft = some state ∧
      ∃ items, getStuck state.registry 10000000 some 15 "clerk" (.sample 2) state.tables.shifts = some items ∧
      items.length = 1 ∧
      ∃ tenantId, state.registry.storeTenant (.sample 2) = some tenantId ∧
      ∀ shiftId, shiftId ∈ items.map StuckShiftItem.shiftId ↔
      Stuck tenantId (.sample 2) shiftId state.registry state.tables.events 10000000 15 := by
  have ran : ((ingestion sampleServer storeRegistry).run (ingestion sampleServer storeRegistry).start
      shiftLeft).any
      (fun state => (getStuck state.registry 10000000 some 15 "clerk" (.sample 2) state.tables.shifts).any
        fun items =>
        items.length = 1) = true := by
    decide +kernel
  obtain ⟨state, reached, listed⟩ := (any_eq_true _ _).1 ran
  obtain ⟨items, shown, one⟩ := (any_eq_true _ _).1 listed
  have regular :
      (ingestion sampleServer storeRegistry).AllowedAlong (fun state event => regularly state event = true)
      (ingestion sampleServer storeRegistry).start shiftLeft := by
    decide +kernel
  exact ⟨state, reached, items, shown, of_decide_eq_true one,
    stuck_exact ((Machine.run_reaches reached regular).mono regular_of_regularly) shown⟩

end Samples

end DataPulse.PosAudit
