/-
**What the answer to a batch says of its events.**

* `batches_settled`: so it holds over every run of such steps; `batch_lost`: not over every run.
-/

import DataPulse.PosAudit.Events

namespace DataPulse.PosAudit

open Platform Lib
open Auth (Device)

variable {server : Server} {call : Call}
variable {rest : List AuditEventItem} {settled : Settled} {tables : Tables}
variable {state next : State}

/-! ### The law -/

section Law

variable (server : Server) (registry : Registry) (tables : Tables) (event : AuditEventItem)

/-- The row holds the event with its own tenant, store, actor, action, time and payload. -/
structure Own (row : AuditRow) : Prop where
  tenant : row.tenantId = some event.tenantId.id
  store : row.storeId = some event.branchId.id
  actor : row.actorUserId = resolveActorUserId registry event.actingOperatorId event.tenantId.id
  action : row.action = event.actionCategory
  time : row.occurredAt = event.createdAt
  payload : row.metadata = event.payload

def OwnShift (shiftId : Uuid) (row : ShiftRow) : Prop :=
  row.shiftId = shiftId ∧ row.tenantId = event.tenantId.id ∧ row.storeId = event.branchId.id

/-- The event is stored, and the shift it opens. -/
structure Stored : Prop where
  row : ∃ row ∈ tables.events, row.id = event.eventId.id ∧ Own registry event row
  shift : event.actionCategory = "shift.open" → ∃ shiftId, shiftIdOf event.payload = some shiftId ∧
    ∃ row ∈ tables.shifts, OwnShift event shiftId row

/-- The lists of a batch are those of the verdicts on the events taken so far. -/
structure Filed (call : Call) : Prop where
  batch : call.batch = call.settled.map Settled.event ++ call.pending
  accepted : call.accepted = (call.settled.filter fun settled => settled.verdict = .accepted).map fun settled =>
    settled.event.eventId.text
  duplicates : call.duplicates =
    (call.settled.filter fun settled => settled.verdict = .duplicate).map fun settled =>
    settled.event.eventId.text
  rejected : call.rejected = call.settled.filterMap fun settled => match settled.verdict with
    | .rejected category => some ⟨settled.event.eventId.text, category⟩
    | _ => none

/-- The occurrences of an identifier in a list of events. -/
def occurrences (events : List AuditEventItem) (text : String) : Nat :=
  (events.map fun event => event.eventId.text).count text

/-- **Every occurrence of an event is in one list, and the list is right about it.** -/
structure Settles (call : Call) : Prop extends Filed call where
  once : ∀ text, occurrences call.batch text = occurrences call.pending text + call.accepted.count text +
    call.duplicates.count text + (call.rejected.map RejectedEvent.eventId).count text
  stored : ∀ settled ∈ call.settled, settled.verdict = .accepted ∨ settled.verdict = .duplicate →
    Stored settled.registry tables settled.event
  refused : ∀ settled ∈ call.settled, ∀ category, settled.verdict = .rejected category →
    ¬ Valid server settled.registry call.device settled.event

end Law

/-- Nothing fails under a valid event, and what holds the identifier of an event, or of the shift it opens,
is the event and a shift of its tenant and store. -/
def Sound (server : Server) (state : State) : Event → Prop
  | .process call fault => ∀ running event rest, state.calls[call]? = some running →
      running.pending = event :: rest → Screened state.registry running.device event →
        (Valid server state.registry running.device event → fault = none) ∧
        (∀ row ∈ state.tables.events, row.id = event.eventId.id → Own state.registry event row) ∧
        ∀ shiftId, opens event = some shiftId → ∀ row ∈ state.tables.shifts, row.shiftId = shiftId →
          OwnShift event shiftId row
  | _ => True

/-! ### One verdict -/

section Verdicts

variable {server : Server} {registry : Registry} {device : Device} {event : AuditEventItem}
  {tables written : Tables} {requestId : Option Uuid} {fault : Option Fault} {outcome : Option Verdict}
variable {actorUserId : Uuid}
variable {fresh : Bool}

structure Grows (tables written : Tables) : Prop where
  events : ∀ row ∈ tables.events, row ∈ written.events
  shifts : ∀ row ∈ tables.shifts, row ∈ written.shifts

theorem Grows.refl (tables : Tables) : Grows tables tables := ⟨fun _ => id, fun _ => id⟩

theorem Stored.mono (stored : Stored registry tables event) (grows : Grows tables written) :
    Stored registry written event := by
  obtain ⟨⟨row, there, held⟩, shift⟩ := stored
  refine ⟨⟨row, grows.events row there, held⟩, fun opening => ?_⟩
  obtain ⟨shiftId, read, opened, known, own⟩ := shift opening
  exact ⟨shiftId, read, opened, grows.shifts opened known, own⟩

def Linked (tables : Tables) : Prop :=
  ∀ row ∈ tables.events, row.action = "shift.open" → ∃ shiftId, shiftIdOf row.metadata = some shiftId ∧
    ∃ shift ∈ tables.shifts, shift.shiftId = shiftId

theorem opens_eq (opening : event.actionCategory = "shift.open") : opens event = shiftIdOf event.payload :=
  if_pos opening

theorem insertEvent_grows
    (added : insertEvent server registry event actorUserId requestId tables = some (written, fresh)) :
    Grows tables written := by
  obtain ⟨-, rfl, -⟩ | ⟨-, -, events, shifts⟩ := insertEvent_ok added
  · exact .refl _
  · refine ⟨fun row there => events ▸ mem_cons_of_mem _ there, fun row there => ?_⟩
    obtain ⟨-, same⟩ | ⟨_, -, ⟨-, same⟩ | ⟨-, grown⟩⟩ := shifts
    · exact same ▸ there
    · exact same ▸ there
    · exact grown ▸ mem_cons_of_mem _ there

variable (screened : Screened registry device event)
include screened

theorem insertEvent_shift
    (added : insertEvent server registry event actorUserId requestId tables = some (written, fresh))
    (new : fresh = true) (opening : event.actionCategory = "shift.open") :
    ∃ shiftId, shiftIdOf event.payload = some shiftId ∧
      ∃ shift ∈ written.shifts, shift.shiftId = shiftId := by
  obtain ⟨old, -, -⟩ | ⟨-, -, -, shifts⟩ := insertEvent_ok added
  · exact absurd (new.symm.trans old) (by decide)
  · rw [opens_eq opening] at shifts
    obtain ⟨missing, -⟩ | ⟨shiftId, read, ⟨⟨row, there, same⟩, unchanged⟩ | ⟨-, grown⟩⟩ := shifts
    · exact absurd missing (screened.shift opening)
    · exact ⟨shiftId, read, row, unchanged ▸ there, same⟩
    · exact ⟨shiftId, read, shiftRow event actorUserId shiftId, grown ▸ mem_cons_self, rfl⟩

theorem insertEvent_linked (linked : Linked tables)
    (added : insertEvent server registry event actorUserId requestId tables = some (written, fresh)) :
    Linked written := by
  have grows := insertEvent_grows added
  have shift := insertEvent_shift screened added
  obtain ⟨-, rfl, -⟩ | ⟨new, -, events, -⟩ := insertEvent_ok added
  · exact linked
  · intro row there opening
    rw [events] at there
    rcases mem_cons.1 there with rfl | before
    · exact shift new opening
    · obtain ⟨shiftId, read, shift, known, same⟩ := linked row before opening
      exact ⟨shiftId, read, shift, grows.shifts shift known, same⟩

theorem insertEvent_stored (linked : Linked tables)
    (resolved : resolveActorUserId registry event.actingOperatorId event.tenantId.id = some actorUserId)
    (added : insertEvent server registry event actorUserId requestId tables = some (written, fresh))
    (rows : ∀ row ∈ tables.events, row.id = event.eventId.id → Own registry event row)
    (shifts : ∀ shiftId, opens event = some shiftId →
      ∀ row ∈ tables.shifts, row.shiftId = shiftId → OwnShift event shiftId row) :
    Stored registry written event := by
  obtain ⟨-, rfl, row, there, same⟩ | ⟨-, -, events, outcome⟩ := insertEvent_ok added
  · have own := rows row there same
    refine ⟨⟨row, there, same, own⟩, fun opening => ?_⟩
    obtain ⟨shiftId, read, shift, known, opened⟩ := linked row there (own.action.trans opening)
    rw [own.payload] at read
    exact ⟨shiftId, read, shift, known, shifts shiftId ((opens_eq opening).trans read) shift known opened⟩
  · refine ⟨⟨auditRow event actorUserId requestId, events ▸ mem_cons_self, rfl, rfl, rfl, resolved.symm, rfl,
      rfl, rfl⟩, fun opening => ?_⟩
    rw [opens_eq opening] at outcome shifts
    obtain ⟨missing, -⟩ | ⟨shiftId, read, ⟨⟨row, known, same⟩, unchanged⟩ | ⟨-, grown⟩⟩ := outcome
    · exact absurd missing (screened.shift opening)
    · exact ⟨shiftId, read, row, unchanged ▸ known, shifts shiftId read row known same⟩
    · exact ⟨shiftId, read, shiftRow event actorUserId shiftId, grown ▸ mem_cons_self, rfl, rfl, rfl⟩

omit screened

theorem processEvent_grows
    (processed : processEvent server registry device event requestId fault tables = (written, outcome)) :
    Grows tables written := by
  obtain ⟨_, rejected, -⟩ | ⟨threw, -⟩ | ⟨-, _, -, stored, _, added, ⟨-, threw⟩ | ⟨-, done⟩⟩ :=
    @processEvent_cases server registry device event requestId fault tables
  · cases rejected.symm.trans processed
    exact .refl _
  · cases threw.symm.trans processed
    exact .refl _
  · cases threw.symm.trans processed
    exact insertEvent_grows added
  · cases done.symm.trans processed
    exact insertEvent_grows added

theorem processEvent_linked (linked : Linked tables)
    (processed : processEvent server registry device event requestId fault tables = (written, outcome)) :
    Linked written := by
  obtain ⟨_, rejected, -⟩ | ⟨threw, -⟩ | ⟨screened, _, -, stored, _, added, ⟨-, threw⟩ | ⟨-, done⟩⟩ :=
    @processEvent_cases server registry device event requestId fault tables
  · cases rejected.symm.trans processed
    exact linked
  · cases threw.symm.trans processed
    exact linked
  · cases threw.symm.trans processed
    exact insertEvent_linked screened linked added
  · cases done.symm.trans processed
    exact insertEvent_linked screened linked added

/-- **The verdict on an event is right.** -/
theorem processEvent_right (linked : Linked tables)
    (processed : processEvent server registry device event requestId fault tables = (written, outcome))
    (sound : Screened registry device event →
      (Valid server registry device event → fault = none) ∧
      (∀ row ∈ tables.events, row.id = event.eventId.id → Own registry event row) ∧
      ∀ shiftId, opens event = some shiftId →
      ∀ row ∈ tables.shifts, row.shiftId = shiftId → OwnShift event shiftId row) :
    (∃ category, outcome.getD (.rejected .invalidInput) = .rejected category ∧
        ¬ Valid server registry device event) ∨
      (outcome.getD (.rejected .invalidInput) = .accepted ∨
        outcome.getD (.rejected .invalidInput) = .duplicate) ∧ Stored registry written event := by
  obtain ⟨category, rejected, unscreened⟩ | ⟨threw, failed⟩ | ⟨screened, _, resolved, stored, fresh, added,
    ⟨failed, threw⟩ | ⟨-, done⟩⟩ := @processEvent_cases server registry device event requestId fault tables
  · cases rejected.symm.trans processed
    exact .inl ⟨category, rfl, fun valid => unscreened valid.toScreened⟩
  · cases threw.symm.trans processed
    exact .inl ⟨_, rfl, fun valid => failed valid ((sound valid.toScreened).1 valid)⟩
  · cases threw.symm.trans processed
    exact .inl ⟨_, rfl, fun valid => nomatch failed.symm.trans ((sound screened).1 valid)⟩
  · cases done.symm.trans processed
    have conflicts := (sound screened).2
    refine .inr ⟨?_, insertEvent_stored screened linked resolved added conflicts.1 conflicts.2⟩
    cases fresh
    · exact .inr rfl
    · exact .inl rfl

end Verdicts

/-! ### One step -/

theorem Filed.push (filed : Filed call) (next : call.pending = settled.event :: rest) :
    Filed (call.push rest settled) := by
  have batch : call.batch = (call.settled ++ [settled]).map Settled.event ++ rest := by
    rw [filed.batch, next, map_append, append_assoc]
    rfl
  unfold Call.push
  cases verdict : settled.verdict with
  | accepted => exact ⟨batch, by simp [filed.accepted, verdict], by simp [filed.duplicates, verdict],
      by simp [filed.rejected, verdict]⟩
  | duplicate => exact ⟨batch, by simp [filed.accepted, verdict], by simp [filed.duplicates, verdict],
      by simp [filed.rejected, verdict]⟩
  | rejected category => exact ⟨batch, by simp [filed.accepted, verdict], by simp [filed.duplicates, verdict],
      by simp [filed.rejected, verdict]⟩

theorem once_push (text : String) (next : call.pending = settled.event :: rest)
    (once : occurrences call.batch text =
      occurrences call.pending text + call.accepted.count text + call.duplicates.count text +
      (call.rejected.map RejectedEvent.eventId).count text) :
    occurrences (call.push rest settled).batch text =
      occurrences (call.push rest settled).pending text + (call.push rest settled).accepted.count text +
      (call.push rest settled).duplicates.count text +
      ((call.push rest settled).rejected.map RejectedEvent.eventId).count text := by
  have taken : occurrences call.pending text =
      occurrences rest text + [settled.event.eventId.text].count text := by
    rw [next, occurrences, map_cons, List.count_cons, List.count_singleton]
    rfl
  unfold Call.push
  cases settled.verdict <;> simp only [count_append, map_append, map_cons, map_nil] <;> omega

theorem Settles.mono {written : Tables} (settles : Settles server tables call)
    (grows : Grows tables written) : Settles server written call :=
  ⟨settles.toFiled, settles.once, fun settled taken held => (settles.stored settled taken held).mono grows,
    settles.refused⟩

/-- **One more verdict that is right.** -/
theorem Settles.push (settles : Settles server tables call) (next : call.pending = settled.event :: rest)
    (right : (∃ category, settled.verdict = .rejected category ∧
        ¬ Valid server settled.registry call.device settled.event) ∨
      (settled.verdict = .accepted ∨ settled.verdict = .duplicate) ∧
      Stored settled.registry tables settled.event) : Settles server tables (call.push rest settled) := by
  refine ⟨settles.toFiled.push next, fun text => once_push text next (settles.once text), ?_, ?_⟩
  · intro other taken held
    rw [Call.push_settled] at taken
    rcases mem_append.1 taken with before | last
    · exact settles.stored other before held
    · rw [mem_singleton.1 last] at held ⊢
      rcases right with ⟨_, rejected, -⟩ | ⟨-, stored⟩
      · rcases held with held | held <;> cases rejected.symm.trans held
      · exact stored
  · intro other taken category held
    rw [Call.push_settled] at taken
    rw [Call.push_device]
    rcases mem_append.1 taken with before | last
    · exact settles.refused other before category held
    · rw [mem_singleton.1 last] at held ⊢
      rcases right with ⟨_, -, invalid⟩ | ⟨verdict, -⟩
      · exact invalid
      · rcases verdict with verdict | verdict <;> cases verdict.symm.trans held

/-- The law, and what it rests on. -/
structure Lawful (server : Server) (state : State) : Prop where
  linked : Linked state.tables
  calls : ∀ call ∈ state.calls, Settles server state.tables call

variable {call : Nat}

/-- **One event keeps the law, for every batch under way.** -/
theorem process_settles {fault : Option Fault} (lawful : Lawful server state)
    (sound : Sound server state (.process call fault)) (step : state.process server call fault = some next) :
    Lawful server next := by
  obtain ⟨running, event, rest, found, pending, tables, verdict, processed, rfl⟩ := State.process_ok step
  have grows := processEvent_grows processed
  refine ⟨processEvent_linked lawful.linked processed, fun other mem => ?_⟩
  rcases mem_or_eq_of_mem_set mem with before | rfl
  · exact (lawful.calls other before).mono grows
  · refine ((lawful.calls running (mem_of_getElem? found)).mono grows).push pending ?_
    exact processEvent_right lawful.linked processed (sound running event rest found pending)

theorem step_lawful {event : Event} (lawful : Lawful server state) (sound : Sound server state event)
    (step : state.step server event = some next) : Lawful server next := by
  cases event with
  | sync attestation events requestId =>
    dsimp only [State.step] at step
    split at step
    · cases step
      exact lawful
    · cases step
      refine ⟨lawful.linked, fun call mem => ?_⟩
      rcases mem_append.1 mem with before | new
      · exact lawful.calls call before
      · rw [mem_singleton.1 new]
        exact ⟨⟨rfl, rfl, rfl, rfl⟩, fun text => by simp, by simp, by simp⟩
  | process call fault => exact process_settles lawful sound step
  | registry registry =>
    dsimp only [State.step] at step
    split at step
    · cases step
      exact ⟨lawful.linked, lawful.calls⟩
    · cases step
  | write row =>
    dsimp only [State.step] at step
    split at step
    · rename_i foreign
      cases step
      refine ⟨fun other there opening => ?_, fun call mem => (lawful.calls call mem).mono
        ⟨fun other there => mem_cons_of_mem _ there, fun _ => id⟩⟩
      rcases mem_cons.1 there with rfl | before
      · exact absurd (opening ▸ by decide) foreign.1
      · exact lawful.linked other before opening
    · cases step

/-! ### Every run -/

/-- **Over any run in which nothing fails under a valid event and no identifier is taken by something else, every
occurrence of an event is in one list and the list is right about it.** -/
theorem batches_settled {server : Server} {registry : Registry} {state : State}
    (reaches : (ingestion server registry).Reaches (Sound server) (ingestion server registry).start state) :
    ∀ call ∈ state.calls, Settles server state.tables call := by
  have lawful : Lawful server state := by
    refine @Machine.Reaches.invariant _ _ _ _ _ _ (Lawful server) reaches ⟨?_, ?_⟩
      fun before event after lawful sound step => step_lawful lawful sound step
    · intro row there
      cases there
    · intro call mem
      cases mem
  exact lawful.calls

/-! ### One identifier, two tenants -/

section Samples

def sampleRegistry : Registry where
  users := [⟨.sample 5, "operator@example.com", some "Operator", some "clerk", none⟩]
  links := []
  devices := [⟨.sample 6, .sample 1, .sample 2, [], none⟩, ⟨.sample 7, .sample 3, .sample 4, [1], none⟩]
  roles := []
  memberships := [⟨.sample 8, .sample 1, .sample 5, .sample 0, .all, none, none⟩,
    ⟨.sample 9, .sample 3, .sample 5, .sample 0, .all, none, none⟩]
  storeAccess := []
  userIds := nodup_singleton _
  deviceIds := by decide
  deviceHashes := by decide
  linkUsers := by simp
  tokens := []
  label _ := "Till"
  storeTenant storeId := if storeId = .sample 2 then some (.sample 1) else some (.sample 3)

def sampleServer : Server where
  hashToken attestation := if attestation = "first" then [] else [1]
  representable _ _ := true

def sampleEvent (tenantId storeId terminalId : Uuid) : AuditEventItem where
  eventId := .of (.sample 10)
  tenantId := .of tenantId
  branchId := .of storeId
  originatingTerminalId := .of terminalId
  actingOperatorId := "clerk"
  actionCategory := "cashier.pin.unlock"
  createdAt := 0
  payload := []

/-- Terminals of two tenants use one identifier: the second event is a duplicate and is not stored. -/
theorem batch_lost :
    ¬
      ∀ (server : Server) (registry : Registry) (state : State), (ingestion server registry).Reachable state →
      ∀ call ∈ state.calls, Settles server state.tables call := by
  intro law
  have ran : ((ingestion sampleServer sampleRegistry).run (ingestion sampleServer sampleRegistry).start
      [.sync "first" [sampleEvent (.sample 1) (.sample 2) (.sample 6)] none, .process 0 none,
        .sync "second" [sampleEvent (.sample 3) (.sample 4) (.sample 7)] none,
        .process 1 none]).any (fun state =>
      state.calls.any fun call => call.settled.any fun settled => settled.verdict = .duplicate &&
        state.tables.events.all fun row => row.tenantId ≠ some settled.event.tenantId.id) = true := by
    decide +kernel
  obtain ⟨state, reached, lost⟩ := (any_eq_true _ _).1 ran
  obtain ⟨call, mem, lost⟩ := List.any_eq_true.1 lost
  obtain ⟨settled, taken, lost⟩ := List.any_eq_true.1 lost
  simp only [and_eq_true, decide_eq_true_eq, all_eq_true] at lost
  have settles := law sampleServer sampleRegistry state (Machine.run_later reached) call mem
  obtain ⟨row, there, -, own⟩ := (settles.stored settled taken (.inr lost.1)).row
  exact lost.2 row there own.tenant

/-- The event a batch takes next. -/
def State.nextEvent (state : State) (call : Nat) : Option AuditEventItem :=
  state.calls[call]?.bind fun running => running.pending.head?

theorem State.nextEvent_eq {state : State} {running : Call} {event : AuditEventItem}
    {rest : List AuditEventItem} (found : state.calls[call]? = some running)
    (next : running.pending = event :: rest) : state.nextEvent call = some event := by
  rw [nextEvent, found, Option.bind_some, next, List.head?_cons]

/-- `Sound`, checked where no stored event has a payload. -/
def soundly (state : State) : Event → Bool
  | .process call fault => fault.isNone && (state.nextEvent call).all fun event =>
      (state.tables.events.all fun row => row.id ≠ event.eventId.id || (row.tenantId = some event.tenantId.id &&
        row.storeId = some event.branchId.id && row.action = event.actionCategory && row.occurredAt =
        event.createdAt &&
        row.actorUserId = resolveActorUserId state.registry event.actingOperatorId event.tenantId.id &&
        row.metadata.isEmpty && event.payload.isEmpty)) &&
      (opens event).all fun shiftId => state.tables.shifts.all fun row => row.shiftId ≠ shiftId ||
        (row.tenantId = event.tenantId.id && row.storeId = event.branchId.id)
  | _ => true

theorem sound_of_soundly (server : Server) (state : State) (event : Event)
    (holds : soundly state event = true) : Sound server state event := by
  cases event with
  | process call fault =>
    intro running event rest found pending _
    simp only [soundly, State.nextEvent_eq found pending, Option.all_some, and_eq_true, all_eq_true, or_eq_true,
      decide_eq_true_eq, Option.isNone_iff_eq_none, List.isEmpty_iff] at holds
    obtain ⟨faultless, rows, shifts⟩ := holds
    refine ⟨fun _ => faultless, fun row there same => ?_, fun shiftId opened row there same => ?_⟩
    · obtain ⟨⟨⟨⟨⟨⟨tenant, store⟩, action⟩, time⟩, actor⟩, none⟩, empty⟩ :=
        (rows row there).resolve_left (· same)
      exact ⟨tenant, store, actor, action, time, none.trans empty.symm⟩
    · rw [opened] at shifts
      simp only [Option.all_some, all_eq_true, or_eq_true, and_eq_true, decide_eq_true_eq] at shifts
      exact ⟨same, (shifts row there).resolve_left (· same)⟩
  | sync | registry | write => trivial

/-- A terminal's event: its identifier, its action and its payload. -/
def terminalEvent (eventId : Uuid) (actionCategory : String) (payload : List (String × Json)) : AuditEventItem :=
  { sampleEvent (.sample 1) (.sample 2) (.sample 6) with
    eventId := .of eventId, actionCategory := actionCategory, payload := payload }

/-- A PIN is unlocked and a shift is opened; the terminal sends the first again, and opens the shift a
second time. -/
def redelivered : List Event :=
  let shift := [("shift_id", .string (Uuid.sample 9).text)]
  [.sync "first" [terminalEvent (.sample 10) "cashier.pin.unlock" [],
    terminalEvent (.sample 7) "shift.open" shift] none,
    .process 0 none, .process 0 none,
    .sync "first" [terminalEvent (.sample 10) "cashier.pin.unlock" [],
      terminalEvent (.sample 8) "shift.open" shift] none,
    .process 1 none, .process 1 none]

theorem batches_settled_sample :
    ∃ state, (ingestion sampleServer sampleRegistry).run (ingestion sampleServer sampleRegistry).start
      redelivered = some state ∧
      state.calls.map (fun call => (call.accepted.length, call.duplicates.length)) = [(2, 0), (1, 1)] ∧
      ∀ call ∈ state.calls, Settles sampleServer state.tables call := by
  have ran : ((ingestion sampleServer sampleRegistry).run (ingestion sampleServer sampleRegistry).start
      redelivered).any (fun state =>
      state.calls.map (fun call => (call.accepted.length, call.duplicates.length)) = [(2, 0), (1, 1)]) =
        true := by
    decide +kernel
  obtain ⟨state, reached, listed⟩ := (any_eq_true _ _).1 ran
  have sound :
      (ingestion sampleServer sampleRegistry).AllowedAlong (fun state event => soundly state event = true)
      (ingestion sampleServer sampleRegistry).start redelivered := by
    decide +kernel
  exact ⟨state, reached, of_decide_eq_true listed,
    batches_settled ((Machine.run_reaches reached sound).mono (sound_of_soundly sampleServer))⟩

end Samples

end DataPulse.PosAudit
