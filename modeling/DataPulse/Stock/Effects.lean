/-
**What a committed call did to runs, mappings and events.**

* `ReconciliationRun.after_summary`, `ReconciliationRun.after_running`, `WarehouseMap.after_kept`,
  `OutboxEvent.after_delivered`, …: rows with their UPDATEs applied.
-/

import DataPulse.Stock.Service

namespace DataPulse.Stock

open Lib Lib.Interleave Platform
open Inventory (require require_ok require_all)
open Outbox (DeliveryState)

variable {writes more : List Write} {row : ReconciliationRun} {write : Write}

/-! ### Rows of the tables -/

@[simp] theorem mem_insertedMaps {row : WarehouseMap} : row ∈ insertedMaps writes ↔ .map row ∈ writes :=
  mem_picked fun write row => by cases write <;> simp

@[simp] theorem mem_insertedRuns : row ∈ insertedRuns writes ↔ .run row ∈ writes :=
  mem_picked fun write row => by cases write <;> simp

@[simp] theorem mem_insertedEvents {row : OutboxEvent} : row ∈ insertedEvents writes ↔ .event row ∈ writes :=
  mem_picked fun write row => by cases write <;> simp

theorem mem_mapsOf {row : WarehouseMap} :
    row ∈ mapsOf writes ↔ ∃ added, .map added ∈ writes ∧ added.after writes = row := by
  simp only [mapsOf, mem_map, mem_insertedMaps]

theorem mem_runsOf : row ∈ runsOf writes ↔ ∃ added, .run added ∈ writes ∧ added.after writes = row := by
  simp only [runsOf, mem_map, mem_insertedRuns]

theorem mem_eventsOf {row : OutboxEvent} :
    row ∈ eventsOf writes ↔ ∃ added, .event added ∈ writes ∧ added.after writes = row := by
  simp only [eventsOf, mem_map, mem_insertedEvents]

def Write.updatesRun : Write → Option Uuid
  | report id _ _ => some id
  | complete id _ => some id
  | _ => none

def reportsOf (writes : List Write) (runId : Uuid) : List StoredBinViewReport :=
  writes.filterMap fun
    | .report id report _ => if id = runId then some report else none
    | _ => none

theorem reportsOf_append (writes more : List Write) (runId : Uuid) :
    reportsOf (writes ++ more) runId = reportsOf writes runId ++ reportsOf more runId :=
  filterMap_append

theorem mem_reportsOf {runId : Uuid} {report : StoredBinViewReport} :
    report ∈ reportsOf writes runId ↔ ∃ time, .report runId report time ∈ writes := by
  simp only [reportsOf, mem_filterMap]
  constructor
  · rintro ⟨write, mem, same⟩
    cases write with
    | report id stored time =>
      dsimp only at same
      split_ifs at same with mine
      cases same
      exact ⟨time, mine ▸ mem⟩
    | _ => cases same
  · exact fun ⟨time, mem⟩ => ⟨_, mem, if_pos rfl⟩

namespace ReconciliationRun

def key (row : ReconciliationRun) : Uuid × Uuid × Uuid × Int :=
  (row.id, row.tenantId, row.storeId, row.startedAt)

theorem apply_key (row : ReconciliationRun) (write : Write) : (row.apply write).key = row.key := by
  unfold apply
  split <;> (try split_ifs) <;> rfl

theorem after_key : (row.after writes).key = row.key := foldl_keeps apply_key writes row

@[simp] theorem apply_id : (row.apply write).id = row.id := congrArg (·.1) (apply_key row write)

@[simp] theorem after_id : (row.after writes).id = row.id := congrArg (·.1) after_key

@[simp] theorem after_tenantId : (row.after writes).tenantId = row.tenantId :=
  congrArg (·.2.1) after_key

@[simp] theorem after_storeId : (row.after writes).storeId = row.storeId :=
  congrArg (·.2.2.1) after_key

theorem after_append : row.after (writes ++ more) = (row.after writes).after more :=
  foldl_append

theorem apply_untouched (other : write.updatesRun ≠ some row.id) : row.apply write = row := by
  unfold apply
  split
  · exact if_neg fun same => other (congrArg some same.symm)
  · exact if_neg fun same => other (congrArg some same.symm)
  · rfl

/-- **A run that no UPDATE is about stays as it is.** -/
theorem after_untouched (others : ∀ write ∈ writes, write.updatesRun ≠ some row.id) : row.after writes = row :=
  foldl_fixed fun write mem => apply_untouched (others write mem)

/-- **A run that is open now was open before.** -/
theorem after_running (opened : (row.after writes).status = .running) : row.status = .running := by
  induction writes generalizing row with
  | nil => exact opened
  | cons write rest ih =>
    have before : (row.apply write).status = .running := ih opened
    unfold apply at before
    split at before
    · split_ifs at before <;> exact before
    · split_ifs at before
      exact before
    · exact before

/-- **A completed run is not open.** -/
theorem after_completed {time : Int} (mem : .complete row.id time ∈ writes) : (row.after writes).status ≠
    .running := by
  obtain ⟨before, after, rfl⟩ := append_of_mem mem
  intro opened
  rw [after_append] at opened
  have closed : ((row.after before).apply (.complete row.id time)).status = .running := after_running opened
  simp [apply] at closed

/-- **The summary of a run is the last report stored for it.** -/
theorem after_summary : (row.after writes).summary = (reportsOf writes row.id).getLast?.or row.summary := by
  induction writes using List.reverseRecOn with
  | nil => rfl
  | append_singleton writes write ih =>
    have last : (row.after writes).id = row.id := after_id
    rw [after_append, reportsOf_append, List.getLast?_append]
    show ((row.after writes).apply write).summary = _
    cases write with
    | report id stored time =>
      by_cases mine : id = row.id
      · simp [apply, reportsOf, mine]
      · have kept : (row.after writes).apply (.report id stored time) = row.after writes :=
          if_neg fun same => mine (same.symm.trans last)
        have nothing : reportsOf [.report id stored time] row.id = [] := by simp [reportsOf, mine]
        rw [kept, nothing, ih]
        rfl
    | complete id time =>
      have kept : ((row.after writes).apply (.complete id time)).summary = (row.after writes).summary := by
        simp only [apply]
        split_ifs <;> rfl
      rw [kept, ih]
      rfl
    | _ => exact ih

end ReconciliationRun

namespace WarehouseMap

variable {row : WarehouseMap}

theorem after_append : row.after (writes ++ more) = (row.after writes).after more :=
  foldl_append

/-- **A mapping that is not retired stays as it is.** -/
theorem after_kept (kept : ∀ time, .retire row.id time ∉ writes) : row.after writes = row := by
  refine foldl_fixed fun write mem => ?_
  cases write with
  | retire id time =>
    refine if_neg fun same => kept time ?_
    rw [same]
    exact mem
  | _ => rfl

theorem sameKey_comm {first second : WarehouseMap} : first.sameKey second = second.sameKey first := by
  simp only [sameKey, eq_comm]

end WarehouseMap

namespace OutboxEvent

variable {row : OutboxEvent}

/-- The columns of an event that the drainer does not set. -/
def key (row : OutboxEvent) : Uuid × Uuid × String × Payload :=
  (row.eventId, row.tenantId, row.eventType, row.payload)

theorem apply_key (row : OutboxEvent) (write : Write) : (row.apply write).key = row.key := by
  unfold apply
  split <;> (try split_ifs) <;> rfl

theorem after_key : (row.after writes).key = row.key := foldl_keeps apply_key writes row

@[simp] theorem after_eventId : (row.after writes).eventId = row.eventId := congrArg (·.1) after_key

@[simp] theorem after_tenantId : (row.after writes).tenantId = row.tenantId :=
  congrArg (·.2.1) after_key

@[simp] theorem after_eventType : (row.after writes).eventType = row.eventType :=
  congrArg (·.2.2.1) after_key

@[simp] theorem after_payload : (row.after writes).payload = row.payload :=
  congrArg (·.2.2.2) after_key

/-- **A delivered event was marked so by the drainer.** -/
theorem after_delivered (pending : row.deliveryState = .pending)
    (delivered : (row.after writes).deliveryState = .delivered) :
    .settle row.eventId .delivered ∈ writes := by
  induction writes using List.reverseRecOn with
  | nil =>
    rw [show row.after [] = row from rfl, pending] at delivered
    cases delivered
  | append_singleton writes write ih =>
    have split : row.after (writes ++ [write]) = (row.after writes).apply write := foldl_append
    rw [split] at delivered
    have same : (row.after writes).eventId = row.eventId := after_eventId
    cases write with
    | settle id state =>
      by_cases mine : row.eventId = id
      · have now : ((row.after writes).apply (.settle id state)).deliveryState = state := by
          simp [apply, mine]
        rw [← mine, ← now, delivered]
        exact mem_append_right _ (mem_singleton_self _)
      · have other : (row.after writes).apply (.settle id state) = row.after writes :=
          if_neg fun equal => mine (same.symm.trans equal)
        rw [other] at delivered
        exact mem_append_left _ (ih delivered)
    | _ => exact mem_append_left _ (ih delivered)

end OutboxEvent

theorem clash_comm (first second : Write) : clash first second = clash second first := by
  have maps : ∀ one two : WarehouseMap, clash (.map one) (.map two) = clash (.map two) (.map one) := by
    intro one two
    simp only [clash]
    rw [@WarehouseMap.sameKey_comm one two, decide_eq_decide.2 (@eq_comm _ one.id two.id)]
  cases first <;> cases second <;> first
    | rfl
    | exact maps _ _
    | simp [clash, Write.changes, Write.holdsRun, eq_comm]

inductive Table where
  | map
  | run
  | event
  | result
  | audit
  | movement
  deriving DecidableEq

/-- The table and the identifier of the row a write inserts. -/
def Write.rowKey : Write → Option (Table × Uuid)
  | map row => some (.map, row.id)
  | run row => some (.run, row.id)
  | event row => some (.event, row.eventId)
  | result row => some (.result, row.id)
  | audit row => some (.audit, row.id)
  | movement row => some (.movement, row.id)
  | _ => none

abbrev collide : Write → Write → Bool := sameRow Write.rowKey

/-- The write is about mappings, runs, their reports, or events. -/
def Write.weighs : Write → Bool
  | map _ => true
  | retire _ _ => true
  | run _ => true
  | report _ _ _ => true
  | complete _ _ => true
  | event _ => true
  | settle _ _ => true
  | _ => false

/-! ### Statements -/

section Statements

variable {reference : Reference} {context : Context} {wrote : List Write} {id : Uuid}
variable {reply : Unit}

theorem sees_iff {tenantId : Uuid} : context.sees tenantId = true ↔ context.tenant = some tenantId := by
  simp [Context.sees]

theorem visibleRun_some {run : ReconciliationRun} (found : visibleRun context writes id = some run) :
    run ∈ runsOf writes ∧ run.id = id ∧ context.tenant = some run.tenantId := by
  have same := find?_some found
  obtain ⟨mem, seen⟩ := mem_filter.1 (mem_of_find?_eq_some found)
  exact ⟨mem, of_decide_eq_true same, sees_iff.1 seen⟩

theorem mem_wanted {row : RequestRow} :
    row ∈ wanted context writes ↔
      ∃ run ∈ runsOf writes, ∃ map ∈ mapsOf writes,
      context.tenant = some run.tenantId ∧ run.status = .running ∧ context.tenant = some map.tenantId ∧
      map.storeId = run.storeId ∧ map.purpose = .stock ∧ map.isActive = true ∧
      row = ⟨run.id, run.storeId, map.erpnextWarehouseRef, run.startedAt, run.summary⟩ := by
  simp only [wanted, visibleRuns, activeMaps, mem_flatMap, mem_filter, mem_map,
    and_eq_true, decide_eq_true_eq, sees_iff]
  constructor
  · rintro ⟨run, ⟨⟨there, mine⟩, opened⟩, map, ⟨⟨inside, ⟨store, active⟩, seen⟩, stock⟩, rfl⟩
    exact ⟨run, there, map, inside, mine, opened, seen, store, stock, active, rfl⟩
  · rintro ⟨run, there, map, inside, mine, opened, seen, store, stock, active, rfl⟩
    exact ⟨run, ⟨⟨there, mine⟩, opened⟩, map, ⟨⟨inside, ⟨store, active⟩, seen⟩, stock⟩, rfl⟩

theorem insertRun_ok {values : RunValues} {reply : ReconciliationRun}
    (ran : insertRun reference context writes values = .ok (reply, wrote)) :
    reply = values.row context ∧ wrote = [.run (values.row context)] ∧ context.tenant = some values.tenantId ∧
      ∀ other, .run other ∈ writes → other.id ≠ values.id := by
  obtain ⟨_, secured, ran⟩ := bind_ok ran
  obtain ⟨_, fresh, ran⟩ := bind_ok ran
  obtain ⟨-, -, -, ran⟩ := bind_ok₃ ran
  cases ran
  exact ⟨rfl, rfl, sees_iff.1 (require_ok secured), fun other mem =>
    require_all fresh other (mem_insertedRuns.2 mem)⟩

theorem insertEvent_ok {values : EventValues} (ran : insertEvent context writes values = .ok (reply, wrote)) :
    wrote = [.event (values.row context)] ∧
      ∀ other, .event other ∈ writes → other.eventId ≠ values.eventId := by
  obtain ⟨-, -, ran⟩ := bind_ok ran
  obtain ⟨_, fresh, ran⟩ := bind_ok ran
  cases ran
  exact ⟨rfl, fun other mem => require_all fresh other (mem_insertedEvents.2 mem)⟩

theorem insertMap_ok {values : MapValues} {reply : WarehouseMap}
    (ran : insertMap reference context writes values = .ok (reply, wrote)) :
    reply = values.row context ∧ wrote = [.map (values.row context)] ∧
      ∀ other, .map other ∈ writes → other.id ≠ values.id := by
  obtain ⟨-, -, ran⟩ := bind_ok₂ ran
  obtain ⟨_, fresh, ran⟩ := bind_ok ran
  obtain ⟨-, -, -, ran⟩ := bind_ok₃ ran
  cases ran
  exact ⟨rfl, rfl, fun other mem => require_all fresh other (mem_insertedMaps.2 mem)⟩

theorem insertAudit_ok {row : AuditEvent} (ran : insertAudit writes row = .ok (reply, wrote)) :
    wrote = [.audit row] ∧ ∀ other, .audit other ∈ writes → other.id ≠ row.id := by
  obtain ⟨_, fresh, ran⟩ := bind_ok ran
  cases ran
  exact ⟨rfl, fun other mem => require_all fresh other (mem_filterMap.2 ⟨_, mem, rfl⟩)⟩

theorem insertResult_ok {row : ReconciliationResult}
    (ran : insertResult context writes row = .ok (reply, wrote)) :
    wrote = [.result row] ∧ ∀ other, .result other ∈ writes → other.id ≠ row.id := by
  obtain ⟨-, -, ran⟩ := bind_ok ran
  obtain ⟨_, fresh, ran⟩ := bind_ok ran
  obtain ⟨-, -, ran⟩ := bind_ok ran
  cases ran
  exact ⟨rfl, fun other mem => require_all fresh other (mem_filterMap.2 ⟨_, mem, rfl⟩)⟩

theorem change_ok (reference : Reference) {edit : Change}
    (ran : exec reference context writes (.change edit) = .ok (reply, wrote)) :
    ∃ write, wrote = [write] ∧ write.weighs = false ∧ ∀ first ∈ writes, collide first write = false := by
  obtain ⟨added, went, rfl⟩ : ∃ added, insertChange context writes edit = .ok added ∧ added = wrote := by
    simp only [exec] at ran
    cases insert : insertChange context writes edit with
    | error error =>
      rw [insert] at ran
      cases ran
    | ok added =>
      rw [insert] at ran
      exact ⟨added, rfl, (ok_inj ran).2⟩
  cases edit with
  | movement row =>
    obtain ⟨-, -, went⟩ := bind_ok went
    obtain ⟨_, fresh, went⟩ := bind_ok went
    cases went
    refine ⟨_, rfl, rfl, fun first mem => ?_⟩
    cases first with
    | movement other => exact sameRow_ne rfl rfl (require_all fresh other (mem_filterMap.2 ⟨_, mem, rfl⟩))
    | _ => rfl
  | itemMap row =>
    obtain ⟨-, -, went⟩ := bind_ok went
    cases went
    refine ⟨_, rfl, rfl, fun first mem => ?_⟩
    cases first <;> rfl

theorem updateRun_cases (context : Context) (writes : List Write) (id : Uuid) (write : Write) :
    ((visibleRun context writes id).all (fun run => run.status ≠ .running) = true ∧
        updateRun context writes id write = []) ∨ updateRun context writes id write = [write] := by
  unfold updateRun
  split_ifs with opened
  · exact .inr rfl
  · refine .inl ⟨?_, rfl⟩
    cases found : visibleRun context writes id with
    | none => rfl
    | some run =>
      rw [found] at opened
      simpa using opened

end Statements

/-! ### What a call had found when it wrote -/

/-- An event asks for a run of a tenant. -/
structure Requested (event : OutboxEvent) (tenantId runId : Uuid) : Prop where
  eventType : event.eventType = ERPNEXT_RECONCILIATION_REQUESTED
  tenantId : event.tenantId = tenantId
  runId : event.payload.runId = runId
  pending : event.deliveryState = .pending

def requested (deterministicId : String → String → Uuid) (rows : List RequestRow) (ref : String) :
    Option RequestRow :=
  rows.find? fun row => (requestRef deterministicId row.runId 0).text = ref

section Found

variable (deterministicId : String → String → Uuid) (commits : List (Nat × List Write)) (call : Call)

/-- What a report locked when `seen` transactions were committed. -/
def lockedRows (seen : Nat) : List RequestRow := wanted call.context (contents (commits.take seen))

def lockedRuns (seen : Nat) : List Write :=
  (lockedRows commits call seen).map fun row => .lockRun row.runId

/-- **How a report ends that the server does not fail**, and what it wrote: `seen` transactions were
committed when it looked, `rest` is its log from then on. -/
inductive Reports (input : ReportSnapshotInput) (date : Int) (seen : Nat) (rest : Log) :
    Except Thrown ReportSnapshotResult → Prop where
  | missing (none : requested deterministicId (lockedRows commits call seen) input.requestRef = none) :
      Reports input date seen rest (.error .binViewNotFound)
  | replayed {row : RequestRow} {existing : StoredBinViewReport} {resolved : List (String × Uuid)}
      (found : requested deterministicId (lockedRows commits call seen) input.requestRef = some row)
      (stored : row.summary = some existing) (mine : existing.requestRef = input.requestRef)
      (same : sameLogicalReport existing input.body
        (input.body.entries.map (BinEntryInput.resolve resolved)) = true)
      (silent : written rest = []) : Reports input date seen rest (.ok ⟨true, existing.project⟩)
  | conflict {row : RequestRow} {existing : StoredBinViewReport} {resolved : List (String × Uuid)}
      (found : requested deterministicId (lockedRows commits call seen) input.requestRef = some row)
      (stored : row.summary = some existing) (mine : existing.requestRef = input.requestRef)
      (other : sameLogicalReport existing input.body
        (input.body.entries.map (BinEntryInput.resolve resolved)) = false) :
      Reports input date seen rest (.error .binViewConflict)
  | recorded {row : RequestRow} {resolved : List StoredEntry} {event : OutboxEvent} {seen' : Nat}
      (found : requested deterministicId (lockedRows commits call seen) input.requestRef = some row)
      (unreported : ∀ existing, row.summary = some existing → existing.requestRef ≠ input.requestRef)
      (early : seen' ≤ commits.length) (later : seen' ∈ seens rest)
      (asks : Requested event input.tenantId row.runId)
      (wrote : written rest = updateRun call.context
          (contents (commits.take seen') ++ lockedRuns commits call seen) row.runId
          (.report row.runId (storedReport input row resolved date) call.now) ++ [.event event]) :
      Reports input date seen rest (.ok ⟨false, (storedReport input row resolved date).project⟩)

/-- What a processed run was: not open when the processor looked, or completed by it. -/
structure Processed (input : ProcessInput) (log : Log) : Prop where
  only : ∀ write ∈ written log, write.weighs = true → ∃ time, write = .complete input.runId time
  closed : ∃ seen ∈ seens log, seen ≤ commits.length ∧
    ((visibleRun call.context (contents (commits.take seen)) input.runId).all
        (fun run => run.status ≠ .running) = true ∨
      .complete input.runId call.now ∈ written log)

inductive Effect (log : Log) : Body → List Write → Prop where
  | calm {body : Body} {writes : List Write} (calm : ∀ write ∈ writes, write.weighs = false) :
      Effect log body writes
  | triggered {input : TriggerRunInput} {row : ReconciliationRun} {audit : AuditEvent}
      {events : List Write} (asked : call.operation = .triggerRun input)
      (opened : row.status = .running) (unreported : row.summary = none)
      (asks : ∀ write ∈ events, ∃ event, write = .event event ∧ Requested event row.tenantId row.id) :
      Effect log (.run (toRunBody row)) ([.run row, .audit audit] ++ events)
  | reported {input : ReportSnapshotInput} {date : Int} {seen : Nat} {rest : Log}
      {result : ReportSnapshotResult} {writes : List Write}
      (asked : call.operation = .reportSnapshot input date) (early : seen ≤ commits.length)
      (first : log = .answered .lockRunning seen
        (.ok (lockedRows commits call seen, lockedRuns commits call seen)) :: rest)
      (reports : Reports deterministicId commits call input date seen rest (.ok result))
      (wrote : writes = lockedRuns commits call seen ++ written rest) :
      Effect log (.reported result) writes
  | mapped {row : WarehouseMap} (active : row.isActive = true) : Effect log (.map (.ok row)) [.map row]
  | retired {row : WarehouseMap} {id : Uuid} : Effect log (.map (.ok row)) [.retire id call.now]
  | processed {input : ProcessInput} {result : ReconciliationRunResult} {writes : List Write}
      (asked : call.operation = .process input) (processed : Processed commits call input log)
      (wrote : writes = written log) : Effect log (.processed result) writes
  | drained {eventId : Uuid} {update : DrainerUpdate} (asked : call.operation = .drain eventId update) :
      Effect log .done [.settle eventId update.state]

end Found

/-! ### Programs -/

theorem runsOf_calm (calm : ∀ write ∈ more, write.weighs = false) : runsOf (writes ++ more) = runsOf writes := by
  have none : insertedRuns more = [] := by
    refine eq_nil_iff_forall_not_mem.2 fun row mem => ?_
    cases calm _ (mem_insertedRuns.1 mem)
  have split : insertedRuns (writes ++ more) = insertedRuns writes ++ insertedRuns more := filterMap_append
  rw [runsOf, split, none, append_nil]
  refine map_congr_left fun row _ => ?_
  rw [ReconciliationRun.after_append, ReconciliationRun.after_untouched]
  intro write mem about
  have still := calm write mem
  cases write <;> cases about <;> cases still

theorem visibleRun_calm {context : Context} {id : Uuid} (calm : ∀ write ∈ more, write.weighs = false) :
    visibleRun context (writes ++ more) id = visibleRun context writes id := by
  unfold visibleRun visibleRuns
  rw [runsOf_calm calm]

theorem lockedRuns_calm {commits : List (Nat × List Write)} {call : Call} {seen : Nat} :
    ∀ write ∈ lockedRuns commits call seen, write.weighs = false := by
  intro write mem
  obtain ⟨row, -, rfl⟩ := mem_map.1 mem
  rfl

section Programs

variable {outside : Outside} {commits : List (Nat × List Write)} {call : Call} {own : List Write}
  {log : Log}
variable {result : ReconciliationRunResult}
variable {input : ProcessInput} {tenantId : Uuid}
variable {storeId : Uuid} {α : Type}

/-- The program throws only what the server throws at it. -/
def ServerThrows {α : Type} (outside : Outside) (program : Service α) : Prop :=
  ∀ log error, Ends (stockServer outside) program log (.error error) → ∃ fault, error = .pg fault

theorem serverThrows_done (value : α) : ServerThrows outside (.done value) := by
  intro log error ends
  cases (ends_done ends).2

theorem serverThrows_query (stmt : Stmt) : ServerThrows outside (clientQuery stmt) := by
  intro log error ends
  obtain ⟨seen, answer, -, same⟩ := ends_query ends
  cases answer with
  | ok given => cases same
  | error fault => exact ⟨fault, Except.error.inj same⟩

theorem serverThrows_newId : ServerThrows outside Prog.newId := by
  intro log error ends
  obtain ⟨id, -, same⟩ := ends_newId ends
  cases same

theorem serverThrows_bind {β : Type} {program : Service α} {next : α → Service β}
    (first : ServerThrows outside program) (later : ∀ value, ServerThrows outside (next value)) :
    ServerThrows outside (program.bind next) := by
  intro log error ends
  rcases ends_bind ends with ⟨error', threw, same⟩ | ⟨value, before, after, -, -, threw⟩
  · rw [Except.error.inj same]
    exact first _ _ threw
  · exact later value _ _ threw

theorem emit_serverThrows (tenantId storeId runId : Uuid) : ServerThrows outside (emit tenantId storeId runId) :=
  serverThrows_bind serverThrows_newId fun _ => serverThrows_query _

theorem resolveEntries_serverThrows (entries : List BinEntryInput) : ServerThrows outside
    (resolveEntries entries) := by
  unfold resolveEntries
  dsimp only
  split_ifs
  · exact serverThrows_done _
  · exact serverThrows_bind (serverThrows_query _) fun _ => serverThrows_done _

theorem record_serverThrows (tenantId : Uuid) (row : RequestRow) (stored : StoredBinViewReport) :
    ServerThrows outside (record tenantId row stored) :=
  serverThrows_bind (serverThrows_query _) fun _ =>
    serverThrows_bind (emit_serverThrows _ _ _) fun _ => serverThrows_done _

theorem careful_emit (tenantId storeId runId : Uuid) : Careful (stockServer outside)
    (emit tenantId storeId runId) :=
  careful_bind careful_newId fun _ => careful_query _

theorem careful_resolveEntries (entries : List BinEntryInput) :
    Careful (stockServer outside) (resolveEntries entries) := by
  unfold resolveEntries
  dsimp only
  split_ifs
  · exact careful_done _
  · exact careful_bind (careful_query _) fun _ => careful_done _

theorem careful_record (tenantId : Uuid) (row : RequestRow) (stored : StoredBinViewReport) :
    Careful (stockServer outside) (record tenantId row stored) :=
  careful_bind (careful_query _) fun _ => careful_bind (careful_emit _ _ _) fun _ => careful_done _

/-- **An emitted event asks for its run.** -/
theorem emit_effect {runId : Uuid} {done : Unit}
    (ends : Completes (stockServer outside) commits call own (emit tenantId storeId runId) log done) :
    ∃ event, written log = [.event event] ∧ Requested event tenantId runId := by
  obtain ⟨id, first, last, rfl, drawing, ends⟩ := completes_bind ends
  obtain rfl := completes_newId drawing
  obtain ⟨seen, wrote, rfl, -, ran, logged⟩ := query_logged ends
  obtain ⟨rfl, -⟩ := insertEvent_ok ran
  exact ⟨_, logged.written, rfl, rfl, rfl, rfl⟩

/-- **A triggered run is open, and its event, if it has one already, asks for it.** -/
theorem triggerRun_effect {input : TriggerRunInput} {body : ReconciliationRunBody}
    (ends : Completes (stockServer outside) commits call [] (triggerRun input) log body) :
    ∃ row audit events, body = toRunBody row ∧ row.status = .running ∧ row.summary = none ∧
      written log = [.run row, .audit audit] ++ events ∧
      ∀ write ∈ events, ∃ event, write = .event event ∧ Requested event row.tenantId row.id := by
  obtain ⟨store, seen₁, wrote₁, last, rfl, -, executed₁, logged₁, ends⟩ := query_then ends
  obtain ⟨-, rfl⟩ := ok_inj executed₁
  split_ifs at ends
  · exact absurd ends not_completes_fail
  · obtain ⟨runId, second, last, rfl, drawing, ends⟩ := completes_bind ends
    obtain rfl := completes_newId drawing
    obtain ⟨row, seen₂, wrote₂, last, rfl, -, executed₂, logged₂, ends⟩ := query_then ends
    obtain ⟨rfl, rfl, -, -⟩ := insertRun_ok executed₂
    obtain ⟨auditId, fourth, last, rfl, drawing', ends⟩ := completes_bind ends
    obtain rfl := completes_newId drawing'
    obtain ⟨done, seen₃, wrote₃, last, rfl, -, executed₃, logged₃, ends⟩ := query_then ends
    obtain ⟨rfl, -⟩ := insertAudit_ok executed₃
    obtain ⟨mapped, seen₄, wrote₄, last, rfl, -, executed₄, logged₄, ends⟩ := query_then ends
    obtain ⟨-, rfl⟩ := ok_inj executed₄
    obtain ⟨done', seventh, last, rfl, emitting, ends⟩ := completes_bind ends
    obtain ⟨rfl, rfl⟩ := completes_done ends
    refine ⟨_, ⟨auditId, input.actorUserId, input.tenantId, "erpnext_reconciliation.run.triggered",
      "erpnext_reconciliation_run", runId, input.storeId⟩, written seventh, rfl, rfl, rfl, ?_,
      fun write mem => ?_⟩
    · simp only [written_append]
      rw [show written ([] : Log) = [] from rfl, append_nil]
      rfl
    · unfold emitUnlessMapped at emitting
      split_ifs at emitting
      · obtain ⟨event, wrote, asks⟩ := emit_effect emitting
        rw [wrote] at mem
        exact ⟨event, mem_singleton.1 mem, asks⟩
      · obtain ⟨rfl, -⟩ := completes_done emitting
        cases mem

theorem resolveEntries_effect {entries : List BinEntryInput} {resolved : List StoredEntry}
    (ends : Completes (stockServer outside) commits call own (resolveEntries entries) log resolved) :
    written log = [] ∧ ∃ items, resolved = entries.map (BinEntryInput.resolve items) := by
  unfold resolveEntries at ends
  dsimp only at ends
  split_ifs at ends
  · obtain ⟨rfl, rfl⟩ := completes_done ends
    exact ⟨rfl, _, rfl⟩
  · obtain ⟨items, seen, wrote, last, rfl, -, ran, logged, ends⟩ := query_then ends
    obtain ⟨-, rfl⟩ := ok_inj ran
    obtain ⟨rfl, rfl⟩ := completes_done ends
    refine ⟨?_, items, rfl⟩
    rw [append_nil, logged.written]

/-- **A fresh report stores what it was given, and asks for its run.** -/
theorem record_effect {row : RequestRow} {stored : StoredBinViewReport} {result : ReportSnapshotResult}
    (ends : Completes (stockServer outside) commits call own (record tenantId row stored) log result) :
    result = ⟨false, stored.project⟩ ∧
      ∃ seen event, seen ≤ commits.length ∧ seen ∈ seens log ∧ Requested event tenantId row.runId ∧
      written log =
      updateRun call.context (contents (commits.take seen) ++ own) row.runId
      (.report row.runId stored call.now) ++ [.event event] := by
  obtain ⟨done, seen, wrote, last, rfl, early, ran, logged, ends⟩ := query_then ends
  obtain ⟨-, rfl⟩ := ok_inj ran
  obtain ⟨done', emitting, rfl⟩ := completes_map ends
  obtain ⟨event, emitted, asks⟩ := emit_effect emitting
  refine ⟨rfl, seen, event, early, mem_cons_self, asks, ?_⟩
  rw [written_append, logged.written, emitted]
  rfl

/-- **How a report ends that the server does not fail.** -/
theorem reportSnapshot_finishes {input : ReportSnapshotInput} {date : Int}
    {result : Except Thrown ReportSnapshotResult}
    (goes : Finishes (stockServer outside) commits call [] (reportSnapshot outside.deterministicId input date)
      log result) :
    (∃ fault, result = .error (.pg fault)) ∨
      ∃ seen rest, seen ≤ commits.length ∧
      log =
        .answered .lockRunning seen (.ok (lockedRows commits call seen, lockedRuns commits call seen)) ::
        rest ∧ Reports outside.deterministicId commits call input date seen rest result := by
  rcases finishes_bind (careful_query _) goes with
    ⟨error, rfl, threw⟩ | ⟨rows, first, rest, rfl, locking, goes⟩
  · obtain ⟨fault, rfl⟩ := serverThrows_query _ _ _ threw.ends
    exact .inl ⟨fault, rfl⟩
  obtain ⟨seen, wrote, rfl, early, ran, logged⟩ := query_logged locking
  rw [append_nil] at ran
  obtain ⟨rfl, rfl⟩ := ok_inj ran
  rw [nil_append, logged.written] at goes
  cases found : requested outside.deterministicId (lockedRows commits call seen) input.requestRef with
  | none =>
    have same : (lockedRows commits call seen).find? (fun row =>
        (requestRef outside.deterministicId row.runId 0).text = input.requestRef) = none := found
    rw [show wanted call.context (contents (commits.take seen)) = lockedRows commits call seen from rfl,
      same] at goes
    obtain ⟨-, rfl⟩ := ends_fail goes.ends
    exact .inr ⟨seen, rest, early, rfl, .missing found⟩
  | some row =>
    have same : (lockedRows commits call seen).find? (fun row =>
        (requestRef outside.deterministicId row.runId 0).text = input.requestRef) = some row := found
    rw [show wanted call.context (contents (commits.take seen)) = lockedRows commits call seen from rfl,
      same] at goes
    rcases finishes_bind (careful_resolveEntries _) goes with
      ⟨error, rfl, threw⟩ | ⟨resolved, second, last, rfl, resolving, goes⟩
    · obtain ⟨fault, rfl⟩ := resolveEntries_serverThrows _ _ _ threw.ends
      exact .inl ⟨fault, rfl⟩
    obtain ⟨nothing, items, rfl⟩ := resolveEntries_effect resolving
    rw [nothing, append_nil] at goes
    cases old : row.summary.filter fun old => old.requestRef = input.requestRef with
    | some existing' =>
      obtain ⟨stored, mine⟩ := filter_eq_some_iff.1 old
      rw [old] at goes
      dsimp only at goes
      split_ifs at goes with same
      · obtain ⟨rfl, rfl⟩ := ends_done goes.ends
        refine .inr ⟨seen, second ++ [], early, rfl, .replayed found stored (of_decide_eq_true mine) same ?_⟩
        rw [append_nil, nothing]
      · obtain ⟨-, rfl⟩ := ends_fail goes.ends
        exact .inr ⟨seen, second ++ last, early, rfl,
          .conflict found stored (of_decide_eq_true mine) (by simpa using same)⟩
    | none =>
      have unreported : ∀ old, row.summary = some old → old.requestRef ≠ input.requestRef := by
        intro other stored mine
        rw [stored, filter_some, if_pos (decide_eq_true mine)] at old
        cases old
      rw [old] at goes
      dsimp only at goes
      cases result with
      | error error =>
        obtain ⟨fault, rfl⟩ := record_serverThrows _ _ _ _ _ goes.ends
        exact .inl ⟨fault, rfl⟩
      | ok value =>
        have ends := (careful_record _ _ _).completes goes
        obtain ⟨rfl, seen', event, early', later, asks, wrote⟩ := record_effect ends
        refine .inr ⟨seen, second ++ last, early, rfl, .recorded found unreported early' ?_ asks ?_⟩
        · rw [seens_append]
          exact mem_append_right _ later
        · rw [written_append, nothing, wrote]
          rfl

theorem insertLine_calm (input : ProcessInput) (line : ComparedLine) :
    WritesOnly (stockServer outside) (fun write => write.weighs = false) (insertLine input line) := by
  refine writesOnly_draw fun id => writesOnly_query fun call view reply wrote ran write mem => ?_
  obtain ⟨rfl, -⟩ := insertResult_ok ran
  rw [mem_singleton.1 mem]
  rfl

theorem finish_effect {lines : List ComparedLine} (calm : ∀ write ∈ own, write.weighs = false)
    (ends : Completes (stockServer outside) commits call own (finish input lines) log result) :
    Processed commits call input log := by
  obtain ⟨done, first, last, rfl, inserting, ends⟩ := completes_bind ends
  have results := writesOnly_forEach (fun line => insertLine_calm input line) lines _ _ _ _ _ inserting
  obtain ⟨done', seen, wrote, last, rfl, early, ran, logged, ends⟩ := query_then ends
  obtain ⟨-, rfl⟩ := ok_inj ran
  obtain ⟨rfl, rfl⟩ := completes_done ends
  have still : ∀ write ∈ own ++ written first, write.weighs = false := by
    intro write mem
    rcases mem_append.1 mem with old | new
    · exact calm write old
    · exact results write new
  rw [append_nil]
  have inside : seen ∈ seens (first ++ [.answered (.completeRun input.runId) seen (.ok (done',
      updateRun call.context (contents (commits.take seen) ++ (own ++ written first)) input.runId
        (.complete input.runId call.context.now)))]) := by
    rw [seens_append]
    exact mem_append_right _ mem_cons_self
  rcases updateRun_cases call.context (contents (commits.take seen) ++ (own ++ written first)) input.runId
    (.complete input.runId call.context.now) with ⟨closed, nothing⟩ | wrote
  · rw [visibleRun_calm still] at closed
    refine ⟨fun write mem weighs => ?_, seen, inside, early, .inl closed⟩
    rw [written_append, logged.written, nothing, append_nil] at mem
    rw [results write mem] at weighs
    cases weighs
  · refine ⟨fun write mem weighs => ?_, seen, inside, early, .inr ?_⟩
    · rw [written_append, logged.written, wrote] at mem
      rcases mem_append.1 mem with result | complete
      · rw [results write result] at weighs
        cases weighs
      · exact ⟨call.now, mem_singleton.1 complete⟩
    · rw [written_append, logged.written, wrote]
      exact mem_append_right _ (mem_singleton_self _)

theorem Processed.prepend {first last : Log} (processed : Processed commits call input last)
    (calm : ∀ write ∈ written first, write.weighs = false) :
    Processed commits call input (first ++ last) := by
  obtain ⟨only, seen, inside, early, closed⟩ := processed
  refine ⟨fun write mem weighs => ?_, seen, ?_, early, closed.imp_right fun mem => ?_⟩
  · rw [written_append] at mem
    rcases mem_append.1 mem with old | new
    · rw [calm write old] at weighs
      cases weighs
    · exact only write new weighs
  · rw [seens_append]
    exact mem_append_right _ inside
  · rw [written_append]
    exact mem_append_right _ mem

theorem compare_effect (calm : ∀ write ∈ own, write.weighs = false)
    (ends : Completes (stockServer outside) commits call own (compare input storeId) log result) :
    Processed commits call input log := by
  obtain ⟨count, seen, wrote, last, rfl, -, ran, logged, ends⟩ := query_then ends
  obtain ⟨-, rfl⟩ := ok_inj ran
  have silent : ∀ write ∈ ([] : List Write), write.weighs = false := fun _ none => by cases none
  refine Processed.prepend ?_ (by rw [logged.written]; exact silent)
  rw [logged.written, append_nil] at ends
  split_ifs at ends
  · exact finish_effect calm ends
  · obtain ⟨dp2, seen', wrote', last, rfl, -, executed', logged', ends⟩ := query_then ends
    obtain ⟨-, rfl⟩ := Prod.mk.inj (Except.ok.inj executed')
    obtain ⟨report, seen'', wrote'', last, rfl, -, executed'', logged'', ends⟩ := query_then ends
    obtain ⟨-, rfl⟩ := Prod.mk.inj (Except.ok.inj executed'')
    rw [logged'.written, logged''.written, append_nil, append_nil] at ends
    refine Processed.prepend (Processed.prepend (finish_effect calm ends) ?_) ?_
    · rw [logged''.written]
      exact silent
    · rw [logged'.written]
      exact silent

/-- **A processed run was not open, or is completed.** -/
theorem process_effect (ends : Completes (stockServer outside) commits call [] (process input) log result) :
    Processed commits call input log := by
  obtain ⟨run, seen, wrote, last, rfl, early, ran, logged, ends⟩ := query_then ends
  have locks : ∀ write ∈ wrote, write.weighs = false := by
    simp only [stockServer, exec] at ran
    split at ran
    · cases ran
      exact fun _ none => by cases none
    · cases ran
      intro write mem
      rw [mem_singleton.1 mem]
      rfl
  have skipped : (visibleRun call.context (contents (commits.take seen)) input.runId).all
      (fun run => run.status ≠ .running) = true →
      Processed commits call input [.answered (.lockRun input.runId) seen (.ok (run, wrote))] := by
    intro closed
    refine ⟨fun write mem weighs => ?_, seen, mem_cons_self, early, .inl closed⟩
    rw [logged.written] at mem
    rw [locks write mem] at weighs
    cases weighs
  rw [append_nil] at ran
  simp only [stockServer, exec] at ran
  cases found : visibleRun call.context (contents (commits.take seen)) input.runId with
  | none =>
    rw [found] at ran
    cases ran
    obtain ⟨rfl, rfl⟩ := completes_done ends
    rw [append_nil]
    exact skipped (by rw [found]; rfl)
  | some row =>
    rw [found] at ran
    cases ran
    dsimp only at ends
    rw [logged.written] at ends
    split_ifs at ends with opened
    · refine Processed.prepend (compare_effect locks ends) ?_
      rw [logged.written]
      exact locks
    · obtain ⟨rfl, rfl⟩ := completes_done ends
      rw [append_nil]
      exact skipped (by rw [found]; simpa using opened)

theorem set_effect {input : SetInput} {result : MapResult}
    (goes : Completes (stockServer outside) commits call [] (set input) log result) :
    written log = [] ∨ ∃ row, result = .ok row ∧ row.isActive = true ∧ written log = [.map row] := by
  obtain ⟨store, seen, wrote, last, rfl, -, ran, logged, goes⟩ := query_then goes
  obtain ⟨-, rfl⟩ := ok_inj ran
  rw [written_append, logged.written, nil_append]
  split_ifs at goes
  · obtain ⟨rfl, rfl⟩ := completes_done goes
    exact .inl rfl
  · have faultless : Faultless (stockServer outside) (insertMapping input) :=
      faultless_bind (fun log error ends => by
        obtain ⟨id, -, same⟩ := ends_newId ends
        cases same) fun _ => faultless_bind (faultless_query _) fun _ => faultless_done _
    have goes := faultless.completes goes
    obtain ⟨id, second, last, rfl, drawing, goes⟩ := completes_bind goes
    obtain rfl := completes_newId drawing
    obtain ⟨row, seen', wrote', last, rfl, -, executed', logged', goes⟩ := query_then goes
    obtain ⟨rfl, rfl, -⟩ := insertMap_ok executed'
    obtain ⟨rfl, rfl⟩ := completes_done goes
    exact .inr ⟨_, rfl, rfl, rfl⟩

theorem retire_effect {input : RetireInput} {result : MapResult}
    (ends : Completes (stockServer outside) commits call [] (retire input) log result) :
    written log = [] ∨ ∃ row id, result = .ok row ∧ written log = [.retire id call.now] := by
  obtain ⟨updated, seen, wrote, last, rfl, -, ran, logged, ends⟩ := query_then ends
  obtain ⟨-, -, ran⟩ := bind_ok ran
  have ran := Except.ok.inj ran
  rw [written_append, logged.written]
  unfold retireMap at ran
  split at ran
  · cases ran
    obtain ⟨old, seen', wrote', last, rfl, -, executed', logged', ends⟩ := query_then ends
    obtain ⟨-, rfl⟩ := Prod.mk.inj (Except.ok.inj executed')
    refine .inl ?_
    split_ifs at ends
    · obtain ⟨rfl, rfl⟩ := completes_done ends
      rfl
    · obtain ⟨rfl, rfl⟩ := completes_done ends
      rfl
  · cases ran
    obtain ⟨rfl, rfl⟩ := completes_done ends
    exact .inr ⟨_, _, rfl, rfl⟩

theorem Operation.effect {body : Body}
    (ends : Completes (stockServer outside) commits call [] (call.operation.program outside.deterministicId)
      log body) : Effect outside.deterministicId commits call log body (written log) := by
  obtain ⟨now, op⟩ := call
  have silent : ∀ write ∈ ([] : List Write), write.weighs = false := fun _ none => by cases none
  cases op with
  | change tenantId edit =>
    obtain ⟨_, changing, rfl⟩ := completes_map ends
    obtain ⟨seen, wrote, rfl, -, went, logged⟩ := query_logged changing
    rw [logged.written]
    obtain ⟨write, rfl, calm, -⟩ := change_ok outside.reference went
    refine .calm fun other mem => ?_
    rw [mem_singleton.1 mem]
    exact calm
  | triggerRun input =>
    obtain ⟨result, ran, rfl⟩ := completes_map ends
    obtain ⟨row, audit, events, rfl, opened, unreported, wrote, asks⟩ := triggerRun_effect ran
    rw [wrote]
    exact .triggered rfl opened unreported asks
  | pullRequests input =>
    obtain ⟨result, ran, rfl⟩ := completes_map ends
    obtain ⟨rows, seen, wrote, last, rfl, -, went, logged, ended⟩ := query_then ran
    obtain ⟨-, rfl⟩ := ok_inj went
    obtain ⟨rfl, rfl⟩ := completes_done ended
    exact .calm silent
  | reportSnapshot input date =>
    obtain ⟨result, ran, rfl⟩ := completes_map ends
    rcases reportSnapshot_finishes ran.finishes with ⟨fault, same⟩ | ⟨seen, rest, early, rfl, reports⟩
    · cases same
    · exact .reported rfl early rfl reports rfl
  | set input =>
    obtain ⟨result, ran, rfl⟩ := completes_map ends
    rcases set_effect ran with nothing | ⟨row, rfl, active, wrote⟩
    · rw [nothing]
      exact .calm silent
    · rw [wrote]
      exact .mapped active
  | retire input =>
    obtain ⟨result, ran, rfl⟩ := completes_map ends
    rcases retire_effect ran with nothing | ⟨row, id, rfl, wrote⟩
    · rw [nothing]
      exact .calm silent
    · rw [wrote]
      exact .retired
  | process input =>
    obtain ⟨result, ran, rfl⟩ := completes_map ends
    exact .processed rfl (process_effect ran) rfl
  | drain eventId update =>
    obtain ⟨result, ran, rfl⟩ := completes_map ends
    obtain ⟨seen, wrote, rfl, -, went, logged⟩ := query_logged ran
    rw [logged.written]
    simp only [stockServer, exec] at went
    split_ifs at went
    · obtain ⟨-, rfl⟩ := ok_inj went
      exact .drained rfl
    · obtain ⟨-, rfl⟩ := ok_inj went
      exact .calm silent

/-! ### Calls that return only after all their statements succeeded -/

theorem careful_reportSnapshot (input : ReportSnapshotInput) (date : Int) :
    Careful (stockServer outside) (reportSnapshot outside.deterministicId input date) := by
  refine careful_bind (careful_query _) fun rows => ?_
  split
  · exact careful_fail _
  · refine careful_bind (careful_resolveEntries _) fun resolved => ?_
    split
    · split_ifs
      · exact careful_done _
      · exact careful_fail _
    · exact careful_record _ _ _

theorem careful_finish (input : ProcessInput) (lines : List ComparedLine) :
    Careful (stockServer outside) (finish input lines) := by
  have line : ∀ line, Careful (stockServer outside) (insertLine input line) :=
    fun line => careful_bind careful_newId fun id => careful_query _
  exact careful_bind (careful_forEach line lines) fun _ => careful_bind (careful_query _) fun _ => careful_done _

theorem careful_process (input : ProcessInput) : Careful (stockServer outside) (process input) := by
  refine careful_bind (careful_query _) fun run => ?_
  split
  · exact careful_done _
  · split_ifs
    · refine careful_bind (careful_query _) fun count => ?_
      split_ifs
      · exact careful_finish _ _
      · exact careful_bind (careful_query _) fun _ => careful_bind (careful_query _) fun _ => careful_finish _ _
    · exact careful_done _

end Programs

end DataPulse.Stock
