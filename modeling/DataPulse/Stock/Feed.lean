/-
**Whether an open run can still complete.**

The connector of a tenant holds a cursor. Any of the services' steps happen in any order; the worker takes up
a run when an event for it was emitted, and marks the event delivered after it processed the run; and a
connector goes on to the cursor of a page it was answered.

* `runs_complete`: in a run of such steps every open run can complete.
-/

import DataPulse.Lib.Keyset
import DataPulse.Lib.Machine
import DataPulse.Stock.Reports

namespace DataPulse.Stock

open Lib Lib.Interleave Platform
open Lib.Keyset (Offered)
open Outbox (DeliveryState)

variable {state : State} {outside : Outside} {config : Config} {writes : List Write}

/-! ### The services and the connectors -/

/-- The services, and the cursor that the connector of each tenant holds. -/
structure State where
  config : Config
  held : Uuid → Option String

/-- What happens: a step of the services, or a connector takes over the cursor of a page. -/
inductive Action where
  | serve (event : Event Uuid PgError Call)
  | advance (pid : Nat)

def asked (writes : List Write) (tenantId runId : Uuid) : Bool :=
  (insertedEvents writes).any fun event => event.payload.runId = runId && event.tenantId = tenantId

def processed (config : Config) (tenantId runId : Uuid) : Bool :=
  config.procs.any fun proc => proc.call.operation = .process ⟨runId, tenantId⟩ &&
    proc.result.any fun result => result.isOk

/-- A call begins only when there is reason to: the worker takes up a run for an event, and the drainer marks
an event delivered when its run was processed. -/
def permitted (config : Config) : Event Uuid PgError Call → Bool
  | .start call =>
    match call.operation with
    | .process input => asked config.ledger input.tenantId input.runId
    | .drain eventId .markDelivered => (insertedEvents config.ledger).any fun event =>
      event.eventId = eventId && processed config event.tenantId event.payload.runId
    | _ => true
  | _ => true

/-- The tenant of a pull, and the cursor it was answered. -/
def fetched (config : Config) (pid : Nat) : Option (Uuid × String) := do
  let proc ← config.procs[pid]?
  match proc.call.operation, proc.result with
  | .pullRequests input, some (.ok (.page page)) => some (input.tenantId, wireCursor input.since page)
  | _, _ => none

def protocolStep (outside : Outside) (state : State) : Action → Option State
  | .serve event =>
    if permitted state.config event then
      (Interleave.step (stockServer outside) state.config event).map fun config =>
        { state with config := config }
    else none
  | .advance pid => (fetched state.config pid).map fun (tenantId, cursor) =>
    { state with held := Function.update state.held tenantId (some cursor) }

/-- **Reconciliation with its connectors.** -/
def reconciliation (outside : Outside) : Machine State Action where
  start := ⟨.empty, fun _ => none⟩
  step := protocolStep outside

/-! ### Runs that wait -/

def WarehouseMap.serves (map : WarehouseMap) (run : ReconciliationRun) : Bool :=
  map.tenantId = run.tenantId && map.storeId = run.storeId && map.purpose = .stock && map.isActive

def waiting (writes : List Write) : List ReconciliationRun :=
  (runsOf writes).filter fun run => run.status = .running && !asked writes run.tenantId run.id

def ahead (cursor : Option String) (run : ReconciliationRun) : Bool := beyond (servableCursor cursor) run.id

def committing (outside : Outside) (config : Config) (event : Event Uuid PgError Call) : List Write :=
  match Interleave.step (stockServer outside) config event with
  | none => []
  | some config' => contents (config'.commits.drop config.commits.length)

def retires (writes : List Write) (map : WarehouseMap) : Bool :=
  writes.any fun
    | .retire id _ => id = map.id
    | _ => false

/-- **The commit strands no run**: no run waits for a mapping it retires, and a run it inserts without an event
has a mapping and lies behind the connector's cursor. -/
def commitKeeps (state : State) (writes : List Write) : Bool :=
  ((waiting state.config.ledger).all fun run => (mapsOf state.config.ledger).all fun map =>
    !(map.serves run && retires writes map)) &&
  (insertedRuns writes).all fun run => asked writes run.tenantId run.id ||
    ((mapsOf state.config.ledger).any (fun map => map.serves run) && ahead (state.held run.tenantId) run)

/-- **The step strands no run.** -/
def Keeps (outside : Outside) (state : State) : Action → Bool
  | .serve event => commitKeeps state (committing outside state.config event)
  | .advance pid => (fetched state.config pid).all fun (tenantId, cursor) =>
    (waiting state.config.ledger).all fun run => run.tenantId ≠ tenantId || ahead (some cursor) run

/-- **The run can complete**: an event for it is not delivered, or it is on one of the pages from the
connector's cursor on, whatever their limit. -/
def CanComplete (state : State) (run : ReconciliationRun) : Prop :=
  (∃ event ∈ eventsOf state.config.ledger, event.eventType = ERPNEXT_RECONCILIATION_REQUESTED ∧
    event.tenantId = run.tenantId ∧ event.payload.runId = run.id ∧ event.deliveryState ≠ .delivered) ∨
  ∀ limit, Offered RequestRow.runId Uuid.precedes (wanted ⟨some run.tenantId, 0⟩ state.config.ledger)
    (pageLimit limit) (servableCursor (state.held run.tenantId)) run.id

/-! ### Pages -/

section Pages

variable {proc : Proc} {cursor : Option String}

theorem pageLimit_pos (limit : Int) : 1 ≤ pageLimit limit := by
  unfold pageLimit BIN_VIEW_FEED_MAX_PAGE
  omega

theorem offered_iff {tenantId runId : Uuid} {limit : Int} :
    Offered RequestRow.runId Uuid.precedes (wanted ⟨some tenantId, 0⟩ writes) (pageLimit limit)
      (servableCursor cursor) runId ↔
      ∃ run ∈ runsOf writes, ∃ map ∈ mapsOf writes, run.id = runId ∧ run.tenantId = tenantId ∧
      run.status = .running ∧ map.serves run = true ∧ ahead cursor run = true := by
  rw [Keyset.offered_iff Uuid.precedes_total (fun _ _ _ => Uuid.precedes_trans)
    (fun _ _ => Uuid.precedes_antisymm) (pageLimit_pos limit)]
  simp only [mem_wanted, WarehouseMap.serves, and_eq_true, decide_eq_true_eq]
  constructor
  · rintro ⟨row, ⟨run, there, map, inside, mine, opened, seen, store, stock, active, rfl⟩, rfl, further⟩
    obtain rfl := Option.some.inj mine
    exact ⟨run, there, map, inside, rfl, rfl, opened, ⟨⟨⟨(Option.some.inj seen).symm, store⟩, stock⟩, active⟩,
      further⟩
  · rintro ⟨run, there, map, inside, rfl, rfl, opened, ⟨⟨⟨tenant, store⟩, stock⟩, active⟩, further⟩
    exact ⟨_, ⟨run, there, map, inside, rfl, opened, congrArg some tenant.symm, store, stock, active, rfl⟩,
      rfl, further⟩

end Pages

/-! ### What the steps keep -/

/-- **What holds of the services and their connectors in a run that strands no run.** -/
structure Sound (outside : Outside) (state : State) : Prop where
  reachable : Reachable outside state.config
  /-- A waiting run has a mapping, and lies behind the connector's cursor. -/
  waits : ∀ run ∈ waiting state.config.ledger,
    (∃ map ∈ mapsOf state.config.ledger, map.serves run = true) ∧ ahead (state.held run.tenantId) run = true
  /-- The worker sees the run it takes up. -/
  looks : ∀ proc ∈ state.config.procs, ∀ input, proc.call.operation = .process input →
    ∃ run, .run run ∈ state.config.ledger ∧ run.id = input.runId ∧ run.tenantId = input.tenantId ∧
      ∀ seen ∈ seens proc.log, .run run ∈ contents (state.config.commits.take seen)
  /-- An event is marked delivered after its run was processed. -/
  marks : ∀ proc ∈ state.config.procs, ∀ eventId, proc.call.operation = .drain eventId .markDelivered →
    ∃ event, .event event ∈ state.config.ledger ∧ event.eventId = eventId ∧
      processed state.config event.tenantId event.payload.runId = true

section Steps

variable {config' : Config} {event : Event Uuid PgError Call} {more : List Write}
variable {map : WarehouseMap}
variable {run : ReconciliationRun} {tenantId : Uuid}
variable {runId : Uuid}

theorem asked_iff :
    asked writes tenantId runId = true ↔
      ∃ event, .event event ∈ writes ∧ event.payload.runId = runId ∧ event.tenantId = tenantId := by
  simp [asked]

theorem asked_append (writes more : List Write) (tenantId runId : Uuid) :
    asked (writes ++ more) tenantId runId = (asked writes tenantId runId || asked more tenantId runId) := by
  have split : insertedEvents (writes ++ more) = insertedEvents writes ++ insertedEvents more := filterMap_append
  rw [asked, split, any_append]
  rfl

theorem processed_iff :
    processed config tenantId runId = true ↔
      ∃ proc ∈ config.procs, proc.call.operation = .process ⟨runId, tenantId⟩ ∧
      ∃ value, proc.result = some (.ok value) := by
  simp only [processed, List.any_eq_true, and_eq_true, decide_eq_true_eq]
  refine exists_congr fun proc => and_congr_right fun _ => and_congr_right fun _ => ?_
  constructor
  · intro gave
    obtain ⟨result, ended, fine⟩ := (any_eq_true _ _).1 gave
    cases result with
    | error error => cases fine
    | ok value => exact ⟨value, ended⟩
  · rintro ⟨value, ended⟩
    rw [ended]
    rfl

theorem serves_after : map.serves (run.after writes) = map.serves run := by
  simp only [WarehouseMap.serves, ReconciliationRun.after_tenantId, ReconciliationRun.after_storeId]

theorem mem_waiting :
    run ∈ waiting writes ↔
      run ∈ runsOf writes ∧ run.status = .running ∧ asked writes run.tenantId run.id = false := by
  simp [waiting]

theorem mapsOf_kept (mem : map ∈ mapsOf writes) (kept : ∀ time, .retire map.id time ∉ more) :
    map ∈ mapsOf (writes ++ more) := by
  obtain ⟨added, there, rfl⟩ := mem_mapsOf.1 mem
  refine mem_mapsOf.2 ⟨added, mem_append_left _ there, ?_⟩
  rw [WarehouseMap.after_append]
  exact WarehouseMap.after_kept kept

theorem retires_iff : retires writes map = true ↔ ∃ time, .retire map.id time ∈ writes := by
  simp only [retires, List.any_eq_true]
  constructor
  · rintro ⟨write, mem, same⟩
    cases write with
    | retire id time => exact ⟨time, of_decide_eq_true same ▸ mem⟩
    | _ => cases same
  · rintro ⟨time, mem⟩
    exact ⟨_, mem, decide_eq_true rfl⟩

theorem ledger_committing (next : Interleave.step (stockServer outside) config event = some config') :
    config'.ledger = config.ledger ++ committing outside config event := by
  obtain ⟨more, grown⟩ := step_commits (stockServer outside) next
  rw [committing, next, Config.ledger, Config.ledger, grown, contents_append]
  dsimp only
  rw [grown, drop_left]

theorem committing_run (reach : Reachable outside config)
    (next : Interleave.step (stockServer outside) config event = some config') {row : ReconciliationRun}
    (mem : .run row ∈ committing outside config event) (id : Uuid) (time : Int) :
    .retire id time ∉ committing outside config event := by
  have reached : Reachable outside config' := .step reach next
  have nothing : ∀ {config'' : Config},
      config''.commits = config.commits → Interleave.step (stockServer outside) config event = some config'' →
      committing outside config event = [] := by
    intro config'' same next
    rw [committing, next]
    dsimp only
    rw [same, List.drop_length]
    rfl
  rcases step_cases (stockServer outside) next with
    ⟨call, -, same⟩ | ⟨pid, proc, found, -, ⟨proc', -, same⟩ | ⟨result, -, same⟩⟩
  · rw [nothing (by rw [same]) next] at mem
    cases mem
  · rw [nothing (by rw [same]; rfl) next] at mem
    cases mem
  · rcases config.conclude_commits pid proc result with unchanged | ⟨-, -, grown⟩
    · rw [nothing (by rw [same, unchanged]) next] at mem
      cases mem
    · have commits : config'.commits = config.commits ++ (pid, written proc.log) :: [] := by
        rw [same]
        exact grown
      have wrote : committing outside config event = written proc.log := by
        rw [committing, next]
        dsimp only
        rw [commits, drop_left]
        exact append_nil _
      obtain ⟨proc', body, -, -, effect, -⟩ := reached.effect commits
      rw [wrote] at mem ⊢
      exact (effect.inserted mem).2 id time

variable (sound : Sound outside state)
include sound

/-- **A step that strands no run leaves every waiting run with a mapping, behind the cursor.** -/
theorem Sound.waits_served (next : Interleave.step (stockServer outside) state.config event = some config')
    (keeps : commitKeeps state (committing outside state.config event) = true) :
    ∀ run ∈ waiting config'.ledger, (∃ map ∈ mapsOf config'.ledger, map.serves run = true) ∧
      ahead (state.held run.tenantId) run = true := by
  intro run mem
  obtain ⟨mem, opened, unasked⟩ := mem_waiting.1 mem
  have grown := ledger_committing next
  obtain ⟨added, there, rfl⟩ := mem_runsOf.1 mem
  rw [grown, asked_append, or_eq_false_iff, ReconciliationRun.after_tenantId,
    ReconciliationRun.after_id] at unasked
  rw [grown] at there opened ⊢
  simp only [serves_after, ReconciliationRun.after_tenantId, ahead, ReconciliationRun.after_id]
  simp only [commitKeeps, and_eq_true, all_eq_true, not_eq_true', Bool.and_eq_false_iff, or_eq_true] at keeps
  rcases mem_append.1 there with old | new
  · -- the run was waiting before, and no mapping it waits for is retired
    have was : added.after state.config.ledger ∈ waiting state.config.ledger := by
      rw [ReconciliationRun.after_append] at opened
      refine mem_waiting.2 ⟨mem_runsOf.2 ⟨added, old, rfl⟩, ReconciliationRun.after_running opened, ?_⟩
      rw [ReconciliationRun.after_tenantId, ReconciliationRun.after_id]
      exact unasked.1
    obtain ⟨⟨map, inside, serves⟩, further⟩ := sound.waits _ was
    have kept := (keeps.1 _ was map inside).resolve_left (by rw [serves]; decide)
    refine ⟨⟨map, mapsOf_kept inside fun time retired => ?_, serves_after.symm.trans serves⟩, ?_⟩
    · rw [retires_iff.2 ⟨time, retired⟩] at kept
      cases kept
    · rw [ahead, ReconciliationRun.after_tenantId, ReconciliationRun.after_id] at further
      exact further
  · -- the step commits the run
    obtain ⟨mapped, further⟩ :=
      (keeps.2 added (mem_insertedRuns.2 new)).resolve_left (by rw [unasked.2]; decide)
    obtain ⟨map, inside, serves⟩ := List.any_eq_true.1 mapped
    exact ⟨⟨map, mapsOf_kept inside fun time => committing_run sound.reachable next new _ time, serves⟩, further⟩

/-- **A step of the services that strands no run keeps everything.** -/
theorem Sound.serve (permits : permitted state.config event = true)
    (next : Interleave.step (stockServer outside) state.config event = some config')
    (keeps : commitKeeps state (committing outside state.config event) = true) :
    Sound outside { state with config := config' } := by
  have grown := ledger_committing next
  obtain ⟨more, commits⟩ := step_commits (stockServer outside) next
  have stays : ∀ {write : Write}, write ∈ state.config.ledger → write ∈ config'.ledger := by
    intro write mem
    rw [grown]
    exact mem_append_left _ mem
  have still : ∀ {tenantId runId : Uuid}, processed state.config tenantId runId = true →
      processed config' tenantId runId = true := by
    intro tenantId runId done
    obtain ⟨proc, mem, op, value, gave⟩ := processed_iff.1 done
    obtain ⟨pid, found⟩ := mem_iff_getElem?.1 mem
    exact processed_iff.2 ⟨proc, mem_of_getElem? (step_keeps found gave next), op, value, gave⟩
  refine ⟨.step sound.reachable next, sound.waits_served next keeps, fun proc mem input op => ?_,
    fun proc mem eventId op => ?_⟩
  · rcases step_proc next mem with ⟨call, rfl, rfl⟩ | ⟨prior, there, same, looks⟩
    · -- the worker takes up the run of an event
      have asks : asked state.config.ledger input.tenantId input.runId = true := by
        replace op : call.operation = .process input := op
        simpa [permitted, op] using permits
      obtain ⟨event, emitted, id, tenant⟩ := asked_iff.1 asks
      obtain ⟨-, -, run, added, same, owner⟩ :=
        sound.reachable.asks (append_nil state.config.commits).symm emitted
      exact ⟨run, stays added, same.trans id, owner.trans tenant, fun _ none => by cases none⟩
    · obtain ⟨run, added, id, tenant, knows⟩ := sound.looks prior there input (same ▸ op)
      refine ⟨run, stays added, id, tenant, fun seen inside => ?_⟩
      show .run run ∈ contents (config'.commits.take seen)
      rw [commits]
      rcases looks seen inside with before | now
      · exact contents_mono ((prefix_append _ _).take seen) (knows seen before)
      · rw [now, List.take_left]
        exact added
  · rcases step_proc next mem with ⟨call, rfl, rfl⟩ | ⟨prior, there, same, -⟩
    · replace op : call.operation = .drain eventId .markDelivered := op
      simp only [permitted, op, List.any_eq_true, and_eq_true, decide_eq_true_eq] at permits
      obtain ⟨event, emitted, id, done⟩ := permits
      exact ⟨event, stays (mem_insertedEvents.1 emitted), id, still done⟩
    · obtain ⟨event, emitted, id, done⟩ := sound.marks prior there eventId (same ▸ op)
      exact ⟨event, stays emitted, id, still done⟩

theorem Sound.advance {tenantId : Uuid} {cursor : String}
    (keeps : ∀ run ∈ waiting state.config.ledger, run.tenantId = tenantId → ahead (some cursor) run = true) :
    Sound outside { state with held := Function.update state.held tenantId (some cursor) } := by
  refine ⟨sound.reachable, fun run mem => ?_, sound.looks, sound.marks⟩
  obtain ⟨served, further⟩ := sound.waits run mem
  refine ⟨served, ?_⟩
  by_cases mine : run.tenantId = tenantId
  · show ahead (Function.update state.held tenantId (some cursor) run.tenantId) run = true
    rw [mine, Function.update_self]
    exact keeps run mem mine
  · show ahead (Function.update state.held tenantId (some cursor) run.tenantId) run = true
    rw [Function.update_of_ne mine]
    exact further

/-- **An open run of a sound state can complete.** -/
theorem Sound.canComplete (mem : run ∈ runsOf state.config.ledger) (opened : run.status = .running) :
    CanComplete state run := by
  by_cases emitted : asked state.config.ledger run.tenantId run.id = true
  · left
    obtain ⟨event, added, id, tenant⟩ := asked_iff.1 emitted
    obtain ⟨pending, eventType, -⟩ := sound.reachable.asks (append_nil state.config.commits).symm added
    refine ⟨_, mem_eventsOf.2 ⟨event, added, rfl⟩, OutboxEvent.after_eventType.trans eventType,
      OutboxEvent.after_tenantId.trans tenant, ?_, fun delivered => ?_⟩
    · rw [OutboxEvent.after_payload, id]
    · -- an event that is delivered was marked so after its run was processed, which closed it
      obtain ⟨marker, there, update, op, state'⟩ :=
        sound.reachable.settled (OutboxEvent.after_delivered pending delivered)
      obtain rfl : update = .markDelivered := by
        cases update <;> first
          | rfl
          | cases state'
      obtain ⟨other, inserted', same, done⟩ := sound.marks marker there _ op
      obtain rfl := sound.reachable.one_event inserted' added same
      obtain ⟨worker, among, took, value, gave⟩ := processed_iff.1 done
      obtain ⟨row, known, rowId, rowTenant, knows⟩ := sound.looks worker among _ took
      obtain ⟨itself, here, rfl⟩ := mem_runsOf.1 mem
      have one : itself = row := by
        refine sound.reachable.one_run here known ?_
        rw [rowId, id, ReconciliationRun.after_id]
      refine sound.reachable.closed among took gave rowTenant rowId knows ?_
      rw [← one]
      exact opened
  · right
    obtain ⟨⟨map, inside, serves⟩, further⟩ := sound.waits run
      (mem_waiting.2 ⟨mem, opened, Bool.eq_false_of_not_eq_true emitted⟩)
    exact fun limit => offered_iff.2 ⟨run, mem, map, inside, rfl, rfl, opened, serves, further⟩

omit sound

/-- **In a run of steps that strand no run, every open run can complete.** -/
theorem runs_complete
    (reaches : (reconciliation outside).Reaches (fun state action => Keeps outside state action = true)
      (reconciliation outside).start state) :
    ∀ run ∈ runsOf state.config.ledger, run.status = .running → CanComplete state run := by
  have sound : Sound outside state := by
    refine reaches.invariant ?_ fun state action next sound keeps step => ?_
    · refine ⟨.empty, fun run none => ?_, fun proc none => ?_, fun proc none => ?_⟩
      · cases none
      · cases none
      · cases none
    · cases action with
      | serve event =>
        replace step : (if permitted state.config event then
            (Interleave.step (stockServer outside) state.config event).map fun config =>
              { state with config := config }
          else none) = some next := step
        split_ifs at step with permits
        obtain ⟨config', next', rfl⟩ := map_eq_some_iff.1 step
        exact sound.serve permits next' keeps
      | advance pid =>
        obtain ⟨⟨tenantId, cursor⟩, found, rfl⟩ := map_eq_some_iff.1 step
        refine sound.advance fun run mem mine => ?_
        simp only [Keeps, found, all_some, all_eq_true, or_eq_true,
          decide_eq_true_eq] at keeps
        exact (keeps run mem).resolve_left (not_not.2 mine)
  exact fun run mem opened => sound.canComplete mem opened

end Steps

/-! ### Runs that strand a run, and one that strands none -/

theorem not_canComplete {run : ReconciliationRun} (silent : eventsOf state.config.ledger = [])
    (hidden : ((runsOf state.config.ledger).all fun other => (mapsOf state.config.ledger).all fun map =>
        !(map.serves other && ahead (state.held other.tenantId) other)) = true) :
    ¬ CanComplete state run := by
  rintro (⟨event, mem, -⟩ | offered)
  · rw [silent] at mem
    cases mem
  · obtain ⟨other, there, map, inside, -, tenant, -, serves, further⟩ := offered_iff.1 (offered 1)
    have none := all_eq_true.1 (all_eq_true.1 hidden other there) map inside
    rw [serves, tenant, further] at none
    cases none

def triggeredActions : List Action := (reportedEvents.take 13).map .serve

def retiredActions : List Action :=
  triggeredActions ++ List.map Action.serve [.start ⟨3, .retire ⟨sample 0, sample 3, 1⟩⟩, .ask 2, .stop 2 none]

/-- A run is open, nothing asks for it, and no page from the connector's cursor on offers it. -/
def strandedIn (state : State) : Bool :=
  (runsOf state.config.ledger).any (fun run => run.status = .running) &&
    (eventsOf state.config.ledger).isEmpty &&
    (runsOf state.config.ledger).all fun other => (mapsOf state.config.ledger).all fun map =>
      !(map.serves other && ahead (state.held other.tenantId) other)

theorem exists_stranded (stranded : strandedIn state = true) :
    ∃ run ∈ runsOf state.config.ledger, run.status = .running ∧ ¬ CanComplete state run := by
  obtain ⟨stranded, hidden⟩ := and_eq_true_iff.1 stranded
  obtain ⟨opened, silent⟩ := and_eq_true_iff.1 stranded
  obtain ⟨run, mem, running⟩ := List.any_eq_true.1 opened
  exact ⟨run, mem, of_decide_eq_true running, not_canComplete (isEmpty_iff.1 silent) hidden⟩

/-- **A run whose mapping is retired is stranded.** -/
theorem retired_strands :
    ∃ state, (reconciliation sampleOutside).Reachable state ∧
      ∃ run ∈ runsOf state.config.ledger, run.status = .running ∧ ¬ CanComplete state run := by
  have ran : ((reconciliation sampleOutside).run (reconciliation sampleOutside).start retiredActions).any
      strandedIn = true := by
    decide +kernel
  obtain ⟨state, ran, stranded⟩ := (any_eq_true _ _).1 ran
  exact ⟨state, Machine.run_later ran, exists_stranded stranded⟩

/-- The run is pulled, reported and processed, the cursor goes on, and another run is triggered. -/
def completedActions : List Action :=
  triggeredActions ++ (List.map Action.serve [.start ⟨3, .pullRequests ⟨sample 0, none, 10⟩⟩, .ask 2,
      .stop 2 none,
      .start ⟨4, .reportSnapshot twoPieces 4⟩, .ask 3, .ask 3, .ask 3, .draw 3 (sample 5), .ask 3,
      .stop 3 none] ++ [.advance 2] ++
    List.map Action.serve [.start ⟨5, .triggerRun ⟨sample 0, sample 1, sample 8⟩⟩, .ask 4, .draw 4 (sample 6),
      .ask 4, .draw 4 (sample 7), .ask 4, .ask 4, .stop 4 none,
      .start ⟨6, .drain (sample 5) .claim⟩, .ask 5, .stop 5 none,
      .start ⟨7, .process ⟨sample 2, sample 0⟩⟩, .ask 6, .ask 6, .ask 6, .ask 6, .ask 6,
      .stop 6 none, .start ⟨8, .drain (sample 5) .markDelivered⟩, .ask 7, .stop 7 none])

theorem runs_complete_sample :
    ∃ state,
      (reconciliation sampleOutside).run (reconciliation sampleOutside).start completedActions = some state ∧
      ((runsOf state.config.ledger).map fun run => (run.id, run.status)) =
        [(sample 2, .completed), (sample 6, .running)] ∧
      ∀ run ∈ runsOf state.config.ledger, run.status = .running → CanComplete state run := by
  have ran : ((reconciliation sampleOutside).run (reconciliation sampleOutside).start completedActions).any
      (fun state => ((runsOf state.config.ledger).map fun run => (run.id, run.status))
        = [(sample 2, .completed), (sample 6, .running)]) = true := by
    decide +kernel
  obtain ⟨state, ran, statuses⟩ := (any_eq_true _ _).1 ran
  have fits : (reconciliation sampleOutside).AllowedAlong (fun state action => Keeps sampleOutside state action =
      true) (reconciliation sampleOutside).start completedActions := by
    decide +kernel
  exact ⟨state, ran, of_decide_eq_true statuses, runs_complete (Machine.run_reaches ran fits)⟩

end DataPulse.Stock
