/-
**Runs over the interleavings of the calls.**

* `Reachable.collideFree`: no two committed rows of a table share an id.
-/

import DataPulse.Stock.Effects

namespace DataPulse.Stock

open Lib Lib.Interleave Platform
open Outbox (DeliveryState)

/-! ### One row for an id -/

section Keys

variable {outside : Outside} {reference : Reference} {context : Context} {writes wrote : List Write}
  {config : Config}
variable {second first : Write}

theorem clash_of_collide (collides : collide first second = true) : clash first second = true := by
  cases first <;> cases second <;> simp_all [clash, sameRow, Write.rowKey]

theorem exec_rows {stmt : Stmt} {reply : Reply stmt}
    (ran : exec reference context writes stmt = .ok (reply, wrote)) :
    (∀ write ∈ wrote, write.rowKey = none) ∨
      ∃ write, wrote = [write] ∧ ∀ first ∈ writes, collide first write = false := by
  have updating : ∀ {id : Uuid} {update : Write}, update.rowKey = none →
      updateRun context writes id update = wrote → ∀ write ∈ wrote, write.rowKey = none := by
    rintro id update plain rfl write mem
    rcases updateRun_cases context writes id update with ⟨-, nothing⟩ | made
    · rw [nothing] at mem
      cases mem
    · rw [made] at mem
      rw [mem_singleton.1 mem]
      exact plain
  have silent : ∀ write ∈ ([] : List Write), write.rowKey = none := fun _ none => by cases none
  have single : ∀ {update : Write}, update.rowKey = none → ∀ write ∈ [update], write.rowKey = none := by
    intro update plain write mem
    rw [mem_singleton.1 mem]
    exact plain
  cases stmt with
  | change edit =>
    obtain ⟨write, rfl, -, apart⟩ := change_ok reference ran
    exact .inr ⟨write, rfl, apart⟩
  | insertRun values =>
    obtain ⟨-, rfl, -, fresh⟩ := insertRun_ok ran
    refine .inr ⟨_, rfl, fun first mem => ?_⟩
    cases first with
    | run other => exact sameRow_ne rfl rfl (fresh other mem)
    | _ => rfl
  | insertAudit row =>
    obtain ⟨rfl, fresh⟩ := insertAudit_ok ran
    refine .inr ⟨_, rfl, fun first mem => ?_⟩
    cases first with
    | audit other => exact sameRow_ne rfl rfl (fresh other mem)
    | _ => rfl
  | insertEvent values =>
    obtain ⟨rfl, fresh⟩ := insertEvent_ok ran
    refine .inr ⟨_, rfl, fun first mem => ?_⟩
    cases first with
    | event other => exact sameRow_ne rfl rfl (fresh other mem)
    | _ => rfl
  | insertResult row =>
    obtain ⟨rfl, fresh⟩ := insertResult_ok ran
    refine .inr ⟨_, rfl, fun first mem => ?_⟩
    cases first with
    | result other => exact sameRow_ne rfl rfl (fresh other mem)
    | _ => rfl
  | insertMap values =>
    obtain ⟨-, rfl, fresh⟩ := insertMap_ok ran
    refine .inr ⟨_, rfl, fun first mem => ?_⟩
    cases first with
    | map other => exact sameRow_ne rfl rfl (fresh other mem)
    | _ => rfl
  | lockRunning =>
    obtain ⟨-, rfl⟩ := ok_inj ran
    refine .inl fun write mem => ?_
    obtain ⟨row, -, rfl⟩ := mem_map.1 mem
    rfl
  | storeReport runId report | completeRun id =>
    obtain ⟨-, made⟩ := ok_inj ran
    exact .inl (updating rfl made)
  | lockRun id =>
    simp only [exec] at ran
    split at ran
    · cases ran
      exact .inl silent
    · cases ran
      exact .inl (single rfl)
  | retireMap id version =>
    obtain ⟨-, -, ran⟩ := bind_ok ran
    have ran := Except.ok.inj ran
    unfold retireMap at ran
    split at ran
    · cases ran
      exact .inl silent
    · cases ran
      exact .inl (single rfl)
  | updateEvent id update =>
    simp only [exec] at ran
    split_ifs at ran
    · obtain ⟨-, rfl⟩ := ok_inj ran
      exact .inl (single rfl)
    · obtain ⟨-, rfl⟩ := ok_inj ran
      exact .inl silent
  | _ =>
    obtain ⟨-, rfl⟩ := ok_inj ran
    exact .inl silent

theorem stockServer_lawful (outside : Outside) : Lawful { stockServer outside with clash := collide } :=
  .of_rows fun _ _ _ _ _ ran => exec_rows ran

theorem Reachable.collideFree (reach : Reachable outside config) :
    config.ledger.Pairwise fun first second => collide first second = false :=
  ((Interleave.Reachable.weaken (fun _ _ => clash_of_collide) reach).clashFree
    (stockServer_lawful outside)).ledger

/-- **A run has one row.** -/
theorem Reachable.one_run (reach : Reachable outside config) {first second : ReconciliationRun}
    (inOne : .run first ∈ config.ledger) (inTwo : .run second ∈ config.ledger) (same : first.id = second.id) :
    first = second :=
  Write.run.inj (eq_of_sameRow reach.collideFree inOne inTwo rfl (by rw [same]; rfl))

theorem Reachable.one_event (reach : Reachable outside config) {first second : OutboxEvent}
    (inOne : .event first ∈ config.ledger) (inTwo : .event second ∈ config.ledger)
    (same : first.eventId = second.eventId) : first = second :=
  Write.event.inj (eq_of_sameRow reach.collideFree inOne inTwo rfl (by rw [same]; rfl))

end Keys

/-! ### Commits -/

section Commits

variable {outside : Outside} {config : Config} {pid : Nat} {writes : List Write}
  {before after : List (Nat × List Write)}
variable {deterministicId : String → String → Uuid}
variable {row : ReconciliationRun} {seen : Nat}

theorem Reachable.effect (reach : Reachable outside config)
    (commits : config.commits = before ++ (pid, writes) :: after) :
    ∃ proc body, config.procs[pid]? = some proc ∧ proc.result = some (.ok body) ∧
      Effect outside.deterministicId before proc.call proc.log body writes ∧
      Held (stockServer outside) before proc.log ∧ Ordered proc.log := by
  obtain ⟨proc, body, found, gave, rfl, ends, held, ordered⟩ := reach.commit_of clash_comm commits
  exact ⟨proc, body, found, gave, Operation.effect ends, held, ordered⟩

variable {commits : List (Nat × List Write)} {call : Call} {log : Log} {body : Body}

theorem Reports.weighs {input : ReportSnapshotInput} {date : Int} {rest : Log}
    {result : Except Thrown ReportSnapshotResult}
    (reports : Reports deterministicId commits call input date seen rest result)
    (gave : ∃ value, result = .ok value) {write : Write}
    (mem : write ∈ lockedRuns commits call seen ++ written rest) (weighs : write.weighs = true) :
    ∃ row resolved event, requested deterministicId (lockedRows commits call seen) input.requestRef =
      some row ∧ Requested event input.tenantId row.runId ∧
      (write = .report row.runId (storedReport input row resolved date) call.now ∨ write = .event event) := by
  have inside : write ∈ written rest := by
    rcases mem_append.1 mem with lock | here
    · rw [lockedRuns_calm write lock] at weighs
      cases weighs
    · exact here
  obtain ⟨value, rfl⟩ := gave
  cases reports with
  | replayed found stored mine same silent =>
    rw [silent] at inside
    cases inside
  | @recorded row resolved event seen' found unreported early later asks wrote =>
    refine ⟨row, resolved, event, found, asks, ?_⟩
    rw [wrote] at inside
    rcases mem_append.1 inside with stored | emitted
    · rcases updateRun_cases call.context (contents (commits.take seen') ++ lockedRuns commits call seen)
        row.runId (.report row.runId (storedReport input row resolved date) call.now) with
        ⟨-, nothing⟩ | made
      · rw [nothing] at stored
        cases stored
      · rw [made] at stored
        exact .inl (mem_singleton.1 stored)
    · exact .inr (mem_singleton.1 emitted)

theorem Effect.inserted (effect : Effect deterministicId commits call log body writes)
    (mem : .run row ∈ writes) :
    (row.status = .running ∧ row.summary = none) ∧ ∀ id time, .retire id time ∉ writes := by
  cases effect with
  | calm calm => cases calm _ mem
  | @triggered input row' audit events asked opened unreported asks =>
    constructor
    · rcases mem_append.1 mem with here | event
      · simp only [mem_cons, Write.run.injEq, reduceCtorEq, not_mem_nil, or_false] at here
        rw [here]
        exact ⟨opened, unreported⟩
      · obtain ⟨event, same, -⟩ := asks _ event
        cases same
    · intro id time retired
      rcases mem_append.1 retired with here | event
      · simp at here
      · obtain ⟨event, same, -⟩ := asks _ event
        cases same
  | @reported input date seen rest result writes asked early first reports wrote =>
    rw [wrote] at mem
    obtain ⟨row', resolved, event, -, -, same | same⟩ := reports.weighs ⟨_, rfl⟩ mem rfl
    · cases same
    · cases same
  | mapped active | retired => cases mem_singleton.1 mem
  | @processed input result writes asked processed wrote =>
    rw [wrote] at mem
    obtain ⟨time, same⟩ := processed.only _ mem rfl
    cases same
  | drained asked => cases mem_singleton.1 mem

/-- **A run goes in open and without a report.** -/
theorem Reachable.inserted (reach : Reachable outside config) (mem : .run row ∈ config.ledger) :
    row.status = .running ∧ row.summary = none := by
  obtain ⟨pid, writes, commit, inside⟩ := mem_contents.1 mem
  obtain ⟨before, after, commits⟩ := append_of_mem commit
  obtain ⟨proc, body, -, -, effect, -⟩ := reach.effect commits
  exact (effect.inserted inside).1

theorem requested_some {ref : String} {row : RequestRow}
    (found : requested deterministicId (lockedRows commits call seen) ref = some row) :
    (requestRef deterministicId row.runId 0).text = ref ∧
      ∃ run, .run run ∈ contents (commits.take seen) ∧ run.id = row.runId ∧
      call.context.tenant = some run.tenantId ∧ (run.after (contents (commits.take seen))).status = .running ∧
      (run.after (contents (commits.take seen))).summary = row.summary ∧
      .lockRun row.runId ∈ lockedRuns commits call seen := by
  unfold requested at found
  have named : (requestRef deterministicId row.runId 0).text = ref := by
    simpa using find?_some found
  have inside := mem_of_find?_eq_some found
  obtain ⟨run, there, map, -, tenant, opened, -, -, -, -, rfl⟩ := mem_wanted.1 inside
  obtain ⟨added, mem, rfl⟩ := mem_runsOf.1 there
  refine ⟨named, added, mem, ReconciliationRun.after_id.symm, ?_, opened, rfl, ?_⟩
  · rw [tenant, ReconciliationRun.after_tenantId]
  · exact mem_map.2 ⟨_, inside, rfl⟩

/-- **Every event asks for a run that is there, of its tenant.** -/
theorem Reachable.asks (reach : Reachable outside config) (commits : config.commits = before ++ after)
    {event : OutboxEvent} (mem : .event event ∈ contents before) :
    event.deliveryState = .pending ∧ event.eventType = ERPNEXT_RECONCILIATION_REQUESTED ∧
      ∃ run, .run run ∈ contents before ∧ run.id = event.payload.runId ∧ run.tenantId = event.tenantId := by
  obtain ⟨pid, writes, commit, inside⟩ := mem_contents.1 mem
  obtain ⟨early, late, rfl⟩ := append_of_mem commit
  rw [append_assoc, cons_append] at commits
  obtain ⟨proc, body, -, -, effect, -⟩ := reach.effect commits
  cases effect with
  | calm calm => cases calm _ inside
  | @triggered input row audit events asked opened unreported asks =>
    rcases mem_append.1 inside with here | emitted
    · simp at here
    · obtain ⟨event', same, asks⟩ := asks _ emitted
      obtain rfl := Write.event.inj same
      refine ⟨asks.pending, asks.eventType, row, ?_, asks.runId.symm, asks.tenantId.symm⟩
      exact mem_contents.2 ⟨pid, _, commit, by simp⟩
  | @reported input date seen rest result writes asked seenEarly first reports wrote =>
    rw [wrote] at inside
    obtain ⟨row, resolved, event', found, asks, same | same⟩ := reports.weighs ⟨_, rfl⟩ inside rfl
    · cases same
    · obtain rfl := Write.event.inj same
      obtain ⟨-, run, there, id, tenant, -⟩ := requested_some found
      refine ⟨asks.pending, asks.eventType, run, ?_, id.trans asks.runId.symm, ?_⟩
      · refine contents_mono ?_ there
        exact (List.take_prefix _ _).trans (prefix_append _ _)
      · have mine : proc.call.context.tenant = some input.tenantId := by
          rw [Call.context, asked]
          rfl
        rw [asks.tenantId]
        exact mem_unique tenant mine
  | mapped active | retired => cases mem_singleton.1 inside
  | @processed input result writes asked processed wrote =>
    rw [wrote] at inside
    obtain ⟨time, same⟩ := processed.only _ inside rfl
    cases same
  | drained asked => cases mem_singleton.1 inside

/-- **Only the drainer marks an event.** -/
theorem Reachable.settled (reach : Reachable outside config) {eventId : Uuid} {state : DeliveryState}
    (mem : .settle eventId state ∈ config.ledger) :
    ∃ proc ∈ config.procs, ∃ update, proc.call.operation = .drain eventId update ∧ update.state = state := by
  obtain ⟨pid, writes, commit, inside⟩ := mem_contents.1 mem
  obtain ⟨before, after, commits⟩ := append_of_mem commit
  obtain ⟨proc, body, found, -, effect, -⟩ := reach.effect commits
  refine ⟨proc, mem_of_getElem? found, ?_⟩
  cases effect with
  | calm calm => cases calm _ inside
  | @triggered input row audit events asked opened unreported asks =>
    rcases mem_append.1 inside with here | emitted
    · simp at here
    · obtain ⟨event', same, -⟩ := asks _ emitted
      cases same
  | @reported input date seen rest result writes asked seenEarly first reports wrote =>
    rw [wrote] at inside
    obtain ⟨row, resolved, event', -, -, same | same⟩ := reports.weighs ⟨_, rfl⟩ inside rfl
    · cases same
    · cases same
  | mapped active | retired => cases mem_singleton.1 inside
  | @processed input result writes asked processed wrote =>
    rw [wrote] at inside
    obtain ⟨time, same⟩ := processed.only _ inside rfl
    cases same
  | @drained eventId' update asked =>
    obtain ⟨rfl, rfl⟩ := Write.settle.inj (mem_singleton.1 inside)
    exact ⟨update, asked, rfl⟩

/-- What was committed up to a later time is what was committed up to an earlier one, and some of what
came since. -/
theorem contents_later {commits : List (Nat × List Write)} {seen later : Nat} (ordered : seen ≤ later) :
    ∃ more, contents (commits.take later) = contents (commits.take seen) ++ more ∧
      ∀ write ∈ more, write ∈ contents (commits.drop seen) := by
  refine ⟨contents ((commits.drop seen).take (later - seen)), ?_, fun write mem => ?_⟩
  · rw [← contents_append, ← List.take_add]
    congr 2
    omega
  · exact contents_take mem

/-- **A run whose row a transaction holds is as it was found.** -/
theorem still {stmt : Stmt} {reply : Reply stmt} {wrote more : List Write}
    (held : Held (stockServer outside) commits log)
    (answered : Entry.answered stmt seen (.ok (reply, wrote)) ∈ log) (locked : .lockRun row.id ∈ wrote)
    (since : ∀ write ∈ more, write ∈ contents (commits.drop seen)) :
    row.after (contents (commits.take seen) ++ more) = row.after (contents (commits.take seen)) := by
  rw [ReconciliationRun.after_append]
  refine ReconciliationRun.after_untouched fun write mem about => ?_
  rw [ReconciliationRun.after_id] at about
  have apart := held _ _ _ _ answered write (since write mem) _ locked
  cases write <;> cases about
  · simp [stockServer, clash, Write.changes, Write.holdsRun] at apart
  · simp [stockServer, clash, Write.changes, Write.holdsRun] at apart

/-- **A processed run is not open.** -/
theorem Reachable.closed (reach : Reachable outside config) {proc : Proc} (mem : proc ∈ config.procs)
    {input : ProcessInput} (asked : proc.call.operation = .process input) {value : Body}
    (gave : proc.result = some (.ok value)) {run : ReconciliationRun} (tenant : run.tenantId = input.tenantId)
    (same : run.id = input.runId)
    (known : ∀ seen ∈ seens proc.log, .run run ∈ contents (config.commits.take seen)) :
    (run.after config.ledger).status ≠ .running := by
  have ends := reach.finishes mem gave
  have program : (stockServer outside).program proc.call =
      (process input).bind fun result => .done (.processed result) := by
    show proc.call.operation.program _ = _
    rw [asked]
    rfl
  rw [program] at ends
  obtain ⟨result, log₁, rest, split, ran, -⟩ := returns_bind (careful_process input) ends
  have inside : ∀ seen ∈ seens log₁, seen ∈ seens proc.log := by
    intro seen mem
    rw [split, seens_append]
    exact mem_append_left _ mem
  obtain ⟨-, seen, looked, early, closed⟩ := process_effect ran
  have later : config.ledger = contents (config.commits.take seen) ++ contents (config.commits.drop seen) :=
    contents_split _ _
  rcases closed with closed | completed
  · -- the run was there when the processor looked, and not open
    intro opened
    rw [later, ReconciliationRun.after_append] at opened
    have there : run.after (contents (config.commits.take seen)) ∈
        visibleRuns proc.call.context (contents (config.commits.take seen)) := by
      refine mem_filter.2 ⟨mem_runsOf.2 ⟨run, known seen (inside seen looked), rfl⟩, ?_⟩
      rw [sees_iff, ReconciliationRun.after_tenantId, tenant, Call.context, asked]
      rfl
    cases found : visibleRun proc.call.context (contents (config.commits.take seen)) input.runId with
    | none =>
      have missed := find?_eq_none.1 found _ there
      simp [same] at missed
    | some other =>
      obtain ⟨here, id, -⟩ := visibleRun_some found
      obtain ⟨added, onTable, rfl⟩ := mem_runsOf.1 here
      rw [ReconciliationRun.after_id] at id
      have one : added = run := by
        refine reach.one_run ?_ ?_ (id.trans same.symm)
        · rw [later]
          exact mem_append_left _ onTable
        · rw [later]
          exact mem_append_left _ (known seen (inside seen looked))
      rw [found, one] at closed
      exact absurd (ReconciliationRun.after_running opened) (by simpa using closed)
  · have wrote : .complete run.id proc.call.now ∈ config.ledger := by
      have sound := ((careful_bind (careful_process input) fun result =>
        careful_done (Body.processed result)).completes ends).sound
      obtain ⟨pid, found⟩ := mem_iff_getElem?.1 mem
      obtain ⟨before, after, commits⟩ := reach.committed found gave sound
      refine mem_contents.2 ⟨pid, written proc.log, by rw [commits]; simp, ?_⟩
      rw [split, written_append, same]
      exact mem_append_left _ completed
    exact ReconciliationRun.after_completed wrote

end Commits

end DataPulse.Stock
