/-
**How a reconciliation run ends.**

Over the interleavings of any number of deliveries of an event with all other calls:

* `run_reconciled`: a run is open without a result, or reconciled, and a delivery leaves it reconciled.
-/

import DataPulse.Stock.Comparison
import DataPulse.Stock.Reports

namespace DataPulse.Stock

open Lib Lib.Interleave Lib.Prog Platform
open Inventory (Movement)
open ItemMaps (Mapping)

/-! ### What the other calls write -/

/-- The write is neither a result nor a terminal update, and a report it stores has exact quantities. -/
def Write.proper : Write → Prop
  | .result _ => False
  | .complete _ _ => False
  | .report _ stored _ => ExactReport (some stored)
  | _ => True

def Stmt.proper : Stmt → Prop
  | .insertResult _ => False
  | .completeRun _ => False
  | .storeReport _ report => ExactReport (some report)
  | _ => True

variable {outside : Outside} {context : Context} {writes : List Write} {call : Call} {log : Log}
  {input : ProcessInput} {config : Config}

section Proper

variable {reference : Reference} {wrote : List Write}
variable {statement : Stmt}

theorem updateRun_mem {id : Uuid} {update write : Write} (mem : write ∈ updateRun context writes id update) :
    write = update := by
  rcases updateRun_cases context writes id update with ⟨-, nothing⟩ | made
  · rw [nothing] at mem
    cases mem
  · rw [made] at mem
    exact mem_singleton.1 mem

theorem exec_proper {reply : Reply statement} (proper : statement.proper)
    (ran : exec reference context writes statement = .ok (reply, wrote)) : ∀ write ∈ wrote, write.proper := by
  have silent : ∀ write ∈ ([] : List Write), write.proper := fun _ none => by cases none
  have single : ∀ {update : Write}, update.proper → ∀ write ∈ [update], write.proper := by
    intro update plain write mem
    rw [mem_singleton.1 mem]
    exact plain
  cases statement with
  | insertResult row | completeRun id => cases proper
  | change edit =>
    obtain ⟨added, went, same⟩ := map_ok ran
    obtain ⟨-, rfl⟩ := Prod.mk.inj same
    cases edit with
    | movement row =>
      obtain ⟨-, -, went⟩ := bind_ok₂ went
      cases went
      exact single trivial
    | itemMap row =>
      obtain ⟨-, -, went⟩ := bind_ok went
      cases went
      exact single trivial
  | insertRun values =>
    obtain ⟨-, rfl, -⟩ := insertRun_ok ran
    exact single trivial
  | insertAudit row =>
    obtain ⟨rfl, -⟩ := insertAudit_ok ran
    exact single trivial
  | insertEvent values =>
    obtain ⟨rfl, -⟩ := insertEvent_ok ran
    exact single trivial
  | insertMap values =>
    obtain ⟨-, rfl, -⟩ := insertMap_ok ran
    exact single trivial
  | lockRunning =>
    obtain ⟨-, rfl⟩ := ok_inj ran
    intro write mem
    obtain ⟨row, -, rfl⟩ := mem_map.1 mem
    trivial
  | storeReport runId report =>
    obtain ⟨-, rfl⟩ := ok_inj ran
    intro write mem
    rw [updateRun_mem mem]
    exact proper
  | lockRun id =>
    simp only [exec] at ran
    split at ran
    · cases ran
      exact silent
    · cases ran
      exact single trivial
  | retireMap id version =>
    obtain ⟨-, -, ran⟩ := bind_ok ran
    have ran := Except.ok.inj ran
    unfold retireMap at ran
    split at ran
    · cases ran
      exact silent
    · cases ran
      exact single trivial
  | updateEvent id update =>
    simp only [exec] at ran
    split_ifs at ran
    · obtain ⟨-, rfl⟩ := ok_inj ran
      exact single trivial
    · obtain ⟨-, rfl⟩ := ok_inj ran
      exact silent
  | _ =>
    obtain ⟨-, rfl⟩ := ok_inj ran
    exact silent

theorem query_proper (proper : statement.proper) :
    WritesOnly (stockServer outside) Write.proper (clientQuery statement) :=
  writesOnly_query fun _ _ _ _ ran => exec_proper proper ran

theorem emit_proper (tenantId storeId runId : Uuid) :
    WritesOnly (stockServer outside) Write.proper (emit tenantId storeId runId) :=
  writesOnly_draw fun _ => query_proper (by trivial)

theorem triggerRun_proper (input : TriggerRunInput) :
    WritesOnly (stockServer outside) Write.proper (triggerRun input) := by
  have drawn : WritesOnly (stockServer outside) Write.proper (newId : Service Uuid) :=
    writesOnly_draw fun _ => writesOnly_done _
  refine writesOnly_bind (query_proper (by trivial)) fun store => ?_
  split_ifs
  · exact writesOnly_fail _
  · refine writesOnly_bind drawn fun runId => ?_
    refine writesOnly_bind (query_proper (by trivial)) fun row => ?_
    refine writesOnly_bind drawn fun auditId => ?_
    refine writesOnly_bind (query_proper (by trivial)) fun _ => ?_
    refine writesOnly_bind (query_proper (by trivial)) fun mapped => ?_
    refine writesOnly_bind ?_ fun _ => writesOnly_done _
    unfold emitUnlessMapped
    split_ifs
    · exact emit_proper _ _ _
    · exact writesOnly_done _

/-- **A report is stored with the quantities that the request schema accepted.** -/
theorem reportSnapshot_proper (input : ReportSnapshotInput) (date : Int) :
    WritesOnly (stockServer outside) Write.proper (reportSnapshot outside.deterministicId input date) := by
  refine writesOnly_bind (query_proper (by trivial)) fun rows => ?_
  split
  · exact writesOnly_fail _
  · intro commits call own log result ends write mem
    obtain ⟨resolved, first, last, rfl, resolving, ends⟩ := completes_bind ends
    obtain ⟨nothing, items, rfl⟩ := resolveEntries_effect resolving
    rw [written_append, nothing, nil_append] at mem
    revert mem ends
    split
    · split_ifs
      · exact fun mem ends => writesOnly_done _ _ _ _ _ _ ends _ mem
      · exact fun _ ends => absurd ends not_completes_fail
    · intro mem ends
      refine writesOnly_bind (query_proper ?_) (fun _ => writesOnly_bind (emit_proper _ _ _) fun _ =>
        writesOnly_done _) _ _ _ _ _ ends _ mem
      intro stored same entry inside
      obtain rfl := Option.some.inj same
      obtain ⟨reported, -, rfl⟩ := mem_map.1 inside
      exact reported.exact

/-- **Only the processor writes results and terminal updates.** -/
theorem Operation.proper {commits : List (Nat × List Write)} {call : Call} {log : Log} {body : Body}
    (ends : Completes (stockServer outside) commits call [] (call.operation.program outside.deterministicId)
        log body) (other : ∀ input, call.operation ≠ .process input) :
    ∀ write ∈ written log, write.proper := by
  obtain ⟨now, op⟩ := call
  have only : ∀ {Value : Type} {program : Service Value} {wrap : Value → Body}, WritesOnly (stockServer outside)
    Write.proper program → WritesOnly (stockServer outside) Write.proper (program.bind fun value => .done (wrap
    value)) := fun proper => writesOnly_bind proper fun _ => writesOnly_done _
  cases op with
  | process input => exact absurd rfl (other input)
  | change tenantId edit =>
    exact writesOnly_bind (query_proper (by trivial)) (fun _ => writesOnly_done _) _ _ _ _ _ ends
  | triggerRun input => exact only (triggerRun_proper input) _ _ _ _ _ ends
  | pullRequests input =>
    exact only (writesOnly_bind (query_proper (by trivial)) fun _ => writesOnly_done _) _ _ _ _ _ ends
  | reportSnapshot input date => exact only (reportSnapshot_proper input date) _ _ _ _ _ ends
  | set input =>
    obtain ⟨result, ran, rfl⟩ := completes_map ends
    intro write mem
    rcases set_effect ran with nothing | ⟨row, -, -, wrote⟩
    · rw [nothing] at mem
      cases mem
    · rw [wrote] at mem
      rw [mem_singleton.1 mem]
      trivial
  | retire input =>
    refine only (writesOnly_bind (query_proper (by trivial)) fun updated => ?_) _ _ _ _ _ ends
    split
    · exact writesOnly_done _
    · refine writesOnly_bind (query_proper (by trivial)) fun old => ?_
      split_ifs
      · exact writesOnly_done _
      · exact writesOnly_done _
  | drain eventId update =>
    exact writesOnly_bind (query_proper (by trivial)) (fun _ => writesOnly_done _) _ _ _ _ _ ends

end Proper

/-! ### What the processor reads and writes -/

def ReconciliationResult.line (row : ReconciliationResult) : ComparedLine :=
  ⟨row.mismatchClass, row.sourceRefId, row.detail⟩

/-- The row is a new result of the run. -/
structure ReconciliationResult.Of (row : ReconciliationResult) (input : ProcessInput) : Prop where
  runId : row.runId = input.runId
  tenantId : row.tenantId = input.tenantId
  opened : row.resultState = .opened

section Found

variable (commits : List (Nat × List Write)) (call : Call)

/-- **The lines of a store**, by what was committed when the processor asked for each side. -/
inductive Compares (input : ProcessInput) (storeId : Uuid) (log : Log) : List ComparedLine → Prop where
  | unmapped {seen : Nat} (early : seen ≤ commits.length)
      (empty : activeMaps call.context (contents (commits.take seen)) storeId = []) :
      Compares input storeId log [⟨.unmappedStore, none, none⟩]
  | compared {first seen later : Nat} (early : first ≤ commits.length)
      (mapped : activeMaps call.context (contents (commits.take first)) storeId ≠ [])
      (early' : seen ≤ commits.length) (early'' : later ≤ commits.length) (inside : later ∈ seens log) :
      Compares input storeId log (comparedLines (onHandRows call.context (contents (commits.take seen)) storeId)
        (binViewOf ((visibleRun call.context (contents (commits.take later)) input.runId).bind
          ReconciliationRun.summary)))

/-- What the comparison of an open run writes: its lines, and the guarded terminal update. -/
structure Finished (input : ProcessInput) (own : List Write) (lines : List ComparedLine)
    (rows : List ReconciliationResult) (log : Log) : Prop where
  lines : rows.map ReconciliationResult.line = lines
  mine : ∀ row ∈ rows, row.Of input
  wrote : ∃ seen ∈ seens log, seen ≤ commits.length ∧ written log = rows.map Write.result ++
    updateRun call.context (contents (commits.take seen) ++ (own ++ rows.map Write.result)) input.runId
      (.complete input.runId call.now)

/-- **A processed run**: skipped, or locked while it was open, compared and completed. -/
inductive Ran (input : ProcessInput) : Log → ReconciliationRunResult → Prop where
  | skipped {log : Log} (quiet : ∀ write ∈ written log, write = .lockRun input.runId) :
      Ran input log ⟨input.runId, .skipped, []⟩
  | completed {seen : Nat} {row : ReconciliationRun} {lines : List ComparedLine}
      {rows : List ReconciliationResult} {rest : Log} (early : seen ≤ commits.length)
      (found : visibleRun call.context (contents (commits.take seen)) input.runId = some row)
      (opened : row.status = .running) (compares : Compares commits call input row.storeId rest lines)
      (finished : Finished commits call input [.lockRun input.runId] lines rows rest) :
      Ran input (.answered (.lockRun input.runId) seen
        (.ok (some (row.storeId, row.status), [.lockRun input.runId])) :: rest)
        ⟨input.runId, .completed, countClasses lines⟩

end Found

variable {rows : List ReconciliationResult}

section Process

variable {commits : List (Nat × List Write)} {own : List Write}
variable {result : ReconciliationRunResult} {lines : List ComparedLine}

theorem insertLine_effect {line : ComparedLine} {done : Unit}
    (ends : Completes (stockServer outside) commits call own (insertLine input line) log done) :
    ∃ row : ReconciliationResult, written log = [.result row] ∧ row.line = line ∧ row.Of input := by
  obtain ⟨id, rest, rfl, inserting⟩ := draw_completes ends
  obtain ⟨seen, wrote, rfl, -, ran, logged⟩ := query_logged inserting
  obtain ⟨rfl, -⟩ := insertResult_ok ran
  exact ⟨_, logged.written, rfl, rfl, rfl, rfl⟩

theorem insertLines_effect {done : List Unit}
    (ends : Completes (stockServer outside) commits call own (forEach (insertLine input) lines) log done) :
    ∃ rows : List ReconciliationResult, written log = rows.map Write.result ∧
      rows.map ReconciliationResult.line = lines ∧ ∀ row ∈ rows, row.Of input := by
  induction lines generalizing own log done with
  | nil =>
    obtain ⟨rfl, -⟩ := completes_done ends
    exact ⟨[], rfl, rfl, by simp⟩
  | cons line rest ih =>
    obtain ⟨_, first, later, rfl, inserting, ends⟩ := completes_bind ends
    obtain ⟨_, looped, -⟩ := completes_map ends
    obtain ⟨row, wrote, stores, mine⟩ := insertLine_effect inserting
    obtain ⟨rows, wrote', stores', mine'⟩ := ih looped
    refine ⟨row :: rows, ?_, by rw [map_cons, stores, stores'], List.forall_mem_cons.2 ⟨mine, mine'⟩⟩
    rw [written_append, wrote, wrote']
    rfl

theorem finish_finished
    (ends : Completes (stockServer outside) commits call own (finish input lines) log result) :
    result = ⟨input.runId, .completed, countClasses lines⟩ ∧
      ∃ rows, Finished commits call input own lines rows log := by
  obtain ⟨_, first, last, rfl, inserting, ends⟩ := completes_bind ends
  obtain ⟨rows, wrote, stores, mine⟩ := insertLines_effect inserting
  obtain ⟨_, seen, wrote', last, rfl, early, ran, logged, ends⟩ := query_then ends
  obtain ⟨-, rfl⟩ := ok_inj ran
  obtain ⟨rfl, rfl⟩ := completes_done ends
  refine ⟨rfl, rows, stores, mine, seen, ?_, early, ?_⟩
  · rw [seens_append]
    exact mem_append_right _ mem_cons_self
  · rw [append_nil, written_append, logged.written, wrote]
    rfl

theorem Finished.prepend {first last : Log} (ended : Finished commits call input own lines rows last)
    (silent : written first = []) : Finished commits call input own lines rows (first ++ last) := by
  obtain ⟨stores, mine, seen, inside, early, wrote⟩ := ended
  refine ⟨stores, mine, seen, ?_, early, by rw [written_append, silent, nil_append, wrote]⟩
  rw [seens_append]
  exact mem_append_right _ inside

theorem activeMaps_lock (context : Context) (writes : List Write) (id storeId : Uuid) :
    activeMaps context (writes ++ [.lockRun id]) storeId = activeMaps context writes storeId := by
  have same : mapsOf (writes ++ [.lockRun id]) = mapsOf writes := by
    simp [mapsOf, insertedMaps, WarehouseMap.after, WarehouseMap.apply]
  rw [activeMaps, same]
  rfl

theorem onHandRows_lock (context : Context) (writes : List Write) (id storeId : Uuid) :
    onHandRows context (writes ++ [.lockRun id]) storeId = onHandRows context writes storeId := by
  simp [onHandRows, movementsOf, confirmedMappings, itemMapsOf]

theorem compare_compares {storeId : Uuid}
    (ends : Completes (stockServer outside) commits call [.lockRun input.runId] (compare input storeId) log
      result) :
    ∃ lines rows,
      result = ⟨input.runId, .completed, countClasses lines⟩ ∧ Compares commits call input storeId log lines ∧
      Finished commits call input [.lockRun input.runId] lines rows log := by
  have quiet : ∀ write ∈ [Write.lockRun input.runId], write.weighs = false := fun write mem => by
    rw [mem_singleton.1 mem]
    rfl
  obtain ⟨count, seen, wrote, last, rfl, early, ran, logged, ends⟩ := query_then ends
  obtain ⟨shown, rfl⟩ := ok_inj ran
  have counted : count = (activeMaps call.context (contents (commits.take seen)) storeId).length := by
    rw [← shown, activeMaps_lock]
    exact congrArg List.length (filter_eq_self.2 fun _ _ => rfl)
  rw [logged.written, append_nil] at ends
  split_ifs at ends with none
  · obtain ⟨rfl, rows, ended⟩ := finish_finished ends
    refine ⟨_, rows, rfl, .unmapped early ?_, ended.prepend logged.written⟩
    exact length_eq_zero_iff.1 (counted.symm.trans (Nat.eq_of_beq_eq_true none))
  · obtain ⟨dp2, seen', wrote', last, rfl, early', executed', logged', ends⟩ := query_then ends
    obtain ⟨shown', rfl⟩ := Prod.mk.inj (Except.ok.inj executed')
    rw [onHandRows_lock] at shown'
    rw [logged'.written, append_nil] at ends
    obtain ⟨report, seen'', wrote'', last, rfl, early'', executed'', logged'', ends⟩ := query_then ends
    obtain ⟨shown'', rfl⟩ := Prod.mk.inj (Except.ok.inj executed'')
    rw [visibleRun_calm quiet] at shown''
    rw [logged''.written, append_nil] at ends
    obtain ⟨rfl, rows, ended⟩ := finish_finished ends
    have mapped : activeMaps call.context (contents (commits.take seen)) storeId ≠ [] := fun empty =>
      none (by rw [counted, empty]; rfl)
    refine ⟨_, rows, rfl, ?_, ((ended.prepend logged''.written).prepend logged'.written).prepend logged.written⟩
    rw [← shown', ← shown'']
    refine .compared early mapped early' early'' ?_
    rw [seens_append, seens_append, seens_append]
    exact mem_append_right _ (mem_append_right _ (mem_append_left _ mem_cons_self))

theorem process_ran (ends : Completes (stockServer outside) commits call [] (process input) log result) :
    Ran commits call input log result := by
  obtain ⟨run, seen, wrote, last, rfl, early, ran, logged, ends⟩ := query_then ends
  rw [append_nil] at ran
  simp only [stockServer, exec] at ran
  cases found : visibleRun call.context (contents (commits.take seen)) input.runId with
  | none =>
    rw [found] at ran
    cases ran
    obtain ⟨rfl, rfl⟩ := completes_done ends
    refine .skipped fun write mem => ?_
    rw [append_nil, logged.written] at mem
    cases mem
  | some row =>
    rw [found] at ran
    cases ran
    dsimp only at ends
    rw [logged.written] at ends
    split_ifs at ends with opened
    · obtain ⟨lines, rows, rfl, compares, ended⟩ := compare_compares ends
      exact .completed early found opened compares ended
    · obtain ⟨rfl, rfl⟩ := completes_done ends
      refine .skipped fun write mem => ?_
      rw [append_nil, logged.written] at mem
      exact mem_singleton.1 mem

end Process

/-! ### Runs -/

section Runs

variable {before after : List (Nat × List Write)}
variable {run : ReconciliationRun} {row : ReconciliationResult}
variable {pid : Nat}

/-- **A run is open until it is completed.** -/
theorem ReconciliationRun.after_open {writes : List Write} {row : ReconciliationRun}
    (opened : row.status = .running) :
    ((row.after writes).status = .running ∧ ∀ time, .complete row.id time ∉ writes) ∨
      ((row.after writes).status = .completed ∧ ∃ time, .complete row.id time ∈ writes) := by
  induction writes using List.reverseRecOn with
  | nil => exact .inl ⟨opened, fun _ none => by cases none⟩
  | append_singleton writes write ih =>
    have last : (row.after writes).id = row.id := ReconciliationRun.after_id
    rw [ReconciliationRun.after_append]
    show (((row.after writes).apply write).status = .running ∧ _) ∨
      ((row.after writes).apply write).status = .completed ∧ _
    by_cases ends : ∃ time, write = .complete row.id time
    · obtain ⟨time, rfl⟩ := ends
      exact .inr ⟨by rw [ReconciliationRun.apply, if_pos last], time, by simp⟩
    · have kept : ((row.after writes).apply write).status = (row.after writes).status := by
        cases write with
        | complete id time =>
          exact congrArg ReconciliationRun.status (if_neg fun same => ends ⟨time, by rw [← same, last]⟩)
        | report id stored time =>
          simp only [ReconciliationRun.apply]
          split_ifs <;> rfl
        | _ => rfl
      rw [kept]
      refine ih.imp (And.imp_right fun never time mem => ?_)
        (And.imp_right (Exists.imp fun time mem => mem_append_left _ mem))
      rcases mem_append.1 mem with old | new
      · exact never time old
      · exact ends ⟨time, (mem_singleton.1 new).symm⟩

theorem visibleRun_inserted {id : Uuid} {row : ReconciliationRun}
    (found : visibleRun context writes id = some row) :
    ∃ run, .run run ∈ writes ∧ row = run.after writes ∧ run.id = id ∧ context.tenant = some run.tenantId := by
  obtain ⟨here, same, mine⟩ := visibleRun_some found
  obtain ⟨run, added, rfl⟩ := mem_runsOf.1 here
  rw [ReconciliationRun.after_id] at same
  rw [ReconciliationRun.after_tenantId] at mine
  exact ⟨run, added, rfl, same, mine⟩

/-- **A committed run is seen by its tenant.** -/
theorem Reachable.visible (reach : Reachable outside config) (commits : config.commits = before ++ after)
    (added : .run run ∈ contents before) (mine : context.tenant = some run.tenantId) :
    visibleRun context (contents before) run.id = some (run.after (contents before)) := by
  have there : run.after (contents before) ∈ visibleRuns context (contents before) := by
    refine mem_filter.2 ⟨mem_runsOf.2 ⟨run, added, rfl⟩, sees_iff.2 ?_⟩
    rw [ReconciliationRun.after_tenantId, mine]
  cases found : visibleRun context (contents before) run.id with
  | none =>
    have missed := find?_eq_none.1 found _ there
    simp at missed
  | some row =>
    obtain ⟨other, here, rfl, same, -⟩ := visibleRun_inserted found
    rw [reach.one_run (mem_ledger commits here) (mem_ledger commits added) same]

/-- **A commit of the processor that is not a skip completes its run, once.** -/
structure Closing (commits : List (Nat × List Write)) (call : Call) (input : ProcessInput) (log : Log)
    (run : ReconciliationRun) (lines : List ComparedLine) (rows : List ReconciliationResult) : Prop where
  inserted : .run run ∈ contents commits
  asked : run.id = input.runId
  mine : call.context.tenant = some run.tenantId
  unfinished : ∀ time, .complete run.id time ∉ contents commits
  compares : ∃ rest, Compares commits call input run.storeId rest lines ∧
    ∀ later ∈ seens rest, .run run ∈ contents (commits.take later)
  stores : rows.map ReconciliationResult.line = lines
  of : ∀ row ∈ rows, row.Of input
  wrote : written log = .lockRun run.id :: (rows.map Write.result ++ [.complete run.id call.now])

theorem Reachable.closing (reach : Reachable outside config) (commits : config.commits = before ++ after)
    {result : ReconciliationRunResult} (held : Held (stockServer outside) before log) (ordered : Ordered log)
    (ran : Ran before call input log result) :
    (∀ write ∈ written log, write = .lockRun input.runId) ∨
      ∃ run lines rows, result = ⟨input.runId, .completed, countClasses lines⟩ ∧
      Closing before call input log run lines rows := by
  cases ran with
  | skipped quiet => exact .inl quiet
  | @completed seen row lines rows rest early found opened compares ended =>
    obtain ⟨stores, mine, last, inside, early', wrote⟩ := ended
    obtain ⟨run, added, rfl, same, tenant⟩ := visibleRun_inserted found
    have locked : Entry.answered (.lockRun input.runId) seen
        (.ok (some ((run.after (contents (before.take seen))).storeId,
                  (run.after (contents (before.take seen))).status), [Write.lockRun input.runId])) ∈
        (.answered (.lockRun input.runId) seen (.ok (some ((run.after (contents (before.take seen))).storeId,
                      (run.after (contents (before.take seen))).status), [Write.lockRun input.runId])) ::
          rest : Log) :=
      mem_cons_self
    have holds : Write.lockRun run.id ∈ [Write.lockRun input.runId] := by rw [same]; exact mem_cons_self
    have since : ∀ later ∈ seens rest, seen ≤ later := by
      have pairs : (seen :: seens rest).Pairwise (· ≤ ·) := ordered
      exact fun later => List.rel_of_pairwise_cons pairs
    have known : ∀ later ∈ seens rest, .run run ∈ contents (before.take later) := by
      intro later mem
      exact contents_mono (List.take_prefix_take_left (since later mem)) added
    refine .inr ⟨run, lines, rows, rfl, ?_, same, tenant, ?_, ⟨rest, ?_, known⟩, stores, mine, ?_⟩
    · exact contents_take added
    · intro time mem
      rw [contents_split before seen] at mem
      rcases mem_append.1 mem with old | new
      · exact ReconciliationRun.after_completed old opened
      · have apart := held _ _ _ _ locked _ new _ holds
        simp [stockServer, clash, Write.changes, Write.holdsRun] at apart
    · rw [ReconciliationRun.after_storeId] at compares
      exact compares
    · -- the row lock keeps the run open until the terminal update
      obtain ⟨more, grown, fresh⟩ := @contents_later before _ _ (since last inside)
      have running : (run.after (contents (before.take last))).status = .running := by
        rw [grown, still held locked holds fresh]
        exact opened
      have calm : ∀ write ∈ [Write.lockRun input.runId] ++ rows.map Write.result, write.weighs = false := by
        intro write mem
        rcases mem_append.1 mem with lock | stored
        · rw [mem_singleton.1 lock]
          rfl
        · obtain ⟨row, -, rfl⟩ := mem_map.1 stored
          rfl
      have split : config.commits = before.take last ++ (before.drop last ++ after) := by
        rw [← append_assoc, take_append_drop, commits]
      have sees : visibleRun call.context (contents (before.take last)) run.id =
          some (run.after (contents (before.take last))) := reach.visible split (known last inside) tenant
      have updates : updateRun call.context
          (contents (before.take last) ++ ([Write.lockRun input.runId] ++ rows.map Write.result)) input.runId
          (.complete input.runId call.now) = [.complete input.runId call.now] := by
        rw [updateRun, visibleRun_calm calm, ← same, sees]
        exact if_pos (decide_eq_true running)
      show Write.lockRun input.runId :: written rest = _
      rw [wrote, updates, same]

theorem Reachable.process_commit (reach : Reachable outside config)
    (commits : config.commits = before ++ (pid, writes) :: after) :
    ∃ proc body, config.procs[pid]? = some proc ∧ proc.result = some (.ok body) ∧ writes = written proc.log ∧
      ((∃ input result, proc.call.operation = .process input ∧ body = .processed result ∧
          ((∀ write ∈ writes, write = .lockRun input.runId) ∨
            ∃ run lines rows, result = ⟨input.runId, .completed, countClasses lines⟩ ∧
            Closing before proc.call input proc.log run lines rows)) ∨
        (∀ input, proc.call.operation ≠ .process input) ∧ ∀ write ∈ writes, write.proper) := by
  obtain ⟨proc, body, found, gave, rfl, ends, held, ordered⟩ := reach.commit_of clash_comm commits
  refine ⟨proc, body, found, gave, rfl, ?_⟩
  by_cases processes : ∃ input, proc.call.operation = .process input
  · obtain ⟨input, asked⟩ := processes
    have program : (stockServer outside).program proc.call =
        (process input).bind fun result => .done (.processed result) := by
      show proc.call.operation.program _ = _
      rw [asked]
      rfl
    rw [program] at ends
    obtain ⟨result, ran, rfl⟩ := completes_map ends
    exact .inl ⟨input, result, asked, rfl, reach.closing commits held ordered (process_ran ran)⟩
  · have other : ∀ input, proc.call.operation ≠ .process input := fun input asked => processes ⟨input, asked⟩
    exact .inr ⟨other, Operation.proper ends other⟩

/-- **A result of a run goes in with the terminal update of the run, before which there was none.** -/
theorem Reachable.result_closes (reach : Reachable outside config)
    (commits : config.commits = before ++ (pid, writes) :: after) (mem : .result row ∈ writes) :
    (∃ time, .complete row.runId time ∈ writes) ∧ ∀ time, .complete row.runId time ∉ contents before := by
  obtain ⟨proc, body, -, -, rfl, ⟨input, result, -, -, quiet | ⟨run, lines, rows, -, closing⟩⟩ | ⟨-, proper⟩⟩ :=
    reach.process_commit commits
  · cases quiet _ mem
  · have wrote := closing.wrote
    have same : row.runId = run.id := by
      rw [wrote, mem_cons, mem_append, mem_map, mem_singleton] at mem
      rcases mem with lock | ⟨stored, there, same⟩ | complete
      · cases lock
      · obtain rfl := Write.result.inj same
        rw [(closing.of _ there).runId, closing.asked]
      · cases complete
    rw [same, wrote]
    exact ⟨⟨proc.call.now, by simp⟩, closing.unfinished⟩
  · cases proper _ mem

def resultsFor (writes : List Write) (runId : Uuid) : List ReconciliationResult :=
  (resultsOf writes).filter fun row => row.runId = runId

theorem mem_resultsOf : row ∈ resultsOf writes ↔ .result row ∈ writes := by
  constructor
  · intro mem
    obtain ⟨write, there, same⟩ := mem_filterMap.1 mem
    cases write <;> cases same
    exact there
  · exact fun mem => mem_filterMap.2 ⟨_, mem, rfl⟩

theorem resultsFor_append (writes more : List Write) (runId : Uuid) :
    resultsFor (writes ++ more) runId = resultsFor writes runId ++ resultsFor more runId := by
  rw [resultsFor, resultsOf, filterMap_append, filter_append]
  rfl

theorem resultsFor_nil {runId : Uuid} (none : ∀ row, .result row ∈ writes → row.runId ≠ runId) :
    resultsFor writes runId = [] :=
  filter_eq_nil_iff.2 fun row mem same => none row (mem_resultsOf.1 mem) (of_decide_eq_true same)

/-- **What a committed report of a run stored is exact.** -/
theorem Reachable.exact (reach : Reachable outside config) (commits : config.commits = before ++ after)
    (added : .run run ∈ config.ledger) : ExactReport (run.after (contents before)).summary := by
  intro stored same
  rw [ReconciliationRun.after_summary, (reach.inserted added).2, Option.or_none] at same
  obtain ⟨time, mem⟩ := mem_reportsOf.1 (mem_of_getLast? same)
  obtain ⟨pid, writes, commit, inside⟩ := mem_contents.1 mem
  obtain ⟨early, late, rfl⟩ := append_of_mem commit
  rw [append_assoc, cons_append] at commits
  obtain ⟨proc, body, -, -, rfl,
    ⟨input, result, -, -, quiet | ⟨other, lines, rows, -, closing⟩⟩ | ⟨-, proper⟩⟩ :=
    reach.process_commit commits
  · cases quiet _ inside
  · rw [closing.wrote] at inside
    simp at inside
  · exact proper _ inside stored rfl

/-- **What the results of a run are**: the single one of an unmapped store, or one for each product, by what was
committed when the processor asked for each side. -/
inductive Prescribed (config : Config) (context : Context) (run : ReconciliationRun) : List ComparedLine →
  Prop where
  | unmapped {seen : Nat}
      (empty : activeMaps context (contents (config.commits.take seen)) run.storeId = []) :
      Prescribed config context run [⟨.unmappedStore, none, none⟩]
  | compared {first seen later : Nat} {lines : List ComparedLine}
      (mapped : activeMaps context (contents (config.commits.take first)) run.storeId ≠ [])
      (compared : Compared context (contents (config.commits.take seen)) run.storeId
        (run.after (contents (config.commits.take later))).summary lines) :
      Prescribed config context run lines

/-- **A reconciled run**: completed by a processor of its tenant, with the prescribed results and their
numbers as the counts. -/
structure Reconciled (config : Config) (run : ReconciliationRun) : Prop where
  status : (run.after config.ledger).status = .completed
  mine : ∀ row ∈ resultsFor config.ledger run.id, row.tenantId = run.tenantId ∧ row.resultState = .opened
  results : ∃ proc ∈ config.procs, ∃ counts,
    proc.result = some (.ok (.processed ⟨run.id, .completed, counts⟩)) ∧
      proc.call.context.tenant = some run.tenantId ∧
      Prescribed config proc.call.context run
        ((resultsFor config.ledger run.id).map ReconciliationResult.line) ∧
      ∀ mismatchClass, (getEntry counts mismatchClass).getD 0 =
        (resultsFor config.ledger run.id).countP fun row => row.mismatchClass = mismatchClass

theorem Closing.prescribed (reach : Reachable outside config) (commits : config.commits = before ++ after)
    (indexed : ∀ seen, OneActiveMapping (contents (config.commits.take seen))) {lines : List ComparedLine}
    (closing : Closing before call input log run lines rows) : Prescribed config call.context run lines := by
  have prior : ∀ {seen}, seen ≤ before.length → before.take seen = config.commits.take seen := by
    intro seen early
    rw [commits, List.take_append_of_le_length early]
  obtain ⟨rest, compares, known⟩ := closing.compares
  cases compares with
  | unmapped early empty =>
    rw [prior early] at empty
    exact .unmapped empty
  | @compared first seen later early mapped early' early'' inside =>
    have split : config.commits = before.take later ++ (before.drop later ++ after) := by
      rw [← append_assoc, take_append_drop, commits]
    have sees := reach.visible split (known later inside) closing.mine
    rw [closing.asked] at sees
    rw [sees, prior early', prior early'']
    rw [prior early] at mapped
    rw [prior early''] at split
    refine .compared mapped (comparedLines_compared (indexed seen) ?_)
    exact reach.exact split (mem_ledger commits closing.inserted)

theorem Closing.reconciled (reach : Reachable outside config)
    (indexed : ∀ seen, OneActiveMapping (contents (config.commits.take seen))) {pid : Nat}
    {writes : List Write} (commits : config.commits = before ++ (pid, writes) :: after) {proc : Proc}
    {input : ProcessInput} {run : ReconciliationRun} {lines : List ComparedLine}
    (found : config.procs[pid]? = some proc) (wrote : writes = written proc.log)
    (gave : proc.result = some (.ok (.processed ⟨input.runId, .completed, countClasses lines⟩)))
    (closing : Closing before proc.call input proc.log run lines rows)
    (status : (run.after config.ledger).status = .completed) (asked : proc.call.operation = .process input) :
    Reconciled config run := by
  rw [closing.wrote] at wrote
  have ended : .complete run.id proc.call.now ∈ writes := by rw [wrote]; simp
  have early : resultsFor (contents before) run.id = [] := by
    refine resultsFor_nil fun row mem same => ?_
    obtain ⟨pid', writes', commit, inside⟩ := mem_contents.1 mem
    obtain ⟨first, last, rfl⟩ := append_of_mem commit
    rw [append_assoc, cons_append] at commits
    obtain ⟨⟨time, complete⟩, -⟩ := reach.result_closes commits inside
    exact closing.unfinished time (same ▸ mem_contents.2 ⟨_, _, commit, complete⟩)
  have late : resultsFor (contents after) run.id = [] := by
    refine resultsFor_nil fun row mem same => ?_
    obtain ⟨pid', writes', commit, inside⟩ := mem_contents.1 mem
    obtain ⟨first, last, rfl⟩ := append_of_mem commit
    have split : config.commits = (before ++ (pid, writes) :: first) ++ (pid', writes') :: last := by
      rw [commits]
      simp
    refine (reach.result_closes split inside).2 proc.call.now ?_
    rw [same]
    exact mem_contents.2 ⟨pid, writes, by simp, ended⟩
  have here : resultsFor writes run.id = rows := by
    have stored : ∀ rows : List ReconciliationResult, resultsOf (rows.map Write.result) = rows := by
      intro rows
      rw [resultsOf, filterMap_map]
      exact List.filterMap_some
    have all : resultsOf writes = rows := by
      rw [wrote, ← singleton_append, resultsOf, filterMap_append, filterMap_append]
      show [] ++ (resultsOf (rows.map Write.result) ++ []) = rows
      rw [stored, nil_append, append_nil]
    rw [resultsFor, all]
    exact filter_eq_self.2 fun row mem =>
      decide_eq_true ((closing.of row mem).runId.trans closing.asked.symm)
  have results : resultsFor config.ledger run.id = rows := by
    rw [Config.ledger, commits, ← singleton_append, contents_append, contents_append, resultsFor_append,
      resultsFor_append, early, late, nil_append, append_nil]
    rw [show contents [(pid, writes)] = writes from append_nil writes, here]
  have tenant : proc.call.context.tenant = some input.tenantId := by
    rw [Call.context, asked]
    rfl
  refine ⟨status, ?_, proc, mem_of_getElem? found, countClasses lines, ?_, closing.mine, ?_, ?_⟩
  · rw [results]
    intro row mem
    have stored := closing.of row mem
    exact ⟨stored.tenantId.trans (mem_unique tenant closing.mine), stored.opened⟩
  · rw [closing.asked, gave]
  · rw [results, closing.stores]
    exact closing.prescribed reach commits indexed
  · intro mismatchClass
    rw [results, countClasses_get, ← closing.stores, countP_map]
    rfl

/-- **A run is open and without a result, or reconciled.** -/
theorem Reachable.reconciled (reach : Reachable outside config)
    (indexed : ∀ seen, OneActiveMapping (contents (config.commits.take seen))) {run : ReconciliationRun}
    (added : .run run ∈ config.ledger) :
    ((run.after config.ledger).status = .running ∧ resultsFor config.ledger run.id = []) ∨
      Reconciled config run := by
  rcases @ReconciliationRun.after_open config.ledger run (reach.inserted added).1 with
    ⟨opened, never⟩ | ⟨status, time, complete⟩
  · refine .inl ⟨opened, resultsFor_nil fun row mem same => ?_⟩
    obtain ⟨pid, writes, commit, inside⟩ := mem_contents.1 mem
    obtain ⟨before, after, commits⟩ := append_of_mem commit
    obtain ⟨⟨time, complete⟩, -⟩ := reach.result_closes commits inside
    exact never time (same ▸ mem_contents.2 ⟨pid, writes, commit, complete⟩)
  · obtain ⟨pid, writes, commit, inside⟩ := mem_contents.1 complete
    obtain ⟨before, after, commits⟩ := append_of_mem commit
    obtain ⟨proc, body, found, gave, wrote, ⟨input, result, asked, rfl,
      quiet | ⟨other, lines, rows, rfl, closing⟩⟩ | ⟨-, proper⟩⟩ := reach.process_commit commits
    · cases quiet _ inside
    · have same : run.id = other.id := by
        rw [wrote, closing.wrote, mem_cons, mem_append, mem_map, mem_singleton] at inside
        rcases inside with lock | ⟨stored, -, result⟩ | complete
        · cases lock
        · cases result
        · exact (Write.complete.inj complete).1
      obtain rfl := reach.one_run added (mem_ledger commits closing.inserted) same
      exact .inr (closing.reconciled reach indexed commits found wrote gave status asked)
    · cases proper _ inside

end Runs

/-! ### Deliveries -/

theorem process_serverThrows (input : ProcessInput) : ServerThrows outside (process input) := by
  have each : ∀ lines : List ComparedLine, ServerThrows outside (forEach (insertLine input) lines) := by
    intro lines
    induction lines with
    | nil => exact serverThrows_done _
    | cons line rest ih =>
      exact serverThrows_bind (serverThrows_bind serverThrows_newId fun _ => serverThrows_query _) fun _ =>
        serverThrows_bind ih fun _ => serverThrows_done _
  have ends : ∀ lines, ServerThrows outside (finish input lines) := fun lines =>
    serverThrows_bind (each lines) fun _ => serverThrows_bind (serverThrows_query _) fun _ => serverThrows_done _
  refine serverThrows_bind (serverThrows_query _) fun run => ?_
  split
  · exact serverThrows_done _
  · split_ifs
    · refine serverThrows_bind (serverThrows_query _) fun count => ?_
      split_ifs
      · exact ends _
      · exact serverThrows_bind (serverThrows_query _) fun _ => serverThrows_bind (serverThrows_query _)
          fun _ => ends _
    · exact serverThrows_done _

/-- **How the deliveries of a run's event leave it.** -/
structure Delivered (config : Config) : Prop where
  each : ∀ run, .run run ∈ config.ledger →
    ((run.after config.ledger).status = .running ∧ resultsFor config.ledger run.id = []) ∨ Reconciled config run
  returned : ∀ proc ∈ config.procs, ∀ input value run, proc.call.operation = .process input →
    proc.result = some (.ok value) → run.tenantId = input.tenantId → run.id = input.runId →
    .run run ∈ config.ledger → (∀ seen ∈ seens proc.log, .run run ∈ contents (config.commits.take seen)) →
    Reconciled config run
  failed : ∀ proc ∈ config.procs, ∀ input error, proc.call.operation = .process input →
    proc.result = some (.error error) → ∃ fault, error = .pg fault
  unmoved : ∀ pid writes proc input, (pid, writes) ∈ config.commits → config.procs[pid]? = some proc →
    proc.call.operation = .process input → movementsOf writes = []

/-- **A delivery that the server did not fail leaves its run reconciled, and moves no stock.** -/
theorem run_reconciled (reachable : Reachable outside config)
    (indexed : ∀ seen, OneActiveMapping (contents (config.commits.take seen))) : Delivered config := by
  constructor
  · exact fun run added => reachable.reconciled indexed added
  · intro proc mem input value run asked gave tenant same added known
    rcases reachable.reconciled indexed added with ⟨opened, -⟩ | reconciled
    · exact absurd opened (reachable.closed mem asked gave tenant same known)
    · exact reconciled
  · intro proc mem input error asked failed
    rcases reachable.ends mem failed with ends | ⟨value, fault, -, lost⟩
    · have program : (stockServer outside).program proc.call =
          (process input).bind fun result => .done (.processed result) := by
        show proc.call.operation.program _ = _
        rw [asked]
        rfl
      rw [program] at ends
      exact serverThrows_bind (process_serverThrows input) (fun _ => serverThrows_done _) _ _ ends
    · exact ⟨fault, Except.error.inj lost⟩
  · intro pid writes proc input commit found asked
    obtain ⟨before, after, commits⟩ := append_of_mem commit
    obtain ⟨proc', body, found', -, wrote,
      ⟨input', result, -, -, quiet | ⟨run, lines, rows, -, closing⟩⟩ | ⟨other, -⟩⟩ :=
      reachable.process_commit commits
    · refine List.filterMap_eq_nil_iff.2 fun write mem => ?_
      rw [quiet write mem]
    · refine List.filterMap_eq_nil_iff.2 fun write mem => ?_
      rw [wrote, closing.wrote, mem_cons, mem_append, mem_map, mem_singleton] at mem
      rcases mem with rfl | ⟨row, -, rfl⟩ | rfl
      · rfl
      · rfl
      · rfl
    · obtain rfl := mem_unique found found'
      exact absurd asked (other input)

/-! ### A product whose mapping was retired -/

/-- The class of a product, were an unmapped one told apart before its sides are. -/
def orderedClass (onHand : Option ℚ) (mapped : Bool) (bin : Option ℚ) : MismatchClass :=
  if onHand.any fun onHand => onHand < 0 then .negativeBalanceFlagged
  else if mapped = false then .unmappedItem
  else match onHand, bin with
    | none, _ => .erpnextOnly
    | some _, none => .dp2Only
    | some onHand, some bin => if onHand = bin then .matched else .quantityDivergence

def sampleMapping (retiredAt : Option Int) : Mapping :=
  ⟨sample 6, sample 0, sample 7, "ITEM-1", .confirmed, .manual, 1, none, 1, none, some 1, retiredAt, 1, 1⟩

/-- Two pieces of a mapped item are reported, its mapping is retired, and the run is processed. -/
def retiredEvents : List (Event Uuid PgError Call) :=
  (reportedEvents.take 13).append [.start ⟨3, .change (sample 0) (.itemMap (sampleMapping none))⟩, .ask 2,
    .stop 2 none,
    .start ⟨4, .reportSnapshot twoPieces 4⟩, .ask 3, .ask 3, .ask 3, .draw 3 (sample 5), .ask 3, .stop 3 none,
    .start ⟨5, .change (sample 0) (.itemMap (sampleMapping (some 5)))⟩, .ask 4, .stop 4 none,
    .start ⟨6, .process ⟨sample 2, sample 0⟩⟩, .ask 5, .ask 5, .ask 5, .ask 5, .draw 5 (sample 11), .ask 5,
    .ask 5, .stop 5 none]

instance (writes : List Write) : Decidable (OneActiveMapping writes) :=
  inferInstanceAs (Decidable (List.Pairwise _ _))

/-- What is seen of the sample run: its one result is about the item, which neither moved nor is mapped, and
the index holds at all times. -/
def retiredSeen (config : Config) : Bool :=
  let context : Context := ⟨some (sample 0), 6⟩
  (config.ledger.any fun write => match write with
    | .run row => row.id = sample 2 && row.tenantId = sample 0 && row.storeId = sample 1
    | _ => false) &&
  ((resultsFor config.ledger (sample 2)).map ReconciliationResult.line =
    [⟨.erpnextOnly, some (sample 7), some ⟨none, some "2"⟩⟩]) &&
  (productMovements context config.ledger (sample 1) (sample 7)).isEmpty &&
  !isMapped context config.ledger (sample 7) &&
  (List.range (config.commits.length + 1)).all fun seen => OneActiveMapping (contents (config.commits.take seen))

theorem retired_ran : (Interleave.run (stockServer sampleOutside) retiredEvents).any retiredSeen = true := by
  decide +kernel

theorem retired_found :
    ∃ config,
      Reachable sampleOutside config ∧ (∀ seen, OneActiveMapping (contents (config.commits.take seen))) ∧
      ∃ run, .run run ∈ config.ledger ∧
      ∃ row ∈ resultsFor config.ledger run.id,
      row.sourceRefId = some (sample 7) ∧ row.mismatchClass = .erpnextOnly ∧
      ledgerQuantity ⟨some run.tenantId, 6⟩ config.ledger run.storeId (sample 7) = none ∧
      isMapped ⟨some run.tenantId, 6⟩ config.ledger (sample 7) = false := by
  obtain ⟨config, ran, observed⟩ := (any_eq_true _ _).1 retired_ran
  simp only [retiredSeen, and_eq_true, List.any_eq_true, decide_eq_true_eq, all_eq_true, List.mem_range,
    not_eq_true'] at observed
  obtain ⟨⟨⟨⟨⟨write, mem, isRun⟩, results⟩, unmoved⟩, unmapped⟩, indexed⟩ := observed
  refine ⟨config, run_reachable _ ran, fun seen => ?_, ?_⟩
  · by_cases early : seen < config.commits.length + 1
    · exact indexed seen early
    · rw [take_of_length_le (by omega), ← take_length (l := config.commits)]
      exact indexed _ (Nat.lt_succ_self _)
  · cases write with
    | run run =>
      simp only [and_eq_true, decide_eq_true_eq] at isRun
      obtain ⟨⟨id, tenant⟩, store⟩ := isRun
      rw [← id] at results
      obtain ⟨row, there, line⟩ := mem_map.1 (results ▸ mem_singleton_self _)
      refine ⟨run, mem, row, there, congrArg ComparedLine.sourceRefId line,
        congrArg ComparedLine.mismatchClass line,
        ?_, by rw [tenant, unmapped]⟩
      rw [ledgerQuantity, tenant, store, if_pos unmoved]
    | _ => cases isRun

/-- **A product that only the report has is not told apart as unmapped**, when its mapping was retired since. -/
theorem retired_unordered :
    ∃ config,
      Reachable sampleOutside config ∧ (∀ seen, OneActiveMapping (contents (config.commits.take seen))) ∧
      ∃ run, .run run ∈ config.ledger ∧
      ∃ row ∈ resultsFor config.ledger run.id, ∃ product, row.sourceRefId = some product ∧
      row.mismatchClass ≠
      orderedClass (ledgerQuantity ⟨some run.tenantId, 6⟩ config.ledger run.storeId product)
      (isMapped ⟨some run.tenantId, 6⟩ config.ledger product)
      (binQuantity (binViewOf (run.after config.ledger).summary) product) := by
  obtain ⟨config, reach, indexed, run, added, row, mem, product, only, unmoved, unmapped⟩ := retired_found
  refine ⟨config, reach, indexed, run, added, row, mem, _, product, ?_⟩
  rw [only, unmoved, unmapped]
  nofun

theorem run_reconciled_sample :
    ∃ config, Reachable sampleOutside config ∧
      (∃ run, .run run ∈ config.ledger ∧ resultsFor config.ledger run.id ≠ []) ∧ Delivered config := by
  obtain ⟨config, reach, indexed, run, added, row, mem, -⟩ := retired_found
  exact ⟨config, reach, ⟨run, added, ne_nil_of_mem mem⟩, run_reconciled reach indexed⟩

end DataPulse.Stock
