/-
**The reports of one bin-view request.**

* `reports_iff`: every later report is settled so exactly when its run still waits and it does not collide.
-/

import DataPulse.Stock.Runs

namespace DataPulse.Stock

open Lib Lib.Interleave Platform

/-! ### Sameness -/

abbrev Reported := String × String × String

def StoredEntry.reported (entry : StoredEntry) : Reported :=
  (entry.erpnextItemRef, entry.quantity, entry.stockUom)

def BinEntryInput.reported (entry : BinEntryInput) : Reported :=
  (entry.name, entry.quantity, entry.stockUom)

def joined (parts : Reported) : String := parts.1 ++ "|" ++ parts.2.1 ++ "|" ++ parts.2.2

/-- The same snapshot: read at the same time, with the same entries, each equally often. -/
structure SameSnapshot (report : StoredBinViewReport) (body : SnapshotReportBody) : Prop where
  readAt : report.readAt = body.readAt
  entries : (report.entries.map StoredEntry.reported).Perm (body.entries.map BinEntryInput.reported)

/-- Another snapshot, read at the same time and with the same texts. -/
structure Collides (report : StoredBinViewReport) (body : SnapshotReportBody) : Prop where
  readAt : report.readAt = body.readAt
  texts : ((report.entries.map StoredEntry.reported).map joined).Perm
    ((body.entries.map BinEntryInput.reported).map joined)
  other : ¬ (report.entries.map StoredEntry.reported).Perm (body.entries.map BinEntryInput.reported)

theorem zipIdx_all_iff {first second : List String} (lengths : first.length = second.length) :
    (first.zipIdx.all fun (v, i) => second[i]? = some v) = true ↔ first = second := by
  constructor
  · intro each
    refine List.ext_getElem lengths fun i inOne inTwo => ?_
    have here :=
      all_eq_true.1 each (first[i], i) (List.mem_zipIdx_iff_getElem?.2 (List.getElem?_eq_getElem inOne))
    have same : second[i]? = some first[i] := of_decide_eq_true here
    rw [List.getElem?_eq_getElem inTwo] at same
    exact (Option.some.inj same).symm
  · rintro rfl
    refine all_eq_true.2 fun pair mem => decide_eq_true ?_
    exact List.mem_zipIdx_iff_getElem?.1 mem

/-- **Two snapshots count as the same if they were read at the same time and have the same texts.** -/
theorem sameLogicalReport_iff {old : StoredBinViewReport} {body : SnapshotReportBody}
    {items : List (String × Uuid)} :
    sameLogicalReport old body (body.entries.map (BinEntryInput.resolve items)) = true ↔
      old.readAt = body.readAt ∧
      ((old.entries.map StoredEntry.reported).map joined).Perm
      ((body.entries.map BinEntryInput.reported).map joined) := by
  have stored : (old.entries.map StoredEntry.reported).map joined = old.entries.map StoredEntry.key := by
    rw [map_map]
    rfl
  have sent : (body.entries.map BinEntryInput.reported).map joined
      = (body.entries.map (BinEntryInput.resolve items)).map StoredEntry.key := by
    rw [map_map, map_map]
    rfl
  rw [stored, sent]
  generalize body.entries.map (BinEntryInput.resolve items) = resolved
  unfold sameLogicalReport
  by_cases moment : old.readAt = body.readAt
  · rw [if_neg (not_not.2 moment)]
    by_cases lengths : old.entries.length = resolved.length
    · rw [if_neg (not_not.2 lengths), ← sortTexts_eq_iff]
      have sorted : (sortTexts (old.entries.map StoredEntry.key)).length
          = (sortTexts (resolved.map StoredEntry.key)).length := by
        rw [(perm_sortTexts _).length_eq, (perm_sortTexts _).length_eq, length_map, length_map, lengths]
      exact (zipIdx_all_iff sorted).trans (and_iff_right moment).symm
    · rw [if_pos lengths]
      refine iff_of_false false_ne_true fun ⟨_, perm⟩ => lengths ?_
      simpa using perm.length_eq
  · rw [if_pos moment]
    exact iff_of_false false_ne_true fun ⟨same, _⟩ => moment same

/-! ### Stored reports -/

def reportsFor (ref : String) (writes : List Write) : List StoredBinViewReport :=
  writes.filterMap fun
    | .report _ report _ => if report.requestRef = ref then some report else none
    | _ => none

def Operation.reports : Operation → Option String
  | reportSnapshot input _ => some input.requestRef
  | _ => none

def emittedFor (config : Config) (ref : String) : List OutboxEvent :=
  config.commits.flatMap fun commit =>
    if config.procs[commit.1]?.any fun proc => proc.call.operation.reports = some ref then
      insertedEvents commit.2
    else []

def NamedApart (outside : Outside) (config : Config) : Prop :=
  ∀ first second : ReconciliationRun, .run first ∈ config.ledger → .run second ∈ config.ledger →
    requestRef outside.deterministicId first.id 0 = requestRef outside.deterministicId second.id 0 →
      first.id = second.id

/-- A fresh report: what its call found, and what it wrote. -/
structure Fresh (deterministicId : String → String → Uuid) (commits : List (Nat × List Write)) (call : Call)
    (log : Log) (writes : List Write) (input : ReportSnapshotInput) (date : Int) (row : RequestRow)
    (resolved : List StoredEntry) (event : OutboxEvent) (seen seen' : Nat) : Prop where
  asked : call.operation = .reportSnapshot input date
  early : seen' ≤ commits.length
  later : seen ≤ seen'
  looked : .answered .lockRunning seen
    (.ok (lockedRows commits call seen, lockedRuns commits call seen)) ∈ log
  found : requested deterministicId (lockedRows commits call seen) input.requestRef = some row
  unreported : ∀ existing, row.summary = some existing → existing.requestRef ≠ input.requestRef
  wrote : writes = lockedRuns commits call seen ++ (updateRun call.context
    (contents (commits.take seen') ++ lockedRuns commits call seen) row.runId
      (.report row.runId (storedReport input row resolved date) call.now) ++ [.event event])

variable {deterministicId : String → String → Uuid} {input : ReportSnapshotInput} {seen : Nat}
  {time : Int}

section Stored

variable {outside : Outside} {config : Config} {commits before after : List (Nat × List Write)} {call : Call}
  {log : Log} {body : Body} {writes : List Write} {pid : Nat}

theorem mem_reportsFor {ref : String} {report : StoredBinViewReport} :
    report ∈ reportsFor ref writes ↔
      report.requestRef = ref ∧ ∃ runId time, .report runId report time ∈ writes := by
  simp only [reportsFor, mem_filterMap]
  constructor
  · rintro ⟨write, mem, same⟩
    cases write with
    | report id stored time =>
      dsimp only at same
      split_ifs at same with mine
      cases same
      exact ⟨mine, id, time, mem⟩
    | _ => cases same
  · exact fun ⟨mine, id, time, mem⟩ => ⟨_, mem, if_pos mine⟩

def Write.tells : Write → Bool
  | report _ _ _ => true
  | event _ => true
  | _ => false

theorem Write.weighs_of_tells {write : Write} (tells : write.tells = true) : write.weighs = true := by
  cases write <;> first
    | rfl
    | cases tells

/-- **A call that writes a report, or a report that writes an event, is a fresh report.** -/
theorem Effect.fresh_or (ordered : Ordered log)
    (effect : Effect deterministicId commits call log body writes) :
    ((∀ id report time, .report id report time ∉ writes) ∧
        (∀ ref, call.operation.reports = some ref → ∀ event, .event event ∉ writes)) ∨
      ∃ input date row resolved event seen seen', Fresh deterministicId commits call log writes input date row
      resolved event seen seen' := by
  have silent : (∀ write ∈ writes, write.tells = false) → (∀ id report time, .report id report time ∉ writes) ∧
        (∀ ref, call.operation.reports = some ref → ∀ event, .event event ∉ writes) := by
    intro quiet
    constructor
    · intro id report time mem
      cases quiet _ mem
    · intro ref _ event mem
      cases quiet _ mem
  have calmly : ∀ {write : Write}, write.weighs = false → write.tells = false := by
    intro write calm
    by_contra tells
    rw [Write.weighs_of_tells (eq_true_of_not_eq_false tells)] at calm
    cases calm
  cases effect with
  | calm calm => exact .inl (silent fun write mem => calmly (calm write mem))
  | @triggered input row audit events asked opened unreported asks =>
    refine .inl ⟨fun id report time mem => ?_, fun ref reports => ?_⟩
    · rcases mem_append.1 mem with here | emitted
      · simp at here
      · obtain ⟨event, same, -⟩ := asks _ emitted
        cases same
    · rw [asked] at reports
      cases reports
  | @reported input date seen rest result writes asked early first reports wrote =>
    generalize outcome : Except.ok result = given at reports
    cases reports with
    | missing none | conflict found stored mine other => cases outcome
    | replayed found stored mine same nothing =>
      rw [nothing, append_nil] at wrote
      refine .inl (silent fun write mem => calmly ?_)
      rw [wrote] at mem
      exact lockedRuns_calm write mem
    | @recorded row resolved event seen' found unreported early' later asks stored =>
      refine .inr ⟨input, date, row, resolved, event, seen, seen', asked, early', ?_, ?_, found, unreported, ?_⟩
      · rw [first] at ordered
        have split : seens (Entry.answered .lockRunning seen (.ok (lockedRows commits call seen,
            lockedRuns commits call seen)) :: rest : Log) = seen :: seens rest := rfl
        rw [Ordered, split] at ordered
        exact (pairwise_cons.1 ordered).1 seen' later
      · rw [first]
        exact mem_cons_self
      · rw [wrote, stored]
  | mapped active | retired =>
    refine .inl (silent fun write mem => ?_)
    rw [mem_singleton.1 mem]
    rfl
  | @processed input result writes asked processed wrote =>
    refine .inl (silent fun write mem => ?_)
    rw [wrote] at mem
    by_contra tells
    obtain ⟨time, rfl⟩ := processed.only write mem (Write.weighs_of_tells (eq_true_of_not_eq_false tells))
    exact tells rfl
  | drained asked =>
    refine .inl (silent fun write mem => ?_)
    rw [mem_singleton.1 mem]
    rfl

theorem Fresh.report {date : Int} {row : RequestRow} {resolved : List StoredEntry} {event : OutboxEvent}
    {seen' : Nat}
    (fresh : Fresh deterministicId commits call log writes input date row resolved event seen seen')
    {id : Uuid} {report : StoredBinViewReport} (member : .report id report time ∈ writes) :
    id = row.runId ∧ report = storedReport input row resolved date := by
  rw [fresh.wrote] at member
  rcases mem_append.1 member with lock | member
  · cases lockedRuns_calm _ lock
  rcases mem_append.1 member with stored | emitted
  · rcases updateRun_cases call.context (contents (commits.take seen') ++ lockedRuns commits call seen)
      row.runId (.report row.runId (storedReport input row resolved date) call.now) with
      ⟨-, nothing⟩ | made
    · rw [nothing] at stored
      cases stored
    · rw [made] at stored
      obtain ⟨rfl, rfl, -⟩ := Write.report.inj (mem_singleton.1 stored)
      exact ⟨rfl, rfl⟩
  · cases mem_singleton.1 emitted

variable (reach : Reachable outside config)
include reach

/-- **A report is stored under the request of its run.** -/
theorem Reachable.report_named {id : Uuid} {report : StoredBinViewReport}
    (mem : .report id report time ∈ config.ledger) :
    (requestRef outside.deterministicId id 0).text = report.requestRef ∧
      ∃ run, .run run ∈ config.ledger ∧ run.id = id := by
  obtain ⟨pid, writes, commit, inside⟩ := mem_contents.1 mem
  obtain ⟨before, after, commits⟩ := append_of_mem commit
  obtain ⟨proc, body, -, -, effect, -, ordered⟩ := reach.effect commits
  rcases effect.fresh_or ordered with ⟨none, -⟩ | ⟨input, date, row, resolved, event, seen, seen', fresh⟩
  · exact absurd inside (none id report time)
  · obtain ⟨rfl, rfl⟩ := fresh.report inside
    obtain ⟨named, run, there, same, -⟩ := requested_some fresh.found
    exact ⟨named, run, mem_ledger commits (contents_take there), same⟩

/-- **A fresh report stores what it was given, and nothing had been stored for its run.** -/
theorem Reachable.fresh (commits : config.commits = before ++ (pid, writes) :: after)
    (held : Held (stockServer outside) before log) {date : Int} {row : RequestRow}
    {resolved : List StoredEntry} {event : OutboxEvent} {seen' : Nat}
    (fresh : Fresh outside.deterministicId before call log writes input date row resolved event seen seen') :
    writes =
      lockedRuns before call seen ++
      [.report row.runId (storedReport input row resolved date) call.now, .event event] ∧
      reportsOf (contents before) row.runId = [] := by
  obtain ⟨named, run, there, same, tenant, opened, summary, lock⟩ := requested_some fresh.found
  rw [← same] at lock
  have inLedger : ∀ {write : Write} {count : Nat}, write ∈ contents (before.take count) →
      write ∈ config.ledger :=
    fun mem => mem_ledger commits (contents_take mem)
  obtain ⟨more, contents', since⟩ := @contents_later before _ _ fresh.later
  have unchanged := still held fresh.looked lock since
  rw [← contents'] at unchanged
  have calm : ∀ write ∈ lockedRuns before call seen, write.weighs = false := lockedRuns_calm
  constructor
  · have visible : run.after (contents (before.take seen')) ∈
        visibleRuns call.context (contents (before.take seen')) := by
      refine mem_filter.2 ⟨mem_runsOf.2 ⟨run, ?_, rfl⟩, ?_⟩
      · rw [contents']
        exact mem_append_left _ there
      · rw [sees_iff, ReconciliationRun.after_tenantId, tenant]
    have now : (visibleRun call.context (contents (before.take seen') ++ lockedRuns before call seen)
        row.runId).any (fun run => run.status = .running) = true := by
      rw [visibleRun_calm calm]
      cases found : visibleRun call.context (contents (before.take seen')) row.runId with
      | none =>
        have missed := find?_eq_none.1 found _ visible
        simp [same] at missed
      | some other =>
        obtain ⟨here, id, -⟩ := visibleRun_some found
        obtain ⟨added, onTable, rfl⟩ := mem_runsOf.1 here
        rw [ReconciliationRun.after_id] at id
        obtain rfl := reach.one_run (inLedger onTable) (inLedger there) (id.trans same.symm)
        rw [any_some, unchanged]
        exact decide_eq_true opened
    have made := fresh.wrote
    unfold updateRun at made
    rw [if_pos now] at made
    exact made
  · have nothingYet : reportsOf (contents (before.take seen)) row.runId = [] := by
      by_contra some
      have last := List.getLast?_eq_some_getLast some
      obtain ⟨time, stored⟩ := mem_reportsOf.1 (List.getLast_mem some)
      refine fresh.unreported _ (summary.symm.trans ?_)
        ((reach.report_named (inLedger stored)).1.symm.trans named)
      rw [ReconciliationRun.after_summary, same, last, some_or]
    have nothingSince : reportsOf (contents (before.drop seen)) row.runId = [] := by
      refine eq_nil_iff_forall_not_mem.2 fun report mem => ?_
      obtain ⟨time, stored⟩ := mem_reportsOf.1 mem
      have apart := held _ _ _ _ fresh.looked _ stored _ lock
      simp [stockServer, clash, Write.changes, Write.holdsRun, same] at apart
    rw [contents_split before seen, reportsOf_append, nothingYet, nothingSince, append_nil]

/-- **At most one report is stored for a run.** -/
theorem Reachable.reportsOf_le (commits : config.commits = before ++ after) (id : Uuid) :
    (reportsOf (contents before) id).length ≤ 1 := by
  refine prefix_induction (fun before => (reportsOf (contents before) id).length ≤ 1) (Nat.zero_le _) ?_
    before after commits
  rintro before ⟨pid, writes⟩ after commits once
  have split : contents (before ++ [(pid, writes)]) = contents before ++ writes := by
    rw [contents_append, contents_cons, contents_nil, append_nil]
  rw [split, reportsOf_append, length_append]
  obtain ⟨proc, body, -, -, effect, held, ordered⟩ := reach.effect commits
  rcases effect.fresh_or ordered with ⟨none, -⟩ | ⟨input, date, row, resolved, event, seen, seen', fresh⟩
  · have nothing : reportsOf writes id = [] := by
      refine eq_nil_iff_forall_not_mem.2 fun report mem => ?_
      obtain ⟨time, stored⟩ := mem_reportsOf.1 mem
      exact none id report time stored
    rw [nothing]
    exact once
  · obtain ⟨wrote, unreported⟩ := reach.fresh commits held fresh
    have locks : reportsOf (lockedRuns before proc.call seen) id = [] := by
      refine eq_nil_iff_forall_not_mem.2 fun report mem => ?_
      obtain ⟨time, stored⟩ := mem_reportsOf.1 mem
      cases lockedRuns_calm _ stored
    rw [wrote, reportsOf_append, locks]
    by_cases mine : row.runId = id
    · rw [mine] at unreported
      rw [unreported]
      simp [reportsOf, mine]
    · simpa [reportsOf, mine] using once

/-- **At most one report is stored for a request.** -/
theorem Reachable.stored_once (named : NamedApart outside config) (ref : String) :
    (reportsFor ref config.ledger).length ≤ 1 := by
  cases some : reportsFor ref config.ledger with
  | nil => exact Nat.zero_le _
  | cons first rest =>
    have mem : first ∈ reportsFor ref config.ledger := by
      rw [some]
      exact mem_cons_self
    obtain ⟨mine, id, time, stored⟩ := mem_reportsFor.1 mem
    obtain ⟨text, run, there, same⟩ := reach.report_named stored
    -- a report is for this request exactly if it is of this run
    have alike : reportsFor ref config.ledger = reportsOf config.ledger id := by
      refine filterMap_congr fun write mem => ?_
      cases write with
      | report other report time' =>
        obtain ⟨text', run', there', same'⟩ := reach.report_named mem
        refine if_congr ⟨fun equal => ?_, fun equal => ?_⟩ rfl rfl
        · have name : requestRef outside.deterministicId run'.id 0 =
              requestRef outside.deterministicId run.id 0 := by
            refine Uuid.ext ?_
            rw [same', same, text', text, equal, mine]
          exact same'.symm.trans ((named run' run there' there name).trans same)
        · rw [← text', equal, text, mine]
      | _ => rfl
    rw [← some, alike]
    exact reach.reportsOf_le (append_nil config.commits).symm id

/-- **At most one event is emitted for a request.** -/
theorem Reachable.emitted_once (named : NamedApart outside config) (ref : String) :
    (emittedFor config ref).length ≤ 1 := by
  refine le_trans ?_ (reach.stored_once named ref)
  have split : reportsFor ref config.ledger
      = config.commits.flatMap fun commit => reportsFor ref commit.2 := List.filterMap_flatMap
  rw [split, emittedFor, List.length_flatMap, List.length_flatMap]
  refine List.sum_le_sum fun commit mem => ?_
  obtain ⟨pid, writes⟩ := commit
  obtain ⟨before, after, commits⟩ := append_of_mem mem
  obtain ⟨proc, body, found, -, effect, held, ordered⟩ := reach.effect commits
  dsimp only
  by_cases reports : proc.call.operation.reports = some ref
  · rw [found, any_some, if_pos (decide_eq_true reports)]
    rcases effect.fresh_or ordered with
      ⟨-, none⟩ | ⟨input, date, row, resolved, event, seen, seen', fresh⟩
    · have nothing : insertedEvents writes = [] :=
        eq_nil_iff_forall_not_mem.2 fun event mem => none ref reports event (mem_insertedEvents.1 mem)
      rw [nothing]
      exact Nat.zero_le _
    · obtain ⟨wrote, -⟩ := reach.fresh commits held fresh
      have mine : input.requestRef = ref := by
        rw [fresh.asked] at reports
        exact Option.some.inj reports
      have locks : insertedEvents (lockedRuns before proc.call seen) = [] :=
        eq_nil_iff_forall_not_mem.2 fun event mem => by
          cases lockedRuns_calm _ (mem_insertedEvents.1 mem)
      have emitted : insertedEvents writes = [event] := by
        rw [wrote, insertedEvents, filterMap_append]
        exact congrArg (· ++ [event]) locks
      have stored : storedReport input row resolved date ∈ reportsFor ref writes := by
        refine mem_reportsFor.2 ⟨mine, row.runId, proc.call.now, ?_⟩
        rw [wrote]
        simp
      rw [emitted]
      exact length_pos_of_mem stored
  · rw [found, any_some, decide_eq_false reports]
    exact Nat.zero_le _

/-- **The report of a run stays what was stored.** -/
theorem Reachable.kept (commits : config.commits = before ++ after) {run : ReconciliationRun}
    {report : StoredBinViewReport} (stored : .report run.id report time ∈ contents before) :
    (run.after (contents before)).summary = some report := by
  have once := reach.reportsOf_le commits run.id
  have mem := mem_reportsOf.2 ⟨time, stored⟩
  obtain ⟨only, same⟩ := List.length_eq_one_iff.1 (Nat.le_antisymm once (length_pos_of_mem mem))
  rw [same] at mem
  rw [ReconciliationRun.after_summary, same, mem_singleton.1 mem]
  rfl

omit reach

end Stored

/-! ### Later reports -/

/-- A run that is still on the feed: open, and its store with an active mapping. -/
def Waits (writes : List Write) (runId : Uuid) : Prop :=
  ∃ run ∈ runsOf writes, ∃ map ∈ mapsOf writes, run.id = runId ∧ run.status = .running ∧
    map.tenantId = run.tenantId ∧ map.storeId = run.storeId ∧ map.purpose = .stock ∧ map.isActive = true

/-- How many transactions were committed when a report locked the open runs. -/
def lookedAt : Log → Option Nat
  | .answered .lockRunning seen (.ok _) :: _ => some seen
  | _ => none

/-- **A report after the first**: the call looked when a report for its request was stored for a run of its
tenant, and it ended without an error of the server. -/
structure LaterReport (config : Config) (proc : Proc) (input : ReportSnapshotInput) (seen : Nat)
    (runId : Uuid) (report : StoredBinViewReport) (result : Except Thrown Body) : Prop where
  member : proc ∈ config.procs
  asked : ∃ date, proc.call.operation = .reportSnapshot input date
  looked : lookedAt proc.log = some seen
  stored : ∃ time, .report runId report time ∈ contents (config.commits.take seen)
  mine : report.requestRef = input.requestRef
  owner : ∃ run, .run run ∈ config.ledger ∧ run.id = runId ∧ run.tenantId = input.tenantId
  ended : proc.result = some result
  unfailed : ∀ fault, result ≠ .error (.pg fault)

/-- **The same snapshot is answered with the stored view, any other is refused.** -/
structure Settles (report : StoredBinViewReport) (body : SnapshotReportBody) (result : Except Thrown Body) :
    Prop where
  replays : SameSnapshot report body → result = .ok (.reported ⟨true, report.project⟩)
  refuses : ¬ SameSnapshot report body → result = .error .binViewConflict

/-- **What holds of the reports of a request**: one is stored at most, and stays; its reports emit one event
at most; and every later one is settled. -/
structure ReportedOnce (config : Config) (ref : String) : Prop where
  stored : (reportsFor ref config.ledger).length ≤ 1
  emitted : (emittedFor config ref).length ≤ 1
  kept : ∀ before after, config.commits = before ++ after → ∀ runId report time,
    report.requestRef = ref → .report runId report time ∈ contents before →
      ∀ run ∈ runsOf (contents before), run.id = runId → run.summary = some report
  later : ∀ proc input seen runId report result,
    LaterReport config proc input seen runId report result → input.requestRef = ref →
      Settles report input.body result

section LaterReports

variable {outside : Outside} {config : Config} {proc : Proc} {input : ReportSnapshotInput} {seen : Nat}
  {runId : Uuid} {report : StoredBinViewReport} {result : Except Thrown Body}

theorem Reachable.waits_iff (reach : Reachable outside config) {context : Context} {tenantId : Uuid}
    (tenant : context.tenant = some tenantId) {run : ReconciliationRun} (added : .run run ∈ config.ledger)
    (same : run.id = runId) (owner : run.tenantId = tenantId) :
    (∃ row ∈ wanted context (contents (config.commits.take seen)), row.runId = runId) ↔
      Waits (contents (config.commits.take seen)) runId := by
  have mine : ∀ found ∈ runsOf (contents (config.commits.take seen)), found.id = runId →
      context.tenant = some found.tenantId := by
    intro found there id
    obtain ⟨other, mem, rfl⟩ := mem_runsOf.1 there
    have one :=
      reach.one_run (contents_take mem) added ((ReconciliationRun.after_id.symm.trans id).trans same.symm)
    rw [ReconciliationRun.after_tenantId, one, owner, tenant]
  constructor
  · rintro ⟨row, mem, rfl⟩
    obtain ⟨found, there, map, inside, visible, opened, seenMap, store, stock, active, rfl⟩ := mem_wanted.1 mem
    exact ⟨found, there, map, inside, rfl, opened, mem_unique seenMap visible, store, stock, active⟩
  · rintro ⟨found, there, map, inside, id, opened, sameTenant, store, stock, active⟩
    refine ⟨_, mem_wanted.2 ⟨found, there, map, inside, mine found there id, opened, ?_, store, stock,
      active, rfl⟩, id⟩
    rw [sameTenant]
    exact mine found there id

/-- **How a later report ended**, by the program of its call. -/
theorem Reachable.later_reports (reach : Reachable outside config)
    (later : LaterReport config proc input seen runId report result) :
    ∃ date answer rest, result = answer.map Body.reported ∧
      Reports outside.deterministicId config.commits proc.call input date seen rest answer := by
  obtain ⟨mem, ⟨date, asked⟩, looked, -, -, -, ended, unfailed⟩ := later
  have finishes : Finishes (stockServer outside) config.commits proc.call []
      ((stockServer outside).program proc.call) proc.log result := by
    refine ⟨?_, reach.answered proc mem⟩
    rcases reach.ends mem ended with ends | ⟨value, fault, -, lost⟩
    · exact ends
    · exact absurd lost (unfailed fault)
  have program : (stockServer outside).program proc.call =
      (reportSnapshot outside.deterministicId input date).bind fun result => .done (.reported result) := by
    show proc.call.operation.program _ = _
    rw [asked]
    rfl
  rw [program] at finishes
  obtain ⟨answer, log', rest, split, ran, answers⟩ : ∃ answer log' rest, proc.log = log' ++ rest ∧ Finishes
      (stockServer outside) config.commits proc.call [] (reportSnapshot outside.deterministicId input date) log'
      answer ∧ result = answer.map Body.reported := by
    rcases finishes_bind (careful_reportSnapshot input date) finishes with
      ⟨error, rfl, threw⟩ | ⟨value, first, rest, split, goes, finishes⟩
    · exact ⟨.error error, proc.log, [], (append_nil _).symm, threw, rfl⟩
    · obtain ⟨-, rfl⟩ := ends_done finishes.ends
      exact ⟨.ok value, first, rest, split, goes.finishes, rfl⟩
  rcases reportSnapshot_finishes ran with ⟨fault, rfl⟩ | ⟨seen', rest', early, rfl, reports⟩
  · exact absurd answers (unfailed fault)
  obtain rfl : seen' = seen := by
    rw [split] at looked
    exact Option.some.inj looked
  exact ⟨date, answer, rest', answers, reports⟩

theorem Reachable.later_named (reach : Reachable outside config)
    (later : LaterReport config proc input seen runId report result) :
    (requestRef outside.deterministicId runId 0).text = input.requestRef := by
  obtain ⟨time, stored⟩ := later.stored
  rw [(reach.report_named (contents_take stored)).1, later.mine]

/-- **The row found for the request of a later report is its run's**, the report stored in it. -/
theorem Reachable.requested_itself (reach : Reachable outside config) (named : NamedApart outside config)
    (later : LaterReport config proc input seen runId report result) {row : RequestRow}
    (found : requested outside.deterministicId (lockedRows config.commits proc.call seen) input.requestRef =
      some row) : row.runId = runId ∧ row.summary = some report := by
  obtain ⟨run, added, same, -⟩ := later.owner
  obtain ⟨time, stored⟩ := later.stored
  obtain ⟨name, other, there, id, -, -, summary, -⟩ := requested_some found
  have apart : other.id = run.id := by
    refine named other run (contents_take there) added (Uuid.ext ?_)
    rw [id, same, name, reach.later_named later]
  have one := reach.one_run (contents_take there) added apart
  refine ⟨id.symm.trans (apart.trans same), summary.symm.trans ?_⟩
  rw [one]
  rw [← same] at stored
  exact reach.kept (take_append_drop seen config.commits).symm stored

/-- **A later report is settled exactly when its run waits, and its snapshot does not collide.** -/
theorem Reachable.settles_iff (reach : Reachable outside config) (named : NamedApart outside config)
    (later : LaterReport config proc input seen runId report result) :
    Settles report input.body result ↔
      Waits (contents (config.commits.take seen)) runId ∧ ¬ Collides report input.body := by
  obtain ⟨date, answer, rest, answers, reports⟩ := reach.later_reports later
  have text := reach.later_named later
  obtain ⟨date', asked⟩ := later.asked
  obtain ⟨run, added, same, owner⟩ := later.owner
  have tenant : proc.call.context.tenant = some input.tenantId := by
    rw [Call.context, asked]
    rfl
  have waiting : (∃ row ∈ wanted proc.call.context (contents (config.commits.take seen)), row.runId = runId) ↔
      Waits (contents (config.commits.take seen)) runId :=
    reach.waits_iff tenant added same owner
  have waits_of_found : ∀ row, requested outside.deterministicId (lockedRows config.commits proc.call seen)
      input.requestRef = some row → Waits (contents (config.commits.take seen)) runId :=
    fun row found => waiting.1 ⟨row, mem_of_find?_eq_some found, (reach.requested_itself named later found).1⟩
  cases reports with
  | missing none =>
    rw [answers]
    refine iff_of_false (fun settles => ?_) ?_
    · by_cases alike : SameSnapshot report input.body
      · cases settles.replays alike
      · cases settles.refuses alike
    · rintro ⟨waits, -⟩
      obtain ⟨row, inside, id⟩ := waiting.2 waits
      have missed := find?_eq_none.1 none row inside
      rw [id, text] at missed
      simp at missed
  | @replayed row old resolved found summary mine' alike silent =>
    obtain rfl := Option.some.inj ((reach.requested_itself named later found).2.symm.trans summary)
    obtain ⟨moment, texts⟩ := sameLogicalReport_iff.1 alike
    rw [answers]
    constructor
    · refine fun settles => ⟨waits_of_found row found, fun collides => ?_⟩
      cases settles.refuses fun alike => collides.other alike.entries
    · rintro ⟨-, apart⟩
      refine ⟨fun _ => rfl, fun other => absurd ⟨moment, texts, ?_⟩ apart⟩
      exact fun entries => other ⟨moment, entries⟩
  | @conflict row old resolved found summary mine' other =>
    obtain rfl := Option.some.inj ((reach.requested_itself named later found).2.symm.trans summary)
    have differs : ¬ (report.readAt = input.body.readAt ∧ ((report.entries.map StoredEntry.reported).map
        joined).Perm ((input.body.entries.map BinEntryInput.reported).map joined)) := by
      intro alike
      rw [sameLogicalReport_iff.2 alike] at other
      cases other
    rw [answers]
    refine iff_of_true ⟨fun alike => ?_, fun _ => rfl⟩ ⟨waits_of_found row found, fun collides => ?_⟩
    · exact absurd ⟨alike.readAt, alike.entries.map joined⟩ differs
    · exact differs ⟨collides.readAt, collides.texts⟩
  | recorded found unreported early' since asks wrote =>
    exact absurd later.mine (unreported report (reach.requested_itself named later found).2)

/-- **Of every request at most one report is stored and at most one event emitted; and every later report
of the same snapshot is a replay and every other a conflict, exactly when each of them finds its run still
waiting and none collides.** -/
theorem reports_iff (reachable : Reachable outside config) (named : NamedApart outside config)
    (ref : String) :
    ReportedOnce config ref ↔
      ∀ proc input seen runId report result,
      LaterReport config proc input seen runId report result → input.requestRef = ref →
      Waits (contents (config.commits.take seen)) runId ∧ ¬ Collides report input.body := by
  constructor
  · intro once proc input seen runId report result later mine
    exact (reachable.settles_iff named later).1 (once.later _ _ _ _ _ _ later mine)
  · intro waits
    refine ⟨reachable.stored_once named ref, reachable.emitted_once named ref, ?_, ?_⟩
    · rintro before after commits runId report time _ stored run mem rfl
      obtain ⟨added, -, rfl⟩ := mem_runsOf.1 mem
      rw [ReconciliationRun.after_id] at stored
      exact reachable.kept commits stored
    · intro proc input seen runId report result later mine
      exact (reachable.settles_iff named later).2 (waits _ _ _ _ _ _ later mine)

end LaterReports

/-! ### A retry after the run was processed -/

def sampleRequest : Uuid := ⟨"37802fc9-a1a4-5aca-a13b-39c64dd876bd", by decide⟩

def sampleName (space name : String) : Uuid :=
  if space = BIN_VIEW_REQUEST_NS ∧ name = "00000000-0000-0000-0000-000000000002:0" then sampleRequest
  else sample 9

def sampleOutside : Outside :=
  ⟨⟨fun _ => true, fun store => if store = sample 1 then some (sample 0) else none, fun _ => true⟩,
    sampleName⟩

def sampleReport (name quantity stockUom : String)
    (named : 1 ≤ utf16Length name ∧ utf16Length name ≤ 140) (exact : isQuantity quantity = true)
    (united : 1 ≤ utf16Length stockUom ∧ utf16Length stockUom ≤ 140) : ReportSnapshotInput :=
  ⟨sample 0, sampleRequest.text,
    ⟨[⟨name, quantity, stockUom, named, exact, united⟩], "2026-06-01T10:00:00Z", Nat.one_le_ofNat⟩, "key"⟩

def twoPieces : ReportSnapshotInput :=
  sampleReport "ITEM-1" "2" "Nos" (by decide) (by decide) (by decide)

/-- A store is mapped, a run triggered, and two pieces of an item are reported. -/
def reportedEvents : List (Event Uuid PgError Call) :=
  [.start ⟨1, .set ⟨sample 0, sample 1, "Stores - DP", sample 8⟩⟩, .ask 0,
    .draw 0 (sample 3), .ask 0, .stop 0 none,
    .start ⟨2, .triggerRun ⟨sample 0, sample 1, sample 8⟩⟩, .ask 1, .draw 1 (sample 2),
    .ask 1, .draw 1 (sample 4), .ask 1, .ask 1, .stop 1 none,
    .start ⟨3, .reportSnapshot twoPieces 3⟩, .ask 2, .ask 2, .ask 2, .draw 2 (sample 5), .ask 2,
    .stop 2 none]

/-- The run is processed, and the same report is sent again. -/
def retriedEvents : List (Event Uuid PgError Call) :=
  reportedEvents.append [.start ⟨4, .process ⟨sample 2, sample 0⟩⟩, .ask 3, .ask 3, .ask 3, .ask 3,
    .ask 3, .stop 3 none, .start ⟨5, .reportSnapshot twoPieces 5⟩, .ask 4, .stop 4 none]

/-- The same report is sent again, and then another one. -/
def repeatedEvents : List (Event Uuid PgError Call) :=
  reportedEvents.append [.start ⟨4, .reportSnapshot twoPieces 4⟩, .ask 3, .ask 3, .stop 3 none,
    .start ⟨5, .reportSnapshot (sampleReport "ITEM-1" "3" "Nos" (by decide) (by decide) (by decide)) 5⟩,
    .ask 4, .ask 4, .stop 4 none]

def twoStored : StoredBinViewReport where
  requestRef := sampleRequest.text
  runRef := sample 2
  erpnextWarehouseRef := "Stores - DP"
  readAt := "2026-06-01T10:00:00Z"
  recordedAt := 3
  acceptedEntryCount := 1
  entries := [⟨"ITEM-1", none, "2", "Nos"⟩]

def reportSeen (config : Config) (pid : Nat) (input : ReportSnapshotInput) (seen : Nat)
    (report : StoredBinViewReport) (result : Except Thrown Body) : Bool :=
  (insertedRuns config.ledger).all (fun run => run.id = sample 2) &&
    (insertedRuns config.ledger).any (fun run => run.id = sample 2 && run.tenantId = input.tenantId) &&
    (reportsOf (contents (config.commits.take seen)) (sample 2)).contains report &&
    config.procs[pid]?.any fun proc => lookedAt proc.log = some seen && proc.result = some result &&
      match proc.call.operation with
      | .reportSnapshot sent _ => sent = input
      | _ => false

theorem LaterReport.of_seen {config : Config} {pid : Nat} {report : StoredBinViewReport}
    {result : Except Thrown Body} (observed : reportSeen config pid input seen report result = true)
    (mine : report.requestRef = input.requestRef) (unfailed : ∀ fault, result ≠ .error (.pg fault)) :
    NamedApart sampleOutside config ∧
      ∃ proc, LaterReport config proc input seen (sample 2) report result := by
  simp only [reportSeen, and_eq_true, all_eq_true, List.any_eq_true, decide_eq_true_eq,
    List.contains_iff_mem] at observed
  obtain ⟨⟨⟨one, run, added, id, tenant⟩, stored⟩, called⟩ := observed
  obtain ⟨proc, found, called⟩ := (any_eq_true _ _).1 called
  simp only [and_eq_true, decide_eq_true_eq] at called
  obtain ⟨⟨looked, ended⟩, asked⟩ := called
  refine ⟨fun first second inOne inTwo _ => ?_, proc, mem_of_getElem? found, ?_, looked,
    mem_reportsOf.1 stored, mine, ⟨run, mem_insertedRuns.1 added, id, tenant⟩, ended, unfailed⟩
  · exact (one first (mem_insertedRuns.2 inOne)).trans (one second (mem_insertedRuns.2 inTwo)).symm
  · split at asked
    · rename_i sent date same
      exact ⟨date, by rw [same, of_decide_eq_true asked]⟩
    · cases asked

/-- **A report that is sent again after its run was processed is refused as unknown.** -/
theorem retried_in_vain :
    ∃ config, Reachable sampleOutside config ∧ NamedApart sampleOutside config ∧
      ¬ ReportedOnce config sampleRequest.text := by
  have ran : (run (stockServer sampleOutside) retriedEvents).any (fun config =>
      reportSeen config 4 twoPieces 4 twoStored (.error .binViewNotFound)) = true := by
    decide +kernel
  obtain ⟨config, ran, observed⟩ := (any_eq_true _ _).1 ran
  obtain ⟨named, proc, later⟩ := LaterReport.of_seen observed rfl fun _ same => by cases same
  refine ⟨config, run_reachable _ ran, named, fun once => ?_⟩
  have settles := once.later _ _ _ _ _ _ later rfl
  have same : SameSnapshot twoStored twoPieces.body := ⟨rfl, .refl _⟩
  cases settles.replays same

theorem reports_iff_sample :
    ∃ config, run (stockServer sampleOutside) repeatedEvents = some config ∧
      reportSeen config 3 twoPieces 3 twoStored (.ok (.reported ⟨true, twoStored.project⟩)) = true ∧
      (ReportedOnce config sampleRequest.text ↔
        ∀ proc input seen runId report result,
        LaterReport config proc input seen runId report result → input.requestRef = sampleRequest.text →
        Waits (contents (config.commits.take seen)) runId ∧ ¬ Collides report input.body) := by
  have ran : (run (stockServer sampleOutside) repeatedEvents).any (fun config =>
      reportSeen config 3 twoPieces 3 twoStored (.ok (.reported ⟨true, twoStored.project⟩))) = true := by
    decide +kernel
  obtain ⟨config, ran, observed⟩ := (any_eq_true _ _).1 ran
  obtain ⟨named, -⟩ := LaterReport.of_seen observed rfl fun _ same => by cases same
  exact ⟨config, ran, observed, reports_iff (run_reachable _ ran) named sampleRequest.text⟩

end DataPulse.Stock
