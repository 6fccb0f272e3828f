/-
**What a commit does to the tables it meets.**

A statement found its rows when it ran; the commit came later. What the statement wrote was locked in
between, so what it found about its rows still holds when it commits.
-/

import DataPulse.Lib.Logs
import DataPulse.Sales.Effects

namespace DataPulse.Sales

open Lib Lib.Interleave Platform

variable {before : List (Nat × List Write)} {writes : List Write} {reference : Reference}
  {log : Log} {call : Call}

/-! ### Committed calls -/

/-- A committed call, on what was committed before it. -/
structure Committed (reference : Reference) (before : List (Nat × List Write)) (call : Call)
    (log : Log) (value : Body) : Prop where
  completes : Completes (salesServer reference) before call [] call.operation.program log value
  held : Held (salesServer reference) before log
  ordered : Ordered log

/-- **Every commit is of a call that completed on what was committed before it.** -/
theorem Reachable.commit_of {reference : Reference} {config : Config} (reach : Reachable reference config)
    {pid : Nat} {after : List (Nat × List Write)}
    (commits : config.commits = before ++ (pid, writes) :: after) :
    ∃ proc value, config.procs[pid]? = some proc ∧ proc.result = some (.ok value) ∧
      writes = written proc.log ∧ Committed reference before proc.call proc.log value := by
  obtain ⟨proc, value, found, gave, wrote, ends, held, ordered⟩ :=
    Interleave.Reachable.commit_of clash_comm reach commits
  exact ⟨proc, value, found, gave, wrote, ends, held, ordered⟩

theorem clash_of_saleUpdated {first second : Write} {saleId : Uuid} (one : first.saleUpdated = some saleId)
    (two : second.saleUpdated = some saleId) : clash first second = true := by
  cases first <;> cases second <;> simp_all [Write.saleUpdated, clash]

section Locked

variable {statement : Stmt} {seen : Nat} {row : Deadletter} {reply : Reply statement}

variable (held : Held (salesServer reference) before log)
include held

theorem apart_since {first second : Write}
    (answered : Entry.answered statement seen (.ok (reply, writes)) ∈ log)
    (since : first ∈ contents (before.drop seen)) (wrote : second ∈ writes) : clash first second = false :=
  held statement seen reply writes answered first since second wrote

/-- **A sale that the call updates is, when it commits, as the UPDATE found it.** -/
theorem after_seen {write : Write} (answered : Entry.answered statement seen (.ok (reply, writes)) ∈ log)
    (wrote : write ∈ writes) {sale : Sale} (about : write.saleUpdated = some sale.id) :
    sale.after (contents before) = sale.after (contents (before.take seen)) := by
  rw [contents_split before seen, Sale.after_append]
  refine Sale.after_untouched fun first since same => ?_
  rw [Sale.after_id] at same
  have apart := apart_since held answered since wrote
  rw [clash_of_saleUpdated same about] at apart
  cases apart

theorem closed_seen (answered : Entry.answered statement seen (.ok (reply, [.deadletter row])) ∈ log)
    (closed : ∀ other ∈ deadlettersOf (contents (before.take seen)), other.saleId = row.saleId →
      other.isOpen = false) :
    ∀ other ∈ deadlettersOf (contents before), other.saleId = row.saleId → other.isOpen = false := by
  intro other mem same
  obtain ⟨added, inside, rfl⟩ := mem_deadlettersOf.1 mem
  rw [Deadletter.after_saleId] at same
  rw [contents_split before seen] at inside ⊢
  rcases mem_append.1 inside with early | since
  · rw [Deadletter.after_append]
    refine Deadletter.after_resolved (closed _ (mem_deadlettersOf.2 ⟨added, early, rfl⟩) ?_)
    rwa [Deadletter.after_saleId]
  · have apart := apart_since held answered since mem_cons_self
    simp [clash, same] at apart

theorem open_seen {saleId : Uuid} {resolvedAt : Int}
    (answered : Entry.answered statement seen (.ok (reply, [.resolve row.id saleId resolvedAt])) ∈ log)
    (isOpen : (row.after (contents (before.take seen))).isOpen = true) :
    (row.after (contents before)).isOpen = true := by
  rw [contents_split before seen, Deadletter.after_append, Deadletter.after_untouched]
  · exact isOpen
  · intro otherSale otherTime since
    rw [Deadletter.after_id] at since
    have apart := apart_since held answered since mem_cons_self
    simp [clash] at apart

omit held

end Locked

/-! ### Deeds -/

/-- **What a committed call wrote, and what it met.** -/
inductive Deed (before : List (Nat × List Write)) (call : Call) (log : Log) : List Write → Prop where
  | idle : Deed before call log []
  | captured {input : CaptureSaleInput} {row : Sale} {lines : List SaleLine} {event : OutboxEvent}
      (operation : call.operation = .captureSale input)
      (capture : Captured input log row lines event) :
      Deed before call log (.sale row :: (lines.map .line ++ [.event event]))
  | ended {input : TerminalInput (String × String)} {row : TerminalEvent} {event : OutboxEvent}
      (terminal : Ended input log row event) :
      Deed before call log [.terminal row, .event event]
  | processed {job : SaleProcessingJob} {row : Sale} {mismatchFlag : Bool} {event : OutboxEvent}
      (process : Processed before call job log row mismatchFlag event)
      (unprocessed : (row.after (contents before)).processedAt = none) :
      Deed before call log [.process row.id mismatchFlag call.now, .event event]
  | quarantined {input : QuarantineInput} {deadletter : Deadletter} {sale : Sale}
      (quarantine : Quarantined before input log deadletter) (about : sale.id = deadletter.saleId)
      (closed : ∀ other ∈ deadlettersOf (contents before), other.saleId = deadletter.saleId →
        other.isOpen = false)
      (advance : Advanced before input log sale)
      (unsynced : (sale.after (contents before)).syncStatus ≠ .synced) :
      Deed before call log [.deadletter deadletter, .setStatus deadletter.saleId input.target.status]
  | overtaken {input : QuarantineInput} {deadletter : Deadletter} {sale : Sale}
      (quarantine : Quarantined before input log deadletter) (about : sale.id = deadletter.saleId)
      (closed : ∀ other ∈ deadlettersOf (contents before), other.saleId = deadletter.saleId →
        other.isOpen = false)
      (overtaken : Overtaken before input log sale) (order : InsertedFirst before log deadletter sale) :
      Deed before call log [.deadletter deadletter]
  | repaired {saleId : String} {row : Sale} {deadletter : Deadletter}
      (repair : Repaired before call saleId log row deadletter)
      (isOpen : (deadletter.after (contents before)).isOpen = true) :
      Deed before call log
        [.resolve deadletter.id row.id call.now, .setStatus row.id .failedRetryable]

section Deeds

variable {value : Body}

theorem Deed.of_nothing (nothing : written log = []) : Deed before call log (written log) := by
  rw [nothing]
  exact .idle

theorem terminal_deed {kind : TerminalKind} {input : TerminalInput (String × String)}
    {refunded : Option (String × String)} {missing : String} {result : TerminalEventResult}
    (matching : kind = if refunded.isSome then .refund else .void)
    (ends : Completes (salesServer reference) before call [] (recordTerminal kind input refunded missing) log
      result) : Deed before call log (written log) := by
  obtain ⟨row, event, terminal, -, -⟩ | ⟨nothing, -⟩ := recordTerminal_effect matching ends
  · rw [terminal.wrote.written]
    exact .ended terminal
  · exact .of_nothing nothing

theorem quarantine_deed (held : Held (salesServer reference) before log) (ordered : Ordered log)
    {input : QuarantineInput} {result : QuarantineResult}
    (ends : Completes (salesServer reference) before call [] input.quarantine log result) :
    Deed before call log (written log) := by
  obtain ⟨nothing, -⟩ | ⟨deadletter, sale, quarantine, about, outcome⟩ := quarantine_effect ends ordered
  · exact .of_nothing nothing
  obtain ⟨values, seen, -, answered, free⟩ := quarantine.inserted
  have closed := closed_seen held answered free
  rcases outcome with ⟨wrote, advance⟩ | ⟨wrote, overtaken, order⟩
  · obtain ⟨seen', -, updated, -, unsynced⟩ := id advance
    rw [wrote]
    refine .quarantined quarantine about closed advance ?_
    rwa [after_seen held updated mem_cons_self rfl]
  · rw [wrote]
    exact .overtaken quarantine about closed overtaken order

/-- **Every committed call is one of the deeds.** -/
theorem Committed.deed (kept : Committed reference before call log value) : Deed before call log
    (written log) := by
  obtain ⟨ends, held, ordered⟩ := kept
  match op : call.operation with
  | .captureSale input =>
    rw [op] at ends
    obtain ⟨outcome, transaction, -⟩ := completes_map ends
    obtain ⟨row, lines, event, capture, -⟩ | ⟨nothing, -⟩ := captureTransaction_effect transaction
    · rw [capture.wrote.written]
      exact .captured op capture
    · exact .of_nothing nothing
  | .readSaleProjection tenantId storeId saleId =>
    rw [op] at ends
    obtain ⟨projection, reading, -⟩ := completes_map ends
    exact .of_nothing (readSaleProjection_writes reading)
  | .recordVoid input =>
    rw [op] at ends
    obtain ⟨result, transaction, -⟩ := completes_map ends
    exact terminal_deed rfl transaction
  | .recordRefund input =>
    rw [op] at ends
    obtain ⟨result, transaction, -⟩ := completes_map ends
    exact terminal_deed rfl transaction
  | .process job =>
    rw [op] at ends
    obtain ⟨result, transaction, -⟩ := completes_map ends
    obtain ⟨row, mismatchFlag, event, process, -⟩ | ⟨nothing, -⟩ := process_effect transaction
    · obtain ⟨seen, -, answered, -, unprocessed⟩ := process.updated
      rw [process.wrote.written]
      refine .processed process ?_
      rwa [after_seen held answered mem_cons_self rfl]
    · exact .of_nothing nothing
  | .quarantine input =>
    rw [op] at ends
    obtain ⟨result, transaction, -⟩ := completes_map ends
    exact quarantine_deed held ordered transaction
  | .repairSaleSync tenantId saleId =>
    rw [op] at ends
    obtain ⟨body, transaction, -⟩ := completes_map ends
    obtain ⟨row, deadletter, repair⟩ := repairSaleSync_effect transaction ordered
    obtain ⟨seen, -, answered, -, isOpen⟩ := repair.resolved
    rw [repair.wrote.written]
    exact .repaired repair (open_seen held answered isOpen)
  | .listNeedsRepair input =>
    rw [op] at ends
    obtain ⟨page, listing, -⟩ := completes_map ends
    exact .of_nothing (listNeedsRepair_writes listing)

end Deeds

/-! ### What a commit refers to -/

section Refers

variable {saleId : Uuid}
variable {write : Write}
variable {row : Sale}

/-- What updates a sale: the drain, a quarantine, or a repair. -/
inductive Update (before : List (Nat × List Write)) (call : Call) (log : Log) :
    Sale → Write → Prop where
  | process {job : SaleProcessingJob} {row : Sale} {mismatchFlag : Bool} {event : OutboxEvent}
      (process : Processed before call job log row mismatchFlag event)
      (unprocessed : (row.after (contents before)).processedAt = none) :
      Update before call log row (.process row.id mismatchFlag call.now)
  | advance {input : QuarantineInput} {row : Sale} (advance : Advanced before input log row)
      (unsynced : (row.after (contents before)).syncStatus ≠ .synced) :
      Update before call log row (.setStatus row.id input.target.status)
  | requeue {saleId : String} {row : Sale} {deadletter : Deadletter}
      (repair : Repaired before call saleId log row deadletter) :
      Update before call log row (.setStatus row.id .failedRetryable)

theorem Update.present (update : Update before call log row write) : .sale row ∈ contents before := by
  cases update with
  | process process unprocessed =>
    obtain ⟨seen, -, -, there, -⟩ := process.updated
    exact contents_take there
  | advance advance unsynced =>
    obtain ⟨seen, -, -, there, -⟩ := advance
    exact contents_take there
  | requeue repair =>
    obtain ⟨seen, -, -, there⟩ := repair.requeued
    exact contents_take there

variable (deed : Deed before call log writes)
include deed

/-- **A commit updates a sale in one of three ways, after writes that update none.** -/
theorem Deed.update {early late : List Write} (split : writes = early ++ write :: late)
    (about : write.saleUpdated = some saleId) :
    (∀ other ∈ early, other.saleUpdated = none ∧ ∀ row, other ≠ .sale row) ∧
      (∀ other ∈ late, other.saleUpdated = none) ∧
      ∃ row, Update before call log row write ∧ row.id = saleId := by
  have mem : write ∈ writes := split ▸ mem_append_right _ mem_cons_self
  have single : ∀ first second : Write, writes = [first, second] → first ≠ write → early = [first] ∧
      late = [] ∧ write = second := by
    intro first second two unlike
    rw [two] at split
    rcases early with _ | ⟨only, _ | ⟨other, more⟩⟩
    · exact absurd (List.cons.inj split).1 unlike
    · simp only [cons_append, nil_append, List.cons.injEq] at split
      obtain ⟨rfl, rfl, rfl⟩ := split
      exact ⟨rfl, rfl, rfl⟩
    · have lengths := congrArg List.length split
      simp only [length_cons, length_nil, length_append] at lengths
      omega
  cases deed with
  | idle => cases mem
  | captured op capture =>
    simp only [mem_cons, mem_append, mem_map, not_mem_nil, or_false] at mem
    rcases mem with rfl | ⟨line, -, rfl⟩ | rfl
    · cases about
    · cases about
    · cases about
  | ended terminal =>
    simp only [mem_cons, not_mem_nil, or_false] at mem
    rcases mem with rfl | rfl
    · cases about
    · cases about
  | @processed job row mismatchFlag event process unprocessed =>
    simp only [mem_cons, not_mem_nil, or_false] at mem
    rcases mem with rfl | rfl
    swap
    · cases about
    cases early with
    | nil =>
      obtain rfl := (List.cons.inj split).2
      refine ⟨fun _ none => (by cases none), fun other mem => ?_, row,
        .process process unprocessed, Option.some.inj about⟩
      rw [mem_singleton.1 mem]
      rfl
    | cons first rest =>
      have later := (List.cons.inj split).2
      have inside : Write.process row.id mismatchFlag call.now ∈ [.event event] :=
        later ▸ mem_append_right _ mem_cons_self
      cases mem_singleton.1 inside
  | @quarantined input deadletter sale quarantine same closed advance unsynced =>
    have unlike : Write.deadletter deadletter ≠ write := by
      rintro rfl
      cases about
    obtain ⟨rfl, rfl, rfl⟩ := single _ _ rfl unlike
    refine ⟨fun other mem => ?_, fun _ none => (by cases none), sale, ?_,
      same.trans (Option.some.inj about)⟩
    · rw [mem_singleton.1 mem]
      exact ⟨rfl, fun _ => Write.noConfusion⟩
    · rw [← same]
      exact .advance advance unsynced
  | overtaken quarantine same closed overtaken order =>
    rw [mem_singleton.1 mem] at about
    cases about
  | @repaired text row deadletter repair isOpen =>
    have unlike : Write.resolve deadletter.id row.id call.now ≠ write := by
      rintro rfl
      cases about
    obtain ⟨rfl, rfl, rfl⟩ := single _ _ rfl unlike
    refine ⟨fun other mem => ?_, fun _ none => (by cases none), row, .requeue repair,
      Option.some.inj about⟩
    rw [mem_singleton.1 mem]
    exact ⟨rfl, fun _ => Write.noConfusion⟩

theorem Deed.updates (mem : write ∈ writes) (about : write.saleUpdated = some saleId) :
    ∃ sale, .sale sale ∈ contents before ∧ sale.id = saleId := by
  obtain ⟨early, late, split⟩ := append_of_mem mem
  obtain ⟨-, -, row, update, same⟩ := deed.update split about
  exact ⟨row, update.present, same⟩

theorem Deed.inserts_sale (mem : .sale row ∈ writes) :
    row.syncStatus = .captured ∧ row.processedAt = none := by
  cases deed with
  | captured op capture =>
    simp only [mem_cons, mem_append, mem_map, not_mem_nil, or_false,
      Write.sale.injEq, reduceCtorEq, and_false, exists_false] at mem
    rw [mem]
    exact ⟨capture.status, capture.unprocessed⟩
  | _ => simp at mem

/-- A dead letter is of a sale that was there, the only one of its commit, and no other one of that
sale was open. -/
theorem Deed.inserts {row : Deadletter} (mem : .deadletter row ∈ writes) :
    (∃ sale, .sale sale ∈ contents before ∧ sale.id = row.saleId) ∧
      (∀ other, .deadletter other ∈ writes → other = row) ∧
      ∀ other ∈ deadlettersOf (contents before), other.saleId = row.saleId → other.isOpen = false := by
  cases deed with
  | quarantined quarantine same closed advance unsynced =>
    simp only [mem_cons, not_mem_nil, or_false, Write.deadletter.injEq, reduceCtorEq]
      at mem ⊢
    subst mem
    obtain ⟨sale, there, id, -⟩ := quarantine.present
    exact ⟨⟨sale, there, id⟩, fun other same => same, closed⟩
  | overtaken quarantine same closed overtaken order =>
    simp only [mem_singleton, Write.deadletter.injEq] at mem ⊢
    subst mem
    obtain ⟨sale, there, id, -⟩ := quarantine.present
    exact ⟨⟨sale, there, id⟩, fun other same => same, closed⟩
  | _ => simp at mem

theorem Deed.resolves {id : Uuid} {resolvedAt : Int} (mem : .resolve id saleId resolvedAt ∈ writes) :
    ∃ row, .deadletter row ∈ contents before ∧ row.id = id ∧ row.saleId = saleId := by
  cases deed with
  | @repaired text sale deadletter repair isOpen =>
    simp only [mem_cons, not_mem_nil, or_false, Write.resolve.injEq, reduceCtorEq]
      at mem
    obtain ⟨rfl, rfl, -⟩ := mem
    obtain ⟨seen, -, -, there, -⟩ := repair.resolved
    exact ⟨deadletter, contents_take there, rfl, repair.about⟩
  | _ => simp at mem

omit deed

end Refers

/-! ### What the tables refer to -/

/-- What refers to a row of the tables refers to one that is there, and at most one dead letter of a
sale is open. -/
structure Anchored (writes : List Write) : Prop where
  updates : ∀ write ∈ writes, ∀ saleId, write.saleUpdated = some saleId →
    ∃ sale, .sale sale ∈ writes ∧ sale.id = saleId
  letters : ∀ row, .deadletter row ∈ writes → ∃ sale, .sale sale ∈ writes ∧ sale.id = row.saleId
  resolved : ∀ id saleId resolvedAt, .resolve id saleId resolvedAt ∈ writes →
    ∃ row, .deadletter row ∈ writes ∧ row.id = id ∧ row.saleId = saleId
  lone : ∀ first second, .deadletter first ∈ writes → .deadletter second ∈ writes →
    first.saleId = second.saleId → (first.after writes).isOpen = true →
      (second.after writes).isOpen = true → first = second

theorem Anchored.nil : Anchored [] :=
  ⟨fun _ none => (by cases none), fun _ none => (by cases none), fun _ _ _ none => (by cases none),
    fun _ _ none => by cases none⟩

/-- **Every deed keeps the tables anchored.** -/
theorem Anchored.deed {call : Call} {log : Log} (anchored : Anchored (contents before))
    (deed : Deed before call log writes) : Anchored (contents before ++ writes) := by
  have wider : ∀ saleId, (∃ sale, .sale sale ∈ contents before ∧ sale.id = saleId) →
      ∃ sale, .sale sale ∈ contents before ++ writes ∧ sale.id = saleId := fun saleId there =>
    there.imp fun sale found => ⟨mem_append_left _ found.1, found.2⟩
  refine ⟨fun write mem saleId about => wider saleId ?_, fun row mem => wider _ ?_,
    fun id saleId resolvedAt mem => ?_, ?_⟩
  · rcases mem_append.1 mem with old | new
    · exact anchored.updates write old saleId about
    · exact deed.updates new about
  · rcases mem_append.1 mem with old | new
    · exact anchored.letters row old
    · exact (deed.inserts new).1
  · have there : ∃ row, .deadletter row ∈ contents before ∧ row.id = id ∧ row.saleId = saleId := by
      rcases mem_append.1 mem with old | new
      · exact anchored.resolved id saleId resolvedAt old
      · exact deed.resolves new
    exact there.imp fun row found => ⟨mem_append_left _ found.1, found.2⟩
  · -- what is open now was open before, and next to a new dead letter none was
    have prior : ∀ row : Deadletter, (row.after (contents before ++ writes)).isOpen = true →
        (row.after (contents before)).isOpen = true := by
      intro row isOpen
      by_contra resolved
      rw [Deadletter.after_append, Deadletter.after_resolved (by simpa using resolved)] at isOpen
      cases isOpen
    have refused : ∀ old new : Deadletter, .deadletter old ∈ contents before → .deadletter new ∈ writes →
        old.saleId = new.saleId → (old.after (contents before ++ writes)).isOpen ≠ true := by
      intro old new mem added same isOpen
      have closed := (deed.inserts added).2.2 _ (mem_deadlettersOf.2 ⟨old, mem, rfl⟩)
        (Deadletter.after_saleId.trans same)
      rw [prior old isOpen] at closed
      cases closed
    intro first second inOne inTwo same openFirst openSecond
    rcases mem_append.1 inOne with oldFirst | newFirst
    · rcases mem_append.1 inTwo with oldSecond | newSecond
      · exact anchored.lone first second oldFirst oldSecond same (prior _ openFirst) (prior _ openSecond)
      · exact absurd openFirst (refused first second oldFirst newSecond same)
    · rcases mem_append.1 inTwo with oldSecond | newSecond
      · exact absurd openSecond (refused second first oldSecond newFirst same.symm)
      · exact (deed.inserts newSecond).2.1 first newFirst

section Tables

variable {config : Config}
variable {after : List (Nat × List Write)}

variable (reach : Reachable reference config)
include reach

/-- **Up to each commit, the tables are anchored.** -/
theorem Reachable.anchored (commits : config.commits = before ++ after) : Anchored (contents before) := by
  refine prefix_induction (fun before => Anchored (contents before)) .nil
    (fun before commit after commits anchored => ?_) before after commits
  obtain ⟨pid, writes⟩ := commit
  obtain ⟨proc, value, -, -, rfl, kept⟩ := Reachable.commit_of reach commits
  rw [contents_append]
  simpa using anchored.deed kept.deed

theorem Reachable.fresh {pid : Nat} {writes : List Write}
    (commits : config.commits = before ++ (pid, writes) :: after) :
    ∀ first ∈ contents before, ∀ second ∈ writes, collide first second = false := by
  intro first old second new
  have apart := pairwise_commit commits reach.collideFree.ledger old new
  exact apart

/-- **A sale has one row.** -/
theorem Reachable.one_sale {first second : Sale} (inOne : .sale first ∈ config.ledger)
    (inTwo : .sale second ∈ config.ledger) (same : first.id = second.id) : first = second :=
  Write.sale.inj (eq_of_clash collide_comm reach.collideFree.ledger inOne inTwo (by simp [collide, same]))

/-- **A dead letter has one row.** -/
theorem Reachable.one_deadletter {first second : Deadletter} (inOne : .deadletter first ∈ config.ledger)
    (inTwo : .deadletter second ∈ config.ledger) (same : first.id = second.id) : first = second :=
  Write.deadletter.inj (eq_of_clash collide_comm reach.collideFree.ledger inOne inTwo (by simp [collide, same]))

omit reach

end Tables

end DataPulse.Sales
