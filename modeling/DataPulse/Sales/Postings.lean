/-
**Terminal events and posting requests.**

Three writers ask for postings: a void, a refund and the drain. However their calls overlap:

`postings_once` is all of it. A void and a refund may share a key: they are in tables of their own.
-/

import DataPulse.Sales.Capture

namespace DataPulse.Sales

open Lib Lib.Interleave Platform

/-! ### Terminal calls -/

def Operation.terminal : Operation → Option (TerminalKind × TerminalInput (String × String))
  | .recordVoid input =>
    some (.void, { input with body := (input.body.sourceSystem, input.body.externalId) })
  | .recordRefund input =>
    some (.refund, { input with body := (input.body.sourceSystem, input.body.externalId) })
  | _ => none

/-- The row has the key of the call. -/
structure TerminalKey (kind : TerminalKind) (input : TerminalInput (String × String))
    (row : TerminalEvent) : Prop where
  kind : row.kind = kind
  tenant : Uuid.ofText input.tenantId = some row.tenantId
  source : row.sourceSystem = input.body.1
  external : row.externalId = input.body.2

def reversals (writes : List Write) (rowId : Uuid) : List OutboxEvent :=
  (eventsOf writes).filter fun event => event.eventType = ERPNEXT_POSTING_REQUESTED &&
    event.payload.kind = some "reversal" && event.payload.sourceRefId = some rowId.text

def salePosts (writes : List Write) (saleId : Uuid) : List OutboxEvent :=
  (eventsOf writes).filter fun event => event.eventType = ERPNEXT_POSTING_REQUESTED &&
    event.payload.kind = some "sale_post" &&
    event.payload.sourceRefId.bind Uuid.ofText = some saleId

theorem reversals_append (first second : List Write) (rowId : Uuid) :
    reversals (first ++ second) rowId = reversals first rowId ++ reversals second rowId := by
  simp [reversals]

theorem salePosts_append (first second : List Write) (saleId : Uuid) :
    salePosts (first ++ second) saleId = salePosts first saleId ++ salePosts second saleId := by
  simp [salePosts]

/-! ### What a commit asks for -/

section Deeds

variable {before : List (Nat × List Write)} {call : Call} {log : Log} {writes : List Write}
variable {saleId : Uuid}

variable (deed : Deed before call log writes)
include deed

theorem Deed.of_terminal {row : TerminalEvent} (mem : .terminal row ∈ writes) :
    row.id ∈ drawn log ∧
      ∃ event, writes = [.terminal row, .event event] ∧ reversals writes row.id = [event] := by
  cases deed with
  | @ended input row' event terminal =>
    obtain rfl : row = row' := by simpa using mem
    refine ⟨?_, event, rfl, ?_⟩
    · rw [terminal.wrote.drawn]
      exact mem_cons_self
    · show [event].filter _ = [event]
      rw [List.filter_singleton, terminal.eventType, terminal.payload]
      simp
  | _ => simp at mem

theorem Deed.reversal_of {rowId : Uuid} (asks : reversals writes rowId ≠ []) :
    ∃ row, .terminal row ∈ writes ∧ row.id = rowId := by
  obtain ⟨event, mem⟩ := exists_mem_of_ne_nil _ asks
  obtain ⟨inside, asked⟩ := mem_filter.1 mem
  simp only [and_eq_true, decide_eq_true_eq] at asked
  have mem := mem_eventsOf.1 inside
  cases deed with
  | @captured input row lines event' op capture =>
    have same : event = event' := by simpa using mem
    rw [same, capture.eventType] at asked
    exact absurd asked.1.1 (by decide)
  | @ended input row event' terminal =>
    have same : event = event' := by simpa using mem
    rw [same, terminal.payload] at asked
    exact ⟨row, mem_cons_self, text_inj (Option.some.inj asked.2)⟩
  | @processed job row mismatchFlag event' process unprocessed =>
    have same : event = event' := by simpa using mem
    rw [same, process.payload] at asked
    exact absurd asked.1.2 (by simp)
  | _ => simp at mem

theorem Deed.of_process {mismatchFlag : Bool} {processedAt : Int}
    (mem : .process saleId mismatchFlag processedAt ∈ writes) :
    ∃ event, salePosts writes saleId = [event] := by
  cases deed with
  | @processed job row mismatchFlag' event process unprocessed =>
    have same : saleId = row.id := by
      have equal : saleId = row.id ∧ mismatchFlag = mismatchFlag' ∧ processedAt = call.now := by
        simpa using mem
      exact equal.1
    refine ⟨event, ?_⟩
    show [event].filter _ = [event]
    rw [List.filter_singleton, process.eventType, process.payload, same]
    simp [process.sale]
  | _ => simp at mem

theorem Deed.salePost_of (asks : salePosts writes saleId ≠ []) :
    ∃ mismatchFlag processedAt, .process saleId mismatchFlag processedAt ∈ writes := by
  obtain ⟨event, mem⟩ := exists_mem_of_ne_nil _ asks
  obtain ⟨inside, asked⟩ := mem_filter.1 mem
  simp only [and_eq_true, decide_eq_true_eq] at asked
  have mem := mem_eventsOf.1 inside
  cases deed with
  | @captured input row lines event' op capture =>
    have same : event = event' := by simpa using mem
    rw [same, capture.eventType] at asked
    exact absurd asked.1.1 (by decide)
  | @ended input row event' terminal =>
    have same : event = event' := by simpa using mem
    rw [same, terminal.payload] at asked
    exact absurd asked.1.2 (by simp)
  | @processed job row mismatchFlag event' process unprocessed =>
    have same : event = event' := by simpa using mem
    rw [same, process.payload, bind_some, process.sale] at asked
    rw [← Option.some.inj asked.2]
    exact ⟨mismatchFlag, call.now, mem_cons_self⟩
  | _ => simp at mem

omit deed

end Deeds

/-! ### Runs -/

section Runs

variable {reference : Reference} {config : Config}
variable {input : TerminalInput (String × String)} {writes : List Write} {kind : TerminalKind}
  {row : TerminalEvent} {pid : Nat} {proc : Proc}
variable {sale : Sale}

variable (reach : Reachable reference config)
include reach

/-- **A key has at most one void, and at most one refund.** -/
theorem Reachable.one_terminal_per_key {first second : TerminalEvent}
    (inOne : .terminal first ∈ config.ledger) (inTwo : .terminal second ∈ config.ledger)
    (same : first.sameKey second = true) : first = second :=
  Write.terminal.inj (eq_of_clash collide_comm reach.collideFree.ledger inOne inTwo (by simp [collide, same]))

theorem Reachable.deed_of (commit : (pid, writes) ∈ config.commits) :
    ∃ before proc, config.procs[pid]? = some proc ∧ Deed before proc.call proc.log writes := by
  obtain ⟨before, after, commits⟩ := append_of_mem commit
  obtain ⟨proc, value, found, -, rfl, kept⟩ := reach.commit_of commits
  exact ⟨before, proc, found, kept.deed⟩

/-- **A terminal event has one reversal request, committed with it.** -/
theorem Reachable.one_reversal
    (onLedger : .terminal row ∈ config.ledger) :
    ∃ event pid, reversals config.ledger row.id = [event] ∧
      (pid, [.terminal row, .event event]) ∈ config.commits := by
  obtain ⟨⟨pid, writes⟩, commit, added⟩ := mem_flatMap.1 onLedger
  obtain ⟨before, proc, found, deed⟩ := reach.deed_of commit
  obtain ⟨drew, event, rfl, asked⟩ := deed.of_terminal added
  refine ⟨event, pid, ?_, commit⟩
  rw [reach.filter_commit (reversals · row.id) (fun _ _ => reversals_append _ _ _) rfl commit
    fun other writes' commit' unlike => ?_]
  · exact asked
  · by_contra asks
    obtain ⟨before', proc', found', deed'⟩ := reach.deed_of commit'
    obtain ⟨row', inserted', same⟩ := deed'.reversal_of asks
    have drew' := (deed'.of_terminal inserted').1
    rw [same] at drew'
    exact reach.drawnOnce.apart other pid proc' proc found' found unlike drew' drew

omit reach

theorem Sale.processed_by (unprocessed : sale.processedAt = none)
    (processed : (sale.after writes).processedAt.isSome = true) :
    ∃ mismatchFlag processedAt, .process sale.id mismatchFlag processedAt ∈ writes := by
  induction writes generalizing sale with
  | nil =>
    rw [Sale.after_nil, unprocessed] at processed
    cases processed
  | cons write rest ih =>
    rw [Sale.after_cons] at processed
    by_cases about : ∃ mismatchFlag processedAt, write = .process sale.id mismatchFlag processedAt
    · obtain ⟨mismatchFlag, processedAt, rfl⟩ := about
      exact ⟨mismatchFlag, processedAt, mem_cons_self⟩
    · have still : (sale.apply write).processedAt = none ∧ (sale.apply write).id = sale.id := by
        unfold Sale.apply
        split
        · rename_i saleId mismatchFlag processedAt
          rw [if_neg]
          · exact ⟨unprocessed, rfl⟩
          · rintro rfl
            exact about ⟨mismatchFlag, processedAt, rfl⟩
        · split_ifs
          · exact ⟨unprocessed, rfl⟩
          · exact ⟨unprocessed, rfl⟩
        · exact ⟨unprocessed, rfl⟩
      obtain ⟨mismatchFlag, processedAt, mem⟩ := ih still.1 processed
      rw [still.2] at mem
      exact ⟨mismatchFlag, processedAt, mem_cons_of_mem _ mem⟩

variable (reach : Reachable reference config)
include reach

/-- **A processed sale has one posting request.** -/
theorem Reachable.one_sale_post (mem : sale ∈ salesOf config.ledger)
    (processed : sale.processedAt.isSome = true) : ∃ event, salePosts config.ledger sale.id = [event] := by
  obtain ⟨row, added, rfl⟩ := mem_salesOf.1 mem
  rw [Sale.after_id]
  have unprocessed : row.processedAt = none := by
    obtain ⟨⟨pid, writes⟩, commit, inside⟩ := mem_flatMap.1 added
    obtain ⟨before, proc, -, deed⟩ := reach.deed_of commit
    exact (deed.inserts_sale inside).2
  obtain ⟨mismatchFlag, processedAt, drained⟩ := Sale.processed_by unprocessed processed
  obtain ⟨⟨pid, writes⟩, commit, inside⟩ := mem_flatMap.1 drained
  obtain ⟨before, proc, -, deed⟩ := reach.deed_of commit
  obtain ⟨event, asked⟩ := deed.of_process inside
  refine ⟨event, ?_⟩
  rw [reach.filter_commit (salePosts · row.id) (fun _ _ => salePosts_append _ _ _) rfl commit
    fun other writes' commit' unlike => ?_]
  · exact asked
  · by_contra asks
    obtain ⟨before', proc', -, deed'⟩ := reach.deed_of commit'
    obtain ⟨mismatchFlag', processedAt', inside'⟩ := deed'.salePost_of asks
    exact unlike (reach.same_commit (by simp [collide]) commit commit' inside inside')

/-- **A void or refund that returned is recorded under its key for the sale asked for, and commits the
event and its request, or nothing.** -/
theorem Reachable.terminal_returns {value : Body} (found : config.procs[pid]? = some proc)
    (operation : proc.call.operation.terminal = some (kind, input)) (gave : proc.result = some (.ok value)) :
    ∃ row, .terminal row ∈ config.ledger ∧ TerminalKey kind input row ∧
      Uuid.ofText input.saleRef = some row.saleId ∧
      (written proc.log = [] ∨ ∃ event, written proc.log = [.terminal row, .event event]) := by
  obtain ⟨before, after, commits, kept⟩ := reach.returned found gave
  have ends := kept.completes
  have effect : ∀ {refunded missing result log}, (kind = if Option.isSome refunded then .refund else .void) →
      written log = written proc.log → Completes (salesServer reference) before proc.call []
        (recordTerminal kind input refunded missing) log result → ∃ row, .terminal row ∈ config.ledger ∧
        TerminalKey kind input row ∧ Uuid.ofText input.saleRef = some row.saleId ∧
        (written proc.log = [] ∨ ∃ event, written proc.log = [.terminal row, .event event]) := by
    intro refunded missing result log matching same transaction
    obtain ⟨row, event, ended, sameKind, -⟩ | ⟨nothing, row, ended, sameKind, -⟩ :=
      recordTerminal_effect matching transaction
    · have wrote : written proc.log = [.terminal row, .event event] := same ▸ ended.wrote.written
      refine ⟨row, mem_ledger_own commits ?_, ⟨sameKind, ended.tenant, ended.source, ended.external⟩,
        ended.sale, .inr ⟨event, wrote⟩⟩
      rw [wrote]
      exact mem_cons_self
    · refine ⟨row, mem_ledger commits ended.member, ⟨sameKind, ended.tenant, ended.source,
        ended.external⟩, ?_, .inl (same ▸ nothing)⟩
      rw [← ended.sale, Uuid.ofText_text]
  match op : proc.call.operation with
  | .recordVoid void =>
    rw [op] at ends operation
    obtain ⟨rfl, rfl⟩ := Prod.mk.inj (Option.some.inj operation)
    obtain ⟨result, first, last, split, transaction, rest⟩ := completes_bind ends
    obtain ⟨rfl, -⟩ := completes_done rest
    exact effect rfl (by rw [split, append_nil]) transaction
  | .recordRefund refund =>
    rw [op] at ends operation
    obtain ⟨rfl, rfl⟩ := Prod.mk.inj (Option.some.inj operation)
    obtain ⟨result, first, last, split, transaction, rest⟩ := completes_bind ends
    obtain ⟨rfl, -⟩ := completes_done rest
    exact effect rfl (by rw [split, append_nil]) transaction
  | .captureSale _ | .readSaleProjection .. | .process _ | .quarantine _ | .repairSaleSync ..
  | .listNeedsRepair _ =>
    rw [op] at operation
    cases operation

/-- **A key of another sale's event of the table is rejected, and nothing is committed.** -/
theorem Reachable.reuse_rejected (found : config.procs[pid]? = some proc)
    (op : proc.call.operation.terminal = some (kind, input)) (onLedger : .terminal row ∈ config.ledger)
    (key : TerminalKey kind input row) (other : Uuid.ofText input.saleRef ≠ some row.saleId) :
    (∀ value, proc.result ≠ some (.ok value)) ∧ pid ∉ config.commits.map Prod.fst := by
  have never : ∀ value, proc.result ≠ some (.ok value) := by
    intro value gave
    obtain ⟨row', onLedger', key', sale, -⟩ := reach.terminal_returns found op gave
    have tenant := mem_unique key.tenant key'.tenant
    have same : row = row' := by
      refine reach.one_terminal_per_key onLedger onLedger' ?_
      simp [TerminalEvent.sameKey, key.kind, key'.kind, tenant, key.source, key'.source, key.external,
        key'.external]
    rw [same] at other
    exact other sale
  refine ⟨never, fun mem => ?_⟩
  obtain ⟨⟨other, writes⟩, commit, rfl⟩ := mem_map.1 mem
  obtain ⟨proc', value, found', gave, -⟩ := reach.booked.committed _ _ commit
  obtain rfl := mem_unique found found'
  exact never value gave

/-- **No void and no refund changes a sale or a line.** -/
theorem Reachable.terminal_spares_sales {before after : List (Nat × List Write)}
    (commits : config.commits = before ++ (pid, writes) :: after) (found : config.procs[pid]? = some proc)
    (op : proc.call.operation.terminal = some (kind, input)) :
    salesOf (contents before ++ writes) = salesOf (contents before) ∧
      linesOf (contents before ++ writes) = linesOf (contents before) := by
  obtain ⟨proc', value, found', gave, wrote, -⟩ := reach.commit_of commits
  obtain rfl := mem_unique found found'
  obtain ⟨row, -, -, -, nothing | ⟨event, both⟩⟩ := reach.terminal_returns found op gave
  · rw [wrote, nothing, append_nil]
    exact ⟨rfl, rfl⟩
  · rw [wrote, both]
    have after : ∀ sale : Sale, sale.after (contents before ++ [.terminal row, .event event]) =
        sale.after (contents before) := by
      intro sale
      rw [Sale.after_append]
      rfl
    constructor
    · rw [salesOf, funext after]
      simp [insertedSales, salesOf]
    · simp [linesOf]

omit reach

/-- **Terminal events and processed sales are posted once each, and a key is never re-used within its
table.** -/
theorem postings_once (reachable : Reachable reference config) :
    (∀ first second, Write.terminal first ∈ config.ledger → Write.terminal second ∈ config.ledger →
        first.sameKey second = true → first = second) ∧
      (∀ row, Write.terminal row ∈ config.ledger →
          ∃ event pid, reversals config.ledger row.id = [event] ∧
          (pid, [.terminal row, .event event]) ∈ config.commits) ∧
      (∀ sale ∈ salesOf config.ledger, sale.processedAt.isSome = true →
          ∃ event, salePosts config.ledger sale.id = [event]) ∧
      ∀ (pid : Nat) (proc : Proc) kind input,
      config.procs[pid]? = some proc → proc.call.operation.terminal = some (kind, input) →
      (∀ row, Write.terminal row ∈ config.ledger → TerminalKey kind input row →
        Uuid.ofText input.saleRef ≠ some row.saleId →
        (∀ value, proc.result ≠ some (.ok value)) ∧ pid ∉ config.commits.map Prod.fst) ∧
      ∀ before after writes, config.commits = before ++ (pid, writes) :: after →
      salesOf (contents before ++ writes) = salesOf (contents before) ∧
      linesOf (contents before ++ writes) = linesOf (contents before) :=
  ⟨fun _ _ => reachable.one_terminal_per_key, fun _ => reachable.one_reversal,
    fun _ => reachable.one_sale_post, fun _ _ _ _ found op =>
      ⟨fun _ => reachable.reuse_rejected found op, fun _ _ _ commits =>
        reachable.terminal_spares_sales commits found op⟩⟩

end Runs

/-! ### One key in two tables -/

def sampleVoid : RecordVoidInput :=
  ⟨(sample 0).text, (sample 1).text, (sample 0).text, (sample 3).text,
    ⟨"pos", "t-1"⟩⟩

def sampleRefund : RecordRefundInput :=
  ⟨(sample 0).text, (sample 1).text, (sample 0).text, (sample 3).text,
    ⟨"pos", "t-1", "10.00", "EGP"⟩⟩

def terminalEvents (pid : Nat) (operation : Operation) (rowId eventId : Uuid) :
    List (Event Uuid PgError Call) :=
  [.start ⟨2, operation⟩, .ask pid, .draw pid rowId, .ask pid, .draw pid eventId, .ask pid,
    .stop pid none]

def sharedKeyEvents : List (Event Uuid PgError Call) :=
  captureEvents ++ terminalEvents 1 (.recordVoid sampleVoid) (sample 6) (sample 7) ++
    terminalEvents 2 (.recordRefund sampleRefund) (sample 8) (sample 9)

def shareKey : List TerminalEvent → Bool
  | [first, second] => first.kind ≠ second.kind ∧ first.tenantId = second.tenantId ∧
      first.sourceSystem = second.sourceSystem ∧ first.externalId = second.externalId
  | _ => false

theorem sharedKeyEvents_run :
    ∃ config first second, run (salesServer sampleReference) sharedKeyEvents = some config ∧
      terminalsOf config.ledger = [first, second] ∧ first.kind ≠ second.kind ∧
      first.tenantId = second.tenantId ∧ first.sourceSystem = second.sourceSystem ∧
      first.externalId = second.externalId := by
  have ran : (run (salesServer sampleReference) sharedKeyEvents).any (fun config =>
      shareKey (terminalsOf config.ledger)) = true := by
    decide +kernel
  obtain ⟨config, ran, seen⟩ := (any_eq_true _ _).1 ran
  unfold shareKey at seen
  split at seen
  · rename_i first second rows
    exact ⟨config, first, second, ran, rows, of_decide_eq_true seen⟩
  · cases seen

/-- **A void and a refund have one key, and both are recorded.** -/
theorem shared_key_recorded_twice :
    ∃ config, Reachable sampleReference config ∧
      ∃ first ∈ terminalsOf config.ledger,
      ∃ second ∈ terminalsOf config.ledger, first ≠ second ∧ first.tenantId = second.tenantId ∧
      first.sourceSystem = second.sourceSystem ∧ first.externalId = second.externalId := by
  obtain ⟨config, first, second, ran, rows, kinds, same⟩ := sharedKeyEvents_run
  refine ⟨config, run_reachable _ ran, first, ?_, second, ?_, fun equal => kinds (equal ▸ rfl), same⟩
  · rw [rows]
    exact mem_cons_self
  · rw [rows]
    exact mem_cons_of_mem _ mem_cons_self

theorem postings_once_sample :
    ∃ config first event, run (salesServer sampleReference) sharedKeyEvents = some config ∧
      Write.terminal first ∈ config.ledger ∧ reversals config.ledger first.id = [event] := by
  obtain ⟨config, first, second, ran, rows, -⟩ := sharedKeyEvents_run
  have onLedger : Write.terminal first ∈ config.ledger := mem_terminalsOf.1 (rows ▸ mem_cons_self)
  obtain ⟨event, pid, asked, -⟩ := (postings_once (run_reachable _ ran)).2.1 first onLedger
  exact ⟨config, first, event, ran, onLedger, asked⟩

end DataPulse.Sales
