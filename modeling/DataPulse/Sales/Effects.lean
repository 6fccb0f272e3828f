/-
**What the writers of the sales tables write.**

* `captureTransaction_effect`, `recordTerminal_effect`, `process_effect`, `quarantine_effect`,
  `repairSaleSync_effect`: what one completed call wrote, with the statement that found what it relies
  on.
-/

import DataPulse.Sales.Service

namespace DataPulse.Sales

open Lib Lib.Interleave Platform
open Inventory (TenantContext)

/-! ### Logs of the writers -/

structure Wrote (log : Log) (writes : List Write) (ids : List Uuid) : Prop where
  written : written log = writes
  drawn : drawn log = ids

variable {writes : List Write} {tenantId : String}

theorem Wrote.append {first second : Log} {writes' : List Write} {ids ids' : List Uuid}
    (before : Wrote first writes ids) (later : Wrote second writes' ids') :
    Wrote (first ++ second) (writes ++ writes') (ids ++ ids') := by
  constructor
  · rw [written_append, before.written, later.written]
  · rw [drawn_append, before.drawn, later.drawn]

theorem Wrote.nil : Wrote [] [] [] := ⟨rfl, rfl⟩

variable {reference : Reference} {commits : List (Nat × List Write)} {call : Call}
  {own : List Write} {log : Log} {storeId tenantId saleId : String} {done : Unit}

section Statements

variable {statement : Stmt} {reply : Reply statement}
variable {id : Uuid}

theorem query_completes
    (ends : Completes (salesServer reference) commits call own (clientQuery statement) log reply) :
    ∃ seen writes, log = [.answered statement seen (.ok (reply, writes))] ∧ seen ≤ commits.length ∧
      exec reference call.context (contents (commits.take seen) ++ own) statement = .ok (reply, writes) ∧
      Wrote log writes [] := by
  obtain ⟨seen, writes, rfl, early, ran⟩ := completes_query ends
  exact ⟨seen, writes, rfl, early, ran, by simp [written, Entry.writes], rfl⟩

theorem read_completes (reads : statement.reads = true)
    (ends : Completes (salesServer reference) commits call own (clientQuery statement) log reply) :
    Wrote log [] [] := by
  obtain ⟨seen, writes, -, -, ran, wrote⟩ := query_completes ends
  rwa [exec_reads reads ran] at wrote

theorem newId_completes (ends : Completes (salesServer reference) commits call own Prog.newId log id) :
    Wrote log [] [id] := by
  rw [Interleave.completes_newId ends]
  exact ⟨rfl, rfl⟩

theorem throwWhen_completes {wrong : Bool} {error : Thrown}
    (ends : Completes (salesServer reference) commits call own (throwWhen wrong error) log done) :
    wrong = false ∧ log = [] := by
  cases wrong with
  | true => exact absurd ends not_completes_fail
  | false => exact ⟨rfl, (completes_done ends).1⟩

theorem runWithTenantContext_completes {α : Type} {work : Service α} {value : α}
    (ends : Completes (salesServer reference) commits call own (runWithTenantContext tenantId work) log
      value) : Completes (salesServer reference) commits call own work log value := by
  unfold runWithTenantContext at ends
  split at ends
  · exact ends
  · exact absurd ends not_completes_fail

/-- **The sale a writer asks for is there.** -/
theorem requireSale_completes {missing : Thrown}
    (ends : Completes (salesServer reference) commits call own (requireSale saleId storeId missing) log
      done) :
    ∃ seen sale store found,
      seens log = [seen] ∧ Uuid.ofText saleId = some sale ∧ Uuid.ofText storeId = some store ∧
      saleInScope call.context (contents (commits.take seen) ++ own) sale store = some found ∧
      Wrote log [] [] := by
  obtain ⟨reply, first, second, rfl, asked, ends⟩ := completes_bind ends
  obtain ⟨here, rfl⟩ := throwWhen_completes ends
  rw [append_nil]
  obtain ⟨seen, writes, rfl, -, ran, wrote⟩ := query_completes asked
  obtain ⟨sale, saleCast, ran⟩ := bind_ok ran
  obtain ⟨store, storeCast, ran⟩ := bind_ok ran
  cases ran
  obtain ⟨found, inScope⟩ := isSome_iff_exists.1 (Option.isNone_eq_false_iff.1 here)
  exact ⟨seen, sale, store, found, rfl, Inventory.castUuid_ok saleCast, Inventory.castUuid_ok storeCast,
    inScope, wrote⟩

theorem emit_completes {eventType : String} {payload : Payload}
    (ends : Completes (salesServer reference) commits call own (emit eventType tenantId storeId payload) log
      id) :
    ∃ event : OutboxEvent, event.eventType = eventType ∧ event.payload = payload ∧
      Uuid.ofText tenantId = some event.tenantId ∧ Wrote log [.event event] [event.eventId] := by
  obtain ⟨eventId, first, rest, rfl, drew, ends⟩ := completes_bind ends
  obtain ⟨done, asked, rfl⟩ := completes_map ends
  obtain ⟨seen, writes, -, -, ran, wrote⟩ := query_completes asked
  obtain ⟨event, read, rfl, -⟩ := insertEvent_ok ran
  have gives := EventValues.row_ok read
  refine ⟨event, gives.eventType, gives.payload, gives.tenant, ?_⟩
  rw [show event.eventId = id from gives.id]
  exact (newId_completes drew).append wrote

theorem emitPostingRequested_completes {kind sourceRefId : String}
    (ends : Completes (salesServer reference) commits call own
      (emitPostingRequested tenantId storeId saleId kind sourceRefId) log done) :
    ∃ event : OutboxEvent, event.eventType = ERPNEXT_POSTING_REQUESTED ∧
      event.payload = ⟨saleId, storeId, some kind, some sourceRefId⟩ ∧
      Wrote log [.event event] [event.eventId] := by
  obtain ⟨id, emitted, -⟩ := completes_map ends
  obtain ⟨event, eventType, payload, -, wrote⟩ := emit_completes emitted
  exact ⟨event, eventType, payload, wrote⟩

end Statements

/-! ### Capture -/

section Capture

variable {input : CaptureSaleInput}
variable {saleId : Uuid}

theorem forEachLine_completes {dtos : List CaptureSaleLineDto} {done : List Unit}
    (ends : Completes (salesServer reference) commits call own
      (Prog.forEach (fun line : CaptureSaleLineDto => do
        let lineId ← Prog.newId
        clientQuery (.insertLine (line.values input saleId lineId))) dtos) log done) :
    ∃ lines : List SaleLine, List.Forall₂
      (fun (line : CaptureSaleLineDto) (row : SaleLine) => (line.values input saleId row.id).row = .ok row)
      dtos lines ∧ Wrote log (lines.map .line) (lines.map SaleLine.id) := by
  induction dtos generalizing own log done with
  | nil =>
    obtain ⟨rfl, -⟩ := completes_done ends
    exact ⟨[], .nil, Wrote.nil⟩
  | cons line rest ih =>
    obtain ⟨_, first, later, rfl, body, ends⟩ := completes_bind ends
    obtain ⟨_, looped, -⟩ := completes_map ends
    obtain ⟨lineId, third, fourth, rfl, drew, asked⟩ := completes_bind body
    obtain ⟨seen, writes, -, -, ran, wrote⟩ := query_completes asked
    obtain ⟨row, read, -, rfl, -⟩ := insertLine_ok ran
    obtain ⟨lines, rows, lineWrote⟩ := ih looped
    obtain rfl : row.id = lineId := (LineValues.row_ok read).1
    refine ⟨row :: lines, .cons read rows, ?_⟩
    exact ((newId_completes drew).append wrote).append lineWrote

/-- **The lines of a capture are inserted one by one.** -/
theorem insertLines_completes {done : Unit}
    (ends : Completes (salesServer reference) commits call own (insertLines input saleId) log done) :
    ∃ lines : List SaleLine, List.Forall₂
      (fun (line : CaptureSaleLineDto) (row : SaleLine) => (line.values input saleId row.id).row = .ok row)
      input.body.lines lines ∧ Wrote log (lines.map .line) (lines.map SaleLine.id) := by
  obtain ⟨_, looped, -⟩ := completes_map ends
  exact forEachLine_completes looped

/-- A capture inserted a sale with its lines, and announced it. -/
structure Captured (input : CaptureSaleInput) (log : Log) (row : Sale) (lines : List SaleLine)
    (event : OutboxEvent) : Prop where
  tenant : Uuid.ofText input.tenantId = some row.tenantId
  store : Uuid.ofText input.storeId = some row.storeId
  source : row.sourceSystem = input.body.sourceSystem
  external : row.externalId = input.body.externalId
  unprocessed : row.processedAt = none
  status : row.syncStatus = .captured
  rows : List.Forall₂ (fun (line : CaptureSaleLineDto) (line' : SaleLine) =>
    (line.values input row.id line'.id).row = .ok line') input.body.lines lines
  eventType : event.eventType = SALE_CAPTURED
  payload : event.payload = ⟨row.id.text, input.storeId, none, none⟩
  wrote : Wrote log (.sale row :: (lines.map .line ++ [.event event]))
    (row.id :: (lines.map SaleLine.id ++ [event.eventId]))

/-- A capture found its key taken by a sale. -/
structure Replayed (commits : List (Nat × List Write)) (call : Call) (input : CaptureSaleInput)
    (winner : Sale) : Prop where
  member : .sale winner ∈ contents commits
  visible : some winner.tenantId = call.context.tenant
  tenant : Uuid.ofText input.tenantId = some winner.tenantId
  source : winner.sourceSystem = input.body.sourceSystem
  external : winner.externalId = input.body.externalId

theorem findWinner_ok {context : TenantContext} {wrote : List Write} {sourceSystem externalId : String}
    {winnerId : Uuid}
    (ran : exec reference context writes (.findWinner tenantId sourceSystem externalId) =
      .ok (some winnerId, wrote)) :
    ∃ winner, .sale winner ∈ writes ∧ winner.id = winnerId ∧ some winner.tenantId = context.tenant ∧
      Uuid.ofText tenantId = some winner.tenantId ∧ winner.sourceSystem = sourceSystem ∧
      winner.externalId = externalId := by
  obtain ⟨tenant, cast, ran⟩ := bind_ok ran
  have found := congrArg Prod.fst (Except.ok.inj ran)
  obtain ⟨sale, found, id⟩ := map_eq_some_iff.1 found
  have holds := find?_some found
  simp only [and_eq_true, decide_eq_true_eq] at holds
  obtain ⟨winner, mem, rfl⟩ := mem_salesOf.1 (mem_of_find?_eq_some found)
  simp only [Sale.after_tenantId, Sale.after_sourceSystem, Sale.after_externalId] at holds
  obtain ⟨⟨⟨visible, rfl⟩, source⟩, external⟩ := holds
  exact ⟨winner, mem, by rw [← id, Sale.after_id], visible, Inventory.castUuid_ok cast, source,
    external⟩

/-- **What the first transaction of a capture did: it inserted its sale, or it found the key
taken.** -/
theorem captureTransaction_effect {outcome : CaptureOutcome}
    (ends : Completes (salesServer reference) commits call [] (captureTransaction input) log outcome) :
    (∃ row lines event, Captured input log row lines event ∧ outcome = ⟨row.id, true⟩) ∨
      (written log = [] ∧ ∃ winner, Replayed commits call input winner ∧ outcome = ⟨winner.id, false⟩) := by
  obtain ⟨compare, log₁, rest₁, rfl, compared, ends⟩ := completes_bind (runWithTenantContext_completes ends)
  obtain ⟨saleId, log₂, rest₂, rfl, drew, ends⟩ := completes_bind ends
  obtain ⟨timezone, log₃, rest₃, rfl, resolved, ends⟩ := completes_bind ends
  obtain ⟨added, log₄, rest₄, rfl, asked, ends⟩ := completes_bind ends
  have compareWrote := read_completes rfl compared
  have drewWrote := newId_completes drew
  have resolveWrote : Wrote log₃ [] [] := by
    obtain ⟨reply, first, rest, rfl, read, ends⟩ := completes_bind resolved
    split at ends
    · obtain ⟨rfl, -⟩ := completes_done ends
      rw [append_nil]
      exact read_completes rfl read
    · exact absurd ends not_completes_fail
  obtain ⟨seen, writes, rfl, early, ran, insertWrote⟩ := query_completes asked
  simp only [compareWrote.written, drewWrote.written, resolveWrote.written, append_nil]
    at ran
  obtain ⟨row, read, -, ⟨rfl, rfl, -⟩ | ⟨rfl, rfl, -⟩⟩ := insertSale_ok ran
  · have gives := SaleValues.row_ok read
    obtain rfl : row.id = saleId := gives.id
    obtain ⟨_, log₅, rest₅, rfl, looped, ends⟩ := completes_bind ends
    obtain ⟨_, emitted, rfl⟩ := completes_map ends
    obtain ⟨lines, rows, lineWrote⟩ := insertLines_completes looped
    obtain ⟨event, eventType, payload, -, eventWrote⟩ := emit_completes emitted
    refine .inl ⟨row, lines, event, ⟨gives.tenant, gives.store, gives.source, gives.external,
      gives.unprocessed, gives.status, rows, eventType, payload, ?_⟩, rfl⟩
    simpa using compareWrote.append (drewWrote.append (resolveWrote.append
      (insertWrote.append (lineWrote.append eventWrote))))
  · obtain ⟨found, log₅, rest₅, rfl, winning, ends⟩ := completes_bind ends
    obtain ⟨seen', writes', rfl, -, executed', winnerWrote⟩ := query_completes winning
    obtain rfl := exec_reads rfl executed'
    split at ends
    · obtain ⟨rfl, rfl⟩ := completes_done ends
      obtain ⟨winner, mem, rfl, visible, tenant, source, external⟩ := findWinner_ok executed'
      simp only [compareWrote.written, drewWrote.written, resolveWrote.written, insertWrote.written,
        append_nil] at mem
      refine .inr ⟨?_, winner, ⟨contents_take mem, visible, tenant, source, external⟩, rfl⟩
      simp only [written_append, compareWrote.written, drewWrote.written, resolveWrote.written,
        insertWrote.written, winnerWrote.written, append_nil]
    · exact absurd ends not_completes_fail

end Capture

/-! ### Terminal events -/

section Terminal

variable {kind : TerminalKind}

/-- A terminal event was recorded, and its reversal asked for. -/
structure Ended (input : TerminalInput (String × String)) (log : Log) (row : TerminalEvent)
    (event : OutboxEvent) : Prop where
  sale : Uuid.ofText input.saleRef = some row.saleId
  tenant : Uuid.ofText input.tenantId = some row.tenantId
  source : row.sourceSystem = input.body.1
  external : row.externalId = input.body.2
  eventType : event.eventType = ERPNEXT_POSTING_REQUESTED
  payload : event.payload = ⟨input.saleRef, input.storeId, some "reversal", some row.id.text⟩
  wrote : Wrote log [.terminal row, .event event] [row.id, event.eventId]

/-- A terminal event of the same sale was there already. -/
structure EndedBefore (commits : List (Nat × List Write)) (call : Call)
    (input : TerminalInput (String × String)) (row : TerminalEvent) : Prop where
  member : .terminal row ∈ contents commits
  sale : row.saleId.text = input.saleRef
  visible : some row.tenantId = call.context.tenant
  tenant : Uuid.ofText input.tenantId = some row.tenantId
  source : row.sourceSystem = input.body.1
  external : row.externalId = input.body.2

theorem findTerminal_ok {context : TenantContext} {wrote : List Write} {sourceSystem externalId : String}
    {row : TerminalEvent}
    (ran : exec reference context writes (.findTerminal kind tenantId sourceSystem externalId) =
      .ok (some row, wrote)) :
    .terminal row ∈ writes ∧ row.kind = kind ∧ some row.tenantId = context.tenant ∧
      Uuid.ofText tenantId = some row.tenantId ∧ row.sourceSystem = sourceSystem ∧
      row.externalId = externalId := by
  obtain ⟨tenant, cast, ran⟩ := bind_ok ran
  have found := congrArg Prod.fst (Except.ok.inj ran)
  have holds := find?_some found
  simp only [and_eq_true, decide_eq_true_eq] at holds
  obtain ⟨⟨⟨⟨visible, kind⟩, rfl⟩, source⟩, external⟩ := holds
  exact ⟨mem_terminalsOf.1 (mem_of_find?_eq_some found), kind, visible, Inventory.castUuid_ok cast, source,
    external⟩

/-- **What a terminal event's transaction did: it recorded the event, or it found it recorded for the
same sale.** -/
theorem recordTerminal_effect {input : TerminalInput (String × String)} {refunded : Option (String × String)}
    {missing : String} {result : TerminalEventResult}
    (matching : kind = if refunded.isSome then .refund else .void)
    (ends : Completes (salesServer reference) commits call [] (recordTerminal kind input refunded missing) log
      result) :
    (∃ row event, Ended input log row event ∧ row.kind = kind ∧
        result = ⟨toTerminalEvent kind row input.saleRef, true⟩) ∨
      (written log = [] ∧
        ∃ row, EndedBefore commits call input row ∧ row.kind = kind ∧
        result = ⟨toTerminalEvent kind row row.saleId.text, false⟩) := by
  obtain ⟨_, log₁, rest₁, rfl, required, ends⟩ := completes_bind (runWithTenantContext_completes ends)
  obtain ⟨eventId, log₂, rest₂, rfl, drew, ends⟩ := completes_bind ends
  obtain ⟨added, log₃, rest₃, rfl, asked, ends⟩ := completes_bind ends
  obtain ⟨_, _, _, _, -, -, -, -, requireWrote⟩ := requireSale_completes required
  have drewWrote := newId_completes drew
  obtain ⟨seen, writes, rfl, early, ran, insertWrote⟩ := query_completes asked
  simp only [requireWrote.written, drewWrote.written, append_nil] at ran
  obtain ⟨row, read, -, ⟨rfl, rfl, -, -⟩ | ⟨rfl, rfl, -⟩⟩ := insertTerminal_ok ran
  · have gives := TerminalValues.row_ok read
    obtain rfl : row.id = eventId := gives.id
    obtain ⟨_, emitted, rfl⟩ := completes_map ends
    obtain ⟨event, eventType, payload, eventWrote⟩ := emitPostingRequested_completes emitted
    refine .inl
      ⟨row, event, ⟨gives.sale, gives.tenant, gives.source, gives.external, eventType, payload, ?_⟩, ?_, rfl⟩
    · simpa using requireWrote.append (drewWrote.append (insertWrote.append eventWrote))
    · rw [matching, TerminalEvent.kind, gives.kind]
  · obtain ⟨old, log₄, rest₄, rfl, finding, ends⟩ := completes_bind ends
    obtain ⟨seen', writes', rfl, -, executed', findWrote⟩ := query_completes finding
    obtain rfl := exec_reads rfl executed'
    cases old with
    | none => exact absurd ends not_completes_fail
    | some found =>
      have decided : Completes (salesServer reference) commits call _
          (if found.saleId.text ≠ input.saleRef then .fail .provenanceConflict
            else .done ⟨toTerminalEvent kind found found.saleId.text, false⟩ :
              Service TerminalEventResult) _ result := ends
      split_ifs at decided with unlike
      · exact absurd decided not_completes_fail
      · obtain ⟨rfl, rfl⟩ := completes_done decided
        obtain ⟨mem, same, visible, tenant, source, external⟩ := findTerminal_ok executed'
        simp only [requireWrote.written, drewWrote.written, insertWrote.written, append_nil]
          at mem
        refine .inr
          ⟨?_, found, ⟨contents_take mem, not_not.1 unlike, visible, tenant, source, external⟩, same, rfl⟩
        simp only [written_append, requireWrote.written, drewWrote.written, insertWrote.written,
          findWrote.written, append_nil]

end Terminal

/-! ### Processing -/

section Processing

variable {job : SaleProcessingJob} {result : SaleProcessingResult}

theorem assertUuid_completes {text message : String}
    (ends : Completes (salesServer reference) commits call own (assertUuid text message) log done) :
    log = [] := (throwWhen_completes ends).2

theorem assertJob_completes
    (ends : Completes (salesServer reference) commits call own job.assertJob log done) : log = [] := by
  obtain ⟨_, first, rest, rfl, sale, ends⟩ := completes_bind ends
  obtain ⟨_, second, last, rfl, tenant, store⟩ := completes_bind ends
  rw [assertUuid_completes sale, assertUuid_completes tenant, assertUuid_completes store]
  rfl

/-- The drain processed a sale that it found unprocessed, and asked for its posting. -/
structure Processed (commits : List (Nat × List Write)) (call : Call) (job : SaleProcessingJob)
    (log : Log) (row : Sale) (mismatchFlag : Bool) (event : OutboxEvent) : Prop where
  updated : ∃ seen, seen ≤ commits.length ∧
    Entry.answered (.processSale job.saleId job.storeId) seen
      (.ok (some (mismatchFlag, call.now), [.process row.id mismatchFlag call.now])) ∈ log ∧
    .sale row ∈ contents (commits.take seen) ∧
    (row.after (contents (commits.take seen))).processedAt = none
  sale : Uuid.ofText job.saleId = some row.id
  tenant : some row.tenantId = call.context.tenant
  eventType : event.eventType = ERPNEXT_POSTING_REQUESTED
  payload : event.payload = ⟨job.saleId, job.storeId, some "sale_post", some job.saleId⟩
  wrote : Wrote log [.process row.id mismatchFlag call.now, .event event] [event.eventId]

theorem converge_completes
    (ends : Completes (salesServer reference) commits call own job.converge log result) :
    Wrote log [] [] ∧ result.applied = false := by
  obtain ⟨old, first, rest, rfl, read, ends⟩ := completes_bind ends
  split at ends
  · exact absurd ends not_completes_fail
  · obtain ⟨rfl, rfl⟩ := completes_done ends
    rw [append_nil]
    exact ⟨read_completes rfl read, rfl⟩

/-- **What `process` did: it processed the sale, or found it processed.** -/
theorem process_effect (ends : Completes (salesServer reference) commits call [] job.process log result) :
    (∃ row mismatchFlag event, Processed commits call job log row mismatchFlag event ∧
        result = ⟨job.saleId, some mismatchFlag, call.now, true⟩) ∨
      (written log = [] ∧ result.applied = false) := by
  obtain ⟨_, log₁, rest₁, rfl, asserted, ends⟩ := completes_bind ends
  obtain rfl := assertJob_completes asserted
  obtain ⟨_, log₂, rest₂, rfl, required, ends⟩ := completes_bind (runWithTenantContext_completes ends)
  obtain ⟨reply, log₃, rest₃, rfl, asked, ends⟩ := completes_bind ends
  obtain ⟨_, _, _, _, -, -, -, -, requireWrote⟩ := requireSale_completes required
  obtain ⟨seen, writes, rfl, early, ran, updateWrote⟩ := query_completes asked
  simp only [written_nil, requireWrote.written, append_nil] at ran
  obtain ⟨sale, store, saleText, -, ⟨row, mismatchFlag, mem, rfl, -, tenant, unprocessed, rfl,
    rfl⟩ | ⟨rfl, rfl⟩⟩ := processSale_ok ran
  · obtain ⟨_, emitted, rfl⟩ := completes_map ends
    obtain ⟨event, eventType, payload, eventWrote⟩ := emitPostingRequested_completes emitted
    refine .inl ⟨row, mismatchFlag, event, ⟨⟨seen, early, ?_, mem, unprocessed⟩, saleText, tenant,
      eventType, payload, ?_⟩, rfl⟩
    · simp only [Call.context_now, mem_append, mem_singleton, eq_self, true_or, or_true]
    · simpa using requireWrote.append (updateWrote.append eventWrote)
  · obtain ⟨convergeWrote, applied⟩ := converge_completes ends
    refine .inr ⟨?_, applied⟩
    simp only [written_append, written_nil, requireWrote.written, updateWrote.written,
      convergeWrote.written, append_nil]

end Processing

/-! ### Quarantine -/

section Quarantine

variable {input : QuarantineInput} {row : Deadletter}
variable {wider : Log}

theorem early_mem {write : Write} {seen later : Nat} (order : seen ≤ later)
    (mem : write ∈ contents (commits.take seen)) : write ∈ contents (commits.take later) := by
  obtain ⟨commit, inTake, inside⟩ := mem_flatMap.1 mem
  exact mem_flatMap.2 ⟨commit, List.take_subset_take_left _ order inTake, inside⟩

theorem assertInput_completes {own : List Write} {done : Unit}
    (ends : Completes (salesServer reference) commits call own input.assertInput log done) : log = [] := by
  obtain ⟨_, first, rest, rfl, sale, ends⟩ := completes_bind ends
  obtain ⟨_, second, rest₂, rfl, tenant, ends⟩ := completes_bind ends
  obtain ⟨_, third, rest₃, rfl, store, ends⟩ := completes_bind ends
  obtain ⟨_, fourth, rest₄, rfl, source, ends⟩ := completes_bind ends
  obtain ⟨_, fifth, rest₅, rfl, external, correlation⟩ := completes_bind ends
  rw [assertUuid_completes sale, assertUuid_completes tenant, assertUuid_completes store, (throwWhen_completes
    source).2, (throwWhen_completes external).2, (throwWhen_completes correlation).2]
  rfl

/-- The producer inserted a dead letter of a sale next to no open one. -/
structure Quarantined (commits : List (Nat × List Write)) (input : QuarantineInput) (log : Log)
    (row : Deadletter) : Prop where
  inserted : ∃ values seen, seen ≤ commits.length ∧
    Entry.answered (.insertDeadletter values) seen (.ok (some row.id, [.deadletter row])) ∈ log ∧
    ∀ other ∈ deadlettersOf (contents (commits.take seen)), other.saleId = row.saleId →
      other.isOpen = false
  sale : Uuid.ofText input.saleId = some row.saleId
  store : Uuid.ofText input.storeId = some row.storeId
  isOpen : row.isOpen = true
  classification : row.classification = (classifySyncFailure input.condition).classification
  present : ∃ sale, .sale sale ∈ contents commits ∧ sale.id = row.saleId ∧
    sale.tenantId = row.tenantId

theorem Quarantined.widen (quarantined : Quarantined commits input log row) (within : log ⊆ wider) :
    Quarantined commits input wider row := by
  obtain ⟨values, seen, early, answered, free⟩ := quarantined.inserted
  exact { quarantined with inserted := ⟨values, seen, early, within answered, free⟩ }

/-- The producer found an open dead letter of the sale, and inserted none. -/
def AlreadyOpen (commits : List (Nat × List Write)) (input : QuarantineInput) (log : Log) : Prop :=
  ∃ seen ∈ seens log, ∃ other ∈ deadlettersOf (contents (commits.take seen)),
    Uuid.ofText input.saleId = some other.saleId ∧ other.isOpen = true

theorem AlreadyOpen.widen (found : AlreadyOpen commits input log)
    (within : ∀ seen ∈ seens log, seen ∈ seens wider) : AlreadyOpen commits input wider := by
  obtain ⟨seen, mem, rest⟩ := found
  exact ⟨seen, within seen mem, rest⟩

theorem insertDeadletter_completes {quarantined : Bool}
    (ends : Completes (salesServer reference) commits call []
      (input.insertDeadletter (classifySyncFailure input.condition)) log quarantined) :
    (quarantined = false ∧ written log = [] ∧ AlreadyOpen commits input log) ∨
      (quarantined = true ∧ ∃ row, Quarantined commits input log row ∧ written log = [.deadletter row]) := by
  obtain ⟨id, first, rest, rfl, drew, ends⟩ := completes_bind ends
  obtain ⟨reply, asked, rfl⟩ := completes_map ends
  have drewWrote := newId_completes drew
  obtain ⟨seen, writes, rfl, early, ran, wrote⟩ := query_completes asked
  simp only [drewWrote.written, append_nil] at ran
  obtain ⟨row, read, -, ⟨rfl, rfl, free, -, here⟩ | ⟨rfl, rfl, other, known, about, isOpen⟩⟩ :=
    insertDeadletter_ok ran
  · have gives := DeadletterValues.row_ok read
    obtain ⟨sale, mem, id, tenant, -⟩ := hasSale_ok here
    refine .inr ⟨rfl, row, ⟨⟨_, seen, early, mem_append_right _ mem_cons_self, free⟩, gives.sale, gives.store,
      gives.isOpen, gives.classification, sale, contents_take mem, id, tenant⟩, ?_⟩
    rw [written_append, drewWrote.written, wrote.written]
    rfl
  · refine .inl ⟨rfl, ?_, seen, ?_, other, known, ?_, isOpen⟩
    · rw [written_append, drewWrote.written, wrote.written]
      rfl
    · rw [seens_append]
      exact mem_append_right _ mem_cons_self
    · rw [about]
      exact (DeadletterValues.row_ok read).sale

/-- The failure status that a quarantine advances its sale to. -/
def QuarantineInput.target (input : QuarantineInput) : SaleSyncFailureStatus :=
  (classifySyncFailure input.condition).syncStatus

theorem Sale.after_deadletter {sale : Sale} :
    sale.after (writes ++ [.deadletter row]) = sale.after writes := by
  rw [Sale.after_append]
  rfl

def Advanced (commits : List (Nat × List Write)) (input : QuarantineInput) (log : Log)
    (sale : Sale) : Prop :=
  ∃ seen, seen ≤ commits.length ∧
    Entry.answered (.advanceStatus input.saleId input.storeId input.target) seen
      (.ok (some sale.id, [.setStatus sale.id input.target.status])) ∈ log ∧
    .sale sale ∈ contents (commits.take seen) ∧
    (sale.after (contents (commits.take seen))).syncStatus ≠ .synced

def Overtaken (commits : List (Nat × List Write)) (input : QuarantineInput) (log : Log)
    (sale : Sale) : Prop :=
  ∃ seen, seen ≤ commits.length ∧
    Entry.answered (.advanceStatus input.saleId input.storeId input.target) seen
      (.ok (none, [])) ∈ log ∧
    .sale sale ∈ contents (commits.take seen) ∧
    (sale.after (contents (commits.take seen))).syncStatus = .synced

/-- The dead letter was inserted before the sale was found synced. -/
def InsertedFirst (commits : List (Nat × List Write)) (log : Log) (row : Deadletter) (sale : Sale) :
    Prop :=
  ∃ values inserted found, inserted ≤ found ∧ found ≤ commits.length ∧
    Entry.answered (.insertDeadletter values) inserted (.ok (some row.id, [.deadletter row])) ∈ log ∧
    (∀ other ∈ deadlettersOf (contents (commits.take inserted)), other.saleId = row.saleId →
      other.isOpen = false) ∧
    .sale sale ∈ contents (commits.take found) ∧
    (sale.after (contents (commits.take found))).syncStatus = .synced

/-- **The sale of a quarantine is advanced, unless it is found synced.** -/
theorem advanceStatus_completes {advanced : Bool} {sold : Sale} {sale store : Uuid}
    (saleText : Uuid.ofText input.saleId = some sale) (storeText : Uuid.ofText input.storeId = some store)
    (visible : ∀ seen ∈ seens log, .sale sold ∈ contents (commits.take seen)) (soldId : sold.id = sale)
    (soldStore : sold.storeId = store) (soldTenant : some sold.tenantId = call.context.tenant)
    (ends : Completes (salesServer reference) commits call [.deadletter row]
      (input.advanceStatus (classifySyncFailure input.condition)) log advanced) :
    ∃ found, found.id = sale ∧
      ((written log = [.setStatus sale input.target.status] ∧ Advanced commits input log found) ∨
        (written log = [] ∧ Overtaken commits input log found)) := by
  obtain ⟨reply, asked, rfl⟩ := completes_map ends
  obtain ⟨seen, writes, rfl, early, ran, wrote⟩ := query_completes asked
  have mem := visible seen mem_cons_self
  obtain ⟨sale', store', saleText', storeText', ⟨found, inside, rfl, unsynced, rfl, rfl⟩ |
    ⟨rfl, rfl, synced⟩⟩ := advanceStatus_ok ran
  · obtain rfl := mem_unique saleText saleText'
    rw [Sale.after_deadletter] at unsynced
    rcases mem_append.1 inside with old | new
    · exact ⟨found, rfl, .inl ⟨wrote.written, seen, early, mem_cons_self, old, unsynced⟩⟩
    · cases mem_singleton.1 new
  · obtain rfl := mem_unique saleText saleText'
    obtain rfl := mem_unique storeText storeText'
    have inScope : ∃ found, saleInScope call.context
        (contents (commits.take seen) ++ [.deadletter row]) sale store = some found := by
      by_contra missing
      have absent := Option.eq_none_iff_forall_ne_some.2 (not_exists.1 missing)
      exact saleInScope_none absent (mem_append_left _ mem) soldId soldStore soldTenant
    obtain ⟨found, inScope⟩ := inScope
    obtain ⟨added, inside, same, id, -, -⟩ := saleInScope_some inScope
    have status := synced found inScope
    rw [← same, Sale.after_deadletter] at status
    rcases mem_append.1 inside with old | new
    · exact ⟨added, id, .inr ⟨wrote.written, seen, early, mem_cons_self, old, status⟩⟩
    · cases mem_singleton.1 new

/-- **What `quarantine` did: it found an open dead letter, or it inserted one and advanced the
status, or it inserted one of a sale that it then found synced.** -/
theorem quarantine_effect {result : QuarantineResult}
    (ends : Completes (salesServer reference) commits call [] input.quarantine log result)
    (ordered : Ordered log) :
    (written log = [] ∧ AlreadyOpen commits input log) ∨
      ∃ row sale, Quarantined commits input log row ∧ sale.id = row.saleId ∧
      ((written log = [.deadletter row, .setStatus row.saleId input.target.status] ∧
          Advanced commits input log sale) ∨
        (written log = [.deadletter row] ∧ Overtaken commits input log sale ∧
          InsertedFirst commits log row sale)) := by
  obtain ⟨_, log₁, rest₁, rfl, asserted, ends⟩ := completes_bind ends
  obtain rfl := assertInput_completes asserted
  obtain ⟨_, log₂, rest₂, rfl, required, ends⟩ := completes_bind (runWithTenantContext_completes ends)
  obtain ⟨quarantined, log₃, rest₃, rfl, inserting, ends⟩ := completes_bind ends
  obtain ⟨seen, sale, store, found, seenOnce, saleText, storeText, inScope, requireWrote⟩ :=
    requireSale_completes required
  simp only [written_nil, requireWrote.written, append_nil] at inserting ends inScope
  rw [nil_append] at ordered ⊢
  obtain ⟨rfl, insertWrote, already⟩ | ⟨rfl, row, quarantine, insertWrote⟩ :=
    insertDeadletter_completes inserting
  all_goals
    simp only [false_eq_true, reduceIte] at ends
    obtain ⟨advanced, advancing, -⟩ := completes_map ends
  · obtain ⟨rfl, -⟩ := completes_done advancing
    refine .inl ⟨?_, already.widen fun seen mem => ?_⟩
    · simp only [written_append, requireWrote.written, insertWrote, append_nil]
    · rw [seens_append, seens_append]
      exact mem_append_right _ (mem_append_left _ mem)
  · obtain ⟨sold, soldMember, -, soldId, soldStore, soldTenant⟩ := saleInScope_some inScope
    rw [insertWrote] at advancing
    have visible : ∀ later ∈ seens rest₃, .sale sold ∈ contents (commits.take later) := by
      intro later mem
      refine early_mem (ordered.across (seenOnce ▸ mem_singleton_self seen) ?_) soldMember
      rw [seens_append]
      exact mem_append_right _ mem
    have quarantine' : Quarantined commits input (log₂ ++ (log₃ ++ rest₃)) row :=
      quarantine.widen fun entry mem => mem_append_right _ (mem_append_left _ mem)
    obtain rfl := mem_unique saleText quarantine.sale
    obtain ⟨advancedSale, id, ⟨wrote, seen', early, answered, rest⟩ | ⟨wrote, seen', early, answered, rest⟩⟩ :=
        advanceStatus_completes saleText storeText visible soldId soldStore soldTenant advancing
    · refine .inr ⟨row, advancedSale, quarantine', id, .inl ⟨?_, seen', early, ?_, rest⟩⟩
      · simp only [written_append, requireWrote.written, insertWrote, wrote, nil_append, cons_append]
      · exact mem_append_right _ (mem_append_right _ answered)
    · have answered' := mem_append_right log₂ (mem_append_right log₃ answered)
      obtain ⟨values, added, -, insertedIn, free⟩ := quarantine.inserted
      have order : added ≤ seen' := ordered.right.across (mem_seens insertedIn) (mem_seens answered)
      refine .inr ⟨row, advancedSale, quarantine', id, .inr ⟨?_, ⟨seen', early, answered', rest⟩,
        values, added, seen', order, early, ?_, free, rest⟩⟩
      · simp only [written_append, requireWrote.written, insertWrote, wrote, nil_append, append_nil]
      · exact mem_append_right _ (mem_append_left _ insertedIn)

end Quarantine

/-! ### Repair -/

theorem readSaleStatusRow_completes {own : List Write} {found : Sale}
    (ends : Completes (salesServer reference) commits call own (readSaleStatusRow saleId) log found) :
    ∃ seen sale row, seens log = [seen] ∧ seen ≤ commits.length ∧ Uuid.ofText saleId = some sale ∧
      .sale row ∈ contents (commits.take seen) ++ own ∧ row.id = sale ∧
      some row.tenantId = call.context.tenant ∧ row.after (contents (commits.take seen) ++ own) = found ∧
      Wrote log [] [] := by
  obtain ⟨reply, first, rest, rfl, asked, ends⟩ := completes_bind ends
  obtain ⟨seen, writes, rfl, early, ran, wrote⟩ := query_completes asked
  obtain rfl := exec_reads rfl ran
  obtain ⟨sale, saleCast, ran⟩ := bind_ok ran
  cases reply with
  | none => exact absurd ends not_completes_fail
  | some shown =>
    obtain ⟨rfl, rfl⟩ := completes_done ends
    have visible := congrArg Prod.fst (Except.ok.inj ran)
    obtain ⟨row, mem, after, id, tenant⟩ := visibleSale_some visible
    exact ⟨seen, sale, row, rfl, early, Inventory.castUuid_ok saleCast, mem, id, tenant,
      after, by rwa [append_nil]⟩

/-- A repair resolved the open dead letter of a sale that it had read as failed, and requeued the
sale. -/
structure Repaired (commits : List (Nat × List Write)) (call : Call) (saleId : String) (log : Log)
    (row : Sale) (deadletter : Deadletter) : Prop where
  sale : Uuid.ofText saleId = some row.id
  resolved : ∃ seen, seen ≤ commits.length ∧
    Entry.answered (.resolveDeadletter saleId) seen
      (.ok (some deadletter.id, [.resolve deadletter.id row.id call.now])) ∈ log ∧
    .deadletter deadletter ∈ contents (commits.take seen) ∧
    (deadletter.after (contents (commits.take seen))).isOpen = true
  requeued : ∃ seen, seen ≤ commits.length ∧
    Entry.answered (.requeueSale saleId) seen
      (.ok ((), [.setStatus row.id .failedRetryable])) ∈ log ∧
    .sale row ∈ contents (commits.take seen)
  about : deadletter.saleId = row.id
  classification : deadletter.classification = .needsRepair
  wrote : Wrote log [.resolve deadletter.id row.id call.now, .setStatus row.id .failedRetryable] []

/-- **What a repair did: it resolved a needs-repair dead letter and requeued its sale.** -/
theorem repairSaleSync_effect {body : SaleSyncStatusBody}
    (ends : Completes (salesServer reference) commits call [] (repairSaleSync tenantId saleId) log body)
    (ordered : Ordered log) : ∃ row deadletter, Repaired commits call saleId log row deadletter := by
  obtain ⟨found, log₁, rest₁, rfl, reading, ends⟩ := completes_bind (runWithTenantContext_completes ends)
  obtain ⟨_, log₂, rest₂, rfl, status, ends⟩ := completes_bind ends
  obtain ⟨resolved, log₃, rest₃, rfl, resolving, ends⟩ := completes_bind ends
  obtain ⟨_, log₄, rest₄, rfl, here, ends⟩ := completes_bind ends
  obtain ⟨_, log₅, rest₅, rfl, requeueing, ends⟩ := completes_bind ends
  obtain ⟨after, log₆, rest₆, rfl, reading', ends⟩ := completes_bind ends
  obtain ⟨shown, opening, -⟩ := completes_map ends
  obtain ⟨seen, sale, row, seenOnce, early, saleText, mem, id, tenant, -, readWrote⟩ :=
    readSaleStatusRow_completes reading
  obtain ⟨-, rfl⟩ := throwWhen_completes status
  obtain ⟨isSome, rfl⟩ := throwWhen_completes here
  obtain ⟨_, _, _, -, -, -, -, -, -, -, readWrote'⟩ := readSaleStatusRow_completes reading'
  have openWrote := read_completes rfl opening
  obtain ⟨seen₁, writes₁, rfl, early₁, executed₁, resolveWrote⟩ := query_completes resolving
  obtain ⟨seen₂, writes₂, rfl, early₂, executed₂, requeueWrote⟩ := query_completes requeueing
  simp only [written_nil, readWrote.written, append_nil] at executed₁ mem
  obtain ⟨sale₁, saleText₁, ⟨deadletter, added, rfl, needsRepair, isOpen, rfl, rfl⟩ |
    ⟨rfl, -⟩⟩ := resolveDeadletter_ok executed₁
  swap
  · cases isSome
  obtain rfl := Option.some.inj (saleText.symm.trans saleText₁)
  simp only [written_nil, readWrote.written, resolveWrote.written, append_nil, nil_append]
    at executed₂
  obtain ⟨sale₂, saleText₂, requeued⟩ := requeueSale_ok executed₂
  obtain rfl := Option.some.inj (saleText.symm.trans saleText₂)
  have still : .sale row ∈ contents (commits.take seen₂) := by
    refine early_mem (ordered.across (seenOnce ▸ mem_singleton_self seen) ?_) mem
    simp [seens, Entry.seen]
  rcases requeued with ⟨row', inside, id', rfl⟩ | ⟨rfl, missing⟩
  swap
  · exact absurd tenant (visibleSale_none missing (mem_append_left _ still) id)
  refine ⟨row, deadletter, ⟨saleText.trans (congrArg some id.symm), ⟨seen₁, early₁, ?_, added,
    isOpen⟩, ⟨seen₂, early₂, ?_, still⟩, id.symm, needsRepair, ?_⟩⟩
  · simp only [id, Call.context_now, mem_append, mem_singleton, eq_self, true_or, or_true]
  · simp only [id, mem_append, mem_singleton, eq_self, true_or, or_true]
  · rw [id]
    simpa using readWrote.append (resolveWrote.append (requeueWrote.append (readWrote'.append openWrote)))

/-! ### Readers -/

section Readers

variable {projection : SaleProjection}

theorem readSaleProjection_writes
    (ends : Completes (salesServer reference) commits call [] (readSaleProjection tenantId storeId saleId) log
      projection) : written log = [] := by
  obtain ⟨sale, first, rest, rfl, selected, ends⟩ := completes_bind (runWithTenantContext_completes ends)
  split at ends
  · exact absurd ends not_completes_fail
  · obtain ⟨lines, listed, -⟩ := completes_map ends
    rw [written_append, (read_completes rfl selected).written, (read_completes rfl listed).written]
    rfl

theorem readSaleProjection_effect
    (ends : Completes (salesServer reference) commits call [] (readSaleProjection tenantId storeId saleId) log
      projection) :
    ∃ row, .sale row ∈ contents commits ∧ Uuid.ofText saleId = some row.id ∧
      Uuid.ofText storeId = some row.storeId ∧ projection.saleRef = row.id := by
  obtain ⟨reply, first, rest, rfl, selected, ends⟩ := completes_bind (runWithTenantContext_completes ends)
  obtain ⟨seen, writes, rfl, -, ran, -⟩ := query_completes selected
  obtain ⟨sale, saleCast, ran⟩ := bind_ok ran
  obtain ⟨store, storeCast, ran⟩ := bind_ok ran
  cases reply with
  | none => exact absurd ends not_completes_fail
  | some found =>
    obtain ⟨lines, listed, rfl⟩ := completes_map ends
    have inScope := congrArg Prod.fst (Except.ok.inj ran)
    obtain ⟨row, mem, same, rfl, rfl, -⟩ := saleInScope_some inScope
    rw [append_nil] at mem
    refine ⟨row, contents_take mem, Inventory.castUuid_ok saleCast, Inventory.castUuid_ok storeCast, ?_⟩
    show found.id = row.id
    rw [← same, Sale.after_id]

theorem readSaleProjection_missing
    (ends : Finishes (salesServer reference) commits call [] (readSaleProjection tenantId storeId saleId) log
      (.error .saleNotFound)) :
    ∃ seen sale store, seen ∈ seens log ∧ Uuid.ofText saleId = some sale ∧ Uuid.ofText storeId = some store ∧
      saleInScope call.context (contents (commits.take seen)) sale store = none := by
  unfold readSaleProjection runWithTenantContext at ends
  split at ends
  swap
  · cases (ends_fail ends.ends).2
  rcases finishes_bind (careful_query _) ends with ⟨error, same, threw⟩ |
    ⟨reply, first, rest, rfl, selected, ends⟩
  · cases same
    obtain ⟨seen, answer, -, told⟩ := ends_query threw.ends
    match answer with
    | .ok (reply, writes) => cases told
    | .error fault => cases told
  · obtain ⟨seen, writes, rfl, -, ran, -⟩ := query_completes selected
    obtain ⟨sale, saleCast, ran⟩ := bind_ok ran
    obtain ⟨store, storeCast, ran⟩ := bind_ok ran
    cases reply with
    | none =>
      have missing := congrArg Prod.fst (Except.ok.inj ran)
      rw [append_nil] at missing
      refine ⟨seen, sale, store, ?_, Inventory.castUuid_ok saleCast, Inventory.castUuid_ok storeCast, missing⟩
      simp [seens, Entry.seen]
    | some found =>
      rcases finishes_bind (careful_query _) ends with ⟨error, same, threw⟩ |
        ⟨lines, second, last, rfl, listed, ends⟩
      · cases same
        obtain ⟨seen', answer, -, told⟩ := ends_query threw.ends
        match answer with
        | .ok (reply, writes) => cases told
        | .error fault => cases told
      · cases (ends_done ends.ends).2

theorem listNeedsRepair_writes {input : ListNeedsRepairInput} {page : NeedsRepairPage}
    (ends : Completes (salesServer reference) commits call [] (listNeedsRepair input) log page) :
    written log = [] := by
  obtain ⟨rows, first, rest, rfl, listed, ends⟩ := completes_bind (runWithTenantContext_completes ends)
  obtain ⟨rfl, -⟩ := completes_done ends
  rw [append_nil]
  exact (read_completes rfl listed).written

end Readers

/-! ### Calls that return -/

theorem careful_throwWhen (wrong : Bool) (error : Thrown) :
    Careful (salesServer reference) (throwWhen wrong error) := by
  cases wrong with
  | true => exact careful_fail error
  | false => exact careful_done ()

theorem careful_runWithTenantContext {α : Type} (tenantId : String) {work : Service α}
    (careful : Careful (salesServer reference) work) :
    Careful (salesServer reference) (runWithTenantContext tenantId work) := by
  unfold runWithTenantContext
  split_ifs
  · exact careful
  · exact careful_fail _

theorem careful_requireSale (saleId storeId : String) (missing : Thrown) :
    Careful (salesServer reference) (requireSale saleId storeId missing) :=
  careful_bind (careful_query _) fun _ => careful_throwWhen _ _

theorem careful_emit (eventType tenantId storeId : String) (payload : Payload) :
    Careful (salesServer reference) (emit eventType tenantId storeId payload) :=
  careful_bind careful_newId fun _ => careful_bind (careful_query _) fun _ => careful_done _

theorem careful_resolveTimezone (storeId : String) : Careful (salesServer reference)
    (resolveTimezone storeId) := by
  refine careful_bind (careful_query _) fun timezone => ?_
  split
  · exact careful_done _
  · exact careful_fail _

theorem careful_resolveWinner (input : CaptureSaleInput) : Careful (salesServer reference)
    (resolveWinner input) := by
  refine careful_bind (careful_query _) fun winner => ?_
  split
  · exact careful_done _
  · exact careful_fail _

theorem careful_captureTransaction (input : CaptureSaleInput) :
    Careful (salesServer reference) (captureTransaction input) := by
  refine careful_runWithTenantContext _ (careful_bind (careful_query _) fun compare => ?_)
  refine careful_bind careful_newId fun saleId => ?_
  refine careful_bind (careful_resolveTimezone _) fun timezone => ?_
  refine careful_bind (careful_query _) fun added => ?_
  split
  · exact careful_resolveWinner input
  · refine careful_bind (careful_bind (careful_forEach (fun line => ?_) _) fun _ => careful_done _)
      fun _ => careful_bind (careful_emit _ _ _ _) fun _ => careful_done _
    exact careful_bind careful_newId fun _ => careful_query _

theorem careful_readSaleProjection (tenantId storeId saleId : String) :
    Careful (salesServer reference) (readSaleProjection tenantId storeId saleId) := by
  refine careful_runWithTenantContext _ (careful_bind (careful_query _) fun sale => ?_)
  split
  · exact careful_fail _
  · exact careful_bind (careful_query _) fun _ => careful_done _

theorem careful_recordTerminal (kind : TerminalKind) (input : TerminalInput (String × String))
    (refunded : Option (String × String)) (missing : String) :
    Careful (salesServer reference) (recordTerminal kind input refunded missing) := by
  refine careful_runWithTenantContext _ (careful_bind (careful_requireSale _ _ _) fun _ => ?_)
  refine careful_bind careful_newId fun eventId => ?_
  refine careful_bind (careful_query _) fun added => ?_
  split
  · refine careful_bind (careful_query _) fun old => ?_
    split
    · exact careful_fail _
    · split_ifs
      · exact careful_fail _
      · exact careful_done _
  · exact careful_bind (careful_bind (careful_emit _ _ _ _) fun _ => careful_done _) fun _ => careful_done _

theorem careful_process (job : SaleProcessingJob) : Careful (salesServer reference) job.process := by
  refine careful_bind (careful_bind (careful_throwWhen _ _) fun _ =>
    careful_bind (careful_throwWhen _ _) fun _ => careful_throwWhen _ _) fun _ => ?_
  refine careful_runWithTenantContext _ (careful_bind (careful_requireSale _ _ _) fun _ => ?_)
  refine careful_bind (careful_query _) fun updated => ?_
  split
  · exact careful_bind (careful_bind (careful_emit _ _ _ _) fun _ => careful_done _) fun _ => careful_done _
  · refine careful_bind (careful_query _) fun old => ?_
    split
    · exact careful_fail _
    · exact careful_done _

theorem careful_quarantine (input : QuarantineInput) : Careful (salesServer reference) input.quarantine := by
  refine careful_bind (careful_bind (careful_throwWhen _ _) fun _ =>
    careful_bind (careful_throwWhen _ _) fun _ => careful_bind (careful_throwWhen _ _) fun _ =>
    careful_bind (careful_throwWhen _ _) fun _ => careful_bind (careful_throwWhen _ _) fun _ =>
    careful_throwWhen _ _) fun _ => ?_
  refine careful_runWithTenantContext _ (careful_bind (careful_requireSale _ _ _) fun _ => ?_)
  refine careful_bind (careful_bind careful_newId fun _ => careful_bind (careful_query _) fun _ =>
    careful_done _) fun quarantined => ?_
  cases quarantined with
  | true =>
    exact careful_bind (careful_bind (careful_query _) fun _ => careful_done _) fun _ => careful_done _
  | false => exact careful_bind (careful_done _) fun _ => careful_done _

theorem careful_readSaleStatusRow (saleId : String) : Careful (salesServer reference)
    (readSaleStatusRow saleId) := by
  refine careful_bind (careful_query _) fun row => ?_
  split
  · exact careful_fail _
  · exact careful_done _

theorem careful_repairSaleSync (tenantId saleId : String) :
    Careful (salesServer reference) (repairSaleSync tenantId saleId) :=
  careful_runWithTenantContext _ (careful_bind (careful_readSaleStatusRow _) fun _ =>
    careful_bind (careful_throwWhen _ _) fun _ => careful_bind (careful_query _) fun _ =>
    careful_bind (careful_throwWhen _ _) fun _ => careful_bind (careful_query _) fun _ =>
    careful_bind (careful_readSaleStatusRow _) fun _ => careful_bind (careful_query _) fun _ =>
    careful_done _)

/-- **A call returns only after all its statements succeeded.** -/
theorem careful_program (op : Operation) : Careful (salesServer reference) op.program := by
  cases op with
  | captureSale input => exact careful_bind (careful_captureTransaction _) fun _ => careful_done _
  | readSaleProjection tenantId storeId saleId =>
    exact careful_bind (careful_readSaleProjection _ _ _) fun _ => careful_done _
  | recordVoid input | recordRefund input =>
    exact careful_bind (careful_recordTerminal _ _ _ _) fun _ => careful_done _
  | process job => exact careful_bind (careful_process _) fun _ => careful_done _
  | quarantine input => exact careful_bind (careful_quarantine _) fun _ => careful_done _
  | repairSaleSync tenantId saleId =>
    exact careful_bind (careful_repairSaleSync _ _) fun _ => careful_done _
  | listNeedsRepair input =>
    exact careful_bind (careful_runWithTenantContext _ (careful_bind (careful_query _) fun _ =>
      careful_done _)) fun _ => careful_done _

end DataPulse.Sales
