/-
**A sale is captured once.**

However many calls of `captureSale` carry one key, and however they overlap:

`capture_once` is all of it.
-/

import DataPulse.Sales.Transitions

namespace DataPulse.Sales

open Lib Lib.Interleave Platform

/-! ### Calls that returned -/

variable {reference : Reference} {config : Config} {pid : Nat} {writes : List Write}

section Returned

variable {proc : Proc} {value : Body}
variable {before after : List (Nat × List Write)}
variable {write : Write}

/-- **A call that returned is committed.** -/
theorem Reachable.returned (reach : Reachable reference config) (found : config.procs[pid]? = some proc)
    (gave : proc.result = some (.ok value)) :
    ∃ before after, config.commits = before ++ (pid, written proc.log) :: after ∧
      Committed reference before proc.call proc.log value := by
  have mem := mem_of_getElem? found
  have ends := Interleave.Reachable.finishes reach mem gave
  have sound := careful_program proc.call.operation _ _ ends.ends
  obtain ⟨before, after, commits⟩ := Interleave.Reachable.committed reach found gave sound
  obtain ⟨proc', value', found', returned', -, kept⟩ := reach.commit_of commits
  obtain rfl := mem_unique found found'
  rw [gave] at returned'
  obtain rfl := Except.ok.inj (Option.some.inj returned')
  exact ⟨before, after, commits, kept⟩

/-- **A call that answers has committed what it wrote, once**: its COMMIT is no rollback. Any other has committed
nothing. -/
theorem answered_commits (reach : Reachable reference config) (found : config.procs[pid]? = some proc) :
    (∃ value, proc.result = some (.ok value)) ∧
      (config.commits.filter fun commit => commit.1 = pid) = [(pid, written proc.log)] ∨
      (∀ value, proc.result ≠ some (.ok value)) ∧
      (config.commits.filter fun commit => commit.1 = pid) = [] := by
  by_cases gave : ∃ value, proc.result = some (.ok value)
  · obtain ⟨value, gave⟩ := gave
    obtain ⟨before, after, commits, -⟩ := reach.returned found gave
    refine .inl ⟨⟨value, gave⟩, ?_⟩
    have once := (Interleave.Reachable.booked reach).once
    rw [commits, map_append, map_cons] at once
    have apart := (nodup_cons.1 (List.nodup_middle.1 once)).1
    rw [← map_append] at apart
    have others : ∀ commit ∈ before ++ after, ¬ decide (commit.1 = pid) = true := fun commit mem same =>
      apart (mem_map.2 ⟨commit, mem, of_decide_eq_true same⟩)
    rw [commits, filter_append, filter_cons_of_pos (by simp),
      filter_eq_nil_iff.2 fun commit mem => others commit (mem_append_left _ mem),
      filter_eq_nil_iff.2 fun commit mem => others commit (mem_append_right _ mem)]
    rfl
  · refine .inr ⟨fun value same => gave ⟨value, same⟩, filter_eq_nil_iff.2 fun commit mem same => ?_⟩
    obtain ⟨before, after, commits⟩ := append_of_mem mem
    obtain ⟨proc', value, found', returned, -⟩ := reach.commit_of commits
    rw [of_decide_eq_true same] at found'
    obtain rfl := mem_unique found found'
    exact gave ⟨value, returned⟩

end Returned

/-! ### The sale of a key -/

/-- The sale has the key of the call. -/
structure CaptureSaleInput.KeyOf (input : CaptureSaleInput) (row : Sale) : Prop where
  tenant : Uuid.ofText input.tenantId = some row.tenantId
  source : row.sourceSystem = input.body.sourceSystem
  external : row.externalId = input.body.externalId

variable (reach : Reachable reference config)
include reach

/-- **A key has at most one sale.** -/
theorem Reachable.one_sale_per_key {first second : Sale}
    (inOne : .sale first ∈ config.ledger) (inTwo : .sale second ∈ config.ledger)
    (same : first.sameKey second = true) : first = second :=
  Write.sale.inj (eq_of_clash collide_comm reach.collideFree.ledger inOne inTwo (by simp [collide, same]))

theorem Reachable.same_commit {first second : Write}
    (collides : collide first second = true) {other : Nat} {writes' : List Write}
    (commit : (pid, writes) ∈ config.commits) (commit' : (other, writes') ∈ config.commits)
    (inside : first ∈ writes) (inside' : second ∈ writes') : other = pid := by
  obtain ⟨before, after, commits⟩ := append_of_mem commit
  rw [commits] at commit'
  rcases mem_append.1 commit' with early | late
  · have there : second ∈ contents before := mem_flatMap.2 ⟨_, early, inside'⟩
    have apart := reach.fresh commits _ there _ inside
    rw [collide_comm, collides] at apart
    cases apart
  · rcases mem_cons.1 late with same | later
    · exact congrArg Prod.fst same
    · obtain ⟨between, rest, rfl⟩ := append_of_mem later
      have commits' : config.commits = (before ++ (pid, writes) :: between) ++ (other, writes') :: rest := by
        rw [commits, append_assoc, cons_append]
      have there : first ∈ contents (before ++ (pid, writes) :: between) := by
        rw [contents_append, contents_cons]
        exact mem_append_right _ (mem_append_left _ inside)
      have apart := reach.fresh commits' _ there _ inside'
      rw [collides] at apart
      cases apart

/-- **What no other commit has, the ledger has from one commit.** -/
theorem Reachable.filter_commit {α : Type} (rows : List Write → List α)
    (appends : ∀ first second, rows (first ++ second) = rows first ++ rows second) (empty : rows [] = [])
    (commit : (pid, writes) ∈ config.commits)
    (others : ∀ other writes', (other, writes') ∈ config.commits → other ≠ pid → rows writes' = []) :
    rows config.ledger = rows writes := by
  obtain ⟨before, after, commits⟩ := append_of_mem commit
  have once := reach.booked.once
  rw [commits, map_append, map_cons, nodup_append, nodup_cons] at once
  have none : ∀ some : List (Nat × List Write), (∀ commit ∈ some, commit ∈ config.commits ∧
      commit.1 ≠ pid) → rows (contents some) = [] := by
    intro some
    induction some with
    | nil => exact fun _ => empty
    | cons commit rest ih =>
      intro each
      obtain ⟨inside, unlike⟩ := each commit mem_cons_self
      rw [show contents (commit :: rest) = commit.2 ++ contents rest from rfl, appends,
        others commit.1 commit.2 inside unlike, nil_append]
      exact ih fun other mem => each other (mem_cons_of_mem _ mem)
  have early : ∀ commit ∈ before, commit ∈ config.commits ∧ commit.1 ≠ pid := by
    intro commit mem
    refine ⟨?_, once.2.2 _ (mem_map_of_mem mem) _ mem_cons_self⟩
    rw [commits]
    exact mem_append_left _ mem
  have late : ∀ commit ∈ after, commit ∈ config.commits ∧ commit.1 ≠ pid := by
    intro commit mem
    refine ⟨?_, ?_⟩
    · rw [commits]
      exact mem_append_right _ (mem_cons_of_mem _ mem)
    · intro same
      have repeated : commit.1 ∈ after.map Prod.fst := mem_map_of_mem mem
      rw [same] at repeated
      exact once.2.1.1 repeated
  rw [Config.ledger, commits, contents_append, contents_cons, appends, appends, none before early,
    none after late, append_nil, nil_append]

omit reach

/-! ### Lines and events of one sale -/

theorem text_inj {first second : Uuid} (same : first.text = second.text) : first = second := by
  have read := congrArg Uuid.ofText same
  rw [Uuid.ofText_text, Uuid.ofText_text] at read
  exact Option.some.inj read

def saleLines (writes : List Write) (saleId : Uuid) : List SaleLine :=
  (linesOf writes).filter fun line => line.saleId = saleId

/-- The `sale.captured` events of a sale. -/
def capturedEvents (writes : List Write) (saleId : Uuid) : List OutboxEvent :=
  (eventsOf writes).filter fun event =>
    event.eventType = SALE_CAPTURED && event.payload.saleId = saleId.text

section Lines

variable {input : CaptureSaleInput} {lines : List SaleLine} {event : OutboxEvent} {row : Sale}
  {log : Log}

theorem exists_left_of_forall₂ {α β : Type} {relates : α → β → Prop} {first : List α} {second : List β}
    (all : List.Forall₂ relates first second) : ∀ right ∈ second, ∃ left ∈ first, relates left right := by
  induction all with
  | nil => exact fun _ none => by cases none
  | @cons left right _ _ related _ ih =>
    intro other mem
    rcases mem_cons.1 mem with rfl | later
    · exact ⟨left, mem_cons_self, related⟩
    · obtain ⟨left', inside, related'⟩ := ih other later
      exact ⟨left', mem_cons_of_mem _ inside, related'⟩

theorem Captured.lineSale (capture : Captured input log row lines event) : ∀ line ∈ lines, line.saleId =
    row.id := by
  intro line mem
  obtain ⟨dto, -, read⟩ := exists_left_of_forall₂ capture.rows line mem
  exact (LineValues.row_ok read).2.1

theorem Deed.of_capture {before : List (Nat × List Write)} {call : Call}
    (deed : Deed before call log writes) :
    (∀ line, .line line ∈ writes → ∃ row, .sale row ∈ writes ∧ line.saleId = row.id) ∧
      ∀ event, .event event ∈ writes → event.eventType = SALE_CAPTURED →
      ∃ row, .sale row ∈ writes ∧ event.payload.saleId = row.id.text := by
  cases deed with
  | @captured input row lines event op capture =>
    refine ⟨fun line mem => ⟨row, mem_cons_self, capture.lineSale line ?_⟩,
      fun event' mem _ => ⟨row, mem_cons_self, ?_⟩⟩
    · simpa using mem
    · have same : event' = event := by simpa using mem
      rw [same, capture.payload]
  | ended terminal =>
    refine ⟨fun line mem => by simp at mem, fun event' mem captured => ?_⟩
    have same := Write.event.inj (by simpa using mem)
    rw [same, terminal.eventType] at captured
    exact absurd captured (by decide)
  | processed process unprocessed =>
    refine ⟨fun line mem => by simp at mem, fun event' mem captured => ?_⟩
    have same := Write.event.inj (by simpa using mem)
    rw [same, process.eventType] at captured
    exact absurd captured (by decide)
  | _ => exact ⟨fun line mem => by simp at mem, fun event' mem => by simp at mem⟩

theorem Reachable.without_sale (reach : Reachable reference config) (onLedger : .sale row ∈ config.ledger)
    (commit : (pid, writes) ∈ config.commits) (without : .sale row ∉ writes) :
    saleLines writes row.id = [] ∧ capturedEvents writes row.id = [] := by
  obtain ⟨before, after, split⟩ := append_of_mem commit
  obtain ⟨proc, value, -, -, same, kept⟩ := reach.commit_of split
  have deed := kept.deed
  rw [← same] at deed
  refine ⟨filter_eq_nil_iff.2 fun line mem same => ?_, filter_eq_nil_iff.2 fun event mem same => ?_⟩
  · obtain ⟨other, added, about⟩ := deed.of_capture.1 line (mem_linesOf.1 mem)
    have id : other.id = row.id := about.symm.trans (of_decide_eq_true same)
    rw [reach.one_sale (mem_ledger_own split added) onLedger id] at added
    exact without added
  · simp only [and_eq_true, decide_eq_true_eq] at same
    obtain ⟨other, added, about⟩ := deed.of_capture.2 event (mem_eventsOf.1 mem) same.1
    have id : other.id = row.id := text_inj (about.symm.trans same.2)
    rw [reach.one_sale (mem_ledger_own split added) onLedger id] at added
    exact without added

/-- The call that inserted the sale: its commit is the sale, its lines and one event, and all lines
and `sale.captured` events of the sale are of that commit. -/
structure CapturedBy (config : Config) (row : Sale) (pid : Nat) (input : CaptureSaleInput)
    (lines : List SaleLine) (event : OutboxEvent) : Prop where
  client : ∃ proc, config.procs[pid]? = some proc ∧ proc.call.operation = .captureSale input ∧
    proc.result = some (.ok (.captured ⟨row.id, true⟩))
  key : input.KeyOf row
  rows : List.Forall₂ (fun (line : CaptureSaleLineDto) (line' : SaleLine) =>
    (line.values input row.id line'.id).row = .ok line') input.body.lines lines
  eventType : event.eventType = SALE_CAPTURED
  payload : event.payload = ⟨row.id.text, input.storeId, none, none⟩
  commit : (pid, .sale row :: (lines.map .line ++ [.event event])) ∈ config.commits
  lines : saleLines config.ledger row.id = lines
  events : capturedEvents config.ledger row.id = [event]
  only : ∀ other writes, (other, writes) ∈ config.commits → .sale row ∈ writes → other = pid

theorem saleLines_append (first second : List Write) (saleId : Uuid) :
    saleLines (first ++ second) saleId = saleLines first saleId ++ saleLines second saleId := by
  simp [saleLines]

theorem capturedEvents_append (first second : List Write) (saleId : Uuid) :
    capturedEvents (first ++ second) saleId =
      capturedEvents first saleId ++ capturedEvents second saleId := by
  simp [capturedEvents]

theorem linesOf_map (lines : List SaleLine) : linesOf (lines.map .line) = lines := by
  induction lines with
  | nil => rfl
  | cons line rest ih =>
    show line :: linesOf (rest.map .line) = line :: rest
    rw [ih]

theorem eventsOf_map (lines : List SaleLine) : eventsOf (lines.map .line) = [] := by
  induction lines with
  | nil => rfl
  | cons line rest ih => exact ih

theorem Captured.own (capture : Captured input log row lines event) :
    saleLines (.sale row :: (lines.map .line ++ [.event event])) row.id = lines ∧
      capturedEvents (.sale row :: (lines.map .line ++ [.event event])) row.id = [event] := by
  have ofLines : linesOf (.sale row :: (lines.map .line ++ [.event event])) = lines := by
    show linesOf (lines.map .line ++ [.event event]) = lines
    rw [linesOf_append, linesOf_map]
    exact append_nil lines
  have ofEvents : eventsOf (.sale row :: (lines.map .line ++ [.event event])) = [event] := by
    show eventsOf (lines.map .line ++ [.event event]) = [event]
    rw [eventsOf_append, eventsOf_map]
    rfl
  constructor
  · rw [saleLines, ofLines]
    exact filter_eq_self.2 fun line mem => decide_eq_true (capture.lineSale line mem)
  · rw [capturedEvents, ofEvents, List.filter_singleton, capture.eventType, capture.payload]
    simp

/-- **A sale is captured by one call.** -/
theorem Reachable.captured_by (reach : Reachable reference config) (onLedger : .sale row ∈ config.ledger) :
    ∃ pid input lines event, CapturedBy config row pid input lines event := by
  obtain ⟨⟨pid, writes⟩, inside, added⟩ := mem_flatMap.1 onLedger
  obtain ⟨before, after, commits⟩ := append_of_mem inside
  obtain ⟨proc, value, found, gave, wrote, kept⟩ := reach.commit_of commits
  have deed := kept.deed
  rw [← wrote] at deed
  cases deed with
  | @captured input row' lines event op capture =>
    obtain rfl : row = row' := by simpa using added
    have ends := kept.completes
    rw [op] at ends
    obtain ⟨outcome, transaction, rfl⟩ := completes_map ends
    have result : outcome = ⟨row.id, true⟩ := by
      obtain ⟨row', lines', event', capture', result⟩ | ⟨nothing, -⟩ := captureTransaction_effect transaction
      · have same := capture.wrote.written.symm.trans capture'.wrote.written
        rw [result, Write.sale.inj (List.cons.inj same).1]
      · rw [capture.wrote.written] at nothing
        cases nothing
    have only : ∀ other writes', (other, writes') ∈ config.commits → .sale row ∈ writes' →
        other = pid := fun other writes' commit' inserts =>
      reach.same_commit (by simp [collide]) inside commit' mem_cons_self inserts
    have others : ∀ other writes', (other, writes') ∈ config.commits → other ≠ pid →
        saleLines writes' row.id = [] ∧ capturedEvents writes' row.id = [] :=
      fun other writes' commit' unlike => reach.without_sale onLedger commit' fun inserts =>
        unlike (only other writes' commit' inserts)
    refine ⟨pid, input, lines, event, ⟨proc, found, op, result ▸ gave⟩, ⟨capture.tenant, capture.source,
      capture.external⟩, capture.rows, capture.eventType, capture.payload, inside, ?_, ?_, only⟩
    · rw [reach.filter_commit (saleLines · row.id) (fun _ _ => saleLines_append _ _ _) rfl inside
        fun other writes' commit' unlike => (others other writes' commit' unlike).1]
      exact capture.own.1
    · rw [reach.filter_commit (capturedEvents · row.id) (fun _ _ => capturedEvents_append _ _ _) rfl inside
        fun other writes' commit' unlike => (others other writes' commit' unlike).2]
      exact capture.own.2
  | _ => simp at added

/-- **A capture that returned, returned the sale of its key; unless it inserted it, it wrote
nothing.** -/
theorem Reachable.capture_returns (reach : Reachable reference config) {proc : Proc}
    {outcome : CaptureOutcome} (found : config.procs[pid]? = some proc)
    (op : proc.call.operation = .captureSale input) (gave : proc.result = some (.ok (.captured outcome))) :
    ∃ row, .sale row ∈ config.ledger ∧ row.id = outcome.saleId ∧ input.KeyOf row ∧
      some row.tenantId = proc.call.context.tenant ∧
      ((outcome.created = true ∧ .sale row ∈ written proc.log) ∨
        (outcome.created = false ∧ written proc.log = [])) := by
  obtain ⟨before, after, commits, kept⟩ := reach.returned found gave
  have ends := kept.completes
  rw [op] at ends
  obtain ⟨outcome', first, last, split, transaction, rest⟩ := completes_bind ends
  obtain ⟨rfl, same⟩ := completes_done rest
  obtain rfl : outcome = outcome' := Body.captured.inj same
  rw [append_nil] at split
  rw [← split] at transaction
  have tenant : proc.call.context.tenant = Uuid.ofText input.tenantId := by
    rw [Call.context, op]
    rfl
  obtain ⟨row, lines, event, capture, rfl⟩ | ⟨nothing, winner, replay, rfl⟩ :=
    captureTransaction_effect transaction
  · have added : .sale row ∈ written proc.log := by
      rw [capture.wrote.written]
      exact mem_cons_self
    exact ⟨row, mem_ledger_own commits added, rfl, ⟨capture.tenant, capture.source,
      capture.external⟩, tenant ▸ capture.tenant.symm, .inl ⟨rfl, added⟩⟩
  · exact ⟨winner, mem_ledger commits replay.member, rfl, ⟨replay.tenant, replay.source,
      replay.external⟩, replay.visible, .inr ⟨rfl, nothing⟩⟩

end Lines

/-! ### The second transaction -/

section Projection

variable {middle : Config}

/-- The two transactions of one call: the first returned in `middle`, and the second began then. -/
structure CaptureSale (reference : Reference) (middle config : Config) (input : CaptureSaleInput)
    (outcome : CaptureOutcome) (proc : Proc) : Prop where
  before : Reachable reference middle
  later : Later (salesServer reference) middle config
  captured : ∃ (pid : Nat) (client : Proc), middle.procs[pid]? = some client ∧
    client.call.operation = .captureSale input ∧
    client.result = some (.ok (.captured outcome))
  reads : ∃ pid : Nat, middle.procs.length ≤ pid ∧ config.procs[pid]? = some proc ∧
    proc.call.operation =
      .readSaleProjection input.tenantId input.storeId outcome.saleId.text

theorem Later.reachable (before : Reachable reference middle)
    (later : Later (salesServer reference) middle config) : Reachable reference config := by
  induction later with
  | refl => exact before
  | tail _ next ih =>
    obtain ⟨event, next⟩ := next
    exact Interleave.Reachable.step ih next

/-- **The call answers the sale of its key, if it is a sale of the caller's store, and that there is
none only if it is not.** -/
theorem CaptureSale.answers {input : CaptureSaleInput} {outcome : CaptureOutcome} {proc : Proc}
    (call : CaptureSale reference middle config input outcome proc) :
    ∃ row, .sale row ∈ middle.ledger ∧ row.id = outcome.saleId ∧ input.KeyOf row ∧
      (∀ body, proc.result = some (.ok body) →
          Uuid.ofText input.storeId = some row.storeId ∧
          ∃ projection, body = .sale projection ∧ projection.saleRef = outcome.saleId) ∧
      (proc.result = some (.error .saleNotFound) → Uuid.ofText input.storeId ≠ some row.storeId) := by
  obtain ⟨first, client, found, op, gave⟩ := call.captured
  obtain ⟨second, begun, found', operation'⟩ := call.reads
  obtain ⟨row, onLedger, id, key, -, -⟩ := call.before.capture_returns found op gave
  have reach := Later.reachable call.before call.later
  obtain ⟨more, grown⟩ := Interleave.Later.commits (salesServer reference) call.later
  have stays : .sale row ∈ config.ledger := mem_ledger grown onLedger
  have mem := mem_of_getElem? found'
  refine ⟨row, onLedger, id, key, fun body ended => ?_, fun ended atStore => ?_⟩
  · obtain ⟨before, after, commits, kept⟩ := reach.returned found' ended
    have goes := kept.completes
    rw [operation'] at goes
    obtain ⟨projection, log, last, -, reading, rest⟩ := completes_bind goes
    obtain ⟨-, rfl⟩ := completes_done rest
    obtain ⟨shown, there, saleText, storeText, ref⟩ := readSaleProjection_effect reading
    rw [Uuid.ofText_text] at saleText
    have same : shown = row := reach.one_sale (mem_ledger commits there) stays
      ((Option.some.inj saleText).symm.trans id.symm)
    rw [same] at storeText ref
    exact ⟨storeText, projection, rfl, ref.trans id⟩
  · rcases Interleave.Reachable.ends reach mem ended with ends | ⟨value, fault, -, lost⟩
    swap
    · cases lost
    rw [show (salesServer reference).program proc.call = proc.call.operation.program from rfl,
      operation'] at ends
    have answered := Interleave.Reachable.answered reach proc mem
    rcases finishes_bind (careful_readSaleProjection _ _ _) ⟨ends, answered⟩ with
      ⟨error, same, threw⟩ | ⟨value, log, last, -, -, done⟩
    swap
    · cases (ends_done done.ends).2
    cases same
    obtain ⟨seen, sale, store, inLog, saleText, storeText, missing⟩ := readSaleProjection_missing threw
    rw [Uuid.ofText_text] at saleText
    obtain rfl := mem_unique storeText atStore
    have tenant : some row.tenantId = proc.call.context.tenant := by
      rw [Call.context, operation']
      exact key.tenant.symm
    refine saleInScope_none missing ?_ (id.trans (Option.some.inj saleText)) rfl tenant
    have late := Interleave.Later.sees call.later second proc begun found' seen inLog
    rw [grown, take_append, take_of_length_le late, contents_append]
    exact mem_append_left _ onLedger

/-- **A sale is captured once, whatever calls carry its key.** -/
theorem capture_once (reachable : Reachable reference config) :
    (∀ first second, Write.sale first ∈ config.ledger → Write.sale second ∈ config.ledger →
        first.sameKey second = true → first = second) ∧
      (∀ row, Write.sale row ∈ config.ledger →
          ∃ pid input lines event, CapturedBy config row pid input lines event) ∧
      (∀ (pid : Nat) (proc : Proc) input outcome, config.procs[pid]? = some proc →
          proc.call.operation = .captureSale input → proc.result = some (.ok (.captured outcome)) →
          ∃ row, Write.sale row ∈ config.ledger ∧ row.id = outcome.saleId ∧ input.KeyOf row ∧
          ((outcome.created = true ∧ Write.sale row ∈ written proc.log) ∨
            (outcome.created = false ∧ written proc.log = []))) ∧
      ∀ middle input outcome proc, CaptureSale reference middle config input outcome proc →
      ∃ row, Write.sale row ∈ middle.ledger ∧ row.id = outcome.saleId ∧ input.KeyOf row ∧
      (∀ body, proc.result = some (.ok body) →
          Uuid.ofText input.storeId = some row.storeId ∧
          ∃ projection, body = .sale projection ∧ projection.saleRef = outcome.saleId) ∧
      (proc.result = some (.error .saleNotFound) → Uuid.ofText input.storeId ≠ some row.storeId) := by
  refine ⟨fun first second => reachable.one_sale_per_key, fun row => reachable.captured_by,
    fun pid proc input outcome found op gave => ?_, fun middle input outcome proc call => call.answers⟩
  obtain ⟨row, onLedger, id, key, -, outcome⟩ := reachable.capture_returns found op gave
  exact ⟨row, onLedger, id, key, outcome⟩

end Projection

/-! ### A key used at two stores -/

def otherStoreCapture : CaptureSaleInput := { sampleCapture with storeId := (sample 2).text }

/-- The second client captures the key again and is answered the sale of the first; the third one is
its second transaction. -/
def otherStoreEvents : List (Event Uuid PgError Call) :=
  captureEvents.append
    [.start ⟨2, .captureSale otherStoreCapture⟩, .ask 1, .draw 1 (sample 8), .ask 1, .ask 1,
      .ask 1, .stop 1 none,
      .start ⟨2, .readSaleProjection (sample 0).text (sample 2).text
        (sample 3).text⟩, .ask 2, .stop 2 none]

def ending (config : Config) (pid : Nat) : Option (Except Thrown Body) :=
  config.procs[pid]?.bind Interleave.Proc.result

theorem captureRuns :
    (run (salesServer sampleReference) otherStoreEvents).any
      (fun config => (ending config 0, ending config 1, ending config 2) =
        (some (.ok (.captured ⟨sample 3, true⟩)), some (.ok (.captured ⟨sample 3, false⟩)), some
          (.error .saleNotFound))) = true ∧
      (run (salesServer sampleReference) otherStoreEvents).any
      (fun config => (insertedSales config.ledger).length = 1) = true := by
  decide +kernel

/-- **A capture of the key at another store is not answered its sale.** -/
theorem other_store_misses :
    ∃ config, Reachable sampleReference config ∧ ending config 0 = some (.ok (.captured ⟨sample 3, true⟩)) ∧
      ending config 1 = some (.ok (.captured ⟨sample 3, false⟩)) ∧
      ending config 2 = some (.error .saleNotFound) := by
  have ran := captureRuns.1
  obtain ⟨config, ran, seen⟩ := (any_eq_true _ _).1 ran
  obtain ⟨zero, others⟩ := Prod.mk.inj (of_decide_eq_true seen)
  obtain ⟨one, two⟩ := Prod.mk.inj others
  exact ⟨config, run_reachable _ ran, zero, one, two⟩

theorem capture_once_sample :
    ∃ config row pid input lines event, run (salesServer sampleReference) otherStoreEvents = some config ∧
      CapturedBy config row pid input lines event := by
  have ran := captureRuns.2
  obtain ⟨config, ran, seen⟩ := (any_eq_true _ _).1 ran
  obtain ⟨row, single⟩ := List.length_eq_one_iff.1 (of_decide_eq_true seen)
  have onLedger : Write.sale row ∈ config.ledger := mem_insertedSales.1 (single ▸ mem_singleton_self row)
  obtain ⟨pid, input, lines, event, captured⟩ := (capture_once (run_reachable _ ran)).2.1 row onLedger
  exact ⟨config, row, pid, input, lines, event, ran, captured⟩

theorem answered_commits_sample :
    ∃ (config : Config) (proc : Proc), Reachable sampleReference config ∧ config.procs[0]? = some proc ∧
      (config.commits.filter fun commit => commit.1 = 0) = [(0, written proc.log)] := by
  obtain ⟨config, ran, seen⟩ := (any_eq_true _ _).1 captureRuns.1
  have ended := (Prod.mk.inj (of_decide_eq_true seen)).1
  obtain ⟨proc, found, gave⟩ := bind_eq_some_iff.1 ended
  rcases answered_commits (run_reachable _ ran) found with ⟨-, own⟩ | ⟨none, -⟩
  · exact ⟨config, proc, run_reachable _ ran, found, own⟩
  · exact absurd gave (none _)

end DataPulse.Sales
