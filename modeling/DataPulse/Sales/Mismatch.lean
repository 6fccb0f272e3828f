/-
**The mismatch flag is the same at capture and at processing.**

`captureSale` compares the POS total with the sum of the request's line amounts, `process` compares the
stored total with the sum of the stored lines.

* `mismatch_agrees`: the two flags are equal.
-/

import DataPulse.Sales.Capture
import DataPulse.Platform.Schema

namespace DataPulse.Sales

open Lib Lib.Interleave Lib.Decimal Platform
open Inventory (TenantContext)

variable {text : String}

/-! ### The request schema -/

/-- `/^[0-9]{1,15}(\.[0-9]{1,4})?$/`. -/
def isDecimalAmount (text : String) : Bool := isPlain 15 4 text.toList

/-- `/^[0-9]{1,15}(\.[0-9]{1,6})?$/`. -/
def isQuantityAmount (text : String) : Bool := isPlain 15 6 text.toList

/-- `decimalAmount`. -/
def decimalAmountIssues (path : List String) (text : String) : List Issue :=
  check (isDecimalAmount text) path "must be a non-negative exact-decimal string"

/-- `currencyCode`. -/
def currencyCodeIssues (path : List String) (text : String) : List Issue :=
  check (isCurrencyCode text) path "must be an ISO-4217 code"

/-- `CaptureSaleLineSchema`. -/
def captureSaleLineIssues (index : Nat) (line : CaptureSaleLineDto) : List Issue :=
  let path := ["lines", toString index]
  textIssues (path ++ ["lineName"]) 500 line.lineName ++
    decimalAmountIssues (path ++ ["unitPrice"]) line.unitPrice ++
    currencyCodeIssues (path ++ ["currencyCode"]) line.currencyCode ++
    check (isQuantityAmount line.quantity) (path ++ ["quantity"]) "must be a non-negative decimal string" ++
    decimalAmountIssues (path ++ ["lineAmount"]) line.lineAmount ++
    line.taxAmount.toList.flatMap (decimalAmountIssues (path ++ ["taxAmount"])) ++
    textIssues (path ++ ["unit"]) 50 line.unit ++
    line.tenantProductRef.toList.flatMap (uuidIssues (path ++ ["tenantProductRef"]))

/-- `CaptureSaleRequestSchema`; the two times are read by the schema. -/
def captureSaleIssues (body : CaptureSaleRequestDto) : List Issue :=
  textIssues ["sourceSystem"] 100 body.sourceSystem ++
    textIssues ["externalId"] 200 body.externalId ++
    currencyCodeIssues ["currencyCode"] body.currencyCode ++
    decimalAmountIssues ["posTotal"] body.posTotal ++
    check (1 ≤ body.lines.length) ["lines"] "Array must contain at least 1 element(s)" ++
    body.lines.zipIdx.flatMap fun (line, index) => captureSaleLineIssues index line

/-- What an accepted body has for the comparison. -/
structure Comparable (body : CaptureSaleRequestDto) : Prop where
  posTotal : isDecimalAmount body.posTotal = true
  lines : body.lines ≠ []
  amounts : ∀ line ∈ body.lines, isDecimalAmount line.lineAmount = true

theorem comparable_of_accepted {body : CaptureSaleRequestDto} (taken : captureSaleIssues body = []) :
    Comparable body := by
  simp only [captureSaleIssues, append_eq_nil_iff, flatMap_eq_nil_iff] at taken
  obtain ⟨⟨⟨-, posTotal⟩, some⟩, each⟩ := taken
  refine ⟨check_nil posTotal, ?_, fun line mem => ?_⟩
  · exact List.ne_nil_of_length_pos (of_decide_eq_true (check_nil some))
  · obtain ⟨index, found⟩ := mem_iff_getElem?.1 mem
    have issues := each (line, index) (List.mem_zipIdx_iff_getElem?.2 found)
    simp only [captureSaleLineIssues, append_eq_nil_iff] at issues
    exact check_nil issues.1.1.1.2

/-! ### Amounts -/

/-- **An accepted amount is a number of ten-thousandths, to the comparison and to the column.** -/
theorem amount_read (taken : isDecimalAmount text = true) :
    ∃ n : ℤ, castNumeric text = .ok (n / 10 ^ 4 : ℚ) ∧ Numeric.ofText text = Numeric.ofUnits n := by
  obtain ⟨w, f, parts⟩ := plain_split taken
  have short : 10 ^ 4 = (10 : ℚ) ^ f.length * 10 ^ (4 - f.length) := by
    rw [← pow_add, Nat.add_sub_cancel' parts.fracLength]
  have scaled : (value (w ++ f) / 10 ^ f.length : ℚ) =
      ((value (w ++ f) * 10 ^ (4 - f.length) : ℤ) : ℚ) / 10 ^ 4 := by
    push_cast
    rw [short]
    field_simp
  refine ⟨value (w ++ f) * 10 ^ (4 - f.length), ?_, ?_⟩
  · rw [castNumeric, trimBy_eq_self fun c mem => (bare_not_space parts.bare c mem).1, parts.literal, scaled]
  · rw [Numeric.ofText_bare parts.bare parts.literal, scaled, div_mul_cancel₀ _ (by norm_num),
      Numeric.roundHalfAway_intCast]

theorem amount_stored {q : ℚ} {stored : Numeric} (taken : isDecimalAmount text = true)
    (compared : castNumeric text = .ok q) (added : Numeric.ofText text = .ok stored) :
    q = stored.units / 10 ^ 4 := by
  obtain ⟨n, cast, column⟩ := amount_read taken
  rw [column] at added
  rw [Numeric.ofUnits_ok added]
  exact Except.ok.inj (compared.symm.trans cast)

theorem LineValues.row_amount {values : LineValues} {row : SaleLine} (read : values.row = .ok row) :
    Numeric.ofText values.lineAmount = .ok row.lineAmount := by
  obtain ⟨tenantId, -, read⟩ := bind_ok read
  obtain ⟨storeId, -, read⟩ := bind_ok read
  obtain ⟨unitPrice, -, read⟩ := bind_ok read
  obtain ⟨quantity, -, read⟩ := bind_ok read
  obtain ⟨lineAmount, amount, read⟩ := bind_ok read
  obtain ⟨taxAmount, -, read⟩ := bind_ok read
  obtain ⟨tenantProductRef, -, read⟩ := bind_ok read
  cases read
  exact amount

theorem SaleValues.row_total {reference : Reference} {context : TenantContext} {values : SaleValues}
    {row : Sale} (read : values.row reference context = .ok row) :
    Numeric.ofText values.posTotal = .ok row.posTotal ∧ row.mismatchFlag = some values.mismatchFlag := by
  obtain ⟨tenantId, -, read⟩ := bind_ok read
  obtain ⟨storeId, -, read⟩ := bind_ok read
  obtain ⟨posTotal, total, read⟩ := bind_ok read
  obtain ⟨createdBy, -, read⟩ := bind_ok read
  split at read
  · cases read
  · cases read
    exact ⟨total, rfl⟩

/-- **The sum of the request's amounts is the sum of the stored ones.** -/
theorem amounts_read {input : CaptureSaleInput} {saleId : Uuid} {dtos : List CaptureSaleLineDto}
    {lines : List SaleLine}
    (rows : List.Forall₂
        (fun (line : CaptureSaleLineDto) (row : SaleLine) => (line.values input saleId row.id).row = .ok row)
        dtos lines) (taken : ∀ line ∈ dtos, isDecimalAmount line.lineAmount = true) {amounts : List ℚ}
    (compared : (dtos.map CaptureSaleLineDto.lineAmount).mapM castNumeric = .ok amounts) :
    amounts.length = dtos.length ∧
      amounts.sum = ((lines.map fun line => line.lineAmount.units).sum : ℤ) / 10 ^ 4 := by
  induction rows generalizing amounts with
  | nil =>
    cases compared
    simp
  | @cons line row dtos lines read rest ih =>
    rw [map_cons, mapM_cons] at compared
    obtain ⟨amount, first, compared⟩ := bind_ok compared
    obtain ⟨others, later, compared⟩ := bind_ok compared
    cases compared
    obtain ⟨lengths, sum⟩ := ih (fun line mem => taken line (mem_cons_of_mem _ mem)) later
    have column := LineValues.row_amount read
    rw [show (line.values input saleId row.id).lineAmount = line.lineAmount from rfl] at column
    have stored := amount_stored (taken line mem_cons_self) first column
    refine ⟨by rw [length_cons, lengths, length_cons], ?_⟩
    rw [sum_cons, map_cons, sum_cons, sum, stored]
    push_cast
    ring

/-! ### The comparisons -/

section Comparisons

variable {reference : Reference} {commits : List (Nat × List Write)} {call : Call} {log : Log}

def comparison (posTotal : ℚ) (amounts : List ℚ) : Option Bool :=
  if amounts.isEmpty then none
  else some (decide ((Numeric.roundHalfAway (amounts.sum * 10 ^ 4) : ℚ) / 10 ^ 4 ≠ posTotal))

/-- **The comparison of a capture that inserted its sale.** -/
theorem capture_compared {input : CaptureSaleInput} {outcome : CaptureOutcome} {row : Sale}
    (ends : Completes (salesServer reference) commits call [] (captureTransaction input) log outcome)
    (added : .sale row ∈ written log) :
    ∃ posTotal amounts, castNumeric input.body.posTotal = .ok posTotal ∧
      (input.body.lines.map CaptureSaleLineDto.lineAmount).mapM castNumeric = .ok amounts ∧
      Numeric.ofText input.body.posTotal = .ok row.posTotal ∧
      row.mismatchFlag = some ((comparison posTotal amounts).getD false) := by
  obtain ⟨compare, log₁, rest₁, rfl, compared, ends⟩ := completes_bind (runWithTenantContext_completes ends)
  obtain ⟨saleId, log₂, rest₂, rfl, drew, ends⟩ := completes_bind ends
  obtain ⟨timezone, log₃, rest₃, rfl, resolved, ends⟩ := completes_bind ends
  obtain ⟨reply, log₄, rest₄, rfl, asked, ends⟩ := completes_bind ends
  have noSale {log : Log} (wrote : written log = []) : .sale row ∉ written log := by
    rw [wrote]
    exact not_mem_nil
  have compareWrote := read_completes rfl compared
  have resolveWrote : written log₃ = [] := by
    obtain ⟨reply, first, rest, rfl, read, ends⟩ := completes_bind resolved
    split at ends
    · obtain ⟨rfl, -⟩ := completes_done ends
      rw [append_nil]
      exact (read_completes rfl read).written
    · exact absurd ends not_completes_fail
  obtain ⟨seen, writes, -, -, ran, insertWrote⟩ := query_completes asked
  obtain ⟨sale, read, -, ⟨rfl, rfl, -⟩ | ⟨rfl, rfl, -⟩⟩ := insertSale_ok ran
  · obtain ⟨_, log₅, rest₅, rfl, looped, ends⟩ := completes_bind ends
    obtain ⟨_, emitted, -⟩ := completes_map ends
    obtain ⟨lines, -, lineWrote⟩ := insertLines_completes looped
    obtain ⟨event, -, -, -, eventWrote⟩ := emit_completes emitted
    obtain rfl : row = sale := by
      simpa [written_append, compareWrote.written, (newId_completes drew).written, resolveWrote,
        insertWrote.written, lineWrote.written, eventWrote.written, written_nil] using added
    obtain ⟨seen', writes', -, -, executed', -⟩ := query_completes compared
    obtain ⟨posTotal, total, executed'⟩ := bind_ok executed'
    obtain ⟨amounts, each, executed'⟩ := bind_ok executed'
    cases executed'
    obtain ⟨stored, flag⟩ := SaleValues.row_total read
    exact ⟨posTotal, amounts, total, each, stored, flag⟩
  · have late : written rest₄ = [] := by
      obtain ⟨found, log₅, rest₅, rfl, winning, ends⟩ := completes_bind ends
      have winnerWrote := read_completes rfl winning
      split at ends
      · obtain ⟨rfl, -⟩ := completes_done ends
        rw [append_nil]
        exact winnerWrote.written
      · exact absurd ends not_completes_fail
    simp [written_append, compareWrote.written, (newId_completes drew).written, resolveWrote,
      insertWrote.written, late] at added

/-- **The comparison of a drain that processed its sale.** -/
theorem process_compared {job : SaleProcessingJob} {result : SaleProcessingResult} {saleId : Uuid}
    {mismatchFlag : Bool} {processedAt : Int}
    (ends : Completes (salesServer reference) commits call [] job.process log result)
    (updated : .process saleId mismatchFlag processedAt ∈ written log) :
    ∃ seen sale, .sale sale ∈ contents (commits.take seen) ∧ sale.id = saleId ∧
      some sale.tenantId = call.context.tenant ∧
      mismatchFlag =
      decide (lineTotal call.context (contents (commits.take seen)) saleId ≠ sale.posTotal.units) := by
  obtain ⟨_, log₁, rest₁, rfl, asserted, ends⟩ := completes_bind ends
  obtain rfl := assertJob_completes asserted
  obtain ⟨_, log₂, rest₂, rfl, required, ends⟩ := completes_bind (runWithTenantContext_completes ends)
  obtain ⟨reply, log₃, rest₃, rfl, asked, ends⟩ := completes_bind ends
  obtain ⟨_, _, _, _, -, -, -, -, requireWrote⟩ := requireSale_completes required
  obtain ⟨seen, writes, -, -, ran, updateWrote⟩ := query_completes asked
  simp only [written_nil, requireWrote.written, append_nil] at ran
  obtain ⟨sale, saleCast, ran⟩ := bind_ok ran
  obtain ⟨store, storeCast, ran⟩ := bind_ok ran
  split at ran
  · cases ran
    obtain ⟨convergeWrote, -⟩ := converge_completes ends
    simp [written_append, requireWrote.written, updateWrote.written, convergeWrote.written] at updated
  · rename_i found matched
    obtain ⟨inScope, -⟩ := filter_eq_some_iff.1 matched
    obtain ⟨row, mem, rfl, id, -, tenant⟩ := saleInScope_some inScope
    cases ran
    obtain ⟨_, emitted, -⟩ := completes_map ends
    obtain ⟨event, -, -, eventWrote⟩ := emitPostingRequested_completes emitted
    simp only [written_append, requireWrote.written, updateWrote.written, eventWrote.written,
      nil_append, mem_append, mem_singleton,
      Write.process.injEq, reduceCtorEq, or_false] at updated
    obtain ⟨rfl, rfl, -⟩ := updated
    obtain ⟨flag, time, status, frozen⟩ := Sale.after_frozen (contents (commits.take seen)) row
    refine ⟨seen, row, mem, id, tenant, ?_⟩
    rw [frozen]

/-- **Only a drain processes a sale.** -/
theorem Committed.processed {value : Body} (kept : Committed reference commits call log value) {saleId : Uuid}
    {mismatchFlag : Bool} {processedAt : Int}
    (updated : .process saleId mismatchFlag processedAt ∈ written log) :
    ∃ seen sale, .sale sale ∈ contents (commits.take seen) ∧ sale.id = saleId ∧
      some sale.tenantId = call.context.tenant ∧
      mismatchFlag =
      decide (lineTotal call.context (contents (commits.take seen)) saleId ≠ sale.posTotal.units) := by
  obtain ⟨ends, held, ordered⟩ := kept
  have terminal {kind : TerminalKind} {input : TerminalInput (String × String)}
      {refunded : Option (String × String)} {missing : String} {result : TerminalEventResult} {log : Log}
      (matching : kind = if refunded.isSome then .refund else .void)
      (recorded : Completes (salesServer reference) commits call []
        (recordTerminal kind input refunded missing) log result) :
      .process saleId mismatchFlag processedAt ∉ written log := by
    obtain ⟨row, event, terminal, -, -⟩ | ⟨nothing, -⟩ := recordTerminal_effect matching recorded
    · simp [terminal.wrote.written]
    · simp [nothing]
  match op : call.operation with
  | .captureSale input =>
    rw [op] at ends
    obtain ⟨outcome, transaction, -⟩ := completes_map ends
    obtain ⟨row, lines, event, capture, -⟩ | ⟨nothing, -⟩ := captureTransaction_effect transaction
    · simp [capture.wrote.written] at updated
    · simp [nothing] at updated
  | .readSaleProjection tenantId storeId saleId =>
    rw [op] at ends
    obtain ⟨projection, reading, -⟩ := completes_map ends
    simp [readSaleProjection_writes reading] at updated
  | .recordVoid input =>
    rw [op] at ends
    obtain ⟨result, transaction, -⟩ := completes_map ends
    exact absurd updated (terminal rfl transaction)
  | .recordRefund input =>
    rw [op] at ends
    obtain ⟨result, transaction, -⟩ := completes_map ends
    exact absurd updated (terminal rfl transaction)
  | .process job =>
    rw [op] at ends
    obtain ⟨result, transaction, -⟩ := completes_map ends
    exact process_compared transaction updated
  | .quarantine input =>
    rw [op] at ends
    obtain ⟨result, transaction, -⟩ := completes_map ends
    obtain ⟨nothing, -⟩ | ⟨deadletter, sale, -, -, ⟨wrote, -⟩ | ⟨wrote, -⟩⟩ :=
      quarantine_effect transaction ordered
    · simp [nothing] at updated
    · simp [wrote] at updated
    · simp [wrote] at updated
  | .repairSaleSync tenantId saleId =>
    rw [op] at ends
    obtain ⟨body, transaction, -⟩ := completes_map ends
    obtain ⟨row, deadletter, repair⟩ := repairSaleSync_effect transaction ordered
    simp [repair.wrote.written] at updated
  | .listNeedsRepair input =>
    rw [op] at ends
    obtain ⟨page, listing, -⟩ := completes_map ends
    simp [listNeedsRepair_writes listing] at updated

end Comparisons

/-! ### The main result -/

section Agreement

variable {reference : Reference} {config : Config} {row : Sale}
variable {input : CaptureSaleInput} {lines : List SaleLine} {event : OutboxEvent}
variable {pid : Nat}

/-- **Who sees a sale sees all its lines.** -/
theorem Reachable.lines_seen (reach : Reachable reference config) {first second : List (Nat × List Write)}
    (commits : config.commits = first ++ second) (seen : .sale row ∈ contents first) :
    saleLines (contents first) row.id = saleLines config.ledger row.id := by
  have onLedger : .sale row ∈ config.ledger := mem_ledger commits seen
  have later : saleLines (contents second) row.id = [] := by
    refine filter_eq_nil_iff.2 fun line mem about => ?_
    obtain ⟨⟨pid, writes⟩, inside, wrote⟩ := mem_flatMap.1 (mem_linesOf.1 mem)
    obtain ⟨between, rest, rfl⟩ := append_of_mem inside
    rw [← append_assoc] at commits
    have without : .sale row ∉ writes := fun again => by
      have there : .sale row ∈ contents (first ++ between) := by
        rw [contents_append]
        exact mem_append_left _ seen
      have apart := reach.fresh commits _ there _ again
      simp [collide] at apart
    have commit : (pid, writes) ∈ config.commits := by
      rw [commits]
      exact mem_append_right _ mem_cons_self
    have none := filter_eq_nil_iff.1 (reach.without_sale onLedger commit without).1
    exact none line (mem_linesOf.2 wrote) about
  rw [Config.ledger, commits, contents_append, saleLines_append, later, append_nil]

theorem CapturedBy.lineTenant (captured : CapturedBy config row pid input lines event) :
    ∀ line ∈ lines, line.tenantId = row.tenantId := by
  intro line mem
  obtain ⟨dto, -, read⟩ := exists_left_of_forall₂ captured.rows line mem
  exact Option.some.inj ((LineValues.row_ok read).2.2.symm.trans captured.key.tenant)

/-- **The sum a drain sees is that of the captured lines.** -/
theorem CapturedBy.lineTotal (captured : CapturedBy config row pid input lines event) {writes : List Write}
    {context : TenantContext} (seen : saleLines writes row.id = saleLines config.ledger row.id)
    (visible : some row.tenantId = context.tenant) :
    Sales.lineTotal context writes row.id = (lines.map fun line => line.lineAmount.units).sum := by
  have all : (linesOf writes).filter (fun line => line.saleId = row.id && some line.tenantId = context.tenant) =
      lines := by
    have split :
        (linesOf writes).filter (fun line => line.saleId = row.id && some line.tenantId = context.tenant) =
        (saleLines writes row.id).filter fun line => some line.tenantId = context.tenant := by
      rw [saleLines, filter_filter]
      exact filter_congr fun line _ => Bool.and_comm _ _
    rw [split, seen, captured.lines]
    refine filter_eq_self.2 fun line mem => decide_eq_true ?_
    rw [captured.lineTenant line mem, visible]
  rw [Sales.lineTotal, all]

/-- **The flag a drain writes is the flag of the capture, where the schema accepts the captured body.** -/
theorem mismatch_agrees (reachable : Reachable reference config) (onLedger : .sale row ∈ config.ledger) :
    ∃ (pid : Nat) (proc : Proc) (input : CaptureSaleInput), config.procs[pid]? = some proc ∧
      proc.call.operation = .captureSale input ∧ Write.sale row ∈ written proc.log ∧
      (captureSaleIssues input.body = [] →
        ∀ mismatchFlag processedAt, Write.process row.id mismatchFlag processedAt ∈ config.ledger →
        row.mismatchFlag = some mismatchFlag) := by
  obtain ⟨pid, input, lines, event, captured⟩ := reachable.captured_by onLedger
  obtain ⟨proc, found, op, -⟩ := captured.client
  obtain ⟨before, after, commits⟩ := append_of_mem captured.commit
  obtain ⟨proc', value, found', -, wrote, kept⟩ := reachable.commit_of commits
  obtain rfl := mem_unique found found'
  have added : Write.sale row ∈ written proc.log := wrote ▸ mem_cons_self
  refine ⟨pid, proc, input, found, op, added, fun taken mismatchFlag processedAt processed => ?_⟩
  obtain ⟨posTotal, comparables, amounts⟩ := comparable_of_accepted taken
  -- the capture
  have ends := kept.completes
  rw [op] at ends
  obtain ⟨outcome, transaction, -⟩ := completes_map ends
  obtain ⟨total, sums, totalCast, sumsCast, totalStored, flag⟩ := capture_compared transaction added
  obtain ⟨lengths, sum⟩ := amounts_read captured.rows amounts sumsCast
  have totalRead := amount_stored posTotal totalCast totalStored
  -- the drain
  obtain ⟨⟨pid', writes'⟩, inside, updated⟩ := mem_flatMap.1 processed
  obtain ⟨before', after', commits'⟩ := append_of_mem inside
  obtain ⟨proc', value', found', -, rfl, committed'⟩ := reachable.commit_of commits'
  obtain ⟨seen, sale, there, id, visible, drained⟩ := committed'.processed updated
  have parts : config.commits =
      before'.take seen ++ (before'.drop seen ++ (pid', written proc'.log) :: after') := by
    rw [← append_assoc, take_append_drop, commits']
  have same : sale = row := reachable.one_sale (mem_ledger parts there) onLedger id
  rw [same] at there visible drained
  rw [captured.lineTotal (reachable.lines_seen parts there) visible] at drained
  -- both compare the same two numbers
  have some : sums.isEmpty = false := by
    rw [List.isEmpty_eq_false_iff]
    exact fun empty => comparables (length_eq_zero_iff.1 (by rw [← lengths, empty, length_nil]))
  rw [flag, comparison, some, sum, div_mul_cancel₀ _ (by norm_num), Numeric.roundHalfAway_intCast, totalRead,
    drained]
  simp only [false_eq_true, ↓reduceIte, ne_eq, OfNat.ofNat_ne_zero, not_false_eq_true, pow_eq_zero_iff,
    div_left_inj', Int.cast_inj, decide_not, getD_some]

end Agreement

def acceptedCapture (call : Call) : Bool :=
  match call.operation with
  | .captureSale input => captureSaleIssues input.body = []
  | _ => true

theorem mismatch_agrees_sample :
    ∃ config row mismatchFlag processedAt,
      run (salesServer sampleReference) (captureEvents ++ drainEvents 1) = some config ∧
      Write.sale row ∈ config.ledger ∧ Write.process row.id mismatchFlag processedAt ∈ config.ledger ∧
      row.mismatchFlag = some mismatchFlag := by
  have ran : (run (salesServer sampleReference) (captureEvents ++ drainEvents 1)).any (fun config =>
      config.procs.all (fun proc => acceptedCapture proc.call) &&
        (insertedSales config.ledger).any fun row => .process row.id false 3 ∈ config.ledger) = true := by
    decide +kernel
  obtain ⟨config, ran, seen⟩ := (any_eq_true _ _).1 ran
  obtain ⟨taken, seen⟩ := (and_eq_true _ _).mp seen
  obtain ⟨row, added, processed⟩ := List.any_eq_true.1 seen
  have onLedger := mem_insertedSales.1 added
  obtain ⟨pid, proc, input, found, op, -, agrees⟩ := mismatch_agrees (run_reachable _ ran) onLedger
  have issues := all_eq_true.1 taken proc (mem_of_getElem? found)
  rw [acceptedCapture, op] at issues
  exact ⟨config, row, false, 3, ran, onLedger, of_decide_eq_true processed,
    agrees (of_decide_eq_true issues) false 3 (of_decide_eq_true processed)⟩

end DataPulse.Sales
