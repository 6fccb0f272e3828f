/-
**What a count leaves on hand.**

A count reads the on-hand total, computes the variance as a JavaScript number and inserts it as a
correction. The total after it is the counted one plus what commits later exactly when nothing else
moved the pair between the reading and the commit (`counted_iff`): nothing locks the pair, and a movement
that commits in between is in the total but not in the variance (`uncounted_movement`).
-/

import DataPulse.Inventory.Atomicity

namespace DataPulse.Inventory

open Lib Lib.Binary64 Lib.Interleave Platform

variable {input : RecordStockCountInput} {checked : Checked}
variable {value : ℚ}

def onHandOf (count : StockCount) (rows : List Row) : Int :=
  total (ofPair (some count.tenantId) count.storeId count.tenantProductRef rows)

/-- What other transactions added to the pair between the reading and the commit. -/
def drift (count : StockCount) (before : List (Nat × List Row)) (seen : Nat) : Int :=
  onHandOf count (contents before) - onHandOf count (contents (before.take seen))

/-- The ten-thousandths of the variance the service records. -/
def varianceUnits (counted derived : ℚ) : Int := toFixedUnits (10 ^ 4) (variance counted derived)

/-- The difference between counted and derived, less the recorded variance. -/
def slip (counted : ℚ) (derived : Numeric) : Int :=
  toFixedUnits (10 ^ 4) counted - derived.units -
    varianceUnits counted (derivedOnHand derived.text)

theorem onHandOf_append (count : StockCount) (first second : List Row) :
    onHandOf count (first ++ second) = onHandOf count first + onHandOf count second := by
  rw [onHandOf, ofPair, movementsOf_append, filter_append]
  simp only [total, map_append, sum_append]
  rfl

/-! ### Roundings -/

theorem units_of_atScale (small : |toFixedUnits (10 ^ 4) (atScale value)| ≤ 2 ^ 49) :
    ∃ u : ℤ, |u| ≤ 2 ^ 49 ∧ atScale value = roundBinary64 (u / 10 ^ 4) ∧
      toFixedUnits (10 ^ 4) (atScale value) = u := by
  have whole : ∃ u : ℤ, atScale value = roundBinary64 (u / 10 ^ 4) := ⟨_, rfl⟩
  obtain ⟨u, same⟩ := whole
  rw [same] at small
  have printed : |(toFixedUnits (10 ^ 4) (roundBinary64 (u / 10 ^ 4)) : ℚ) -
      roundBinary64 (u / 10 ^ 4) * 10 ^ 4| ≤ 1 / 2 := toFixedUnits_error _
  have number := number_error u
  have slack : |(u : ℚ)| * (2 : ℚ) ^ (-53 : ℤ) ≤ |(u : ℚ)| * (1 / 4) :=
    mul_le_mul_of_nonneg_left (by norm_num) (abs_nonneg _)
  have smallQ : |(toFixedUnits (10 ^ 4) (roundBinary64 (u / 10 ^ 4)) : ℚ)| ≤ 2 ^ 49 := by
    exact_mod_cast small
  have bound : |(u : ℚ)| ≤ 2 ^ 50 := by
    have first := abs_sub_abs_le_abs_sub (u : ℚ) (roundBinary64 (u / 10 ^ 4) * 10 ^ 4)
    have second := abs_sub_abs_le_abs_sub (roundBinary64 (u / 10 ^ 4) * 10 ^ 4 : ℚ)
      (toFixedUnits (10 ^ 4) (roundBinary64 (u / 10 ^ 4)))
    rw [abs_sub_comm] at first second
    have total := number.trans slack
    linarith
  have units := toFixed_of_number (u := u) (by exact_mod_cast bound)
  rw [units] at small
  exact ⟨u, small, same, by rw [same, units]⟩

/-- **Amounts up to `2 ^ 49` ten-thousandths: the variance is exact.** -/
theorem slip_zero {derived : Numeric} (smallCounted : |toFixedUnits (10 ^ 4) (atScale value)| ≤ 2 ^ 49)
    (smallDerived : |derived.units| ≤ 2 ^ 49) : slip (atScale value) derived = 0 := by
  obtain ⟨u, small, same, units⟩ := units_of_atScale smallCounted
  have difference : |u - derived.units| ≤ 2 ^ 50 := by
    calc |u - derived.units| ≤ |u| + |derived.units| := abs_sub _ _
      _ ≤ 2 ^ 49 + 2 ^ 49 := add_le_add small smallDerived
      _ = 2 ^ 50 := by norm_num
  have exact : varianceUnits (atScale value) (derivedOnHand derived.text) = u - derived.units := by
    rw [varianceUnits, variance, derivedOnHand, number_text, getD_some, same,
      atScale_difference small smallDerived]
    exact toFixed_of_number difference
  rw [slip, units, exact, sub_self]

/-! ### The pair of a count -/

theorem onHandOf_counted {deed : Counted} {context : TenantContext} {counted derived : ℚ}
    (count : (input.count checked deed.count.id derived).row context = .ok deed.count)
    (varies : deed.correction = none ↔ variance counted derived = 0)
    (corrects : ∀ correction, deed.correction = some correction →
      (input.correction checked correction.movement.id deed.count.id
        (toFixed4 (variance counted derived))).row context = .ok correction.movement) :
    onHandOf deed.count deed.rows = varianceUnits counted derived := by
  cases correction : deed.correction with
  | none =>
    have zero : varianceUnits counted derived = 0 := by
      rw [varianceUnits, varies.1 correction]
      norm_num [toFixedUnits]
    simp [onHandOf, ofPair, Counted.rows, correction, movementsOf, total, zero]
  | some c =>
    have countGives := CountValues.row_ok count
    have gives := MovementValues.row_ok (corrects c correction)
    have tenant : c.movement.tenantId = deed.count.tenantId := mem_unique gives.tenant countGives.tenant
    have store : c.movement.storeId = deed.count.storeId := mem_unique gives.store countGives.store
    have product : c.movement.tenantProductRef = some deed.count.tenantProductRef := by
      have item : Uuid.ofText input.tenantProductRef = some deed.count.tenantProductRef := countGives.product
      exact Except.ok.inj (gives.product.symm.trans (castOptional_of item))
    have units : c.movement.quantity.units = varianceUnits counted derived :=
      Numeric.ofUnits_ok ((ofText_toFixed4 _).symm.trans gives.quantity)
    simp [onHandOf, ofPair, Counted.rows, correction, movementsOf, Movement.counts, tenant, store,
      product, total, units]

variable {reference : Reference} {config : Config} {proc : Proc} {pid : Nat}

theorem RecordStockCountInput.check_quantity (taken : input.check = .ok checked) :
    ∃ value, number input.countedQuantity = some value ∧ checked.quantity = atScale value := by
  obtain ⟨quantity, scaled, taken⟩ := bind_ok taken
  obtain ⟨_, _, taken⟩ := bind_ok₂ taken
  cases taken
  unfold finiteAtScale at scaled
  split at scaled
  · cases scaled
    exact ⟨_, ‹_›, rfl⟩
  · cases scaled

/-- A count of a run, as it was recorded: what it read, and where its commit stands. -/
structure Recorded (config : Config) (pid : Nat) (input : RecordStockCountInput)
    (body : StockCountResultBody) (value : ℚ) (deed : Counted) (sum : Numeric)
    (before after : List (Nat × List Row)) (seen : Nat) : Prop where
  read : number input.countedQuantity = some value
  commits : config.commits = before ++ (pid, deed.rows) :: after
  early : seen ≤ before.length
  sums : sum.units = onHandOf deed.count (contents (before.take seen))
  answered : body.stockCountId = deed.count.id ∧ body.countedQuantity = toFixed4 (atScale value)
  counted : deed.count.countedQuantity.units = toFixedUnits (10 ^ 4) (atScale value)
  corrected : onHandOf deed.count deed.rows = varianceUnits (atScale value) (derivedOnHand sum.text)

/-- **Every returned count was recorded.** -/
theorem Reachable.recorded (reach : Reachable reference config) (found : config.procs[pid]? = some proc)
    {input : RecordStockCountInput} (op : proc.call.operation = .recordStockCount input)
    {body : StockCountResultBody} (gave : proc.result = some (.ok (.count body))) :
    ∃ value deed sum before after seen, Recorded config pid input body value deed sum before after seen := by
  have finishes := reach.finishes (mem_of_getElem? found) gave
  rw [inventory_program, op] at finishes
  obtain ⟨_, same, ends⟩ := returns_map finishes
  cases same
  obtain ⟨_, _, _, _, _, _, -, -, -, -, -, -, -, -, sound⟩ := recordStockCount_effect ends
  obtain ⟨before, after, commits⟩ := reach.committed found gave sound
  obtain ⟨proc', result, found', returned', -, goes⟩ := reach.commit commits
  obtain rfl := mem_unique found found'
  obtain rfl := Except.ok.inj (mem_unique gave returned')
  have ends := goes.finishes
  rw [inventory_program, op] at ends
  obtain ⟨_, same, ends⟩ := returns_map ends
  cases same
  obtain ⟨checked, deed, sum, seen, auditId, eventIds, taken, count, early, sums, varies, corrects,
    wrote, rfl, -⟩ := recordStockCount_effect ends
  obtain ⟨value, read, scaled⟩ := RecordStockCountInput.check_quantity taken
  have gives := CountValues.row_ok count
  have tenant : proc.call.context.tenant = some deed.count.tenantId := by
    rw [proc.call.context_tenant, op, ← gives.tenant]
    rfl
  rw [tenant] at sums
  rw [wrote.written] at commits
  have units := Numeric.ofUnits_ok ((ofText_toFixed4 _).symm.trans gives.counted)
  rw [scaled] at varies corrects units
  refine ⟨value, deed, sum, before, after, seen, read, commits, early, sums, ⟨rfl, ?_⟩, units,
    onHandOf_counted count varies corrects⟩
  rw [← scaled]

/-- **A count leaves the counted quantity, and what commits later, on hand exactly when nothing moved
the pair between its reading and its commit**, up to the roundings of the variance. -/
theorem counted_iff (reachable : Reachable reference config) (found : config.procs[pid]? = some proc)
    {input : RecordStockCountInput} (operation : proc.call.operation = .recordStockCount input)
    {body : StockCountResultBody} (returned : proc.result = some (.ok (.count body))) :
    ∃ value deed sum before after seen, Recorded config pid input body value deed sum before after seen ∧
      (onHandOf deed.count config.ledger =
          deed.count.countedQuantity.units + onHandOf deed.count (contents after) ↔
          drift deed.count before seen = slip (atScale value) sum) ∧
      (|deed.count.countedQuantity.units| ≤ 2 ^ 49 → |sum.units| ≤ 2 ^ 49 →
        slip (atScale value) sum = 0) := by
  obtain ⟨value, deed, sum, before, after, seen, recorded⟩ := reachable.recorded found operation returned
  refine ⟨value, deed, sum, before, after, seen, recorded, ?_, ?_⟩
  · have ledger : onHandOf deed.count config.ledger = onHandOf deed.count (contents before) +
        (varianceUnits (atScale value) (derivedOnHand sum.text) + onHandOf deed.count (contents after)) := by
      rw [Config.ledger, recorded.commits, contents_commit, onHandOf_append, onHandOf_append, recorded.corrected]
    rw [ledger, recorded.counted, drift, slip, ← recorded.sums]
    constructor <;> intro same <;> linarith
  · intro smallCounted smallDerived
    rw [recorded.counted] at smallCounted
    exact slip_zero smallCounted smallDerived

/-! ### A movement between the reading and the commit -/

def sampleCount : RecordStockCountInput where
  tenantId := (sample 7).text
  storeId := (sample 8).text
  userId := (sample 6).text
  tenantProductRef := (sample 5).text
  countedQuantity := "10"
  stockingUnit := "each"

/-- The count reads nothing on hand, three pieces come in, and the count commits. -/
def driftEvents : List (Event Uuid PgError Call) :=
  .append [.start ⟨0, .recordStockCount sampleCount⟩, .draw 0 (.numbered 1), .draw 0 (.numbered 2), .ask 0,
    .ask 0, .start (sampleMovement .inbound "3" "each")] ((inboundSteps 1 3).append
  [.ask 0, .draw 0 (.numbered 6), .ask 0, .ask 0, .draw 0 (.numbered 7), .ask 0, .stop 0 none])

def countSeen (config : Config) : List (Int × Int) :=
  (countsOf config.ledger).map fun count =>
    (count.countedQuantity.units, onHandOf count config.ledger)

def returnedCount (proc : Proc) : Option StockCountResultBody :=
  match proc.result with
  | some (.ok (.count body)) => some body
  | _ => none

def Operation.countInput : Operation → Option RecordStockCountInput
  | .recordStockCount input => some input
  | _ => none

theorem driftEvents_run :
    ∃ config proc body, run (inventory .sample) driftEvents = some config ∧ config.procs[0]? = some proc ∧
      proc.result = some (.ok (.count body)) ∧ proc.call.operation = .recordStockCount sampleCount ∧
      countSeen config = [(100000, 130000)] ∧ config.commits.map Prod.fst = [1, 0] := by
  have ran : (run (inventory .sample) driftEvents).bind (fun config =>
      config.procs[0]?.map fun proc => ((returnedCount proc).isSome,
        decide (proc.call.operation.countInput = some sampleCount), countSeen config,
        config.commits.map Prod.fst)) = some (true, true, [(100000, 130000)], [1, 0]) := by
    decide +kernel
  obtain ⟨config, ran, seen⟩ := bind_eq_some_iff.1 ran
  obtain ⟨proc, found, seen⟩ := map_eq_some_iff.1 seen
  simp only [Prod.mk.injEq, decide_eq_true_eq] at seen
  obtain ⟨gave, counts, rest⟩ := seen
  unfold returnedCount at gave
  unfold Operation.countInput at counts
  split at gave
  · split at counts
    · cases counts
      exact ⟨config, proc, _, ran, found, ‹_›, ‹_›, rest⟩
    · cases counts
  · cases gave

/-- **The count said ten, and thirteen are on hand.** -/
theorem uncounted_movement :
    ∃ config proc body deed before after, run (inventory .sample) driftEvents = some config ∧
      config.procs[0]? = some proc ∧ proc.result = some (.ok (.count body)) ∧
      config.commits = before ++ (0, Counted.rows deed) :: after ∧ body.stockCountId = deed.count.id ∧
      onHandOf deed.count config.ledger ≠
      deed.count.countedQuantity.units + onHandOf deed.count (contents after) := by
  obtain ⟨config, proc, body, ran, found, gave, op, counted, order⟩ := driftEvents_run
  obtain ⟨value, deed, sum, before, after, seen, recorded⟩ :=
    Reachable.recorded (run_reachable (inventory .sample) ran) found op gave
  refine ⟨config, proc, body, deed, before, after, ran, found, gave, recorded.commits, recorded.answered.1, ?_⟩
  -- nothing kept after the count
  have last : after = [] := by
    rw [recorded.commits, map_append, map_cons] at order
    rcases before with _ | ⟨first, _ | ⟨second, rest⟩⟩ <;> simp_all
  have inLedger : deed.count ∈ countsOf config.ledger := by
    rw [Config.ledger, recorded.commits, contents_commit]
    refine mem_filterMap.2 ⟨.count deed.count, ?_, rfl⟩
    refine mem_append_right _ (mem_append_left _ ?_)
    unfold Counted.rows
    split <;> exact mem_cons_self
  have pair : (deed.count.countedQuantity.units, onHandOf deed.count config.ledger) ∈ countSeen config :=
    mem_map_of_mem
      (f := fun count : StockCount => (count.countedQuantity.units, onHandOf count config.ledger)) inLedger
  rw [counted, mem_singleton, Prod.mk.injEq] at pair
  have nothing : onHandOf deed.count (contents []) = 0 := rfl
  rw [last, pair.1, pair.2, nothing]
  decide

theorem counted_iff_drift :
    ∃ config proc body deed before after value sum seen, run (inventory .sample) driftEvents = some config ∧
      config.procs[0]? = some proc ∧ proc.result = some (.ok (.count body)) ∧
      Recorded config 0 sampleCount body value deed sum before after seen ∧
      (onHandOf deed.count config.ledger =
        deed.count.countedQuantity.units + onHandOf deed.count (contents after) ↔
        drift deed.count before seen = slip (atScale value) sum) := by
  obtain ⟨config, proc, body, ran, found, gave, op, -, -⟩ := driftEvents_run
  obtain ⟨value, deed, sum, before, after, seen, recorded, counted, -⟩ :=
    counted_iff (run_reachable (inventory .sample) ran) found op gave
  exact ⟨config, proc, body, deed, before, after, value, sum, seen, ran, found, gave, recorded, counted⟩

end DataPulse.Inventory
