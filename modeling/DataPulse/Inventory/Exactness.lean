/-
**How large transfers and counts are exact.**

The services read decimal quantities as binary64 numbers, compute on them and print them again. What they
persist is the decimal result as long as the numbers stay small enough, and the bounds are sharp:

* `quantities_exact_iff`: larger bounds do not do, for either.
-/

import DataPulse.Inventory.Counts
import DataPulse.Inventory.Transfers
import DataPulse.Lib.Binades

namespace DataPulse.Inventory

open Lib Lib.Binary64 Lib.Decimal Lib.Interleave Platform

variable {most : ℕ}
variable {input : CreateStockTransferInput} {units : ℤ}

/-! ### What is to be exact -/

def Denotes (text : String) (units : ℤ) : Prop := literal text.toList = some (units / 10 ^ 4 : ℚ)

instance (text : String) (units : ℤ) : Decidable (Denotes text units) := inferInstanceAs (Decidable (_ = _))

/-- What a transfer wrote is exact: the service goes on with the binary64 number nearest to the quantity,
and the two legs are the quantity and its negation. -/
structure ExactTransfer (input : CreateStockTransferInput) (writes : List Row) (units : ℤ) : Prop where
  quantity : ∃ checked, input.check = .ok checked ∧ checked.quantity = roundBinary64 (units / 10 ^ 4)
  legs : (movementsOf writes).map (fun movement => movement.quantity.units) = [-units, units]

/-- What a count wrote is exact: counted, derived and variance are the binary64 numbers nearest to the
decimal amounts, the count's row has the two amounts, and its correction, and the answer, their difference.
-/
structure ExactCount (proc : Proc) (input : RecordStockCountInput) (writes : List Row)
  (counted derived : ℤ) : Prop where
  quantity : ∃ checked, input.check = .ok checked ∧ checked.quantity = roundBinary64 (counted / 10 ^ 4) ∧
    variance checked.quantity (roundBinary64 (derived / 10 ^ 4)) =
    roundBinary64 ((counted - derived : ℤ) / 10 ^ 4)
  row : (countsOf writes).map (fun count => (count.countedQuantity.units, count.derivedOnHandAtCount.units)) =
    [(counted, derived)]
  correction : (movementsOf writes).map (fun movement => movement.quantity.units) =
    if counted = derived then [] else [counted - derived]
  reported : ∀ body, proc.result = some (.ok (.count body)) → Denotes body.variance (counted - derived)

/-- **Every transfer of an accepted quantity of up to `most` ten-thousandths is persisted exactly**, in
every run. -/
def TransfersExact (most : ℕ) : Prop :=
  ∀ (reference : Reference) (config : Config) (before after : List (Nat × List Row)) (pid : Nat)
    (writes : List Row) (proc : Proc) (input : CreateStockTransferInput) (units : ℤ),
    Reachable reference config → config.commits = before ++ (pid, writes) :: after → config.procs[pid]? =
      some proc →
    proc.call.operation = .createStockTransfer input → isUnsignedQuantity input.quantity = true →
    Denotes input.quantity units → units ≤ most → ExactTransfer input writes units

/-- **Every count of an accepted quantity of up to `most` ten-thousandths, over a total of up to `most` on
hand, either way, is persisted exactly**, in every run. -/
def CountsExact (most : ℕ) : Prop :=
  ∀ (reference : Reference) (config : Config) (before after : List (Nat × List Row)) (pid : Nat)
    (writes : List Row) (proc : Proc) (input : RecordStockCountInput) (units : ℤ),
    Reachable reference config → config.commits = before ++ (pid, writes) :: after → config.procs[pid]? =
      some proc →
    proc.call.operation = .recordStockCount input → isUnsignedQuantity input.countedQuantity = true →
    Denotes input.countedQuantity units → units ≤ most →
    ∃ count seen, countsOf writes = [count] ∧ seen ≤ before.length ∧
      (|onHandOf count (contents (before.take seen))| ≤ most →
        ExactCount proc input writes units (onHandOf count (contents (before.take seen))))

/-! ### Accepted texts -/

theorem denotes_toFixed4 (value : ℚ) : Denotes (toFixed4 value) (toFixedUnits (10 ^ 4) value) := by
  rw [Denotes, toFixed4, String.toList_ofList]
  exact literal_scaledText 4 (by decide) _

theorem number_of_unsigned {text : String} (taken : isUnsignedQuantity text = true)
    (denotes : Denotes text units) : 0 ≤ units ∧ number text = some (roundBinary64 (units / 10 ^ 4)) := by
  obtain ⟨w, f, parts⟩ := plain_split taken
  have read := Option.some.inj ((literal_plainUnits parts).symm.trans denotes)
  have same : ((plainUnits w f : ℤ) : ℚ) = units := (div_left_inj' (by norm_num)).1 read
  rw [number_plain le_rfl parts, ← Int.cast_inj.1 same]
  exact ⟨Int.natCast_nonneg _, rfl⟩

/-! ### What is committed -/

variable {reference : Reference} {config : Config} {proc : Proc} {pid : Nat}
  {before after : List (Nat × List Row)}
  {writes : List Row}

theorem CreateStockTransferInput.check_quantity {checked : Checked} (taken : input.check = .ok checked) :
    ∃ value, number input.quantity = some value ∧ checked.quantity = atScale value := by
  obtain ⟨_, -, taken⟩ := bind_ok taken
  obtain ⟨quantity, scaled, taken⟩ := bind_ok taken
  obtain ⟨_, _, taken⟩ := bind_ok₂ taken
  cases taken
  unfold finiteAtScale at scaled
  split at scaled
  · cases scaled
    exact ⟨_, ‹_›, rfl⟩
  · cases scaled

/-- **What a committed transfer wrote**: the ten-thousandths of the quantity at scale, with both signs. -/
theorem committed_transfer (reach : Reachable reference config)
    (commits : config.commits = before ++ (pid, writes) :: after) (found : config.procs[pid]? = some proc)
    (op : proc.call.operation = .createStockTransfer input)
    (unsigned : isUnsignedQuantity input.quantity = true) (denotes : Denotes input.quantity units) :
    ∃ checked, input.check = .ok checked ∧ checked.quantity = atScale (roundBinary64 (units / 10 ^ 4)) ∧
      (movementsOf writes).map (fun movement => movement.quantity.units) =
      [-toFixedUnits (10 ^ 4) checked.quantity, toFixedUnits (10 ^ 4) checked.quantity] := by
  obtain ⟨proc', body, found', -, same, ends⟩ := reach.commit commits
  obtain rfl := mem_unique found found'
  have goes := ends.finishes
  rw [inventory_program, op] at goes
  obtain ⟨result, -, goes⟩ := returns_map goes
  obtain ⟨checked, deed, ids, taken, -, -, cast, wrote, -⟩ := createStockTransfer_effect goes
  obtain ⟨value, read, scaled⟩ := input.check_quantity taken
  rw [(number_of_unsigned unsigned denotes).2] at read
  have inUnits := Numeric.ofUnits_ok ((ofText_toFixed4 _).symm.trans cast)
  refine ⟨checked, taken, by rw [scaled, ← Option.some.inj read], ?_⟩
  rw [same, wrote.written, ← inUnits]
  have outUnits : deed.inbound.quantity.units = -deed.outbound.quantity.units := by
    rw [deed.opposite, Numeric.neg_units]
  simp [Transferred.rows, movementsOf, outUnits]

/-- **What a committed count wrote**: the ten-thousandths of what was counted, of the total it read and of
the variance at scale. -/
theorem committed_count (reach : Reachable reference config)
    (commits : config.commits = before ++ (pid, writes) :: after) (found : config.procs[pid]? = some proc)
    {input : RecordStockCountInput} (op : proc.call.operation = .recordStockCount input)
    (unsigned : isUnsignedQuantity input.countedQuantity = true)
    (denotes : Denotes input.countedQuantity units) :
    ∃ checked count seen,
      input.check = .ok checked ∧ checked.quantity = atScale (roundBinary64 (units / 10 ^ 4)) ∧
      countsOf writes = [count] ∧ seen ≤ before.length ∧
      ∀ derived, derived = roundBinary64 (onHandOf count (contents (before.take seen)) / 10 ^ 4) →
      count.countedQuantity.units = toFixedUnits (10 ^ 4) checked.quantity ∧
      count.derivedOnHandAtCount.units = toFixedUnits (10 ^ 4) derived ∧
      (movementsOf writes).map (fun movement => movement.quantity.units) =
        (if variance checked.quantity derived = 0 then [] else [varianceUnits checked.quantity derived]) ∧
      ∀ body, proc.result = some (.ok (.count body)) →
      Denotes body.variance (varianceUnits checked.quantity derived) := by
  obtain ⟨proc', body, found', gave, same, goes⟩ := reach.commit commits
  obtain rfl := mem_unique found found'
  have finishes := goes.finishes
  rw [inventory_program, op] at finishes
  obtain ⟨result, rfl, ends⟩ := returns_map finishes
  obtain ⟨checked, deed, sum, seen, auditId, eventIds, taken, row, early, sums, varies, corrects, wrote,
    answered, -⟩ :=
    recordStockCount_effect ends
  obtain ⟨value, read, scaled⟩ := input.check_quantity taken
  rw [(number_of_unsigned unsigned denotes).2] at read
  have gives := CountValues.row_ok row
  have tenant : proc.call.context.tenant = some deed.count.tenantId := by
    rw [proc.call.context_tenant, op, ← gives.tenant]
    rfl
  rw [tenant] at sums
  have countsWritten : countsOf writes = [deed.count] := by
    rw [same, wrote.written]
    unfold Counted.rows countsOf
    split <;> rfl
  refine ⟨checked, deed.count, seen, taken, by rw [scaled, ← Option.some.inj read], countsWritten, early,
    fun derived total => ?_⟩
  have onHand : sum.units = onHandOf deed.count (contents (before.take seen)) := sums
  have number : derivedOnHand sum.text = derived := by
    rw [derivedOnHand, number_text, getD_some, total, ← onHand]
  rw [number] at varies corrects
  have derivedCast := gives.derived
  rw [number] at derivedCast
  refine ⟨Numeric.ofUnits_ok ((ofText_toFixed4 _).symm.trans gives.counted),
    Numeric.ofUnits_ok ((ofText_toFixed4 _).symm.trans derivedCast), ?_, fun other returned' => ?_⟩
  · rw [same, wrote.written]
    cases correction : deed.correction with
    | none =>
      rw [if_pos (varies.1 correction)]
      simp [Counted.rows, correction, movementsOf]
    | some c =>
      have nonzero : variance checked.quantity derived ≠ 0 := fun zero => by
        rw [varies.2 zero] at correction
        cases correction
      have corrected := MovementValues.row_ok (corrects c correction)
      have units : c.movement.quantity.units = varianceUnits checked.quantity derived :=
        Numeric.ofUnits_ok ((ofText_toFixed4 _).symm.trans corrected.quantity)
      rw [if_neg nonzero, ← units]
      simp [Counted.rows, correction, movementsOf]
  · have answers : Body.count result = Body.count other := Except.ok.inj (mem_unique gave returned')
    rw [← Body.count.inj answers, answered, number]
    exact denotes_toFixed4 (variance checked.quantity derived)

/-! ### Below the bounds -/

/-- The first quantity that a transfer does not carry, in ten-thousandths. -/
def firstTransfer : ℕ := 2 ^ 38 * 10 ^ 4 + 4

/-- The first amount at which a count can miss the difference, in ten-thousandths. -/
def firstCount : ℕ := 2 ^ 50 + 7

theorem units_at_edge :
    ∀ step : Fin 4,
      mathRound (roundBinary64 (roundBinary64 (((2 ^ 38 * 10 ^ 4 + step.val : ℤ) : ℚ) / 10 ^ 4) * 10 ^ 4)) =
      2 ^ 38 * 10 ^ 4 + step.val := by
  decide +kernel

theorem atScale_below (nonneg : 0 ≤ units) (below : units < firstTransfer) :
    atScale (roundBinary64 (units / 10 ^ 4)) = roundBinary64 (units / 10 ^ 4) := by
  have scaled : mathRound (roundBinary64 (roundBinary64 (units / 10 ^ 4) * 10 ^ 4)) = units := by
    by_cases small : units < 2 ^ 38 * 10 ^ 4
    · refine units_of_number_below ?_
      rw [← Int.cast_abs, abs_of_nonneg nonneg]
      exact_mod_cast small
    · have edge := units_at_edge ⟨(units - 2 ^ 38 * 10 ^ 4).toNat, by unfold firstTransfer at below; omega⟩
      have same : (2 ^ 38 * 10 ^ 4 + ((units - 2 ^ 38 * 10 ^ 4).toNat : ℤ)) = units := by omega
      dsimp only at edge
      rw [same] at edge
      exact edge
  rw [atScale, scaled]

/-- **A transfer below the bound is exact.** -/
theorem exactTransfer_below (below : most < firstTransfer) : TransfersExact most := by
  intro reference config before after pid writes proc input units reach commits found op unsigned denotes bounded
  have nonneg := (number_of_unsigned unsigned denotes).1
  have small : units < firstTransfer := bounded.trans_lt (by exact_mod_cast below)
  obtain ⟨checked, taken, scaled, legs⟩ := committed_transfer reach commits found op unsigned denotes
  rw [atScale_below nonneg small] at scaled
  have printed : toFixedUnits (10 ^ 4) (roundBinary64 (units / 10 ^ 4)) = units := by
    refine toFixed_of_number_below ?_
    rw [← Int.cast_abs, abs_of_nonneg nonneg]
    have wide : units < 2 ^ 39 * 10 ^ 4 := small.trans (by decide)
    exact_mod_cast wide
  rw [scaled, printed] at legs
  exact ⟨⟨checked, taken, scaled⟩, legs⟩

theorem difference_at_edge :
    ∀ up down : Fin 13, 12 ≤ up.val + down.val →
      mathRound
      (roundBinary64
        (roundBinary64
          (roundBinary64 (((2 ^ 50 - 6 + up.val : ℤ) : ℚ) / 10 ^ 4) -
              roundBinary64 (((-(2 ^ 50 - 6 + down.val) : ℤ) : ℚ) / 10 ^ 4)) * 10 ^ 4)) =
      (2 ^ 50 - 6 + up.val) - -(2 ^ 50 - 6 + down.val) := by
  decide +kernel

/-- **The variance of amounts below the bound is the difference.** -/
theorem variance_below {counted derived : ℤ} (nonneg : 0 ≤ counted) (below : counted < firstCount)
    (bounded : |derived| < firstCount) :
    variance (roundBinary64 (counted / 10 ^ 4)) (roundBinary64 (derived / 10 ^ 4)) =
      roundBinary64 ((counted - derived : ℤ) / 10 ^ 4) := by
  have small : counted < 2 ^ 50 + 7 := below
  have smallDerived : |derived| < 2 ^ 50 + 7 := bounded
  obtain ⟨lower, upper⟩ := abs_lt.1 smallDerived
  have scaled : mathRound (roundBinary64 (roundBinary64
      (roundBinary64 (counted / 10 ^ 4) - roundBinary64 (derived / 10 ^ 4)) * 10 ^ 4)) = counted - derived := by
    by_cases inside : counted - derived < 2 ^ 51
    · have wide : (2 ^ 50 + 7 : ℤ) ≤ 2 ^ 37 * 10 ^ 4 := by decide
      refine units_of_difference_below ?_ ?_ ?_
      · rw [← Int.cast_abs, abs_of_nonneg nonneg]
        exact_mod_cast small.trans_le wide
      · rw [← Int.cast_abs]
        exact_mod_cast smallDerived.trans_le wide
      · rw [abs_lt]
        omega
    · have edge := difference_at_edge ⟨(counted - (2 ^ 50 - 6)).toNat, by omega⟩
        ⟨(-derived - (2 ^ 50 - 6)).toNat, by omega⟩
        (by dsimp only; omega)
      dsimp only at edge
      have up : (2 ^ 50 - 6 + ((counted - (2 ^ 50 - 6)).toNat : ℤ)) = counted := by omega
      have down : -(2 ^ 50 - 6 + ((-derived - (2 ^ 50 - 6)).toNat : ℤ)) = derived := by omega
      rw [up, down] at edge
      exact edge
  rw [variance, atScale, scaled]

/-- **A count is exact where neither it nor the total on hand reaches the bound.** -/
theorem exactCount_below (below : most < firstCount) : CountsExact most := by
  intro reference config before after pid writes proc input units reach commits found op unsigned denotes bounded
  have nonneg := (number_of_unsigned unsigned denotes).1
  have edge : (most : ℤ) < firstCount := by exact_mod_cast below
  obtain ⟨checked, count, seen, taken, scaled, written, early, wrote⟩ :=
    committed_count reach commits found op unsigned denotes
  refine ⟨count, seen, written, early, fun onHand => ?_⟩
  generalize onHandOf count (contents (before.take seen)) = derived at wrote onHand ⊢
  rw [atScale_below nonneg (bounded.trans_lt (edge.trans (by decide)))] at scaled
  obtain ⟨row, rowDerived, correction, reported⟩ := wrote _ rfl
  have difference := variance_below nonneg (bounded.trans_lt edge) (onHand.trans_lt edge)
  -- a number below the bound is printed with its ten-thousandths
  have printed {amount : ℤ} (small : |amount| ≤ 2 * most) :
      toFixedUnits (10 ^ 4) (roundBinary64 (amount / 10 ^ 4)) = amount := by
    refine toFixed_of_number_below ?_
    have double : (2 * firstCount : ℤ) ≤ 2 ^ 39 * 10 ^ 4 := by decide
    have wide : |amount| < 2 ^ 39 * 10 ^ 4 := by omega
    rw [← Int.cast_abs]
    exact_mod_cast wide
  have apart : |units - derived| ≤ 2 * most := by
    obtain ⟨lower, upper⟩ := abs_le.1 onHand
    rw [abs_le]
    omega
  have units' : varianceUnits checked.quantity (roundBinary64 (derived / 10 ^ 4)) = units - derived := by
    rw [varianceUnits, scaled, difference, printed apart]
  have counted : toFixedUnits (10 ^ 4) checked.quantity = units := by
    rw [scaled, printed (by rw [abs_of_nonneg nonneg]; omega)]
  rw [units'] at correction reported
  rw [printed (by omega)] at rowDerived
  refine ⟨⟨checked, taken, scaled, by rw [scaled, difference]⟩, ?_, ?_, reported⟩
  · rw [written, map_singleton, row, counted, rowDerived]
  · rw [correction]
    refine if_congr ?_ rfl rfl
    rw [scaled, difference]
    constructor
    · intro zero
      have none := printed apart
      rw [zero] at none
      have nothing : toFixedUnits (10 ^ 4) 0 = 0 := by norm_num [toFixedUnits]
      omega
    · rintro rfl
      rw [sub_self, Int.cast_zero, zero_div, roundBinary64_zero]

/-! ### At the bounds -/

def Operation.transferred : Operation → Option String
  | .createStockTransfer input => some input.quantity
  | _ => none

def Operation.counted : Operation → Option String
  | .recordStockCount input => some input.countedQuantity
  | _ => none

/-- A transfer of the first quantity that is not carried. -/
def edgeTransfer : List (Event Uuid PgError Call) :=
  transferEvents { sampleTransfer (sample 8).text (sample 9).text with quantity := "274877906944.0004" }

theorem edgeTransfer_run :
    ∃ config proc, run (inventory .sample) edgeTransfer = some config ∧ config.procs[0]? = some proc ∧
      proc.call.operation.transferred = some "274877906944.0004" ∧
      (config.commits.map fun commit => (commit.1, (movementsOf commit.2).map fun movement =>
          movement.quantity.units)) = [(0, [-2748779069440005, 2748779069440005])] := by
  have ran : (run (inventory .sample) edgeTransfer).bind (fun config =>
      config.procs[0]?.map fun proc => (proc.call.operation.transferred,
        config.commits.map fun commit =>
        (commit.1, (movementsOf commit.2).map fun movement => movement.quantity.units))) =
      some (some "274877906944.0004", [(0, [-2748779069440005, 2748779069440005])]) := by
    decide +kernel
  obtain ⟨config, ran, seen⟩ := bind_eq_some_iff.1 ran
  obtain ⟨proc, found, seen⟩ := map_eq_some_iff.1 seen
  obtain ⟨text, written⟩ := Prod.mk.inj seen
  exact ⟨config, proc, ran, found, text, written⟩

theorem not_exactTransfer (large : firstTransfer ≤ most) : ¬ TransfersExact most := by
  intro exact
  obtain ⟨config, proc, ran, found, text, written⟩ := edgeTransfer_run
  obtain ⟨⟨pid, writes⟩, commits, pair⟩ := List.map_eq_singleton_iff.1 written
  obtain ⟨rfl, moved⟩ := Prod.mk.inj pair
  unfold Operation.transferred at text
  split at text
  · rename_i input op
    obtain text := Option.some.inj text
    have denotes : Denotes input.quantity firstTransfer := by
      rw [text]
      decide +kernel
    have legs := (exact .sample config [] [] 0 writes proc input firstTransfer
      (run_reachable (inventory .sample) ran)
      commits found op (by rw [text]; decide +kernel) denotes (by exact_mod_cast large)).legs
    rw [moved] at legs
    exact absurd legs (by decide)
  · cases text

/-- An outbound movement of 112589990684.2622 pieces, and a count of 112589990684.2631. -/
def edgeCount : List (Event Uuid PgError Call) :=
  [.start (sampleMovement .outbound "-112589990684.2622" "each"), .draw 0 (.numbered 1), .draw 0 (.numbered 2),
    .ask 0,
    .ask 0, .ask 0, .draw 0 (.numbered 3), .ask 0, .ask 0, .stop 0 none,
    .start ⟨0, .recordStockCount { sampleCount with countedQuantity := "112589990684.2631" }⟩,
      .draw 1 (.numbered 4),
    .draw 1 (.numbered 5), .ask 1, .ask 1, .ask 1, .draw 1 (.numbered 6), .ask 1, .ask 1,
      .draw 1 (.numbered 7), .ask 1,
    .stop 1 none]

/-- What each commit moved, and what its counts find on hand after the first. -/
def countSteps (config : Config) : List (Nat × List ℤ × List ℤ) :=
  config.commits.map fun commit => (commit.1, (movementsOf commit.2).map fun movement => movement.quantity.units,
    (countsOf commit.2).map fun count => onHandOf count (contents (config.commits.take 1)))

theorem edgeCount_run :
    ∃ config proc, run (inventory .sample) edgeCount = some config ∧ config.procs[1]? = some proc ∧
      proc.call.operation.counted = some "112589990684.2631" ∧
      countSteps config = [(0, [-1125899906842622], []), (1, [2251799813685254], [-1125899906842622])] := by
  have ran : (run (inventory .sample) edgeCount).bind (fun config =>
      config.procs[1]?.map fun proc => (proc.call.operation.counted, countSteps config)) =
      some (some "112589990684.2631",
        [(0, [-1125899906842622], []), (1, [2251799813685254], [-1125899906842622])]) := by
    decide +kernel
  obtain ⟨config, ran, seen⟩ := bind_eq_some_iff.1 ran
  obtain ⟨proc, found, seen⟩ := map_eq_some_iff.1 seen
  obtain ⟨text, steps⟩ := Prod.mk.inj seen
  exact ⟨config, proc, ran, found, text, steps⟩

theorem not_exactCount (large : firstCount ≤ most) : ¬ CountsExact most := by
  intro exact
  obtain ⟨config, proc, ran, found, text, steps⟩ := edgeCount_run
  unfold countSteps at steps
  obtain ⟨moved, rest, commits, movedStep, last⟩ := List.map_eq_cons_iff.1 steps
  obtain ⟨⟨pid, writes⟩, rfl, countedStep⟩ := List.map_eq_singleton_iff.1 last
  simp only [Prod.mk.injEq] at countedStep
  obtain ⟨rfl, corrected, onHand⟩ := countedStep
  unfold Operation.counted at text
  split at text
  · rename_i input op
    obtain text := Option.some.inj text
    have denotes : Denotes input.countedQuantity firstCount := by
      rw [text]
      decide +kernel
    have bound : (firstCount : ℤ) ≤ most := by exact_mod_cast large
    obtain ⟨count, seen, written, early, exact⟩ := exact .sample config [moved] [] 1 writes proc input firstCount
      (run_reachable (inventory .sample) ran) commits found op (by rw [text]; decide +kernel) denotes bound
    rw [written, commits, map_singleton, List.cons.injEq] at onHand
    -- the count read the total before or after the movement
    have read : onHandOf count (contents ([moved].take seen)) = 0 ∨
        onHandOf count (contents ([moved].take seen)) = -1125899906842622 := by
      cases seen with
      | zero => exact .inl rfl
      | succ more =>
        rw [take_succ_cons, List.take_nil]
        exact .inr onHand.1
    unfold firstCount at bound
    rcases read with nothing | all
    · have correction := (exact (by rw [nothing, abs_zero]; omega)).correction
      rw [corrected, nothing] at correction
      exact absurd correction (by decide)
    · have correction := (exact (by rw [all, abs_neg, abs_of_nonneg (by decide)]; omega)).correction
      rw [corrected, all] at correction
      exact absurd correction (by decide)
  · cases text

/-- **Neither is every transfer exact, nor every count.** -/
theorem quantities_missed : ¬ ∀ most, TransfersExact most ∧ CountsExact most := by
  intro exact
  exact not_exactTransfer le_rfl (exact firstTransfer).1

/-- **How large quantities may be.** All transfers of up to `most` ten-thousandths are exact where `most` is
below 2748779069440004; all counts of amounts of up to `most`, on hand and counted, where it is below `2 ^
50 + 7`. -/
theorem quantities_exact_iff (most : ℕ) :
    (TransfersExact most ↔ most < 2748779069440004) ∧ (CountsExact most ↔ most < 2 ^ 50 + 7) := by
  constructor
  · refine ⟨fun exact => ?_, exactTransfer_below⟩
    by_contra large
    exact not_exactTransfer (not_lt.1 large) exact
  · refine ⟨fun exact => ?_, exactCount_below⟩
    by_contra large
    exact not_exactCount (not_lt.1 large) exact

end DataPulse.Inventory
