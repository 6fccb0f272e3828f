/-
**What a returned body stands for.**

A method that returns a body has committed exactly its deed, or, on a replay, nothing, where the deed is
in the ledger already; a method that throws has committed nothing. The one exception is the on-hand
probe: its failure is caught, but the server has aborted the transaction by then, so that the COMMIT
rolls everything back and the caller holds a body of a movement that does not exist.

* `kept_iff`: a returned body is kept exactly when the probe, if it was made, was answered;
* `lost_movement`: a body whose movement does not exist.
-/

import DataPulse.Inventory.Units

namespace DataPulse.Inventory

open Lib Lib.Interleave Platform

/-- What the body of a method says is committed, and by this client, or before it on a replay. -/
def Kept (config : Config) (pid : Nat) : Body → Prop
  | .movement body =>
    (∃ deed : Moved, toMovementBody deed.movement = body ∧ (pid, deed.rows) ∈ config.commits) ∨
      ∃ existing ∈ movementsOf config.ledger, toMovementBody existing = body ∧
        namings existing config.ledger = 1 ∧ coverings existing config.ledger = 1 ∧
        (pid, []) ∈ config.commits
  | .transfer body => ∃ deed : Transferred, (pid, deed.rows) ∈ config.commits ∧
      body = ⟨deed.group, toMovementBody deed.outbound, toMovementBody deed.inbound⟩
  | .count body => ∃ deed : Counted, (pid, deed.rows) ∈ config.commits ∧
      body.stockCountId = deed.count.id ∧
      body.correctionMovement = deed.correction.map fun c => toMovementBody c.movement
  | .backfill _ => pid ∈ config.commits.map Prod.fst

section Runs

variable {reference : Reference} {config : Config} {proc : Proc} {pid : Nat}
variable {body : Body}

theorem Kept.booked (kept : Kept config pid body) : pid ∈ config.commits.map Prod.fst := by
  cases body with
  | movement body =>
    rcases kept with ⟨deed, -, commit⟩ | ⟨old, -, -, -, -, commit⟩
    · exact mem_map_of_mem (f := Prod.fst) commit
    · exact mem_map_of_mem (f := Prod.fst) commit
  | transfer body | count body =>
    obtain ⟨deed, commit, -⟩ := kept
    exact mem_map_of_mem (f := Prod.fst) commit
  | backfill result => exact kept

variable (reach : Reachable reference config)
include reach

theorem Reachable.booked_sound (found : config.procs[pid]? = some proc)
    (booked : pid ∈ config.commits.map Prod.fst) : aborted proc.log = false := by
  obtain ⟨⟨pid', writes⟩, commit, rfl⟩ := mem_map.1 booked
  obtain ⟨proc', value, found', -, sound, -⟩ := reach.booked.committed pid' writes commit
  obtain rfl := mem_unique found found'
  exact sound

theorem Reachable.kept_rows (found : config.procs[pid]? = some proc)
    (gave : proc.result = some (.ok body)) (sound : aborted proc.log = false) {rows : List Row}
    {ids : List Uuid} (wrote : Wrote proc.log rows ids) : (pid, rows) ∈ config.commits := by
  rw [← wrote.written]
  exact reach.booked.returned pid proc body found gave sound

theorem Reachable.backfill_kept (found : config.procs[pid]? = some proc)
    (gave : proc.result = some (.ok body)) {kind : BackfillKind} {input : BackfillInput}
    {result : StockMovementBody}
    (ends : Finishes (inventory reference) config.commits proc.call [] (kind.backfill input) proc.log
        (.ok result)) (answered : ProbesAnswered proc.log) : Kept config pid (.movement result) := by
  obtain ⟨checked, -, ⟨deed, ids, -, wrote, rfl, probed⟩ | ⟨old, ids, wrote, mem, -, rfl,
    sound⟩⟩ := BackfillKind.backfill_effect ends
  · exact .inl ⟨deed, rfl, reach.kept_rows found gave (probed answered) wrote⟩
  · obtain ⟨named, covered⟩ := reach.movement_once mem
    exact .inr ⟨old, mem, rfl, named, covered, reach.kept_rows found gave sound wrote⟩

omit reach

/-- **A returned body is kept exactly when the on-hand probe did not fail; a throw leaves nothing.** -/
theorem kept_iff (reachable : Reachable reference config) (found : config.procs[pid]? = some proc)
    (isMethod : proc.call.operation.isMethod = true) :
    (∀ body, proc.result = some (.ok body) → (Kept config pid body ↔ ProbesAnswered proc.log)) ∧
      (∀ error, proc.result = some (.error error) → pid ∉ config.commits.map Prod.fst) := by
  refine ⟨fun body gave => ⟨fun kept => ?_, fun answered => ?_⟩,
    fun error threw => reachable.threw_unbooked found threw⟩
  · exact probesAnswered_of_sound (reachable.booked_sound found kept.booked)
  have goes := reachable.finishes (mem_of_getElem? found) gave
  cases op : proc.call.operation with
  | createStockMovement input =>
    rw [inventory_program, op] at goes
    obtain ⟨result, rfl, ends⟩ := returns_map goes
    obtain ⟨checked, deed, ids, -, -, wrote, rfl, probed⟩ := createStockMovement_effect ends
    exact .inl ⟨deed, rfl, reachable.kept_rows found gave (probed answered) wrote⟩
  | createStockTransfer input =>
    rw [inventory_program, op] at goes
    obtain ⟨result, rfl, ends⟩ := returns_map goes
    obtain ⟨checked, deed, ids, -, -, -, -, wrote, rfl, probed⟩ := createStockTransfer_effect ends
    exact ⟨deed, reachable.kept_rows found gave (probed answered) wrote, rfl⟩
  | recordStockCount input =>
    rw [inventory_program, op] at goes
    obtain ⟨result, rfl, ends⟩ := returns_map goes
    obtain ⟨checked, deed, sum, seen, auditId, eventIds, -, -, -, -, -, -, wrote, rfl, sound⟩ :=
      recordStockCount_effect ends
    exact ⟨deed, reachable.kept_rows found gave sound wrote, rfl, rfl⟩
  | backfillSaleLinkedOutbound input | backfillRestockInbound input =>
    rw [inventory_program, op] at goes
    obtain ⟨result, rfl, ends⟩ := returns_map goes
    exact reachable.backfill_kept found gave ends answered
  | process job =>
    rw [op] at isMethod
    cases isMethod

end Runs

/-! ### A lost movement -/

/-- Two inbound movements whose sum does not fit the column, and an outbound one after them. -/
def overflowEvents : List (Event Uuid PgError Call) :=
  (.start (sampleMovement .inbound "999999999999999" "each") :: inboundSteps 0 1) ++
  (.start (sampleMovement .inbound "999999999999999" "each") :: inboundSteps 1 4) |>.append
  [.start (sampleMovement .outbound "-1" "each"), .draw 2 (.numbered 7), .draw 2 (.numbered 8),
    .ask 2, .ask 2, .ask 2, .draw 2 (.numbered 9), .ask 2, .ask 2, .stop 2 none]

def returnedBody (proc : Proc) : Bool :=
  match proc.result with
  | some (.ok _) => true
  | _ => false

theorem overflowEvents_run :
    ∃ config proc body, run (inventory .sample) overflowEvents = some config ∧ config.procs[2]? = some proc ∧
      proc.result = some (.ok body) ∧ proc.call.operation.isMethod = true ∧
      config.commits.map Prod.fst = [0, 1] := by
  have ran : (run (inventory .sample) overflowEvents).bind (fun config =>
      config.procs[2]?.map fun proc => (returnedBody proc, proc.call.operation.isMethod,
        config.commits.map Prod.fst)) = some (true, true, [0, 1]) := by
    decide +kernel
  obtain ⟨config, ran, seen⟩ := bind_eq_some_iff.1 ran
  obtain ⟨proc, found, seen⟩ := map_eq_some_iff.1 seen
  simp only [Prod.mk.injEq] at seen
  obtain ⟨gave, rest⟩ := seen
  unfold returnedBody at gave
  split at gave
  · exact ⟨config, proc, _, ran, found, ‹_›, rest⟩
  · cases gave

/-- **The caller is told of an outbound movement that does not exist.** -/
theorem lost_movement :
    ∃ config proc body, run (inventory .sample) overflowEvents = some config ∧ config.procs[2]? = some proc ∧
      proc.result = some (.ok body) ∧ ¬ Kept config 2 body := by
  obtain ⟨config, proc, body, ran, found, gave, -, commits⟩ := overflowEvents_run
  refine ⟨config, proc, body, ran, found, gave, fun kept => ?_⟩
  have booked := kept.booked
  rw [commits] at booked
  exact absurd booked (by decide)

theorem kept_iff_overflow :
    ∃ config proc body, run (inventory .sample) overflowEvents = some config ∧ config.procs[2]? = some proc ∧
      proc.result = some (.ok body) ∧ (Kept config 2 body ↔ ProbesAnswered proc.log) := by
  obtain ⟨config, proc, body, ran, found, gave, isMethod, -⟩ := overflowEvents_run
  refine ⟨config, proc, body, ran, found, gave, ?_⟩
  exact (kept_iff (run_reachable (inventory .sample) ran) found isMethod).1 body gave

end DataPulse.Inventory
