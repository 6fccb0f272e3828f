/-
**The legs of transfers.**

A transfer is a group of two legs with opposite quantities of one product in one unit. They stand in
two stores when the two texts of the request denote different stores; the service compares the texts
themselves, and the same identifier in another letter case passes.

* `transfers_balanced`: the groups of a run whose transfers name different stores;
* `transfer_within_store`: a transfer from a store to itself.
-/

import DataPulse.Inventory.Trail

namespace DataPulse.Inventory

open Lib Lib.Interleave Platform

variable {group : Uuid}
variable {deeds : List Deed}

def legsOf (group : Uuid) (rows : List Row) : List Movement :=
  (movementsOf rows).filter fun movement => movement.transferGroupId = some group

/-- What a tenant has of a product, in ten-thousandths. -/
def tenantTotal (tenant product : Uuid) (rows : List Row) : Int :=
  total ((movementsOf rows).filter fun movement =>
    movement.tenantId = tenant && movement.tenantProductRef = some product)

/-- Exactly two legs, of one product in one unit, with opposite quantities, in two stores. -/
structure TwoLegs (group : Uuid) (rows : List Row) : Prop where
  legs : ∃ outbound inbound, legsOf group rows = [outbound, inbound] ∧
    outbound.storeId ≠ inbound.storeId ∧
    inbound.quantity = -outbound.quantity ∧
    inbound.tenantProductRef = outbound.tenantProductRef ∧
    inbound.stockingUnit = outbound.stockingUnit

/-- The two texts of a transfer denote different stores. -/
def CreateStockTransferInput.DifferentStores (input : CreateStockTransferInput) : Prop :=
  ∀ store, Uuid.ofText input.sourceStoreId = some store →
    Uuid.ofText input.destinationStoreId ≠ some store

theorem legsOf_append (group : Uuid) (first second : List Row) :
    legsOf group (first ++ second) = legsOf group first ++ legsOf group second := by
  rw [legsOf, movementsOf_append, filter_append]
  rfl

theorem total_append (first second : List Movement) : total (first ++ second) = total first + total second := by
  rw [total, map_append, sum_append]
  rfl

theorem tenantTotal_append (tenant product : Uuid) (first second : List Row) :
    tenantTotal tenant product (first ++ second) =
      tenantTotal tenant product first + tenantTotal tenant product second := by
  rw [tenantTotal, movementsOf_append, filter_append, total_append]
  rfl

theorem mem_refs_of_leg {movement : Movement} {rows : List Row} (leg : movement ∈ legsOf group rows) :
    group ∈ movement.refs := by
  have grouped := of_decide_eq_true (mem_filter.1 leg).2
  simp [Movement.refs, grouped]

theorem Deed.no_legs {deed : Deed} (apart : group ∉ deed.keys) : legsOf group deed.rows = [] := by
  refine eq_nil_iff_forall_not_mem.2 fun movement leg => ?_
  exact apart (Deed.refs_keys (mem_filter.1 leg).1 group (mem_refs_of_leg leg))

theorem no_legs (apart : group ∉ deeds.flatMap Deed.keys) : legsOf group (deeds.flatMap Deed.rows) = [] := by
  induction deeds with
  | nil => rfl
  | cons deed rest ih =>
    rw [flatMap_cons, mem_append, not_or] at apart
    rw [flatMap_cons, legsOf_append, Deed.no_legs apart.1, ih apart.2]
    rfl

/-- **The legs of a group are the legs of one transfer.** -/
theorem legs_of_transfer (once : (deeds.flatMap Deed.keys).Nodup)
    (grouped : legsOf group (deeds.flatMap Deed.rows) ≠ []) :
    ∃ transfer : Transferred, .transferred transfer ∈ deeds ∧
      legsOf group (deeds.flatMap Deed.rows) = [transfer.outbound, transfer.inbound] := by
  induction deeds with
  | nil => exact absurd rfl grouped
  | cons deed rest ih =>
    rw [flatMap_cons] at once grouped ⊢
    obtain ⟨-, restOnce, apart⟩ := List.nodup_append'.1 once
    rw [legsOf_append] at grouped ⊢
    by_cases own : legsOf group deed.rows = []
    · rw [own, nil_append] at grouped ⊢
      obtain ⟨transfer, mem, legs⟩ := ih restOnce grouped
      exact ⟨transfer, mem_cons_of_mem _ mem, legs⟩
    · obtain ⟨movement, leg⟩ := exists_mem_of_ne_nil _ own
      have key := Deed.refs_keys (mem_filter.1 leg).1 group (mem_refs_of_leg leg)
      rw [no_legs fun inRest => apart key inRest, append_nil]
      cases deed with
      | moved deed =>
        simp [legsOf, Deed.rows, Moved.rows, movementsOf, deed.alone] at own
      | counted deed =>
        cases correction : deed.correction with
        | none => simp [legsOf, Deed.rows, Counted.rows, correction, movementsOf] at own
        | some c =>
          simp [legsOf, Deed.rows, Counted.rows, correction, movementsOf, c.ungrouped] at own
      | transferred deed =>
        refine ⟨deed, mem_cons_self, ?_⟩
        by_cases same : deed.group = group
        · simp [legsOf, Deed.rows, Transferred.rows, movementsOf, deed.grouped, same]
        · simp [legsOf, Deed.rows, Transferred.rows, movementsOf, deed.grouped, same] at own

variable {reference : Reference} {config : Config}

/-- **A transfer leaves the total of every product as it was.** -/
theorem Reachable.transfer_total (reach : Reachable reference config) {before after : List (Nat × List Row)}
    {pid : Nat} {writes : List Row} {proc : Proc} {input : CreateStockTransferInput}
    (commits : config.commits = before ++ (pid, writes) :: after) (found : config.procs[pid]? = some proc)
    (op : proc.call.operation = .createStockTransfer input) (tenant product : Uuid) :
    tenantTotal tenant product (contents before ++ writes) =
      tenantTotal tenant product (contents before) := by
  obtain ⟨proc', body, found', -, same, ends⟩ := reach.commit commits
  obtain rfl := mem_unique found found'
  have goes := ends.finishes
  rw [inventory_program, op] at goes
  obtain ⟨result, -, goes⟩ := returns_map goes
  obtain ⟨checked, deed, ids, -, -, -, -, wrote, -⟩ := createStockTransfer_effect goes
  have none : tenantTotal tenant product writes = 0 := by
    rw [same, wrote.written]
    by_cases counted : deed.outbound.tenantId = tenant ∧ deed.outbound.tenantProductRef = some product
    · simp [tenantTotal, Transferred.rows, movementsOf, deed.sameTenant, deed.sameProduct,
        deed.opposite, counted, total]
    · simp [tenantTotal, Transferred.rows, movementsOf, deed.sameTenant, deed.sameProduct, counted, total]
  rw [tenantTotal_append, none, add_zero]

/-- **Where transfers name different stores, each group is two opposite legs in two stores.** -/
theorem transfers_balanced (reachable : Reachable reference config)
    (apart : ∀ proc ∈ config.procs, ∀ input, proc.call.operation = .createStockTransfer input →
      input.DifferentStores) :
    (∀ group, legsOf group config.ledger ≠ [] → TwoLegs group config.ledger) ∧
      (∀ before pid writes after proc input, config.commits = before ++ (pid, writes) :: after →
          config.procs[pid]? = some proc → proc.call.operation = .createStockTransfer input →
          ∀ tenant product, tenantTotal tenant product (contents before ++ writes) =
          tenantTotal tenant product (contents before)) ∧
      (∀ config', Later (inventory reference) config config' →
        ∃ more, config'.ledger = config.ledger ++ more) := by
  refine ⟨fun group grouped => ?_, ?_, fun config' later => ledger_grows later⟩
  · obtain ⟨deeds, ⟨rows, once⟩, -, origin⟩ := reachable.deeds
    rw [Config.ledger, rows] at grouped ⊢
    obtain ⟨deed, mem, legs⟩ := legs_of_transfer once grouped
    obtain ⟨proc, inProcs, input, op, source, destination⟩ := origin _ mem
    refine ⟨deed.outbound, deed.inbound, legs, fun same => ?_, deed.opposite, deed.sameProduct, deed.sameUnit⟩
    rw [← same] at destination
    exact apart proc inProcs input op _ source destination
  · intro before pid writes after proc input commits found op
    exact reachable.transfer_total commits found op

/-! ### Sample transfers -/

def sampleTransfer (sourceStoreId destinationStoreId : String) : CreateStockTransferDto where
  sourceStoreId := sourceStoreId
  destinationStoreId := destinationStoreId
  tenantProductRef := (sample 5).text
  quantity := "2"
  stockingUnit := "each"

def sampleContext : ResolvedContext := ⟨(sample 7).text, (sample 6).text, none⟩

/-- The steps of a transfer the route accepts, undisturbed. -/
def transferEvents (body : CreateStockTransferDto) : List (Event Uuid PgError Call) :=
  match postTransfer sampleContext body with
  | .ok input => [.start ⟨0, .createStockTransfer input⟩, .draw 0 (.numbered 1),
      .draw 0 (.numbered 2), .draw 0 (.numbered 3), .draw 0 (.numbered 4), .ask 0, .ask 0, .ask 0,
      .ask 0, .ask 0, .ask 0, .draw 0 (.numbered 5), .ask 0, .ask 0, .stop 0 none]
  | .error _ => []

def lowerStore : String := "aaaaaaaa-0000-4000-8000-000000000001"

def upperStore : String := "AAAAAAAA-0000-4000-8000-000000000001"

def legTexts (config : Config) : List (String × Int) :=
  (legsOf (.numbered 1) config.ledger).map fun leg => (leg.storeId.text, leg.quantity.units)

/-- **A store transfers to itself**, under its own identifier in another letter case. -/
theorem transfer_within_store :
    (postTransfer sampleContext (sampleTransfer lowerStore upperStore)).isOk = true ∧
      ∃ config, run (inventory .sample) (transferEvents (sampleTransfer lowerStore upperStore)) =
      some config ∧ legsOf (.numbered 1) config.ledger ≠ [] ∧ ¬ TwoLegs (.numbered 1) config.ledger := by
  refine ⟨by decide +kernel, ?_⟩
  have ran : (run (inventory .sample) (transferEvents (sampleTransfer lowerStore upperStore))).map
      legTexts = some [(lowerStore, -20000), (lowerStore, 20000)] := by
    decide +kernel
  obtain ⟨config, ran, texts⟩ := map_eq_some_iff.1 ran
  refine ⟨config, ran, fun empty => ?_, fun balanced => ?_⟩
  · simp [legTexts, empty] at texts
  · obtain ⟨outbound, inbound, legs, unlike, -⟩ := balanced
    simp only [legTexts, legs, map_cons, map_nil, List.cons.injEq, Prod.mk.injEq]
      at texts
    exact unlike (Uuid.ext (texts.1.1.trans texts.2.1.1.symm))

def Operation.stores : Operation → Option (String × String)
  | .createStockTransfer input => some (input.sourceStoreId, input.destinationStoreId)
  | _ => none

theorem transfers_balanced_sample :
    ∃ config, run (inventory .sample) (transferEvents (sampleTransfer lowerStore (sample 9).text)) =
      some config ∧ legsOf (.numbered 1) config.ledger ≠ [] ∧ TwoLegs (.numbered 1) config.ledger := by
  have ran : (run (inventory .sample) (transferEvents (sampleTransfer lowerStore (sample 9).text))).map (fun
      config => (legTexts config, config.procs.map fun proc => proc.call.operation.stores)) = some ([(lowerStore,
      -20000), ((sample 9).text, 20000)], [some (lowerStore, (sample 9).text)]) := by
    decide +kernel
  obtain ⟨config, ran, seen⟩ := map_eq_some_iff.1 ran
  obtain ⟨texts, calls⟩ := Prod.mk.inj seen
  have grouped : legsOf (.numbered 1) config.ledger ≠ [] := fun empty => by
    simp [legTexts, empty] at texts
  refine ⟨config, ran, grouped, ?_⟩
  refine (transfers_balanced (run_reachable (inventory .sample) ran) ?_).1 _ grouped
  intro proc mem input op store source destination
  have named : proc.call.operation.stores = some (lowerStore, (sample 9).text) := by
    have inList := mem_map_of_mem (f := fun proc : Proc => proc.call.operation.stores) mem
    rw [calls] at inList
    exact mem_singleton.1 inList
  rw [op] at named
  obtain ⟨sameSource, sameDestination⟩ := Prod.mk.inj (Option.some.inj named)
  rw [sameSource] at source
  rw [sameDestination, ← source] at destination
  exact absurd destination (by decide +kernel)

end DataPulse.Inventory
