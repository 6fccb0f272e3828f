/-
**One state, read three times.**

Whether a posting can be made is decided by the consumer when it creates the row and by the console when it
repairs it, and once more, line by line, when the feed builds the work item. `eligibility_agrees` compares
them on one state:

* the two decisions are one: an active warehouse at the store, and a confirmed map under every line;
* `buildWorkItem` assembles the wire shape and does not look at the warehouses (`storeless_built`): it
  yields an item where the sale is visible, every line is mapped, and the event of a reversal is known;
* the item has one wire line for each line of the sale, with its map, quantity and amounts.
-/

import DataPulse.Erpnext.Acks
import DataPulse.Erpnext.Feed
import DataPulse.Lib.Solo

namespace DataPulse.Erpnext

open Lib Lib.Prog Platform
open Inventory (TenantContext)
open Sales (SaleLine)

section Agreement

variable (context : TenantContext) (writes : List Write)

/-- Every line of the sale has a confirmed map. -/
def Mapped (saleId : Uuid) : Prop :=
  ∀ line ∈ saleLines context writes saleId, (confirmedMap context writes line).isSome = true

/-- The sale can be posted from the store. -/
def Eligible (saleId storeId : Uuid) : Prop :=
  activeWarehouses context writes storeId ≠ [] ∧ Mapped context writes saleId

/-- The tenant sees the sale of the row and, of a reversal, its event. -/
def Known (row : PostingStatus) : Prop :=
  (∃ sale ∈ salesOf writes, sale.id = row.saleId ∧ some sale.tenantId = context.tenant) ∧
    (row.kind = .reversal → reversalKinds context writes row.sourceRefId ≠ [])

/-- The wire line carries the line, and the reference of its confirmed map. -/
structure Wires (line : SaleLine) (wire : WorkItemLine) : Prop where
  item : ∃ map ∈ confirmedMap context writes line, wire.erpnextItemRef = map.erpnextItemRef
  quantity : wire.quantity = line.quantity
  unitPrice : wire.unitPrice = line.unitPrice
  lineAmount : wire.lineAmount = line.lineAmount
  taxAmount : wire.taxAmount = line.taxAmount

/-- What one state makes of the row: the decision at creation, the one at repair, and the work item. -/
structure Agrees (users : Uuid → Bool) (row : PostingStatus) (verdict : Verdict) (resolvable : Bool)
    (built : Option PostingWorkItem) : Prop where
  resolveEligibility : (Erpnext.resolveEligibility row.saleId row.storeId).evaluate (exec users context) writes =
    some (verdict, writes)
  resolvePostingEligibility : (Erpnext.resolvePostingEligibility row.saleId row.storeId).evaluate
    (exec users context) writes = some (resolvable, writes)
  buildWorkItem : (Erpnext.buildWorkItem row).evaluate (exec users context) writes = some (built, writes)
  created : verdict = .pending ↔ Eligible context writes row.saleId row.storeId
  repaired : resolvable = true ↔ verdict = .pending
  offered : built.isSome = true ↔ Known context writes row ∧ Mapped context writes row.saleId
  wired : ∀ item ∈ built, ∃ lines, lines.Perm (saleLines context writes row.saleId) ∧
    List.Forall₂ (Wires context writes) lines item.sale.lines

end Agreement

variable {users : Uuid → Bool} {context : TenantContext} {writes : List Write} {row : PostingStatus}

section Decisions

variable {saleId storeId : Uuid}

theorem unmapped_iff :
    0 <
      ((saleLines context writes saleId).filter fun line => (confirmedMap context writes
          line).isNone).length ↔ ¬ Mapped context writes saleId := by
  rw [List.length_pos_iff, Ne, filter_eq_nil_iff, Mapped]
  simp only [isSome_iff_ne_none, isNone_iff_eq_none]

theorem resolveEligibility_evaluate :
    ∃ verdict, (resolveEligibility saleId storeId).evaluate (exec users context) writes =
      some (verdict, writes) ∧ (verdict = .pending ↔ Eligible context writes saleId storeId) := by
  by_cases none : (activeWarehouses context writes storeId).length = 0
  · refine ⟨.permanentlyRejected "unmapped_store", (evaluate_read rfl).trans ?_, nofun, fun eligible => ?_⟩
    · rw [if_pos none]
      rfl
    · exact absurd (length_eq_zero_iff.1 none) eligible.1
  · have some := fun empty => none (length_eq_zero_iff.2 empty)
    by_cases mapped : Mapped context writes saleId
    · refine ⟨.pending, (evaluate_read rfl).trans ?_, fun _ => ⟨some, mapped⟩, fun _ => rfl⟩
      rw [if_neg none]
      refine (evaluate_read rfl).trans ?_
      rw [if_neg fun unmapped => unmapped_iff.1 unmapped mapped]
      rfl
    · refine ⟨.permanentlyRejected "unmapped_item", (evaluate_read rfl).trans ?_, nofun, fun eligible => ?_⟩
      · rw [if_neg none]
        refine (evaluate_read rfl).trans ?_
        rw [if_pos (unmapped_iff.2 mapped)]
        rfl
      · exact absurd eligible.2 mapped

theorem resolvePostingEligibility_evaluate :
    ∃ resolvable, (resolvePostingEligibility saleId storeId).evaluate (exec users context) writes =
      some (resolvable, writes) ∧ (resolvable = true ↔ Eligible context writes saleId storeId) := by
  by_cases none : (activeWarehouses context writes storeId).length = 0
  · refine ⟨false, (evaluate_read rfl).trans ?_, nofun, fun eligible => ?_⟩
    · rw [if_pos none]
      rfl
    · exact absurd (length_eq_zero_iff.1 none) eligible.1
  · refine ⟨decide (((saleLines context writes saleId).filter fun line =>
      (confirmedMap context writes line).isNone).length = 0), (evaluate_read rfl).trans ?_, ?_⟩
    · rw [if_neg none]
      exact evaluate_read rfl
    · have some := fun empty => none (length_eq_zero_iff.2 empty)
      rw [decide_eq_true_iff, ← Nat.le_zero, ← Nat.not_lt, unmapped_iff, not_not, Eligible]
      exact ⟨fun mapped => ⟨some, mapped⟩, And.right⟩

end Decisions

/-! ### The work item -/

variable {lines : List SaleLine} {wires : List WorkItemLine}

theorem wires_of_mapM
    (mapped : (lines.map fun line => (line, (confirmedMap context writes line).map
          ItemMap.erpnextItemRef)).mapM wireLine = some wires) :
    List.Forall₂ (Wires context writes) lines wires := by
  induction lines generalizing wires with
  | nil =>
    cases mapped
    exact .nil
  | cons line rest ih =>
    rw [map_cons, mapM_cons] at mapped
    obtain ⟨wire, made, mapped⟩ := bind_eq_some_iff.1 mapped
    obtain ⟨others, later, mapped⟩ := bind_eq_some_iff.1 mapped
    cases mapped
    refine .cons ?_ (ih later)
    obtain ⟨ref, kept, rfl⟩ := map_eq_some_iff.1 made
    obtain ⟨map, found, rfl⟩ := map_eq_some_iff.1 (filter_eq_some_iff.1 kept).1
    exact ⟨⟨map, found, rfl⟩, rfl, rfl, rfl, rfl⟩

theorem classifyReversal_evaluate (sale : SaleFact) (lines : List WorkItemLine) :
    ∃ built, (classifyReversal row sale lines).evaluate (exec users context) writes = some (built, writes) ∧
      (built.isSome = true ↔ (row.kind = .reversal → reversalKinds context writes row.sourceRefId ≠ [])) ∧
      ∀ item ∈ built, item.sale.lines = lines := by
  unfold classifyReversal
  cases kind : row.kind with
  | salePost => exact ⟨_, rfl, ⟨fun _ => nofun, fun _ => rfl⟩, fun item built => by cases built; rfl⟩
  | reversal =>
    refine ⟨_, evaluate_read rfl, ?_, fun item built => ?_⟩
    · rw [isSome_map, List.isSome_head?]
      simp
    · obtain ⟨kind, -, rfl⟩ := map_eq_some_iff.1 built
      rfl

theorem mapped_of_wires (wired : List.Forall₂ (Wires context writes) lines wires) :
    ∀ line ∈ lines, (confirmedMap context writes line).isSome = true := by
  induction wired with
  | nil => nofun
  | cons head _ ih =>
    intro line member
    rcases mem_cons.1 member with rfl | member
    · obtain ⟨map, found, -⟩ := head.item
      exact isSome_iff_exists.2 ⟨map, found⟩
    · exact ih line member

theorem buildWorkItem_evaluate (checked : ∀ map ∈ itemMapsOf writes, map.erpnextItemRef ≠ "") :
    ∃ built, (buildWorkItem row).evaluate (exec users context) writes = some (built, writes) ∧
      (built.isSome = true ↔ Known context writes row ∧ Mapped context writes row.saleId) ∧
      ∀ item ∈ built, ∃ lines, lines.Perm (saleLines context writes row.saleId) ∧
      List.Forall₂ (Wires context writes) lines item.sale.lines := by
  have selected : exec users context writes (.selectSale row.saleId) = .ok ((salesOf writes).find? fun sale =>
    sale.id = row.saleId && some sale.tenantId = context.tenant, []) := rfl
  cases found : (salesOf writes).find? fun sale => sale.id = row.saleId && some sale.tenantId =
    context.tenant with
  | none =>
    rw [found] at selected
    refine ⟨none, (evaluate_read selected).trans rfl, ⟨nofun, ?_⟩, nofun⟩
    rintro ⟨⟨⟨sale, mem, id, tenant⟩, -⟩, -⟩
    simpa [id, tenant] using find?_eq_none.1 found sale mem
  | some sale =>
    rw [found] at selected
    have matching := find?_some found
    rw [and_eq_true, decide_eq_true_eq, decide_eq_true_eq] at matching
    have sorted := perm_insertionSort (fun first second : SaleLine => first.id.precedes second.id = true)
      (saleLines context writes row.saleId)
    cases mapped : List.mapM wireLine (List.map (fun line =>
        (line, (confirmedMap context writes line).map ItemMap.erpnextItemRef)) (List.insertionSort
          (fun first second => first.id.precedes second.id = true) (saleLines context writes row.saleId))) with
    | none =>
      obtain ⟨pair, mem, none⟩ := mapM_none mapped
      obtain ⟨line, inside, rfl⟩ := mem_map.1 mem
      refine ⟨Option.none, (evaluate_read selected).trans ((evaluate_read rfl).trans ?_),
        ⟨nofun, fun both => ?_⟩, nofun⟩
      · rw [mapped]
        rfl
      · obtain ⟨map, has⟩ := isSome_iff_exists.1 (both.2 line (sorted.mem_iff.1 inside))
        refine absurd (wireLine_none none) ?_
        rw [has]
        simpa using checked map (mem_of_find?_eq_some has)
    | some wires =>
      obtain ⟨built, assembled, offered, lines⟩ := @classifyReversal_evaluate users context writes row sale wires
      have wired := wires_of_mapM mapped
      refine ⟨built, (evaluate_read selected).trans ((evaluate_read rfl).trans ?_), ?_, fun item made =>
        ⟨_, sorted, lines item made ▸ wired⟩⟩
      · rw [mapped]
        exact assembled
      · rw [offered]
        exact ⟨fun event => ⟨⟨⟨sale, mem_of_find?_eq_some found, matching⟩, event⟩, fun line mem =>
          mapped_of_wires wired line (sorted.mem_iff.2 mem)⟩, fun both => both.1.2⟩

/-- **The two decisions agree on every state, and the work item is there where the sale and its event are
visible and every line is mapped**: so it is there for a known sale that can be posted, with one wire line
for each line. -/
theorem eligibility_agrees (users : Uuid → Bool) (row : PostingStatus)
    (checked : ∀ map ∈ itemMapsOf writes, map.erpnextItemRef ≠ "") :
    ∃ verdict resolvable built, Agrees context writes users row verdict resolvable built := by
  obtain ⟨verdict, creates, created⟩ := @resolveEligibility_evaluate users context writes row.saleId row.storeId
  obtain ⟨resolvable, repairs, repaired⟩ :=
    @resolvePostingEligibility_evaluate users context writes row.saleId row.storeId
  obtain ⟨built, builds, offered, wired⟩ := @buildWorkItem_evaluate users context writes row checked
  exact ⟨verdict, resolvable, built, creates, repairs, builds, created, repaired.trans created.symm, offered,
    wired⟩

section Samples

/-- The sale is mapped; its store has no warehouse. -/
def storelessWrites : List Write :=
  [.fact (.sale sampleSale), .fact (.line sampleLine), .fact (.itemMap (sampleMap none))]

def sampleContext : TenantContext := ⟨some (sample 0), 3⟩

theorem eligibility_agrees_sample :
    ∃ verdict resolvable built,
      Agrees sampleContext (storelessWrites ++ [.fact (.warehouseMap sampleWarehouse)]) (fun _ => true)
      (samplePosting 0) verdict resolvable built :=
  eligibility_agrees (fun _ => true) (samplePosting 0) (by decide +kernel)

/-- **A sale of a store without a warehouse is neither pending nor repaired, and has a work item.** -/
theorem storeless_built :
    (resolveEligibility (samplePosting 0).saleId (samplePosting 0).storeId).evaluate
      (exec (fun _ => true) sampleContext) storelessWrites =
      some (.permanentlyRejected "unmapped_store", storelessWrites) ∧
      (resolvePostingEligibility (samplePosting 0).saleId (samplePosting 0).storeId).evaluate
        (exec (fun _ => true) sampleContext) storelessWrites = some (false, storelessWrites) ∧
      ((buildWorkItem (samplePosting 0)).evaluate (exec (fun _ => true) sampleContext) storelessWrites).any
      (fun ended => ended.1.isSome) = true :=
  ⟨by decide +kernel, by decide +kernel, by decide +kernel⟩

end Samples

end DataPulse.Erpnext
