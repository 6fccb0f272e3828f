/-
**What a product reconciliation run stores.**

Over every history of runs and deliveries, of changes of the products and the mappings, and of repairs:

* `run_reconciles`: a delivery completes a run with such results, or leaves the tables as they are;
* `unmapped_on_partial`: a mapping whose item is not on a partial page is reported as unmapped.
-/

import DataPulse.Lib.Rows
import DataPulse.ProductRuns.Processor

namespace DataPulse.ProductRuns

open Lib Platform
open Inventory (require)
open ItemMaps (Mapping ResultState)
open Stock (getEntry setEntry)

/-! ### The items of a view -/

section Items

variable {items : List ErpnextItemViewEntry}

/-- **The map of the items has every ref of the view once.** -/
theorem erpnextItems_keys (items : List ErpnextItemViewEntry) :
    ((erpnextItems items).map Prod.fst).Nodup ∧
      ∀ ref, ref ∈ (erpnextItems items).map Prod.fst ↔ ∃ item ∈ items, item.erpnextItemRef = ref := by
  unfold erpnextItems
  induction items using List.reverseRecOn with
  | nil => exact ⟨nodup_nil, fun ref => by simp⟩
  | append_singleton items item ih =>
    obtain ⟨once, known⟩ := ih
    rw [foldl_append, foldl_cons, foldl_nil, Stock.keys_setEntry]
    split_ifs with there
    · refine ⟨once, fun ref => ?_⟩
      rw [known]
      constructor
      · rintro ⟨other, mem, same⟩
        exact ⟨other, mem_append_left _ mem, same⟩
      · rintro ⟨other, mem, rfl⟩
        rcases mem_append.1 mem with old | new
        · exact ⟨other, old, rfl⟩
        · rw [mem_singleton.1 new]
          exact (known _).1 there
    · refine ⟨nodup_append.2 ⟨once, nodup_singleton _, fun first old second new => ?_⟩, fun ref => ?_⟩
      · rw [mem_singleton.1 new]
        exact fun same => there (same ▸ old)
      · rw [mem_append, mem_singleton, known]
        constructor
        · rintro (⟨other, mem, same⟩ | rfl)
          · exact ⟨other, mem_append_left _ mem, same⟩
          · exact ⟨item, mem_append_right _ mem_cons_self, rfl⟩
        · rintro ⟨other, mem, rfl⟩
          rcases mem_append.1 mem with old | new
          · exact .inl ⟨other, old, rfl⟩
          · exact .inr (by rw [mem_singleton.1 new])

theorem isReported_iff {row : Mapping} :
    isReported (erpnextItems items) row = true ↔
      ∃ item ∈ items, item.erpnextItemRef = row.erpnextItemRef := by
  rw [isReported, Stock.getEntry_isSome, (erpnextItems_keys items).2]

theorem mem_matchedRefs {confirmed : List Mapping} {ref : String}
    (there : ∃ item ∈ items, item.erpnextItemRef = ref) :
    ref ∈ matchedRefs (erpnextItems items) confirmed ↔ ∃ row ∈ confirmed, row.erpnextItemRef = ref := by
  rw [matchedRefs, mem_map]
  constructor
  · rintro ⟨row, mem, same⟩
    exact ⟨row, mem_of_mem_filter mem, same⟩
  · rintro ⟨row, mem, rfl⟩
    exact ⟨row, mem_filter.2 ⟨mem, isReported_iff.2 there⟩, rfl⟩

end Items

/-! ### The products -/

/-- **The class of an active product**, by its mappings and the view. -/
def productClass (view : ErpnextItemView) (catalogue : Catalogue) (tenantId product : Uuid) :
    ProductMismatchClass :=
  match (catalogue.confirmed tenantId).find? fun row => row.tenantProductId = product with
  | some row => (confirmedLine (erpnextItems view.items) row).mismatchClass
  | none =>
    if catalogue.mappings.any fun row => row.tenantProductId = product && row.tenantId = tenantId then
      .suggestionUnconfirmed
    else .unmappedDp2Product

variable {catalogue : Catalogue} {tenantId : Uuid} {view : ErpnextItemView} {tables : Tables}
  {input : ProcessInput} {draw : Nat → Uuid} {now : Int}

@[simp] theorem confirmedLine_product (items : List (String × ErpnextItemViewEntry)) (row : Mapping) :
    (confirmedLine items row).tenantProductId = some row.tenantProductId := by
  unfold confirmedLine
  split
  · rfl
  · split <;> rfl

theorem confirmedLine_class (items : List (String × ErpnextItemViewEntry)) (row : Mapping) :
    (confirmedLine items row).mismatchClass ≠ .unmappedErpnextItem := by
  unfold confirmedLine
  split
  · exact nofun
  · split <;> exact nofun

theorem unmappedLine_class (row : UnmappedProductRow) :
    (unmappedLine row).mismatchClass = .suggestionUnconfirmed ∨
      (unmappedLine row).mismatchClass = .unmappedDp2Product := by
  unfold unmappedLine
  cases row.hasInertMapping
  · exact .inr rfl
  · exact .inl rfl

theorem confirmed_once (catalogue : Catalogue) (tenantId product : Uuid) :
    ((catalogue.confirmed tenantId).filter fun row => row.tenantProductId = product).length ≤ 1 := by
  rw [Catalogue.confirmed, filter_filter]
  refine filter_length_le_one (catalogue.oneActive.imp fun {first second} apart both => ?_)
  simp only [Mapping.isConfirmed, and_eq_true, decide_eq_true_eq] at both
  obtain ⟨⟨product₁, ⟨-, active₁⟩, tenant₁⟩, product₂, ⟨-, active₂⟩, tenant₂⟩ := both
  simp [active₁, active₂, Mapping.sameProduct, tenant₁, tenant₂, product₁, product₂] at apart

theorem products_filter {product : TenantProduct} (mem : product ∈ catalogue.products) :
    catalogue.products.filter (fun other => other.id = product.id) = [product] := by
  have nodup : (catalogue.products.filter fun other => decide (other.id = product.id)).Nodup :=
    (List.Nodup.of_map _ catalogue.keyed).filter _
  refine List.perm_singleton.1 ((List.perm_ext_iff_of_nodup nodup (nodup_singleton _)).2 fun other => ?_)
  rw [mem_filter, mem_singleton, decide_eq_true_eq]
  constructor
  · rintro ⟨inside, same⟩
    exact inj_on_of_nodup_map catalogue.keyed inside mem same
  · rintro rfl
    exact ⟨mem, rfl⟩

/-! ### The lines of a run -/

/-- **What the lines of a run say of the products and of the items.** -/
structure Reconciled (view : ErpnextItemView) (catalogue : Catalogue) (tenantId : Uuid) (lines : List Line) :
    Prop where
  products : view.status ≠ .unavailable → ∀ product ∈ catalogue.products, product.tenantId = tenantId →
    product.retiredAt = none → (lines.filter fun line => line.tenantProductId = some product.id).map
      Line.mismatchClass = [productClass view catalogue tenantId product.id]
  items : view.status ≠ .unavailable → ∀ ref, (∃ item ∈ view.items, item.erpnextItemRef = ref) →
    (lines.filter fun line => line.mismatchClass = .unmappedErpnextItem &&
      line.erpnextItemRef = some ref).length =
        if ∃ row ∈ catalogue.confirmed tenantId, row.erpnextItemRef = ref then 0 else 1
  onlyItems : ∀ line ∈ lines, line.mismatchClass = .unmappedErpnextItem →
    ∃ item ∈ view.items, line.erpnextItemRef = some item.erpnextItemRef
  blind : view.status = .unavailable → ∀ line ∈ lines, (line.mismatchClass = .suggestionUnconfirmed ∨
    line.mismatchClass = .unmappedDp2Product) ∧ line.erpnextItemRef = none ∧
      ∀ row ∈ catalogue.confirmed tenantId, line.tenantProductId ≠ some row.tenantProductId

variable (available : view.status ≠ .unavailable)
include available

theorem lines_of_product (product : Uuid) :
    (comparedLines view catalogue tenantId).filter (fun line => line.tenantProductId = some product) =
      ((catalogue.confirmed tenantId).filter fun row => row.tenantProductId = product).map
      (confirmedLine (erpnextItems view.items)) ++
      ((catalogue.unmapped tenantId).filter fun row => row.tenantProductId = product).map unmappedLine := by
  have items : ∀ entries : List (String × ErpnextItemViewEntry),
      (entries.map itemLine).filter (fun line => line.tenantProductId = some product) = [] := by
    intro entries
    refine filter_eq_nil_iff.2 fun line mem => ?_
    obtain ⟨entry, -, rfl⟩ := mem_map.1 mem
    simp [itemLine]
  rw [comparedLines, if_pos available, filter_append, filter_append, items, append_nil, filter_map, filter_map]
  refine congrArg₂ (· ++ ·) (congrArg _ (filter_congr fun row _ => ?_))
    (congrArg _ (filter_congr fun row _ => ?_))
  · simp
  · simp [unmappedLine]

/-- **An active product has one line, of its class.** -/
theorem product_line {product : TenantProduct}
    (mem : product ∈ catalogue.products) (tenant : product.tenantId = tenantId)
    (active : product.retiredAt = none) :
    ((comparedLines view catalogue tenantId).filter fun line => line.tenantProductId = some product.id).map
      Line.mismatchClass = [productClass view catalogue tenantId product.id] := by
  rw [lines_of_product available, productClass, ← head?_filter]
  have once := confirmed_once catalogue tenantId product.id
  cases mapped : (catalogue.confirmed tenantId).filter fun row => row.tenantProductId = product.id with
  | cons row rest =>
    rw [mapped, length_cons] at once
    obtain rfl : rest = [] := length_eq_zero_iff.1 (by omega)
    have confirmed : ((catalogue.confirmed tenantId).any fun row =>
        decide (row.tenantProductId = product.id)) = true := by
      have inside : row ∈ (catalogue.confirmed tenantId).filter fun row =>
          decide (row.tenantProductId = product.id) := mapped ▸ mem_singleton_self row
      exact List.any_eq_true.2 ⟨row, mem_filter.1 inside⟩
    have none : (catalogue.unmapped tenantId).filter (fun row => decide (row.tenantProductId = product.id)) =
        [] := by
      refine filter_eq_nil_iff.2 fun row inside same => ?_
      obtain ⟨other, found, rfl⟩ := mem_map.1 inside
      have same : other.id = product.id := of_decide_eq_true same
      have unmapped := (mem_filter.1 found).2
      rw [same, confirmed] at unmapped
      simp at unmapped
    rw [none]
    rfl
  | nil =>
    have unconfirmed : ((catalogue.confirmed tenantId).any fun row =>
        decide (row.tenantProductId = product.id)) = false := by
      refine any_eq_false.2 fun row inside same => ?_
      have found : row ∈ (catalogue.confirmed tenantId).filter fun row =>
          decide (row.tenantProductId = product.id) := mem_filter.2 ⟨inside, same⟩
      rw [mapped] at found
      cases found
    have one : (catalogue.unmapped tenantId).filter (fun row => decide (row.tenantProductId = product.id)) =
        [⟨product.id, catalogue.mappings.any fun row =>
          row.tenantProductId = product.id && row.tenantId = tenantId⟩] := by
      rw [Catalogue.unmapped, filter_map, filter_filter]
      have rows : catalogue.products.filter (fun other => decide (other.id = product.id) &&
              (decide (other.tenantId = tenantId) && other.retiredAt.isNone &&
                !(catalogue.confirmed tenantId).any fun row => decide (row.tenantProductId = other.id))) =
          [product] := by
        rw [← products_filter mem]
        refine filter_congr fun other inside => ?_
        by_cases same : other.id = product.id
        · obtain rfl := inj_on_of_nodup_map catalogue.keyed inside mem same
          simp [tenant, active, unconfirmed]
        · simp [same]
      exact congrArg _ rows
    rw [one]
    simp only [map_nil, nil_append, map_singleton, List.head?_nil, unmappedLine]

/-- **An item that no confirmed mapping names has one line, and no other item has any.** -/
theorem item_lines {ref : String}
    (there : ∃ item ∈ view.items, item.erpnextItemRef = ref) :
    ((comparedLines view catalogue tenantId).filter fun line => line.mismatchClass =
        .unmappedErpnextItem && line.erpnextItemRef = some ref).length =
      if ∃ row ∈ catalogue.confirmed tenantId, row.erpnextItemRef = ref then 0 else 1 := by
  have confirmed : ((catalogue.confirmed tenantId).map (confirmedLine (erpnextItems view.items))).filter
      (fun line => line.mismatchClass = .unmappedErpnextItem && line.erpnextItemRef = some ref) = [] := by
    refine filter_eq_nil_iff.2 fun line mem => ?_
    obtain ⟨row, -, rfl⟩ := mem_map.1 mem
    simp [confirmedLine_class]
  have unmapped : ((catalogue.unmapped tenantId).map unmappedLine).filter
      (fun line => line.mismatchClass = .unmappedErpnextItem && line.erpnextItemRef = some ref) = [] := by
    refine filter_eq_nil_iff.2 fun line mem => ?_
    obtain ⟨row, -, rfl⟩ := mem_map.1 mem
    rcases unmappedLine_class row with same | same <;> simp [same]
  rw [comparedLines, if_pos available, filter_append, filter_append, confirmed, unmapped,
    nil_append, append_nil, filter_map, length_map, filter_filter]
  have named := @mem_matchedRefs view.items (catalogue.confirmed tenantId) ref there
  obtain ⟨once, known⟩ := erpnextItems_keys view.items
  by_cases taken : ∃ row ∈ catalogue.confirmed tenantId, row.erpnextItemRef = ref
  · rw [if_pos taken]
    refine length_eq_zero_iff.2 (filter_eq_nil_iff.2 fun entry _ holds => ?_)
    simp only [Function.comp_apply, itemLine, and_eq_true, decide_eq_true_eq, Option.some.injEq,
      true_and] at holds
    exact holds.2 (holds.1 ▸ named.2 taken)
  · rw [if_neg taken]
    have counted := once.count (a := ref)
    rw [if_pos ((known ref).2 there), List.count, countP_map, countP_eq_length_filter] at counted
    rw [← counted]
    refine congrArg List.length (filter_congr fun entry _ => ?_)
    by_cases same : entry.1 = ref
    · subst same
      simp [itemLine, mt named.1 taken]
    · simp [itemLine, same]

omit available

/-- **The lines of a run are those of the products and of the items.** -/
theorem comparedLines_reconciled (view : ErpnextItemView) (catalogue : Catalogue) (tenantId : Uuid) :
    Reconciled view catalogue tenantId (comparedLines view catalogue tenantId) := by
  refine ⟨fun available product mem tenant active => product_line available mem tenant active, fun available ref
    there => item_lines available there, fun line mem class' => ?_, fun unavailable line mem => ?_⟩
  · rcases mem_append.1 mem with viewed | unmapped
    · split_ifs at viewed
      · rcases mem_append.1 viewed with mapped | item
        · obtain ⟨row, -, rfl⟩ := mem_map.1 mapped
          exact absurd class' (confirmedLine_class _ row)
        · obtain ⟨entry, inside, rfl⟩ := mem_map.1 item
          obtain ⟨item, known, same⟩ := ((erpnextItems_keys view.items).2 entry.1).1
            (mem_map_of_mem (mem_of_mem_filter inside))
          exact ⟨item, known, congrArg some same.symm⟩
      · cases viewed
    · obtain ⟨row, -, rfl⟩ := mem_map.1 unmapped
      rcases unmappedLine_class row with same | same
      · rw [same] at class'
        cases class'
      · rw [same] at class'
        cases class'
  · rw [comparedLines, if_neg (not_not.2 unavailable), nil_append] at mem
    obtain ⟨row, inside, rfl⟩ := mem_map.1 mem
    refine ⟨unmappedLine_class row, rfl, fun mapping confirmed same => ?_⟩
    obtain ⟨product, found, rfl⟩ := mem_map.1 inside
    have unmapped := (mem_filter.1 found).2
    have mapped : ((catalogue.confirmed tenantId).any fun row =>
        decide (row.tenantProductId = product.id)) = true :=
      List.any_eq_true.2 ⟨mapping, confirmed, decide_eq_true (Option.some.inj same).symm⟩
    rw [mapped] at unmapped
    simp at unmapped

/-! ### Histories -/

/-- What changes the tables: other transactions change the products and the mappings, trigger runs and repair
results; the outbox delivers runs to the processor. -/
inductive Event where
  | change (catalogue : Catalogue)
  | trigger (id tenantId : Uuid) (now : Int)
  | repair (id : Uuid)
  | deliver (input : ProcessInput) (view : ErpnextItemView) (draw : Nat → Uuid) (now : Int)

/-- The tables after an event; a transaction that fails leaves them. -/
def Tables.after (tables : Tables) : Event → Tables
  | .change catalogue => { tables with catalogue := catalogue }
  | .trigger id tenantId now =>
    if tables.runs.any fun run => run.id = id then tables
    else { tables with
      runs := tables.runs ++ [⟨id, tenantId, .running, .unavailable, none, none, now⟩] }
  | .repair id =>
    { tables with
      results := tables.results.map fun row =>
        if row.id = id then { row with resultState := .repaired } else row }
  | .deliver input view draw now =>
    match process input view draw now tables with
    | .ok (_, after) => after
    | .error _ => tables

/-- What any history leads to. -/
inductive Reachable : Tables → Prop where
  | start (catalogue : Catalogue) : Reachable ⟨catalogue, [], []⟩
  | event {tables : Tables} (reachable : Reachable tables) (event : Event) : Reachable (tables.after event)

def linesOf (results : List ProductResult) (runId : Uuid) : List Line :=
  (results.filter fun row => row.runId = runId).map ProductResult.toLine

def Counted (counts : List (ProductMismatchClass × Nat)) (lines : List Line) : Prop :=
  ∀ mismatchClass, (getEntry counts mismatchClass).getD 0 =
    lines.countP fun line => line.mismatchClass = mismatchClass

/-- **Runs have results and a summary once they are completed, and not before.** -/
structure Settled (tables : Tables) : Prop where
  keyed : (tables.runs.map ProductRun.id).Nodup
  owned : ∀ row ∈ tables.results, ∃ run ∈ tables.runs, run.id = row.runId
  pending : ∀ run ∈ tables.runs, run.status = .running → linesOf tables.results run.id = []
  summarised : ∀ run ∈ tables.runs, run.status = .completed →
    ∃ counts, run.summary = some counts ∧ Counted counts (linesOf tables.results run.id)

section History

variable {after : Tables}

theorem counted_bump (lines : List Line) : Counted (lines.foldl bump []) lines := fun mismatchClass =>
  Stock.getEntry_counted Line.mismatchClass lines mismatchClass

theorem linesOf_append {results rows : List ProductResult} {runId : Uuid}
    (about : ∀ row ∈ rows, row.runId = input.runId) :
    linesOf (results ++ rows) runId =
      linesOf results runId ++ if runId = input.runId then rows.map ProductResult.toLine else [] := by
  rw [linesOf, filter_append, map_append]
  refine congrArg _ ?_
  split_ifs with same
  · rw [filter_eq_self.2 fun row mem => decide_eq_true ((about row mem).trans same.symm)]
  · rw [filter_eq_nil_iff.2 fun row mem => by simpa [about row mem] using Ne.symm same,
      map_nil]

/-- **A delivery is skipped where the run is not under way; elsewhere it stores the lines, and completes the
run with their numbers.** -/
theorem process_ran {result : ProductRunResult} (keyed : (tables.runs.map ProductRun.id).Nodup)
    (processed : process input view draw now tables = .ok (result, after)) :
    (result.completed = none ∧ after = tables ∧
        ¬ ∃ run ∈ tables.runs, run.id = input.runId ∧ run.tenantId = input.tenantId ∧ run.status = .running) ∨
      ∃ run counts rows, run ∈ tables.runs ∧ run.id = input.runId ∧ run.tenantId = input.tenantId ∧
      run.status = .running ∧ result.completed = some (view.status, counts) ∧
      after.catalogue = tables.catalogue ∧ after.runs = complete tables.runs input view.status counts now ∧
      after.results = tables.results ++ rows ∧
      rows.map ProductResult.toLine = comparedLines view tables.catalogue input.tenantId ∧
      (∀ row ∈ rows, row.runId = input.runId) ∧
      counts = (comparedLines view tables.catalogue input.tenantId).foldl bump [] := by
  unfold process at processed
  cases found : tables.runs.find? fun run => run.id = input.runId && run.tenantId = input.tenantId with
  | none =>
    rw [found] at processed
    cases processed
    refine .inl ⟨rfl, rfl, ?_⟩
    rintro ⟨run, mem, id, tenant, -⟩
    have absent := find?_eq_none.1 found run mem
    simp [id, tenant] at absent
  | some run =>
    rw [found] at processed
    have mem := mem_of_find?_eq_some found
    have about := find?_some found
    simp only [and_eq_true, decide_eq_true_eq] at about
    by_cases running : run.status = .running
    · simp only [running, ne_eq, not_true_eq_false, if_false] at processed
      obtain ⟨progress, compared, processed⟩ := bind_ok processed
      cases processed
      obtain ⟨⟨rows, stored, lines, own⟩, counted⟩ := compare_ok rfl compared
      exact .inr ⟨run, _, rows, mem, about.1, about.2, running, rfl, rfl, rfl, stored, lines,
        fun row inside => (own row inside).1, counted⟩
    · simp only [running, ne_eq, not_false_eq_true, if_true] at processed
      cases processed
      refine .inl ⟨rfl, rfl, ?_⟩
      rintro ⟨other, inside, id, -, under⟩
      obtain rfl := inj_on_of_nodup_map keyed inside mem (id.trans about.1.symm)
      exact running under

theorem complete_ids (runs : List ProductRun) (status : ViewStatus)
    (counts : List (ProductMismatchClass × Nat)) :
    (complete runs input status counts now).map ProductRun.id = runs.map ProductRun.id := by
  rw [complete, map_map]
  refine map_congr_left fun run _ => ?_
  rw [Function.comp_apply]
  split_ifs
  · rfl
  · rfl

theorem Settled.deliver (settled : Settled tables) : Settled (tables.after (.deliver input view draw now)) := by
  cases processed : process input view draw now tables with
  | error error =>
    simp only [Tables.after, processed]
    exact settled
  | ok out =>
    obtain ⟨result, after⟩ := out
    simp only [Tables.after, processed]
    obtain ⟨-, rfl, -⟩ | ⟨run, counts, rows, mem, id, tenant, running, -, -, runs, results, lines, about,
      counted⟩ := process_ran settled.keyed processed
    · exact settled
    have own := fun runId => @linesOf_append input tables.results rows runId about
    have others : ∀ {other}, other ≠ input.runId →
        linesOf after.results other = linesOf tables.results other := by
      intro other apart
      rw [results, own, if_neg apart, append_nil]
    refine ⟨?_, fun row inside => ?_, fun other inside under => ?_, fun other inside done => ?_⟩
    · show (after.runs.map ProductRun.id).Nodup
      rw [runs, complete_ids]
      exact settled.keyed
    · have known : row.runId ∈ after.runs.map ProductRun.id := by
        rw [runs, complete_ids]
        rw [show after.results = tables.results ++ rows from results] at inside
        rcases mem_append.1 inside with old | new
        · obtain ⟨run, there, same⟩ := settled.owned row old
          exact same ▸ mem_map_of_mem there
        · exact (id.trans (about row new).symm) ▸ mem_map_of_mem mem
      exact mem_map.1 known
    · rw [show after.runs = _ from runs] at inside
      obtain ⟨before, there, same⟩ := mem_map.1 inside
      split_ifs at same with taken
      · subst same
        cases under
      · subst same
        rw [others fun equal => ?_]
        · exact settled.pending before there under
        · obtain rfl := inj_on_of_nodup_map settled.keyed there mem (equal.trans id.symm)
          simp [id, tenant, running] at taken
    · rw [show after.runs = _ from runs] at inside
      obtain ⟨before, there, same⟩ := mem_map.1 inside
      split_ifs at same with taken
      · simp only [and_eq_true, decide_eq_true_eq] at taken
        subst same
        refine ⟨counts, rfl, ?_⟩
        show Counted counts (linesOf after.results before.id)
        have none := settled.pending before there taken.2
        rw [taken.1.1] at none ⊢
        rw [results, own, none, if_pos rfl, nil_append, lines, counted]
        exact counted_bump _
      · subst same
        rw [others fun equal => ?_]
        · exact settled.summarised before there done
        · obtain rfl := inj_on_of_nodup_map settled.keyed there mem (equal.trans id.symm)
          rw [running] at done
          cases done

/-- **A run that is completed has the lines of its comparison.** -/
theorem Settled.stored (settled : Settled tables) {result : ProductRunResult}
    (processed : process input view draw now tables = .ok (result, after)) (ran : result.completed ≠ none) :
    linesOf after.results input.runId = comparedLines view tables.catalogue input.tenantId := by
  obtain ⟨skipped, -⟩ | ⟨run, counts, rows, mem, id, -, running, -, -, -, results, lines, about, -⟩ :=
    process_ran settled.keyed processed
  · exact absurd skipped ran
  · rw [results, @linesOf_append input tables.results rows input.runId about, if_pos rfl, lines, ← id,
      settled.pending run mem running, nil_append]

/-- **Every history keeps the runs settled.** -/
theorem Reachable.settled (reach : Reachable tables) : Settled tables := by
  induction reach with
  | start catalogue =>
    exact ⟨nodup_nil, fun _ none => (by cases none), fun _ none => (by cases none),
      fun _ none => by cases none⟩
  | @event tables reach event settled =>
    cases event with
    | change catalogue => exact ⟨settled.keyed, settled.owned, settled.pending, settled.summarised⟩
    | trigger id tenantId now =>
      simp only [Tables.after]
      split_ifs with taken
      · exact settled
      have fresh : ∀ run ∈ tables.runs, run.id ≠ id := fun run mem same =>
        taken (List.any_eq_true.2 ⟨run, mem, decide_eq_true same⟩)
      refine ⟨?_, fun row mem => ?_, fun run mem running => ?_, fun run mem done => ?_⟩
      · show ((tables.runs ++ [_]).map ProductRun.id).Nodup
        rw [map_append, nodup_append]
        refine ⟨settled.keyed, nodup_singleton _, fun first old second new same => ?_⟩
        obtain ⟨run, mem, rfl⟩ := mem_map.1 old
        exact fresh run mem (same.trans (mem_singleton.1 new))
      · obtain ⟨run, inside, same⟩ := settled.owned row mem
        exact ⟨run, mem_append_left _ inside, same⟩
      · rcases mem_append.1 mem with old | new
        · exact settled.pending run old running
        · rw [mem_singleton.1 new]
          refine List.map_eq_nil_iff.2 (filter_eq_nil_iff.2 fun row inside about => ?_)
          obtain ⟨owner, known, same⟩ := settled.owned row inside
          exact fresh owner known (same.trans (of_decide_eq_true about))
      · rcases mem_append.1 mem with old | new
        · exact settled.summarised run old done
        · rw [mem_singleton.1 new] at done
          cases done
    | repair id =>
      have lines : ∀ runId, linesOf (tables.results.map fun row =>
          if row.id = id then { row with resultState := .repaired } else row) runId =
            linesOf tables.results runId := by
        intro runId
        rw [linesOf, filter_map, map_map]
        refine congrArg₂ _ (funext fun row => ?_) (filter_congr fun row _ => ?_)
        · rw [Function.comp_apply]
          split_ifs <;> rfl
        · rw [Function.comp_apply]
          split_ifs <;> rfl
      refine ⟨settled.keyed, fun row mem => ?_, fun run mem running => ?_, fun run mem done => ?_⟩
      · obtain ⟨old, inside, rfl⟩ := mem_map.1 mem
        obtain ⟨run, known, same⟩ := settled.owned old inside
        refine ⟨run, known, same.trans ?_⟩
        split_ifs <;> rfl
      · exact (lines run.id).trans (settled.pending run mem running)
      · obtain ⟨counts, summary, counted⟩ := settled.summarised run mem done
        exact ⟨counts, summary, (lines run.id).symm ▸ counted⟩
    | deliver input view draw now => exact settled.deliver

end History

/-! ### The main result -/

theorem foldlM_completes {State Element : Type} {turn : State → Element → Except PgError State}
    {invariant : State → Prop}
    (turns : ∀ state element, invariant state → ∃ next, turn state element = .ok next ∧ invariant next)
    (elements : List Element) :
    ∀ state, invariant state → ∃ last, elements.foldlM turn state = .ok last ∧ invariant last := by
  induction elements with
  | nil => exact fun state holds => ⟨state, rfl, holds⟩
  | cons element rest ih =>
    intro state holds
    obtain ⟨next, turned, holds⟩ := turns state element holds
    obtain ⟨last, rest, holds⟩ := ih next holds
    exact ⟨last, by rw [foldlM_cons, turned]; exact rest, holds⟩

/-- The identifiers that are still to be drawn are those of no result. -/
def Fresh (draw : Nat → Uuid) (progress : Progress) : Prop :=
  ∀ row ∈ progress.results, ∀ n, progress.drawn ≤ n → row.id ≠ draw n

variable (distinct : Function.Injective draw)
include distinct

theorem report_completes (line : Line) (progress : Progress) (fresh : Fresh draw progress) :
    ∃ next, report draw input progress line = .ok next ∧ Fresh draw next := by
  have unused : (progress.results.all fun other => other.id ≠ draw progress.drawn) = true :=
    all_eq_true.2 fun other mem => decide_eq_true (fresh other mem _ (Nat.le_refl _))
  refine ⟨{ progress with
    results := progress.results ++ [⟨line, draw progress.drawn, input.runId, input.tenantId, .opened⟩]
    counts := bump progress.counts line
    drawn := progress.drawn + 1 }, ?_, fun row mem n later => ?_⟩
  · rw [report, unused]
    rfl
  · rcases mem_append.1 mem with old | new
    · exact fresh row old n (Nat.le_of_succ_le later)
    · rw [mem_singleton.1 new]
      exact fun same => Nat.ne_of_lt later (distinct same)

theorem compareMapping_completes (items : List (String × ErpnextItemViewEntry)) (progress : Progress)
    (row : Mapping) (fresh : Fresh draw progress) :
    ∃ next, compareMapping draw input items progress row = .ok next ∧ Fresh draw next := by
  unfold compareMapping
  cases getEntry items row.erpnextItemRef with
  | none => exact report_completes distinct _ progress fresh
  | some item => exact report_completes distinct _ _ fresh

theorem compareItem_completes (progress : Progress) (entry : String × ErpnextItemViewEntry)
    (fresh : Fresh draw progress) :
    ∃ next, compareItem draw input progress entry = .ok next ∧ Fresh draw next := by
  unfold compareItem
  split_ifs
  · exact ⟨progress, rfl, fresh⟩
  · exact report_completes distinct _ progress fresh

/-- **A delivery does not fail, while fresh identifiers are drawn.** -/
theorem process_completes (fresh : ∀ row ∈ tables.results, ∀ n, row.id ≠ draw n) :
    ∃ result after, process input view draw now tables = .ok (result, after) := by
  have start : Fresh draw ⟨tables.results, [], [], 0⟩ := fun row mem n _ => fresh row mem n
  have viewed : ∃ compared, compareView draw input view tables.catalogue ⟨tables.results, [], [], 0⟩ =
      .ok compared ∧ Fresh draw compared := by
    unfold compareView
    split_ifs with available
    · obtain ⟨mapped, mappings, holds⟩ := foldlM_completes
        (@compareMapping_completes input draw distinct (erpnextItems view.items))
        (tables.catalogue.confirmed input.tenantId) _ start
      obtain ⟨compared, items, holds⟩ := foldlM_completes (@compareItem_completes input draw distinct)
        (erpnextItems view.items) mapped holds
      exact ⟨compared, by simp only [mappings, ok_bind, items], holds⟩
    · exact ⟨_, rfl, start⟩
  obtain ⟨compared, viewed, holds⟩ := viewed
  obtain ⟨progress, reported, -⟩ := foldlM_completes (fun progress row holds => report_completes distinct
    (unmappedLine row) progress holds) (tables.catalogue.unmapped input.tenantId) compared holds
  unfold process
  cases tables.runs.find? fun run => run.id = input.runId && run.tenantId = input.tenantId with
  | none => exact ⟨_, _, rfl⟩
  | some run =>
    by_cases running : run.status = .running
    · have ran : compare draw input view tables.catalogue ⟨tables.results, [], [], 0⟩ = .ok progress := by
        rw [compare, viewed, ok_bind]
        exact reported
      simp only [running, ne_eq, not_true_eq_false, if_false, ran, ok_bind]
      exact ⟨_, _, rfl⟩
    · simp only [running, ne_eq, not_false_eq_true, if_true]
      exact ⟨_, _, rfl⟩

omit distinct

/-- **After any history, a delivery stores the results of its run, or finds that it is not under way and
changes nothing; and the summary of every completed run has the numbers of its results.** -/
theorem run_reconciles (reachable : Reachable tables) (input : ProcessInput) (view : ErpnextItemView)
    (draw : Nat → Uuid) (now : Int) :
    (Function.Injective draw → (∀ row ∈ tables.results, ∀ n, row.id ≠ draw n) →
        ∃ result after, process input view draw now tables = .ok (result, after)) ∧
      (∀ result after, process input view draw now tables = .ok (result, after) →
          (result.completed = none ∧ after = tables ∧
            ¬
            ∃ run ∈ tables.runs, run.id = input.runId ∧ run.tenantId = input.tenantId ∧
            run.status = .running) ∨
          ∃ counts, result.completed = some (view.status, counts) ∧
          Reconciled view tables.catalogue input.tenantId (linesOf after.results input.runId) ∧
          Counted counts (linesOf after.results input.runId)) ∧
      ∀ run ∈ tables.runs, run.status = .completed →
      ∃ counts, run.summary = some counts ∧ Counted counts (linesOf tables.results run.id) := by
  have settled := reachable.settled
  refine ⟨process_completes, fun result after processed => ?_, settled.summarised⟩
  obtain skipped | ⟨run, counts, rows, -, -, -, -, done, -, -, -, -, -, counted⟩ :=
    process_ran settled.keyed processed
  · exact .inl skipped
  · rw [settled.stored processed (done ▸ some_ne_none _)]
    exact .inr ⟨counts, done, comparedLines_reconciled _ _ _, counted ▸ counted_bump _⟩

def sampleCatalogue : Catalogue where
  products := [⟨sample 1, sample 0, none⟩]
  mappings := [⟨sample 2, sample 0, sample 1, "ITEM-1", .confirmed, .manual, 2,
    some (sample 3), 0, some (sample 3), some 0, none, 0, 0⟩]
  keyed := nodup_singleton _
  oneActive := pairwise_singleton _ _

def sampleRun : Tables := Tables.after ⟨sampleCatalogue, [], []⟩ (.trigger (sample 4) (sample 0) 0)

theorem run_reconciles_sample :
    ∃ result after counts,
      process ⟨sample 4, sample 0⟩ ⟨.available, [⟨"ITEM-1", none, none⟩]⟩ (fun n => sample (5 + n)) 1
      sampleRun = .ok (result, after) ∧ result.completed = some (.available, counts) ∧
      Reconciled ⟨.available, [⟨"ITEM-1", none, none⟩]⟩ sampleCatalogue (sample 0)
        (linesOf after.results (sample 4)) ∧ Counted counts (linesOf after.results (sample 4)) := by
  obtain ⟨result, after, processed, completed⟩ : ∃ result after,
      process ⟨sample 4, sample 0⟩ ⟨.available, [⟨"ITEM-1", none, none⟩]⟩
        (fun n => sample (5 + n)) 1 sampleRun = .ok (result, after) ∧ result.completed ≠ none :=
    ⟨_, _, rfl, some_ne_none _⟩
  obtain ⟨skipped, -⟩ | ⟨counts, ran, reconciled, counted⟩ :=
    (run_reconciles (Reachable.event (.start sampleCatalogue) _) _ _ _ _).2.1 result after processed
  · exact absurd skipped completed
  · exact ⟨result, after, counts, processed, ran, reconciled, counted⟩

/-- **On a partial page, a confirmed mapping whose item is not on it is reported as unmapped.** -/
theorem unmapped_on_partial :
    ∃ (tables : Tables) (input : ProcessInput) (view : ErpnextItemView) (draw : Nat → Uuid) (now : Int)
      (result : ProductRunResult) (after : Tables) (row : Mapping) (line : Line), Reachable tables ∧
      view.status = .partialPage ∧ process input view draw now tables = .ok (result, after) ∧
      row ∈ tables.catalogue.confirmed input.tenantId ∧
      (∀ item ∈ view.items, item.erpnextItemRef ≠ row.erpnextItemRef) ∧
      line ∈ linesOf after.results input.runId ∧ line.tenantProductId = some row.tenantProductId ∧
      line.mismatchClass = .unmappedDp2Product := by
  refine ⟨sampleRun, ⟨sample 4, sample 0⟩, ⟨.partialPage, []⟩, fun n => sample (5 + n), 1, _, _,
    _, _, Reachable.event (.start sampleCatalogue) _, rfl, rfl, mem_cons_self, fun _ none => (by cases none),
    mem_cons_self, rfl, rfl⟩

end DataPulse.ProductRuns
