/-
**The run of a product reconciliation.**

The processor compares the confirmed item mappings of a tenant with the connector's view of the items, and
stores one result for every line. It runs in one transaction, under the lock of the run's row: the deliveries
of one run come one after the other. Its two queries read one state of the products and the mappings.
-/

import DataPulse.Platform.Json
import DataPulse.Stock.Comparison

namespace DataPulse.ProductRuns

open Lib Platform
open Inventory (require)
open ItemMaps (Mapping ResultState)
open Stock (getEntry setEntry)

/-! ### Rows -/

inductive ProductMismatchClass where
  | matched
  | unmappedDp2Product
  | suggestionUnconfirmed
  | unmappedErpnextItem
  | attributeDrift
  | sellableStateDivergence
  deriving DecidableEq

/-- `erpnext_view_status`. -/
inductive ViewStatus where
  | available
  | unavailable
  | partialPage
  deriving DecidableEq

/-- `erpnext_product_reconciliation_run.status`. -/
inductive RunStatus where
  | running
  | completed
  | failed
  deriving DecidableEq

structure ErpnextItemViewEntry where
  erpnextItemRef : String
  sellable : Option Bool
  attributes : Option (List (String × Json))

structure ErpnextItemView where
  status : ViewStatus
  items : List ErpnextItemViewEntry

structure TenantProduct where
  id : Uuid
  tenantId : Uuid
  retiredAt : Option Int

/-- `erpnext_product_reconciliation_run`. -/
structure ProductRun where
  id : Uuid
  tenantId : Uuid
  status : RunStatus
  erpnextViewStatus : ViewStatus
  finishedAt : Option Int
  summary : Option (List (ProductMismatchClass × Nat))
  updatedAt : Int

/-- What the processor reports of a compared line. -/
structure Line where
  mismatchClass : ProductMismatchClass
  tenantProductId : Option Uuid
  erpnextItemRef : Option String
  detail : Option Json

/-- `erpnext_product_reconciliation_result`. -/
structure ProductResult extends Line where
  id : Uuid
  runId : Uuid
  tenantId : Uuid
  resultState : ResultState

/-- The products and the mappings, under the primary key of the products and
`UQ_idx_erpnext_item_map_active`. -/
structure Catalogue where
  products : List TenantProduct
  mappings : List Mapping
  keyed : (products.map TenantProduct.id).Nodup
  oneActive : mappings.Pairwise fun first second =>
    (first.isActive && second.isActive && first.sameProduct second) = false

structure Tables where
  catalogue : Catalogue
  runs : List ProductRun
  results : List ProductResult

/-! ### The queries -/

/-- `SELECT … FROM erpnext_item_map WHERE state = 'confirmed' AND retired_at IS NULL`. -/
def Catalogue.confirmed (catalogue : Catalogue) (tenantId : Uuid) : List Mapping :=
  catalogue.mappings.filter fun row => row.isConfirmed && row.tenantId = tenantId

structure UnmappedProductRow where
  tenantProductId : Uuid
  hasInertMapping : Bool

/-- `SELECT tp.id, (s.id IS NOT NULL) … FROM tenant_products tp LEFT JOIN … cm ON … LEFT JOIN LATERAL … s ON
true WHERE tp.retired_at IS NULL AND cm.id IS NULL`. -/
def Catalogue.unmapped (catalogue : Catalogue) (tenantId : Uuid) : List UnmappedProductRow :=
  (catalogue.products.filter fun product => product.tenantId = tenantId && product.retiredAt.isNone &&
      !(catalogue.confirmed tenantId).any fun row => row.tenantProductId = product.id).map fun product =>
    ⟨product.id, catalogue.mappings.any fun row => row.tenantProductId = product.id && row.tenantId = tenantId⟩

/-! ### The processor -/

/-- `{ runId, tenantId }`. -/
structure ProcessInput where
  runId : Uuid
  tenantId : Uuid

/-- `ProductRunResult`; `none` says that the run was skipped. -/
structure ProductRunResult where
  runId : Uuid
  completed : Option (ViewStatus × List (ProductMismatchClass × Nat))

/-- `new Map(view.items.map((i) => [i.erpnextItemRef, i]))`. -/
def erpnextItems (items : List ErpnextItemViewEntry) : List (String × ErpnextItemViewEntry) :=
  items.foldl (fun entries item => setEntry entries item.erpnextItemRef item) []

def bump (counts : List (ProductMismatchClass × Nat)) (line : Line) : List (ProductMismatchClass × Nat) :=
  setEntry counts line.mismatchClass ((getEntry counts line.mismatchClass).getD 0 + 1)

/-- What the processor keeps while it works: the results, `counts`, `matchedErpnextRefs`, and how many
identifiers it drew. -/
structure Progress where
  results : List ProductResult
  counts : List (ProductMismatchClass × Nat)
  matchedErpnextRefs : List String
  drawn : Nat

/-- `insert(client, runId, tenantId, opts)` and `bump(counts, cls)`. -/
def report (draw : Nat → Uuid) (input : ProcessInput) (progress : Progress) (line : Line) :
    Except PgError Progress := do
  let id := draw progress.drawn
  require (progress.results.all fun other => other.id ≠ id)
    ⟨.unique, some "erpnext_product_reconciliation_result_pkey"⟩
  .ok { progress with
    results := progress.results ++ [⟨line, id, input.runId, input.tenantId, .opened⟩]
    counts := bump progress.counts line
    drawn := progress.drawn + 1 }

def confirmedLine (items : List (String × ErpnextItemViewEntry)) (row : Mapping) : Line :=
  match getEntry items row.erpnextItemRef with
  | none => ⟨.unmappedDp2Product, some row.tenantProductId, some row.erpnextItemRef, none⟩
  | some item =>
    if item.sellable = some false then
      ⟨.sellableStateDivergence, some row.tenantProductId, some row.erpnextItemRef,
        some (.object [("erpnext_sellable", .bool false)])⟩
    else ⟨.matched, some row.tenantProductId, some row.erpnextItemRef, none⟩

def compareMapping (draw : Nat → Uuid) (input : ProcessInput) (items : List (String × ErpnextItemViewEntry))
    (progress : Progress) (row : Mapping) : Except PgError Progress :=
  match getEntry items row.erpnextItemRef with
  | none => report draw input progress (confirmedLine items row)
  | some _ =>
    report draw input
      { progress with matchedErpnextRefs := progress.matchedErpnextRefs ++ [row.erpnextItemRef] }
      (confirmedLine items row)

/-- The line of an item that no confirmed mapping names. -/
def itemLine (entry : String × ErpnextItemViewEntry) : Line :=
  ⟨.unmappedErpnextItem, none, some entry.1,
    entry.2.attributes.map fun fields => .object [("attributes", .object fields)]⟩

def compareItem (draw : Nat → Uuid) (input : ProcessInput) (progress : Progress)
    (entry : String × ErpnextItemViewEntry) : Except PgError Progress :=
  if entry.1 ∈ progress.matchedErpnextRefs then .ok progress
  else report draw input progress (itemLine entry)

def unmappedLine (row : UnmappedProductRow) : Line :=
  ⟨if row.hasInertMapping then .suggestionUnconfirmed else .unmappedDp2Product, some row.tenantProductId, none,
    none⟩

def complete (runs : List ProductRun) (input : ProcessInput) (status : ViewStatus)
    (counts : List (ProductMismatchClass × Nat)) (now : Int) : List ProductRun :=
  runs.map fun run =>
    if run.id = input.runId && run.tenantId = input.tenantId && run.status = .running then
      { run with
        status := .completed, erpnextViewStatus := status, finishedAt := some now, summary := some counts
        updatedAt := now }
    else run

/-- What the run compares with a view that is not unavailable. -/
def compareView (draw : Nat → Uuid) (input : ProcessInput) (view : ErpnextItemView) (catalogue : Catalogue)
    (start : Progress) : Except PgError Progress :=
  let items := erpnextItems view.items
  if view.status ≠ .unavailable then do
    let mapped ← (catalogue.confirmed input.tenantId).foldlM (compareMapping draw input items) start
    items.foldlM (compareItem draw input) mapped
  else .ok start

def compare (draw : Nat → Uuid) (input : ProcessInput) (view : ErpnextItemView) (catalogue : Catalogue)
    (start : Progress) : Except PgError Progress := do
  let compared ← compareView draw input view catalogue start
  (catalogue.unmapped input.tenantId).foldlM (fun progress row => report draw input progress (unmappedLine row))
    compared

/-- `process({ runId, tenantId })`, with what `this.view.fetch` answers and the identifiers that `newId`
draws. -/
def process (input : ProcessInput) (view : ErpnextItemView) (draw : Nat → Uuid) (now : Int) (tables : Tables) :
    Except PgError (ProductRunResult × Tables) :=
  match tables.runs.find? fun run => run.id = input.runId && run.tenantId = input.tenantId with
  | none => .ok (⟨input.runId, none⟩, tables)
  | some run =>
    if run.status ≠ .running then .ok (⟨input.runId, none⟩, tables)
    else do
      let progress ← compare draw input view tables.catalogue ⟨tables.results, [], [], 0⟩
      .ok (⟨input.runId, some (view.status, progress.counts)⟩,
        { tables with
          runs := complete tables.runs input view.status progress.counts now
          results := progress.results })

/-! ### Lines -/

/-- The results of the lines were stored and counted. -/
structure Reported (input : ProcessInput) (before after : Progress) (lines : List Line) : Prop where
  stored : ∃ rows, after.results = before.results ++ rows ∧ rows.map ProductResult.toLine = lines ∧
    ∀ row ∈ rows, row.runId = input.runId ∧ row.tenantId = input.tenantId
  counted : after.counts = lines.foldl bump before.counts

section Reports

variable {draw : Nat → Uuid} {input : ProcessInput} {before middle after : Progress}

theorem Reported.none (progress : Progress) : Reported input progress progress [] :=
  ⟨⟨[], (append_nil _).symm, rfl, fun _ none => by cases none⟩, rfl⟩

theorem Reported.trans {first second : List Line} (one : Reported input before middle first)
    (two : Reported input middle after second) : Reported input before after (first ++ second) := by
  obtain ⟨early, stored, lines, about⟩ := one.stored
  obtain ⟨late, stored', lines', about'⟩ := two.stored
  refine ⟨⟨early ++ late, ?_, ?_, fun row mem => ?_⟩, ?_⟩
  · rw [stored', stored, append_assoc]
  · rw [map_append, lines, lines']
  · exact (mem_append.1 mem).elim (about row) (about' row)
  · rw [two.counted, one.counted, foldl_append]

/-- **A report stores its line and counts it.** -/
theorem report_ok {line : Line} (reported : report draw input before line = .ok after) :
    Reported input before after [line] ∧ after.matchedErpnextRefs = before.matchedErpnextRefs := by
  obtain ⟨-, -, stored⟩ := bind_ok reported
  cases stored
  exact ⟨⟨⟨[_], rfl, rfl, fun row mem => by rw [mem_singleton.1 mem]; exact ⟨rfl, rfl⟩⟩, rfl⟩, rfl⟩

def isReported (items : List (String × ErpnextItemViewEntry)) (row : Mapping) : Bool :=
  (getEntry items row.erpnextItemRef).isSome

theorem compareMappings_ok {items : List (String × ErpnextItemViewEntry)} {rows : List Mapping}
    (compared : rows.foldlM (compareMapping draw input items) before = .ok after) :
    Reported input before after (rows.map (confirmedLine items)) ∧
      after.matchedErpnextRefs =
      before.matchedErpnextRefs ++ (rows.filter (isReported items)).map Mapping.erpnextItemRef := by
  induction rows generalizing before with
  | nil =>
    cases compared
    exact ⟨.none _, (append_nil _).symm⟩
  | cons row rest ih =>
    rw [foldlM_cons] at compared
    obtain ⟨middle, turn, compared⟩ := bind_ok compared
    obtain ⟨later, refs⟩ := ih compared
    unfold compareMapping at turn
    cases found : getEntry items row.erpnextItemRef with
    | none =>
      rw [found] at turn
      obtain ⟨now, same⟩ := report_ok turn
      refine ⟨now.trans later, ?_⟩
      rw [refs, same, List.filter_cons_of_neg (by simp [isReported, found])]
    | some item =>
      rw [found] at turn
      obtain ⟨now, same⟩ := report_ok turn
      have own : Reported input before middle [confirmedLine items row] := ⟨now.stored, now.counted⟩
      refine ⟨own.trans later, ?_⟩
      rw [refs, same, filter_cons_of_pos (by simp [isReported, found]), map_cons,
        append_assoc]
      rfl

theorem compareItems_ok {entries : List (String × ErpnextItemViewEntry)}
    (compared : entries.foldlM (compareItem draw input) before = .ok after) :
    Reported input before after
      ((entries.filter fun entry => entry.1 ∉ before.matchedErpnextRefs).map itemLine) := by
  induction entries generalizing before with
  | nil =>
    cases compared
    exact .none _
  | cons entry rest ih =>
    rw [foldlM_cons] at compared
    obtain ⟨middle, turn, compared⟩ := bind_ok compared
    unfold compareItem at turn
    by_cases known : entry.1 ∈ before.matchedErpnextRefs
    · rw [if_pos known] at turn
      cases turn
      rw [List.filter_cons_of_neg (by simp [known])]
      exact ih compared
    · rw [if_neg known] at turn
      obtain ⟨now, same⟩ := report_ok turn
      rw [filter_cons_of_pos (by simp [known]), map_cons, ← same]
      exact now.trans (ih compared)

theorem reportUnmapped_ok {rows : List UnmappedProductRow}
    (reported : rows.foldlM (fun progress row => report draw input progress (unmappedLine row)) before =
      .ok after) : Reported input before after (rows.map unmappedLine) := by
  induction rows generalizing before with
  | nil =>
    cases reported
    exact .none _
  | cons row rest ih =>
    rw [foldlM_cons] at reported
    obtain ⟨middle, turn, reported⟩ := bind_ok reported
    exact (report_ok turn).1.trans (ih reported)

end Reports

/-- The refs that the confirmed mappings of a view match. -/
def matchedRefs (items : List (String × ErpnextItemViewEntry)) (confirmed : List Mapping) : List String :=
  (confirmed.filter (isReported items)).map Mapping.erpnextItemRef

/-- **The lines of a run.** -/
def comparedLines (view : ErpnextItemView) (catalogue : Catalogue) (tenantId : Uuid) : List Line :=
  (if view.status ≠ .unavailable then
      (catalogue.confirmed tenantId).map (confirmedLine (erpnextItems view.items)) ++
        ((erpnextItems view.items).filter fun entry =>
          entry.1 ∉ matchedRefs (erpnextItems view.items) (catalogue.confirmed tenantId)).map itemLine
    else []) ++ (catalogue.unmapped tenantId).map unmappedLine

theorem compare_ok {draw : Nat → Uuid} {input : ProcessInput} {view : ErpnextItemView} {catalogue : Catalogue}
    {start after : Progress} (fresh : start.matchedErpnextRefs = [])
    (compared : compare draw input view catalogue start = .ok after) :
    Reported input start after (comparedLines view catalogue input.tenantId) := by
  obtain ⟨middle, viewed, unmapped⟩ := bind_ok compared
  have last := reportUnmapped_ok unmapped
  unfold compareView at viewed
  unfold comparedLines
  by_cases available : view.status ≠ .unavailable
  · rw [if_pos available] at viewed ⊢
    obtain ⟨mapped, mappings, items⟩ := bind_ok viewed
    obtain ⟨first, refs⟩ := compareMappings_ok mappings
    rw [fresh, nil_append] at refs
    have second := compareItems_ok items
    rw [refs] at second
    exact (first.trans second).trans last
  · rw [if_neg available] at viewed ⊢
    cases viewed
    exact last

end DataPulse.ProductRuns
