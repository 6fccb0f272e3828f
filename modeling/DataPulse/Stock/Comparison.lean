/-
**What the processor compares.**

The lines of a comparison, for any ledger, item mappings and report:

* `getEntry_setEntry`, `keys_setEntry`: the maps of the source; `binViewOf_keys`, `binViewOf_quantity`: the
  view of a report has every product once, with a quantity that was reported.
-/

import DataPulse.Stock.Canonical
import DataPulse.Stock.Effects

namespace DataPulse.Stock

open Lib Platform
open Inventory (Movement)
open ItemMaps (Mapping)

variable {writes : List Write} {context : Context} {product storeId : Uuid}
variable {report : Option StoredBinViewReport}

/-! ### Maps -/

section Maps

variable {Key Value : Type} [DecidableEq Key] {entries : List (Key × Value)}

theorem getEntry_isSome {key : Key} : (getEntry entries key).isSome = true ↔ key ∈ entries.map Prod.fst := by
  simp [getEntry]

theorem keys_setEntry (key : Key) (value : Value) :
    (setEntry entries key value).map Prod.fst =
      if key ∈ entries.map Prod.fst then entries.map Prod.fst else entries.map Prod.fst ++ [key] := by
  have here : (entries.any fun pair => pair.1 = key) = true ↔ key ∈ entries.map Prod.fst := by
    simp [List.any_eq_true]
  unfold setEntry
  by_cases there : key ∈ entries.map Prod.fst
  · rw [if_pos (here.2 there), if_pos there, map_map]
    refine map_congr_left fun pair _ => ?_
    by_cases same : pair.1 = key <;> simp [same]
  · rw [if_neg (mt here.1 there), if_neg there, map_append, map_singleton]

theorem getEntry_cons (pair : Key × Value) (key : Key) :
    getEntry (pair :: entries) key = if pair.1 = key then some pair.2 else getEntry entries key := by
  unfold getEntry
  by_cases same : pair.1 = key <;> simp [same]

theorem getEntry_append (key other : Key) (value : Value) (absent : key ∉ entries.map Prod.fst) :
    getEntry (entries ++ [(key, value)]) other =
      if other = key then some value else getEntry entries other := by
  induction entries with
  | nil =>
    rw [nil_append, getEntry_cons]
    exact if_congr eq_comm rfl rfl
  | cons pair rest ih =>
    rw [map_cons, mem_cons, not_or] at absent
    rw [cons_append, getEntry_cons, getEntry_cons, ih absent.2]
    by_cases first : pair.1 = other
    · rw [if_pos first, if_pos first, if_neg fun same => absent.1 (same.symm.trans first.symm)]
    · rw [if_neg first, if_neg first]

theorem getEntry_replace (key other : Key) (value : Value) :
    getEntry (entries.map fun pair => if pair.1 = key then (key, value) else pair) other =
      if other = key ∧ key ∈ entries.map Prod.fst then some value else getEntry entries other := by
  induction entries with
  | nil => simp [getEntry]
  | cons pair rest ih =>
    rw [map_cons, getEntry_cons, getEntry_cons, ih, map_cons]
    by_cases here : pair.1 = key
    · rw [if_pos here, here]
      by_cases same : other = key
      · simp [same]
      · simp [same, Ne.symm same]
    · rw [if_neg here]
      by_cases same : other = key
      · have apart : pair.1 ≠ other := fun equal => here (equal.trans same)
        have elsewhere : key ≠ pair.1 := Ne.symm here
        rw [if_neg apart, if_neg apart]
        exact if_congr (by rw [mem_cons, or_iff_right elsewhere]) rfl rfl
      · simp [same]

/-- **What a map has after a key was set.** -/
theorem getEntry_setEntry (key other : Key) (value : Value) :
    getEntry (setEntry entries key value) other =
      if other = key then some value else getEntry entries other := by
  unfold setEntry
  by_cases here : (entries.any fun pair => pair.1 = key) = true
  · have there : key ∈ entries.map Prod.fst := by simpa [List.any_eq_true] using here
    rw [if_pos here, getEntry_replace]
    exact if_congr (and_iff_left there) rfl rfl
  · rw [if_neg here]
    exact getEntry_append key other value (by simpa [List.any_eq_true] using here)

end Maps

/-! ### The view of a report -/

/-- **The view has every product once.** -/
theorem binViewOf_keys (report : Option StoredBinViewReport) : ((binViewOf report).map Prod.fst).Nodup := by
  unfold binViewOf
  generalize (report.map StoredBinViewReport.entries).getD [] = entries
  have start : (([] : List (Uuid × String)).map Prod.fst).Nodup := nodup_nil
  revert start
  generalize ([] : List (Uuid × String)) = out
  induction entries generalizing out with
  | nil => exact fun once => once
  | cons entry rest ih =>
    intro once
    refine ih _ ?_
    cases ref : entry.tenantProductRef with
    | none => simpa only [ref] using once
    | some product =>
      simp only [ref]
      rw [keys_setEntry]
      split_ifs with there
      · exact once
      · exact nodup_append.2 ⟨once, nodup_singleton _, fun key mem other single same =>
          there (by rwa [← mem_singleton.1 single, ← same])⟩

/-- **A quantity of the view was reported.** -/
theorem binViewOf_quantity {quantity : String} (found : getEntry (binViewOf report) product = some quantity) :
    ∃ stored, report = some stored ∧ ∃ entry ∈ stored.entries, entry.quantity = quantity := by
  cases report with
  | none => cases found
  | some stored =>
    refine ⟨stored, rfl, ?_⟩
    have each : ∀ step : List (Uuid × String) → StoredEntry → List (Uuid × String),
        (∀ out entry, getEntry (step out entry) product = some quantity →
          entry.quantity = quantity ∨ getEntry out product = some quantity) → ∀ (entries : List StoredEntry)
          (out : List (Uuid × String)), getEntry (entries.foldl step out) product = some quantity →
          (∃ entry ∈ entries, entry.quantity = quantity) ∨ getEntry out product = some quantity := by
      intro step one entries
      induction entries with
      | nil => exact fun out found => .inr found
      | cons entry rest ih =>
        intro out found
        rcases ih _ found with ⟨other, mem, same⟩ | before
        · exact .inl ⟨other, mem_cons_of_mem _ mem, same⟩
        · exact (one out entry before).imp_left fun same => ⟨entry, mem_cons_self, same⟩
    refine (each _ (fun out entry before => ?_) stored.entries [] found).resolve_right fun none => by cases none
    cases ref : entry.tenantProductRef with
    | none =>
      simp only [ref] at before
      exact .inr before
    | some named =>
      simp only [ref] at before
      rw [getEntry_setEntry] at before
      split_ifs at before
      · exact .inl (Option.some.inj before)
      · exact .inr before

/-! ### The ledger and the mappings -/

section Sides

variable (context : Context) (writes : List Write) (storeId : Uuid)

def storeMovements : List Movement :=
  (movementsOf writes).filter fun row => row.storeId = storeId && context.sees row.tenantId

def productMovements (product : Uuid) : List Movement :=
  (storeMovements context writes storeId).filter fun row => row.tenantProductRef = some product

/-- The on-hand of a product that occurs in the ledger of the store. -/
def ledgerQuantity (product : Uuid) : Option ℚ :=
  let rows := productMovements context writes storeId product
  if rows.isEmpty then none else some ((rows.map fun row => row.quantity.units).sum / 10 ^ 4)

def isMapped (product : Uuid) : Bool :=
  (confirmedMappings context writes).any fun row => row.tenantProductId = product

def binQuantity (binView : List (Uuid × String)) (product : Uuid) : Option ℚ :=
  (getEntry binView product).bind quantityOf

/-- `UQ_idx_erpnext_item_map_active`: a product has at most one active mapping. -/
def OneActiveMapping : Prop :=
  (itemMapsOf writes).Pairwise fun first second =>
    (first.isActive && second.isActive && first.sameProduct second) = false

/-- **The class of a product**, by its on-hand, its mapping and its quantity in the view. A product that the
ledger does not have was resolved by the report. -/
def prescribed (onHand : Option ℚ) (mapped : Bool) (bin : Option ℚ) : MismatchClass :=
  match onHand with
  | none => .erpnextOnly
  | some onHand =>
    if onHand < 0 then .negativeBalanceFlagged
    else if mapped = false then .unmappedItem
    else match bin with
      | none => .dp2Only
      | some bin => if onHand = bin then .matched else .quantityDivergence

end Sides

def ledgerProducts (context : Context) (writes : List Write) (storeId : Uuid) : List Uuid :=
  ((storeMovements context writes storeId).filterMap Movement.tenantProductRef).dedup

theorem mem_ledgerProducts :
    product ∈ ledgerProducts context writes storeId ↔
      ∃ row ∈ storeMovements context writes storeId, row.tenantProductRef = some product := by
  rw [ledgerProducts, List.mem_dedup, mem_filterMap]

def onHandText (context : Context) (writes : List Write) (storeId product : Uuid) : String :=
  String.ofList (Decimal.scaledText 4
    ((productMovements context writes storeId product).map fun row => row.quantity.units).sum)

theorem confirmed_once (indexed : OneActiveMapping writes) (product : Uuid) :
    ((confirmedMappings context writes).filter fun row => row.tenantProductId = product).length ≤ 1 := by
  rw [confirmedMappings, filter_filter]
  have apart := List.Pairwise.filter (fun row : Mapping =>
    decide (row.tenantProductId = product) && (row.isConfirmed && context.sees row.tenantId)) indexed
  generalize rows : (itemMapsOf writes).filter (fun row =>
    decide (row.tenantProductId = product) && (row.isConfirmed && context.sees row.tenantId)) = found at apart ⊢
  match found with
  | [] => exact Nat.zero_le _
  | [_] => exact le_refl _
  | first :: second :: rest =>
    exfalso
    have one := mem_filter.1 (rows ▸ mem_cons_self : first ∈ (itemMapsOf writes).filter _)
    have two := mem_filter.1 (rows ▸ mem_cons_of_mem _ mem_cons_self : second ∈ (itemMapsOf writes).filter _)
    have same := List.rel_of_pairwise_cons apart mem_cons_self
    simp only [Mapping.isConfirmed, and_eq_true, decide_eq_true_eq, sees_iff] at one two
    obtain ⟨-, rfl, ⟨-, active⟩, tenant⟩ := one
    obtain ⟨-, product, ⟨-, active'⟩, tenant'⟩ := two
    simp [Mapping.sameProduct, active, active', product, mem_unique tenant tenant'] at same

/-- **A product of the ledger has one row.** -/
theorem onHandRows_eq (indexed : OneActiveMapping writes) :
    onHandRows context writes storeId =
      (ledgerProducts context writes storeId).map fun product =>
      ⟨product, onHandText context writes storeId product, isMapped context writes product⟩ := by
  rw [List.map_eq_flatMap]
  refine List.flatMap_congr fun product _ => ?_
  have once : ((confirmedMappings context writes).filter fun row => row.tenantProductId = product).length ≤ 1 :=
    confirmed_once indexed product
  have mapped : isMapped context writes product =
      !((confirmedMappings context writes).filter fun row => row.tenantProductId = product).isEmpty := by
    rw [isMapped, Bool.eq_iff_iff]
    simp [List.any_eq_true, filter_eq_nil_iff]
  rw [mapped]
  cases found : (confirmedMappings context writes).filter fun row => row.tenantProductId = product with
  | nil => rfl
  | cons row rest =>
    rw [found] at once
    obtain rfl : rest = [] := length_eq_zero_iff.1 (by simpa using once)
    rfl

theorem ledgerQuantity_some (mem : product ∈ ledgerProducts context writes storeId) :
    ∃ q, ledgerQuantity context writes storeId product = some q ∧
      quantityOf (onHandText context writes storeId product) = some q := by
  obtain ⟨row, moved, ref⟩ := mem_ledgerProducts.1 mem
  have some : (productMovements context writes storeId product).isEmpty = false := by
    rw [List.isEmpty_eq_false_iff]
    exact ne_nil_of_mem (mem_filter.2 ⟨moved, decide_eq_true ref⟩)
  refine ⟨_, by rw [ledgerQuantity, if_neg (by rw [some]; nofun)], ?_⟩
  rw [quantityOf, onHandText, String.toList_ofList, Decimal.literal_scaledText 4 (by decide)]

theorem ledgerQuantity_none (absent : product ∉ ledgerProducts context writes storeId) :
    ledgerQuantity context writes storeId product = none := by
  have none : (productMovements context writes storeId product).isEmpty = true := by
    rw [isEmpty_iff, productMovements, filter_eq_nil_iff]
    intro row mem ref
    exact absent (mem_ledgerProducts.2 ⟨row, mem, of_decide_eq_true ref⟩)
  rw [ledgerQuantity, if_pos none]

/-- **The class the processor gives is the class of the numbers.** -/
theorem classify_prescribed {onHand : String} {q : ℚ} (exact : ∃ neg w f, Exact onHand neg w f)
    (number : quantityOf onHand = some q) (mapped : Bool) {bin : Option String}
    (reported : ∀ quantity, bin = some quantity → isQuantity quantity = true) :
    classify onHand mapped bin = prescribed (some q) mapped (bin.bind quantityOf) := by
  have sign := (canonicalDecimal_number exact exact number number).2
  unfold classify prescribed
  refine if_congr sign rfl ?_
  cases mapped with
  | false => rfl
  | true =>
    rw [if_neg (by decide), if_neg (by decide)]
    cases bin with
    | none => rfl
    | some quantity =>
      obtain ⟨neg, w, f, exact'⟩ := exact_of_quantity (reported quantity rfl)
      have number' : quantityOf quantity = some (amount neg w f) := exact'.literal
      have same := (canonicalDecimal_number exact ⟨neg, w, f, exact'⟩ number number').1
      rw [bind_some, number']
      dsimp only
      by_cases equal : q = amount neg w f
      · rw [if_neg fun apart => apart (same.2 equal), if_pos equal]
      · rw [if_pos (mt same.1 equal), if_neg equal]

/-! ### The lines of a comparison -/

def ExactReport (report : Option StoredBinViewReport) : Prop :=
  ∀ stored, report = some stored → ∀ entry ∈ stored.entries, isQuantity entry.quantity = true

/-- **The lines have every product of the ledger or of the view once, each with its class.** -/
structure Compared (context : Context) (writes : List Write) (storeId : Uuid)
    (report : Option StoredBinViewReport)
    (lines : List ComparedLine) : Prop where
  products : ∃ products : List Uuid, products.Nodup ∧ lines.map ComparedLine.sourceRefId = products.map some ∧
    ∀ product, product ∈ products ↔
      product ∈ ledgerProducts context writes storeId ∨ (getEntry (binViewOf report) product).isSome = true
  classes : ∀ line ∈ lines, ∃ product, line.sourceRefId = some product ∧
    line.mismatchClass = prescribed (ledgerQuantity context writes storeId product)
      (isMapped context writes product) (binQuantity (binViewOf report) product)

theorem classify_ledger (exact : ExactReport report)
    (known : product ∈ ledgerProducts context writes storeId) :
    classify (onHandText context writes storeId product) (isMapped context writes product)
      (getEntry (binViewOf report) product) =
      prescribed (ledgerQuantity context writes storeId product) (isMapped context writes product)
      (binQuantity (binViewOf report) product) := by
  obtain ⟨q, quantity, number⟩ := ledgerQuantity_some known
  rw [quantity, binQuantity]
  refine classify_prescribed (exact_scaledText _) number _ fun text found => ?_
  obtain ⟨stored, same, entry, inside, rfl⟩ := binViewOf_quantity found
  exact exact stored same entry inside

theorem comparedLines_compared (indexed : OneActiveMapping writes) (exact : ExactReport report) :
    Compared context writes storeId report
      (comparedLines (onHandRows context writes storeId) (binViewOf report)) := by
  have keys : (onHandRows context writes storeId).map OnHandRow.tenantProductRef =
      ledgerProducts context writes storeId := by
    rw [onHandRows_eq indexed, map_map]
    exact map_id' _
  constructor
  · refine ⟨ledgerProducts context writes storeId ++
      ((binViewOf report).map Prod.fst).filter fun product => product ∉ ledgerProducts context writes storeId,
      ?_, ?_, fun product => ?_⟩
    · refine nodup_append.2 ⟨List.nodup_dedup _, (binViewOf_keys report).filter _, ?_⟩
      intro first one second two same
      exact of_decide_eq_true (mem_filter.1 two).2 (same ▸ one)
    · rw [comparedLines, keys, map_append, map_append, map_map, map_map, filter_map, map_map]
      congr 1
      rw [onHandRows_eq indexed, map_map]
      rfl
    · rw [mem_append, mem_filter, getEntry_isSome, decide_eq_true_eq]
      tauto
  · intro line mem
    rcases mem_append.1 mem with here | there
    · obtain ⟨row, inLedger, rfl⟩ := mem_map.1 here
      rw [onHandRows_eq indexed] at inLedger
      obtain ⟨product, known, rfl⟩ := mem_map.1 inLedger
      refine ⟨product, rfl, ?_⟩
      dsimp only
      exact classify_ledger exact known
    · obtain ⟨pair, inView, rfl⟩ := mem_map.1 there
      have absent := of_decide_eq_true (mem_filter.1 inView).2
      rw [keys] at absent
      refine ⟨pair.1, rfl, ?_⟩
      rw [ledgerQuantity_none absent]
      rfl

theorem getEntry_counted {Element Key : Type} [DecidableEq Key] (key : Element → Key)
    (elements : List Element) (one : Key) :
    (getEntry
        (elements.foldl
            (fun counts element => setEntry counts (key element) ((getEntry counts (key element)).getD 0 + 1))
            []) one).getD 0 = elements.countP fun element => key element = one := by
  induction elements using List.reverseRecOn with
  | nil => rfl
  | append_singleton elements element ih =>
    rw [foldl_append, foldl_cons, foldl_nil, getEntry_setEntry, countP_append, ← ih, List.countP_singleton]
    by_cases same : one = key element
    · simp [same]
    · simp [same, Ne.symm same]

/-- **The counts are the numbers of the lines.** -/
theorem countClasses_get (lines : List ComparedLine) (mismatchClass : MismatchClass) :
    (getEntry (countClasses lines) mismatchClass).getD 0 =
      lines.countP fun line => line.mismatchClass = mismatchClass :=
  getEntry_counted ComparedLine.mismatchClass lines mismatchClass

end DataPulse.Stock
