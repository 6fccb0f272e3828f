/-
**A page of deltas.**

* `Unread`: the log has a row of the product in the stream of the store beyond a sequence.
-/

import DataPulse.ReadDown.Snapshot

namespace DataPulse.ReadDown

open Lib Platform

/-! ### The changed products of a page -/

/-- The log has a row of the product in the stream beyond the sequence. -/
def Unread (tenantId storeId : Uuid) (sequence : Nat) (log : List ChangeLogRow) (productId : Uuid) : Prop :=
  ∃ row ∈ log, row.inStream tenantId storeId = true ∧ row.productId = productId ∧
    sequence < row.sequence

instance (tenantId storeId : Uuid) (sequence : Nat) (log : List ChangeLogRow) (productId : Uuid) :
    Decidable (Unread tenantId storeId sequence log productId) :=
  inferInstanceAs (Decidable (∃ row ∈ log, _))

variable {tenantId storeId : Uuid} {catalogue : Catalogue}

section Changed

variable {since : Nat}
variable {productId : Uuid}

theorem mem_changedProducts {changed : ChangedProduct} :
    changed ∈ changedProducts tenantId storeId since catalogue ↔
      ∃ row ∈ catalogue.log, row.inStream tenantId storeId = true ∧ since < row.sequence ∧
      row.productId = changed.productId ∧ row.sequence = changed.maxSeq ∧
      ∀ other ∈ catalogue.log, other.inStream tenantId storeId = true → since < other.sequence →
      other.productId = row.productId → other.sequence ≤ row.sequence := by
  unfold changedProducts
  simp only [mem_insertionSort, mem_map, mem_filter, all_eq_true, and_eq_true, decide_eq_true_eq]
  constructor
  · rintro ⟨row, ⟨⟨inside, stream, later⟩, last⟩, rfl⟩
    exact ⟨row, inside, stream, later, rfl, rfl, fun other there streams beyond same =>
      last other ⟨there, streams, beyond⟩ same⟩
  · rintro ⟨row, inside, stream, later, product, sequence, last⟩
    refine ⟨row,
      ⟨⟨inside, stream, later⟩, fun other there same => last other there.1 there.2.1 there.2.2 same⟩, ?_⟩
    rw [product, sequence]

/-- **Every unread product has changed.** -/
theorem changed_of_unread (unread : Unread tenantId storeId since catalogue.log productId) :
    ∃ changed ∈ changedProducts tenantId storeId since catalogue, changed.productId = productId := by
  let rows := catalogue.log.filter fun row => row.inStream tenantId storeId &&
    decide (row.productId = productId) && decide (since < row.sequence)
  have mem : ∀ {row}, row ∈ rows ↔ row ∈ catalogue.log ∧ row.inStream tenantId storeId = true ∧
      row.productId = productId ∧ since < row.sequence := by
    intro row
    simp [rows, and_assoc]
  obtain ⟨first, inside, stream, product, later⟩ := unread
  have nonempty : rows ≠ [] := ne_nil_of_mem (mem.2 ⟨inside, stream, product, later⟩)
  obtain ⟨last, isLast⟩ : ∃ last, last ∈ rows.argmax ChangeLogRow.sequence := by
    cases maximum : rows.argmax ChangeLogRow.sequence with
    | none => exact absurd (List.argmax_eq_none.1 maximum) nonempty
    | some last => exact ⟨last, rfl⟩
  obtain ⟨there, streams, id, beyond⟩ := mem.1 (List.argmax_mem isLast)
  refine ⟨⟨productId, last.sequence⟩, mem_changedProducts.2 ⟨last, there, streams, beyond, id, rfl,
    fun other inLog inStream unread same => ?_⟩, rfl⟩
  exact List.le_of_mem_argmax (mem.2 ⟨inLog, inStream, same.trans id, unread⟩) isLast

theorem changedProducts_sorted :
    (changedProducts tenantId storeId since catalogue).Pairwise fun first second => first.maxSeq ≤
      second.maxSeq := by
  have total : Std.Total fun first second : ChangedProduct => first.maxSeq ≤ second.maxSeq :=
    ⟨fun first second => Nat.le_total first.maxSeq second.maxSeq⟩
  have trans : IsTrans ChangedProduct fun first second => first.maxSeq ≤ second.maxSeq :=
    ⟨fun _ _ _ => Nat.le_trans⟩
  exact pairwise_insertionSort _ _

theorem changed_inj (keys : (catalogue.log.map ChangeLogRow.sequence).Nodup) {first second : ChangedProduct}
    (one : first ∈ changedProducts tenantId storeId since catalogue)
    (two : second ∈ changedProducts tenantId storeId since catalogue) (same : first.maxSeq = second.maxSeq) :
    first.productId = second.productId := by
  obtain ⟨row, inside, -, -, product, sequence, -⟩ := mem_changedProducts.1 one
  obtain ⟨other, there, -, -, product', sequence', -⟩ := mem_changedProducts.1 two
  have equal : row = other := inj_on_of_nodup_map keys inside there (sequence.trans (same.trans sequence'.symm))
  rw [← product, ← product', equal]

/-- **An unread product is on the page or still unread behind it.** -/
theorem pageRows_or_later (keys : (catalogue.log.map ChangeLogRow.sequence).Nodup) {limit : Nat}
    (positive : 0 < limit) (unread : Unread tenantId storeId since catalogue.log productId)
    (headAt : Catalogue) :
    productId ∈ (pageRows tenantId storeId limit since catalogue).map ChangedProduct.productId ∨
      Unread tenantId storeId (advancedSequence tenantId storeId limit since headAt catalogue) catalogue.log
      productId := by
  obtain ⟨changed, inside, rfl⟩ := changed_of_unread unread
  by_cases onPage : changed.productId ∈
    (pageRows tenantId storeId limit since catalogue).map ChangedProduct.productId
  · exact .inl onPage
  · have parts := take_append_drop limit (changedProducts tenantId storeId since catalogue)
    have behind : changed ∈ (changedProducts tenantId storeId since catalogue).drop limit := by
      rw [← parts] at inside
      exact (mem_append.1 inside).resolve_left fun taken => onPage (mem_map_of_mem taken)
    cases ends : (pageRows tenantId storeId limit since catalogue).getLast? with
    | none =>
      -- An empty page has nothing behind it.
      have nothing := List.getLast?_eq_none_iff.1 ends
      rcases List.take_eq_nil_iff.1 nothing with zero | empty
      · omega
      · rw [empty] at inside
        cases inside
    | some last =>
      have taken : last ∈ pageRows tenantId storeId limit since catalogue := mem_of_getLast? ends
      have sorted : (changedProducts tenantId storeId since catalogue).Pairwise
          fun first second => first.maxSeq ≤ second.maxSeq := changedProducts_sorted
      rw [← parts] at sorted
      have upTo : last.maxSeq ≤ changed.maxSeq := (pairwise_append.1 sorted).2.2 last taken changed behind
      have unlike : last.maxSeq ≠ changed.maxSeq := fun same => onPage
        (changed_inj keys (mem_of_mem_take taken) inside same ▸ mem_map_of_mem taken)
      obtain ⟨row, there, stream, -, product, sequence, -⟩ := mem_changedProducts.1 inside
      refine .inr ⟨row, there, stream, product, ?_⟩
      rw [advancedSequence, ends, sequence]
      exact lt_of_le_of_ne upTo unlike

end Changed

/-! ### A terminal's replica -/

abbrev Replica := Uuid → Option SellableCatalogRow

/-- What the replica has of a product, but for the cursor of the row. -/
def Replica.content (replica : Replica) (productId : Uuid) : Option SellableCatalogRow :=
  (replica productId).map SellableCatalogRow.content

def replicaOf (items : List SellableCatalogRow) : Replica := fun productId =>
  items.find? fun row => row.productId = productId

def applyOp (replica : Replica) : CatalogDeltaOp → Replica
  | .upsert productId row _ => Function.update replica productId (some row)
  | .removeFromSellable productId _ => Function.update replica productId none

section Ops

variable {headSeq : Nat} {productIds : List Uuid} (keys : (catalogue.products.map Product.id).Nodup)

include keys

/-- **The op of a product brings what the store is offered of it.** -/
theorem applyOp_deltaOp (replica : Replica) {changed : ChangedProduct}
    (asked : changed.productId ∈ productIds) (productId : Uuid) :
    (applyOp replica
        (deltaOp tenantId storeId (resolveProducts catalogue tenantId storeId headSeq (.targeted productIds))
          changed)).content productId =
      if productId = changed.productId then offered catalogue tenantId storeId productId else
      replica.content productId := by
  -- The resolution has the product, if the tenant has it.
  have resolved : ((resolveProducts catalogue tenantId storeId headSeq
      (.targeted productIds)).find? fun row => row.productId = changed.productId) =
        (catalogue.product? tenantId changed.productId).map (resolveRow catalogue tenantId storeId headSeq) := by
    rw [resolveProducts, find?_map]
    change ((selectProducts catalogue tenantId (.targeted productIds)).find? fun product =>
      product.id = changed.productId).map _ = _
    congr 1
    have mem : ∀ product, product ∈ selectProducts catalogue tenantId (.targeted productIds) ↔
        product ∈ catalogue.products ∧ product.tenantId = tenantId ∧ product.id ∈ productIds := by
      intro product
      simp [selectProducts, Mode.limits, Mode.selects]
    cases found : catalogue.product? tenantId changed.productId with
    | none =>
      refine find?_eq_none.2 fun product inside matched => ?_
      obtain ⟨there, tenant, -⟩ := (mem product).1 inside
      have missed := find?_eq_none.1 found product there
      simp only [and_eq_true, decide_eq_true_eq, tenant, true_and] at missed matched
      exact missed matched
    | some product =>
      obtain ⟨inside, tenant, id⟩ := product?_id found
      cases search : (selectProducts catalogue tenantId (.targeted productIds)).find? fun product =>
          product.id = changed.productId with
      | none =>
        have missed := find?_eq_none.1 search product ((mem product).2 ⟨inside, tenant, id ▸ asked⟩)
        simp [id] at missed
      | some other =>
        have matched := find?_some search
        rw [decide_eq_true_eq] at matched
        obtain ⟨there, -⟩ := (mem other).1 (mem_of_find?_eq_some search)
        rw [inj_on_of_nodup_map keys there inside (matched.trans id.symm)]
  unfold deltaOp
  dsimp only
  rw [resolved]
  by_cases here : productId = changed.productId
  · subst here
    rw [if_pos rfl]
    cases found : catalogue.product? tenantId changed.productId with
    | none =>
      have gone : sellableRow catalogue tenantId storeId changed.productId = none := by
        rw [sellableRow_eq, found]
        rfl
      simp [applyOp, Replica.content, offered, gone]
    | some product =>
      obtain ⟨inside, tenant, id⟩ := product?_id found
      have there : product ∈ tenantProducts catalogue tenantId := mem_tenantProducts.2 ⟨inside, tenant⟩
      have brought : offered catalogue tenantId storeId changed.productId =
          (offer catalogue tenantId storeId headSeq product).map fun row => (toSellableRow row
            (encodeCursor ⟨tenantId, storeId, changed.maxSeq⟩)).content := by
        rw [← id]
        exact (offer_content keys headSeq _ there).symm
      rw [brought, offer, map_some]
      cases verdict : classifySellable (resolveRow catalogue tenantId storeId headSeq product) with
      | sellable row | excluded priceRelated => simp [applyOp, Replica.content, Sellability.row?, verdict]
  · rw [if_neg here]
    split <;> simp [applyOp, Replica.content, here]

/-- **After the ops the replica has what the store is offered of their products.** -/
theorem applyOps_exact (changed : List ChangedProduct) (replica : Replica)
    (asked : ∀ one ∈ changed, one.productId ∈ productIds) (productId : Uuid) :
    ((changed.map
          (deltaOp tenantId storeId
            (resolveProducts catalogue tenantId storeId headSeq (.targeted productIds)))).foldl applyOp
        replica).content productId =
      if productId ∈ changed.map ChangedProduct.productId then
      offered catalogue tenantId storeId productId else replica.content productId := by
  induction changed generalizing replica with
  | nil => simp
  | cons one rest ih =>
    rw [map_cons, foldl_cons, ih _ fun other inside => asked other (.tail _ inside)]
    rw [applyOp_deltaOp keys replica (asked one mem_cons_self)]
    by_cases inRest : productId ∈ rest.map ChangedProduct.productId
    · simp [inRest]
    · by_cases here : productId = one.productId
      · simp [here]
      · rw [if_neg inRest, if_neg here, if_neg]
        rw [map_cons, mem_cons]
        exact not_or.2 ⟨here, inRest⟩

end Ops

end DataPulse.ReadDown
