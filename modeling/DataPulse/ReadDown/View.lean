/-
**The resolved sellable catalogue.**

* `sellableRow`: the row of a product at a store, as `resolveProducts` and `classifySellable` yield it,
  but for its sequence in the log.
-/

import DataPulse.ReadDown.Service

namespace DataPulse.ReadDown

open Lib Platform

variable {catalogue : Catalogue} {product : Product}
variable {productId tenantId : Uuid}

/-! ### The row of a product -/

def ResolvedCatalogRow.content (row : ResolvedCatalogRow) : ResolvedCatalogRow :=
  { row with rowSequence := none }

def sellableRow (catalogue : Catalogue) (tenantId storeId productId : Uuid) :
    Option ResolvedCatalogRow :=
  ((resolveProducts catalogue tenantId storeId 0 (.targeted [productId])).head?.bind fun row =>
    (classifySellable row).row?).map ResolvedCatalogRow.content

/-- The row of a product with its override, its `sku` and its `aliases`. -/
def mergedRow (product : Product) (spo : Option Override) (sku : Option String)
    (aliases : Option (List String)) : Option ResolvedCatalogRow :=
  (classifySellable
    { productId := product.id
      sku
      aliases
      name := product.name
      resolvedPrice := ((spo.bind Override.price).or product.defaultPrice).map Numeric.text
      resolvedCurrency := (spo.bind Override.currencyCode).or product.defaultCurrencyCode
      resolvedTaxCategory := (spo.bind Override.taxCategory).getD product.taxCategory
      resolvedActive := (spo.bind Override.isActive).getD product.isActive
      retiredAt := product.retiredAt
      rowSequence := none }).row?

theorem classifySellable_content (row : ResolvedRow) :
    (classifySellable row).row?.map ResolvedCatalogRow.content =
      (classifySellable { row with rowSequence := none }).row? := by
  unfold classifySellable
  cases row.resolvedPrice with
  | none => rfl
  | some amount =>
    cases row.resolvedCurrency with
    | none => rfl
    | some currencyCode =>
      dsimp only
      split_ifs <;> rfl

theorem resolveRow_content (catalogue : Catalogue) (tenantId storeId : Uuid) (headSeq : Nat)
    (product : Product) :
    (classifySellable (resolveRow catalogue tenantId storeId headSeq product)).row?.map
      ResolvedCatalogRow.content =
      mergedRow product (storeOverride catalogue tenantId storeId product.id)
      (skuOf catalogue tenantId storeId product.id) (aliasesOf catalogue tenantId storeId product.id) :=
  classifySellable_content _

/-- The product under an identifier, where the tenant has it. -/
def Catalogue.product? (catalogue : Catalogue) (tenantId productId : Uuid) : Option Product :=
  catalogue.products.find? fun product => product.tenantId = tenantId && product.id = productId

theorem product?_id (found : catalogue.product? tenantId productId = some product) :
    product ∈ catalogue.products ∧ product.tenantId = tenantId ∧ product.id = productId := by
  have matched := find?_some found
  simp only [and_eq_true, decide_eq_true_eq] at matched
  exact ⟨mem_of_find?_eq_some found, matched.1, matched.2⟩

theorem selectProducts_targeted (catalogue : Catalogue) (tenantId productId : Uuid) :
    selectProducts catalogue tenantId (.targeted [productId]) =
      catalogue.products.filter fun product => product.tenantId = tenantId && product.id = productId := by
  have selected : (Mode.targeted [productId]).selects tenantId = fun product =>
      product.tenantId = tenantId && product.id = productId := by
    funext product
    simp [Mode.selects]
  rw [selectProducts, Mode.limits, selected]
  refine List.Pairwise.insertionSort_eq (List.pairwise_of_forall_mem_list ?_)
  intro first inOne second inTwo
  have one := (mem_filter.1 inOne).2
  have two := (mem_filter.1 inTwo).2
  simp only [and_eq_true, decide_eq_true_eq] at one two
  simp [one.2, two.2, Uuid.precedes]

/-- **The row is made of the product, its override and its aliases.** -/
theorem sellableRow_eq (catalogue : Catalogue) (tenantId storeId productId : Uuid) :
    sellableRow catalogue tenantId storeId productId =
      (catalogue.product? tenantId productId).bind
      fun product => mergedRow product (storeOverride catalogue tenantId storeId productId)
      (skuOf catalogue tenantId storeId productId) (aliasesOf catalogue tenantId storeId productId) := by
  rw [sellableRow, resolveProducts, selectProducts_targeted, head?_map, head?_filter]
  change ((Option.map _ (catalogue.product? tenantId productId)).bind _).map _ = _
  cases found : catalogue.product? tenantId productId with
  | none => rfl
  | some product =>
    obtain ⟨-, -, rfl⟩ := product?_id found
    exact resolveRow_content catalogue tenantId storeId 0 product

theorem sellableRow_of_absent
    (absent : ∀ product ∈ catalogue.products, product.tenantId = tenantId → product.id ≠ productId)
    (storeId : Uuid) : sellableRow catalogue tenantId storeId productId = none := by
  have nothing : catalogue.product? tenantId productId = none := by
    refine find?_eq_none.2 fun product inside matched => ?_
    simp only [and_eq_true, decide_eq_true_eq] at matched
    exact absent product inside matched.1 matched.2
  rw [sellableRow_eq, nothing]
  rfl

theorem product?_of_mem (keys : (catalogue.products.map Product.id).Nodup)
    (inside : product ∈ catalogue.products) :
    catalogue.product? product.tenantId product.id = some product := by
  cases found : catalogue.product? product.tenantId product.id with
  | none =>
    have missed := find?_eq_none.1 found product inside
    simp at missed
  | some other =>
    obtain ⟨there, -, same⟩ := product?_id found
    exact congrArg some (inj_on_of_nodup_map keys there inside same)

theorem sellableRow_of_mem (keys : (catalogue.products.map Product.id).Nodup)
    (inside : product ∈ catalogue.products) (storeId : Uuid) :
    sellableRow catalogue product.tenantId storeId product.id =
      mergedRow product (storeOverride catalogue product.tenantId storeId product.id)
      (skuOf catalogue product.tenantId storeId product.id)
      (aliasesOf catalogue product.tenantId storeId product.id) := by
  rw [sellableRow_eq, product?_of_mem keys inside]
  rfl

/-! ### What a row brings -/

structure OverrideFields where
  price : Option Numeric
  currencyCode : Option String
  isActive : Option Bool
  taxCategory : Option String

structure AliasFields where
  isSku : Bool
  value : String
  storeId : Option Uuid

def Override.fields (row : Override) : OverrideFields :=
  ⟨row.price, row.currencyCode, row.isActive, row.taxCategory⟩

def Alias.fields (row : Alias) : AliasFields := ⟨row.isSku, row.identifier.value, row.storeId⟩

def Product.at (tenantId productId : Uuid) (row : Product) : Option Product :=
  if row.tenantId = tenantId && row.id = productId then some row else none

def Override.at (tenantId storeId productId : Uuid) (row : Override) : Option OverrideFields :=
  if row.tenantId = tenantId && row.storeId = storeId && row.productId = productId &&
    row.retiredAt.isNone then some row.fields else none

def Alias.at (tenantId storeId productId : Uuid) (row : Alias) : Option AliasFields :=
  if row.reaches tenantId storeId productId then some row.fields else none

theorem filterMap_select {α β : Type} (chosen : α → Bool) (fields : α → β) (rows : List α) :
    rows.filterMap (fun row => if chosen row then some (fields row) else none) =
      (rows.filter chosen).map fields := by
  induction rows with
  | nil => rfl
  | cons row rest ih => by_cases fits : chosen row <;> simp [fits, ih]

section Congruence

variable {first second : Catalogue} {tenantId storeId productId : Uuid}

theorem product?_congr
    (same : first.products.filterMap (Product.at tenantId productId) =
      second.products.filterMap (Product.at tenantId productId)) :
    first.product? tenantId productId = second.product? tenantId productId := by
  unfold Product.at at same
  rw [filterMap_select _ (fun row => row), filterMap_select _ (fun row => row), map_id', map_id'] at same
  unfold Catalogue.product?
  rw [← head?_filter, same, head?_filter]

theorem storeOverride_congr
    (same : first.overrides.filterMap (Override.at tenantId storeId productId) =
      second.overrides.filterMap (Override.at tenantId storeId productId)) :
    (storeOverride first tenantId storeId productId).map Override.fields =
      (storeOverride second tenantId storeId productId).map Override.fields := by
  unfold Override.at at same
  rw [filterMap_select, filterMap_select] at same
  unfold storeOverride
  rw [← head?_filter, ← head?_filter, ← head?_map, ← head?_map, same]

theorem skuOf_eq (catalogue : Catalogue) :
    skuOf catalogue tenantId storeId productId =
      (((catalogue.aliases.filterMap (Alias.at tenantId storeId productId)).filter
          AliasFields.isSku).insertionSort fun first second => nullsLast first.storeId
        second.storeId).head?.map AliasFields.value := by
  unfold Alias.at
  rw [filterMap_select, filter_map, filter_filter]
  have same : (fun row : Alias => row.reaches tenantId storeId productId && row.isSku) =
      fun row => (AliasFields.isSku ∘ Alias.fields) row && row.reaches tenantId storeId productId := by
    funext row
    simp [Alias.fields, Bool.and_comm]
  have mapped := List.map_insertionSort (fun first second : Alias => nullsLast first.storeId second.storeId) (fun
    first second : AliasFields => nullsLast first.storeId
      second.storeId) Alias.fields (catalogue.aliases.filter fun
    row => (AliasFields.isSku ∘ Alias.fields) row && row.reaches tenantId storeId productId) fun _ _ _ _ =>
      Iff.rfl
  rw [← mapped, head?_map, Option.map_map, skuOf, same]
  rfl

theorem aliasesOf_eq (catalogue : Catalogue) : aliasesOf catalogue tenantId storeId productId =
      (let values := ((catalogue.aliases.filterMap (Alias.at tenantId storeId productId)).filter
          fun fields => !fields.isSku).map AliasFields.value
        if values = [] then none else some (values.insertionSort (· ≤ ·))) := by
  unfold Alias.at
  rw [filterMap_select, filter_map, filter_filter, map_map]
  unfold aliasesOf
  have same :
      (fun row : Alias => row.reaches tenantId storeId productId && !row.isSku) = fun row => ((fun fields :
          AliasFields => !fields.isSku) ∘ Alias.fields) row && row.reaches tenantId storeId productId := by
    funext row
    simp [Alias.fields, Bool.and_comm]
  rw [same]
  rfl

/-- **Contents that agree on the product, its override and its aliases agree on the row.** -/
theorem sellableRow_congr
    (products : first.products.filterMap (Product.at tenantId productId) =
        second.products.filterMap (Product.at tenantId productId))
    (overrides : first.overrides.filterMap (Override.at tenantId storeId productId) =
        second.overrides.filterMap (Override.at tenantId storeId productId))
    (aliases : first.aliases.filterMap (Alias.at tenantId storeId productId) =
      second.aliases.filterMap (Alias.at tenantId storeId productId)) :
    sellableRow first tenantId storeId productId = sellableRow second tenantId storeId productId := by
  have merged : ∀ (product : Product) (one two : Option Override) (sku : Option String)
      (others : Option (List String)), one.map Override.fields = two.map Override.fields →
      mergedRow product one sku others = mergedRow product two sku others := by
    intro product one two sku others same
    cases one <;> cases two <;> simp_all [Override.fields, mergedRow]
  rw [sellableRow_eq, sellableRow_eq, product?_congr products, skuOf_eq, skuOf_eq, aliasesOf_eq, aliasesOf_eq,
    aliases]
  congr 1
  funext product
  exact merged product _ _ _ _ (storeOverride_congr overrides)

end Congruence

/-! ### Statements that bring nothing -/

section Keeps

variable {α β : Type} [DecidableEq α]

def RowChange.Unseen (select : α → Option β) : RowChange α → Prop
  | insert new => select new = none
  | update old new => select old = select new
  | delete old => select old = none

/-- **A statement that brings nothing new leaves the selection alone.** -/
theorem RowChange.keeps {select : α → Option β} {change : RowChange α} (unseen : change.Unseen select)
    (rows : List α) : (change.apply rows).filterMap select = rows.filterMap select := by
  cases change with
  | insert new =>
    simp only [RowChange.Unseen] at unseen
    simp [RowChange.apply, unseen]
  | update old new =>
    simp only [RowChange.Unseen] at unseen
    rw [RowChange.apply, filterMap_map]
    refine filterMap_congr fun row _ => ?_
    by_cases same : row = old
    · simp [same, unseen]
    · simp [same]
  | delete old =>
    simp only [RowChange.Unseen] at unseen
    induction rows with
    | nil => rfl
    | cons row rest ih =>
      have kept : (rest.filter (· ≠ old)).filterMap select = rest.filterMap select := ih
      rw [RowChange.apply]
      by_cases same : row = old
      · rw [List.filter_cons_of_neg (by simp [same]), kept, filterMap_cons, same, unseen]
      · rw [filter_cons_of_pos (by simp [same]), filterMap_cons, filterMap_cons,
          kept]

end Keeps

end DataPulse.ReadDown
