/-
**What the triggers log.**

A statement is covered when, wherever it can be executed, every product whose row at a store it changes
has a log row in the stream of that store.

* `covered_iff`: exactly which statements are covered.
-/

import DataPulse.ReadDown.View

namespace DataPulse.ReadDown

open Lib Platform
open Unknowns (Identifier IdentifierType)

/-! ### Covered statements -/

/-- Every product whose row the statement changes at a store has a log row in the stream of the store. -/
def Covered (change : Change) : Prop :=
  ∀ (reference : Reference) (catalogue : Catalogue), Admits reference catalogue change →
    ∀ tenantId storeId productId : Uuid, reference.storeTenant storeId = some tenantId →
      sellableRow catalogue tenantId storeId productId ≠
        sellableRow (change.apply catalogue) tenantId storeId productId →
      ∃ row ∈ change.logged, row.inStream tenantId storeId = true ∧ row.productId = productId

/-- The product is sellable where no override joins it. -/
def Product.sellsAlone (product : Product) : Bool :=
  product.isSellableBase &&
    match product.defaultPrice, product.defaultCurrencyCode with
    | some price, some currencyCode => isRepresentable price.text currencyCode
    | _, _ => false

/-- The statement leaves no place that the log does not tell of. -/
def Change.Tracked : Change → Prop
  | product (.update old new) =>
    if new.id = old.id then new.tenantId = old.tenantId ∨ old.retiredAt.isSome
    else old.sellsAlone = false
  | product (.delete old) => old.sellsAlone = false
  | override (.update old new) =>
    old.retiredAt.isSome ∨
      new.tenantId = old.tenantId ∧ new.storeId = old.storeId ∧ new.productId = old.productId
  | .alias (.update old new) =>
    old.retiredAt.isSome ∨
      new.tenantId = old.tenantId ∧ new.productId = old.productId ∧
        (new.storeId = old.storeId ∨ new.storeId = none)
  | _ => True

instance : (change : Change) → Decidable change.Tracked
  | .product (.insert _) => .isTrue trivial
  | .product (.update old new) => inferInstanceAs (Decidable
      (if new.id = old.id then new.tenantId = old.tenantId ∨ old.retiredAt.isSome
        else old.sellsAlone = false))
  | .product (.delete old) => inferInstanceAs (Decidable (old.sellsAlone = false))
  | .override (.insert _) => .isTrue trivial
  | .override (.update old new) => inferInstanceAs (Decidable (old.retiredAt.isSome ∨
      new.tenantId = old.tenantId ∧ new.storeId = old.storeId ∧ new.productId = old.productId))
  | .override (.delete _) => .isTrue trivial
  | .alias (.insert _) => .isTrue trivial
  | .alias (.update old new) => inferInstanceAs (Decidable (old.retiredAt.isSome ∨
      new.tenantId = old.tenantId ∧ new.productId = old.productId ∧
        (new.storeId = old.storeId ∨ new.storeId = none)))
  | .alias (.delete _) => .isTrue trivial

/-! ### Log rows and what the rows bring -/

variable {tenantId storeId productId : Uuid}

/-- The statement logs nothing for the product in the stream. -/
def Silent (tenantId storeId productId : Uuid) (logged : List ChangeLogValues) : Prop :=
  ∀ row ∈ logged, row.inStream tenantId storeId = true → row.productId ≠ productId

variable {row : Override} {logged : List ChangeLogValues} {product old new : Product}
  {change : Change} {productId owner : Uuid}

theorem Override.at_elsewhere
    (elsewhere : ¬ (row.tenantId = tenantId ∧ row.storeId = storeId ∧ row.productId = productId)) :
    row.at tenantId storeId productId = none := by
  refine if_neg fun here => ?_
  simp only [and_eq_true, decide_eq_true_eq] at here
  exact elsewhere ⟨here.1.1.1, here.1.1.2, here.1.2⟩

theorem Override.at_retired (retired : row.retiredAt.isSome) : row.at tenantId storeId productId = none := by
  refine if_neg fun here => ?_
  simp only [and_eq_true, isNone_iff_eq_none] at here
  rw [here.2] at retired
  cases retired

theorem Alias.at_elsewhere {row : Alias}
    (elsewhere : ¬ (row.tenantId = tenantId ∧ row.productId = productId ∧ row.storeId.all (· = storeId))) :
    row.at tenantId storeId productId = none := by
  refine if_neg fun here => ?_
  simp only [Alias.reaches, and_eq_true, decide_eq_true_eq] at here
  exact elsewhere ⟨here.1.1.1, here.1.1.2, here.2⟩

theorem Alias.at_retired {row : Alias} (retired : row.retiredAt.isSome) : row.at tenantId storeId productId =
    none := by
  refine if_neg fun here => ?_
  simp only [Alias.reaches, and_eq_true, isNone_iff_eq_none] at here
  rw [here.1.2] at retired
  cases retired

theorem Product.at_elsewhere {row : Product} (elsewhere : ¬ (row.tenantId = tenantId ∧ row.id = productId)) :
    row.at tenantId productId = none := by
  refine if_neg fun here => ?_
  simp only [and_eq_true, decide_eq_true_eq] at here
  exact elsewhere here

theorem Override.silent_elsewhere {op : Op} (silent : Silent tenantId storeId productId logged)
    (writes : ⟨row.tenantId, some row.storeId, row.productId, op⟩ ∈ logged) :
    row.at tenantId storeId productId = none := by
  refine Override.at_elsewhere fun ⟨tenant, store, product⟩ => silent _ writes ?_ product
  simp [ChangeLogValues.inStream, tenant, store]

theorem Alias.silent_elsewhere {row : Alias} {op : Op} (silent : Silent tenantId storeId productId logged)
    (writes : ⟨row.tenantId, row.storeId, row.productId, op⟩ ∈ logged) :
    row.at tenantId storeId productId = none := by
  refine Alias.at_elsewhere fun ⟨tenant, product, store⟩ => silent _ writes ?_ product
  simp only [ChangeLogValues.inStream, tenant, store, decide_true, Bool.and_self]

/-- **An override's statement that logs nothing for the product brings it nothing.** -/
theorem override_unseen {change : RowChange Override} (tracked : (Change.override change).Tracked)
    (silent : Silent tenantId storeId productId (catalogChangeLogFromStoreOverrides change)) :
    change.Unseen (Override.at tenantId storeId productId) := by
  cases change with
  | insert new | delete old => exact Override.silent_elsewhere silent mem_cons_self
  | update old new =>
    change old.at tenantId storeId productId = new.at tenantId storeId productId
    unfold catalogChangeLogFromStoreOverrides at silent
    dsimp only at silent
    split at silent
    · rename_i unchanged
      -- Nothing the resolver reads is unlike.
      simp only [not_eq_true', or_eq_false_iff, decide_eq_false_iff_not, not_not] at unchanged
      obtain ⟨⟨⟨⟨price, currency⟩, active⟩, tax⟩, retired⟩ := unchanged
      rcases tracked with gone | ⟨tenant, store, product⟩
      · rw [Override.at_retired gone, Override.at_retired (retired ▸ gone)]
      · simp only [Override.at, Override.fields, price, currency, active, tax, retired, tenant, store, product]
    · -- The new place is elsewhere, and so is the old one.
      have moved : ¬ (new.tenantId = tenantId ∧ new.storeId = storeId ∧ new.productId = productId) := by
        rintro ⟨tenant, store, product⟩
        refine silent _ mem_cons_self ?_ product
        simp [ChangeLogValues.inStream, tenant, store]
      rw [Override.at_elsewhere moved]
      rcases tracked with gone | ⟨tenant, store, product⟩
      · exact Override.at_retired gone
      · rw [tenant, store, product] at moved
        exact Override.at_elsewhere moved

/-- **An alias's statement that logs nothing for the product brings it nothing.** -/
theorem alias_unseen {change : RowChange Alias} (tracked : (Change.alias change).Tracked)
    (silent : Silent tenantId storeId productId (catalogChangeLogFromProductAliases change)) :
    change.Unseen (Alias.at tenantId storeId productId) := by
  cases change with
  | insert new | delete old => exact Alias.silent_elsewhere silent mem_cons_self
  | update old new =>
    change old.at tenantId storeId productId = new.at tenantId storeId productId
    unfold catalogChangeLogFromProductAliases at silent
    dsimp only at silent
    split at silent
    · rename_i unchanged
      simp only [not_eq_true', or_eq_false_iff, decide_eq_false_iff_not, not_not] at unchanged
      obtain ⟨⟨⟨value, kind⟩, retired⟩, store⟩ := unchanged
      rcases tracked with gone | ⟨tenant, product, -⟩
      · rw [Alias.at_retired gone, Alias.at_retired (retired ▸ gone)]
      · have reach : old.reaches tenantId storeId productId = new.reaches tenantId storeId productId := by
          rw [Alias.reaches, Alias.reaches, tenant, product, retired, store]
        have same : old.fields = new.fields := by
          rw [Alias.fields, Alias.fields, Alias.isSku, Alias.isSku, value, kind, store]
        rw [Alias.at, Alias.at, reach, same]
    · have moved : ¬ (new.tenantId = tenantId ∧ new.productId = productId ∧ new.storeId.all (· = storeId)) := by
        rintro ⟨tenant, product, store⟩
        refine silent _ mem_cons_self ?_ product
        simp only [ChangeLogValues.inStream, tenant, store, decide_true, Bool.and_self]
      rw [Alias.at_elsewhere moved]
      rcases tracked with gone | ⟨tenant, product, store⟩
      · exact Alias.at_retired gone
      · refine Alias.at_elsewhere ?_
        rintro ⟨here, there, reached⟩
        refine moved ⟨tenant.trans here, product.trans there, ?_⟩
        rcases store with same | wide
        · rw [same]
          exact reached
        · rw [wide]
          rfl

/-! ### Products -/

section Products

variable {reference : Reference} {catalogue : Catalogue}

theorem mergedRow_retired (retired : product.retiredAt.isSome) (spo : Option Override) (sku : Option String)
    (aliases : Option (List String)) : mergedRow product spo sku aliases = none := by
  have standing : product.retiredAt.isNone = false := by simpa using retired
  unfold mergedRow classifySellable
  simp only [standing, Bool.and_false, Bool.not_false, if_true]
  split
  · split_ifs <;> rfl
  · rfl

theorem mergedRow_alone (product : Product) (sku : Option String) (aliases : Option (List String)) :
    (mergedRow product none sku aliases).isSome = product.sellsAlone := by
  unfold mergedRow classifySellable Product.sellsAlone Product.isSellableBase
  cases price : product.defaultPrice with
  | none => simp [Sellability.row?]
  | some amount =>
    cases currency : product.defaultCurrencyCode with
    | none => simp [Sellability.row?]
    | some currencyCode =>
      cases representable : isRepresentable amount.text currencyCode <;>
        cases active : product.isActive <;> cases retired : product.retiredAt <;>
          simp [representable, Sellability.row?]

/-- **No row where the product is retired, or unsellable by itself and without an override.** -/
theorem sellableRow_eq_none
    (void : ∀ product ∈ catalogue.products, product.tenantId = tenantId → product.id = productId →
      product.retiredAt.isSome ∨
      storeOverride catalogue tenantId storeId productId = none ∧ product.sellsAlone = false) :
    sellableRow catalogue tenantId storeId productId = none := by
  rw [sellableRow_eq]
  cases found : catalogue.product? tenantId productId with
  | none => rfl
  | some product =>
    obtain ⟨inside, tenant, id⟩ := product?_id found
    rcases void product inside tenant id with retired | ⟨bare, unsellable⟩
    · exact mergedRow_retired retired _ _ _
    · rw [bare, bind_some, ← not_isSome_iff_eq_none, mergedRow_alone, unsellable]
      exact false_ne_true

theorem storeOverride_unreferenced {other : Catalogue} (fits : OverridesFit reference other)
    (absent : ¬ other.Has productId) (same : catalogue.overrides = other.overrides) :
    storeOverride catalogue tenantId storeId productId = none := by
  refine find?_eq_none.2 fun row inside matched => ?_
  simp only [and_eq_true, decide_eq_true_eq] at matched
  exact absent (matched.1.2 ▸ (fits.2.2 row (same ▸ inside)).2.2)

theorem product_elsewhere {change : RowChange Product}
    (unseen : change.Unseen (Product.at tenantId productId)) :
    sellableRow catalogue tenantId storeId productId =
      sellableRow ((Change.product change).apply catalogue) tenantId storeId productId :=
  sellableRow_congr (change.keeps unseen catalogue.products).symm rfl rfl

theorem product_unchanged
    (silent : Silent tenantId storeId productId (catalogChangeLogFromTenantProducts (.update old new)))
    (tenant : new.tenantId = tenantId) (id : new.id = productId) :
    new.defaultPrice = old.defaultPrice ∧ new.defaultCurrencyCode = old.defaultCurrencyCode ∧
      new.isActive = old.isActive ∧ new.retiredAt = old.retiredAt ∧ new.taxCategory = old.taxCategory ∧
      new.name = old.name := by
  unfold catalogChangeLogFromTenantProducts at silent
  dsimp only at silent
  split at silent
  · rename_i unchanged
    simp only [and_eq_true, not_eq_true', or_eq_false_iff, decide_eq_false_iff_not, not_not] at unchanged
    obtain ⟨⟨⟨⟨⟨⟨price, currency⟩, active⟩, retired⟩, tax⟩, name⟩, -⟩ := unchanged
    exact ⟨price, currency, active, retired, tax, name⟩
  · refine absurd id (silent _ mem_cons_self ?_)
    simp [ChangeLogValues.inStream, tenant]

theorem mem_update {α : Type} [DecidableEq α] {rows : List α} {old new row : α}
    (inside : row ∈ (RowChange.update old new).apply rows) : row = new ∨ row ∈ rows ∧ row ≠ old := by
  obtain ⟨before, there, rfl⟩ := mem_map.1 inside
  by_cases same : before = old
  · rw [if_pos same]
    exact .inl rfl
  · rw [if_neg same]
    exact .inr ⟨there, same⟩

theorem insert_kept (admits : Admits reference catalogue (.product (.insert new)))
    (silent : Silent tenantId storeId productId (catalogChangeLogFromTenantProducts (.insert new))) :
    sellableRow catalogue tenantId storeId productId =
      sellableRow ((Change.product (.insert new)).apply catalogue) tenantId storeId productId := by
  by_cases place : new.tenantId = tenantId ∧ new.id = productId
  · obtain ⟨rfl, rfl⟩ := place
    have keys : ((catalogue.products ++ [new]).map Product.id).Nodup := admits.after.1.1
    rw [map_append, nodup_append] at keys
    have absent : ¬ catalogue.Has new.id := fun ⟨product, inside, same⟩ =>
      keys.2.2 product.id (mem_map_of_mem inside) new.id (by simp) same
    have unsellable : new.sellsAlone = false := by
      rw [Product.sellsAlone]
      cases base : new.isSellableBase with
      | false => rfl
      | true =>
        rw [catalogChangeLogFromTenantProducts, if_pos base] at silent
        exact absurd rfl (silent _ mem_cons_self (by simp [ChangeLogValues.inStream]))
    have bare : storeOverride ((Change.product (.insert new)).apply catalogue) new.tenantId storeId
        new.id = none := storeOverride_unreferenced admits.before.2.1 absent rfl
    rw [sellableRow_of_absent fun product inside _ same => absent ⟨product, inside, same⟩]
    refine (sellableRow_eq_none fun product inside _ same => .inr ⟨bare, ?_⟩).symm
    rcases mem_append.1 inside with before | last
    · exact absurd ⟨product, before, same⟩ absent
    · rw [mem_singleton.1 last]
      exact unsellable
  · exact product_elsewhere (Product.at_elsewhere place)

theorem delete_absent (admits : Admits reference catalogue (.product (.delete old))) :
    ¬ ((Change.product (.delete old)).apply catalogue).Has old.id := by
  rintro ⟨product, inside, same⟩
  obtain ⟨inside, other⟩ := mem_filter.1 inside
  exact of_decide_eq_true other (inj_on_of_nodup_map admits.before.1.1 inside admits.finds same)

theorem delete_kept (admits : Admits reference catalogue (.product (.delete old)))
    (unsellable : old.sellsAlone = false) :
    sellableRow catalogue tenantId storeId productId =
      sellableRow ((Change.product (.delete old)).apply catalogue) tenantId storeId productId := by
  by_cases place : old.tenantId = tenantId ∧ old.id = productId
  · obtain ⟨rfl, rfl⟩ := place
    have only : ∀ product ∈ catalogue.products, product.id = old.id → product = old :=
      fun product inside same => inj_on_of_nodup_map admits.before.1.1 inside admits.finds same
    have absent := delete_absent admits
    have bare : storeOverride catalogue old.tenantId storeId old.id = none :=
      storeOverride_unreferenced admits.after.2.1 absent rfl
    have gone : sellableRow ((Change.product (.delete old)).apply catalogue) old.tenantId storeId old.id =
        none :=
      sellableRow_of_absent (fun product inside _ same => absent ⟨product, inside, same⟩) storeId
    rw [gone]
    refine sellableRow_eq_none fun product inside _ same => .inr ⟨bare, ?_⟩
    rw [only product inside same]
    exact unsellable
  · exact product_elsewhere (Product.at_elsewhere place)

theorem update_kept (admits : Admits reference catalogue (.product (.update old new))) (id : new.id = old.id)
    (tracked : new.tenantId = old.tenantId ∨ old.retiredAt.isSome)
    (silent : Silent tenantId storeId productId (catalogChangeLogFromTenantProducts (.update old new))) :
    sellableRow catalogue tenantId storeId productId =
      sellableRow ((Change.product (.update old new)).apply catalogue) tenantId storeId productId := by
  by_cases here : old.id = productId
  · by_cases tenant : new.tenantId = old.tenantId
    · by_cases place : new.tenantId = tenantId
      · -- Nothing is unlike at all.
        obtain ⟨price, currency, active, retired, tax, name⟩ := product_unchanged silent place (id.trans here)
        have same : old = new := by
          cases old
          cases new
          simp_all
        exact product_elsewhere (congrArg (Product.at tenantId productId) same)
      · refine product_elsewhere ?_
        rw [RowChange.Unseen, Product.at_elsewhere fun there => place (tenant.trans there.1),
          Product.at_elsewhere fun there => place there.1]
    · have gone := tracked.resolve_left tenant
      rw [sellableRow_eq_none, sellableRow_eq_none]
      · intro product inside here' id'
        rcases mem_update inside with rfl | ⟨before, other⟩
        · obtain ⟨-, -, -, retired, -⟩ := product_unchanged silent here' id'
          exact .inl (retired ▸ gone)
        · exact absurd (inj_on_of_nodup_map admits.before.1.1 before admits.finds (id'.trans here.symm)) other
      · intro product inside _ id'
        rw [inj_on_of_nodup_map admits.before.1.1 inside admits.finds (id'.trans here.symm)]
        exact .inl gone
  · refine product_elsewhere ?_
    rw [RowChange.Unseen, Product.at_elsewhere fun there => here there.2,
      Product.at_elsewhere fun there => here (id.symm.trans there.2)]

theorem renamed_kept (admits : Admits reference catalogue (.product (.update old new))) (id : new.id ≠ old.id)
    (unsellable : old.sellsAlone = false)
    (silent : Silent tenantId storeId productId (catalogChangeLogFromTenantProducts (.update old new))) :
    sellableRow catalogue tenantId storeId productId =
      sellableRow ((Change.product (.update old new)).apply catalogue) tenantId storeId productId := by
  have only : ∀ product ∈ catalogue.products, product.id = old.id → product = old :=
    fun product inside same => inj_on_of_nodup_map admits.before.1.1 inside admits.finds same
  have fresh : ¬ catalogue.Has new.id := by
    rintro ⟨product, inside, same⟩
    have other : product ≠ old := fun equal => id (same.symm.trans (congrArg Product.id equal))
    have keys : (((RowChange.update old new).apply catalogue.products).map Product.id).Nodup := admits.after.1.1
    rw [RowChange.apply, map_map] at keys
    refine other (inj_on_of_nodup_map keys inside admits.finds ?_)
    simp [other, same]
  have left : ¬ ((Change.product (.update old new)).apply catalogue).Has old.id := by
    rintro ⟨product, inside, same⟩
    rcases mem_update inside with rfl | ⟨before, other⟩
    · exact id same
    · exact other (only product before same)
  by_cases atOld : productId = old.id
  · subst atOld
    have bare : storeOverride catalogue tenantId storeId old.id = none :=
      storeOverride_unreferenced admits.after.2.1 left rfl
    have gone : sellableRow ((Change.product (.update old new)).apply catalogue) tenantId storeId old.id =
        none :=
      sellableRow_of_absent (fun product inside _ same => left ⟨product, inside, same⟩) storeId
    rw [gone]
    refine sellableRow_eq_none fun product inside _ same => .inr ⟨bare, ?_⟩
    rw [only product inside same]
    exact unsellable
  · by_cases atNew : productId = new.id
    · subst atNew
      have bare : storeOverride ((Change.product (.update old new)).apply catalogue) tenantId storeId
          new.id = none := storeOverride_unreferenced admits.before.2.1 fresh rfl
      rw [sellableRow_of_absent fun product inside _ same => fresh ⟨product, inside, same⟩]
      refine (sellableRow_eq_none fun product inside tenant same => .inr ⟨bare, ?_⟩).symm
      rcases mem_update inside with rfl | ⟨before, -⟩
      · obtain ⟨price, currency, active, retired, -⟩ := product_unchanged silent tenant rfl
        rw [← unsellable, Product.sellsAlone, Product.sellsAlone, Product.isSellableBase,
          Product.isSellableBase, price, currency, active, retired]
      · exact absurd ⟨product, before, same⟩ fresh
    · refine product_elsewhere ?_
      rw [RowChange.Unseen, Product.at_elsewhere fun there => atOld there.2.symm,
        Product.at_elsewhere fun there => atNew there.2.symm]

end Products

/-- **A tracked statement changes no row that it does not log.** -/
theorem Change.Tracked.kept (tracked : change.Tracked) {reference : Reference} {catalogue : Catalogue}
    (admits : Admits reference catalogue change) {tenantId storeId : Uuid}
    (silent : Silent tenantId storeId productId change.logged) :
    sellableRow catalogue tenantId storeId productId =
      sellableRow (change.apply catalogue) tenantId storeId productId := by
  cases change with
  | product change =>
    cases change with
    | insert new => exact insert_kept admits silent
    | delete old => exact delete_kept admits tracked
    | update old new =>
      by_cases id : new.id = old.id
      · exact update_kept admits id ((if_pos id).mp tracked) silent
      · exact renamed_kept admits id ((if_neg id).mp tracked) silent
  | override change =>
    exact sellableRow_congr rfl (change.keeps (override_unseen tracked silent) _).symm rfl
  | «alias» change =>
    exact sellableRow_congr rfl rfl (change.keeps (alias_unseen tracked silent) _).symm

theorem Change.Tracked.covered (tracked : change.Tracked) : Covered change := by
  intro reference catalogue admits tenantId storeId productId _ differs
  by_contra nothing
  refine differs (tracked.kept admits fun row logged stream same => ?_)
  exact nothing ⟨row, logged, stream, same⟩

/-! ### Catalogues for a lost row -/

theorem exists_other {α : Type} {a b c : α} (apart : a ≠ b ∧ a ≠ c ∧ b ≠ c) (x y : α) :
    ∃ z, (z = a ∨ z = b ∨ z = c) ∧ z ≠ x ∧ z ≠ y := by
  by_cases first : a = x ∨ a = y
  · by_cases second : b = x ∨ b = y
    · refine ⟨c, .inr (.inr rfl), ?_, ?_⟩ <;> grind
    · exact ⟨b, .inr (.inl rfl), fun same => second (.inl same), fun same => second (.inr same)⟩
  · exact ⟨a, .inl rfl, fun same => first (.inl same), fun same => first (.inr same)⟩

theorem exists_uuid (x y : Uuid) : ∃ id : Uuid, id ≠ x ∧ id ≠ y := by
  obtain ⟨id, -, other⟩ := exists_other (a := sample 0) (b := sample 1) (c := sample 2) (by decide) x y
  exact ⟨id, other⟩

/-- A `sku` of one letter. -/
def skuIdentifier (value : String) (sized : 1 ≤ value.length ∧ value.length ≤ 200) : Identifier :=
  ⟨.sku, value, none, sized, rfl⟩

theorem exists_sku (x y : String) :
    ∃ identifier : Identifier, identifier.identifierType = .sku ∧ identifier.value ≠ x ∧
      identifier.value ≠ y := by
  obtain ⟨value, one, other⟩ := exists_other (a := "a") (b := "b") (c := "c") (by decide) x y
  rcases one with rfl | rfl | rfl
  · exact ⟨skuIdentifier "a" (by decide), rfl, other⟩
  · exact ⟨skuIdentifier "b" (by decide), rfl, other⟩
  · exact ⟨skuIdentifier "c" (by decide), rfl, other⟩

/-- All tenants and all stores are there, and the stores are the tenant's. -/
def Reference.owning (tenantId : Uuid) : Reference := ⟨fun _ => true, fun _ => some tenantId⟩

def wholeAmount (isOne : Bool) : Numeric := ⟨if isOne then 10000 else 0, by cases isOne <;> decide⟩

def standIn (tenantId : Uuid) (isOne isActive standard : Bool) (id : Uuid) : Product where
  id
  tenantId
  name := "product"
  defaultPrice := some (wholeAmount isOne)
  defaultCurrencyCode := some "USD"
  isActive
  taxCategory := if standard then "standard" else "reduced"
  retiredAt := none
  named := by decide
  paired := rfl
  taxed := by cases standard <;> decide
  priced := by cases isOne <;> simp [wholeAmount]

def standIns (stand : Uuid → Product) (first second : Uuid) : List Product :=
  if first = second then [stand first] else [stand first, stand second]

section StandIns

variable {isOne isActive standard : Bool} {first second : Uuid}

theorem mem_standIns {stand : Uuid → Product} : stand first ∈ standIns stand first second := by
  unfold standIns
  split_ifs <;> exact mem_cons_self

theorem standIns_has {overrides : List Override} {aliases : List Alias}
    (one : productId = first ∨ productId = second) :
    (⟨standIns (standIn tenantId isOne isActive standard) first second, overrides, aliases, []⟩ :
        Catalogue).Has productId := by
  unfold Catalogue.Has standIns
  split_ifs with same
  · exact ⟨_, mem_cons_self, one.elim Eq.symm fun equal => same.trans equal.symm⟩
  · rcases one with rfl | rfl
    · exact ⟨_, mem_cons_self, rfl⟩
    · exact ⟨_, mem_cons_of_mem _ mem_cons_self, rfl⟩

theorem standIns_fit {overrides : List Override} {aliases : List Alias} :
    ProductsFit (.owning owner)
      ⟨standIns (standIn tenantId isOne isActive standard) first second, overrides, aliases, []⟩ := by
  refine ⟨?_, fun _ _ => rfl⟩
  unfold standIns
  split_ifs with same
  · exact nodup_singleton _
  · simpa [standIn] using same

theorem mergedRow_standIn (sku : Option String) (aliases : Option (List String)) :
    mergedRow (standIn tenantId isOne true standard first) none sku aliases =
      some
      ⟨first, sku.getD first.text, "product", aliases.getD [], (wholeAmount isOne).text, "USD",
       if standard then "standard" else "reduced", none⟩ := by
  have whole : isRepresentable (wholeAmount isOne).text "USD" = true := by cases isOne <;> decide
  simp [mergedRow, classifySellable, standIn, whole, Sellability.row?]

end StandIns

/-! ### Aliases that leave their place -/

/-- The other `sku` of the product, at the place of an alias. -/
def secondSku (old : Alias) (identifier : Identifier) (kind : identifier.identifierType = .sku)
    (id : Uuid) : Alias where
  id
  tenantId := old.tenantId
  productId := old.productId
  identifier
  storeId := old.storeId
  retiredAt := none
  unscoped := .inr (by rw [kind]; decide)

/-- A product with its aliases, and the product an alias moves to. -/
def aliasShop (tenantId productId target : Uuid) (aliases : List Alias) : Catalogue where
  products := standIns (standIn tenantId true true true) productId target
  overrides := []
  aliases
  log := []

section AliasShop

variable {target : Uuid} {first second : Alias}

theorem aliasShop_fits (ids : first.id ≠ second.id)
    (values : first.identifier.value ≠ second.identifier.value)
    (one : first.productId = productId ∨ first.productId = target)
    (two : second.productId = productId ∨ second.productId = target) :
    WellFormed (.owning tenantId) (aliasShop tenantId productId target [first, second]) := by
  refine ⟨standIns_fit, ⟨nodup_nil, List.Pairwise.nil, by simp [aliasShop]⟩,
    ⟨by simpa [aliasShop] using ids, by simp [aliasShop, Alias.SameKey, values], ?_⟩,
    by simp [LogFits, aliasShop]⟩
  intro row inside
  rcases mem_cons.1 inside with rfl | last
  · exact ⟨rfl, fun _ _ => rfl, standIns_has one⟩
  · rw [mem_singleton.1 last]
    exact ⟨rfl, fun _ _ => rfl, standIns_has two⟩

theorem sellable_aliasShop (aliases : List Alias) :
    sellableRow (aliasShop tenantId productId target aliases) tenantId storeId productId =
      some
      ⟨productId,
       (skuOf (aliasShop tenantId productId target aliases) tenantId storeId productId).getD productId.text,
       "product",
       (aliasesOf (aliasShop tenantId productId target aliases) tenantId storeId productId).getD [],
       (wholeAmount true).text, "USD", "standard", none⟩ := by
  have keys : ((aliasShop tenantId productId target aliases).products.map Product.id).Nodup :=
    (standIns_fit : ProductsFit (.owning tenantId)
      ⟨standIns (standIn tenantId true true true) productId target, [], [], []⟩).1
  have inside : standIn tenantId true true true productId ∈
      (aliasShop tenantId productId target aliases).products := mem_standIns
  exact (sellableRow_of_mem keys inside storeId).trans (mergedRow_standIn _ _)

theorem aliasShop_differs {old new other : Alias}
    (before : old.at tenantId storeId productId = some old.fields)
    (after : new.at tenantId storeId productId = none)
    (beside : other.at tenantId storeId productId = some other.fields)
    (sku : other.identifier.identifierType = .sku) (store : other.storeId = old.storeId)
    (values : old.identifier.value ≠ other.identifier.value) :
    sellableRow (aliasShop tenantId productId target [old, other]) tenantId storeId productId ≠
      sellableRow (aliasShop tenantId productId target [new, other]) tenantId storeId productId := by
  have otherSku : other.fields.isSku = true := by simp [Alias.fields, Alias.isSku, sku]
  rw [sellable_aliasShop, sellable_aliasShop, skuOf_eq, skuOf_eq, aliasesOf_eq, aliasesOf_eq]
  by_cases oldSku : old.fields.isSku = true
  · -- The alias was the `sku` of the product.
    have skus : other.fields.value ≠ old.fields.value := fun same => values same.symm
    have order : nullsLast old.fields.storeId other.fields.storeId := by
      simp [nullsLast, Alias.fields, store]
    simp [aliasShop, before, after, beside, oldSku, otherSku, order, skus.symm]
  · -- The alias was among the aliases of the product.
    simp [aliasShop, before, after, beside, oldSku, otherSku]

end AliasShop

theorem logged_alias {old new : Alias} {row : ChangeLogValues}
    (logged : row ∈ (Change.alias (.update old new)).logged) :
    row.tenantId = new.tenantId ∧ row.storeId = new.storeId ∧ row.productId = new.productId := by
  change row ∈ catalogChangeLogFromProductAliases (.update old new) at logged
  unfold catalogChangeLogFromProductAliases at logged
  dsimp only at logged
  split at logged
  · cases logged
  · rw [mem_singleton.1 logged]
    exact ⟨rfl, rfl, rfl⟩

/-- **An active alias that leaves its place takes itself along.** -/
theorem lost_alias {old new : Alias} (standing : old.retiredAt = none) (storeId : Uuid)
    (reached : old.storeId.all (· = storeId))
    (left : ¬ (new.tenantId = old.tenantId ∧ new.productId = old.productId ∧ new.storeId.all (· = storeId))) :
    ¬ Covered (.alias (.update old new)) := by
  intro covered
  obtain ⟨identifier, sku, valueOld, valueNew⟩ := exists_sku old.identifier.value new.identifier.value
  obtain ⟨id, idOld, idNew⟩ := exists_uuid old.id new.id
  let other := secondSku old identifier sku id
  have apart : other ≠ old := fun same => idOld (congrArg Alias.id same)
  have applied : (Change.alias (.update old new)).apply (aliasShop old.tenantId old.productId new.productId [old,
      other]) = aliasShop old.tenantId old.productId new.productId [new, other] := by
    simp [Change.apply, RowChange.apply, aliasShop, apart]
  have admits : Admits (.owning old.tenantId) (aliasShop old.tenantId old.productId new.productId [old, other])
      (.alias (.update old new)) := by
    refine ⟨aliasShop_fits idOld.symm valueOld.symm (.inl rfl) (.inl rfl), mem_cons_self, ?_⟩
    rw [applied]
    exact aliasShop_fits idNew.symm valueNew.symm (.inr rfl) (.inl rfl)
  have here : old.at old.tenantId storeId old.productId = some old.fields :=
    if_pos (by simp [Alias.reaches, standing, reached])
  have beside : other.at old.tenantId storeId old.productId = some other.fields :=
    if_pos (by simp [Alias.reaches, other, secondSku, reached])
  obtain ⟨row, logged, stream, product⟩ := covered _ _ admits old.tenantId storeId old.productId rfl (by
      rw [applied]
      exact aliasShop_differs here (Alias.at_elsewhere left) beside sku rfl valueOld.symm)
  obtain ⟨tenant, store, id⟩ := logged_alias logged
  simp only [ChangeLogValues.inStream, and_eq_true, decide_eq_true_eq] at stream
  exact left ⟨tenant.symm.trans stream.1, id.symm.trans product, store ▸ stream.2⟩

theorem alias_tracked {old new : Alias} (covered : Covered (.alias (.update old new))) :
    (Change.alias (.update old new)).Tracked := by
  by_contra untracked
  obtain ⟨active, moved⟩ := not_or.1 untracked
  have standing : old.retiredAt = none := by simpa using active
  cases store : old.storeId with
  | some storeId =>
    refine lost_alias standing storeId (by simp [store]) ?_ covered
    rintro ⟨tenant, product, reached⟩
    refine moved ⟨tenant, product, ?_⟩
    cases there : new.storeId with
    | none => exact .inr rfl
    | some other =>
      rw [there] at reached
      exact .inl (by rw [store, of_decide_eq_true reached])
  | none =>
    obtain ⟨storeId, unlike, -⟩ := exists_uuid (new.storeId.getD old.id) old.id
    refine lost_alias standing storeId (by simp [store]) ?_ covered
    rintro ⟨tenant, product, reached⟩
    refine moved ⟨tenant, product, ?_⟩
    cases there : new.storeId with
    | none => exact .inr rfl
    | some other =>
      rw [there] at reached unlike
      exact absurd (of_decide_eq_true reached) unlike.symm

/-! ### Overrides that leave their place -/

/-- A product with an override, and the product the override moves to. -/
def overrideShop (stand : Uuid → Product) (productId target : Uuid) (row : Override) : Catalogue where
  products := standIns stand productId target
  overrides := [row]
  aliases := []
  log := []

theorem overrideShop_fits {tenantId target : Uuid} {isOne isActive standard : Bool}
    (one : row.productId = productId ∨ row.productId = target) :
    WellFormed (.owning owner)
      (overrideShop (standIn tenantId isOne isActive standard) productId target row) := by
  refine ⟨standIns_fit, ⟨nodup_singleton _, pairwise_singleton _ _, ?_⟩,
    ⟨nodup_nil, List.Pairwise.nil, by simp [overrideShop]⟩, by simp [LogFits, overrideShop]⟩
  intro other inside
  rw [mem_singleton.1 inside]
  exact ⟨rfl, rfl, standIns_has one⟩

theorem wholeAmount_other (price : Numeric) : ∃ isOne, price.text ≠ (wholeAmount isOne).text := by
  by_cases zero : price.text = (wholeAmount false).text
  · exact ⟨true, fun one => absurd (zero.symm.trans one) (by decide)⟩
  · exact ⟨false, zero⟩

theorem mergedRow_amount {spo : Override} {price : Numeric} (priced : spo.price = some price)
    {row : ResolvedCatalogRow} (merged : mergedRow product (some spo) none none = some row) :
    row.amount = price.text := by
  unfold mergedRow classifySellable at merged
  simp only [bind_some, priced, some_or, map_some] at merged
  split at merged
  · rename_i amount currency same _
    split_ifs at merged
    · cases merged
    · cases merged
    · rw [← Option.some.inj merged, ← Option.some.inj same]
  · cases merged

/-- **Every override shows on some product.** -/
theorem override_shows (spo : Override) (tenantId productId : Uuid) :
    ∃ isOne isActive standard : Bool,
      mergedRow (standIn tenantId isOne isActive standard productId) (some spo) none none ≠
      mergedRow (standIn tenantId isOne isActive standard productId) none none none := by
  have whole : ∀ isOne, isRepresentable (wholeAmount isOne).text "USD" = true := by
    intro isOne
    cases isOne <;> decide
  cases price : spo.price with
  | some amount =>
    -- It shows on a product of another price.
    obtain ⟨isOne, other⟩ := wholeAmount_other amount
    refine ⟨isOne, true, true, fun same => ?_⟩
    rw [mergedRow_standIn] at same
    exact other (mergedRow_amount price same).symm
  | none =>
    have currency : spo.currencyCode = none := by simpa [price] using spo.paired.symm
    cases active : spo.isActive with
    | some isActive =>
      -- It shows on a product that is active where it is not, or the other way round.
      refine ⟨true, !isActive, true, ?_⟩
      cases isActive <;>
        simp [mergedRow, classifySellable, standIn, price, currency, active, whole, Sellability.row?]
    | none =>
      -- It shows on a product of another tax category.
      obtain ⟨category, tax⟩ : ∃ category, spo.taxCategory = some category := by
        have one := spo.overrides
        rw [price, active] at one
        exact isSome_iff_exists.1 (one.resolve_left (by simp) |>.resolve_left (by simp))
      refine ⟨true, true, decide (category ≠ "standard"), ?_⟩
      rw [mergedRow_standIn]
      by_cases standard : category = "standard" <;>
        simp [mergedRow, classifySellable, standIn, price, currency, active, tax, whole, standard,
          Sellability.row?]

theorem logged_override {old new : Override} {row : ChangeLogValues}
    (logged : row ∈ (Change.override (.update old new)).logged) :
    row.tenantId = new.tenantId ∧ row.storeId = some new.storeId ∧ row.productId = new.productId := by
  change row ∈ catalogChangeLogFromStoreOverrides (.update old new) at logged
  unfold catalogChangeLogFromStoreOverrides at logged
  dsimp only at logged
  split at logged
  · cases logged
  · rw [mem_singleton.1 logged]
    exact ⟨rfl, rfl, rfl⟩

/-- **An active override that leaves its place takes itself along.** -/
theorem lost_override {old new : Override} (standing : old.retiredAt = none)
    (left : ¬ (new.tenantId = old.tenantId ∧ new.storeId = old.storeId ∧ new.productId = old.productId)) :
    ¬ Covered (.override (.update old new)) := by
  intro covered
  obtain ⟨isOne, isActive, standard, shows⟩ := override_shows old old.tenantId old.productId
  let stand := standIn old.tenantId isOne isActive standard
  have applied : (Change.override (.update old new)).apply (overrideShop stand old.productId new.productId old) =
        overrideShop stand old.productId new.productId new := by
    simp [Change.apply, RowChange.apply, overrideShop]
  have admits : Admits (.owning old.tenantId) (overrideShop stand old.productId new.productId old)
      (.override (.update old new)) := by
    refine ⟨overrideShop_fits (.inl rfl), mem_singleton_self _, ?_⟩
    rw [applied]
    exact overrideShop_fits (.inr rfl)
  -- The row of the product, with whatever override there is.
  have rowAt : ∀ row : Override, sellableRow (overrideShop stand old.productId new.productId row) old.tenantId
      old.storeId old.productId =
      mergedRow (stand old.productId) (storeOverride (overrideShop stand old.productId new.productId row)
          old.tenantId old.storeId old.productId) none none := by
    intro row
    have keys : ((overrideShop stand old.productId new.productId row).products.map
        Product.id).Nodup := admits.before.1.1
    have inside : stand old.productId ∈ (overrideShop stand old.productId new.productId row).products :=
      mem_standIns
    exact sellableRow_of_mem keys inside old.storeId
  have before : storeOverride (overrideShop stand old.productId new.productId old) old.tenantId
      old.storeId old.productId = some old := by
    simp [storeOverride, overrideShop, standing]
  have after : storeOverride (overrideShop stand old.productId new.productId new) old.tenantId
      old.storeId old.productId = none := by
    refine find?_eq_none.2 fun row inside matched => ?_
    rw [mem_singleton.1 inside] at matched
    simp only [and_eq_true, decide_eq_true_eq] at matched
    exact left ⟨matched.1.1.1, matched.1.1.2, matched.1.2⟩
  obtain ⟨row, logged, stream, product⟩ := covered _ _ admits old.tenantId old.storeId old.productId rfl (by
      rw [applied, rowAt, rowAt, before, after]
      exact shows)
  obtain ⟨tenant, store, id⟩ := logged_override logged
  simp only [ChangeLogValues.inStream, store, all_some, and_eq_true,
    decide_eq_true_eq] at stream
  exact left ⟨tenant.symm.trans stream.1, stream.2, id.symm.trans product⟩

/-! ### Products that leave their place -/

def lone (product : Product) (overrides : List Override) : Catalogue := ⟨[product], overrides, [], []⟩

def sellingOverride (product : Product) : Override where
  id := sample 0
  tenantId := product.tenantId
  storeId := sample 0
  productId := product.id
  price := some (wholeAmount true)
  currencyCode := some "USD"
  isActive := some true
  taxCategory := none
  retiredAt := none
  paired := rfl
  taxed := by simp
  priced := by simp [wholeAmount]
  overrides := .inl rfl

theorem lone_fits : WellFormed (.owning owner) (lone product []) :=
  ⟨⟨nodup_singleton _, fun _ _ => rfl⟩, ⟨nodup_nil, List.Pairwise.nil, by simp [lone]⟩,
    ⟨nodup_nil, List.Pairwise.nil, by simp [lone]⟩, by simp [LogFits, lone]⟩

theorem lone_selling_fits {other : Product} (id : product.id = other.id) :
    WellFormed (.owning owner) (lone product [sellingOverride other]) := by
  refine ⟨⟨nodup_singleton _, fun _ _ => rfl⟩, ⟨nodup_singleton _,
    pairwise_singleton _ _, fun row inside => ?_⟩,
    ⟨nodup_nil, List.Pairwise.nil, by simp [lone]⟩, by simp [LogFits, lone]⟩
  rw [mem_singleton.1 inside]
  exact ⟨rfl, rfl, product, mem_singleton_self _, id⟩

theorem sellable_lone (product : Product) (overrides : List Override) (storeId : Uuid) :
    sellableRow (lone product overrides) product.tenantId storeId product.id =
      mergedRow product (storeOverride (lone product overrides) product.tenantId storeId product.id) none
      none := by
  have keys : ((lone product overrides).products.map Product.id).Nodup := nodup_singleton _
  have inside : product ∈ (lone product overrides).products := mem_singleton_self _
  exact sellableRow_of_mem keys inside storeId

theorem logged_product {row : ChangeLogValues} (logged : row ∈ (Change.product (.update old new)).logged) :
    row.tenantId = new.tenantId ∧ row.productId = new.id := by
  change row ∈ catalogChangeLogFromTenantProducts (.update old new) at logged
  unfold catalogChangeLogFromTenantProducts at logged
  dsimp only at logged
  split at logged
  · cases logged
  · rw [mem_singleton.1 logged]
    exact ⟨rfl, rfl⟩

/-- **A product that is sellable by itself is missed when it is deleted.** -/
theorem lost_deleted (sellable : old.sellsAlone = true) : ¬ Covered (.product (.delete old)) := by
  intro covered
  have applied : (Change.product (.delete old)).apply (lone old []) = ⟨[], [], [], []⟩ := by
    simp [Change.apply, RowChange.apply, RowChange.cascade, lone]
  have admits : Admits (.owning old.tenantId) (lone old []) (.product (.delete old)) := by
    refine ⟨lone_fits, mem_singleton_self _, ?_⟩
    rw [applied]
    exact ⟨⟨nodup_nil, by simp⟩, ⟨nodup_nil, List.Pairwise.nil, by simp⟩,
      ⟨nodup_nil, List.Pairwise.nil, by simp⟩, by simp [LogFits]⟩
  have gone : sellableRow ⟨[], [], [], []⟩ old.tenantId (sample 0) old.id = none :=
    sellableRow_of_absent (by simp) _
  obtain ⟨row, logged, -⟩ := covered _ _ admits old.tenantId (sample 0) old.id rfl (by
    rw [applied, gone, sellable_lone]
    refine isSome_iff_ne_none.1 ?_
    exact (mergedRow_alone old none none).trans sellable)
  cases logged

/-- **It is missed under its old identifier.** -/
theorem lost_renamed (id : new.id ≠ old.id) (sellable : old.sellsAlone = true) :
    ¬ Covered (.product (.update old new)) := by
  intro covered
  have applied : (Change.product (.update old new)).apply (lone old []) = lone new [] := by
    simp [Change.apply, RowChange.apply, RowChange.cascade, lone]
  have admits : Admits (.owning old.tenantId) (lone old []) (.product (.update old new)) := by
    refine ⟨lone_fits, mem_singleton_self _, ?_⟩
    rw [applied]
    exact lone_fits
  have gone : sellableRow (lone new []) old.tenantId (sample 0) old.id = none :=
    sellableRow_of_absent (by simpa [lone] using fun _ => id) _
  obtain ⟨row, logged, -, product⟩ := covered _ _ admits old.tenantId (sample 0) old.id rfl (by
    rw [applied, gone, sellable_lone]
    refine isSome_iff_ne_none.1 ?_
    exact (mergedRow_alone old none none).trans sellable)
  exact id ((logged_product logged).2.symm.trans product)

/-- **A standing product is missed by its old tenant, where an override makes it sellable.** -/
theorem lost_tenant (id : new.id = old.id) (tenant : new.tenantId ≠ old.tenantId)
    (standing : old.retiredAt = none) : ¬ Covered (.product (.update old new)) := by
  intro covered
  have applied : (Change.product (.update old new)).apply (lone old [sellingOverride old]) =
      lone new [sellingOverride old] := by
    simp [Change.apply, RowChange.apply, RowChange.cascade, lone]
  have admits : Admits (.owning old.tenantId) (lone old [sellingOverride old]) (.product (.update old new)) := by
    refine ⟨lone_selling_fits rfl, mem_singleton_self _, ?_⟩
    rw [applied]
    exact lone_selling_fits id
  have joins : storeOverride (lone old [sellingOverride old]) old.tenantId (sample 0) old.id =
      some (sellingOverride old) := by
    simp [storeOverride, lone, sellingOverride]
  have whole : isRepresentable (wholeAmount true).text "USD" = true := by decide
  have gone : sellableRow (lone new [sellingOverride old]) old.tenantId (sample 0) old.id =
      none := sellableRow_of_absent (by simpa [lone] using fun here => absurd here tenant) _
  obtain ⟨row, logged, stream, -⟩ := covered _ _ admits old.tenantId (sample 0) old.id rfl (by
    rw [applied, gone, sellable_lone, joins]
    simp [mergedRow, classifySellable, sellingOverride, standing, whole, Sellability.row?])
  simp only [ChangeLogValues.inStream, and_eq_true, decide_eq_true_eq] at stream
  exact tenant ((logged_product logged).1.symm.trans stream.1)

theorem tracked_of_covered (covered : Covered change) : change.Tracked := by
  by_contra untracked
  cases change with
  | product change =>
    cases change with
    | insert new => exact untracked trivial
    | delete old => exact lost_deleted (by simpa [Change.Tracked] using untracked) covered
    | update old new =>
      by_cases id : new.id = old.id
      · obtain ⟨tenant, standing⟩ := not_or.mp (fun fits => untracked ((if_pos id).mpr fits))
        exact lost_tenant id tenant (by simpa using standing) covered
      · refine lost_renamed id ?_ covered
        exact eq_true_of_not_eq_false fun unsellable => untracked ((if_neg id).mpr unsellable)
  | override change =>
    cases change with
    | insert new | delete old => exact untracked trivial
    | update old new =>
      obtain ⟨standing, left⟩ := not_or.1 untracked
      exact lost_override (by simpa using standing) left covered
  | «alias» change =>
    cases change with
    | insert new | delete old => exact untracked trivial
    | update old new => exact untracked (alias_tracked covered)

/-- **A statement is covered exactly if it leaves no place that the log does not tell of.** -/
theorem covered_iff (change : Change) : Covered change ↔ change.Tracked :=
  ⟨tracked_of_covered, Change.Tracked.covered⟩

def movingAlias (productId : Uuid) : Alias where
  id := sample 5
  tenantId := sample 0
  productId
  identifier := skuIdentifier "SKU-1" (by decide)
  storeId := none
  retiredAt := none
  unscoped := .inl rfl

/-- **The product it leaves has lost its `sku`, and the log says nothing.** -/
theorem moved_alias_missed : ¬ Covered (.alias (.update (movingAlias (sample 1)) (movingAlias (sample 2)))) := by
  intro covered
  have tracked := tracked_of_covered covered
  revert tracked
  decide

end DataPulse.ReadDown
