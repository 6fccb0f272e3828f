/-
**Creating a store override.**

`StoreOverrideService.create` on a catalogue that nobody else touches meanwhile, down to the CHECKs of the
table, and what `resolveProducts` reads afterwards. The INSERT names `price` and not `currency_code`, and
the table takes the two together or not at all: an override without a price is shown as it was asked for,
one with a price is refused.

Who created a row, and when, is left out.
-/

import DataPulse.ReadDown.Replication

namespace DataPulse.ReadDown

open Lib Platform
open Inventory (require)

/-- Of a key that Q8 forbids, whether the body has it. -/
structure CreateStoreOverrideDto where
  tenantId : Uuid
  storeId : Uuid
  productId : Uuid
  isActive : Option Bool
  price : Option String
  taxCategory : Option String
  hasName : Bool
  hasCategoryId : Bool

inductive OverrideError where
  | badRequest (message : String)
  | notFound (message : String)
  | pg (error : PgError)

/-! ### The insert -/

/-- The CHECKs, in the order in which the server goes through them: that of their names. -/
def checkOverride (id : Uuid) (dto : CreateStoreOverrideDto) (price : Option Numeric)
    (currencyCode : Option String) :
    Except PgError Override :=
  if overrides : price.isSome ∨ dto.isActive.isSome ∨ dto.taxCategory.isSome then
    if paired : price.isSome = currencyCode.isSome then
      if priced : ∀ amount ∈ price, 0 ≤ amount.units then
        if taxed : ∀ category ∈ dto.taxCategory, 1 ≤ category.length ∧ category.length ≤ 50 then
          .ok ⟨id, dto.tenantId, dto.storeId, dto.productId, price, currencyCode, dto.isActive,
            dto.taxCategory, none,
            paired, taxed, priced, overrides⟩
        else .error ⟨.check, some "store_product_overrides_tax_category_length"⟩
      else .error ⟨.check, some "store_product_overrides_price_non_negative"⟩
    else .error ⟨.check, some "store_product_overrides_currency_paired"⟩
  else .error ⟨.check, some "store_product_overrides_at_least_one_override"⟩

def readPrice : Option String → Except PgError (Option Numeric)
  | none => .ok none
  | some text => (Numeric.ofText text).map some

/-- `INSERT INTO store_product_overrides`. -/
def insertOverride (reference : Reference) (catalogue : Catalogue) (id : Uuid) (dto : CreateStoreOverrideDto) :
    Except PgError Override := do
  let price ← readPrice dto.price
  let row ← checkOverride id dto price none
  require (catalogue.overrides.all fun other => other.id ≠ row.id) ⟨.unique, some "store_product_overrides_pkey"⟩
  require (catalogue.overrides.all fun other => ¬ other.SameKey row)
    ⟨.unique, some "UQ_idx_store_product_overrides_product_store"⟩
  require (reference.tenants row.tenantId) ⟨.foreignKey, some "store_product_overrides_tenant_id_fkey"⟩
  require (reference.storeTenant row.storeId).isSome ⟨.foreignKey, some "store_product_overrides_store_id_fkey"⟩
  require (catalogue.Has row.productId) ⟨.foreignKey, some "store_product_overrides_product_id_fkey"⟩
  .ok row

/-- The catalogue with the row, and with what the trigger logs of it. -/
def Catalogue.withOverride (catalogue : Catalogue) (nextSequence : Nat) (row : Override) : Catalogue :=
  catalogue.write ⟨.override (.insert row), draw nextSequence _, draw_values nextSequence _⟩

/-- `create(dto)`: what it returns or throws, and the catalogue it leaves. -/
def CreateStoreOverrideDto.create (reference : Reference) (catalogue : Catalogue) (id : Uuid)
    (nextSequence : Nat)
    (dto : CreateStoreOverrideDto) : Except OverrideError Override × Catalogue :=
  if dto.hasName then
    (.error (.badRequest "'name' is not overrideable at the store level (Q8)."), catalogue)
  else if dto.hasCategoryId then
    (.error (.badRequest "'categoryId' is not overrideable at the store level (Q8)."), catalogue)
  else if (catalogue.product? dto.tenantId dto.productId).isNone then
    (.error (.notFound ("tenant_products row not visible under current tenant (id=" ++ dto.productId.text ++
      ")")),
      catalogue)
  else
    match insertOverride reference catalogue id dto with
    | .error error => (.error (.pg error), catalogue)
    | .ok row => (.ok row, catalogue.withOverride nextSequence row)

/-! ### What is asked for -/

/-- The body of an override for a priced product at a store of the tenant without one. -/
structure Requested (reference : Reference) (catalogue : Catalogue) (id : Uuid) (dto : CreateStoreOverrideDto)
    (product : Product) : Prop where
  wellFormed : WellFormed reference catalogue
  permitted : dto.hasName = false ∧ dto.hasCategoryId = false
  overrides : dto.price.isSome ∨ dto.isActive.isSome ∨ dto.taxCategory.isSome
  amount : ∀ text ∈ dto.price, ∃ amount, Numeric.ofText text = .ok amount ∧ 0 ≤ amount.units
  taxed : ∀ category ∈ dto.taxCategory, 1 ≤ category.length ∧ category.length ≤ 50
  found : catalogue.product? dto.tenantId dto.productId = some product
  priced : product.defaultPrice.isSome
  store : reference.storeTenant dto.storeId = some dto.tenantId
  vacant : storeOverride catalogue dto.tenantId dto.storeId dto.productId = none
  fresh : ∀ row ∈ catalogue.overrides, row.id ≠ id

/-- The row shows the values of the body, and those of the product elsewhere. -/
structure Shows (catalogue : Catalogue) (dto : CreateStoreOverrideDto) (product : Product) (row : ResolvedRow) :
    Prop where
  identity : row.productId = product.id ∧ row.name = product.name ∧ row.retiredAt = product.retiredAt
  price : ∀ text ∈ dto.price, ∃ amount, Numeric.ofText text = .ok amount ∧ row.resolvedPrice = some amount.text
  ownPrice : dto.price = none → row.resolvedPrice = product.defaultPrice.map Numeric.text
  currency : row.resolvedCurrency = product.defaultCurrencyCode
  taxCategory : row.resolvedTaxCategory = dto.taxCategory.getD product.taxCategory
  active : row.resolvedActive = dto.isActive.getD product.isActive
  aliases : row.sku = skuOf catalogue dto.tenantId dto.storeId product.id ∧
    row.aliases = aliasesOf catalogue dto.tenantId dto.storeId product.id

/-- The call succeeds, and whoever reads the product at the store is shown the override. -/
def Takes (reference : Reference) (catalogue : Catalogue) (id : Uuid) (nextSequence : Nat)
    (dto : CreateStoreOverrideDto) (product : Product) : Prop :=
  ∃ row after, dto.create reference catalogue id nextSequence = (.ok row, after) ∧
    ∀ headSeq, ∃ shown ∈ resolveProducts after dto.tenantId dto.storeId headSeq (.targeted [dto.productId]),
      Shows catalogue dto product shown ∧
        ∀ mode, ∀ other ∈ resolveProducts after dto.tenantId dto.storeId headSeq mode, other.productId =
        dto.productId → other = shown

section Create

variable {reference : Reference} {catalogue : Catalogue} {id : Uuid} {nextSequence : Nat}
  {dto : CreateStoreOverrideDto}
  {product : Product}

theorem create_eq (permitted : dto.hasName = false ∧ dto.hasCategoryId = false)
    (found : catalogue.product? dto.tenantId dto.productId = some product) :
    dto.create reference catalogue id nextSequence = match insertOverride reference catalogue id dto with
      | .error error => (.error (.pg error), catalogue)
      | .ok row => (.ok row, catalogue.withOverride nextSequence row) := by
  simp [CreateStoreOverrideDto.create, permitted.1, permitted.2, found]

/-- A price meets no currency. -/
theorem insertOverride_priced {text : String} {amount : Numeric} (priced : dto.price = some text)
    (read : Numeric.ofText text = .ok amount) :
    insertOverride reference catalogue id dto =
      .error ⟨.check, some "store_product_overrides_currency_paired"⟩ := by
  simp [insertOverride, priced, readPrice, read, checkOverride, Except.map, bind, Except.bind]

theorem insertOverride_unpriced (requested : Requested reference catalogue id dto product)
    (unpriced : dto.price = none) :
    ∃ row, insertOverride reference catalogue id dto = .ok row ∧ row.tenantId = dto.tenantId ∧
      row.storeId = dto.storeId ∧ row.productId = dto.productId ∧ row.price = none ∧ row.currencyCode = none ∧
      row.isActive = dto.isActive ∧ row.taxCategory = dto.taxCategory ∧ row.retiredAt = none := by
  obtain ⟨there, mine, same⟩ := product?_id requested.found
  have overrides : (none : Option Numeric).isSome ∨ dto.isActive.isSome ∨ dto.taxCategory.isSome := by
    have some := requested.overrides
    rwa [unpriced] at some
  let row : Override := ⟨id, dto.tenantId, dto.storeId, dto.productId, none, none, dto.isActive,
    dto.taxCategory, none,
    rfl, requested.taxed, by simp, overrides⟩
  have checked : checkOverride id dto none none = .ok row := by
    have paired : (none : Option Numeric).isSome = (none : Option String).isSome := rfl
    have priced : ∀ amount ∈ (none : Option Numeric), 0 ≤ amount.units := fun _ none => nomatch none
    rw [checkOverride, dif_pos overrides, dif_pos paired, dif_pos priced, dif_pos requested.taxed]
  have fresh : (catalogue.overrides.all fun other => other.id ≠ row.id) = true :=
    all_eq_true.2 fun other mem => decide_eq_true (requested.fresh other mem)
  have vacant : (catalogue.overrides.all fun other => ¬ other.SameKey row) = true := by
    refine all_eq_true.2 fun other mem => decide_eq_true ?_
    rintro ⟨alive, -, tenant, store, product⟩
    have missed := find?_eq_none.1 requested.vacant other mem
    simp [alive, tenant, store, product, row] at missed
  have tenant : reference.tenants dto.tenantId = true := mine ▸ requested.wellFormed.1.2 product there
  have store : (reference.storeTenant dto.storeId).isSome = true := by rw [requested.store]; rfl
  have has : decide (catalogue.Has dto.productId) = true := decide_eq_true ⟨product, there, same⟩
  refine ⟨row, ?_, rfl, rfl, rfl, rfl, rfl, rfl, rfl, rfl⟩
  simp only [insertOverride, unpriced, readPrice, checked, bind, Except.bind, fresh, vacant, row, require,
    tenant, store, has, if_true]

/-- Whoever reads the product after the insert. -/
theorem shown_of_inserted (requested : Requested reference catalogue id dto product) {row : Override}
    (unpriced : dto.price = none)
    (added : row.tenantId = dto.tenantId ∧ row.storeId = dto.storeId ∧ row.productId = dto.productId ∧
        row.price = none ∧ row.currencyCode = none ∧ row.isActive = dto.isActive ∧
        row.taxCategory = dto.taxCategory ∧ row.retiredAt = none) (headSeq : Nat) :
    ∃ shown ∈ resolveProducts (catalogue.withOverride nextSequence row) dto.tenantId dto.storeId headSeq
      (.targeted [dto.productId]), Shows catalogue dto product shown ∧
      ∀ mode, ∀ other ∈ resolveProducts (catalogue.withOverride nextSequence row) dto.tenantId dto.storeId
      headSeq mode, other.productId = dto.productId → other = shown := by
  obtain ⟨tenant, store, product', noPrice, noCurrency, active, tax, alive⟩ := added
  obtain ⟨there, mine, same⟩ := product?_id requested.found
  have keys := requested.wellFormed.1.1
  have joined : storeOverride (catalogue.withOverride nextSequence row) dto.tenantId dto.storeId product.id =
      some row := by
    have vacant := requested.vacant
    rw [storeOverride] at vacant ⊢
    change (catalogue.overrides ++ [row]).find? _ = _
    rw [same, List.find?_append, vacant]
    simp [tenant, store, product', alive]
  refine ⟨resolveRow (catalogue.withOverride nextSequence row) dto.tenantId dto.storeId headSeq product, ?_,
    ?_, ?_⟩
  · refine mem_map_of_mem ?_
    rw [selectProducts_targeted]
    exact mem_filter.2 ⟨there, by simp [mine, same]⟩
  · refine ⟨⟨rfl, rfl, rfl⟩, ?_, fun _ => ?_, ?_, ?_, ?_, rfl, rfl⟩
    · rw [unpriced]
      rintro text ⟨⟩
    all_goals simp only [resolveRow, joined, bind_some, noPrice, noCurrency, active, tax, Option.none_or]
  · intro mode other mem named
    obtain ⟨product'', inside, rfl⟩ := mem_map.1 mem
    have sorted : product'' ∈ (catalogue.products.filter (mode.selects dto.tenantId)).insertionSort
        fun first second => first.id.precedes second.id = true := by
      cases mode with
      | paginated => exact mem_of_mem_take inside
      | targeted => exact inside
    have chosen : product'' ∈ catalogue.products := mem_of_mem_filter ((mem_insertionSort _).1 sorted)
    rw [inj_on_of_nodup_map keys chosen there (named.trans same.symm)]

/-- **An override is taken and shown exactly where it has no price**; and a body with a name or a category writes
nothing. -/
theorem override_shown_iff (requested : Requested reference catalogue id dto product) (nextSequence : Nat) :
    (Takes reference catalogue id nextSequence dto product ↔ dto.price = none) ∧
      ∀ other : CreateStoreOverrideDto, (other.hasName || other.hasCategoryId) = true →
      (other.create reference catalogue id nextSequence).2 = catalogue := by
  refine ⟨⟨fun takes => ?_, fun unpriced => ?_⟩, fun other forbidden => ?_⟩
  · obtain ⟨row, after, created, -⟩ := takes
    rw [create_eq requested.permitted requested.found] at created
    cases price : dto.price with
    | none => rfl
    | some text =>
      obtain ⟨amount, read, -⟩ := requested.amount text price
      rw [insertOverride_priced price read] at created
      cases created
  · obtain ⟨row, added, fields⟩ := insertOverride_unpriced requested unpriced
    refine ⟨row, catalogue.withOverride nextSequence row, ?_, shown_of_inserted requested unpriced fields⟩
    rw [create_eq requested.permitted requested.found, added]
  · unfold CreateStoreOverrideDto.create
    cases name : other.hasName with
    | true => rfl
    | false =>
      rw [name, Bool.false_or] at forbidden
      simp [forbidden]

end Create

/-! ### A shelf -/

def overridable : Catalogue := ⟨[shelfProduct true (sample 1)], [], [], []⟩

def sampleOverride (isActive : Option Bool) (price : Option String) : CreateStoreOverrideDto :=
  ⟨sample 0, sample 9, sample 1, isActive, price, none, false, false⟩

theorem sampleOverride_requested {isActive : Option Bool} {price : Option String}
    (some : price.isSome ∨ isActive.isSome)
    (amount : ∀ text ∈ price, ∃ amount, Numeric.ofText text = .ok amount ∧ 0 ≤ amount.units) :
    Requested ⟨fun _ => true, fun _ => Option.some (sample 0)⟩ overridable (sample 5)
      (sampleOverride isActive price) (shelfProduct true (sample 1)) where
  wellFormed := by decide
  permitted := ⟨rfl, rfl⟩
  overrides := some.imp id .inl
  amount := amount
  taxed := fun _ none => nomatch none
  found := by
    have keys : (overridable.products.map Product.id).Nodup := by decide
    exact product?_of_mem keys mem_cons_self
  priced := rfl
  store := rfl
  vacant := rfl
  fresh := fun _ none => nomatch none

theorem override_shown_iff_sample :
    (Takes ⟨fun _ => true, fun _ => some (sample 0)⟩ overridable (sample 5) 1
        (sampleOverride (some false) none) (shelfProduct true (sample 1)) ↔
        (sampleOverride (some false) none).price = none) ∧
      ∀ other : CreateStoreOverrideDto, (other.hasName || other.hasCategoryId) = true →
      (other.create ⟨fun _ => true, fun _ => some (sample 0)⟩ overridable (sample 5) 1).2 = overridable :=
  override_shown_iff (sampleOverride_requested (.inr rfl) (by simp)) 1

/-- **A store's own price is refused**: the row would have a price and no currency. -/
theorem priced_override_refused :
    Requested ⟨fun _ => true, fun _ => some (sample 0)⟩ overridable (sample 5)
      (sampleOverride none (some "5.00")) (shelfProduct true (sample 1)) ∧
      ¬ Takes ⟨fun _ => true, fun _ => some (sample 0)⟩ overridable (sample 5) 1
      (sampleOverride none (some "5.00")) (shelfProduct true (sample 1)) := by
  have read : Numeric.ofText "5.00" = .ok ⟨50000, by decide⟩ := by decide +kernel
  have requested := @sampleOverride_requested none (some "5.00") (.inl rfl) fun text mem =>
    ⟨_, Option.some.inj mem ▸ read, by decide⟩
  refine ⟨requested, ?_⟩
  rintro ⟨row, after, created, -⟩
  rw [create_eq requested.permitted requested.found, insertOverride_priced rfl read] at created
  cases created

end DataPulse.ReadDown
