/-
**The catalogue, its change log, and the triggers that fill it.**

Rows carry the CHECKs of their tables. The contents are the three catalogue tables and
`catalog_change_log`; a statement about one row (`RowChange`) inserts, updates or deletes it.

* `Change.apply`: what a statement does to the tables; deleting a product takes its log rows along
  (`ON DELETE CASCADE`);
* `Admits`: the keys, the partial unique indexes and the foreign keys hold before and after, and the row
  that is updated or deleted is there. `catalog_change_log.product_id` cascades a DELETE, not an UPDATE;
* `Change.logged`: the rows the three triggers insert. The `op` is a hint: no reader looks at it.

A row stands in its table where it was inserted; timestamps are opaque numbers. Columns that neither a
trigger nor the resolver reads are left out.
-/

import DataPulse.Unknowns.Ledger

namespace DataPulse.ReadDown

open Lib Platform
open Unknowns (Identifier IdentifierType)

/-! ### Rows -/

/-- `tenant_products`. -/
structure Product where
  id : Uuid
  tenantId : Uuid
  name : String
  defaultPrice : Option Numeric
  defaultCurrencyCode : Option String
  isActive : Bool
  taxCategory : String
  retiredAt : Option Int
  named : 1 ≤ name.length ∧ name.length ≤ 500
  paired : defaultPrice.isSome = defaultCurrencyCode.isSome
  taxed : 1 ≤ taxCategory.length ∧ taxCategory.length ≤ 50
  priced : ∀ price ∈ defaultPrice, 0 ≤ price.units
  deriving DecidableEq

/-- `store_product_overrides`. -/
structure Override where
  id : Uuid
  tenantId : Uuid
  storeId : Uuid
  productId : Uuid
  price : Option Numeric
  currencyCode : Option String
  isActive : Option Bool
  taxCategory : Option String
  retiredAt : Option Int
  paired : price.isSome = currencyCode.isSome
  taxed : ∀ category ∈ taxCategory, 1 ≤ category.length ∧ category.length ≤ 50
  priced : ∀ amount ∈ price, 0 ≤ amount.units
  overrides : price.isSome ∨ isActive.isSome ∨ taxCategory.isSome
  deriving DecidableEq

/-- `product_aliases`. -/
structure Alias where
  id : Uuid
  tenantId : Uuid
  productId : Uuid
  identifier : Identifier
  storeId : Option Uuid
  retiredAt : Option Int
  unscoped : storeId = none ∨ identifier.identifierType ≠ .externalPosId
  deriving DecidableEq

inductive Op where
  | upsert
  | removeFromSellable
  deriving DecidableEq

/-- The VALUES of an INSERT into `catalog_change_log`. -/
structure ChangeLogValues where
  tenantId : Uuid
  storeId : Option Uuid
  productId : Uuid
  op : Op
  deriving DecidableEq

/-- `catalog_change_log`; the sequence is drawn from one global identity. -/
structure ChangeLogRow extends ChangeLogValues where
  sequence : Nat
  deriving DecidableEq

structure Catalogue where
  products : List Product
  overrides : List Override
  aliases : List Alias
  log : List ChangeLogRow

/-- The tables nobody here writes: the tenants, and the stores with their tenant. -/
structure Reference where
  tenants : Uuid → Bool
  storeTenant : Uuid → Option Uuid

/-! ### Statements -/

/-- A statement about one row. -/
inductive RowChange (α : Type) where
  | insert (new : α)
  | update (old new : α)
  | delete (old : α)

/-- A statement about one row of the catalogue. -/
inductive Change where
  | product (change : RowChange Product)
  | override (change : RowChange Override)
  | alias (change : RowChange Alias)

section Rows

variable {α : Type} [DecidableEq α]

def RowChange.apply (rows : List α) : RowChange α → List α
  | insert new => rows ++ [new]
  | update old new => rows.map fun row => if row = old then new else row
  | delete old => rows.filter (· ≠ old)

def RowChange.Finds (rows : List α) : RowChange α → Prop
  | insert _ => True
  | update old _ => old ∈ rows
  | delete old => old ∈ rows

instance (rows : List α) : (change : RowChange α) → Decidable (change.Finds rows)
  | .insert _ => .isTrue trivial
  | .update old _ => inferInstanceAs (Decidable (old ∈ rows))
  | .delete old => inferInstanceAs (Decidable (old ∈ rows))

end Rows

/-- The log after a statement about a product: the rows of a deleted product go with it. -/
def RowChange.cascade (log : List ChangeLogRow) : RowChange Product → List ChangeLogRow
  | delete old => log.filter fun row => row.productId ≠ old.id
  | _ => log

def Change.apply (catalogue : Catalogue) : Change → Catalogue
  | product change =>
    { catalogue with
      products := change.apply catalogue.products
      log := change.cascade catalogue.log }
  | override change => { catalogue with overrides := change.apply catalogue.overrides }
  | .alias change => { catalogue with aliases := change.apply catalogue.aliases }

def Change.Finds (catalogue : Catalogue) : Change → Prop
  | product change => change.Finds catalogue.products
  | override change => change.Finds catalogue.overrides
  | .alias change => change.Finds catalogue.aliases

instance (catalogue : Catalogue) : (change : Change) → Decidable (change.Finds catalogue)
  | .product change => inferInstanceAs (Decidable (change.Finds catalogue.products))
  | .override change => inferInstanceAs (Decidable (change.Finds catalogue.overrides))
  | .alias change => inferInstanceAs (Decidable (change.Finds catalogue.aliases))

/-! ### Keys -/

/-- Equal keys in `UQ_idx_store_product_overrides_product_store`. -/
def Override.SameKey (first second : Override) : Prop :=
  first.retiredAt = none ∧ second.retiredAt = none ∧ first.tenantId = second.tenantId ∧
    first.storeId = second.storeId ∧ first.productId = second.productId

/-- Equal keys in one of `UQ_idx_product_aliases_tenant_wide`, `UQ_idx_product_aliases_external_pos_id`
and `UQ_idx_product_aliases_store_scoped`. -/
def Alias.SameKey (first second : Alias) : Prop :=
  first.retiredAt = none ∧ second.retiredAt = none ∧ first.tenantId = second.tenantId ∧
    first.identifier.identifierType = second.identifier.identifierType ∧
    first.identifier.value = second.identifier.value ∧ first.storeId = second.storeId ∧
    first.identifier.sourceSystem = second.identifier.sourceSystem

instance : DecidableRel Override.SameKey := fun _ _ =>
  inferInstanceAs (Decidable (_ ∧ _ ∧ _ ∧ _ ∧ _))

instance : DecidableRel Alias.SameKey := fun _ _ =>
  inferInstanceAs (Decidable (_ ∧ _ ∧ _ ∧ _ ∧ _ ∧ _ ∧ _))

def Catalogue.Has (catalogue : Catalogue) (productId : Uuid) : Prop :=
  ∃ product ∈ catalogue.products, product.id = productId

instance (catalogue : Catalogue) (productId : Uuid) : Decidable (catalogue.Has productId) :=
  inferInstanceAs (Decidable (∃ product ∈ catalogue.products, _))

def ProductsFit (reference : Reference) (catalogue : Catalogue) : Prop :=
  (catalogue.products.map Product.id).Nodup ∧
    ∀ product ∈ catalogue.products, reference.tenants product.tenantId

def OverridesFit (reference : Reference) (catalogue : Catalogue) : Prop :=
  (catalogue.overrides.map Override.id).Nodup ∧
    catalogue.overrides.Pairwise (fun first second => ¬ first.SameKey second) ∧
    ∀ row ∈ catalogue.overrides, reference.tenants row.tenantId ∧
      (reference.storeTenant row.storeId).isSome ∧ catalogue.Has row.productId

def AliasesFit (reference : Reference) (catalogue : Catalogue) : Prop :=
  (catalogue.aliases.map Alias.id).Nodup ∧
    catalogue.aliases.Pairwise (fun first second => ¬ first.SameKey second) ∧
    ∀ row ∈ catalogue.aliases, reference.tenants row.tenantId ∧
      (∀ store ∈ row.storeId, (reference.storeTenant store).isSome) ∧ catalogue.Has row.productId

def LogFits (reference : Reference) (catalogue : Catalogue) : Prop :=
  (catalogue.log.map ChangeLogRow.sequence).Nodup ∧
    ∀ row ∈ catalogue.log, reference.tenants row.tenantId ∧
      (∀ store ∈ row.storeId, (reference.storeTenant store).isSome) ∧ catalogue.Has row.productId

def WellFormed (reference : Reference) (catalogue : Catalogue) : Prop :=
  ProductsFit reference catalogue ∧ OverridesFit reference catalogue ∧
    AliasesFit reference catalogue ∧ LogFits reference catalogue

instance (reference : Reference) (catalogue : Catalogue) :
    Decidable (ProductsFit reference catalogue) :=
  inferInstanceAs (Decidable (_ ∧ _))

instance (reference : Reference) (catalogue : Catalogue) :
    Decidable (OverridesFit reference catalogue) :=
  inferInstanceAs (Decidable (_ ∧ _ ∧ _))

instance (reference : Reference) (catalogue : Catalogue) :
    Decidable (AliasesFit reference catalogue) :=
  inferInstanceAs (Decidable (_ ∧ _ ∧ _))

instance (reference : Reference) (catalogue : Catalogue) : Decidable (LogFits reference catalogue) :=
  inferInstanceAs (Decidable (_ ∧ _))

instance (reference : Reference) (catalogue : Catalogue) :
    Decidable (WellFormed reference catalogue) :=
  inferInstanceAs (Decidable (_ ∧ _ ∧ _ ∧ _))

/-- The server takes the statement. -/
structure Admits (reference : Reference) (catalogue : Catalogue) (change : Change) : Prop where
  before : WellFormed reference catalogue
  finds : change.Finds catalogue
  after : WellFormed reference (change.apply catalogue)

instance (reference : Reference) (catalogue : Catalogue) (change : Change) :
    Decidable (Admits reference catalogue change) :=
  decidable_of_iff (WellFormed reference catalogue ∧ change.Finds catalogue ∧
      WellFormed reference (change.apply catalogue))
    ⟨fun ⟨before, finds, after⟩ => ⟨before, finds, after⟩,
      fun ⟨before, finds, after⟩ => ⟨before, finds, after⟩⟩

/-! ### Triggers -/

/-- `retired_at IS NULL AND is_active AND default_price IS NOT NULL AND default_currency_code IS NOT
NULL`. -/
def Product.isSellableBase (product : Product) : Bool :=
  product.retiredAt.isNone && product.isActive && product.defaultPrice.isSome &&
    product.defaultCurrencyCode.isSome

/-- `catalog_change_log_from_tenant_products`; the trigger is `AFTER INSERT OR UPDATE`. -/
def catalogChangeLogFromTenantProducts : RowChange Product → List ChangeLogValues
  | .insert new => if new.isSellableBase then [⟨new.tenantId, none, new.id, .upsert⟩] else []
  | .update old new =>
    let changed := new.defaultPrice ≠ old.defaultPrice
      || new.defaultCurrencyCode ≠ old.defaultCurrencyCode
      || new.isActive ≠ old.isActive
      || new.retiredAt ≠ old.retiredAt
      || new.taxCategory ≠ old.taxCategory
      || new.name ≠ old.name
    if !changed && old.isSellableBase = new.isSellableBase then []
    else
      [⟨new.tenantId, none, new.id,
        if old.isSellableBase && !new.isSellableBase then .removeFromSellable else .upsert⟩]
  | .delete _ => []

def catalogChangeLogFromStoreOverrides : RowChange Override → List ChangeLogValues
  | .delete old => [⟨old.tenantId, some old.storeId, old.productId, .removeFromSellable⟩]
  | .insert new =>
    [⟨new.tenantId, some new.storeId, new.productId,
      if new.retiredAt.isSome then .removeFromSellable else .upsert⟩]
  | .update old new =>
    let changed := new.price ≠ old.price
      || new.currencyCode ≠ old.currencyCode
      || new.isActive ≠ old.isActive
      || new.taxCategory ≠ old.taxCategory
      || new.retiredAt ≠ old.retiredAt
    if !changed then []
    else
      [⟨new.tenantId, some new.storeId, new.productId,
        if new.retiredAt.isSome && old.retiredAt.isNone then .removeFromSellable else .upsert⟩]

def catalogChangeLogFromProductAliases : RowChange Alias → List ChangeLogValues
  | .delete old => [⟨old.tenantId, old.storeId, old.productId, .upsert⟩]
  | .insert new => [⟨new.tenantId, new.storeId, new.productId, .upsert⟩]
  | .update old new =>
    let changed := new.identifier.value ≠ old.identifier.value
      || new.identifier.identifierType ≠ old.identifier.identifierType
      || new.retiredAt ≠ old.retiredAt
      || new.storeId ≠ old.storeId
    if !changed then [] else [⟨new.tenantId, new.storeId, new.productId, .upsert⟩]

def Change.logged : Change → List ChangeLogValues
  | product change => catalogChangeLogFromTenantProducts change
  | override change => catalogChangeLogFromStoreOverrides change
  | .alias change => catalogChangeLogFromProductAliases change

end DataPulse.ReadDown
