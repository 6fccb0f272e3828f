/-
**Entering aliases, store overrides and reconciled items.**

`create` of `ProductAliasesService` and of `StoreOverrideService`, and `linkUnknownItem` and
`createProductFromUnknownItem` of `ReconciliationService`, as steps of a machine over the products, aliases,
overrides and unknown items. A call is one transaction: where it throws, nothing is changed.

* A foreign key sees the rows of all tenants, a session those its row-level security shows (`Session`).
* `ProductAliasesService` asks a pool that it is given, outside of a tenant's context: as a superuser, which no
  policy holds for, or as the application, to which every policy is then closed.
* An INSERT of an override leaves the currency out, so that one with a price fails the CHECK that pairs the two.

What the calls record in the audit and in metrics is not part of the model.
-/

import DataPulse.Lib.Machine
import DataPulse.Unknowns.Service

namespace DataPulse.Catalog

open Lib Platform
open Inventory (require)
open Unknowns (Identifier IdentifierType UnknownItem Product Alias LinkInput LinkResult CreateInput CreateResult)

/-! ### Rows -/

/-- `store_product_overrides`. -/
structure StoreOverride where
  id : Uuid
  tenantId : Uuid
  storeId : Uuid
  productId : Uuid
  price : Option String
  currencyCode : Option String
  isActive : Option Bool
  taxCategory : Option String
  retiredAt : Option Int
  createdAt : Int
  updatedAt : Int
  createdBy : Uuid
  updatedBy : Uuid

/-- The tables that the four calls read and write. -/
structure Database where
  products : List Product
  aliases : List Alias
  overrides : List StoreOverride
  items : List UnknownItem

structure Reference where
  tenants : Uuid → Bool
  stores : Uuid → Option Uuid
  categories : Uuid → Bool

/-- Who sends a statement: a superuser, the application without a context, or the application with
`app.current_tenant` and `app.current_store` set (no store is `*`). -/
inductive Session where
  | superuser
  | unset
  | within (tenant : Uuid) (store : Option Uuid)

/-- `tenant_id = app.current_tenant`: the policies of products and aliases. -/
def Session.ofTenant : Session → Uuid → Bool
  | superuser, _ => true
  | unset, _ => false
  | within tenant _, tenantId => tenantId = tenant

/-- `store_product_overrides_tenant_write`. -/
def Session.ofStore : Session → Uuid → Uuid → Bool
  | superuser, _, _ => true
  | unset, _, _ => false
  | within tenant store, tenantId, storeId => tenantId = tenant && store = some storeId

/-- `unknown_items_select`. -/
def Session.seesItem : Session → UnknownItem → Bool
  | superuser, _ => true
  | unset, _ => false
  | within tenant store, row => row.tenantId = tenant && store.all (row.storeId = ·)

/-! ### Statements -/

section Statements

variable (reference : Reference) (session : Session) (db : Database)

/-- `INSERT INTO product_aliases`; an active row of one of the three unique keys refuses it. -/
def insertAlias (row : Alias) : Except PgError Database := do
  require (session.ofTenant row.tenantId) (.plain .rowSecurity)
  require (row.storeId.isNone || row.identifier.identifierType ≠ .externalPosId)
    ⟨.check, some "product_aliases_store_scope_consistency"⟩
  require (db.aliases.all fun other => other.id ≠ row.id) ⟨.unique, some "product_aliases_pkey"⟩
  require (db.aliases.all fun other => !other.isActive || !other.sameKey row) (.plain .unique)
  require (reference.tenants row.tenantId) ⟨.foreignKey, some "product_aliases_tenant_id_fkey"⟩
  require (db.products.any fun product => product.id = row.productId)
    ⟨.foreignKey, some "product_aliases_product_id_fkey"⟩
  require (row.storeId.all fun store => (reference.stores store).isSome)
    ⟨.foreignKey, some "product_aliases_store_id_fkey"⟩
  .ok { db with aliases := db.aliases ++ [row] }

/-- `INSERT INTO store_product_overrides`. -/
def insertOverride (row : StoreOverride) : Except PgError Database := do
  require (session.ofStore row.tenantId row.storeId) (.plain .rowSecurity)
  require (row.price.isNone = row.currencyCode.isNone)
    ⟨.check, some "store_product_overrides_currency_paired"⟩
  require (row.taxCategory.all fun text => 1 ≤ text.length && text.length ≤ 50)
    ⟨.check, some "store_product_overrides_tax_category_length"⟩
  require (row.price.isSome || row.isActive.isSome || row.taxCategory.isSome)
    ⟨.check, some "store_product_overrides_at_least_one_override"⟩
  require (db.overrides.all fun other => other.id ≠ row.id) ⟨.unique, some "store_product_overrides_pkey"⟩
  require (db.overrides.all fun other => !(other.retiredAt.isNone && other.tenantId = row.tenantId &&
      other.storeId = row.storeId && other.productId = row.productId))
    ⟨.unique, some "UQ_idx_store_product_overrides_product_store"⟩
  require (reference.tenants row.tenantId) ⟨.foreignKey, some "store_product_overrides_tenant_id_fkey"⟩
  require (reference.stores row.storeId).isSome ⟨.foreignKey, some "store_product_overrides_store_id_fkey"⟩
  require (db.products.any fun product => product.id = row.productId)
    ⟨.foreignKey, some "store_product_overrides_product_id_fkey"⟩
  .ok { db with overrides := db.overrides ++ [row] }

/-- `INSERT INTO tenant_products`. -/
def insertProduct (row : Product) : Except PgError Database := do
  require (session.ofTenant row.tenantId) (.plain .rowSecurity)
  require (1 ≤ row.name.length && row.name.length ≤ 500) ⟨.check, some "tenant_products_name_length"⟩
  require (1 ≤ row.taxCategory.length && row.taxCategory.length ≤ 50)
    ⟨.check, some "tenant_products_tax_category_length"⟩
  require (db.products.all fun other => other.id ≠ row.id) ⟨.unique, some "tenant_products_pkey"⟩
  require (reference.tenants row.tenantId) ⟨.foreignKey, some "tenant_products_tenant_id_fkey"⟩
  require (row.categoryId.all reference.categories) ⟨.foreignKey, some "tenant_products_category_id_fkey"⟩
  .ok { db with products := db.products ++ [row] }

/-- The product under the identifier, if the session sees it. -/
def findProduct (id : Uuid) : Option Product :=
  db.products.find? fun product => product.id = id && session.ofTenant product.tenantId

def findItem (id : Uuid) : Option UnknownItem :=
  db.items.find? fun item => item.id = id && session.seesItem item

/-- `UPDATE unknown_items SET resolution_status = 'resolved', … WHERE id = $1 AND resolution_status = 'pending'
RETURNING …`. -/
def resolveItem (id : Uuid) (action : Unknowns.ResolutionAction) (productId actor : Uuid) (now : Int) :
    Except PgError (Option UnknownItem × Database) := do
  require (db.products.any fun product => product.id = productId)
    ⟨.foreignKey, some "unknown_items_resolved_product_id_fkey"⟩
  match (findItem session db id).filter UnknownItem.isPending with
  | none => .ok (none, db)
  | some item =>
    let write : Unknowns.Write := .resolve id action productId actor now
    .ok (some (item.apply write), { db with items := db.items.map fun other => other.apply write })

end Statements

/-! ### Calls -/

inductive Thrown where
  | pg (error : PgError)
  | error (message : String)
  | conflict (message : String)
  | badRequest (message : String)
  | notFound (message : String)

structure CreateProductAliasInput where
  tenantId : Uuid
  productId : Uuid
  identifierType : IdentifierType
  value : String
  sourceSystem : Option String
  storeId : Option Uuid

/-- `CreateStoreOverrideDto`; the last two are whether it has the keys `name` and `categoryId`. -/
structure CreateStoreOverrideDto where
  tenantId : Uuid
  storeId : Uuid
  productId : Uuid
  actorId : Uuid
  isActive : Option Bool
  price : Option String
  taxCategory : Option String
  hasName : Bool
  hasCategoryId : Bool

/-- An answer of the server, and what a call throws in place of its error. -/
def thrown {α : Type} : Except PgError α → Except Thrown α
  | .ok value => .ok value
  | .error error => .error (.pg error)

section Services

variable (reference : Reference) (db : Database)

/-- The columns of the identifier, where the CHECKs admit them. -/
def identifierOf (input : CreateProductAliasInput) : Except PgError Identifier :=
  if sized : 1 ≤ input.value.length ∧ input.value.length ≤ 200 then
    if paired : input.sourceSystem.isSome = decide (input.identifierType = .externalPosId) then
      .ok ⟨input.identifierType, input.value, input.sourceSystem, sized, paired⟩
    else .error ⟨.check, some "product_aliases_source_system_required"⟩
  else .error ⟨.check, some "product_aliases_value_length"⟩

/-- The INSERT of `ProductAliasesService.create`. -/
def insertInput (session : Session) (input : CreateProductAliasInput) (actorId id : Uuid) (now : Int) :
    Except PgError (Alias × Database) := do
  require (session.ofTenant input.tenantId) (.plain .rowSecurity)
  let identifier ← identifierOf input
  let row : Alias := ⟨id, input.tenantId, input.productId, identifier, input.storeId, none, now, actorId⟩
  let entered ← insertAlias reference session db row
  .ok (row, entered)

/-- `create(input, actorId)` of `ProductAliasesService`, with its `catch`. -/
def createAlias (session : Session) (input : CreateProductAliasInput) (actorId id : Uuid) (now : Int) :
    Except Thrown (Alias × Database) :=
  match insertInput reference db session input actorId id now with
  | .ok entered => .ok entered
  | .error error =>
    if error.code = .unique then .error (.conflict "Product alias already exists.") else .error (.pg error)

/-- `create(dto)` of `StoreOverrideService`. -/
def createOverride (dto : CreateStoreOverrideDto) (id : Uuid) (now : Int) :
    Except Thrown (StoreOverride × Database) :=
  if dto.hasName then .error (.badRequest "'name' is not overrideable at the store level (Q8).")
  else if dto.hasCategoryId then
    .error (.badRequest "'categoryId' is not overrideable at the store level (Q8).")
  else
    let session : Session := .within dto.tenantId (some dto.storeId)
    match findProduct session db dto.productId with
    | none => .error (.notFound ("tenant_products row not visible under current tenant (id=" ++
        dto.productId.text ++ ")"))
    | some _ => do
        let row : StoreOverride := ⟨id, dto.tenantId, dto.storeId, dto.productId, dto.price, none, dto.isActive,
          dto.taxCategory, none, now, now, dto.actorId, dto.actorId⟩
        let entered ← thrown (insertOverride reference session db row)
        .ok (row, entered)

/-- `linkUnknownItem(input)`; a transaction with a failed INSERT changes nothing, though it is committed. -/
def linkUnknownItem (input : LinkInput) (id : Uuid) (now : Int) : Except Thrown (LinkResult × Database) :=
  let session : Session := .within input.tenantId input.storeId
  match findItem session db input.unknownItemId with
  | none => .ok (.notFound, db)
  | some existing =>
    if existing.resolutionStatus ≠ .pending then .ok (.alreadyReconciled, db)
    else match (findProduct session db input.productId).filter fun product => product.tenantId =
      input.tenantId with
      | none => .ok (.notFound, db)
      | some product =>
        if product.retiredAt.isSome then .ok (.targetUnavailable, db)
        else match insertAlias reference session db ⟨id, input.tenantId, input.productId, existing.identifier,
            some existing.storeId, none, now, input.actorUserId⟩ with
          | .error error => if error.code = .unique then .ok (.aliasConflict, db) else .error (.pg error)
          | .ok db => do
              let (updated, db) ← thrown (resolveItem session db input.unknownItemId .linked
                input.productId input.actorUserId now)
              match updated with
              | none => .error (.error ("reconciliation.linkUnknownItem invariant: unknown_items " ++
                  "UPDATE returned 0 rows after FOR UPDATE lock + pending check"))
              | some row => .ok (.ok row, db)

/-- `createProductFromUnknownItem(input)`; its sentinel rolls the transaction back. -/
def createProductFromUnknownItem (input : CreateInput) (productId id : Uuid) (now : Int) :
    Except Thrown (CreateResult × Database) :=
  let session : Session := .within input.tenantId input.storeId
  match findItem session db input.unknownItemId with
  | none => .ok (.notFound, db)
  | some existing =>
    if existing.resolutionStatus ≠ .pending then .ok (.alreadyReconciled, db)
    else do
      let created ← thrown (insertProduct reference session db ⟨productId, input.tenantId, input.name,
        input.taxCategory, input.categoryId, none, input.actorUserId⟩)
      match insertAlias reference session created ⟨id, input.tenantId, productId, existing.identifier,
          some existing.storeId, none, now, input.actorUserId⟩ with
      | .error error => if error.code = .unique then .ok (.aliasConflict, db) else .error (.pg error)
      | .ok entered => do
          let (updated, resolved) ← thrown (resolveItem session entered input.unknownItemId .created
            productId input.actorUserId now)
          match updated with
          | none => .error (.error ("reconciliation.createProductFromUnknownItem invariant: " ++
              "unknown_items UPDATE returned 0 rows after FOR UPDATE lock + pending check"))
          | some row => .ok (.ok row productId, resolved)

end Services

/-- A call, with the identifiers it draws and its time. -/
inductive Call where
  | createAlias (input : CreateProductAliasInput) (actorId id : Uuid) (now : Int)
  | createOverride (dto : CreateStoreOverrideDto) (id : Uuid) (now : Int)
  | link (input : LinkInput) (id : Uuid) (now : Int)
  | create (input : CreateInput) (productId id : Uuid) (now : Int)

/-- What the services are given: the tables nobody here writes, and the pool of `ProductAliasesService`. -/
structure Services where
  reference : Reference
  pool : Session

def Call.perform (services : Services) (db : Database) : Call → Database
  | createAlias input actorId id now =>
    ((Catalog.createAlias services.reference db services.pool input actorId id now).toOption.map Prod.snd).getD
      db
  | createOverride dto id now =>
    ((Catalog.createOverride services.reference db dto id now).toOption.map Prod.snd).getD db
  | link input id now => ((linkUnknownItem services.reference db input id now).toOption.map Prod.snd).getD db
  | create input productId id now =>
    ((createProductFromUnknownItem services.reference db input productId id now).toOption.map Prod.snd).getD db

/-- **The calls, one after the other.** -/
def catalogMachine (services : Services) (start : Database) : Machine Database Call where
  start := start
  step db call := some (call.perform services db)

end DataPulse.Catalog
