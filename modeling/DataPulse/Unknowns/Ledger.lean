/-
**Unknown items, the aliases and products they are reconciled with, and the statements sent about
them.**

The contents are what was written to the three tables, in the order of the commits: rows, and the
UPDATEs of an item; a product or an alias can be retired. A row stands in its table with every UPDATE of
it applied (`UnknownItem.after`, `Alias.after`, `Product.after`).

* An `Identifier` is what the request schema of a capture accepts and what the CHECKs of both tables
  admit: a source system for an external POS id, and for nothing else.
* `SELECT … FOR UPDATE` writes a `lock`. A `resolve` is sent under the lock of its item; a `dismiss` is
  sent without one, and waits for it.
* `exec`: the server, with the row-level security of the session's tenant and store (`*` is every store).

`product_aliases` has three partial unique indexes, `unknown_items` has none. Timestamps are opaque
numbers and a session has one `now()`; `sale_context` is the text of its JSON. Texts hold no NUL character.
-/

import DataPulse.Inventory.Ledger

namespace DataPulse.Unknowns

open Lib Platform
open Inventory (require)

/-! ### Rows -/

inductive IdentifierType where
  | barcode
  | sku
  | plu
  | supplierCode
  | externalPosId
  deriving DecidableEq

/-- An identifier: its type, its value, and the source system of an external POS id. -/
structure Identifier where
  identifierType : IdentifierType
  value : String
  sourceSystem : Option String
  sized : 1 ≤ value.length ∧ value.length ≤ 200
  paired : sourceSystem.isSome = decide (identifierType = .externalPosId)
  deriving DecidableEq

inductive ResolutionStatus where
  | pending
  | resolved
  | dismissed
  deriving DecidableEq

inductive ResolutionAction where
  | linked
  | created
  | dismissed
  deriving DecidableEq

structure UnknownItem where
  id : Uuid
  tenantId : Uuid
  storeId : Uuid
  identifier : Identifier
  encounteredAt : Int
  saleContext : Option String
  resolutionStatus : ResolutionStatus
  resolvedAt : Option Int
  resolvedBy : Option Uuid
  resolutionAction : Option ResolutionAction
  resolvedProductId : Option Uuid
  correlationId : Uuid
  deriving DecidableEq

/-- `tenant_products`. -/
structure Product where
  id : Uuid
  tenantId : Uuid
  name : String
  taxCategory : String
  categoryId : Option Uuid
  retiredAt : Option Int
  createdBy : Uuid
  deriving DecidableEq

/-- `product_aliases`. -/
structure Alias where
  id : Uuid
  tenantId : Uuid
  productId : Uuid
  identifier : Identifier
  storeId : Option Uuid
  retiredAt : Option Int
  createdAt : Int
  createdBy : Uuid
  deriving DecidableEq

/-- What a statement writes: a row, a row lock, or the UPDATE of a row. -/
inductive Write where
  | item (row : UnknownItem)
  | product (row : Product)
  | alias (row : Alias)
  | lock (itemId : Uuid)
  | resolve (itemId : Uuid) (action : ResolutionAction) (productId actor : Uuid) (resolvedAt : Int)
  | dismiss (itemId actor : Uuid) (resolvedAt : Int)
  | retireProduct (id : Uuid) (retiredAt : Int)
  | retireAlias (id : Uuid) (retiredAt : Int)
  deriving DecidableEq

/-! ### Tables -/

/-- The rows inserted into `unknown_items`. -/
def insertedItems (writes : List Write) : List UnknownItem :=
  writes.filterMap fun | .item row => some row | _ => none

/-- The rows inserted into `tenant_products`. -/
def insertedProducts (writes : List Write) : List Product :=
  writes.filterMap fun | .product row => some row | _ => none

/-- The rows inserted into `product_aliases`. -/
def insertedAliases (writes : List Write) : List Alias :=
  writes.filterMap fun | .alias row => some row | _ => none

def Write.updated : Write → Option Uuid
  | resolve itemId .. => some itemId
  | dismiss itemId .. => some itemId
  | _ => none

def UnknownItem.apply (row : UnknownItem) : Write → UnknownItem
  | .resolve itemId action productId actor resolvedAt =>
    if row.id = itemId then
      { row with
        resolutionStatus := .resolved
        resolutionAction := some action
        resolvedAt := some resolvedAt
        resolvedBy := some actor
        resolvedProductId := some productId }
    else row
  | .dismiss itemId actor resolvedAt =>
    if row.id = itemId then
      { row with
        resolutionStatus := .dismissed
        resolutionAction := some .dismissed
        resolvedAt := some resolvedAt
        resolvedBy := some actor
        resolvedProductId := none }
    else row
  | _ => row

def UnknownItem.after (writes : List Write) (row : UnknownItem) : UnknownItem :=
  writes.foldl UnknownItem.apply row

def Product.apply (row : Product) : Write → Product
  | .retireProduct id retiredAt => if row.id = id then { row with retiredAt := some retiredAt } else row
  | _ => row

/-- The inserted product with every UPDATE of it applied. -/
def Product.after (writes : List Write) (row : Product) : Product := writes.foldl Product.apply row

def Alias.apply (row : Alias) : Write → Alias
  | .retireAlias id retiredAt => if row.id = id then { row with retiredAt := some retiredAt } else row
  | _ => row

/-- The inserted alias with every UPDATE of it applied. -/
def Alias.after (writes : List Write) (row : Alias) : Alias := writes.foldl Alias.apply row

/-- `unknown_items`. -/
def itemsOf (writes : List Write) : List UnknownItem :=
  (insertedItems writes).map (UnknownItem.after writes)

/-- `tenant_products`. -/
def productsOf (writes : List Write) : List Product :=
  (insertedProducts writes).map (Product.after writes)

/-- `product_aliases`. -/
def aliasesOf (writes : List Write) : List Alias := (insertedAliases writes).map (Alias.after writes)

/-- `resolution_status = 'pending'`. -/
def UnknownItem.isPending (row : UnknownItem) : Bool := row.resolutionStatus = .pending

/-- `retired_at IS NULL`. -/
def Alias.isActive (row : Alias) : Bool := row.retiredAt.isNone

def UnknownItem.sameTuple (first second : UnknownItem) : Bool :=
  first.tenantId = second.tenantId && first.storeId = second.storeId &&
    first.identifier = second.identifier

/-- Equal keys in `UQ_idx_product_aliases_tenant_wide`, `UQ_idx_product_aliases_external_pos_id` or
`UQ_idx_product_aliases_store_scoped`. -/
def Alias.sameKey (first second : Alias) : Bool :=
  first.tenantId = second.tenantId &&
    first.identifier.identifierType = second.identifier.identifierType &&
    first.identifier.value = second.identifier.value &&
    ((first.identifier.identifierType ≠ .externalPosId && first.storeId.isNone &&
        second.storeId.isNone) ||
      (first.identifier.identifierType = .externalPosId &&
        first.identifier.sourceSystem = second.identifier.sourceSystem) ||
      (first.storeId.isSome && first.storeId = second.storeId))

/-- `ORDER BY (store_id IS NULL) ASC, created_at DESC`. -/
def Alias.ordered (first second : Alias) : Prop :=
  first.storeId.isNone < second.storeId.isNone ∨
    first.storeId.isNone = second.storeId.isNone ∧ second.createdAt ≤ first.createdAt

instance : DecidableRel Alias.ordered := fun first second =>
  inferInstanceAs (Decidable (first.storeId.isNone < second.storeId.isNone ∨
    first.storeId.isNone = second.storeId.isNone ∧ second.createdAt ≤ first.createdAt))

/-! ### Statements -/

/-- The tables nobody here writes. -/
structure Reference where
  tenants : Uuid → Bool
  stores : Uuid → Bool
  categories : Uuid → Bool

/-- The context of a transaction: its tenant, its store (none is `*`), and its time. -/
structure Context where
  tenant : Uuid
  store : Option Uuid
  now : Int

/-- The VALUES of an INSERT into `unknown_items`. -/
structure ItemValues where
  id : Uuid
  tenantId : Uuid
  storeId : Uuid
  identifier : Identifier
  saleContext : Option String
  correlationId : Uuid

/-- The VALUES of an INSERT into `tenant_products`. -/
structure ProductValues where
  id : Uuid
  tenantId : Uuid
  name : String
  taxCategory : String
  categoryId : Option Uuid
  createdBy : Uuid
  deriving DecidableEq

/-- The VALUES of an INSERT into `product_aliases`; `id` is the column's default. -/
structure AliasValues where
  id : Uuid
  tenantId : Uuid
  productId : Uuid
  identifier : Identifier
  storeId : Option Uuid
  createdBy : Uuid
  deriving DecidableEq

/-- A change of the catalogue by another service. -/
inductive CatalogChange where
  | product (values : ProductValues)
  | alias (values : AliasValues)
  | retireProduct (id : Uuid)
  | retireAlias (id : Uuid)
  deriving DecidableEq

/-- The statements about unknown items, with the parameters they send. -/
inductive Stmt where
  | change (change : CatalogChange)
  /-- `SELECT id, product_id FROM product_aliases WHERE tenant_id = $1 AND identifier_type = $2 AND value
  = $3 AND retired_at IS NULL AND (store_id IS NULL OR store_id = $4) ORDER BY (store_id IS NULL) ASC,
  created_at DESC LIMIT 1`. -/
  | resolveAlias (tenantId : Uuid) (identifierType : IdentifierType) (value : String) (storeId : Uuid)
  /-- `SELECT … FROM unknown_items WHERE tenant_id = $1 AND store_id = $2 AND identifier_type = $3 AND
  value = $4 AND source_system IS NOT DISTINCT FROM $5 AND resolution_status = 'pending' ORDER BY
  encountered_at ASC LIMIT 1`. -/
  | findPending (tenantId storeId : Uuid) (identifier : Identifier)
  /-- `INSERT INTO unknown_items … RETURNING …`. -/
  | insertItem (values : ItemValues)
  /-- `SELECT … FROM unknown_items WHERE id = $1 FOR UPDATE`. -/
  | lockItem (id : Uuid)
  /-- `SELECT id, retired_at FROM tenant_products WHERE id = $1 AND tenant_id = $2 LIMIT 1`. -/
  | findProduct (id tenantId : Uuid)
  /-- `INSERT INTO tenant_products`. -/
  | insertProduct (values : ProductValues)
  /-- `INSERT INTO product_aliases`. -/
  | insertAlias (values : AliasValues)
  /-- `UPDATE unknown_items SET resolution_status = 'resolved', resolution_action = …, resolved_at =
  now(), resolved_by = $2, resolved_product_id = $3 WHERE id = $1 AND resolution_status = 'pending'
  RETURNING …`. -/
  | resolveItem (id : Uuid) (action : ResolutionAction) (actor productId : Uuid)
  /-- `UPDATE unknown_items SET resolution_status = 'dismissed', resolution_action = 'dismissed',
  resolved_at = now(), resolved_by = $2, resolved_product_id = NULL WHERE id = $1 AND resolution_status =
  'pending' RETURNING …`. -/
  | dismissItem (id actor : Uuid)
  /-- `SELECT resolution_status FROM unknown_items WHERE id = $1 LIMIT 1`. -/
  | itemStatus (id : Uuid)

def Reply : Stmt → Type
  | .resolveAlias .. => Option Alias
  | .findPending .. => Option UnknownItem
  | .insertItem .. => Option UnknownItem
  | .lockItem .. => Option UnknownItem
  | .findProduct .. => Option Product
  | .resolveItem .. => Option UnknownItem
  | .dismissItem .. => Option UnknownItem
  | .itemStatus .. => Option ResolutionStatus
  | _ => Unit

/-! ### The server -/

section Server

variable (reference : Reference) (context : Context) (writes : List Write)

/-- `unknown_items_select`. -/
def Context.sees (row : UnknownItem) : Bool :=
  row.tenantId = context.tenant && context.store.all (row.storeId = ·)

/-- The item under the identifier, if the session sees it. -/
def visibleItem (id : Uuid) : Option UnknownItem :=
  (itemsOf writes).find? fun row => row.id = id && context.sees row

/-- The aliases that resolve an identifier at a store, the store's own before the tenant's, newer before
older. -/
def resolvingAliases (tenantId : Uuid) (identifierType : IdentifierType) (value : String)
    (storeId : Uuid) : List Alias :=
  ((aliasesOf writes).filter fun row => row.tenantId = tenantId &&
    row.identifier.identifierType = identifierType && row.identifier.value = value && row.isActive &&
    row.storeId.all (· = storeId) && row.tenantId = context.tenant).insertionSort Alias.ordered

def pendingItems (tenantId storeId : Uuid) (identifier : Identifier) : List UnknownItem :=
  ((itemsOf writes).filter fun row => row.tenantId = tenantId && row.storeId = storeId &&
    row.identifier = identifier && row.isPending && context.sees row).insertionSort
      fun first second => first.encounteredAt ≤ second.encounteredAt

def ItemValues.row (values : ItemValues) : UnknownItem where
  id := values.id
  tenantId := values.tenantId
  storeId := values.storeId
  identifier := values.identifier
  encounteredAt := context.now
  saleContext := values.saleContext
  resolutionStatus := .pending
  resolvedAt := none
  resolvedBy := none
  resolutionAction := none
  resolvedProductId := none
  correlationId := values.correlationId

def ProductValues.row (values : ProductValues) : Product where
  id := values.id
  tenantId := values.tenantId
  name := values.name
  taxCategory := values.taxCategory
  categoryId := values.categoryId
  retiredAt := none
  createdBy := values.createdBy

def AliasValues.row (values : AliasValues) : Alias where
  id := values.id
  tenantId := values.tenantId
  productId := values.productId
  identifier := values.identifier
  storeId := values.storeId
  retiredAt := none
  createdAt := context.now
  createdBy := values.createdBy

/-- The server inserts a pending item; nothing keeps two of one tuple apart. -/
def insertItem (values : ItemValues) : Except PgError (Option UnknownItem × List Write) := do
  let row := values.row context
  require (context.sees row) (.plain .rowSecurity)
  require ((insertedItems writes).all fun other => other.id ≠ row.id)
    ⟨.unique, some "unknown_items_pkey"⟩
  require (reference.tenants row.tenantId) ⟨.foreignKey, some "unknown_items_tenant_id_fkey"⟩
  require (reference.stores row.storeId) ⟨.foreignKey, some "unknown_items_store_id_fkey"⟩
  .ok (some row, [.item row])

def insertProduct (values : ProductValues) : Except PgError (Unit × List Write) := do
  let row := values.row
  require (row.tenantId = context.tenant) (.plain .rowSecurity)
  require (1 ≤ row.name.length && row.name.length ≤ 500)
    ⟨.check, some "tenant_products_name_length"⟩
  require (1 ≤ row.taxCategory.length && row.taxCategory.length ≤ 50)
    ⟨.check, some "tenant_products_tax_category_length"⟩
  require ((insertedProducts writes).all fun other => other.id ≠ row.id)
    ⟨.unique, some "tenant_products_pkey"⟩
  require (reference.tenants row.tenantId) ⟨.foreignKey, some "tenant_products_tenant_id_fkey"⟩
  require (row.categoryId.all reference.categories)
    ⟨.foreignKey, some "tenant_products_category_id_fkey"⟩
  .ok ((), [.product row])

/-- The server inserts an alias; an active one of the same key refuses it. -/
def insertAlias (values : AliasValues) : Except PgError (Unit × List Write) := do
  let row := values.row context
  require (row.tenantId = context.tenant) (.plain .rowSecurity)
  require (row.storeId.isNone || row.identifier.identifierType ≠ .externalPosId)
    ⟨.check, some "product_aliases_store_scope_consistency"⟩
  require ((insertedAliases writes).all fun other => other.id ≠ row.id)
    ⟨.unique, some "product_aliases_pkey"⟩
  require ((aliasesOf writes).all fun other => !other.isActive || !other.sameKey row)
    (.plain .unique)
  require ((insertedProducts writes).any fun product => product.id = row.productId)
    ⟨.foreignKey, some "product_aliases_product_id_fkey"⟩
  require (row.storeId.all reference.stores) ⟨.foreignKey, some "product_aliases_store_id_fkey"⟩
  .ok ((), [.alias row])

/-- The server updates the item under the identifier, if the session sees it and it is pending. -/
def updateItem (id : Uuid) (write : Write) : Except PgError (Option UnknownItem × List Write) :=
  match (visibleItem context writes id).filter UnknownItem.isPending with
  | none => .ok (none, [])
  | some row => .ok (some (row.apply write), [write])

def exec : (statement : Stmt) → Except PgError (Reply statement × List Write)
  | .change (.product values) => insertProduct reference context writes values
  | .change (.alias values) => insertAlias reference context writes values
  | .change (.retireProduct id) => .ok ((), if (productsOf writes).any fun product =>
    product.id = id && product.tenantId = context.tenant then [.retireProduct id context.now] else [])
  | .change (.retireAlias id) => .ok ((), if (aliasesOf writes).any fun row =>
    row.id = id && row.tenantId = context.tenant then [.retireAlias id context.now] else [])
  | .resolveAlias tenantId identifierType value storeId =>
    .ok ((resolvingAliases context writes tenantId identifierType value storeId).head?, [])
  | .findPending tenantId storeId identifier =>
    .ok ((pendingItems context writes tenantId storeId identifier).head?, [])
  | .insertItem values => insertItem reference context writes values
  | .lockItem id =>
    match visibleItem context writes id with
    | none => .ok (none, [])
    | some row => .ok (some row, [.lock id])
  | .findProduct id tenantId =>
    .ok ((productsOf writes).find? fun product => product.id = id &&
      product.tenantId = tenantId && product.tenantId = context.tenant, [])
  | .insertProduct values => insertProduct reference context writes values
  | .insertAlias values => insertAlias reference context writes values
  | .resolveItem id action actor productId => do
      require ((insertedProducts writes).any fun product => product.id = productId)
        ⟨.foreignKey, some "unknown_items_resolved_product_id_fkey"⟩
      updateItem context writes id (.resolve id action productId actor context.now)
  | .dismissItem id actor => updateItem context writes id (.dismiss id actor context.now)
  | .itemStatus id =>
    .ok ((visibleItem context writes id).map UnknownItem.resolutionStatus, [])

end Server

/-- Two writes of which the second waits for the transaction of the first: rows with one key, and locks
and dismissals of one item. -/
def clash : Write → Write → Bool
  | .item first, .item second => first.id = second.id
  | .product first, .product second => first.id = second.id
  | .alias first, .alias second => first.id = second.id || first.sameKey second
  | .lock first, .lock second => first = second
  | .lock first, .dismiss second _ _ => first = second
  | .dismiss first _ _, .lock second => first = second
  | .dismiss first _ _, .dismiss second _ _ => first = second
  | _, _ => false

end DataPulse.Unknowns
