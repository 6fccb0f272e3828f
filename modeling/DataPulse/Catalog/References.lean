/-
**Which rows a catalogue entry refers to.**

* `references_own`: while it is, the references stay so, and a call that names another tenant's product or store
  changes nothing; `unprobed_crosses`: where it is not, they need not.
-/

import DataPulse.Catalog.Service
import DataPulse.Unknowns.Effects

namespace DataPulse.Catalog

open Lib Platform
open Inventory (require_ok require_all)
open Unknowns (Identifier UnknownItem Product Alias LinkInput LinkResult CreateInput CreateResult)

/-! ### References -/

section Own

variable (reference : Reference) (db : Database)

/-- The product, and the store if there is one, are the tenant's. -/
structure Refers (tenantId productId : Uuid) (storeId : Option Uuid) : Prop where
  product : ∃ row ∈ db.products, row.id = productId
  owned : ∀ row ∈ db.products, row.id = productId → row.tenantId = tenantId
  store : ∀ id, storeId = some id → reference.stores id = some tenantId

/-- **Every alias and every override refers to a product, and a store, of its own tenant.** A product has
one row, and items were captured at stores of their tenant. -/
structure OwnReferences : Prop where
  one : ∀ first ∈ db.products, ∀ second ∈ db.products, first.id = second.id → first = second
  items : ∀ item ∈ db.items, reference.stores item.storeId = some item.tenantId
  aliases : ∀ row ∈ db.aliases, Refers reference db row.tenantId row.productId row.storeId
  overrides : ∀ row ∈ db.overrides, Refers reference db row.tenantId row.productId (some row.storeId)

/-- A product of another tenant. -/
def ForeignProduct (tenantId productId : Uuid) : Prop :=
  ∃ row ∈ db.products, row.id = productId ∧ row.tenantId ≠ tenantId

/-- A store of another tenant. -/
def ForeignStore (tenantId storeId : Uuid) : Prop :=
  ∃ owner, reference.stores storeId = some owner ∧ owner ≠ tenantId

/-- The call names a product or a store of another tenant. -/
def Call.NamesForeign : Call → Prop
  | createAlias input .. => ForeignProduct db input.tenantId input.productId ∨
      ∃ storeId, input.storeId = some storeId ∧ ForeignStore reference input.tenantId storeId
  | createOverride dto .. => ForeignProduct db dto.tenantId dto.productId ∨
      ForeignStore reference dto.tenantId dto.storeId
  | link input .. => ForeignProduct db input.tenantId input.productId ∨
      ∃ storeId, input.storeId = some storeId ∧ ForeignStore reference input.tenantId storeId
  | create input .. => ∃ storeId, input.storeId = some storeId ∧ ForeignStore reference input.tenantId storeId

end Own

/-- **What nobody probes is the tenant's own**: the product and the store of an alias that the pool may
insert, and the store of an override. -/
def Call.UnprobedOwn (services : Services) (db : Database) : Call → Prop
  | createAlias input .. => services.pool.ofTenant input.tenantId = true →
      ¬ForeignProduct db input.tenantId input.productId ∧
        ∀ storeId, input.storeId = some storeId → ¬ForeignStore services.reference input.tenantId storeId
  | createOverride dto .. => ¬ForeignStore services.reference dto.tenantId dto.storeId
  | link .. => True
  | create .. => True

instance (db : Database) (tenantId productId : Uuid) : Decidable (ForeignProduct db tenantId productId) :=
  inferInstanceAs (Decidable (∃ row ∈ db.products, row.id = productId ∧ row.tenantId ≠ tenantId))

instance (reference : Reference) (tenantId storeId : Uuid) : Decidable
    (ForeignStore reference tenantId storeId) :=
  inferInstanceAs (Decidable (∃ owner ∈ reference.stores storeId, owner ≠ tenantId))

instance (services : Services) (db : Database) : (call : Call) → Decidable (call.UnprobedOwn services db)
  | .createAlias input .. => inferInstanceAs (Decidable (services.pool.ofTenant input.tenantId = true →
      ¬ForeignProduct db input.tenantId input.productId ∧
        ∀ storeId ∈ input.storeId, ¬ForeignStore services.reference input.tenantId storeId))
  | .createOverride dto .. =>
      inferInstanceAs (Decidable (¬ForeignStore services.reference dto.tenantId dto.storeId))
  | .link .. | .create .. => .isTrue trivial

variable {now : Int} {reference : Reference} {session : Session} {db db' : Database}
  {store : Option Uuid} {id productId tenantId : Uuid}
variable {action : Unknowns.ResolutionAction} {updated : Option UnknownItem}

section Statements

variable {tenant : Uuid}

theorem insertAlias_ok {row : Alias} (added : insertAlias reference session db row = .ok db') :
    session.ofTenant row.tenantId = true ∧ (∃ product ∈ db.products, product.id = row.productId) ∧
      (∀ id, row.storeId = some id → (reference.stores id).isSome = true) ∧
      db' = { db with aliases := db.aliases ++ [row] } := by
  obtain ⟨_, tenant, added⟩ := bind_ok added
  obtain ⟨-, -, -, -, added⟩ := bind_ok₄ added
  obtain ⟨_, product, added⟩ := bind_ok added
  obtain ⟨_, store, added⟩ := bind_ok added
  cases added
  have product := require_ok product
  have store := require_ok store
  refine ⟨require_ok tenant, by simpa [List.any_eq_true] using product, fun id same => ?_, rfl⟩
  rw [same] at store
  exact store

theorem insertOverride_ok {row : StoreOverride} (added : insertOverride reference session db row = .ok db') :
    (∃ product ∈ db.products, product.id = row.productId) ∧ (reference.stores row.storeId).isSome = true ∧
      db' = { db with overrides := db.overrides ++ [row] } := by
  obtain ⟨-, -, -, -, added⟩ := bind_ok₄ added
  obtain ⟨-, -, -, added⟩ := bind_ok₃ added
  obtain ⟨_, store, added⟩ := bind_ok added
  obtain ⟨_, product, added⟩ := bind_ok added
  cases added
  have product := require_ok product
  exact ⟨by simpa [List.any_eq_true] using product, require_ok store, rfl⟩

theorem insertProduct_ok {row : Product} (added : insertProduct reference session db row = .ok db') :
    (∀ other ∈ db.products, other.id ≠ row.id) ∧ db' = { db with products := db.products ++ [row] } := by
  obtain ⟨-, -, -, added⟩ := bind_ok₃ added
  obtain ⟨_, fresh, added⟩ := bind_ok added
  obtain ⟨-, -, added⟩ := bind_ok₂ added
  cases added
  exact ⟨require_all fresh, rfl⟩

theorem resolveItem_ok {productId actor : Uuid}
    (resolved : resolveItem session db id action productId actor now = .ok (updated, db')) :
    db'.products = db.products ∧ db'.aliases = db.aliases ∧ db'.overrides = db.overrides ∧
      ∃ write : Unknowns.Write, ∀ item ∈ db'.items, ∃ other ∈ db.items, item = other ∨
      item = other.apply write := by
  obtain ⟨-, -, resolved⟩ := bind_ok resolved
  split at resolved
  · cases resolved
    exact ⟨rfl, rfl, rfl, .lock id, fun item mem => ⟨item, mem, .inl rfl⟩⟩
  · cases resolved
    refine ⟨rfl, rfl, rfl, .resolve id action productId actor now, fun item mem => ?_⟩
    obtain ⟨other, there, rfl⟩ := mem_map.1 mem
    exact ⟨other, there, .inr rfl⟩

theorem findProduct_some {product : Product}
    (found : findProduct (.within tenant store) db id = some product) :
    product ∈ db.products ∧ product.id = id ∧ product.tenantId = tenant := by
  have same := find?_some found
  simp only [Session.ofTenant, and_eq_true, decide_eq_true_eq] at same
  exact ⟨mem_of_find?_eq_some found, same.1, same.2⟩

theorem findItem_some {item : UnknownItem} (found : findItem (.within tenant store) db id = some item) :
    item ∈ db.items ∧ item.tenantId = tenant ∧ store.all (item.storeId = ·) = true := by
  have same := find?_some found
  simp only [Session.seesItem, and_eq_true, decide_eq_true_eq] at same
  exact ⟨mem_of_find?_eq_some found, same.2.1, same.2.2⟩

end Statements

/-! ### What each statement keeps -/

section Kept

variable {storeId : Option Uuid}
variable {row : Product}

theorem Refers.grow (refers : Refers reference db tenantId productId storeId)
    (fresh : ∀ other ∈ db.products, other.id ≠ row.id) :
    Refers reference { db with products := db.products ++ [row] } tenantId productId storeId := by
  obtain ⟨⟨named, inside, same⟩, owned, store⟩ := refers
  refine ⟨⟨named, mem_append_left _ inside, same⟩, fun other mem equal => ?_, store⟩
  rcases mem_append.1 mem with old | new
  · exact owned other old equal
  · rw [mem_singleton.1 new] at equal
    exact absurd (same.trans equal.symm) (fresh named inside)

variable (own : OwnReferences reference db)
include own

theorem OwnReferences.addProduct (fresh : ∀ other ∈ db.products, other.id ≠ row.id) :
    OwnReferences reference { db with products := db.products ++ [row] } where
  one := by
    intro first inOne second inTwo same
    rcases mem_append.1 inOne with old | new <;> rcases mem_append.1 inTwo with old' | new'
    · exact own.one first old second old' same
    · rw [mem_singleton.1 new'] at same
      exact absurd same (fresh first old)
    · rw [mem_singleton.1 new] at same
      exact absurd same.symm (fresh second old')
    · rw [mem_singleton.1 new, mem_singleton.1 new']
  items := own.items
  aliases := fun other mem => (own.aliases other mem).grow fresh
  overrides := fun other mem => (own.overrides other mem).grow fresh

theorem OwnReferences.addAlias {row : Alias}
    (refers : Refers reference db row.tenantId row.productId row.storeId) :
    OwnReferences reference { db with aliases := db.aliases ++ [row] } where
  one := own.one
  items := own.items
  aliases := by
    intro other mem
    rcases mem_append.1 mem with old | new
    · exact ⟨(own.aliases other old).product, (own.aliases other old).owned, (own.aliases other old).store⟩
    · rw [mem_singleton.1 new]
      exact ⟨refers.product, refers.owned, refers.store⟩
  overrides := fun other mem =>
    ⟨(own.overrides other mem).product, (own.overrides other mem).owned, (own.overrides other mem).store⟩

theorem OwnReferences.addOverride {row : StoreOverride}
    (refers : Refers reference db row.tenantId row.productId (some row.storeId)) :
    OwnReferences reference { db with overrides := db.overrides ++ [row] } where
  one := own.one
  items := own.items
  aliases := fun other mem =>
    ⟨(own.aliases other mem).product, (own.aliases other mem).owned, (own.aliases other mem).store⟩
  overrides := by
    intro other mem
    rcases mem_append.1 mem with old | new
    · exact ⟨(own.overrides other old).product, (own.overrides other old).owned, (own.overrides other old).store⟩
    · rw [mem_singleton.1 new]
      exact ⟨refers.product, refers.owned, refers.store⟩

theorem OwnReferences.resolve {db' : Database} {id actor : Uuid}
    (resolved : resolveItem session db id action productId actor now = .ok (updated, db')) :
    OwnReferences reference db' := by
  obtain ⟨products, aliases, overrides, write, from_⟩ := resolveItem_ok resolved
  have refers : ∀ {tenantId productId : Uuid} {storeId : Option Uuid},
      Refers reference db tenantId productId storeId → Refers reference db' tenantId productId storeId :=
    fun refers => ⟨products ▸ refers.product, products ▸ refers.owned, refers.store⟩
  refine ⟨products ▸ own.one, fun item mem => ?_, fun row mem => refers (own.aliases row (aliases ▸ mem)),
    fun row mem => refers (own.overrides row (overrides ▸ mem))⟩
  obtain ⟨other, there, rfl | rfl⟩ := from_ item mem
  · exact own.items _ there
  · rw [UnknownItem.apply_storeId, UnknownItem.apply_tenantId]
    exact own.items other there

omit own

theorem refers_of (product : ∃ row ∈ db.products, row.id = productId)
    (own : ¬ForeignProduct db tenantId productId)
    (exists_ : ∀ id, storeId = some id → (reference.stores id).isSome = true)
    (ownStore : ∀ id, storeId = some id → ¬ForeignStore reference tenantId id) :
    Refers reference db tenantId productId storeId := by
  refine ⟨product, fun row mem same => ?_, fun id same => ?_⟩
  · by_contra other
    exact own ⟨row, mem, same, other⟩
  · obtain ⟨owner, found⟩ := isSome_iff_exists.1 (exists_ id same)
    by_contra other
    exact ownStore id same ⟨owner, found, fun equal => other (by rw [found, equal])⟩

end Kept

/-! ### What each call does -/

section Calls

variable {itemId : Uuid}

theorem thrown_ok {α : Type} {ran : Except PgError α} {value : α} (told : thrown ran = .ok value) :
    ran = .ok value := by
  cases ran with
  | ok same => exact congrArg Except.ok (Except.ok.inj told)
  | error error => cases told

theorem createAlias_ok {input : CreateProductAliasInput} {actorId : Uuid} {row : Alias}
    (created : createAlias reference db session input actorId id now = .ok (row, db')) :
    session.ofTenant input.tenantId = true ∧
      (row.tenantId = input.tenantId ∧ row.productId = input.productId ∧ row.storeId = input.storeId) ∧
      insertAlias reference session db row = .ok db' := by
  unfold createAlias at created
  split at created
  · rename_i entered added
    cases created
    obtain ⟨_, tenant, added⟩ := bind_ok added
    obtain ⟨identifier, -, added⟩ := bind_ok added
    obtain ⟨entered, went, added⟩ := bind_ok added
    cases added
    exact ⟨require_ok tenant, ⟨rfl, rfl, rfl⟩, went⟩
  · split_ifs at created

theorem createOverride_ok {dto : CreateStoreOverrideDto} {row : StoreOverride}
    (created : createOverride reference db dto id now = .ok (row, db')) :
    (∃ product, findProduct (.within dto.tenantId (some dto.storeId)) db dto.productId = some product) ∧
      (row.tenantId = dto.tenantId ∧ row.productId = dto.productId ∧ row.storeId = dto.storeId) ∧
      insertOverride reference (.within dto.tenantId (some dto.storeId)) db row = .ok db' := by
  unfold createOverride at created
  split_ifs at created
  dsimp only at created
  split at created
  · cases created
  · rename_i product found
    obtain ⟨entered, told, created⟩ := bind_ok created
    cases created
    exact ⟨⟨product, found⟩, ⟨rfl, rfl, rfl⟩, thrown_ok told⟩

/-- What a link or a creation that changed something had found, and what it did. -/
structure Reconciled (reference : Reference) (db : Database) (session : Session)
    (tenantId itemId productId : Uuid)
    (db' : Database) : Prop where
  steps : ∃ existing row entered action actor now updated, findItem session db itemId = some existing ∧
    (row.tenantId = tenantId ∧ row.productId = productId ∧ row.storeId = some existing.storeId) ∧
    insertAlias reference session db row = .ok entered ∧
    resolveItem session entered itemId action productId actor now = .ok (updated, db')

theorem linkUnknownItem_ok {input : LinkInput} {result : LinkResult}
    (linked : linkUnknownItem reference db input id now = .ok (result, db')) :
    db' = db ∨
      (∃ product, findProduct (.within input.tenantId input.storeId) db input.productId = some product) ∧
      Reconciled reference db (.within input.tenantId input.storeId) input.tenantId input.unknownItemId
      input.productId db' := by
  unfold linkUnknownItem at linked
  dsimp only at linked
  split at linked
  · cases linked
    exact .inl rfl
  · rename_i old found
    split_ifs at linked
    · cases linked
      exact .inl rfl
    · split at linked
      · cases linked
        exact .inl rfl
      · rename_i product seen
        split_ifs at linked
        · cases linked
          exact .inl rfl
        · split at linked
          · split_ifs at linked
            cases linked
            exact .inl rfl
          · rename_i entered added
            obtain ⟨⟨updated, resolved⟩, told, linked⟩ := bind_ok linked
            dsimp only at linked
            split at linked
            · cases linked
            · cases linked
              refine .inr ⟨⟨product, (filter_eq_some_iff.1 seen).1⟩, ?_⟩
              exact ⟨old, _, entered, _, _, _, _, found, ⟨rfl, rfl, rfl⟩, added, thrown_ok told⟩

theorem createProduct_ok {input : CreateInput} {result : CreateResult}
    (created : createProductFromUnknownItem reference db input productId id now = .ok (result, db')) :
    db' = db ∨
      ∃ product added, (product.id = productId ∧ product.tenantId = input.tenantId) ∧
      insertProduct reference (.within input.tenantId input.storeId) db product = .ok added ∧
      Reconciled reference added (.within input.tenantId input.storeId) input.tenantId input.unknownItemId
      productId db' := by
  unfold createProductFromUnknownItem at created
  dsimp only at created
  split at created
  · cases created
    exact .inl rfl
  · rename_i old found
    split_ifs at created
    · cases created
      exact .inl rfl
    · obtain ⟨added, went, created⟩ := bind_ok created
      split at created
      · split_ifs at created
        cases created
        exact .inl rfl
      · rename_i entered put
        obtain ⟨⟨updated, resolved⟩, told, created⟩ := bind_ok created
        dsimp only at created
        split at created
        · cases created
        · cases created
          refine .inr ⟨_, added, ⟨rfl, rfl⟩, thrown_ok went, old, _, entered, _, _, _, _, ?_, ⟨rfl, rfl, rfl⟩,
            put, thrown_ok told⟩
          rw [(insertProduct_ok (thrown_ok went)).2]
          exact found

theorem Reconciled.kept
    (reconciled : Reconciled reference db (.within tenantId store) tenantId itemId productId db')
    (own : OwnReferences reference db)
    (owned : ∀ row ∈ db.products, row.id = productId → row.tenantId = tenantId) :
    OwnReferences reference db' := by
  obtain ⟨old, row, entered, action, actor, now, updated, found, ⟨tenant, product, captured⟩, added,
    resolved⟩ := reconciled
  obtain ⟨there, mine, -⟩ := findItem_some found
  obtain ⟨-, exists_, -, rfl⟩ := insertAlias_ok added
  refine (own.addAlias ⟨exists_, fun other mem same => ?_, fun id same => ?_⟩).resolve resolved
  · rw [tenant]
    exact owned other mem (same.trans product)
  · rw [captured] at same
    rw [← Option.some.inj same, own.items old there, tenant, mine]

theorem findItem_foreign (own : OwnReferences reference db) {storeId : Uuid} (named : store = some storeId)
    (foreign : ForeignStore reference tenantId storeId) {existing : UnknownItem} :
    findItem (.within tenantId store) db itemId ≠ some existing := by
  intro found
  obtain ⟨there, mine, stored⟩ := findItem_some found
  obtain ⟨owner, same, other⟩ := foreign
  rw [named] at stored
  have captured := own.items existing there
  rw [of_decide_eq_true stored, same, mine] at captured
  exact other (Option.some.inj captured)

end Calls

/-! ### Every sequence of calls -/

section Sequences

variable {services : Services} {start : Database}
variable {call : Call}

/-- **A call keeps the references**, where what it does not probe is the tenant's own. -/
theorem OwnReferences.perform (own : OwnReferences services.reference db)
    (unprobed : call.UnprobedOwn services db) :
    OwnReferences services.reference (call.perform services db) := by
  cases call with
  | createAlias input actorId id now =>
    simp only [Call.perform]
    cases created : createAlias services.reference db services.pool input actorId id now with
    | error error => exact own
    | ok entered =>
      obtain ⟨tenant, ⟨mine, product, store⟩, put⟩ := createAlias_ok created
      obtain ⟨ownProduct, ownStore⟩ := unprobed tenant
      obtain ⟨-, exists_, stored, added⟩ := insertAlias_ok put
      show OwnReferences services.reference entered.2
      rw [added]
      refine own.addAlias (refers_of exists_ ?_ stored ?_)
      · rw [mine, product]
        exact ownProduct
      · rw [mine, store]
        exact ownStore
  | createOverride dto id now =>
    simp only [Call.perform]
    cases created : createOverride services.reference db dto id now with
    | error error => exact own
    | ok entered =>
      obtain ⟨⟨probed, found⟩, ⟨mine, product, store⟩, put⟩ := createOverride_ok created
      obtain ⟨exists_, stored, added⟩ := insertOverride_ok put
      obtain ⟨there, same, tenant⟩ := findProduct_some found
      show OwnReferences services.reference entered.2
      rw [added]
      refine own.addOverride
        (refers_of exists_ ?_ (fun id same => Option.some.inj same ▸ stored) fun id same => ?_)
      · rintro ⟨other, inside, equal, apart⟩
        rw [product] at equal
        rw [own.one other inside probed there (equal.trans same.symm), tenant, mine] at apart
        exact apart rfl
      · rw [← Option.some.inj same, mine, store]
        exact unprobed
  | link input id now =>
    simp only [Call.perform]
    cases linked : linkUnknownItem services.reference db input id now with
    | error error => exact own
    | ok entered =>
      show OwnReferences services.reference entered.2
      rcases linkUnknownItem_ok linked with same | ⟨⟨product, found⟩, reconciled⟩
      · rw [same]
        exact own
      · obtain ⟨there, id, tenant⟩ := findProduct_some found
        refine reconciled.kept own fun other inside equal => ?_
        rw [own.one other inside product there (equal.trans id.symm), tenant]
  | create input productId id now =>
    simp only [Call.perform]
    cases created : createProductFromUnknownItem services.reference db input productId id now with
    | error error => exact own
    | ok entered =>
      show OwnReferences services.reference entered.2
      rcases createProduct_ok created with same | ⟨product, added, ⟨named, mine⟩, put, reconciled⟩
      · rw [same]
        exact own
      · obtain ⟨fresh, rfl⟩ := insertProduct_ok put
        refine reconciled.kept (own.addProduct fresh) fun other inside equal => ?_
        rcases mem_append.1 inside with old | new
        · exact absurd (equal.trans named.symm) (fresh other old)
        · rw [mem_singleton.1 new, mine]

/-- **A call that names another tenant's product or store changes nothing**, where what it does not probe is the
tenant's own. -/
theorem OwnReferences.foreign (own : OwnReferences services.reference db)
    (unprobed : call.UnprobedOwn services db) (foreign : call.NamesForeign services.reference db) :
    call.perform services db = db := by
  cases call with
  | createAlias input actorId id now =>
    simp only [Call.perform]
    cases created : createAlias services.reference db services.pool input actorId id now with
    | error error => rfl
    | ok entered =>
      obtain ⟨tenant, -, -⟩ := createAlias_ok created
      obtain ⟨ownProduct, ownStore⟩ := unprobed tenant
      rcases foreign with product | ⟨storeId, named, store⟩
      · exact absurd product ownProduct
      · exact absurd store (ownStore storeId named)
  | createOverride dto id now =>
    simp only [Call.perform]
    cases created : createOverride services.reference db dto id now with
    | error error => rfl
    | ok entered =>
      obtain ⟨⟨probed, found⟩, -, -⟩ := createOverride_ok created
      obtain ⟨there, same, tenant⟩ := findProduct_some found
      rcases foreign with ⟨other, inside, equal, apart⟩ | store
      · exact absurd (own.one other inside probed there (equal.trans same.symm) ▸ tenant) apart
      · exact absurd store unprobed
  | link input id now =>
    simp only [Call.perform]
    cases linked : linkUnknownItem services.reference db input id now with
    | error error => rfl
    | ok entered =>
      show entered.2 = db
      rcases linkUnknownItem_ok linked with same | ⟨⟨product, found⟩, reconciled⟩
      · exact same
      · rcases foreign with ⟨other, inside, equal, apart⟩ | ⟨storeId, named, store⟩
        · obtain ⟨there, id, tenant⟩ := findProduct_some found
          exact absurd (own.one other inside product there (equal.trans id.symm) ▸ tenant) apart
        · obtain ⟨old, row, later, action, actor, now', updated, item, -⟩ := reconciled
          exact absurd item (findItem_foreign own named store)
  | create input productId id now =>
    simp only [Call.perform]
    cases created : createProductFromUnknownItem services.reference db input productId id now with
    | error error => rfl
    | ok entered =>
      show entered.2 = db
      rcases createProduct_ok created with same | ⟨product, added, -, put, reconciled⟩
      · exact same
      · obtain ⟨storeId, named, store⟩ := foreign
        obtain ⟨fresh, rfl⟩ := insertProduct_ok put
        obtain ⟨old, row, later, action, actor, now', updated, item, -⟩ := reconciled
        exact absurd item (findItem_foreign (own.addProduct fresh) named store)

/-- **While what no call probes is the tenant's own, every reference stays within its tenant**, and a call
that names another tenant's product or store changes nothing. -/
theorem references_own (own : OwnReferences services.reference start)
    (reaches : (catalogMachine services start).Reaches (fun db call => call.UnprobedOwn services db) start
      db) :
    OwnReferences services.reference db ∧
      ∀ call : Call, call.UnprobedOwn services db → call.NamesForeign services.reference db →
      call.perform services db = db := by
  have kept : OwnReferences services.reference db := by
    refine reaches.invariant own fun state call next before unprobed step => ?_
    rw [← Option.some.inj step]
    exact before.perform unprobed
  exact ⟨kept, fun call unprobed foreign => kept.foreign unprobed foreign⟩

end Sequences

/-! ### Two tenants -/

/-- Two tenants, each with a store. -/
def sampleServices : Services :=
  ⟨⟨fun tenant => tenant = sample 0 || tenant = sample 1,
    fun store => if store = sample 2 then some (sample 0)
      else if store = sample 3 then some (sample 1) else none,
    fun _ => false⟩, .superuser⟩

/-- A product of each tenant. -/
def sampleProducts : List Product :=
  [⟨sample 4, sample 0, "Tea", "standard", none, none, sample 8⟩,
    ⟨sample 5, sample 1, "Rice", "standard", none, none, sample 9⟩]

/-- A pending item of the first tenant. -/
def sampleItem : UnknownItem :=
  ⟨sample 6, sample 0, sample 2, ⟨.sku, "T-1", none, by decide, by decide⟩, 1, none, .pending, none,
    none, none, none, sample 7⟩

/-- The database before any call. -/
def sampleStart : Database := ⟨sampleProducts, [], [], [sampleItem]⟩

theorem sampleStart_own : OwnReferences sampleServices.reference sampleStart where
  one := by decide
  items := by decide
  aliases := fun _ none => by cases none
  overrides := fun _ none => by cases none

/-- An alias of the other tenant's product. -/
def foreignAlias : Call :=
  .createAlias ⟨sample 0, sample 5, .barcode, "622", none, none⟩ (sample 8) (sample 10) 1

/-- An override at the other tenant's store. -/
def foreignOverride : Call :=
  .createOverride ⟨sample 0, sample 3, sample 4, sample 8, some true, none, none, false, false⟩
    (sample 10) 1

/-- **An alias refers to another tenant's product, and an override to another tenant's store.** -/
theorem unprobed_crosses :
    OwnReferences sampleServices.reference sampleStart ∧
      (∃ db, (catalogMachine sampleServices sampleStart).Reachable db ∧
          ∃ row ∈ db.aliases, ForeignProduct db row.tenantId row.productId) ∧
      ∃ db, (catalogMachine sampleServices sampleStart).Reachable db ∧
      ∃ row ∈ db.overrides, ForeignStore sampleServices.reference row.tenantId row.storeId := by
  have aliased : (foreignAlias.perform sampleServices sampleStart).aliases.any (fun row =>
      (foreignAlias.perform sampleServices sampleStart).products.any fun product =>
        product.id = row.productId && product.tenantId ≠ row.tenantId) = true := by
    decide +kernel
  have overridden : (foreignOverride.perform sampleServices sampleStart).overrides.any (fun row =>
      (sampleServices.reference.stores row.storeId).any fun owner => owner ≠ row.tenantId) = true := by
    decide +kernel
  have led : ∀ call : Call, (catalogMachine sampleServices sampleStart).Reachable
      (call.perform sampleServices sampleStart) := fun call => @Machine.Reachable.step _ _ _ _ _ call .start rfl
  refine ⟨sampleStart_own, ⟨_, led foreignAlias, ?_⟩, _, led foreignOverride, ?_⟩
  · obtain ⟨row, mem, foreign⟩ := List.any_eq_true.1 aliased
    obtain ⟨product, inside, foreign⟩ := List.any_eq_true.1 foreign
    simp only [and_eq_true, decide_eq_true_eq] at foreign
    exact ⟨row, mem, product, inside, foreign⟩
  · obtain ⟨row, mem, foreign⟩ := List.any_eq_true.1 overridden
    obtain ⟨owner, same, apart⟩ := (any_eq_true _ _).1 foreign
    exact ⟨row, mem, owner, same, of_decide_eq_true apart⟩

/-- An alias and an override of the tenant's own product at its own store, and the item that is linked to
the product. -/
def ownCalls : List Call :=
  [.createAlias ⟨sample 0, sample 4, .barcode, "622", none, some (sample 2)⟩ (sample 8) (sample 3) 1,
    .createOverride ⟨sample 0, sample 2, sample 4, sample 8, some true, none, none, false, false⟩ (sample 5) 2,
    .link ⟨sample 0, some (sample 2), sample 6, sample 4, sample 8⟩ (sample 7) 3]

/-- An override of the other tenant's product at the own store. -/
def refusedOverride : Call :=
  .createOverride ⟨sample 0, sample 2, sample 5, sample 8, some true, none, none, false, false⟩ (sample 8) 4

theorem references_own_sample :
    ∃ db, (catalogMachine sampleServices sampleStart).run sampleStart ownCalls = some db ∧
      db.aliases.length = 2 ∧ db.overrides.length = 1 ∧ OwnReferences sampleServices.reference db ∧
      refusedOverride.perform sampleServices db = db := by
  have ran : ((catalogMachine sampleServices sampleStart).run sampleStart ownCalls).any (fun db =>
      db.aliases.length = 2 && db.overrides.length = 1 &&
        decide (ForeignProduct db (.sample 0) (.sample 5))) = true := by
    decide +kernel
  obtain ⟨db, reached, counted⟩ := (any_eq_true _ _).1 ran
  simp only [and_eq_true, decide_eq_true_eq] at counted
  have kept := references_own sampleStart_own (Machine.run_reaches reached (by decide +kernel))
  exact ⟨db, reached, counted.1.1, counted.1.2, kept.1, kept.2 refusedOverride
    (show ¬ForeignStore sampleServices.reference (sample 0) (sample 2) by decide) (.inl counted.2)⟩

end DataPulse.Catalog
