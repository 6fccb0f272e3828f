/-
**Which unknown items can be reconciled.**

A reconciliation inserts an alias of the item's identifier at the item's store (`UnknownItem.aliasOf`). An
alias of one store is no external POS id, so `product_aliases_store_scope_consistency` refuses the alias of
an item with one. Texts hold no NUL character.

* `reconcilable_iff`: a pending item can be linked with an active product, and a product can be created from
  it, exactly if its identifier is no external POS id and the row of the new product passes the CHECKs of
  its table.
-/

import DataPulse.Lib.Solo
import DataPulse.Unknowns.Resolution

namespace DataPulse.Unknowns

open Lib Lib.Interleave Platform
open Inventory (require)

/-! ### INSERTs that go in -/

variable {reference : Reference} {context : Context} {item : UnknownItem} {aliasId : Uuid}

section Inserts

variable {writes more : List Write}

theorem require_bind {α : Type} {holds : Bool} {error : PgError} {next : Unit → Except PgError α}
    {result : α} : (require holds error >>= next) = .ok result ↔ holds = true ∧ next () = .ok result := by
  cases holds <;> simp [require, bind, Except.bind]

/-- **When a product goes in.** -/
theorem insertProduct_iff {values : ProductValues} :
    insertProduct reference context writes values = .ok ((), [.product values.row]) ↔
      values.tenantId = context.tenant ∧ (1 ≤ values.name.length ∧ values.name.length ≤ 500) ∧
      (1 ≤ values.taxCategory.length ∧ values.taxCategory.length ≤ 50) ∧
      (∀ other, .product other ∈ writes → other.id ≠ values.id) ∧ reference.tenants values.tenantId = true ∧
      values.categoryId.all reference.categories = true := by
  simp only [insertProduct, require_bind, and_eq_true, decide_eq_true_eq, all_eq_true, mem_insertedProducts,
    and_true]
  exact Iff.rfl

def Alias.Free (writes : List Write) (added : Alias) : Prop :=
  ∀ other ∈ aliasesOf writes, other.isActive = true → other.sameKey added = false

theorem insertAlias_enters {values : AliasValues} (tenant : values.tenantId = context.tenant)
    (unscoped : values.storeId = none ∨ values.identifier.identifierType ≠ .externalPosId)
    (fresh : ∀ other, .alias other ∈ writes → other.id ≠ values.id) (free : (values.row context).Free writes)
    (product : ∃ product, .product product ∈ writes ∧ product.id = values.productId)
    (store : values.storeId.all reference.stores = true) :
    insertAlias reference context writes values = .ok ((), [.alias (values.row context)]) := by
  have scope : (values.storeId.isNone || decide (values.identifier.identifierType ≠ .externalPosId)) = true := by
    simpa using unscoped
  have unique : ((aliasesOf writes).all fun other =>
      !other.isActive || !other.sameKey (values.row context)) = true := by
    refine all_eq_true.2 fun other known => ?_
    cases active : other.isActive with
    | false => rfl
    | true =>
      rw [free other known active]
      rfl
  obtain ⟨found, known, same⟩ := product
  simp only [insertAlias, require_bind]
  refine ⟨decide_eq_true tenant, scope, ?_, unique, ?_, store, trivial⟩
  · exact all_eq_true.2 fun other known => decide_eq_true (fresh other (mem_insertedAliases.1 known))
  · exact List.any_eq_true.2 ⟨found, mem_insertedProducts.2 known, decide_eq_true same⟩

/-! ### What the statements of one call see of its own writes -/

theorem aliasesOf_append (others : ∀ write ∈ more, (∀ row, write ≠ .alias row) ∧ Alias.Keeps write) :
    aliasesOf (writes ++ more) = aliasesOf writes := by
  have none : insertedAliases more = [] := by
    refine eq_nil_iff_forall_not_mem.2 fun row mem => ?_
    exact (others _ (mem_insertedAliases.1 mem)).1 row rfl
  have same : ∀ row : Alias, row.after (writes ++ more) = row.after writes :=
    fun row => Alias.after_own fun write mem => (others write mem).2
  unfold aliasesOf
  rw [show insertedAliases (writes ++ more) = insertedAliases writes ++ insertedAliases more from
    filterMap_append, none, append_nil, funext same]

theorem itemsOf_append (others : ∀ write ∈ more, (∀ row, write ≠ .item row) ∧ write.updated = none) :
    itemsOf (writes ++ more) = itemsOf writes := by
  have none : insertedItems more = [] := by
    refine eq_nil_iff_forall_not_mem.2 fun row mem => ?_
    exact (others _ (mem_insertedItems.1 mem)).1 row rfl
  have same : ∀ row : UnknownItem, row.after (writes ++ more) = row.after writes := by
    intro row
    rw [UnknownItem.after_append]
    refine UnknownItem.after_untouched fun write mem => ?_
    rw [(others write mem).2]
    exact nofun
  unfold itemsOf
  rw [show insertedItems (writes ++ more) = insertedItems writes ++ insertedItems more from
    filterMap_append, none, append_nil, funext same]

theorem productsOf_lock {itemId : Uuid} : productsOf (writes ++ [.lock itemId]) = productsOf writes := by
  have same : ∀ row : Product, row.after (writes ++ [.lock itemId]) = row.after writes := by
    intro row
    simp only [Product.after, foldl_append, foldl_cons, foldl_nil, Product.apply]
  unfold productsOf
  rw [show insertedProducts (writes ++ [.lock itemId]) = insertedProducts writes ++ [] from
    filterMap_append, append_nil, funext same]

end Inserts

/-! ### Reconciling alone -/

def UnknownItem.aliasOf (item : UnknownItem) (id productId createdBy : Uuid) (createdAt : Int) : Alias where
  id := id
  tenantId := item.tenantId
  productId := productId
  identifier := item.identifier
  storeId := some item.storeId
  retiredAt := none
  createdAt := createdAt
  createdBy := createdBy

section Alone

variable {commits : List (Nat × List Write)} {call : Call} {own : List Write}
  {productId actor : Uuid}
variable {log : Log}
variable {onConflict : Service Bool} {input : CreateInput} {row : UnknownItem}

theorem insertAliasFor_performs (tenant : item.tenantId = call.context.tenant)
    (ordinary : item.identifier.identifierType ≠ .externalPosId)
    (fresh : ∀ other, .alias other ∈ contents commits ++ own → other.id ≠ aliasId)
    (free : (item.aliasOf aliasId productId actor call.now).Free (contents commits ++ own))
    (product : ∃ product, .product product ∈ contents commits ++ own ∧ product.id = productId)
    (store : reference.stores item.storeId = true) :
    Performs (unknownsServer reference) commits call own
      (insertAliasFor item.tenantId productId actor item onConflict) [aliasId]
      [.alias (item.aliasOf aliasId productId actor call.now)] true := by
  have entered : exec reference call.context (contents commits ++ own)
      (.insertAlias ⟨aliasId, item.tenantId, productId, item.identifier, some item.storeId, actor⟩) =
      .ok ((), [.alias (item.aliasOf aliasId productId actor call.now)]) :=
    insertAlias_enters tenant (.inr ordinary) fresh free product store
  exact performs_draw (performs_rescue (performs_then (performs_query entered) (performs_done _)))

theorem resolveItem_answers {context : Context} {writes : List Write} {action : ResolutionAction}
    (visible : visibleItem context writes item.id = some item) (pending : item.isPending = true)
    (product : ∃ product, .product product ∈ writes ∧ product.id = productId) :
    ∃ row, exec reference context writes (.resolveItem item.id action actor productId) =
      .ok (some row, [.resolve item.id action productId actor context.now]) := by
  obtain ⟨found, known, same⟩ := product
  refine ⟨item.apply (.resolve item.id action productId actor context.now), ?_⟩
  have there : ((insertedProducts writes).any fun product => product.id = productId) = true :=
    List.any_eq_true.2 ⟨found, mem_insertedProducts.2 known, decide_eq_true same⟩
  refine require_bind.2 ⟨there, ?_⟩
  simp only [updateItem, visible, filter_some, pending, if_true]
  rfl

theorem lockItem_performs (visible : visibleItem call.context (contents commits) item.id = some item) :
    Performs (unknownsServer reference) commits call [] (clientQuery (.lockItem item.id)) [] [.lock item.id]
      (some item) := by
  have locked : exec reference call.context (contents commits ++ []) (.lockItem item.id) =
      .ok (some item, [.lock item.id]) := by
    simp only [exec, append_nil, visible]
  exact performs_query locked

def Write.elsewhere : Write → Bool
  | lock _ => true
  | product _ => true
  | _ => false

/-- **An item that is no external POS id gets its alias, and is resolved.** -/
theorem reconciles_alone (own : List Write) (onConflict : Service Bool) (action : ResolutionAction)
    (elsewhere : ∀ write ∈ own, write.elsewhere = true) (tenant : item.tenantId = call.context.tenant)
    (visible : visibleItem call.context (contents commits) item.id = some item)
    (pending : item.isPending = true) (ordinary : item.identifier.identifierType ≠ .externalPosId)
    (fresh : ∀ other, .alias other ∈ contents commits → other.id ≠ aliasId)
    (free : (item.aliasOf aliasId productId actor call.now).Free (contents commits))
    (known : ∃ product, .product product ∈ contents commits ++ own ∧ product.id = productId)
    (store : reference.stores item.storeId = true) :
    Performs (unknownsServer reference) commits call own
      (insertAliasFor item.tenantId productId actor item onConflict) [aliasId]
      [.alias (item.aliasOf aliasId productId actor call.now)] true ∧
      ∃ row, exec reference call.context
      (contents commits ++ (own ++ [.alias (item.aliasOf aliasId productId actor call.now)]))
      (.resolveItem item.id action actor productId) =
      .ok (some row, [.resolve item.id action productId actor call.context.now]) := by
  have aliases : aliasesOf (contents commits ++ own) = aliasesOf (contents commits) := by
    refine aliasesOf_append fun write mem => ⟨fun row same => ?_, fun id retiredAt same => ?_⟩
    · cases (congrArg Write.elsewhere same).symm.trans (elsewhere write mem)
    · cases (congrArg Write.elsewhere same).symm.trans (elsewhere write mem)
  constructor
  · refine insertAliasFor_performs tenant ordinary (fun other mem => ?_) ?_ known store
    · rcases mem_append.1 mem with there | mine
      · exact fresh other there
      · cases elsewhere _ mine
    · unfold Alias.Free
      rw [aliases]
      exact free
  · refine resolveItem_answers ?_ pending ?_
    · unfold visibleItem
      rw [itemsOf_append fun write mem => ?_]
      · exact visible
      · rcases mem_append.1 mem with mine | added
        · have about := elsewhere write mine
          cases write <;> cases about
          · exact ⟨fun _ => nofun, rfl⟩
          · exact ⟨fun _ => nofun, rfl⟩
        · rw [mem_singleton.1 added]
          exact ⟨fun _ => nofun, rfl⟩
    · obtain ⟨product, there, same⟩ := known
      rw [← append_assoc]
      exact ⟨product, mem_append_left _ there, same⟩

/-- **An item that is no external POS id is linked with an active product.** -/
theorem linkUnknownItem_performs {input : LinkInput} {product : Product}
    (about : input.unknownItemId = item.id) (asked : input.tenantId = item.tenantId)
    (tenant : item.tenantId = call.context.tenant)
    (visible : visibleItem call.context (contents commits) item.id = some item)
    (pending : item.isPending = true)
    (found : (productsOf (contents commits)).find?
        (fun product => product.id = input.productId && product.tenantId =
          input.tenantId && product.tenantId = call.context.tenant) = some product)
    (active : product.retiredAt = none) (ordinary : item.identifier.identifierType ≠ .externalPosId)
    (fresh : ∀ other, .alias other ∈ contents commits → other.id ≠ aliasId)
    (free : (item.aliasOf aliasId input.productId input.actorUserId call.now).Free (contents commits))
    (store : reference.stores item.storeId = true) :
    ∃ writes row, Performs (unknownsServer reference) commits call [] (linkUnknownItem input) [aliasId] writes
      (.ok row) := by
  have looked : exec reference call.context (contents commits ++ [.lock item.id])
      (.findProduct input.productId input.tenantId) = .ok (some product, []) := by
    simp only [exec, productsOf_lock, found]
  have known : ∃ product, .product product ∈ contents commits ++ [.lock item.id] ∧
      product.id = input.productId := by
    obtain ⟨added, there, rfl⟩ := mem_productsOf.1 (mem_of_find?_eq_some found)
    have holds := find?_some found
    simp only [and_eq_true, decide_eq_true_eq, Product.after_id] at holds
    exact ⟨added, mem_append_left _ there, holds.1.1⟩
  obtain ⟨entered, row, resolved⟩ := reconciles_alone [.lock item.id] (.done false) .linked
    (by simp [Write.elsewhere]) tenant visible pending ordinary fresh free known store
  suffices performs : Performs (unknownsServer reference) commits call [] (linkUnknownItem input)
      ([aliasId] ++ []) (.lock item.id :: ([.alias (item.aliasOf aliasId input.productId
        input.actorUserId call.now)] ++ [.resolve item.id .linked input.productId input.actorUserId
          call.context.now])) (.ok row) from ⟨_, row, performs⟩
  unfold linkUnknownItem
  rw [about, asked]
  refine performs_write (lockItem_performs visible) ?_
  dsimp only
  rw [if_neg (not_not.2 (of_decide_eq_true pending))]
  refine performs_read (asked ▸ looked) ?_
  dsimp only
  rw [if_neg (by rw [active]; decide)]
  refine performs_bind entered ?_
  rw [if_neg (by decide)]
  exact performs_then (performs_query resolved) (performs_done _)

def CreateInput.values (input : CreateInput) (productId : Uuid) : ProductValues :=
  ⟨productId, input.tenantId, input.name, input.taxCategory, input.categoryId, input.actorUserId⟩

/-- **A product is created from an item that is no external POS id.** -/
theorem createProductFromUnknownItem_performs (about : input.unknownItemId = item.id)
    (asked : input.tenantId = item.tenantId) (tenant : item.tenantId = call.context.tenant)
    (visible : visibleItem call.context (contents commits) item.id = some item)
    (pending : item.isPending = true)
    (goes : insertProduct reference call.context (contents commits ++ [.lock item.id])
        (input.values productId) = .ok ((), [.product (input.values productId).row]))
    (ordinary : item.identifier.identifierType ≠ .externalPosId)
    (fresh : ∀ other, .alias other ∈ contents commits → other.id ≠ aliasId)
    (free : (item.aliasOf aliasId productId input.actorUserId call.now).Free (contents commits))
    (store : reference.stores item.storeId = true) :
    ∃ writes row, Performs (unknownsServer reference) commits call [] (createProductFromUnknownItem input)
      [productId, aliasId] writes (.ok row productId) := by
  have created : exec reference call.context (contents commits ++ [.lock item.id])
      (.insertProduct (input.values productId)) = .ok ((), [.product (input.values productId).row]) := goes
  obtain ⟨entered, row, resolved⟩ := reconciles_alone [.lock item.id, .product (input.values productId).row]
    (.fail .aliasConflictSentinel) .created (by simp [Write.elsewhere]) tenant visible pending ordinary fresh
    free
    ⟨(input.values productId).row, by simp, rfl⟩ store
  suffices performs : Performs (unknownsServer reference) commits call [] (createProductFromUnknownItem input)
      (productId :: ([aliasId] ++ [])) (.lock item.id :: (.product (input.values productId).row ::
        ([.alias (item.aliasOf aliasId productId input.actorUserId call.now)] ++
          [.resolve item.id .created productId input.actorUserId call.context.now]))) (.ok row productId) from
    ⟨_, row, performs⟩
  unfold createProductFromUnknownItem
  rw [about]
  refine performs_write (lockItem_performs visible) ?_
  dsimp only
  rw [if_neg (not_not.2 (of_decide_eq_true pending))]
  rw [← asked] at entered
  refine performs_draw (performs_write (performs_query created) (performs_bind entered ?_))
  exact performs_then (performs_query resolved) (performs_done _)

theorem Alias.sameKey_congr {other first second : Alias} (tenant : first.tenantId = second.tenantId)
    (identifier : first.identifier = second.identifier) (store : first.storeId = second.storeId) :
    other.sameKey first = other.sameKey second := by
  simp only [Alias.sameKey, tenant, identifier, store]

/-- **The alias of an item that was inserted alone is no external POS id, and its key was free.** -/
theorem aliased_alone {added : Bool} (keeps : ∀ write ∈ own, Alias.Keeps write)
    (alone : Alone (unknownsServer reference) commits call own
        (insertAliasFor item.tenantId productId actor item onConflict) log added) (aliasId : Uuid)
    (createdAt : Int) :
    item.identifier.identifierType ≠ .externalPosId ∧
      (item.aliasOf aliasId productId actor createdAt).Free (contents commits) := by
  obtain ⟨-, row, seen, -, entered, -, identifier, store, tenant⟩ :=
    insertAliasFor_completes keeps alone.toCompletes
  obtain ⟨stmt, reply, answered⟩ := entered.answered
  have now := alone.now seen (mem_seens answered)
  refine ⟨?_, fun other known active => ?_⟩
  · rcases entered.unscoped with wide | ordinary
    · cases store.symm.trans wide
    · rwa [identifier] at ordinary
  · obtain ⟨first, there, rfl⟩ := mem_aliasesOf.1 known
    by_contra clashes
    rw [not_eq_false, Alias.after_sameKey] at clashes
    have same : first.sameKey row = true := (Alias.sameKey_congr tenant identifier store).trans clashes
    have retired := entered.unique first
    rw [now, take_length] at retired
    exact absurd active (by rw [retired there same]; exact false_ne_true)

theorem lockItem_alone {found : Option UnknownItem}
    (visible : visibleItem call.context (contents commits) item.id = some item)
    (alone : Alone (unknownsServer reference) commits call [] (clientQuery (.lockItem item.id)) log found) :
    found = some item ∧ written log = [.lock item.id] := by
  have ran : exec reference call.context (contents commits ++ []) (.lockItem item.id) =
      .ok (found, written log) := alone.executed
  simp only [exec, append_nil, visible] at ran
  obtain ⟨same, wrote⟩ := ok_inj ran
  exact ⟨same.symm, wrote.symm⟩

/-- **An item that was linked alone is no external POS id.** -/
theorem linkUnknownItem_alone {input : LinkInput} (about : input.unknownItemId = item.id)
    (asked : input.tenantId = item.tenantId)
    (visible : visibleItem call.context (contents commits) item.id = some item)
    (alone : Alone (unknownsServer reference) commits call [] (linkUnknownItem input) log (.ok row)) :
    item.identifier.identifierType ≠ .externalPosId := by
  unfold linkUnknownItem at alone
  rw [about] at alone
  obtain ⟨old, first, rest, rfl, locking, alone⟩ := alone.split
  obtain ⟨rfl, locked⟩ := lockItem_alone visible locking
  dsimp only at alone
  split_ifs at alone
  · cases (completes_done alone.toCompletes).2
  obtain ⟨product, second, rest, rfl, finding, alone⟩ := alone.split
  obtain ⟨-, looked⟩ := Prod.mk.inj (Except.ok.inj finding.executed)
  cases product with
  | none => cases (completes_done alone.toCompletes).2
  | some product =>
    dsimp only at alone
    split_ifs at alone
    · cases (completes_done alone.toCompletes).2
    obtain ⟨added, third, rest, rfl, inserting, -⟩ := alone.split
    rw [locked, ← looked, asked] at inserting
    refine (aliased_alone (fun write mem => ?_) inserting item.id 0).1
    rw [mem_singleton.1 mem]
    exact fun _ _ => nofun

/-- **What a creation that succeeded alone needed.** -/
theorem createProductFromUnknownItem_alone (about : input.unknownItemId = item.id)
    (asked : input.tenantId = item.tenantId)
    (visible : visibleItem call.context (contents commits) item.id = some item)
    (alone : Alone (unknownsServer reference) commits call [] (createProductFromUnknownItem input) log
        (.ok row productId)) (createdAt : Int) :
    item.identifier.identifierType ≠ .externalPosId ∧
      (item.aliasOf aliasId productId input.actorUserId createdAt).Free (contents commits) ∧
      input.taxCategory.length ≤ 50 ∧ input.categoryId.all reference.categories = true := by
  unfold createProductFromUnknownItem at alone
  rw [about] at alone
  obtain ⟨old, first, rest, rfl, locking, alone⟩ := alone.split
  obtain ⟨rfl, locked⟩ := lockItem_alone visible locking
  dsimp only at alone
  split_ifs at alone
  · cases (completes_done alone.toCompletes).2
  obtain ⟨id, second, rest, rfl, drawing, alone⟩ := alone.split
  obtain rfl := completes_newId drawing.toCompletes
  obtain ⟨done, third, rest, rfl, making, alone⟩ := alone.split
  have made : insertProduct reference call.context (contents commits ++ ([] ++ written first ++ []))
      (input.values id) = .ok (done, written third) := making.executed
  have wrote := (insertProduct_ok made).1
  rw [wrote] at made
  obtain ⟨-, -, taxed, -, -, categorised⟩ := insertProduct_iff.1 made
  obtain ⟨added, fourth, rest, rfl, inserting, alone⟩ := alone.split
  obtain ⟨updated, fifth, rest, rfl, -, alone⟩ := alone.split
  cases updated with
  | none => exact absurd alone.toCompletes not_completes_fail
  | some updated =>
    cases (completes_done alone.toCompletes).2
    rw [locked, wrote, asked] at inserting
    obtain ⟨ordinary, free⟩ := aliased_alone (fun write mem => by
      simp only [written_drew, nil_append, append_nil, cons_append, mem_cons, not_mem_nil, or_false] at mem
      rcases mem with rfl | rfl <;> rintro _ _ ⟨⟩) inserting aliasId createdAt
    exact ⟨ordinary, free, taxed.2, categorised⟩

end Alone

/-! ### Every reachable configuration -/

section Reachable

variable {config : Config}
variable {now : Int}

theorem exec_item {writes wrote : List Write} {stmt : Stmt} {reply : Reply stmt} {row : UnknownItem}
    (ran : exec reference context writes stmt = .ok (reply, wrote)) (mem : .item row ∈ wrote) :
    reference.tenants row.tenantId = true ∧ reference.stores row.storeId = true := by
  cases stmt with
  | insertItem values =>
    have entered : insertItem reference context writes values = .ok (reply, wrote) := ran
    simp only [insertItem, require_bind] at entered
    obtain ⟨-, -, tenant, store, same⟩ := entered
    obtain ⟨-, rfl⟩ := ok_inj same
    cases mem_singleton.1 mem
    exact ⟨tenant, store⟩
  | change edit =>
    rcases edit with values | values | id | id
    · rw [(insertProduct_ok ran).1] at mem
      cases mem_singleton.1 mem
    · rw [(insertAlias_ok ran).1] at mem
      cases mem_singleton.1 mem
    · obtain ⟨-, rfl⟩ := ok_inj ran
      split_ifs at mem <;> simp at mem
    · obtain ⟨-, rfl⟩ := ok_inj ran
      split_ifs at mem <;> simp at mem
  | lockItem id =>
    obtain ⟨-, rfl⟩ | ⟨-, -, -, -, -, rfl⟩ := lockItem_ok reference ran <;> simp at mem
  | insertProduct values =>
    rw [(insertProduct_ok ran).1] at mem
    cases mem_singleton.1 mem
  | insertAlias values =>
    rw [(insertAlias_ok ran).1] at mem
    cases mem_singleton.1 mem
  | resolveItem id action actor productId =>
    obtain ⟨-, ran⟩ := require_bind.1 ran
    obtain ⟨-, rfl⟩ | ⟨-, -, -, -, -, -, rfl⟩ := updateItem_ok ran <;> simp at mem
  | dismissItem id actor =>
    obtain ⟨-, rfl⟩ | ⟨-, -, -, -, -, -, rfl⟩ := updateItem_ok ran <;> simp at mem
  | _ =>
    obtain ⟨-, rfl⟩ := ok_inj ran
    cases mem

variable (reach : Reachable reference config)
include reach

/-- **The tenant and the store of an item exist.** -/
theorem Reachable.home (known : item ∈ itemsOf config.ledger) :
    reference.tenants item.tenantId = true ∧ reference.stores item.storeId = true := by
  obtain ⟨added, there, rfl⟩ := mem_itemsOf.1 known
  rw [UnknownItem.after_tenantId, UnknownItem.after_storeId]
  obtain ⟨pid, writes, commit, mem⟩ := mem_contents.1 there
  obtain ⟨before, after, split⟩ := append_of_mem commit
  obtain ⟨proc, body, -, -, rfl, ends, -, -⟩ := reach.commit_of clash_comm split
  obtain ⟨stmt, seen, reply, writes, answered, inside⟩ := mem_written mem
  obtain ⟨view, ran⟩ := ends.executed answered
  exact exec_item ran inside

theorem Reachable.visible (known : item ∈ itemsOf config.ledger)
    (sees : context.sees item = true) : visibleItem context config.ledger item.id = some item := by
  have some : (visibleItem context config.ledger item.id).isSome = true :=
    find?_isSome.2 ⟨item, known, and_eq_true_iff.2 ⟨decide_eq_true rfl, sees⟩⟩
  obtain ⟨row, found⟩ := isSome_iff_exists.1 some
  obtain ⟨first, there, same, -, rfl⟩ := visibleItem_some found
  obtain ⟨second, there', rfl⟩ := mem_itemsOf.1 known
  rw [UnknownItem.after_id] at same
  rw [found, reach.one_item there there' same]

theorem Reachable.one_product {first second : Product}
    (inOne : first ∈ productsOf config.ledger) (inTwo : second ∈ productsOf config.ledger)
    (same : first.id = second.id) : first = second := by
  obtain ⟨one, there, rfl⟩ := mem_productsOf.1 inOne
  obtain ⟨two, there', rfl⟩ := mem_productsOf.1 inTwo
  rw [Product.after_id, Product.after_id] at same
  rw [Write.product.inj (eq_of_sameRow reach.collideFree there there' rfl (by rw [same]; rfl))]

omit reach

/-- The item a call is about, which the session of the call sees. -/
structure UnknownItem.Addressed (item : UnknownItem) (id tenantId : Uuid) (storeId : Option Uuid) : Prop where
  about : id = item.id
  tenant : tenantId = item.tenantId
  store : storeId.all (item.storeId = ·) = true

theorem UnknownItem.Addressed.sees {id tenantId : Uuid} {storeId : Option Uuid}
    (addressed : item.Addressed id tenantId storeId) (now : Int) :
    (Context.mk tenantId storeId now).sees item = true :=
  and_eq_true_iff.2 ⟨decide_eq_true addressed.tenant.symm, addressed.store⟩

/-- The target of a link is an active product of the tenant. -/
structure LinkInput.Targets (input : LinkInput) (writes : List Write) (product : Product) : Prop where
  known : product ∈ productsOf writes
  same : product.id = input.productId
  tenant : product.tenantId = input.tenantId
  active : product.retiredAt = none

/-- `CreateProductFromUnknownItemRequestSchema`, of the trimmed fields. -/
structure CreateInput.Accepted (input : CreateInput) : Prop where
  name : 1 ≤ utf16Length input.name ∧ utf16Length input.name ≤ 200
  taxCategory : 1 ≤ utf16Length input.taxCategory ∧ utf16Length input.taxCategory ≤ 64

/-- `linkUnknownItem` answers `ok` while nothing else is committed. -/
def Links (reference : Reference) (config : Config) (now : Int) (input : LinkInput) (aliasId : Uuid) : Prop :=
  ∃ writes row, Performs (unknownsServer reference) config.commits ⟨now, .link input⟩ []
    (linkUnknownItem input) [aliasId] writes (.ok row)

/-- `createProductFromUnknownItem` answers `ok` while nothing else is committed. -/
def Creates (reference : Reference) (config : Config) (now : Int) (input : CreateInput)
    (productId aliasId : Uuid) : Prop :=
  ∃ writes row, Performs (unknownsServer reference) config.commits ⟨now, .create input⟩ []
    (createProductFromUnknownItem input) [productId, aliasId] writes (.ok row productId)

theorem length_le_utf16Length (text : String) : text.length ≤ utf16Length text := by
  rw [← String.length_toList]
  unfold utf16Length
  induction text.toList with
  | nil => simp
  | cons c rest ih =>
    simp only [length_cons, map_cons, sum_cons]
    split_ifs <;> omega

theorem length_pos_of_utf16Length {text : String} (filled : 1 ≤ utf16Length text) : 1 ≤ text.length := by
  by_contra empty
  have none : text.toList = [] := by
    rw [← length_eq_zero_iff, String.length_toList]
    omega
  unfold utf16Length at filled
  rw [none] at filled
  simp at filled

/-- **When a pending item can be linked.** -/
theorem Reachable.links_iff (reach : Reachable reference config) (known : item ∈ itemsOf config.ledger)
    (pending : item.isPending = true) (fresh : ∀ other, .alias other ∈ config.ledger → other.id ≠ aliasId)
    {input : LinkInput} {product : Product}
    (addressed : item.Addressed input.unknownItemId input.tenantId input.storeId)
    (targets : input.Targets config.ledger product)
    (free : (item.aliasOf aliasId input.productId input.actorUserId now).Free config.ledger) :
    Links reference config now input aliasId ↔ item.identifier.identifierType ≠ .externalPosId := by
  have visible : visibleItem (Call.context ⟨now, .link input⟩) (contents config.commits) item.id = some item :=
    reach.visible known (addressed.sees now)
  constructor
  · rintro ⟨writes, row, log, alone, -⟩
    exact linkUnknownItem_alone addressed.about addressed.tenant visible alone
  · intro ordinary
    have there : ((productsOf config.ledger).find? fun product => product.id = input.productId &&
        product.tenantId = input.tenantId && product.tenantId = input.tenantId).isSome = true :=
      find?_isSome.2 ⟨product, targets.known, by simp [targets.same, targets.tenant]⟩
    obtain ⟨first, found⟩ := isSome_iff_exists.1 there
    have holds := find?_some found
    simp only [and_eq_true, decide_eq_true_eq] at holds
    obtain rfl :=
      reach.one_product (mem_of_find?_eq_some found) targets.known (holds.1.1.trans targets.same.symm)
    exact linkUnknownItem_performs addressed.about addressed.tenant addressed.tenant.symm visible pending found
      targets.active ordinary fresh free (reach.home known).2

/-- **When a product can be created from a pending item.** -/
theorem Reachable.creates_iff (reach : Reachable reference config) (known : item ∈ itemsOf config.ledger)
    (pending : item.isPending = true) {productId : Uuid}
    (fresh : ∀ other, .alias other ∈ config.ledger → other.id ≠ aliasId)
    (fresh' : ∀ other, .product other ∈ config.ledger → other.id ≠ productId) {input : CreateInput}
    (addressed : item.Addressed input.unknownItemId input.tenantId input.storeId) (taken : input.Accepted) :
    Creates reference config now input productId aliasId ↔
      item.identifier.identifierType ≠ .externalPosId ∧
      (item.aliasOf aliasId productId input.actorUserId now).Free config.ledger ∧
      input.taxCategory.length ≤ 50 ∧ input.categoryId.all reference.categories = true := by
  have visible : visibleItem (Call.context ⟨now, .create input⟩) (contents config.commits) item.id =
      some item := reach.visible known (addressed.sees now)
  constructor
  · rintro ⟨writes, row, log, alone, -⟩
    exact createProductFromUnknownItem_alone addressed.about addressed.tenant visible alone now
  · rintro ⟨ordinary, free, taxed, categorised⟩
    refine createProductFromUnknownItem_performs addressed.about addressed.tenant addressed.tenant.symm
      visible pending (insertProduct_iff.2 ⟨rfl, ⟨?_, ?_⟩, ⟨?_, taxed⟩, ?_, ?_, categorised⟩) ordinary fresh
      free (reach.home known).2
    · exact length_pos_of_utf16Length taken.name.1
    · exact (length_le_utf16Length input.name).trans (taken.name.2.trans (by decide))
    · exact length_pos_of_utf16Length taken.taxCategory.1
    · intro other mem
      have there : .product other ∈ contents config.commits := by simpa using mem
      exact fresh' other there
    · rw [show (input.values productId).tenantId = input.tenantId from rfl, addressed.tenant]
      exact (reach.home known).1

/-- **Which pending items can be reconciled: a link needs an identifier that is no external POS id; a creation
needs that too, a free key, and a row of the new product that passes the CHECK and the foreign key of its
table.** -/
theorem reconcilable_iff (reachable : Reachable reference config) {item : UnknownItem}
    (known : item ∈ itemsOf config.ledger) (pending : item.isPending = true) {aliasId productId : Uuid}
    (fresh : ∀ other, .alias other ∈ config.ledger → other.id ≠ aliasId)
    (fresh' : ∀ other, .product other ∈ config.ledger → other.id ≠ productId) (now : Int) :
    (∀ (input : LinkInput) (product : Product), item.Addressed input.unknownItemId input.tenantId
        input.storeId → input.Targets config.ledger product →
        (item.aliasOf aliasId input.productId input.actorUserId now).Free config.ledger →
        (Links reference config now input aliasId ↔ item.identifier.identifierType ≠ .externalPosId)) ∧
      ∀ input : CreateInput,
      item.Addressed input.unknownItemId input.tenantId input.storeId → input.Accepted →
      (Creates reference config now input productId aliasId ↔
        item.identifier.identifierType ≠ .externalPosId ∧
        (item.aliasOf aliasId productId input.actorUserId now).Free config.ledger ∧
        input.taxCategory.length ≤ 50 ∧ input.categoryId.all reference.categories = true) :=
  ⟨fun _ _ addressed targets free => reachable.links_iff known pending fresh addressed targets free,
    fun _ addressed taken => reachable.creates_iff known pending fresh fresh' addressed taken⟩

end Reachable

/-! ### An item of each kind -/

/-- An item with the identifier is captured, and another service creates a product. -/
def shelfEvents (identifier : Identifier) : List (Event Uuid PgError Call) :=
  captureEvents 0 (sample 4) ⟨sample 0, sample 1, identifier, none, sample 2⟩ |>.append
    [.start ⟨2, .change (sample 0) (.product ⟨sample 6, sample 0, "tea", "std", none,
      sample 3⟩)⟩, .ask 1, .stop 1 none]

def shelfLink : LinkInput := ⟨sample 0, none, sample 4, sample 6, sample 3⟩

def shelfCreate (taxCategory : String) : CreateInput :=
  ⟨sample 0, none, sample 4, sample 3, "tea", taxCategory, none⟩

/-- What the events left: the item, the product, and no alias. -/
def Stocked (identifier : Identifier) (config : Config) : Bool :=
  ((itemsOf config.ledger).any fun item => item.id = sample 4 && item.tenantId = sample 0 &&
    item.identifier = identifier && item.isPending) &&
  ((productsOf config.ledger).any fun product => product.id = sample 6 &&
    product.tenantId = sample 0 && product.retiredAt = none) &&
  decide (insertedAliases config.ledger = []) &&
  (insertedProducts config.ledger).all fun product => product.id ≠ sample 8

theorem Stocked.facts {identifier : Identifier} {config : Config}
    (stocked : Stocked identifier config = true) :
    ∃ item ∈ itemsOf config.ledger, ∃ product,
      item.identifier = identifier ∧ item.isPending = true ∧ item.Addressed (sample 4) (sample 0) none ∧
      shelfLink.Targets config.ledger product ∧ (∀ other, .alias other ∉ config.ledger) ∧
      ∀ other, .product other ∈ config.ledger → other.id ≠ sample 8 := by
  simp only [Stocked, and_eq_true, List.any_eq_true, all_eq_true, decide_eq_true_eq,
    mem_insertedProducts] at stocked
  obtain ⟨⟨⟨⟨item, known, holds⟩, product, listed, holds'⟩, empty⟩, fresh⟩ := stocked
  refine ⟨item, known, product, holds.1.2, holds.2, ⟨holds.1.1.1.symm, holds.1.1.2.symm, rfl⟩,
    ⟨listed, holds'.1.1, holds'.1.2, holds'.2⟩, fun other mem => ?_, fresh⟩
  have inside := mem_insertedAliases.2 mem
  rw [empty] at inside
  cases inside

theorem Alias.free_of_none {writes : List Write} {added : Alias} (none : ∀ other, .alias other ∉ writes) :
    added.Free writes := by
  intro other known
  obtain ⟨put, mem, -⟩ := mem_aliasesOf.1 known
  exact absurd mem (none put)

/-- **A pending item with an external POS id cannot be linked with an active product.** -/
theorem pos_item_unlinkable :
    ∃ config item product, Reachable anyReference config ∧ item ∈ itemsOf config.ledger ∧
      item.isPending = true ∧ item.Addressed shelfLink.unknownItemId shelfLink.tenantId shelfLink.storeId ∧
      shelfLink.Targets config.ledger product ∧
      (∀ aliasId, (item.aliasOf aliasId shelfLink.productId shelfLink.actorUserId 3).Free config.ledger) ∧
      ∀ aliasId, ¬ Links anyReference config 3 shelfLink aliasId := by
  have ran : (run (unknownsServer anyReference) (shelfEvents (samplePosId "pos-a"))).any
      (Stocked (samplePosId "pos-a")) = true := by
    decide +kernel
  obtain ⟨config, ran, stocked⟩ := (any_eq_true _ _).1 ran
  have reach : Reachable anyReference config := run_reachable _ ran
  obtain ⟨item, known, product, identifier, pending, addressed, targets, none, -⟩ := Stocked.facts stocked
  refine ⟨config, item, product, reach, known, pending, addressed, targets,
    fun _ => Alias.free_of_none none, fun aliasId links => ?_⟩
  have fresh : ∀ other, .alias other ∈ config.ledger → other.id ≠ aliasId :=
    fun other mem => absurd mem (none other)
  refine (reach.links_iff known pending fresh addressed targets (Alias.free_of_none none)).1 links ?_
  rw [identifier]
  rfl

theorem reconcilable_sample :
    ∃ config, run (unknownsServer anyReference) (shelfEvents ⟨.barcode, "4006381", none, by decide, rfl⟩) =
      some config ∧ Links anyReference config 3 shelfLink (sample 7) ∧
      Creates anyReference config 3 (shelfCreate "std") (sample 8) (sample 7) := by
  have ran : (run (unknownsServer anyReference) (shelfEvents ⟨.barcode, "4006381", none, by decide, rfl⟩)).any
      (Stocked ⟨.barcode, "4006381", none, by decide, rfl⟩) = true := by
    decide +kernel
  obtain ⟨config, ran, stocked⟩ := (any_eq_true _ _).1 ran
  obtain ⟨item, known, product, identifier, pending, addressed, targets, none, fresh'⟩ := Stocked.facts stocked
  have fresh : ∀ other, .alias other ∈ config.ledger → other.id ≠ sample 7 :=
    fun other member => absurd member (none other)
  have ordinary : item.identifier.identifierType ≠ .externalPosId := by
    rw [identifier]
    decide
  obtain ⟨links, creates⟩ := reconcilable_iff (run_reachable _ ran) known pending fresh fresh' 3
  refine ⟨config, ran, (links shelfLink product addressed targets (Alias.free_of_none none)).2 ordinary, ?_⟩
  refine (creates (shelfCreate "std") addressed ⟨by decide, by decide⟩).2
    ⟨ordinary, Alias.free_of_none none, by decide, rfl⟩

end DataPulse.Unknowns
