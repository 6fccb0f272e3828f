/-
**What a committed call did to items, products and aliases.**

* `UnknownItem.after_untouched`, `Alias.after_retired`, …: rows with their UPDATEs applied.
-/

import DataPulse.Unknowns.Service
import DataPulse.Lib.Logs

namespace DataPulse.Unknowns

open Lib Lib.Interleave Platform
open Inventory (require require_ok require_all)

/-! ### Rows of the tables -/

variable {writes more : List Write} {row : UnknownItem} {write : Write} {reference : Reference}
  {context : Context} {wrote : List Write} {id : Uuid}

@[simp] theorem mem_insertedItems : row ∈ insertedItems writes ↔ .item row ∈ writes :=
  mem_picked fun write row => by cases write <;> simp

@[simp] theorem mem_insertedProducts {row : Product} : row ∈ insertedProducts writes ↔ .product row ∈ writes :=
  mem_picked fun write row => by cases write <;> simp

@[simp] theorem mem_insertedAliases {row : Alias} : row ∈ insertedAliases writes ↔ .alias row ∈ writes :=
  mem_picked fun write row => by cases write <;> simp

theorem mem_itemsOf : row ∈ itemsOf writes ↔ ∃ added, .item added ∈ writes ∧ added.after writes = row := by
  simp only [itemsOf, mem_map, mem_insertedItems]

theorem mem_productsOf {row : Product} :
    row ∈ productsOf writes ↔ ∃ added, .product added ∈ writes ∧ added.after writes = row := by
  simp only [productsOf, mem_map, mem_insertedProducts]

theorem mem_aliasesOf {row : Alias} :
    row ∈ aliasesOf writes ↔ ∃ added, .alias added ∈ writes ∧ added.after writes = row := by
  simp only [aliasesOf, mem_map, mem_insertedAliases]

namespace UnknownItem

theorem apply_id (row : UnknownItem) (write : Write) : (row.apply write).id = row.id := by
  unfold apply
  split <;> (try split_ifs) <;> rfl

theorem apply_tenantId (row : UnknownItem) (write : Write) : (row.apply write).tenantId = row.tenantId := by
  unfold apply
  split <;> (try split_ifs) <;> rfl

theorem apply_storeId (row : UnknownItem) (write : Write) : (row.apply write).storeId = row.storeId := by
  unfold apply
  split <;> (try split_ifs) <;> rfl

theorem apply_identifier (row : UnknownItem) (write : Write) : (row.apply write).identifier =
    row.identifier := by
  unfold apply
  split <;> (try split_ifs) <;> rfl

@[simp] theorem after_id : (row.after writes).id = row.id := foldl_keeps apply_id writes row

@[simp] theorem after_tenantId : (row.after writes).tenantId = row.tenantId :=
  foldl_keeps apply_tenantId writes row

@[simp] theorem after_storeId : (row.after writes).storeId = row.storeId :=
  foldl_keeps apply_storeId writes row

@[simp] theorem after_identifier : (row.after writes).identifier = row.identifier :=
  foldl_keeps apply_identifier writes row

theorem after_append : row.after (writes ++ more) = (row.after writes).after more :=
  foldl_append

@[simp] theorem after_nil : row.after [] = row := rfl

theorem apply_untouched (other : write.updated ≠ some row.id) : row.apply write = row := by
  unfold apply
  split
  · exact if_neg fun same => other (congrArg some same.symm)
  · exact if_neg fun same => other (congrArg some same.symm)
  · rfl

/-- **An item that no UPDATE is about stays as it is.** -/
theorem after_untouched (others : ∀ write ∈ writes, write.updated ≠ some row.id) : row.after writes = row :=
  foldl_fixed fun write mem => apply_untouched (others write mem)

theorem apply_updated (about : write.updated = some row.id) : (row.apply write).isPending = false := by
  cases write <;> cases about
  · simp [apply, isPending]
  · simp [apply, isPending]

theorem sameTuple_comm {first second : UnknownItem} : first.sameTuple second = second.sameTuple first := by
  simp only [sameTuple, eq_comm]

end UnknownItem

namespace Product

variable {row : Product}

theorem apply_id (row : Product) (write : Write) : (row.apply write).id = row.id := by
  unfold apply
  split <;> (try split_ifs) <;> rfl

theorem apply_tenantId (row : Product) (write : Write) : (row.apply write).tenantId = row.tenantId := by
  unfold apply
  split <;> (try split_ifs) <;> rfl

@[simp] theorem after_id : (row.after writes).id = row.id := foldl_keeps apply_id writes row

@[simp] theorem after_tenantId : (row.after writes).tenantId = row.tenantId :=
  foldl_keeps apply_tenantId writes row

end Product

namespace Alias

variable {row : Alias}

def Keeps (write : Write) : Prop := ∀ id retiredAt, write ≠ .retireAlias id retiredAt

theorem apply_kept (keeps : Keeps write) : row.apply write = row := by
  unfold apply
  split
  · exact absurd rfl (keeps _ _)
  · rfl

def key (row : Alias) : Uuid × Uuid × Uuid × Identifier × Option Uuid × Int :=
  (row.id, row.tenantId, row.productId, row.identifier, row.storeId, row.createdAt)

theorem apply_key (row : Alias) (write : Write) : (row.apply write).key = row.key := by
  unfold apply
  split <;> (try split_ifs) <;> rfl

theorem after_key : (row.after writes).key = row.key := foldl_keeps apply_key writes row

@[simp] theorem after_id : (row.after writes).id = row.id := congrArg (·.1) after_key

@[simp] theorem after_tenantId : (row.after writes).tenantId = row.tenantId :=
  congrArg (·.2.1) after_key

@[simp] theorem after_productId : (row.after writes).productId = row.productId :=
  congrArg (·.2.2.1) after_key

@[simp] theorem after_identifier : (row.after writes).identifier = row.identifier :=
  congrArg (·.2.2.2.1) after_key

@[simp] theorem after_storeId : (row.after writes).storeId = row.storeId :=
  congrArg (·.2.2.2.2.1) after_key

@[simp] theorem after_createdAt : (row.after writes).createdAt = row.createdAt :=
  congrArg (·.2.2.2.2.2) after_key

theorem after_append : row.after (writes ++ more) = (row.after writes).after more :=
  foldl_append

theorem after_kept (keeps : ∀ write ∈ writes, Keeps write) : row.after writes = row :=
  foldl_fixed fun write mem => apply_kept (keeps write mem)

/-- **A retired alias stays retired.** -/
theorem after_retired (retired : row.isActive = false) : (row.after writes).isActive = false := by
  induction writes generalizing row with
  | nil => exact retired
  | cons write rest ih =>
    have still : (row.apply write).isActive = false := by
      unfold apply
      split
      · split_ifs
        · rfl
        · exact retired
      · exact retired
    exact ih still

@[simp] theorem after_sameKey {other : Alias} : (row.after writes).sameKey other = row.sameKey other := by
  simp only [sameKey, after_tenantId, after_identifier, after_storeId]

theorem sameKey_symm {first second : Alias} (same : first.sameKey second = true) : second.sameKey first =
    true := by
  simp only [sameKey, and_eq_true, or_eq_true, decide_eq_true_eq] at same ⊢
  obtain ⟨⟨⟨tenant, type⟩, value⟩, scope⟩ := same
  refine ⟨⟨⟨tenant.symm, type.symm⟩, value.symm⟩, ?_⟩
  rw [← type]
  rcases scope with (⟨⟨ordinary, wide⟩, wide'⟩ | ⟨external, source⟩) | ⟨bound, store⟩
  · exact .inl (.inl ⟨⟨ordinary, wide'⟩, wide⟩)
  · exact .inl (.inr ⟨external, source.symm⟩)
  · exact .inr ⟨store ▸ bound, store.symm⟩

theorem sameKey_comm {first second : Alias} : first.sameKey second = second.sameKey first :=
  Bool.eq_iff_iff.2 ⟨sameKey_symm, sameKey_symm⟩

end Alias

theorem clash_comm (first second : Write) : clash first second = clash second first := by
  have aliases : ∀ one two : Alias, clash (.alias one) (.alias two) = clash (.alias two) (.alias one) := by
    intro one two
    simp only [clash]
    rw [@Alias.sameKey_comm one two, decide_eq_decide.2 (@eq_comm _ one.id two.id)]
  cases first <;> cases second <;> first
    | rfl
    | exact aliases _ _
    | simp only [clash, eq_comm]

/-! ### Statements -/

section Statements

variable {reply : Option UnknownItem}
variable {done : Unit}

theorem visibleItem_some (found : visibleItem context writes id = some row) :
    ∃ item, .item item ∈ writes ∧ item.id = id ∧ context.sees item = true ∧ item.after writes = row := by
  have holds := find?_some found
  simp only [and_eq_true, decide_eq_true_eq] at holds
  obtain ⟨item, mem, rfl⟩ := mem_itemsOf.1 (mem_of_find?_eq_some found)
  refine ⟨item, mem, UnknownItem.after_id.symm.trans holds.1, ?_, rfl⟩
  simpa [Context.sees] using holds.2

theorem lockItem_ok (reference : Reference)
    (ran : exec reference context writes (.lockItem id) = .ok (reply, wrote)) :
    (reply = none ∧ wrote = []) ∨
      ∃ item, .item item ∈ writes ∧ item.id = id ∧ context.sees item = true ∧
      reply = some (item.after writes) ∧ wrote = [.lock id] := by
  simp only [exec] at ran
  split at ran
  · cases ran
    exact .inl ⟨rfl, rfl⟩
  · rename_i row found
    cases ran
    obtain ⟨item, mem, same, seen, rfl⟩ := visibleItem_some found
    exact .inr ⟨item, mem, same, seen, rfl, rfl⟩

theorem updateItem_ok {write : Write} (ran : updateItem context writes id write = .ok (reply, wrote)) :
    (reply = none ∧ wrote = []) ∨
      ∃ item,
      .item item ∈ writes ∧ item.id = id ∧ context.sees item = true ∧ (item.after writes).isPending = true ∧
      reply = some ((item.after writes).apply write) ∧ wrote = [write] := by
  unfold updateItem at ran
  split at ran
  · cases ran
    exact .inl ⟨rfl, rfl⟩
  · rename_i row found
    cases ran
    obtain ⟨visible, pending⟩ := filter_eq_some_iff.1 found
    obtain ⟨item, mem, same, seen, rfl⟩ := visibleItem_some visible
    exact .inr ⟨item, mem, same, seen, pending, rfl, rfl⟩

theorem insertItem_ok {values : ItemValues}
    (ran : insertItem reference context writes values = .ok (reply, wrote)) :
    reply = some (values.row context) ∧ wrote = [.item (values.row context)] ∧
      context.sees (values.row context) = true ∧ ∀ other, .item other ∈ writes → other.id ≠ values.id := by
  obtain ⟨_, secured, ran⟩ := bind_ok ran
  obtain ⟨_, fresh, ran⟩ := bind_ok ran
  obtain ⟨-, -, ran⟩ := bind_ok₂ ran
  cases ran
  refine ⟨rfl, rfl, require_ok secured, fun other mem => ?_⟩
  exact require_all fresh other (mem_insertedItems.2 mem)

theorem insertProduct_ok {values : ProductValues}
    (ran : insertProduct reference context writes values = .ok (done, wrote)) :
    wrote = [.product values.row] ∧ values.tenantId = context.tenant ∧
      ∀ other, .product other ∈ writes → other.id ≠ values.id := by
  obtain ⟨_, secured, ran⟩ := bind_ok ran
  obtain ⟨-, -, ran⟩ := bind_ok₂ ran
  obtain ⟨_, fresh, ran⟩ := bind_ok ran
  obtain ⟨-, -, ran⟩ := bind_ok₂ ran
  cases ran
  refine ⟨rfl, of_decide_eq_true (require_ok secured), fun other mem => ?_⟩
  exact require_all fresh other (mem_insertedProducts.2 mem)

/-- An alias went in. -/
structure Admitted (context : Context) (writes : List Write) (row : Alias) : Prop where
  tenant : row.tenantId = context.tenant
  active : row.retiredAt = none
  unscoped : row.storeId = none ∨ row.identifier.identifierType ≠ .externalPosId
  fresh : ∀ other, .alias other ∈ writes → other.id ≠ row.id
  unique : ∀ other, .alias other ∈ writes → other.sameKey row = true →
    (other.after writes).isActive = false
  product : ∃ product, .product product ∈ writes ∧ product.id = row.productId

theorem insertAlias_ok {values : AliasValues}
    (ran : insertAlias reference context writes values = .ok (done, wrote)) :
    wrote = [.alias (values.row context)] ∧ Admitted context writes (values.row context) := by
  obtain ⟨_, secured, ran⟩ := bind_ok ran
  obtain ⟨_, unscoped, ran⟩ := bind_ok ran
  obtain ⟨_, fresh, ran⟩ := bind_ok ran
  obtain ⟨_, unique, ran⟩ := bind_ok ran
  obtain ⟨_, product, ran⟩ := bind_ok ran
  obtain ⟨-, -, ran⟩ := bind_ok ran
  cases ran
  refine ⟨rfl, of_decide_eq_true (require_ok secured), rfl, ?_, fun other mem => ?_, fun other mem same => ?_,
    ?_⟩
  · simpa using require_ok unscoped
  · exact require_all fresh other (mem_insertedAliases.2 mem)
  · have kept := all_eq_true.1 (require_ok unique) _ (mem_aliasesOf.2 ⟨other, mem, rfl⟩)
    rw [Alias.after_sameKey, same] at kept
    simpa using kept
  · obtain ⟨found, mem, same⟩ := List.any_eq_true.1 (require_ok product)
    exact ⟨found, mem_insertedProducts.1 mem, of_decide_eq_true same⟩

theorem findPending_none (sees : context.sees row = true)
    (found : (pendingItems context writes row.tenantId row.storeId row.identifier).head? = none) :
    ∀ item, .item item ∈ writes → item.sameTuple row = true → (item.after writes).isPending = false := by
  intro item mem same
  by_contra pending
  have empty := head?_eq_none_iff.1 found
  have inside : item.after writes ∈ pendingItems context writes row.tenantId row.storeId row.identifier := by
    simp only [UnknownItem.sameTuple, and_eq_true, decide_eq_true_eq] at same
    simp only [Context.sees, and_eq_true, decide_eq_true_eq] at sees
    refine (mem_insertionSort _).2 (mem_filter.2 ⟨mem_itemsOf.2 ⟨item, mem, rfl⟩, ?_⟩)
    simp [same, sees, Context.sees, not_eq_false _ ▸ pending]
  rw [empty] at inside
  cases inside

theorem findPending_some {tenantId storeId : Uuid} {identifier : Identifier}
    (found : (pendingItems context writes tenantId storeId identifier).head? = some row) :
    ∃ item, .item item ∈ writes ∧ item.after writes = row ∧ item.tenantId = tenantId ∧
      item.storeId = storeId ∧ item.identifier = identifier ∧ row.isPending = true := by
  have inside := (mem_insertionSort _).1 (mem_of_mem_head? found)
  obtain ⟨known, holds⟩ := mem_filter.1 inside
  obtain ⟨item, mem, rfl⟩ := mem_itemsOf.1 known
  simp only [and_eq_true, decide_eq_true_eq, UnknownItem.after_tenantId,
    UnknownItem.after_storeId, UnknownItem.after_identifier] at holds
  exact ⟨item, mem, rfl, holds.1.1.1.1, holds.1.1.1.2, holds.1.1.2, holds.1.2⟩

end Statements

/-! ### What a call had found when it wrote -/

def Write.isLock : Write → Bool
  | lock _ => true
  | _ => false

def Write.claims : Write → Option Uuid
  | lock itemId => some itemId
  | dismiss itemId .. => some itemId
  | _ => none

section Found

variable (commits : List (Nat × List Write)) (call : Call) (log : Log)

/-- An item was locked, or taken out of the pending ones, when `seen` transactions were committed. -/
structure HoldsItem (item : UnknownItem) (seen : Nat) : Prop where
  early : seen ≤ commits.length
  present : .item item ∈ contents (commits.take seen)
  sees : call.context.sees item = true
  pending : (item.after (contents (commits.take seen))).isPending = true
  locked : ∃ (statement : Stmt) (reply : Reply statement) (write : Write),
    Entry.answered statement seen (.ok (reply, [write])) ∈ log ∧ write.claims = some item.id

/-- An item was entered: no item of its tuple was pending when `seen` transactions were committed. -/
structure ItemEntered (row : UnknownItem) (seen : Nat) : Prop where
  pending : row.isPending = true
  sees : call.context.sees row = true
  early : seen ≤ commits.length
  looked : Entry.answered (.findPending row.tenantId row.storeId row.identifier) seen
    (.ok (none, [])) ∈ log
  unmatched : ∀ item, .item item ∈ contents (commits.take seen) → item.sameTuple row = true →
    (item.after (contents (commits.take seen))).isPending = false

/-- An alias was entered: no alias of its key was active when `seen` transactions were committed. -/
structure AliasEntered (row : Alias) (seen : Nat) : Prop where
  early : seen ≤ commits.length
  answered : ∃ (statement : Stmt) (reply : Reply statement),
    Entry.answered statement seen (.ok (reply, [.alias row])) ∈ log
  tenant : row.tenantId = call.context.tenant
  active : row.retiredAt = none
  unscoped : row.storeId = none ∨ row.identifier.identifierType ≠ .externalPosId
  unique : ∀ other, .alias other ∈ contents (commits.take seen) → other.sameKey row = true →
    (other.after (contents (commits.take seen))).isActive = false

/-- The product of an item that is reconciled, with what the call wrote for it: a product that was
there, or a new one. -/
def Names (item : UnknownItem) (productId : Uuid) (wrote : List Write) : Prop :=
  ∃ product : Product, product.id = productId ∧ product.tenantId = item.tenantId ∧
    (wrote = [] ∧ .product product ∈ contents commits ∨ wrote = [.product product])

def Body.reconciled : Body → Bool
  | linked (.ok _) => true
  | created (.ok ..) => true
  | _ => false

/-- The operation reconciles the item with the product, and its answer says so. -/
inductive Reconciles (itemId productId : Uuid) : Operation → Body → ResolutionAction → Prop where
  | linked {input : LinkInput} {row : UnknownItem} (item : input.unknownItemId = itemId)
      (product : input.productId = productId) :
      Reconciles itemId productId (.link input) (.linked (.ok row)) .linked
  | created {input : CreateInput} {row : UnknownItem} (item : input.unknownItemId = itemId) :
      Reconciles itemId productId (.create input) (.created (.ok row productId)) .created

/-- **What a completed call did, by what it answers.** -/
inductive Effect : Body → List Write → Prop where
  | quiet {body : Body} {writes : List Write} (unsettled : body.reconciled = false)
      (locks : ∀ write ∈ writes, write.isLock = true) : Effect body writes
  | product {row : Product} : Effect .done [.product row]
  | alias {row : Alias} {seen : Nat} (entered : AliasEntered commits call log row seen) :
      Effect .done [.alias row]
  | retireProduct {id : Uuid} {retiredAt : Int} : Effect .done [.retireProduct id retiredAt]
  | retireAlias {row : Alias} {retiredAt : Int} (present : .alias row ∈ contents commits) :
      Effect .done [.retireAlias row.id retiredAt]
  | captured {row : UnknownItem} {seen : Nat} (entered : ItemEntered commits call log row seen) :
      Effect (.captured (.unknown row true)) [.item row]
  | reopened {row : UnknownItem} {seen : Nat} {itemId : Uuid}
      (entered : ItemEntered commits call log row seen) :
      Effect (.reopened (.ok row true)) [.lock itemId, .item row]
  | reconciled {item : UnknownItem} {added : Alias} {action : ResolutionAction}
      {productId actor : Uuid} {resolvedAt : Int} {products : List Write} {body : Body}
      {seen seen' : Nat} (holds : HoldsItem commits call log item seen)
      (names : Names commits item productId products)
      (entered : AliasEntered commits call log added seen')
      (names' : added.productId = productId ∧ added.identifier = item.identifier ∧
        added.storeId = some item.storeId ∧ added.tenantId = item.tenantId)
      (answers : Reconciles item.id productId call.operation body action) :
      Effect body (.lock item.id :: products ++
        [.alias added, .resolve item.id action productId actor resolvedAt])
  | dismissed {item row : UnknownItem} {actor : Uuid} {resolvedAt : Int} {seen : Nat}
      (holds : HoldsItem commits call log item seen) :
      Effect (.dismissed (.ok row)) [.dismiss item.id actor resolvedAt]

end Found

/-! ### Programs -/

section Programs

variable {commits : List (Nat × List Write)} {call : Call} {own : List Write} {log : Log}
variable {item : UnknownItem} {productId tenantId : Uuid} {wider : Log} {seen : Nat}

theorem HoldsItem.widen (holds : HoldsItem commits call log item seen)
    (inside : ∀ entry ∈ log, entry ∈ wider) : HoldsItem commits call wider item seen := by
  obtain ⟨stmt, reply, write, answered, claims⟩ := holds.locked
  exact ⟨holds.early, holds.present, holds.sees, holds.pending, stmt, reply, write, inside _ answered, claims⟩

theorem AliasEntered.widen {row : Alias} (entered : AliasEntered commits call log row seen)
    (inside : ∀ entry ∈ log, entry ∈ wider) : AliasEntered commits call wider row seen := by
  obtain ⟨stmt, reply, answered⟩ := entered.answered
  exact ⟨entered.early, ⟨stmt, reply, inside _ answered⟩, entered.tenant, entered.active,
    entered.unscoped, entered.unique⟩

theorem ItemEntered.widen (entered : ItemEntered commits call log row seen)
    (inside : ∀ entry ∈ log, entry ∈ wider) : ItemEntered commits call wider row seen :=
  ⟨entered.pending, entered.sees, entered.early, inside _ entered.looked, entered.unmatched⟩

theorem Alias.after_own {row : Alias} (keeps : ∀ write ∈ own, Alias.Keeps write) :
    row.after (writes ++ own) = row.after writes := by
  rw [Alias.after_append, Alias.after_kept keeps]

theorem lock_completes {found : Option UnknownItem}
    (ends : Completes (unknownsServer reference) commits call [] (clientQuery (.lockItem id)) log found) :
    (found = none ∧ written log = []) ∨
      ∃ item seen, seen ≤ commits.length ∧ .item item ∈ contents (commits.take seen) ∧
      call.context.sees item = true ∧ item.id = id ∧
      found = some (item.after (contents (commits.take seen))) ∧ written log = [.lock item.id] ∧
      ((item.after (contents (commits.take seen))).resolutionStatus = .pending →
        HoldsItem commits call log item seen) := by
  obtain ⟨seen, writes, rfl, early, ran, logged⟩ := query_logged ends
  rw [append_nil] at ran
  obtain ⟨rfl, rfl⟩ | ⟨item, mem, rfl, sees, rfl, rfl⟩ := lockItem_ok reference ran
  · exact .inl ⟨rfl, logged.written⟩
  · refine .inr ⟨item, seen, early, mem, sees, rfl, rfl, logged.written, fun pending => ?_⟩
    exact ⟨early, mem, sees, decide_eq_true pending, _, _, _, mem_singleton_self _, rfl⟩

theorem UnknownItem.after_locks (locks : ∀ write ∈ own, write.isLock = true) :
    row.after (writes ++ own) = row.after writes := by
  rw [UnknownItem.after_append, UnknownItem.after_untouched]
  intro write mem about
  have lock := locks write mem
  cases write <;> cases about <;> cases lock

theorem entered_of_insert {first second : Log} {values : ItemValues} {added : Option UnknownItem}
    (locks : ∀ write ∈ own, write.isLock = true)
    (looking : Completes (unknownsServer reference) commits call own
        (clientQuery (.findPending values.tenantId values.storeId values.identifier)) first none)
    (inserting : Completes (unknownsServer reference) commits call (own ++ written first)
      (clientQuery (.insertItem values)) second added) :
    ∃ row seen, added = some row ∧ written first = [] ∧ written second = [.item row] ∧
      ItemEntered commits call (first ++ second) row seen := by
  obtain ⟨seen, writes, rfl, early, ran, logged⟩ := query_logged looking
  obtain ⟨seen', writes', rfl, -, executed', logged'⟩ := query_logged inserting
  obtain ⟨rfl, rfl, sees, -⟩ := insertItem_ok executed'
  obtain ⟨nobody, rfl⟩ := ok_inj ran
  refine ⟨_, seen, rfl, logged.written, logged'.written, rfl, sees, early, mem_cons_self, fun item mem same =>
    ?_⟩
  rw [← UnknownItem.after_locks locks]
  exact findPending_none sees nobody item (mem_append_left _ mem) same

theorem written_drew (id : Uuid) : written [(Entry.drew id : Entry Stmt Reply Uuid PgError Write)] = [] := rfl

theorem captureItem_effect {input : CaptureItemInput} {result : CaptureItemResult}
    (ends : Completes (unknownsServer reference) commits call [] (captureItem input) log result) :
    Effect commits call log (.captured result) (written log) := by
  obtain ⟨id, log₀, rest₀, rfl, drawing, ends⟩ := completes_bind ends
  obtain rfl := completes_newId drawing
  obtain ⟨hit, seen₁, writes₁, rest₁, rfl, -, executed₁, logged₁, ends⟩ := query_then ends
  obtain ⟨-, rfl⟩ := ok_inj executed₁
  simp only [written_append, written_drew, logged₁.written, append_nil, nil_append]
    at ends ⊢
  cases hit with
  | some hit =>
    obtain ⟨rfl, rfl⟩ := completes_done ends
    exact .quiet rfl fun _ none => by cases none
  | none =>
    obtain ⟨old, log₂, rest₂, rfl, looking, ends⟩ := completes_bind ends
    cases old with
    | some old =>
      obtain ⟨rfl, rfl⟩ := completes_done ends
      obtain ⟨seen₂, writes₂, rfl, -, executed₂, logged₂⟩ := query_logged looking
      obtain ⟨-, rfl⟩ := ok_inj executed₂
      rw [append_nil, logged₂.written]
      exact .quiet rfl fun _ none => by cases none
    | none =>
      obtain ⟨added, log₃, rest₃, rfl, inserting, ends⟩ := completes_bind ends
      obtain ⟨row, seen, rfl, nothing, wrote, entered⟩ :=
        entered_of_insert (fun _ none => by cases none) looking inserting
      obtain ⟨rfl, rfl⟩ := completes_done ends
      simp only [written_append, nothing, wrote, nil_append, append_nil]
      refine .captured (entered.widen fun entry mem => ?_)
      exact mem_append_right _ (mem_append_right _ mem)

theorem reopenUnknownItem_effect {input : ReopenInput} {result : ReopenResult}
    (ends : Completes (unknownsServer reference) commits call [] (reopenUnknownItem input) log result) :
    Effect commits call log (.reopened result) (written log) := by
  obtain ⟨freshRowId, log₀, rest₀, rfl, drawing, ends⟩ := completes_bind ends
  obtain rfl := completes_newId drawing
  obtain ⟨target, log₁, rest₁, rfl, locking, ends⟩ := completes_bind ends
  simp only [written_append, written_drew, append_nil, nil_append]
    at ends locking ⊢
  obtain ⟨rfl, nothing⟩ | ⟨item, seen, -, -, -, -, rfl, locked, -⟩ := lock_completes locking
  · obtain ⟨rfl, rfl⟩ := completes_done ends
    rw [nothing]
    exact .quiet rfl fun _ none => by cases none
  have quiet : ∀ result, Effect commits call ([.drew freshRowId] ++ (log₁ ++ rest₁))
      (.reopened result) [.lock item.id] := by
    refine fun result => .quiet rfl fun write mem => ?_
    rw [mem_singleton.1 mem]
    rfl
  rw [locked] at ends ⊢
  dsimp only at ends
  split_ifs at ends with wide
  · obtain ⟨rfl, rfl⟩ := completes_done ends
    exact quiet _
  split at ends
  · obtain ⟨rfl, rfl⟩ := completes_done ends
    exact quiet _
  · obtain ⟨rfl, rfl⟩ := completes_done ends
    exact quiet _
  · obtain ⟨sibling, log₂, rest₂, rfl, looking, ends⟩ := completes_bind ends
    cases sibling with
    | some sibling =>
      obtain ⟨rfl, rfl⟩ := completes_done ends
      obtain ⟨seen₂, writes₂, rfl, -, executed₂, logged₂⟩ := query_logged looking
      obtain ⟨-, rfl⟩ := ok_inj executed₂
      rw [append_nil, logged₂.written]
      exact quiet _
    | none =>
      obtain ⟨added, log₃, rest₃, rfl, inserting, ends⟩ := completes_bind ends
      obtain ⟨row, seen, rfl, nothing, wrote, entered⟩ :=
        entered_of_insert (fun write mem => by rw [mem_singleton.1 mem]; rfl)
          looking inserting
      obtain ⟨rfl, rfl⟩ := completes_done ends
      simp only [written_append, nothing, wrote, nil_append, append_nil]
      refine .reopened (entered.widen fun entry mem => ?_)
      exact mem_append_right _ (mem_append_right _ mem)

theorem dismissUnknownItem_effect {input : DismissInput} {result : DismissResult}
    (ends : Completes (unknownsServer reference) commits call [] (dismissUnknownItem input) log result) :
    Effect commits call log (.dismissed result) (written log) := by
  obtain ⟨updated, seen, writes, rest₁, rfl, early, ran, logged, ends⟩ := query_then ends
  rw [append_nil] at ran
  obtain ⟨rfl, rfl⟩ | ⟨item, mem, same, sees, pending, rfl, rfl⟩ := updateItem_ok ran
  · obtain ⟨status, seen₂, writes₂, rest₂, rfl, -, executed₂, logged₂, ends⟩ := query_then ends
    obtain ⟨-, rfl⟩ := ok_inj executed₂
    split_ifs at ends
    · obtain ⟨rfl, rfl⟩ := completes_done ends
      exact .quiet rfl fun _ none => by cases none
    · obtain ⟨rfl, rfl⟩ := completes_done ends
      exact .quiet rfl fun _ none => by cases none
  · obtain ⟨rfl, rfl⟩ := completes_done ends
    rw [append_nil, logged.written, ← same]
    exact .dismissed ⟨early, mem, sees, pending, _, _, _, mem_singleton_self _, rfl⟩

/-- **The INSERT of an item's alias completes only without a conflict.** -/
theorem insertAliasFor_completes {actorUserId : Uuid} {onConflict : Service Bool} {added : Bool}
    (keeps : ∀ write ∈ own, Alias.Keeps write)
    (ends : Completes (unknownsServer reference) commits call own
      (insertAliasFor tenantId productId actorUserId item onConflict) log added) :
    added = true ∧
      ∃ row seen,
      written log = [.alias row] ∧ AliasEntered commits call log row seen ∧ row.productId = productId ∧
      row.identifier = item.identifier ∧ row.storeId = some item.storeId ∧ row.tenantId = tenantId := by
  obtain ⟨id, log₀, rest₀, rfl, drawing, ends⟩ := completes_bind ends
  obtain rfl := completes_newId drawing
  have faultless : Faultless (unknownsServer reference) ((clientQuery
            (.insertAlias ⟨id, tenantId, productId, item.identifier, some item.storeId, actorUserId⟩)).bind
          fun _ => .done true) :=
    faultless_bind (faultless_query _) fun _ => faultless_done true
  have ran := faultless.completes ends
  obtain ⟨done, log₁, rest₁, rfl, inserting, ended⟩ := completes_bind ran
  obtain ⟨rfl, rfl⟩ := completes_done ended
  obtain ⟨seen, writes, rfl, early, went, logged⟩ := query_logged inserting
  rw [written_drew, append_nil] at went
  obtain ⟨rfl, admitted⟩ := insertAlias_ok went
  refine ⟨rfl, _, seen, by rw [append_nil, written_append, logged.written]; rfl, ?_, rfl, rfl,
    rfl, rfl⟩
  refine ⟨early, ⟨_, done, mem_cons_of_mem _ mem_cons_self⟩, admitted.tenant,
    admitted.active, admitted.unscoped, fun other mem same => ?_⟩
  rw [← Alias.after_own keeps]
  exact admitted.unique other (mem_append_left _ mem) same

theorem findProduct_found (reference : Reference) {product : Product}
    (ran : exec reference context writes (.findProduct id tenantId) = .ok (some product, wrote)) :
    wrote = [] ∧
      ∃ added, .product added ∈ writes ∧ added.id = id ∧ added.tenantId = tenantId ∧
      tenantId = context.tenant := by
  obtain ⟨found, rfl⟩ := ok_inj ran
  have holds := find?_some found
  simp only [and_eq_true, decide_eq_true_eq] at holds
  obtain ⟨added, mem, rfl⟩ := mem_productsOf.1 (mem_of_find?_eq_some found)
  rw [Product.after_id, Product.after_tenantId] at holds
  exact ⟨rfl, added, mem, holds.1.1, holds.1.2, holds.1.2.symm.trans holds.2⟩

theorem resolveItem_returned (reference : Reference) {action : ResolutionAction} {actor : Uuid}
    (ran : exec reference context writes (.resolveItem id action actor productId) = .ok (some row, wrote)) :
    wrote = [.resolve id action productId actor context.now] := by
  obtain ⟨-, -, ran⟩ := bind_ok ran
  obtain ⟨same, -⟩ | ⟨-, -, -, -, -, -, wrote⟩ := updateItem_ok ran
  · cases same
  · exact wrote

theorem Context.tenant_of_sees (sees : context.sees item = true) : item.tenantId = context.tenant :=
  of_decide_eq_true (and_eq_true_iff.1 sees).1

theorem linkUnknownItem_effect {input : LinkInput} {result : LinkResult}
    (asked : call.operation = .link input)
    (ends : Completes (unknownsServer reference) commits call [] (linkUnknownItem input) log result) :
    Effect commits call log (.linked result) (written log) := by
  obtain ⟨existing, log₁, rest₁, rfl, locking, ends⟩ := completes_bind ends
  rw [written_append]
  obtain ⟨rfl, nothing⟩ | ⟨item, seen, early, mem, sees, same, rfl, locked, holds⟩ := lock_completes locking
  · obtain ⟨rfl, rfl⟩ := completes_done ends
    rw [nothing]
    exact .quiet rfl fun _ none => by cases none
  have quiet : ∀ result, (Body.linked result).reconciled = false →
      Effect commits call (log₁ ++ rest₁) (.linked result) ([.lock item.id] ++ []) := by
    refine fun result unsettled => .quiet unsettled fun write mem => ?_
    rw [mem_singleton.1 mem]
    rfl
  rw [locked] at ends ⊢
  dsimp only at ends
  split_ifs at ends with reconciled
  · obtain ⟨rfl, rfl⟩ := completes_done ends
    exact quiet _ rfl
  obtain ⟨product, seen₂, writes₂, rest₂, rfl, early₂, executed₂, logged₂, ends⟩ := query_then ends
  cases product with
  | none =>
    obtain ⟨rfl, rfl⟩ := completes_done ends
    obtain ⟨-, rfl⟩ := ok_inj executed₂
    rw [append_nil, logged₂.written]
    exact quiet _ rfl
  | some product =>
    obtain ⟨rfl, added, known, id, owner, -⟩ := findProduct_found reference executed₂
    dsimp only at ends
    split_ifs at ends with retired
    · obtain ⟨rfl, rfl⟩ := completes_done ends
      rw [append_nil, logged₂.written]
      exact quiet _ rfl
    rw [written_append, logged₂.written, nil_append]
    rw [logged₂.written] at ends
    obtain ⟨done, log₃, rest₃, rfl, inserting, ends⟩ := completes_bind ends
    obtain ⟨rfl, row, seen₃, wrote, entered, names⟩ :=
      insertAliasFor_completes (fun write mem id retiredAt same => by
        rw [same] at mem
        simp at mem) inserting
    rw [UnknownItem.after_identifier, UnknownItem.after_storeId] at names
    rw [written_append, wrote]
    rw [if_neg (by decide)] at ends
    obtain ⟨updated, seen₄, writes₄, rest₄, rfl, -, executed₄, logged₄, ends⟩ := query_then ends
    cases updated with
    | none => exact absurd ends not_completes_fail
    | some updated =>
      obtain ⟨rfl, rfl⟩ := completes_done ends
      obtain rfl := resolveItem_returned reference executed₄
      rw [append_nil, logged₄.written, ← same]
      have there : .product added ∈ contents commits := by
        rcases mem_append.1 known with old | own
        · exact contents_take old
        · cases mem_singleton.1 own
      have tenant : input.tenantId = item.tenantId :=
        (congrArg Operation.tenant asked).symm.trans (Context.tenant_of_sees sees).symm
      refine .reconciled ((holds (not_not.1 reconciled)).widen fun entry mem => ?_) ⟨added, id, owner.trans
        tenant, .inl ⟨rfl, there⟩⟩ (entered.widen fun entry mem => ?_) ⟨names.1, names.2.1, names.2.2.1,
        names.2.2.2.trans tenant⟩ (asked ▸ .linked same.symm rfl)
      · exact mem_append_left _ mem
      · exact mem_append_right _ (mem_append_right _ (mem_append_left _ mem))

theorem createProductFromUnknownItem_effect {input : CreateInput} {result : CreateResult}
    (asked : call.operation = .create input)
    (ends : Completes (unknownsServer reference) commits call [] (createProductFromUnknownItem input) log
      result) : Effect commits call log (.created result) (written log) := by
  obtain ⟨old, log₁, rest₁, rfl, locking, ends⟩ := completes_bind ends
  rw [written_append]
  obtain ⟨rfl, nothing⟩ | ⟨item, seen, early, mem, sees, same, rfl, locked, holds⟩ := lock_completes locking
  · obtain ⟨rfl, rfl⟩ := completes_done ends
    rw [nothing]
    exact .quiet rfl fun _ none => by cases none
  rw [locked] at ends ⊢
  dsimp only at ends
  split_ifs at ends with reconciled
  · obtain ⟨rfl, rfl⟩ := completes_done ends
    refine .quiet rfl fun write mem => ?_
    rw [mem_singleton.1 mem]
    rfl
  obtain ⟨productId, log₂, rest₂, rfl, drawing, ends⟩ := completes_bind ends
  obtain rfl := completes_newId drawing
  obtain ⟨_, seen₃, writes₃, rest₃, rfl, -, executed₃, logged₃, ends⟩ := query_then ends
  obtain ⟨rfl, -, -⟩ := insertProduct_ok executed₃
  simp only [written_append, written_drew, logged₃.written, append_nil, nil_append]
    at ends ⊢
  obtain ⟨added, log₄, rest₄, rfl, inserting', ends⟩ := completes_bind ends
  obtain ⟨rfl, row, seen₄, wrote, entered, names⟩ :=
    insertAliasFor_completes (fun write mem id retiredAt same => by
      rw [same] at mem
      simp at mem) inserting'
  rw [UnknownItem.after_identifier, UnknownItem.after_storeId] at names
  obtain ⟨updated, seen₅, writes₅, rest₅, rfl, -, executed₅, logged₅, ends⟩ := query_then ends
  cases updated with
  | none => exact absurd ends not_completes_fail
  | some updated =>
    obtain ⟨rfl, rfl⟩ := completes_done ends
    obtain rfl := resolveItem_returned reference executed₅
    rw [append_nil, written_append, wrote, logged₅.written, ← same]
    have tenant : input.tenantId = item.tenantId :=
      (congrArg Operation.tenant asked).symm.trans (Context.tenant_of_sees sees).symm
    refine .reconciled ((holds (not_not.1 reconciled)).widen fun entry mem => ?_)
      ⟨_, rfl, tenant, .inr rfl⟩ (entered.widen fun entry mem => ?_)
      ⟨names.1, names.2.1, names.2.2.1, names.2.2.2.trans tenant⟩ (asked ▸ .created same.symm)
    · exact mem_append_left _ mem
    · simp [mem]

/-- **What a completed call did, for every operation.** -/
theorem Operation.effect {body : Body}
    (ends : Completes (unknownsServer reference) commits call [] call.operation.program log body) :
    Effect commits call log body (written log) := by
  obtain ⟨now, op⟩ := call
  cases op with
  | change tenantId edit =>
    obtain ⟨_, changing, rfl⟩ := completes_map ends
    obtain ⟨seen, writes, rfl, early, went, logged⟩ := query_logged changing
    rw [append_nil] at went
    rw [logged.written]
    rcases edit with values | values | id | id
    · obtain ⟨rfl, -, -⟩ := insertProduct_ok went
      exact .product
    · obtain ⟨rfl, admitted⟩ := insertAlias_ok went
      exact .alias ⟨early, ⟨_, _, mem_singleton_self _⟩, admitted.tenant, admitted.active,
        admitted.unscoped, admitted.unique⟩
    · obtain ⟨-, rfl⟩ := ok_inj went
      split_ifs
      · exact .retireProduct
      · exact .quiet rfl fun _ none => by cases none
    · obtain ⟨-, rfl⟩ := ok_inj went
      split_ifs with there
      · obtain ⟨row, known, holds⟩ := List.any_eq_true.1 there
        obtain ⟨added, mem, rfl⟩ := mem_aliasesOf.1 known
        have same := of_decide_eq_true (and_eq_true_iff.1 holds).1
        rw [← same, Alias.after_id]
        exact .retireAlias (contents_take mem)
      · exact .quiet rfl fun _ none => by cases none
  | captureItem input =>
    obtain ⟨result, ran, rfl⟩ := completes_map ends
    exact captureItem_effect ran
  | link input =>
    obtain ⟨result, ran, rfl⟩ := completes_map ends
    exact linkUnknownItem_effect rfl ran
  | create input =>
    obtain ⟨result, ran, rfl⟩ := completes_map ends
    exact createProductFromUnknownItem_effect rfl ran
  | dismiss input =>
    obtain ⟨result, ran, rfl⟩ := completes_map ends
    exact dismissUnknownItem_effect ran
  | reopen input =>
    obtain ⟨result, ran, rfl⟩ := completes_map ends
    exact reopenUnknownItem_effect ran
  | findById input =>
    obtain ⟨result, ran, rfl⟩ := completes_map ends
    obtain ⟨seen, writes, rfl, -, went, logged⟩ := query_logged ran
    obtain ⟨-, rfl⟩ := ok_inj went
    rw [logged.written]
    exact .quiet rfl fun _ none => by cases none

end Programs

end DataPulse.Unknowns
