/-
**The stores of the active tenant.**

`StoresService` runs each of its calls in one transaction under the context of the request and leaves the
choice of the tenant to the policy of `stores`: its queries ask for an id and for a live row. The policy
shows a platform admin the rows of every tenant.

* `stores_scoped_iff`: a call keeps to the stores of the active tenant exactly when its caller is no
  platform admin, there is no other tenant, or every id it reaches is that of one of the tenant's stores.
-/

import DataPulse.Access.Guards

namespace DataPulse.Access

open Platform Lib

/-! ### Rows that change -/

/-- What an `UPDATE` of `stores` sets: no key, and no row is brought back. -/
structure StorePatch where
  set : Store → Store
  id : ∀ store, (set store).id = store.id
  tenantId : ∀ store, (set store).tenantId = store.tenantId
  code : ∀ store, (set store).code = store.code
  live : ∀ store, (set store).deletedAt = none → store.deletedAt = none

structure StoreUpdateInput where
  name : Option String
  isActive : Option Bool

/-- The columns `update` sets. -/
def StoreUpdateInput.patch (next : StoreUpdateInput) (now : Int) : StorePatch where
  set store := { store with
    name := next.name.getD store.name
    isActive := next.isActive.getD store.isActive
    updatedAt := now }
  id _ := rfl
  tenantId _ := rfl
  code _ := rfl
  live _ := id

/-- The columns `softDelete` sets, with `stores_set_updated_at`. -/
def deletedPatch (now : Int) : StorePatch where
  set store := { store with deletedAt := some now, updatedAt := now }
  id _ := rfl
  tenantId _ := rfl
  code _ := rfl
  live _ gone := by cases gone

namespace Directory

variable (tables : Directory)

/-- The tables with the stores an `UPDATE` leaves. -/
def patch (passes : Store → Bool) (change : StorePatch) : Directory :=
  { tables with
    stores := updateWhere passes change.set tables.stores
    storeIds := by
      rw [map_updateWhere change.id]
      exact tables.storeIds
    storeTenants := by
      intro store member
      obtain ⟨old, inside, rfl⟩ := mem_updateWhere.1 member
      obtain ⟨tenant, listed, same⟩ := tables.storeTenants old inside
      refine ⟨tenant, listed, ?_⟩
      split_ifs
      · rw [change.tenantId, same]
      · exact same
    storeCodes := by
      intro first member second member' live live' tenant code
      obtain ⟨old, inside, rfl⟩ := mem_updateWhere.1 member
      obtain ⟨old', inside', rfl⟩ := mem_updateWhere.1 member'
      have ids : ∀ store : Store,
          (if passes store then change.set store else store).id = store.id := fun store => by
        split_ifs
        · exact change.id store
        · rfl
      have tenants : ∀ store : Store,
          (if passes store then change.set store else store).tenantId = store.tenantId := fun store => by
        split_ifs
        · exact change.tenantId store
        · rfl
      have codes : ∀ store : Store,
          (if passes store then change.set store else store).code = store.code := fun store => by
        split_ifs
        · exact change.code store
        · rfl
      have lives : ∀ store : Store,
          (if passes store then change.set store else store).deletedAt = none →
            store.deletedAt = none := fun store gone => by
        split_ifs at gone
        · exact change.live store gone
        · exact gone
      rw [tenants, tenants] at tenant
      rw [codes, codes] at code
      rw [ids, ids]
      exact tables.storeCodes old inside old' inside' (lives old live) (lives old' live') tenant
        code }

/-! ### `StoresRepository` -/

section Repository

variable (viewer : Viewer)

/-- The rows `WHERE id = … AND deleted_at IS NULL` finds. -/
def finds (storeId : Uuid) (store : Store) : Bool :=
  viewer.sees store.tenantId && store.id = storeId && store.deletedAt.isNone

def listInTenant : List Store :=
  tables.stores.filter fun store => viewer.sees store.tenantId && store.deletedAt.isNone

def findById (storeId : Uuid) : Option Store := tables.stores.find? (finds viewer storeId)

def existsInTenant (storeId : Uuid) : Bool := tables.stores.any (finds viewer storeId)

/-- `update(client, storeId, next)`: the row it returns, and the tables after it. -/
def updateStore (storeId : Uuid) (next : StoreUpdateInput) (now : Int) :
    Option Store × Directory :=
  (((tables.stores.filter (finds viewer storeId)).map (next.patch now).set).head?,
    tables.patch (finds viewer storeId) (next.patch now))

/-- `softDelete(client, storeId)`. -/
def softDeleteStore (storeId : Uuid) (now : Int) : Directory :=
  tables.patch (finds viewer storeId) (deletedPatch now)

end Repository

end Directory

/-! ### `StoresService` -/

inductive StoreCall where
  | list
  | read (storeId : Uuid)
  | update (storeId : Uuid) (next : StoreUpdateInput)
  | softDelete (storeId : Uuid)

def StoreCall.Reaches (id : Uuid) : StoreCall → Prop
  | .list => True
  | .read storeId | .update storeId _ | .softDelete storeId => id = storeId

/-- `txCtx(ctx)`; the middleware takes the nil tenant for none. -/
def txCtx (ctx : ResolvedContext) : Viewer :=
  ⟨ctx.tenantId.getD (Uuid.sample 0), ctx.isPlatformAdmin⟩

namespace StoresService

variable (ctx : ResolvedContext) (now : Int) (tables : Directory)

/-- The work of a transaction: an answer with its rows and the tables it leaves, or what it throws. -/
abbrev Work := Except HttpError (List Store × Directory)

def list : Work := .ok (tables.listInTenant (txCtx ctx), tables)

/-- The first stage of `read`, the store access of a member. -/
def mayRead (tenantId storeId : Uuid) : Bool :=
  match ctx.userId with
  | some userId =>
    if !ctx.isPlatformAdmin && ctx.source = .session then
      match tables.findActiveMembership (txCtx ctx) userId tenantId with
      | none => false
      | some membership => tables.canAccessStore (txCtx ctx) membership.id tenantId storeId
          membership.storeAccessKind
    else true
  | none => true

def read (storeId : Uuid) : Work :=
  match ctx.tenantId with
  | none => .error .notFound
  | some tenantId =>
    if mayRead ctx tables tenantId storeId then
      match tables.findById (txCtx ctx) storeId with
      | none => .error .notFound
      | some row => .ok ([row], tables)
    else .error .notFound

def update (storeId : Uuid) (next : StoreUpdateInput) : Work :=
  let updated := tables.updateStore (txCtx ctx) storeId next now
  match updated.1 with
  | none => .error .notFound
  | some row => .ok ([row], updated.2)

def softDelete (storeId : Uuid) : Work :=
  if tables.existsInTenant (txCtx ctx) storeId then
    .ok ([], tables.softDeleteStore (txCtx ctx) storeId now)
  else .error .notFound

def work : StoreCall → Work
  | .list => list ctx tables
  | .read storeId => read ctx tables storeId
  | .update storeId next => update ctx now tables storeId next
  | .softDelete storeId => softDelete ctx now tables storeId

def answer (call : StoreCall) : Except HttpError (List Store) :=
  (work ctx now tables call).map Prod.fst

/-- The tables after a call: what it throws rolls back. -/
def after (call : StoreCall) : Directory :=
  match work ctx now tables call with
  | .ok done => done.2
  | .error _ => tables

end StoresService

/-! ### One tenant's rows -/

variable {T : Uuid} {ctx : ResolvedContext} {now : Int} {tables : Directory} {call : StoreCall}

section Tenant

variable {passes : Store → Bool}
variable {storeId : Uuid}

def Directory.only (tables : Directory) (T : Uuid) : Directory :=
  { tables with
    stores := tables.stores.filter fun store => store.tenantId = T
    storeIds := tables.storeIds.sublist (filter_sublist.map Store.id)
    storeTenants := fun store member => tables.storeTenants store (mem_of_mem_filter member)
    storeCodes := fun first member second member' =>
      tables.storeCodes first (mem_of_mem_filter member) second (mem_of_mem_filter member') }

/-- Two states that differ only in other tenants' stores. -/
def Directory.AgreesOn (T : Uuid) (first second : Directory) : Prop := first.only T = second.only T

theorem Directory.ext {first second : Directory} (users : first.users = second.users)
    (tenants : first.tenants = second.tenants) (stores : first.stores = second.stores)
    (roles : first.roles = second.roles) (memberships : first.memberships = second.memberships)
    (storeAccess : first.storeAccess = second.storeAccess) : first = second := by
  cases first
  cases second
  simp_all

/-- Every row that the caller sees and the call reaches is the tenant's. -/
def Within (T : Uuid) (ctx : ResolvedContext) (call : StoreCall) (tables : Directory) : Prop :=
  ∀ store ∈ tables.stores, (txCtx ctx).sees store.tenantId = true → call.Reaches store.id →
    store.tenantId = T

theorem patch_only (passes : Store → Bool) (change : StorePatch) :
    (tables.patch passes change).only T = (tables.only T).patch passes change := by
  refine Directory.ext rfl rfl ?_ rfl rfl rfl
  simp only [Directory.only, Directory.patch, updateWhere, filter_map]
  congr 1
  refine filter_congr fun store _ => ?_
  simp only [Function.comp_apply]
  split_ifs
  · rw [change.tenantId]
  · rfl

variable (own : ∀ store ∈ tables.stores, passes store = true → store.tenantId = T)
include own

theorem patch_others {change : StorePatch} :
    (tables.patch passes change).stores.filter (fun store => store.tenantId ≠ T) =
      tables.stores.filter fun store => store.tenantId ≠ T := by
  have kept : ∀ store : Store,
      (if passes store then change.set store else store).tenantId = store.tenantId := fun store => by
    split_ifs
    · exact change.tenantId store
    · rfl
  simp only [Directory.patch, updateWhere, filter_map]
  have same : (tables.stores.filter ((fun store => decide (store.tenantId ≠ T)) ∘ fun store =>
      if passes store then change.set store else store)) =
      tables.stores.filter fun store => decide (store.tenantId ≠ T) :=
    filter_congr fun store _ => by simp only [Function.comp_apply, kept]
  rw [same]
  refine (map_congr_left fun store mem => ?_).trans (map_id _)
  obtain ⟨inside, other⟩ := mem_filter.1 mem
  rw [if_neg]
  · rfl
  · exact fun found => (of_decide_eq_true other) (own store inside found)

theorem filter_only : (tables.only T).stores.filter passes = tables.stores.filter passes := by
  rw [Directory.only, filter_filter]
  refine filter_congr fun store mem => ?_
  cases found : passes store with
  | false => simp
  | true => simp [own store mem found]

theorem find_only : (tables.only T).stores.find? passes = tables.stores.find? passes := by
  rw [← head?_filter, ← head?_filter, filter_only own]

theorem any_only : (tables.only T).stores.any passes = tables.stores.any passes := by
  rw [← isSome_find?, ← isSome_find?, find_only own]

omit own

/-- A row of the table that the caller sees and the call asks for. -/
def Reached (ctx : ResolvedContext) (call : StoreCall) (store : Store) : Prop :=
  (txCtx ctx).sees store.tenantId = true ∧ call.Reaches store.id

theorem finds_reached {store : Store} (asked : call.Reaches storeId)
    (found : Directory.finds (txCtx ctx) storeId store = true) : Reached ctx call store := by
  simp only [Directory.finds, and_eq_true, decide_eq_true_eq] at found
  obtain ⟨⟨sees, rfl⟩, -⟩ := found
  exact ⟨sees, asked⟩

theorem finds_within (within : Within T ctx call tables) (asked : call.Reaches storeId) :
    ∀ store ∈ tables.stores, Directory.finds (txCtx ctx) storeId store = true → store.tenantId = T :=
  fun store mem found => within store mem (finds_reached asked found).1 (finds_reached asked found).2

theorem mayRead_only (storeId : Uuid) :
    StoresService.mayRead ctx (tables.only T) T storeId = StoresService.mayRead ctx tables T storeId := by
  have access : ∀ membershipId kind, (tables.only T).canAccessStore (txCtx ctx) membershipId T storeId kind =
        tables.canAccessStore (txCtx ctx) membershipId T storeId kind := fun membershipId kind => by
    unfold Directory.canAccessStore
    rw [any_only (T := T)]
    · rfl
    · intro store _ passes
      simp only [and_eq_true, decide_eq_true_eq] at passes
      exact passes.1.2
  unfold StoresService.mayRead
  simp only [access]
  rfl

/-- **Where the rows a call reaches are the tenant's, the call does on the whole table what it does on
the tenant's rows alone.** -/
theorem work_only (now : Int) (active : ctx.tenantId = some T) (within : Within T ctx call tables) :
    StoresService.work ctx now (tables.only T) call =
      (StoresService.work ctx now tables call).map fun done => (done.1, done.2.only T) := by
  cases call with
  | list =>
    simp only [StoresService.work, StoresService.list, Except.map, Directory.listInTenant]
    rw [filter_only]
    intro store mem passes
    simp only [and_eq_true] at passes
    exact within store mem passes.1 trivial
  | read storeId =>
    have found : (tables.only T).findById (txCtx ctx) storeId =
        tables.findById (txCtx ctx) storeId := find_only (finds_within within rfl)
    simp only [StoresService.work, StoresService.read, active, mayRead_only, found]
    split_ifs
    · split <;> rfl
    · rfl
  | update storeId next =>
    have found := filter_only (finds_within within rfl)
    simp only [StoresService.work, StoresService.update, Directory.updateStore, found]
    rw [← patch_only]
    split <;> rfl
  | softDelete storeId =>
    have found : (tables.only T).existsInTenant (txCtx ctx) storeId =
        tables.existsInTenant (txCtx ctx) storeId := any_only (finds_within within rfl)
    simp only [StoresService.work, StoresService.softDelete, found, Directory.softDeleteStore]
    rw [← patch_only]
    split_ifs <;> rfl

/-- **What a call that succeeds returns and leaves**: rows it reached, and the table with rows it reached
updated. -/
theorem work_ok {rows : List Store} {left : Directory}
    (done : StoresService.work ctx now tables call = .ok (rows, left)) :
    (∀ row ∈ rows, ∃ store ∈ tables.stores, Reached ctx call store ∧ row.tenantId = store.tenantId) ∧
      (left = tables ∨
        ∃ passes change, left = tables.patch passes change ∧
        ∀ store, passes store = true → Reached ctx call store) := by
  cases call with
  | list =>
    cases done
    refine ⟨fun row mem => ?_, .inl rfl⟩
    obtain ⟨inside, passes⟩ := mem_filter.1 mem
    simp only [and_eq_true] at passes
    exact ⟨row, inside, ⟨passes.1, trivial⟩, rfl⟩
  | read storeId =>
    simp only [StoresService.work, StoresService.read] at done
    split at done
    · cases done
    · split_ifs at done
      split at done
      · cases done
      · rename_i row found
        cases done
        refine ⟨fun other mem => ?_, .inl rfl⟩
        obtain rfl := mem_singleton.1 mem
        exact ⟨other, mem_of_find?_eq_some found, finds_reached rfl (find?_some found), rfl⟩
  | update storeId next =>
    simp only [StoresService.work, StoresService.update, Directory.updateStore] at done
    split at done
    · cases done
    · rename_i row first
      cases done
      refine ⟨fun other mem => ?_, .inr ⟨_, _, rfl, fun store => finds_reached rfl⟩⟩
      obtain rfl := mem_singleton.1 mem
      obtain ⟨store, selected, rfl⟩ := mem_map.1 (mem_of_mem_head? first)
      obtain ⟨inside, found⟩ := mem_filter.1 selected
      exact ⟨store, inside, finds_reached rfl found, (next.patch now).tenantId store⟩
  | softDelete storeId =>
    simp only [StoresService.work, StoresService.softDelete, Directory.softDeleteStore] at done
    split_ifs at done
    cases done
    exact ⟨fun row mem => absurd mem not_mem_nil, .inr ⟨_, _, rfl, fun store => finds_reached rfl⟩⟩

end Tenant

/-! ### The stores of the active tenant -/

/-- A call of a request in tenant `T` returns and changes rows of `T` only, and does the same on every
state that differs in other tenants' stores alone. -/
structure Scoped (T : Uuid) (ctx : ResolvedContext) (now : Int) (tables : Directory)
    (call : StoreCall) : Prop where
  returned : ∀ rows, StoresService.answer ctx now tables call = .ok rows →
    ∀ store ∈ rows, store.tenantId = T
  kept : (StoresService.after ctx now tables call).stores.filter (fun store => store.tenantId ≠ T) =
    tables.stores.filter fun store => store.tenantId ≠ T
  alike : ∀ other, tables.AgreesOn T other →
    StoresService.answer ctx now tables call = StoresService.answer ctx now other call ∧
      (StoresService.after ctx now tables call).AgreesOn T (StoresService.after ctx now other call)

section Scope

theorem scoped_of_within (active : ctx.tenantId = some T)
    (within : ∀ other, tables.AgreesOn T other → Within T ctx call other) : Scoped T ctx now tables call := by
  have own := within tables rfl
  constructor
  · intro rows gave store mem
    unfold StoresService.answer at gave
    cases ended : StoresService.work ctx now tables call with
    | error thrown =>
      rw [ended] at gave
      cases gave
    | ok done =>
      rw [ended] at gave
      obtain rfl := Except.ok.inj gave
      obtain ⟨row, inside, ⟨sees, asked⟩, tenant⟩ := (work_ok ended).1 store mem
      exact tenant.trans (own row inside sees asked)
  · unfold StoresService.after
    cases ended : StoresService.work ctx now tables call with
    | error thrown => rfl
    | ok done =>
      rcases (work_ok ended).2 with same | ⟨passes, change, same, reached⟩
      · simp only [same]
      · simp only [same]
        exact patch_others fun store inside passed => own store inside (reached store passed).1
          (reached store passed).2
  · intro other agrees
    have here := work_only now active own
    have there := work_only now active (within other agrees)
    rw [← agrees, here] at there
    unfold StoresService.answer StoresService.after Directory.AgreesOn
    cases ended : StoresService.work ctx now tables call with
    | error thrown =>
      cases ended' : StoresService.work ctx now other call with
      | error thrown' =>
        rw [ended, ended'] at there
        obtain rfl := Except.error.inj there
        exact ⟨rfl, agrees⟩
      | ok done' =>
        rw [ended, ended'] at there
        cases there
    | ok done =>
      cases ended' : StoresService.work ctx now other call with
      | error thrown' =>
        rw [ended, ended'] at there
        cases there
      | ok done' =>
        rw [ended, ended'] at there
        obtain ⟨rows, left⟩ := ok_inj there
        exact ⟨congrArg Except.ok rows, left⟩

/-- The three ways in which a call keeps to its tenant. -/
def Keeps (T : Uuid) (ctx : ResolvedContext) (tables : Directory) (call : StoreCall) : Prop :=
  ctx.isPlatformAdmin = false ∨ (∀ tenant ∈ tables.tenants, tenant.id = T) ∨
    ∀ id, call.Reaches id → ∃ store ∈ tables.stores, store.id = id ∧ store.tenantId = T

theorem within_of_keeps (active : ctx.tenantId = some T) (keeps : Keeps T ctx tables call) {other : Directory}
    (agrees : tables.AgreesOn T other) : Within T ctx call other := by
  intro store inside sees asked
  rcases keeps with mem | sole | reached
  · rw [Viewer.member_sees mem] at sees
    simpa [txCtx, active] using sees
  · obtain ⟨tenant, listed, same⟩ := other.storeTenants store inside
    have tenants : (tables.only T).tenants = (other.only T).tenants := congrArg Directory.tenants agrees
    rw [← same]
    exact sole tenant (tenants.symm ▸ listed)
  · obtain ⟨row, listed, same, tenant⟩ := reached store.id asked
    have stores : (tables.only T).stores = (other.only T).stores := congrArg Directory.stores agrees
    have owned : row ∈ (tables.only T).stores := mem_filter.2 ⟨listed, by simpa using tenant⟩
    rw [stores] at owned
    rw [← inj_on_of_nodup_map other.storeIds (mem_of_mem_filter owned) inside same]
    exact tenant

def joined (tables : Directory) (T : Uuid) (tenant : Tenant) (id : Uuid)
    (listed : tenant ∈ tables.tenants) (foreign : tenant.id ≠ T)
    (fresh : ∀ store ∈ tables.stores, store.id = id → store.tenantId ≠ T) : Directory :=
  { tables with
    stores := (tables.only T).stores ++ [⟨id, tenant.id, "A", "A", true, 0, 0, none⟩]
    storeIds := by
      rw [map_append, nodup_append]
      refine ⟨(tables.only T).storeIds, nodup_singleton _, ?_⟩
      rintro _ member _ single rfl
      obtain ⟨store, owned, same⟩ := mem_map.1 member
      obtain ⟨inside, own⟩ := mem_filter.1 owned
      exact fresh store inside (same.trans (mem_singleton.1 single)) (of_decide_eq_true own)
    storeTenants := by
      intro store member
      rcases mem_append.1 member with owned | single
      · exact (tables.only T).storeTenants store owned
      · obtain rfl := mem_singleton.1 single
        exact ⟨tenant, listed, rfl⟩
    storeCodes := by
      intro first member second member' live live' tenant' code
      rcases mem_append.1 member with owned | single <;>
        rcases mem_append.1 member' with owned' | single'
      · exact (tables.only T).storeCodes first owned second owned' live live' tenant' code
      · obtain rfl := mem_singleton.1 single'
        exact absurd (tenant'.symm.trans (of_decide_eq_true (mem_filter.1 owned).2)) foreign
      · obtain rfl := mem_singleton.1 single
        exact absurd (tenant'.trans (of_decide_eq_true (mem_filter.1 owned').2)) foreign
      · obtain rfl := mem_singleton.1 single
        obtain rfl := mem_singleton.1 single'
        rfl }

section Joined

variable {tenant : Tenant} {id : Uuid} {listed : tenant ∈ tables.tenants} {foreign : tenant.id ≠ T}
  {fresh : ∀ store ∈ tables.stores, store.id = id → store.tenantId ≠ T}

theorem only_agrees : tables.AgreesOn T (tables.only T) := by
  refine Directory.ext rfl rfl ?_ rfl rfl rfl
  simp [Directory.only, filter_filter]

theorem joined_agrees : tables.AgreesOn T (joined tables T tenant id listed foreign fresh) := by
  refine Directory.ext rfl rfl ?_ rfl rfl rfl
  simp [Directory.only, joined, filter_append, filter_filter, foreign]

theorem not_found (fresh : ∀ store ∈ tables.stores, store.id = id → store.tenantId ≠ T) (viewer : Viewer) :
    ∀ store ∈ (tables.only T).stores, Directory.finds viewer id store = false := by
  intro store owned
  obtain ⟨inside, own⟩ := mem_filter.1 owned
  have other : store.id ≠ id := fun same => fresh store inside same (of_decide_eq_true own)
  simp [Directory.finds, other]

theorem joined_differs (active : ctx.tenantId = some T) (admin : ctx.isPlatformAdmin = true)
    (asked : call.Reaches id) :
    StoresService.answer ctx now (tables.only T) call ≠
      StoresService.answer ctx now (joined tables T tenant id listed foreign fresh) call := by
  have sees : ∀ tenantId, (txCtx ctx).sees tenantId = true := fun tenantId => by
    simp [Viewer.sees, txCtx, admin]
  have absent : (tables.only T).stores.find? (Directory.finds (txCtx ctx) id) = none :=
    find?_eq_none.2 fun store owned => by
      simp [not_found fresh (txCtx ctx) store owned]
  have here : (joined tables T tenant id listed foreign fresh).stores.find?
      (Directory.finds (txCtx ctx) id) = some ⟨id, tenant.id, "A", "A", true, 0, 0, none⟩ := by
    rw [joined, List.find?_append, absent]
    simp [Directory.finds, sees]
  have unread : ∀ other, StoresService.mayRead ctx other T id = true := fun other => by
    unfold StoresService.mayRead
    split <;> simp [admin]
  cases call with
  | list =>
    intro same
    have rows := congrArg List.length (Except.ok.inj same)
    simp [Directory.listInTenant, joined, sees] at rows
  | read storeId =>
    obtain rfl : id = storeId := asked
    simp only [StoresService.answer, StoresService.work, StoresService.read, active, unread,
      Directory.findById, absent, here]
    intro same
    cases same
  | update storeId next =>
    obtain rfl : id = storeId := asked
    simp only [StoresService.answer, StoresService.work, StoresService.update,
      Directory.updateStore, head?_map, head?_filter, absent, here]
    intro same
    cases same
  | softDelete storeId =>
    obtain rfl : id = storeId := asked
    simp only [StoresService.answer, StoresService.work, StoresService.softDelete,
      Directory.existsInTenant, ← isSome_find?, absent, here]
    intro same
    cases same

end Joined

/-- **`StoresService` keeps to the stores of the active tenant exactly when its caller is no platform
admin, there is no other tenant, or every id the call reaches is that of one of the tenant's stores.** -/
theorem stores_scoped_iff (active : ctx.tenantId = some T) :
    Scoped T ctx now tables call ↔ Keeps T ctx tables call := by
  refine ⟨fun confined => ?_, fun keeps =>
    scoped_of_within active fun other agrees => within_of_keeps active keeps agrees⟩
  by_contra strays
  simp only [Keeps, not_or, not_forall, not_eq_false] at strays
  obtain ⟨admin, ⟨tenant, listed, foreign⟩, id, asked, missing⟩ := strays
  have fresh : ∀ store ∈ tables.stores, store.id = id → store.tenantId ≠ T :=
    fun store inside same own => missing ⟨store, inside, same, own⟩
  have differs : StoresService.answer ctx now (tables.only T) call ≠
      StoresService.answer ctx now (joined tables T tenant id listed foreign fresh) call :=
    joined_differs active admin asked
  refine differs ?_
  rw [← (confined.alike _ only_agrees).1]
  exact (confined.alike _ joined_agrees).1

end Scope

/-! ### A platform admin at work in a tenant -/

section Samples

def Directory.sample : Directory where
  users := [⟨.sample 0, "admin@example.com", none, true, none⟩]
  tenants := [⟨.sample 1, "first", "First", none⟩, ⟨.sample 2, "second", "Second", none⟩]
  stores := [⟨.sample 3, .sample 2, "S1", "Main", true, 0, 0, none⟩]
  roles := []
  memberships := []
  storeAccess := []
  userIds := nodup_singleton _
  storeIds := nodup_singleton _
  storeTenants := by decide
  storeCodes := by simp [CodesUnique]

def Backend.sample : Backend where
  view := nobodyView fun _ => some (.sample 0)
  directory := .sample
  activeContext _ := some (some (.sample 1), none)

/-- A platform admin with an active tenant reads a store of another one. -/
theorem stores_unscoped :
    ¬
      ∀ (backend : Backend) (principal : Auth.Principal) (ctx : ResolvedContext) (T : Uuid) (now : Int)
      (call : StoreCall), backend.resolve principal = .ok ctx → ctx.tenantId = some T →
      Scoped T ctx now backend.directory call := by
  intro confined
  have scope := confined .sample (.session "s" (.sample 0))
    ⟨some (.sample 0), some (.sample 1), none, true, .session⟩ (.sample 1) 0 (.read (.sample 3))
    (by decide) rfl
  exact absurd (scope.returned _ rfl _ mem_cons_self) (by decide)

theorem stores_scoped_sample :
    Scoped (.sample 2) ⟨some (.sample 0), some (.sample 2), none, true, .session⟩ 0 .sample
      (.read (.sample 3)) :=
  (stores_scoped_iff rfl).2 (.inr (.inr fun _ same => ⟨_, mem_cons_self, Eq.symm same, rfl⟩))

end Samples

end DataPulse.Access
