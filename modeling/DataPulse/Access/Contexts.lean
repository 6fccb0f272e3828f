/-
**The active context of a session.**

What `ContextService` lists to a user, what it lets the user switch to, and what `TenantContextGuard` lets
through afterwards are separate queries of `MembershipRepository`, on the plain pool: it is taken to connect
as a role that bypasses row-level security.

* `contexts_agree`: the three agree for a session exactly when every tenant its user is an active member of
  is there; `contexts_disagree`: where one is deleted, they do not.
-/

import DataPulse.Access.Guards

namespace DataPulse.Access

open Platform Lib
open Auth (GuardView Membership Principal StoreAccessKind)

/-! ### Rows -/

/-- The tables, with the rest of the keys that memberships and grants are under. -/
structure Tenancy extends Directory where
  /-- `memberships_tenant_user_active_uidx`. -/
  oneMembership : ∀ first ∈ memberships, ∀ second ∈ memberships, first.deletedAt = none →
    second.deletedAt = none → first.tenantId = second.tenantId → first.userId = second.userId → first = second
  /-- `memberships_pkey`. -/
  membershipIds : ∀ first ∈ memberships, ∀ second ∈ memberships, first.id = second.id → first = second
  /-- `memberships_role_tenant_fk`. -/
  membershipRoles : ∀ membership ∈ memberships, ∃ role ∈ roles, role.id = membership.roleId
  /-- `store_access_membership_fk`. -/
  grantMemberships : ∀ access ∈ storeAccess, ∃ membership ∈ memberships,
    membership.id = access.membershipId ∧ membership.tenantId = access.tenantId
  /-- `store_access_store_fk`. -/
  grantStores : ∀ access ∈ storeAccess, ∃ store ∈ stores,
    store.id = access.storeId ∧ store.tenantId = access.tenantId

/-- `sessions`. -/
structure SessionRow where
  id : String
  userId : Uuid
  activeTenantId : Option Uuid
  activeStoreId : Option Uuid
  absoluteExpiresAt : Int
  revokedAt : Option Int

structure MembershipSummary where
  tenantId : Uuid
  tenantName : String
  roleCode : String
  storeAccessKind : StoreAccessKind
  accessibleStoreIds : List Uuid

structure TenantSummary where
  id : Uuid
  slug : String
  name : String

structure StoreSummary where
  id : Uuid
  code : String
  name : String

/-- What `findUserSummary` returns. -/
structure UserSummary where
  id : Uuid
  email : String
  displayName : Option String
  isPlatformAdmin : Bool

structure ContextResponseBody where
  user : UserSummary
  activeTenant : Option TenantSummary
  activeStore : Option StoreSummary
  activeRoleCode : Option String
  memberships : List MembershipSummary

/-! ### `MembershipRepository` -/

namespace Directory

variable (tables : Directory) (viewer : Viewer)

def findUserSummary (userId : Uuid) : Option UserSummary :=
  (tables.users.find? fun user => user.id = userId && user.deletedAt.isNone).map fun user =>
    ⟨user.id, user.email, user.displayName, user.isPlatformAdmin⟩

def findTenantSummary (tenantId : Uuid) : Option TenantSummary :=
  (tables.tenants.find? fun tenant =>
    viewer.sees tenant.id && tenant.id = tenantId && tenant.deletedAt.isNone).map fun tenant =>
      ⟨tenant.id, tenant.slug, tenant.name⟩

def findStoreSummary (storeId tenantId : Uuid) : Option StoreSummary :=
  (tables.stores.find? fun store =>
    viewer.sees store.tenantId && store.id = storeId && store.tenantId = tenantId &&
      store.deletedAt.isNone).map fun store => ⟨store.id, store.code, store.name⟩

/-- `accessible_store_ids` of a `specific` membership: its grants, joined with the stores that are there. -/
def grantedStores (membershipId : Uuid) : List Uuid :=
  (tables.storeAccess.filter fun access =>
      viewer.sees access.tenantId && access.membershipId = membershipId).flatMap fun access =>
    (tables.stores.filter fun store =>
      viewer.sees store.tenantId && store.id = access.storeId && store.deletedAt.isNone).map fun _ =>
        access.storeId

/-- `listForUser(userId)`: the join of memberships, tenants and roles. -/
def listForUser (userId : Uuid) : List MembershipSummary :=
  (tables.memberships.filter fun membership =>
      viewer.sees membership.tenantId && membership.userId = userId &&
        isActive membership).flatMap fun membership =>
    (tables.tenants.filter fun tenant =>
        viewer.sees tenant.id && tenant.id = membership.tenantId &&
          tenant.deletedAt.isNone).flatMap fun tenant =>
      (tables.roles.filter fun role => role.id = membership.roleId && viewer.seesRole role).map fun role =>
        { tenantId := membership.tenantId
          tenantName := tenant.name
          roleCode := role.code
          storeAccessKind := membership.storeAccessKind
          accessibleStoreIds := match membership.storeAccessKind with
            | .all => []
            | .specific => tables.grantedStores viewer membership.id }

def UserLive (userId : Uuid) : Prop :=
  ∃ user ∈ tables.users, user.id = userId ∧ user.deletedAt = none

def TenantLive (tenantId : Uuid) : Prop :=
  ∃ tenant ∈ tables.tenants, tenant.id = tenantId ∧ tenant.deletedAt = none

def StoreLive (tenantId storeId : Uuid) : Prop :=
  ∃ store ∈ tables.stores, store.id = storeId ∧ store.tenantId = tenantId ∧ store.deletedAt = none

def Member (userId tenantId : Uuid) (membership : Membership) : Prop :=
  membership ∈ tables.memberships ∧ membership.userId = userId ∧ membership.tenantId = tenantId ∧
    isActive membership = true

/-- The membership is for every store of its tenant, or has a grant for this one. -/
def Reaches (membership : Membership) (storeId : Uuid) : Prop :=
  tables.StoreLive membership.tenantId storeId ∧ (membership.storeAccessKind = .specific →
    ∃ access ∈ tables.storeAccess, access.membershipId = membership.id ∧ access.storeId = storeId)

end Directory

/-! ### `ContextService` -/

inductive ContextError where
  | unauthorized
  | notFound
  | conflict (message : String)
  | badRequest (message : String)

def tokenCannotSwitch : ContextError :=
  .badRequest ("Tokens cannot switch context. Token tenant/store binding is fixed " ++
    "at issuance — issue a new token instead.")

structure ContextState where
  tables : Tenancy
  sessions : List SessionRow

namespace ContextState

variable (state : ContextState) (now : Int)

def findActiveById (sessionId : String) : Option SessionRow :=
  state.sessions.find? fun row => row.id = sessionId && row.revokedAt.isNone && now < row.absoluteExpiresAt

/-- `updateActiveContext(id, next)`: the state after it, and whether a row was there. -/
def updateActiveContext (sessionId : String) (activeTenantId activeStoreId : Option Uuid) : ContextState ×
    Bool :=
  let matched (row : SessionRow) : Bool := row.id = sessionId && row.revokedAt.isNone
  ({ state with
      sessions := state.sessions.map fun row =>
        if matched row then { row with activeTenantId := activeTenantId, activeStoreId := activeStoreId } else
          row },
    state.sessions.any matched)

def buildResponse (userId : Uuid) (activeTenantId activeStoreId : Option Uuid) :
    Except ContextError ContextResponseBody :=
  match state.tables.findUserSummary userId with
  | none => .error .unauthorized
  | some user =>
    let summaries := state.tables.listForUser .bootstrap userId
    .ok {
      user := user
      activeTenant := activeTenantId.bind (state.tables.findTenantSummary .bootstrap)
      activeStore := activeStoreId.bind fun storeId => activeTenantId.bind fun tenantId =>
        state.tables.findStoreSummary .bootstrap storeId tenantId
      activeRoleCode := activeTenantId.bind fun tenantId =>
        (summaries.find? fun summary => summary.tenantId = tenantId).map MembershipSummary.roleCode
      memberships := summaries }

/-- `getActiveContextForSession(principal)`. -/
def getActiveContext (sessionId : String) (userId : Uuid) : Except ContextError ContextResponseBody :=
  match state.findActiveById now sessionId with
  | none => .error .unauthorized
  | some session => state.buildResponse userId session.activeTenantId session.activeStoreId

/-- A switch that was validated: `updateActiveContext`, then `buildResponse`. -/
def activate (sessionId : String) (userId : Uuid) (activeTenantId activeStoreId : Option Uuid) :
    ContextState × Except ContextError ContextResponseBody :=
  let (updated, found) := state.updateActiveContext sessionId activeTenantId activeStoreId
  (updated, if found then updated.buildResponse userId activeTenantId activeStoreId else .error .unauthorized)

def switchTenant (principal : Principal) (tenantId : Uuid) :
    ContextState × Except ContextError ContextResponseBody :=
  match principal with
  | .token .. => (state, .error tokenCannotSwitch)
  | .session sessionId userId =>
    let validated :=
      if state.tables.isPlatformAdmin userId then (state.tables.findTenantSummary .bootstrap tenantId).isSome
      else (state.tables.findActiveMembership .bootstrap userId tenantId).isSome
    if validated then state.activate sessionId userId (some tenantId) none
    else (state, .error .notFound)

def switchStore (principal : Principal) (storeId : Uuid) :
    ContextState × Except ContextError ContextResponseBody :=
  match principal with
  | .token .. => (state, .error tokenCannotSwitch)
  | .session sessionId userId =>
    match state.findActiveById now sessionId with
    | none => (state, .error .unauthorized)
    | some session =>
      match session.activeTenantId with
      | none => (state, .error (.conflict "No active tenant set. Switch tenant before switching store."))
      | some tenantId =>
        let allowed :=
          if state.tables.isPlatformAdmin userId then
            -- the synthetic membership is not used for the kind `'all'`
            state.tables.canAccessStore .bootstrap (.sample 0) tenantId storeId .all
          else match state.tables.findActiveMembership .bootstrap userId tenantId with
            | none => false
            | some membership => state.tables.canAccessStore .bootstrap membership.id tenantId storeId
                membership.storeAccessKind
        if allowed then state.activate sessionId userId (some tenantId) (some storeId)
        else (state, .error .notFound)

/-- What `TenantContextGuard` reads of the state. -/
def backend (view : GuardView) : Backend where
  view := view
  directory := state.tables.toDirectory
  activeContext sessionId := (state.findActiveById now sessionId).map fun row =>
    (row.activeTenantId, row.activeStoreId)

end ContextState

/-! ### What the queries find -/

variable {userId tenantId storeId : Uuid}

namespace Directory

variable {tables : Directory} {summary : MembershipSummary}

theorem findUserSummary_isSome : (tables.findUserSummary userId).isSome ↔ tables.UserLive userId := by
  simp only [findUserSummary, UserLive, isSome_map, find?_isSome, and_eq_true, decide_eq_true_eq,
    isNone_iff_eq_none]

theorem mem_grantedStores {membershipId : Uuid} :
    storeId ∈ tables.grantedStores .bootstrap membershipId ↔
      ∃ access ∈ tables.storeAccess, access.membershipId = membershipId ∧ access.storeId = storeId ∧
      ∃ store ∈ tables.stores, store.id = storeId ∧ store.deletedAt = none := by
  simp only [grantedStores, mem_flatMap, mem_filter, mem_map, Viewer.bootstrap_sees,
    Bool.true_and, and_eq_true, decide_eq_true_eq, isNone_iff_eq_none]
  constructor
  · rintro ⟨access, ⟨granted, ofMembership⟩, store, ⟨stored, same, live⟩, rfl⟩
    exact ⟨access, granted, ofMembership, rfl, store, stored, same, live⟩
  · rintro ⟨access, granted, ofMembership, rfl, store, stored, same, live⟩
    exact ⟨access, ⟨granted, ofMembership⟩, store, ⟨stored, same, live⟩, rfl⟩

/-- **The memberships listed are the active ones in tenants that are not deleted.** -/
theorem mem_listForUser : summary ∈ tables.listForUser .bootstrap userId ↔
    ∃ membership, tables.Member userId membership.tenantId membership ∧
      ∃ tenant ∈ tables.tenants, tenant.id = membership.tenantId ∧ tenant.deletedAt = none ∧
        ∃ role ∈ tables.roles, role.id = membership.roleId ∧
          summary = ⟨membership.tenantId, tenant.name, role.code, membership.storeAccessKind,
            match membership.storeAccessKind with
            | .all => []
            | .specific => tables.grantedStores .bootstrap membership.id⟩ := by
  simp only [listForUser, Member, mem_flatMap, mem_filter, mem_map, Viewer.bootstrap_sees,
    Viewer.bootstrap_seesRole, Bool.true_and, Bool.and_true, and_eq_true, decide_eq_true_eq,
    isNone_iff_eq_none, true_and]
  constructor
  · rintro ⟨membership, ⟨row, ofUser, active⟩, tenant, ⟨there, same, live⟩, role, ⟨given, ofRole⟩, rfl⟩
    exact ⟨membership, ⟨row, ofUser, active⟩, tenant, there, same, live, role, given, ofRole, rfl⟩
  · rintro ⟨membership, ⟨row, ofUser, active⟩, tenant, there, same, live, role, given, ofRole, rfl⟩
    exact ⟨membership, ⟨row, ofUser, active⟩, tenant, ⟨there, same, live⟩, role, ⟨given, ofRole⟩, rfl⟩

end Directory

namespace Tenancy

variable {tables : Tenancy} {membership : Membership}

theorem member_unique {other : Membership} (first : tables.Member userId tenantId membership)
    (second : tables.Member userId tenantId other) : other = membership := by
  obtain ⟨row, ofUser, ofTenant, active⟩ := first
  obtain ⟨row', ofUser', ofTenant', active'⟩ := second
  simp only [isActive, and_eq_true, isNone_iff_eq_none] at active active'
  exact tables.oneMembership _ row' _ row active'.2 active.2 (ofTenant'.trans ofTenant.symm)
    (ofUser'.trans ofUser.symm)

theorem findActiveMembership_iff :
    tables.findActiveMembership .bootstrap userId tenantId = some membership ↔
      tables.Member userId tenantId membership := by
  have found_member : ∀ found, tables.findActiveMembership .bootstrap userId tenantId = some found →
      tables.Member userId tenantId found := by
    intro found query
    have row := mem_of_find?_eq_some query
    have matched := find?_some query
    simp only [Viewer.bootstrap_sees, Bool.true_and, and_eq_true, decide_eq_true_eq] at matched
    exact ⟨row, matched.1.1, matched.1.2, matched.2⟩
  refine ⟨found_member membership, fun mem => ?_⟩
  cases query : tables.findActiveMembership .bootstrap userId tenantId with
  | none =>
    obtain ⟨row, ofUser, ofTenant, active⟩ := mem
    have missed := find?_eq_none.1 query membership row
    simp [ofUser, ofTenant, active] at missed
  | some found => rw [member_unique mem (found_member found query)]

theorem canAccessStore_iff (mem : tables.Member userId tenantId membership) :
    tables.canAccessStore .bootstrap membership.id tenantId storeId membership.storeAccessKind = true ↔
      tables.Reaches membership storeId := by
  obtain ⟨row, -, rfl, -⟩ := mem
  unfold Directory.canAccessStore Directory.Reaches Directory.StoreLive
  rw [and_eq_true]
  refine and_congr ?_ ?_
  · simp only [List.any_eq_true, Viewer.bootstrap_sees, Bool.true_and, and_eq_true, decide_eq_true_eq,
      isNone_iff_eq_none, and_assoc]
  · cases membership.storeAccessKind with
    | all => simp
    | specific =>
      simp only [List.any_eq_true, Viewer.bootstrap_sees, Bool.true_and, and_eq_true, decide_eq_true_eq,
        and_assoc, true_imp_iff]
      constructor
      · rintro ⟨access, granted, ofMembership, ofStore, -⟩
        exact ⟨access, granted, ofMembership, ofStore⟩
      · rintro ⟨access, granted, ofMembership, ofStore⟩
        -- a grant is of the tenant of its membership
        obtain ⟨owner, ownerRow, same, ofTenant⟩ := tables.grantMemberships access granted
        rw [tables.membershipIds owner ownerRow membership row (same.trans ofMembership)] at ofTenant
        exact ⟨access, granted, ofMembership, ofStore, ofTenant.symm⟩

theorem findActiveMembership_any {allowed : Membership → Bool} {reached : Membership → Prop}
    (asks : ∀ membership, tables.Member userId tenantId membership →
      (allowed membership = true ↔ reached membership)) :
    (tables.findActiveMembership .bootstrap userId tenantId).any allowed = true ↔
      ∃ membership, tables.Member userId tenantId membership ∧ reached membership := by
  rw [any_eq_true]
  constructor
  · rintro ⟨membership, query, holds⟩
    have mem := findActiveMembership_iff.1 query
    exact ⟨membership, mem, (asks membership mem).1 holds⟩
  · rintro ⟨membership, mem, holds⟩
    exact ⟨membership, findActiveMembership_iff.2 mem, (asks membership mem).2 holds⟩

theorem offered_iff (mem : tables.Member userId tenantId membership) :
    (membership.storeAccessKind = .all ∧ tables.StoreLive tenantId storeId ∨
      storeId ∈ (match membership.storeAccessKind with
        | .all => []
        | .specific => tables.grantedStores .bootstrap membership.id)) ↔ tables.Reaches membership storeId := by
  obtain ⟨row, -, rfl, -⟩ := mem
  unfold Directory.Reaches
  cases kind : membership.storeAccessKind with
  | all => simp
  | specific =>
    simp only [reduceCtorEq, false_and, false_or, true_imp_iff, Directory.mem_grantedStores]
    constructor
    · rintro ⟨access, granted, ofMembership, rfl, store, stored, same, live⟩
      obtain ⟨owner, ownerRow, sameOwner, ofTenant⟩ := tables.grantMemberships access granted
      obtain ⟨other, otherRow, sameStore, ofStore⟩ := tables.grantStores access granted
      rw [tables.membershipIds owner ownerRow membership row (sameOwner.trans ofMembership)] at ofTenant
      have one := inj_on_of_nodup_map tables.storeIds stored otherRow (same.trans sameStore.symm)
      exact ⟨⟨store, stored, same, (one ▸ ofStore).trans ofTenant.symm, live⟩, access, granted, ofMembership,
        rfl⟩
    · rintro ⟨⟨store, stored, same, -, live⟩, access, granted, ofMembership, rfl⟩
      exact ⟨access, granted, ofMembership, rfl, store, stored, same, live⟩

end Tenancy

/-! ### Shown and enforced -/

namespace ContextState

variable (state : ContextState) (view : GuardView) (now : Int) (session : SessionRow)
variable {activeTenantId activeStoreId : Option Uuid}

def Succeeds (outcome : ContextState × Except ContextError ContextResponseBody) : Prop :=
  ∃ body, outcome.2 = .ok body

/-- The tenant is among the memberships of the context response. -/
def Lists (tenantId : Uuid) : Prop :=
  ∃ body, state.getActiveContext now session.id session.userId = .ok body ∧
    ∃ summary ∈ body.memberships, summary.tenantId = tenantId

/-- A listed membership of the tenant has access `'all'` and the store is one of the tenant's, or it names the
store. -/
def Offers (tenantId storeId : Uuid) : Prop :=
  ∃ body, state.getActiveContext now session.id session.userId = .ok body ∧
    ∃ summary ∈ body.memberships, summary.tenantId = tenantId ∧
      (summary.storeAccessKind = .all ∧ state.tables.StoreLive tenantId storeId ∨
        storeId ∈ summary.accessibleStoreIds)

/-- `TenantContextGuard` lets the session through. -/
def Admitted : Prop :=
  ∃ context, (state.backend now view).resolve (.session session.id session.userId) = .ok context

/-- **What a session is shown, what it can switch to, and what the guard lets through are the same.** -/
structure Agrees : Prop where
  tenant : ∀ tenantId, Succeeds (state.switchTenant (.session session.id session.userId) tenantId) ↔
    state.Lists now session tenantId
  store : ∀ tenantId, session.activeTenantId = some tenantId → ∀ storeId,
    Succeeds (state.switchStore now (.session session.id session.userId) storeId) ↔
      state.Offers now session tenantId storeId
  guard : ∀ tenantId, session.activeTenantId = some tenantId →
    (state.Admitted view now session ↔ state.Lists now session tenantId ∧
      ∀ storeId, session.activeStoreId = some storeId → state.Offers now session tenantId storeId)
  live : ∀ tenantId, session.activeTenantId = some tenantId → state.Admitted view now session →
    state.tables.TenantLive tenantId ∧
      ∀ storeId, session.activeStoreId = some storeId → state.tables.StoreLive tenantId storeId

/-- An active membership admits the session to its active tenant and store. -/
def Entitled : Prop :=
  ∃ tenantId, session.activeTenantId = some tenantId ∧
    ∃ membership, state.tables.Member session.userId tenantId membership ∧
      ∀ storeId, session.activeStoreId = some storeId → state.tables.Reaches membership storeId

/-- Every tenant that the user is an active member of is there; and a user who is deleted has no membership
that the session could still use. -/
structure Current : Prop where
  tenants : state.tables.UserLive session.userId → ∀ tenantId membership,
    state.tables.Member session.userId tenantId membership → state.tables.TenantLive tenantId
  user : state.Entitled session → state.tables.UserLive session.userId

variable {state view now session}

theorem buildResponse_ok :
    (∃ body, state.buildResponse userId activeTenantId activeStoreId = .ok body) ↔
      state.tables.UserLive userId := by
  rw [← Directory.findUserSummary_isSome]
  unfold buildResponse
  cases state.tables.findUserSummary userId <;> simp

theorem buildResponse_memberships {body : ContextResponseBody}
    (built : state.buildResponse userId activeTenantId activeStoreId = .ok body) :
    body.memberships = state.tables.listForUser .bootstrap userId := by
  unfold buildResponse at built
  split at built
  · cases built
  · cases built
    rfl

theorem activate_ok {sessionId : String} (live : state.findActiveById now sessionId = some session) :
    Succeeds (state.activate sessionId userId activeTenantId activeStoreId) ↔
      state.tables.UserLive userId := by
  have found : (state.updateActiveContext sessionId activeTenantId activeStoreId).2 = true := by
    have row := mem_of_find?_eq_some live
    have matched := find?_some live
    simp only [and_eq_true] at matched
    exact List.any_eq_true.2 ⟨session, row, and_eq_true _ _ ▸ matched.1⟩
  unfold Succeeds activate
  simp only [found, if_true]
  exact buildResponse_ok

section Live

variable (live : state.findActiveById now session.id = some session)

include live

theorem getActiveContext_eq :
    state.getActiveContext now session.id session.userId =
      state.buildResponse session.userId session.activeTenantId session.activeStoreId := by
  simp only [getActiveContext, live]

theorem shown_iff (property : MembershipSummary → Prop) :
    (∃ body, state.getActiveContext now session.id session.userId = .ok body ∧
        ∃ summary ∈ body.memberships, property summary) ↔
      state.tables.UserLive session.userId ∧
      ∃ summary ∈ state.tables.listForUser .bootstrap session.userId, property summary := by
  rw [getActiveContext_eq live]
  constructor
  · rintro ⟨body, built, summary, listed, holds⟩
    rw [buildResponse_memberships built] at listed
    exact ⟨buildResponse_ok.1 ⟨body, built⟩, summary, listed, holds⟩
  · rintro ⟨there, summary, listed, holds⟩
    obtain ⟨body, built⟩ := buildResponse_ok.2 there
    exact ⟨body, built, summary, (buildResponse_memberships built).symm ▸ listed, holds⟩

theorem lists_iff :
    state.Lists now session tenantId ↔
      state.tables.UserLive session.userId ∧ state.tables.TenantLive tenantId ∧
      ∃ membership, state.tables.Member session.userId tenantId membership := by
  refine (shown_iff live _).trans (and_congr_right fun _ => ?_)
  constructor
  · rintro ⟨summary, listed, rfl⟩
    obtain ⟨membership, mem, tenant, there, same, undeleted, role, -, -, rfl⟩ :=
      Directory.mem_listForUser.1 listed
    exact ⟨⟨tenant, there, same, undeleted⟩, membership, mem⟩
  · rintro ⟨⟨tenant, there, rfl, undeleted⟩, membership, mem⟩
    obtain ⟨role, given, ofRole⟩ := state.tables.membershipRoles membership mem.1
    obtain ⟨row, ofUser, ofTenant, active⟩ := mem
    exact ⟨_, Directory.mem_listForUser.2 ⟨membership, ⟨row, ofUser, rfl, active⟩, tenant, there,
          ofTenant.symm, undeleted, role, given, ofRole, rfl⟩, ofTenant⟩

theorem offers_iff :
    state.Offers now session tenantId storeId ↔
      state.tables.UserLive session.userId ∧ state.tables.TenantLive tenantId ∧
      ∃ membership, state.tables.Member session.userId tenantId membership ∧
      state.tables.Reaches membership storeId := by
  refine (shown_iff live _).trans (and_congr_right fun _ => ?_)
  constructor
  · rintro ⟨summary, listed, rfl, offered⟩
    obtain ⟨membership, mem, tenant, there, same, undeleted, role, -, -, rfl⟩ :=
      Directory.mem_listForUser.1 listed
    exact ⟨⟨tenant, there, same, undeleted⟩, membership, mem, (Tenancy.offered_iff mem).1 offered⟩
  · rintro ⟨⟨tenant, there, rfl, undeleted⟩, membership, mem, reached⟩
    obtain ⟨role, given, ofRole⟩ := state.tables.membershipRoles membership mem.1
    have offered := (Tenancy.offered_iff mem).2 reached
    obtain ⟨row, ofUser, ofTenant, active⟩ := mem
    exact ⟨_, Directory.mem_listForUser.2 ⟨membership, ⟨row, ofUser, rfl, active⟩, tenant, there,
          ofTenant.symm, undeleted, role, given, ofRole, rfl⟩, ofTenant, offered⟩

variable (plain : state.tables.isPlatformAdmin session.userId = false)

include plain

theorem switchTenant_iff :
    Succeeds (state.switchTenant (.session session.id session.userId) tenantId) ↔
      state.tables.UserLive session.userId ∧
      ∃ membership, state.tables.Member session.userId tenantId membership := by
  simp only [switchTenant, plain, false_eq_true, if_false]
  cases query : state.tables.findActiveMembership .bootstrap session.userId tenantId with
  | none =>
    have missing : ¬ ∃ membership, state.tables.Member session.userId tenantId membership := by
      rintro ⟨membership, mem⟩
      rw [Tenancy.findActiveMembership_iff.2 mem] at query
      cases query
    simp [Succeeds, missing]
  | some membership =>
    rw [Option.isSome_some, if_pos rfl, activate_ok live]
    exact (and_iff_left ⟨membership, Tenancy.findActiveMembership_iff.1 query⟩).symm

theorem switchStore_iff (active : session.activeTenantId = some tenantId) :
    Succeeds (state.switchStore now (.session session.id session.userId) storeId) ↔
      state.tables.UserLive session.userId ∧
      ∃ membership, state.tables.Member session.userId tenantId membership ∧
      state.tables.Reaches membership storeId := by
  rw [← Tenancy.findActiveMembership_any fun membership mem => Tenancy.canAccessStore_iff mem]
  simp only [switchStore, live, active, plain, false_eq_true, if_false]
  cases state.tables.findActiveMembership .bootstrap session.userId tenantId with
  | none => simp [Succeeds]
  | some membership =>
    dsimp only [any_some]
    split
    next allowed => rw [activate_ok live, and_iff_left allowed]
    next denied => simp [Succeeds, denied]

theorem admitted_iff (active : session.activeTenantId = some tenantId) :
    state.Admitted view now session ↔
      ∃ membership, state.tables.Member session.userId tenantId membership ∧
      ∀ storeId, session.activeStoreId = some storeId → state.tables.Reaches membership storeId := by
  let allowed (membership : Membership) : Bool := match session.activeStoreId with
    | none => true
    | some storeId => state.tables.canAccessStore .bootstrap membership.id tenantId storeId
        membership.storeAccessKind
  have asks : ∀ membership, state.tables.Member session.userId tenantId membership → (allowed membership = true ↔
        ∀ storeId, session.activeStoreId = some storeId → state.tables.Reaches membership storeId) := by
    intro membership mem
    dsimp only [allowed]
    cases session.activeStoreId with
    | none => simp
    | some storeId => simpa using Tenancy.canAccessStore_iff mem
  rw [← Tenancy.findActiveMembership_any asks]
  have context : (state.backend now view).activeContext session.id =
      some (some tenantId, session.activeStoreId) := by
    simp [backend, live, active]
  have directory : (state.backend now view).directory = state.tables.toDirectory := rfl
  unfold Admitted Backend.resolve Backend.resolveSession
  simp only [context, directory, plain, false_eq_true, if_false]
  cases state.tables.findActiveMembership .bootstrap session.userId tenantId with
  | none => simp
  | some membership =>
    rw [any_some]
    change (∃ resolved, (if allowed membership = true then Except.ok _ else Except.error _) =
      Except.ok resolved) ↔ allowed membership = true
    split
    next passes => simp [passes]
    next fails => simp [fails]

/-- **The listing, the switches and the guard agree for a session exactly when every tenant its user is an active
member of is there**, and a deleted user has no membership the session could use. -/
theorem contexts_agree : state.Agrees view now session ↔ state.Current session := by
  constructor
  · intro agrees
    refine ⟨fun there tenantId membership mem => ?_, fun entitled => ?_⟩
    · have switched := (switchTenant_iff live plain).2 ⟨there, membership, mem⟩
      exact ((lists_iff live).1 ((agrees.tenant tenantId).1 switched)).2.1
    · obtain ⟨tenantId, active, membership, mem, reached⟩ := entitled
      have passes : state.Admitted view now session :=
        (admitted_iff live plain active).2 ⟨membership, mem, reached⟩
      exact ((lists_iff live).1 ((agrees.guard tenantId active).1 passes).1).1
  · intro current
    -- an admitted session has a user, a tenant and a membership that are there
    have admitted : ∀ tenantId, session.activeTenantId = some tenantId → state.Admitted view now session →
        state.tables.UserLive session.userId ∧ state.tables.TenantLive tenantId ∧
          ∃ membership, state.tables.Member session.userId tenantId membership ∧
            ∀ storeId, session.activeStoreId = some storeId → state.tables.Reaches membership storeId := by
      intro tenantId active passes
      obtain ⟨membership, mem, reached⟩ := (admitted_iff live plain active).1 passes
      have there := current.user ⟨tenantId, active, membership, mem, reached⟩
      exact ⟨there, current.tenants there tenantId membership mem, membership, mem, reached⟩
    refine ⟨fun tenantId => ?_, fun tenantId active storeId => ?_, fun tenantId active => ?_,
      fun tenantId active passes => ?_⟩
    · rw [switchTenant_iff live plain, lists_iff live]
      constructor
      · rintro ⟨there, membership, mem⟩
        exact ⟨there, current.tenants there tenantId membership mem, membership, mem⟩
      · rintro ⟨there, -, membership, mem⟩
        exact ⟨there, membership, mem⟩
    · rw [switchStore_iff live plain active, offers_iff live]
      constructor
      · rintro ⟨there, membership, mem, reached⟩
        exact ⟨there, current.tenants there tenantId membership mem, membership, mem, reached⟩
      · rintro ⟨there, -, membership, mem, reached⟩
        exact ⟨there, membership, mem, reached⟩
    · constructor
      · intro passes
        obtain ⟨there, undeleted, membership, mem, reached⟩ := admitted tenantId active passes
        exact ⟨(lists_iff live).2 ⟨there, undeleted, membership, mem⟩, fun storeId stored =>
          (offers_iff live).2 ⟨there, undeleted, membership, mem, reached storeId stored⟩⟩
      · rintro ⟨listed, offered⟩
        obtain ⟨there, undeleted, membership, mem⟩ := (lists_iff live).1 listed
        refine (admitted_iff live plain active).2 ⟨membership, mem, fun storeId stored => ?_⟩
        obtain ⟨-, -, other, member', reached⟩ := (offers_iff live).1 (offered storeId stored)
        rwa [Tenancy.member_unique mem member'] at reached
    · obtain ⟨-, undeleted, membership, mem, reached⟩ := admitted tenantId active passes
      exact ⟨undeleted, fun storeId stored => mem.2.2.1 ▸ (reached storeId stored).1⟩

end Live

/-! ### A member of a deleted tenant -/

section Samples

def sample (deletedAt : Option Int) : ContextState where
  tables := {
    users := [⟨.sample 1, "user@example.com", none, false, none⟩]
    tenants := [⟨.sample 2, "first", "First", deletedAt⟩, ⟨.sample 3, "second", "Second", none⟩]
    stores := [⟨.sample 4, .sample 2, "S1", "Main", true, 0, 0, none⟩,
      ⟨.sample 5, .sample 3, "S2", "Side", true, 0, 0, none⟩]
    roles := [⟨.sample 6, some (.sample 2), "owner"⟩, ⟨.sample 7, some (.sample 3), "store_staff"⟩]
    memberships := [⟨.sample 8, .sample 2, .sample 1, .sample 6, .all, none, none⟩,
      ⟨.sample 9, .sample 3, .sample 1, .sample 7, .specific, none, none⟩]
    storeAccess := [⟨.sample 9, .sample 5, .sample 3⟩]
    userIds := nodup_singleton _
    storeIds := by decide
    storeTenants := by simp
    storeCodes := by
      have apart : Uuid.sample 2 ≠ Uuid.sample 3 := by decide
      simp [CodesUnique, apart, apart.symm]
    oneMembership := by decide
    membershipIds := by decide
    membershipRoles := by decide
    grantMemberships := by decide
    grantStores := by decide }
  sessions := [⟨"s", .sample 1, some (.sample 2), some (.sample 4), 10, none⟩]

def emptyView : GuardView := nobodyView fun _ => none

def sampleSession : SessionRow := ⟨"s", .sample 1, some (.sample 2), some (.sample 4), 10, none⟩

/-- The user of a deleted tenant is not shown it, switches to it and is let through. -/
theorem contexts_disagree :
    ¬
      ∀ (state : ContextState) (view : GuardView) (now : Int) (session : SessionRow),
      state.findActiveById now session.id = some session →
      state.tables.isPlatformAdmin session.userId = false → state.Agrees view now session := by
  intro agree
  have agrees := agree (sample (some 5)) emptyView 6 sampleSession rfl rfl
  have listed := (agrees.tenant (.sample 2)).1 ⟨_, rfl⟩
  obtain ⟨tenant, there, same, undeleted⟩ := ((lists_iff rfl).1 listed).2.1
  revert tenant
  decide

theorem contexts_agree_sample : (sample none).Agrees emptyView 6 sampleSession := by
  have tenants : ∀ membership ∈ (sample none).tables.memberships, ∃ tenant ∈ (sample none).tables.tenants,
      tenant.id = membership.tenantId ∧ tenant.deletedAt = none := by decide
  refine (contexts_agree rfl rfl).2 ⟨fun _ tenantId membership mem => ?_, fun _ => ?_⟩
  · exact mem.2.2.1 ▸ tenants membership mem.1
  · exact ⟨_, mem_singleton_self _, rfl, rfl⟩

end Samples

end ContextState

end DataPulse.Access
