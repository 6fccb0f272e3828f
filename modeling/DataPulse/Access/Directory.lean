/-
**Tenants, stores and members.**

The tables every dashboard request is judged by, with the keys the schema enforces as fields, and the
queries of `MembershipRepository` on them. Each policy of these tables admits a row of the active
tenant, and every row for a platform admin: a query sees what its `Viewer` sees.

Rows stand in the order in which the server returns them; no query here asks for one.
-/

import DataPulse.Auth.Identities
import DataPulse.Lib.Rows

namespace DataPulse.Access

open Platform Lib
open Auth (Membership StoreAccessKind)

/-! ### Rows -/

structure User where
  id : Uuid
  email : String
  displayName : Option String
  isPlatformAdmin : Bool
  deletedAt : Option Int
  deriving DecidableEq

structure Tenant where
  id : Uuid
  slug : String
  name : String
  deletedAt : Option Int

/-- `stores`, the `StoreRecord` of a row. -/
structure Store where
  id : Uuid
  tenantId : Uuid
  code : String
  name : String
  isActive : Bool
  createdAt : Int
  updatedAt : Int
  deletedAt : Option Int

/-- `roles`; a platform role has no tenant. -/
structure Role where
  id : Uuid
  tenantId : Option Uuid
  code : String

structure StoreAccess where
  membershipId : Uuid
  storeId : Uuid
  tenantId : Uuid

/-- `stores_tenant_code_uidx`: one live store of a code, in any letter case, in a tenant. -/
def CodesUnique (stores : List Store) : Prop :=
  ∀ first ∈ stores, ∀ second ∈ stores, first.deletedAt = none → second.deletedAt = none →
    first.tenantId = second.tenantId → first.code.toLower = second.code.toLower →
    first.id = second.id

structure Directory where
  users : List User
  tenants : List Tenant
  stores : List Store
  roles : List Role
  memberships : List Membership
  storeAccess : List StoreAccess
  /-- `users_pkey`. -/
  userIds : (users.map User.id).Nodup
  /-- `stores_pkey`. -/
  storeIds : (stores.map Store.id).Nodup
  /-- `stores_tenant_id_fkey`. -/
  storeTenants : ∀ store ∈ stores, ∃ tenant ∈ tenants, tenant.id = store.tenantId
  storeCodes : CodesUnique stores

/-! ### What a query sees -/

/-- `TenantContext`, the settings a transaction of `runWithTenantContext` runs under. -/
structure Viewer where
  tenantId : Uuid
  isPlatformAdmin : Bool

/-- The context guards look members up in: the nil tenant, and a platform admin. -/
def Viewer.bootstrap : Viewer := ⟨Uuid.sample 0, true⟩

/-- The isolation policies: `tenant_id = app.current_tenant OR app.is_platform_admin = 'true'`. -/
def Viewer.sees (viewer : Viewer) (tenantId : Uuid) : Bool :=
  decide (tenantId = viewer.tenantId) || viewer.isPlatformAdmin

/-- The policy of `roles`, which shows a platform role to everyone. -/
def Viewer.seesRole (viewer : Viewer) (role : Role) : Bool :=
  match role.tenantId with
  | none => true
  | some tenantId => viewer.sees tenantId

@[simp] theorem Viewer.bootstrap_sees (tenantId : Uuid) : Viewer.bootstrap.sees tenantId = true := by
  simp [sees, bootstrap]

@[simp] theorem Viewer.bootstrap_seesRole (role : Role) : Viewer.bootstrap.seesRole role = true := by
  unfold seesRole
  split
  · rfl
  · exact bootstrap_sees _

theorem Viewer.member_sees {viewer : Viewer} (mem : viewer.isPlatformAdmin = false) (tenantId : Uuid) :
    viewer.sees tenantId = decide (tenantId = viewer.tenantId) := by
  simp [sees, mem]

/-! ### `MembershipRepository` -/

/-- `revoked_at IS NULL AND deleted_at IS NULL`. -/
def isActive (membership : Membership) : Bool :=
  membership.revokedAt.isNone && membership.deletedAt.isNone

namespace Directory

variable (tables : Directory)

/-- `isPlatformAdmin(userId)`; `users` has no policy. -/
def isPlatformAdmin (userId : Uuid) : Bool :=
  ((tables.users.find? fun user => user.id = userId && user.deletedAt.isNone).map
    User.isPlatformAdmin).getD false

variable (viewer : Viewer)

def findActiveMembership (userId tenantId : Uuid) : Option Membership :=
  tables.memberships.find? fun membership =>
    viewer.sees membership.tenantId && membership.userId = userId &&
      membership.tenantId = tenantId && isActive membership

def canAccessStore (membershipId tenantId storeId : Uuid) (kind : StoreAccessKind) : Bool :=
  (tables.stores.any fun store =>
    viewer.sees store.tenantId && store.id = storeId && store.tenantId = tenantId &&
      store.deletedAt.isNone) &&
  match kind with
  | .all => true
  | .specific => tables.storeAccess.any fun access =>
    viewer.sees access.tenantId && access.membershipId = membershipId &&
      access.storeId = storeId && access.tenantId = tenantId

/-- `findRoleCodeForUserInTenant(userId, tenantId)`: the first row of the join. -/
def findRoleCodeForUserInTenant (userId tenantId : Uuid) : Option String :=
  ((tables.memberships.filter fun membership =>
      viewer.sees membership.tenantId && membership.userId = userId &&
        membership.tenantId = tenantId && isActive membership).filterMap fun membership =>
    (tables.roles.find? fun role =>
      role.id = membership.roleId && viewer.seesRole role).map Role.code).head?

end Directory

end DataPulse.Access
