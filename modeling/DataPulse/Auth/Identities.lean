/-
**Who an operator is.**

The tables a POS credential is checked against: users and their external identities, devices,
memberships with their roles, and the stores a membership reaches. `Identities` is what they hold at one
moment, with the keys and references the schema enforces as fields; the lookups are the queries of the
services, each of one statement.

Rows stand in the order in which the server returns them where a query does not ask for one. Hashes
are opaque bytes.
-/

import DataPulse.Platform.Values
import Mathlib.Data.List.Nodup
import Mathlib.Data.List.Sort

namespace DataPulse.Auth

open Platform

abbrev Digest := List UInt8

structure User where
  id : Uuid
  email : String
  displayName : Option String
  clerkUserId : Option String
  deletedAt : Option Int
  deriving DecidableEq

/-- `external_identity_links`; `active` is its `status`. -/
structure ExternalIdentityLink where
  id : Uuid
  providerKey : String
  issuer : String
  subject : String
  userId : Uuid
  active : Bool
  deriving DecidableEq

structure Device where
  id : Uuid
  tenantId : Uuid
  storeId : Uuid
  tokenHash : Digest
  revokedAt : Option Int

structure Role where
  id : Uuid
  code : String

inductive StoreAccessKind where
  | all
  | specific
  deriving DecidableEq

structure Membership where
  id : Uuid
  tenantId : Uuid
  userId : Uuid
  roleId : Uuid
  storeAccessKind : StoreAccessKind
  revokedAt : Option Int
  deletedAt : Option Int
  deriving DecidableEq

structure StoreAccess where
  membershipId : Uuid
  storeId : Uuid

/-- `auth_tokens.scope`. -/
inductive TokenScope where
  | dashboardApi
  | pos
  | posOperator
  | connector
  | passwordReset
  | emailVerify
  deriving DecidableEq

structure AuthToken where
  id : Uuid
  tokenHash : Digest
  tenantId : Option Uuid
  userId : Option Uuid
  deviceId : Option Uuid
  storeId : Option Uuid
  scope : TokenScope
  expiresAt : Int
  revokedAt : Option Int

structure Identities where
  users : List User
  links : List ExternalIdentityLink
  devices : List Device
  roles : List Role
  memberships : List Membership
  storeAccess : List StoreAccess
  /-- `users_pkey`. -/
  userIds : (users.map User.id).Nodup
  /-- `devices_pkey`. -/
  deviceIds : (devices.map Device.id).Nodup
  /-- `devices_token_hash_key`. -/
  deviceHashes : (devices.map Device.tokenHash).Nodup
  /-- `external_identity_links_user_id_fkey`. -/
  linkUsers : ∀ link ∈ links, ∃ user ∈ users, user.id = link.userId

theorem find?_unique {Row Key : Type} {key : Row → Key} {rows : List Row} {row : Row} {passes : Row → Bool}
    (keys : (rows.map key).Nodup) (mem : row ∈ rows) (holds : passes row = true)
    (only : ∀ other ∈ rows, passes other = true → key other = key row) : rows.find? passes = some row := by
  cases found : rows.find? passes with
  | none => exact absurd holds (by simpa using find?_eq_none.1 found row mem)
  | some other =>
    have inside := mem_of_find?_eq_some found
    have same := only other inside (find?_some found)
    rw [inj_on_of_nodup_map keys inside mem same]

/-- `MembershipLookupRow`. -/
structure MembershipRow where
  membership : Membership
  roleCode : String

def nullsFirst : Option Int → Option Int → Bool
  | none, _ => true
  | some _, none => false
  | some first, some second => first ≤ second

/-- `ORDER BY m.revoked_at NULLS FIRST, m.deleted_at NULLS FIRST`. -/
def MembershipRow.precedes (first second : MembershipRow) : Bool :=
  if first.membership.revokedAt = second.membership.revokedAt then
    nullsFirst first.membership.deletedAt second.membership.deletedAt
  else nullsFirst first.membership.revokedAt second.membership.revokedAt

def ELIGIBLE_INTERNAL_ROLES : List String := ["owner", "tenant_admin", "store_manager"]

namespace Identities

variable (tables : Identities)

/-- `findActiveByAttestation(rawAttestation)`, of an attestation with this hash. -/
def findActiveByHash (tokenHash : Digest) : Option Device :=
  tables.devices.find? fun device => device.tokenHash = tokenHash && device.revokedAt.isNone

def findActiveDeviceById (deviceId : Uuid) : Option Device :=
  tables.devices.find? fun device => device.id = deviceId && device.revokedAt.isNone

def findUserByExternalIdentity (providerKey subject : String) : Option User :=
  ((tables.links.filter fun link =>
      link.providerKey = providerKey && link.subject = subject && link.active).filterMap fun link =>
    tables.users.find? fun user => user.id = link.userId).head?

theorem findUserByExternalIdentity_eq (providerKey subject : String) :
    tables.findUserByExternalIdentity providerKey subject =
      (tables.links.find? fun link => link.providerKey = providerKey && link.subject =
        subject && link.active).bind fun link => tables.users.find? fun user => user.id = link.userId := by
  unfold findUserByExternalIdentity
  rw [← head?_filter]
  generalize matched : (tables.links.filter fun link =>
    link.providerKey = providerKey && link.subject = subject && link.active) = rows
  cases rows with
  | nil => rfl
  | cons link rest =>
    have inside : link ∈ tables.links := mem_of_mem_filter (by rw [matched]; exact mem_cons_self)
    obtain ⟨user, mem, same⟩ := tables.linkUsers link inside
    have found : (tables.users.find? fun user => user.id = link.userId) = some user :=
      find?_unique tables.userIds mem (by simp [same]) fun other _ passes =>
        (of_decide_eq_true passes).trans same.symm
    simp [found]

/-- The memberships of a user in a tenant, with the codes of their roles. -/
def membershipRows (tenantId userId : Uuid) : List MembershipRow :=
  (tables.memberships.filter fun membership =>
      membership.tenantId = tenantId && membership.userId = userId).filterMap fun membership =>
    (tables.roles.find? fun role => role.id = membership.roleId).map fun role =>
      ⟨membership, role.code⟩

/-- `findActiveMembership(tenantId, userId)` of the resolver. -/
def findActiveMembership (tenantId userId : Uuid) : Option MembershipRow :=
  ((tables.membershipRows tenantId userId).insertionSort fun first second =>
    first.precedes second = true).head?

def storeIsInAccessSet (membershipId storeId : Uuid) : Bool :=
  tables.storeAccess.any fun access =>
    access.membershipId = membershipId && access.storeId = storeId

end Identities

end DataPulse.Auth
