/-
**Invitations, memberships and store access, and the statements sent about them.**

The contents are what was written to the tables, in the order of the commits: rows, and the changes of a
row. A row stands in its table with every change of it applied (`Membership.after`, `Invitation.after`); the
rows of `store_access` are those granted since the last `DELETE` of their membership (`storeAccessOf`).

* An UPDATE holds its row until the commit, and an INSERT keeps others of its keys waiting. One that meets
  an uncommitted change of another row is answered at once, as one that came before it.
* Every query names the tenant of its session, or an id found under it, or runs as a platform admin: the
  policies of the tables hide nothing that it asks for.
* No service sets `memberships.deleted_at`; `Change.remove` stands for whoever does, as it does for users
  and stores.

`email` is a `citext` (`sameEmail`). Times are numbers of milliseconds.
-/

import DataPulse.Access.Directory
import DataPulse.Inventory.Ledger

namespace DataPulse.Memberships

open Lib Platform
open Inventory (require)
open Auth (Digest Membership StoreAccessKind)
open Access (User Store Role StoreAccess isActive)

/-! ### Rows -/

/-- `invitations.status`. -/
inductive InvitationStatus where
  | pending
  | accepted
  | expired
  | revoked
  deriving DecidableEq

structure Invitation where
  id : Uuid
  tenantId : Uuid
  email : String
  roleId : Uuid
  storeAccessKind : StoreAccessKind
  invitedStoreIds : List Uuid
  invitedByUserId : Uuid
  tokenHash : Digest
  status : InvitationStatus
  expiresAt : Int
  acceptedByUserId : Option Uuid
  acceptedAt : Option Int
  deletedAt : Option Int
  deriving DecidableEq

inductive Table where
  | users
  | stores
  | memberships
  deriving DecidableEq

/-- The row a write changes. -/
inductive Target where
  | user (id : Uuid)
  | store (id : Uuid)
  | membership (id : Uuid)
  | invitation (id : Uuid)
  deriving DecidableEq

def Table.row (table : Table) (id : Uuid) : Target :=
  match table with
  | users => .user id
  | stores => .store id
  | memberships => .membership id

/-- What a statement writes: a row, or the change of one; `clear` is the DELETE of the store access of a
membership. -/
inductive Write where
  | user (row : User)
  | store (row : Store)
  | role (row : Role)
  | membership (row : Membership)
  | grant (row : StoreAccess)
  | invitation (row : Invitation)
  | remove (table : Table) (id : Uuid) (time : Int)
  | update (id : Uuid) (roleId : Option Uuid) (kind : Option StoreAccessKind)
  | revoke (id : Uuid) (time : Int)
  | clear (membershipId : Uuid)
  | expire (id : Uuid)
  | accept (id userId : Uuid) (time : Int)

/-! ### Tables -/

/-- `users`, with those removed since. -/
def usersOf (writes : List Write) : List User :=
  writes.filterMap fun | .user row => some row | _ => none

/-- `stores`, with those removed since. -/
def storesOf (writes : List Write) : List Store :=
  writes.filterMap fun | .store row => some row | _ => none

def rolesOf (writes : List Write) : List Role :=
  writes.filterMap fun | .role row => some row | _ => none

/-- The rows inserted into `memberships`. -/
def insertedMemberships (writes : List Write) : List Membership :=
  writes.filterMap fun | .membership row => some row | _ => none

/-- The rows inserted into `invitations`. -/
def insertedInvitations (writes : List Write) : List Invitation :=
  writes.filterMap fun | .invitation row => some row | _ => none

def removed (writes : List Write) (table : Table) (id : Uuid) : Bool :=
  writes.any fun | .remove other row _ => other = table && row = id | _ => false

def Write.changes : Write → Option Target
  | remove table id _ => some (table.row id)
  | update id _ _ => some (.membership id)
  | revoke id _ => some (.membership id)
  | expire id => some (.invitation id)
  | accept id _ _ => some (.invitation id)
  | _ => none

def applyMembership (row : Membership) : Write → Membership
  | .remove .memberships id time => if row.id = id then { row with deletedAt := some time } else row
  | .update id roleId kind =>
    if row.id = id then
      { row with
        roleId := roleId.getD row.roleId
        storeAccessKind := kind.getD row.storeAccessKind }
    else row
  | .revoke id time => if row.id = id then { row with revokedAt := some time } else row
  | _ => row

/-- The inserted membership with every change of it applied. -/
def membershipAfter (writes : List Write) (row : Membership) : Membership :=
  writes.foldl applyMembership row

/-- The invitation after a write; an expiry is the UPDATE of a pending one. -/
def Invitation.apply (row : Invitation) : Write → Invitation
  | .expire id => if row.id = id ∧ row.status = .pending then { row with status := .expired } else row
  | .accept id userId time =>
    if row.id = id then
      { row with
        status := .accepted
        acceptedByUserId := some userId
        acceptedAt := some time }
    else row
  | _ => row

/-- The inserted invitation with every change of it applied. -/
def Invitation.after (writes : List Write) (row : Invitation) : Invitation :=
  writes.foldl Invitation.apply row

def membershipsOf (writes : List Write) : List Membership :=
  (insertedMemberships writes).map (membershipAfter writes)

def invitationsOf (writes : List Write) : List Invitation :=
  (insertedInvitations writes).map (Invitation.after writes)

/-- `store_access` after a write. -/
def applyAccess (rows : List StoreAccess) : Write → List StoreAccess
  | .grant row => rows ++ [row]
  | .clear membershipId => rows.filter fun row => row.membershipId ≠ membershipId
  | _ => rows

def storeAccessOf (writes : List Write) : List StoreAccess := writes.foldl applyAccess []

/-- The rows of a membership in `store_access`. -/
def accessOf (writes : List Write) (membershipId : Uuid) : List StoreAccess :=
  (storeAccessOf writes).filter fun row => row.membershipId = membershipId

/-- Equal keys in `memberships_tenant_user_active_uidx`. -/
def sameMember (first second : Membership) : Bool :=
  first.tenantId = second.tenantId && first.userId = second.userId

def toLowerCase (text : String) : String := String.ofList (text.toList.map Char.toLower)

/-- The comparison of two `citext` values. -/
def sameEmail (first second : String) : Bool := toLowerCase first = toLowerCase second

/-! ### Statements -/

/-- The tables nobody here writes, and `hashToken`. -/
structure Reference where
  tenants : Uuid → Bool
  hashToken : String → Digest

/-- What other services and the bootstrap of a tenant do to these tables. -/
inductive Change where
  | user (row : User)
  | store (row : Store)
  | role (row : Role)
  /-- `INSERT INTO memberships (id, tenant_id, user_id, role_id, store_access_kind) VALUES ($1, $2, $3, $4,
  'all')`. -/
  | bootstrap (id tenantId userId roleId : Uuid)
  | remove (table : Table) (id : Uuid) (time : Int)

/-- The VALUES of an INSERT into `invitations`. -/
structure CreateInvitationParams where
  id : Uuid
  tenantId : Uuid
  email : String
  roleId : Uuid
  storeAccessKind : StoreAccessKind
  invitedStoreIds : List Uuid
  invitedByUserId : Uuid
  tokenHash : Digest
  expiresAt : Int

/-- The VALUES of an INSERT into `memberships`. -/
structure CreateMembershipParams where
  id : Uuid
  tenantId : Uuid
  userId : Uuid
  roleId : Uuid
  storeAccessKind : StoreAccessKind

/-- The statements about invitations and memberships, with the parameters they send. -/
inductive Stmt where
  | change (change : Change)
  /-- `SELECT id FROM roles WHERE tenant_id = $1 AND code = $2 LIMIT 1`. -/
  | findRoleId (tenantId : Uuid) (code : String)
  /-- `SELECT id FROM stores WHERE tenant_id = $1 AND id IN (…) AND deleted_at IS NULL`. -/
  | findStores (tenantId : Uuid) (ids : List Uuid)
  /-- `UPDATE invitations SET status = 'expired', updated_at = $3 WHERE tenant_id = $1 AND email = $2 AND
  status = 'pending' AND expires_at <= now()`. -/
  | autoExpireStale (tenantId : Uuid) (email : String)
  /-- `SELECT id FROM invitations WHERE tenant_id = $1 AND email = $2 AND status = 'pending' AND deleted_at IS
  NULL LIMIT 1`. -/
  | findPendingByEmail (tenantId : Uuid) (email : String)
  /-- `INSERT INTO invitations … RETURNING *`. -/
  | createInvitation (params : CreateInvitationParams)
  /-- `SELECT * FROM invitations WHERE token_hash = $1 LIMIT 1`. -/
  | findByTokenHash (tokenHash : Digest)
  /-- `SELECT * FROM users WHERE email = $1 AND deleted_at IS NULL LIMIT 1`. -/
  | findUserByEmail (email : String)
  /-- `UPDATE invitations SET status = 'accepted', accepted_by_user_id = $2, accepted_at = $3, updated_at =
  $3 WHERE id = $1 AND status = 'pending' AND expires_at > now()`. -/
  | markAccepted (id userId : Uuid) (date : Int)
  /-- `INSERT INTO memberships … RETURNING *`. -/
  | createMembership (params : CreateMembershipParams)
  /-- `INSERT INTO store_access (membership_id, store_id, tenant_id) VALUES …`. -/
  | insertStoreAccess (rows : List StoreAccess)
  /-- `SELECT code FROM roles WHERE id = $1 AND tenant_id = $2 LIMIT 1`. -/
  | getRoleCode (roleId tenantId : Uuid)
  /-- `UPDATE memberships SET revoked_at = $3 WHERE id = $1 AND tenant_id = $2 AND revoked_at IS NULL AND
  deleted_at IS NULL`. -/
  | revoke (id tenantId : Uuid) (date : Int)
  /-- `SELECT id, tenant_id, role_id, store_access_kind FROM memberships WHERE id = $1 AND tenant_id = $2 AND
  revoked_at IS NULL AND deleted_at IS NULL LIMIT 1`. -/
  | findActive (id tenantId : Uuid)
  /-- `UPDATE memberships SET updated_at = $2, role_id = $3, store_access_kind = $4 WHERE id = $1`, without
  the columns that are not to change. -/
  | update (id : Uuid) (roleId : Option Uuid) (kind : Option StoreAccessKind)
  /-- `DELETE FROM store_access WHERE membership_id = $1`. -/
  | deleteStoreAccess (membershipId : Uuid)
  /-- `SELECT r.code, m.user_id, m.revoked_at, m.store_access_kind FROM memberships m JOIN roles r ON r.id =
  m.role_id WHERE m.id = $1 LIMIT 1`. -/
  | findDetail (id : Uuid)
  /-- `SELECT store_id FROM store_access WHERE membership_id = $1`. -/
  | findGrants (membershipId : Uuid)
  /-- `SELECT email, display_name FROM users WHERE id = $1 LIMIT 1`. -/
  | findUser (id : Uuid)

/-- What each statement answers; an UPDATE answers whether it had a row. -/
def Reply : Stmt → Type
  | .findRoleId .. => Option Uuid
  | .findStores .. => List Uuid
  | .findPendingByEmail .. => Bool
  | .createInvitation .. => Invitation
  | .findByTokenHash .. => Option Invitation
  | .findUserByEmail .. => Option User
  | .markAccepted .. => Bool
  | .createMembership .. => Membership
  | .getRoleCode .. => Option String
  | .revoke .. => Bool
  | .findActive .. => Option Membership
  | .findDetail .. => Option (String × Membership)
  | .findGrants .. => List Uuid
  | .findUser .. => Option User
  | _ => Unit

/-! ### The server -/

def CreateInvitationParams.row (params : CreateInvitationParams) : Invitation where
  id := params.id
  tenantId := params.tenantId
  email := params.email
  roleId := params.roleId
  storeAccessKind := params.storeAccessKind
  invitedStoreIds := params.invitedStoreIds
  invitedByUserId := params.invitedByUserId
  tokenHash := params.tokenHash
  status := .pending
  expiresAt := params.expiresAt
  acceptedByUserId := none
  acceptedAt := none
  deletedAt := none

def CreateMembershipParams.row (params : CreateMembershipParams) : Membership where
  id := params.id
  tenantId := params.tenantId
  userId := params.userId
  roleId := params.roleId
  storeAccessKind := params.storeAccessKind
  revokedAt := none
  deletedAt := none

section Server

variable (reference : Reference) (now : Int) (writes : List Write)

/-- The row `findByTokenHash` answers. -/
def invitationOf (tokenHash : Digest) : Option Invitation :=
  (invitationsOf writes).find? fun row => row.tokenHash = tokenHash

/-- The row `findUserByEmail` answers. -/
def userOf (email : String) : Option User :=
  (usersOf writes).find? fun row =>
    sameEmail row.email email && row.deletedAt.isNone && !removed writes .users row.id

def Invitation.pendingFor (tenantId : Uuid) (email : String) (row : Invitation) : Bool :=
  row.tenantId = tenantId && sameEmail row.email email && row.status = .pending

def hasRole (tenantId roleId : Uuid) : Bool :=
  (rolesOf writes).any fun role => role.id = roleId && role.tenantId = some tenantId

def insertInvitation (row : Invitation) : Except PgError (List Write) := do
  require ((insertedInvitations writes).all fun other => other.id ≠ row.id)
    ⟨.unique, some "invitations_pkey"⟩
  require ((insertedInvitations writes).all fun other => other.tokenHash ≠ row.tokenHash)
    ⟨.unique, some "invitations_token_hash_key"⟩
  require (reference.tenants row.tenantId) ⟨.foreignKey, some "invitations_tenant_id_fkey"⟩
  require ((rolesOf writes).any fun role => role.id = row.roleId)
    ⟨.foreignKey, some "invitations_role_id_fkey"⟩
  require ((usersOf writes).any fun user => user.id = row.invitedByUserId)
    ⟨.foreignKey, some "invitations_invited_by_user_id_fkey"⟩
  .ok [.invitation row]

def insertMembership (row : Membership) : Except PgError (List Write) := do
  require ((insertedMemberships writes).all fun other => other.id ≠ row.id)
    ⟨.unique, some "memberships_pkey"⟩
  require ((membershipsOf writes).all fun other => !(other.deletedAt.isNone && sameMember other row))
    ⟨.unique, some "memberships_tenant_user_active_uidx"⟩
  require (reference.tenants row.tenantId) ⟨.foreignKey, some "memberships_tenant_id_fkey"⟩
  require ((usersOf writes).any fun user => user.id = row.userId)
    ⟨.foreignKey, some "memberships_user_id_fkey"⟩
  require (hasRole writes row.tenantId row.roleId) ⟨.foreignKey, some "memberships_role_tenant_fk"⟩
  .ok [.membership row]

/-- The primary key of `store_access`. -/
def accessKey (row : StoreAccess) : Uuid × Uuid := (row.membershipId, row.storeId)

/-- The INSERT of rows of `store_access`. -/
def insertAccess (rows : List StoreAccess) : Except PgError (List Write) := do
  require (decide ((rows.map accessKey).Nodup) &&
      rows.all fun row => (storeAccessOf writes).all fun other => accessKey other ≠ accessKey row)
    ⟨.unique, some "store_access_pkey"⟩
  require (rows.all fun row => (insertedMemberships writes).any fun membership =>
      membership.id = row.membershipId && membership.tenantId = row.tenantId)
    ⟨.foreignKey, some "store_access_membership_fk"⟩
  require (rows.all fun row => (storesOf writes).any fun store =>
      store.id = row.storeId && store.tenantId = row.tenantId)
    ⟨.foreignKey, some "store_access_store_fk"⟩
  .ok (rows.map .grant)

def hasRow (table : Table) (id : Uuid) : Bool :=
  match table with
  | .users => (usersOf writes).any fun row => row.id = id
  | .stores => (storesOf writes).any fun row => row.id = id
  | .memberships => (insertedMemberships writes).any fun row => row.id = id

def insertChange : Change → Except PgError (List Write)
  | .user row => do
      require ((usersOf writes).all fun other => other.id ≠ row.id) ⟨.unique, some "users_pkey"⟩
      require ((usersOf writes).all fun other => !(other.deletedAt.isNone &&
          !removed writes .users other.id && sameEmail other.email row.email))
        ⟨.unique, some "users_email_active_uidx"⟩
      .ok [.user row]
  | .store row => do
      require ((storesOf writes).all fun other => other.id ≠ row.id) ⟨.unique, some "stores_pkey"⟩
      require (reference.tenants row.tenantId) ⟨.foreignKey, some "stores_tenant_id_fkey"⟩
      .ok [.store row]
  | .role row => do
      require ((rolesOf writes).all fun other => other.id ≠ row.id) ⟨.unique, some "roles_pkey"⟩
      require ((rolesOf writes).all fun other => !(other.tenantId = row.tenantId && other.code = row.code))
        ⟨.unique, some "roles_tenant_code_uidx"⟩
      .ok [.role row]
  | .bootstrap id tenantId userId roleId =>
    insertMembership reference writes
      (CreateMembershipParams.row ⟨id, tenantId, userId, roleId, .all⟩)
  | .remove table id time => .ok (if hasRow writes table id then [.remove table id time] else [])

/-- The UPDATE of a membership; a role it sets is one of the membership's tenant. -/
def updateMembership (id : Uuid) (roleId : Option Uuid) (kind : Option StoreAccessKind) :
    Except PgError (List Write) :=
  match (membershipsOf writes).find? fun row => row.id = id with
  | none => .ok []
  | some row => do
      require (roleId.all (hasRole writes row.tenantId)) ⟨.foreignKey, some "memberships_role_tenant_fk"⟩
      .ok [.update id roleId kind]

def exec : (statement : Stmt) → Except PgError (Reply statement × List Write)
  | .change change => (insertChange reference writes change).map fun written => ((), written)
  | .findRoleId tenantId code => .ok (((rolesOf writes).find? fun role =>
    role.tenantId = some tenantId && role.code = code).map Role.id, [])
  | .findStores tenantId ids => .ok (((storesOf writes).filter fun store =>
    store.tenantId = tenantId && decide (store.id ∈ ids) && store.deletedAt.isNone &&
      !removed writes .stores store.id).map Store.id, [])
  | .autoExpireStale tenantId email => .ok ((), ((invitationsOf writes).filter fun row =>
    row.pendingFor tenantId email && decide (row.expiresAt ≤ now)).map fun row => .expire row.id)
  | .findPendingByEmail tenantId email => .ok ((invitationsOf writes).any fun row =>
    row.pendingFor tenantId email && row.deletedAt.isNone, [])
  | .createInvitation params =>
    (insertInvitation reference writes params.row).map fun written => (params.row, written)
  | .findByTokenHash tokenHash => .ok (invitationOf writes tokenHash, [])
  | .findUserByEmail email => .ok (userOf writes email, [])
  | .markAccepted id userId date =>
    if (invitationsOf writes).any fun row =>
        row.id = id && row.status = .pending && decide (now < row.expiresAt) then
      .ok (true, [.accept id userId date])
    else .ok (false, [])
  | .createMembership params =>
    (insertMembership reference writes params.row).map fun written => (params.row, written)
  | .insertStoreAccess rows => (insertAccess writes rows).map fun written => ((), written)
  | .getRoleCode roleId tenantId => .ok (((rolesOf writes).find? fun role =>
    role.id = roleId && role.tenantId = some tenantId).map Role.code, [])
  | .revoke id tenantId date =>
    if (membershipsOf writes).any fun row => row.id = id && row.tenantId = tenantId && isActive row then
      .ok (true, [.revoke id date])
    else .ok (false, [])
  | .findActive id tenantId => .ok ((membershipsOf writes).find? fun row =>
    row.id = id && row.tenantId = tenantId && isActive row, [])
  | .update id roleId kind => (updateMembership writes id roleId kind).map fun written => ((), written)
  | .deleteStoreAccess membershipId => .ok ((), [.clear membershipId])
  | .findDetail id => .ok (((membershipsOf writes).find? fun row => row.id = id).bind fun row =>
    ((rolesOf writes).find? fun role => role.id = row.roleId).map fun role => (role.code, row), [])
  | .findGrants membershipId => .ok ((accessOf writes membershipId).map StoreAccess.storeId, [])
  | .findUser id => .ok ((usersOf writes).find? fun row => row.id = id, [])

end Server

/-- Two writes of which the second waits for the transaction of the first: rows with one key, and changes of
one row. -/
def clash : Write → Write → Bool
  | .user first, .user second => first.id = second.id || sameEmail first.email second.email
  | .store first, .store second => first.id = second.id
  | .role first, .role second =>
    first.id = second.id || (first.tenantId = second.tenantId && first.code = second.code)
  | .membership first, .membership second => first.id = second.id || sameMember first second
  | .grant first, .grant second => accessKey first = accessKey second
  | .invitation first, .invitation second =>
    first.id = second.id || first.tokenHash = second.tokenHash
  | first, second => first.changes.isSome && first.changes = second.changes

end DataPulse.Memberships
