/-
**Inviting, accepting, updating and revoking.**

`invite` and `acceptInvitationExistingUser` of `InvitationsService`, `update` and `revoke` of
`MembershipsService`, as client programs over the statements of `Ledger`; and `membershipServer`, all of
them on one server together with whoever else writes to these tables (`change`).

A program is what a method does up to the end of its transaction; the e-mail of an invitation is enqueued
after it. An acceptance reads in two transactions before the one that writes: nothing is written in them and
every statement sees what is committed when it runs, so that the three are one program here, which has its
own `now()` for the last of them.

The guards in front of the routes are not part of the model: the tenant of a call is that of its context.
`newId()` is drawn; the token of an invitation, which `generateRawToken` makes, is part of its call.
-/

import DataPulse.Lib.Logs
import DataPulse.Memberships.Ledger

namespace DataPulse.Memberships

open Lib Lib.Prog Platform
open Auth (Digest Membership StoreAccessKind)
open Access (User StoreAccess)

/-! ### Requests -/

/-- The body of `POST /api/v1/memberships/invite`. -/
structure InvitationBody where
  email : String
  roleCode : String
  storeAccessKind : StoreAccessKind
  storeIds : Option (List String)

def given (storeIds : Option (List String)) : List String := storeIds.getD []

/-- The issues `InvitationCreateSchema` finds in a body whose fields have their types. -/
def InvitationBody.issues (body : InvitationBody) : List (List String × String) :=
  (if body.roleCode = "" then [(["role_code"], "String must contain at least 1 character(s)")] else []) ++
  (((given body.storeIds).filter fun id => !Uuid.isUuid id).map fun _ =>
    (["store_ids"], "each store_id must be a UUID")) ++
  (if body.storeAccessKind = .specific ∧ given body.storeIds = [] then
    [(["store_ids"], "store_ids must be non-empty when store_access_kind is 'specific'")] else []) ++
  (if body.storeAccessKind = .all ∧ given body.storeIds ≠ [] then
    [(["store_ids"], "store_ids must be omitted or empty when store_access_kind is 'all'")] else [])

/-- `InvitationCreateDto`: a body the schema accepts. -/
structure InvitationCreateDto extends InvitationBody where
  accepted : toInvitationBody.issues = []

/-- The body of `PATCH /api/v1/memberships/:membership_id`. -/
structure UpdateBody where
  roleCode : Option String
  storeAccessKind : Option StoreAccessKind
  storeIds : Option (List String)

/-- The issues `MembershipUpdateSchema` finds in a body whose fields have their types. -/
def UpdateBody.issues (body : UpdateBody) : List (List String × String) :=
  (if body.roleCode = some "" then
    [(["role_code"], "String must contain at least 1 character(s)")] else []) ++
  (((given body.storeIds).filter fun id => !Uuid.isUuid id).map fun _ =>
    (["store_ids"], "each store_id must be a UUID")) ++
  (if body.roleCode = none ∧ body.storeAccessKind = none ∧ body.storeIds = none then
    [([], "At least one of role_code, store_access_kind, or store_ids must be provided")]
  else
    (if body.storeAccessKind = some .all ∧ given body.storeIds ≠ [] then
      [(["store_ids"], "store_ids must be omitted or empty when store_access_kind is 'all'")]
    else []) ++
    (if body.storeAccessKind = some .specific ∧ given body.storeIds = [] then
      [(["store_ids"], "store_ids must be non-empty when store_access_kind is 'specific'")]
    else []))

/-- `MembershipUpdateDto`: a body the schema accepts. -/
structure MembershipUpdateDto extends UpdateBody where
  accepted : toUpdateBody.issues = []

/-- The body sends `store_ids` and leaves the kind. -/
def UpdateBody.keepsKind (body : UpdateBody) : Bool :=
  body.storeIds.isSome && body.storeAccessKind.isNone

/-! ### Errors and answers -/

inductive Thrown where
  | pg (error : PgError)
  | unauthorized (message : String)
  | badRequest (message : String)
  | notFound (message : String)
  | conflict (message : String)
  | error (message : String)

abbrev Service := Prog Stmt Reply Uuid Thrown

def clientQuery (statement : Stmt) : Service (Reply statement) := query statement

structure InviteResult where
  row : Invitation
  roleCode : String

/-- The user of a `MembershipDetail`. -/
structure DetailUser where
  id : Uuid
  email : String
  displayName : Option String

structure MembershipDetail where
  membershipId : Uuid
  user : DetailUser
  roleCode : String
  storeAccessKind : StoreAccessKind
  accessibleStoreIds : List Uuid
  revokedAt : Option Int

def PLATFORM_ADMIN_CODE : String := "platform_admin"

def INVITATION_TTL_MS : Int := 7 * 24 * 60 * 60 * 1000

def INVALID_INVITATION_ERROR : String := "Invalid or expired invitation token"

/-- What both services say to the role of the platform. -/
def platformRole : Thrown :=
  .badRequest "platform_admin is a platform-level role and cannot be assigned to a tenant membership"

/-- `Unknown role_code: …`. -/
def unknownRole (code : String) : Thrown := .badRequest ("Unknown role_code: " ++ code)

/-- `store_ids not found in active tenant: …`. -/
def unknownStores (ids : List String) : Thrown :=
  .badRequest ("store_ids not found in active tenant: " ++ ", ".intercalate ids)

/-! ### Invitations -/

def findInvalidStoreIds (tenantId : Uuid) (ids : List String) : Service (List String) :=
  if ids = [] then return []
  else do
    let valid ← clientQuery (.findStores tenantId (ids.filterMap Uuid.ofText))
    return ids.filter fun id => id ∉ (valid : List Uuid).map Uuid.text

/-- The check of the stores of a request, which throws for one that is not the tenant's. -/
def checkStores (tenantId : Uuid) (ids : List String) : Service Unit := do
  let invalid ← findInvalidStoreIds tenantId ids
  if invalid ≠ [] then .fail (unknownStores invalid) else return ()

/-- The check of the role of a request, which throws for one that is not the tenant's. -/
def checkRole (tenantId : Uuid) (code : String) : Service Uuid :=
  if code = PLATFORM_ADMIN_CODE then .fail platformRole
  else do
    let found ← clientQuery (.findRoleId tenantId code)
    match (found : Option Uuid) with
    | none => .fail (unknownRole code)
    | some roleId => return roleId

structure ResolvedContext where
  tenantId : Uuid
  userId : Option Uuid

/-- `invite(ctx, dto)`, steps 3 to 6. -/
def createPending (tenantId invitedByUserId roleId : Uuid) (dto : InvitationBody) (tokenHash : Digest)
    (date : Int) : Service Invitation := do
  let email := toLowerCase (trim dto.email)
  clientQuery (.autoExpireStale tenantId email)
  let hasPending ← clientQuery (.findPendingByEmail tenantId email)
  match (hasPending : Bool) with
  | true => .fail (.conflict "A pending invitation already exists for this email address")
  | false => do
      let id ← newId
      clientQuery (.createInvitation
        { id
          tenantId
          email
          roleId
          storeAccessKind := dto.storeAccessKind
          invitedStoreIds := (distinct (given dto.storeIds)).filterMap Uuid.ofText
          invitedByUserId
          tokenHash
          expiresAt := date + INVITATION_TTL_MS })

/-- `invite(ctx, dto)`, up to the end of its transaction. -/
def invite (ctx : ResolvedContext) (dto : InvitationCreateDto) (tokenHash : Digest) (date : Int) :
    Service InviteResult :=
  match ctx.userId with
  | none => .fail (.unauthorized "Unauthorized")
  | some userId => do
      let roleId ← checkRole ctx.tenantId dto.roleCode
      checkStores ctx.tenantId (given dto.storeIds)
      let row ← createPending ctx.tenantId userId roleId dto.toInvitationBody tokenHash date
      return ⟨row, dto.roleCode⟩

def lookupAndValidateAcceptToken (tokenHash : Digest) (date : Int) : Service Invitation := do
  let row ← clientQuery (.findByTokenHash tokenHash)
  match (row : Option Invitation) with
  | none => .fail (.badRequest INVALID_INVITATION_ERROR)
  | some invitation =>
    if invitation.status ≠ .pending then .fail (.badRequest INVALID_INVITATION_ERROR)
    else if invitation.expiresAt ≤ date then .fail (.badRequest INVALID_INVITATION_ERROR)
    else return invitation

def isUniqueViolation (constraintName : String) : Thrown → Bool
  | .pg error => error.code = .unique && error.constraint = some constraintName
  | _ => false

/-- The `catch` around `createMembership`. -/
def existingMember (err : Thrown) : Service Membership :=
  if isUniqueViolation "memberships_tenant_user_active_uidx" err then
    .fail (.conflict "An active membership already exists for this user in this tenant")
  else .fail err

/-- The rows of `store_access` for stores of a tenant. -/
def accessRows (membershipId tenantId : Uuid) (storeIds : List Uuid) : List StoreAccess :=
  storeIds.map fun storeId => ⟨membershipId, storeId, tenantId⟩

def insertStoreAccessRows (membershipId tenantId : Uuid) (storeIds : List Uuid) : Service Unit :=
  if storeIds = [] then return ()
  else do
    clientQuery (.insertStoreAccess (accessRows membershipId tenantId storeIds))
    return ()

/-- The stores a membership made from the invitation has access to. -/
def Invitation.grantedStores (invitation : Invitation) : List Uuid :=
  if invitation.storeAccessKind = .specific then invitation.invitedStoreIds else []

/-- `acceptInvitationExistingUser(rawToken)`, the transaction that writes. -/
def admitMember (invitation : Invitation) (user : User) (date : Int) : Service MembershipDetail := do
  let accepted ← clientQuery (.markAccepted invitation.id user.id date)
  if Bool.not accepted then .fail (.badRequest INVALID_INVITATION_ERROR)
  else do
    let membershipId ← newId
    let _ ← (clientQuery (.createMembership
      { id := membershipId
        tenantId := invitation.tenantId
        userId := user.id
        roleId := invitation.roleId
        storeAccessKind := invitation.storeAccessKind })).rescue existingMember
    insertStoreAccessRows membershipId invitation.tenantId invitation.grantedStores
    let code ← clientQuery (.getRoleCode invitation.roleId invitation.tenantId)
    match (code : Option String) with
    | none => .fail (.error ("getRoleCode: role " ++ invitation.roleId.text ++ " not found"))
    | some roleCode =>
      return {
        membershipId
        user := ⟨user.id, user.email, user.displayName⟩
        roleCode
        storeAccessKind := invitation.storeAccessKind
        accessibleStoreIds := invitation.grantedStores
        revokedAt := none }

def acceptInvitationExistingUser (tokenHash : Digest) (date : Int) : Service MembershipDetail := do
  let invitation ← lookupAndValidateAcceptToken tokenHash date
  let user ← clientQuery (.findUserByEmail invitation.email)
  match (user : Option User) with
  | none => .fail (.notFound "No account found for this invitation email. Please register first.")
  | some user => admitMember invitation user date

/-! ### Memberships -/

def revoke (tenantId membershipId : Uuid) (date : Int) : Service Unit := do
  let updated ← clientQuery (.revoke membershipId tenantId date)
  if Bool.not updated then .fail (.notFound "Not Found") else return ()

structure UpdateParams where
  roleId : Option Uuid
  storeAccessKind : Option StoreAccessKind
  storeIds : Option (List String)

/-- `update(ctx, membershipId, dto)`, steps 3 to 5: what the stores of the request are checked for, with the
kind of the membership that was read. -/
def checkAccess (tenantId : Uuid) (existing : Membership) (dto : UpdateBody) : Service Unit :=
  if dto.storeIds.isSome ∧ dto.storeAccessKind.isNone ∧ existing.storeAccessKind ≠ .specific then
    .fail (.badRequest ("store_ids can only be updated without store_access_kind when the existing " ++
      "access kind is 'specific'"))
  else if dto.storeAccessKind.getD existing.storeAccessKind = .specific ∧
      (dto.storeAccessKind = some .specific ∨ dto.storeIds.isSome) ∧ given dto.storeIds = [] then
    .fail (.badRequest "store_ids must be non-empty when store_access_kind is 'specific'")
  else if dto.storeAccessKind.getD existing.storeAccessKind = .specific ∧ given dto.storeIds ≠ [] then do
    checkStores tenantId (given dto.storeIds)
    if (distinct (given dto.storeIds)).length ≠ (given dto.storeIds).length then
      .fail (.badRequest "store_ids must not contain duplicates")
    else return ()
  else return ()

/-- The DELETE and the INSERT of the store access of a membership. -/
def replaceAccess (existing : Membership) (storeIds : List Uuid) : Service Unit := do
  clientQuery (.deleteStoreAccess existing.id)
  insertStoreAccessRows existing.id existing.tenantId storeIds

/-- `MembershipsRepository.update(client, existing, params)`, the statements that write. -/
def writeUpdate (existing : Membership) (params : UpdateParams) : Service Unit := do
  clientQuery (.update existing.id params.roleId params.storeAccessKind)
  let storeIds := (given params.storeIds).filterMap Uuid.ofText
  if params.storeAccessKind.isSome then
    replaceAccess existing
      (if params.storeAccessKind.getD existing.storeAccessKind = .specific then storeIds else [])
  else if given params.storeIds ≠ [] then replaceAccess existing storeIds
  else return ()

/-- The stores of the answer, which `all` leaves out. -/
def readGrants (membershipId : Uuid) : StoreAccessKind → Service (List Uuid)
  | .all => return []
  | .specific => do
      let storeIds ← clientQuery (.findGrants membershipId)
      return storeIds

/-- `MembershipsRepository.update(client, existing, params)`, the answer. -/
def readDetail (membershipId : Uuid) : Service MembershipDetail := do
  let detail ← clientQuery (.findDetail membershipId)
  match (detail : Option (String × Membership)) with
  | none => .fail (.error "update: membership vanished after update")
  | some (roleCode, row) => do
      let accessibleStoreIds ← readGrants membershipId row.storeAccessKind
      let user ← clientQuery (.findUser row.userId)
      return {
        membershipId
        user := ⟨row.userId, ((user : Option User).map User.email).getD "",
          (user : Option User).bind User.displayName⟩
        roleCode
        storeAccessKind := row.storeAccessKind
        accessibleStoreIds
        revokedAt := row.revokedAt }

/-- `update(ctx, membershipId, dto)`, step 2. -/
def checkNewRole (tenantId : Uuid) : Option String → Service (Option Uuid)
  | none => return none
  | some code => do
      let roleId ← checkRole tenantId code
      return some roleId

def update (tenantId membershipId : Uuid) (dto : MembershipUpdateDto) : Service MembershipDetail := do
  let existing ← clientQuery (.findActive membershipId tenantId)
  match (existing : Option Membership) with
  | none => .fail (.notFound "Not Found")
  | some existing => do
      let roleId ← checkNewRole tenantId dto.roleCode
      checkAccess tenantId existing dto.toUpdateBody
      writeUpdate existing ⟨roleId, dto.storeAccessKind, dto.storeIds.map distinct⟩
      readDetail existing.id

/-! ### All of them on one server -/

inductive Operation where
  | change (change : Change)
  | invite (ctx : ResolvedContext) (dto : InvitationCreateDto) (rawToken : String)
  | accept (rawToken : String)
  | update (tenantId membershipId : Uuid) (dto : MembershipUpdateDto)
  | revoke (tenantId membershipId : Uuid)

inductive Body where
  | done
  | invited (result : InviteResult)
  | accepted (detail : MembershipDetail)
  | updated (detail : MembershipDetail)

/-- A call, `now()` of its transaction and the clock of its process. -/
structure Call where
  now : Int
  date : Int
  operation : Operation

def Operation.program (hashToken : String → Digest) (date : Int) : Operation → Service Body
  | change edit => (clientQuery (.change edit)).bind fun _ => .done .done
  | invite ctx dto rawToken => (Memberships.invite ctx dto (hashToken rawToken) date).bind fun result =>
    .done (.invited result)
  | accept rawToken => (acceptInvitationExistingUser (hashToken rawToken) date).bind fun detail =>
    .done (.accepted detail)
  | update tenantId membershipId dto => (Memberships.update tenantId membershipId dto).bind fun detail =>
    .done (.updated detail)
  | revoke tenantId membershipId => (Memberships.revoke tenantId membershipId date).bind fun _ =>
    .done .done

def membershipServer (reference : Reference) :
    System Stmt Reply Uuid Thrown PgError Write Call Body where
  program call := call.operation.program reference.hashToken call.date
  exec call writes statement := exec reference call.now writes statement
  thrown := .pg
  refused := .plain .failedTransaction
  clash := clash

abbrev Reachable (reference : Reference) := Interleave.Reachable (membershipServer reference)

abbrev Config := Interleave.Config Stmt Reply Uuid Thrown PgError Write Call Body

abbrev Proc := Interleave.Proc Stmt Reply Uuid Thrown PgError Write Call Body

abbrev Log := List (Interleave.Entry Stmt Reply Uuid PgError Write)

end DataPulse.Memberships
