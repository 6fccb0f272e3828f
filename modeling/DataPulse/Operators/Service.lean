/-
**Operator sessions at a POS device.**

`PosOperatorsService` signs an operator in at a device, hands a device over to another operator
(`takeoverConfirm`), and signs out. A session is a row of `auth_tokens` with the scope `pos_operator`; a
takeover reserves its event id in `idempotency_keys` and later attaches its session to it. Every statement
runs on the pool, taken to connect as a role that bypasses row-level security, and commits by itself; the
reservation is a transaction of its own, which either inserts the key or goes on to read it, and the attachment
is another.

* `Tables`: the tokens and the keys of takeovers, and what a statement does to them;
* `authorize`: the checks that sign-in and takeover share;
* `runPipeline`, `runTakeoverConfirmPipeline`, `runSignOutPipeline`: the three requests;
* `backend`: the service. Users, devices and memberships are changed by others, so what they hold is a
  function of the server's time.

The refusals' reasons are the ones the service logs; what the client gets does not tell them apart.
-/

import DataPulse.Auth.Identities
import DataPulse.Lib.Autocommit
import DataPulse.Lib.Rows

namespace DataPulse.Operators

open Lib Lib.Prog Platform
open Auth (Digest User Device Identities MembershipRow TokenScope AuthToken
  ELIGIBLE_INTERNAL_ROLES)

/-! ### The tables -/

/-- `auth_tokens`, with the time of the insertion. -/
structure OperatorToken extends AuthToken where
  issuedAt : Int

/-- What a takeover is known by: the unique key of `idempotency_keys` under the client `pos_takeover`. -/
structure EventKey where
  tenantId : Uuid
  storeId : Uuid
  key : String
  deriving DecidableEq

/-- `idempotency_keys` of the client `pos_takeover`; `operatorId` and `sessionId` are its
`response_body`. -/
structure TakeoverKey extends EventKey where
  id : Uuid
  requestHash : Digest
  operatorId : String
  sessionId : Option Uuid
  expiresAt : Int

def OperatorToken.isAt (deviceId storeId : Uuid) (token : OperatorToken) : Bool :=
  token.scope = .posOperator && token.deviceId = some deviceId && token.storeId = some storeId

def OperatorToken.liveAt (deviceId storeId : Uuid) (now : Int) (token : OperatorToken) : Bool :=
  token.isAt deviceId storeId && token.revokedAt.isNone && now < token.expiresAt

/-- The session with this id, if it is the user's and not revoked. -/
def OperatorToken.unrevokedOf (id userId : Uuid) (token : OperatorToken) : Bool :=
  token.id = id && token.userId = some userId && token.revokedAt.isNone

inductive Write where
  | token (row : OperatorToken)
  | superseded (deviceId storeId : Uuid) (time : Int)
  | sessionRevoked (sessionId userId : Uuid) (time : Int)
  | key (row : TakeoverKey)
  | attached (event : EventKey) (sessionId : Uuid)

structure Tables where
  tokens : List OperatorToken
  keys : List TakeoverKey

def Tables.empty : Tables := ⟨[], []⟩

namespace Tables

variable (tables : Tables)

def apply : Write → Tables
  | .token row => { tables with tokens := tables.tokens ++ [row] }
  | .superseded deviceId storeId time =>
    { tables with
      tokens := updateWhere (OperatorToken.liveAt deviceId storeId time)
        ({ · with revokedAt := some time }) tables.tokens }
  | .sessionRevoked sessionId userId time =>
    { tables with
      tokens := updateWhere (OperatorToken.unrevokedOf sessionId userId)
        ({ · with revokedAt := some time }) tables.tokens }
  | .key row => { tables with keys := tables.keys ++ [row] }
  | .attached event sessionId =>
    { tables with
      keys := updateWhere (fun row => row.toEventKey = event)
        ({ · with sessionId := some sessionId }) tables.keys }

def after (writes : List Write) : Tables := writes.foldl apply tables

end Tables

/-! ### Statements -/

/-- What the service calls of others: the Clerk verification of a token, which gives its subject, SHA-256,
and the tables of users, devices and memberships at a time of the server. -/
structure Environment where
  verify : String → Option String
  hashToken : String → Digest
  identities : Int → Identities

/-- What the process draws: `newId()`, `Date.now()` and `generateRawToken()`. -/
structure Drawn where
  id : Uuid
  now : Int
  rawToken : String

inductive Stmt where
  | findUserByClerkSubject (sub : String)
  | findActiveByAttestation (tokenHash : Digest)
  | findActiveMembership (tenantId userId : Uuid)
  | storeIsInAccessSet (membershipId storeId : Uuid)
  | activeOperatorSessionExists (deviceId storeId : Uuid)
  | insertOperatorSession (token : AuthToken)
  | findOperatorSession (sessionId : Uuid)
  | markSessionRevoked (sessionId userId : Uuid)
  | insertTakeoverKey (row : TakeoverKey)
  | findTakeoverKey (event : EventKey)
  | revokeActiveOperatorSession (deviceId storeId : Uuid)
  | updateIdempotencyKeyWithSession (event : EventKey) (sessionId : Uuid)
  | insertAuditEvent (id targetId supersededId : Uuid)

abbrev Reply : Stmt → Type
  | .findUserByClerkSubject _ => Option User
  | .findActiveByAttestation _ => Option Device
  | .findActiveMembership _ _ => Option MembershipRow
  | .storeIsInAccessSet _ _ => Bool
  | .activeOperatorSessionExists _ _ => Bool
  | .insertOperatorSession _ => OperatorToken
  | .findOperatorSession _ => Option OperatorToken
  | .markSessionRevoked _ _ => Bool
  | .insertTakeoverKey _ => Bool
  | .findTakeoverKey _ => Option TakeoverKey
  | .revokeActiveOperatorSession _ _ => Option Uuid
  | .updateIdempotencyKeyWithSession _ _ => Unit
  | .insertAuditEvent _ _ _ => Unit

def findUserByClerkSubject (identities : Identities) (sub : String) : Option User :=
  identities.users.find? fun user => user.clerkUserId = some sub

/-- `findActiveMembership(tenantId, userId)`: whichever row the server returns first. -/
def findActiveMembership (identities : Identities) (tenantId userId : Uuid) : Option MembershipRow :=
  (identities.membershipRows tenantId userId).head?

namespace Tables

variable (tables : Tables)

/-- `INSERT INTO auth_tokens`. -/
def insertToken (identities : Identities) (row : OperatorToken) :
    Except PgError (OperatorToken × List Write) :=
  if tables.tokens.any fun token => token.id = row.id then
    .error ⟨.unique, some "auth_tokens_pkey"⟩
  else if tables.tokens.any fun token => token.tokenHash = row.tokenHash then
    .error ⟨.unique, some "auth_tokens_token_hash_key"⟩
  else if row.userId.any fun userId => identities.users.any fun user => user.id = userId then
    if row.deviceId.any fun deviceId => identities.devices.any fun device => device.id = deviceId then
      .ok (row, [.token row])
    else .error ⟨.foreignKey, some "auth_tokens_device_fk"⟩
  else .error ⟨.foreignKey, some "auth_tokens_user_id_fkey"⟩

/-- `INSERT INTO idempotency_keys … ON CONFLICT (…) DO NOTHING`: whether a row was inserted. -/
def insertKey (row : TakeoverKey) : Except PgError (Bool × List Write) :=
  if tables.keys.any fun key => key.toEventKey = row.toEventKey then .ok (false, [])
  else if tables.keys.any fun key => key.id = row.id then
    .error ⟨.unique, some "idempotency_keys_pkey"⟩
  else .ok (true, [.key row])

def exec (identities : Identities) (now : Int) :
    (statement : Stmt) → Except PgError (Reply statement × List Write)
  | .findUserByClerkSubject sub => .ok (Operators.findUserByClerkSubject identities sub, [])
  | .findActiveByAttestation tokenHash => .ok (identities.findActiveByHash tokenHash, [])
  | .findActiveMembership tenantId userId =>
    .ok (Operators.findActiveMembership identities tenantId userId, [])
  | .storeIsInAccessSet membershipId storeId =>
    .ok (identities.storeIsInAccessSet membershipId storeId, [])
  | .activeOperatorSessionExists deviceId storeId =>
    .ok (tables.tokens.any (OperatorToken.liveAt deviceId storeId now), [])
  | .insertOperatorSession token => tables.insertToken identities ⟨token, now⟩
  | .findOperatorSession sessionId =>
    .ok (tables.tokens.find? fun token => token.id = sessionId, [])
  | .markSessionRevoked sessionId userId =>
    let matched := tables.tokens.any (OperatorToken.unrevokedOf sessionId userId)
    .ok (matched, if matched then [.sessionRevoked sessionId userId now] else [])
  | .insertTakeoverKey row => tables.insertKey row
  | .findTakeoverKey event => .ok (tables.keys.find? fun row => row.toEventKey = event, [])
  | .revokeActiveOperatorSession deviceId storeId =>
    let returned := (tables.tokens.find? (OperatorToken.liveAt deviceId storeId now)).map (·.id)
    .ok (returned, if returned.isSome then [.superseded deviceId storeId now] else [])
  | .updateIdempotencyKeyWithSession event sessionId =>
    let matched := tables.keys.any fun row => row.toEventKey = event
    .ok ((), if matched then [.attached event sessionId] else [])
  | .insertAuditEvent _ _ _ => .ok ((), [])

end Tables

/-! ### The service -/

def OPERATOR_SESSION_TTL_MS : Int := 8 * 60 * 60 * 1000

inductive PosOperatorRole where
  | manager
  | admin
  deriving DecidableEq

def mapInternalRoleToPos (internalCode : String) : Option PosOperatorRole :=
  if internalCode = "owner" ∨ internalCode = "tenant_admin" then some .admin
  else if internalCode = "store_manager" then some .manager
  else none

/-- The reasons of a refusal, of the three requests together. -/
inductive Refusal where
  | clerkJwtInvalid
  | userUnmapped
  | userDisabled
  | deviceInvalid
  | membershipMissing
  | membershipRevoked
  | roleIneligible
  | storeNotInAccessSet
  | operatorIdMismatch
  | eventIdOperatorConflict
  | noActiveSessionToSupersede
  | sessionUnknown
  | sessionUserMismatch
  | sessionScopeMismatch
  | sessionRevoked
  | sessionExpired
  | sessionRevokeRace
  deriving DecidableEq

/-- `PosOperatorSummaryBody`. -/
structure PosOperatorSummary where
  id : String
  userId : Uuid
  displayName : String
  role : PosOperatorRole
  tenantId : Uuid
  branchId : Uuid
  deriving DecidableEq

/-- `PosOperatorSessionSummaryBody`. -/
structure PosOperatorSessionSummary where
  id : Uuid
  issuedAt : Int
  envelope : Option String
  deriving DecidableEq

/-- How a request ends, when it does not throw. -/
inductive Outcome where
  | signedIn (operator : PosOperatorSummary) (session : PosOperatorSessionSummary)
  | takeoverRequired
  | signedOut
  | refused (reason : Refusal)
  deriving DecidableEq

structure PosTakeoverConfirmInput where
  eventId : String
  operatorId : String
  deviceTokenAttestation : String

inductive Call where
  | signIn (rawJwt deviceTokenAttestation : String)
  | takeoverConfirm (rawJwt : String) (body : PosTakeoverConfirmInput)
  | signOut (rawJwt : String) (sessionId : Uuid)

structure Authorized where
  user : User
  device : Device
  role : PosOperatorRole

def Authorized.operator (authorized : Authorized) : PosOperatorSummary where
  id := authorized.user.clerkUserId.getD ""
  userId := authorized.user.id
  displayName := authorized.user.displayName.getD authorized.user.email
  role := authorized.role
  tenantId := authorized.device.tenantId
  branchId := authorized.device.storeId

/-- What `upsertTakeoverIdempotencyKey` tells. -/
inductive KeyCheck where
  | fresh
  | duplicate (sessionId : Uuid)
  | conflict
  deriving DecidableEq

section Service

variable (environment : Environment)

abbrev Client := Prog Stmt Reply Drawn PgError

/-- `deviceRepository.findActiveByAttestation(rawAttestation)`. -/
def findActiveByAttestation (rawAttestation : String) : Client (Option Device) :=
  if rawAttestation = "" then pure none
  else query (Stmt.findActiveByAttestation (environment.hashToken rawAttestation))

/-- Steps 4 and 5: the membership in the device's tenant, its role, and its access to the store. -/
def authorizeAt (user : User) (device : Device) : Client (Except Refusal Authorized) := do
  let membership : Option MembershipRow ← query (Stmt.findActiveMembership device.tenantId user.id)
  match membership with
  | none => pure (.error .membershipMissing)
  | some ⟨membership, roleCode⟩ =>
    if membership.revokedAt.isSome || membership.deletedAt.isSome then
      pure (.error .membershipRevoked)
    else if roleCode ∉ ELIGIBLE_INTERNAL_ROLES then pure (.error .roleIneligible)
    else match mapInternalRoleToPos roleCode with
      | none => pure (.error .roleIneligible)
      | some role =>
        if membership.storeAccessKind = .specific then do
          let ok ← query (Stmt.storeIsInAccessSet membership.id device.storeId)
          if ok then pure (.ok ⟨user, device, role⟩) else pure (.error .storeNotInAccessSet)
        else pure (.ok ⟨user, device, role⟩)

/-- Steps 2 to 5 of a sign-in, and the same of a takeover: user, device, membership and store. -/
def authorize (sub rawAttestation : String) : Client (Except Refusal Authorized) := do
  let userRow : Option User ← query (Stmt.findUserByClerkSubject sub)
  match userRow with
  | none => pure (.error .userUnmapped)
  | some user =>
    if user.deletedAt.isSome then pure (.error .userDisabled)
    else do
      let deviceRow ← findActiveByAttestation environment rawAttestation
      match deviceRow with
      | none => pure (.error .deviceInvalid)
      | some device => authorizeAt user device

/-- The row `issueOperatorSessionRow` inserts. -/
def sessionRow (authorized : Authorized) (drawn : Drawn) : AuthToken where
  id := drawn.id
  tokenHash := environment.hashToken drawn.rawToken
  tenantId := some authorized.device.tenantId
  userId := some authorized.user.id
  deviceId := some authorized.device.id
  storeId := some authorized.device.storeId
  scope := .posOperator
  expiresAt := drawn.now + OPERATOR_SESSION_TTL_MS
  revokedAt := none

def issueOperatorSessionRow (authorized : Authorized) : Client PosOperatorSessionSummary := do
  let drawn ← newId
  let row : OperatorToken ← query (Stmt.insertOperatorSession (sessionRow environment authorized drawn))
  pure ⟨row.id, row.issuedAt, some drawn.rawToken⟩

def runPipeline (rawJwt rawAttestation : String) : Client Outcome :=
  match environment.verify rawJwt with
  | none => pure (.refused .clerkJwtInvalid)
  | some sub => do
      let checked ← authorize environment sub rawAttestation
      match checked with
      | .error reason => pure (.refused reason)
      | .ok authorized => do
          let hasActiveSession ←
            query (Stmt.activeOperatorSessionExists authorized.device.id authorized.device.storeId)
          if hasActiveSession then pure .takeoverRequired
          else do
            let session ← issueOperatorSessionRow environment authorized
            pure (.signedIn authorized.operator session)

def eventKey (device : Device) (eventId : String) : EventKey := ⟨device.tenantId, device.storeId, eventId⟩

/-- The row `upsertTakeoverIdempotencyKey` inserts. -/
def keyRow (event : EventKey) (operatorId : String) (drawn : Drawn) : TakeoverKey where
  toEventKey := event
  id := drawn.id
  requestHash := environment.hashToken operatorId
  operatorId := operatorId
  sessionId := none
  expiresAt := drawn.now + OPERATOR_SESSION_TTL_MS

def checkKey (operatorId : String) : Option TakeoverKey → KeyCheck
  | none => .fresh
  | some existing =>
    if existing.requestHash ≠ environment.hashToken operatorId then .conflict
    else match existing.sessionId with
      | none => .fresh
      | some sessionId => .duplicate sessionId

def upsertTakeoverIdempotencyKey (event : EventKey) (operatorId : String) : Client KeyCheck := do
  let drawn ← newId
  let inserted ← query (Stmt.insertTakeoverKey (keyRow environment event operatorId drawn))
  if inserted then pure .fresh
  else do
    let existing ← query (Stmt.findTakeoverKey event)
    pure (checkKey environment operatorId existing)

def replay (authorized : Authorized) (sessionId : Uuid) : Client Outcome := do
  let session : Option OperatorToken ← query (Stmt.findOperatorSession sessionId)
  match session with
  | none => pure (.refused .noActiveSessionToSupersede)
  | some session => do
      let drawn ← newId
      if session.revokedAt.isSome || session.expiresAt ≤ drawn.now then
        pure (.refused .noActiveSessionToSupersede)
      else pure (.signedIn authorized.operator ⟨session.id, session.issuedAt, none⟩)

def supersede (authorized : Authorized) (event : EventKey) : Client Outcome := do
  let revokedSessionId ←
    query (Stmt.revokeActiveOperatorSession authorized.device.id authorized.device.storeId)
  match revokedSessionId with
  | none => pure (.refused .noActiveSessionToSupersede)
  | some superseded => do
      let session ← issueOperatorSessionRow environment authorized
      let _ ← query (Stmt.updateIdempotencyKeyWithSession event session.id)
      let drawn ← newId
      let _ ← (query (Stmt.insertAuditEvent drawn.id session.id superseded)).rescue fun _ => pure ()
      pure (.signedIn authorized.operator session)

def runTakeoverConfirmPipeline (rawJwt : String) (body : PosTakeoverConfirmInput) : Client Outcome :=
  match environment.verify rawJwt with
  | none => pure (.refused .clerkJwtInvalid)
  | some sub =>
    if sub ≠ body.operatorId then pure (.refused .operatorIdMismatch)
    else do
      let checked ← authorize environment sub body.deviceTokenAttestation
      match checked with
      | .error reason => pure (.refused reason)
      | .ok authorized => do
          let event := eventKey authorized.device body.eventId
          let check ← upsertTakeoverIdempotencyKey environment event body.operatorId
          match check with
          | .conflict => pure (.refused .eventIdOperatorConflict)
          | .duplicate sessionId => replay authorized sessionId
          | .fresh => supersede environment authorized event

def runSignOutPipeline (rawJwt : String) (sessionId : Uuid) : Client Outcome :=
  match environment.verify rawJwt with
  | none => pure (.refused .clerkJwtInvalid)
  | some sub => do
      let userRow : Option User ← query (Stmt.findUserByClerkSubject sub)
      match userRow with
      | none => pure (.refused .userUnmapped)
      | some user =>
        if user.deletedAt.isSome then pure (.refused .userDisabled)
        else do
          let session : Option OperatorToken ← query (Stmt.findOperatorSession sessionId)
          match session with
          | none => pure (.refused .sessionUnknown)
          | some session =>
            if session.userId ≠ some user.id then pure (.refused .sessionUserMismatch)
            else if session.scope ≠ .posOperator then pure (.refused .sessionScopeMismatch)
            else if session.revokedAt.isSome then pure (.refused .sessionRevoked)
            else do
              let drawn ← newId
              if session.expiresAt ≤ drawn.now then pure (.refused .sessionExpired)
              else do
                let revoked ← query (Stmt.markSessionRevoked sessionId user.id)
                if revoked then pure .signedOut else pure (.refused .sessionRevokeRace)

def program : Call → Client Outcome
  | .signIn rawJwt rawAttestation => runPipeline environment rawJwt rawAttestation
  | .takeoverConfirm rawJwt body => runTakeoverConfirmPipeline environment rawJwt body
  | .signOut rawJwt sessionId => runSignOutPipeline environment rawJwt sessionId

def backend : Backend Stmt Reply Drawn PgError PgError Write Call Outcome where
  program := program environment
  exec now writes statement :=
    (Tables.empty.after writes).exec (environment.identities now) now statement
  thrown := id

end Service

end DataPulse.Operators
