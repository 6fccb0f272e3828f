/-
**Password accounts.**

`AuthService` works on the pool, taken to connect as a role that bypasses row-level security: each of its
statements commits by itself, and between two statements of one request anybody else's may run. A sign-in
reads the user, verifies the password, and inserts its session; a confirmed reset reads the token, updates
the password, revokes the token and sweeps the user's sessions.

The rate limit is the controller's, and audit jobs and metrics are not waited for.
-/

import DataPulse.Auth.Identities
import DataPulse.Lib.Autocommit
import DataPulse.Lib.Rows

namespace DataPulse.Auth

open Lib Lib.Prog Platform

/-! ### The tables -/

/-- `users`, with the columns of a password account. -/
structure Account extends User where
  emailVerifiedAt : Option Int
  passwordHash : Option String
  isPlatformAdmin : Bool
  updatedAt : Int

/-- `sessions`. -/
structure Session where
  id : Uuid
  userId : Uuid
  issuedAt : Int
  lastSeenAt : Int
  absoluteExpiresAt : Int
  revokedAt : Option Int

/-- `revoked_at IS NULL AND absolute_expires_at > now()`. -/
def Session.live (now : Int) (session : Session) : Bool :=
  session.revokedAt.isNone && now < session.absoluteExpiresAt

/-- `revoked_at IS NULL AND expires_at > now()`. -/
def AuthToken.active (now : Int) (token : AuthToken) : Bool :=
  token.revokedAt.isNone && now < token.expiresAt

/-- What the statements insert and update. -/
inductive Write where
  | session (row : Session)
  | touched (sessionId : Uuid) (time : Int)
  | sessionRevoked (sessionId : Uuid) (time : Int)
  | sessionsRevoked (userId : Uuid) (time : Int)
  | token (row : AuthToken)
  | tokenRevoked (tokenId : Uuid) (time : Int)
  | password (userId : Uuid) (passwordHash : String) (time : Int)
  | emailVerified (userId : Uuid) (time : Int)

/-- The tables of the service. -/
structure Accounts where
  users : List Account
  sessions : List Session
  tokens : List AuthToken

namespace Accounts

variable (tables : Accounts)

/-- The session that `touchLastSeen` and `revokeSession` update. -/
def unrevoked (id : Uuid) (session : Session) : Bool := session.id = id && session.revokedAt.isNone

/-- The sessions that `revokeAllSessionsForUser` sweeps. -/
def unrevokedOf (userId : Uuid) (session : Session) : Bool :=
  session.userId = userId && session.revokedAt.isNone

/-- The token that `revoke` updates. -/
def usable (id : Uuid) (token : AuthToken) : Bool := token.id = id && token.revokedAt.isNone

/-- The user of the id, unless soft-deleted. -/
def active (id : Uuid) (user : Account) : Bool := user.id = id && user.deletedAt.isNone

/-- The tables with one write made. -/
def apply : Write → Accounts
  | .session row => { tables with sessions := tables.sessions ++ [row] }
  | .touched id time =>
    { tables with sessions := updateWhere (unrevoked id) ({ · with lastSeenAt := time }) tables.sessions }
  | .sessionRevoked id time =>
    { tables with
      sessions := updateWhere (unrevoked id) ({ · with revokedAt := some time }) tables.sessions }
  | .sessionsRevoked userId time =>
    { tables with
      sessions := updateWhere (unrevokedOf userId) ({ · with revokedAt := some time }) tables.sessions }
  | .token row => { tables with tokens := tables.tokens ++ [row] }
  | .tokenRevoked id time =>
    { tables with tokens := updateWhere (usable id) ({ · with revokedAt := some time }) tables.tokens }
  | .password userId passwordHash time =>
    { tables with
      users := updateWhere (active userId)
        ({ · with passwordHash := some passwordHash, updatedAt := time }) tables.users }
  | .emailVerified userId time =>
    { tables with
      users := updateWhere (active userId)
        ({ · with emailVerifiedAt := some time, updatedAt := time }) tables.users }

/-- The tables with all the writes made, in their order. -/
def after (writes : List Write) : Accounts := writes.foldl apply tables

end Accounts

/-! ### Statements -/

/-- What the service calls of other packages: the server's fold of a `citext`, SHA-256, and argon2 with
its salt. -/
structure Primitives where
  citext : String → String
  hashToken : String → Digest
  argon2Hash : List UInt8 → String → String
  argon2Verify : String → String → Bool

/-- What the process draws: `newId()`, `Date.now()`, the salt of a hash, and `generateRawToken()`. -/
structure Drawn where
  id : Uuid
  now : Int
  salt : List UInt8
  rawToken : String

/-- What the service throws. -/
inductive Thrown where
  | unauthorized (message : String)
  | badRequest (message : String)
  | error (message : String)
  | database (error : PgError)

/-- The statements of the service, and its e-mail jobs. -/
inductive Stmt where
  | findActiveUserByEmail (email : String)
  | findActiveUserById (id : Uuid)
  | createSession (id userId : Uuid) (absoluteExpiresAt : Int)
  | findActiveById (sessionId : Uuid)
  | touchLastSeen (sessionId : Uuid)
  | revokeSession (sessionId : Uuid)
  | revokeAllSessionsForUser (userId : Uuid)
  | issue (token : AuthToken)
  | findActiveByTokenHash (tokenHash : Digest)
  | revoke (tokenId : Uuid)
  | updatePassword (userId : Uuid) (passwordHash : String)
  | stampEmailVerified (userId : Uuid)
  | enqueuePasswordReset (email rawToken : String) (userId : Uuid)
  | enqueueEmailVerification (email rawToken : String) (userId : Uuid)

/-- What each statement returns. -/
abbrev Reply : Stmt → Type
  | .findActiveUserByEmail _ => Option Account
  | .findActiveUserById _ => Option Account
  | .createSession _ _ _ => Session
  | .findActiveById _ => Option Session
  | .touchLastSeen _ => Bool
  | .revokeSession _ => Bool
  | .revokeAllSessionsForUser _ => Unit
  | .issue _ => AuthToken
  | .findActiveByTokenHash _ => Option AuthToken
  | .revoke _ => Bool
  | .updatePassword _ _ => Unit
  | .stampEmailVerified _ => Unit
  | .enqueuePasswordReset _ _ _ => Unit
  | .enqueueEmailVerification _ _ _ => Unit

/-- An `UPDATE` writes if a row matches. -/
def writesIf (matched : Bool) (write : Write) : List Write := if matched then [write] else []

namespace Accounts

variable (primitives : Primitives)

/-- `INSERT INTO sessions`. -/
def insertSession (tables : Accounts) (row : Session) : Except PgError (Session × List Write) :=
  if tables.sessions.any fun session => session.id = row.id then
    .error ⟨.unique, some "sessions_pkey"⟩
  else if tables.users.any fun user => user.id = row.userId then .ok (row, [.session row])
  else .error ⟨.foreignKey, some "sessions_user_id_fkey"⟩

/-- `INSERT INTO auth_tokens`. -/
def insertToken (tables : Accounts) (row : AuthToken) : Except PgError (AuthToken × List Write) :=
  if tables.tokens.any fun token => token.id = row.id then
    .error ⟨.unique, some "auth_tokens_pkey"⟩
  else if tables.tokens.any fun token => token.tokenHash = row.tokenHash then
    .error ⟨.unique, some "auth_tokens_token_hash_key"⟩
  else if row.userId.all fun userId => tables.users.any fun user => user.id = userId then
    .ok (row, [.token row])
  else .error ⟨.foreignKey, some "auth_tokens_user_id_fkey"⟩

/-- What a statement answers and writes. -/
def exec (now : Int) (tables : Accounts) :
    (statement : Stmt) → Except PgError (Reply statement × List Write)
  | .findActiveUserByEmail email =>
    .ok (tables.users.find? fun user =>
      primitives.citext user.email = primitives.citext email && user.deletedAt.isNone, [])
  | .findActiveUserById id => .ok (tables.users.find? (active id), [])
  | .createSession id userId absoluteExpiresAt =>
    tables.insertSession ⟨id, userId, now, now, absoluteExpiresAt, none⟩
  | .findActiveById id =>
    .ok (tables.sessions.find? fun session => session.id = id && session.live now, [])
  | .touchLastSeen id =>
    let matched := tables.sessions.any (unrevoked id)
    .ok (matched, writesIf matched (.touched id now))
  | .revokeSession id =>
    let matched := tables.sessions.any (unrevoked id)
    .ok (matched, writesIf matched (.sessionRevoked id now))
  | .revokeAllSessionsForUser userId =>
    .ok ((), writesIf (tables.sessions.any (unrevokedOf userId)) (.sessionsRevoked userId now))
  | .issue token => tables.insertToken token
  | .findActiveByTokenHash tokenHash =>
    .ok (tables.tokens.find? fun token => token.tokenHash = tokenHash && token.active now, [])
  | .revoke id =>
    let matched := tables.tokens.any (usable id)
    .ok (matched, writesIf matched (.tokenRevoked id now))
  | .updatePassword userId passwordHash =>
    .ok ((), writesIf (tables.users.any (active userId)) (.password userId passwordHash now))
  | .stampEmailVerified userId =>
    .ok ((), writesIf (tables.users.any (active userId)) (.emailVerified userId now))
  | .enqueuePasswordReset _ _ _ => .ok ((), [])
  | .enqueueEmailVerification _ _ _ => .ok ((), [])

end Accounts

/-! ### The service -/

/-- The hash verified against where no user, or no password, is found. -/
def DUMMY_PHC : String :=
  "$argon2id$v=19$m=19456,t=2,p=1$YWJjZGVmZ2hpamtsbW5vcA$YWJjZGVmZ2hpamtsbW5vcHFyc3R1dnd4eXowMTIzNDU"

/-- 24 hours. -/
def SESSION_ABSOLUTE_EXPIRY_MS : Int := 24 * 60 * 60 * 1000
/-- 15 minutes. -/
def PASSWORD_RESET_TTL_MS : Int := 15 * 60 * 1000
/-- 24 hours. -/
def EMAIL_VERIFY_TTL_MS : Int := 24 * 60 * 60 * 1000

/-- What a sign-in returns. -/
structure SignInResult where
  sessionId : Uuid
  userId : Uuid
  absoluteExpiresAt : Int
  email : String
  displayName : Option String
  isPlatformAdmin : Bool

/-- What a refresh of a live session returns. -/
structure RefreshResult where
  sessionId : Uuid
  userId : Uuid
  absoluteExpiresAt : Int

/-- A request to the service. -/
inductive Call where
  | signIn (email password : String)
  | signOut (sessionId : Uuid)
  | refresh (sessionId : Uuid)
  | requestPasswordReset (email : String)
  | confirmPasswordReset (rawToken newPassword : String)
  | requestEmailVerification (userId : Uuid)
  | confirmEmailVerification (rawToken : String)

/-- What a request is answered. -/
inductive Value where
  | signedIn (result : SignInResult)
  | signedOut (revoked : Bool)
  | refreshed (result : Option RefreshResult)
  | done

section Service

variable (primitives : Primitives)

/-- An empty hash or candidate does not verify. -/
def verifyPassword (phcString candidate : String) : Bool :=
  phcString ≠ "" && candidate ≠ "" && primitives.argon2Verify phcString candidate

/-- The argon2 hash under a fresh salt. -/
def hashPassword (plaintext : String) : Prog Stmt Reply Drawn Thrown String :=
  if plaintext = "" then raise (.error "password must be a non-empty string")
  else do
    let drawn ← newId
    pure (primitives.argon2Hash drawn.salt plaintext)

/-- The password is verified before an absent user is refused. -/
def signIn (email password : String) : Prog Stmt Reply Drawn Thrown SignInResult := do
  let userRow : Option Account ← query (Stmt.findActiveUserByEmail email)
  let phc := (userRow.bind Account.passwordHash).getD DUMMY_PHC
  let passwordOk := verifyPassword primitives phc password
  match userRow with
  | none => raise (.unauthorized "Invalid credentials")
  | some user =>
    if user.passwordHash.isNone || !passwordOk then raise (.unauthorized "Invalid credentials")
    else do
      let drawn ← newId
      let absoluteExpiresAt := drawn.now + SESSION_ABSOLUTE_EXPIRY_MS
      let _ ← query (Stmt.createSession drawn.id user.id absoluteExpiresAt)
      pure ⟨drawn.id, user.id, absoluteExpiresAt, user.email, user.displayName, user.isPlatformAdmin⟩

/-- Whether a session was revoked. -/
def signOut (sessionId : Uuid) : Prog Stmt Reply Drawn Thrown Bool := query (Stmt.revokeSession sessionId)

/-- A live session, its `last_seen_at` moved. -/
def refresh (sessionId : Uuid) : Prog Stmt Reply Drawn Thrown (Option RefreshResult) := do
  let session : Option Session ← query (Stmt.findActiveById sessionId)
  match session with
  | none => pure none
  | some session => do
      let _ ← query (Stmt.touchLastSeen sessionId)
      pure (some ⟨session.id, session.userId, session.absoluteExpiresAt⟩)

/-- A token of the user alone, for one scope. -/
def singleUse (drawn : Drawn) (userId : Uuid) (scope : TokenScope) (ttl : Int) : AuthToken where
  id := drawn.id
  tokenHash := primitives.hashToken drawn.rawToken
  tenantId := none
  userId := some userId
  deviceId := none
  storeId := none
  scope := scope
  expiresAt := drawn.now + ttl
  revokedAt := none

/-- The token of a reset, sent by e-mail; an unknown address is answered alike. -/
def requestPasswordReset (email : String) : Prog Stmt Reply Drawn Thrown Unit := do
  let userRow : Option Account ← query (Stmt.findActiveUserByEmail email)
  match userRow with
  | none => pure ()
  | some user => do
      let drawn ← newId
      let _ ← query (Stmt.issue (singleUse primitives drawn user.id .passwordReset PASSWORD_RESET_TTL_MS))
      query (Stmt.enqueuePasswordReset user.email drawn.rawToken user.id)

/-- The token of a verification, sent by e-mail. -/
def requestEmailVerification (userId : Uuid) : Prog Stmt Reply Drawn Thrown Unit := do
  let userRow : Option Account ← query (Stmt.findActiveUserById userId)
  match userRow with
  | none => pure ()
  | some user => do
      let drawn ← newId
      let _ ← query (Stmt.issue (singleUse primitives drawn user.id .emailVerify EMAIL_VERIFY_TTL_MS))
      query (Stmt.enqueueEmailVerification user.email drawn.rawToken user.id)

/-- The live token of the scope, and its user. -/
def redeem (rawToken : String) (scope : TokenScope) :
    Prog Stmt Reply Drawn Thrown (AuthToken × Uuid) := do
  let tokenRow : Option AuthToken ← query (Stmt.findActiveByTokenHash (primitives.hashToken rawToken))
  match tokenRow with
  | none => raise (.badRequest "Invalid or expired token")
  | some token =>
    if token.scope ≠ scope then raise (.badRequest "Invalid or expired token")
    else match token.userId with
      | none => raise (.badRequest "Invalid or expired token")
      | some userId => pure (token, userId)

/-- The password, the token and the sessions, by statements of their own. -/
def confirmPasswordReset (rawToken newPassword : String) : Prog Stmt Reply Drawn Thrown Unit := do
  let (token, userId) ← redeem primitives rawToken .passwordReset
  let newHash ← hashPassword primitives newPassword
  let _ ← query (Stmt.updatePassword userId newHash)
  let _ ← query (Stmt.revoke token.id)
  query (Stmt.revokeAllSessionsForUser userId)

/-- The address is stamped before the token is revoked. -/
def confirmEmailVerification (rawToken : String) : Prog Stmt Reply Drawn Thrown Unit := do
  let (token, userId) ← redeem primitives rawToken .emailVerify
  let _ ← query (Stmt.stampEmailVerified userId)
  let _ ← query (Stmt.revoke token.id)
  pure ()

/-- What each request runs. -/
def program : Call → Prog Stmt Reply Drawn Thrown Value
  | .signIn email password => do pure (.signedIn (← signIn primitives email password))
  | .signOut sessionId => do pure (.signedOut (← signOut sessionId))
  | .refresh sessionId => do pure (.refreshed (← refresh sessionId))
  | .requestPasswordReset email => do
      requestPasswordReset primitives email
      pure .done
  | .confirmPasswordReset rawToken newPassword => do
      confirmPasswordReset primitives rawToken newPassword
      pure .done
  | .requestEmailVerification userId => do
      requestEmailVerification primitives userId
      pure .done
  | .confirmEmailVerification rawToken => do
      confirmEmailVerification primitives rawToken
      pure .done

/-- The service on a database that holds the given accounts. -/
def backend (initial : Accounts) : Backend Stmt Reply Drawn Thrown PgError Write Call Value where
  program := program primitives
  exec now writes statement := Accounts.exec primitives now (initial.after writes) statement
  thrown := .database

end Service

end DataPulse.Auth
