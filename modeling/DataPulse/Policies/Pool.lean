/-
**Lookups on the plain pool.**

The lookups that run before a tenant is known, on a connection of the shared pool and outside of a tenant
transaction: `AuthTokenRepository`, `DeviceRepository` and `OperatorContextResolver`. The tables they read force
row-level security (migrations 0000, 0001 and 0021), and the role of the pool does not bypass it.

* `lookup_holds_iff`: when a lookup answers what its `WHERE` describes.
-/

import DataPulse.Policies.Settings

namespace DataPulse.Policies.Pool

open Lib Platform

/-! ### Connections -/

/-- The settings of a connection, as `current_setting(name, true)` gives them. -/
structure Connection where
  tenant : Setting
  platformAdmin : Option String

structure TenantContext where
  tenantId : Option Uuid
  isPlatformAdmin : Bool

inductive Use where
  | lookup
  | runWithTenantContext (ctx : TenantContext)

/-- The settings after a use. `set_config(…, true)` lasts for the transaction; then the setting, which the
session has not set, is the empty text. -/
def Connection.next (connection : Connection) : Use → Connection
  | .lookup => connection
  | .runWithTenantContext _ => ⟨.empty, some ""⟩

/-- **A connection after its history.** -/
def Connection.after (history : List Use) : Connection := history.foldl Connection.next ⟨.unset, none⟩

def Fresh (history : List Use) : Prop := ∀ ctx, Use.runWithTenantContext ctx ∉ history

theorem foldl_used (history : List Use) : history.foldl Connection.next ⟨.empty, some ""⟩ =
    ⟨.empty, some ""⟩ := by
  induction history with
  | nil => rfl
  | cons use rest ih => cases use <;> exact ih

theorem after_fresh {history : List Use} (fresh : Fresh history) : Connection.after history =
    ⟨.unset, none⟩ := by
  unfold Connection.after
  induction history with
  | nil => rfl
  | cons use rest ih =>
    cases use with
    | lookup => exact ih fun ctx mem => fresh ctx (mem_cons_of_mem _ mem)
    | runWithTenantContext ctx => exact absurd mem_cons_self (fresh ctx)

theorem after_used {history : List Use} (used : ¬Fresh history) : Connection.after history =
    ⟨.empty, some ""⟩ := by
  unfold Connection.after
  induction history with
  | nil => exact absurd (fun ctx => not_mem_nil) used
  | cons use rest ih =>
    cases use with
    | lookup =>
      refine ih fun fresh => used fun ctx mem => ?_
      rcases mem_cons.1 mem with same | inRest
      · cases same
      · exact fresh ctx inRest
    | runWithTenantContext ctx => exact foldl_used rest

/-! ### Policies -/

inductive Expression where
  /-- `tenant_id IS NULL`. -/
  | tenantIsNull
  /-- `tenant_id IS NOT NULL`. -/
  | tenantIsNotNull
  /-- `tenant_id = current_setting('app.current_tenant', true)::uuid`. -/
  | tenantIs
  /-- `tenant_id = CASE WHEN current_setting('app.current_tenant', true) = '' THEN NULL
  ELSE current_setting('app.current_tenant', true)::uuid END`. -/
  | tenantIsGuarded
  /-- `current_setting('app.is_platform_admin', true) = 'true'`. -/
  | isPlatformAdmin
  deriving DecidableEq

open Expression

/-- What an expression comes to for a row with this `tenant_id`. -/
def value (connection : Connection) (tenantId : Option Uuid) : Expression → Outcome
  | tenantIsNull => .value (some tenantId.isNone)
  | tenantIsNotNull => .value (some tenantId.isSome)
  | tenantIs => connection.tenant.cast tenantId
  | tenantIsGuarded => if connection.tenant = .empty then .value none else connection.tenant.cast tenantId
  | isPlatformAdmin => .value (connection.platformAdmin.map fun text => decide (text = "true"))

/-- The policy of `memberships`, `store_access` and `devices`. -/
def tenant_isolation : Cond Expression := .or (.atom tenantIs) (.atom isPlatformAdmin)

/-- The policy of `roles`. -/
def roles_tenant_isolation : Cond Expression :=
  .or (.or (.atom tenantIsNull) (.atom tenantIs)) (.atom isPlatformAdmin)

/-- The policy of `auth_tokens`. -/
def auth_tokens_tenant_isolation : Cond Expression :=
  .or (.and (.atom tenantIsNotNull) (.atom tenantIs)) (.atom isPlatformAdmin)

/-- The policy of `connector_registration` for `SELECT`. -/
def connector_registration_tenant_read : Cond Expression := .atom tenantIsGuarded

/-- The expressions of a condition that the planner may evaluate. -/
def estimated : Cond Expression → List Expression
  | .atom expression => [expression]
  | .const _ => []
  | .and first second | .or first second => estimated first ++ estimated second
  | .case test yes no => test :: (estimated yes ++ estimated no)

/-- **What the server makes of a scan**: the rows that it wants and the policy lets pass, or an error. -/
inductive Scanned {Row : Type} (connection : Connection) (policy : Cond Expression) (tenantOf : Row →
    Option Uuid)
    (wanted : Row → Bool) (rows : List Row) : Option (List Row) → Prop where
  | rows (truth : Row → Option Bool)
      (evaluated : ∀ row ∈ rows, wanted row = true →
        policy.Evaluates (value connection (tenantOf row)) (.value (truth row))) :
      Scanned connection policy tenantOf wanted rows
        (some (rows.filter fun row => wanted row && truth row = some true))
  /-- The policy raises on a row. -/
  | failed {row : Row} (member : row ∈ rows)
      (raises : policy.Evaluates (value connection (tenantOf row)) .error) :
      Scanned connection policy tenantOf wanted rows none
  /-- The planner evaluates an expression of the policy. -/
  | planned {expression : Expression} {tenantId : Option Uuid} (member : expression ∈ estimated policy)
      (raises : value connection tenantId expression = .error) :
      Scanned connection policy tenantOf wanted rows none

section Scans

variable {Row : Type} {tenantOf : Row → Option Uuid} {wanted : Row → Bool} {rows : List Row}
  {policy : Cond Expression} {reply : Option (List Row)}

theorem fresh_ne_error (tenantId : Option Uuid) (expression : Expression) :
    value ⟨.unset, none⟩ tenantId expression ≠ .error := by
  cases expression <;> simp [value, Setting.cast]

theorem fresh_safe (cond : Cond Expression) (tenantId : Option Uuid) :
    cond.safe (value ⟨.unset, none⟩ tenantId) = true := by
  induction cond with
  | atom expression => exact decide_eq_true (fresh_ne_error tenantId expression)
  | const truth => rfl
  | and first second one two | or first second one two => rw [Cond.safe, one, two, Bool.and_self]
  | case test yes no one two =>
    rw [Cond.safe, one, two, decide_eq_true (fresh_ne_error tenantId test)]
    split <;> rfl

/-- **Before the first tenant transaction** a scan has the one answer that the policy gives. -/
theorem scanned_fresh :
    Scanned ⟨.unset, none⟩ policy tenantOf wanted rows reply ↔
      reply =
      some
      (rows.filter fun row => wanted row && policy.eval (value ⟨.unset, none⟩ (tenantOf row)) =
        some true) := by
  constructor
  · rintro (⟨truth, evaluated⟩ | ⟨mem, raises⟩ | ⟨mem, raises⟩)
    · congr 1
      refine filter_congr fun row mem => ?_
      cases want : wanted row with
      | false => rfl
      | true => rw [(evaluated row mem want).eq_eval _ rfl]
    · exact absurd rfl (Cond.safe_ne_error (fresh_safe policy _) raises)
    · exact absurd raises (fresh_ne_error _ _)
  · rintro rfl
    exact .rows _ fun row _ _ => Cond.safe_evaluates (fresh_safe policy _)

/-- **After it** a scan under a bare cast may fail. -/
theorem scanned_used (bare : tenantIs ∈ estimated policy) :
    Scanned ⟨.empty, some ""⟩ policy tenantOf wanted rows none := by
  have raises : value ⟨.empty, some ""⟩ none tenantIs = .error := rfl
  exact .planned bare raises

end Scans

/-! ### The tables -/

section Lookups

variable {Hash : Type}

/-- A row of `auth_tokens`. -/
structure AuthToken (Hash : Type) where
  id : Uuid
  tokenHash : Hash
  tenantId : Option Uuid
  scope : String
  expiresAt : Nat
  revokedAt : Option Nat
  connectorRegistrationId : Option Uuid

/-- A row of `connector_registration`. -/
structure ConnectorRegistration where
  id : Uuid
  tenantId : Uuid
  environment : String
  disabledAt : Option Nat

/-- A row of `devices`. -/
structure Device (Hash : Type) where
  id : Uuid
  tenantId : Uuid
  tokenHash : Hash
  revokedAt : Option Nat

/-- A row of `roles`. -/
structure Role where
  id : Uuid
  tenantId : Option Uuid
  code : String

/-- A row of `memberships`. -/
structure Membership where
  id : Uuid
  tenantId : Uuid
  userId : Uuid
  roleId : Uuid
  storeAccessKind : String
  revokedAt : Option Nat
  deletedAt : Option Nat

/-- A row of `store_access`. -/
structure StoreAccess where
  membershipId : Uuid
  storeId : Uuid
  tenantId : Uuid

structure Database (Hash : Type) where
  now : Nat
  authTokens : List (AuthToken Hash)
  connectorRegistrations : List ConnectorRegistration
  devices : List (Device Hash)
  roles : List Role
  memberships : List Membership
  storeAccess : List StoreAccess

/-! ### The lookups -/

inductive Lookup where
  | findActiveByRawToken (rawToken : String)
  | findActiveConnectorCredentialByTokenId (tokenId : Uuid)
  | findActiveByAttestation (rawAttestation : String)
  | findActiveMembership (tenantId userId : Uuid)
  | storeIsInAccessSet (membershipId storeId : Uuid)
  | findActiveDeviceById (deviceId : Uuid)

/-- A row that a lookup finds, before its `ORDER BY` and its `LIMIT 1`. -/
inductive Found (Hash : Type) where
  | token (row : AuthToken Hash)
  | credential (registrationId tenantId : Uuid) (environment : String)
  | device (row : Device Hash)
  | membership (row : Membership) (roleCode : String)
  | grant (row : StoreAccess)

variable [DecidableEq Hash] (hashToken : String → Hash)

/-- The token of `findActiveByRawToken`. -/
def activeToken (now : Nat) (tokenHash : Hash) (row : AuthToken Hash) : Bool :=
  row.tokenHash = tokenHash && row.revokedAt.isNone && decide (now < row.expiresAt)

/-- The token of `findActiveConnectorCredentialByTokenId`. -/
def connectorToken (now : Nat) (tokenId : Uuid) (row : AuthToken Hash) : Bool :=
  row.id = tokenId && row.scope = "connector" && row.revokedAt.isNone && decide (now < row.expiresAt)

/-- The device of `findActiveByAttestation`. -/
def attestedDevice (tokenHash : Hash) (row : Device Hash) : Bool :=
  row.tokenHash = tokenHash && row.revokedAt.isNone

/-- The device of `findActiveDeviceById`. -/
def activeDevice (deviceId : Uuid) (row : Device Hash) : Bool :=
  row.id = deviceId && row.revokedAt.isNone

/-- The rows of `findActiveMembership`. -/
def membershipOf (tenantId userId : Uuid) (row : Membership) : Bool :=
  row.tenantId = tenantId && row.userId = userId

/-- The row of `storeIsInAccessSet`. -/
def grantOf (membershipId storeId : Uuid) (row : StoreAccess) : Bool :=
  row.membershipId = membershipId && row.storeId = storeId

/-- `JOIN connector_registration cr ON cr.id = t.connector_registration_id AND cr.tenant_id = t.tenant_id`. -/
def joinRegistrations (tokens : List (AuthToken Hash)) (registrations : List ConnectorRegistration) :
    List (Found Hash) :=
  tokens.flatMap fun token =>
    (registrations.filter fun row =>
      some row.id = token.connectorRegistrationId && some row.tenantId = token.tenantId).map fun row =>
        .credential row.id row.tenantId row.environment

/-- `JOIN roles r ON r.id = m.role_id`. -/
def joinRoles (memberships : List Membership) (roles : List Role) : List (Found Hash) :=
  memberships.flatMap fun membership =>
    (roles.filter fun row => row.id = membership.roleId).map fun row => .membership membership row.code

/-- **The rows that a lookup's `WHERE` describes over the whole tables.** An empty attestation is not looked
up. -/
def described (db : Database Hash) : Lookup → List (Found Hash)
  | .findActiveByRawToken rawToken =>
    (db.authTokens.filter (activeToken db.now (hashToken rawToken))).map .token
  | .findActiveConnectorCredentialByTokenId tokenId =>
    joinRegistrations (db.authTokens.filter (connectorToken db.now tokenId))
      (db.connectorRegistrations.filter fun row => row.disabledAt.isNone)
  | .findActiveByAttestation rawAttestation =>
    if rawAttestation.length = 0 then []
    else (db.devices.filter (attestedDevice (hashToken rawAttestation))).map .device
  | .findActiveMembership tenantId userId =>
    joinRoles (db.memberships.filter (membershipOf tenantId userId)) db.roles
  | .storeIsInAccessSet membershipId storeId =>
    (db.storeAccess.filter (grantOf membershipId storeId)).map .grant
  | .findActiveDeviceById deviceId => (db.devices.filter (activeDevice deviceId)).map .device

/-- **What a lookup answers on a connection**: the rows, or an error. -/
inductive Answers (connection : Connection) (db : Database Hash) : Lookup → Option (List (Found Hash)) →
  Prop where
  | findActiveByRawToken {rawToken : String} {reply : Option (List (AuthToken Hash))}
      (scan : Scanned connection auth_tokens_tenant_isolation AuthToken.tenantId
        (activeToken db.now (hashToken rawToken)) db.authTokens reply) :
      Answers connection db (.findActiveByRawToken rawToken) (reply.map (·.map .token))
  | findActiveConnectorCredentialByTokenId {tokenId : Uuid} {tokens : Option (List (AuthToken Hash))}
      {registrations : Option (List ConnectorRegistration)}
      (scan : Scanned connection auth_tokens_tenant_isolation AuthToken.tenantId
        (connectorToken db.now tokenId) db.authTokens tokens)
      (joined : Scanned connection connector_registration_tenant_read (fun row => some row.tenantId)
        (fun row => row.disabledAt.isNone) db.connectorRegistrations registrations) :
      Answers connection db (.findActiveConnectorCredentialByTokenId tokenId)
        (tokens.bind fun tokens => registrations.map (joinRegistrations tokens))
  | noAttestation {rawAttestation : String} (empty : rawAttestation.length = 0) :
      Answers connection db (.findActiveByAttestation rawAttestation) (some [])
  | findActiveByAttestation {rawAttestation : String} {reply : Option (List (Device Hash))}
      (given : rawAttestation.length ≠ 0)
      (scan : Scanned connection tenant_isolation (fun row => some row.tenantId)
        (attestedDevice (hashToken rawAttestation)) db.devices reply) :
      Answers connection db (.findActiveByAttestation rawAttestation) (reply.map (·.map .device))
  | findActiveMembership {tenantId userId : Uuid} {memberships : Option (List Membership)}
      {roles : Option (List Role)}
      (scan : Scanned connection tenant_isolation (fun row => some row.tenantId) (membershipOf tenantId userId)
        db.memberships memberships)
      (joined : Scanned connection roles_tenant_isolation Role.tenantId (fun _ => true) db.roles roles) :
      Answers connection db (.findActiveMembership tenantId userId)
        (memberships.bind fun memberships => roles.map (joinRoles memberships))
  | storeIsInAccessSet {membershipId storeId : Uuid} {reply : Option (List StoreAccess)}
      (scan : Scanned connection tenant_isolation (fun row => some row.tenantId) (grantOf membershipId storeId)
        db.storeAccess reply) :
      Answers connection db (.storeIsInAccessSet membershipId storeId) (reply.map (·.map .grant))
  | findActiveDeviceById {deviceId : Uuid} {reply : Option (List (Device Hash))}
      (scan : Scanned connection tenant_isolation (fun row => some row.tenantId) (activeDevice deviceId)
        db.devices reply) :
      Answers connection db (.findActiveDeviceById deviceId) (reply.map (·.map .device))

def Unasked (lookup : Lookup) : Prop := ∃ rawAttestation,
  lookup = .findActiveByAttestation rawAttestation ∧ rawAttestation.length = 0

/-- A lookup answers what its `WHERE` describes, and does not fail. -/
def Holds (history : List Use) (db : Database Hash) (lookup : Lookup) : Prop :=
  ∀ answer, Answers hashToken (.after history) db lookup answer → answer = some (described hashToken db lookup)

variable {hashToken} {db : Database Hash} {lookup : Lookup} {answer : Option (List (Found Hash))}

section Policies

variable (tenantId : Option Uuid)

theorem auth_tokens_fresh : auth_tokens_tenant_isolation.eval (value ⟨.unset, none⟩ tenantId) ≠ some true := by
  cases tenantId <;> nofun

end Policies

theorem scanned_none {Row : Type} {tenantOf : Row → Option Uuid} {wanted : Row → Bool} {rows : List Row}
    {policy : Cond Expression} {reply : Option (List Row)}
    (hides : ∀ tenantId, policy.eval (value ⟨.unset, none⟩ tenantId) ≠ some true) :
    Scanned ⟨.unset, none⟩ policy tenantOf wanted rows reply ↔ reply = some [] := by
  rw [scanned_fresh, filter_eq_nil_iff.2 fun row _ => by simp [hides]]

/-- **Before the first tenant transaction** a lookup answers no row. -/
theorem answers_fresh : Answers hashToken ⟨.unset, none⟩ db lookup answer ↔ answer = some [] := by
  have hidden : ∀ tenantId, tenant_isolation.eval (value ⟨.unset, none⟩ tenantId) ≠ some true := fun _ => nofun
  constructor
  · intro answers
    cases answers with
    | findActiveByRawToken scan =>
      rw [(scanned_none auth_tokens_fresh).1 scan]
      rfl
    | findActiveConnectorCredentialByTokenId scan joined =>
      rw [(scanned_none auth_tokens_fresh).1 scan, scanned_fresh.1 joined]
      rfl
    | noAttestation empty => rfl
    | findActiveByAttestation given scan =>
      rw [(scanned_none hidden).1 scan]
      rfl
    | findActiveMembership scan joined =>
      rw [(scanned_none hidden).1 scan, scanned_fresh.1 joined]
      rfl
    | storeIsInAccessSet scan | findActiveDeviceById scan =>
      rw [(scanned_none hidden).1 scan]
      rfl
  · rintro rfl
    cases lookup with
    | findActiveByRawToken rawToken => exact .findActiveByRawToken ((scanned_none auth_tokens_fresh).2 rfl)
    | findActiveConnectorCredentialByTokenId tokenId =>
      exact .findActiveConnectorCredentialByTokenId ((scanned_none auth_tokens_fresh).2 rfl)
        (scanned_fresh.2 rfl)
    | findActiveByAttestation rawAttestation =>
      by_cases empty : rawAttestation.length = 0
      · exact .noAttestation empty
      · exact .findActiveByAttestation empty ((scanned_none hidden).2 rfl)
    | findActiveMembership tenantId userId =>
      exact .findActiveMembership ((scanned_none hidden).2 rfl) (scanned_fresh.2 rfl)
    | storeIsInAccessSet membershipId storeId => exact .storeIsInAccessSet ((scanned_none hidden).2 rfl)
    | findActiveDeviceById deviceId => exact .findActiveDeviceById ((scanned_none hidden).2 rfl)

/-- **After it** a lookup may fail. -/
theorem answers_used (asked : ¬Unasked lookup) : Answers hashToken ⟨.empty, some ""⟩ db lookup none := by
  have plain : tenantIs ∈ estimated tenant_isolation := by decide
  cases lookup with
  | findActiveByRawToken rawToken => exact .findActiveByRawToken (scanned_used (by decide))
  | findActiveConnectorCredentialByTokenId tokenId =>
    exact .findActiveConnectorCredentialByTokenId (scanned_used (by decide))
      (.rows (fun _ => none) fun row _ _ => .atom tenantIsGuarded)
  | findActiveByAttestation rawAttestation =>
    exact .findActiveByAttestation (fun empty => asked ⟨_, rfl, empty⟩) (scanned_used plain)
  | findActiveMembership tenantId userId =>
    exact .findActiveMembership (scanned_used plain) (scanned_used (by decide))
  | storeIsInAccessSet membershipId storeId => exact .storeIsInAccessSet (scanned_used plain)
  | findActiveDeviceById deviceId => exact .findActiveDeviceById (scanned_used plain)

/-- **A lookup answers what its `WHERE` describes where the connection has had no tenant transaction and no
row is described.** -/
theorem lookup_holds_iff (hashToken : String → Hash) (history : List Use) (db : Database Hash)
    (lookup : Lookup) :
    Holds hashToken history db lookup ↔
      Unasked lookup ∨ Fresh history ∧ described hashToken db lookup = [] := by
  by_cases unasked : Unasked lookup
  · refine iff_of_true ?_ (.inl unasked)
    obtain ⟨rawAttestation, rfl, empty⟩ := unasked
    intro answer answers
    rw [described, if_pos empty]
    cases answers with
    | noAttestation => rfl
    | findActiveByAttestation given => exact absurd empty given
  rw [or_iff_right unasked]
  by_cases fresh : Fresh history
  · rw [Holds, after_fresh fresh, and_iff_right fresh]
    constructor
    · intro holds
      exact (Option.some.inj (holds (some []) (answers_fresh.2 rfl))).symm
    · intro none answer answers
      rw [answers_fresh.1 answers, none]
  · refine iff_of_false (fun holds => ?_) fun both => fresh both.1
    rw [Holds, after_used fresh] at holds
    exact nomatch holds none (answers_used unasked)

end Lookups

def sampleToken : AuthToken String where
  id := .sample 1
  tokenHash := "raw"
  tenantId := some (.sample 2)
  scope := "dashboard_api"
  expiresAt := 10
  revokedAt := none
  connectorRegistrationId := none

def sampleTables : Database String := ⟨5, [sampleToken], [], [], [], [], []⟩

/-- **A valid token is not found on a new connection, and its lookup fails on one that a tenant transaction has
used.** -/
theorem validToken_unseen :
    described id sampleTables (.findActiveByRawToken "raw") = [.token sampleToken] ∧
      Answers id (.after []) sampleTables (.findActiveByRawToken "raw") (some []) ∧
      Answers id (.after [.runWithTenantContext ⟨some (.sample 2), false⟩]) sampleTables
      (.findActiveByRawToken "raw") none := by
  refine ⟨rfl, ?_, ?_⟩
  · exact answers_fresh.2 rfl
  · exact answers_used fun ⟨_, same, _⟩ => nomatch same

end DataPulse.Policies.Pool
