/-
**The operator envelope against the bearer path.**

A POS sale used to be authenticated like a sign-in: `OperatorContextResolver.resolve` takes an identity
token and a device attestation and derives user, device, membership and store access. The envelope guard
takes the token of an operator session instead, and `reverify` looks at the rows again for every sale.

* `reverify_resolves_iff`: a reverified envelope is one that resolves exactly when its user is not
  deleted, an active identity link leads to the user, and the device is of the envelope's tenant and
  store. `reverify` looks at none of the three;
* `canActivate_resolves_iff`: so it is of every context the guard publishes.
-/

import DataPulse.Auth.Identities
import DataPulse.Lib.Prog

namespace DataPulse.Auth

open Lib Platform

/-! ### Results -/

inductive ResolveOperatorRefusalReason where
  | clerkJwtInvalid
  | userUnmapped
  | userDisabled
  | deviceInvalid
  | membershipMissing
  | membershipRevoked
  | roleIneligible
  | storeNotInAccessSet
  deriving DecidableEq

/-- `ResolvedContext`, of a token: no platform admin. -/
structure ResolvedContext where
  userId : Uuid
  tenantId : Option Uuid
  storeId : Uuid
  deriving DecidableEq

structure VerifiedSubject where
  providerKey : String
  issuer : String
  subject : String

/-- What `resolve` accepts with. -/
structure ResolvedOperator where
  context : ResolvedContext
  deviceId : Uuid
  deriving DecidableEq

/-- `{ kind: "refused", reason }`, or a result. -/
abbrev Verdict := Except ResolveOperatorRefusalReason

namespace Identities

variable (tables : Identities)

/-- Steps 4 and 5 of `resolve`, which `reverify` shares: the membership in a tenant, its role, and its
access to a store. -/
def eligible (tenantId userId storeId : Uuid) : Verdict Unit :=
  match tables.findActiveMembership tenantId userId with
  | none => .error .membershipMissing
  | some ⟨membership, roleCode⟩ =>
    if membership.revokedAt.isSome || membership.deletedAt.isSome then .error .membershipRevoked
    else if roleCode ∉ ELIGIBLE_INTERNAL_ROLES then .error .roleIneligible
    else if membership.storeAccessKind = .specific ∧
        tables.storeIsInAccessSet membership.id storeId = false then .error .storeNotInAccessSet
    else .ok ()

/-- `resolve(rawJwt, rawAttestation)`: `verify` is the identity provider's verification of a token, and
`hashToken` the hash of an attestation. -/
def resolve (verify : String → Option VerifiedSubject) (hashToken : String → Digest)
    (rawJwt rawAttestation : String) : Verdict ResolvedOperator :=
  match verify rawJwt with
  | none => .error .clerkJwtInvalid
  | some verified =>
    match tables.findUserByExternalIdentity verified.providerKey verified.subject with
    | none => .error .userUnmapped
    | some user =>
      if user.deletedAt.isSome then .error .userDisabled
      else match (if rawAttestation = "" then none
          else tables.findActiveByHash (hashToken rawAttestation)) with
        | none => .error .deviceInvalid
        | some device => do
            tables.eligible device.tenantId user.id device.storeId
            .ok ⟨⟨user.id, some device.tenantId, device.storeId⟩, device.id⟩

def reverify (userId deviceId storeId : Uuid) : Verdict Unit :=
  match tables.findActiveDeviceById deviceId with
  | none => .error .deviceInvalid
  | some device => tables.eligible device.tenantId userId storeId

end Identities

/-! ### The guard -/

def BEARER_AUTH_SCOPES : List TokenScope := [.dashboardApi, .pos, .posOperator, .connector]

inductive Principal where
  | session (sessionId : String) (userId : Uuid)
  | token (tokenId : Uuid) (tenantId userId storeId : Option Uuid) (scope : TokenScope)
  deriving DecidableEq

structure Credentials where
  sessionCookie : Option String
  authorization : Option String

def Credentials.readSessionCookie (request : Credentials) : Option String :=
  (request.sessionCookie.map trim).filter (· ≠ "")

def Credentials.readBearerToken (request : Credentials) : Option String :=
  request.authorization.bind fun header =>
    if (header.toList.take 7).map Char.toLower = "bearer ".toList then
      (some (trim (String.ofList (header.toList.drop 7)))).filter (· ≠ "")
    else none

/-- What a sale guard reads: the tables, the tokens, and the live sessions. -/
structure GuardView where
  tables : Identities
  tokens : List AuthToken
  /-- The user of a live session. -/
  sessions : String → Option Uuid
  /-- `auth_tokens_pkey`. -/
  tokenIds : (tokens.map AuthToken.id).Nodup

namespace GuardView

variable (view : GuardView) (hashToken : String → Digest) (now : Int)

def findActiveByRawToken (rawToken : String) : Option AuthToken :=
  view.tokens.find? fun token =>
    token.tokenHash = hashToken rawToken && token.revokedAt.isNone && now < token.expiresAt

/-- `AuthGuard.canActivate`, or a 401. -/
def authenticate (request : Credentials) : Option Principal :=
  match request.readSessionCookie with
  | some sessionId => (view.sessions sessionId).map (.session sessionId)
  | none => request.readBearerToken.bind fun rawToken =>
    ((view.findActiveByRawToken hashToken now rawToken).filter fun token =>
      token.scope ∈ BEARER_AUTH_SCOPES).map fun token =>
        .token token.id token.tenantId token.userId token.storeId token.scope

def recoverDeviceId (tokenId : Uuid) : Option Uuid :=
  (view.tokens.find? fun token => token.id = tokenId && token.scope = .posOperator).bind
    AuthToken.deviceId

/-- `PosOperatorEnvelopeSaleGuard.canActivate`: the context it publishes, or a 401. -/
def canActivate (request : Credentials) : Option ResolvedContext :=
  match view.authenticate hashToken now request with
  | some (.token tokenId tenantId (some userId) (some storeId) .posOperator) =>
    (view.recoverDeviceId tokenId).bind fun deviceId =>
      match view.tables.reverify userId deviceId storeId with
      | .ok () => some ⟨userId, tenantId, storeId⟩
      | .error _ => none
  | _ => none

end GuardView

/-! ### The envelope -/

/-- What an operator session binds. -/
structure Envelope where
  userId : Uuid
  tenantId : Option Uuid
  storeId : Uuid
  deviceId : Uuid

def AuthToken.Binds (token : AuthToken) (envelope : Envelope) : Prop :=
  token.scope = .posOperator ∧ token.userId = some envelope.userId ∧
    token.tenantId = envelope.tenantId ∧ token.storeId = some envelope.storeId ∧
    token.deviceId = some envelope.deviceId

/-! ### The two paths -/

section Paths

variable (tables : Identities) (envelope : Envelope)
variable {device : Device}
variable {deviceId : Uuid}

def Identities.Attests (hashToken : String → Digest) (rawAttestation : String) (deviceId : Uuid) :
    Prop :=
  rawAttestation ≠ "" ∧
    ∃ device ∈ tables.devices, device.id = deviceId ∧ device.tokenHash = hashToken rawAttestation

/-- **The bearer path accepts the user on the device, with the envelope's tenant and store**: under some
identity, however its token is verified and the attestation of the device is hashed. -/
def Resolves : Prop :=
  ∃ identity : VerifiedSubject, ∀ verify hashToken rawJwt rawAttestation,
    verify rawJwt = some identity → tables.Attests hashToken rawAttestation envelope.deviceId →
    tables.resolve verify hashToken rawJwt rawAttestation =
      .ok ⟨⟨envelope.userId, envelope.tenantId, envelope.storeId⟩, envelope.deviceId⟩

/-- What `reverify` does not look at. -/
structure Current : Prop where
  /-- The user is not deleted. -/
  live : ∃ user ∈ tables.users, user.id = envelope.userId ∧ user.deletedAt = none
  /-- An active link leads to the user, and no other active link of its subject stands before it. -/
  linked : ∃ link, link.userId = envelope.userId ∧ (tables.links.find? fun other =>
    other.providerKey = link.providerKey && other.subject = link.subject && other.active) = some link
  /-- The device is of the envelope's tenant and store. -/
  located : ∃ device ∈ tables.devices, device.id = envelope.deviceId ∧
    some device.tenantId = envelope.tenantId ∧ device.storeId = envelope.storeId

variable {tables envelope}

variable {hashToken : String → Digest}

theorem findActiveByHash_of_attests {rawAttestation : String}
    (found : tables.findActiveDeviceById envelope.deviceId = some device)
    (attests : tables.Attests hashToken rawAttestation envelope.deviceId) :
    tables.findActiveByHash (hashToken rawAttestation) = some device := by
  have named := find?_some found
  simp only [and_eq_true, decide_eq_true_eq] at named
  have inside := mem_of_find?_eq_some found
  obtain ⟨-, other, mem, same, hashed⟩ := attests
  obtain rfl := inj_on_of_nodup_map tables.deviceIds inside mem (named.1.trans same.symm)
  refine find?_unique tables.deviceHashes inside (by simp [hashed, named.2]) ?_
  intro other _ passes
  simp only [and_eq_true, decide_eq_true_eq] at passes
  exact passes.1.trans hashed.symm

theorem reverify_ok {userId storeId : Uuid} (taken : tables.reverify userId deviceId storeId = .ok ()) :
    ∃ device, tables.findActiveDeviceById deviceId = some device ∧
      tables.eligible device.tenantId userId storeId = .ok () := by
  unfold Identities.reverify at taken
  split at taken
  · cases taken
  · rename_i device found
    exact ⟨device, found, taken⟩

theorem findActiveDeviceById_some (active : tables.findActiveDeviceById deviceId = some device) :
    device ∈ tables.devices ∧ device.id = deviceId := by
  have named := find?_some active
  simp only [and_eq_true, decide_eq_true_eq] at named
  exact ⟨mem_of_find?_eq_some active, named.1⟩

theorem current_of_resolves (active : tables.findActiveDeviceById envelope.deviceId = some device)
    (resolves : Resolves tables envelope) : Current tables envelope := by
  obtain ⟨inside, named⟩ := findActiveDeviceById_some active
  obtain ⟨identity, resolves⟩ := resolves
  have attests : tables.Attests (fun _ => device.tokenHash) "a" envelope.deviceId :=
    ⟨by decide, device, inside, named, rfl⟩
  have resolved := resolves (fun _ => some identity) (fun _ => device.tokenHash) "" "a" rfl attests
  simp only [Identities.resolve, findActiveByHash_of_attests active attests] at resolved
  split at resolved
  · cases resolved
  · rename_i user found
    split_ifs at resolved with deleted
    obtain ⟨_, -, resolved⟩ := bind_ok resolved
    simp only [Except.ok.injEq, ResolvedOperator.mk.injEq, ResolvedContext.mk.injEq] at resolved
    obtain ⟨⟨user', tenant, store⟩, same⟩ := resolved
    rw [Identities.findUserByExternalIdentity_eq] at found
    obtain ⟨link, linked, found⟩ := bind_eq_some_iff.1 found
    have owner : user.id = link.userId := by simpa using find?_some found
    have subject := find?_some linked
    simp only [and_eq_true, decide_eq_true_eq] at subject
    refine ⟨⟨user, mem_of_find?_eq_some found, user', by simpa using deleted⟩,
      ⟨link, owner.symm.trans user', ?_⟩, ⟨device, inside, same, tenant, store⟩⟩
    rw [subject.1.1, subject.1.2]
    exact linked

theorem resolves_of_current (active : tables.findActiveDeviceById envelope.deviceId = some device)
    (eligible : tables.eligible device.tenantId envelope.userId envelope.storeId = .ok ())
    (current : Current tables envelope) : Resolves tables envelope := by
  obtain ⟨inside, named⟩ := findActiveDeviceById_some active
  obtain ⟨⟨user, mem, owner, live⟩, ⟨link, leads, linked⟩, other, member', same, tenant, store⟩ := current
  obtain rfl := inj_on_of_nodup_map tables.deviceIds inside member' (named.trans same.symm)
  have found : (tables.users.find? fun user => user.id = link.userId) = some user := by
    refine find?_unique tables.userIds mem (by simp [owner, leads]) fun other _ passes => ?_
    exact (of_decide_eq_true passes).trans (leads.trans owner.symm)
  have resolved : tables.findUserByExternalIdentity link.providerKey link.subject = some user := by
    rw [Identities.findUserByExternalIdentity_eq, linked]
    exact found
  refine ⟨⟨link.providerKey, link.issuer, link.subject⟩, ?_⟩
  intro verify hashToken rawJwt rawAttestation verified attests
  simp only [Identities.resolve, verified, resolved, live, attests.1, if_false,
    findActiveByHash_of_attests active attests, owner, store, eligible, tenant, same]
  rfl

/-- **A reverified envelope resolves exactly when it is current.** -/
theorem reverify_resolves_iff
    (accepted : tables.reverify envelope.userId envelope.deviceId envelope.storeId = .ok ()) :
    Resolves tables envelope ↔ Current tables envelope := by
  obtain ⟨device, active, eligible⟩ := reverify_ok accepted
  exact ⟨current_of_resolves active, resolves_of_current active eligible⟩

variable {view : GuardView} {now : Int} {request : Credentials}

theorem authenticate_token {tokenId : Uuid} {tenantId userId storeId : Option Uuid} {scope : TokenScope}
    (authenticated : view.authenticate hashToken now request =
      some (.token tokenId tenantId userId storeId scope)) :
    ∃ token ∈ view.tokens, token.id = tokenId ∧ token.tenantId = tenantId ∧ token.userId = userId ∧
      token.storeId = storeId ∧ token.scope = scope := by
  unfold GuardView.authenticate at authenticated
  split at authenticated
  · obtain ⟨_, -, same⟩ := map_eq_some_iff.1 authenticated
    cases same
  · obtain ⟨rawToken, -, authenticated⟩ := bind_eq_some_iff.1 authenticated
    obtain ⟨token, passed, same⟩ := map_eq_some_iff.1 authenticated
    cases same
    exact ⟨token, mem_of_find?_eq_some (Option.filter_eq_some_iff.1 passed).1, rfl, rfl, rfl, rfl, rfl⟩

/-- **What the guard publishes is bound by an operator session**, whose envelope is reverified; it resolves
exactly when it is current. -/
theorem canActivate_resolves_iff {context : ResolvedContext}
    (published : view.canActivate hashToken now request = some context) :
    ∃ envelope : Envelope, context = ⟨envelope.userId, envelope.tenantId, envelope.storeId⟩ ∧
      (∃ token ∈ view.tokens, token.Binds envelope) ∧
      view.tables.reverify envelope.userId envelope.deviceId envelope.storeId = .ok () ∧
      (Resolves view.tables envelope ↔ Current view.tables envelope) := by
  unfold GuardView.canActivate at published
  split at published
  · rename_i tokenId tenantId userId storeId authenticated
    obtain ⟨deviceId, recovered, published⟩ := bind_eq_some_iff.1 published
    split at published
    · rename_i accepted
      cases published
      obtain ⟨token, inside, rfl, tenant, user, store, scope⟩ := authenticate_token authenticated
      obtain ⟨other, found, device⟩ := bind_eq_some_iff.1 recovered
      have named := find?_some found
      simp only [and_eq_true, decide_eq_true_eq] at named
      obtain rfl := inj_on_of_nodup_map view.tokenIds (mem_of_find?_eq_some found) inside named.1
      obtain ⟨row, active, eligible⟩ := reverify_ok accepted
      exact ⟨⟨userId, tenantId, storeId, deviceId⟩, rfl, ⟨other, inside, scope, user, tenant, store, device⟩,
        accepted, current_of_resolves active, resolves_of_current active eligible⟩
    · cases published
  · cases published

end Paths

/-! ### Operators the envelope path accepts -/

def sampleIdentities (deletedAt : Option Int) (linkActive : Bool) (storeId : Uuid) : Identities where
  users := [⟨sample 1, "op@example.test", none, some "user_1", deletedAt⟩]
  links := [⟨sample 7, "clerk", "https://clerk.dp2.local", "user_1", sample 1, linkActive⟩]
  devices := [⟨sample 2, sample 0, storeId, [1], none⟩]
  roles := [⟨sample 3, "store_manager"⟩]
  memberships := [⟨sample 4, sample 0, sample 1, sample 3, .all, none, none⟩]
  storeAccess := []
  userIds := by simp
  deviceIds := by simp
  deviceHashes := by simp
  linkUsers := by simp

def sampleEnvelope : Envelope := ⟨sample 1, some (sample 0), sample 5, sample 2⟩

/-- The sample envelope is reverified, and does not resolve. -/
structure Stray (tables : Identities) : Prop where
  reverified : tables.reverify sampleEnvelope.userId sampleEnvelope.deviceId sampleEnvelope.storeId = .ok ()
  unresolved : ¬ Resolves tables sampleEnvelope

/-- **Envelopes that are reverified and do not resolve**: of a deleted user, of a user whose link is
disabled, and of another store than the device's. -/
theorem reverified_unresolved :
    Stray (sampleIdentities (some 1) true (sample 5)) ∧ Stray (sampleIdentities none false (sample 5)) ∧
      Stray (sampleIdentities none true (sample 6)) := by
  refine ⟨⟨by decide +kernel, fun resolves => ?_⟩, ⟨by decide +kernel, fun resolves => ?_⟩,
    ⟨by decide +kernel, fun resolves => ?_⟩⟩
  · obtain ⟨⟨user, mem, -, live⟩, -, -⟩ := current_of_resolves rfl resolves
    obtain rfl := mem_singleton.1 mem
    cases live
  · obtain ⟨-, ⟨link, -, linked⟩, -⟩ := current_of_resolves rfl resolves
    simp [sampleIdentities] at linked
  · obtain ⟨-, -, device, mem, -, -, store⟩ := current_of_resolves rfl resolves
    obtain rfl := mem_singleton.1 mem
    exact absurd store (by decide)

theorem reverify_resolves_sample : Resolves (sampleIdentities none true (sample 5)) sampleEnvelope := by
  refine (reverify_resolves_iff (by decide +kernel)).2 ⟨?_, ?_, ?_⟩
  · exact ⟨_, mem_singleton_self _, rfl, rfl⟩
  · refine ⟨⟨sample 7, "clerk", "https://clerk.dp2.local", "user_1", sample 1, true⟩, rfl, ?_⟩
    decide +kernel
  · exact ⟨_, mem_singleton_self _, rfl, rfl, rfl⟩

end DataPulse.Auth
