/-
**Connector registrations and their credentials.**

`ConnectorRegistrationService` registers connectors and issues, rotates and revokes their credentials, each
call in a transaction of its own; `ConnectorAuthGuard` accepts a credential that is usable. Calls run side
by side. What a call read first may have changed when it writes; its last write, its audit row and its
`COMMIT` are one step, since nobody sees the write before the `COMMIT` and who needs the same row or key
waits for it.

* `credentials_lawful`: so it holds over every run of such steps; `expired_blocks`: not over every run.
-/

import DataPulse.Auth.Identities
import DataPulse.Lib.Machine
import DataPulse.Lib.Slots

namespace DataPulse.Connectors

open Platform Lib
open Auth (Digest)

/-! ### Rows -/

/-- `connector_registration`. -/
structure Registration where
  id : Uuid
  tenantId : Uuid
  displayName : String
  erpnextSiteRef : String
  environment : String
  createdBy : Uuid
  disabledAt : Option Int
  disabledBy : Option Uuid

/-- `auth_tokens` of the scope `connector`. -/
structure Credential where
  id : Uuid
  tokenHash : Digest
  tenantId : Uuid
  userId : Uuid
  registrationId : Uuid
  expiresAt : Int
  revokedAt : Option Int

/-- `audit_events`, what `insertAudit` writes. -/
structure AuditRow where
  tenantId : Uuid
  actorUserId : Uuid
  action : String
  targetId : Uuid
  metadata : List (String × String)

def DEFAULT_CREDENTIAL_EXPIRY_DAYS : Nat := 90

def CONNECTOR_ENVIRONMENTS : List String := ["dev", "staging", "pilot", "prod"]

/-- `connector_registration_display_name_non_empty` and `connector_registration_environment_valid`. -/
def passesChecks (displayName environment : String) : Bool :=
  (displayName.toList.any fun c => c ≠ ' ') && decide (environment ∈ CONNECTOR_ENVIRONMENTS)

/-! ### Calls -/

inductive Call where
  | register (displayName erpnextSiteRef environment : String)
  | disable (instanceId : Uuid)
  | issue (instanceId : Uuid) (expiresInDays : Option Nat)
  | rotate (instanceId : Uuid) (expiresInDays : Option Nat)
  | revoke (credentialId : Uuid)

/-- What a call ends with. A violation of a check, or of the credentials' unique index, is not handled;
`usable` is a history, whether the registration had a usable credential then. -/
inductive Outcome where
  | ok
  | notFound
  | conflict
  | checkViolation
  | uniqueViolation (usable : Bool)
  deriving DecidableEq

inductive Phase where
  | begun
  /-- It read its row, and goes on to write. -/
  | checked
  /-- The `UPDATE` of `rotate` sees these credentials unrevoked. -/
  | revoking (seen : List Uuid)
  /-- `rotate` has revoked these credentials, and has not committed. -/
  | replacing (revoked : List Uuid)
  | done (outcome : Outcome)
  deriving DecidableEq

structure Running where
  tenantId : Uuid
  actorUserId : Uuid
  call : Call
  phase : Phase

/-- The tables and the calls. `owed` is a history: the audit row of each transition that was committed. -/
structure State where
  registrations : List Registration
  credentials : List Credential
  audits : List AuditRow
  calls : List Running
  owed : List AuditRow

/-- A call arrives, or executes its next statement at some time, with an identifier and a token it may draw. -/
inductive Event where
  | begin (tenantId actorUserId : Uuid) (call : Call)
  | advance (index : Nat) (now : Int) (id : Uuid) (rawToken : String)

/-- The credential is not revoked, of this registration. -/
def Credential.unrevokedOf (registrationId : Uuid) (credential : Credential) : Bool :=
  credential.registrationId = registrationId && credential.revokedAt.isNone

namespace State

variable (hashToken : String → Digest) (state : State) (index : Nat) (running : Running)

def findActiveConnectorCredentialByTokenId (now : Int) (tokenId : Uuid) : Option Registration :=
  (state.credentials.find? fun credential => credential.id = tokenId && credential.revokedAt.isNone &&
      now < credential.expiresAt).bind fun credential =>
    state.registrations.find? fun registration => registration.id = credential.registrationId &&
      registration.tenantId = credential.tenantId && registration.disabledAt.isNone

def goTo (phase : Phase) : State := { state with calls := state.calls.set index { running with phase := phase } }

/-- `SELECT … FROM connector_registration WHERE id = $1`, of the tenant. -/
def registrationOf (instanceId : Uuid) : Option Registration :=
  state.registrations.find? fun row => row.tenantId = running.tenantId && row.id = instanceId

/-- A rotation that has not ended revoked the credential. -/
def held (credentialId : Uuid) : Bool :=
  (state.calls.eraseIdx index).any fun other => match other.phase with
    | .replacing revoked => credentialId ∈ revoked
    | _ => false

/-- `insertAudit(…)`. -/
def audit (action : String) (targetId : Uuid) (metadata : List (String × String)) : AuditRow :=
  ⟨running.tenantId, running.actorUserId, action, targetId, metadata⟩

/-- `issueCredentialRow(…)`, its audit row and the `COMMIT`; `revoked` are the credentials the same
transaction has revoked. -/
def issueCredentialRow (now : Int) (id : Uuid) (rawToken : String) (instanceId : Uuid)
    (expiresInDays : Option Nat)
    (revoked : List Uuid) (action : String) : Option State :=
  let rivals := state.credentials.filter fun credential =>
    credential.unrevokedOf instanceId && !(decide (credential.id ∈ revoked))
  if rivals.any fun credential => state.held index credential.id then none
  else if rivals = [] then
    let row := audit running action instanceId [("credential_id", id.text)]
    some {
      registrations := state.registrations
      credentials := ⟨id, hashToken rawToken, running.tenantId, running.actorUserId, instanceId,
          now + expiresInDays.getD DEFAULT_CREDENTIAL_EXPIRY_DAYS * 86400000, none⟩ ::
        state.credentials.map fun credential =>
          if credential.id ∈ revoked then { credential with revokedAt := some now } else credential
      audits := state.audits ++ [row]
      calls := state.calls.set index { running with phase := .done .ok }
      owed := state.owed ++ [row] }
  else some (state.goTo index running (.done (.uniqueViolation (state.credentials.any fun credential =>
    credential.unrevokedOf instanceId && now < credential.expiresAt))))

/-- The next statement of a call, unless it waits for another transaction or is over. Identifiers and tokens
that are drawn are new. -/
def advance (now : Int) (id : Uuid) (rawToken : String) : Option State :=
  match running.phase, running.call with
  | .begun, .register displayName erpnextSiteRef environment =>
    if !passesChecks displayName environment then some (state.goTo index running (.done .checkViolation))
    else if state.registrations.any fun row => row.tenantId = running.tenantId && row.environment =
        environment &&
        row.erpnextSiteRef = erpnextSiteRef then some (state.goTo index running (.done .conflict))
    else
      let row := audit running "connector.registration.created" id [("environment", environment)]
      some { state.goTo index running (.done .ok) with
        registrations := state.registrations ++ [⟨id, running.tenantId, displayName, erpnextSiteRef, environment,
          running.actorUserId, none, none⟩]
        audits := state.audits ++ [row]
        owed := state.owed ++ [row] }
  | .begun, .disable instanceId => match state.registrationOf running instanceId with
      | none => some (state.goTo index running (.done .notFound))
      | some row => some (state.goTo index running (if row.disabledAt = none then .checked else .done .ok))
  | .begun, .issue instanceId _ | .begun, .rotate instanceId _ =>
      match state.registrationOf running instanceId with
      | none => some (state.goTo index running (.done .notFound))
      | some row => some (state.goTo index running (if row.disabledAt = none then .checked else .done .notFound))
  | .begun, .revoke credentialId =>
    if state.credentials.any fun row => row.tenantId = running.tenantId && row.id = credentialId then
      some (state.goTo index running .checked)
    else some (state.goTo index running (.done .notFound))
  | .checked, .disable instanceId =>
    let enabled (row : Registration) : Bool := row.id = instanceId && row.disabledAt.isNone
    let row := audit running "connector.registration.disabled" instanceId []
    some { state.goTo index running (.done .ok) with
      registrations := state.registrations.map fun registration => if enabled registration then
        { registration with disabledAt := some now, disabledBy := some running.actorUserId } else registration
      audits := state.audits ++ [row]
      owed := if state.registrations.any enabled then state.owed ++ [row] else state.owed }
  | .checked, .issue instanceId expiresInDays =>
    state.issueCredentialRow hashToken index running now id rawToken instanceId expiresInDays []
      "connector.credential.issued"
  | .checked, .rotate instanceId _ =>
    let unrevoked := state.credentials.filter fun credential => credential.unrevokedOf instanceId
    some (state.goTo index running (.revoking (unrevoked.map Credential.id)))
  | .revoking seen, .rotate instanceId _ =>
    -- A credential that arrived since its snapshot is not revoked, nor one that was revoked while it waited.
    let unrevoked := state.credentials.filter fun credential =>
      credential.unrevokedOf instanceId && decide (credential.id ∈ seen)
    if unrevoked.any fun credential => state.held index credential.id then none
    else some (state.goTo index running (.replacing (unrevoked.map Credential.id)))
  | .checked, .revoke credentialId =>
    let unrevoked (row : Credential) : Bool := row.id = credentialId && row.revokedAt.isNone
    if state.held index credentialId then none
    else
      let row := audit running "connector.credential.revoked"
        (((state.credentials.find? fun row => row.id = credentialId).map Credential.registrationId).getD
        credentialId)
        [("credential_id", credentialId.text)]
      some { state.goTo index running (.done .ok) with
        credentials := state.credentials.map fun credential => if unrevoked credential then
          { credential with revokedAt := some now } else credential
        audits := state.audits ++ [row]
        owed := if state.credentials.any unrevoked then state.owed ++ [row] else state.owed }
  | .replacing revoked, .rotate instanceId expiresInDays =>
    state.issueCredentialRow hashToken index running now id rawToken instanceId expiresInDays revoked
      "connector.credential.rotated"
  | _, _ => none

end State

def registry (hashToken : String → Digest) : Machine State Event where
  start := ⟨[], [], [], [], []⟩
  step state
    | .begin tenantId actorUserId call =>
        some { state with calls := state.calls ++ [⟨tenantId, actorUserId, call, .begun⟩] }
    | .advance index now id rawToken => match state.calls[index]? with
        | none => none
        | some running =>
          if state.registrations.any (fun row => row.id = id) || state.credentials.any (fun row =>
              row.id = id || row.tokenHash = hashToken rawToken) then none
          else state.advance hashToken index running now id rawToken

/-! ### The law -/

def Call.isIssue : Call → Bool
  | issue .. => true
  | _ => false

/-- **What holds of registrations and credentials.** -/
structure Lawful (hashToken : String → Digest) (state : State) : Prop where
  /-- A registration has at most one unrevoked credential. -/
  single : ∀ first ∈ state.credentials, ∀ second ∈ state.credentials, first.revokedAt = none →
    second.revokedAt = none → first.registrationId = second.registrationId → first = second
  /-- No credential of a disabled registration is accepted. -/
  refused : ∀ credential ∈ state.credentials, ∀ registration ∈ state.registrations,
    registration.id = credential.registrationId → registration.disabledAt ≠ none →
      ∀ now, state.findActiveConnectorCredentialByTokenId now credential.id = none
  /-- A rotate that fails leaves the old credential as it was. -/
  rotation : ∀ (index : Nat) running instanceId expiresInDays now id rawToken next outcome,
    running.call = .rotate instanceId expiresInDays →
    state.advance hashToken index running now id rawToken = some next →
    next.calls[index]? = some { running with phase := .done outcome } → outcome ≠ .ok →
      next.credentials = state.credentials ∧ next.registrations = state.registrations
  /-- Each committed transition has exactly one audit row. -/
  audited : state.audits = state.owed
  /-- Where a registration had no usable credential, no `issue` failed. -/
  issued : ∀ running ∈ state.calls, running.call.isIssue = true → running.phase ≠ .done (.uniqueViolation false)

/-- The call finds its row as it read it, and no expired credential is left unrevoked where one is issued. -/
def AsRead (state : State) (now : Int) : Call → Prop
  | .issue instanceId _ => ∀ credential ∈ state.credentials, credential.unrevokedOf instanceId = true →
      now < credential.expiresAt
  | .disable instanceId => ∃ row ∈ state.registrations, row.id = instanceId ∧ row.disabledAt = none
  | .revoke credentialId => ∃ row ∈ state.credentials, row.id = credentialId ∧ row.revokedAt = none
  | _ => True

/-- A call that goes on to write finds its row as it read it. -/
def Sound (state : State) : Event → Prop
  | .begin .. => True
  | .advance index now _ _ => ∀ running ∈ state.calls[index]?, running.phase = .checked →
      AsRead state now running.call

/-! ### One statement -/

/-- What every state keeps. -/
structure Kept (state : State) : Prop where
  single : ∀ first ∈ state.credentials, ∀ second ∈ state.credentials, first.revokedAt = none →
    second.revokedAt = none → first.registrationId = second.registrationId → first = second
  registrationIds : (state.registrations.map Registration.id).Nodup
  credentialIds : (state.credentials.map Credential.id).Nodup
  audited : state.audits = state.owed
  issued : ∀ running ∈ state.calls, running.call.isIssue = true → running.phase ≠ .done (.uniqueViolation false)

variable {rawToken : String} {now : Int} {id : Uuid}

section Steps

variable {hashToken : String → Digest} {state next : State} {index : Nat} {running : Running}
variable {phase : Phase}
variable {expiresInDays : Option Nat} {instanceId : Uuid}

theorem issued_set
    (issued : ∀ running ∈ state.calls, running.call.isIssue = true →
        running.phase ≠ .done (.uniqueViolation false))
    (goal : running.call.isIssue = true → phase ≠ .done (.uniqueViolation false)) :
    ∀ other ∈ state.calls.set index { running with phase := phase }, other.call.isIssue = true →
      other.phase ≠ .done (.uniqueViolation false) := by
  intro other mem isIssue
  rcases mem_or_eq_of_mem_set mem with before | rfl
  · exact issued other before isIssue
  · exact goal isIssue

theorem Kept.goTo (kept : Kept state)
    (goal : running.call.isIssue = true → phase ≠ .done (.uniqueViolation false)) :
    Kept (state.goTo index running phase) :=
  ⟨kept.single, kept.registrationIds, kept.credentialIds, kept.audited, issued_set kept.issued goal⟩

theorem Kept.goTo_other (kept : Kept state) (other : running.call.isIssue = false) :
    Kept (state.goTo index running phase) :=
  kept.goTo fun isIssue => by
    rw [other] at isIssue
    cases isIssue

theorem ids_map {Row : Type} {rows : List Row} {key : Row → Uuid} {change : Row → Row}
    (same : ∀ row, key (change row) = key row) (ids : (rows.map key).Nodup) :
    ((rows.map change).map key).Nodup := by
  rw [map_map]
  exact (map_congr_left fun row _ => (same row).symm) ▸ ids

theorem unrevoked_of_map {credentials : List Credential} {revokes : Credential → Bool} {now : Int}
    {row : Credential}
    (mem : row ∈
        credentials.map fun credential => if revokes credential = true then
        { credential with revokedAt := some now } else credential) (unrevoked : row.revokedAt = none) :
    row ∈ credentials ∧ revokes row = false := by
  obtain ⟨old, there, rfl⟩ := mem_map.1 mem
  split at unrevoked
  · cases unrevoked
  · rename_i spared
    rw [if_neg spared]
    exact ⟨there, Bool.eq_false_iff.2 spared⟩

/-- **Issuing a credential**, alone or in a rotation that has revoked some. -/
theorem issueCredentialRow_kept (kept : Kept state) {revoked : List Uuid} {action : String}
    (fresh : ∀ credential ∈ state.credentials, credential.id ≠ id)
    (usable : running.call.isIssue = true →
        revoked = [] ∧
        ∀ credential ∈ state.credentials, credential.unrevokedOf instanceId = true →
        now < credential.expiresAt)
    (step : state.issueCredentialRow hashToken index running now id rawToken instanceId expiresInDays revoked
      action = some next) : Kept next := by
  unfold State.issueCredentialRow at step
  dsimp only at step
  split at step
  · cases step
  split at step
  · rename_i free
    cases step
    have rivalless : ∀ credential ∈ state.credentials, credential.revokedAt = none → credential.id ∉ revoked →
        credential.registrationId ≠ instanceId := by
      intro credential there unrevoked spared same
      refine filter_eq_nil_iff.1 free credential there ?_
      simp [Credential.unrevokedOf, unrevoked, spared, same]
    have old : ∀ row ∈ state.credentials.map (fun credential =>
        if credential.id ∈ revoked then { credential with revokedAt := some now } else credential),
        row.revokedAt = none → row ∈ state.credentials ∧ row.id ∉ revoked := by
      intro row mem unrevoked
      obtain ⟨there, spared⟩ := @unrevoked_of_map _ (fun credential => decide (credential.id ∈ revoked)) now _
        (by simpa using mem) unrevoked
      exact ⟨there, of_decide_eq_false spared⟩
    refine ⟨fun first mem second member' unrevoked unrevoked' same => ?_, kept.registrationIds, ?_, ?_,
      issued_set kept.issued fun _ other => by cases other⟩
    · rcases mem_cons.1 mem with rfl | before
      · rcases mem_cons.1 member' with rfl | before'
        · rfl
        · obtain ⟨there, spared⟩ := old second before' unrevoked'
          exact absurd same.symm (rivalless second there unrevoked' spared)
      · obtain ⟨there, spared⟩ := old first before unrevoked
        rcases mem_cons.1 member' with rfl | before'
        · exact absurd same (rivalless first there unrevoked spared)
        · exact kept.single first there second (old second before' unrevoked').1 unrevoked unrevoked' same
    · rw [map_cons, nodup_cons]
      refine ⟨fun mem => ?_, ids_map (fun row => by split <;> rfl) kept.credentialIds⟩
      obtain ⟨row, there, same⟩ := mem_map.1 mem
      obtain ⟨before, inside, rfl⟩ := mem_map.1 there
      refine fresh before inside ?_
      split at same <;> exact same
    · rw [kept.audited]
  · rename_i rivals
    cases step
    refine kept.goTo fun isIssue refused => ?_
    obtain ⟨rfl, current⟩ := usable isIssue
    obtain ⟨rival, there⟩ := exists_mem_of_ne_nil _ rivals
    have passes := (mem_filter.1 there).2
    simp only [and_eq_true] at passes
    have found : (state.credentials.any fun credential =>
        credential.unrevokedOf instanceId && decide (now < credential.expiresAt)) = true :=
      List.any_eq_true.2 ⟨rival, (mem_filter.1 there).1, by
        simp [passes.1, current rival (mem_filter.1 there).1 passes.1]⟩
    rw [found] at refused
    cases refused

section Writes

variable {tenantId actor : Uuid}

theorem register_kept (kept : Kept state) {displayName erpnextSiteRef environment : String}
    (fresh : ∀ row ∈ state.registrations, row.id ≠ id)
    (step : state.advance hashToken index
      ⟨tenantId, actor, .register displayName erpnextSiteRef environment, .begun⟩ now id rawToken =
      some next) : Kept next := by
  dsimp only [State.advance] at step
  split at step
  · cases step
    exact kept.goTo_other rfl
  split at step
  · cases step
    exact kept.goTo_other rfl
  · cases step
    refine ⟨kept.single, ?_, kept.credentialIds, ?_, issued_set kept.issued fun isIssue => by cases isIssue⟩
    · show ((state.registrations ++ [_]).map Registration.id).Nodup
      rw [map_append, nodup_append]
      refine ⟨kept.registrationIds, nodup_singleton _, fun old there new arrived same => ?_⟩
      obtain ⟨row, inside, rfl⟩ := mem_map.1 there
      exact fresh row inside (same.trans (mem_singleton.1 arrived))
    · show state.audits ++ _ = state.owed ++ _
      rw [kept.audited]

theorem disable_kept (kept : Kept state) {instanceId : Uuid} (asRead : AsRead state now (.disable instanceId))
    (step : state.advance hashToken index ⟨tenantId, actor, .disable instanceId, .checked⟩ now id rawToken =
      some next) : Kept next := by
  obtain ⟨row, there, same, enabled⟩ := asRead
  dsimp only [State.advance] at step
  rw [if_pos (List.any_eq_true.2 ⟨row, there, by simp [same, enabled]⟩)] at step
  cases step
  refine ⟨kept.single, ids_map (fun row => by split <;> rfl) kept.registrationIds, kept.credentialIds, ?_,
    issued_set kept.issued fun isIssue => by cases isIssue⟩
  show state.audits ++ _ = state.owed ++ _
  rw [kept.audited]

theorem revoke_kept (kept : Kept state) {credentialId : Uuid}
    (asRead : AsRead state now (.revoke credentialId))
    (step : state.advance hashToken index ⟨tenantId, actor, .revoke credentialId, .checked⟩ now id rawToken =
      some next) : Kept next := by
  obtain ⟨row, there, same, unrevoked⟩ := asRead
  dsimp only [State.advance] at step
  split at step
  · cases step
  rw [if_pos (List.any_eq_true.2 ⟨row, there, by simp [same, unrevoked]⟩)] at step
  cases step
  refine ⟨fun first mem second member' unrevoked unrevoked' same => ?_, kept.registrationIds,
    ids_map (fun row => by split <;> rfl) kept.credentialIds, ?_,
    issued_set kept.issued fun isIssue => by cases isIssue⟩
  · exact kept.single first (unrevoked_of_map mem unrevoked).1 second (unrevoked_of_map member' unrevoked').1
      unrevoked unrevoked' same
  · show state.audits ++ _ = state.owed ++ _
    rw [kept.audited]

/-- **A statement keeps them.** -/
theorem advance_kept (kept : Kept state) (here : state.calls[index]? = some running)
    (sound : Sound state (.advance index now id rawToken))
    (freshRegistration : ∀ row ∈ state.registrations, row.id ≠ id)
    (freshCredential : ∀ row ∈ state.credentials, row.id ≠ id)
    (step : state.advance hashToken index running now id rawToken = some next) : Kept next := by
  rcases running with ⟨tenantId, actor, call, phase⟩
  cases phase with
  | begun =>
    cases call with
    | register displayName erpnextSiteRef environment => exact register_kept kept freshRegistration step
    | issue instanceId expiresInDays =>
      dsimp only [State.advance] at step
      split at step
      · cases step
        exact kept.goTo fun _ other => by cases other
      · cases step
        refine kept.goTo fun _ other => ?_
        split at other <;> cases other
    | disable instanceId | rotate instanceId expiresInDays | revoke credentialId =>
      dsimp only [State.advance] at step
      split at step <;> cases step <;> exact kept.goTo_other rfl
  | checked =>
    have asRead := sound _ here rfl
    cases call with
    | register displayName erpnextSiteRef environment => cases step
    | disable instanceId => exact disable_kept kept asRead step
    | issue instanceId expiresInDays =>
      exact issueCredentialRow_kept kept freshCredential (fun _ => ⟨rfl, asRead⟩) step
    | rotate instanceId expiresInDays =>
      cases step
      exact kept.goTo_other rfl
    | revoke credentialId => exact revoke_kept kept asRead step
  | revoking seen =>
    cases call with
    | rotate instanceId expiresInDays =>
      dsimp only [State.advance] at step
      split at step
      · cases step
      · cases step
        exact kept.goTo_other rfl
    | _ => cases step
  | replacing revoked =>
    cases call with
    | rotate instanceId expiresInDays =>
      exact issueCredentialRow_kept kept freshCredential (fun isIssue => by cases isIssue) step
    | _ => cases step
  | done outcome => cases call <;> cases step

end Writes

theorem rotate_failed {outcome : Outcome} (rotates : running.call = .rotate instanceId expiresInDays)
    (step : state.advance hashToken index running now id rawToken = some next)
    (ended : next.calls[index]? = some { running with phase := .done outcome }) (failed : outcome ≠ .ok) :
    next.credentials = state.credentials ∧ next.registrations = state.registrations := by
  rcases running with ⟨tenantId, actor, call, phase⟩
  cases rotates
  cases phase with
  | begun =>
    dsimp only [State.advance] at step
    split at step <;> cases step <;> exact ⟨rfl, rfl⟩
  | checked =>
    cases step
    exact ⟨rfl, rfl⟩
  | revoking seen =>
    dsimp only [State.advance] at step
    split at step
    · cases step
    · cases step
      exact ⟨rfl, rfl⟩
  | replacing revoked =>
    dsimp only [State.advance, State.issueCredentialRow] at step
    split at step
    · cases step
    split at step
    · cases step
      rcases slot_set_cases ended with ⟨-, same⟩ | ⟨apart, -⟩
      · cases same
        exact absurd rfl failed
      · exact absurd rfl apart
    · cases step
      exact ⟨rfl, rfl⟩
  | done outcome => cases step

/-- **What every state keeps is lawful.** -/
theorem Kept.lawful (kept : Kept state) : Lawful hashToken state where
  single := kept.single
  refused := by
    intro credential there registration inside same disabled now
    unfold State.findActiveConnectorCredentialByTokenId
    rw [Option.bind_eq_none_iff]
    intro found finds
    have found_eq : found = credential := by
      have passes := find?_some finds
      simp only [and_eq_true, decide_eq_true_eq] at passes
      exact inj_on_of_nodup_map kept.credentialIds (mem_of_find?_eq_some finds) there passes.1.1
    subst found_eq
    rw [find?_eq_none]
    intro row mem passes
    simp only [and_eq_true, decide_eq_true_eq] at passes
    have row_eq := inj_on_of_nodup_map kept.registrationIds mem inside (passes.1.1.trans same.symm)
    subst row_eq
    exact disabled (isNone_iff_eq_none.1 passes.2)
  rotation _ _ _ _ _ _ _ _ _ rotates step ended failed := rotate_failed rotates step ended failed
  audited := kept.audited
  issued := kept.issued

end Steps

/-! ### Runs -/

variable (hashToken : String → Digest)

/-- **Over every run of such steps the connectors are lawful.** -/
theorem credentials_lawful {state : State}
    (run : (registry hashToken).Reaches Sound (registry hashToken).start state) : Lawful hashToken state := by
  refine Kept.lawful (@Machine.Reaches.invariant _ _ _ _ _ _ Kept run ?_ ?_)
  · exact ⟨by simp [registry], by simp [registry], by simp [registry], rfl, by simp [registry]⟩
  · intro state event next kept sound step
    cases event with
    | begin tenantId actorUserId call =>
      cases step
      refine ⟨kept.single, kept.registrationIds, kept.credentialIds, kept.audited, fun running mem isIssue => ?_⟩
      rcases mem_append.1 mem with before | arrived
      · exact kept.issued running before isIssue
      · cases mem_singleton.1 arrived
        exact fun other => by cases other
    | advance index now id rawToken =>
      dsimp only [registry] at step
      split at step
      · cases step
      · rename_i running here
        split at step
        · cases step
        · rename_i fresh
          simp only [or_eq_true, List.any_eq_true, decide_eq_true_eq, not_or, not_exists, not_and] at fresh
          exact advance_kept kept here sound fresh.1 (fun row there => (fresh.2 row there).1) step


/-! ### An expired credential -/

section Samples

instance (state : State) (now : Int) : (call : Call) → Decidable (AsRead state now call)
  | .issue .. | .disable .. | .revoke .. => by unfold AsRead; infer_instance
  | .register .. | .rotate .. => .isTrue trivial

instance (state : State) : (event : Event) → Decidable (Sound state event)
  | .begin .. => .isTrue trivial
  | .advance .. => by unfold Sound; infer_instance

def sampleDigest (rawToken : String) : Digest := [UInt8.ofNat rawToken.length]

def sampleIssued : List Event :=
  [.begin (.sample 0) (.sample 1) (.register "Shop" "shop" "staging"), .advance 0 0 (.sample 2) "t",
    .begin (.sample 0) (.sample 1) (.issue (.sample 2) (some 1)), .advance 1 0 (.sample 3) "t",
    .advance 1 0 (.sample 3) "t"]

/-- Two days later the credential has expired, and `issue` fails on the unique index. -/
theorem expired_blocks :
    ¬
      ∀ (hashToken : String → Digest) (state : State), (registry hashToken).Reachable state →
      Lawful hashToken state := by
  intro law
  have ran : ((registry sampleDigest).run (registry sampleDigest).start (sampleIssued ++
      [.begin (.sample 0) (.sample 1) (.issue (.sample 2) none), .advance 2 172800000 (.sample 4) "tt",
        .advance 2 172800000 (.sample 4) "tt"])).any (fun state => state.calls.any fun running =>
      running.call.isIssue && running.phase = .done (.uniqueViolation false)) = true := by
    decide +kernel
  obtain ⟨state, reached, blocked⟩ := (any_eq_true _ _).1 ran
  obtain ⟨running, mem, blocked⟩ := List.any_eq_true.1 blocked
  simp only [and_eq_true, decide_eq_true_eq] at blocked
  exact (law _ _ (Machine.run_later reached)).issued running mem blocked.1 blocked.2

theorem credentials_lawful_sample :
    ∃ state, (registry sampleDigest).run (registry sampleDigest).start
      (sampleIssued ++
        [.begin (.sample 0) (.sample 1) (.rotate (.sample 2) none), .begin (.sample 0) (.sample 1)
          (.disable (.sample 2)), .advance 2 5 (.sample 4) "tt", .advance 2 5 (.sample 4) "tt", .advance 3 6
          (.sample 5) "ttt", .advance 2 5 (.sample 4) "tt", .advance 2 5 (.sample 4) "tt", .advance 3 6
          (.sample 5) "ttt"]) = some state ∧ state.audits.length = 4 ∧ Lawful sampleDigest state := by
  have ran : ((registry sampleDigest).run (registry sampleDigest).start
        (sampleIssued ++ [.begin (.sample 0) (.sample 1) (.rotate (.sample 2) none),
            .begin (.sample 0) (.sample 1) (.disable (.sample 2)), .advance 2 5 (.sample 4) "tt",
            .advance 2 5 (.sample 4) "tt", .advance 3 6 (.sample 5) "ttt", .advance 2 5 (.sample 4) "tt",
            .advance 2 5 (.sample 4) "tt", .advance 3 6 (.sample 5) "ttt"])).any
      (fun state => state.audits.length = 4) = true := by
    decide +kernel
  obtain ⟨state, reached, four⟩ := (any_eq_true _ _).1 ran
  exact ⟨state, reached, of_decide_eq_true four,
    credentials_lawful _ (Machine.run_reaches reached (by decide +kernel))⟩

end Samples

end DataPulse.Connectors
