/-
**Who the POS accepts, and who the resolver accepts.**

Sign-in and takeover find their user by `users.clerk_user_id` and take whichever of the user's membership
rows the server returns first; `OperatorContextResolver.resolve` finds the user by an active link and asks
for the active row first. `accepts_iff_resolves` says on which states they accept the same operators.
-/

import DataPulse.Auth.Envelope
import DataPulse.Lib.Solo
import DataPulse.Operators.Service

namespace DataPulse.Operators

open Lib Lib.Prog Platform
open Auth

/-- The verified identity of a request and the attestation of its device. -/
structure Attempt where
  hashToken : String → Digest
  identity : VerifiedSubject
  rawAttestation : String

def isActive (row : MembershipRow) : Bool := row.membership.revokedAt.isNone && row.membership.deletedAt.isNone

/-- The row is active, of an eligible role, and reaches the store. -/
def grants (identities : Identities) (storeId : Uuid) (row : MembershipRow) : Bool :=
  isActive row && decide (row.roleCode ∈ ELIGIBLE_INTERNAL_ROLES) &&
    (row.membership.storeAccessKind = .all || identities.storeIsInAccessSet row.membership.id storeId)

section Agreement

variable (identities : Identities) (attempt : Attempt)

/-- The value of a program of the service, with nobody else on the server. -/
def alone (tables : Tables) (now : Int) {α : Type} (program : Client α) : Option (α × List Write) :=
  program.evaluate (fun writes => (tables.after writes).exec identities now) []

def environment : Environment := ⟨fun _ => some attempt.identity.subject, attempt.hashToken, fun _ => identities⟩

/-- The user whom sign-in and takeover authorize at the attested device. -/
def Accepts (tables : Tables) (now : Int) (userId : Uuid) : Prop :=
  ∃ authorized, authorized.user.id = userId ∧ alone identities tables now (authorize
    (environment identities attempt) attempt.identity.subject attempt.rawAttestation) = some (.ok authorized, [])

/-- The user whom `resolve` accepts there. -/
def Resolves (userId : Uuid) : Prop :=
  ∃ operator, operator.context.userId = userId ∧
    identities.resolve (fun _ => some attempt.identity) attempt.hashToken "" attempt.rawAttestation =
    .ok operator

/-- They accept the same operators. -/
def Agree (tables : Tables) (now : Int) : Prop :=
  ∀ userId, Accepts identities attempt tables now userId ↔ Resolves identities attempt userId

def attested : Option Device :=
  if attempt.rawAttestation = "" then none
  else identities.findActiveByHash (attempt.hashToken attempt.rawAttestation)

/-- `memberships_tenant_user_active_uidx`. -/
def Single : Prop :=
  ∀ first ∈ identities.memberships, ∀ second ∈ identities.memberships, first.deletedAt = none →
    second.deletedAt = none → first.tenantId = second.tenantId → first.userId = second.userId → first = second

/-- Of a live user whom an active membership entitles at the attested device: the column leads to the user
and the server returns the active row first, exactly when an active link leads to the user. -/
def Aligned : Prop :=
  ∀ device ∈ attested identities attempt, ∀ user ∈ identities.users, user.deletedAt = none →
    (∃ row ∈ identities.membershipRows device.tenantId user.id, grants identities device.storeId row = true) →
      ((user ∈ findUserByClerkSubject identities attempt.identity.subject ∧
          ∃ row ∈ (identities.membershipRows device.tenantId user.id).head?, isActive row = true) ↔
        user ∈ identities.findUserByExternalIdentity attempt.identity.providerKey attempt.identity.subject)

end Agreement

variable {identities : Identities} {attempt : Attempt} {tables : Tables} {now : Int} {user : User}
  {device : Device} {userId : Uuid}

/-! ### The active row comes first -/

theorem precedes_of_active {first : MembershipRow} (active : isActive first = true) (second : MembershipRow) :
    first.precedes second = true := by
  simp only [isActive, and_eq_true, isNone_iff_eq_none] at active
  unfold MembershipRow.precedes
  rw [active.1, active.2]
  split_ifs <;> rfl

variable {first second : MembershipRow}

theorem active_of_precedes (active : isActive second = true) (precedes : first.precedes second = true) :
    isActive first = true := by
  simp only [isActive, and_eq_true, isNone_iff_eq_none] at active ⊢
  unfold MembershipRow.precedes at precedes
  rw [active.1, active.2] at precedes
  cases revoked : first.membership.revokedAt <;> cases deleted : first.membership.deletedAt <;>
    simp_all [nullsFirst]

variable {row : MembershipRow}

theorem head_active {rows : List MembershipRow} (member : row ∈ rows) (active : isActive row = true) :
    ∃ first, (rows.insertionSort fun first second => first.precedes second = true).head? = some first ∧
      isActive first = true := by
  induction rows with
  | nil => cases member
  | cons head rest ih =>
    rw [List.insertionSort_cons]
    cases sorted : rest.insertionSort fun first second => first.precedes second = true with
    | nil =>
      have none : rest = [] := List.perm_nil.1 (sorted ▸ (perm_insertionSort _ rest).symm)
      rw [none, mem_singleton] at member
      exact ⟨head, rfl, member ▸ active⟩
    | cons least others =>
      rw [List.orderedInsert]
      split_ifs with before
      · refine ⟨head, rfl, ?_⟩
        rcases mem_cons.1 member with rfl | member
        · exact active
        · obtain ⟨first, heads, active⟩ := ih member
          rw [sorted] at heads
          cases heads
          exact active_of_precedes active before
      · rcases mem_cons.1 member with rfl | member
        · exact absurd (precedes_of_active active least) before
        · rw [sorted] at ih
          exact ih member

theorem row_unique (single : Single identities) {tenantId : Uuid}
    (mem : first ∈ identities.membershipRows tenantId userId)
    (member' : second ∈ identities.membershipRows tenantId userId) (active : isActive first = true)
    (active' : isActive second = true) : first = second := by
  simp only [Identities.membershipRows, mem_filterMap, mem_filter, and_eq_true, decide_eq_true_eq,
    map_eq_some_iff] at mem member'
  obtain ⟨one, ⟨inside, tenant, owner⟩, role, found, rfl⟩ := mem
  obtain ⟨other, ⟨inside', tenant', owner'⟩, role', found', rfl⟩ := member'
  simp only [isActive, and_eq_true, isNone_iff_eq_none] at active active'
  obtain rfl :=
    single one inside other inside' active.2 active'.2 (tenant.trans tenant'.symm) (owner.trans owner'.symm)
  rw [mem_unique found found']

/-! ### What the two accept -/

theorem active_of_grants {storeId : Uuid} (granted : grants identities storeId row = true) :
    isActive row = true := by
  simp only [grants, and_eq_true] at granted
  exact granted.1.1

theorem eligible_iff (single : Single identities) {tenantId storeId : Uuid} :
    identities.eligible tenantId userId storeId = .ok () ↔
      ∃ row ∈ identities.membershipRows tenantId userId, grants identities storeId row = true := by
  have sorted := perm_insertionSort (fun first second : MembershipRow => first.precedes second = true)
    (identities.membershipRows tenantId userId)
  have first : identities.eligible tenantId userId storeId = .ok () ↔
      ∃ row ∈ identities.findActiveMembership tenantId userId, grants identities storeId row = true := by
    unfold Identities.eligible
    cases identities.findActiveMembership tenantId userId with
    | none => simp
    | some row =>
      obtain ⟨⟨_, _, _, _, kind, revokedAt, deletedAt⟩, roleCode⟩ := row
      cases kind <;> cases revokedAt <;> cases deletedAt <;> by_cases eligible : roleCode ∈
        ELIGIBLE_INTERNAL_ROLES <;>
        simp [grants, isActive, eligible]
  rw [first]
  constructor
  · rintro ⟨row, found, granted⟩
    exact ⟨row, sorted.mem_iff.1 (mem_of_head? found), granted⟩
  · rintro ⟨row, mem, granted⟩
    have active := active_of_grants granted
    obtain ⟨head, heads, active'⟩ := head_active mem active
    have same := row_unique single (sorted.mem_iff.1 (mem_of_head? heads)) mem active' active
    exact ⟨head, heads, same ▸ granted⟩

theorem resolves_iff (single : Single identities) :
    Resolves identities attempt userId ↔
      ∃ device ∈ attested identities attempt, ∃ user ∈ identities.findUserByExternalIdentity
      attempt.identity.providerKey attempt.identity.subject, user.id = userId ∧ user.deletedAt = none ∧
      ∃ row ∈ identities.membershipRows device.tenantId user.id, grants identities device.storeId row =
      true := by
  unfold Resolves Identities.resolve
  simp only [← eligible_iff single, show (if attempt.rawAttestation = "" then none else
    identities.findActiveByHash (attempt.hashToken attempt.rawAttestation)) =
      attested identities attempt from rfl]
  cases identities.findUserByExternalIdentity attempt.identity.providerKey attempt.identity.subject with
  | none => simp
  | some user =>
    cases deleted : user.deletedAt with
    | some time => simp [deleted]
    | none =>
      cases attested identities attempt with
      | none => simp [deleted]
      | some device =>
        cases eligible : identities.eligible device.tenantId user.id device.storeId <;>
          simp [deleted, eligible, Bind.bind, Except.bind]

theorem authorizeAt_evaluate :
    ∃ verdict, alone identities tables now (authorizeAt user device) = some (verdict, []) ∧
      ((∃ authorized, authorized.user.id = userId ∧ verdict = .ok authorized) ↔
        user.id = userId ∧
        ∃ row ∈ (identities.membershipRows device.tenantId user.id).head?, grants identities device.storeId
        row = true) := by
  have read : (tables.after []).exec identities now (.findActiveMembership device.tenantId user.id) =
    .ok ((identities.membershipRows device.tenantId user.id).head?, []) := rfl
  cases found : (identities.membershipRows device.tenantId user.id).head? with
  | none =>
    rw [found] at read
    exact ⟨.error .membershipMissing, (evaluate_read read).trans rfl, by simp⟩
  | some row =>
    rw [found] at read
    obtain ⟨membership, roleCode⟩ := row
    by_cases revoked : (membership.revokedAt.isSome || membership.deletedAt.isSome) = true
    · refine ⟨.error .membershipRevoked, (evaluate_read read).trans ?_, ?_⟩
      · simp only [if_pos revoked]
        rfl
      · cases revokedAt : membership.revokedAt <;> cases deletedAt : membership.deletedAt <;>
          simp_all [grants, isActive]
    by_cases eligible : roleCode ∈ ELIGIBLE_INTERNAL_ROLES
    · obtain ⟨role, mapped⟩ : ∃ role, mapInternalRoleToPos roleCode = some role := by
        simp only [ELIGIBLE_INTERNAL_ROLES, mem_cons, not_mem_nil, or_false] at eligible
        rcases eligible with rfl | rfl | rfl <;> exact ⟨_, rfl⟩
      cases kind : membership.storeAccessKind with
      | all =>
        refine ⟨.ok ⟨user, device, role⟩, (evaluate_read read).trans ?_, ?_⟩
        · simp only [if_neg revoked, eligible, mapped, kind]
          rfl
        · simp_all [grants, isActive]
      | specific =>
        have accessible :
            (tables.after []).exec identities now (.storeIsInAccessSet membership.id device.storeId) =
            .ok (identities.storeIsInAccessSet membership.id device.storeId, []) :=
          rfl
        refine ⟨if identities.storeIsInAccessSet membership.id device.storeId then .ok ⟨user, device, role⟩
          else .error .storeNotInAccessSet, (evaluate_read read).trans ?_, ?_⟩
        · simp only [if_neg revoked, eligible, mapped, kind]
          refine (evaluate_read accessible).trans ?_
          cases identities.storeIsInAccessSet membership.id device.storeId <;> rfl
        · cases access : identities.storeIsInAccessSet membership.id device.storeId <;>
            simp_all [grants, isActive]
    · refine ⟨.error .roleIneligible, (evaluate_read read).trans ?_, ?_⟩
      · simp only [if_neg revoked, if_pos eligible]
        rfl
      · simp [grants, eligible]

theorem attestation_evaluate (next : Option Device → Client (Except Refusal Authorized)) :
    alone identities tables now
      ((findActiveByAttestation (environment identities attempt) attempt.rawAttestation).bind next) =
      alone identities tables now (next (attested identities attempt)) := by
  unfold findActiveByAttestation attested
  split_ifs
  · rfl
  · exact evaluate_read rfl

theorem accepts_iff :
    Accepts identities attempt tables now userId ↔
      ∃ device ∈ attested identities attempt, ∃ user ∈ findUserByClerkSubject identities
      attempt.identity.subject, user.id = userId ∧ user.deletedAt = none ∧
      ∃ row ∈ (identities.membershipRows device.tenantId user.id).head?, grants identities device.storeId
      row = true := by
  have read : (tables.after []).exec identities now (.findUserByClerkSubject attempt.identity.subject) =
    .ok (findUserByClerkSubject identities attempt.identity.subject, []) := rfl
  have attestation := @attestation_evaluate identities attempt tables now
  have reads : ∀ verdict, _ = some (verdict, []) → alone identities tables now (authorize
      (environment identities attempt) attempt.identity.subject attempt.rawAttestation) = some (verdict, []) :=
    fun verdict ends => (evaluate_read read).trans ends
  unfold Accepts
  cases found : findUserByClerkSubject identities attempt.identity.subject with
  | none =>
    rw [found] at reads
    simp [reads (.error .userUnmapped) rfl]
  | some user =>
    rw [found] at reads
    cases deleted : user.deletedAt with
    | some time =>
      have ends := reads (.error .userDisabled) (by simp only [deleted]; rfl)
      simp [ends, deleted]
    | none =>
      cases device : attested identities attempt with
      | none =>
        rw [device] at attestation
        have ends := reads (.error .deviceInvalid) (by simp only [deleted]; exact attestation _)
        simp [ends]
      | some device' =>
        rw [device] at attestation
        obtain ⟨verdict, evaluates, taken⟩ := @authorizeAt_evaluate identities tables now user device' userId
        have ends := reads verdict (by simp only [deleted]; exact (attestation _).trans evaluates)
        simp only [ends, Option.some.injEq, Prod.mk.injEq, and_true, Option.mem_def, exists_eq_left', deleted,
          true_and]
        exact taken

theorem linked_mem {providerKey subject : String}
    (linked : user ∈ identities.findUserByExternalIdentity providerKey subject) :
    user ∈ identities.users := by
  rw [Identities.findUserByExternalIdentity_eq] at linked
  obtain ⟨link, -, found⟩ := bind_eq_some_iff.1 linked
  exact mem_of_find?_eq_some found

/-- **The POS and the resolver accept the same operators exactly when the state is aligned.** -/
theorem accepts_iff_resolves (single : Single identities) (attempt : Attempt) (tables : Tables) (now : Int) :
    Agree identities attempt tables now ↔ Aligned identities attempt := by
  constructor
  · intro agree device attests user mem live entitled
    constructor
    · rintro ⟨column, first, heads, active⟩
      obtain ⟨row, inside, granted⟩ := entitled
      have same := row_unique single (mem_of_head? heads) inside active (active_of_grants granted)
      obtain ⟨_, _, other, linked, named, -⟩ := (resolves_iff single).1 ((agree user.id).1 (accepts_iff.2
        ⟨device, attests, user, column, rfl, live, first, heads, same ▸ granted⟩))
      exact inj_on_of_nodup_map identities.userIds (linked_mem linked) mem named ▸ linked
    · intro linked
      obtain ⟨place, attests', other, column, named, -, first, heads, granted⟩ := accepts_iff.1
        ((agree user.id).2 ((resolves_iff single).2 ⟨device, attests, user, linked, rfl, live, entitled⟩))
      obtain rfl := inj_on_of_nodup_map identities.userIds (mem_of_find?_eq_some column) mem named
      obtain rfl := mem_unique attests attests'
      exact ⟨column, first, heads, active_of_grants granted⟩
  · intro aligned userId
    rw [accepts_iff, resolves_iff single]
    constructor
    · rintro ⟨device, attests, user, column, named, live, first, heads, granted⟩
      have inside := mem_of_head? heads
      exact ⟨device, attests, user, (aligned device attests user (mem_of_find?_eq_some column) live
            ⟨first, inside, granted⟩).1 ⟨column, first, heads, active_of_grants granted⟩, named, live, first,
        inside, granted⟩
    · rintro ⟨device, attests, user, linked, named, live, row, inside, granted⟩
      obtain ⟨column, first, heads, active⟩ :=
        (aligned device attests user (linked_mem linked) live ⟨row, inside, granted⟩).2 linked
      have same := row_unique single (mem_of_head? heads) inside active (active_of_grants granted)
      exact ⟨device, attests, user, column, named, live, first, heads, same ▸ granted⟩

/-- The operator was removed from the tenant and added again. -/
def readded : Identities :=
  { sampleIdentities none true (sample 5) with
    memberships := [
      ⟨sample 6, sample 0, sample 1, sample 3, .all, some 1, some 1⟩,
      ⟨sample 4, sample 0, sample 1, sample 3, .all, none, none⟩] }

def sampleAttempt : Attempt := ⟨fun _ => [1], ⟨"clerk", "https://clerk.dp2.local", "user_1"⟩, "a"⟩

theorem accepts_iff_resolves_sample : Agree readded sampleAttempt Tables.empty 0 ↔
    Aligned readded sampleAttempt :=
  accepts_iff_resolves (by unfold Single; decide +kernel) sampleAttempt Tables.empty 0

/-- **The POS refuses an operator who was added again, and the resolver accepts.** -/
theorem readded_refused :
    ¬ Accepts readded sampleAttempt Tables.empty 0 (sample 1) ∧
      Resolves readded sampleAttempt (sample 1) := by
  constructor
  · rintro ⟨authorized, -, ends⟩
    cases ends
  · exact ⟨⟨⟨sample 1, some (sample 0), sample 5⟩, sample 2⟩, rfl, by decide +kernel⟩

end DataPulse.Operators
