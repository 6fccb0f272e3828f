/-
**Who can be made a member again.**

* `readmission_iff`: a user without an active membership can be admitted, and a member is not admitted twice,
  exactly when the user has no membership that was revoked and not deleted;
* `Readmits.runs`: an acceptance that succeeds, as a run;
* `revoked_excluded`: a revoked member cannot come back.
-/

import DataPulse.Lib.Rows
import DataPulse.Lib.Solo
import DataPulse.Memberships.Invitations

namespace DataPulse.Memberships

open Lib Lib.Interleave Platform
open Inventory (require)
open Auth (Digest Membership StoreAccessKind)
open Access (User Store Role StoreAccess isActive)

/-! ### One membership that is not deleted -/

variable {before after : List (Nat × List Write)}

variable {reference : Reference} {config : Config} {call : Call} {writes : List Write}
  {invitation : Invitation} {row : Membership} {tenantId : Uuid} {user : User}

/-- **A user has at most one membership in a tenant that is not deleted.** -/
theorem Reachable.oneUndeleted (reach : Reachable reference config)
    (split : config.commits = before ++ after) :
    ∀ first second, .membership first ∈ contents before → .membership second ∈ contents before →
      sameMember first second = true → (membershipAfter (contents before) first).deletedAt = none →
      (membershipAfter (contents before) second).deletedAt = none → first = second := by
  refine prefix_induction (fun commits =>
        ∀ first second, .membership first ∈ contents commits → .membership second ∈ contents commits →
        sameMember first second = true → (membershipAfter (contents commits) first).deletedAt = none →
        (membershipAfter (contents commits) second).deletedAt = none → first = second) ?_ ?_ before after
    split
  · exact fun _ _ => nofun
  · intro before last after split one first second inOne inTwo same alive alive'
    obtain ⟨pid, writes⟩ := last
    obtain ⟨proc, body, -, -, effect⟩ := reach.effect split
    rw [contents_append, contents_cons, contents_nil, append_nil] at inOne inTwo alive alive'
    rw [membershipAfter_append] at alive alive'
    have prior : ∀ row, (membershipAfter writes (membershipAfter (contents before) row)).deletedAt = none →
        (membershipAfter (contents before) row).deletedAt = none :=
      fun row alive => not_ne_iff.1 fun deleted => deleted_stays deleted alive
    rcases mem_append.1 inOne with old | new <;> rcases mem_append.1 inTwo with old' | new'
    · exact one first second old old' same (prior _ alive) (prior _ alive')
    · exact absurd (prior _ alive) ((effect.membership new').1.unique first old same)
    · rw [sameMember_comm] at same
      exact absurd (prior _ alive') ((effect.membership new).1.unique second old' same)
    · exact (effect.membership new').2 first new

/-! ### An acceptance by itself -/

variable {log : Log}

section Alone

variable {commits : List (Nat × List Write)} {own : List Write}
variable {membershipId : Uuid} {storeIds : List Uuid} {tokenHash : Digest}

theorem insertMembership_succeeds (free : Free writes row) (calm : ∀ write ∈ own, write.spares)
    (tenant : reference.tenants row.tenantId = true)
    (user : ∃ user, .user user ∈ writes ∧ user.id = row.userId)
    (role : hasRole writes row.tenantId row.roleId = true) :
    insertMembership reference (writes ++ own) row = .ok [.membership row] := by
  have added : ∀ other, .membership other ∈ writes ++ own → .membership other ∈ writes := by
    intro other mem
    rcases mem_append.1 mem with here | mine
    · exact here
    · exact absurd rfl ((calm _ mine).1 other)
  have fresh : ((insertedMemberships (writes ++ own)).all fun other => other.id ≠ row.id) = true :=
    all_eq_true.2 fun other mem =>
      decide_eq_true (free.fresh other (added other (mem_insertedMemberships.1 mem)))
  have unique : ((membershipsOf (writes ++ own)).all fun other =>
      !(other.deletedAt.isNone && sameMember other row)) = true := by
    refine all_eq_true.2 fun current mem => ?_
    obtain ⟨other, there, rfl⟩ := mem_membershipsOf.1 mem
    rw [membershipAfter_more fun write inside => (calm write inside).2 _, not_eq_true', Bool.and_eq_false_iff]
    cases same : sameMember other row with
    | true =>
      refine .inl ?_
      have deleted := free.unique other (added other there) same
      rwa [← not_eq_true, isNone_iff_eq_none]
    | false =>
      refine .inr ?_
      rw [← same]
      simp [sameMember]
  have known : ((usersOf (writes ++ own)).any fun user => user.id = row.userId) = true := by
    obtain ⟨user, there, same⟩ := user
    exact List.any_eq_true.2 ⟨user, mem_usersOf.2 (mem_append_left _ there), decide_eq_true same⟩
  unfold insertMembership
  simp only [require, fresh, unique, tenant, known, hasRole_grow role, if_true]
  rfl

theorem insertAccess_succeeds (none : accessOf writes membershipId = []) (once : storeIds.Nodup)
    (mem : ∃ row, .membership row ∈ writes ∧ row.id = membershipId ∧ row.tenantId = tenantId)
    (stores : ∀ id ∈ storeIds, ∃ store, .store store ∈ writes ∧ store.id = id ∧ store.tenantId = tenantId) :
    insertAccess writes (accessRows membershipId tenantId storeIds) =
      .ok ((accessRows membershipId tenantId storeIds).map .grant) := by
  have keys : (decide (((accessRows membershipId tenantId storeIds).map accessKey).Nodup) &&
      (accessRows membershipId tenantId storeIds).all fun row =>
        (storeAccessOf writes).all fun other => accessKey other ≠ accessKey row) = true := by
    rw [and_eq_true, decide_eq_true_eq, accessRows, map_map]
    refine ⟨once.map fun first second same => (Prod.mk.inj same).2, all_eq_true.2 fun row listed =>
      all_eq_true.2 fun other inside => decide_eq_true fun same => ?_⟩
    obtain ⟨storeId, -, rfl⟩ := mem_map.1 listed
    have mine := filter_eq_nil_iff.1 none other inside
    exact mine (decide_eq_true (Prod.mk.inj same).1)
  have memberships : ((accessRows membershipId tenantId storeIds).all fun row =>
      (insertedMemberships writes).any fun membership =>
        membership.id = row.membershipId && membership.tenantId = row.tenantId) = true := by
    obtain ⟨row, there, id, tenant⟩ := mem
    refine all_eq_true.2 fun access listed => List.any_eq_true.2 ⟨row, mem_insertedMemberships.2 there, ?_⟩
    obtain ⟨storeId, -, rfl⟩ := mem_accessRows.1 listed
    simp [id, tenant]
  have known : ((accessRows membershipId tenantId storeIds).all fun row =>
      (storesOf writes).any fun store => store.id = row.storeId && store.tenantId = row.tenantId) = true := by
    refine all_eq_true.2 fun access listed => ?_
    obtain ⟨storeId, inside, rfl⟩ := mem_accessRows.1 listed
    obtain ⟨store, there, id, tenant⟩ := stores storeId inside
    exact List.any_eq_true.2 ⟨store, mem_storesOf.2 there, by simp [id, tenant]⟩
  unfold insertAccess
  simp only [require, keys, memberships, known, if_true]
  rfl

theorem lookup_performs {date : Int} (found : invitationOf (contents commits) tokenHash = some invitation)
    (pending : invitation.status = .pending) (unexpired : date < invitation.expiresAt) :
    Performs (membershipServer reference) commits call [] (lookupAndValidateAcceptToken tokenHash date) [] []
      invitation := by
  have answered : exec reference call.now (contents commits ++ []) (.findByTokenHash tokenHash) =
      .ok (some invitation, []) := by
    rw [append_nil, ← found]
    rfl
  refine performs_read answered ?_
  dsimp only
  rw [if_neg (not_not.2 pending), if_neg (not_le.2 unexpired)]
  exact performs_done _

theorem insertStoreAccessRows_performs
    (added : insertAccess (contents commits ++ own) (accessRows membershipId tenantId storeIds) =
      .ok ((accessRows membershipId tenantId storeIds).map .grant)) :
    Performs (membershipServer reference) commits call own
      (insertStoreAccessRows membershipId tenantId storeIds) []
      ((accessRows membershipId tenantId storeIds).map .grant) () := by
  unfold insertStoreAccessRows
  by_cases empty : storeIds = []
  · rw [if_pos empty, empty]
    exact performs_done _
  · rw [if_neg empty]
    have answered : exec reference call.now (contents commits ++ own)
        (.insertStoreAccess (accessRows membershipId tenantId storeIds)) =
        .ok ((), (accessRows membershipId tenantId storeIds).map .grant) := by
      simp only [exec, added]
      rfl
    exact performs_then (performs_query answered) (performs_done _)

theorem Offer.granted (offer : Offer reference writes invitation) :
    invitation.grantedStores.Nodup ∧
      ∀ id ∈ invitation.grantedStores, ∃ store, .store store ∈ writes ∧ store.id = id ∧
      store.tenantId = invitation.tenantId := by
  unfold Invitation.grantedStores
  split_ifs
  · exact ⟨offer.once, offer.stores⟩
  · exact ⟨nodup_nil, fun _ => nofun⟩

theorem getRoleCode_answers (reference : Reference) (now : Int) {roleId : Uuid}
    (has : hasRole writes tenantId roleId = true) :
    ∃ roleCode, exec reference now writes (.getRoleCode roleId tenantId) = .ok (some roleCode, []) := by
  obtain ⟨role, listed, holds⟩ := List.any_eq_true.1 has
  have some : ((rolesOf writes).find? fun role =>
      role.id = roleId && role.tenantId = some tenantId).isSome = true :=
    find?_isSome.2 ⟨role, listed, holds⟩
  obtain ⟨first, found⟩ := isSome_iff_exists.1 some
  refine ⟨first.code, ?_⟩
  simp only [exec, found, map_some]

theorem admit_performs {roleCode : String}
    (offered : row =
        ⟨row.id, invitation.tenantId, user.id, invitation.roleId, invitation.storeAccessKind, none, none⟩)
    (marked : exec reference call.now (contents commits) (.markAccepted invitation.id user.id call.date) =
        .ok (true, [.accept invitation.id user.id call.date]))
    (made : insertMembership reference (contents commits ++ [.accept invitation.id user.id call.date]) row =
        .ok [.membership row])
    (granted : insertAccess (contents commits ++ [.accept invitation.id user.id call.date, .membership row])
        (accessRows row.id invitation.tenantId invitation.grantedStores) =
        .ok ((accessRows row.id invitation.tenantId invitation.grantedStores).map .grant))
    (coded : exec reference call.now (contents commits ++ admission call invitation user row)
      (.getRoleCode invitation.roleId invitation.tenantId) = .ok (some roleCode, [])) :
    Performs (membershipServer reference) commits call [] (admitMember invitation user call.date) [row.id]
      (admission call invitation user row) (admitted invitation user row roleCode) := by
  rw [← append_nil (contents commits)] at marked
  have created : exec reference call.now (contents commits ++ [.accept invitation.id user.id call.date])
      (.createMembership
        ⟨row.id, invitation.tenantId, user.id, invitation.roleId, invitation.storeAccessKind⟩) =
      .ok (row, [.membership row]) := by
    have columns : CreateMembershipParams.row ⟨row.id, invitation.tenantId, user.id, invitation.roleId,
      invitation.storeAccessKind⟩ = row := offered.symm
    simp only [exec, columns, made]
    rfl
  have rows : Performs (membershipServer reference) commits call
      [.accept invitation.id user.id call.date, .membership row]
      (insertStoreAccessRows row.id invitation.tenantId invitation.grantedStores) []
      ((accessRows row.id invitation.tenantId invitation.grantedStores).map .grant) () :=
    insertStoreAccessRows_performs granted
  refine performs_write (performs_query marked) (performs_draw
    (performs_write (performs_rescue (performs_query created)) (performs_then rows (performs_read coded ?_))))
  exact performs_done _

/-- **Where no membership stands in the way, the acceptance of a pending invitation succeeds**, by itself. -/
theorem accept_performs {rawToken : String} (sound : Sound reference (contents commits))
    (found : invitationOf (contents commits) (reference.hashToken rawToken) = some invitation)
    (pending : invitation.status = .pending) (unexpired : call.now < invitation.expiresAt)
    (valid : call.date < invitation.expiresAt)
    (known : userOf (contents commits) invitation.email = some user)
    (offered : row =
        ⟨row.id, invitation.tenantId, user.id, invitation.roleId, invitation.storeAccessKind, none, none⟩)
    (free : Free (contents commits) row) :
    ∃ roleCode, Performs (membershipServer reference) commits call []
      (acceptInvitationExistingUser (reference.hashToken rawToken) call.date) [row.id]
      (admission call invitation user row) (admitted invitation user row roleCode) := by
  obtain ⟨added, there, same⟩ := mem_invitationsOf.1 (mem_of_find?_eq_some found)
  have offer := sound.offers added there
  have role : hasRole (contents commits) invitation.tenantId invitation.roleId = true := by
    rw [← same, Invitation.after_tenantId, Invitation.after_roleId]
    exact offer.role
  obtain ⟨once, stores⟩ : invitation.grantedStores.Nodup ∧ ∀ id ∈ invitation.grantedStores, ∃ store,
      .store store ∈ contents commits ∧ store.id = id ∧ store.tenantId = invitation.tenantId := by
    rw [← same, Invitation.after_grantedStores, Invitation.after_tenantId]
    exact offer.granted
  have tenant : row.tenantId = invitation.tenantId := congrArg Membership.tenantId offered
  have user' : row.userId = user.id := congrArg Membership.userId offered
  have roleId : row.roleId = invitation.roleId := congrArg Membership.roleId offered
  have marks : exec reference call.now (contents commits) (.markAccepted invitation.id user.id call.date) =
        .ok (true, [.accept invitation.id user.id call.date]) := by
    have there : ((invitationsOf (contents commits)).any fun row => row.id = invitation.id &&
        row.status = .pending && decide (call.now < row.expiresAt)) = true :=
      List.any_eq_true.2 ⟨invitation, mem_of_find?_eq_some found, by simp [pending, unexpired]⟩
    simp only [exec, there, if_true]
  have made : insertMembership reference
      (contents commits ++ [.accept invitation.id user.id call.date]) row = .ok [.membership row] := by
    refine insertMembership_succeeds free (fun write mem => ?_) ?_ ?_ ?_
    · rw [mem_singleton.1 mem]
      constructor <;> intro _ same <;> cases same
    · rw [tenant, ← same, Invitation.after_tenantId]
      exact offer.tenant
    · exact ⟨user, mem_usersOf.1 (mem_of_find?_eq_some known), user'.symm⟩
    · rw [tenant, roleId]
      exact role
  have granted : insertAccess (contents commits ++ [.accept invitation.id user.id call.date, .membership row])
        (accessRows row.id invitation.tenantId invitation.grantedStores) =
          .ok ((accessRows row.id invitation.tenantId invitation.grantedStores).map .grant) := by
    refine insertAccess_succeeds ?_ once
      ⟨row, mem_append_right _ (mem_cons_of_mem _ (mem_singleton_self _)), rfl, tenant⟩ fun id mem => ?_
    · rw [accessOf_untouched, access_none sound free]
      intro write mem touches
      simp only [mem_cons, not_mem_nil, or_false] at mem
      rcases mem with rfl | rfl <;> cases touches
    · obtain ⟨store, there, holds⟩ := stores id mem
      exact ⟨store, mem_append_left _ there, holds⟩
  have answered : exec reference call.now (contents commits ++ []) (.findUserByEmail invitation.email) =
      .ok (some user, []) := by
    rw [append_nil, ← known]
    rfl
  have grown : hasRole (contents commits ++ admission call invitation user row) invitation.tenantId
      invitation.roleId = true := hasRole_grow role
  obtain ⟨roleCode, coded⟩ := getRoleCode_answers reference call.now grown
  exact ⟨roleCode, performs_bind (lookup_performs found pending valid)
    (performs_read answered (admit_performs offered marks made granted coded))⟩

/-- **An acceptance that succeeds by itself met no membership in its way.** -/
theorem accept_meets {detail : MembershipDetail}
    (alone : Alone (membershipServer reference) commits call []
        (acceptInvitationExistingUser tokenHash call.date) log detail)
    (found : invitationOf (contents commits) tokenHash = some invitation)
    (known : userOf (contents commits) invitation.email = some user) :
    ∃ row : Membership, row.tenantId = invitation.tenantId ∧ row.userId = user.id ∧
      Free (contents commits) row := by
  obtain ⟨read, first, last, rfl, looking, alone⟩ := alone.split
  obtain ⟨answer, finding, validating, rfl, asking, checking⟩ := looking.split
  obtain ⟨same, nothing⟩ := Prod.mk.inj (Except.ok.inj asking.executed)
  rw [append_nil, found] at same
  subst same
  have checks := checking.toCompletes
  dsimp only at checks
  split_ifs at checks
  · exact absurd checks not_completes_fail
  · exact absurd checks not_completes_fail
  obtain ⟨rfl, rfl⟩ := completes_done checks
  rw [append_nil, ← nothing, append_nil] at alone
  obtain ⟨answer, finding', last, rfl, asking', admitting⟩ := alone.split
  obtain ⟨same', nothing'⟩ := Prod.mk.inj (Except.ok.inj asking'.executed)
  rw [append_nil, known] at same'
  subst same'
  rw [← nothing', append_nil] at admitting
  obtain ⟨row, roleCode, -, -, -, free, offered, -⟩ := admit_effect rfl admitting.held admitting.toCompletes
  exact ⟨row, congrArg Membership.tenantId offered, congrArg Membership.userId offered, free⟩

end Alone

/-! ### Who can come back -/

section Law

variable (reference : Reference) (config : Config) (call : Call) (id tenantId userId : Uuid)

def activeOf (writes : List Write) (tenantId userId : Uuid) : List Membership :=
  (membershipsOf writes).filter fun row =>
    isActive row && (row.tenantId = tenantId && row.userId = userId)

/-- **The law of re-admission**, for the acceptance of an invitation of the tenant to the user, whose new
membership gets the identifier: it succeeds, by itself, where the user has no active membership, and gives one;
it does not where the user has one; and no user has two. -/
structure Readmits : Prop where
  readmitted : activeOf config.ledger tenantId userId = [] → ∃ writes body,
    Performs (membershipServer reference) config.commits call []
      (call.operation.program reference.hashToken call.date) [id] writes body ∧
    ∃ row, activeOf (config.ledger ++ writes) tenantId userId = [row]
  single : activeOf config.ledger tenantId userId ≠ [] → ∀ ids writes body,
    ¬ Performs (membershipServer reference) config.commits call []
      (call.operation.program reference.hashToken call.date) ids writes body
  one : (activeOf config.ledger tenantId userId).length ≤ 1

/-- **No membership of the user in the tenant is revoked and not deleted.** -/
def noneRevoked : Prop :=
  ∀ row ∈ membershipsOf config.ledger, row.tenantId = tenantId → row.userId = userId →
    row.deletedAt = none → row.revokedAt = none

instance : Decidable (noneRevoked config tenantId userId) :=
  inferInstanceAs (Decidable (∀ row ∈ membershipsOf config.ledger, _))

end Law

section Readmission

variable {rawToken : String} {id : Uuid}
variable {userId : Uuid} {body : Body}

theorem mem_activeOf :
    row ∈ activeOf writes tenantId userId ↔
      ∃ added, .membership added ∈ writes ∧ membershipAfter writes added = row ∧ row.revokedAt = none ∧
      row.deletedAt = none ∧ added.tenantId = tenantId ∧ added.userId = userId := by
  simp only [activeOf, mem_filter, mem_membershipsOf, isActive, and_eq_true, isNone_iff_eq_none,
    decide_eq_true_eq]
  constructor
  · rintro ⟨⟨added, there, rfl⟩, ⟨revoked, deleted⟩, tenant, user⟩
    rw [membershipAfter_tenantId] at tenant
    rw [membershipAfter_userId] at user
    exact ⟨added, there, rfl, revoked, deleted, tenant, user⟩
  · rintro ⟨added, there, rfl, revoked, deleted, tenant, user⟩
    rw [membershipAfter_tenantId, membershipAfter_userId]
    exact ⟨⟨added, there, rfl⟩, ⟨revoked, deleted⟩, tenant, user⟩

theorem Effect.members {commits : List (Nat × List Write)}
    (effect : Effect reference commits call log body writes) :
    insertedMemberships writes = [] ∨
      ∃ row, insertedMemberships writes = [row] ∧ Free (contents commits) row := by
  have nothing : ∀ {writes : List Write}, (∀ row, .membership row ∉ writes) → insertedMemberships writes = [] :=
    fun none => eq_nil_iff_forall_not_mem.2 fun row inside => none row (mem_insertedMemberships.1 inside)
  cases effect with
  | changed asked calm known => exact .inl (nothing fun row mem => nomatch calm _ mem)
  | bootstrapped asked free kind => exact .inr ⟨_, rfl, free⟩
  | invited asked invites => exact .inl (nothing fun row mem => by simp at mem)
  | accepted asked accepts =>
    exact .inr ⟨_, congrArg (_ :: ·) (insertedMemberships_grants _), accepts.free⟩
  | updated asked updates =>
    refine .inl (nothing fun row mem => ?_)
    rcases mem_cons.1 mem with same | inside
    · cases same
    · exact (updates.access.about inside).2.2.1 row rfl
  | revoked asked there active => exact .inl rfl

theorem Reachable.insertedOnce (reach : Reachable reference config)
    (split : config.commits = before ++ after) : (insertedMemberships (contents before)).Nodup := by
  refine prefix_induction (fun commits => (insertedMemberships (contents commits)).Nodup) nodup_nil ?_
    before after split
  intro before last after split once
  obtain ⟨pid, writes⟩ := last
  obtain ⟨proc, body, -, -, effect⟩ := reach.effect split
  rw [contents_append, contents_cons, contents_nil, append_nil, insertedMemberships, filterMap_append]
  change (insertedMemberships (contents before) ++ insertedMemberships writes).Nodup
  rcases effect.members with none | ⟨row, new, free⟩
  · rw [none, append_nil]
    exact once
  · rw [new]
    refine once.append (nodup_singleton row) fun other inside here => ?_
    rw [mem_singleton.1 here] at inside
    exact free.fresh row (mem_insertedMemberships.1 inside) rfl

/-- **A user has at most one active membership in a tenant.** -/
theorem Reachable.oneActive (reach : Reachable reference config) (tenantId userId : Uuid) :
    (activeOf config.ledger tenantId userId).length ≤ 1 := by
  have once := reach.insertedOnce (append_nil _).symm
  have one := reach.oneUndeleted (append_nil _).symm
  rw [activeOf, membershipsOf]
  refine filter_length_le_one (pairwise_map.2 (once.imp_of_mem ?_))
  rintro first second inOne inTwo apart ⟨holds, holds'⟩
  simp only [isActive, and_eq_true, isNone_iff_eq_none, decide_eq_true_eq,
    membershipAfter_tenantId, membershipAfter_userId] at holds holds'
  obtain ⟨⟨-, alive⟩, tenant, user⟩ := holds
  obtain ⟨⟨-, alive'⟩, tenant', user'⟩ := holds'
  exact apart (one first second (mem_insertedMemberships.1 inOne) (mem_insertedMemberships.1 inTwo)
    (sameMember_iff.2 ⟨tenant.trans tenant'.symm, user.trans user'.symm⟩) alive alive')

theorem accepted_meets (asked : call.operation = .accept rawToken)
    (found : invitationOf config.ledger (reference.hashToken rawToken) = some invitation)
    (known : userOf config.ledger invitation.email = some user) {ids : List Uuid}
    (performs : Performs (membershipServer reference) config.commits call []
        (call.operation.program reference.hashToken call.date) ids writes body)
    (there : .membership row ∈ config.ledger) (tenant : row.tenantId = invitation.tenantId)
    (mine : row.userId = user.id) : (membershipAfter config.ledger row).deletedAt ≠ none := by
  obtain ⟨log, alone, -⟩ := performs
  rw [asked] at alone
  obtain ⟨detail, first, last, rfl, accepting, -⟩ := alone.split
  obtain ⟨row', tenant', mine', free⟩ := accept_meets accepting found known
  exact free.unique row there (sameMember_iff.2 ⟨tenant.trans tenant'.symm, mine.trans mine'.symm⟩)

/-- **A member who was revoked and not deleted is not admitted again.** -/
theorem Readmits.unrevoked (reach : Reachable reference config) (asked : call.operation = .accept rawToken)
    (found : invitationOf config.ledger (reference.hashToken rawToken) = some invitation)
    (known : userOf config.ledger invitation.email = some user)
    (readmits : Readmits reference config call id invitation.tenantId user.id) :
    noneRevoked config invitation.tenantId user.id := by
  intro current mem tenant mine alive
  by_contra revoked
  obtain ⟨row, there, rfl⟩ := mem_membershipsOf.1 mem
  rw [membershipAfter_tenantId] at tenant
  rw [membershipAfter_userId] at mine
  have none : activeOf config.ledger invitation.tenantId user.id = [] := by
    refine eq_nil_iff_forall_not_mem.2 fun other inside => ?_
    obtain ⟨added, there', rfl, unrevoked, alive', tenant', mine'⟩ := mem_activeOf.1 inside
    have same := reach.oneUndeleted (append_nil _).symm row added there there'
      (sameMember_iff.2 ⟨tenant.trans tenant'.symm, mine.trans mine'.symm⟩) alive alive'
    exact revoked (same ▸ unrevoked)
  obtain ⟨writes, body, performs, -⟩ := readmits.readmitted none
  exact accepted_meets asked found known performs there tenant mine alive

/-- **A user without an active membership can be admitted, and a member is not admitted twice, exactly when no
membership of the user in the tenant is revoked and not deleted.** -/
theorem readmission_iff (reachable : Reachable reference config) (asked : call.operation = .accept rawToken)
    (found : invitationOf config.ledger (reference.hashToken rawToken) = some invitation)
    (pending : invitation.status = .pending) (unexpired : call.now < invitation.expiresAt)
    (valid : call.date < invitation.expiresAt) (known : userOf config.ledger invitation.email = some user)
    (fresh : ∀ row, .membership row ∈ config.ledger → row.id ≠ id) :
    Readmits reference config call id invitation.tenantId user.id ↔
      noneRevoked config invitation.tenantId user.id := by
  refine ⟨Readmits.unrevoked reachable asked found known, fun unrevoked => ⟨fun alone => ?_,
    fun some ids writes body performs => ?_, reachable.oneActive _ _⟩⟩
  · let row : Membership := ⟨id, invitation.tenantId, user.id, invitation.roleId,
      invitation.storeAccessKind, none, none⟩
    have free : Free config.ledger row := by
      refine ⟨fresh, fun other there same alive => ?_⟩
      obtain ⟨tenant, mine⟩ := sameMember_iff.1 same
      have active : membershipAfter config.ledger other ∈ activeOf config.ledger invitation.tenantId user.id :=
        mem_activeOf.2 ⟨other, there, rfl, unrevoked _ (mem_membershipsOf.2 ⟨other, there, rfl⟩)
          (membershipAfter_tenantId.trans tenant) (membershipAfter_userId.trans mine) alive, alive, tenant,
          mine⟩
      rw [alone] at active
      cases active
    have sound := reachable.sound (append_nil _).symm
    have offered : row = ⟨row.id, invitation.tenantId, user.id, invitation.roleId,
      invitation.storeAccessKind, none, none⟩ := rfl
    obtain ⟨roleCode, performs⟩ := accept_performs sound found pending unexpired valid known offered free
    refine ⟨admission call invitation user row, .accepted (admitted invitation user row roleCode), ?_, row, ?_⟩
    · rw [asked]
      exact performs_then performs (performs_done _)
    · refine active_alone sound free rfl (fun write mem about => ?_)
        (congrArg (row :: ·) (insertedMemberships_grants _))
      rcases mem_admission.1 mem with rfl | rfl | ⟨access, -, rfl⟩ <;> cases about
  · obtain ⟨current, mem⟩ := exists_mem_of_ne_nil _ some
    obtain ⟨row, there, rfl, -, alive, tenant, mine⟩ := mem_activeOf.1 mem
    exact accepted_meets asked found known performs there tenant mine alive

/-- **An acceptance that succeeds by itself, as a run**: where every client has ended, the call can run, and
leaves the user one active membership. -/
theorem Readmits.runs (readmits : Readmits reference config call id tenantId userId) (idle : config.idle)
    (unused : config.unused id = true) (alone : activeOf config.ledger tenantId userId = []) :
    ∃ config' row, Later (membershipServer reference) config config' ∧
      activeOf config'.ledger tenantId userId = [row] := by
  obtain ⟨writes, body, performs, row, one⟩ := readmits.readmitted alone
  obtain ⟨config', log, later, commits, -⟩ := performs.runs idle
    (fun other mem => mem_singleton.1 mem ▸ unused) (nodup_singleton id)
  refine ⟨config', row, later, ?_⟩
  rw [Config.ledger, commits, contents_append, contents_cons, contents_nil, append_nil]
  exact one

end Readmission

/-! ### A member who was revoked -/

section Samples

/-- The clerk is invited, accepts, has the membership revoked, and is invited again. -/
def revokedEvents : List (Event Uuid PgError Call) :=
  ((settingEvents ++ [Event.start (inviteCall 1 "first")] ++ (inviteEvents 4 (sample 5)).1 ++
    (inviteEvents 4 (sample 5)).2).append
    [.start ⟨2, 2, .accept "first"⟩, .ask 5, .ask 5, .ask 5, .draw 5 (sample 6), .ask 5, .ask 5, .ask 5,
      .stop 5 none]).append
    [.start ⟨3, 3, .revoke sampleTenant (sample 6)⟩, .ask 6, .stop 6 none] ++
    [Event.start (inviteCall 4 "second")] ++ (inviteEvents 7 (sample 7)).1 ++
    (inviteEvents 7 (sample 7)).2

def deletedEvents : List (Event Uuid PgError Call) :=
  revokedEvents ++ changed 8 (.remove .memberships (sample 6) 5)

/-- The second invitation of the samples, and its user. -/
def secondInvitation : Invitation :=
  ⟨sample 7, sampleTenant, "clerk@shop.example", sample 1, .specific, [sample 4],
    sample 2, sampleReference.hashToken "second", .pending, 4 + INVITATION_TTL_MS, none, none, none⟩

/-- The second invitation is found under its token, the clerk under its e-mail, and an identifier is not
taken. -/
def invitedAgain (config : Config) : Bool :=
  invitationOf config.ledger (sampleReference.hashToken "second") = some secondInvitation &&
    userOf config.ledger secondInvitation.email = some (sampleUser 3 "clerk@shop.example") &&
    (insertedMemberships config.ledger).all fun row => row.id ≠ sample 8

def secondCall : Call := ⟨6, 6, .accept "second"⟩

/-- **A revoked member cannot be admitted again.** -/
theorem revoked_excluded :
    ∃ config, Reachable sampleReference config ∧
      invitationOf config.ledger (sampleReference.hashToken "second") = some secondInvitation ∧
      userOf config.ledger secondInvitation.email = some (sampleUser 3 "clerk@shop.example") ∧
      activeOf config.ledger sampleTenant (sample 3) = [] ∧
      ¬ Readmits sampleReference config secondCall (sample 8) sampleTenant (sample 3) := by
  have ran : (run (membershipServer sampleReference) revokedEvents).any (fun config =>
      invitedAgain config = true ∧ activeOf config.ledger sampleTenant (sample 3) = [] ∧
        ¬ noneRevoked config sampleTenant (sample 3)) = true := by
    decide +kernel
  obtain ⟨config, ran, seen⟩ := (any_eq_true _ _).1 ran
  obtain ⟨again, none, revoked⟩ := of_decide_eq_true seen
  simp only [invitedAgain, and_eq_true, decide_eq_true_eq] at again
  obtain ⟨⟨found, known⟩, -⟩ := again
  exact ⟨config, run_reachable _ ran, found, known, none,
    fun readmits => revoked (Readmits.unrevoked (run_reachable _ ran) rfl found known readmits)⟩

theorem readmission_iff_sample :
    ∃ config, run (membershipServer sampleReference) deletedEvents = some config ∧
      activeOf config.ledger sampleTenant (sample 3) = [] ∧
      Readmits sampleReference config secondCall (sample 8) sampleTenant (sample 3) := by
  have ran : (run (membershipServer sampleReference) deletedEvents).any (fun config =>
      invitedAgain config = true ∧ activeOf config.ledger sampleTenant (sample 3) = [] ∧
        noneRevoked config sampleTenant (sample 3)) = true := by
    decide +kernel
  obtain ⟨config, ran, seen⟩ := (any_eq_true _ _).1 ran
  obtain ⟨again, none, unrevoked⟩ := of_decide_eq_true seen
  simp only [invitedAgain, and_eq_true, decide_eq_true_eq, all_eq_true, mem_insertedMemberships] at again
  obtain ⟨⟨found, known⟩, fresh⟩ := again
  exact ⟨config, ran, none, (readmission_iff (run_reachable _ ran) rfl found rfl (by decide) (by decide) known
    fresh).2 unrevoked⟩

end Samples

end DataPulse.Memberships
