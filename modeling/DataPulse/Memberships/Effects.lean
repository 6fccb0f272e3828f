/-
**What a committed call did to invitations, memberships and store access.**

* `membershipAfter_untouched`, `Invitation.after_untouched`, `accessOf_untouched`: what writes about other
  rows leave as it is; `deleted_stays`, `Invitation.pending_before`: what no write undoes.
-/

import DataPulse.Memberships.Service

namespace DataPulse.Memberships

open Lib Lib.Interleave Platform
open Inventory (require require_ok require_all)
open Auth (Digest Membership StoreAccessKind)
open Access (User Store Role StoreAccess isActive)

/-! ### Rows of the tables -/

variable {writes more : List Write} {row : Membership} {write : Write} {membershipId : Uuid}
  {reference : Reference} {commits : List (Nat × List Write)} {seen : Nat} {own wrote : List Write}
  {call : Call} {log : Log} {tenantId : Uuid}

@[simp] theorem mem_insertedMemberships : row ∈ insertedMemberships writes ↔ .membership row ∈ writes :=
  mem_picked fun write row => by cases write <;> simp

@[simp] theorem mem_insertedInvitations {row : Invitation} :
    row ∈ insertedInvitations writes ↔ .invitation row ∈ writes :=
  mem_picked fun write row => by cases write <;> simp

@[simp] theorem mem_usersOf {row : User} : row ∈ usersOf writes ↔ .user row ∈ writes :=
  mem_picked fun write row => by cases write <;> simp

@[simp] theorem mem_storesOf {row : Store} : row ∈ storesOf writes ↔ .store row ∈ writes :=
  mem_picked fun write row => by cases write <;> simp

@[simp] theorem mem_rolesOf {row : Role} : row ∈ rolesOf writes ↔ .role row ∈ writes :=
  mem_picked fun write row => by cases write <;> simp

theorem mem_membershipsOf :
    row ∈ membershipsOf writes ↔
      ∃ added, .membership added ∈ writes ∧ membershipAfter writes added = row := by
  simp only [membershipsOf, mem_map, mem_insertedMemberships]

theorem mem_invitationsOf {row : Invitation} :
    row ∈ invitationsOf writes ↔ ∃ added, .invitation added ∈ writes ∧ added.after writes = row := by
  simp only [invitationsOf, mem_map, mem_insertedInvitations]

/-! ### Memberships -/

section MembershipRows

variable {other : Membership}

def membershipKey (row : Membership) : Uuid × Uuid × Uuid := (row.id, row.tenantId, row.userId)

theorem applyMembership_key (row : Membership) (write : Write) :
    membershipKey (applyMembership row write) = membershipKey row := by
  unfold applyMembership
  split <;> (try split_ifs) <;> rfl

theorem membershipAfter_key : membershipKey (membershipAfter writes row) = membershipKey row :=
  foldl_keeps applyMembership_key writes row

@[simp] theorem membershipAfter_id : (membershipAfter writes row).id = row.id :=
  congrArg (·.1) membershipAfter_key

@[simp] theorem membershipAfter_tenantId : (membershipAfter writes row).tenantId = row.tenantId :=
  congrArg (·.2.1) membershipAfter_key

@[simp] theorem membershipAfter_userId : (membershipAfter writes row).userId = row.userId :=
  congrArg (·.2.2) membershipAfter_key

theorem membershipAfter_append :
    membershipAfter (writes ++ more) row = membershipAfter more (membershipAfter writes row) :=
  foldl_append

theorem applyMembership_untouched (apart : write.changes ≠ some (.membership row.id)) :
    applyMembership row write = row := by
  have other : ∀ id, write.changes = some (.membership id) → row.id ≠ id :=
    fun id about same => apart (about.trans (same ▸ rfl))
  unfold applyMembership
  split
  · exact if_neg (other _ rfl)
  · exact if_neg (other _ rfl)
  · exact if_neg (other _ rfl)
  · rfl

/-- **A membership that no write is about stays as it is.** -/
theorem membershipAfter_untouched (apart : ∀ write ∈ writes, write.changes ≠ some (.membership row.id)) :
    membershipAfter writes row = row :=
  foldl_fixed fun write mem => applyMembership_untouched (apart write mem)

theorem membershipAfter_more (apart : ∀ write ∈ more, write.changes ≠ some (.membership row.id)) :
    membershipAfter (writes ++ more) row = membershipAfter writes row := by
  rw [membershipAfter_append, membershipAfter_untouched]
  simpa using apart

/-- **A deleted membership stays deleted, and a revoked one revoked.** -/
theorem applyMembership_ended :
    (row.deletedAt ≠ none → (applyMembership row write).deletedAt ≠ none) ∧
      (row.revokedAt ≠ none → (applyMembership row write).revokedAt ≠ none) := by
  unfold applyMembership
  split
  · split_ifs <;> simp
  · split_ifs <;> simp
  · split_ifs <;> simp
  · simp

theorem deleted_stays (deleted : row.deletedAt ≠ none) : (membershipAfter writes row).deletedAt ≠ none := by
  induction writes generalizing row with
  | nil => exact deleted
  | cons write rest ih => exact ih (applyMembership_ended.1 deleted)

theorem revoked_stays (revoked : row.revokedAt ≠ none) : (membershipAfter writes row).revokedAt ≠ none := by
  induction writes generalizing row with
  | nil => exact revoked
  | cons write rest ih => exact ih (applyMembership_ended.2 revoked)

theorem sameMember_comm : sameMember row other = sameMember other row := by
  simp only [sameMember, eq_comm]

theorem sameMember_iff : sameMember row other = true ↔ row.tenantId = other.tenantId ∧ row.userId =
    other.userId := by
  simp [sameMember]

end MembershipRows

/-! ### Invitations -/

variable {id userId : Uuid}

namespace Invitation

variable {row : Invitation}

def offer (row : Invitation) :
    Uuid × Uuid × String × Uuid × StoreAccessKind × List Uuid × Digest × Int × Option Int :=
  (row.id, row.tenantId, row.email, row.roleId, row.storeAccessKind, row.invitedStoreIds, row.tokenHash,
    row.expiresAt, row.deletedAt)

theorem apply_offer (row : Invitation) (write : Write) : (row.apply write).offer = row.offer := by
  unfold apply
  split <;> (try split_ifs) <;> rfl

theorem after_offer : (row.after writes).offer = row.offer := foldl_keeps apply_offer writes row

@[simp] theorem after_id : (row.after writes).id = row.id := congrArg (·.1) after_offer

@[simp] theorem after_tenantId : (row.after writes).tenantId = row.tenantId :=
  congrArg (·.2.1) after_offer

@[simp] theorem after_email : (row.after writes).email = row.email := congrArg (·.2.2.1) after_offer

@[simp] theorem after_roleId : (row.after writes).roleId = row.roleId := congrArg (·.2.2.2.1) after_offer

@[simp] theorem after_storeAccessKind : (row.after writes).storeAccessKind = row.storeAccessKind :=
  congrArg (·.2.2.2.2.1) after_offer

@[simp] theorem after_invitedStoreIds : (row.after writes).invitedStoreIds = row.invitedStoreIds :=
  congrArg (·.2.2.2.2.2.1) after_offer

@[simp] theorem after_tokenHash : (row.after writes).tokenHash = row.tokenHash :=
  congrArg (·.2.2.2.2.2.2.1) after_offer

@[simp] theorem after_expiresAt : (row.after writes).expiresAt = row.expiresAt :=
  congrArg (·.2.2.2.2.2.2.2.1) after_offer

@[simp] theorem after_deletedAt : (row.after writes).deletedAt = row.deletedAt :=
  congrArg (·.2.2.2.2.2.2.2.2) after_offer

@[simp] theorem after_grantedStores : (row.after writes).grantedStores = row.grantedStores := by
  simp only [grantedStores, after_storeAccessKind, after_invitedStoreIds]

theorem after_append : row.after (writes ++ more) = (row.after writes).after more := foldl_append

theorem apply_untouched (apart : write.changes ≠ some (.invitation row.id)) : row.apply write = row := by
  have other : ∀ id, write.changes = some (.invitation id) → row.id ≠ id :=
    fun id about same => apart (about.trans (same ▸ rfl))
  unfold apply
  split
  · exact if_neg fun expires => other _ rfl expires.1
  · exact if_neg (other _ rfl)
  · rfl

/-- **An invitation that no write is about stays as it is.** -/
theorem after_untouched (apart : ∀ write ∈ writes, write.changes ≠ some (.invitation row.id)) :
    row.after writes = row :=
  foldl_fixed fun write mem => apply_untouched (apart write mem)

theorem after_more (apart : ∀ write ∈ more, write.changes ≠ some (.invitation row.id)) :
    row.after (writes ++ more) = row.after writes := by
  rw [after_append, after_untouched]
  simpa using apart

/-- **What is pending was pending before.** -/
theorem pending_before (pending : (row.after writes).status = .pending) : row.status = .pending := by
  induction writes generalizing row with
  | nil => exact pending
  | cons write rest ih =>
    have prior : (row.apply write).status = .pending := ih pending
    unfold apply at prior
    split at prior
    · split_ifs at prior with expires
      exact prior
    · split_ifs at prior
      exact prior
    · exact prior

theorem accepted_stays (taken : row.status = .accepted) : (row.after writes).status = .accepted := by
  induction writes generalizing row with
  | nil => exact taken
  | cons write rest ih =>
    refine ih ?_
    unfold apply
    split
    · rw [if_neg fun expires => by rw [taken] at expires; cases expires.2]
      exact taken
    · split_ifs
      · rfl
      · exact taken
    · exact taken

theorem accepted_of_mem {time : Int} (same : row.id = id) (mem : .accept id userId time ∈ writes) :
    (row.after writes).status = .accepted := by
  obtain ⟨before, after, rfl⟩ := append_of_mem mem
  rw [after_append]
  have taken : ((row.after before).apply (.accept id userId time)).status = .accepted := by
    simp only [apply, after_id, same, if_true]
  exact (accepted_stays taken : (((row.after before).apply _).after after).status = _)

end Invitation

/-! ### Store access -/

section AccessRows

variable {rows : List StoreAccess}

def Write.touches : Write → Option Uuid
  | grant row => some row.membershipId
  | clear membershipId => some membershipId
  | _ => none

/-- **Store access that no write is about stays as it is.** -/
theorem accessOf_untouched (apart : ∀ write ∈ more, write.touches ≠ some membershipId) :
    accessOf (writes ++ more) membershipId = accessOf writes membershipId := by
  have still : ∀ rows : List StoreAccess, (more.foldl applyAccess rows).filter (fun row => row.membershipId =
      membershipId) = rows.filter fun row => row.membershipId = membershipId := by
    induction more with
    | nil => exact fun rows => rfl
    | cons write rest ih =>
      intro rows
      rw [foldl_cons, ih fun write mem => apart write (mem_cons_of_mem _ mem)]
      have other := apart write mem_cons_self
      cases write with
      | grant row =>
        have mine : row.membershipId ≠ membershipId := fun same => other (congrArg some same)
        simp [applyAccess, filter_append, mine]
      | clear cleared =>
        have mine : cleared ≠ membershipId := fun same => other (congrArg some same)
        simp only [applyAccess, filter_filter]
        refine filter_congr fun row _ => ?_
        by_cases same : row.membershipId = membershipId
        · simp [same, Ne.symm mine]
        · simp [same]
      | _ => rfl
  unfold accessOf storeAccessOf
  rw [foldl_append]
  exact still _

theorem foldl_grants (rows granted : List StoreAccess) :
    (granted.map Write.grant).foldl applyAccess rows = rows ++ granted := by
  induction granted generalizing rows with
  | nil => exact (append_nil rows).symm
  | cons row rest ih =>
    rw [map_cons, foldl_cons, ih]
    simp [applyAccess]

theorem accessOf_grants (mine : ∀ row ∈ rows, row.membershipId = membershipId) :
    accessOf (writes ++ rows.map .grant) membershipId = accessOf writes membershipId ++ rows := by
  unfold accessOf storeAccessOf
  rw [foldl_append, foldl_grants, filter_append]
  congr 1
  exact filter_eq_self.2 fun row mem => decide_eq_true (mine row mem)

/-- **After the DELETE a membership has the rows of the INSERT.** -/
theorem accessOf_replaced (mine : ∀ row ∈ rows, row.membershipId = membershipId) :
    accessOf (writes ++ .clear membershipId :: rows.map .grant) membershipId = rows := by
  have cleared : accessOf (writes ++ [.clear membershipId]) membershipId = [] := by
    unfold accessOf storeAccessOf
    rw [foldl_append]
    simp [applyAccess, filter_filter]
  rw [append_cons, accessOf_grants mine, cleared, nil_append]

end AccessRows

/-! ### What a statement found, as of the commit -/

theorem clash_comm (first second : Write) : clash first second = clash second first := by
  cases first <;> cases second <;>
    simp [clash, Write.changes, sameEmail, sameMember, accessKey, eq_comm]

theorem clash_of_changes {first second : Write} {target : Target} (one : first.changes = some target)
    (two : second.changes = some target) : clash first second = true := by
  have changed : clash first second = (first.changes.isSome && decide (first.changes = second.changes)) := by
    cases first with
    | remove | update | revoke | expire | accept => rfl
    | _ => cases one
  rw [changed, one, two]
  simp

section Found

/-- No row stands in the way of a new membership. -/
structure Free (writes : List Write) (row : Membership) : Prop where
  fresh : ∀ other, .membership other ∈ writes → other.id ≠ row.id
  unique : ∀ other, .membership other ∈ writes → sameMember other row = true →
    (membershipAfter writes other).deletedAt ≠ none

/-- An invitation under the id is pending, and unexpired. -/
def Markable (writes : List Write) (id : Uuid) (now : Int) : Prop :=
  ∃ row, .invitation row ∈ writes ∧ row.id = id ∧ (row.after writes).status = .pending ∧
    now < row.expiresAt

/-- New store access is of stores of its tenant, each once. -/
structure GrantsHold (writes : List Write) (rows : List StoreAccess) : Prop where
  once : (rows.map accessKey).Nodup
  stores : ∀ row ∈ rows, ∃ store, .store store ∈ writes ∧ store.id = row.storeId ∧
    store.tenantId = row.tenantId

variable {now : Int}

theorem early_or_since (seen : Nat) (mem : write ∈ contents commits) :
    write ∈ contents (commits.take seen) ∨ write ∈ contents (commits.drop seen) := by
  rwa [contents_split commits seen, mem_append] at mem

theorem early (mem : write ∈ contents (commits.take seen)) : write ∈ contents commits :=
  contents_take mem

def Write.spares (write : Write) : Prop :=
  (∀ row, write ≠ .membership row) ∧ ∀ id, write.changes ≠ some (.membership id)

/-- **An INSERT of a membership finds no other in its way, and none comes until its commit.** -/
theorem insertMembership_ok {row : Membership} (calm : ∀ write ∈ own, write.spares)
    (held : ∀ first ∈ contents (commits.drop seen), ∀ second ∈ wrote, clash first second = false)
    (added : insertMembership reference (contents (commits.take seen) ++ own) row = .ok wrote) :
    wrote = [.membership row] ∧ Free (contents commits) row := by
  obtain ⟨_, fresh, added⟩ := bind_ok added
  obtain ⟨_, unique, added⟩ := bind_ok added
  obtain ⟨-, -, -, added⟩ := bind_ok₃ added
  cases added
  refine ⟨rfl, fun other mem => ?_, fun other mem same => ?_⟩
  · rcases early_or_since seen mem with old | since
    · exact require_all fresh other (mem_insertedMemberships.2 (mem_append_left _ old))
    · have apart := held _ since _ (mem_singleton_self _)
      simp only [clash, or_eq_false_iff, decide_eq_false_iff_not] at apart
      exact apart.1
  · rcases early_or_since seen mem with old | since
    · have gone :=
        all_eq_true.1 (require_ok unique) _ (mem_membershipsOf.2 ⟨other, mem_append_left _ old, rfl⟩)
      rw [membershipAfter_more fun write inside => (calm write inside).2 _] at gone
      have deleted : (membershipAfter (contents (commits.take seen)) other).deletedAt ≠ none := by
        intro alive
        rw [sameMember_iff] at same
        simp [alive, sameMember, same.1, same.2] at gone
      rw [contents_split commits seen, membershipAfter_append]
      exact deleted_stays deleted
    · have apart := held _ since _ (mem_singleton_self _)
      simp only [clash, or_eq_false_iff] at apart
      rw [same] at apart
      cases apart.2

/-- **An acceptance finds its invitation pending, and it stays so until the commit.** -/
theorem markAccepted_ok (reference : Reference) {date : Int} {reply : Bool}
    (ran : exec reference now (contents (commits.take seen)) (.markAccepted id userId date) =
        .ok (reply, wrote)) (marked : reply = true)
    (held : ∀ first ∈ contents (commits.drop seen), ∀ second ∈ wrote, clash first second = false) :
    wrote = [.accept id userId date] ∧ Markable (contents commits) id now := by
  simp only [exec] at ran
  split_ifs at ran with found
  · cases ran
    obtain ⟨found', mem, holds⟩ := List.any_eq_true.1 found
    obtain ⟨row, added, rfl⟩ := mem_invitationsOf.1 mem
    simp only [and_eq_true, decide_eq_true_eq, Invitation.after_id, Invitation.after_expiresAt]
      at holds
    refine ⟨rfl, row, early added, holds.1.1, ?_, holds.2⟩
    rw [contents_split commits seen, Invitation.after_more]
    · exact holds.1.2
    · intro write since about
      have mine : (Write.accept id userId date).changes = some (.invitation row.id) := by
        rw [holds.1.1]
        rfl
      have apart := held write since _ (mem_singleton_self _)
      rw [clash_of_changes about mine] at apart
      cases apart
  · cases ran
    cases marked

theorem insertAccess_ok {rows : List StoreAccess} (calm : ∀ write ∈ own, ∀ row, write ≠ .store row)
    (added : insertAccess (contents (commits.take seen) ++ own) rows = .ok wrote) :
    wrote = rows.map .grant ∧ GrantsHold (contents commits) rows := by
  obtain ⟨_, once, added⟩ := bind_ok added
  obtain ⟨-, -, added⟩ := bind_ok added
  obtain ⟨_, known, added⟩ := bind_ok added
  cases added
  refine ⟨rfl, ?_, fun row mem => ?_⟩
  · have unique := require_ok once
    rw [and_eq_true] at unique
    exact of_decide_eq_true unique.1
  · obtain ⟨store, there, holds⟩ := List.any_eq_true.1 (all_eq_true.1 (require_ok known) row mem)
    rw [and_eq_true, decide_eq_true_eq, decide_eq_true_eq] at holds
    refine ⟨store, ?_, holds⟩
    rcases mem_append.1 (mem_storesOf.1 there) with here | mine
    · exact early here
    · exact absurd rfl (calm _ mine store)

end Found

/-! ### Checks of a request -/

section Checks

variable {ids : List String}

theorem checkRole_effect {roleId : Uuid} {code : String}
    (ends : Completes (membershipServer reference) commits call [] (checkRole tenantId code) log roleId) :
    written log = [] ∧ hasRole (contents commits) tenantId roleId = true := by
  unfold checkRole at ends
  split_ifs at ends
  · exact absurd ends not_completes_fail
  obtain ⟨found, seen, wrote, last, rfl, -, ran, logged, ends⟩ := query_then ends
  obtain ⟨same, rfl⟩ := ok_inj ran
  cases found with
  | none => exact absurd ends not_completes_fail
  | some found =>
    obtain ⟨rfl, rfl⟩ := completes_done ends
    obtain ⟨role, there, rfl⟩ := map_eq_some_iff.1 same
    have holds := find?_some there
    simp only [and_eq_true, decide_eq_true_eq] at holds
    refine ⟨by rw [append_nil, logged.written], List.any_eq_true.2 ⟨role, ?_, by simp [holds.1]⟩⟩
    rw [append_nil] at there
    exact mem_rolesOf.2 (early (mem_rolesOf.1 (mem_of_find?_eq_some there)))

def NamesStore (writes : List Write) (tenantId : Uuid) (text : String) : Prop :=
  ∃ store, .store store ∈ writes ∧ store.tenantId = tenantId ∧ text = store.id.text

/-- **Stores that were checked are the tenant's.** -/
theorem checkStores_effect {done : Unit}
    (ends : Completes (membershipServer reference) commits call [] (checkStores tenantId ids) log done) :
    written log = [] ∧ ∀ text ∈ ids, NamesStore (contents commits) tenantId text := by
  obtain ⟨invalid, first, last, rfl, finding, ends⟩ := completes_bind ends
  split_ifs at ends with unknown
  · exact absurd ends not_completes_fail
  obtain rfl := not_not.1 unknown
  obtain ⟨rfl, -⟩ := completes_done ends
  rw [append_nil]
  unfold findInvalidStoreIds at finding
  split_ifs at finding with empty
  · obtain ⟨rfl, -⟩ := completes_done finding
    rw [empty]
    exact ⟨rfl, fun _ none => by cases none⟩
  · obtain ⟨valid, seen, wrote, last, rfl, -, ran, logged, ends⟩ := query_then finding
    obtain ⟨same, rfl⟩ := ok_inj ran
    obtain ⟨rfl, all⟩ := completes_done ends
    refine ⟨by rw [append_nil, logged.written], fun text mem => ?_⟩
    have listed := filter_eq_nil_iff.1 all.symm text mem
    rw [decide_eq_true_eq, not_not] at listed
    obtain ⟨id, inside, rfl⟩ := mem_map.1 listed
    rw [← same] at inside
    obtain ⟨store, there, rfl⟩ := mem_map.1 inside
    obtain ⟨there, holds⟩ := mem_filter.1 there
    simp only [and_eq_true, decide_eq_true_eq] at holds
    rw [append_nil] at there
    exact ⟨store, early (mem_storesOf.1 there), holds.1.1.1, rfl⟩

theorem storeIds_of_texts {writes : List Write} {texts : List String} (once : texts.Nodup)
    (named : ∀ text ∈ texts, NamesStore writes tenantId text) :
    (texts.filterMap Uuid.ofText).Nodup ∧ (texts ≠ [] → texts.filterMap Uuid.ofText ≠ []) ∧
      ∀ id ∈ texts.filterMap Uuid.ofText, ∃ store, .store store ∈ writes ∧ store.id = id ∧
      store.tenantId = tenantId := by
  have read : ∀ text ∈ texts, ∀ id, Uuid.ofText text = some id → text = id.text := by
    intro text mem id parsed
    obtain ⟨store, -, -, rfl⟩ := named text mem
    rw [Uuid.ofText_text] at parsed
    rw [Option.some.inj parsed]
  refine ⟨?_, fun some => ?_, fun id mem => ?_⟩
  · induction once with
    | nil => exact nodup_nil
    | @cons text rest apart _ ih =>
      obtain ⟨store, -, -, rfl⟩ := named _ mem_cons_self
      rw [filterMap_cons_some (Uuid.ofText_text store.id), nodup_cons]
      refine ⟨fun inside => ?_, ih (fun text mem => named text (mem_cons_of_mem _ mem))
        fun text mem => read text (mem_cons_of_mem _ mem)⟩
      obtain ⟨other, there, parsed⟩ := mem_filterMap.1 inside
      exact apart other there (read other (mem_cons_of_mem _ there) _ parsed).symm
  · obtain ⟨text, rest, rfl⟩ := exists_cons_of_ne_nil some
    obtain ⟨store, -, -, rfl⟩ := named _ mem_cons_self
    rw [filterMap_cons_some (Uuid.ofText_text store.id)]
    exact List.cons_ne_nil _ _
  · obtain ⟨text, there, parsed⟩ := mem_filterMap.1 mem
    obtain ⟨store, known, tenant, rfl⟩ := named text there
    rw [Uuid.ofText_text] at parsed
    exact ⟨store, known, Option.some.inj parsed, tenant⟩

end Checks

/-! ### What a call did -/

section Deeds

variable (reference : Reference) (commits : List (Nat × List Write)) (call : Call) (log : Log)

/-- **An invitation went in**, after stale ones expired: at its check no other was pending. -/
structure Invites (row : Invitation) (stale : List Uuid) : Prop where
  checked : ∃ seen, seen ≤ commits.length ∧
    Entry.answered (.findPendingByEmail row.tenantId row.email) seen (.ok (false, [])) ∈ log ∧
    ∀ other, .invitation other ∈ contents (commits.take seen) →
      (other.after (contents (commits.take seen) ++ stale.map .expire)).pendingFor row.tenantId row.email =
        true → other.deletedAt ≠ none
  known : ∀ id ∈ stale, ∃ other, .invitation other ∈ contents commits ∧ other.id = id
  fresh : ∀ other, .invitation other ∈ contents commits → other.id ≠ row.id
  tenant : reference.tenants row.tenantId = true
  role : hasRole (contents commits) row.tenantId row.roleId = true
  once : row.invitedStoreIds.Nodup
  stores : ∀ id ∈ row.invitedStoreIds, ∃ store, .store store ∈ contents commits ∧ store.id = id ∧
    store.tenantId = row.tenantId
  kind : row.storeAccessKind = .specific ↔ row.invitedStoreIds ≠ []
  pending : row.status = .pending
  deletedAt : row.deletedAt = none

/-- **An invitation was accepted**: it was pending, and its user gets the membership it offers. -/
structure Accepts (rawToken : String) (invitation : Invitation) (user : User) (row : Membership) :
    Prop where
  there : .invitation invitation ∈ contents commits
  token : invitation.tokenHash = reference.hashToken rawToken
  unexpired : call.date < invitation.expiresAt
  marked : Markable (contents commits) invitation.id call.now
  known : .user user ∈ contents commits
  email : sameEmail user.email invitation.email = true
  free : Free (contents commits) row
  offered : row = ⟨row.id, invitation.tenantId, user.id, invitation.roleId, invitation.storeAccessKind,
    none, none⟩
  grants : GrantsHold (contents commits) (accessRows row.id invitation.tenantId invitation.grantedStores)

def admission (invitation : Invitation) (user : User) (row : Membership) : List Write :=
  .accept invitation.id user.id call.date :: .membership row ::
    (accessRows row.id invitation.tenantId invitation.grantedStores).map .grant

def admitted (invitation : Invitation) (user : User) (row : Membership) (roleCode : String) :
    MembershipDetail where
  membershipId := row.id
  user := ⟨user.id, user.email, user.displayName⟩
  roleCode := roleCode
  storeAccessKind := invitation.storeAccessKind
  accessibleStoreIds := invitation.grantedStores
  revokedAt := none

/-- What an update writes to `store_access`. -/
inductive Rewrites (membershipId tenantId : Uuid) (dto : UpdateBody) : List Write → Prop where
  | kept (kind : dto.storeAccessKind = none) : Rewrites membershipId tenantId dto []
  | closed (kind : dto.storeAccessKind = some .all) :
      Rewrites membershipId tenantId dto [.clear membershipId]
  | replaced {stores : List Uuid} (nonempty : stores ≠ [])
      (kind : dto.storeAccessKind = some .specific ∨ dto.keepsKind = true)
      (grants : GrantsHold (contents commits) (accessRows membershipId tenantId stores)) :
      Rewrites membershipId tenantId dto
        (.clear membershipId :: (accessRows membershipId tenantId stores).map .grant)

/-- **A membership was updated**: it was active when it was read, and of the kind the body leaves. -/
structure Updates (tenantId : Uuid) (dto : UpdateBody) (row : Membership) (roleId : Option Uuid)
    (seen : Nat) (rest : List Write) : Prop where
  tenant : row.tenantId = tenantId
  read : ∃ seen', seen' ≤ seen ∧ .membership row ∈ contents (commits.take seen') ∧
    isActive (membershipAfter (contents (commits.take seen')) row) = true ∧
    (dto.keepsKind = true →
      (membershipAfter (contents (commits.take seen')) row).storeAccessKind = .specific)
  early : seen ≤ commits.length
  answered : Entry.answered (.update row.id roleId dto.storeAccessKind) seen
    (.ok ((), [.update row.id roleId dto.storeAccessKind])) ∈ log
  still : membershipAfter (contents commits) row = membershipAfter (contents (commits.take seen)) row
  access : Rewrites commits row.id tenantId dto rest

/-- A write of another service that leaves memberships and invitations alone. -/
def Write.calm : Write → Bool
  | user _ => true
  | store _ => true
  | role _ => true
  | remove .. => true
  | _ => false

inductive Effect : Body → List Write → Prop where
  | changed {edit : Change} {writes : List Write} (asked : call.operation = .change edit)
      (calm : ∀ write ∈ writes, write.calm = true)
      (known : ∀ write ∈ writes, ∀ id, write.changes = some (.membership id) →
        ∃ row, .membership row ∈ contents commits ∧ row.id = id) : Effect .done writes
  | bootstrapped {edit : Change} {row : Membership} (asked : call.operation = .change edit)
      (free : Free (contents commits) row) (kind : row.storeAccessKind = .all) :
      Effect .done [.membership row]
  | invited {ctx : ResolvedContext} {dto : InvitationCreateDto} {rawToken : String} {row : Invitation}
      {stale : List Uuid} (asked : call.operation = .invite ctx dto rawToken)
      (invites : Invites reference commits log row stale) :
      Effect (.invited ⟨row, dto.roleCode⟩) (stale.map .expire ++ [.invitation row])
  | accepted {rawToken : String} {invitation : Invitation} {user : User} {row : Membership}
      {roleCode : String} (asked : call.operation = .accept rawToken)
      (accepts : Accepts reference commits call rawToken invitation user row) :
      Effect (.accepted (admitted invitation user row roleCode)) (admission call invitation user row)
  | updated {tenantId : Uuid} {dto : MembershipUpdateDto} {row : Membership} {roleId : Option Uuid}
      {seen : Nat} {rest : List Write} {detail : MembershipDetail}
      (asked : call.operation = .update tenantId row.id dto)
      (updates : Updates commits log tenantId dto.toUpdateBody row roleId seen rest) :
      Effect (.updated detail) (.update row.id roleId dto.storeAccessKind :: rest)
  | revoked {tenantId : Uuid} {row : Membership} (asked : call.operation = .revoke tenantId row.id)
      (there : .membership row ∈ contents commits)
      (active : isActive (membershipAfter (contents commits) row) = true) :
      Effect .done [.revoke row.id call.date]

end Deeds

/-! ### Programs -/

section Programs

variable {roleId : Option Uuid} {done : Unit}
variable {detail : MembershipDetail} {existing : Membership} {storeIds : List Uuid}
  {tokenHash : Digest} {found : Invitation} {dto : UpdateBody}

theorem since_held {stmt : Stmt} {reply : Reply stmt} (held : Held (membershipServer reference) commits log)
    (answered : Entry.answered stmt seen (.ok (reply, wrote)) ∈ log) :
    ∀ first ∈ contents (commits.drop seen), ∀ second ∈ wrote, clash first second = false :=
  held _ _ _ _ answered

theorem Held.part {part : Log} (held : Held (membershipServer reference) commits log)
    (inside : ∀ entry ∈ part, entry ∈ log) : Held (membershipServer reference) commits part :=
  fun _ _ _ _ answered => held _ _ _ _ (inside _ answered)

theorem InvitationCreateDto.kind_iff (dto : InvitationCreateDto) :
    dto.storeAccessKind = .specific ↔ given dto.storeIds ≠ [] := by
  have taken := dto.accepted
  simp only [InvitationBody.issues, append_eq_nil_iff] at taken
  obtain ⟨⟨-, specific⟩, all⟩ := taken
  constructor
  · intro kind empty
    rw [if_pos ⟨kind, empty⟩] at specific
    cases specific
  · intro some
    cases kind : dto.storeAccessKind with
    | specific => rfl
    | all =>
      rw [if_pos ⟨kind, some⟩] at all
      cases all

theorem invite_effect {ctx : ResolvedContext} {dto : InvitationCreateDto} {result : InviteResult}
    (held : Held (membershipServer reference) commits log)
    (ends : Completes (membershipServer reference) commits call [] (invite ctx dto tokenHash call.date) log
      result) :
    ∃ row stale, result = ⟨row, dto.roleCode⟩ ∧ written log = stale.map .expire ++ [.invitation row] ∧
      Invites reference commits log row stale := by
  unfold invite at ends
  split at ends
  · exact absurd ends not_completes_fail
  rename_i userId _
  obtain ⟨roleId, first, last, rfl, checking, ends⟩ := completes_bind ends
  obtain ⟨nothing, role⟩ := checkRole_effect checking
  rw [nothing, append_nil] at ends
  obtain ⟨done, second, last, rfl, checking', ends⟩ := completes_bind ends
  obtain ⟨nothing', named⟩ := checkStores_effect checking'
  rw [nothing', append_nil] at ends
  obtain ⟨row, creating, rfl⟩ := completes_map ends
  obtain ⟨done', seen, wrote, last, rfl, -, ran, logged, creating⟩ := query_then creating
  obtain ⟨stale, rfl, expired⟩ : ∃ stale : List Uuid, wrote = stale.map .expire ∧
      ∀ id ∈ stale, ∃ other, .invitation other ∈ contents commits ∧ other.id = id := by
    obtain ⟨-, same⟩ := ok_inj ran
    refine ⟨((invitationsOf _).filter _).map Invitation.id, by rw [map_map]; exact same.symm, ?_⟩
    intro id mem
    obtain ⟨current, listed, rfl⟩ := mem_map.1 mem
    obtain ⟨other, added, rfl⟩ := mem_invitationsOf.1 (mem_filter.1 listed).1
    rw [append_nil] at added
    exact ⟨other, early added, Invitation.after_id.symm⟩
  rw [logged.written, nil_append] at creating
  obtain ⟨pending, seen', wrote', last, rfl, early', executed', logged', creating⟩ := query_then creating
  obtain ⟨none, rfl⟩ := Prod.mk.inj (Except.ok.inj executed')
  cases pending with
  | true => exact absurd creating not_completes_fail
  | false =>
    rw [logged'.written, append_nil] at creating
    obtain ⟨id, draw, last, rfl, drawing, creating⟩ := completes_bind creating
    obtain rfl := completes_newId drawing
    obtain ⟨seen'', wrote'', rfl, -, executed'', logged''⟩ := query_logged creating
    obtain ⟨added, went, same⟩ := map_ok executed''
    obtain ⟨rfl, rfl⟩ := Prod.mk.inj same
    obtain ⟨_, new, went⟩ := bind_ok went
    obtain ⟨-, -, went⟩ := bind_ok went
    obtain ⟨_, tenant, went⟩ := bind_ok went
    obtain ⟨-, -, went⟩ := bind_ok₂ went
    cases went
    have locked :=
      since_held (Held.part held fun entry mem => mem_append_right _
            (mem_append_right _ (mem_append_right _ (mem_append_right _ (mem_append_right _ mem)))))
        (mem_singleton_self (Entry.answered _ seen'' _))
    have fresh : ∀ other, .invitation other ∈ contents commits → other.id ≠ id := by
      intro other mem
      rcases early_or_since seen'' mem with old | since
      · exact require_all new other (mem_insertedInvitations.2 (mem_append_left _ old))
      · have apart := locked _ since _ (mem_singleton_self _)
        simp only [clash, or_eq_false_iff, decide_eq_false_iff_not] at apart
        exact apart.1
    obtain ⟨once, some, stores⟩ := storeIds_of_texts (distinct_nodup (given dto.storeIds))
      fun text mem => named text (mem_distinct.1 mem)
    refine ⟨_, stale, rfl, ?_, ⟨seen', early', ?_, fun other mem pending => ?_⟩, expired, fresh,
      require_ok tenant, role, once, stores, ?_, rfl, rfl⟩
    · simp only [written_append, nothing, nothing', logged.written, logged'.written, logged''.written,
        nil_append]
      rfl
    · simp [CreateInvitationParams.row]
    · intro alive
      have found : ((invitationsOf (contents (commits.take seen') ++ stale.map .expire)).any fun row =>
          row.pendingFor ctx.tenantId (toLowerCase (trim dto.email)) && row.deletedAt.isNone) = true := by
        refine List.any_eq_true.2 ⟨_, mem_invitationsOf.2 ⟨other, mem_append_left _ mem, rfl⟩, ?_⟩
        rw [and_eq_true, Invitation.after_deletedAt, alive]
        exact ⟨pending, rfl⟩
      rw [none] at found
      cases found
    · refine dto.kind_iff.trans ⟨fun named => some fun empty => named (distinct_eq_nil.1 empty),
        fun kept empty => kept ?_⟩
      simp [CreateInvitationParams.row, distinct_eq_nil.2 empty]

theorem lookup_effect
    (ends : Completes (membershipServer reference) commits call []
      (lookupAndValidateAcceptToken tokenHash call.date) log found) :
    written log = [] ∧
      ∃ invitation, .invitation invitation ∈ contents commits ∧ found.offer = invitation.offer ∧
      invitation.tokenHash = tokenHash ∧ call.date < invitation.expiresAt := by
  obtain ⟨row, seen, wrote, last, rfl, -, ran, logged, ends⟩ := query_then ends
  obtain ⟨same, rfl⟩ := ok_inj ran
  cases row with
  | none => exact absurd ends not_completes_fail
  | some row =>
    dsimp only at ends
    split_ifs at ends with settled late
    · exact absurd ends not_completes_fail
    · exact absurd ends not_completes_fail
    obtain ⟨rfl, rfl⟩ := completes_done ends
    rw [append_nil] at same
    have named := find?_some same
    obtain ⟨invitation, added, rfl⟩ := mem_invitationsOf.1 (mem_of_find?_eq_some same)
    rw [decide_eq_true_eq, Invitation.after_tokenHash] at named
    rw [Invitation.after_expiresAt, not_le] at late
    exact ⟨by rw [append_nil, logged.written], invitation, early added,
      Invitation.after_offer, named, late⟩

theorem insertStoreAccessRows_effect (calm : ∀ write ∈ own, ∀ row, write ≠ .store row)
    (ends : Completes (membershipServer reference) commits call own
      (insertStoreAccessRows membershipId tenantId storeIds) log done) :
    written log = (accessRows membershipId tenantId storeIds).map .grant ∧
      GrantsHold (contents commits) (accessRows membershipId tenantId storeIds) := by
  unfold insertStoreAccessRows at ends
  by_cases empty : storeIds = []
  · rw [if_pos empty] at ends
    obtain ⟨rfl, -⟩ := completes_done ends
    rw [empty]
    exact ⟨rfl, nodup_nil, fun _ none => by cases none⟩
  · rw [if_neg empty] at ends
    obtain ⟨_, inserting, -⟩ := completes_map ends
    obtain ⟨seen, wrote, rfl, -, ran, logged⟩ := query_logged inserting
    obtain ⟨added, went, same⟩ := map_ok ran
    obtain ⟨-, rfl⟩ := Prod.mk.inj same
    obtain ⟨rfl, hold⟩ := insertAccess_ok calm went
    exact ⟨by rw [logged.written], hold⟩

theorem existingMember_throws (err : Thrown) : NeverReturns (membershipServer reference)
    (existingMember err) := by
  unfold existingMember
  split_ifs
  · exact neverReturns_fail _
  · exact neverReturns_fail _

theorem admit_effect {invitation : Invitation} {user : User} (same : found.offer = invitation.offer)
    (held : Held (membershipServer reference) commits log)
    (ends : Completes (membershipServer reference) commits call [] (admitMember found user call.date) log
      detail) :
    ∃ row roleCode,
      detail = admitted invitation user row roleCode ∧ written log = admission call invitation user row ∧
      Markable (contents commits) invitation.id call.now ∧ Free (contents commits) row ∧
      row =
        ⟨row.id, invitation.tenantId, user.id, invitation.roleId, invitation.storeAccessKind, none, none⟩ ∧
      GrantsHold (contents commits) (accessRows row.id invitation.tenantId invitation.grantedStores) := by
  simp only [Invitation.offer, Prod.mk.injEq] at same
  obtain ⟨id, tenantId, -, roleId, kind, stores, -, -, -⟩ := same
  have granted : found.grantedStores = invitation.grantedStores := by
    simp only [Invitation.grantedStores, kind, stores]
  unfold admitMember at ends
  rw [id, tenantId, roleId, kind, granted] at ends
  obtain ⟨taken, seen, wrote, last, rfl, -, ran, logged, ends⟩ := query_then ends
  rw [append_nil] at ran
  split_ifs at ends with marked
  · exact absurd ends not_completes_fail
  have won : taken = true := by
    cases taken with
    | false => exact absurd rfl marked
    | true => rfl
  obtain ⟨rfl, markable⟩ := markAccepted_ok reference ran won (since_held held mem_cons_self)
  rw [logged.written, nil_append] at ends
  obtain ⟨membershipId, second, last, rfl, drawing, ends⟩ := completes_bind ends
  obtain rfl := completes_newId drawing
  obtain ⟨made, third, last, rfl, inserting, ends⟩ := completes_bind ends
  obtain ⟨seen', wrote', rfl, -, executed', logged'⟩ :=
    query_logged (completes_rescue existingMember_throws inserting)
  obtain ⟨added, went, same⟩ := map_ok executed'
  obtain ⟨-, rfl⟩ := Prod.mk.inj same
  have calm : ∀ write ∈ [Write.accept invitation.id user.id call.date], write.spares := by
    intro write mem
    obtain rfl := mem_singleton.1 mem
    exact ⟨fun _ => nofun, fun _ => nofun⟩
  obtain ⟨rfl, free⟩ := insertMembership_ok calm (since_held held (mem_append_right _
    (mem_append_right _ (mem_append_left _ (mem_singleton_self _))))) went
  have nothing : written ([.drew membershipId] : Log) = [] := rfl
  rw [nothing, append_nil, logged'.written] at ends
  obtain ⟨done, fourth, last, rfl, granting, ends⟩ := completes_bind ends
  obtain ⟨rows, grants⟩ := insertStoreAccessRows_effect (fun write mem row same => by
    subst same
    simp at mem) granting
  obtain ⟨code, seen'', wrote'', last, rfl, -, executed'', logged'', ends⟩ := query_then ends
  obtain ⟨-, rfl⟩ := Prod.mk.inj (Except.ok.inj executed'')
  cases code with
  | none => exact absurd ends not_completes_fail
  | some roleCode =>
    obtain ⟨rfl, rfl⟩ := completes_done ends
    refine ⟨_, roleCode, rfl, ?_, markable, free, rfl, grants⟩
    rw [written_append, logged.written, written_append, nothing, written_append, logged'.written,
      written_append, rows, append_nil, logged''.written, append_nil]
    rfl

/-- **An acceptance that returned.** -/
theorem accept_effect {rawToken : String} (held : Held (membershipServer reference) commits log)
    (ends : Completes (membershipServer reference) commits call []
      (acceptInvitationExistingUser (reference.hashToken rawToken) call.date) log detail) :
    ∃ invitation user row roleCode,
      detail = admitted invitation user row roleCode ∧ written log = admission call invitation user row ∧
      Accepts reference commits call rawToken invitation user row := by
  obtain ⟨found, first, last, rfl, looking, ends⟩ := completes_bind ends
  obtain ⟨nothing, invitation, there, same, token, unexpired⟩ := lookup_effect looking
  rw [nothing, append_nil] at ends
  obtain ⟨user, seen, wrote, last, rfl, -, ran, logged, ends⟩ := query_then ends
  obtain ⟨known, rfl⟩ := ok_inj ran
  cases user with
  | none => exact absurd ends not_completes_fail
  | some user =>
    rw [logged.written, append_nil] at ends
    obtain ⟨row, roleCode, rfl, writes, marked, free, offered, grants⟩ :=
      admit_effect same (Held.part held fun entry mem => mem_append_right _ (mem_append_right _ mem)) ends
    rw [append_nil] at known
    have holds := find?_some known
    simp only [and_eq_true] at holds
    have email : found.email = invitation.email := congrArg (·.2.2.1) same
    refine ⟨invitation, user, row, roleCode, rfl, ?_, there, token, unexpired, marked,
      early (mem_usersOf.1 (mem_of_find?_eq_some known)), email ▸ holds.1.1, free, offered, grants⟩
    rw [written_append, nothing, written_append, logged.written, writes]
    rfl

theorem revoke_effect (held : Held (membershipServer reference) commits log)
    (ends : Completes (membershipServer reference) commits call [] (revoke tenantId membershipId call.date)
      log done) :
    ∃ row, row.id = membershipId ∧ .membership row ∈ contents commits ∧
      isActive (membershipAfter (contents commits) row) = true ∧
      written log = [.revoke row.id call.date] := by
  obtain ⟨updated, seen, wrote, last, rfl, -, went, logged, ends⟩ := query_then ends
  split_ifs at ends with missed
  · exact absurd ends not_completes_fail
  obtain ⟨rfl, -⟩ := completes_done ends
  have locked := since_held held mem_cons_self
  have ran : exec reference call.now (contents (commits.take seen) ++ [])
      (.revoke membershipId tenantId call.date) = .ok (updated, wrote) := went
  rw [append_nil] at ran
  simp only [exec] at ran
  split_ifs at ran with found
  · cases ran
    obtain ⟨current, mem, holds⟩ := List.any_eq_true.1 found
    obtain ⟨row, added, rfl⟩ := mem_membershipsOf.1 mem
    simp only [and_eq_true, decide_eq_true_eq, membershipAfter_id, membershipAfter_tenantId] at holds
    obtain ⟨⟨rfl, -⟩, active⟩ := holds
    refine ⟨row, rfl, early added, ?_, by rw [append_nil, logged.written]⟩
    rw [contents_split commits seen, membershipAfter_more]
    · exact active
    · intro write since about
      have apart := locked write since _ (mem_singleton_self _)
      rw [clash_of_changes about rfl] at apart
      cases apart
  · cases ran
    exact absurd rfl missed

/-- The stores of a body were checked where they are used, and a body that leaves the kind met
`specific`. -/
theorem checkAccess_effect
    (ends : Completes (membershipServer reference) commits call [] (checkAccess tenantId existing dto) log
      done) :
    written log = [] ∧ (dto.keepsKind = true → existing.storeAccessKind = .specific) ∧
      (dto.storeAccessKind = some .specific ∨ dto.keepsKind = true →
        given dto.storeIds ≠ [] ∧
        ∀ text ∈ given dto.storeIds, NamesStore (contents commits) tenantId text) := by
  unfold checkAccess at ends
  by_cases ambiguous : dto.storeIds.isSome ∧ dto.storeAccessKind.isNone ∧ existing.storeAccessKind ≠ .specific
  · rw [if_pos ambiguous] at ends
    exact absurd ends not_completes_fail
  have kept : dto.keepsKind = true → existing.storeAccessKind = .specific := by
    intro keeps
    rw [UpdateBody.keepsKind, and_eq_true] at keeps
    by_contra other
    exact ambiguous ⟨keeps.1, keeps.2, other⟩
  have named : dto.storeAccessKind = some .specific ∨ dto.keepsKind = true → dto.storeAccessKind.getD
      existing.storeAccessKind = .specific ∧ (dto.storeAccessKind = some .specific ∨ dto.storeIds.isSome) := by
    rintro (kind | keeps)
    · exact ⟨by rw [kind]; rfl, .inl kind⟩
    · have specific := kept keeps
      rw [UpdateBody.keepsKind, and_eq_true, isNone_iff_eq_none] at keeps
      exact ⟨by rw [keeps.2]; exact specific, .inr keeps.1⟩
  rw [if_neg ambiguous] at ends
  by_cases empty : dto.storeAccessKind.getD existing.storeAccessKind = .specific ∧
      (dto.storeAccessKind = some .specific ∨ dto.storeIds.isSome) ∧ given dto.storeIds = []
  · rw [if_pos empty] at ends
    exact absurd ends not_completes_fail
  rw [if_neg empty] at ends
  by_cases full : dto.storeAccessKind.getD existing.storeAccessKind = .specific ∧ given dto.storeIds ≠ []
  · rw [if_pos full] at ends
    obtain ⟨checked, first, last, rfl, checking, ends⟩ := completes_bind ends
    obtain ⟨nothing, known⟩ := checkStores_effect checking
    split_ifs at ends
    · exact absurd ends not_completes_fail
    obtain ⟨rfl, -⟩ := completes_done ends
    exact ⟨by rw [append_nil, nothing], kept, fun _ => ⟨full.2, known⟩⟩
  · rw [if_neg full] at ends
    obtain ⟨rfl, -⟩ := completes_done ends
    refine ⟨rfl, kept, fun uses => ?_⟩
    obtain ⟨specific, sent⟩ := named uses
    by_cases none : given dto.storeIds = []
    · exact absurd ⟨specific, sent, none⟩ empty
    · exact absurd ⟨specific, none⟩ full

theorem replaceAccess_effect (calm : ∀ write ∈ own, ∀ row, write ≠ .store row)
    (ends : Completes (membershipServer reference) commits call own (replaceAccess existing storeIds) log
      done) :
    written log = .clear existing.id :: (accessRows existing.id existing.tenantId storeIds).map .grant ∧
      GrantsHold (contents commits) (accessRows existing.id existing.tenantId storeIds) := by
  obtain ⟨cleared, seen, wrote, last, rfl, -, ran, logged, ends⟩ := query_then ends
  obtain ⟨-, rfl⟩ := ok_inj ran
  obtain ⟨rows, grants⟩ := insertStoreAccessRows_effect (fun write mem row same => by
    subst same
    rw [logged.written, mem_append, mem_singleton] at mem
    rcases mem with mine | other
    · exact calm _ mine row rfl
    · cases other) ends
  exact ⟨by rw [written_append, logged.written, rows]; rfl, grants⟩

theorem readDetail_effect
    (ends : Completes (membershipServer reference) commits call own (readDetail membershipId) log detail) :
    written log = [] := by
  obtain ⟨found, seen, wrote, last, rfl, -, ran, logged, ends⟩ := query_then ends
  obtain ⟨-, rfl⟩ := ok_inj ran
  cases found with
  | none => exact absurd ends not_completes_fail
  | some found =>
    obtain ⟨roleCode, row⟩ := found
    obtain ⟨stores, second, last, rfl, reading, ends⟩ := completes_bind ends
    obtain ⟨user, seen', wrote', last, rfl, -, executed', logged', ends⟩ := query_then ends
    obtain ⟨-, rfl⟩ := Prod.mk.inj (Except.ok.inj executed')
    obtain ⟨rfl, -⟩ := completes_done ends
    have nothing : written second = [] := by
      cases kind : row.storeAccessKind with
      | all =>
        rw [kind] at reading
        obtain ⟨rfl, -⟩ := completes_done reading
        rfl
      | specific =>
        rw [kind, readGrants] at reading
        obtain ⟨seen'', wrote'', rfl, -, executed'', logged''⟩ := query_logged reading
        obtain ⟨-, rfl⟩ := Prod.mk.inj (Except.ok.inj executed'')
        exact logged''.written
    rw [written_append, logged.written, written_append, nothing, append_nil, logged'.written]
    rfl

theorem checkNewRole_effect {code : Option String}
    (ends : Completes (membershipServer reference) commits call [] (checkNewRole tenantId code) log roleId) :
    written log = [] := by
  cases code with
  | none =>
    obtain ⟨rfl, -⟩ := completes_done ends
    rfl
  | some code =>
    obtain ⟨found, checking, -⟩ := completes_map ends
    rw [(checkRole_effect checking).1]

theorem update_ok {row : Membership} {kind : Option StoreAccessKind}
    (there : .membership row ∈ contents (commits.take seen))
    (updated : updateMembership (contents (commits.take seen)) row.id roleId kind = .ok wrote) :
    wrote = [.update row.id roleId kind] := by
  unfold updateMembership at updated
  split at updated
  · rename_i missed
    have known := find?_eq_none.1 missed _ (mem_membershipsOf.2 ⟨row, there, rfl⟩)
    simp at known
  · obtain ⟨-, -, updated⟩ := bind_ok updated
    exact (Except.ok.inj updated).symm

theorem distinct_stores {storeIds : Option (List String)}
    (checked : given storeIds ≠ [] ∧ ∀ text ∈ given storeIds, NamesStore (contents commits) tenantId text) :
    (given (storeIds.map distinct)).filterMap Uuid.ofText ≠ [] := by
  have texts : given (storeIds.map distinct) = distinct (given storeIds) := by
    cases storeIds with
    | none => exact (distinct_eq_nil.2 rfl).symm
    | some ids => rfl
  rw [texts]
  exact (storeIds_of_texts (distinct_nodup _) fun text mem =>
    checked.2 text (mem_distinct.1 mem)).2.1 fun empty => checked.1 (distinct_eq_nil.1 empty)

/-- **What an update writes**: the UPDATE, and the store access its body names. -/
theorem writeUpdate_effect
    (named : dto.storeAccessKind = some .specific ∨ dto.keepsKind = true →
        given dto.storeIds ≠ [] ∧ ∀ text ∈ given dto.storeIds, NamesStore (contents commits) tenantId text)
    (ends : Completes (membershipServer reference) commits call []
      (writeUpdate existing ⟨roleId, dto.storeAccessKind, dto.storeIds.map distinct⟩) log done) :
    ∃ seen wrote rest, seen ≤ commits.length ∧ written log = wrote ++ rest ∧
      Entry.answered (.update existing.id roleId dto.storeAccessKind) seen (.ok ((), wrote)) ∈ log ∧
      updateMembership (contents (commits.take seen)) existing.id roleId dto.storeAccessKind = .ok wrote ∧
      Rewrites commits existing.id existing.tenantId dto rest := by
  obtain ⟨updated, seen, wrote, last, rfl, early, ran, logged, ends⟩ := query_then ends
  obtain ⟨wrote', went, rewrote⟩ := map_ok ran
  obtain ⟨-, rfl⟩ := Prod.mk.inj rewrote
  rw [append_nil] at went
  rw [logged.written, nil_append] at ends
  have calm : ∀ write ∈ wrote', ∀ row, write ≠ .store row := by
    intro write mem row same
    unfold updateMembership at went
    split at went
    · cases went
      cases mem
    · obtain ⟨-, -, went⟩ := bind_ok went
      cases went
      cases mem_singleton.1 (same ▸ mem)
  refine ⟨seen, wrote', written last, early, ?_, mem_cons_self, went, ?_⟩
  · rw [written_append, logged.written]
  · have stores : dto.storeAccessKind = some .specific ∨ dto.keepsKind = true →
        Completes (membershipServer reference) commits call wrote'
          (replaceAccess existing ((given (dto.storeIds.map distinct)).filterMap Uuid.ofText)) last done →
        Rewrites commits existing.id existing.tenantId dto (written last) := by
      intro uses replacing
      obtain ⟨rows, grants⟩ := replaceAccess_effect calm replacing
      rw [rows]
      exact .replaced (distinct_stores (named uses)) uses grants
    cases kind : dto.storeAccessKind with
    | some kind' =>
      rw [kind] at ends
      cases kind' with
      | all =>
        obtain ⟨rows, -⟩ := replaceAccess_effect calm ends
        rw [rows]
        exact .closed kind
      | specific => exact stores (.inl kind) ends
    | none =>
      rw [kind] at ends
      cases sent : dto.storeIds with
      | none =>
        rw [sent] at ends
        obtain ⟨rfl, -⟩ := completes_done ends
        exact .kept kind
      | some ids =>
        have keeps : dto.keepsKind = true := by
          rw [UpdateBody.keepsKind, sent, kind]
          rfl
        have nonempty : given (dto.storeIds.map distinct) ≠ [] := by
          rw [sent]
          exact fun empty => (named (.inr keeps)).1 (by rw [sent]; exact distinct_eq_nil.1 empty)
        rw [if_neg (by simp), if_pos nonempty] at ends
        exact stores (.inr keeps) ends

/-- **An update that returned.** -/
theorem update_effect {dto : MembershipUpdateDto} (held : Held (membershipServer reference) commits log)
    (ordered : Ordered log)
    (ends : Completes (membershipServer reference) commits call [] (update tenantId membershipId dto) log
      detail) :
    ∃ row roleId seen rest,
      row.id = membershipId ∧ written log = .update row.id roleId dto.storeAccessKind :: rest ∧
      Updates commits log tenantId dto.toUpdateBody row roleId seen rest := by
  obtain ⟨existing, seen, wrote, last, rfl, early', ran, logged, ends⟩ := query_then ends
  obtain ⟨found, rfl⟩ := ok_inj ran
  cases existing with
  | none => exact absurd ends not_completes_fail
  | some existing =>
    rw [append_nil] at found
    have holds := find?_some found
    obtain ⟨row, added, rfl⟩ := mem_membershipsOf.1 (mem_of_find?_eq_some found)
    simp only [and_eq_true, decide_eq_true_eq, membershipAfter_id, membershipAfter_tenantId] at holds
    obtain ⟨⟨id, tenant⟩, active⟩ := holds
    rw [logged.written, append_nil] at ends
    obtain ⟨roleId, second, last, rfl, checking, ends⟩ := completes_bind ends
    rw [checkNewRole_effect checking, append_nil] at ends
    obtain ⟨checked, third, last, rfl, checking', ends⟩ := completes_bind ends
    obtain ⟨nothing, kept, named⟩ := checkAccess_effect checking'
    rw [nothing, append_nil] at ends
    obtain ⟨updated, fourth, last, rfl, writing, ends⟩ := completes_bind ends
    obtain ⟨seen', wrote, rest, early, rows, answered, went, access⟩ := writeUpdate_effect named writing
    rw [membershipAfter_id] at answered went access
    rw [membershipAfter_tenantId, tenant] at access
    have before : seen ≤ seen' := ordered.across (mem_seens (mem_singleton_self _))
      (mem_seens (mem_append_right _ (mem_append_right _ (mem_append_left _ answered))))
    have known : .membership row ∈ contents (commits.take seen') :=
      contents_mono (List.take_prefix_take_left before) added
    obtain rfl := update_ok known went
    refine ⟨row, roleId, seen', rest, id, ?_, tenant, ⟨seen, before, added, active, kept⟩, early, ?_, ?_, access⟩
    · rw [written_append, logged.written, written_append, checkNewRole_effect checking, written_append,
        nothing, written_append, rows, readDetail_effect ends, append_nil]
      rfl
    · exact mem_append_right _ (mem_append_right _ (mem_append_right _ (mem_append_left _ answered)))
    · rw [contents_split commits seen', membershipAfter_more]
      intro write since about
      have apart :=
        since_held held
          (mem_append_right _ (mem_append_right _ (mem_append_right _ (mem_append_left _ answered)))) write
          since _ (mem_singleton_self _)
      rw [clash_of_changes about rfl] at apart
      cases apart

theorem change_effect {edit : Change} (asked : call.operation = .change edit)
    (held : Held (membershipServer reference) commits log)
    (ends : Completes (membershipServer reference) commits call [] (clientQuery (.change edit)) log done) :
    Effect reference commits call log .done (written log) := by
  obtain ⟨seen, wrote, rfl, -, ran, logged⟩ := query_logged ends
  obtain ⟨wrote', went, same⟩ := map_ok ran
  obtain ⟨-, rfl⟩ := Prod.mk.inj same
  rw [logged.written]
  have single : ∀ write : Write, write.calm = true → write.changes = none → wrote' = [write] →
      Effect reference commits call [.answered (.change edit) seen (.ok (done, wrote'))] .done wrote' := by
    rintro write calm inert rfl
    refine .changed asked (fun other mem => mem_singleton.1 mem ▸ calm) fun other mem id about => ?_
    rw [mem_singleton.1 mem, inert] at about
    cases about
  cases edit with
  | user row =>
    obtain ⟨-, -, went⟩ := bind_ok₂ went
    exact single (.user row) rfl rfl (Except.ok.inj went).symm
  | store row =>
    obtain ⟨-, -, went⟩ := bind_ok₂ went
    exact single (.store row) rfl rfl (Except.ok.inj went).symm
  | role row =>
    obtain ⟨-, -, went⟩ := bind_ok₂ went
    exact single (.role row) rfl rfl (Except.ok.inj went).symm
  | bootstrap id tenantId userId roleId =>
    rw [append_nil] at went
    obtain ⟨rfl, free⟩ := @insertMembership_ok _ _ _ [] _ _ (fun _ none => by cases none)
      (since_held held (mem_singleton_self _)) (by rw [append_nil]; exact went)
    exact .bootstrapped asked free rfl
  | remove table id time =>
    obtain rfl := Except.ok.inj went
    split_ifs with there
    · refine .changed asked (fun write mem => ?_) fun write mem id about => ?_
      · rw [mem_singleton.1 mem]
        rfl
      · rw [mem_singleton.1 mem] at about
        cases table <;> cases about
        obtain ⟨row, added, same⟩ := List.any_eq_true.1 there
        rw [append_nil] at added
        exact ⟨row, early (mem_insertedMemberships.1 added), of_decide_eq_true same⟩
    · exact .changed asked (fun _ none => by cases none) fun _ none => by cases none

/-- **A completed call, whose writes were locked since, did one of these.** -/
theorem Operation.effect {body : Body} (held : Held (membershipServer reference) commits log)
    (ordered : Ordered log)
    (ends : Completes (membershipServer reference) commits call []
      (call.operation.program reference.hashToken call.date) log body) :
    Effect reference commits call log body (written log) := by
  cases asked : call.operation with
  | change edit =>
    rw [asked] at ends
    obtain ⟨done, changing, rfl⟩ := completes_map ends
    exact change_effect asked held changing
  | invite ctx dto rawToken =>
    rw [asked] at ends
    obtain ⟨result, inviting, rfl⟩ := completes_map ends
    obtain ⟨row, stale, rfl, writes, invites⟩ := invite_effect held inviting
    rw [writes]
    exact .invited asked invites
  | accept rawToken =>
    rw [asked] at ends
    obtain ⟨detail, accepting, rfl⟩ := completes_map ends
    obtain ⟨invitation, user, row, roleCode, rfl, writes, accepts⟩ := accept_effect held accepting
    rw [writes]
    exact .accepted asked accepts
  | update tenantId membershipId dto =>
    rw [asked] at ends
    obtain ⟨detail, updating, rfl⟩ := completes_map ends
    obtain ⟨row, roleId, seen, rest, rfl, writes, updates⟩ := update_effect held ordered updating
    rw [writes]
    exact .updated asked updates
  | revoke tenantId membershipId =>
    rw [asked] at ends
    obtain ⟨done, revoking, rfl⟩ := completes_map ends
    obtain ⟨row, rfl, there, active, writes⟩ := revoke_effect held revoking
    rw [writes]
    exact .revoked asked there active

end Programs

end DataPulse.Memberships
