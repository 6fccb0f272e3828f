/-
**Pending invitations, and what an acceptance makes of one.**

* `checksStand`: no invitation of a tenant and an e-mail is committed between the check of another one and its
  commit;
* `invitations_hold`: then there is at most one pending, unexpired invitation per tenant and e-mail;
* `invitations_overtaken`: without it, two calls that overlap leave two.
-/

import DataPulse.Memberships.Runs

namespace DataPulse.Memberships

open Lib Lib.Interleave Platform
open Auth (Digest Membership StoreAccessKind)
open Access (User Store Role StoreAccess isActive)

/-! ### The law -/

section Law

/-- The client committed an acceptance of the invitation. -/
def AcceptedBy (config : Config) (pid : Nat) (id : Uuid) : Prop :=
  ∃ writes userId time, (pid, writes) ∈ config.commits ∧ .accept id userId time ∈ writes

/-- **What an acceptance commits**: of what was there before, a pending and unexpired invitation under its
token; and one active membership of its user, with the role and the store access of the invitation. -/
structure Admission (reference : Reference) (before writes : List Write) (call : Call) (rawToken : String)
    (detail : MembershipDetail) (invitation : Invitation) (row : Membership) : Prop where
  offered : invitation ∈ invitationsOf before
  token : invitation.tokenHash = reference.hashToken rawToken
  pending : invitation.status = .pending
  unexpired : call.now < invitation.expiresAt
  settled : ∃ settled ∈ invitationsOf (before ++ writes), settled.id = invitation.id ∧
    settled.status = .accepted ∧ settled.acceptedByUserId = some row.userId
  inserted : insertedMemberships writes = [row]
  answered : row.id = detail.membershipId ∧ row.userId = detail.user.id
  tenant : row.tenantId = invitation.tenantId
  role : row.roleId = invitation.roleId
  kind : row.storeAccessKind = invitation.storeAccessKind
  active : (membershipsOf (before ++ writes)).filter (fun other => isActive other && sameMember other row) =
    [row]
  stores : accessOf (before ++ writes) row.id =
    accessRows row.id row.tenantId invitation.grantedStores

/-- **The law of invitations.** -/
structure InvitationsHold (reference : Reference) (config : Config) : Prop where
  onePending : ∀ tenantId email now, ((invitationsOf config.ledger).filter fun row =>
    row.pendingFor tenantId email && row.deletedAt.isNone && decide (now < row.expiresAt)).length ≤ 1
  once : ∀ first second id, AcceptedBy config first id → AcceptedBy config second id → first = second
  accepted : ∀ (pid : Nat) (proc : Proc) rawToken detail, config.procs[pid]? = some proc →
    proc.call.operation = .accept rawToken → proc.result = some (.ok (.accepted detail)) →
      ∃ before writes after invitation row, config.commits = before ++ (pid, writes) :: after ∧
        Admission reference (contents before) writes proc.call rawToken detail invitation row
  failed : ∀ (pid : Nat) (proc : Proc) rawToken error, config.procs[pid]? = some proc →
    proc.call.operation = .accept rawToken → proc.result = some (.error error) →
      ∀ writes, (pid, writes) ∉ config.commits

end Law

/-! ### Acceptances -/

variable {reference : Reference} {config : Config} {writes : List Write}

section Acceptances

variable {commits : List (Nat × List Write)} {call : Call} {log : Log} {body : Body}
variable {row : Membership} {rawToken : String}
variable {proc : Proc} {id : Uuid} {pid : Nat}

theorem Effect.accept (effect : Effect reference commits call log body writes) {userId : Uuid} {time : Int}
    (mem : .accept id userId time ∈ writes) : Markable (contents commits) id call.now := by
  cases effect with
  | changed asked calm known => cases calm _ mem
  | bootstrapped asked free kind => cases mem_singleton.1 mem
  | invited asked invites => simp at mem
  | accepted asked accepts =>
    rcases mem_admission.1 mem with same | same | ⟨access, -, same⟩
    · cases same
      exact accepts.marked
    · cases same
    · cases same
  | updated asked updates =>
    rcases mem_cons.1 mem with same | inside
    · cases same
    · have none := (updates.access.about inside).2.1
      cases none
  | revoked asked there active => cases mem_singleton.1 mem

/-- **An invitation is accepted by one call.** -/
theorem Reachable.accepted_once (reach : Reachable reference config) {first second : Nat}
    (one : AcceptedBy config first id) (two : AcceptedBy config second id) : first = second := by
  -- whichever comes second found the invitation pending, which the other had taken
  have excluded : ∀ {before after : List (Nat × List Write)} {pid : Nat} {writes : List Write},
      config.commits = before ++ (pid, writes) :: after →
      ∀ {userId time}, .accept id userId time ∈ writes → ∀ {pid' writes' userId' time'}, (pid', writes') ∈
        before → .accept id userId' time' ∈ writes' → False := by
    intro before after pid writes split userId time late pid' writes' userId' time' early inside
    obtain ⟨proc, body, -, -, effect⟩ := reach.effect split
    obtain ⟨row, there, same, pending, -⟩ := effect.accept late
    have taken : (row.after (contents before)).status = .accepted :=
      Invitation.accepted_of_mem same (mem_contents.2 ⟨pid', writes', early, inside⟩)
    rw [taken] at pending
    cases pending
  obtain ⟨writes, userId, time, commit, accept⟩ := one
  obtain ⟨writes', userId', time', commit', accept'⟩ := two
  obtain ⟨before, after, split⟩ := append_of_mem commit
  rw [split] at commit'
  rcases mem_append.1 commit' with early | late
  · exact (excluded split accept early accept').elim
  · rcases mem_cons.1 late with same | late
    · exact (Prod.mk.inj same).1.symm
    · obtain ⟨middle, rest, rfl⟩ := append_of_mem late
      have split' : config.commits = (before ++ (first, writes) :: middle) ++ (second, writes') :: rest := by
        rw [split, append_assoc]
        rfl
      exact (excluded split' accept' (mem_append_right _ mem_cons_self) accept).elim

theorem membership_new (sound : Sound reference (contents commits)) (free : Free (contents commits) row)
    (calm : ∀ write ∈ writes, write.changes ≠ some (.membership row.id)) :
    membershipAfter (contents commits ++ writes) row = row := by
  refine membershipAfter_untouched fun write mem about => ?_
  rcases mem_append.1 mem with old | new
  · exact sound.unmet free old (.inl about)
  · exact calm write new about

/-- **A new membership is the only active one of its user.** -/
theorem active_alone (sound : Sound reference (contents commits)) (free : Free (contents commits) row)
    (alive : isActive row = true) (calm : ∀ write ∈ writes, write.changes ≠ some (.membership row.id))
    (single : insertedMemberships writes = [row]) :
    (membershipsOf (contents commits ++ writes)).filter
      (fun other => isActive other && sameMember other row) = [row] := by
  have others :
      ((insertedMemberships (contents commits)).map (membershipAfter (contents commits ++ writes))).filter
      (fun other => isActive other && sameMember other row) = [] := by
    rw [filter_eq_nil_iff]
    intro other mem holds
    obtain ⟨added, there, rfl⟩ := mem_map.1 mem
    rw [and_eq_true, sameMember_iff, membershipAfter_tenantId, membershipAfter_userId, ← sameMember_iff] at holds
    have deleted := free.unique added (mem_insertedMemberships.1 there) holds.2
    have gone : (membershipAfter (contents commits ++ writes) added).deletedAt ≠ none := by
      rw [membershipAfter_append]
      exact deleted_stays deleted
    have active := holds.1
    rw [isActive, and_eq_true, isNone_iff_eq_none, isNone_iff_eq_none] at active
    exact gone active.2
  have rows : insertedMemberships (contents commits ++ writes) =
      insertedMemberships (contents commits) ++ [row] := by
    rw [← single]
    exact filterMap_append
  rw [membershipsOf, rows, map_append, filter_append, others, nil_append, map_cons,
    membership_new sound free calm]
  simp [alive, sameMember]

theorem access_none (sound : Sound reference (contents commits)) (free : Free (contents commits) row) :
    accessOf (contents commits) row.id = [] := by
  have nothing := @accessOf_untouched [] (contents commits) row.id fun write mem touches =>
    sound.unmet free mem (.inr touches)
  exact nothing

theorem access_new {granted : List StoreAccess} (head : List Write)
    (sound : Sound reference (contents commits)) (free : Free (contents commits) row)
    (calm : ∀ write ∈ head, write.touches = none) (mine : ∀ access ∈ granted, access.membershipId = row.id) :
    accessOf (contents commits ++ (head ++ granted.map .grant)) row.id = granted := by
  rw [← append_assoc, accessOf_grants mine, accessOf_untouched, access_none sound free, nil_append]
  intro write mem touches
  rw [calm write mem] at touches
  cases touches

theorem insertedMemberships_grants (rows : List StoreAccess) : insertedMemberships (rows.map .grant) = [] := by
  simp [insertedMemberships, filterMap_map]

/-- **What an acceptance commits.** -/
theorem Accepts.admission {invitation : Invitation} {user : User} {roleCode : String}
    (sound : Sound reference (contents commits))
    (accepts : Accepts reference commits call rawToken invitation user row) :
    Admission reference (contents commits) (Memberships.admission call invitation user row) call rawToken
      (admitted invitation user row roleCode) (invitation.after (contents commits)) row := by
  obtain ⟨other, there, same, pending, unexpired⟩ := accepts.marked
  obtain rfl := sound.invitations other invitation there accepts.there same
  have offered := accepts.offered
  have single : insertedMemberships (Memberships.admission call other user row) = [row] :=
    congrArg (row :: ·) (insertedMemberships_grants _)
  refine ⟨mem_invitationsOf.2 ⟨other, there, rfl⟩, ?_, pending, ?_, ?_, single, ⟨rfl, ?_⟩, ?_, ?_, ?_, ?_, ?_⟩
  · rw [Invitation.after_tokenHash]
    exact accepts.token
  · rw [Invitation.after_expiresAt]
    exact unexpired
  · refine ⟨_, mem_invitationsOf.2 ⟨other, mem_append_left _ there, rfl⟩, ?_, ?_, ?_⟩
    · rw [Invitation.after_id, Invitation.after_id]
    · exact Invitation.accepted_of_mem rfl (mem_append_right _ mem_cons_self)
    · rw [Invitation.after_append]
      have rows : ∀ write ∈
          (.membership row :: (accessRows row.id other.tenantId other.grantedStores).map .grant : List Write),
          write.changes = none := by
        intro write mem
        rcases mem_cons.1 mem with rfl | granted
        · rfl
        · obtain ⟨access, -, rfl⟩ := mem_map.1 granted
          rfl
      show Invitation.acceptedByUserId (((other.after _).apply _).after _) = _
      rw [Invitation.after_untouched fun write mem about => by
        rw [rows write mem] at about
        cases about]
      simp only [Invitation.apply, Invitation.after_id, if_true]
      exact congrArg some (congrArg Membership.userId offered).symm
  · exact congrArg Membership.userId offered
  · rw [Invitation.after_tenantId]
    exact congrArg Membership.tenantId offered
  · rw [Invitation.after_roleId]
    exact congrArg Membership.roleId offered
  · rw [Invitation.after_storeAccessKind]
    exact congrArg Membership.storeAccessKind offered
  · refine active_alone sound accepts.free (by rw [offered]; rfl) (fun write mem about => ?_) single
    rcases mem_admission.1 mem with rfl | rfl | ⟨access, -, rfl⟩ <;> cases about
  · rw [Invitation.after_grantedStores, show row.tenantId = other.tenantId from
      congrArg Membership.tenantId offered]
    refine access_new [.accept other.id user.id call.date, .membership row] sound accepts.free
      (fun write mem => ?_) fun access mem => ?_
    · simp only [mem_cons, not_mem_nil, or_false] at mem
      rcases mem with rfl | rfl <;> rfl
    · obtain ⟨storeId, -, rfl⟩ := mem_accessRows.1 mem
      rfl

/-- **An acceptance that returns had no failed statement.** -/
theorem accept_careful (tokenHash : Digest) (date : Int) :
    Careful (membershipServer reference) (acceptInvitationExistingUser tokenHash date) := by
  refine careful_bind (careful_bind (careful_query _) fun row => ?_) fun invitation =>
    careful_bind (careful_query _) fun user => ?_
  · cases row with
    | none => exact careful_fail _
    | some invitation =>
      dsimp only
      split_ifs
      · exact careful_fail _
      · exact careful_fail _
      · exact careful_done _
  · cases user with
    | none => exact careful_fail _
    | some user =>
      refine careful_bind (careful_query _) fun taken => ?_
      split_ifs
      · exact careful_fail _
      refine careful_bind careful_newId fun membershipId =>
        careful_bind (careful_rescue (careful_query _) existingMember_throws) fun made =>
          careful_bind ?_ fun done => careful_bind (careful_query _) fun code => ?_
      · unfold insertStoreAccessRows
        split_ifs
        · exact careful_done _
        · exact careful_bind (careful_query _) fun done => careful_done _
      · cases code with
        | none => exact careful_fail _
        | some roleCode => exact careful_done _

/-- **An acceptance that succeeds commits what its invitation offers.** -/
theorem Reachable.admits (reach : Reachable reference config) {detail : MembershipDetail}
    (found : config.procs[pid]? = some proc) (asked : proc.call.operation = .accept rawToken)
    (gave : proc.result = some (.ok (.accepted detail))) :
    ∃ before writes after invitation row, config.commits = before ++ (pid, writes) :: after ∧
      Admission reference (contents before) writes proc.call rawToken detail invitation row := by
  have ends := (reach.finishes (mem_of_getElem? found) gave).ends
  have sound : aborted proc.log = false := by
    have careful : Careful (membershipServer reference) ((Operation.accept rawToken).program reference.hashToken
      proc.call.date) := careful_bind (accept_careful _ _) fun detail => careful_done _
    rw [← asked] at careful
    exact careful _ _ ends
  obtain ⟨before, after, split⟩ := reach.committed found gave sound
  obtain ⟨proc', body, found', returned', effect⟩ := reach.effect split
  obtain rfl := mem_unique found' found
  obtain rfl := Except.ok.inj (mem_unique returned' gave)
  generalize written proc'.log = wrote at effect split
  cases effect with
  | @accepted rawToken' invitation user row roleCode asked' accepts =>
    obtain rfl := Operation.accept.inj (asked'.symm.trans asked)
    exact ⟨before, _, after, _, row, split, accepts.admission (reach.sound split)⟩

/-- **An acceptance that fails commits nothing.** -/
theorem Reachable.failed_nothing (reach : Reachable reference config) {error : Thrown}
    (found : config.procs[pid]? = some proc) (threw : proc.result = some (.error error))
    (writes : List Write) : (pid, writes) ∉ config.commits := by
  intro commit
  obtain ⟨proc', body, found', gave, -⟩ := reach.booked.committed pid writes commit
  obtain rfl := mem_unique found' found
  rw [gave] at threw
  cases threw

end Acceptances

/-! ### Pending invitations -/

section Pending

variable {more : List Write} {tenantId : Uuid} {email : String}

/-- No other invitation of the tenant and the e-mail was committed since the check of an invitation: for the
entry of a call's log, and what was committed before the call. -/
def checkStands (before : List (Nat × List Write)) :
    Interleave.Entry Stmt Reply Uuid PgError Write → Bool
  | .answered (.findPendingByEmail tenantId email) seen (.ok _) =>
    (insertedInvitations (contents (before.drop seen))).all fun row =>
      !(row.tenantId = tenantId && sameEmail row.email email)
  | _ => true

/-- **Between the check of an invitation and its commit no other one of its tenant and e-mail is
committed.** -/
def checksStand (config : Config) : Bool :=
  config.commits.zipIdx.all fun (commit, index) => (config.procs[commit.1]?).all fun proc =>
    proc.log.all (checkStands (config.commits.take index))

theorem checksStand_entry (stand : checksStand config = true) {before after : List (Nat × List Write)}
    {pid : Nat} (split : config.commits = before ++ (pid, writes) :: after) {proc : Proc}
    (found : config.procs[pid]? = some proc) {entry : Interleave.Entry Stmt Reply Uuid PgError Write}
    (mem : entry ∈ proc.log) : checkStands before entry = true := by
  have passes : LogsPass (fun _ => checkStands) config = true := stand
  exact LogsPass.entry passes split found mem

/-- How many invitations of a tenant and an e-mail are pending. -/
def pendings (writes : List Write) (tenantId : Uuid) (email : String) : Nat :=
  (insertedInvitations writes).countP fun row => (row.after writes).pendingFor tenantId email

theorem pendingFor_iff {row : Invitation} :
    row.pendingFor tenantId email = true ↔
      row.tenantId = tenantId ∧ toLowerCase row.email = toLowerCase email ∧ row.status = .pending := by
  simp [Invitation.pendingFor, sameEmail, and_assoc]

theorem pending_shrinks :
    (insertedInvitations writes).countP (fun row => (row.after (writes ++ more)).pendingFor tenantId email) ≤
      pendings writes tenantId email := by
  refine List.countP_mono_left fun row _ pending => ?_
  rw [pendingFor_iff] at pending ⊢
  rw [Invitation.after_append, Invitation.after_tenantId, Invitation.after_email] at pending
  exact ⟨pending.1, pending.2.1, Invitation.pending_before pending.2.2⟩

/-- **A call keeps it at one, if its check stands.** -/
theorem Effect.onePending {commits : List (Nat × List Write)} {call : Call} {log : Log} {body : Body}
    (sound : Sound reference (contents commits)) (effect : Effect reference commits call log body writes)
    (stands : ∀ entry ∈ log, checkStands commits entry = true)
    (one : pendings (contents commits) tenantId email ≤ 1) :
    pendings (contents commits ++ writes) tenantId email ≤ 1 := by
  have rows : insertedInvitations (contents commits ++ writes) =
      insertedInvitations (contents commits) ++ insertedInvitations writes := filterMap_append
  unfold pendings
  rw [rows, countP_append]
  by_cases quiet : insertedInvitations writes = []
  · rw [quiet]
    exact Nat.le_trans pending_shrinks one
  obtain ⟨row, others, some⟩ := exists_cons_of_ne_nil quiet
  obtain ⟨stale, invites, rfl⟩ := effect.invitation
    (mem_insertedInvitations.1 (some ▸ mem_cons_self : row ∈ insertedInvitations writes))
  have single : insertedInvitations (stale.map .expire ++ [.invitation row]) = [row] := by
    simp [insertedInvitations, filterMap_append, filterMap_map]
  rw [single]
  by_cases mine : row.tenantId = tenantId ∧ toLowerCase row.email = toLowerCase email
  · -- the others of the tenant and the e-mail were not pending at the check, or did not come since
    have none : (insertedInvitations (contents commits)).countP (fun row' => (row'.after
        (contents commits ++ (stale.map .expire ++ [.invitation row]))).pendingFor tenantId email) = 0 := by
      rw [countP_eq_zero]
      intro other mem pending
      rw [mem_insertedInvitations] at mem
      rw [pendingFor_iff, Invitation.after_tenantId, Invitation.after_email, Invitation.pending_iff] at pending
      obtain ⟨tenant, mail, pending, apart⟩ := pending
      obtain ⟨seen, -, answered, checked⟩ := invites.checked
      rcases early_or_since seen mem with old | since
      · refine checked other old ?_ (sound.offers other mem).deletedAt
        rw [pendingFor_iff, Invitation.after_tenantId, Invitation.after_email, Invitation.pending_iff]
        refine ⟨tenant.trans mine.1.symm, mail.trans mine.2.symm, pending, fun write inside => ?_⟩
        rcases mem_append.1 inside with early' | expired
        · exact apart write (mem_append_left _ (early early'))
        · exact apart write (mem_append_right _ (mem_append_left _ expired))
      · have free := all_eq_true.1 (stands _ answered) other (mem_insertedInvitations.2 since)
        simp [sameEmail, tenant, mine.1, mail, mine.2] at free
    rw [none, Nat.zero_add]
    exact List.countP_le_length
  · have other : (row.after (contents commits ++ (stale.map .expire ++ [.invitation row]))).pendingFor
        tenantId email = false := by
      rw [← not_eq_true, pendingFor_iff, Invitation.after_tenantId, Invitation.after_email]
      exact fun pending => mine ⟨pending.1, pending.2.1⟩
    rw [List.countP_cons_of_neg (by simp [other]), List.countP_nil, Nat.add_zero]
    exact Nat.le_trans pending_shrinks one

/-- **A tenant and an e-mail have at most one pending invitation**, when every check stands. -/
theorem Reachable.onePending (reach : Reachable reference config) (stand : checksStand config = true) :
    pendings config.ledger tenantId email ≤ 1 := by
  refine @prefix_induction _ config.commits (fun commits => pendings (contents commits) tenantId email ≤ 1)
    (Nat.zero_le _) ?_ config.commits [] (append_nil _).symm
  intro before last after split one
  obtain ⟨pid, writes⟩ := last
  obtain ⟨proc, body, found, -, effect⟩ := reach.effect split
  rw [contents_append, contents_cons, contents_nil, append_nil]
  exact effect.onePending (reach.sound split) (fun entry => checksStand_entry stand split found) one

/-- **Where every check stands, a tenant and an e-mail have at most one pending, unexpired invitation; an
invitation is accepted once, by a call that commits what it offers; and an acceptance that fails commits
nothing.** -/
theorem invitations_hold (reachable : Reachable reference config) (stand : checksStand config = true) :
    InvitationsHold reference config where
  onePending := by
    intro tenantId email now
    rw [invitationsOf, filter_map, length_map, ← countP_eq_length_filter]
    have fewer : (insertedInvitations config.ledger).countP
        ((fun row => row.pendingFor tenantId email && row.deletedAt.isNone &&
          decide (now < row.expiresAt)) ∘ Invitation.after config.ledger) ≤
            pendings config.ledger tenantId email := by
      refine List.countP_mono_left fun row _ holds => ?_
      simp only [Function.comp_apply, and_eq_true] at holds
      exact holds.1.1
    exact Nat.le_trans fewer (reachable.onePending stand)
  once := fun _ _ _ => reachable.accepted_once
  accepted := fun _ _ _ _ => reachable.admits
  failed := fun _ _ _ _ found _ threw => reachable.failed_nothing found threw

end Pending

/-! ### Two invitations that overlap -/

section Samples

def sampleReference : Reference where
  tenants _ := true
  hashToken text := text.toList.map fun c => c.toNat.toUInt8

def sampleTenant : Uuid := sample 0

def sampleUser (n : Nat) (email : String) : User := ⟨sample n, email, none, false, none⟩

def sampleStore (n : Nat) : Store :=
  ⟨sample n, sampleTenant, "S", "Store", true, 0, 0, none⟩

/-- One statement of another service, in a transaction of its own. -/
def changed (pid : Nat) (change : Change) : List (Event Uuid PgError Call) :=
  [.start ⟨0, 0, .change change⟩, .ask pid, .stop pid none]

/-- A role, the user who invites, the user who is invited, and a store. -/
def settingEvents : List (Event Uuid PgError Call) :=
  changed 0 (.role ⟨sample 1, some sampleTenant, "cashier"⟩) ++
  changed 1 (.user (sampleUser 2 "owner@shop.example")) ++
  changed 2 (.user (sampleUser 3 "clerk@shop.example")) ++ changed 3 (.store (sampleStore 4))

def sampleInvitation : InvitationCreateDto where
  email := "Clerk@shop.example"
  roleCode := "cashier"
  storeAccessKind := .specific
  storeIds := some [(sample 4).text]
  accepted := by decide +kernel

def inviteCall (now : Int) (rawToken : String) : Call :=
  ⟨now, now, .invite ⟨sampleTenant, some (sample 2)⟩ sampleInvitation rawToken⟩

/-- Its statements up to the check, and from the INSERT on. -/
def inviteEvents (pid : Nat) (id : Uuid) : List (Event Uuid PgError Call) × List (Event Uuid PgError Call) :=
  ([.ask pid, .ask pid, .ask pid, .ask pid], [.draw pid id, .ask pid, .stop pid none])

/-- Two calls invite the clerk, and both check before either commits. -/
def overlapEvents : List (Event Uuid PgError Call) :=
  settingEvents ++ [.start (inviteCall 1 "first")] ++ (inviteEvents 4 (sample 5)).1 ++
    [.start (inviteCall 1 "second")] ++ (inviteEvents 5 (sample 6)).1 ++
    (inviteEvents 4 (sample 5)).2 ++ (inviteEvents 5 (sample 6)).2

/-- **Two calls that overlap leave two pending invitations.** -/
theorem invitations_overtaken :
    ∃ config, Reachable sampleReference config ∧ ¬ InvitationsHold sampleReference config := by
  have ran : (run (membershipServer sampleReference) overlapEvents).any (fun config =>
      ((invitationsOf config.ledger).filter fun row =>
        row.pendingFor sampleTenant "clerk@shop.example" && row.deletedAt.isNone &&
          decide (1 < row.expiresAt)).length = 2) = true := by
    decide +kernel
  obtain ⟨config, ran, observed⟩ := (any_eq_true _ _).1 ran
  refine ⟨config, run_reachable _ ran, fun hold => ?_⟩
  have one := hold.onePending sampleTenant "clerk@shop.example" 1
  rw [of_decide_eq_true observed] at one
  omega

/-- An invitation is accepted, and a second acceptance of it fails. -/
def acceptedEvents : List (Event Uuid PgError Call) :=
  (settingEvents ++ [Event.start (inviteCall 1 "first")] ++ (inviteEvents 4 (sample 5)).1 ++
    (inviteEvents 4 (sample 5)).2).append
    [.start ⟨2, 2, .accept "first"⟩, .ask 5, .ask 5, .ask 5, .draw 5 (sample 6), .ask 5, .ask 5, .ask 5,
      .stop 5 none, .start ⟨3, 3, .accept "first"⟩, .ask 6, .stop 6 none]

theorem invitations_hold_sample :
    ∃ config, run (membershipServer sampleReference) acceptedEvents = some config ∧
      (storeAccessOf config.ledger).map StoreAccess.storeId = [sample 4] ∧
      InvitationsHold sampleReference config := by
  have ran : (run (membershipServer sampleReference) acceptedEvents).any (fun config =>
      (storeAccessOf config.ledger).map StoreAccess.storeId = [sample 4] ∧ checksStand config = true) =
        true := by
    decide +kernel
  obtain ⟨config, ran, seen⟩ := (any_eq_true _ _).1 ran
  obtain ⟨stores, stand⟩ := of_decide_eq_true seen
  exact ⟨config, ran, stores, invitations_hold (run_reachable _ ran) stand⟩

end Samples

end DataPulse.Memberships
