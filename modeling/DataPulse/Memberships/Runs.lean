/-
**Invitations and memberships from commit to commit.**

* `Reachable.effect`: a commit is what its call did on what was committed before it.
-/

import DataPulse.Memberships.Effects

namespace DataPulse.Memberships

open Lib Lib.Interleave Platform
open Auth (Membership StoreAccessKind)
open Access (User Store Role StoreAccess isActive)

/-! ### What a commit wrote -/

variable {config : Config} {before after : List (Nat × List Write)}

variable {reference : Reference} {commits : List (Nat × List Write)} {log : Log}
  {writes : List Write}

section Commits

variable {call : Call} {body : Body}
variable {write : Write} {membershipId tenantId : Uuid} {row : Membership}
variable {id : Uuid}

theorem Reachable.effect {pid : Nat} (reach : Reachable reference config)
    (split : config.commits = before ++ (pid, writes) :: after) :
    ∃ proc body, config.procs[pid]? = some proc ∧ proc.result = some (.ok body) ∧
      Effect reference before proc.call proc.log body writes := by
  obtain ⟨proc, body, found, gave, rfl, ends, held, ordered⟩ := reach.commit_of clash_comm split
  exact ⟨proc, body, found, gave, Operation.effect held ordered ends⟩

theorem mem_admission {invitation : Invitation} {user : User} :
    write ∈ admission call invitation user row ↔
      write = .accept invitation.id user.id call.date ∨ write = .membership row ∨
      ∃ access ∈ accessRows row.id invitation.tenantId invitation.grantedStores, write = .grant access := by
  simp only [admission, mem_cons, mem_map, eq_comm]

theorem mem_accessRows {storeIds : List Uuid} {row : StoreAccess} :
    row ∈ accessRows membershipId tenantId storeIds ↔
      ∃ storeId ∈ storeIds, row = ⟨membershipId, storeId, tenantId⟩ := by
  simp only [accessRows, mem_map, eq_comm]

theorem Rewrites.about {dto : UpdateBody} {rest : List Write}
    (rewrites : Rewrites commits membershipId tenantId dto rest) (mem : write ∈ rest) :
    write.touches = some membershipId ∧ write.changes = none ∧ (∀ row, write ≠ .membership row) ∧
      ∀ row, write ≠ .invitation row := by
  cases rewrites with
  | kept kind => cases mem
  | closed kind =>
    rw [mem_singleton.1 mem]
    exact ⟨rfl, rfl, fun _ => nofun, fun _ => nofun⟩
  | replaced nonempty kind grants =>
    rcases mem_cons.1 mem with rfl | granted
    · exact ⟨rfl, rfl, fun _ => nofun, fun _ => nofun⟩
    · obtain ⟨access, listed, rfl⟩ := mem_map.1 granted
      obtain ⟨storeId, -, rfl⟩ := mem_accessRows.1 listed
      exact ⟨rfl, rfl, fun _ => nofun, fun _ => nofun⟩

theorem Effect.membership (effect : Effect reference commits call log body writes)
    (mem : .membership row ∈ writes) :
    Free (contents commits) row ∧ ∀ other, .membership other ∈ writes → other = row := by
  cases effect with
  | changed asked calm known => cases calm _ mem
  | bootstrapped asked free kind =>
    cases mem_singleton.1 mem
    exact ⟨free, fun other inside => Write.membership.inj (mem_singleton.1 inside)⟩
  | invited asked invites => simp at mem
  | @accepted rawToken invitation user new roleCode asked accepts =>
    have mine : ∀ other, .membership other ∈ admission call invitation user new → other = new := by
      intro other inside
      rcases mem_admission.1 inside with same | same | ⟨access, -, same⟩
      · cases same
      · exact Write.membership.inj same
      · cases same
    obtain rfl := mine row mem
    exact ⟨accepts.free, mine⟩
  | updated asked updates =>
    rcases mem_cons.1 mem with same | inside
    · cases same
    · exact absurd rfl ((updates.access.about inside).2.2.1 row)
  | revoked asked there active => cases mem_singleton.1 mem

theorem Effect.invitation (effect : Effect reference commits call log body writes) {row : Invitation}
    (mem : .invitation row ∈ writes) :
    ∃ stale, Invites reference commits log row stale ∧ writes = stale.map .expire ++ [.invitation row] := by
  cases effect with
  | changed asked calm known => cases calm _ mem
  | bootstrapped asked free kind => cases mem_singleton.1 mem
  | invited asked invites =>
    rcases mem_append.1 mem with expired | here
    · obtain ⟨id, -, same⟩ := mem_map.1 expired
      cases same
    · cases mem_singleton.1 here
      exact ⟨_, invites, rfl⟩
  | accepted asked accepts =>
    rcases mem_admission.1 mem with same | same | ⟨access, -, same⟩ <;> cases same
  | updated asked updates =>
    rcases mem_cons.1 mem with same | inside
    · cases same
    · exact absurd rfl ((updates.access.about inside).2.2.2 row)
  | revoked asked there active => cases mem_singleton.1 mem

/-- The write is about the membership: it changes its row, or its store access. -/
def Write.about (write : Write) (id : Uuid) : Prop :=
  write.changes = some (.membership id) ∨ write.touches = some id

/-- **A call writes about memberships that are there, or about its own new one.** -/
theorem Effect.about (effect : Effect reference commits call log body writes) (mem : write ∈ writes)
    (about : write.about id) :
    (∃ row, .membership row ∈ contents commits ∧ row.id = id) ∨
      (write.touches = some id ∧ ∃ row, .membership row ∈ writes ∧ row.id = id) := by
  cases effect with
  | changed asked calm known =>
    rcases about with changes | touches
    · exact .inl (known write mem id changes)
    · have still := calm write mem
      cases write <;> cases touches <;> cases still
  | bootstrapped asked free kind =>
    rw [mem_singleton.1 mem] at about
    rcases about with changes | touches
    · cases changes
    · cases touches
  | invited asked invites =>
    rcases mem_append.1 mem with expired | here
    · obtain ⟨id, -, rfl⟩ := mem_map.1 expired
      rcases about with changes | touches
      · cases changes
      · cases touches
    · rw [mem_singleton.1 here] at about
      rcases about with changes | touches
      · cases changes
      · cases touches
  | accepted asked accepts =>
    rcases mem_admission.1 mem with rfl | rfl | ⟨access, listed, rfl⟩
    · rcases about with changes | touches
      · cases changes
      · cases touches
    · rcases about with changes | touches
      · cases changes
      · cases touches
    · obtain ⟨storeId, -, rfl⟩ := mem_accessRows.1 listed
      rcases about with changes | touches
      · cases changes
      · exact .inr ⟨touches, _, mem_admission.2 (.inr (.inl rfl)), Option.some.inj touches⟩
  | updated asked updates =>
    obtain ⟨seen', -, there, -⟩ := updates.read
    refine .inl ⟨_, Memberships.early there, ?_⟩
    rcases mem_cons.1 mem with rfl | inside
    · rcases about with changes | touches
      · exact Target.membership.inj (Option.some.inj changes)
      · cases touches
    · obtain ⟨mine, none, -⟩ := updates.access.about inside
      rcases about with changes | touches
      · rw [none] at changes
        cases changes
      · exact mem_unique mine touches
  | revoked asked there active =>
    rw [mem_singleton.1 mem] at about
    rcases about with changes | touches
    · exact .inl ⟨_, there, Target.membership.inj (Option.some.inj changes)⟩
    · cases touches

theorem Effect.settles (effect : Effect reference commits call log body writes) (mem : write ∈ writes)
    (about : write.changes = some (.invitation id)) :
    ∃ row, .invitation row ∈ contents commits ∧ row.id = id := by
  cases effect with
  | changed asked calm known =>
    have still := calm write mem
    cases write with
    | remove table other time => cases table <;> cases about
    | _ => cases about <;> cases still
  | bootstrapped asked free kind =>
    rw [mem_singleton.1 mem] at about
    cases about
  | invited asked invites =>
    rcases mem_append.1 mem with expired | here
    · obtain ⟨other, listed, rfl⟩ := mem_map.1 expired
      cases about
      exact invites.known _ listed
    · rw [mem_singleton.1 here] at about
      cases about
  | accepted asked accepts =>
    rcases mem_admission.1 mem with rfl | rfl | ⟨access, listed, rfl⟩
    · exact ⟨_, accepts.there, Target.invitation.inj (Option.some.inj about)⟩
    · cases about
    · cases about
  | updated asked updates =>
    rcases mem_cons.1 mem with rfl | inside
    · cases about
    · rw [(updates.access.about inside).2.1] at about
      cases about
  | revoked asked there active =>
    rw [mem_singleton.1 mem] at about
    cases about

end Commits

/-! ### What holds of the ledger -/

section Ledger

variable {more : List Write}
variable {row : Invitation}

/-- **What an invitation offers is there**: its role and its stores are its tenant's, and it names stores
exactly when its kind is `specific`. -/
structure Offer (reference : Reference) (writes : List Write) (row : Invitation) : Prop where
  tenant : reference.tenants row.tenantId = true
  role : hasRole writes row.tenantId row.roleId = true
  once : row.invitedStoreIds.Nodup
  stores : ∀ id ∈ row.invitedStoreIds, ∃ store, .store store ∈ writes ∧ store.id = id ∧
    store.tenantId = row.tenantId
  kind : row.storeAccessKind = .specific ↔ row.invitedStoreIds ≠ []
  pending : row.status = .pending
  deletedAt : row.deletedAt = none

theorem hasRole_grow {tenantId roleId : Uuid} (has : hasRole writes tenantId roleId = true) :
    hasRole (writes ++ more) tenantId roleId = true := by
  obtain ⟨role, mem, same⟩ := List.any_eq_true.1 has
  exact List.any_eq_true.2 ⟨role, mem_rolesOf.2 (mem_append_left _ (mem_rolesOf.1 mem)), same⟩

theorem Offer.grow (offer : Offer reference writes row) : Offer reference (writes ++ more) row := by
  refine { offer with role := hasRole_grow offer.role, stores := fun id mem => ?_ }
  obtain ⟨store, known, same⟩ := offer.stores id mem
  exact ⟨store, mem_append_left _ known, same⟩

theorem Invites.offer {stale : List Uuid} (invites : Invites reference commits log row stale) :
    Offer reference (contents commits) row :=
  ⟨invites.tenant, invites.role, invites.once, invites.stores, invites.kind, invites.pending, invites.deletedAt⟩

/-- What holds of the rows and their changes. -/
structure Sound (reference : Reference) (writes : List Write) : Prop where
  members : ∀ first second : Membership, .membership first ∈ writes → .membership second ∈ writes →
    first.id = second.id → first = second
  invitations : ∀ first second : Invitation, .invitation first ∈ writes → .invitation second ∈ writes →
    first.id = second.id → first = second
  changed : ∀ write ∈ writes, ∀ id, write.about id → ∃ row, .membership row ∈ writes ∧ row.id = id
  settled : ∀ write ∈ writes, ∀ id, write.changes = some (.invitation id) →
    ∃ row, .invitation row ∈ writes ∧ row.id = id
  offers : ∀ row, .invitation row ∈ writes → Offer reference writes row

/-- **A commit keeps it.** -/
theorem Sound.commit {call : Call} {body : Body} (sound : Sound reference (contents commits))
    (effect : Effect reference commits call log body writes) :
    Sound reference (contents commits ++ writes) where
  members := by
    intro first second one two same
    rcases mem_append.1 one with old | new <;> rcases mem_append.1 two with old' | new'
    · exact sound.members first second old old' same
    · exact absurd same ((effect.membership new').1.fresh first old)
    · exact absurd same.symm ((effect.membership new).1.fresh second old')
    · exact (effect.membership new').2 first new
  invitations := by
    intro first second one two same
    rcases mem_append.1 one with old | new <;> rcases mem_append.1 two with old' | new'
    · exact sound.invitations first second old old' same
    · obtain ⟨stale, invites, -⟩ := effect.invitation new'
      exact absurd same (invites.fresh first old)
    · obtain ⟨stale, invites, -⟩ := effect.invitation new
      exact absurd same.symm (invites.fresh second old')
    · obtain ⟨stale, -, rfl⟩ := effect.invitation new'
      simpa using new
  changed := by
    intro write mem id about
    rcases mem_append.1 mem with old | new
    · obtain ⟨row, there, same⟩ := sound.changed write old id about
      exact ⟨row, mem_append_left _ there, same⟩
    · rcases effect.about new about with ⟨row, there, same⟩ | ⟨-, row, there, same⟩
      · exact ⟨row, mem_append_left _ there, same⟩
      · exact ⟨row, mem_append_right _ there, same⟩
  settled := by
    intro write mem id about
    rcases mem_append.1 mem with old | new
    · obtain ⟨row, there, same⟩ := sound.settled write old id about
      exact ⟨row, mem_append_left _ there, same⟩
    · obtain ⟨row, there, same⟩ := effect.settles new about
      exact ⟨row, mem_append_left _ there, same⟩
  offers := by
    intro row mem
    rcases mem_append.1 mem with old | new
    · exact (sound.offers row old).grow
    · obtain ⟨stale, invites, -⟩ := effect.invitation new
      exact invites.offer.grow

/-- **It holds of every stretch of the commits.** -/
theorem Reachable.sound (reach : Reachable reference config) (split : config.commits = before ++
    after) : Sound reference (contents before) := by
  refine prefix_induction (fun commits => Sound reference (contents commits)) ?_ ?_ before after split
  · exact ⟨fun _ _ => nofun, fun _ _ => nofun, fun _ => nofun, fun _ => nofun, fun _ => nofun⟩
  · intro before last after split sound
    obtain ⟨pid, writes⟩ := last
    obtain ⟨proc, body, -, -, effect⟩ := reach.effect split
    rw [contents_append, contents_cons, contents_nil, append_nil]
    exact sound.commit effect

theorem Sound.unmet {row : Membership} (sound : Sound reference writes) (free : Free writes row)
    {write : Write} (mem : write ∈ writes) : ¬ write.about row.id := by
  intro about
  obtain ⟨other, there, same⟩ := sound.changed write mem row.id about
  exact free.fresh other there same

namespace Invitation

/-- **An invitation is pending as long as nothing settles it.** -/
theorem pending_iff {row : Invitation} :
    (row.after writes).status = .pending ↔
      row.status = .pending ∧ ∀ write ∈ writes, write.changes ≠ some (.invitation row.id) := by
  induction writes generalizing row with
  | nil => simp [after]
  | cons write rest ih =>
    show ((row.apply write).after rest).status = .pending ↔ _
    have id : (row.apply write).id = row.id := congrArg (·.1) (apply_offer row write)
    rw [ih, id, List.forall_mem_cons, ← and_assoc]
    refine and_congr_left fun _ => ⟨fun pending => ?_, fun ⟨pending, apart⟩ => ?_⟩
    · have before : row.status = .pending := @pending_before [write] row pending
      refine ⟨before, fun about => ?_⟩
      cases write with
      | remove table other time => cases table <;> cases about
      | _ => cases about <;> simp [apply, before] at pending
    · rw [apply_untouched apart]
      exact pending

end Invitation

end Ledger

end DataPulse.Memberships
