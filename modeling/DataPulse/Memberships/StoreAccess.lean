/-
**The kind of a membership and its rows of store access, and the end of a membership.**

* `updateStands`: at the UPDATE of an update its membership is not revoked, and is `specific` where the body
  leaves the kind;
* `access_holds`: where every update stands, the rows fit in every configuration, and a revoked membership never
  changes;
* `access_overtaken`: without it, an update leaves rows to a membership whose kind is `all`.
-/

import DataPulse.Memberships.Invitations

namespace DataPulse.Memberships

open Lib Lib.Interleave Platform
open Auth (Digest Membership StoreAccessKind)
open Access (User Store Role StoreAccess isActive)

/-! ### The law -/

section Law

/-- **The rows of `store_access` fit the membership**: there are some exactly when its kind is `specific`,
each of another store, and of stores of its tenant. -/
structure Fits (writes : List Write) (row : Membership) : Prop where
  kind : row.storeAccessKind = .specific ↔ accessOf writes row.id ≠ []
  once : ((accessOf writes row.id).map StoreAccess.storeId).Nodup
  stores : ∀ access ∈ accessOf writes row.id, ∃ store ∈ storesOf writes,
    store.id = access.storeId ∧ store.tenantId = row.tenantId

def undeleted (row : Membership) : Membership := { row with deletedAt := none }

/-- **The law of store access.** -/
structure AccessHolds (config : Config) : Prop where
  fits : ∀ row ∈ membershipsOf config.ledger, isActive row = true → Fits config.ledger row
  ended : ∀ before after, config.commits = before ++ after →
    ∀ row ∈ membershipsOf (contents before), row.revokedAt ≠ none →
      (∃ current ∈ membershipsOf config.ledger, undeleted current = undeleted row) ∧
        accessOf config.ledger row.id = accessOf (contents before) row.id

end Law

/-! ### What a commit may do to a membership -/

variable {reference : Reference} {commits : List (Nat × List Write)} {call : Call} {log : Log}
  {body : Body} {writes more : List Write} {row : Membership}

/-- What the writes of a call may be to a membership that is there. -/
inductive Meets (commits : List (Nat × List Write)) (call : Call) (log : Log) (row : Membership) :
    List Write → Prop where
  | apart {writes : List Write} (apart : ∀ write ∈ writes, ¬ write.about row.id) :
      Meets commits call log row writes
  | calm {writes : List Write} (calm : ∀ write ∈ writes, write.calm = true) :
      Meets commits call log row writes
  | updated {tenantId : Uuid} {dto : MembershipUpdateDto} {roleId : Option Uuid} {seen : Nat}
      {rest : List Write} (asked : call.operation = .update tenantId row.id dto)
      (updates : Updates commits log tenantId dto.toUpdateBody row roleId seen rest) :
      Meets commits call log row (.update row.id roleId dto.storeAccessKind :: rest)
  | revoked (active : isActive (membershipAfter (contents commits) row) = true) :
      Meets commits call log row [.revoke row.id call.date]

theorem not_about {write : Write} {id : Uuid} (changes : write.changes ≠ some (.membership id))
    (touches : write.touches ≠ some id) : ¬ write.about id := fun about => about.elim changes touches

/-- **A commit meets a membership that is there in one of these ways.** -/
theorem Effect.meets (effect : Effect reference commits call log body writes)
    (sound : Sound reference (contents commits)) (there : .membership row ∈ contents commits) :
    Meets commits call log row writes := by
  cases effect with
  | changed asked calm known => exact .calm calm
  | bootstrapped asked free kind =>
    refine .apart fun write mem => ?_
    rw [mem_singleton.1 mem]
    exact not_about nofun nofun
  | invited asked invites =>
    refine .apart fun write mem => ?_
    rcases mem_append.1 mem with expired | here
    · obtain ⟨id, -, rfl⟩ := mem_map.1 expired
      exact not_about nofun nofun
    · rw [mem_singleton.1 here]
      exact not_about nofun nofun
  | @accepted rawToken invitation user new roleCode asked accepts =>
    refine .apart fun write mem => ?_
    rcases mem_admission.1 mem with rfl | rfl | ⟨access, listed, rfl⟩
    · exact not_about nofun nofun
    · exact not_about nofun nofun
    · obtain ⟨storeId, -, rfl⟩ := mem_accessRows.1 listed
      exact not_about nofun fun touches => accepts.free.fresh row there (Option.some.inj touches).symm
  | @updated tenantId dto other roleId seen rest detail asked updates =>
    by_cases mine : other.id = row.id
    · obtain ⟨seen', -, added, -⟩ := updates.read
      obtain rfl := sound.members other row (early added) there mine
      exact .updated asked updates
    · refine .apart fun write mem => ?_
      rcases mem_cons.1 mem with rfl | inside
      · exact not_about (fun changes => mine (Target.membership.inj (Option.some.inj changes))) nofun
      · obtain ⟨touched, none, -⟩ := updates.access.about inside
        refine not_about (none ▸ nofun) fun touches => mine ?_
        exact mem_unique touched touches
  | @revoked tenantId other asked added active =>
    by_cases mine : other.id = row.id
    · obtain rfl := sound.members other row added there mine
      exact .revoked active
    · refine .apart fun write mem => ?_
      rw [mem_singleton.1 mem]
      exact not_about (fun changes => mine (Target.membership.inj (Option.some.inj changes))) nofun

theorem about_none (writes : List Write) (apart : ∀ write ∈ more, ¬ write.about row.id) :
    membershipAfter (writes ++ more) row = membershipAfter writes row ∧
      accessOf (writes ++ more) row.id = accessOf writes row.id :=
  ⟨membershipAfter_more fun write mem changes => apart write mem (.inl changes),
    accessOf_untouched fun write mem touches => apart write mem (.inr touches)⟩

theorem undeleted_calm (writes : List Write) (row : Membership) (calm : ∀ write ∈ more, write.calm = true) :
    undeleted (membershipAfter (writes ++ more) row) = undeleted (membershipAfter writes row) := by
  rw [membershipAfter_append]
  generalize membershipAfter writes row = current
  induction more generalizing current with
  | nil => rfl
  | cons write rest ih =>
    have head : undeleted (applyMembership current write) = undeleted current := by
      have still := calm write mem_cons_self
      unfold applyMembership
      split
      · split_ifs <;> rfl
      · cases still
      · cases still
      · rfl
    exact (ih (fun write mem => calm write (mem_cons_of_mem _ mem)) _).trans head

theorem accessOf_calm (calm : ∀ write ∈ more, write.calm = true) :
    accessOf (writes ++ more) row.id = accessOf writes row.id := by
  refine accessOf_untouched fun write mem touches => ?_
  have still := calm write mem
  cases write with
  | grant _ | clear _ => cases still
  | _ => cases touches

/-! ### Updates that stand -/

section Stands

variable {roleId : Option Uuid}
variable {kind : Option StoreAccessKind} {rest : List Write} {tenantId : Uuid}

/-- The membership is one an update may still write to: not revoked, and `specific` where the body leaves the
kind. -/
def standsFor (dto : UpdateBody) (row : Membership) : Bool :=
  row.revokedAt.isNone && (!dto.keepsKind || decide (row.storeAccessKind = .specific))

/-- For an entry of a call's log, and what was committed before the call: the UPDATE of a membership met one
it may still write to. -/
def updateStands (call : Call) (before : List (Nat × List Write)) :
    Interleave.Entry Stmt Reply Uuid PgError Write → Bool
  | .answered (.update id _ _) seen (.ok _) =>
    match call.operation with
    | .update _ _ dto => (membershipsOf (contents (before.take seen))).all fun row =>
      row.id ≠ id || standsFor dto.toUpdateBody row
    | _ => true
  | _ => true

/-- **At the UPDATE of every committed update its membership is not revoked, and is `specific` where the body
leaves the kind.** -/
def updatesStand (config : Config) : Bool := LogsPass updateStands config

theorem Updates.stands {dto : MembershipUpdateDto} {seen : Nat}
    (updates : Updates commits log tenantId dto.toUpdateBody row roleId seen rest)
    (asked : call.operation = .update tenantId row.id dto)
    (stand : ∀ entry ∈ log, updateStands call commits entry = true) :
    (membershipAfter (contents commits) row).revokedAt = none ∧
      (dto.keepsKind = true → (membershipAfter (contents commits) row).storeAccessKind = .specific) := by
  obtain ⟨seen', before, added, -⟩ := updates.read
  have known : .membership row ∈ contents (commits.take seen) :=
    contents_mono (List.take_prefix_take_left before) added
  have passed := stand _ updates.answered
  simp only [updateStands, asked] at passed
  have stands := all_eq_true.1 passed _ (mem_membershipsOf.2 ⟨row, known, rfl⟩)
  simp only [membershipAfter_id, standsFor, ne_eq, not_true_eq_false, decide_false, Bool.false_or,
    and_eq_true, isNone_iff_eq_none, or_eq_true, not_eq_true', decide_eq_true_eq]
    at stands
  rw [← updates.still] at stands
  refine ⟨stands.1, fun keeps => ?_⟩
  rcases stands.2 with leaves | specific
  · rw [keeps] at leaves
    cases leaves
  · exact specific

theorem Fits.kept (fits : Fits writes (membershipAfter writes row))
    (kind : (membershipAfter (writes ++ more) row).storeAccessKind =
        (membershipAfter writes row).storeAccessKind)
    (access : accessOf (writes ++ more) row.id = accessOf writes row.id) :
    Fits (writes ++ more) (membershipAfter (writes ++ more) row) := by
  obtain ⟨fitting, once, stores⟩ := fits
  rw [membershipAfter_id] at fitting once stores
  rw [membershipAfter_tenantId] at stores
  constructor
  · rw [membershipAfter_id, kind, access]
    exact fitting
  · rw [membershipAfter_id, access]
    exact once
  · rw [membershipAfter_id, membershipAfter_tenantId, access]
    intro row' mem
    obtain ⟨store, there, holds⟩ := stores row' mem
    exact ⟨store, mem_storesOf.2 (mem_append_left _ (mem_storesOf.1 there)), holds⟩

theorem Fits.granted (stores : List Uuid) {current : Membership}
    (kind : current.storeAccessKind = .specific ↔ stores ≠ [])
    (access : accessOf writes current.id = accessRows current.id current.tenantId stores)
    (grants : GrantsHold writes (accessRows current.id current.tenantId stores)) : Fits writes current := by
  refine ⟨?_, ?_, fun row mem => ?_⟩
  · rw [access, accessRows, ne_eq, List.map_eq_nil_iff]
    exact kind
  · rw [access, accessRows, map_map]
    have once := grants.once
    rw [accessRows, map_map] at once
    refine List.Nodup.of_map (fun storeId => (current.id, storeId)) ?_
    rw [map_map]
    exact once
  · rw [access] at mem
    obtain ⟨store, there, same, tenant⟩ := grants.stores row mem
    obtain ⟨storeId, -, rfl⟩ := mem_accessRows.1 mem
    exact ⟨store, mem_storesOf.2 there, same, tenant⟩

theorem GrantsHold.grow {rows : List StoreAccess} (grants : GrantsHold writes rows) :
    GrantsHold (writes ++ more) rows := by
  refine ⟨grants.once, fun row mem => ?_⟩
  obtain ⟨store, there, holds⟩ := grants.stores row mem
  exact ⟨store, mem_append_left _ there, holds⟩

theorem update_kind (quiet : ∀ write ∈ rest, write.changes = none) :
    (membershipAfter (writes ++ .update row.id roleId kind :: rest) row).storeAccessKind =
      kind.getD (membershipAfter writes row).storeAccessKind := by
  rw [append_cons, membershipAfter_more, membershipAfter_append]
  · show (applyMembership (membershipAfter writes row) (.update row.id roleId kind)).storeAccessKind = _
    rw [applyMembership, membershipAfter_id, if_pos rfl]
  · intro write mem changes
    rw [quiet write mem] at changes
    cases changes

theorem Fits.rewritten {stores : List Uuid} (tenant : row.tenantId = tenantId)
    (specific : kind.getD (membershipAfter writes row).storeAccessKind = .specific ↔ stores ≠ [])
    (grants : GrantsHold writes (accessRows row.id tenantId stores)) :
    Fits
      (writes ++ .update row.id roleId kind :: .clear row.id ::
          (accessRows row.id tenantId stores).map .grant)
      (membershipAfter
        (writes ++ .update row.id roleId kind :: .clear row.id ::
            (accessRows row.id tenantId stores).map .grant) row) := by
  have mine : ∀ access ∈ accessRows row.id tenantId stores, access.membershipId = row.id := by
    intro access mem
    obtain ⟨storeId, -, rfl⟩ := mem_accessRows.1 mem
    rfl
  have quiet : ∀ write ∈ (.clear row.id :: (accessRows row.id tenantId stores).map .grant : List Write),
      write.changes = none := by
    intro write mem
    rcases mem_cons.1 mem with rfl | granted
    · rfl
    · obtain ⟨access, -, rfl⟩ := mem_map.1 granted
      rfl
  refine Fits.granted stores (update_kind quiet ▸ specific) ?_ ?_
  · rw [membershipAfter_id, membershipAfter_tenantId, tenant, append_cons]
    exact accessOf_replaced mine
  · rw [membershipAfter_id, membershipAfter_tenantId, tenant]
    exact grants.grow

/-- **A commit keeps the rows of a membership fitting**, if its update stands. -/
theorem Meets.fits (meets : Meets commits call log row writes)
    (stand : ∀ entry ∈ log, updateStands call commits entry = true)
    (fits : Fits (contents commits) (membershipAfter (contents commits) row)) :
    Fits (contents commits ++ writes) (membershipAfter (contents commits ++ writes) row) := by
  cases meets with
  | apart apart =>
    obtain ⟨same, access⟩ := about_none (contents commits) apart
    exact fits.kept (congrArg _ same) access
  | calm calm =>
    have same := undeleted_calm (contents commits) row calm
    have kind := congrArg Membership.storeAccessKind same
    exact fits.kept kind (accessOf_calm calm)
  | revoked active =>
    refine fits.kept ?_ (accessOf_untouched fun write mem touches => ?_)
    · rw [membershipAfter_append]
      simp [membershipAfter, applyMembership]
      split_ifs <;> rfl
    · rw [mem_singleton.1 mem] at touches
      cases touches
  | @updated tenantId dto roleId seen rest asked updates =>
    have tenant := updates.tenant
    have access := updates.access
    cases access with
    | kept kind =>
      refine fits.kept ?_ (accessOf_untouched fun write mem touches => ?_)
      · rw [update_kind, kind]
        · rfl
        · exact fun _ => nofun
      · rw [mem_singleton.1 mem] at touches
        cases touches
    | closed kind =>
      have nothing : GrantsHold (contents commits) (accessRows row.id tenantId []) := ⟨nodup_nil, fun _ => nofun⟩
      rw [kind]
      exact Fits.rewritten tenant (by simp) nothing
    | replaced nonempty kind grants =>
      refine Fits.rewritten tenant ⟨fun _ => nonempty, fun _ => ?_⟩ grants
      rcases kind with specific | keeps
      · rw [specific]
        rfl
      · have leaves := (updates.stands asked stand).2 keeps
        rw [UpdateBody.keepsKind, and_eq_true, isNone_iff_eq_none] at keeps
        rw [keeps.2]
        exact leaves

/-- **A revoked membership never changes**, if the update stands. -/
theorem Meets.ended (meets : Meets commits call log row writes)
    (stand : ∀ entry ∈ log, updateStands call commits entry = true)
    (revoked : (membershipAfter (contents commits) row).revokedAt ≠ none) :
    undeleted (membershipAfter (contents commits ++ writes) row) =
      undeleted (membershipAfter (contents commits) row) ∧
      accessOf (contents commits ++ writes) row.id = accessOf (contents commits) row.id := by
  cases meets with
  | apart apart =>
    obtain ⟨same, access⟩ := about_none (contents commits) apart
    exact ⟨congrArg undeleted same, access⟩
  | calm calm => exact ⟨undeleted_calm _ _ calm, accessOf_calm calm⟩
  | revoked active =>
    rw [isActive, and_eq_true, isNone_iff_eq_none] at active
    exact absurd active.1 revoked
  | updated asked updates => exact absurd (updates.stands asked stand).1 revoked

theorem Offer.granted_iff {invitation : Invitation} (offer : Offer reference writes invitation) :
    invitation.storeAccessKind = .specific ↔ invitation.grantedStores ≠ [] := by
  unfold Invitation.grantedStores
  split_ifs with specific
  · exact ⟨fun _ => offer.kind.1 specific, fun _ => specific⟩
  · exact ⟨fun kind => absurd kind specific, fun some => absurd rfl some⟩

/-- **A new membership's rows fit it.** -/
theorem Effect.fits (effect : Effect reference commits call log body writes)
    (sound : Sound reference (contents commits)) (new : .membership row ∈ writes) :
    Fits (contents commits ++ writes) (membershipAfter (contents commits ++ writes) row) := by
  cases effect with
  | changed asked calm known => cases calm _ new
  | bootstrapped asked free kind =>
    cases mem_singleton.1 new
    have same : membershipAfter (contents commits ++ [.membership row]) row = row := by
      refine membership_new sound free fun write mem changes => ?_
      rw [mem_singleton.1 mem] at changes
      cases changes
    have access : accessOf (contents commits ++ [.membership row]) row.id = [] := by
      rw [accessOf_untouched, access_none sound free]
      intro write mem touches
      rw [mem_singleton.1 mem] at touches
      cases touches
    rw [same]
    have nothing : GrantsHold (contents commits ++ [.membership row])
        (accessRows row.id row.tenantId []) := ⟨nodup_nil, fun _ => nofun⟩
    exact Fits.granted [] (by simp [kind]) access nothing
  | invited asked invites => simp at new
  | @accepted rawToken invitation user made roleCode asked accepts =>
    rcases mem_admission.1 new with none | same | ⟨access, -, none⟩
    · cases none
    · obtain rfl := Write.membership.inj same
      have tenant : row.tenantId = invitation.tenantId := congrArg Membership.tenantId accepts.offered
      have kind : row.storeAccessKind = invitation.storeAccessKind :=
        congrArg Membership.storeAccessKind accepts.offered
      have mine : ∀ access ∈ accessRows row.id invitation.tenantId invitation.grantedStores,
          access.membershipId = row.id := by
        intro access mem
        obtain ⟨storeId, -, rfl⟩ := mem_accessRows.1 mem
        rfl
      have access : accessOf (contents commits ++ admission call invitation user row) row.id =
          accessRows row.id invitation.tenantId invitation.grantedStores := by
        refine access_new [.accept invitation.id user.id call.date, .membership row] sound
          accepts.free (fun write mem => ?_) mine
        simp only [mem_cons, not_mem_nil, or_false] at mem
        rcases mem with rfl | rfl <;> rfl
      rw [membership_new sound accepts.free]
      · refine Fits.granted _ ?_ (tenant ▸ access) (tenant ▸ accepts.grants.grow)
        rw [kind]
        exact (sound.offers invitation accepts.there).granted_iff
      · intro write mem changes
        rcases mem_admission.1 mem with rfl | rfl | ⟨access, -, rfl⟩ <;> cases changes
    · cases none
  | updated asked updates =>
    rcases mem_cons.1 new with same | inside
    · cases same
    · exact absurd rfl ((updates.access.about inside).2.2.1 row)
  | revoked asked there active => cases mem_singleton.1 new

end Stands

/-! ### Runs -/

section Runs

variable {config : Config}

variable {before after : List (Nat × List Write)}

/-- **The rows of every membership fit it**, where every update stands. -/
theorem Reachable.fits (reach : Reachable reference config) (stand : updatesStand config = true)
    (split : config.commits = before ++ after) :
    ∀ row, .membership row ∈ contents before →
      Fits (contents before) (membershipAfter (contents before) row) := by
  refine prefix_induction (fun commits => ∀ row, .membership row ∈ contents commits →
    Fits (contents commits) (membershipAfter (contents commits) row)) (fun _ => nofun) ?_ before after split
  intro before last after split fit row mem
  obtain ⟨pid, writes⟩ := last
  obtain ⟨proc, body, found, -, effect⟩ := reach.effect split
  have sound := reach.sound split
  rw [contents_append, contents_cons, contents_nil, append_nil] at mem ⊢
  rcases mem_append.1 mem with old | new
  · exact (effect.meets sound old).fits (fun entry inside => LogsPass.entry stand split found inside)
      (fit row old)
  · exact effect.fits sound new

/-- **A revoked membership never changes**, where every update stands. -/
theorem Reachable.ended (reach : Reachable reference config) (stand : updatesStand config = true)
    (split : config.commits = before ++ after) {row : Membership} (there : .membership row ∈ contents before)
    (revoked : (membershipAfter (contents before) row).revokedAt ≠ none) :
    undeleted (membershipAfter (contents (before ++ after)) row) =
      undeleted (membershipAfter (contents before) row) ∧
      accessOf (contents (before ++ after)) row.id = accessOf (contents before) row.id := by
  refine @prefix_induction _ after (fun middle =>
    undeleted (membershipAfter (contents (before ++ middle)) row) =
      undeleted (membershipAfter (contents before) row) ∧
      accessOf (contents (before ++ middle)) row.id = accessOf (contents before) row.id) ?_ ?_ after []
    (append_nil _).symm
  · rw [append_nil]
    exact ⟨rfl, rfl⟩
  · intro middle last rest within same
    obtain ⟨pid, writes⟩ := last
    have split' : config.commits = (before ++ middle) ++ (pid, writes) :: rest := by
      rw [split, within, append_assoc]
    obtain ⟨proc, body, found, -, effect⟩ := reach.effect split'
    have known : .membership row ∈ contents (before ++ middle) := by
      rw [contents_append]
      exact mem_append_left _ there
    have ended : (membershipAfter (contents (before ++ middle)) row).revokedAt ≠ none := by
      rw [contents_append, membershipAfter_append]
      exact revoked_stays revoked
    have still := (effect.meets (reach.sound split') known).ended
      (fun entry inside => LogsPass.entry stand split' found inside) ended
    rw [← append_assoc, contents_append, contents_cons, contents_nil, append_nil]
    exact ⟨still.1.trans same.1, still.2.trans same.2⟩

/-- **Where every update stands, an active membership has rows of store access exactly when its kind is
`specific`, each of another store of its tenant, and a revoked membership never changes.** -/
theorem access_holds (reachable : Reachable reference config) (stand : updatesStand config = true) :
    AccessHolds config where
  fits := by
    intro current mem _
    obtain ⟨row, there, rfl⟩ := mem_membershipsOf.1 mem
    exact reachable.fits stand (append_nil _).symm row there
  ended := by
    intro before after split current mem revoked
    obtain ⟨row, there, rfl⟩ := mem_membershipsOf.1 mem
    obtain ⟨same, access⟩ := reachable.ended stand split there revoked
    rw [← split] at same access
    rw [membershipAfter_id]
    exact ⟨⟨_, mem_membershipsOf.2 ⟨row, mem_ledger split there, rfl⟩, same⟩, access⟩

end Runs

/-! ### Updates that were overtaken -/

section Samples

/-- The clerk is a member with access to the store, by an invitation. -/
def memberEvents : List (Event Uuid PgError Call) :=
  (settingEvents ++ [Event.start (inviteCall 1 "first")] ++ (inviteEvents 4 (sample 5)).1 ++
    (inviteEvents 4 (sample 5)).2).append
    [.start ⟨2, 2, .accept "first"⟩, .ask 5, .ask 5, .ask 5, .draw 5 (sample 6), .ask 5, .ask 5, .ask 5,
      .stop 5 none]

/-- `{ store_ids: [store] }`. -/
def storesBody : MembershipUpdateDto where
  roleCode := none
  storeAccessKind := none
  storeIds := some [(sample 4).text]
  accepted := by decide +kernel

/-- `{ store_access_kind: "all" }`. -/
def allBody : MembershipUpdateDto where
  roleCode := none
  storeAccessKind := some .all
  storeIds := none
  accepted := by decide +kernel

def updateCall (dto : MembershipUpdateDto) : Call := ⟨3, 3, .update sampleTenant (sample 6) dto⟩

/-- An update reads the membership, other calls commit, and it goes on. -/
def overtaken (dto : MembershipUpdateDto) (reads : Nat) (others : List (Event Uuid PgError Call)) (rest : Nat) :
    List (Event Uuid PgError Call) :=
  memberEvents ++ [.start (updateCall dto)] ++ List.replicate reads (.ask 6) ++ others ++
    List.replicate rest (.ask 6) ++ [.stop 6 none]

/-- **An update of the stores that a change to `all` overtakes leaves rows to a membership of that kind.** -/
theorem access_overtaken : ∃ config, Reachable sampleReference config ∧ ¬ AccessHolds config := by
  have ran : (run (membershipServer sampleReference) (overtaken storesBody 2
            [.start (updateCall allBody), .ask 7, .ask 7, .ask 7, .ask 7, .ask 7, .stop 7 none] 5)).any
      (fun config => (membershipsOf config.ledger).any fun row => isActive row &&
        (row.storeAccessKind = .all && accessOf config.ledger row.id ≠ [])) = true := by
    decide +kernel
  obtain ⟨config, ran, seen⟩ := (any_eq_true _ _).1 ran
  obtain ⟨row, mem, holds⟩ := List.any_eq_true.1 seen
  simp only [and_eq_true, decide_eq_true_eq] at holds
  obtain ⟨active, kind, some⟩ := holds
  refine ⟨config, run_reachable _ ran, fun hold => ?_⟩
  have specific := (hold.fits row mem active).kind.2 some
  rw [kind] at specific
  cases specific

/-- `{ store_access_kind: "specific", store_ids: [store] }`. -/
def specificBody : MembershipUpdateDto where
  roleCode := none
  storeAccessKind := some .specific
  storeIds := some [(sample 4).text]
  accepted := by decide +kernel

/-- The stores are set, with the kind left and with it, and the membership is revoked; the calls begin
together. -/
def standing : List (Event Uuid PgError Call) :=
  overtaken storesBody 2 [.start (updateCall specificBody), .start ⟨4, 4, .revoke sampleTenant (sample 6)⟩] 6 ++
    List.replicate 8 (.ask 7) ++ [.stop 7 none, .ask 8, .stop 8 none]

theorem access_holds_sample :
    ∃ config, run (membershipServer sampleReference) standing = some config ∧
      (membershipsOf config.ledger).map (fun row => (row.revokedAt, (accessOf config.ledger row.id).length)) =
        [(some 4, 1)] ∧ AccessHolds config := by
  have ran : (run (membershipServer sampleReference) standing).any (fun config =>
      (membershipsOf config.ledger).map (fun row => (row.revokedAt, (accessOf config.ledger row.id).length)) =
        [(some 4, 1)] ∧ updatesStand config = true) = true := by
    decide +kernel
  obtain ⟨config, ran, seen⟩ := (any_eq_true _ _).1 ran
  obtain ⟨rows, stand⟩ := of_decide_eq_true seen
  exact ⟨config, ran, rows, access_holds (run_reachable _ ran) stand⟩

end Samples

end DataPulse.Memberships
