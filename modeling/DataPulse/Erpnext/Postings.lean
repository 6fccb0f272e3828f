/-
**The posting rows over a run.**

* `Reachable.deed`: a commit leaves the postings alone, creates one, or moves one, and meets the row as
  its transaction locked it.
-/

import DataPulse.Lib.Rows
import DataPulse.Erpnext.Effects

namespace DataPulse.Erpnext

open Lib Lib.Interleave Platform
open Inventory (TenantContext)

variable {row : PostingStatus} {users : Uuid → Bool} {writes : List Write} {config : Config}
  {before after : List (Nat × List Write)}
variable {update : Write}

/-! ### One row for each originating row -/

section Keys

variable {context : TenantContext} {wrote : List Write}
variable {statement : Stmt} {reply : Reply statement}

theorem clash_comm (first second : Write) : clash first second = clash second first := by
  cases first <;> cases second <;>
    simp [clash, PostingStatus.sameSource, eq_comm]

theorem collide_comm (first second : Write) : collide first second = collide second first := by
  cases first <;> cases second <;>
    simp [collide, PostingStatus.sameSource, eq_comm]

theorem clash_of_collide {first second : Write} (collides : collide first second = true) :
    clash first second = true := by
  cases first <;> cases second <;> simp_all [clash, collide]

theorem exec_plain (ran : exec users context writes statement = .ok (reply, wrote))
    (other : ∀ values, statement ≠ .insertPosting values) : ∀ write ∈ wrote, ∀ row, write ≠ .posting row := by
  have single : ∀ write : Write, (∀ row, write ≠ .posting row) → wrote = [write] →
      ∀ write ∈ wrote, ∀ row, write ≠ .posting row := by
    intro write plain same other mem
    rw [same, mem_singleton] at mem
    rwa [mem]
  have nothing : wrote = [] → ∀ write ∈ wrote, ∀ row, write ≠ .posting row := by
    intro none write mem
    rw [none] at mem
    cases mem
  have update : ∀ {id : Uuid} {write : Write} {reply : Option Int}, (∀ row, write ≠ .posting row) → updatePosting
      context writes id write = .ok (reply, wrote) → ∀ write ∈ wrote, ∀ row, write ≠ .posting row := by
    intro id write reply plain updated
    rcases updatePosting_ok updated with ⟨-, none⟩ | ⟨-, same⟩
    · exact nothing none
    · exact single write plain same
  cases statement with
  | insertPosting values => exact absurd rfl (other values)
  | recordFact fact =>
    obtain ⟨-, -, ran⟩ := bind_ok ran
    cases ran
    exact single _ (fun _ => by nofun) rfl
  | lockPosting id =>
    rcases lockPosting_ok users ran with ⟨-, none⟩ | ⟨-, -, -, -, same⟩
    · exact nothing none
    · exact single _ (fun _ => by nofun) same
  | post id documentRef | reject id category | reoffer id sequence => exact update (fun _ => by nofun) ran
  | requeue id sequence retryCount =>
    obtain ⟨⟨reply', wrote'⟩, updated, ran⟩ := bind_ok ran
    cases ran
    exact update (fun _ => by nofun) updated
  | insertAttempt | insertAudit row =>
    obtain ⟨-, -, ran⟩ := bind_ok₂ ran
    cases ran
    exact single _ (fun _ => by nofun) rfl
  | _ =>
    cases ran
    exact nothing rfl

theorem exec_refuses (ran : exec users context writes statement = .ok (reply, wrote)) :
    wrote.Pairwise (fun first second => collide first second = false) ∧
      ∀ first ∈ writes, ∀ second ∈ wrote, collide first second = false := by
  by_cases inserts : ∃ values, statement = .insertPosting values
  · obtain ⟨values, rfl⟩ := inserts
    rcases insertPosting_ok ran with
      ⟨rfl, -⟩ | ⟨rfl, -⟩ | ⟨sale, -, -, -, -, rfl, fresh⟩
    · exact refuses_none
    · exact refuses_none
    · refine refuses_single fun first mem => ?_
      cases first with
      | posting other => exact fresh other mem
      | _ => rfl
  · have plain := exec_plain ran fun values same => inserts ⟨values, same⟩
    refine refuses_apart fun first second mem => ?_
    cases second with
    | posting row => exact absurd rfl (plain _ mem row)
    | _ => cases first <;> rfl

theorem erpnextServer_lawful (users : Uuid → Bool) : Lawful { erpnextServer users with clash := collide } :=
  ⟨collide_comm, fun _ _ _ _ _ ran => exec_refuses ran⟩

/-- **No two committed postings share a key.** -/
theorem Reachable.collideFree (reach : Reachable users config) :
    config.ledger.Pairwise fun first second => collide first second = false :=
  ((Interleave.Reachable.weaken (fun _ _ => clash_of_collide) reach).clashFree
    (erpnextServer_lawful users)).ledger

/-- **A posting has one row.** -/
theorem Reachable.one_posting (reach : Reachable users config) {first second : PostingStatus}
    (inOne : .posting first ∈ config.ledger) (inTwo : .posting second ∈ config.ledger)
    (same : first.id = second.id) : first = second :=
  Write.posting.inj (eq_of_clash collide_comm reach.collideFree inOne inTwo (by simp [collide, same]))

end Keys

/-! ### Commits -/

/-- **What a commit did to the postings that were there.** -/
inductive Deed (before : List Write) : List Write → Prop where
  | quiet {writes : List Write} (plain : ∀ write ∈ writes, write.Plain) : Deed before writes
  | created {row : PostingStatus} (created : row.Created)
      (sold : ∃ sale ∈ salesOf before, sale.id = row.saleId ∧ sale.tenantId = row.tenantId) :
      Deed before [.posting row]
  | moved {row : PostingStatus} {update : Write} {trail : List Write}
      (present : .posting row ∈ before) (move : Move (row.after before) update)
      (about : update.updated = some row.id) (plain : ∀ write ∈ trail, write.Plain) :
      Deed before (.lock row.id :: update :: trail)

section Runs

variable {pid : Nat}

variable (reach : Reachable users config)
include reach

theorem Reachable.guarded {update : Write} {id : Uuid} {commits : List (Nat × List Write)}
    (inside : ∀ commit ∈ commits, commit ∈ config.commits) (mem : update ∈ contents commits)
    (about : update.updated = some id) : .lock id ∈ contents commits := by
  obtain ⟨pid, writes, commit, mem⟩ := mem_contents.1 mem
  obtain ⟨before, after, split⟩ := append_of_mem (inside _ commit)
  obtain ⟨proc, value, -, -, rfl, ends, -, -⟩ := reach.commit_of clash_comm split
  exact mem_contents.2 ⟨pid, _, commit, (Operation.effect ends).guarded mem about⟩

/-- **A commit meets a posting as its transaction locked it.** -/
theorem Reachable.deed (commits : config.commits = before ++ (pid, writes) :: after) :
    Deed (contents before) writes := by
  obtain ⟨proc, value, -, -, rfl, ends, held, -⟩ := reach.commit_of clash_comm commits
  have effect := Operation.effect ends
  revert effect
  generalize written proc.log = writes
  intro effect
  cases effect with
  | quiet plain => exact .quiet plain
  | created created drew sold => exact .created created sold
  | @moved row update trail seen holds move about drew plain =>
    have untouched : row.after (contents before) = row.after (contents (before.take seen)) := by
      rw [contents_split before seen, PostingStatus.after_append]
      refine PostingStatus.after_untouched fun other since same => ?_
      rw [PostingStatus.after_id] at same
      have lock := reach.guarded (fun commit mem => by
        rw [commits]
        exact mem_append_left _ (List.mem_of_mem_drop mem)) since same
      have apart : clash (.lock row.id) (.lock row.id) = false :=
        held _ _ _ _ holds.answered _ lock _ (mem_singleton_self _)
      simp [clash] at apart
    refine .moved (contents_take holds.present) ?_ about plain
    rw [untouched]
    exact move

theorem Reachable.anchored (commits : config.commits = before ++ after) :
    ∀ update ∈ contents before, ∀ id, update.updated = some id →
      ∃ row, .posting row ∈ contents before ∧ row.id = id := by
  refine prefix_induction (fun before => ∀ update ∈ contents before, ∀ id,
    update.updated = some id → ∃ row, .posting row ∈ contents before ∧ row.id = id)
    (fun _ none => by cases none) (fun before commit after commits anchored => ?_) before after commits
  obtain ⟨pid, writes⟩ := commit
  rw [contents_append, contents_cons, contents_nil, append_nil]
  intro update mem id about
  suffices there : ∃ row, .posting row ∈ contents before ∧ row.id = id from
    there.imp fun row found => ⟨mem_append_left _ found.1, found.2⟩
  rcases mem_append.1 mem with old | new
  · exact anchored update old id about
  cases reach.deed commits with
  | quiet plain =>
    rw [(plain update new).1] at about
    cases about
  | created created sold =>
    rw [mem_singleton.1 new] at about
    cases about
  | @moved row update' trail here move about' plain =>
    rcases mem_cons.1 new with rfl | new
    · cases about
    rcases mem_cons.1 new with rfl | new
    · exact ⟨row, here, mem_unique about' about⟩
    · rw [(plain update new).1] at about
      cases about

/-- **A commit leaves a posting as it is, or moves it.** -/
theorem Reachable.changes (commits : config.commits = before ++ (pid, writes) :: after)
    (mem : .posting row ∈ contents before) :
    row.after (contents before ++ writes) = row.after (contents before) ∨
      ∃ update ∈ writes, update.updated = some row.id ∧ Move (row.after (contents before)) update ∧
      row.after (contents before ++ writes) = (row.after (contents before)).set update := by
  rw [PostingStatus.after_append]
  have unmoved : ∀ (row : PostingStatus) (writes : List Write), (∀ write ∈ writes, write.Plain) →
      row.after writes = row := fun row writes plain =>
    PostingStatus.after_untouched fun write mem about => by
      rw [(plain write mem).1] at about
      cases about
  cases reach.deed commits with
  | quiet plain => exact .inl (unmoved _ _ plain)
  | created created sold =>
    refine .inl (PostingStatus.after_untouched fun write mem about => ?_)
    rw [mem_singleton.1 mem] at about
    cases about
  | @moved moved update trail here move about plain =>
    have locked : ∀ row : PostingStatus, row.after (.lock moved.id :: update :: trail) =
        row.apply update := fun row => unmoved (row.apply update) trail plain
    rw [locked]
    have onLedger : ∀ row : PostingStatus, .posting row ∈ contents before → .posting row ∈ config.ledger := by
      intro row there
      show _ ∈ contents config.commits
      rw [commits, contents_append]
      exact mem_append_left _ there
    by_cases same : moved.id = row.id
    · obtain rfl := reach.one_posting (onLedger _ here) (onLedger _ mem) same
      refine .inr ⟨update, mem_cons_of_mem _ mem_cons_self, about, move, ?_⟩
      exact PostingStatus.apply_updated (by rw [about, PostingStatus.after_id])
    · refine .inl (PostingStatus.apply_untouched fun other => same ?_)
      rw [about, PostingStatus.after_id] at other
      exact Option.some.inj other

theorem Reachable.inserts (commits : config.commits = before ++ (pid, writes) :: after)
    (member : .posting row ∈ writes) : row.Created ∧ row.after (contents before ++ writes) = row := by
  cases reach.deed commits with
  | quiet plain => exact absurd rfl ((plain _ member).2 row)
  | @moved row' update trail here move about plain =>
    rcases mem_cons.1 member with same | member
    · cases same
    rcases mem_cons.1 member with rfl | member
    · cases about
    · exact absurd rfl ((plain _ member).2 row)
  | created created sold =>
    obtain rfl := Write.posting.inj (mem_singleton.1 member)
    refine ⟨created, PostingStatus.after_untouched fun update inside about => ?_⟩
    rcases mem_append.1 inside with old | new
    · -- what was updated before has another key
      obtain ⟨other, there, same⟩ := reach.anchored commits update old _ about
      have apart := pairwise_commit commits reach.collideFree there mem_cons_self
      simp [collide, same] at apart
    · rw [mem_singleton.1 new] at about
      cases about

omit reach

end Runs

/-! ### What every UPDATE keeps -/

/-- What every UPDATE keeps of a posting. -/
structure PostingStatus.Kept (row : PostingStatus) : Prop where
  documented : row.documentRef.isSome = true ↔ row.status = .posted
  rejected : row.status = .permanentlyRejected → row.rejectionCategory.isSome = true
  stored : row.status ≠ .failedTransient
  budget : row.retryCount ≤ POSTING_RETRY_BUDGET

/-- A rejection category is that of a rejected posting. -/
def PostingStatus.Clean (row : PostingStatus) : Prop :=
  row.rejectionCategory.isSome = true → row.status = .permanentlyRejected

theorem PostingStatus.Created.kept (created : row.Created) : row.Kept := by
  obtain ⟨undocumented, ⟨status, category⟩ | ⟨status, category⟩, untried⟩ := created
  · exact ⟨by simp [undocumented, status], by simp [status], by simp [status], by simp [untried]⟩
  · exact ⟨by simp [undocumented, status], fun _ => category, by simp [status], by simp [untried]⟩

theorem PostingStatus.Created.clean (created : row.Created) : row.Clean := by
  obtain ⟨-, ⟨-, category⟩ | ⟨status, -⟩, -⟩ := created
  · intro some
    rw [category] at some
    cases some
  · exact fun _ => status

theorem PostingStatus.Kept.undocumented (kept : row.Kept) (unposted : row.status ≠ .posted) :
    row.documentRef.isSome = false := by
  by_contra documented
  exact unposted (kept.documented.1 (by simpa only [not_eq_false] using documented))

/-- **Every UPDATE of a run keeps it.** -/
theorem Move.kept (move : Move row update) (kept : row.Kept) : (row.set update).Kept := by
  cases move with
  | post awaits => exact ⟨by simp [PostingStatus.set], nofun, nofun, kept.budget⟩
  | reject awaits =>
    have undocumented := kept.undocumented awaits.1
    exact ⟨by simp [PostingStatus.set, undocumented], fun _ => rfl, nofun, kept.budget⟩
  | reoffer awaits budget =>
    have undocumented := kept.undocumented awaits.1
    exact ⟨by simp [PostingStatus.set, undocumented], nofun, nofun, budget⟩
  | requeue lettered =>
    have undocumented := kept.undocumented lettered.1
    exact ⟨by simp [PostingStatus.set, undocumented], nofun, nofun, Nat.zero_le _⟩

theorem Move.clean (move : Move row update) (clean : row.Clean)
    (spared : ∀ id sequence retryCount time, update ≠ .requeue id sequence retryCount time) :
    (row.set update).Clean := by
  cases move with
  | post awaits => exact fun category => absurd (clean category) awaits.2
  | reject awaits => exact fun _ => rfl
  | reoffer awaits budget => exact fun category => absurd (clean category) awaits.2
  | requeue lettered => exact absurd rfl (spared _ _ _ _)

/-- **A posted row admits no UPDATE.** -/
theorem Move.unposted (move : Move row update) : row.status ≠ .posted := by
  cases move with
  | post awaits | reject awaits | reoffer awaits budget => exact awaits.1
  | requeue lettered => exact lettered.1

/-- **What holds of created postings and is kept by every UPDATE holds up to each commit.** -/
theorem Reachable.rows (reach : Reachable users config) {holds : PostingStatus → Prop}
    (created : ∀ row : PostingStatus, row.Created → holds row)
    (moves : ∀ (row : PostingStatus) (update : Write), update ∈ config.ledger → Move row update → holds row →
        holds (row.set update)) (commits : config.commits = before ++ after) :
    ∀ row, .posting row ∈ contents before → holds (row.after (contents before)) := by
  refine prefix_induction (fun before => ∀ row, .posting row ∈ contents before →
    holds (row.after (contents before)))
    (fun _ none => by cases none) (fun before commit after commits rows => ?_) before after commits
  obtain ⟨pid, writes⟩ := commit
  rw [contents_append, contents_cons, contents_nil, append_nil]
  intro row mem
  rcases mem_append.1 mem with old | new
  · obtain same | ⟨update, inside, -, move, same⟩ := reach.changes commits old
    · rw [same]
      exact rows row old
    · rw [same]
      exact moves _ update (mem_ledger_own commits inside) move (rows row old)
  · obtain ⟨isCreated, same⟩ := reach.inserts commits new
    rw [same]
    exact created row isCreated

theorem Reachable.kept (reach : Reachable users config) (commits : config.commits = before ++ after)
    (mem : row ∈ postingsOf (contents before)) : row.Kept := by
  obtain ⟨added, there, rfl⟩ := mem_postingsOf.1 mem
  exact reach.rows (fun _ => PostingStatus.Created.kept) (fun _ _ _ move kept => move.kept kept) commits added
    there

/-- **A posted row never changes.** -/
theorem Reachable.frozen (reach : Reachable users config) (commits : config.commits = before ++ after)
    (mem : row ∈ postingsOf (contents before)) (posted : row.status = .posted) :
    row ∈ postingsOf config.ledger := by
  obtain ⟨added, there, rfl⟩ := mem_postingsOf.1 mem
  suffices still : ∀ more rest, after = more ++ rest →
      added.after (contents (before ++ more)) = added.after (contents before) by
    refine mem_postingsOf.2 ⟨added, ?_, ?_⟩
    · exact contents_mono ⟨after, commits.symm⟩ there
    · rw [Config.ledger, commits]
      exact still after [] (append_nil _).symm
  refine prefix_induction
    (fun more => added.after (contents (before ++ more)) = added.after (contents before)) ?_ ?_
  · rw [append_nil]
  · rintro more ⟨pid, writes⟩ rest rfl same
    rw [← append_assoc] at commits
    have onward := contents_mono (prefix_append before more) there
    rw [← append_assoc, contents_append, contents_cons, contents_nil, append_nil]
    obtain kept | ⟨update, -, -, move, -⟩ := reach.changes commits onward
    · exact kept.trans same
    · exact absurd (same ▸ posted) move.unposted

/-! ### What the rows ought to satisfy -/

def postingsFor (tenantId sourceRefId : Uuid) (writes : List Write) : List PostingStatus :=
  (postingsOf writes).filter (PostingStatus.originates tenantId sourceRefId)

/-- What the rows ought to satisfy in a state. -/
structure Settled (writes : List Write) : Prop where
  single : ∀ tenantId sourceRefId, (postingsFor tenantId sourceRefId writes).length ≤ 1
  documented : ∀ row ∈ postingsOf writes, row.documentRef.isSome = true ↔ row.status = .posted
  rejected : ∀ row ∈ postingsOf writes,
    row.rejectionCategory.isSome = true ↔ row.status = .permanentlyRejected
  budget : ∀ row ∈ postingsOf writes, row.retryCount ≤ POSTING_RETRY_BUDGET

/-- The sale of an event was committed at the store when the delivery began. -/
structure Delivers (before : List (Nat × List Write)) (event : PostingRequestedEvent)
    (payload : PostingRequestedPayload) (proc : Proc) : Prop where
  operation : proc.call.operation = .handle event
  parsed : event.payload.parse = .ok payload
  sold : ∃ sale ∈ salesOf (contents before), sale.id = payload.saleId ∧
    sale.storeId = payload.storeId ∧ sale.tenantId = event.tenantId
  began : ∀ seen ∈ seens proc.log, before.length ≤ seen

/-- What the rows ought to satisfy in a run: in every state it reached, from one state to a later one,
after a delivery, and when a call throws. -/
structure PostingsHold (config : Config) : Prop where
  settled : ∀ before after, config.commits = before ++ after → Settled (contents before)
  frozen : ∀ before after, config.commits = before ++ after → ∀ row ∈ postingsOf (contents before),
    row.status = .posted → row ∈ postingsOf config.ledger
  delivered : ∀ before after, config.commits = before ++ after → ∀ proc ∈ config.procs,
    ∀ event payload, Delivers before event payload proc → ∀ body, proc.result = some (.ok body) →
      (postingsFor event.tenantId payload.sourceRefId config.ledger).length = 1
  thrown : ∀ (pid : Nat) (proc : Proc), config.procs[pid]? = some proc → ∀ error,
    proc.result = some (.error error) → ∀ writes, (pid, writes) ∉ config.commits

section Claims

variable {proc : Proc}

theorem Reachable.single (reach : Reachable users config) (commits : config.commits = before ++ after)
    (tenantId sourceRefId : Uuid) : (postingsFor tenantId sourceRefId (contents before)).length ≤ 1 := by
  have free := reach.collideFree
  rw [Config.ledger, commits, contents_append] at free
  refine filter_length_le_one (pairwise_map.2 ?_)
  refine List.Pairwise.filterMap _ ?_ (pairwise_append.1 free).1
  rintro write other apart first inOne second inTwo ⟨one, two⟩
  cases write with
  | posting row =>
    cases other with
    | posting row' =>
      obtain rfl := Option.some.inj inOne
      obtain rfl := Option.some.inj inTwo
      simp only [PostingStatus.originates, PostingStatus.after_tenantId,
        PostingStatus.after_sourceRefId, and_eq_true, decide_eq_true_eq] at one two
      simp [collide, PostingStatus.sameSource, one, two] at apart
    | _ => cases inTwo
  | _ => cases inOne

theorem careful_handle (event : PostingRequestedEvent) : Careful (erpnextServer users) event.handle := by
  have fresh : Careful (erpnextServer users) newUuid ∧ Careful (erpnextServer users) nextSequence := by
    constructor
    all_goals
      intro log value ends
      obtain ⟨drawn, rest, rfl, later⟩ := ends_draw ends
      cases drawn with
      | uuid id | sequence number =>
        first
        | rw [(ends_done later).1]; rfl
        | cases (ends_fail later).2
  unfold PostingRequestedEvent.handle
  split
  · exact careful_fail _
  · refine careful_bind ?_ fun verdict => careful_bind fresh.1 fun id => careful_bind fresh.2
      fun sequence => careful_bind (careful_query _) fun _ => careful_done _
    refine careful_bind (careful_query _) fun warehouses => ?_
    show Careful _ (if _ then _ else _)
    split_ifs
    · exact careful_done _
    · refine careful_bind (careful_query _) fun unmapped => ?_
      show Careful _ (if _ then _ else _)
      split_ifs
      · exact careful_done _
      · exact careful_done _

/-- **A delivery of a sale that was there leaves its posting.** -/
theorem Reachable.delivered (reach : Reachable users config) (commits : config.commits = before ++ after)
    (mem : proc ∈ config.procs) {event : PostingRequestedEvent} {payload : PostingRequestedPayload}
    (delivers : Delivers before event payload proc) {body : Body} (gave : proc.result = some (.ok body)) :
    ∃ row, .posting row ∈ config.ledger ∧ row.tenantId = event.tenantId ∧
      row.sourceRefId = payload.sourceRefId := by
  obtain ⟨op, parsed, ⟨sale, sold, id, store, tenant⟩, began⟩ := delivers
  have ends := Interleave.Reachable.finishes reach mem gave
  obtain ⟨pid, found⟩ := List.getElem?_of_mem mem
  have program : (erpnextServer users).program proc.call = event.handle.bind fun _ => .done .done := by
    show proc.call.operation.program = _
    rw [op]
    rfl
  rw [program] at ends
  have sound := (careful_bind (careful_handle event) fun _ => careful_done Body.done) _ _ ends.ends
  have kept := reach.booked.returned pid proc body found gave sound
  obtain ⟨_, first, last, same, handling, rest⟩ := completes_bind ⟨ends.ends, ends.answers, sound⟩
  obtain ⟨rfl, -⟩ := completes_done rest
  rw [append_nil] at same
  rw [same] at began kept
  simp only [PostingRequestedEvent.handle, parsed] at handling
  obtain ⟨values, seen, reply, early, isSeen, tenant', store', sale', source, -, -, ran⟩ :=
    project_effect handling
  rw [append_nil] at ran
  have onLedger : ∀ write ∈ written first, write ∈ config.ledger := fun write inside =>
    mem_contents.2 ⟨pid, _, kept, inside⟩
  have context : some event.tenantId = proc.call.context.tenant := by
    show _ = proc.call.operation.tenant
    rw [op]
    rfl
  obtain ⟨-, missing⟩ | ⟨-, other, there, sameTenant, sameSource⟩ | ⟨fact, -, -, -, -, wrote, -⟩ :=
    insertPosting_ok ran
  · refine absurd ?_ (missing sale ?_ (id.trans sale'.symm) (store.trans store'.symm))
    · rw [tenant]
      exact context
    · refine mem_salesOf.2 (contents_mono ?_ (mem_salesOf.1 sold))
      exact List.prefix_take_iff.2 ⟨⟨after, commits.symm⟩, began seen isSeen⟩
  · exact ⟨other, contents_take there, sameTenant.trans tenant', sameSource.trans source⟩
  · exact ⟨_, onLedger _ (wrote ▸ mem_singleton_self _), tenant', source⟩

theorem Reachable.thrown (reach : Reachable users config) {pid : Nat} (found : config.procs[pid]? = some proc)
    {error : Thrown} (threw : proc.result = some (.error error)) (writes : List Write) :
    (pid, writes) ∉ config.commits := by
  intro kept
  obtain ⟨proc', value, found', gave, -⟩ := reach.booked.committed pid writes kept
  obtain rfl := mem_unique found found'
  rw [threw] at gave
  cases gave

/-- **The rows satisfy all of it exactly when no repair of the run re-offered a dead letter.** -/
theorem postings_hold_iff (reachable : Reachable users config) :
    PostingsHold config ↔
      ∀ id sequence retryCount updatedAt, Write.requeue id sequence retryCount updatedAt ∉ config.ledger := by
  constructor
  · intro hold id sequence retryCount updatedAt requeued
    obtain ⟨pid, writes, committed, inside⟩ := mem_contents.1 requeued
    obtain ⟨before, after, commits⟩ := append_of_mem committed
    have deed := reachable.deed commits
    cases deed with
    | quiet plain => cases (plain _ inside).1
    | created created sold => cases mem_singleton.1 inside
    | @moved row update trail here move about plain =>
      rcases mem_cons.1 inside with same | inside
      · cases same
      rcases mem_cons.1 inside with rfl | inside
      swap
      · cases (plain _ inside).1
      obtain rfl := Option.some.inj about
      -- the row was a dead letter, and after the commit it is pending with its category
      have known : row.after (contents before) ∈ postingsOf (contents before) :=
        mem_postingsOf.2 ⟨row, here, rfl⟩
      have kept := reachable.kept commits known
      cases move with
      | requeue lettered =>
        have lettered' : (row.after (contents before)).status = .permanentlyRejected := by
          revert lettered
          have stored := kept.stored
          revert stored
          generalize (row.after (contents before)).status = status
          cases status <;> simp
        have category := kept.rejected lettered'
        have later := (hold.settled (before ++ [(pid, _)]) after (by
          rw [commits, append_assoc]
          rfl)).rejected _ (mem_postingsOf.2 ⟨row, by
            rw [contents_append]
            exact mem_append_left _ here, rfl⟩)
        have same : row.after (contents (before ++ [(pid, .lock row.id ::
            .requeue row.id sequence REPAIR_RESET_RETRY_COUNT updatedAt :: trail)])) =
            (row.after (contents before)).set (.requeue row.id sequence REPAIR_RESET_RETRY_COUNT updatedAt) := by
          rw [contents_append, contents_cons, contents_nil, append_nil, PostingStatus.after_append]
          show ((row.after (contents before)).apply _).after trail = _
          rw [PostingStatus.apply_updated (by rw [PostingStatus.after_id]; rfl)]
          refine PostingStatus.after_untouched fun write mem about => ?_
          rw [(plain write mem).1] at about
          cases about
        rw [same] at later
        cases later.1 category
  · intro spared
    refine ⟨fun before after commits => ⟨reachable.single commits, fun row mem => (reachable.kept commits
      mem).documented, fun row mem => ?_, fun row mem => (reachable.kept commits mem).budget⟩, fun before
      after commits row mem posted => reachable.frozen commits mem posted, ?_, fun pid proc found error threw =>
      reachable.thrown found threw⟩
    · refine ⟨?_, (reachable.kept commits mem).rejected⟩
      obtain ⟨added, there, rfl⟩ := mem_postingsOf.1 mem
      refine reachable.rows (fun _ => PostingStatus.Created.clean)
        (fun row update inside move clean => move.clean clean ?_) commits added there
      rintro id sequence retryCount time rfl
      exact spared id sequence retryCount time inside
    · intro before after commits proc mem event payload delivers body gave
      obtain ⟨row, inside, tenant, source⟩ := reachable.delivered commits mem delivers gave
      refine Nat.le_antisymm (reachable.single (append_nil _).symm event.tenantId payload.sourceRefId) ?_
      refine length_pos_of_mem (a := row.after config.ledger) (mem_filter.2
        ⟨mem_postingsOf.2 ⟨row, inside, rfl⟩, ?_⟩)
      simp [PostingStatus.originates, tenant, source]

end Claims

/-! ### Runs of one posting -/

def sampleSale : SaleFact where
  id := sample 2
  tenantId := sample 0
  storeId := sample 1
  currencyCode := "EGP"
  posTotal := ⟨0, by decide⟩
  occurredAt := 0
  receivedAt := 0
  businessDate := "2026-06-12"
  processedAt := some 0
  sourceClockAt := none
  sourceSystem := "pos"
  externalId := "s-1"
  mismatchFlag := some false
  createdBy := sample 0
  syncStatus := .synced
  payloadHash := String.ofList (List.replicate 64 'a')

def sampleWarehouse : WarehouseMap := ⟨sample 3, sample 0, sample 1, "stock", none⟩

def sampleEvent : PostingRequestedEvent where
  tenantId := sample 0
  payload := .object (.text (sample 2).text) (.text (sample 1).text) (.text "sale_post")
    (.text (sample 2).text)
  correlationId := none

def recordEvents (pid : Nat) (fact : Fact) : List (Event Fresh PgError Call) :=
  [.start ⟨1, .record fact⟩, .ask pid, .stop pid none]

/-- The consumer rejects the sale of a store without a warehouse. -/
def rejectEvents (pid : Nat) : List (Event Fresh PgError Call) :=
  [.start ⟨2, .handle sampleEvent⟩, .ask pid, .draw pid (.uuid (sample 4)),
    .draw pid (.sequence 0), .ask pid, .stop pid none]

def repairEvents (pid : Nat) : List (Event Fresh PgError Call) :=
  [.start ⟨3, .repairPosting ⟨sample 0, sample 5, sample 4⟩⟩, .ask pid, .ask pid,
    .ask pid, .draw pid (.sequence 1), .ask pid, .draw pid (.uuid (sample 6)), .ask pid,
    .draw pid (.uuid (sample 7)), .ask pid, .stop pid none]

/-- **A dead letter that a repair re-offered is pending, with the category of its rejection.** -/
theorem requeued_with_category : ∃ config, Reachable (fun _ => true) config ∧ ¬ PostingsHold config := by
  have ran : (run (erpnextServer fun _ => true) (recordEvents 0 (.sale sampleSale) ++ rejectEvents 1 ++
      recordEvents 2
      (.warehouseMap sampleWarehouse) ++
        repairEvents 3)).any (fun config => (postingsOf config.ledger).any fun row =>
      row.status = .pending && row.rejectionCategory.isSome) = true := by
    decide +kernel
  obtain ⟨config, ran, seen⟩ := (any_eq_true _ _).1 ran
  refine ⟨config, run_reachable _ ran, fun hold => ?_⟩
  obtain ⟨row, mem, holds⟩ := List.any_eq_true.1 seen
  rw [and_eq_true, decide_eq_true_eq] at holds
  have rejected := ((hold.settled config.commits [] (append_nil _).symm).rejected row mem).1 holds.2
  rw [holds.1] at rejected
  cases rejected

theorem postings_hold_sample :
    ∃ config, run (erpnextServer fun _ => true) (recordEvents 0 (.sale sampleSale) ++ rejectEvents 1) =
      some config ∧ (postingsOf config.ledger).length = 1 ∧ PostingsHold config := by
  have ran : (run (erpnextServer fun _ => true)
      (recordEvents 0 (.sale sampleSale) ++ rejectEvents 1)).any (fun config =>
        (postingsOf config.ledger).length = 1 ∧
          config.ledger.all (fun write => match write with | .requeue .. => false | _ => true)) =
        true := by
    decide +kernel
  obtain ⟨config, ran, seen⟩ := (any_eq_true _ _).1 ran
  obtain ⟨one, spared⟩ := of_decide_eq_true seen
  refine ⟨config, ran, one, (postings_hold_iff (run_reachable _ ran)).2 ?_⟩
  intro id sequence retryCount updatedAt requeued
  cases all_eq_true.1 spared _ requeued

end DataPulse.Erpnext
