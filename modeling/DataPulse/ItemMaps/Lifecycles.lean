/-
**The life of an item mapping over a run.**

* `Reachable.collideFree`: no two committed rows of a table share an id.
-/

import DataPulse.ItemMaps.Effects

namespace DataPulse.ItemMaps

open Lib Lib.Interleave Platform

/-! ### One row for an id -/

variable {reference : Reference} {writes : List Write} {config : Config} {version : Nat} {id : Uuid}
  {pid : Nat} {before after : List (Nat × List Write)} {targetRef : Uuid}
  {commits : List (Nat × List Write)} {call : Call} {log : Log} {body : Body} {row : Mapping}

section Keys

variable {context : Context} {wrote : List Write}
variable {second first : Write}

theorem clash_of_collide (collides : collide first second = true) : clash first second = true := by
  cases first <;> cases second <;> simp_all [clash, sameRow, Write.rowKey]

theorem exec_rows {stmt : Stmt} {reply : Reply stmt}
    (went : exec reference context writes stmt = .ok (reply, wrote)) :
    (∀ write ∈ wrote, write.rowKey = none) ∨ ∃ write, wrote = [write] ∧ ∀ first ∈ writes, collide first write = false := by
  have updating : ∀ {id : Uuid} {passes : Mapping → Bool} {update : Write} {updated : Option Mapping},
      update.rowKey = none → updateMapping context writes id passes update = (updated, wrote) →
        (∀ write ∈ wrote, write.rowKey = none) ∨ ∃ write, wrote = [write] ∧ ∀ first ∈ writes, collide first write = false := by
    intro id passes update updated plain ran
    obtain ⟨-, rfl⟩ | ⟨row, -, -, -, -, -, rfl⟩ := updateMapping_ok ran
    · exact .inl fun _ none => by cases none
    · exact .inr ⟨_, rfl, fun first _ => sameRow_none plain⟩
  cases stmt with
  | change edit =>
    obtain ⟨write, rfl, -, -, apart⟩ := change_ok reference went
    exact .inr ⟨write, rfl, apart⟩
  | insertMapping values =>
    obtain ⟨error, -, rfl⟩ | ⟨-, rfl, admitted⟩ := insertMapping_ok reference went
    · exact .inl fun _ none => by cases none
    · refine .inr ⟨_, rfl, fun first mem => ?_⟩
      cases first with
      | mapping other => exact sameRow_ne rfl rfl (admitted.fresh other mem)
      | _ => rfl
  | confirmMapping id version actor | retireMapping id version =>
    obtain ⟨-, -, went⟩ := bind_ok went
    exact updating rfl (Except.ok.inj went)
  | lockResult id runId =>
    simp only [exec] at went
    split at went
    · cases went
      exact .inl fun _ none => by cases none
    · cases went
      exact .inr ⟨_, rfl, fun first _ => sameRow_none rfl⟩
  | markRepaired id =>
    obtain ⟨-, rfl⟩ := ok_inj went
    split_ifs
    · exact .inr ⟨_, rfl, fun first _ => sameRow_none rfl⟩
    · exact .inl fun _ none => by cases none
  | insertAttempt values =>
    obtain ⟨-, rfl, fresh⟩ := insertAttempt_ok went
    refine .inr ⟨_, rfl, fun first mem => ?_⟩
    cases first with
    | attempt other => exact sameRow_ne rfl rfl (fresh other mem)
    | _ => rfl
  | insertAudit row =>
    obtain ⟨rfl, fresh⟩ := insertAudit_ok went
    refine .inr ⟨_, rfl, fun first mem => ?_⟩
    cases first with
    | audit other => exact sameRow_ne rfl rfl (fresh other mem)
    | _ => rfl
  | _ =>
    obtain ⟨-, rfl⟩ := ok_inj went
    exact .inl fun _ none => by cases none

theorem itemMapServer_lawful (reference : Reference) :
    Lawful { itemMapServer reference with clash := collide } :=
  .of_rows fun _ _ _ _ _ ran => exec_rows ran

theorem Reachable.collideFree (reach : Reachable reference config) :
    config.ledger.Pairwise fun first second => collide first second = false :=
  ((Interleave.Reachable.weaken (fun _ _ => clash_of_collide) reach).clashFree
    (itemMapServer_lawful reference)).ledger

/-- **A mapping has one row.** -/
theorem Reachable.one_mapping (reach : Reachable reference config) {first second : Mapping}
    (inOne : .mapping first ∈ config.ledger) (inTwo : .mapping second ∈ config.ledger)
    (same : first.id = second.id) : first = second :=
  Write.mapping.inj (eq_of_sameRow reach.collideFree inOne inTwo rfl (by rw [same]; rfl))

end Keys

/-! ### Commits -/

variable {op : Operation} {input : RepairInput} {targetKind : TargetKind} {attempt : RepairAttempt}
  {audit : AuditEvent}

section Commits

variable {write : Write}

theorem Reachable.effect (reach : Reachable reference config)
    (commits : config.commits = before ++ (pid, writes) :: after) :
    ∃ proc body, config.procs[pid]? = some proc ∧ proc.result = some (.ok body) ∧
      Effect before proc.call proc.log body writes ∧ Held (itemMapServer reference) before proc.log := by
  obtain ⟨proc, body, found, gave, rfl, ends, held, -⟩ := reach.commit_of clash_comm commits
  exact ⟨proc, body, found, gave, Operation.effect ends, held⟩

theorem expects_of_repair {mappingId : Uuid} (asked : op.repair = some (input, targetKind, targetRef))
    (valid : validateRepair input = .ok (.confirm mappingId version)) :
    op.expects = some (mappingId, version) := by
  cases op <;> cases asked
  · simp only [Operation.expects, valid]
  · simp only [Operation.expects, valid]

theorem maps_of_updated (about : write.updated = some id) : write.maps = true := by
  cases write <;> cases about <;> rfl

theorem mapped_of_repair {mapped locks marks : List Write} {now : Int}
    (locks' : ∀ write ∈ locks, ∃ id, write = .lockResult id)
    (marks' : ∀ write ∈ marks, write = .repaired targetRef now) (maps : write.maps = true)
    (member : write ∈ locks ++ (mapped ++ ([.attempt attempt, .audit audit] ++ marks))) : write ∈ mapped := by
  rcases mem_append.1 member with lock | member
  · obtain ⟨id, rfl⟩ := locks' write lock
    cases maps
  rcases mem_append.1 member with here | member
  · exact here
  rcases mem_append.1 member with record | mark
  · simp only [mem_cons, not_mem_nil, or_false] at record
    rcases record with rfl | rfl <;> cases maps
  · rw [marks' write mark] at maps
    cases maps

theorem Effect.updated (effect : Effect commits call log body writes) {update : Write} (mem : update ∈ writes)
    (about : update.updated = some id) :
    (∃ row version seen, HoldsMapping commits call log row version update seen ∧ row.id = id ∧
        call.operation.expects = some (id, version)) ∨
      ∃ row seen, MappingEntered commits call log row seen ∧ .mapping row ∈ writes ∧ row.id = id := by
  cases effect with
  | quiet unmoved unrepaired failed calm =>
    have still := (calm update mem).1
    cases update <;> cases about <;> cases still
  | suggested asked entered =>
    rw [mem_singleton.1 mem] at about
    cases about
  | @moved row answered version seen update' moved unrepaired expects holds =>
    obtain rfl := mem_singleton.1 mem
    obtain rfl := mem_unique holds.updates about
    exact .inl ⟨row, version, seen, holds, rfl, expects⟩
  | @repaired input targetKind targetRef instruction driven mapped locks marks attempt audit seen asked
      valid drives decided records locks' marks' =>
      have mapping : update ∈ mapped :=
        mapped_of_repair locks' (fun write mark => (marks' write mark).2.2) (maps_of_updated about) mem
      have there : ∀ {row : Mapping}, .mapping row ∈ mapped →
          .mapping row ∈ locks ++ (mapped ++ ([.attempt attempt, .audit audit] ++ marks)) :=
        fun inside => mem_append_right _ (mem_append_left _ inside)
      cases drives with
      | confirmed holds =>
        obtain rfl := mem_singleton.1 mapping
        obtain rfl := Option.some.inj about
        exact .inl ⟨_, _, _, holds, rfl, expects_of_repair asked valid⟩
      | @entered ref row seen₀ seen entered product early =>
        simp only [mem_cons, not_mem_nil, or_false] at mapping
        rcases mapping with rfl | rfl
        · cases about
        · exact .inr ⟨row, _, entered, there mem_cons_self, Option.some.inj about⟩
      | stuck entered missed =>
        rw [mem_singleton.1 mapping] at about
        cases about
      | _ => cases mapping

theorem Effect.entered (effect : Effect commits call log body writes) {row : Mapping}
    (mem : .mapping row ∈ writes) :
    (∃ seen, MappingEntered commits call log row seen) ∧ ∀ other, .mapping other ∈ writes → other = row := by
  cases effect with
  | quiet unmoved unrepaired failed calm => cases (calm _ mem).1
  | suggested asked entered =>
    cases mem_singleton.1 mem
    exact ⟨⟨_, entered⟩, fun other inside => by cases mem_singleton.1 inside; rfl⟩
  | moved moved unrepaired expects holds =>
    have about := holds.updates
    rw [← mem_singleton.1 mem] at about
    cases about
  | @repaired input targetKind targetRef instruction driven mapped locks marks attempt audit seen asked
      valid drives decided records locks' marks' =>
      have mapping : ∀ {row : Mapping}, .mapping row ∈ locks ++ (mapped ++
          ([.attempt attempt, .audit audit] ++ marks)) → .mapping row ∈ mapped := fun mem =>
        mapped_of_repair locks' (fun write mark => (marks' write mark).2.2) rfl mem
      have inside := mapping mem
      cases drives with
      | confirmed holds => simp at inside
      | @entered ref row' seen₀ seen entered product early =>
        have single : ∀ other : Mapping, .mapping other ∈
            [Write.mapping row', .confirm row'.id input.actorUserId call.now] → other = row' := by
          intro other here
          rcases mem_cons.1 here with same | here
          · exact Write.mapping.inj same
          · cases mem_singleton.1 here
        obtain rfl := single row inside
        exact ⟨⟨_, entered⟩, fun other more => single other (mapping more)⟩
      | stuck entered missed =>
        cases mem_singleton.1 inside
        exact ⟨⟨_, entered⟩, fun other more => by cases mem_singleton.1 (mapping more); rfl⟩
      | _ => cases inside

end Commits

/-! ### A mapping from commit to commit -/

section Mappings

variable {update : Write}

theorem Reachable.known (reach : Reachable reference config) (commits : config.commits = before ++ after)
    (mem : update ∈ contents before) (about : update.updated = some id) :
    ∃ row, .mapping row ∈ contents before ∧ row.id = id := by
  obtain ⟨pid, writes, commit, inside⟩ := mem_contents.1 mem
  obtain ⟨early, late, rfl⟩ := append_of_mem commit
  rw [append_assoc, cons_append] at commits
  obtain ⟨proc, body, -, -, effect, -⟩ := reach.effect commits
  rcases effect.updated inside about with ⟨row, version, seen, holds, same, -⟩ | ⟨row, seen, -, new, same⟩
  · refine ⟨row, contents_mono ?_ holds.present, same⟩
    exact (List.take_prefix _ _).trans (prefix_append _ _)
  · exact ⟨row, mem_contents.2 ⟨pid, writes, commit, new⟩, same⟩

/-- **A new mapping has an id that nothing committed before it is about.** -/
theorem Reachable.unmet (reach : Reachable reference config)
    (commits : config.commits = before ++ (pid, writes) :: after) (mem : .mapping row ∈ writes) :
    (∀ other, .mapping other ∈ contents before → other.id ≠ row.id) ∧
      ∀ write ∈ contents before, write.updated ≠ some row.id := by
  have apart : ∀ other, .mapping other ∈ contents before → other.id ≠ row.id := by
    intro other old same
    have apart := pairwise_commit commits reach.collideFree old mem
    simp [sameRow, Write.rowKey, same] at apart
  refine ⟨apart, fun write old about => ?_⟩
  obtain ⟨other, there, same⟩ := reach.known commits old about
  exact apart other there same

/-- **A mapping whose row a transaction holds is still as it found it.** -/
theorem HoldsMapping.still {version seen : Nat} (holds : HoldsMapping before call log row version update seen)
    (held : Held (itemMapServer reference) before log) :
    row.after (contents before) = row.after (contents (before.take seen)) := by
  rw [contents_split before seen, Mapping.after_append]
  refine Mapping.after_untouched fun other since about => ?_
  rw [Mapping.after_id] at about
  obtain ⟨stmt, reply, answered⟩ := holds.locked
  have apart := held _ _ _ _ answered other since update (mem_singleton_self _)
  have clashes : clash other update = true := by
    have mine := holds.updates
    cases other <;> cases about <;> cases update <;> cases mine <;> simp [clash, Write.updated]
  rw [show (itemMapServer reference).clash other update = true from clashes] at apart
  cases apart

variable (reach : Reachable reference config)
include reach

/-- **Whoever updates a mapping meets it active, at the version its call expects.** -/
theorem Reachable.guarded (commits : config.commits = before ++ (pid, writes) :: after)
    (there : .mapping row ∈ contents before) (mem : update ∈ writes) (about : update.updated = some row.id) :
    (row.after (contents before)).isActive = true ∧
      ∃ proc, config.procs[pid]? = some proc ∧
      proc.call.operation.expects = some (row.id, (row.after (contents before)).version) := by
  obtain ⟨proc, body, found, -, effect, held⟩ := reach.effect commits
  rcases effect.updated mem about with
    ⟨found', version, seen, holds, same, expects⟩ | ⟨new, seen, -, inside, same⟩
  · obtain rfl : found' = row := reach.one_mapping
      (mem_ledger commits (contents_take holds.present)) (mem_ledger commits there) same
    rw [holds.still held]
    exact ⟨holds.active, proc, found, by rw [holds.current, expects]⟩
  · exact absurd same.symm ((reach.unmet commits inside).1 row there)

/-- **Once a mapping is retired, its row is never changed.** -/
theorem Reachable.frozen (commits : config.commits = before ++ after) (there : .mapping row ∈ contents before)
    (retired : (row.after (contents before)).isActive = false) :
    row.after config.ledger = row.after (contents before) := by
  have whole : config.ledger = contents before ++ contents after := by
    rw [Config.ledger, commits, contents_append]
  rw [whole, Mapping.after_append]
  refine Mapping.after_untouched fun update mem about => ?_
  rw [Mapping.after_id] at about
  obtain ⟨pid, writes, commit, inside⟩ := mem_contents.1 mem
  obtain ⟨early, late, rfl⟩ := append_of_mem commit
  rw [← append_assoc] at commits
  obtain ⟨active, -⟩ := reach.guarded commits (by rw [contents_append]; exact mem_append_left _ there) inside
    about
  rw [contents_append, Mapping.after_append, Mapping.after_retired retired] at active
  cases active

theorem Reachable.inserted (mem : .mapping row ∈ config.ledger) : row.isActive = true ∧ row.version = 1 := by
  obtain ⟨pid, writes, commit, mem⟩ := mem_contents.1 mem
  obtain ⟨before, after, split⟩ := append_of_mem commit
  obtain ⟨proc, body, -, -, effect, -⟩ := reach.effect split
  obtain ⟨⟨seen, entered⟩, -⟩ := effect.entered mem
  exact ⟨entered.active, entered.version⟩

/-- **No active mapping has the product of a new one.** -/
theorem Reachable.unrivalled (commits : config.commits = before ++ (pid, writes) :: after) {other : Mapping}
    (mem : .mapping row ∈ writes) (there : .mapping other ∈ contents before)
    (same : other.sameProduct row = true) : (other.after (contents before)).isActive = false := by
  obtain ⟨proc, body, -, -, effect, held⟩ := reach.effect commits
  obtain ⟨⟨seen, entered⟩, -⟩ := effect.entered mem
  obtain ⟨stmt, reply, answered⟩ := entered.answered
  rw [contents_split before seen] at there
  rcases mem_append.1 there with early | late
  · rw [contents_split before seen, Mapping.after_append]
    exact Mapping.after_retired (entered.unique other early same)
  · have apart := held _ _ _ _ answered _ late _ (mem_singleton_self _)
    rw [show (itemMapServer reference).clash (.mapping other) (.mapping row) =
      (decide (other.id = row.id) || other.sameProduct row) from rfl, same, Bool.or_true] at apart
    cases apart

omit reach

abbrev OneActive (writes : List Write) : Prop :=
  OneActiveOf Write.mapping Mapping.sameProduct (fun writes row => (row.after writes).isActive) writes

theorem OneActive.step (reach : Reachable reference config)
    (commits : config.commits = before ++ (pid, writes) :: after) (one : OneActive (contents before)) :
    OneActive (contents (before ++ [(pid, writes)])) := by
  rw [contents_append, contents_cons, contents_nil, append_nil]
  refine one.append (fun _ _ same => Mapping.sameProduct_comm.symm.trans same) (fun row active => ?_)
    (fun row other new old same => reach.unrivalled commits new old same) fun row other new new' => ?_
  · by_contra retired
    rw [Mapping.after_append, Mapping.after_retired (by simpa using retired)] at active
    cases active
  · obtain ⟨proc, body, -, -, effect, -⟩ := reach.effect commits
    exact ((effect.entered new).2 other new').symm

/-- **A product has at most one active mapping.** -/
theorem Reachable.one_active (reach : Reachable reference config)
    (commits : config.commits = before ++ after) : OneActive (contents before) := by
  refine prefix_induction (fun before => OneActive (contents before)) (fun _ _ none => by cases none)
    (fun before commit after commits one => ?_) before after commits
  obtain ⟨pid, writes⟩ := commit
  exact one.step reach commits

end Mappings

/-! ### Transitions and calls -/

theorem disambiguate_careful (id : Uuid) : Careful (itemMapServer reference) (disambiguate id) := by
  refine careful_bind (careful_query _) fun old => ?_
  split_ifs
  · exact careful_done _
  · exact careful_done _

theorem confirmOnClient_careful (input : ConfirmInput) : Careful (itemMapServer reference)
    (confirmOnClient input) := by
  refine careful_bind (careful_query _) fun updated => ?_
  cases updated with
  | some row => exact careful_done _
  | none => exact disambiguate_careful _

theorem retireOnClient_careful (input : RetireInput) : Careful (itemMapServer reference)
    (retireOnClient input) := by
  refine careful_bind (careful_query _) fun updated => ?_
  cases updated with
  | some row => exact careful_done _
  | none => exact disambiguate_careful _

theorem suggestOnClient_careful (input : SuggestInput) : Careful (itemMapServer reference)
    (suggestOnClient input) := by
  refine careful_bind (careful_query _) fun product => ?_
  split_ifs
  · exact careful_done _
  · refine careful_bind careful_newId fun id => careful_bind (careful_query _) fun added => ?_
    cases added with
    | ok row => exact careful_done _
    | error error =>
      dsimp only
      split_ifs
      · exact careful_done _
      · exact careful_done _
      · exact careful_fail _

theorem drive_careful (input : RepairInput) (instruction : Instruction) :
    Careful (itemMapServer reference) (drive input instruction) := by
  cases instruction with
  | confirm mappingId version =>
    refine careful_bind (confirmOnClient_careful _) fun result => ?_
    cases result with
    | ok row | notFound => exact careful_done _
    | conflict =>
      refine careful_bind (careful_query _) fun old => ?_
      cases old with
      | none => exact careful_done _
      | some row =>
        dsimp only
        split_ifs
        · exact careful_done _
        · exact careful_done _
  | suggestConfirm ref =>
    refine careful_bind (suggestOnClient_careful _) fun result => ?_
    cases result with
    | ok row =>
      refine careful_bind (confirmOnClient_careful _) fun confirmed => ?_
      cases confirmed with
      | ok row | notFound | conflict => exact careful_done _
    | notFound => exact careful_done _
    | conflict =>
      refine careful_bind (careful_query _) fun active => ?_
      cases active with
      | none => exact careful_done _
      | some row =>
        dsimp only
        split_ifs
        · exact careful_done _
        · exact careful_done _

theorem runRepair_careful (input : RepairInput) (instruction : Instruction) (targetKind : TargetKind)
    (targetRef : Uuid) :
    Careful (itemMapServer reference) (runRepair input instruction targetKind targetRef) := by
  refine careful_bind (drive_careful _ _) fun driven => careful_bind ?_ fun _ => careful_done _
  exact careful_bind careful_newId fun _ => careful_bind (careful_query _) fun _ =>
    careful_bind careful_newId fun _ => careful_bind (careful_query _) fun _ => careful_done _

/-- **A call returns only without a failed statement.** -/
theorem Operation.careful (op : Operation) : Careful (itemMapServer reference) op.program := by
  cases op with
  | change tenantId edit => exact careful_bind (careful_query _) fun _ => careful_done _
  | suggest input => exact careful_bind (suggestOnClient_careful _) fun _ => careful_done _
  | confirm input => exact careful_bind (confirmOnClient_careful _) fun _ => careful_done _
  | retire input => exact careful_bind (retireOnClient_careful _) fun _ => careful_done _
  | repairBacklogItem input =>
    refine careful_bind ?_ fun _ => careful_done _
    unfold ItemMaps.repairBacklogItem
    split
    · exact careful_fail _
    · exact runRepair_careful _ _ _ _
  | repairResult input runId resultId =>
    refine careful_bind ?_ fun _ => careful_done _
    unfold ItemMaps.repairResult
    split
    · exact careful_fail _
    · refine careful_bind (careful_query _) fun cur => ?_
      cases cur with
      | none => exact careful_fail _
      | some state =>
        refine careful_bind (runRepair_careful _ _ _ _) fun result => ?_
        unfold markRepaired
        split_ifs
        · exact careful_bind (careful_query _) fun _ => careful_done _
        · exact careful_done _

theorem updates_of_calm (calm : ∀ write ∈ writes, write.maps = false) : updates writes id = 0 := by
  refine countP_eq_zero.2 fun write mem about => ?_
  have still := calm write mem
  rw [maps_of_updated (of_decide_eq_true about)] at still
  cases still

theorem moved_of_repair (asked : op.repair = some (input, targetKind, targetRef)) (result : RepairResult) :
    Body.moved op (.repaired result) =
      if result.repair.outcome = .mapped then result.repair.resolvedItemMapId else none := by
  cases op <;> cases asked <;> rfl

/-- **A call updates the mapping whose transition it answers, once, and no other.** -/
theorem Effect.updates_moved (effect : Effect commits call log body writes) (id : Uuid) :
    updates writes id = if Body.moved call.operation body = some id then 1 else 0 := by
  cases effect with
  | quiet unmoved unrepaired failed calm =>
    rw [updates_of_calm fun write mem => (calm write mem).1, unmoved]
    rfl
  | suggested asked entered =>
    rw [asked]
    rfl
  | moved moved unrepaired expects holds =>
    simp only [updates, List.countP_singleton, holds.updates, moved, decide_eq_true_eq]
  | @repaired input targetKind targetRef instruction driven mapped locks marks attempt audit seen asked
      valid drives decided records locks' marks' =>
      have quiet : updates locks id = 0 ∧ updates ([.attempt attempt, .audit audit] ++ marks) id = 0 := by
        refine ⟨updates_of_calm fun write mem => ?_, updates_of_calm fun write mem => ?_⟩
        · obtain ⟨lock, rfl⟩ := locks' write mem
          rfl
        · rcases mem_append.1 mem with record | mark
          · simp only [mem_cons, not_mem_nil, or_false] at record
            rcases record with rfl | rfl <;> rfl
          · rw [(marks' write mark).2.2]
            rfl
      rw [updates_append, updates_append, quiet.1, quiet.2, moved_of_repair asked, Nat.zero_add, Nat.add_zero]
      cases drives with
      | confirmed holds | entered entered product early | stuck entered missed =>
        simp [updates, Write.updated, repairAnswer]
      | echoed found | taken found product => simp [updates, repairAnswer]
      | unmapped unsettled =>
        rcases unsettled with same | same
        · simp [updates, repairAnswer, same]
        · simp [updates, repairAnswer, same]

def moves (id : Uuid) (proc : Proc) : Bool :=
  match proc.result with
  | some (.ok body) => Body.moved proc.call.operation body = some id
  | _ => false

/-- **The UPDATEs of a mapping are the calls that answer a transition of it.** -/
theorem Reachable.transitions (reach : Reachable reference config) (id : Uuid) :
    updates config.ledger id = config.procs.countP (moves id) := by
  refine Interleave.Reachable.adds_up (fun call => call.operation.careful) rfl (fun _ _ => updates_append)
    (fun proc unreturned => ?_) (fun proc body commits gave ends => ?_) reach
  · unfold moves
    split
    · rename_i body gave
      exact absurd gave (unreturned body)
    · rfl
  · refine ((Operation.effect ends).updates_moved id).trans ?_
    simp [moves, gave]

def succeeded (proc : Proc) : Bool :=
  match proc.result with
  | some (.ok body) => body.succeeds
  | _ => false

theorem Effect.won (effect : Effect commits call log body writes)
    (expects : call.operation.expects = some (id, version)) (works : body.succeeds = true) :
    ∃ row update seen, HoldsMapping commits call log row version update seen ∧ row.id = id ∧
      update ∈ writes := by
  cases effect with
  | quiet unmoved unrepaired failed calm =>
    rw [failed works] at expects
    cases expects
  | suggested asked entered =>
    rw [asked] at expects
    cases expects
  | moved moved unrepaired expects' holds =>
    obtain ⟨rfl, rfl⟩ := Prod.mk.inj (mem_unique expects' expects)
    exact ⟨_, _, _, holds, rfl, mem_singleton_self _⟩
  | repaired asked valid drives decided records locks' marks' =>
    have mapped := of_decide_eq_true works
    cases drives with
    | confirmed holds =>
      obtain ⟨rfl, rfl⟩ := Prod.mk.inj (Option.some.inj ((expects_of_repair asked valid).symm.trans expects))
      exact ⟨_, _, _, holds, rfl, by simp⟩
    | entered entered product early =>
      -- a repair that suggests expects no version
      have none : call.operation.expects = none := by
        generalize call.operation = op at asked
        cases op <;> cases asked
        · simp only [Operation.expects, valid]
        · simp only [Operation.expects, valid]
      rw [none] at expects
      cases expects
    | stuck entered missed | echoed found | taken found product => cases mapped
    | unmapped unsettled =>
      rcases unsettled with same | same
      · cases same.symm.trans mapped
      · cases same.symm.trans mapped

theorem Reachable.won (reach : Reachable reference config) {proc : Proc}
    (found : config.procs[pid]? = some proc) (expects : proc.call.operation.expects = some (id, version))
    (success : succeeded proc = true) :
    ∃ before after row,
      config.commits = before ++ (pid, written proc.log) :: after ∧ .mapping row ∈ contents before ∧
      row.id = id ∧ (row.after (contents before)).version = version ∧ 0 < updates (written proc.log) id := by
  unfold succeeded at success
  split at success
  · rename_i body gave
    have ends := reach.finishes (mem_of_getElem? found) gave
    have sound := (proc.call.operation.careful).completes ends |>.sound
    obtain ⟨before, after, commits⟩ := reach.committed found gave sound
    obtain ⟨proc', body', found', returned', effect, held⟩ := reach.effect commits
    obtain rfl := mem_unique found found'
    obtain rfl := Except.ok.inj (mem_unique gave returned')
    obtain ⟨row, update, seen, holds, rfl, mem⟩ := effect.won expects success
    refine ⟨before, after, row, commits, contents_take holds.present, rfl, ?_, ?_⟩
    · rw [holds.still held, holds.current]
    · exact List.countP_pos_iff.2 ⟨update, mem, decide_eq_true holds.updates⟩
  · cases success

/-! ### All of it -/

/-- **What holds of item mappings, whatever the order of the calls.** -/
structure MappingsHold (config : Config) : Prop where
  one_row : ∀ first ∈ mappingsOf config.ledger, ∀ second ∈ mappingsOf config.ledger,
    first.id = second.id → first = second
  one_active : ∀ first ∈ mappingsOf config.ledger, ∀ second ∈ mappingsOf config.ledger,
    first.isActive = true → second.isActive = true → first.sameProduct second = true → first = second
  kept : ∀ before after, config.commits = before ++ after → ∀ row ∈ mappingsOf (contents before),
    ∃ later ∈ mappingsOf config.ledger, later.key = row.key ∧ (row.isActive = false → later = row)
  versions : ∀ row ∈ mappingsOf config.ledger, row.version = 1 + config.procs.countP (moves row.id)
  one_winner : ∀ (one two : Nat) (first second : Proc) (id : Uuid) (version : Nat), config.procs[one]? =
    some first →
    config.procs[two]? = some second → first.call.operation.expects = some (id, version) →
      second.call.operation.expects = some (id, version) → succeeded first = true →
        succeeded second = true → one = two
  failed : ∀ (pid : Nat) (proc : Proc), config.procs[pid]? = some proc → succeeded proc = false →
    ∀ before writes after, config.commits = before ++ (pid, writes) :: after →
      mappingsOf (contents before ++ writes) = mappingsOf (contents before)
  recorded : ∀ (pid : Nat) (proc : Proc) (input : RepairInput) (targetKind : TargetKind) (targetRef : Uuid)
    (body : Body), config.procs[pid]? = some proc →
    proc.call.operation.repair = some (input, targetKind, targetRef) → proc.result = some (.ok body) →
      ∃ result before writes after attempt audit, body = .repaired result ∧
        config.commits = before ++ (pid, writes) :: after ∧ attemptsOf writes = [attempt] ∧
        auditsOf writes = [audit] ∧ Records input targetKind targetRef
          (result.repair.outcome, result.repair.resolvedItemMapId) attempt audit ∧
        (attemptsOf config.ledger).count attempt = 1 ∧ (auditsOf config.ledger).count audit = 1

section Main

variable {more : List Write} {proc : Proc}

theorem mappingsOf_calm (calm : ∀ write ∈ more, write.maps = false) :
    mappingsOf (writes ++ more) = mappingsOf writes := by
  have added : insertedMappings more = [] := by
    refine eq_nil_iff_forall_not_mem.2 fun row mem => ?_
    cases calm _ (mem_insertedMappings.1 mem)
  unfold mappingsOf insertedMappings
  rw [filterMap_append, show more.filterMap _ = [] from added, append_nil]
  exact map_congr_left fun row _ => Mapping.after_calm calm

variable (reach : Reachable reference config)
include reach

theorem Reachable.kept (commits : config.commits = before ++ after)
    (mem : row ∈ mappingsOf (contents before)) :
    ∃ later ∈ mappingsOf config.ledger, later.key = row.key ∧ (row.isActive = false → later = row) := by
  obtain ⟨added, there, rfl⟩ := mem_mappingsOf.1 mem
  refine ⟨added.after config.ledger, mem_mappingsOf.2 ⟨added, mem_ledger commits there, rfl⟩, ?_,
    fun retired => reach.frozen commits there retired⟩
  rw [Mapping.after_key, Mapping.after_key]

theorem Reachable.versions (mem : row ∈ mappingsOf config.ledger) :
    row.version = 1 + config.procs.countP (moves row.id) := by
  obtain ⟨added, there, rfl⟩ := mem_mappingsOf.1 mem
  rw [Mapping.after_version, (reach.inserted there).2, Mapping.after_id, reach.transitions]

/-- **Of two calls that expect one version, the later does not find it.** -/
theorem Reachable.one_winner {one two : Nat} {first second : Proc} (inOne : config.procs[one]? = some first)
    (inTwo : config.procs[two]? = some second) (expects : first.call.operation.expects = some (id, version))
    (expects' : second.call.operation.expects = some (id, version)) (success : succeeded first = true)
    (success' : succeeded second = true) : one = two := by
  obtain ⟨before, after, row, commits, there, same, current, touched⟩ := reach.won inOne expects success
  obtain ⟨before', after', row', commits', there', same', current', touched'⟩ :=
    reach.won inTwo expects' success'
  -- between the commits of the one and of the other the version has grown
  have apart : ∀ {one two : Nat} {wrote wrote' : List Write}
      {early late early' late' : List (Nat × List Write)} {row row' : Mapping},
      config.commits = early ++ (one, wrote) :: late → config.commits = early' ++ (two, wrote') :: late' →
      early.length < early'.length → .mapping row ∈ contents early → .mapping row' ∈ contents early' →
      row.id = id → row'.id = id → (row.after (contents early)).version = version →
      (row'.after (contents early')).version = version → 0 < updates wrote id → False := by
    intro one two wrote wrote' early late early' late' row row' split split' shorter known known' same same'
      current current' touched
    obtain rfl : row = row' := reach.one_mapping (mem_ledger split known) (mem_ledger split' known')
      (same.trans same'.symm)
    have grown : early ++ [(one, wrote)] <+: early' := by
      have start : early ++ [(one, wrote)] <+: config.commits := ⟨late, by rw [split, append_assoc]; rfl⟩
      refine List.prefix_of_prefix_length_le start ⟨_, split'.symm⟩ ?_
      rw [length_append]
      exact shorter
    obtain ⟨rest, rfl⟩ := grown
    rw [contents_append, contents_append, contents_cons, contents_nil, append_nil,
      Mapping.after_version, updates_append, updates_append, same] at current'
    rw [Mapping.after_version, same] at current
    omega
  rcases Nat.lt_trichotomy before.length before'.length with shorter | level | longer
  · exact (apart commits commits' shorter there there' same same' current current' touched).elim
  · rw [commits] at commits'
    have pair := (List.append_inj commits' level).2
    exact congrArg Prod.fst (List.cons.inj pair).1
  · exact (apart commits' commits longer there' there same' same current' current touched').elim

theorem Reachable.unstuck (commits : config.commits = before ++ (pid, writes) :: after)
    (mem : .mapping row ∈ writes)
    (missed : (∀ other, .mapping other ∈ contents before → other.id ≠ row.id) →
      (∀ write ∈ contents before, write.updated ≠ some row.id) → False) : False :=
  missed (reach.unmet commits mem).1 (reach.unmet commits mem).2

/-- **A call that does not succeed wrote nothing about mappings.** -/
theorem Reachable.calm_of_failed (found : config.procs[pid]? = some proc) (failed : succeeded proc = false)
    (commits : config.commits = before ++ (pid, writes) :: after) : ∀ write ∈ writes, write.maps = false := by
  obtain ⟨proc', body, found', gave, effect, -⟩ := reach.effect commits
  obtain rfl := mem_unique found found'
  rw [succeeded, gave] at failed
  cases effect with
  | quiet unmoved unrepaired failed calm => exact fun write mem => (calm write mem).1
  | suggested asked entered | moved moved unrepaired expects holds => cases failed
  | @repaired input targetKind targetRef instruction driven mapped locks marks attempt audit seen asked
      valid drives decided records locks' marks' =>
      have unmapped : driven.1 ≠ .mapped := of_decide_eq_false failed
      have nothing : mapped = [] := by
        cases drives with
        | confirmed holds | entered entered product early => exact absurd rfl unmapped
        | stuck entered missed => exact (reach.unstuck commits (by simp) missed).elim
        | echoed found | taken found product | unmapped unsettled => rfl
      intro write mem
      by_contra maps
      have inside := mapped_of_repair locks' (fun write mark => (marks' write mark).2.2) (by simpa using maps)
        mem
      rw [nothing] at inside
      cases inside

theorem Reachable.attempt_once (mem : .attempt attempt ∈ config.ledger) :
    (attemptsOf config.ledger).count attempt = 1 := by
  have ids : (attemptsOf config.ledger).Pairwise fun first second => first.id ≠ second.id := by
    refine List.Pairwise.filterMap _ ?_ reach.collideFree
    rintro first second apart row inOne other inTwo same
    cases first <;> cases inOne
    cases second <;> cases inTwo
    simp [sameRow, Write.rowKey, same] at apart
  exact List.count_eq_one_of_mem (ids.imp fun unlike same => unlike (congrArg _ same)) (mem_attemptsOf.2 mem)

theorem Reachable.audit_once (mem : .audit audit ∈ config.ledger) :
    (auditsOf config.ledger).count audit = 1 := by
  have ids : (auditsOf config.ledger).Pairwise fun first second => first.id ≠ second.id := by
    refine List.Pairwise.filterMap _ ?_ reach.collideFree
    rintro first second apart row inOne other inTwo same
    cases first <;> cases inOne
    cases second <;> cases inTwo
    simp [sameRow, Write.rowKey, same] at apart
  exact List.count_eq_one_of_mem (ids.imp fun unlike same => unlike (congrArg _ same)) (mem_auditsOf.2 mem)

omit reach

theorem Drives.maps {commits : List (Nat × List Write)} {instruction : Instruction} {driven : Driven}
    {seen : Nat} (drives : Drives commits call log input instruction driven writes seen) :
    ∀ write ∈ writes, write.maps = true := by
  cases drives with
  | confirmed holds | entered entered product early | stuck entered missed => simp [Write.maps]
  | echoed found | taken found product | unmapped unsettled => simp

theorem unrecorded (silent : ∀ write ∈ writes, write.records = false) :
    attemptsOf writes = [] ∧ auditsOf writes = [] := by
  constructor
  · refine eq_nil_iff_forall_not_mem.2 fun row mem => ?_
    cases silent _ (mem_attemptsOf.1 mem)
  · refine eq_nil_iff_forall_not_mem.2 fun row mem => ?_
    cases silent _ (mem_auditsOf.1 mem)

/-- **A repair that answers is recorded once.** -/
theorem Reachable.recorded (reach : Reachable reference config) {body : Body}
    (found : config.procs[pid]? = some proc)
    (asked : proc.call.operation.repair = some (input, targetKind, targetRef))
    (gave : proc.result = some (.ok body)) :
    ∃ result before writes after attempt audit,
      body = .repaired result ∧ config.commits = before ++ (pid, writes) :: after ∧
      attemptsOf writes = [attempt] ∧ auditsOf writes = [audit] ∧
      Records input targetKind targetRef (result.repair.outcome, result.repair.resolvedItemMapId) attempt
        audit ∧ (attemptsOf config.ledger).count attempt = 1 ∧ (auditsOf config.ledger).count audit = 1 := by
  have sound := (proc.call.operation.careful.completes (reach.finishes (mem_of_getElem? found) gave)).sound
  obtain ⟨before, after, commits⟩ := reach.committed found gave sound
  obtain ⟨proc', body', found', returned', effect, -⟩ := reach.effect commits
  obtain rfl := mem_unique found found'
  obtain rfl := Except.ok.inj (mem_unique gave returned')
  have whole : ∀ {write : Write}, write ∈ written proc.log → write ∈ config.ledger := fun mem =>
    mem_contents.2 ⟨pid, _, by rw [commits]; simp, mem⟩
  generalize written proc.log = writes at effect commits whole
  cases effect with
  | quiet unmoved unrepaired failed calm =>
    rw [unrepaired] at asked
    cases asked
  | suggested asked' entered =>
    rw [asked'] at asked
    cases asked
  | moved moved unrepaired expects holds =>
    rw [unrepaired] at asked
    cases asked
  | @repaired input' targetKind' targetRef' instruction driven mapped locks marks attempt audit seen
      asked' valid drives decided records locks' marks' =>
      obtain ⟨rfl, rest⟩ := Prod.mk.inj (mem_unique asked' asked)
      obtain ⟨rfl, rfl⟩ := Prod.mk.inj rest
      have before' : ∀ write ∈ locks, write.records = false := by
        intro write mem
        obtain ⟨id, rfl⟩ := locks' write mem
        rfl
      have driven' : ∀ write ∈ mapped, write.records = false := by
        intro write mem
        have about := drives.maps write mem
        cases write <;> first | rfl | cases about
      have after' : ∀ write ∈ marks, write.records = false := by
        intro write mem
        rw [(marks' write mem).2.2]
        rfl
      refine ⟨_, before, _, after, attempt, audit, rfl, commits, ?_, ?_, records,
        reach.attempt_once (whole (by simp)), reach.audit_once (whole (by simp))⟩
      · have one := (unrecorded before').1
        have two := (unrecorded driven').1
        have three := (unrecorded after').1
        unfold attemptsOf at one two three ⊢
        simp only [filterMap_append, one, two, three]
        rfl
      · have one := (unrecorded before').2
        have two := (unrecorded driven').2
        have three := (unrecorded after').2
        unfold auditsOf at one two three ⊢
        simp only [filterMap_append, one, two, three]
        rfl

/-- **Mappings have one row and a product one active mapping; a mapping keeps what it maps, counts its
transitions, and is left alone once retired; a version is won once; what fails changes no mapping, and every
repair that answers is recorded.** -/
theorem mappings_hold (reachable : Reachable reference config) : MappingsHold config := by
  constructor
  · intro first inOne second inTwo same
    obtain ⟨one, there, rfl⟩ := mem_mappingsOf.1 inOne
    obtain ⟨two, there', rfl⟩ := mem_mappingsOf.1 inTwo
    rw [Mapping.after_id, Mapping.after_id] at same
    rw [reachable.one_mapping there there' same]
  · intro first inOne second inTwo active active' same
    obtain ⟨one, there, rfl⟩ := mem_mappingsOf.1 inOne
    obtain ⟨two, there', rfl⟩ := mem_mappingsOf.1 inTwo
    rw [Mapping.after_sameProduct, Mapping.sameProduct_comm, Mapping.after_sameProduct,
      Mapping.sameProduct_comm] at same
    have one := reachable.one_active (append_nil config.commits).symm
    rw [one _ _ there there' same active active']
  · exact fun before after commits row mem => reachable.kept commits mem
  · exact fun row mem => reachable.versions mem
  · exact fun one two first second id version inOne inTwo => reachable.one_winner inOne inTwo
  · intro pid proc found failed before writes after commits
    exact mappingsOf_calm (reachable.calm_of_failed found failed commits)
  · exact fun pid proc input targetKind targetRef body => reachable.recorded

end Main

/-! ### A repair of a result that is not there -/

def anyReference : Reference := ⟨fun _ => true, fun _ => true⟩

def sampleRepair : RepairInput :=
  ⟨sample 0, sample 1, .suggestConfirm, sample 2, none, some "ITEM-1", none⟩

/-- Every repair that has ended left one attempt and one audit row. -/
def AllRecorded (config : Config) : Prop :=
  ∀ (pid : Nat) (proc : Proc), config.procs[pid]? = some proc →
    proc.call.operation.repair.isSome = true → proc.result.isSome = true →
      ∃ writes, (pid, writes) ∈ config.commits ∧ (attemptsOf writes).length = 1 ∧
        (auditsOf writes).length = 1

/-- **A repair that is refused with `RunNotFoundError` records nothing.** -/
theorem refused_unrecorded : ∃ config, Reachable anyReference config ∧ ¬ AllRecorded config := by
  have ran : (run (itemMapServer anyReference) [.start ⟨1, .repairResult sampleRepair (sample 3) (sample
      4)⟩, .ask 0, .stop 0 none]).any (fun config => config.commits.isEmpty && config.procs[0]?.any fun proc =>
      proc.call.operation.repair.isSome && proc.result = some (.error .runNotFound)) = true := by
    decide +kernel
  obtain ⟨config, ran, seen⟩ := (any_eq_true _ _).1 ran
  obtain ⟨empty, ended⟩ := and_eq_true_iff.1 seen
  obtain ⟨proc, found, ended⟩ := (any_eq_true _ _).1 ended
  simp only [and_eq_true, decide_eq_true_eq] at ended
  refine ⟨config, run_reachable _ ran, fun recorded => ?_⟩
  obtain ⟨writes, commit, -, -⟩ := recorded 0 proc found ended.1 (by rw [ended.2]; rfl)
  rw [isEmpty_iff.1 empty] at commit
  cases commit

/-- A product is added, a repair maps it, and its mapping is retired at the version the repair left. -/
def lifeEvents : List (Event Uuid PgError Call) :=
  [.start ⟨1, .change (sample 0) (.product (sample 2))⟩, .ask 0, .stop 0 none,
    .start ⟨2, .repairBacklogItem sampleRepair⟩, .ask 1, .draw 1 (sample 5), .ask 1, .ask 1,
    .draw 1 (sample 6), .ask 1, .draw 1 (sample 7), .ask 1, .stop 1 none,
    .start ⟨3, .retire ⟨sample 0, sample 5, 2⟩⟩, .ask 2, .stop 2 none]

theorem mappings_hold_sample :
    ∃ config, run (itemMapServer anyReference) lifeEvents = some config ∧
      (mappingsOf config.ledger).map (fun row => (row.version, row.retiredAt)) = [(3, some 3)] ∧
      MappingsHold config := by
  have ran : (run (itemMapServer anyReference) lifeEvents).any (fun config =>
      (mappingsOf config.ledger).map (fun row => (row.version, row.retiredAt)) = [(3, some 3)]) = true := by
    decide +kernel
  obtain ⟨config, ran, seen⟩ := (any_eq_true _ _).1 ran
  exact ⟨config, ran, of_decide_eq_true seen, mappings_hold (run_reachable _ ran)⟩

end DataPulse.ItemMaps
