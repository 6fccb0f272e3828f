/-
**What a repair says of its target.**

A repair answers `mapped` or `no_op_echo` from the mapping alone, while its target comes from the path or
from a stored result.

* `repair_iff`: what a repair that answers so says of its target is true exactly when it was aimed at it.
-/

import DataPulse.ItemMaps.Lifecycles

namespace DataPulse.ItemMaps

open Lib Lib.Interleave Platform

/-! ### Targets -/

/-- The product an operation targets: that of the backlog item, or the one the addressed result names. -/
def Targets (config : Config) (operation : Operation) (product : Uuid) : Prop :=
  match operation with
  | .repairBacklogItem input => product = input.tenantProductId
  | .repairResult _ _ resultId =>
    ∃ row ∈ resultsOf config.ledger, row.id = resultId ∧ row.tenantProductId = some product
  | _ => False

def MappedIn (writes : List Write) (tenant product : Uuid) : Prop :=
  ∃ row ∈ mappingsOf writes, row.tenantId = tenant ∧ row.tenantProductId = product ∧
    row.isConfirmed = true

/-- The product a repair works on: that of the mapping in its body, or the one in its body. -/
def WorksOn (writes : List Write) (operation : Operation) (product : Uuid) : Prop :=
  match operation.repair with
  | none => False
  | some (input, _, _) =>
    match validateRepair input with
    | .ok (.confirm mappingId _) => ∃ row ∈ mappingsOf writes, row.id = mappingId ∧
        row.tenantId = operation.tenant ∧ row.tenantProductId = product
    | .ok (.suggestConfirm _) => product = input.tenantProductId
    | .error _ => False

/-- How many transactions were committed when the call last looked at mappings. -/
def decidedAt (proc : Proc) : Nat := (decisions proc.log).getLast?.getD 0

/-- What was committed when the call last looked at mappings. -/
def seenAt (config : Config) (proc : Proc) : List Write :=
  contents (config.commits.take (decidedAt proc))

/-- The same with what the call itself wrote about mappings. -/
def leftAt (config : Config) (proc : Proc) : List Write :=
  seenAt config proc ++ (written proc.log).filter Write.maps

def RepairResult.settles (result : RepairResult) : Bool :=
  result.repair.outcome = .mapped || result.repair.outcome = .noOpEcho

def Truthful (config : Config) (proc : Proc) : Prop :=
  ∃ product, Targets config proc.call.operation product ∧
    MappedIn (leftAt config proc) proc.call.operation.tenant product

/-- The repair works on its target, or the target had a confirmed and active mapping before. -/
def Aimed (config : Config) (proc : Proc) : Prop :=
  ∃ product, Targets config proc.call.operation product ∧
    (WorksOn (seenAt config proc) proc.call.operation product ∨
      MappedIn (seenAt config proc) proc.call.operation.tenant product)

/-- **What a repair says of its target, and what it does to the row of a result, is true.** -/
structure Sincere (config : Config) (proc : Proc) (result : RepairResult) : Prop where
  mapped : result.settles = true → Truthful config proc
  marked : ∀ id time, .repaired id time ∈ written proc.log → Truthful config proc

/-! ### Mappings before and after a repair -/

section Rows

variable {writes mapped : List Write} {tenant product : Uuid} {row : Mapping} {actor : Uuid} {now : Int}

theorem Mapping.apply_confirm (actor : Uuid) (now : Int) (active : row.isActive = true) :
    (row.apply (.confirm row.id actor now)).isConfirmed = true := by
  have stays : (row.apply (.confirm row.id actor now)).retiredAt = row.retiredAt := by
    simp [Mapping.apply]
  have state : (row.apply (.confirm row.id actor now)).state = .confirmed := by
    simp [Mapping.apply]
  rw [Mapping.isActive] at active
  rw [Mapping.isConfirmed, Mapping.isActive, stays, state, active]
  rfl

/-- **One mapping is confirmed: its product is mapped then, and every other as before.** -/
theorem mappedIn_confirm (there : .mapping row ∈ writes) (owner : row.tenantId = tenant)
    (only : ∀ other, .mapping other ∈ writes → other.id = row.id → other = row)
    (active : (row.after writes).isActive = true) :
    MappedIn (writes ++ [.confirm row.id actor now]) tenant product ↔
      row.tenantProductId = product ∨ MappedIn writes tenant product := by
  have confirmed : (row.after (writes ++ [.confirm row.id actor now])).isConfirmed = true := by
    rw [Mapping.after_append]
    have done := Mapping.apply_confirm actor now active
    rwa [Mapping.after_id] at done
  have others : ∀ other : Mapping, other.id ≠ row.id →
      other.after (writes ++ [.confirm row.id actor now]) = other.after writes := by
    intro other unlike
    rw [Mapping.after_append]
    refine Mapping.after_untouched fun write mem about => ?_
    rw [mem_singleton.1 mem, Mapping.after_id] at about
    exact unlike (Option.some.inj about).symm
  constructor
  · rintro ⟨found, mem, tenant', same, holds⟩
    obtain ⟨added, inside, rfl⟩ := mem_mappingsOf.1 mem
    have inside : .mapping added ∈ writes := by
      rcases mem_append.1 inside with old | new
      · exact old
      · cases mem_singleton.1 new
    by_cases it : added.id = row.id
    · obtain rfl := only added inside it
      exact .inl (Mapping.after_tenantProductId.symm.trans same)
    · rw [others added it] at tenant' same holds
      exact .inr ⟨_, mem_mappingsOf.2 ⟨added, inside, rfl⟩, tenant', same, holds⟩
  · rintro (same | ⟨found, mem, tenant', same, holds⟩)
    · exact ⟨_, mem_mappingsOf.2 ⟨row, mem_append_left _ there, rfl⟩,
        Mapping.after_tenantId.trans owner, Mapping.after_tenantProductId.trans same, confirmed⟩
    · obtain ⟨added, inside, rfl⟩ := mem_mappingsOf.1 mem
      by_cases it : added.id = row.id
      · obtain rfl := only added inside it
        exact ⟨_, mem_mappingsOf.2 ⟨added, mem_append_left _ inside, rfl⟩, Mapping.after_tenantId.trans owner,
          Mapping.after_tenantProductId.trans (Mapping.after_tenantProductId.symm.trans same), confirmed⟩
      · refine ⟨_, mem_mappingsOf.2 ⟨added, mem_append_left _ inside, rfl⟩, ?_⟩
        rw [others added it]
        exact ⟨tenant', same, holds⟩

theorem mappedIn_enter (apart : ∀ write ∈ writes, write.updated ≠ some row.id)
    (suggested : row.isConfirmed = false) :
    MappedIn (writes ++ [.mapping row]) tenant product ↔ MappedIn writes tenant product := by
  have still : ∀ other : Mapping, other.after (writes ++ [.mapping row]) = other.after writes := by
    intro other
    rw [Mapping.after_append]
    exact Mapping.after_untouched fun write mem about => by
      rw [mem_singleton.1 mem] at about
      cases about
  constructor
  · rintro ⟨found, mem, tenant', same, holds⟩
    obtain ⟨added, inside, rfl⟩ := mem_mappingsOf.1 mem
    rw [still] at tenant' same holds
    rcases mem_append.1 inside with old | new
    · exact ⟨_, mem_mappingsOf.2 ⟨added, old, rfl⟩, tenant', same, holds⟩
    · obtain rfl := Write.mapping.inj (mem_singleton.1 new)
      rw [Mapping.after_untouched apart, suggested] at holds
      cases holds
  · rintro ⟨found, mem, tenant', same, holds⟩
    obtain ⟨added, inside, rfl⟩ := mem_mappingsOf.1 mem
    refine ⟨_, mem_mappingsOf.2 ⟨added, mem_append_left _ inside, rfl⟩, ?_⟩
    rw [still]
    exact ⟨tenant', same, holds⟩

end Rows

/-! ### Repairs and their targets -/

section Repairs

variable {reference : Reference} {config : Config} {pid : Nat} {proc : Proc}
  {before after : List (Nat × List Write)} {writes : List Write}
variable {seen : Nat}

theorem Reachable.only (reach : Reachable reference config) (commits : config.commits = before ++ after)
    {row : Mapping} (there : .mapping row ∈ contents (before.take seen)) :
    ∀ other, .mapping other ∈ contents (before.take seen) → other.id = row.id → other = row := by
  intro other inside same
  have known : ∀ {row : Mapping}, .mapping row ∈ contents (before.take seen) → .mapping row ∈ config.ledger :=
    fun mem => mem_ledger commits (contents_take mem)
  exact reach.one_mapping (known inside) (known there) same

/-- **What is mapped once a repair has settled: the product it worked on, and what was mapped before.** -/
theorem Reachable.settled (reach : Reachable reference config)
    (commits : config.commits = before ++ (pid, writes) :: after) {call : Call} {log : Log}
    {input : RepairInput} {targetKind : TargetKind} {targetRef : Uuid} {instruction : Instruction}
    {driven : Driven} {mapped : List Write}
    (asked : call.operation.repair = some (input, targetKind, targetRef))
    (valid : validateRepair input = .ok instruction)
    (drives : Drives before call log input instruction driven mapped seen)
    (inside : ∀ write ∈ mapped, write ∈ writes) (settles : driven.1 = .mapped ∨ driven.1 = .noOpEcho)
    (product : Uuid) :
    seen ≤ before.length ∧
      (MappedIn (contents (before.take seen) ++ mapped) call.operation.tenant product ↔
        WorksOn (contents (before.take seen)) call.operation product ∨
        MappedIn (contents (before.take seen)) call.operation.tenant product) := by
  have confirming : ∀ {row : Mapping} {version : Nat}, instruction = .confirm row.id version →
      .mapping row ∈ contents (before.take seen) → row.tenantId = call.operation.tenant →
        (WorksOn (contents (before.take seen)) call.operation product ↔ row.tenantProductId = product) := by
    intro row version same there owner
    simp only [WorksOn, asked, valid, same]
    constructor
    · rintro ⟨found, mem, it, -, same'⟩
      obtain ⟨other, inside, rfl⟩ := mem_mappingsOf.1 mem
      obtain rfl := reach.only commits there other inside (Mapping.after_id.symm.trans it)
      exact Mapping.after_tenantProductId.symm.trans same'
    · exact fun same' => ⟨_, mem_mappingsOf.2 ⟨row, there, rfl⟩, Mapping.after_id,
        Mapping.after_tenantId.trans owner, Mapping.after_tenantProductId.trans same'⟩
  have suggesting : ∀ {ref : String}, instruction = .suggestConfirm ref →
      (WorksOn (contents (before.take seen)) call.operation product ↔ product = input.tenantProductId) := by
    intro ref same
    simp only [WorksOn, asked, valid, same]
  have mappedBy : ∀ {row : Mapping}, ConfirmedAt before call row seen → row.tenantProductId = product →
      MappedIn (contents (before.take seen)) call.operation.tenant product := fun found same =>
    ⟨_, mem_mappingsOf.2 ⟨_, found.present, rfl⟩, Mapping.after_tenantId.trans found.tenant,
      Mapping.after_tenantProductId.trans same, found.confirmed⟩
  cases drives with
  | confirmed holds =>
    refine ⟨holds.early, ?_⟩
    rw [confirming rfl holds.present holds.tenant]
    exact mappedIn_confirm holds.present holds.tenant (reach.only commits holds.present) holds.active
  | @entered ref row seen₀ seen entered owned early =>
    obtain ⟨apart, untouched⟩ := reach.unmet commits (inside _ mem_cons_self)
    have within : ∀ {write : Write}, write ∈ contents (before.take seen) → write ∈ contents before :=
      fun mem => contents_take mem
    have itself : row.after (contents (before.take seen) ++ [.mapping row]) = row := by
      rw [Mapping.after_append, Mapping.after_untouched fun write mem => untouched write (within mem)]
      rfl
    refine ⟨early, ?_⟩
    rw [suggesting rfl, ← singleton_append, ← append_assoc,
        mappedIn_confirm (mem_append_right _ (mem_singleton_self _))
        (show row.tenantId = call.operation.tenant from entered.tenant) ?_ ?_,
      mappedIn_enter (fun write mem => untouched write (within mem)) ?_, owned, eq_comm]
    · simp [Mapping.isConfirmed, entered.suggested]
    · intro other mem same
      rcases mem_append.1 mem with old | new
      · exact absurd same (apart other (within old))
      · exact Write.mapping.inj (mem_singleton.1 new)
    · rw [itself]
      exact entered.active
  | echoed found =>
    refine ⟨found.early, ?_⟩
    rw [append_nil, confirming rfl found.present found.tenant]
    exact ⟨.inr, fun either => either.elim (mappedBy found) id⟩
  | taken found owned =>
    refine ⟨found.early, ?_⟩
    rw [append_nil, suggesting rfl]
    exact ⟨.inr, fun either => either.elim (fun same => mappedBy found (owned.trans same.symm)) id⟩
  | stuck entered missed => rcases settles with same | same <;> cases same
  | unmapped unsettled =>
    rcases settles with same | same
    · rcases unsettled with other | other <;> cases same.symm.trans other
    · rcases unsettled with other | other <;> cases same.symm.trans other

/-- **A repair that answers `mapped` or `no_op_echo`, or marks a result, says the truth of its target exactly
when it works on the target's product, or the target was mapped before.** -/
theorem repair_iff (reachable : Reachable reference config) (found : config.procs[pid]? = some proc)
    {result : RepairResult} (repairs : proc.call.operation.repair.isSome = true)
    (returned : proc.result = some (.ok (.repaired result))) :
    Sincere config proc result ↔ (result.settles = true → Aimed config proc) := by
  have sound :=
    (proc.call.operation.careful.completes (reachable.finishes (mem_of_getElem? found) returned)).sound
  obtain ⟨before, after, commits⟩ := reachable.committed found returned sound
  obtain ⟨proc', body', found', returned', effect, -⟩ := reachable.effect commits
  obtain rfl := mem_unique found found'
  obtain rfl := Except.ok.inj (mem_unique returned returned')
  have truthful : ∀ {mapped : List Write} {seen : Nat}, (decisions proc.log).getLast? = some seen →
      seen ≤ before.length → (written proc.log).filter Write.maps = mapped → seenAt config proc =
        contents (before.take seen) ∧ leftAt config proc = contents (before.take seen) ++ mapped := by
    intro mapped seen decided early own
    have same : config.commits.take seen = before.take seen := by
      rw [commits, List.take_append_of_le_length early]
    rw [leftAt, seenAt, decidedAt, decided, own, ← same]
    exact ⟨rfl, rfl⟩
  generalize wrote : written proc.log = writes at effect commits truthful
  cases effect with
  | quiet unmoved unrepaired failed calm =>
    rw [unrepaired] at repairs
    cases repairs
  | @repaired input targetKind targetRef instruction driven mapped locks marks attempt audit seen asked
      valid drives decided records locks' marks' =>
      have own : (locks ++ (mapped ++ ([Write.attempt attempt, .audit audit] ++ marks))).filter
          Write.maps = mapped := by
        have before' : locks.filter Write.maps = [] := filter_eq_nil_iff.2 fun write member => by
          obtain ⟨id, rfl⟩ := locks' write member
          simp [Write.maps]
        have after' : marks.filter Write.maps = [] := filter_eq_nil_iff.2 fun write member => by
          rw [(marks' write member).2.2]
          simp [Write.maps]
        rw [filter_append, filter_append, filter_append, before', after', filter_eq_self.2 drives.maps]
        simp [Write.maps]
      -- a settled repair is truthful exactly when it is aimed
      have settled : (driven.1 = .mapped ∨ driven.1 = .noOpEcho) →
          (Truthful config proc ↔ Aimed config proc) := by
        intro settles
        have each := fun product => reachable.settled commits asked valid drives
          (fun write member => mem_append_right _ (mem_append_left _ member)) settles product
        obtain ⟨view, left⟩ := truthful decided (each (sample 0)).1 own
        unfold Truthful Aimed
        rw [view, left]
        exact exists_congr fun product => and_congr_right fun _ => (each product).2
      have settles_iff : (repairAnswer input targetKind targetRef driven proc.call.now).settles = true ↔
          driven.1 = .mapped ∨ driven.1 = .noOpEcho := by
        rw [RepairResult.settles, or_eq_true]
        exact or_congr decide_eq_true_iff decide_eq_true_iff
      constructor
      · intro sincere settles
        exact (settled (settles_iff.1 settles)).1 (sincere.mapped settles)
      · intro aimed
        refine ⟨fun settles => (settled (settles_iff.1 settles)).2 (aimed settles), fun id time member => ?_⟩
        have marked : driven.1 = .mapped := by
          rw [wrote] at member
          rcases mem_append.1 member with lock | member
          · obtain ⟨other, same⟩ := locks' _ lock
            cases same
          rcases mem_append.1 member with mapping | member
          · cases drives.maps _ mapping
          rcases mem_append.1 member with record | mark
          · simp at record
          · exact (marks' _ mark).1
        exact (settled (.inl marked)).2 (aimed (settles_iff.2 (.inl marked)))

end Repairs

/-! ### A repair with the mapping of another product -/

/-- A repair of the backlog item of one product with the suggestion of another. -/
def strayRepair : RepairInput :=
  ⟨sample 0, sample 1, .confirm, sample 8, some (sample 5), none, some 1⟩

/-- Two products are added, a mapping is suggested for the first, and a repair of the second confirms it. -/
def strayEvents : List (Event Uuid PgError Call) :=
  [.start ⟨1, .change (sample 0) (.product (sample 2))⟩, .ask 0, .stop 0 none,
    .start ⟨1, .change (sample 0) (.product (sample 8))⟩, .ask 1, .stop 1 none,
    .start ⟨2, .suggest ⟨sample 0, sample 2, "ITEM-1", sample 1⟩⟩, .ask 2,
    .draw 2 (sample 5), .ask 2, .stop 2 none,
    .start ⟨3, .repairBacklogItem strayRepair⟩, .ask 3, .draw 3 (sample 6), .ask 3,
    .draw 3 (sample 7), .ask 3, .stop 3 none]

/-- **A repair of a product answers `mapped`, and the product has no mapping.** -/
theorem repaired_astray :
    ∃ config proc result, Reachable anyReference config ∧ config.procs[3]? = some proc ∧
      proc.call.operation = .repairBacklogItem strayRepair ∧ proc.result = some (.ok (.repaired result)) ∧
      result.repair.outcome = .mapped ∧ ¬ Sincere config proc result := by
  have ran : (run (itemMapServer anyReference) strayEvents).any (fun config =>
      config.procs[3]?.any fun proc => proc.call.operation = .repairBacklogItem strayRepair &&
        proc.result = some (.ok (.repaired (repairAnswer strayRepair .backlogItem (sample 8)
          (.mapped, some (sample 5)) 3))) &&
        (mappingsOf (leftAt config proc)).all fun row => row.tenantProductId ≠ sample 8) = true := by
    decide +kernel
  obtain ⟨config, ran, observed⟩ := (any_eq_true _ _).1 ran
  obtain ⟨proc, found, observed⟩ := (any_eq_true _ _).1 observed
  obtain ⟨ended, others⟩ := and_eq_true_iff.1 observed
  simp only [and_eq_true, decide_eq_true_eq] at ended
  refine ⟨config, proc, _, run_reachable _ ran, found, ended.1, ended.2, rfl, fun sincere => ?_⟩
  obtain ⟨product, target, row, mem, -, same, -⟩ := sincere.mapped rfl
  replace target : product = sample 8 := by simpa [Targets, ended.1, strayRepair] using target
  exact absurd (same.trans target) (of_decide_eq_true (all_eq_true.1 others row mem))

theorem repair_iff_sample :
    ∃ config proc result,
      run (itemMapServer anyReference) lifeEvents = some config ∧ config.procs[1]? = some proc ∧
      proc.result = some (.ok (.repaired result)) ∧ result.repair.outcome = .mapped ∧
      (Sincere config proc result ↔ (result.settles = true → Aimed config proc)) := by
  have ran : (run (itemMapServer anyReference) lifeEvents).any (fun config =>
      config.procs[1]?.any fun proc => proc.call.operation.repair.isSome &&
        proc.result = some (.ok (.repaired (repairAnswer sampleRepair .backlogItem (sample 2)
          (.mapped, some (sample 5)) 2)))) = true := by
    decide +kernel
  obtain ⟨config, ran, observed⟩ := (any_eq_true _ _).1 ran
  obtain ⟨proc, found, observed⟩ := (any_eq_true _ _).1 observed
  obtain ⟨repairs, ended⟩ := and_eq_true_iff.1 observed
  exact ⟨config, proc, _, ran, found, of_decide_eq_true ended, rfl,
    repair_iff (run_reachable _ ran) found repairs (of_decide_eq_true ended)⟩

end DataPulse.ItemMaps
