/-
**What a committed call did to the mappings.**

* `Mapping.after_untouched`, `Mapping.after_version`, `Mapping.after_retired`: a mapping with its UPDATEs
  applied.
-/

import DataPulse.ItemMaps.Service

namespace DataPulse.ItemMaps

open Lib Lib.Interleave Platform
open Inventory (require require_ok require_all)

variable {writes more : List Write} {row : Mapping} {reference : Reference} {wrote : List Write}
  {id : Uuid}

/-! ### Rows of the tables -/

@[simp] theorem mem_insertedMappings : row ∈ insertedMappings writes ↔ .mapping row ∈ writes :=
  mem_picked fun write row => by cases write <;> simp

@[simp] theorem mem_productsOf {row : Product} : row ∈ productsOf writes ↔ .product row ∈ writes :=
  mem_picked fun write row => by cases write <;> simp

@[simp] theorem mem_attemptsOf {row : RepairAttempt} : row ∈ attemptsOf writes ↔ .attempt row ∈ writes :=
  mem_picked fun write row => by cases write <;> simp

@[simp] theorem mem_auditsOf {row : AuditEvent} : row ∈ auditsOf writes ↔ .audit row ∈ writes :=
  mem_picked fun write row => by cases write <;> simp

theorem mem_mappingsOf : row ∈ mappingsOf writes ↔ ∃ added, .mapping added ∈ writes ∧ added.after writes =
    row := by
  simp only [mappingsOf, mem_map, mem_insertedMappings]

namespace Mapping

variable {write : Write}

def key (row : Mapping) : Uuid × Uuid × Uuid × String :=
  (row.id, row.tenantId, row.tenantProductId, row.erpnextItemRef)

theorem apply_key (row : Mapping) (write : Write) : (row.apply write).key = row.key := by
  unfold apply
  split <;> (try split_ifs) <;> rfl

theorem after_key : (row.after writes).key = row.key := foldl_keeps apply_key writes row

@[simp] theorem apply_id : (row.apply write).id = row.id := congrArg (·.1) (apply_key row write)

@[simp] theorem after_id : (row.after writes).id = row.id := congrArg (·.1) after_key

@[simp] theorem after_tenantId : (row.after writes).tenantId = row.tenantId :=
  congrArg (·.2.1) after_key

@[simp] theorem after_tenantProductId : (row.after writes).tenantProductId = row.tenantProductId :=
  congrArg (·.2.2.1) after_key

@[simp] theorem after_nil : row.after [] = row := rfl

theorem after_append : row.after (writes ++ more) = (row.after writes).after more :=
  foldl_append

theorem apply_untouched (other : write.updated ≠ some row.id) : row.apply write = row := by
  unfold apply
  split
  · exact if_neg fun same => other (congrArg some same.symm)
  · exact if_neg fun same => other (congrArg some same.symm)
  · rfl

/-- **A mapping that no UPDATE is about stays as it is.** -/
theorem after_untouched (others : ∀ write ∈ writes, write.updated ≠ some row.id) : row.after writes = row :=
  foldl_fixed fun write mem => apply_untouched (others write mem)

theorem after_calm (calm : ∀ write ∈ more, write.maps = false) : row.after (writes ++ more) =
    row.after writes := by
  rw [after_append, after_untouched]
  intro write mem about
  have still := calm write mem
  cases write <;> cases about <;> cases still

/-- **A retired mapping stays retired.** -/
theorem after_retired (retired : row.isActive = false) : (row.after writes).isActive = false := by
  induction writes generalizing row with
  | nil => exact retired
  | cons write rest ih =>
    have still : (row.apply write).isActive = false := by
      unfold apply
      split
      · split_ifs
        · exact retired
        · exact retired
      · split_ifs
        · rfl
        · exact retired
      · exact retired
    exact ih still

@[simp] theorem after_sameProduct {other : Mapping} :
    (row.after writes).sameProduct other = row.sameProduct other := by
  simp only [sameProduct, after_tenantId, after_tenantProductId]

theorem sameProduct_comm {first second : Mapping} : first.sameProduct second = second.sameProduct first := by
  simp only [sameProduct, eq_comm]

end Mapping

def updates (writes : List Write) (id : Uuid) : Nat :=
  writes.countP fun write => write.updated = some id

theorem updates_append {more : List Write} {id : Uuid} :
    updates (writes ++ more) id = updates writes id + updates more id := countP_append

/-- **Every UPDATE of a mapping counts its version up by one.** -/
theorem Mapping.after_version {row : Mapping} : (row.after writes).version = row.version +
    updates writes row.id := by
  induction writes generalizing row with
  | nil => rfl
  | cons write rest ih =>
    show ((row.apply write).after rest).version = _
    rw [ih, Mapping.apply_id]
    by_cases about : write.updated = some row.id
    · have counted : updates (write :: rest) row.id = updates rest row.id + 1 :=
        List.countP_cons_of_pos (decide_eq_true about)
      have raised : (row.apply write).version = row.version + 1 := by
        cases write <;> cases about <;> simp [Mapping.apply]
      omega
    · have counted : updates (write :: rest) row.id = updates rest row.id :=
        List.countP_cons_of_neg (by simpa using about)
      rw [Mapping.apply_untouched about, counted]

theorem clash_comm (first second : Write) : clash first second = clash second first := by
  have mappings : ∀ one two : Mapping, clash (.mapping one) (.mapping two) =
      clash (.mapping two) (.mapping one) := by
    intro one two
    simp only [clash]
    rw [@Mapping.sameProduct_comm one two, decide_eq_decide.2 (@eq_comm _ one.id two.id)]
  cases first <;> cases second <;> first
    | rfl
    | exact mappings _ _
    | simp [clash, Write.updated, Write.holdsResult, eq_comm]

inductive Table where
  | product
  | run
  | result
  | mapping
  | attempt
  | audit
  deriving DecidableEq

/-- The table and the identifier of the row a write inserts. -/
def Write.rowKey : Write → Option (Table × Uuid)
  | product row => some (.product, row.id)
  | run row => some (.run, row.id)
  | result row => some (.result, row.id)
  | mapping row => some (.mapping, row.id)
  | attempt row => some (.attempt, row.id)
  | audit row => some (.audit, row.id)
  | _ => none

abbrev collide : Write → Write → Bool := sameRow Write.rowKey

def Write.records : Write → Bool
  | attempt _ => true
  | audit _ => true
  | _ => false

/-! ### Statements -/

section Statements

variable {context : Context}
variable {reply : Unit}

theorem visibleMapping_some (found : visibleMapping context writes id = some row) :
    ∃ added, .mapping added ∈ writes ∧ added.id = id ∧ added.tenantId = context.tenant ∧
      added.after writes = row := by
  have holds := find?_some found
  simp only [and_eq_true, decide_eq_true_eq] at holds
  obtain ⟨added, mem, rfl⟩ := mem_mappingsOf.1 (mem_of_find?_eq_some found)
  exact ⟨added, mem, Mapping.after_id.symm.trans holds.1, Mapping.after_tenantId.symm.trans holds.2, rfl⟩

theorem updateMapping_ok {passes : Mapping → Bool} {write : Write} {reply : Option Mapping}
    (ran : updateMapping context writes id passes write = (reply, wrote)) :
    (reply = none ∧ wrote = []) ∨
      ∃ row, .mapping row ∈ writes ∧ row.id = id ∧ row.tenantId = context.tenant ∧
      passes (row.after writes) = true ∧ reply = some ((row.after writes).apply write) ∧ wrote = [write] := by
  unfold updateMapping at ran
  split at ran
  · cases ran
    exact .inl ⟨rfl, rfl⟩
  · rename_i row found
    cases ran
    obtain ⟨visible, holds⟩ := filter_eq_some_iff.1 found
    obtain ⟨added, mem, same, tenant, rfl⟩ := visibleMapping_some visible
    exact .inr ⟨added, mem, same, tenant, holds, rfl, rfl⟩

/-- A mapping went in. -/
structure Admitted (context : Context) (writes : List Write) (row : Mapping) : Prop where
  tenant : row.tenantId = context.tenant
  fresh : ∀ other, .mapping other ∈ writes → other.id ≠ row.id
  unique : ∀ other, .mapping other ∈ writes → other.sameProduct row = true →
    (other.after writes).isActive = false

theorem admits_ok (admitted : admits reference context writes row = .ok ()) : Admitted context writes row := by
  obtain ⟨_, secured, admitted⟩ := bind_ok admitted
  obtain ⟨-, -, admitted⟩ := bind_ok admitted
  obtain ⟨_, fresh, admitted⟩ := bind_ok admitted
  obtain ⟨_, unique, -⟩ := bind_ok admitted
  refine ⟨of_decide_eq_true (require_ok secured), fun other mem => ?_, fun other mem same => ?_⟩
  · exact require_all fresh other (mem_insertedMappings.2 mem)
  · have kept := all_eq_true.1 (require_ok unique) _ (mem_mappingsOf.2 ⟨other, mem, rfl⟩)
    rw [Mapping.after_sameProduct, same] at kept
    simpa using kept

theorem insertMapping_ok (reference : Reference) {values : MappingValues} {reply : Except PgError Mapping}
    (ran : exec reference context writes (.insertMapping values) = .ok (reply, wrote)) :
    (∃ error, reply = .error error ∧ wrote = []) ∨
      reply = .ok (values.row context) ∧ wrote = [.mapping (values.row context)] ∧
      Admitted context writes (values.row context) := by
  simp only [exec] at ran
  split at ran
  · rename_i error refused
    cases ran
    exact .inl ⟨error, rfl, rfl⟩
  · rename_i admitted
    cases ran
    exact .inr ⟨rfl, rfl, admits_ok admitted⟩

theorem insertAttempt_ok {values : AttemptValues} {reply : Int}
    (ran : insertAttempt reference context writes values = .ok (reply, wrote)) :
    reply = context.now ∧ wrote = [.attempt (values.row context)] ∧
      ∀ other, .attempt other ∈ writes → other.id ≠ values.id := by
  obtain ⟨-, -, ran⟩ := bind_ok₂ ran
  obtain ⟨_, fresh, ran⟩ := bind_ok ran
  obtain ⟨-, -, ran⟩ := bind_ok₂ ran
  cases ran
  exact ⟨rfl, rfl, fun other mem => require_all fresh other (mem_attemptsOf.2 mem)⟩

theorem insertAudit_ok {row : AuditEvent} (ran : insertAudit writes row = .ok (reply, wrote)) :
    wrote = [.audit row] ∧ ∀ other, .audit other ∈ writes → other.id ≠ row.id := by
  obtain ⟨_, fresh, ran⟩ := bind_ok ran
  cases ran
  exact ⟨rfl, fun other mem => require_all fresh other (mem_auditsOf.2 mem)⟩

theorem change_ok (reference : Reference) {edit : Change}
    (ran : exec reference context writes (.change edit) = .ok (reply, wrote)) :
    ∃ write, wrote = [write] ∧ write.maps = false ∧ write.records = false ∧
      ∀ first ∈ writes, collide first write = false := by
  obtain ⟨added, went, rfl⟩ : ∃ added, insertChange context writes edit = .ok added ∧ added = wrote := by
    simp only [exec] at ran
    cases insert : insertChange context writes edit with
    | error error =>
      rw [insert] at ran
      cases ran
    | ok added =>
      rw [insert] at ran
      exact ⟨added, rfl, (ok_inj ran).2⟩
  cases edit with
  | product id =>
    obtain ⟨_, fresh, went⟩ := bind_ok went
    cases went
    refine ⟨_, rfl, rfl, rfl, fun first mem => ?_⟩
    cases first with
    | product other => exact sameRow_ne rfl rfl (require_all fresh other (mem_productsOf.2 mem))
    | _ => rfl
  | run id =>
    obtain ⟨_, fresh, went⟩ := bind_ok went
    cases went
    refine ⟨_, rfl, rfl, rfl, fun first mem => ?_⟩
    cases first with
    | run other => exact sameRow_ne rfl rfl (require_all fresh other (mem_filterMap.2 ⟨_, mem, rfl⟩))
    | _ => rfl
  | result id runId tenantProductId =>
    obtain ⟨_, fresh, went⟩ := bind_ok went
    obtain ⟨-, -, went⟩ := bind_ok went
    cases went
    refine ⟨_, rfl, rfl, rfl, fun first mem => ?_⟩
    cases first with
    | result other => exact sameRow_ne rfl rfl (require_all fresh other (mem_filterMap.2 ⟨_, mem, rfl⟩))
    | _ => rfl

end Statements

/-! ### What a call had found when it wrote -/

/-- The statement looks at mappings, or at the product of one. -/
def Stmt.decides : Stmt → Bool
  | findProduct _ => true
  | insertMapping _ => true
  | confirmMapping .. => true
  | findMapping _ => true
  | findActive _ => true
  | _ => false

/-- What was committed when the statements of the log looked at mappings. -/
def decisions (log : Log) : List Nat :=
  log.filterMap fun
    | .answered statement seen _ => if statement.decides then some seen else none
    | .drew _ => none

theorem decisions_append (first second : Log) :
    decisions (first ++ second) = decisions first ++ decisions second := filterMap_append

section Found

variable (commits : List (Nat × List Write)) (call : Call) (log : Log)

/-- A mapping was updated: it was active and had that version when `seen` transactions were committed. -/
structure HoldsMapping (row : Mapping) (version : Nat) (update : Write) (seen : Nat) : Prop where
  early : seen ≤ commits.length
  present : .mapping row ∈ contents (commits.take seen)
  tenant : row.tenantId = call.context.tenant
  current : (row.after (contents (commits.take seen))).version = version
  active : (row.after (contents (commits.take seen))).isActive = true
  updates : update.updated = some row.id
  locked : ∃ (statement : Stmt) (reply : Reply statement),
    Entry.answered statement seen (.ok (reply, [update])) ∈ log

/-- A mapping was suggested: no active one had its product when `seen` transactions were committed. -/
structure MappingEntered (row : Mapping) (seen : Nat) : Prop where
  early : seen ≤ commits.length
  version : row.version = 1
  suggested : row.state = .suggested
  active : row.isActive = true
  tenant : row.tenantId = call.context.tenant
  fresh : ∀ other, .mapping other ∈ contents (commits.take seen) → other.id ≠ row.id
  unique : ∀ other, .mapping other ∈ contents (commits.take seen) → other.sameProduct row = true →
    (other.after (contents (commits.take seen))).isActive = false
  answered : ∃ (statement : Stmt) (reply : Reply statement),
    Entry.answered statement seen (.ok (reply, [.mapping row])) ∈ log

/-- The mapping is confirmed and active after these commits. -/
structure ConfirmedAt (row : Mapping) (seen : Nat) : Prop where
  early : seen ≤ commits.length
  present : .mapping row ∈ contents (commits.take seen)
  tenant : row.tenantId = call.context.tenant
  confirmed : (row.after (contents (commits.take seen))).isConfirmed = true

/-- **What a repair did to the mappings, and what it calls that.** `seen` transactions were committed when
it last looked. -/
inductive Drives (input : RepairInput) : Instruction → Driven → List Write → Nat → Prop where
  | confirmed {row : Mapping} {version seen : Nat}
      (holds : HoldsMapping commits call log row version
        (.confirm row.id input.actorUserId call.now) seen) :
      Drives input (.confirm row.id version) (.mapped, some row.id)
        [.confirm row.id input.actorUserId call.now] seen
  | entered {ref : String} {row : Mapping} {seen seen' : Nat}
      (entered : MappingEntered commits call log row seen)
      (product : row.tenantProductId = input.tenantProductId) (early : seen' ≤ commits.length) :
      Drives input (.suggestConfirm ref) (.mapped, some row.id)
        [.mapping row, .confirm row.id input.actorUserId call.now] seen'
  | stuck {ref : String} {row : Mapping} {seen seen' : Nat}
      (entered : MappingEntered commits call log row seen)
      (missed : (∀ other, .mapping other ∈ contents commits → other.id ≠ row.id) →
        (∀ write ∈ contents commits, write.updated ≠ some row.id) → False) :
      Drives input (.suggestConfirm ref) (.stillUnmapped, none) [.mapping row] seen'
  | echoed {row : Mapping} {version seen : Nat} (found : ConfirmedAt commits call row seen) :
      Drives input (.confirm row.id version) (.noOpEcho, some row.id) [] seen
  | taken {ref : String} {row : Mapping} {seen : Nat} (found : ConfirmedAt commits call row seen)
      (product : row.tenantProductId = input.tenantProductId) :
      Drives input (.suggestConfirm ref) (.noOpEcho, some row.id) [] seen
  | unmapped {instruction : Instruction} {driven : Driven} {seen : Nat}
      (unsettled : driven.1 = .stillUnmapped ∨ driven.1 = .conflict) :
      Drives input instruction driven [] seen

end Found

/-- The operation of a repair: what it asks for, and its target. -/
def Operation.repair : Operation → Option (RepairInput × TargetKind × Uuid)
  | repairBacklogItem input => some (input, .backlogItem, input.tenantProductId)
  | repairResult input _ resultId => some (input, .result, resultId)
  | _ => none

/-- The mapping an operation is to move, and the version it expects of it. -/
def Operation.expects : Operation → Option (Uuid × Nat)
  | confirm input => some (input.id, input.version)
  | retire input => some (input.id, input.version)
  | repairBacklogItem input =>
    match validateRepair input with
    | .ok (.confirm mappingId version) => some (mappingId, version)
    | _ => none
  | repairResult input _ _ =>
    match validateRepair input with
    | .ok (.confirm mappingId version) => some (mappingId, version)
    | _ => none
  | _ => none

def Body.succeeds : Body → Bool
  | done => true
  | mapping (.ok _) => true
  | mapping _ => false
  | repaired result => result.repair.outcome = .mapped

/-- The mapping whose transition an answer reports; a new mapping makes none. -/
def Body.moved : Operation → Body → Option Uuid
  | .confirm _, .mapping (.ok row) => some row.id
  | .retire _, .mapping (.ok row) => some row.id
  | .repairBacklogItem _, .repaired result =>
    if result.repair.outcome = .mapped then result.repair.resolvedItemMapId else none
  | .repairResult .., .repaired result =>
    if result.repair.outcome = .mapped then result.repair.resolvedItemMapId else none
  | _, _ => none

/-- The attempt and the audit row of a repair. -/
structure Records (input : RepairInput) (targetKind : TargetKind) (targetRef : Uuid) (driven : Driven)
    (attempt : RepairAttempt) (audit : AuditEvent) : Prop where
  target : attempt.targetKind = targetKind ∧ attempt.targetRefId = targetRef
  tenant : attempt.tenantId = input.tenantId ∧ audit.tenantId = input.tenantId
  actor : attempt.actorUserId = input.actorUserId ∧ audit.actorUserId = input.actorUserId
  kind : attempt.repairKind = input.repairKind ∧ audit.repairKind = input.repairKind
  outcome : attempt.outcome = driven.1 ∧ audit.outcome = driven.1
  resolved : attempt.resolvedItemMapId = driven.2
  expected : attempt.expectedVersion = input.version
  audited : audit.action = "erpnext_product_reconciliation.repaired" ∧
    audit.targetType = targetKind.table ∧ audit.targetId = targetRef

def repairAnswer (input : RepairInput) (targetKind : TargetKind) (targetRef : Uuid) (driven : Driven)
    (recordedAt : Int) : RepairResult :=
  ⟨⟨targetKind, targetRef, input.repairKind, driven.1, driven.2, recordedAt⟩, driven.1 = .noOpEcho⟩

inductive Effect (commits : List (Nat × List Write)) (call : Call) (log : Log) :
    Body → List Write → Prop where
  | quiet {body : Body} {writes : List Write} (unmoved : Body.moved call.operation body = none)
      (unrepaired : call.operation.repair = none) (failed : body.succeeds = true → call.operation.expects = none)
      (calm : ∀ write ∈ writes, write.maps = false ∧ write.records = false) : Effect commits call log body writes
  | suggested {row : Mapping} {seen : Nat} {input : SuggestInput}
      (asked : call.operation = .suggest input) (entered : MappingEntered commits call log row seen) :
      Effect commits call log (.mapping (.ok row)) [.mapping row]
  | moved {row answered : Mapping} {version seen : Nat} {update : Write}
      (moved : Body.moved call.operation (.mapping (.ok answered)) = some row.id)
      (unrepaired : call.operation.repair = none)
      (expects : call.operation.expects = some (row.id, version))
      (holds : HoldsMapping commits call log row version update seen) :
      Effect commits call log (.mapping (.ok answered)) [update]
  | repaired {input : RepairInput} {targetKind : TargetKind} {targetRef : Uuid} {instruction : Instruction}
      {driven : Driven} {mapped locks marks : List Write} {attempt : RepairAttempt} {audit : AuditEvent}
      {seen : Nat} (asked : call.operation.repair = some (input, targetKind, targetRef))
      (valid : validateRepair input = .ok instruction)
      (drives : Drives commits call log input instruction driven mapped seen)
      (decided : (decisions log).getLast? = some seen)
      (records : Records input targetKind targetRef driven attempt audit)
      (locks' : ∀ write ∈ locks, ∃ id, write = .lockResult id)
      (marks' : ∀ write ∈ marks, driven.1 = .mapped ∧ targetKind = .result ∧
        write = .repaired targetRef call.now) :
      Effect commits call log (.repaired (repairAnswer input targetKind targetRef driven call.now))
        (locks ++ (mapped ++ ([.attempt attempt, .audit audit] ++ marks)))

/-! ### Programs -/

section Programs

variable {commits : List (Nat × List Write)} {call : Call} {own : List Write} {log : Log}
variable {result : MappingResult} {instruction : Instruction} {driven : Driven} {targetRef : Uuid}
variable {input : RepairInput} {passes : Mapping → Bool} {targetKind : TargetKind}
  {found : Option Mapping} {update : Write} {seen : Nat} {wider : Log}
variable {version : Nat} {first : Log}

theorem HoldsMapping.widen (holds : HoldsMapping commits call log row version update seen)
    (inside : ∀ entry ∈ log, entry ∈ wider) : HoldsMapping commits call wider row version update seen := by
  obtain ⟨stmt, reply, answered⟩ := holds.locked
  exact ⟨holds.early, holds.present, holds.tenant, holds.current, holds.active, holds.updates,
    stmt, reply, inside _ answered⟩

theorem MappingEntered.widen (entered : MappingEntered commits call log row seen)
    (inside : ∀ entry ∈ log, entry ∈ wider) : MappingEntered commits call wider row seen := by
  obtain ⟨stmt, reply, answered⟩ := entered.answered
  exact ⟨entered.early, entered.version, entered.suggested, entered.active, entered.tenant, entered.fresh,
    entered.unique, stmt, reply, inside _ answered⟩

theorem Drives.widen (drives : Drives commits call log input instruction driven writes seen)
    (inside : ∀ entry ∈ log, entry ∈ wider) :
    Drives commits call wider input instruction driven writes seen := by
  cases drives with
  | confirmed holds => exact .confirmed (holds.widen inside)
  | entered entered product early => exact .entered (entered.widen inside) product early
  | stuck entered missed => exact .stuck (entered.widen inside) missed
  | echoed found => exact .echoed found
  | taken found product => exact .taken found product
  | unmapped unsettled => exact .unmapped unsettled

theorem mapping_of_calm (calm : ∀ write ∈ own, write.maps = false) (mem : .mapping row ∈ writes ++ own) :
    .mapping row ∈ writes := by
  rcases mem_append.1 mem with old | new
  · exact old
  · cases calm _ new

theorem disambiguate_effect
    (ends : Completes (itemMapServer reference) commits call own (disambiguate id) log result) :
    (result = .conflict ∨ result = .notFound) ∧ written log = [] ∧
      ∃ seen, seen ≤ commits.length ∧ decisions log = [seen] := by
  obtain ⟨old, seen, writes, last, rfl, early, ran, logged, ends⟩ := query_then ends
  obtain ⟨-, rfl⟩ := ok_inj ran
  split_ifs at ends
  · obtain ⟨rfl, rfl⟩ := completes_done ends
    exact ⟨.inl rfl, by rw [append_nil, logged.written], seen, early, rfl⟩
  · obtain ⟨rfl, rfl⟩ := completes_done ends
    exact ⟨.inr rfl, by rw [append_nil, logged.written], seen, early, rfl⟩

theorem confirmOnClient_cases {input : ConfirmInput}
    (ends : Completes (itemMapServer reference) commits call own (confirmOnClient input) log result) :
    ∃ (updated : Option Mapping) (seen : Nat) (wrote : List Write) (last : Log), log =
      .answered (.confirmMapping input.id input.version input.actorUserId) seen (.ok (updated, wrote)) ::
      last ∧ seen ≤ commits.length ∧
      updateMapping call.context (contents (commits.take seen) ++ own) input.id
        (fun row => row.version = input.version && row.state = .suggested && row.isActive)
        (.confirm input.id input.actorUserId call.now) = (updated, wrote) ∧
      (updated.map MappingResult.ok = some result ∧ last = [] ∨
        updated = none ∧ (result = .conflict ∨ result = .notFound) ∧ written last = [] ∧
        ∃ seen', seen' ≤ commits.length ∧ decisions last = [seen']) := by
  obtain ⟨updated, seen, wrote, last, rfl, early, ran, logged, ends⟩ := query_then ends
  obtain ⟨-, -, ran⟩ := bind_ok ran
  refine ⟨updated, seen, wrote, last, rfl, early, Except.ok.inj ran, ?_⟩
  cases updated with
  | some row =>
    obtain ⟨rfl, rfl⟩ := completes_done ends
    exact .inl ⟨rfl, rfl⟩
  | none => exact .inr ⟨rfl, disambiguate_effect ends⟩

theorem retireOnClient_cases {input : RetireInput}
    (ends : Completes (itemMapServer reference) commits call own (retireOnClient input) log result) :
    ∃ (updated : Option Mapping) (seen : Nat) (wrote : List Write) (last : Log),
      log = .answered (.retireMapping input.id input.version) seen (.ok (updated, wrote)) :: last ∧
      seen ≤ commits.length ∧
      updateMapping call.context (contents (commits.take seen) ++ own) input.id
        (fun row => row.version = input.version && row.isActive) (.retire input.id call.now) =
        (updated, wrote) ∧
      (updated.map MappingResult.ok = some result ∧ last = [] ∨
        updated = none ∧ (result = .conflict ∨ result = .notFound) ∧ written last = [] ∧
        ∃ seen', seen' ≤ commits.length ∧ decisions last = [seen']) := by
  obtain ⟨updated, seen, wrote, last, rfl, early, ran, logged, ends⟩ := query_then ends
  obtain ⟨-, -, ran⟩ := bind_ok ran
  refine ⟨updated, seen, wrote, last, rfl, early, Except.ok.inj ran, ?_⟩
  cases updated with
  | some row =>
    obtain ⟨rfl, rfl⟩ := completes_done ends
    exact .inl ⟨rfl, rfl⟩
  | none => exact .inr ⟨rfl, disambiguate_effect ends⟩

/-- **An UPDATE that returns its row holds a mapping of the version it expects.** -/
theorem holds_of_update (log : Log) (version : Nat) {updated : Mapping}
    (calm : ∀ write ∈ own, write.maps = false) (early : seen ≤ commits.length)
    (checks : ∀ row, passes row = true → row.version = version ∧ row.isActive = true)
    (about : update.updated = some id)
    (ran : updateMapping call.context (contents (commits.take seen) ++ own) id passes update =
        (some updated, wrote))
    (answered : ∃ (stmt : Stmt) (reply : Reply stmt), Entry.answered stmt seen (.ok (reply, wrote)) ∈ log) :
    ∃ row, row.id = id ∧ updated = (row.after (contents (commits.take seen))).apply update ∧
      wrote = [update] ∧ HoldsMapping commits call log row version update seen := by
  obtain ⟨same, -⟩ | ⟨row, mem, same, tenant, holds, reply, rfl⟩ := updateMapping_ok ran
  · cases same
  · rw [Mapping.after_calm calm] at holds reply
    obtain ⟨current, active⟩ := checks _ holds
    exact ⟨row, same, Option.some.inj reply, rfl, early, mapping_of_calm calm mem, tenant, current,
      active, about.trans (congrArg some same.symm), answered⟩

variable (calm : ∀ write ∈ own, write.maps = false)
include calm

theorem confirmOnClient_effect {input : ConfirmInput}
    (ends : Completes (itemMapServer reference) commits call own (confirmOnClient input) log result) :
    (∃ row seen, result =
        .ok
        ((row.after (contents (commits.take seen))).apply (.confirm input.id input.actorUserId call.now)) ∧
        row.id = input.id ∧ written log = [.confirm input.id input.actorUserId call.now] ∧
        decisions log = [seen] ∧
        HoldsMapping commits call log row input.version (.confirm input.id input.actorUserId call.now) seen) ∨
      (result = .conflict ∨ result = .notFound) ∧ written log = [] ∧
      ∃ seen, seen ≤ commits.length ∧ (decisions log).getLast? = some seen := by
  obtain ⟨updated, seen, wrote, last, rfl, early, ran, ended⟩ := confirmOnClient_cases ends
  obtain ⟨answer, rfl⟩ | ⟨rfl, failed, nothing, seen', early', decided⟩ := ended
  · obtain ⟨row, rfl, rfl⟩ := map_eq_some_iff.1 answer
    obtain ⟨row', same, rfl, rfl, holds⟩ := holds_of_update
      [.answered (.confirmMapping input.id input.version input.actorUserId) seen (.ok (some row, wrote))]
      input.version calm early (fun row passes => by simp_all) rfl ran
      ⟨_, _, mem_singleton_self _⟩
    exact .inl ⟨row', seen, rfl, same, rfl, rfl, holds⟩
  · obtain ⟨-, rfl⟩ | ⟨row, -, -, -, -, same, -⟩ := updateMapping_ok ran
    · refine .inr ⟨failed, ?_, seen', early', ?_⟩
      · simpa [written, Entry.writes] using nothing
      · rw [← singleton_append, decisions_append, decided]
        rfl
    · cases same

theorem retireOnClient_effect {input : RetireInput}
    (ends : Completes (itemMapServer reference) commits call own (retireOnClient input) log result) :
    (∃ row seen, result = .ok ((row.after (contents (commits.take seen))).apply (.retire input.id call.now)) ∧
        row.id = input.id ∧ written log = [.retire input.id call.now] ∧
        HoldsMapping commits call log row input.version (.retire input.id call.now) seen) ∨
      (result = .conflict ∨ result = .notFound) ∧ written log = [] := by
  obtain ⟨updated, seen, wrote, last, rfl, early, ran, ended⟩ := retireOnClient_cases ends
  obtain ⟨answer, rfl⟩ | ⟨rfl, failed, nothing, -⟩ := ended
  · obtain ⟨row, rfl, rfl⟩ := map_eq_some_iff.1 answer
    obtain ⟨row', same, rfl, rfl, holds⟩ := holds_of_update
      [.answered (.retireMapping input.id input.version) seen (.ok (some row, wrote))]
      input.version calm early (fun row passes => by simp_all) rfl ran
      ⟨_, _, mem_singleton_self _⟩
    exact .inl ⟨row', seen, rfl, same, rfl, holds⟩
  · obtain ⟨-, rfl⟩ | ⟨row, -, -, -, -, same, -⟩ := updateMapping_ok ran
    · exact .inr ⟨failed, by simpa [written, Entry.writes] using nothing⟩
    · cases same

theorem suggestOnClient_effect {input : SuggestInput}
    (ends : Completes (itemMapServer reference) commits call own (suggestOnClient input) log result) :
    ∃ seen, seen ≤ commits.length ∧ (decisions log).getLast? = some seen ∧
      ((∃ row, result = .ok row ∧ written log = [.mapping row] ∧ row.tenantProductId = input.tenantProductId ∧
          MappingEntered commits call log row seen) ∨
        (result = .conflict ∨ result = .notFound) ∧ written log = []) := by
  obtain ⟨product, seen, wrote, last, rfl, early, ran, logged, ends⟩ := query_then ends
  obtain ⟨-, rfl⟩ := ok_inj ran
  split_ifs at ends
  · obtain ⟨rfl, rfl⟩ := completes_done ends
    exact ⟨seen, early, rfl, .inr ⟨.inr rfl, rfl⟩⟩
  · obtain ⟨id, second, last, rfl, drawing, ends⟩ := completes_bind ends
    obtain rfl := completes_newId drawing
    obtain ⟨added, seen', wrote', last, rfl, early', executed', logged', ends⟩ := query_then ends
    simp only [written, flatMap_cons, flatMap_nil, Entry.writes, append_nil] at executed'
    refine ⟨seen', early', ?_, ?_⟩
    · cases added with
      | ok row =>
        obtain ⟨rfl, rfl⟩ := completes_done ends
        rfl
      | error error =>
        dsimp only at ends
        split_ifs at ends
        · obtain ⟨rfl, rfl⟩ := completes_done ends
          rfl
        · obtain ⟨rfl, rfl⟩ := completes_done ends
          rfl
        · exact absurd ends not_completes_fail
    · obtain ⟨error, rfl, rfl⟩ | ⟨rfl, rfl, admitted⟩ := insertMapping_ok reference executed'
      · dsimp only at ends
        split_ifs at ends
        · obtain ⟨rfl, rfl⟩ := completes_done ends
          exact .inr ⟨.inl rfl, rfl⟩
        · obtain ⟨rfl, rfl⟩ := completes_done ends
          exact .inr ⟨.inr rfl, rfl⟩
        · exact absurd ends not_completes_fail
      · obtain ⟨rfl, rfl⟩ := completes_done ends
        refine .inl ⟨_, rfl, rfl, rfl,
            ⟨early', rfl, rfl, rfl, admitted.tenant, fun other mem => ?_, fun other mem same => ?_, _, _,
            mem_append_right _ (mem_append_right _ (mem_append_left _ (mem_singleton_self _)))⟩⟩
        · exact admitted.fresh other (mem_append_left _ mem)
        · rw [← Mapping.after_calm calm]
          exact admitted.unique other (mem_append_left _ mem) same

/-- **The UPDATE of a mapping that the transaction has just inserted finds it.** -/
theorem updateMapping_own {context : Context} {view : List Write}
    (apart : ∀ other, .mapping other ∈ view → other.id ≠ row.id)
    (untouched : ∀ write ∈ view, write.updated ≠ some row.id) (tenant : row.tenantId = context.tenant)
    (holds : passes row = true) :
    updateMapping context (view ++ (own ++ [.mapping row])) row.id passes update ≠ (none, wrote) := by
  have itself : row.after (view ++ (own ++ [.mapping row])) = row := by
    refine Mapping.after_untouched fun write mem about => ?_
    rcases mem_append.1 mem with old | new
    · exact untouched write old about
    · rcases mem_append.1 new with mine | inserted
      · have still := calm write mine
        cases write <;> cases about <;> cases still
      · rw [mem_singleton.1 inserted] at about
        cases about
  have found : visibleMapping context (view ++ (own ++ [.mapping row])) row.id = some row := by
    cases look : visibleMapping context (view ++ (own ++ [.mapping row])) row.id with
    | none =>
      have inside : row ∈ mappingsOf (view ++ (own ++ [.mapping row])) :=
        mem_mappingsOf.2 ⟨row, by simp, itself⟩
      have missed := find?_eq_none.1 look row inside
      simp [tenant] at missed
    | some other =>
      obtain ⟨inserted, mem, same, -, rfl⟩ := visibleMapping_some look
      rcases mem_append.1 mem with old | new
      · exact absurd same (apart inserted old)
      · rcases mem_append.1 new with mine | it
        · cases calm _ mine
        · obtain rfl := Write.mapping.inj (mem_singleton.1 it)
          rw [itself]
  intro nothing
  unfold updateMapping at nothing
  rw [found, filter_some, if_pos holds] at nothing
  cases nothing

omit calm

theorem findMapping_found (reference : Reference) (calm : ∀ write ∈ own, write.maps = false)
    (ends : Completes (itemMapServer reference) commits call own (clientQuery (.findMapping id)) first
      found) :
    ∃ seen, written first = [] ∧ decisions first = [seen] ∧
      ∀ row, found = some row → row.isConfirmed = true →
      ∃ added, added.id = id ∧ row.id = id ∧ ConfirmedAt commits call added seen := by
  obtain ⟨seen, wrote, rfl, early, ran, logged⟩ := query_logged ends
  obtain ⟨found, rfl⟩ := ok_inj ran
  refine ⟨seen, logged.written, rfl, fun row same confirmed => ?_⟩
  obtain ⟨added, mem, same', tenant, rfl⟩ := visibleMapping_some (found.trans same)
  rw [Mapping.after_calm calm] at confirmed
  exact ⟨added, same', Mapping.after_id.trans same', early, mapping_of_calm calm mem, tenant, confirmed⟩

theorem findActive_found (reference : Reference) {productId : Uuid} (calm : ∀ write ∈ own, write.maps = false)
    (ends : Completes (itemMapServer reference) commits call own (clientQuery (.findActive productId)) first
      found) :
    ∃ seen, written first = [] ∧ decisions first = [seen] ∧
      ∀ row, found = some row → row.state = .confirmed →
      ∃ added, added.tenantProductId = productId ∧ row.id = added.id ∧
      ConfirmedAt commits call added seen := by
  obtain ⟨seen, wrote, rfl, early, ran, logged⟩ := query_logged ends
  obtain ⟨found, rfl⟩ := ok_inj ran
  refine ⟨seen, logged.written, rfl, fun row same confirmed => ?_⟩
  have holds := find?_some (found.trans same)
  simp only [and_eq_true, decide_eq_true_eq] at holds
  obtain ⟨added, mem, rfl⟩ := mem_mappingsOf.1 (mem_of_find?_eq_some (found.trans same))
  have whole : (added.after (contents (commits.take seen) ++ own)).isConfirmed = true := by
    simp [Mapping.isConfirmed, confirmed, holds.1.2]
  rw [Mapping.after_calm calm] at whole
  exact ⟨added, Mapping.after_tenantProductId.symm.trans holds.1.1, Mapping.after_id, early,
    mapping_of_calm calm mem, Mapping.after_tenantId.symm.trans holds.2, whole⟩

variable (calm : ∀ write ∈ own, write.maps = false)
include calm

theorem driveConfirm_effect {mappingId : Uuid}
    (ends : Completes (itemMapServer reference) commits call own (driveConfirm input mappingId version) log
      driven) :
    ∃ seen, (decisions log).getLast? = some seen ∧
      Drives commits call log input (.confirm mappingId version) driven (written log) seen := by
  obtain ⟨result, first, last, rfl, confirming, ends⟩ := completes_bind ends
  obtain ⟨row, seen, rfl, same, wrote, decided, holds⟩ | ⟨failed, nothing, seen, early, decided⟩ :=
    confirmOnClient_effect calm confirming
  · obtain ⟨rfl, rfl⟩ := completes_done ends
    dsimp only at same wrote
    rw [append_nil, wrote, decided, Mapping.apply_id, Mapping.after_id]
    subst same
    exact ⟨seen, rfl, .confirmed holds⟩
  rw [nothing, append_nil] at ends
  rcases failed with rfl | rfl
  · obtain ⟨old, second, last, rfl, reading, ends⟩ := completes_bind ends
    obtain ⟨seen', quiet, decided', found⟩ := findMapping_found reference calm reading
    have conflict :
        driven = (.conflict, none) → last = [] → ∃ seen, (decisions (first ++ (second ++ last))).getLast? =
          some seen ∧ Drives commits call (first ++ (second ++ last)) input (.confirm mappingId version)
            driven (written (first ++ (second ++ last))) seen := by
      rintro rfl rfl
      refine ⟨seen', by simp [decisions_append, decided'], ?_⟩
      rw [written_append, written_append, nothing, quiet]
      exact .unmapped (.inr rfl)
    cases old with
    | none =>
      obtain ⟨rfl, rfl⟩ := completes_done ends
      exact conflict rfl rfl
    | some row =>
      dsimp only at ends
      split_ifs at ends with confirmed
      · obtain ⟨rfl, rfl⟩ := completes_done ends
        obtain ⟨added, rfl, same, at'⟩ := found row rfl confirmed
        refine ⟨seen', by simp [decisions_append, decided'], ?_⟩
        rw [written_append, written_append, nothing, quiet, same]
        exact .echoed at'
      · obtain ⟨rfl, rfl⟩ := completes_done ends
        exact conflict rfl rfl
  · obtain ⟨rfl, rfl⟩ := completes_done ends
    refine ⟨seen, by rwa [append_nil], ?_⟩
    rw [append_nil, nothing]
    exact .unmapped (.inl rfl)

theorem driveSuggest_effect {ref : String}
    (ends : Completes (itemMapServer reference) commits call own (driveSuggest input ref) log driven) :
    ∃ seen, (decisions log).getLast? = some seen ∧
      Drives commits call log input (.suggestConfirm ref) driven (written log) seen := by
  obtain ⟨result, first, last, rfl, suggesting, ends⟩ := completes_bind ends
  obtain ⟨seen, early, decided, ⟨row, rfl, wrote, product, entered⟩ | ⟨failed, nothing⟩⟩ :=
    suggestOnClient_effect calm suggesting
  · -- the suggestion of its own is what it confirms
    obtain ⟨result, second, last, rfl, confirming, ends⟩ := completes_bind ends
    obtain ⟨updated, seen', wrote', rest, rfl, early', ran, ended⟩ := confirmOnClient_cases confirming
    rw [wrote] at ran
    have inside :
        ∀ entry ∈ first, entry ∈ first ++ ((.answered (.confirmMapping row.id row.version input.actorUserId)
                seen' (.ok (updated, wrote')) :: rest) ++ last) :=
      fun entry mem => mem_append_left _ mem
    obtain ⟨answer, rfl⟩ | ⟨rfl, failed, nothing, seen'', early'', decided'⟩ := ended
    · obtain ⟨row', rfl, rfl⟩ := map_eq_some_iff.1 answer
      obtain ⟨rfl, rfl⟩ := completes_done ends
      obtain ⟨same, -⟩ | ⟨other, -, same, -, -, reply, rfl⟩ := updateMapping_ok ran
      · cases same
      · have named : row'.id = row.id := by
          rw [Option.some.inj reply, Mapping.apply_id, Mapping.after_id, same]
        refine ⟨seen', ?_, ?_⟩
        · rw [decisions_append, append_nil, List.getLast?_append]
          rfl
        · rw [written_append, wrote, append_nil, named]
          exact .entered (entered.widen inside) product early'
    · have stuck : last = [] ∧ driven = (.stillUnmapped, none) := by
        rcases failed with rfl | rfl
        · exact completes_done ends
        · exact completes_done ends
      obtain ⟨rfl, rfl⟩ := stuck
      obtain ⟨-, rfl⟩ | ⟨other, -, -, -, -, same, -⟩ := updateMapping_ok ran
      · refine ⟨seen'', ?_, ?_⟩
        · rw [decisions_append, append_nil, ← singleton_append, decisions_append, decided']
          simp
        · have nothing' : written (Entry.answered
              (.confirmMapping row.id row.version input.actorUserId) seen' (.ok (none, [])) :: rest) = [] := by
            simpa [written, Entry.writes] using nothing
          rw [append_nil, written_append, wrote, nothing', append_nil]
          refine .stuck (entered.widen (by simpa using inside)) fun apart untouched => ?_
          refine updateMapping_own calm (fun other mem => apart other (contents_take mem))
            (fun write mem => untouched write (contents_take mem)) entered.tenant ?_ ran
          simp [entered.suggested, entered.active]
      · cases same
  rcases failed with rfl | rfl
  · rw [nothing, append_nil] at ends
    obtain ⟨active, second, last, rfl, reading, ends⟩ := completes_bind ends
    obtain ⟨seen', quiet, decided', found⟩ := findActive_found reference calm reading
    have conflict :
        driven = (.conflict, none) → last = [] → ∃ seen, (decisions (first ++ (second ++ last))).getLast? =
          some seen ∧ Drives commits call (first ++ (second ++ last)) input (.suggestConfirm ref) driven
            (written (first ++ (second ++ last))) seen := by
      rintro rfl rfl
      refine ⟨seen', by simp [decisions_append, decided'], ?_⟩
      rw [written_append, written_append, nothing, quiet]
      exact .unmapped (.inr rfl)
    cases active with
    | none =>
      obtain ⟨rfl, rfl⟩ := completes_done ends
      exact conflict rfl rfl
    | some row =>
      dsimp only at ends
      split_ifs at ends with confirmed
      · obtain ⟨rfl, rfl⟩ := completes_done ends
        obtain ⟨added, product, same, at'⟩ := found row rfl confirmed
        refine ⟨seen', by simp [decisions_append, decided'], ?_⟩
        rw [written_append, written_append, nothing, quiet, same]
        exact .taken at' product
      · obtain ⟨rfl, rfl⟩ := completes_done ends
        exact conflict rfl rfl
  · obtain ⟨rfl, rfl⟩ := completes_done ends
    refine ⟨seen, by rwa [append_nil], ?_⟩
    rw [append_nil, nothing]
    exact .unmapped (.inl rfl)

/-- **What a repair did to the mappings.** -/
theorem drive_effect
    (ends : Completes (itemMapServer reference) commits call own (drive input instruction) log driven) :
    ∃ seen, (decisions log).getLast? = some seen ∧
      Drives commits call log input instruction driven (written log) seen := by
  cases instruction with
  | confirm mappingId version => exact driveConfirm_effect calm ends
  | suggestConfirm ref => exact driveSuggest_effect calm ends

omit calm

/-- **A repair is recorded by one attempt and one audit row.** -/
theorem recordRepairAttempt_effect {recordedAt : Int}
    (ends : Completes (itemMapServer reference) commits call own
      (recordRepairAttempt input targetKind targetRef driven) log recordedAt) :
    recordedAt = call.now ∧ decisions log = [] ∧
      ∃ attempt audit, written log = [.attempt attempt, .audit audit] ∧
      Records input targetKind targetRef driven attempt audit := by
  obtain ⟨id, first, last, rfl, drawing, ends⟩ := completes_bind ends
  obtain rfl := completes_newId drawing
  obtain ⟨answer, seen, wrote, last, rfl, -, ran, logged, ends⟩ := query_then ends
  obtain ⟨rfl, rfl, -⟩ := insertAttempt_ok ran
  obtain ⟨auditId, third, last, rfl, drawing', ends⟩ := completes_bind ends
  obtain rfl := completes_newId drawing'
  obtain ⟨done, seen', wrote', last, rfl, -, executed', logged', ends⟩ := query_then ends
  obtain ⟨rfl, -⟩ := insertAudit_ok executed'
  obtain ⟨rfl, rfl⟩ := completes_done ends
  exact ⟨rfl, rfl, _, _, rfl, ⟨rfl, rfl⟩, ⟨rfl, rfl⟩, ⟨rfl, rfl⟩, ⟨rfl, rfl⟩, ⟨rfl, rfl⟩, rfl, rfl, rfl, rfl,
    rfl⟩

variable {result : RepairResult}

theorem runRepair_effect (calm : ∀ write ∈ own, write.maps = false)
    (ends : Completes (itemMapServer reference) commits call own
      (runRepair input instruction targetKind targetRef) log result) :
    ∃ driven mapped seen attempt audit, result = repairAnswer input targetKind targetRef driven call.now ∧
      (decisions log).getLast? = some seen ∧ Drives commits call log input instruction driven mapped seen ∧
      Records input targetKind targetRef driven attempt audit ∧
      written log = mapped ++ [.attempt attempt, .audit audit] := by
  obtain ⟨driven, first, last, rfl, driving, ends⟩ := completes_bind ends
  obtain ⟨seen, decided, drives⟩ := drive_effect calm driving
  obtain ⟨recordedAt, second, last, rfl, recording, ends⟩ := completes_bind ends
  obtain ⟨rfl, undecided, attempt, audit, wrote, records⟩ := recordRepairAttempt_effect recording
  obtain ⟨rfl, rfl⟩ := completes_done ends
  refine ⟨driven, _, seen, attempt, audit, rfl, ?_, drives.widen ?_, records, ?_⟩
  · rw [append_nil, decisions_append, undecided, append_nil, decided]
  · exact fun entry mem => mem_append_left _ mem
  · rw [append_nil, written_append, wrote]

theorem repairBacklogItem_effect (asked : call.operation = .repairBacklogItem input)
    (ends : Completes (itemMapServer reference) commits call [] (repairBacklogItem input) log result) :
    Effect commits call log (.repaired result) (written log) := by
  unfold repairBacklogItem at ends
  split at ends
  · exact absurd ends not_completes_fail
  · rename_i instruction valid
    obtain ⟨driven, mapped, seen, attempt, audit, rfl, decided, drives, records, wrote⟩ :=
      runRepair_effect (fun _ none => by cases none) ends
    have effect : Effect commits call log _ ([] ++ (mapped ++ ([.attempt attempt, .audit audit] ++ []))) :=
      .repaired (by rw [asked]; rfl) valid drives decided records (fun _ none => by cases none)
        (fun _ none => by cases none)
    rwa [nil_append, append_nil, ← wrote] at effect

theorem markRepaired_effect {state : ResultState} {before after : RepairResult}
    (ends : Completes (itemMapServer reference) commits call own (markRepaired targetRef state before) log
      after) :
    after = before ∧ decisions log = [] ∧
      ∀ write ∈ written log, before.repair.outcome = .mapped ∧ write = .repaired targetRef call.now := by
  unfold markRepaired at ends
  split_ifs at ends with mapped
  · obtain ⟨done, seen, wrote, last, rfl, -, ran, logged, ends⟩ := query_then ends
    obtain ⟨rfl, rfl⟩ := completes_done ends
    obtain ⟨-, rfl⟩ := ok_inj ran
    refine ⟨rfl, rfl, fun write mem => ?_⟩
    rw [append_nil, logged.written] at mem
    split_ifs at mem
    · exact ⟨mapped.1, mem_singleton.1 mem⟩
    · cases mem
  · obtain ⟨rfl, rfl⟩ := completes_done ends
    exact ⟨rfl, rfl, fun _ none => by cases none⟩

theorem repairResult_effect {runId resultId : Uuid}
    (asked : call.operation = .repairResult input runId resultId)
    (ends : Completes (itemMapServer reference) commits call [] (repairResult input runId resultId) log
      result) : Effect commits call log (.repaired result) (written log) := by
  unfold repairResult at ends
  split at ends
  · exact absurd ends not_completes_fail
  · rename_i instruction valid
    obtain ⟨cur, seen₁, wrote₁, last, rfl, -, executed₁, logged₁, ends⟩ := query_then ends
    cases cur with
    | none => exact absurd ends not_completes_fail
    | some state =>
      have locks : ∀ write ∈ wrote₁, ∃ id, write = .lockResult id := by
        simp only [itemMapServer, exec] at executed₁
        split at executed₁
        · cases executed₁
        · cases executed₁
          exact fun write mem => ⟨_, mem_singleton.1 mem⟩
      rw [logged₁.written, nil_append] at ends
      obtain ⟨repaired, second, last, rfl, repairing, ends⟩ := completes_bind ends
      obtain ⟨driven, mapped, seen, attempt, audit, rfl, decided, drives, records, wrote⟩ :=
        runRepair_effect (fun write mem => by
          obtain ⟨id, rfl⟩ := locks write mem
          rfl) repairing
      obtain ⟨rfl, undecided, marks⟩ := markRepaired_effect ends
      rw [written_append, written_append, logged₁.written, wrote, append_assoc]
      refine .repaired (by rw [asked]; rfl) valid (drives.widen ?_) ?_ records locks ?_
      · exact fun entry mem => mem_append_right _ (mem_append_left _ mem)
      · rw [decisions_append, decisions_append, undecided, append_nil]
        exact decided
      · exact fun write mem => ⟨(marks write mem).1, rfl, (marks write mem).2⟩

theorem Operation.effect {body : Body}
    (ends : Completes (itemMapServer reference) commits call [] call.operation.program log body) :
    Effect commits call log body (written log) := by
  obtain ⟨now, op⟩ := call
  have still : ∀ write ∈ ([] : List Write), write.maps = false := fun _ none => by cases none
  cases op with
  | change tenantId edit =>
    obtain ⟨_, changing, rfl⟩ := completes_map ends
    obtain ⟨seen, wrote, rfl, -, went, logged⟩ := query_logged changing
    rw [logged.written]
    obtain ⟨write, rfl, calm, silent, -⟩ := change_ok reference went
    refine .quiet rfl rfl (fun _ => rfl) fun other mem => ?_
    rw [mem_singleton.1 mem]
    exact ⟨calm, silent⟩
  | suggest input =>
    obtain ⟨result, ran, rfl⟩ := completes_map ends
    obtain ⟨seen, -, -, ⟨row, rfl, wrote, -, entered⟩ | ⟨failed, nothing⟩⟩ := suggestOnClient_effect still ran
    · rw [wrote]
      exact .suggested rfl entered
    · rw [nothing]
      refine .quiet rfl rfl (fun works => ?_) fun _ none => by cases none
      rcases failed with rfl | rfl <;> cases works
  | confirm input =>
    obtain ⟨result, ran, rfl⟩ := completes_map ends
    obtain ⟨row, seen, rfl, same, wrote, -, holds⟩ | ⟨failed, nothing, -⟩ := confirmOnClient_effect still ran
    · rw [wrote]
      exact .moved (by simp [Body.moved]) rfl (congrArg some (congrArg (·, input.version) same.symm)) holds
    · rw [nothing]
      rcases failed with rfl | rfl <;>
        exact .quiet rfl rfl (fun works => by cases works) fun _ none => by cases none
  | retire input =>
    obtain ⟨result, ran, rfl⟩ := completes_map ends
    obtain ⟨row, seen, rfl, same, wrote, holds⟩ | ⟨failed, nothing⟩ := retireOnClient_effect still ran
    · rw [wrote]
      exact .moved (by simp [Body.moved]) rfl (congrArg some (congrArg (·, input.version) same.symm)) holds
    · rw [nothing]
      rcases failed with rfl | rfl <;>
        exact .quiet rfl rfl (fun works => by cases works) fun _ none => by cases none
  | repairBacklogItem input =>
    obtain ⟨result, ran, rfl⟩ := completes_map ends
    exact repairBacklogItem_effect rfl ran
  | repairResult input runId resultId =>
    obtain ⟨result, ran, rfl⟩ := completes_map ends
    exact repairResult_effect rfl ran

end Programs

end DataPulse.ItemMaps
