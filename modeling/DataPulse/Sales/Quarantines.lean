/-
**A quarantine that asks for a repair.**

The producer inserts its dead letter only next to no open one of the sale, and advances the status only
with it. What a quarantine ends with depends on what the history of the sale left open.

* `quarantine_ends`: a quarantine that asks for a repair ends, for a sale that is not synced, with an
  open needs-repair dead letter and the status `failed-needs-repair`, unless a retryable dead letter of
  the sale is open; next to an open one it writes nothing;
* `quarantine_kept_retryable`: next to a retryable one the sale is left without.
-/

import DataPulse.Lib.Solo
import DataPulse.Sales.Repairs

namespace DataPulse.Sales

open Lib Lib.Interleave Platform
open Inventory (TenantContext castUuid castUuid_of castOptional require)

/-- Every sale that waits for a repair says so, unless it is synced. -/
def SaysWhileWaiting (writes : List Write) : Prop :=
  ∀ row : Sale, .sale row ∈ writes → WaitsForRepair writes row.id →
    (row.after writes).syncStatus = .failedNeedsRepair ∨ (row.after writes).syncStatus = .synced

variable {reference : Reference} {config : Config}

section Runs

variable {before : List (Nat × List Write)}
variable {log : Log}

/-! ### A sale that a quarantine finds synced -/

theorem held_take (held : Held (salesServer reference) before log) (k : Nat) :
    Held (salesServer reference) (before.take k) log := by
  intro stmt seen reply writes answered first since second wrote
  obtain ⟨commit, mem, inside⟩ := mem_flatMap.1 since
  rw [List.drop_take] at mem
  exact held stmt seen reply writes answered first (mem_flatMap.2 ⟨commit, mem_of_mem_take mem, inside⟩)
    second wrote

/-- **A sale that a quarantine finds synced next to its dead letter is synced until it commits.** -/
theorem Reachable.still_synced (reach : Reachable reference config) {after : List (Nat × List Write)}
    (commits : config.commits = before ++ after) (held : Held (salesServer reference) before log)
    {row : Deadletter} {sale : Sale} (about : sale.id = row.saleId)
    (first : InsertedFirst before log row sale) : (sale.after (contents before)).syncStatus = .synced := by
  obtain ⟨values, added, found, order, within, answered, free, there, synced⟩ := first
  suffices each : ∀ k, found ≤ k → k ≤ before.length →
    (sale.after (contents (before.take k))).syncStatus = .synced by
    have last := each before.length within (Nat.le_refl _)
    rwa [take_length] at last
  intro k above
  induction k, above using Nat.le_induction with
  | base => exact fun _ => synced
  | succ k above ih =>
    intro short
    have still := ih (Nat.le_of_succ_le short)
    rcases commit : before[k] with ⟨pid, writes⟩
    have split : before = before.take k ++ (pid, writes) :: before.drop (k + 1) := by
      rw [← commit, ← List.drop_eq_getElem_cons short, take_append_drop]
    obtain ⟨proc, value, -, -, wrote, kept⟩ := Reachable.commit_of reach
      (show config.commits = before.take k ++ (pid, writes) :: (before.drop (k + 1) ++ after) by
        rw [commits, ← cons_append, ← append_assoc, ← split])
    have deed := kept.deed
    rw [← wrote] at deed
    rw [← List.take_append_getElem short, commit, contents_append, contents_cons, contents_nil, append_nil]
    -- the dead letter of the quarantine is locked by then, and none of the sale is open
    have apart : ∀ other, .deadletter other ∈ writes → other.saleId ≠ row.saleId := by
      intro other mem same
      have since : Write.deadletter other ∈ contents (before.drop added) := by
        refine mem_flatMap.2 ⟨(pid, writes), ?_, mem⟩
        rw [← commit]
        exact mem_of_getElem? (i := k - added) (by
          rw [List.getElem?_drop, Nat.add_sub_cancel' (order.trans above)]
          exact List.getElem?_eq_getElem short)
      have clear := apart_since held answered since mem_cons_self
      simp [clash, same] at clear
    have closed := closed_seen (held_take held k) answered
      (by rwa [List.take_take, Nat.min_eq_left (order.trans above)])
    cases deed with
    | idle => rwa [append_nil]
    | captured op capture => rwa [(captured_others sale.id).2 sale]
    | ended terminal =>
      rwa [after_more]
      intro write inside
      simp only [mem_cons, not_mem_nil, or_false] at inside
      rcases inside with rfl | rfl
      · exact fun none => by cases none
      · exact fun none => by cases none
    | @processed job other mismatchFlag event process unprocessed =>
      obtain ⟨-, own, others⟩ := @processed_sale (contents (before.take k)) other.id mismatchFlag
        proc.call.now event sale
      by_cases mine : sale.id = other.id
      · exact own mine
      · rwa [others mine]
    | quarantined quarantine same closed' advance unsynced =>
      refine (congrArg Sale.syncStatus (quarantined_others fun mine => ?_).2).trans still
      exact apart _ mem_cons_self (mine.symm.trans about)
    | overtaken quarantine same closed' overtaken order' => rwa [Sale.after_deadletter]
    | @repaired text other deadletter repair isOpen =>
      have others : sale.id ≠ other.id := by
        intro mine
        obtain ⟨seen, -, -, there', -⟩ := repair.resolved
        have shut := closed _ (mem_deadlettersOf.2 ⟨deadletter, contents_take there', rfl⟩)
          (Deadletter.after_saleId.trans (repair.about.trans (mine.symm.trans about)))
        rw [isOpen] at shut
        cases shut
      rwa [after_more]
      intro write inside
      simp only [mem_cons, not_mem_nil, or_false] at inside
      rcases inside with rfl | rfl
      · exact fun none => by cases none
      · exact fun mine => others (Option.some.inj mine).symm

/-! ### What a sale that waits says -/

/-- **A sale waits for the dead letter just inserted exactly when that needs a repair.** -/
theorem Quarantined.waits_iff {input : QuarantineInput} {deadletter : Deadletter} {writes : List Write}
    {status : SaleSyncStatus} (quarantine : Quarantined before input log deadletter)
    (closed : ∀ other ∈ deadlettersOf writes, other.saleId = deadletter.saleId → other.isOpen = false)
    (unresolved : ∀ other resolvedAt, .resolve deadletter.id other resolvedAt ∉ writes) :
    WaitsForRepair (writes ++ [.deadletter deadletter, .setStatus deadletter.saleId status]) deadletter.saleId ↔
      (classifySyncFailure input.condition).classification = .needsRepair := by
  have waits := @waits_of_inserted writes [.setStatus deadletter.saleId status] deadletter quarantine.isOpen
    (fun other resolvedAt => by simp [unresolved other resolvedAt]) (fun other => by simp) closed
  rwa [quarantine.classification] at waits

/-- A sale that a commit leaves as it was, with the same dead letters, says what it said. -/
theorem SaysWhileWaiting.kept {row : Sale} {writes : List Write} (agree : SaysWhileWaiting (contents before))
    (old : .sale row ∈ contents before)
    (iff : WaitsForRepair (contents before ++ writes) row.id ↔ WaitsForRepair (contents before) row.id)
    (same : row.after (contents before ++ writes) = row.after (contents before))
    (waits : WaitsForRepair (contents before ++ writes) row.id) :
    (row.after (contents before ++ writes)).syncStatus = .failedNeedsRepair ∨
      (row.after (contents before ++ writes)).syncStatus = .synced := by
  rw [same]
  exact agree row old (iff.1 waits)

/-- **A commit keeps what the waiting sales say.** -/
theorem Reachable.says_step (reach : Reachable reference config) {pid : Nat} {writes : List Write}
    {after : List (Nat × List Write)} (commits : config.commits = before ++ (pid, writes) :: after)
    (agree : SaysWhileWaiting (contents before)) : SaysWhileWaiting (contents before ++ writes) := by
  obtain ⟨proc, value, -, -, wrote, committed⟩ := Reachable.commit_of reach commits
  have deed := committed.deed
  rw [← wrote] at deed
  have anchored := reach.anchored commits
  have fresh := reach.fresh commits
  intro row mem
  cases deed with
  | idle =>
    rw [append_nil] at mem ⊢
    exact agree row mem
  | @captured input sale lines event op capture =>
    obtain ⟨waits, same⟩ := @captured_others sale lines event (contents before) row.id
    rcases mem_append.1 mem with old | new
    · exact agree.kept old waits (same row)
    · have one : row = sale := by simpa using new
      subst one
      rw [waits]
      refine fun waiting => absurd waiting (captured_idle anchored fun other there equal => ?_).1
      have apart := fresh _ there _ mem_cons_self
      simp [collide, equal] at apart
  | ended terminal =>
    refine agree.kept (by simpa using mem) (waitsForRepair_append (fun _ inside => by simp at inside)
      (fun id other resolvedAt inside => by simp at inside)) (after_more fun write inside => ?_)
    simp only [mem_cons, not_mem_nil, or_false] at inside
    rcases inside with rfl | rfl
    · exact fun none => by cases none
    · exact fun none => by cases none
  | @processed job other mismatchFlag event process unprocessed =>
    obtain ⟨waits, own, others⟩ :=
      @processed_sale (contents before) other.id mismatchFlag proc.call.now event row
    by_cases mine : row.id = other.id
    · exact fun _ => .inr (own mine)
    · exact agree.kept (by simpa using mem) waits (others mine)
  | @quarantined input deadletter sale quarantine about closed advance unsynced =>
    by_cases mine : row.id = deadletter.saleId
    · rw [mine, status_of_quarantined mine, quarantine.waits_iff closed, needsRepair_iff]
      · intro needs
        rw [QuarantineInput.target, needs]
        exact .inl rfl
      · intro other resolvedAt early
        obtain ⟨known, there, same, -⟩ := anchored.resolved _ _ _ early
        have apart := fresh _ there _ mem_cons_self
        simp [collide, same] at apart
    · obtain ⟨waits, same⟩ := @quarantined_others (contents before) _ input.target.status row mine
      exact agree.kept (by simpa using mem) waits same
  | @overtaken input deadletter sale quarantine about closed overtaken order =>
    have old : .sale row ∈ contents before := by simpa using mem
    by_cases mine : row.id = deadletter.saleId
    · obtain ⟨seen, early, -, there, -⟩ := overtaken
      obtain rfl := reach.one_sale (mem_ledger commits old) (mem_ledger commits (contents_take there))
        (mine.trans about.symm)
      refine fun _ => .inr ?_
      rw [Sale.after_deadletter]
      exact reach.still_synced commits committed.held about order
    · refine agree.kept old (waitsForRepair_append (fun other inside same => ?_)
        (fun id other resolvedAt inside => by simp at inside)) Sale.after_deadletter
      have one : other = deadletter := by simpa using inside
      rw [one] at same
      exact absurd same.symm mine
  | @repaired saleId sale deadletter repair isOpen =>
    obtain ⟨seen, -, -, there, -⟩ := repair.resolved
    have there := contents_take there
    have alone : ∀ other, .deadletter other ∈ contents before → other.id = deadletter.id → other = deadletter :=
      fun other known same => reach.one_deadletter (mem_ledger commits known) (mem_ledger commits there) same
    obtain ⟨own, others⟩ := @repaired_sale _ anchored _ _ proc.call.now there repair.about isOpen alone row
    by_cases mine : row.id = sale.id
    · exact fun waits => absurd waits (own mine).1
    · exact agree.kept (by simpa using mem) (others mine).1 (others mine).2

/-- **In every run, a sale with an open needs-repair dead letter says so, unless it is synced.** -/
theorem says_while_waiting (reach : Reachable reference config) : SaysWhileWaiting config.ledger := by
  refine prefix_induction (fun before => SaysWhileWaiting (contents before))
    (fun _ none => by cases none) (fun before commit after commits agree => ?_) config.commits []
    (append_nil _).symm
  rw [contents_append, contents_cons, contents_nil, append_nil]
  exact reach.says_step commits agree

end Runs

/-! ### A quarantine that asks for a repair -/

section Ends

variable {commits : List (Nat × List Write)} {call : Call}
variable {own : List Write}

/-- The sale is in the scope of the producer's input. -/
structure InScope (input : QuarantineInput) (sale : Sale) : Prop where
  saleId : Uuid.ofText input.saleId = some sale.id
  tenantId : Uuid.ofText input.tenantId = some sale.tenantId
  storeId : Uuid.ofText input.storeId = some sale.storeId

/-- The provenance of the input passes `assertInput`. -/
structure HasProvenance (input : QuarantineInput) : Prop where
  source : input.sourceSystem ≠ ""
  external : input.externalId ≠ ""
  correlation : ∀ id ∈ input.correlationId, Uuid.isUuid id = true

theorem condition_of_needsRepair {condition : SyncFailureCondition}
    (needs : (classifySyncFailure condition).classification = .needsRepair) :
    condition = .validationFailure := by
  cases condition
  case validationFailure => rfl
  all_goals cases needs

theorem does_newId (id : Uuid) : Does reference commits call own Prog.newId [] id :=
  ⟨[.drew id], alone_newId id, rfl⟩

theorem does_assertUuid {text message : String} {id : Uuid} (read : Uuid.ofText text = some id) :
    Does reference commits call own (assertUuid text message) [] () :=
  does_throwWhen (by simp [Uuid.isUuid, read])

theorem does_assertInput {input : QuarantineInput} {sale : Sale} (scope : InScope input sale)
    (provenance : HasProvenance input) : Does reference commits call [] input.assertInput [] () :=
  does_bind (does_assertUuid scope.saleId) (does_bind (does_assertUuid scope.tenantId)
    (does_bind (does_assertUuid scope.storeId) (does_bind (does_throwWhen (decide_eq_false provenance.source))
        (does_bind (does_throwWhen (decide_eq_false provenance.external)) (does_throwWhen (by
          cases given : input.correlationId with
          | none => rfl
          | some id => simp [provenance.correlation id given]))))))

theorem inScope_found {input : QuarantineInput} {row : Sale} {writes more : List Write} {now : Int}
    (scope : InScope input (row.after writes)) (there : .sale row ∈ writes) :
    ∃ found, saleInScope ⟨Uuid.ofText input.tenantId, now⟩ (writes ++ more) row.id row.storeId =
      some found := by
  by_contra missing
  have absent := Option.eq_none_iff_forall_ne_some.2 (not_exists.1 missing)
  refine saleInScope_none absent (mem_append_left _ there) rfl rfl ?_
  rw [scope.tenantId, Sale.after_tenantId]

theorem insertDeadletter_taken {context : TenantContext} {writes : List Write} {values : DeadletterValues}
    {row : Deadletter} (read : values.row context = .ok row) (tenant : some row.tenantId = context.tenant)
    (reason : trimBy (· = ' ') row.reasonCode.toList ≠ [])
    (fresh : ∀ other, .deadletter other ∈ writes → other.id ≠ row.id)
    (sale : hasSale writes row.saleId row.tenantId row.storeId = true) :
    ∃ reply wrote, insertDeadletter context writes values = .ok (reply, wrote) := by
  have ids : ((insertedDeadletters writes).all fun other => other.id ≠ row.id) = true :=
    all_eq_true.2 fun other mem =>
      decide_eq_true (fresh other (mem_insertedDeadletters.1 mem))
  unfold insertDeadletter
  simp only [read, tenant, reason, ids, sale, ok_bind, require, decide_true, ne_eq, not_false_eq_true, if_true]
  split
  · exact ⟨_, _, rfl⟩
  · exact ⟨_, _, rfl⟩

theorem advanceStatus_answers {context : TenantContext} {writes : List Write} {saleId storeId : String}
    {status : SaleSyncFailureStatus} {sale store : Uuid} (saleCast : castUuid saleId = .ok sale)
    (storeCast : castUuid storeId = .ok store) :
    ∃ reply wrote, exec reference context writes (.advanceStatus saleId storeId status) =
      .ok (reply, wrote) := by
  simp only [exec, saleCast, storeCast, ok_bind]
  split
  · exact ⟨_, _, rfl⟩
  · exact ⟨_, _, rfl⟩

/-- **A quarantine that asks for a repair completes, while a fresh identifier can be drawn.** -/
theorem quarantine_completes {now : Int} {input : QuarantineInput} {row : Sale}
    (there : .sale row ∈ contents commits) (scope : InScope input (row.after (contents commits)))
    (provenance : HasProvenance input)
    (needs : (classifySyncFailure input.condition).classification = .needsRepair) {id : Uuid}
    (fresh : ∀ other, .deadletter other ∈ contents commits → other.id ≠ id) :
    ∃ writes result, Does reference commits ⟨now, .quarantine input⟩ [] input.quarantine writes result := by
  have saleText : Uuid.ofText input.saleId = some row.id := by rw [scope.saleId, Sale.after_id]
  have storeText : Uuid.ofText input.storeId = some row.storeId := by
    rw [scope.storeId, Sale.after_storeId]
  have tenantText : Uuid.ofText input.tenantId = some row.tenantId := by
    rw [scope.tenantId, Sale.after_tenantId]
  have saleCast := castUuid_of saleText
  have storeCast := castUuid_of storeText
  have tenantCast := castUuid_of tenantText
  have tenant : Uuid.isUuid input.tenantId = true := by simp [Uuid.isUuid, tenantText]
  obtain ⟨sale, found⟩ := @inScope_found input row (contents commits) [] now scope there
  have selects : exec reference (Call.context ⟨now, .quarantine input⟩) (contents commits ++ [])
      (.selectSale input.saleId input.storeId) = .ok (some sale, []) := by
    simp only [exec, saleCast, storeCast, ok_bind]
    exact congrArg Except.ok (Prod.ext found rfl)
  have requires : Does reference commits ⟨now, .quarantine input⟩ [] (requireSale input.saleId input.storeId
    .quarantineNotFound) ([] ++ []) () := does_bind (does_query selects) (does_throwWhen rfl)
  obtain ⟨correlation, correlationCast⟩ : ∃ correlation, castOptional input.correlationId = .ok correlation := by
    cases given : input.correlationId with
    | none => exact ⟨none, rfl⟩
    | some text =>
      obtain ⟨parsed, read⟩ := isSome_iff_exists.1 (provenance.correlation text given)
      exact ⟨some parsed, by rw [castOptional, castUuid_of read]; rfl⟩
  obtain ⟨reply, wrote, inserts⟩ := @insertDeadletter_taken (Call.context ⟨now, .quarantine input⟩)
    (contents commits ++ [])
    ⟨id, input.saleId, input.tenantId, input.storeId, (classifySyncFailure input.condition).classification,
      (classifySyncFailure input.condition).reasonCode, input.sourceSystem, input.externalId,
      input.correlationId⟩
    ⟨id, row.id, row.tenantId, row.storeId, (classifySyncFailure input.condition).classification,
      (classifySyncFailure input.condition).reasonCode, input.sourceSystem, input.externalId,
      correlation, 0, now, none⟩
    (by simp only [DeadletterValues.row, saleCast, tenantCast, storeCast, correlationCast, ok_bind]; rfl)
    tenantText.symm
    (by show trimBy (· = ' ') (classifySyncFailure input.condition).reasonCode.toList ≠ []
        rw [condition_of_needsRepair needs]
        decide)
    (by rwa [append_nil])
    (List.any_eq_true.2 ⟨row, mem_insertedSales.2 (mem_append_left _ there), by simp⟩)
  have inserting : Does reference commits ⟨now, .quarantine input⟩ []
      (input.insertDeadletter (classifySyncFailure input.condition)) ([] ++ (wrote ++ []))
      (Option.isSome reply) :=
    does_bind (does_newId id) (does_bind (does_query inserts) (does_done _))
  unfold QuarantineInput.quarantine runWithTenantContext
  rw [if_pos tenant]
  cases reply with
  | none =>
    exact ⟨_, _, does_bind (does_assertInput scope provenance) (does_bind requires (does_bind inserting
      (does_bind (does_done false) (does_done _))))⟩
  | some added =>
    obtain ⟨updated, set, ran⟩ := @advanceStatus_answers reference
      (Call.context ⟨now, .quarantine input⟩) (contents commits ++ ([] ++ ([] ++ (wrote ++ []))))
      _ _ (classifySyncFailure input.condition).syncStatus _ _ saleCast storeCast
    exact ⟨_, _, does_bind (does_assertInput scope provenance) (does_bind requires (does_bind inserting
      (does_bind (does_bind (does_query ran) (does_done _)) (does_done _))))⟩

end Ends

/-! ### The main result -/

/-- **Next to an open dead letter of its sale, a quarantine writes nothing.** -/
theorem quarantine_beside_open {commits : List (Nat × List Write)} {call : Call} {input : QuarantineInput}
    {log : Log} {result : QuarantineResult} {saleId : Uuid}
    (alone : Alone (salesServer reference) commits call [] input.quarantine log result)
    (about : Uuid.ofText input.saleId = some saleId)
    (opened : ∃ other ∈ deadlettersOf (contents commits), other.saleId = saleId ∧ other.isOpen = true) :
    written log = [] := by
  obtain ⟨nothing, -⟩ | ⟨deadletter, sale, quarantine, -⟩ := quarantine_effect alone.toCompletes alone.ordered
  · exact nothing
  · obtain ⟨other, among, mine, isOpen⟩ := opened
    obtain ⟨values, seen, -, answered, free⟩ := quarantine.inserted
    rw [alone.now seen (mem_seens answered), take_length] at free
    have same := mem_unique about quarantine.sale
    rw [free other among (mine.trans same)] at isOpen
    cases isOpen

/-- The sale has an open dead letter that asks for a repair, and says so. -/
def AwaitsRepair (writes : List Write) (saleId : Uuid) : Prop :=
  WaitsForRepair writes saleId ∧
    ∃ sale ∈ salesOf writes, sale.id = saleId ∧ sale.syncStatus = .failedNeedsRepair

/-- **What a quarantine that asks for a repair ends with, after any history of an unsynced sale.** -/
theorem quarantine_ends (reachable : Reachable reference config) {now : Int} {input : QuarantineInput}
    {sale : Sale} (known : sale ∈ salesOf config.ledger) (unsynced : sale.syncStatus ≠ .synced)
    (scope : InScope input sale) (provenance : HasProvenance input)
    (needs : (classifySyncFailure input.condition).classification = .needsRepair) :
    ((∃ id, ∀ other ∈ deadlettersOf config.ledger, other.id ≠ id) →
        ∃ log result, Alone (salesServer reference) config.commits ⟨now, .quarantine input⟩ []
        input.quarantine log result) ∧
      ∀ log result,
      Alone (salesServer reference) config.commits ⟨now, .quarantine input⟩ [] input.quarantine log result →
      ((∀ other ∈ deadlettersOf config.ledger, other.saleId = sale.id → other.isOpen = true →
          other.classification = .needsRepair) → AwaitsRepair (config.ledger ++ written log) sale.id) ∧
      ((∃ other ∈ deadlettersOf config.ledger, other.saleId = sale.id ∧ other.isOpen = true) →
        written log = []) := by
  obtain ⟨row, there, rfl⟩ := mem_salesOf.1 known
  rw [Sale.after_id]
  constructor
  · rintro ⟨id, fresh⟩
    obtain ⟨writes, result, log, alone, -⟩ := @quarantine_completes reference config.commits now input
      row there scope provenance needs id fun other mem same =>
        fresh _ (mem_deadlettersOf.2 ⟨other, mem, rfl⟩) (Deadletter.after_id.trans same)
    exact ⟨log, result, alone⟩
  intro log result alone
  have target : input.target = .failedNeedsRepair := (needsRepair_iff input.condition).1 needs
  have id : Uuid.ofText input.saleId = some row.id := by rw [scope.saleId, Sale.after_id]
  have still : ∀ more : List Write, .sale row ∈ config.ledger ++ more := fun more => mem_append_left _ there
  refine ⟨fun needing => ?_, fun opened => quarantine_beside_open alone id opened⟩
  obtain ⟨nothing, seen, mem, other, among, about, isOpen⟩ |
    ⟨deadletter, found, quarantine, same, outcome⟩ := quarantine_effect alone.toCompletes alone.ordered
  · -- a dead letter is open: what the history left stays
    rw [alone.now seen mem, take_length] at among
    have mine : other.saleId = row.id := mem_unique about id
    rw [nothing, append_nil]
    have waits : WaitsForRepair config.ledger row.id :=
      ⟨other, among, mine, needing other among mine isOpen, isOpen⟩
    have status := (says_while_waiting reachable row there waits).resolve_right unsynced
    exact ⟨waits, _, known, Sale.after_id, status⟩
  · -- none is open: the producer inserts one, and advances the status with it
    have mine : row.id = deadletter.saleId := mem_unique id quarantine.sale
    obtain ⟨values, seen, -, answered, free⟩ := quarantine.inserted
    rw [alone.now seen (mem_seens answered), take_length] at free
    have unresolved : ∀ other resolvedAt, .resolve deadletter.id other resolvedAt ∉ config.ledger := by
      intro other resolvedAt inside
      obtain ⟨before, ran⟩ := alone.answered answered
      obtain ⟨added, -, -, ⟨reply, -, -, fresh, -⟩ | ⟨reply, -, -⟩⟩ := insertDeadletter_ok ran
      · obtain ⟨letter, known, same, -⟩ := (reachable.anchored (append_nil _).symm).resolved _ _ _ inside
        exact fresh letter (mem_append_left _ known) (same.trans (Option.some.inj reply))
      · cases reply
    rcases outcome with ⟨wrote, advance⟩ | ⟨wrote, -, order⟩
    · rw [wrote, target]
      refine ⟨?_, _, mem_salesOf.2 ⟨row, still _, rfl⟩, Sale.after_id, status_of_quarantined mine⟩
      rw [mine]
      exact (quarantine.waits_iff free unresolved).2 needs
    · -- the sale is not synced, and the UPDATE finds it so
      have synced := reachable.still_synced (append_nil _).symm alone.held same order
      obtain ⟨-, -, seen', -, early, -, -, there', -⟩ := order
      obtain rfl := reachable.one_sale there (contents_take there') (mine.trans same.symm)
      exact absurd synced unsynced

/-- What a run may look like before the further quarantine: the sale is not synced, and its dead letters are
as given. -/
def isUnsynced (letters : List DeadLetterClassification) (config : Config) : Bool :=
  ((salesOf config.ledger).any fun sale => sale.id = sample 3 && sale.tenantId = sample 0 &&
      sale.storeId = sample 1 && decide (sale.syncStatus ≠ .synced)) &&
    decide ((deadlettersOf config.ledger).map (fun row => (row.id, row.saleId, row.isOpen,
      row.classification)) = letters.map fun letter => (sample 6, sample 3, true, letter))

theorem isUnsynced_sale {letters : List DeadLetterClassification} {config : Config}
    (holds : isUnsynced letters config = true) :
    (∃ sale ∈ salesOf config.ledger, sale.syncStatus ≠ .synced ∧ sale.id = sample 3 ∧
        InScope (sampleQuarantine .validationFailure) sale) ∧
      (∃ id, ∀ other ∈ deadlettersOf config.ledger, other.id ≠ id) := by
  obtain ⟨found, same⟩ := (and_eq_true _ _).mp holds
  obtain ⟨sale, known, holds⟩ := List.any_eq_true.1 found
  simp only [and_eq_true, decide_eq_true_eq] at holds
  obtain ⟨⟨⟨id, tenant⟩, store⟩, unsynced⟩ := holds
  refine ⟨⟨sale, known, unsynced, id, ?_, ?_, ?_⟩, sample 7, fun other mem seven => ?_⟩
  · rw [id]
    exact Uuid.ofText_text _
  · rw [tenant]
    exact Uuid.ofText_text _
  · rw [store]
    exact Uuid.ofText_text _
  · have among :=
      mem_map_of_mem (f := fun row : Deadletter => (row.id, row.saleId, row.isOpen, row.classification)) mem
    rw [of_decide_eq_true same] at among
    obtain ⟨letter, -, same⟩ := mem_map.1 among
    have six : sample 6 = sample 7 := (congrArg Prod.fst same).trans seven
    exact absurd six (by decide)

theorem sampleQuarantine_provenance : HasProvenance (sampleQuarantine .validationFailure) :=
  ⟨by decide, by decide, fun _ none => by cases none⟩

theorem quarantineRuns :
    (run (salesServer sampleReference) (captureEvents ++ quarantineEvents .transient)).any
      (isUnsynced [.retryable]) = true ∧
      (run (salesServer sampleReference) (captureEvents ++ quarantineEvents .validationFailure)).any
      (isUnsynced [.needsRepair]) = true := by
  decide +kernel

/-- **Next to an open retryable dead letter, a quarantine that asks for a repair leaves the sale
without.** -/
theorem quarantine_kept_retryable :
    ¬
      ∀ (reference : Reference) (config : Config) (now : Int) (input : QuarantineInput) (sale : Sale),
      Reachable reference config → sale ∈ salesOf config.ledger → sale.syncStatus ≠ .synced →
      InScope input sale → HasProvenance input →
      (classifySyncFailure input.condition).classification = .needsRepair →
      ∀ log result, Alone (salesServer reference) config.commits ⟨now, .quarantine input⟩ [] input.quarantine
      log result → AwaitsRepair (config.ledger ++ written log) sale.id := by
  intro claimed
  have ran := quarantineRuns.1
  obtain ⟨config, ran, observed⟩ := (any_eq_true _ _).1 ran
  obtain ⟨⟨sale, known, unsynced, id, scope⟩, fresh, isFresh⟩ := isUnsynced_sale observed
  have letters := of_decide_eq_true ((and_eq_true _ _).mp observed).2
  obtain ⟨row, there, rfl⟩ := mem_salesOf.1 known
  obtain ⟨writes, result, log, alone, -⟩ := @quarantine_completes sampleReference config.commits 3
    (sampleQuarantine .validationFailure) row there scope sampleQuarantine_provenance rfl fresh
    fun other mem same => isFresh _ (mem_deadlettersOf.2 ⟨other, mem, rfl⟩) (Deadletter.after_id.trans same)
  obtain ⟨waits, -⟩ := claimed sampleReference config 3 (sampleQuarantine .validationFailure) _
    (run_reachable _ ran) known unsynced scope sampleQuarantine_provenance rfl log result alone
  have each : ∀ other ∈ deadlettersOf config.ledger, (other.saleId, other.isOpen, other.classification) =
      (sample 3, true, .retryable) := by
    intro other mem
    have among :=
      mem_map_of_mem (f := fun row : Deadletter => (row.id, row.saleId, row.isOpen, row.classification)) mem
    rw [letters] at among
    exact congrArg Prod.snd (mem_singleton.1 among)
  obtain ⟨other, among⟩ : ∃ other, other ∈ deadlettersOf config.ledger := by
    refine exists_mem_of_ne_nil _ fun none => ?_
    rw [none] at letters
    cases letters
  have seen := each other among
  rw [quarantine_beside_open alone scope.saleId ⟨other, among, (congrArg Prod.fst seen).trans id.symm,
    congrArg (fun letter => letter.2.1) seen⟩, append_nil] at waits
  obtain ⟨letter, mem, -, needs, -⟩ := waits
  have retryable := congrArg (fun letter => letter.2.2) (each letter mem)
  rw [show letter.classification = .needsRepair from needs] at retryable
  cases retryable

theorem quarantine_ends_sample :
    ∃ config sale, run (salesServer sampleReference) (captureEvents ++ quarantineEvents .validationFailure) =
      some config ∧ sale ∈ salesOf config.ledger ∧
      ∃ log result, Alone (salesServer sampleReference) config.commits
      ⟨3, .quarantine (sampleQuarantine .validationFailure)⟩ []
      (sampleQuarantine .validationFailure).quarantine log result ∧
      AwaitsRepair (config.ledger ++ written log) sale.id := by
  have ran := quarantineRuns.2
  obtain ⟨config, ran, seen⟩ := (any_eq_true _ _).1 ran
  obtain ⟨⟨sale, known, unsynced, id, scope⟩, fresh⟩ := isUnsynced_sale seen
  obtain ⟨goes, ends⟩ := @quarantine_ends sampleReference config (run_reachable _ ran) 3
    (sampleQuarantine .validationFailure) sale known unsynced scope sampleQuarantine_provenance rfl
  obtain ⟨log, result, alone⟩ := goes fresh
  refine ⟨config, sale, ran, known, log, result, alone, (ends log result alone).1 ?_⟩
  intro other mem _ _
  have among :=
    mem_map_of_mem (f := fun row : Deadletter => (row.id, row.saleId, row.isOpen, row.classification)) mem
  rw [of_decide_eq_true ((and_eq_true _ _).mp seen).2] at among
  exact congrArg (fun letter => letter.2.2.2) (mem_singleton.1 among)

end DataPulse.Sales
