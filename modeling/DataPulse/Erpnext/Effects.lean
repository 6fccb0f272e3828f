/-
**What a committed call did to the posting rows.**

* `PostingStatus.after_untouched`: a posting that no UPDATE is about stays as it is;
  `PostingStatus.after_frozen`: an UPDATE keeps what identifies it.
-/

import DataPulse.Erpnext.Service
import DataPulse.Lib.Logs

namespace DataPulse.Erpnext

open Lib Lib.Interleave Platform
open Inventory (TenantContext require_ok)

/-! ### Rows of the tables -/

variable {writes more : List Write} {row : PostingStatus} {write : Write} {context : TenantContext}
  {id : Uuid}

@[simp] theorem mem_factsOf {fact : Fact} : fact ∈ factsOf writes ↔ .fact fact ∈ writes :=
  mem_picked fun write row => by cases write <;> simp

@[simp] theorem mem_insertedPostings : row ∈ insertedPostings writes ↔ .posting row ∈ writes :=
  mem_picked fun write row => by cases write <;> simp

theorem mem_salesOf {row : SaleFact} : row ∈ salesOf writes ↔ .fact (.sale row) ∈ writes := by
  simp only [salesOf, mem_filterMap, mem_factsOf]
  constructor
  · rintro ⟨fact, mem, same⟩
    cases fact <;> cases same
    exact mem
  · exact fun mem => ⟨_, mem, rfl⟩

theorem mem_postingsOf : row ∈ postingsOf writes ↔ ∃ added, .posting added ∈ writes ∧ added.after writes =
    row := by
  simp only [postingsOf, mem_map, mem_insertedPostings]

@[simp] theorem insertedPostings_append :
    insertedPostings (writes ++ more) = insertedPostings writes ++ insertedPostings more :=
  filterMap_append

namespace PostingStatus

@[simp] theorem after_nil : row.after [] = row := rfl

theorem after_append : row.after (writes ++ more) = (row.after writes).after more :=
  foldl_append

def sameRow (first second : PostingStatus) : Prop :=
  first.id = second.id ∧ first.tenantId = second.tenantId ∧ first.saleId = second.saleId ∧
    first.storeId = second.storeId ∧ first.sourceRefId = second.sourceRefId ∧
    first.kind = second.kind ∧ first.sourceSystem = second.sourceSystem ∧
    first.externalId = second.externalId ∧ first.payloadHash = second.payloadHash

theorem apply_frozen (row : PostingStatus) (write : Write) : (row.apply write).sameRow row := by
  unfold apply set
  split_ifs
  · split <;> exact ⟨rfl, rfl, rfl, rfl, rfl, rfl, rfl, rfl, rfl⟩
  · exact ⟨rfl, rfl, rfl, rfl, rfl, rfl, rfl, rfl, rfl⟩

/-- **An UPDATE keeps what identifies a posting.** -/
theorem after_frozen (writes : List Write) (row : PostingStatus) : (row.after writes).sameRow row := by
  induction writes generalizing row with
  | nil => exact ⟨rfl, rfl, rfl, rfl, rfl, rfl, rfl, rfl, rfl⟩
  | cons write rest ih =>
    obtain ⟨id, tenant, sale, store, ref, kind, source, external, hash⟩ := apply_frozen row write
    obtain ⟨id', tenant', sale', store', ref', kind', source', external', hash'⟩ := ih (row.apply write)
    exact ⟨id'.trans id, tenant'.trans tenant, sale'.trans sale, store'.trans store, ref'.trans ref,
      kind'.trans kind, source'.trans source, external'.trans external, hash'.trans hash⟩

@[simp] theorem after_id : (row.after writes).id = row.id := (after_frozen writes row).1

@[simp] theorem after_tenantId : (row.after writes).tenantId = row.tenantId :=
  (after_frozen writes row).2.1

@[simp] theorem after_saleId : (row.after writes).saleId = row.saleId :=
  (after_frozen writes row).2.2.1

@[simp] theorem after_sourceRefId : (row.after writes).sourceRefId = row.sourceRefId :=
  (after_frozen writes row).2.2.2.2.1

theorem apply_untouched (other : write.updated ≠ some row.id) : row.apply write = row := if_neg other

theorem apply_updated (about : write.updated = some row.id) : row.apply write = row.set write :=
  if_pos about

/-- **A posting that no UPDATE is about stays as it is.** -/
theorem after_untouched (others : ∀ write ∈ writes, write.updated ≠ some row.id) : row.after writes = row := by
  induction writes generalizing row with
  | nil => rfl
  | cons write rest ih =>
    show (row.apply write).after rest = row
    rw [apply_untouched (others write mem_cons_self)]
    exact ih fun write mem => others write (mem_cons_of_mem _ mem)

end PostingStatus

/-! ### Statements -/

variable {values : PostingValues}

section Statements

variable {wrote : List Write}

theorem visiblePosting_some {row : PostingStatus} (found : visiblePosting context writes id = some row) :
    ∃ added, .posting added ∈ writes ∧ added.after writes = row ∧ added.id = id ∧
      some added.tenantId = context.tenant := by
  have holds := find?_some found
  simp only [and_eq_true, decide_eq_true_eq] at holds
  obtain ⟨added, mem, rfl⟩ := mem_postingsOf.1 (mem_of_find?_eq_some found)
  simp only [PostingStatus.after_id, PostingStatus.after_tenantId] at holds
  exact ⟨added, mem, rfl, holds.1, holds.2⟩

theorem lockPosting_ok (users : Uuid → Bool) {reply : Option PostingStatus}
    (ran : exec users context writes (.lockPosting id) = .ok (reply, wrote)) :
    (reply = none ∧ wrote = []) ∨
      ∃ row, .posting row ∈ writes ∧ row.id = id ∧ reply = some (row.after writes) ∧ wrote = [.lock id] := by
  simp only [exec] at ran
  split at ran
  · cases ran
    exact .inl ⟨rfl, rfl⟩
  · rename_i row found
    cases ran
    obtain ⟨added, mem, rfl, same, -⟩ := visiblePosting_some found
    exact .inr ⟨added, mem, same, rfl, rfl⟩

theorem updatePosting_ok {write : Write} {reply : Option Int}
    (ran : updatePosting context writes id write = .ok (reply, wrote)) :
    (reply = none ∧ wrote = []) ∨ (reply = some context.now ∧ wrote = [write]) := by
  unfold updatePosting at ran
  split at ran
  · cases ran
    exact .inl ⟨rfl, rfl⟩
  · obtain ⟨-, -, ran⟩ := bind_ok ran
    cases ran
    exact .inr ⟨rfl, rfl⟩

/-- A posting that the consumer creates. -/
structure PostingStatus.Created (row : PostingStatus) : Prop where
  undocumented : row.documentRef = none
  unposted : row.status = .pending ∧ row.rejectionCategory = none ∨
    row.status = .permanentlyRejected ∧ row.rejectionCategory.isSome = true
  untried : row.retryCount = 0

theorem insertPosting_ok {reply : Option Uuid}
    (ran : insertPosting context writes values = .ok (reply, wrote)) :
    (wrote = [] ∧
        ∀ sale ∈ salesOf writes, sale.id = values.saleId → sale.storeId = values.storeId →
        some sale.tenantId ≠ context.tenant) ∨
      (wrote = [] ∧
          ∃ other, .posting other ∈ writes ∧ other.tenantId = values.tenantId ∧
          other.sourceRefId = values.sourceRefId) ∨
      ∃ sale ∈ salesOf writes, sale.id = values.saleId ∧ some sale.tenantId = context.tenant ∧
      some values.tenantId = context.tenant ∧ wrote = [.posting (values.row context sale)] ∧
      ∀ other, .posting other ∈ writes →
      collide (.posting other) (.posting (values.row context sale)) = false := by
  unfold insertPosting at ran
  split at ran
  · rename_i missing
    cases ran
    refine .inl ⟨rfl, fun sale mem id store tenant => ?_⟩
    have absent := find?_eq_none.1 missing sale mem
    simp [id, store, tenant] at absent
  rename_i sale found
  have sold := find?_some found
  simp only [and_eq_true, decide_eq_true_eq] at sold
  obtain ⟨_, secured, ran⟩ := bind_ok ran
  obtain ⟨-, -, ran⟩ := bind_ok₂ ran
  split_ifs at ran with taken
  · cases ran
    obtain ⟨other, mem, same⟩ := List.any_eq_true.1 taken
    obtain ⟨tenant, source⟩ := and_eq_true_iff.1 same
    exact .inr (.inl ⟨rfl, other, mem_insertedPostings.1 mem, (of_decide_eq_true tenant).symm,
      (of_decide_eq_true source).symm⟩)
  · obtain ⟨_, fresh, ran⟩ := bind_ok ran
    cases ran
    refine .inr (.inr ⟨sale, mem_of_find?_eq_some found, sold.1.1, sold.2,
      of_decide_eq_true (require_ok secured), rfl, fun other mem => ?_⟩)
    have fresh := all_eq_true.1 (require_ok fresh) other (mem_insertedPostings.2 mem)
    have apart : ¬ (values.row context sale).sameSource other = true := fun same =>
      taken (List.any_eq_true.2 ⟨other, mem_insertedPostings.2 mem, same⟩)
    have comm : other.sameSource (values.row context sale) = (values.row context sale).sameSource other := by
      simp only [PostingStatus.sameSource, eq_comm]
    simp only [ne_eq, decide_eq_true_eq] at fresh
    simp [collide, fresh, comm, apart]

end Statements

/-! ### Programs -/

section Programs

variable {users : Uuid → Bool} {commits : List (Nat × List Write)} {call : Call} {own : List Write}
  {log : Log}
variable {outcome : RecordedOutcome} {input : AckOutcomeInput} {result : RepairResult}
  {workItemRef : Uuid}
variable {sequence : Nat} {wider : Log} {time : Int}

/-- The posting that the write puts at a place of the feed, and the place. -/
def Write.heads : Write → Option (Uuid × Nat)
  | .posting row => some (row.id, row.sequence)
  | .reoffer id sequence _ => some (id, sequence)
  | .requeue id sequence _ _ => some (id, sequence)
  | _ => none

def Write.Plain (write : Write) : Prop := write.updated = none ∧ ∀ row, write ≠ .posting row

theorem Write.Plain.heads_none (plain : write.Plain) : write.heads = none := by
  cases write with
  | posting row => exact absurd rfl (plain.2 row)
  | reoffer id sequence time | requeue id sequence retryCount time => cases plain.1
  | _ => rfl

def Drew (log : Log) (sequence : Nat) : Prop :=
  ∃ number, sequence = number + 1 ∧ Fresh.sequence number ∈ drawn log

theorem Drew.widen (drew : Drew log sequence) (inside : ∀ fresh ∈ drawn log, fresh ∈ drawn wider) :
    Drew wider sequence := by
  obtain ⟨number, same, mem⟩ := drew
  exact ⟨number, same, inside _ mem⟩

theorem newUuid_completes (ends : Completes (erpnextServer users) commits call own newUuid log id) :
    log = [.drew (.uuid id)] := by
  obtain ⟨fresh, rest, rfl, ran⟩ := draw_completes ends
  cases fresh with
  | uuid id' =>
    obtain ⟨rfl, rfl⟩ := completes_done ran
    rfl
  | sequence number => exact absurd ran not_completes_fail

theorem nextSequence_completes
    (ends : Completes (erpnextServer users) commits call own nextSequence log sequence) :
    ∃ number, log = [.drew (.sequence number)] ∧ sequence = number + 1 := by
  obtain ⟨fresh, rest, rfl, ran⟩ := draw_completes ends
  cases fresh with
  | sequence number =>
    obtain ⟨rfl, rfl⟩ := completes_done ran
    exact ⟨number, rfl, rfl⟩
  | uuid id => exact absurd ran not_completes_fail

theorem updatedAt_completes {found : Option Int}
    (ends : Completes (erpnextServer users) commits call own (updatedAt found) log time) :
    log = [] ∧ found = some time := by
  cases found with
  | none => exact absurd ends not_completes_fail
  | some time' =>
    obtain ⟨rfl, rfl⟩ := completes_done ends
    exact ⟨rfl, rfl⟩

/-! #### The consumer -/

theorem resolveEligibility_reads (saleId storeId : Uuid) :
    WritesOnly (erpnextServer users) (fun _ => False) (resolveEligibility saleId storeId) := by
  refine writesOnly_bind (writesOnly_query ?_) fun warehouses => ?_
  · rintro call seen reply writes ran
    cases ran
    exact fun _ none => by cases none
  · show WritesOnly _ _ (if _ then _ else _)
    split_ifs
    · exact writesOnly_done _
    · refine writesOnly_bind (writesOnly_query ?_) fun unmapped => ?_
      · rintro call seen reply writes ran
        cases ran
        exact fun _ none => by cases none
      · show WritesOnly _ _ (if _ then _ else _)
        split_ifs
        · exact writesOnly_done _
        · exact writesOnly_done _

theorem PostingValues.row_created {verdict : Verdict} (status : values.status = verdict.status)
    (category : values.rejectionCategory = verdict.rejectionCategory) (sale : SaleFact) :
    (values.row context sale).Created := by
  refine ⟨rfl, ?_, rfl⟩
  show values.status = _ ∧ values.rejectionCategory = _ ∨
    values.status = _ ∧ values.rejectionCategory.isSome = true
  rw [status, category]
  cases verdict with
  | pending => exact .inl ⟨rfl, rfl⟩
  | permanentlyRejected rejectionCategory => exact .inr ⟨rfl, rfl⟩

/-- **What the consumer did: its one INSERT.** -/
theorem project_effect {event : PostingRequestedEvent} {payload : PostingRequestedPayload} {done : Unit}
    (ends : Completes (erpnextServer users) commits call own (event.project payload) log done) :
    ∃ values seen reply, seen ≤ commits.length ∧ seen ∈ seens log ∧ values.tenantId = event.tenantId ∧
      values.storeId = payload.storeId ∧ values.saleId = payload.saleId ∧
      values.sourceRefId = payload.sourceRefId ∧ (∀ sale, (values.row call.context sale).Created) ∧
      Drew log values.sequence ∧
      insertPosting call.context (contents (commits.take seen) ++ own) values = .ok (reply, written log) := by
  obtain ⟨verdict, log₁, rest₁, rfl, resolving, ends⟩ := completes_bind ends
  obtain ⟨id, log₂, rest₂, rfl, drawing, ends⟩ := completes_bind ends
  obtain ⟨sequence, log₃, rest₃, rfl, drawing', ends⟩ := completes_bind ends
  obtain ⟨reply, inserting, -⟩ := completes_map ends
  have nothing := (resolveEligibility_reads _ _).nothing resolving
  obtain rfl := newUuid_completes drawing
  obtain ⟨number, rfl, place⟩ := nextSequence_completes drawing'
  obtain ⟨seen, writes, rfl, early, ran, logged⟩ := query_logged inserting
  have unwritten : ∀ fresh : Fresh,
      written [(Entry.drew fresh : Entry Stmt Reply Fresh PgError Write)] = [] := fun _ => rfl
  simp only [nothing, unwritten, append_nil] at ran
  refine ⟨⟨id, event.tenantId, payload.storeId, payload.saleId, payload.kind, payload.sourceRefId,
    verdict.status, verdict.rejectionCategory, event.correlationId, sequence⟩, seen, reply, early, ?_,
    rfl, rfl, rfl, rfl, fun sale => ?_, ⟨number, place, ?_⟩, ?_⟩
  · simp [seens, Entry.seen]
  · exact PostingValues.row_created (rfl : _ = verdict.status) rfl sale
  · simp [drawn, Entry.draws]
  · simp only [written_append, nothing, unwritten, logged.written, nil_append]
    exact ran

/-! #### The ack -/

/-- A posting was locked when `seen` transactions were committed. -/
structure HoldsRow (commits : List (Nat × List Write)) (log : Log) (seen : Nat)
    (row : PostingStatus) : Prop where
  early : seen ≤ commits.length
  present : .posting row ∈ contents (commits.take seen)
  answered : Entry.answered (.lockPosting row.id) seen
    (.ok (some (row.after (contents (commits.take seen))), [.lock row.id])) ∈ log

def PostingStatus.awaits (row : PostingStatus) : Prop :=
  row.status ≠ .posted ∧ row.status ≠ .permanentlyRejected

/-- **The UPDATEs a posting can meet, by what the call that sends it found.** -/
inductive Move (row : PostingStatus) : Write → Prop where
  | post {id : Uuid} {documentRef : DocumentRef} {updatedAt : Int} (awaits : row.awaits) :
      Move row (.post id documentRef updatedAt)
  | reject {id : Uuid} {category : String} {updatedAt : Int} (awaits : row.awaits) :
      Move row (.reject id category updatedAt)
  | reoffer {id : Uuid} {sequence : Nat} {updatedAt : Int} (awaits : row.awaits)
      (budget : row.retryCount < POSTING_RETRY_BUDGET) : Move row (.reoffer id sequence updatedAt)
  | requeue {id : Uuid} {sequence : Nat} {updatedAt : Int}
      (lettered : row.status ≠ .posted ∧ row.status ≠ .pending) :
      Move row (.requeue id sequence REPAIR_RESET_RETRY_COUNT updatedAt)

theorem lock_completes {found : Option PostingStatus}
    (ends : Completes (erpnextServer users) commits call [] (clientQuery (.lockPosting id)) log found) :
    (found = none ∧ written log = []) ∨
      ∃ row seen, HoldsRow commits log seen row ∧ row.id = id ∧
      found = some (row.after (contents (commits.take seen))) ∧ written log = [.lock id] := by
  obtain ⟨seen, writes, rfl, early, ran, logged⟩ := query_logged ends
  rw [append_nil] at ran
  obtain ⟨rfl, rfl⟩ | ⟨row, mem, rfl, rfl, rfl⟩ := lockPosting_ok users ran
  · exact .inl ⟨rfl, logged.written⟩
  · exact .inr ⟨row, seen, ⟨early, mem, mem_singleton_self _⟩, rfl, rfl, logged.written⟩

theorem updatePosting_returned {wrote : List Write}
    (ran : updatePosting context writes id write = .ok (some time, wrote)) : wrote = [write] := by
  obtain ⟨same, -⟩ | ⟨-, rfl⟩ := updatePosting_ok ran
  · cases same
  · rfl

theorem applyPosted_effect
    (ends : Completes (erpnextServer users) commits call own input.applyPosted log outcome) :
    ∃ documentRef, written log = [.post input.workItemRef documentRef call.now] := by
  unfold AckOutcomeInput.applyPosted at ends
  split at ends
  · exact absurd ends not_completes_fail
  · rename_i documentRef given
    obtain ⟨reply, log₁, rest₁, rfl, updating, ends⟩ := completes_bind ends
    obtain ⟨time, reading, -⟩ := completes_map ends
    obtain ⟨rfl, rfl⟩ := updatedAt_completes reading
    obtain ⟨seen, writes, -, -, ran, logged⟩ := query_logged updating
    obtain rfl := updatePosting_returned ran
    exact ⟨documentRef, by simpa using logged.written⟩

theorem applyRejected_effect {category : String}
    (ends : Completes (erpnextServer users) commits call own (applyRejected workItemRef category) log
      outcome) : written log = [.reject workItemRef category call.now] := by
  obtain ⟨reply, log₁, rest₁, rfl, updating, ends⟩ := completes_bind ends
  obtain ⟨time, reading, -⟩ := completes_map ends
  obtain ⟨rfl, rfl⟩ := updatedAt_completes reading
  obtain ⟨seen, writes, -, -, ran, logged⟩ := query_logged updating
  obtain rfl := updatePosting_returned ran
  simpa using logged.written

theorem applyTransient_effect {retryCount : Nat}
    (ends : Completes (erpnextServer users) commits call own (applyTransient workItemRef retryCount) log
      outcome) :
    (∃ category, written log = [.reject workItemRef category call.now]) ∨
      retryCount < POSTING_RETRY_BUDGET ∧
      ∃ sequence, Drew log sequence ∧ written log = [.reoffer workItemRef sequence call.now] := by
  unfold applyTransient at ends
  split_ifs at ends with spent
  · exact .inl ⟨_, applyRejected_effect ends⟩
  · obtain ⟨sequence, log₀, rest₀, rfl, drawing, ends⟩ := completes_bind ends
    obtain ⟨reply, log₁, rest₁, rfl, updating, ends⟩ := completes_bind ends
    obtain ⟨time, reading, -⟩ := completes_map ends
    obtain ⟨number, rfl, place⟩ := nextSequence_completes drawing
    obtain ⟨rfl, rfl⟩ := updatedAt_completes reading
    obtain ⟨seen, writes, -, -, ran, logged⟩ := query_logged updating
    obtain rfl := updatePosting_returned ran
    refine .inr ⟨Nat.lt_of_not_le spent, sequence, ⟨number, place, mem_cons_self⟩, ?_⟩
    have unwritten : written [(Entry.drew (.sequence number) : Entry Stmt Reply Fresh PgError Write)] = [] := rfl
    simp only [written_append, unwritten, nil_append, append_nil]
    exact logged.written

theorem apply_effect (awaits : row.awaits)
    (ends : Completes (erpnextServer users) commits call own (input.apply row) log outcome) :
    ∃ update, written log = [update] ∧ Move row update ∧ update.updated = some input.workItemRef ∧
      ∀ id sequence, update.heads = some (id, sequence) → Drew log sequence := by
  unfold AckOutcomeInput.apply at ends
  split at ends
  · obtain ⟨documentRef, wrote⟩ := applyPosted_effect ends
    exact ⟨_, wrote, .post awaits, rfl, nofun⟩
  · exact ⟨_, applyRejected_effect ends, .reject awaits, rfl, nofun⟩
  · obtain ⟨category, wrote⟩ | ⟨budget, sequence, drew, wrote⟩ := applyTransient_effect ends
    · exact ⟨_, wrote, .reject awaits, rfl, nofun⟩
    · refine ⟨_, wrote, .reoffer awaits budget, rfl, fun id place heads => ?_⟩
      cases heads
      exact drew

/-- **What a completed call did to the postings.** -/
inductive Effect (commits : List (Nat × List Write)) (log : Log) : List Write → Prop where
  | quiet {writes : List Write} (plain : ∀ write ∈ writes, write.Plain) : Effect commits log writes
  | created {row : PostingStatus} (created : row.Created) (drew : Drew log row.sequence)
      (sold : ∃ sale ∈ salesOf (contents commits), sale.id = row.saleId ∧
        sale.tenantId = row.tenantId) : Effect commits log [.posting row]
  | moved {row : PostingStatus} {update : Write} {trail : List Write} {seen : Nat}
      (holds : HoldsRow commits log seen row)
      (move : Move (row.after (contents (commits.take seen))) update)
      (about : update.updated = some row.id)
      (drew : ∀ id sequence, update.heads = some (id, sequence) → Drew log sequence)
      (plain : ∀ write ∈ trail, write.Plain) :
      Effect commits log (.lock row.id :: update :: trail)

theorem plain_lock : ∀ write ∈ [Write.lock id], write.Plain := by
  intro write mem
  rw [mem_singleton.1 mem]
  exact ⟨rfl, fun row same => by cases same⟩

theorem HoldsRow.widen {seen : Nat} (holds : HoldsRow commits log seen row)
    (inside : ∀ entry ∈ log, entry ∈ wider) : HoldsRow commits wider seen row :=
    ⟨holds.early, holds.present, inside _ holds.answered⟩

theorem ackOutcome_effect {result : AckOutcomeResult}
    (ends : Completes (erpnextServer users) commits call [] input.ackOutcome log result) :
    Effect commits log (written log) := by
  obtain ⟨found, log₁, rest₁, rfl, locking, ends⟩ := completes_bind ends
  obtain ⟨rfl, -⟩ | ⟨row, seen, holds, same, rfl, locked⟩ := lock_completes locking
  · exact absurd ends not_completes_fail
  have wrote : ∀ rest : Log, written (log₁ ++ rest) = .lock row.id :: written rest := by
    intro rest
    rw [written_append, locked, same]
    rfl
  dsimp only at ends
  split_ifs at ends with terminal echo
  · obtain ⟨rfl, -⟩ := completes_done ends
    rw [wrote]
    exact .quiet plain_lock
  · exact absurd ends not_completes_fail
  · obtain ⟨outcome, applying, -⟩ := completes_map ends
    have awaits : (row.after (contents (commits.take seen))).awaits := not_or.1 terminal
    obtain ⟨update, updated, move, about, drew⟩ := apply_effect awaits applying
    rw [wrote, updated]
    refine .moved (holds.widen fun entry mem => mem_append_left _ mem) move
      (about.trans (congrArg some same.symm)) (fun id sequence heads => ?_) fun _ none => by cases none
    exact (drew id sequence heads).widen fun fresh mem => by
      rw [drawn_append]
      exact mem_append_right _ mem

/-! #### The repair -/

theorem recordRepair_plain (input : RepairPostingInput) (outcome : RepairOutcome)
    (documentRef : Option DocumentRef) (replayed : Bool) :
    WritesOnly (erpnextServer users) Write.Plain (input.recordRepair outcome documentRef replayed) := by
  have draws : WritesOnly (erpnextServer users) Write.Plain newUuid := by
    refine writesOnly_draw fun fresh => ?_
    cases fresh with
    | uuid id => exact writesOnly_done id
    | sequence number => exact writesOnly_fail _
  refine writesOnly_bind draws fun id => writesOnly_bind (writesOnly_query ?_) fun added =>
    writesOnly_bind draws fun auditId => writesOnly_bind (writesOnly_query ?_) fun _ =>
      writesOnly_bind ?_ fun recordedAt => writesOnly_done _
  · intro call seen reply writes ran write mem
    obtain ⟨-, -, ran⟩ := bind_ok₂ ran
    cases ran
    rw [mem_singleton.1 mem]
    exact ⟨rfl, fun row same => by cases same⟩
  · intro call seen reply writes ran write mem
    obtain ⟨-, -, ran⟩ := bind_ok₂ ran
    cases ran
    rw [mem_singleton.1 mem]
    exact ⟨rfl, fun row same => by cases same⟩
  · cases added with
    | none => exact writesOnly_fail _
    | some time => exact writesOnly_done _

theorem resolvePostingEligibility_reads (saleId storeId : Uuid) :
    WritesOnly (erpnextServer users) (fun _ => False) (resolvePostingEligibility saleId storeId) := by
  refine writesOnly_bind (writesOnly_query ?_) fun warehouses => ?_
  · rintro call seen reply writes ran
    cases ran
    exact fun _ none => by cases none
  · show WritesOnly _ _ (if _ then _ else _)
    split_ifs
    · exact writesOnly_done _
    · refine writesOnly_bind (writesOnly_query ?_) fun unmapped => writesOnly_done _
      rintro call seen reply writes ran
      cases ran
      exact fun _ none => by cases none

variable {input : RepairPostingInput}

theorem reevaluate_effect (lettered : row.status ≠ .posted ∧ row.status ≠ .pending)
    (ends : Completes (erpnextServer users) commits call own (input.reevaluate row) log result) :
    (∀ write ∈ written log, write.Plain) ∨
      ∃ update trail,
      written log = update :: trail ∧ Move row update ∧ update.updated = some input.workItemRef ∧
      (∀ id sequence, update.heads = some (id, sequence) → Drew log sequence) ∧
      ∀ write ∈ trail, write.Plain := by
  obtain ⟨resolvable, log₁, rest₁, rfl, resolving, ends⟩ := completes_bind ends
  have nothing := (resolvePostingEligibility_reads _ _).nothing resolving
  simp only [written_append, nothing, nil_append]
  cases resolvable with
  | false => exact .inl fun write => recordRepair_plain _ _ _ _ _ _ _ _ _ ends write
  | true =>
    obtain ⟨sequence, log₂, rest₂, rfl, drawing, ends⟩ := completes_bind ends
    obtain ⟨_, log₃, rest₃, rfl, updating, ends⟩ := completes_bind ends
    have plain := recordRepair_plain _ _ _ _ _ _ _ _ _ ends
    obtain ⟨number, rfl, place⟩ := nextSequence_completes drawing
    obtain ⟨seen, writes, -, -, ran, logged⟩ := query_logged updating
    obtain ⟨⟨reply, wrote⟩, updated, ran⟩ := bind_ok ran
    cases ran
    have unwritten : written [(Entry.drew (.sequence number) : Entry Stmt Reply Fresh PgError Write)] = [] := rfl
    simp only [written_append, unwritten, nil_append, logged.written]
    obtain ⟨-, rfl⟩ | ⟨-, rfl⟩ := updatePosting_ok updated
    · exact .inl plain
    · refine .inr ⟨_, _, rfl, .requeue lettered, rfl, fun id sequence heads => ?_, plain⟩
      cases heads
      exact ⟨number, place, by simp [drawn, Entry.draws]⟩

theorem repairPosting_effect
    (ends : Completes (erpnextServer users) commits call [] input.repairPosting log result) :
    Effect commits log (written log) := by
  obtain ⟨found, log₁, rest₁, rfl, locking, ends⟩ := completes_bind ends
  obtain ⟨rfl, -⟩ | ⟨row, seen, holds, same, rfl, locked⟩ := lock_completes locking
  · exact absurd ends not_completes_fail
  rw [written_append, locked]
  have quiet : ∀ writes : List Write, (∀ write ∈ writes, write.Plain) →
      Effect commits (log₁ ++ rest₁) ([.lock input.workItemRef] ++ writes) := by
    intro writes plain
    refine .quiet fun write mem => ?_
    rcases mem_append.1 mem with lock | trail
    · exact plain_lock write lock
    · exact plain write trail
  dsimp only at ends
  split_ifs at ends with posted pending
  · exact quiet _ (recordRepair_plain _ _ _ _ _ _ _ _ _ ends)
  · exact quiet _ (recordRepair_plain _ _ _ _ _ _ _ _ _ ends)
  · obtain plain | ⟨update, trail, wrote, move, about, drew, plain⟩ := reevaluate_effect ⟨posted, pending⟩ ends
    · exact quiet _ plain
    · rw [wrote, ← same]
      refine .moved (holds.widen fun entry mem => mem_append_left _ mem) move
        (about.trans (congrArg some same.symm)) (fun id sequence heads => ?_) plain
      exact (drew id sequence heads).widen fun fresh mem => by
        rw [drawn_append]
        exact mem_append_right _ mem

/-! #### The feed -/

theorem buildWorkItem_reads (row : PostingStatus) :
    WritesOnly (erpnextServer users) (fun _ => False) (buildWorkItem row) := by
  have reads : ∀ stmt, (∀ call seen reply writes, (erpnextServer users).exec call seen stmt = .ok (reply,
      writes) → writes = []) → WritesOnly (erpnextServer users) (fun _ => False) (clientQuery stmt) := by
    intro stmt nothing
    refine writesOnly_query fun call seen reply writes ran write mem => ?_
    rw [nothing call seen reply writes ran] at mem
    cases mem
  refine writesOnly_bind (reads _ fun _ _ _ _ ran => ?_) fun sale => ?_
  · cases ran
    rfl
  cases sale with
  | none => exact writesOnly_done _
  | some sale =>
    refine writesOnly_bind (reads _ fun _ _ _ _ ran => ?_) fun lines => ?_
    · cases ran
      rfl
    split
    · exact writesOnly_done _
    · unfold classifyReversal
      split
      · exact writesOnly_done _
      · refine writesOnly_bind (reads _ fun _ _ _ _ ran => ?_) fun kind => writesOnly_done _
        cases ran
        rfl

theorem pullPostings_reads (input : PullPostingsInput) :
    WritesOnly (erpnextServer users) (fun _ => False) input.pullPostings := by
  refine writesOnly_bind (writesOnly_query ?_) fun rows =>
    writesOnly_bind (writesOnly_forEach buildWorkItem_reads _) fun items => writesOnly_done _
  intro call seen reply writes ran
  cases ran
  exact fun _ none => by cases none

/-! #### Every call -/

/-- **What a completed call did to the postings, for every operation.** -/
theorem Operation.effect {op : Operation} {body : Body}
    (ends : Completes (erpnextServer users) commits call [] op.program log body) :
    Effect commits log (written log) := by
  cases op with
  | record fact =>
    obtain ⟨_, recording, -⟩ := completes_map ends
    obtain ⟨seen, writes, -, -, ran, logged⟩ := query_logged recording
    obtain ⟨-, -, ran⟩ := bind_ok ran
    cases ran
    rw [logged.written]
    refine .quiet fun write mem => ?_
    rw [mem_singleton.1 mem]
    exact ⟨rfl, fun row same => by cases same⟩
  | handle event =>
    obtain ⟨_, handling, -⟩ := completes_map ends
    unfold PostingRequestedEvent.handle at handling
    split at handling
    · exact absurd handling not_completes_fail
    · obtain ⟨values, seen, reply, -, -, -, -, -, -, created, drew, ran⟩ := project_effect handling
      rw [append_nil] at ran
      obtain ⟨wrote, -⟩ | ⟨wrote, -⟩ | ⟨sale, sold, id, tenant, owner, wrote, -⟩ := insertPosting_ok ran
      · rw [wrote]
        exact .quiet fun _ none => by cases none
      · rw [wrote]
        exact .quiet fun _ none => by cases none
      · rw [wrote]
        refine .created (created sale) drew ⟨sale, ?_, id, ?_⟩
        · exact mem_salesOf.2 (contents_take (mem_salesOf.1 sold))
        · exact Option.some.inj (tenant.trans owner.symm)
  | ackOutcome input =>
    obtain ⟨result, acking, -⟩ := completes_map ends
    exact ackOutcome_effect acking
  | repairPosting input =>
    obtain ⟨result, repairing, -⟩ := completes_map ends
    exact repairPosting_effect repairing
  | pullPostings input =>
    obtain ⟨result, pulling, -⟩ := completes_map ends
    rw [(pullPostings_reads input).nothing pulling]
    exact .quiet fun _ none => by cases none

/-- **Every UPDATE comes with the lock of its row.** -/
theorem Effect.guarded (effect : Effect commits log writes) {update : Write} (member : update ∈ writes)
    (about : update.updated = some id) : .lock id ∈ writes := by
  cases effect with
  | quiet plain =>
    rw [(plain update member).1] at about
    cases about
  | created created drew sold =>
    rw [mem_singleton.1 member] at about
    cases about
  | @moved row update' trail seen holds move about' drew plain =>
    rcases mem_cons.1 member with rfl | member
    · cases about
    rcases mem_cons.1 member with rfl | member
    · obtain rfl := mem_unique about' about
      exact mem_cons_self
    · rw [(plain update member).1] at about
      cases about

end Programs

end DataPulse.Erpnext
