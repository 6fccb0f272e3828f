/-
**An outcome that is acked twice.**

`OutcomeAckBodySchema`, the body of an ack, and `ackOutcome` as one transaction after the other: a
connector that loses the response of its ack repeats it under a fresh idempotency key, at a later time
and on whatever connection (`Delivery`).

* `ack_idempotent_iff`: so it is unless the ack is `failed_transient` and its posting awaits one. Then
  each delivery counts as one more retry, and the one that exhausts the budget stores a rejection, which
  the repetition contradicts.
-/

import DataPulse.Erpnext.Effects
import DataPulse.Lib.Atomic

namespace DataPulse.Erpnext

open Lib Lib.Prog Platform
open Inventory (TenantContext require_ok)

/-! ### The body -/

/-- `reason.category`. -/
inductive RejectionCategory where
  | validation
  | closedPeriod
  | unmappedItem
  | unmappedAccount
  | other

def RejectionCategory.text : RejectionCategory → String
  | validation => "validation"
  | closedPeriod => "closed_period"
  | unmappedItem => "unmapped_item"
  | unmappedAccount => "unmapped_account"
  | other => "other"

/-- `RejectionReasonSchema`. -/
structure RejectionReason where
  category : RejectionCategory
  message : String

/-- `etaStatus.state`. -/
inductive EtaState where
  | submitted
  | accepted
  | rejected
  | pending

/-- `EtaStatusSchema`. -/
structure EtaStatus where
  state : EtaState
  uuid : Option String

/-- `OutcomeAckBody`; the keys and the types of its fields are checked by then. -/
structure OutcomeAckBody where
  outcome : AckOutcomeKind
  documentRef : Option DocumentRef
  reason : Option RejectionReason
  etaStatus : Option EtaStatus

/-- `DocumentRefSchema`. -/
def DocumentRef.issues (documentRef : DocumentRef) : List Issue :=
  textIssues ["documentRef", "doctype"] 100 documentRef.doctype ++
    textIssues ["documentRef", "name"] 200 documentRef.name

def RejectionReason.issues (reason : RejectionReason) : List Issue :=
  textIssues ["reason", "message"] 1000 reason.message

def EtaStatus.issues (etaStatus : EtaStatus) : List Issue :=
  check (etaStatus.uuid.all fun uuid => 1 ≤ utf16Length uuid) ["etaStatus", "uuid"]
    "String must contain at least 1 character(s)"

namespace OutcomeAckBody

/-- `OutcomeAckBodySchema`. -/
def issues (body : OutcomeAckBody) : List Issue :=
  body.documentRef.elim [] DocumentRef.issues ++ body.reason.elim [] RejectionReason.issues ++
    body.etaStatus.elim [] EtaStatus.issues ++
    check (!(body.outcome = .posted && body.documentRef.isNone)) ["documentRef"]
      "documentRef is required when outcome is 'posted'" ++
    check (!(body.outcome = .permanentlyRejected && body.reason.isNone)) ["reason"]
      "reason is required when outcome is 'permanently_rejected'" ++
    check (!(body.outcome ≠ .posted && body.documentRef.isSome)) ["documentRef"]
      "documentRef is only valid when outcome is 'posted'" ++
    check (!(body.outcome ≠ .permanentlyRejected && body.reason.isSome)) ["reason"]
      "reason is only valid when outcome is 'permanently_rejected'"

def input (body : OutcomeAckBody) (tenantId workItemRef : Uuid) : AckOutcomeInput where
  tenantId := tenantId
  workItemRef := workItemRef
  outcome := body.outcome
  documentRef := body.documentRef
  reason := body.reason.map fun reason => reason.category.text

/-- Two bodies with one logical outcome: the reason of a rejection may be worded anew. -/
def SameOutcome (first second : OutcomeAckBody) : Prop :=
  second.outcome = first.outcome ∧ second.documentRef = first.documentRef

def Agrees (body : OutcomeAckBody) (recorded : RecordedOutcome) : Prop :=
  recorded.outcome = body.outcome.state ∧ recorded.documentRef = body.documentRef

/-- **An accepted body carries a document exactly when it says `posted`.** -/
theorem documentRef_iff {body : OutcomeAckBody} (taken : body.issues = []) :
    body.documentRef.isSome = true ↔ body.outcome = .posted := by
  obtain ⟨taken, -⟩ := append_eq_nil_iff.1 taken
  obtain ⟨taken, only⟩ := append_eq_nil_iff.1 taken
  obtain ⟨taken, -⟩ := append_eq_nil_iff.1 taken
  obtain ⟨-, required⟩ := append_eq_nil_iff.1 taken
  have only := check_nil only
  have required := check_nil required
  constructor
  · intro given
    by_contra unposted
    simp [given, unposted] at only
  · intro posted
    by_contra missing
    simp [posted, not_isSome_iff_eq_none.1 missing] at required

end OutcomeAckBody

/-! ### One delivery -/

/-- The server as a transaction of the context sees it. -/
def postingEngine (users : Uuid → Bool) (context : TenantContext) :
    Engine Stmt Reply Thrown (List Write) where
  exec statement writes :=
    match exec users context writes statement with
    | .ok (reply, wrote) => .ok (reply, writes ++ wrote)
    | .error error => .error (.pg error)
  refused := .pg (.plain .failedTransaction)

/-- One delivery of an ack: the time of its transaction, the identifiers and places of the feed it
draws, and the statements the server or the connection fails. -/
structure Delivery where
  now : Int
  fresh : Nat → Fresh
  fault : Nat → Option PgError

def Delivery.world (delivery : Delivery) : World Fresh Thrown :=
  ⟨delivery.fresh, fun sent => (delivery.fault sent).map Thrown.pg⟩

def Delivery.calm (now : Int) : Delivery := ⟨now, fun drawn => .sequence drawn, fun _ => none⟩

/-- `ackOutcome` in a transaction of its own. -/
def AckOutcomeInput.deliver (users : Uuid → Bool) (input : AckOutcomeInput) (delivery : Delivery)
    (writes : List Write) : Except Thrown AckOutcomeResult × List Write :=
  input.ackOutcome.transaction (postingEngine users ⟨some input.tenantId, delivery.now⟩)
    delivery.world writes

def workItem (tenantId workItemRef : Uuid) (writes : List Write) : Option PostingStatus :=
  visiblePosting ⟨some tenantId, 0⟩ writes workItemRef

/-! #### Rows -/

variable {update : Write} {writes : List Write} {tenantId workItemRef : Uuid} {row : PostingStatus}
  {users : Uuid → Bool} {delivery : Delivery} {result : AckOutcomeResult}
  {world : World Fresh Thrown}

section Rows

variable {more : List Write}

theorem postingsOf_append (updates : insertedPostings more = []) :
    postingsOf (writes ++ more) = (postingsOf writes).map (PostingStatus.after more) := by
  rw [postingsOf, insertedPostings_append, updates, append_nil, postingsOf, map_map]
  exact map_congr_left fun row _ => PostingStatus.after_append

theorem workItem_append (updates : insertedPostings more = []) :
    workItem tenantId workItemRef (writes ++ more) =
      (workItem tenantId workItemRef writes).map (PostingStatus.after more) := by
  unfold workItem visiblePosting
  rw [postingsOf_append updates, find?_map]
  have same : ((fun row : PostingStatus => decide (row.id = workItemRef) &&
      decide (some row.tenantId = some tenantId)) ∘ PostingStatus.after more) = fun row =>
        decide (row.id = workItemRef) && decide (some row.tenantId = some tenantId) := by
    funext row
    simp only [Function.comp_apply, PostingStatus.after_id, PostingStatus.after_tenantId]
  rw [same]

theorem workItem_some (found : workItem tenantId workItemRef writes = some row) :
    row ∈ postingsOf writes ∧ row.id = workItemRef := by
  have holds := find?_some found
  simp only [and_eq_true, decide_eq_true_eq] at holds
  exact ⟨mem_of_find?_eq_some found, holds.1⟩

theorem postingsOf_lock (id : Uuid) : postingsOf (writes ++ [.lock id]) = postingsOf writes := by
  rw [postingsOf_append rfl]
  refine List.map_id'' (fun row => ?_) _
  exact PostingStatus.after_untouched fun write mem => by
    rw [mem_singleton.1 mem]
    nofun

theorem workItem_lock (id : Uuid) :
    workItem tenantId workItemRef (writes ++ [.lock id]) = workItem tenantId workItemRef writes := by
  unfold workItem visiblePosting
  rw [postingsOf_lock]

theorem workItem_updated (found : workItem tenantId workItemRef writes = some row)
    (about : update.updated = some workItemRef) :
    workItem tenantId workItemRef (writes ++ [.lock workItemRef, update]) = some (row.set update) := by
  have updates : insertedPostings [.lock workItemRef, update] = [] := by
    cases update <;> first | rfl | cases about
  obtain ⟨-, same⟩ := workItem_some found
  have unlocked : row.apply (.lock workItemRef) = row := PostingStatus.apply_untouched nofun
  rw [workItem_append updates, found, map_some]
  show some ((row.apply (.lock workItemRef)).apply update) = _
  rw [unlocked, PostingStatus.apply_updated (about.trans (by rw [same]))]

end Rows

/-! #### What an ack answers -/

section Answers

variable {input : AckOutcomeInput}
variable {session : Session (List Write)}
variable {context : TenantContext} {after : Session (List Write)} {recorded : RecordedOutcome}
variable {time now : Int}

/-- The delivery was answered with an error of the server that the world made. -/
def Delivery.Failed (delivery : Delivery) (answer : Except Thrown AckOutcomeResult) : Prop :=
  ∃ sent error, delivery.fault sent = some error ∧ answer = .error (.pg error)

theorem Delivery.calm_failed {answer : Except Thrown AckOutcomeResult} : ¬ (Delivery.calm now).Failed
    answer := by
  rintro ⟨sent, error, failed, -⟩
  cases failed

/-- **An ack of a posting that does not await one**: the posting is echoed, or contradicted. -/
theorem deliver_settled (found : workItem input.tenantId input.workItemRef writes = some row)
    (settled : ¬ row.awaits) :
    (delivery.Failed (input.deliver users delivery writes).1 ∧
        (input.deliver users delivery writes).2 = writes) ∨
      (input.sameLogicalOutcome row = true ∧
          input.deliver users delivery writes =
          (.ok ⟨row.project input.workItemRef, true⟩, writes ++ [.lock input.workItemRef])) ∨
      (input.sameLogicalOutcome row = false ∧
        input.deliver users delivery writes = (.error .ackConflict, writes)) := by
  have found' : visiblePosting ⟨some input.tenantId, delivery.now⟩ writes input.workItemRef = some row := found
  have terminal : row.status = .posted ∨ row.status = .permanentlyRejected := by
    unfold PostingStatus.awaits at settled
    tauto
  cases failed : delivery.fault 0 with
  | some error =>
    have answered : input.deliver users delivery writes = (.error (.pg error), writes) := by
      simp [AckOutcomeInput.deliver, AckOutcomeInput.ackOutcome, transaction, clientQuery, query,
        Prog.bind, Prog.run, answer, begun, Delivery.world, failed]
    rw [answered]
    exact .inl ⟨⟨0, error, failed, rfl⟩, rfl⟩
  | none =>
    cases echo : input.sameLogicalOutcome row with
    | true =>
      refine .inr (.inl ⟨rfl, ?_⟩)
      simp [AckOutcomeInput.deliver, AckOutcomeInput.ackOutcome, transaction, clientQuery, query, Prog.bind,
        Prog.run, answer, begun, Delivery.world, failed, postingEngine, exec, found', terminal, echo]
    | false =>
      refine .inr (.inr ⟨rfl, ?_⟩)
      simp [AckOutcomeInput.deliver, AckOutcomeInput.ackOutcome, transaction, clientQuery, query, Prog.bind,
        Prog.run, answer, begun, Delivery.world, failed, postingEngine, exec, found', terminal, echo]

/-- **What an ack of a posting that awaits one writes, and what it answers.** -/
inductive Records (input : AckOutcomeInput) (now : Int) (row : PostingStatus) :
    Write → RecordedOutcome → Prop where
  | posted {documentRef : DocumentRef} (outcome : input.outcome = .posted)
      (given : input.documentRef = some documentRef) :
      Records input now row (.post input.workItemRef documentRef now)
        ⟨input.workItemRef, .posted, some documentRef, now, false⟩
  | rejected (outcome : input.outcome = .permanentlyRejected) :
      Records input now row (.reject input.workItemRef (input.reason.getD "other") now)
        ⟨input.workItemRef, .permanentlyRejected, none, now, true⟩
  | spent (outcome : input.outcome = .failedTransient) (spent : POSTING_RETRY_BUDGET ≤ row.retryCount) :
      Records input now row (.reject input.workItemRef "retry_budget_exhausted" now)
        ⟨input.workItemRef, .permanentlyRejected, none, now, true⟩
  | reoffered {sequence : Nat} (outcome : input.outcome = .failedTransient)
      (left : row.retryCount < POSTING_RETRY_BUDGET) :
      Records input now row (.reoffer input.workItemRef sequence now)
        ⟨input.workItemRef, .failedTransient, none, now, false⟩

theorem Records.about (records : Records input delivery.now row update recorded) :
    update.updated = some input.workItemRef := by
  cases records <;> rfl

section Unbroken

variable {engine : Engine Stmt Reply Thrown (List Write)}

theorem updatedAt_unbroken (found : Option Int) : Unbroken engine world (updatedAt found) := by
  cases found with
  | none => exact unbroken_fail _
  | some time => exact unbroken_done time

theorem applyRejected_unbroken (workItemRef : Uuid) (category : String) :
    Unbroken engine world (applyRejected workItemRef category) :=
  unbroken_bind (unbroken_query _) fun updated => unbroken_bind (updatedAt_unbroken updated) fun _ =>
    unbroken_done _

theorem nextSequence_unbroken : Unbroken engine world nextSequence := by
  refine unbroken_draw fun fresh => ?_
  cases fresh with
  | uuid id => exact unbroken_fail _
  | sequence number => exact unbroken_done _

theorem apply_unbroken (input : AckOutcomeInput) (row : PostingStatus) : Unbroken engine world
    (input.apply row) := by
  unfold AckOutcomeInput.apply
  split
  · unfold AckOutcomeInput.applyPosted
    split
    · exact unbroken_fail _
    · exact unbroken_bind (unbroken_query _) fun updated =>
        unbroken_bind (updatedAt_unbroken updated) fun _ => unbroken_done _
  · exact applyRejected_unbroken _ _
  · unfold applyTransient
    split_ifs
    · exact applyRejected_unbroken _ _
    · exact unbroken_bind nextSequence_unbroken fun sequence => unbroken_bind (unbroken_query _)
        fun updated => unbroken_bind (updatedAt_unbroken updated) fun _ => unbroken_done _

theorem ackOutcome_unbroken (input : AckOutcomeInput) : Unbroken engine world input.ackOutcome := by
  refine unbroken_bind (unbroken_query _) fun found => ?_
  cases found with
  | none => exact unbroken_fail _
  | some row =>
    dsimp only
    split_ifs
    · exact unbroken_done _
    · exact unbroken_fail _
    · exact unbroken_bind (apply_unbroken input row) fun outcome => unbroken_done _

end Unbroken

theorem exec_ok {stmt : Stmt} {reply : Reply stmt} {after : List Write}
    (ran : (postingEngine users context).exec stmt writes = .ok (reply, after)) :
    ∃ wrote, exec users context writes stmt = .ok (reply, wrote) ∧ after = writes ++ wrote := by
  simp only [postingEngine] at ran
  split at ran
  · rename_i reply' wrote executed'
    cases ran
    exact ⟨wrote, executed', rfl⟩
  · cases ran

theorem commits_updatedAt {found : Option Int}
    (run : Commits (postingEngine users context) world (updatedAt found) session time after) :
    found = some time ∧ after = session := by
  cases found with
  | none => exact absurd run not_commits_fail
  | some time' =>
    obtain ⟨rfl, rfl⟩ := commits_done run
    exact ⟨rfl, rfl⟩

theorem updatePosting_read {id : Uuid} {wrote : List Write}
    (ran : updatePosting context writes id update = .ok (some time, wrote)) :
    wrote = [update] ∧ time = context.now := by
  obtain ⟨none, -⟩ | ⟨same, rfl⟩ := updatePosting_ok ran
  · cases none
  · exact ⟨rfl, Option.some.inj same⟩

theorem applyRejected_commits {category : String} {workItemRef : Uuid}
    (run : Commits (postingEngine users context) world (applyRejected workItemRef category) session recorded
      after) :
    after.db = session.db ++ [.reject workItemRef category context.now] ∧
      recorded = ⟨workItemRef, .permanentlyRejected, none, context.now, true⟩ := by
  obtain ⟨updated, middle, updating, run⟩ := commits_bind run
  obtain ⟨time, last, reading, run⟩ := commits_bind run
  obtain ⟨rfl, rfl⟩ := commits_updatedAt reading
  obtain ⟨rfl, rfl⟩ := commits_done run
  obtain ⟨wrote, ran, same⟩ := exec_ok (commits_query updating)
  obtain ⟨rfl, rfl⟩ := updatePosting_read ran
  exact ⟨same, rfl⟩

theorem nextSequence_commits {sequence : Nat}
    (run : Commits (postingEngine users context) world nextSequence session sequence after) :
    after.db = session.db := by
  obtain ⟨next, draws, refuses, counts⟩ : ∃ next, nextSequence = (newId : Service Fresh).bind next ∧
      (∀ id, next (.uuid id) = .fail (.error "not a sequence value")) ∧
      ∀ number, next (.sequence number) = .done (number + 1) :=
    ⟨_, rfl, fun _ => rfl, fun _ => rfl⟩
  rw [draws] at run
  obtain ⟨fresh, middle, drawing, run⟩ := commits_bind run
  cases fresh with
  | uuid id =>
    rw [refuses] at run
    exact absurd run not_commits_fail
  | sequence number =>
    rw [counts] at run
    obtain ⟨-, rfl⟩ := commits_done run
    exact commits_newId drawing

theorem apply_commits
    (run : Commits (postingEngine users ⟨some input.tenantId, delivery.now⟩) world (input.apply row) session
      recorded after) :
    ∃ update, Records input delivery.now row update recorded ∧ after.db = session.db ++ [update] := by
  unfold AckOutcomeInput.apply at run
  split at run
  · rename_i outcome
    unfold AckOutcomeInput.applyPosted at run
    split at run
    · exact absurd run not_commits_fail
    · rename_i documentRef given
      obtain ⟨updated, middle, updating, run⟩ := commits_bind run
      obtain ⟨time, last, reading, run⟩ := commits_bind run
      obtain ⟨rfl, rfl⟩ := commits_updatedAt reading
      obtain ⟨rfl, rfl⟩ := commits_done run
      obtain ⟨wrote, ran, same⟩ := exec_ok (commits_query updating)
      obtain ⟨rfl, rfl⟩ := updatePosting_read ran
      exact ⟨_, .posted outcome given, same⟩
  · rename_i outcome
    obtain ⟨same, rfl⟩ := applyRejected_commits run
    exact ⟨_, .rejected outcome, same⟩
  · rename_i outcome
    unfold applyTransient at run
    split_ifs at run with spent
    · obtain ⟨same, rfl⟩ := applyRejected_commits run
      exact ⟨_, .spent outcome spent, same⟩
    · obtain ⟨sequence, middle, drawing, run⟩ := commits_bind run
      obtain ⟨updated, middle', updating, run⟩ := commits_bind run
      obtain ⟨time, last, reading, run⟩ := commits_bind run
      obtain ⟨rfl, rfl⟩ := commits_updatedAt reading
      obtain ⟨rfl, rfl⟩ := commits_done run
      obtain ⟨wrote, ran, same⟩ := exec_ok (commits_query updating)
      obtain ⟨rfl, rfl⟩ := updatePosting_read ran
      rw [nextSequence_commits drawing] at same
      exact ⟨_, .reoffered outcome (Nat.lt_of_not_le spent), same⟩

/-- **What an ack that returned did.** -/
theorem deliver_ok (gave : (input.deliver users delivery writes).1 = .ok result) :
    ∃ row, workItem input.tenantId input.workItemRef writes = some row ∧
      ((¬ row.awaits ∧ input.sameLogicalOutcome row = true ∧ result.outcome = row.project input.workItemRef ∧
          (input.deliver users delivery writes).2 = writes ++ [.lock input.workItemRef]) ∨
        (row.awaits ∧
          ∃ update, Records input delivery.now row update result.outcome ∧
          (input.deliver users delivery writes).2 = writes ++ [.lock input.workItemRef, update])) := by
  obtain ⟨after, run, delivered⟩ := transaction_ok (ackOutcome_unbroken input) gave
  have left : (input.deliver users delivery writes).2 = after.db := congrArg Prod.snd delivered
  rw [left]
  obtain ⟨found, middle, locking, run⟩ := commits_bind run
  obtain ⟨wrote, ran, same⟩ := exec_ok (commits_query locking)
  simp only [exec] at ran
  split at ran
  · cases ran
    exact absurd run not_commits_fail
  · rename_i row visible
    cases ran
    refine ⟨row, visible, ?_⟩
    dsimp only at run
    split_ifs at run with terminal echo
    · obtain ⟨rfl, rfl⟩ := commits_done run
      refine .inl ⟨fun awaits => ?_, echo, rfl, same⟩
      exact terminal.elim awaits.1 awaits.2
    · exact absurd run not_commits_fail
    · obtain ⟨recorded, last, applying, run⟩ := commits_bind run
      obtain ⟨rfl, rfl⟩ := commits_done run
      obtain ⟨update, records, wrote⟩ := apply_commits applying
      refine .inr ⟨not_or.1 terminal, update, records, ?_⟩
      rw [wrote, same, append_assoc]
      rfl

theorem deliver_transient (outcome : input.outcome = .failedTransient)
    (found : workItem input.tenantId input.workItemRef writes = some row) (awaits : row.awaits)
    (documented : row.documented = true) :
    ∃ result, (input.deliver users (.calm now) writes).1 = .ok result := by
  have found' : visiblePosting ⟨some input.tenantId, now⟩ writes input.workItemRef = some row := found
  have locked : visiblePosting ⟨some input.tenantId, now⟩ (writes ++ [.lock input.workItemRef])
      input.workItemRef = some row := (workItem_lock input.workItemRef).trans found
  have undocumented : row.documentRef = none := by
    simpa [PostingStatus.documented, awaits.1] using documented
  by_cases spent : POSTING_RETRY_BUDGET ≤ row.retryCount
  · refine ⟨⟨⟨input.workItemRef, .permanentlyRejected, none, now, true⟩, false⟩, ?_⟩
    simp [AckOutcomeInput.deliver, AckOutcomeInput.ackOutcome, AckOutcomeInput.apply, outcome, applyTransient,
      applyRejected, spent, Erpnext.updatedAt, transaction, clientQuery, query, Prog.bind, Prog.run, answer,
      begun, Delivery.world, Delivery.calm, postingEngine, exec, found', locked, updatePosting, awaits.1,
      awaits.2, PostingStatus.documented, PostingStatus.set, undocumented, Inventory.require]
  · refine ⟨⟨⟨input.workItemRef, .failedTransient, none, now, false⟩, false⟩, ?_⟩
    simp [AckOutcomeInput.deliver, AckOutcomeInput.ackOutcome, AckOutcomeInput.apply, outcome, applyTransient,
      nextSequence, spent, Erpnext.updatedAt, transaction, clientQuery, query, Prog.bind, Prog.run, answer,
      begun, Delivery.world, Delivery.calm, postingEngine, exec, found', locked, updatePosting, awaits.1,
      awaits.2, PostingStatus.documented, PostingStatus.set, undocumented, Inventory.require]

end Answers

/-! ### Two deliveries -/

/-- The answer refuses the ack, or the delivery failed; nothing is written. -/
def Refuses (delivery : Delivery) (writes : List Write)
    (answer : Except Thrown AckOutcomeResult × List Write) : Prop :=
  (answer.1 = .error .ackConflict ∨ delivery.Failed answer.1) ∧ answer.2 = writes

/-- **The law of the ack**, for a body and what was written before it. -/
structure Idempotent (users : Uuid → Bool) (tenantId workItemRef : Uuid) (body : OutcomeAckBody)
    (writes : List Write) : Prop where
  /-- Acked again, the outcome is answered as it was recorded and the postings stay. -/
  replayed : ∀ first again : Delivery, ∀ other : OutcomeAckBody, other.issues = [] →
    body.SameOutcome other → ∀ result,
    ((body.input tenantId workItemRef).deliver users first writes).1 = .ok result →
    let after := ((body.input tenantId workItemRef).deliver users first writes).2
    let second := (other.input tenantId workItemRef).deliver users again after
    postingsOf second.2 = postingsOf after ∧
      ((∃ replayed, second.1 = .ok ⟨result.outcome, replayed⟩) ∨ again.Failed second.1)
  /-- Contradicted after a terminal outcome, it is refused. -/
  contradicted : ∀ first again : Delivery, ∀ other : OutcomeAckBody, other.issues = [] → ∀ result,
    ((body.input tenantId workItemRef).deliver users first writes).1 = .ok result →
    result.outcome.outcome ≠ .failedTransient → ¬ other.Agrees result.outcome →
    let after := ((body.input tenantId workItemRef).deliver users first writes).2
    Refuses again after ((other.input tenantId workItemRef).deliver users again after)
  /-- So it is when it contradicts what was terminal before it. -/
  refused : ∀ delivery : Delivery, ∀ row, workItem tenantId workItemRef writes = some row →
    ¬ row.awaits → ¬ body.Agrees (row.project workItemRef) →
    Refuses delivery writes ((body.input tenantId workItemRef).deliver users delivery writes)

section Law

variable {body : OutcomeAckBody}

theorem agrees_iff (tenantId workItemRef : Uuid) (taken : body.issues = [])
    (documented : row.documented = true) :
    (body.input tenantId workItemRef).sameLogicalOutcome row = true ↔
      body.Agrees (row.project workItemRef) := by
  have carries := OutcomeAckBody.documentRef_iff taken
  unfold AckOutcomeInput.sameLogicalOutcome OutcomeAckBody.Agrees
  by_cases same : row.status = body.outcome.state
  · simp only [PostingStatus.project, OutcomeAckBody.input, ← same]
    by_cases posted : row.status = .posted
    · have document : row.documentRef.isSome = true := by
        simpa [PostingStatus.documented, posted] using documented
      simp only [posted, document, ne_eq, not_true_eq_false, if_false, if_true, Bool.true_and, true_and]
      exact decide_eq_true_iff
    · have undocumented : row.documentRef = none := by
        simpa [PostingStatus.documented, posted] using documented
      have bare : body.documentRef = none := by
        rw [← not_isSome_iff_eq_none, carries]
        intro posted'
        rw [same, posted'] at posted
        exact posted rfl
      simp [posted, undocumented, bare]
  · simp [PostingStatus.project, OutcomeAckBody.input, same]

theorem refuses_settled (taken : body.issues = []) (documented : row.documented = true)
    (found : workItem tenantId workItemRef writes = some row) (settled : ¬ row.awaits)
    (contradicts : ¬ body.Agrees (row.project workItemRef)) (delivery : Delivery) :
    Refuses delivery writes ((body.input tenantId workItemRef).deliver users delivery writes) := by
  have differs := (agrees_iff tenantId workItemRef taken documented).not.2 contradicts
  have found' : workItem (body.input tenantId workItemRef).tenantId
      (body.input tenantId workItemRef).workItemRef writes = some row := found
  obtain ⟨failed, kept⟩ | ⟨echo, -⟩ | ⟨-, answered⟩ := deliver_settled found' settled
  · exact ⟨.inr failed, kept⟩
  · exact absurd echo differs
  · rw [answered]
    exact ⟨.inl rfl, rfl⟩

theorem echoes_settled (taken : body.issues = []) (documented : row.documented = true)
    (found : workItem tenantId workItemRef writes = some row) (settled : ¬ row.awaits)
    (agrees : body.Agrees (row.project workItemRef)) (delivery : Delivery) :
    let second := (body.input tenantId workItemRef).deliver users delivery writes
    postingsOf second.2 = postingsOf writes ∧
      ((∃ replayed, second.1 = .ok ⟨row.project workItemRef, replayed⟩) ∨ delivery.Failed second.1) := by
  have same := (agrees_iff tenantId workItemRef taken documented).2 agrees
  have found' : workItem (body.input tenantId workItemRef).tenantId
      (body.input tenantId workItemRef).workItemRef writes = some row := found
  obtain ⟨failed, kept⟩ | ⟨-, answered⟩ | ⟨differs, -⟩ := deliver_settled found' settled
  · exact ⟨by rw [kept], .inr failed⟩
  · rw [answered]
    exact ⟨postingsOf_lock _, .inl ⟨true, rfl⟩⟩
  · rw [same] at differs
    cases differs

/-- **What is recorded once the ack returned a terminal outcome.** -/
theorem settled_after (documented : ∀ row ∈ postingsOf writes, row.documented = true)
    (gave : ((body.input tenantId workItemRef).deliver users delivery writes).1 = .ok result)
    (terminal : result.outcome.outcome ≠ .failedTransient) :
    ∃ row, workItem tenantId workItemRef ((body.input tenantId workItemRef).deliver users delivery writes).2 =
      some row ∧ row.project workItemRef = result.outcome ∧ ¬ row.awaits ∧ row.documented = true := by
  obtain ⟨row, found, ⟨settled, echo, same, left⟩ | ⟨awaits, update, records, left⟩⟩ := deliver_ok gave
  · refine ⟨row, ?_, same.symm, settled, documented row (workItem_some found).1⟩
    rw [left]
    exact (workItem_lock _).trans found
  · have documented := documented row (workItem_some found).1
    have undocumented : row.documentRef = none := by
      simpa [PostingStatus.documented, awaits.1] using documented
    refine ⟨row.set update, ?_, ?_⟩
    · rw [left]
      exact workItem_updated found records.about
    · revert terminal
      generalize result.outcome = recorded at records ⊢
      cases records with
      | posted outcome given =>
        exact fun _ => ⟨rfl, fun open' => open'.1 rfl, rfl⟩
      | rejected outcome | spent outcome spent =>
        refine fun _ => ⟨?_, fun open' => open'.2 rfl, ?_⟩
        · simp [PostingStatus.set, PostingStatus.project, undocumented, OutcomeAckBody.input]
        · simp [PostingStatus.set, PostingStatus.documented, undocumented]
      | reoffered outcome left => exact fun terminal => absurd rfl terminal

theorem moved_of_awaits (found : workItem tenantId workItemRef writes = some row) (awaits : row.awaits)
    (gave : ((body.input tenantId workItemRef).deliver users delivery writes).1 = .ok result) :
    ∃ update, Records (body.input tenantId workItemRef) delivery.now row update result.outcome ∧
      workItem tenantId workItemRef ((body.input tenantId workItemRef).deliver users delivery writes).2 =
      some (row.set update) := by
  obtain ⟨row', found', ⟨settled, -⟩ | ⟨-, update, records, left⟩⟩ := deliver_ok gave
  all_goals obtain rfl : row = row' := mem_unique found found'
  · exact absurd awaits settled
  · refine ⟨update, records, ?_⟩
    rw [left]
    exact workItem_updated found records.about

theorem echo_of_settled (found : workItem tenantId workItemRef writes = some row) (settled : ¬ row.awaits)
    (gave : ((body.input tenantId workItemRef).deliver users delivery writes).1 = .ok result) :
    (body.input tenantId workItemRef).sameLogicalOutcome row = true ∧
      result.outcome = row.project workItemRef := by
  obtain ⟨row', found', ⟨-, echo, same, -⟩ | ⟨awaits, -⟩⟩ := deliver_ok gave
  all_goals obtain rfl : row = row' := mem_unique found found'
  · exact ⟨echo, same⟩
  · exact absurd awaits settled

theorem Records.changes {now : Int} {recorded : RecordedOutcome}
    (records : Records (body.input tenantId workItemRef) now row update recorded)
    (outcome : body.outcome = .failedTransient) (awaits : row.awaits) : row.set update ≠ row := by
  intro same
  cases records with
  | posted outcome' given | rejected outcome' => cases outcome.symm.trans outcome'
  | spent outcome' spent => exact awaits.2 (congrArg PostingStatus.status same).symm
  | reoffered outcome' left => simpa [PostingStatus.set] using congrArg PostingStatus.retryCount same

/-- **A `failed_transient` ack that is repeated counts twice.** -/
theorem not_idempotent_of_transient (taken : body.issues = [])
    (documented : ∀ row ∈ postingsOf writes, row.documented = true)
    (outcome : body.outcome = .failedTransient) (found : workItem tenantId workItemRef writes = some row)
    (awaits : row.awaits) : ¬ Idempotent users tenantId workItemRef body writes := by
  intro law
  obtain ⟨result, gave⟩ : ∃ result, ((body.input tenantId workItemRef).deliver users (.calm 0) writes).1 = .ok
    result := deliver_transient outcome found awaits (documented row (workItem_some found).1)
  obtain ⟨kept, answered⟩ := law.replayed (.calm 0) (.calm 0) body taken ⟨rfl, rfl⟩ result gave
  obtain ⟨replayed, again⟩ := answered.resolve_right Delivery.calm_failed
  obtain ⟨update, records, after⟩ := moved_of_awaits found awaits gave
  by_cases awaits' : (row.set update).awaits
  · -- The repetition is one more retry.
    obtain ⟨update', records', after'⟩ := moved_of_awaits after awaits' again
    refine records'.changes outcome awaits' (Option.some.inj (after'.symm.trans (Eq.trans ?_ after)))
    unfold workItem visiblePosting
    rw [kept]
  · -- The repetition finds the rejection the budget made, which it does not ack.
    obtain ⟨echo, -⟩ := echo_of_settled after awaits' again
    have stays : (row.set update).status ≠ .failedTransient := by
      intro transient
      exact awaits' ⟨by rw [transient]; nofun, by rw [transient]; nofun⟩
    simp [AckOutcomeInput.sameLogicalOutcome, OutcomeAckBody.input, outcome, AckOutcomeKind.state, stays] at echo

theorem terminal_of_firm
    (gave : ((body.input tenantId workItemRef).deliver users delivery writes).1 = .ok result)
    (firm : ¬
      (body.outcome = .failedTransient ∧
        ∃ row, workItem tenantId workItemRef writes = some row ∧ row.awaits)) :
    result.outcome.outcome ≠ .failedTransient := by
  obtain ⟨row, found, ⟨settled, -, recorded, -⟩ | ⟨awaits, update, records, -⟩⟩ := deliver_ok gave
  · rw [recorded]
    intro transient
    have transient : row.status = .failedTransient := transient
    exact settled ⟨by rw [transient]; nofun, by rw [transient]; nofun⟩
  · generalize result.outcome = recorded at records
    cases records with
    | posted outcome given | rejected outcome => nofun
    | spent outcome spent | reoffered outcome left => exact absurd ⟨outcome, row, found, awaits⟩ firm

theorem agrees_of_firm (taken : body.issues = [])
    (documented : ∀ row ∈ postingsOf writes, row.documented = true)
    (gave : ((body.input tenantId workItemRef).deliver users delivery writes).1 = .ok result)
    (firm : ¬
      (body.outcome = .failedTransient ∧
        ∃ row, workItem tenantId workItemRef writes = some row ∧ row.awaits)) :
    body.Agrees result.outcome := by
  obtain ⟨row, found, ⟨settled, echo, recorded, -⟩ | ⟨awaits, update, records, -⟩⟩ := deliver_ok gave
  · rw [recorded]
    exact (agrees_iff tenantId workItemRef taken (documented row (workItem_some found).1)).1 echo
  · generalize result.outcome = recorded at records
    cases records with
    | posted outcome given =>
      have outcome : body.outcome = .posted := outcome
      exact ⟨by rw [outcome]; rfl, given.symm⟩
    | rejected outcome =>
      have outcome : body.outcome = .permanentlyRejected := outcome
      refine ⟨by rw [outcome]; rfl, (not_isSome_iff_eq_none.1 ?_).symm⟩
      rw [OutcomeAckBody.documentRef_iff taken, outcome]
      nofun
    | spent outcome spent | reoffered outcome left => exact absurd ⟨outcome, row, found, awaits⟩ firm

/-- **The ack is idempotent unless it is a `failed_transient` that its posting awaits.** -/
theorem ack_idempotent_iff (users : Uuid → Bool) (tenantId workItemRef : Uuid) (accepted : body.issues = [])
    (documented : ∀ row ∈ postingsOf writes, row.documented = true) :
    Idempotent users tenantId workItemRef body writes ↔
      ¬
      (body.outcome = .failedTransient ∧
        ∃ row, workItem tenantId workItemRef writes = some row ∧ row.awaits) := by
  constructor
  · rintro law ⟨outcome, row, found, awaits⟩
    exact not_idempotent_of_transient accepted documented outcome found awaits law
  intro firm
  refine ⟨fun first again other accepted' same result gave => ?_,
    fun first again other accepted' result gave terminal contradicts => ?_,
    fun delivery row found settled contradicts => refuses_settled accepted
    (documented row (workItem_some found).1) found settled contradicts delivery⟩
  · obtain ⟨row, found, recorded, settled, documented'⟩ :=
      settled_after documented gave (terminal_of_firm gave firm)
    obtain ⟨states, refers⟩ := agrees_of_firm accepted documented gave firm
    have agrees : other.Agrees (row.project workItemRef) := by
      rw [recorded]
      exact ⟨states.trans (congrArg AckOutcomeKind.state same.1.symm), refers.trans same.2.symm⟩
    rw [← recorded]
    exact echoes_settled accepted' documented' found settled agrees again
  · obtain ⟨row, found, recorded, settled, documented'⟩ := settled_after documented gave terminal
    rw [← recorded] at contradicts
    exact refuses_settled accepted' documented' found settled contradicts again

end Law

/-! ### A transient failure, acked twice -/

def samplePosting (retryCount : Nat) : PostingStatus where
  id := sample 4
  tenantId := sample 0
  storeId := sample 1
  saleId := sample 2
  kind := .salePost
  sourceRefId := sample 2
  sourceSystem := "pos"
  externalId := "s-1"
  payloadHash := String.ofList (List.replicate 64 'a')
  status := .pending
  documentRef := none
  rejectionCategory := none
  retryCount := retryCount
  sequence := 1
  updatedAt := 0
  correlationId := none

/-- `{"outcome": "failed_transient"}`. -/
def transientBody : OutcomeAckBody := ⟨.failedTransient, none, none, none⟩

/-- `{"outcome": "posted", "documentRef": {…}}`. -/
def postedBody : OutcomeAckBody :=
  ⟨.posted, some ⟨"Sales Invoice", "SINV-1"⟩, none, none⟩

/-- **The law fails of `failed_transient`**: on a new posting the repetition is a second retry, and at
the budget it is a conflict. -/
theorem transient_acked_twice :
    transientBody.issues = [] ∧
      (¬ Idempotent (fun _ => true) (sample 0) (sample 4) transientBody [.posting (samplePosting 0)]) ∧
      ¬ Idempotent (fun _ => true) (sample 0) (sample 4) transientBody
      [.posting (samplePosting POSTING_RETRY_BUDGET)] := by
  refine ⟨by decide, fun law => ?_, fun law => ?_⟩
  · have twice := law.replayed (.calm 1) (.calm 2) transientBody (by decide) ⟨rfl, rfl⟩
      ⟨⟨sample 4, .failedTransient, none, 1, false⟩, false⟩ (by decide +kernel)
    exact absurd (congrArg (List.map PostingStatus.retryCount) twice.1) (by decide +kernel)
  · have twice := law.replayed (.calm 1) (.calm 2) transientBody (by decide) ⟨rfl, rfl⟩
      ⟨⟨sample 4, .permanentlyRejected, none, 1, true⟩, false⟩ (by decide +kernel)
    obtain ⟨replayed, again⟩ := twice.2.resolve_right Delivery.calm_failed
    revert again
    cases replayed <;> decide +kernel

theorem ack_idempotent_sample :
    Idempotent (fun _ => true) (sample 0) (sample 4) postedBody [.posting (samplePosting 0)] :=
  (ack_idempotent_iff _ _ _ (by decide) (by decide +kernel)).2 fun transient =>
    absurd transient.1 (by decide)

end DataPulse.Erpnext
