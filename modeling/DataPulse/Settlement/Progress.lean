/-
**What a settlement request can still do.**

Where the effects say what a request did, this module shows that two requests do succeed, in a world
that fails nothing and hands out an identifier that is not in use yet.
-/

import DataPulse.Settlement.Lifecycle

namespace DataPulse.Settlement

open Lib Lib.Decimal Lib.Prog Platform

theorem isPositive_plain {text : String} {w f : List Char} (parts : PlainParts 15 4 text.toList w f) :
    isPositive text = true ↔ 0 < plainUnits w f := by
  rw [isPositive, number_plain (le_refl _) parts]
  simp only [any_some, decide_eq_true_eq]
  rw [Binary64.roundBinary64_units_pos]
  exact_mod_cast Iff.rfl

theorem isPositive_text (money : Money) : isPositive money.text = true ↔ 0 < money.units := by
  obtain ⟨w, f, parts, units⟩ := money.text_parts
  rw [isPositive_plain parts, units]

theorem unitsOf_text (money : Money) : unitsOf money.text = money.units := by
  obtain ⟨w, f, parts, units⟩ := money.text_parts
  rw [unitsOf_plain parts, units]

theorem quiet_commits (fresh : Uuid) {tenant : Uuid} {stmt : Stmt} {session : Session Db} {reply : Reply stmt}
    {db : Db} (sound : session.aborted = false) (ran : exec tenant stmt session.db = .ok (reply, db)) :
    Commits (engine tenant) (.quiet fresh) (clientQuery stmt) session reply
      { session with sent := session.sent + 1, db := db } :=
  commits_executed rfl sound ran

/-! ### Paying in full -/

section Pay

variable {id fresh : Uuid} {r : Receivable} {db : Db}

def payInFull (fresh id : Uuid) (r : Receivable) : Call where
  request := .applyPayment r.tenantId id.text ⟨r.outstandingBalance.text, r.version, none⟩
  world := .quiet fresh

def payInFullInput (id : Uuid) (r : Receivable) : ApplyPaymentInput :=
  ⟨r.tenantId, id.text, r.outstandingBalance.text, r.version, none⟩

theorem payInFull_accepted (positive : 0 < r.outstandingBalance.units) :
    (payInFull fresh id r).request.validate = .ok () := by
  have amount := (isPositive_text r.outstandingBalance).2 positive
  have shape : isMoneyText r.outstandingBalance.text = true := r.outstandingBalance.text_plain
  have clean : paymentIssues ⟨r.outstandingBalance.text, r.version, none⟩ = [] := by
    simp [paymentIssues, check, lengthIssues, amount, shape]
  have known : Uuid.isUuid id.text = true := by simp [Uuid.isUuid]
  show (do
    Request.validate.refuse (paymentIssues ⟨r.outstandingBalance.text, r.version, none⟩)
    assertUuid id.text "receivableRef") = _
  rw [clean, assertUuid, if_pos known]
  rfl

def fullPayment (fresh id : Uuid) (r : Receivable) : PaymentApplication :=
  ⟨fresh, r.tenantId, r.storeId, id, r.outstandingBalance, none⟩

theorem insertFullPayment_ok (here : db.receivables id = some r) (positive : 0 < r.outstandingBalance.units)
    (unused : ∀ p ∈ db.paymentApplications, p.id ≠ fresh) :
    exec r.tenantId
      (.insertPaymentApplication fresh r.tenantId r.storeId id.text r.outstandingBalance.text none) db =
      .ok ((), { db with paymentApplications := db.paymentApplications ++ [fullPayment fresh id r] }) := by
  have free : (db.paymentApplications.all fun p => decide (p.id ≠ fresh)) = true :=
    all_eq_true.2 fun p mem => decide_eq_true (unused p mem)
  have linked : db.hasReceivable id r.tenantId r.storeId = true := by
    simp [Db.hasReceivable, here]
  simp only [exec, castUuid_text, Money.ofText_text, orThrow, ok_bind, positive, decide_true, free,
    linked, require_true, fullPayment]

theorem updateSettled_ok (db : Db) (here : db.receivables id = some r) (room : r.version < maxInteger) :
    ∃ row db', exec r.tenantId (.updateReceivable id.text Money.zero.text .settled r.version) db =
      .ok (row, db') := by
  have current : ((db.receivables id).any fun found => decide (found.version = r.version)) = true := by
    simp [here]
  simp only [exec, castUuid_text, Money.ofText_text, orThrow, ok_bind, Db.updateReceivableAt,
    if_pos current, Db.updateReceivable_of_visible here rfl room]
  exact ⟨_, _, rfl⟩

theorem decide_payInFull (r : Receivable) :
    decideApplication ⟨r.outstandingBalance.text, r.outstandingBalance.text, r.state⟩ =
      some (.ok (Money.zero).text .settled) := by
  obtain ⟨w, f, parts, units⟩ := r.outstandingBalance.text_parts
  rw [decideApplication_of_money parts, units, if_neg (lt_irrefl _), Nat.sub_self, if_pos rfl]
  exact congrArg (fun text => some (ApplyDecision.ok text .settled)) (fromScaledInt_units .zero)

theorem writePayment_succeeds {session : Session Db} (sound : session.aborted = false)
    (here : session.db.receivables id = some r) (room : r.version < maxInteger)
    (positive : 0 < r.outstandingBalance.units)
    (unused : ∀ p ∈ session.db.paymentApplications, p.id ≠ fresh) :
    Succeeds (engine r.tenantId) (.quiet fresh)
      (writePayment (payInFullInput id r) r.storeId Money.zero.text .settled) session := by
  refine succeeds_then (commits_drawn sound) ?_
  refine succeeds_then (quiet_commits fresh sound (insertFullPayment_ok here positive unused)) ?_
  obtain ⟨row, db', updates⟩ := updateSettled_ok { session.db with
      paymentApplications := session.db.paymentApplications ++ [fullPayment fresh id r] } here room
  refine succeeds_then (quiet_commits fresh sound updates) ?_
  cases row with
  | none | some row => exact succeeds_done _ sound

theorem payReceivable_full (live : isTerminalState r.state = false) :
    payReceivable (payInFullInput id r) (r.dbRow id) r.storeId =
      writePayment (payInFullInput id r) r.storeId Money.zero.text .settled := by
  have decided : decideApplication ⟨(r.dbRow id).outstandingBalance, (payInFullInput id r).amount,
      (r.dbRow id).state⟩ = some (.ok Money.zero.text .settled) := decide_payInFull r
  have taken : ¬ ((r.dbRow id).version ≠ (payInFullInput id r).version ∨
      (r.dbRow id).state = .settled ∨ (r.dbRow id).state = .flagged) := by
    rw [not_or]
    refine ⟨fun stale => stale rfl, ?_⟩
    show ¬ (r.state = .settled ∨ r.state = .flagged)
    rw [← isTerminalState_iff, live]
    exact false_ne_true
  unfold payReceivable
  rw [if_neg taken, decided]
  rfl

theorem payInFull_commits (here : db.receivables id = some r) (live : isTerminalState r.state = false)
    (positive : 0 < r.outstandingBalance.units) (room : r.version < maxInteger)
    (unused : ∀ p ∈ db.paymentApplications, p.id ≠ fresh) :
    ∃ row after payment, Commits (engine r.tenantId) (.quiet fresh) (applyPayment (payInFullInput id r))
      (begun db) (.ok row) after ∧ Applied id r payment db after.db ∧
      payment.appliedAmount.units = r.outstandingBalance.units := by
  have shown : visible Receivable.tenantId r.tenantId (db.receivables id) = some r :=
    visible_some.2 ⟨here, rfl⟩
  have locks : exec r.tenantId (.lockReceivable id.text) db = .ok (some (r.dbRow id, r.storeId), db) := by
    simp only [exec, castUuid_text, ok_bind, shown, map_some]
  have locked := quiet_commits fresh (show (begun db).aborted = false from rfl) locks
  obtain ⟨w, f, parts, -⟩ := r.outstandingBalance.text_parts
  obtain ⟨result, after, wrote⟩ := writePayment_succeeds locked.sound here room positive unused
  obtain ⟨⟨row, rfl⟩, payment, did, amount⟩ :=
    writePayment_effect (payInFullInput id r) parts (Uuid.ofText_text id) here rfl rfl live
      (decide_payInFull r) wrote
  refine ⟨row, after, payment, commits_append locked ?_, did, amount.trans (unitsOf_text _)⟩
  show Commits _ _ (payReceivable (payInFullInput id r) (r.dbRow id) r.storeId) _ _ _
  rw [payReceivable_full live]
  exact wrote

/-- **Paying the outstanding amount of a live receivable settles it.** -/
theorem payInFull_settles (here : db.receivables id = some r) (live : isTerminalState r.state = false)
    (positive : 0 < r.outstandingBalance.units) (room : r.version < maxInteger)
    (unused : ∀ p ∈ db.paymentApplications, p.id ≠ fresh) :
    ∃ r', (handle (payInFull fresh id r) db).2.receivables id = some r' ∧
      isTerminalState r'.state = true := by
  obtain ⟨row, after, payment, ran, did, amount⟩ := payInFull_commits here live positive room unused
  have served : Commits (engine r.tenantId) (.quiet fresh) (payInFull fresh id r).request.service (begun db) (.ok
    (.receivable (toReceivable row))) after := commits_append ran ⟨rfl, ran.sound⟩
  have outcome : (handle (payInFull fresh id r) db).2 = after.db := by
    unfold handle
    rw [payInFull_accepted positive]
    dsimp only
    rw [show (payInFull fresh id r).request.service.transaction
      (engine (payInFull fresh id r).request.tenantId) (payInFull fresh id r).world db = _ from
      transaction_of_commits served]
  refine ⟨r.paid payment.appliedAmount.units, ?_, ?_⟩
  · rw [outcome, did.written]
    exact Db.setReceivable_self _
  · rw [isTerminalState_iff, amount]
    exact .inl (if_pos (Nat.sub_self _))

end Pay

/-! ### Reconciling -/

section Reconcile

variable {tenant claimId fresh : Uuid} {claim : Claim} {db : Db} {session : Session Db}
variable {lines : List (Uuid × Receivable)} {body : RemittanceBody}
variable {input : ReconcileInput} {outcome : ReconcileOutcome}

/-- The lines are different receivables, each with room in its version. -/
def LinesRoom (lines : List (Uuid × Receivable)) (db : Db) : Prop :=
  (lines.map Prod.fst).Nodup ∧
    ∀ line ∈ lines, ∀ r, db.receivables line.1 = some r → r.version < maxInteger

theorem LinesRoom.tail {line : Uuid × Receivable} {rest : List (Uuid × Receivable)} {db' : Db}
    (room : LinesRoom (line :: rest) db)
    (same : ∀ other, other ≠ line.1 → db'.receivables other = db.receivables other) : LinesRoom rest db' := by
  obtain ⟨fresh, distinct⟩ := nodup_cons.1 room.1
  refine ⟨distinct, fun other mem r here => ?_⟩
  have unlike : other.1 ≠ line.1 := by
    intro equal
    exact fresh (equal ▸ mem_map_of_mem mem)
  rw [same _ unlike] at here
  exact room.2 other (mem_cons_of_mem _ mem) r here

theorem clearLines_succeeds {nextState : ReceivableState} (sound : session.aborted = false)
    (room : LinesRoom lines session.db) :
    Succeeds (engine tenant) (.quiet fresh) (clearLines nextState (lineRows lines)) session := by
  suffices loop : Succeeds (engine tenant) (.quiet fresh) (forEach (fun line : LineRow =>
      clientQuery (.clearReceivable line.id nextState)) (lineRows lines)) session by
    exact succeeds_bind loop fun _ _ ran => succeeds_done _ ran.sound
  induction lines generalizing session with
  | nil => exact succeeds_done _ sound
  | cons line rest ih =>
    obtain ⟨row, db', updated, same⟩ := Db.updateReceivable_room tenant
      (fun r => { r with outstandingBalance := .zero, state := nextState }) (room.2 line mem_cons_self)
    have went : exec tenant (.clearReceivable line.1 nextState) session.db = .ok ((), db') := by
      simp only [exec, updated, ok_bind]
    refine succeeds_then (quiet_commits fresh sound went) ?_
    refine succeeds_bind (ih sound (room.tail same)) fun _ _ ran => ?_
    exact succeeds_done _ ran.sound

theorem apportionLines_succeeds {remaining : Nat} (sound : session.aborted = false)
    (room : LinesRoom lines session.db) :
    Succeeds (engine tenant) (.quiet fresh) (apportionLines remaining (lineRows lines)) session := by
  induction lines generalizing remaining session with
  | nil => exact succeeds_done _ sound
  | cons line rest ih =>
    obtain ⟨id, r⟩ := line
    rw [apportionLines_cons]
    split_ifs
    · exact succeeds_done _ sound
    · exact ih sound (room.tail fun _ _ => rfl)
    · obtain ⟨row, db', updated, same⟩ := Db.updateReceivable_room tenant
        (fun line => { line with outstandingBalance := r.outstandingBalance.minus remaining })
        (room.2 (id, r) mem_cons_self)
      have ran : exec tenant (.reduceReceivable id (r.outstandingBalance.minus remaining).text) session.db =
            .ok ((), db') := by
        simp only [exec, Money.ofText_text, orThrow, updated, ok_bind]
      exact succeeds_then (quiet_commits fresh sound ran) (ih sound (room.tail same))

theorem applyRemittance_succeeds (shape : isMoneyText input.remittedAmount = true)
    (sound : session.aborted = false) (room : LinesRoom lines session.db) :
    Succeeds (engine tenant) (.quiet fresh) (applyRemittance input outcome (lineRows lines)) session := by
  cases outcome with
  | settled | flagged => exact clearLines_succeeds sound room
  | partially =>
    obtain ⟨w, f, parts⟩ := plain_split shape
    rw [applyRemittance, (toScaledInt_of_plain parts).2.2]
    exact apportionLines_succeeds sound room

theorem castScaled {units : Int} (fits : units.natAbs < 10 ^ 19) :
    Numeric.ofText (fromScaledInt units) = .ok ⟨units, fits⟩ := by
  rw [fromScaledInt_eq]
  exact Numeric.ofText_text ⟨units, fits⟩

theorem castRemitted {text : String} (shape : isMoneyText text = true) :
    unitsOf text < 10 ^ 19 ∧ (∃ money, Money.ofText "remittance_amount_non_negative" text = .ok money) ∧
      ∃ n, Numeric.ofText text = .ok n := by
  obtain ⟨w, f, parts⟩ := plain_split shape
  have fits : (plainUnits w f : ℤ).natAbs < 10 ^ 19 := by
    rw [Int.natAbs_natCast]
    exact plainUnits_lt parts
  have below : unitsOf text < 10 ^ 19 := by
    rw [unitsOf_plain parts]
    exact plainUnits_lt parts
  have cast : Numeric.ofText text = .ok ⟨plainUnits w f, fits⟩ := by
    rw [Numeric.ofText_plain parts, Numeric.ofUnits_fits fits]
  exact ⟨below, ⟨_, Money.ofText_plain parts⟩, _, cast⟩

theorem recordRemittance_succeeds {claimed : Nat} {variance : Int} (sound : session.aborted = false)
    (reads : Uuid.ofText input.claimRef = some claimId) (here : session.db.claims claimId = some claim)
    (own : claim.tenantId = tenant) (ofTenant : input.tenantId = tenant)
    (shape : isMoneyText input.remittedAmount = true)
    (unused : (∀ r ∈ session.db.remittances, r.id ≠ fresh) ∧
        ∀ r ∈ session.db.reconciliationResults, r.id ≠ fresh) (fits : claimed < 10 ^ 19)
    (difference : variance.natAbs < 10 ^ 19) :
    Succeeds (engine tenant) (.quiet fresh)
      (recordRemittance input claim.storeId (fromScaledInt claimed) ⟨outcome, fromScaledInt variance⟩)
      session := by
  obtain ⟨-, ⟨money, stored⟩, ⟨remitted, cast⟩⟩ := castRemitted shape
  have claimedFits : (claimed : ℤ).natAbs < 10 ^ 19 := by simpa using fits
  have known : castUuid input.claimRef = .ok claimId := by rw [castUuid, reads]
  have linked : session.db.hasClaim claimId tenant claim.storeId = true := by
    simp [Db.hasClaim, here, own]
  have newRemittance : (session.db.remittances.all fun r => decide (r.id ≠ fresh)) = true :=
    all_eq_true.2 fun r mem => decide_eq_true (unused.1 r mem)
  have newResult : (session.db.reconciliationResults.all fun r => decide (r.id ≠ fresh)) = true :=
    all_eq_true.2 fun r mem => decide_eq_true (unused.2 r mem)
  have added : exec tenant (.insertRemittance fresh input.tenantId claim.storeId input.claimRef
      input.remittedAmount input.remittanceRef) session.db = .ok ((), { session.db with remittances :=
      session.db.remittances ++ [⟨fresh, tenant, claim.storeId, claimId, money, input.remittanceRef⟩] }) := by
    simp only [exec, known, stored, orThrow, ok_bind, ofTenant, decide_true, newRemittance, linked, require_true]
  have recorded : ∃ db', exec tenant (.insertReconciliationResult fresh input.tenantId claim.storeId
      input.claimRef (fromScaledInt claimed) input.remittedAmount (fromScaledInt variance) outcome)
      { session.db with remittances := session.db.remittances ++
        [⟨fresh, tenant, claim.storeId, claimId, money, input.remittanceRef⟩] } = .ok ((), db') := by
    have linked' := linked
    unfold Db.hasClaim at linked'
    simp only [exec, known, castScaled claimedFits, castScaled difference, cast, orThrow, ok_bind,
      ofTenant, decide_true, newResult, Db.hasClaim, linked', require_true]
    exact ⟨_, rfl⟩
  obtain ⟨db', recorded⟩ := recorded
  refine succeeds_then (commits_drawn sound) ?_
  refine succeeds_then (quiet_commits fresh sound added) ?_
  refine succeeds_then (commits_drawn sound) ?_
  exact ⟨(), _, quiet_commits fresh sound recorded⟩

theorem reconcileClaim_succeeds (reads : Uuid.ofText input.claimRef = some claimId)
    (here : db.claims claimId = some claim) (own : claim.tenantId = tenant)
    (version : claim.version < maxInteger) :
    ∃ db', exec tenant (.reconcileClaim input.claimRef) db = .ok ((), db') := by
  have known : castUuid input.claimRef = .ok claimId := by rw [castUuid, reads]
  simp only [exec, known, ok_bind, visible_some.2 ⟨here, own⟩, nextVersion, if_pos version]
  exact ⟨_, rfl⟩

/-- The writes of a reconciliation: the amounts fit, the versions have room, the identifiers are
new. -/
theorem writeReconciliation_succeeds {input : ReconcileInput} {w f : List Char}
    (sound : session.aborted = false) (reads : Uuid.ofText input.claimRef = some claimId)
    (here : session.db.claims claimId = some claim) (own : claim.tenantId = tenant)
    (ofTenant : input.tenantId = tenant) (parts : PlainParts 15 4 input.remittedAmount.toList w f)
    (shape : isMoneyText input.remittedAmount = true)
    (unused : (∀ r ∈ session.db.remittances, r.id ≠ fresh) ∧
        ∀ r ∈ session.db.reconciliationResults, r.id ≠ fresh) (fits : claimedSum (balances lines) < 10 ^ 19)
    (room : LinesRoom lines session.db) (version : claim.version < maxInteger) :
    Succeeds (engine tenant) (.quiet fresh)
      (writeReconciliation input claim.storeId (lineRows lines)
          (fromScaledInt (claimedSum (balances lines) : ℕ))
          ⟨remittanceOutcome (plainUnits w f) (balances lines),
           fromScaledInt ((claimedSum (balances lines) : ℕ) - (plainUnits w f : ℕ))⟩) session := by
  have below := plainUnits_lt parts
  refine succeeds_bind (recordRemittance_succeeds sound reads here own ofTenant shape unused fits
    (by omega)) fun _ recorded recording => ?_
  obtain ⟨remittance, result, -, kept⟩ := recordRemittance_effect recording
  have room' : LinesRoom lines recorded.db := by
    rw [kept]
    exact room
  refine succeeds_bind (applyRemittance_succeeds shape recording.sound room') fun _ applied applying => ?_
  have paid := applyRemittance_effect parts applying
  have present' : applied.db.claims claimId = some claim := by
    rw [paid, kept]
    exact here
  obtain ⟨db', marked⟩ := reconcileClaim_succeeds reads present' own version
  exact succeeds_then (quiet_commits fresh applying.sound marked) (succeeds_done _ applying.sound)

/-- What a reconciliation needs of the tables: a pending claim whose lines are all claimed, with
amounts and versions that fit their columns. -/
structure ReadyToReconcile (claimId : Uuid) (claim : Claim) (db : Db) : Prop where
  present : db.claims claimId = some claim
  pending : claim.status ≠ .reconciled
  nonempty : db.claimLines claim.tenantId claimId ≠ []
  claimed : ∀ line ∈ db.claimLines claim.tenantId claimId, line.2.state = .claimed
  fits : claimedSum (balances (db.claimLines claim.tenantId claimId)) < 10 ^ 19
  room : LinesRoom (db.claimLines claim.tenantId claimId) db
  version : claim.version < maxInteger

def remitInput (claimId : Uuid) (claim : Claim) (body : RemittanceBody) : ReconcileInput :=
  ⟨claim.tenantId, claimId.text, body.remittedAmount, body.remittanceRef⟩

theorem lockClaim_commits (here : db.claims claimId = some claim) :
    Commits (engine claim.tenantId) (.quiet fresh) (clientQuery (.lockClaim claimId.text)) (begun db)
      (some (claim.status, claim.storeId)) ⟨db, false, 1, 0⟩ := by
  have ran : exec claim.tenantId (.lockClaim claimId.text) db =
      .ok (some (claim.status, claim.storeId), db) := by
    simp only [exec, castUuid_text, ok_bind, visible_some.2 ⟨here, rfl⟩, map_some]
  exact quiet_commits fresh (show (begun db).aborted = false from rfl) ran

theorem lockClaimLines_commits (tenant claimId fresh : Uuid) (db : Db) :
    Commits (engine tenant) (.quiet fresh) (clientQuery (.lockClaimLines claimId.text)) ⟨db, false, 1, 0⟩
      (lineRows (db.claimLines tenant claimId)) ⟨db, false, 2, 0⟩ := by
  have ran : exec tenant (.lockClaimLines claimId.text) db =
      .ok (lineRows (db.claimLines tenant claimId), db) := by
    simp only [exec, castUuid_text, ok_bind]
    rfl
  exact quiet_commits fresh (show (⟨db, false, 1, 0⟩ : Session Db).aborted = false from rfl) ran

theorem reconcile_commits (ready : ReadyToReconcile claimId claim db)
    (shape : isMoneyText body.remittedAmount = true)
    (unused : (∀ r ∈ db.remittances, r.id ≠ fresh) ∧ ∀ r ∈ db.reconciliationResults, r.id ≠ fresh) :
    ∃ result after, Commits (engine claim.tenantId) (.quiet fresh)
      (reconcileRemittance (remitInput claimId claim body)) (begun db) (.ok result) after ∧
      after.db.claims claimId = some { claim with status := .reconciled, version := claim.version + 1 } := by
  have reads : Uuid.ofText (remitInput claimId claim body).claimRef = some claimId := Uuid.ofText_text claimId
  obtain ⟨w, f, parts⟩ := plain_split shape
  have locked := @lockClaim_commits claimId fresh claim db ready.present
  have lockedLines := lockClaimLines_commits claim.tenantId claimId fresh db
  obtain ⟨result, after, wrote⟩ := writeReconciliation_succeeds lockedLines.sound reads
    ready.present rfl rfl parts shape unused ready.fits ready.room ready.version
  obtain ⟨⟨result, rfl⟩, remittance, stored, -, written⟩ :=
    writeReconciliation_effect parts reads ready.present rfl wrote
  refine ⟨result, after, commits_append locked ?_, ?_⟩
  · show Commits _ _ (reconcileFound (remitInput claimId claim body) claim.status claim.storeId) _ _ _
    rw [reconcileFound, if_neg ready.pending]
    refine commits_append lockedLines ?_
    rw [reconcileLines_claimed parts ready.nonempty ready.claimed]
    exact wrote
  · rw [written]
    exact Function.update_self _ _ _

def remit (fresh claimId : Uuid) (claim : Claim) (body : RemittanceBody) : Call where
  request := .reconcileRemittance claim.tenantId claimId.text body
  world := .quiet fresh

theorem remit_valid (taken : remittanceIssues body = []) :
    (remit fresh claimId claim body).request.validate = .ok () := by
  have known : Uuid.isUuid claimId.text = true := by simp [Uuid.isUuid]
  show (do
    Request.validate.refuse (remittanceIssues body)
    assertUuid claimId.text "claimRef") = _
  rw [taken, assertUuid, if_pos known]
  rfl

/-- **A pending claim whose lines are all claimed is reconciled by any accepted remittance.** -/
theorem reconcile_succeeds (ready : ReadyToReconcile claimId claim db) (taken : remittanceIssues body = [])
    (unused : (∀ r ∈ db.remittances, r.id ≠ fresh) ∧ ∀ r ∈ db.reconciliationResults, r.id ≠ fresh) :
    (∃ answer, (handle (remit fresh claimId claim body) db).1 = .ok answer) ∧
      (handle (remit fresh claimId claim body) db).2.claims claimId =
      some { claim with status := .reconciled, version := claim.version + 1 } := by
  have valid : (remit fresh claimId claim body).request.validate = .ok () := remit_valid taken
  obtain ⟨result, after, ran, reconciled⟩ := reconcile_commits ready (remittance_accepted valid) unused
  have served : Commits (engine claim.tenantId) (.quiet fresh)
      (remit fresh claimId claim body).request.service (begun db) (.ok (.reconciliation result)) after :=
    commits_append ran ⟨rfl, ran.sound⟩
  have outcome : handle (remit fresh claimId claim body) db = (.ok (.reconciliation result), after.db) := by
    unfold handle
    rw [valid]
    dsimp only
    rw [show (remit fresh claimId claim body).request.service.transaction
      (engine (remit fresh claimId claim body).request.tenantId)
      (remit fresh claimId claim body).world db = _ from transaction_of_commits served]
  rw [outcome]
  exact ⟨⟨_, rfl⟩, reconciled⟩

end Reconcile

end DataPulse.Settlement
