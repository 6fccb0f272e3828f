/-
**What a remittance makes of the lines of a claim, and of its columns.**

* `Apportioned`, `remittance_apportioned`: a remittance below the claimed sum is spent on the lines in their
  order, as `waterfall` spends it, and the recorded variance is what stays owed;
* `overflows_iff`: a reconciliation fails on a `numeric(19,4)` column exactly where the balances of the
  claim's lines sum to 10^15 or more; `submitClaim_spares`: submitting a claim never does.
-/

import DataPulse.Lib.Waterfall
import DataPulse.Settlement.Claims
import DataPulse.Settlement.Stranding

namespace DataPulse.Settlement

open Lib Lib.Decimal Lib.Prog Platform

/-! ### The apportionment -/

def owed (db : Db) (line : Uuid × Receivable) : Nat :=
  ((db.receivables line.1).map fun r => r.outstandingBalance.units).getD 0

/-- **A remittance was spent on the lines, first in, first out.** -/
structure Apportioned (lines : List (Uuid × Receivable)) (remitted : Nat) (db : Db) : Prop where
  /-- No balance was raised; none is negative, since a balance is `Money`. -/
  lowered : ∀ line ∈ lines, owed db line ≤ line.2.outstandingBalance.units
  /-- Together the balances lost the remitted amount. -/
  spent : (lines.map (owed db)).sum + remitted = claimedSum (balances lines)
  /-- A line was paid from only where every earlier line is paid in full. -/
  ordered : ∀ before line later, lines = before ++ line :: later →
    owed db line < line.2.outstandingBalance.units → ∀ earlier ∈ before, owed db earlier = 0

/-- The lines are different receivables of the tenant, as the tables have them, all claimed. -/
structure StoredLines (tenant : Uuid) (lines : List (Uuid × Receivable)) (db : Db) : Prop where
  distinct : (lines.map Prod.fst).Nodup
  stored : ∀ line ∈ lines, db.receivables line.1 = some line.2 ∧ line.2.tenantId = tenant
  claimed : ∀ line ∈ lines, line.2.state = .claimed

def debts (lines : List (Uuid × Receivable)) : List Nat := lines.map fun line => line.2.outstandingBalance.units

theorem debts_cons (line : Uuid × Receivable) (rest : List (Uuid × Receivable)) :
    debts (line :: rest) = line.2.outstandingBalance.units :: debts rest := rfl

theorem balances_cons (line : Uuid × Receivable) (rest : List (Uuid × Receivable)) :
    balances (line :: rest) = (line.1, line.2.outstandingBalance) :: balances rest := rfl

theorem debts_sum (lines : List (Uuid × Receivable)) : (debts lines).sum = claimedSum (balances lines) := by
  rw [debts, claimedSum, balances, map_map]
  rfl

section Lines

variable {tenant : Uuid} {lines : List (Uuid × Receivable)}

/-- **The lines that `apportion` writes are left with what `waterfall` leaves.** -/
theorem writeBalances_waterfall {table : Uuid → Option Receivable} (remaining : Nat)
    (distinct : (lines.map Prod.fst).Nodup)
    (stored : ∀ line ∈ lines, table line.1 = some line.2 ∧ line.2.tenantId = tenant) :
    lines.map
      (fun line => ((writeBalances tenant .partially (apportion remaining (balances lines)) table line.1).map
          fun r => r.outstandingBalance.units).getD 0) = waterfall remaining (debts lines) := by
  induction lines generalizing remaining table with
  | nil => rfl
  | cons line rest ih =>
    obtain ⟨id, r⟩ := line
    obtain ⟨fresh, distinct⟩ := nodup_cons.1 distinct
    obtain ⟨here, own⟩ := stored (id, r) mem_cons_self
    have others (amount : Nat) : id ∉ (apportion amount (balances rest)).map Prod.fst := by
      intro mem
      have within := (apportion_sublist amount (balances rest)).subset mem
      rw [balances, map_map] at within
      exact fresh within
    rw [debts_cons, balances_cons, waterfall_cons, map_cons]
    unfold apportion
    split_ifs with spent empty
    · rw [spent, Nat.zero_sub, waterfall_zero, List.cons.injEq]
      refine ⟨by simp [writeBalances, here], ?_⟩
      refine map_congr_left fun other mem => ?_
      simp [writeBalances, (stored other (mem_cons_of_mem _ mem)).1]
    · rw [empty, Nat.zero_sub, Nat.sub_zero, List.cons.injEq]
      refine ⟨?_, ih remaining distinct fun other mem => stored other (mem_cons_of_mem _ mem)⟩
      rw [writeBalances_other (others remaining), here]
      exact empty
    · have written : writeBalance tenant .partially table (id, r.outstandingBalance.minus remaining) =
          Function.update table id (some (r.remitted .partially (r.outstandingBalance.minus remaining))) := by
        simp only [writeBalance, visible_some.2 ⟨here, own⟩]
      have step : ∀ other, writeBalances tenant .partially ((id, r.outstandingBalance.minus remaining) ::
              apportion (remaining - r.outstandingBalance.units) (balances rest)) table other =
          writeBalances tenant .partially (apportion (remaining - r.outstandingBalance.units) (balances rest))
          (Function.update table id (some (r.remitted .partially (r.outstandingBalance.minus remaining))))
          other := by
        intro other
        rw [← written]
        rfl
      simp only [step]
      rw [List.cons.injEq]
      refine ⟨?_, ih (remaining - r.outstandingBalance.units) distinct fun other mem => ?_⟩
      · rw [writeBalances_other (others _), Function.update_self]
        rfl
      · have apart : other.1 ≠ id := by
          rintro rfl
          exact fresh (mem_map.2 ⟨other, mem, rfl⟩)
        rw [Function.update_of_ne apart]
        exact stored other (mem_cons_of_mem _ mem)

theorem apportioned_of_waterfall {db : Db} {remitted : Nat} (below : remitted ≤ claimedSum (balances lines))
    (left : lines.map (owed db) = waterfall remitted (debts lines)) :
    Apportioned lines remitted db where
  lowered := by
    have pairs := waterfall_le remitted (debts lines)
    rw [← left, debts, List.forall₂_map_left_iff, List.forall₂_map_right_iff, List.forall₂_same] at pairs
    exact pairs
  spent := by
    rw [left, ← debts_sum]
    exact waterfall_spent (debts_sum lines ▸ below)
  ordered before line later split less prior member := by
    subst split
    obtain ⟨paid, rest, rests, shape, lengths, order⟩ := @waterfall_ordered remitted
      (debts (before ++ line :: later)) (debts before) (debts later) line.2.outstandingBalance.units
      (by simp [debts])
    rw [← left, map_append, map_cons] at shape
    obtain ⟨rfl, tail⟩ := List.append_inj shape (by simp [debts] at lengths; simpa using lengths.symm)
    obtain ⟨rfl, -⟩ := List.cons.inj tail
    exact order less _ (mem_map_of_mem member)

theorem query_sent (world : World Uuid Thrown) (statement : Stmt) (session : Session Db) :
    ((clientQuery statement).run (engine tenant) world session).2.sent = session.sent + 1 := by
  have counted : (answer (engine tenant) world statement session).2.sent = session.sent + 1 := by
    unfold answer
    split_ifs
    · rfl
    · split
      · rfl
      · split <;> rfl
  rw [← counted]
  simp only [clientQuery, query, Prog.run]
  split <;> rfl

/-- **The loop sends at most one UPDATE for each line**, whatever fails. -/
theorem apportionLines_sent (world : World Uuid Thrown) (remaining : Nat) (session : Session Db) :
    ((apportionLines remaining (lineRows lines)).run (engine tenant) world session).2.sent ≤
      session.sent + lines.length := by
  induction lines generalizing remaining session with
  | nil => exact Nat.le_refl _
  | cons line rest ih =>
    obtain ⟨id, r⟩ := line
    rw [apportionLines_cons, length_cons]
    split_ifs
    · exact Nat.le_add_right _ _
    · exact (ih remaining session).trans (by omega)
    · have counted : ((clientQuery (.reduceReceivable id (r.outstandingBalance.minus remaining).text)).run
          (engine tenant) world session).2.sent = session.sent + 1 := query_sent world _ session
      rw [run_bind]
      split
      · rename_i value after ran
        rw [ran] at counted
        exact (ih _ after).trans (by rw [counted]; omega)
      · rename_i error after ran
        rw [ran] at counted
        exact counted.le.trans (by omega)

end Lines

theorem ofText_fromScaledInt (units : Int) : Numeric.ofText (fromScaledInt units) = Numeric.ofUnits units := by
  have unchanged := trimBy_eq_self fun c mem => (scaledText_not_space 4 units c mem).1
  have whole : (units / 10 ^ 4 : ℚ) * 10 ^ 4 = units := by ring
  rw [fromScaledInt_eq, Numeric.ofText, String.toList_ofList, unchanged, literal_scaledText 4 (by decide)]
  simp only [whole, Numeric.roundHalfAway_intCast]

/-- **A remittance below the claimed sum, on any list of lines.** The loop sends at most one UPDATE for each
line, and ends where nothing fails and no version is at the end of its column. What a reconciliation commits
is spent on the lines, first in, first out, and its recorded variance is what they still owe. -/
theorem remittance_apportioned {tenant storeId claimId : Uuid} {claim : Claim} {input : ReconcileInput}
    {lines : List (Uuid × Receivable)} {session : Session Db} (stored : StoredLines tenant lines session.db)
    (present : session.db.claims claimId = some claim) (own : claim.tenantId = tenant)
    (reads : Uuid.ofText input.claimRef = some claimId) (accepted : isMoneyText input.remittedAmount = true)
    (below : unitsOf input.remittedAmount < claimedSum (balances lines)) :
    (∀ world middle, ((applyRemittance input .partially (lineRows lines)).run (engine tenant) world
          middle).2.sent ≤ middle.sent + lines.length) ∧
      (∀ fresh middle, middle.aborted = false → LinesRoom lines middle.db →
          Succeeds (engine tenant) (.quiet fresh) (applyRemittance input .partially (lineRows lines))
          middle) ∧
      ∀ world result after,
      Commits (engine tenant) world (reconcileLines input storeId (lineRows lines)) session result after →
      Apportioned lines (unitsOf input.remittedAmount) after.db ∧
      ∃ row, after.db.reconciliationResults = session.db.reconciliationResults ++ [row] ∧
      row.variance.units = ((lines.map (owed after.db)).sum : ℤ) := by
  obtain ⟨w, f, parts⟩ := plain_split accepted
  refine ⟨fun world middle => ?_, fun fresh middle sound room => applyRemittance_succeeds accepted sound room,
    fun world result after ran => ?_⟩
  · rw [applyRemittance, (toScaledInt_of_plain parts).2.2]
    exact apportionLines_sent world (plainUnits w f) middle
  · rw [unitsOf_plain parts] at below ⊢
    have nonempty : lines ≠ [] := by
      rintro rfl
      exact absurd below (Nat.not_lt_zero _)
    rw [reconcileLines_claimed parts nonempty stored.claimed] at ran
    obtain ⟨-, remittance, row, cast, written⟩ := writeReconciliation_effect parts reads present own ran
    have outcome : remittanceOutcome (plainUnits w f) (balances lines) = .partially := by
      rw [remittanceOutcome, outcomeOf, if_neg (by omega), if_pos (by omega)]
    rw [payout, outcome] at written
    have left : lines.map (owed after.db) = waterfall (plainUnits w f) (debts lines) := by
      rw [written]
      exact writeBalances_waterfall (plainUnits w f) stored.distinct stored.stored
    have apportioned := apportioned_of_waterfall below.le left
    refine ⟨apportioned, row, by rw [written], ?_⟩
    rw [ofText_fromScaledInt] at cast
    rw [Numeric.ofUnits_ok cast, ← apportioned.spent]
    push_cast
    ring

/-! ### The columns of a reconciliation -/

def overflow : Thrown := .pg (.plain .outOfRange)

section Submitting

variable {tenant : Uuid} {world : World Uuid Thrown}
variable {input : SubmitClaimInput} {refs : List String} {statement : Stmt}

theorem bind_spares {α β : Type} {first : Except Thrown α} {next : α → Except Thrown β}
    (one : first ≠ .error overflow) (two : ∀ value, next value ≠ .error overflow) :
    (first >>= next) ≠ .error overflow := by
  cases first with
  | error thrown =>
    intro same
    exact one (congrArg Except.error (Except.error.inj same))
  | ok value => exact two value

theorem require_spares {holds : Bool} {code : SqlState} {constraint : String} (other : code ≠ .outOfRange) :
    require holds code constraint ≠ .error overflow := by
  unfold require
  split
  · exact fun same => by cases same
  · intro same
    exact other (congrArg PgError.code (Thrown.pg.inj (Except.error.inj same)))

theorem castUuid_spares (text : String) : castUuid text ≠ .error overflow := by
  unfold castUuid
  split <;> exact fun same => by cases same

theorem mapM_castUuid_spares (texts : List String) : texts.mapM castUuid ≠ .error overflow := by
  induction texts with
  | nil => exact fun same => by cases same
  | cons text rest ih =>
    rw [mapM_cons]
    exact bind_spares (castUuid_spares text) fun id => bind_spares ih fun ids same => by cases same

def AllRoom (db : Db) : Prop := ∀ id r, db.receivables id = some r → r.version < maxInteger

theorem spares_statement {before after : Db → Prop} (calm : ∀ n, world.outage n = none)
    (spares : ∀ db, before db → exec tenant statement db ≠ .error overflow)
    (keeps : ∀ db reply db', before db → exec tenant statement db = .ok (reply, db') → after db') :
    Spares (engine tenant) world overflow before after (clientQuery statement) := by
  refine spares_query calm fun db holds => ?_
  cases ran : exec tenant statement db with
  | ok replied =>
    rw [show (engine tenant).exec statement db = _ from ran]
    exact keeps db replied.1 replied.2 holds ran
  | error thrown =>
    rw [show (engine tenant).exec statement db = _ from ran]
    exact fun same => spares db holds (same ▸ ran)

theorem spares_other (calm : ∀ n, world.outage n = none)
    (spares : ∀ db, exec tenant statement db ≠ .error overflow)
    (keeps : ∀ db reply db', exec tenant statement db = .ok (reply, db') → db'.receivables = db.receivables) :
    Spares (engine tenant) world overflow AllRoom AllRoom (clientQuery statement) := by
  refine spares_statement calm (fun db _ => spares db) fun db reply db' room ran => ?_
  intro id r here
  rw [keeps db reply db' ran] at here
  exact room id r here

theorem updateReceivables_room {ids : List Uuid} {db : Db} {set : Receivable → Receivable}
    (distinct : ids.Nodup) (room : ∀ id ∈ ids, ∀ r, db.receivables id = some r → r.version < maxInteger) :
    db.updateReceivables tenant set ids ≠ .error overflow := by
  induction ids generalizing db with
  | nil => exact fun same => by cases same
  | cons id rest ih =>
    obtain ⟨fresh, distinct⟩ := nodup_cons.1 distinct
    obtain ⟨row, db', updated, same⟩ := Db.updateReceivable_room tenant set (room id mem_cons_self)
    rw [Db.updateReceivables, updated]
    refine ih distinct fun other mem r here => ?_
    have apart : other ≠ id := fun equal => fresh (equal ▸ mem)
    rw [same other apart] at here
    exact room other (mem_cons_of_mem _ mem) r here

theorem linkReceivables_spares {storeId claimId : Uuid} (calm : ∀ n, world.outage n = none) :
    Spares (engine tenant) world overflow AllRoom (fun _ => True)
      (linkReceivables input storeId claimId refs) := by
  refine spares_bind (spares_forEach (fun ref => spares_bind spares_newId fun id => ?_) refs) fun _ => ?_
  · refine spares_other calm (fun db => ?_) fun db reply db' added => ?_
    · refine bind_spares (castUuid_spares ref) fun receivableId => ?_
      refine bind_spares (require_spares (by decide)) fun _ =>
        bind_spares (require_spares (by decide)) fun _ => ?_
      refine bind_spares (require_spares (by decide)) fun _ =>
        bind_spares (require_spares (by decide)) fun _ => ?_
      exact bind_spares (require_spares (by decide)) fun _ same => by cases same
    · obtain ⟨receivableId, -, -, rfl⟩ := insertClaimReceivable_ok added
      rfl
  · refine spares_statement calm (fun db room => ?_) fun _ _ _ _ _ => trivial
    refine bind_spares (mapM_castUuid_spares refs) fun ids => ?_
    exact bind_spares (updateReceivables_room (List.nodup_dedup ids) fun id _ r here => room id r here)
      fun db' same => by cases same

theorem claimFound_spares {found : List FoundRow} (calm : ∀ n, world.outage n = none) :
    Spares (engine tenant) world overflow AllRoom (fun _ => True) (claimFound input refs found) := by
  have conflict : Spares (engine tenant) world overflow AllRoom (fun _ => True)
      (.done .conflict : Service SubmitClaimResult) := fun _ sound _ => ⟨sound, trivial⟩
  unfold claimFound
  split_ifs
  · exact conflict
  · exact conflict
  · exact conflict
  · split
    · rename_i storeId stores
      refine spares_bind spares_newId fun claimId => ?_
      refine spares_bind (spares_other calm (fun db => ?_) fun db reply db' added => ?_) fun _ => ?_
      · refine bind_spares (castUuid_spares input.payerRef) fun payerId => ?_
        refine bind_spares (require_spares (by decide)) fun _ =>
          bind_spares (require_spares (by decide)) fun _ => ?_
        exact bind_spares (require_spares (by decide)) fun _ same => by cases same
      · obtain ⟨payerId, -, -, rfl⟩ := insertClaim_ok added
        rfl
      · refine spares_bind (linkReceivables_spares calm) fun _ => ?_
        exact fun _ sound _ => ⟨sound, trivial⟩
    · exact conflict

/-- **Submitting a claim overflows no column.** -/
theorem submitClaim_spares (calm : ∀ n, world.outage n = none) :
    Spares (engine tenant) world overflow AllRoom (fun _ => True) (submitClaim input) := by
  refine spares_bind (spares_other calm (fun db => ?_) fun db reply db' selected => ?_) fun payer => ?_
  · exact bind_spares (castUuid_spares input.payerRef) fun id same => by cases same
  · rw [selectPayer_ok selected]
  · split_ifs
    · exact fun _ sound _ => ⟨sound, trivial⟩
    · refine spares_bind (spares_other calm (fun db => ?_) fun db reply db' locked => ?_) fun found => ?_
      · exact bind_spares (mapM_castUuid_spares _) fun ids same => by cases same
      · obtain ⟨ids, -, rfl, -⟩ := lockReceivables_ok locked
        rfl
      · exact claimFound_spares calm

end Submitting

section Reconciling

variable {db : Db} {claimId fresh : Uuid} {claim : Claim} {body : RemittanceBody}
variable {thrown : Thrown}

theorem recordRemittance_throws {input : ReconcileInput} {claimed : Nat} {decision : ReconcileDecision}
    {session : Session Db} (sound : session.aborted = false)
    (reads : Uuid.ofText input.claimRef = some claimId) (here : session.db.claims claimId = some claim)
    (own : claim.tenantId = input.tenantId) (shape : isMoneyText input.remittedAmount = true)
    (unused : ∀ r ∈ session.db.remittances, r.id ≠ fresh) (large : ¬ claimed < 10 ^ 19) :
    Throws (engine input.tenantId) (.quiet fresh)
      (recordRemittance input claim.storeId (fromScaledInt claimed) decision) session overflow := by
  obtain ⟨-, ⟨money, stored⟩, -⟩ := castRemitted shape
  have known : castUuid input.claimRef = .ok claimId := by rw [castUuid, reads]
  have linked : session.db.hasClaim claimId input.tenantId claim.storeId =
    true := by simp [Db.hasClaim, here, own]
  have new : (session.db.remittances.all fun r => decide (r.id ≠ fresh)) = true :=
    all_eq_true.2 fun r mem => decide_eq_true (unused r mem)
  have added : exec input.tenantId (.insertRemittance fresh input.tenantId claim.storeId input.claimRef
      input.remittedAmount input.remittanceRef) session.db = .ok ((), { session.db with
        remittances := session.db.remittances ++
          [⟨fresh, input.tenantId, claim.storeId, claimId, money, input.remittanceRef⟩] }) := by
    simp only [exec, known, stored, orThrow, ok_bind, decide_true, new, linked, require_true]
  have wide : Numeric.ofText (fromScaledInt claimed) = .error (.plain .outOfRange) := by
    rw [ofText_fromScaledInt]
    exact Numeric.ofUnits_error (by simpa using large)
  have refused (db : Db) : exec input.tenantId (.insertReconciliationResult fresh input.tenantId claim.storeId
      input.claimRef (fromScaledInt claimed) input.remittedAmount decision.variance decision.outcome) db =
      .error overflow := by
    simp only [exec, known, wide, orThrow, ok_bind]
    rfl
  refine throws_then (commits_drawn sound) (throws_then (quiet_commits fresh sound added) ?_)
  exact throws_then (commits_drawn sound) (throws_executed rfl sound (refused _))

theorem remit_returned {result : ReconcileResult} {after : Session Db} (taken : remittanceIssues body = [])
    (ran : Commits (engine claim.tenantId) (.quiet fresh)
      (reconcileRemittance (remitInput claimId claim body)) (begun db) result after) :
    (handle (remit fresh claimId claim body) db).1 ≠ .error (.thrown thrown) := by
  have served : ∃ answer, (∀ thrown, answer ≠ .error (.thrown thrown)) ∧ Commits (engine claim.tenantId)
        (.quiet fresh) (remit fresh claimId claim body).request.service (begun db) answer after := by
    cases result with
    | ok result =>
      refine ⟨.ok (.reconciliation result), fun _ same => (by cases same), ?_⟩
      exact commits_append ran ⟨rfl, ran.sound⟩
    | notFound =>
      refine ⟨.error .notFound, fun _ same => (by cases same), ?_⟩
      exact commits_append ran ⟨rfl, ran.sound⟩
    | conflict =>
      refine ⟨.error (.conflict "The claim is not in a reconcilable state (already reconciled)."),
        fun _ same => (by cases same), ?_⟩
      exact commits_append ran ⟨rfl, ran.sound⟩
  obtain ⟨answer, spares, served⟩ := served
  unfold handle
  rw [remit_valid taken]
  dsimp only
  rw [show (remit fresh claimId claim body).request.service.transaction
    (engine (remit fresh claimId claim body).request.tenantId) (remit fresh claimId claim body).world db = _ from
    transaction_of_commits served]
  exact spares thrown

theorem remit_thrown (taken : remittanceIssues body = [])
    (ran : Throws (engine claim.tenantId) (.quiet fresh) (reconcileRemittance (remitInput claimId claim body))
      (begun db) thrown) : (handle (remit fresh claimId claim body) db).1 = .error (.thrown thrown) := by
  have served : Throws (engine claim.tenantId) (.quiet fresh) (remit fresh claimId claim body).request.service
    (begun db) thrown := throws_first ran
  unfold handle
  rw [remit_valid taken]
  dsimp only
  rw [show (remit fresh claimId claim body).request.service.transaction
    (engine (remit fresh claimId claim body).request.tenantId) (remit fresh claimId claim body).world db = _ from
    transaction_of_throws served]

/-- What a reconciliation needs to reach its first INSERT. -/
def Remittable (claimId : Uuid) (claim : Claim) (db : Db) : Prop :=
  claim.status ≠ .reconciled ∧ db.claimLines claim.tenantId claimId ≠ [] ∧
    ∀ line ∈ db.claimLines claim.tenantId claimId, line.2.state = .claimed

theorem reconcile_conflict (here : db.claims claimId = some claim) (other : ¬ Remittable claimId claim db) :
    ∃ after, Commits (engine claim.tenantId) (.quiet fresh)
      (reconcileRemittance (remitInput claimId claim body)) (begun db) .conflict after := by
  have locked := @lockClaim_commits claimId fresh claim db here
  have lockedLines := lockClaimLines_commits claim.tenantId claimId fresh db
  by_cases reconciled : claim.status = .reconciled
  · refine ⟨⟨db, false, 1, 0⟩, commits_append locked ?_⟩
    show Commits _ _ (reconcileFound (remitInput claimId claim body) claim.status claim.storeId) _ _ _
    rw [reconcileFound, if_pos reconciled]
    exact ⟨rfl, rfl⟩
  · refine ⟨⟨db, false, 2, 0⟩, commits_append locked ?_⟩
    show Commits _ _ (reconcileFound (remitInput claimId claim body) claim.status claim.storeId) _ _ _
    rw [reconcileFound, if_neg reconciled]
    refine commits_append lockedLines ?_
    unfold reconcileLines
    split_ifs with empty moved
    · exact ⟨rfl, rfl⟩
    · exact ⟨rfl, rfl⟩
    · refine absurd ⟨reconciled, fun none => empty ?_, fun line mem => ?_⟩ other
      · rw [lineRows, length_map]
        exact length_eq_zero_iff.2 none
      · by_contra elsewhere
        exact moved ⟨_, mem_map_of_mem mem, elsewhere⟩

/-- **A reconciliation fails on a numeric column exactly where it goes on to record a claimed sum of 10^15
or more.** -/
theorem overflows_of_ready (kept : WellKept db) (present : db.claims claimId = some claim)
    (taken : remittanceIssues body = [])
    (unused : (∀ r ∈ db.remittances, r.id ≠ fresh) ∧ ∀ r ∈ db.reconciliationResults, r.id ≠ fresh)
    (room : AllRoom db) :
    (handle (remit fresh claimId claim body) db).1 = .error (.thrown overflow) ↔
      Remittable claimId claim db ∧
      10 ^ 19 ≤ claimedSum (balances (db.claimLines claim.tenantId claimId)) := by
  by_cases ready : Remittable claimId claim db
  · obtain ⟨pending, nonempty, claimed⟩ := id ready
    by_cases fits : claimedSum (balances (db.claimLines claim.tenantId claimId)) < 10 ^ 19
    · have versions : LinesRoom (db.claimLines claim.tenantId claimId) db :=
        ⟨kept.claimLines_distinct _ _, fun line _ r here => room line.1 r here⟩
      have unmoved : claim.version < maxInteger := by
        rw [kept.untouched claimId claim present pending]
        decide
      obtain ⟨⟨answer, answered⟩, -⟩ := reconcile_succeeds
        ⟨present, pending, nonempty, claimed, fits, versions, unmoved⟩ taken unused
      rw [answered]
      exact ⟨fun thrown => (by cases thrown), fun ⟨_, large⟩ => absurd fits (Nat.not_lt.2 large)⟩
    · refine ⟨fun _ => ⟨ready, Nat.not_lt.1 fits⟩, fun _ => remit_thrown taken ?_⟩
      have shape : isMoneyText body.remittedAmount = true :=
        @remittance_accepted () claim.tenantId claimId.text body (@remit_valid claimId fresh claim body taken)
      obtain ⟨w, f, parts⟩ := plain_split shape
      have locked := @lockClaim_commits claimId fresh claim db present
      have lockedLines := lockClaimLines_commits claim.tenantId claimId fresh db
      refine throws_then locked ?_
      show Throws _ _ (reconcileFound (remitInput claimId claim body) claim.status claim.storeId) _ _
      rw [reconcileFound, if_neg pending]
      refine throws_then lockedLines ?_
      rw [reconcileLines_claimed parts nonempty claimed]
      have thrown :
          Throws (engine claim.tenantId) (.quiet fresh) (recordRemittance (remitInput claimId claim body)
              claim.storeId (fromScaledInt (claimedSum (balances (db.claimLines claim.tenantId claimId)) : ℕ))
              ⟨remittanceOutcome (plainUnits w f) (balances (db.claimLines claim.tenantId claimId)),
              fromScaledInt
              ((claimedSum (balances (db.claimLines claim.tenantId claimId)) : ℕ) - (plainUnits w f : ℕ))⟩)
          ⟨db, false, 2, 0⟩ overflow :=
        @recordRemittance_throws claimId fresh claim (remitInput claimId claim body) _ _ ⟨db, false, 2, 0⟩ rfl
          (Uuid.ofText_text claimId) present rfl shape unused.1 fits
      exact throws_first thrown
  · obtain ⟨after, ran⟩ := @reconcile_conflict db claimId fresh claim body present ready
    exact ⟨fun thrown => absurd thrown (remit_returned taken ran), fun ⟨holds, _⟩ => absurd holds ready⟩

end Reconciling

theorem run_version (most : Nat) (calls : List Call) {db : Db} (kept : WellKept db)
    (bounded : ∀ id r, db.receivables id = some r → r.version ≤ most) :
    ∀ id r, (run calls db).receivables id = some r → r.version ≤ most + calls.length := by
  induction calls generalizing db most with
  | nil => exact bounded
  | cons call rest ih =>
    have next : ∀ id r', (handle call db).2.receivables id = some r' → r'.version ≤ most + 1 := by
      intro id r' present'
      rcases handle_version call kept present' with zero | ⟨r, here, rfl | ⟨-, next⟩⟩
      · omega
      · exact (bounded id _ here).trans (Nat.le_succ _)
      · rw [next]
        exact Nat.succ_le_succ (bounded id r here)
    intro id r here
    have bound := ih (most + 1) (wellKept_handle call db kept) next id r here
    rw [length_cons]
    omega

theorem submitClaim_answer {tenantId : Uuid} {body : ClaimCreateBody} {world : World Uuid Thrown}
    {answer : Except Failure ResponseBody} {db after : Db} {thrown : Thrown}
    (ran : (Request.submitClaim tenantId body).service.transaction (engine tenantId) world db =
      (.ok answer, after)) : answer ≠ .error (.thrown thrown) := by
  unfold Prog.transaction at ran
  split at ran
  · rename_i value session gave
    cases ran
    change (Prog.bind (submitClaim ⟨tenantId, body.payerRef, body.receivableRefs⟩) _).run _ _ _ = _ at gave
    rw [run_bind] at gave
    split at gave
    · rename_i result middle submitted
      cases result <;> cases gave <;> exact fun same => by cases same
    · cases gave
  · cases ran

/-- **Over any run, a remittance to a claim overflows a column exactly where it goes on to record a claimed
sum of 10^15 or more, and submitting a claim never does**, where nothing fails, the drawn identifiers are
new and no version is at the end of its column. -/
theorem overflows_iff (reference : Reference) (calls : List Call)
    (room : AllRoom (run calls reference.start)) :
    (∀ claimId claim body fresh,
        (run calls reference.start).claims claimId = some claim → remittanceIssues body = [] →
        ((∀ r ∈ (run calls reference.start).remittances, r.id ≠ fresh) ∧
            ∀ r ∈ (run calls reference.start).reconciliationResults, r.id ≠ fresh) →
        ((handle (remit fresh claimId claim body) (run calls reference.start)).1 ≠ .error (.thrown overflow) ↔
          (Remittable claimId claim (run calls reference.start) →
            claimedSum (balances ((run calls reference.start).claimLines claim.tenantId claimId)) <
            10 ^ 19))) ∧
      ∀ tenantId body world, (∀ n, world.outage n = none) →
      (handle ⟨.submitClaim tenantId body, world⟩ (run calls reference.start)).1 ≠
      .error (.thrown overflow) := by
  constructor
  · intro claimId claim body fresh present accepted unused
    rw [ne_eq, overflows_of_ready (wellKept_run reference calls) present accepted unused room, not_and,
      Nat.not_le]
  · intro tenantId body world calm same
    unfold handle at same
    split at same
    · rename_i failure refused
      have issues : Request.validate.refuse (claimIssues body) = .error failure := refused
      rw [Except.error.inj same] at issues
      unfold Request.validate.refuse at issues
      split at issues <;> cases issues
    · split at same
      · rename_i answer after ran
        exact submitClaim_answer ran same
      · rename_i thrown after ran
        have spares : Spares (engine tenantId) world overflow AllRoom (fun _ => True)
            (Request.submitClaim tenantId body).service := by
          refine spares_bind (submitClaim_spares calm) fun result => ?_
          cases result <;> exact fun _ sound _ => ⟨sound, trivial⟩
        exact transaction_spares spares room ((congrArg Prod.fst ran).trans
          (congrArg Except.error (Failure.thrown.inj (Except.error.inj same))))

theorem overflows_iff_sample :
    (∀ body, remittanceIssues body = [] →
        (handle (remit (.sample 1) (.sample 1) sampleClaim body)
          (run twoLineClaim Reference.sample.start)).1 ≠ .error (.thrown overflow)) ∧
      ∀ tenantId body world, (∀ n, world.outage n = none) →
      (handle ⟨.submitClaim tenantId body, world⟩ (run twoLineClaim Reference.sample.start)).1 ≠
      .error (.thrown overflow) := by
  have room : AllRoom (run twoLineClaim Reference.sample.start) := by
    intro id r here
    have bound :=
      run_version 0 twoLineClaim (wellKept_start Reference.sample) (fun _ _ none => nomatch none) id r here
    exact lt_of_le_of_lt bound (by decide)
  obtain ⟨remitting, submitting⟩ := overflows_iff Reference.sample twoLineClaim room
  refine ⟨fun body taken => (remitting (.sample 1) sampleClaim body (.sample 1) (by decide +kernel) taken
    ⟨by decide +kernel, by decide +kernel⟩).2 fun _ => (by decide +kernel), submitting⟩

/-! ### Samples -/

section Samples

def claimedReceivable (amount : Money) : Receivable :=
  ⟨.sample 7, .sample 6, .sample 8, .sample 9, amount, .claimed, none, none, 1⟩

def sampleLines : List (Uuid × Receivable) := [(.sample 1, claimedReceivable ⟨100000, by decide⟩),
  (.sample 2, claimedReceivable .zero), (.sample 3, claimedReceivable ⟨200000, by decide⟩)]

def sampleTables : Db where
  payers := fun _ => none
  sales := fun _ => none
  receivables := fun id => (sampleLines.find? fun line => line.1 = id).map Prod.snd
  claims := fun id => if id = .sample 1 then some sampleClaim else none
  paymentApplications := []
  claimReceivables := []
  remittances := []
  reconciliationResults := []

theorem remittance_apportioned_sample : ∃ after, Apportioned sampleLines 150000 after := by
  have parts : PlainParts 15 4 "15".toList "15".toList [] :=
    ⟨by decide, by decide, by decide, by decide, by decide, .inl ⟨rfl, rfl⟩⟩
  have stored : StoredLines (.sample 7) sampleLines (begun sampleTables).db :=
    ⟨by decide +kernel, by decide +kernel, by decide +kernel⟩
  have room : LinesRoom sampleLines sampleTables := by
    refine ⟨stored.distinct, fun line member r here => ?_⟩
    cases ((stored.stored line member).1.symm.trans here)
    revert line
    decide +kernel
  have ran : Succeeds (engine (.sample 7)) (.quiet (.sample 1))
      (reconcileLines (remitInput (.sample 1) sampleClaim ⟨"15", none⟩) (.sample 6) (lineRows sampleLines))
      (begun sampleTables) := by
    rw [reconcileLines_claimed parts (by decide) stored.claimed]
    exact @writeReconciliation_succeeds (.sample 7) (.sample 1) _ sampleClaim _ _ _ _ _ rfl (Uuid.ofText_text _)
      rfl rfl rfl parts (by decide) (by decide) (by decide) room (by decide)
  obtain ⟨result, after, committed⟩ := ran
  have apportioned := ((@remittance_apportioned (.sample 7) (.sample 6) (.sample 1) sampleClaim
    (remitInput (.sample 1) sampleClaim ⟨"15", none⟩) sampleLines (begun sampleTables) stored rfl rfl
    (Uuid.ofText_text _) (by decide) (by decide +kernel)).2.2 _ _ _ committed).1
  have remitted : unitsOf "15" = 150000 := by decide +kernel
  rw [← remitted]
  exact ⟨after.db, apportioned⟩

/-- Receivables over 10^15 - 0.0001 and 1.00, both put on a claim. -/
def wideClaim : List Call := [
  ⟨.recordIntent (.sample 7) (.sample 6) ⟨(sample 8).text, none,
    [⟨(sample 9).text, "999999999999999.9999"⟩, ⟨(sample 9).text, "1.00"⟩]⟩, sampleWorld 1⟩,
  ⟨.submitClaim (.sample 7) ⟨(sample 9).text, [(sample 1).text, (sample 2).text]⟩,
    sampleWorld 1⟩]

/-- Two accepted receivables, an accepted claim, and any remittance: the reconciliation fails. -/
theorem wide_overflows :
    ¬
      ∀ (reference : Reference) (calls : List Call) claimId claim body fresh,
      (run calls reference.start).claims claimId = some claim → remittanceIssues body = [] →
      (handle (remit fresh claimId claim body) (run calls reference.start)).1 ≠
      .error (.thrown overflow) := by
  intro law
  have failed : (match (handle (remit (.sample 1) (.sample 1) sampleClaim ⟨"30", none⟩)
      (run wideClaim Reference.sample.start)).1 with
    | .error (.thrown thrown) => decide (thrown = overflow)
    | .error (.validation _) | .error (.http _ _ _) | .ok _ => false) = true := by
    decide +kernel
  refine law Reference.sample wideClaim (.sample 1) sampleClaim ⟨"30", none⟩ (.sample 1) (by decide +kernel)
    (by decide +kernel) ?_
  split at failed
  · rename_i thrown answered
    rw [answered, of_decide_eq_true failed]
  all_goals cases failed

end Samples

end DataPulse.Settlement
