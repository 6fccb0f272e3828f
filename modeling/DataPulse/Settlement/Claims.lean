/-
**Which claims can still be reconciled.**

A payment may be applied to a receivable that stands on a claim. It then leaves the state `claimed`,
and with it the claim can become stuck (`stuck_run`), or another claim can take the receivable. A
receivable that is not paid while it stands on a pending claim is safe from both:

* `undisturbed_claims`: a pending claim over such receivables is reconciled by any accepted
  remittance, as far as the amounts and versions fit their columns.
-/

import DataPulse.Settlement.Progress

namespace DataPulse.Settlement

open Lib Platform

variable {claimId id : Uuid} {db db' : Db}
variable {tenant : Uuid}

/-! ### Receivables on pending claims -/

def PendingClaim (claimId : Uuid) (db : Db) : Prop :=
  ∃ claim, db.claims claimId = some claim ∧ claim.status ≠ .reconciled

/-- The receivable is a line of a claim that is not reconciled. -/
def OnPendingClaim (id : Uuid) (db : Db) : Prop :=
  ∃ line ∈ db.claimReceivables, line.receivableId = id ∧ PendingClaim line.claimId db

def OnOneClaim (id : Uuid) (db : Db) : Prop :=
  ∀ first ∈ db.claimReceivables, ∀ second ∈ db.claimReceivables, first.receivableId = id →
    second.receivableId = id → PendingClaim first.claimId db → PendingClaim second.claimId db →
    first.claimId = second.claimId

/-- The request applies no payment to the receivable while that stands on a pending claim. -/
def LeavesClaimed (id : Uuid) (call : Call) (db : Db) : Prop :=
  OnPendingClaim id db → applications id (handle call db).2 = applications id db

/-- What pending claims rely on. -/
structure Exclusive (id : Uuid) (db : Db) : Prop where
  claimed : OnPendingClaim id db → ∃ r, db.receivables id = some r ∧ r.state = .claimed
  single : OnOneClaim id db

theorem exclusive_of_same (exclusive : Exclusive id db) (claims : db'.claims = db.claims)
    (lines : db'.claimReceivables = db.claimReceivables)
    (kept : OnPendingClaim id db → db'.receivables id = db.receivables id) : Exclusive id db' := by
  have pending : ∀ claimId, PendingClaim claimId db' ↔ PendingClaim claimId db := by
    intro claimId
    rw [PendingClaim, PendingClaim, claims]
  have onPending : OnPendingClaim id db' → OnPendingClaim id db := by
    rintro ⟨line, mem, ofId, isPending⟩
    rw [lines] at mem
    exact ⟨line, mem, ofId, (pending _).1 isPending⟩
  constructor
  · intro on
    rw [kept (onPending on)]
    exact exclusive.claimed (onPending on)
  · intro first inOne second inTwo ofFirst ofSecond pendingFirst pendingSecond
    rw [lines] at inOne inTwo
    exact exclusive.single first inOne second inTwo ofFirst ofSecond
      ((pending _).1 pendingFirst) ((pending _).1 pendingSecond)

theorem Submitted.exclusive {claim : Claim} {lines : List ClaimReceivable} (kept : WellKept db)
    (did : Submitted tenant claimId claim lines db db') (exclusive : Exclusive id db) : Exclusive id db' := by
  have rows : db'.claimReceivables = db.claimReceivables ++ lines := by
    rw [did.written]
  -- a line that was there belongs to another claim, which is as it was
  have before : ∀ line ∈ db.claimReceivables, PendingClaim line.claimId db' → PendingClaim line.claimId db := by
    rintro line mem ⟨claim', here, isPending⟩
    obtain ⟨⟨claim'', known, -⟩, -⟩ := kept.linked line mem
    have unlike : line.claimId ≠ claimId := by
      intro equal
      rw [equal, did.free] at known
      cases known
    rw [did.written] at here
    exact ⟨claim', (Function.update_of_ne unlike _ _).symm.trans here, isPending⟩
  have added : ∀ line ∈ lines, line.receivableId = id → ¬ OnPendingClaim id db := by
    rintro line mem rfl on
    obtain ⟨r, here, -, claimable⟩ := did.claimable line mem
    obtain ⟨r', present', claimed⟩ := exclusive.claimed on
    rw [← mem_unique here present'] at claimed
    rw [claimed] at claimable
    exact absurd claimable (by decide)
  constructor
  · rintro ⟨line, mem, rfl, isPending⟩
    rw [rows] at mem
    rcases mem_append.1 mem with old | new
    · have on : OnPendingClaim line.receivableId db := ⟨line, old, rfl, before line old isPending⟩
      obtain ⟨r, here, claimed⟩ := exclusive.claimed on
      rcases did.receivable here with ⟨-, same⟩ | ⟨onNew, -, -⟩
      · exact ⟨r, same, claimed⟩
      · obtain ⟨line', inNew, same⟩ := mem_map.1 onNew
        exact absurd on (added line' inNew same)
    · obtain ⟨r, here, -, -⟩ := did.claimable line new
      rcases did.receivable here with ⟨absent, -⟩ | ⟨-, -, written⟩
      · exact absurd (mem_map_of_mem new) absent
      · exact ⟨r.submitted, written, rfl⟩
  · intro first inOne second inTwo ofFirst ofSecond pendingFirst pendingSecond
    rw [rows] at inOne inTwo
    rcases mem_append.1 inOne with oldFirst | newFirst
    · have on : OnPendingClaim id db := ⟨first, oldFirst, ofFirst, before _ oldFirst pendingFirst⟩
      rcases mem_append.1 inTwo with oldSecond | newSecond
      · exact exclusive.single first oldFirst second oldSecond ofFirst ofSecond
          (before _ oldFirst pendingFirst) (before _ oldSecond pendingSecond)
      · exact absurd on (added second newSecond ofSecond)
    · rcases mem_append.1 inTwo with oldSecond | newSecond
      · exact absurd ⟨second, oldSecond, ofSecond, before _ oldSecond pendingSecond⟩
          (added first newFirst ofFirst)
      · exact (did.linked first newFirst).1.trans (did.linked second newSecond).1.symm

theorem Reconciled.exclusive {claim : Claim} {remitted : Nat} (kept : WellKept db)
    (did : Reconciled tenant claimId claim remitted db db') (exclusive : Exclusive id db) :
    Exclusive id db' := by
  have rows : db'.claimReceivables = db.claimReceivables := by
    obtain ⟨remittance, result, rfl⟩ := did.written
    rfl
  -- what is still pending is another claim, which was pending before
  have before : ∀ other, PendingClaim other db' → other ≠ claimId ∧ PendingClaim other db := by
    obtain ⟨remittance, result, rfl⟩ := did.written
    rintro other ⟨claim', here, isPending⟩
    have unlike : other ≠ claimId := by
      rintro rfl
      simp only [Function.update_self, Option.some.injEq] at here
      rw [← here] at isPending
      exact isPending rfl
    exact ⟨unlike, claim', (Function.update_of_ne unlike _ _).symm.trans here, isPending⟩
  constructor
  · rintro ⟨line, mem, ofId, isPending⟩
    rw [rows] at mem
    obtain ⟨unlike, wasPending⟩ := before _ isPending
    obtain ⟨r, here, claimed⟩ := exclusive.claimed ⟨line, mem, ofId, wasPending⟩
    rcases did.receivable kept id with same | ⟨r', balance, inClaim, -⟩
    · exact ⟨r, same.trans here, claimed⟩
    · obtain ⟨line', member', -, ofClaim, ofId', -⟩ := mem_claimLines.1 inClaim
      have wasPending' : PendingClaim line'.claimId db := ⟨claim, ofClaim ▸ did.present, did.pending⟩
      have same := exclusive.single line mem line' member' ofId ofId' wasPending wasPending'
      exact absurd (same.trans ofClaim) unlike
  · intro first inOne second inTwo ofFirst ofSecond pendingFirst pendingSecond
    rw [rows] at inOne inTwo
    exact exclusive.single first inOne second inTwo ofFirst ofSecond
      (before _ pendingFirst).2 (before _ pendingSecond).2

theorem exclusive_handle (call : Call) (db : Db) (kept : WellKept db ∧ Exclusive id db)
    (leaves : LeavesClaimed id call db) : WellKept (handle call db).2 ∧ Exclusive id (handle call db).2 := by
  refine ⟨wellKept_handle call db kept.1, ?_⟩
  obtain ⟨kept, exclusive⟩ := kept
  unfold LeavesClaimed at leaves
  rcases handle_cases call db with same | ⟨-, -, effect⟩
  · rwa [same]
  · generalize (handle call db).2 = db' at effect leaves ⊢
    generalize call.request = request at effect
    cases effect with
    | opened did =>
      have frame : db' = { db with receivables := db'.receivables } := did.frame
      refine exclusive_of_same exclusive (by rw [frame]) (by rw [frame]) fun on => ?_
      obtain ⟨r, here, -⟩ := exclusive.claimed on
      exact (did.kept id r here).trans here.symm
    | @applied _ target _ _ _ payment _ _ _ did amount =>
      have added : db'.paymentApplications = db.paymentApplications ++ [payment] := by
        rw [did.written]
      refine exclusive_of_same exclusive (by rw [did.written]; rfl) (by rw [did.written]; rfl)
        fun on => ?_
      have unlike : id ≠ target := by
        rintro rfl
        have more : applications id db' = _ := applications_append added
        rw [leaves on, if_pos did.target] at more
        have positive := did.positive
        omega
      rw [did.written]
      exact Db.setReceivable_of_ne unlike _
    | submitted did | reconciled target did => exact did.exclusive kept exclusive

/-- **A receivable that is not paid while on a pending claim is claimed, and on one of them.** -/
theorem exclusive_run {reference : Reference} {calls : List Call}
    (undisturbed : Along (LeavesClaimed id) calls reference.start) :
    Exclusive id (run calls reference.start) := by
  have start : WellKept reference.start ∧ Exclusive id reference.start := by
    refine ⟨wellKept_start reference, ?_, ?_⟩
    · rintro ⟨line, mem, -⟩
      cases mem
    · intro first mem
      cases mem
  exact (run_keeps_along (fun db => WellKept db ∧ Exclusive id db) exclusive_handle start undisturbed).2

/-- The amounts and the versions of a claim's lines fit their columns. -/
structure FitsColumns (claimId : Uuid) (claim : Claim) (db : Db) : Prop where
  total : claimedSum (balances (db.claimLines claim.tenantId claimId)) < 10 ^ 19
  versions : ∀ line ∈ db.claimLines claim.tenantId claimId, line.2.version < maxInteger

theorem readyToReconcile {claim : Claim} (kept : WellKept db) (here : db.claims claimId = some claim)
    (isPending : claim.status ≠ .reconciled)
    (exclusive : ∀ line ∈ db.claimReceivables, line.claimId = claimId → Exclusive line.receivableId db)
    (fits : FitsColumns claimId claim db) : ReadyToReconcile claimId claim db := by
  refine ⟨here, isPending, ?_, ?_, fits.total, ⟨kept.claimLines_distinct _ _, ?_⟩, ?_⟩
  · obtain ⟨line, mem, ofClaim⟩ := kept.lined claimId claim here
    obtain ⟨⟨claim', present', ownClaim⟩, r, presentR, own⟩ := kept.linked line mem
    rw [ofClaim] at present'
    obtain rfl := mem_unique here present'
    refine ne_nil_of_mem (mem_claimLines.2 ⟨line, mem, ownClaim.symm, ofClaim, rfl, presentR, ?_⟩)
    exact own.trans ownClaim.symm
  · rintro ⟨id, r⟩ mem
    obtain ⟨line, inLines, -, ofClaim, rfl, presentR, -⟩ := mem_claimLines.1 mem
    obtain ⟨r', presentR', claimed⟩ := (exclusive line inLines ofClaim).claimed
      ⟨line, inLines, rfl, claim, ofClaim ▸ here, isPending⟩
    rwa [← mem_unique presentR presentR'] at claimed
  · rintro ⟨id, r⟩ mem r' present'
    obtain ⟨line, -, -, -, -, presentR, -⟩ := mem_claimLines.1 mem
    rw [← mem_unique presentR present']
    exact fits.versions (id, r) mem
  · rw [kept.untouched claimId claim here isPending]
    decide

/-- **A pending claim over undisturbed receivables can be reconciled.** In any run, a receivable to
which no payment was applied while it stood on a pending claim is on one pending claim at most; and
a pending claim whose lines are all such receivables is reconciled by any accepted remittance, when
its amounts and versions fit their columns and the identifier handed out is new. -/
theorem undisturbed_claims (reference : Reference) (calls : List Call) :
    (∀ id, Along (LeavesClaimed id) calls reference.start → OnOneClaim id (run calls reference.start)) ∧
      ∀ claimId claim, (run calls reference.start).claims claimId = some claim → claim.status ≠ .reconciled →
      (∀ line ∈ (run calls reference.start).claimReceivables, line.claimId = claimId →
          Along (LeavesClaimed line.receivableId) calls reference.start) →
      FitsColumns claimId claim (run calls reference.start) →
      ∀ body fresh, remittanceIssues body = [] →
      ((∀ r ∈ (run calls reference.start).remittances, r.id ≠ fresh) ∧
          ∀ r ∈ (run calls reference.start).reconciliationResults, r.id ≠ fresh) →
      (∃ answer, (handle (remit fresh claimId claim body) (run calls reference.start)).1 = .ok answer) ∧
      (handle (remit fresh claimId claim body) (run calls reference.start)).2.claims claimId =
      some { claim with status := .reconciled, version := claim.version + 1 } := by
  refine ⟨fun id undisturbed => (exclusive_run undisturbed).single, ?_⟩
  intro claimId claim here isPending undisturbed fits body fresh taken unused
  have ready := readyToReconcile (wellKept_run reference calls) here isPending
    (fun line mem ofClaim => exclusive_run (undisturbed line mem ofClaim)) fits
  exact reconcile_succeeds ready taken unused

theorem leavesClaimed_of_other {call : Call}
    (other : ∀ tenantId ref body, call.request ≠ .applyPayment tenantId ref body) :
    LeavesClaimed id call db := by
  intro _
  rcases handle_cases call db with same | ⟨-, -, effect⟩
  · rw [same]
  · generalize (handle call db).2 = db' at effect ⊢
    generalize call.request = request at effect other
    cases effect with
    | applied target did amount => exact absurd rfl (other _ _ _)
    | opened did =>
      have frame : db' = { db with receivables := db'.receivables } := did.frame
      rw [frame]
      rfl
    | submitted did =>
      rw [did.written]
      rfl
    | reconciled target did =>
      obtain ⟨remittance, result, rfl⟩ := did.written
      rfl

def sampleClaim : Claim := ⟨.sample 7, .sample 6, .sample 9, .submitted, 0⟩

theorem sampleClaim_reconciled :
    ∃ answer, (handle (remit (.sample 1) (.sample 1) sampleClaim ⟨"30", none⟩)
        (run twoLineClaim Reference.sample.start)).1 = .ok answer := by
  have undisturbed : ∀ id, Along (LeavesClaimed id) twoLineClaim Reference.sample.start :=
    fun id => ⟨leavesClaimed_of_other (fun _ _ _ => Request.noConfusion),
      leavesClaimed_of_other (fun _ _ _ => Request.noConfusion), trivial⟩
  have fits : FitsColumns (.sample 1) sampleClaim (run twoLineClaim Reference.sample.start) :=
    ⟨by decide +kernel, by decide +kernel⟩
  exact ((undisturbed_claims Reference.sample twoLineClaim).2 (.sample 1) sampleClaim
    (by decide +kernel) (by decide) (fun line _ _ => undisturbed line.receivableId) fits
    ⟨"30", none⟩ (.sample 1) (by decide +kernel) ⟨by decide +kernel, by decide +kernel⟩).1

/-! ### Stuck claims -/

/-- A pending claim with a line whose receivable is terminal. -/
structure Stuck (claimId : Uuid) (db : Db) : Prop where
  isPending : PendingClaim claimId db
  terminal : ∃ line ∈ db.claimReceivables, line.claimId = claimId ∧
    ∃ r, db.receivables line.receivableId = some r ∧ isTerminalState r.state = true

theorem Effect.claim {request : Request} {claim : Claim} (effect : Effect request db db')
    (here : db.claims claimId = some claim) :
    (∀ line ∈ db.claimReceivables, line ∈ db'.claimReceivables) ∧
      (db'.claims claimId = some claim ∨
        ∃ remitted, Reconciled claim.tenantId claimId claim remitted db db') := by
  cases effect with
  | opened did =>
    have frame : db' = { db with receivables := db'.receivables } := did.frame
    rw [frame]
    exact ⟨fun _ mem => mem, .inl here⟩
  | applied target did amount =>
    rw [did.written]
    exact ⟨fun _ mem => mem, .inl here⟩
  | @submitted _ claimId' _ _ _ _ _ did =>
    have unlike : claimId ≠ claimId' := by
      rintro rfl
      rw [did.free] at here
      cases here
    rw [did.written]
    exact ⟨fun _ mem => mem_append_left _ mem, .inl ((Function.update_of_ne unlike _ _).trans here)⟩
  | @reconciled _ claimId' _ _ _ _ _ target did =>
    by_cases same : claimId = claimId'
    · subst same
      obtain rfl := mem_unique here did.present
      obtain rfl := did.own
      refine ⟨?_, .inr ⟨_, did⟩⟩
      obtain ⟨remittance, result, rfl⟩ := did.written
      exact fun _ mem => mem
    · obtain ⟨remittance, result, rfl⟩ := did.written
      exact ⟨fun _ mem => mem, .inl ((Function.update_of_ne same _ _).trans here)⟩

theorem stuck_handle (call : Call) (db : Db) (kept : WellKept db ∧ Stuck claimId db) :
    WellKept (handle call db).2 ∧ Stuck claimId (handle call db).2 := by
  refine ⟨wellKept_handle call db kept.1, ?_⟩
  obtain ⟨kept, stuck⟩ := kept
  rcases handle_cases call db with same | ⟨-, -, effect⟩
  · rwa [same]
  · obtain ⟨claim, here, isPending⟩ := stuck.isPending
    obtain ⟨line, mem, ofClaim, r, presentR, terminal⟩ := stuck.terminal
    obtain ⟨lines, same | ⟨remitted, did⟩⟩ := effect.claim here
    · refine ⟨⟨claim, same, isPending⟩, line, lines line mem, ofClaim, ?_⟩
      obtain ⟨r', presentR', evolves⟩ := effect.receivable kept presentR
      exact ⟨r', presentR', (evolves.terminal terminal).symm ▸ terminal⟩
    · -- the reconciliation would have found the terminal line claimed
      obtain ⟨⟨claim', present', ownClaim⟩, r', presentR', own⟩ := kept.linked line mem
      rw [ofClaim] at present'
      obtain rfl := mem_unique here present'
      obtain rfl := mem_unique presentR presentR'
      have inClaim :=
        mem_claimLines.2 ⟨line, mem, ownClaim.symm, ofClaim, rfl, presentR, own.trans ownClaim.symm⟩
      have claimed := did.claimed _ inClaim
      rw [claimed] at terminal
      cases terminal

/-- **A claim with a terminal line is never reconciled.** -/
theorem stuck_run (kept : WellKept db) (stuck : Stuck claimId db) (calls : List Call) :
    PendingClaim claimId (run calls db) :=
  (run_keeps (fun db => WellKept db ∧ Stuck claimId db) stuck_handle ⟨kept, stuck⟩ calls).2.isPending

/-- A receivable over 10.00 that is claimed, paid in part, claimed again and paid in full. -/
def paidClaim : List Call := [
  ⟨.recordIntent (.sample 7) (.sample 6) ⟨(sample 8).text, none,
    [⟨(sample 9).text, "10.00"⟩]⟩, sampleWorld 1⟩,
  ⟨.submitClaim (.sample 7) ⟨(sample 9).text, [(sample 1).text]⟩, sampleWorld 1⟩,
  ⟨.applyPayment (.sample 7) (sample 1).text ⟨"4", 1, none⟩, sampleWorld 1⟩,
  ⟨.submitClaim (.sample 7) ⟨(sample 9).text, [(sample 1).text]⟩, sampleWorld 3⟩,
  ⟨.applyPayment (.sample 7) (sample 1).text ⟨"6", 3, none⟩, sampleWorld 2⟩]

/-- **The receivable is on two pending claims, and the first of them is stuck.** -/
theorem paidClaim_stuck :
    ¬ OnOneClaim (.sample 1) (run paidClaim Reference.sample.start) ∧
      ∀ calls, PendingClaim (.sample 1) (run calls (run paidClaim Reference.sample.start)) := by
  have final : (((run paidClaim Reference.sample.start).claimReceivables.map fun line =>
        (line.claimId, line.receivableId)) = [(.sample 1, .sample 1), (.sample 3, .sample 1)] ∧
      (run paidClaim Reference.sample.start).claims (.sample 1) = some sampleClaim ∧
      (run paidClaim Reference.sample.start).claims (.sample 3) = some sampleClaim ∧
      ((run paidClaim Reference.sample.start).receivables (.sample 1)).map Receivable.state =
        some .settled) := by
    decide +kernel
  have kept := wellKept_run Reference.sample paidClaim
  generalize run paidClaim Reference.sample.start = db at final kept ⊢
  obtain ⟨lines, first, second, settled⟩ := final
  obtain ⟨r, here, state⟩ := map_eq_some_iff.1 settled
  have firstPair : ((.sample 1, .sample 1) : Uuid × Uuid) ∈
      db.claimReceivables.map fun line => (line.claimId, line.receivableId) := by
    rw [lines]
    exact mem_cons_self
  have secondPair : ((.sample 3, .sample 1) : Uuid × Uuid) ∈
      db.claimReceivables.map fun line => (line.claimId, line.receivableId) := by
    rw [lines]
    exact mem_cons_of_mem _ mem_cons_self
  obtain ⟨line, inOne, pair⟩ := mem_map.1 firstPair
  obtain ⟨ofFirst, ofId⟩ := Prod.mk.inj pair
  obtain ⟨line', inTwo, pair'⟩ := mem_map.1 secondPair
  obtain ⟨ofSecond, ofId'⟩ := Prod.mk.inj pair'
  constructor
  · intro one
    have same := one line inOne line' inTwo ofId ofId' ⟨_, ofFirst ▸ first, by decide⟩
      ⟨_, ofSecond ▸ second, by decide⟩
    rw [ofFirst, ofSecond] at same
    exact absurd same (by decide)
  · refine stuck_run kept ⟨⟨_, first, by decide⟩, line, inOne, ofFirst, r, ?_, ?_⟩
    · rw [ofId, here]
    · rw [state]
      rfl

end DataPulse.Settlement
