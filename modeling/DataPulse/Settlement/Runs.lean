/-
**Runs of settlement requests.**

* `handle_cases`: a request leaves the tables as they were, or it was answered with a body and had
  one of four effects (`Effect`). Every property below is proved from the effects, and none of the
  later modules looks into a service again.
-/

import DataPulse.Settlement.ClaimEffects
import Mathlib.Data.List.Perm.Basic

namespace DataPulse.Settlement

open Lib Lib.Decimal Lib.Prog Platform

variable {lines : List ClaimReceivable} {db db' : Db} {claimId id : Uuid} {r : Receivable}
  {request : Request} {done : Unit}
variable {tenant : Uuid} {claim : Claim}
variable {remitted : Nat} {left : Money}

/-! ### One request -/

/-- What a request did. -/
inductive Effect : Request → Db → Db → Prop where
  | opened {tenantId storeId : Uuid} {body : SettlementIntentBody} {db db' : Db}
      (did : Opened body.payers db db') : Effect (.recordIntent tenantId storeId body) db db'
  | applied {tenantId id : Uuid} {receivableRef : String} {body : ApplyPaymentBody}
      {r : Receivable} {payment : PaymentApplication} {db db' : Db}
      (target : Uuid.ofText receivableRef = some id) (did : Applied id r payment db db')
      (amount : payment.appliedAmount.units = unitsOf body.amount) :
      Effect (.applyPayment tenantId receivableRef body) db db'
  | submitted {tenantId claimId : Uuid} {body : ClaimCreateBody} {claim : Claim}
      {lines : List ClaimReceivable} {db db' : Db}
      (did : Submitted tenantId claimId claim lines db db') :
      Effect (.submitClaim tenantId body) db db'
  | reconciled {tenantId claimId : Uuid} {claimRef : String} {body : RemittanceBody}
      {claim : Claim} {db db' : Db} (target : Uuid.ofText claimRef = some claimId)
      (did : Reconciled tenantId claimId claim (unitsOf body.remittedAmount) db db') :
      Effect (.reconcileRemittance tenantId claimRef body) db db'

theorem refuse_ok {issues : List Issue} (taken : Request.validate.refuse issues = .ok done) : issues = [] := by
  unfold Request.validate.refuse at taken
  split at taken
  · rename_i empty
    exact isEmpty_iff.1 empty
  · cases taken

theorem payment_accepted {tenantId : Uuid} {ref : String} {body : ApplyPaymentBody}
    (taken : (Request.applyPayment tenantId ref body).validate = .ok done) :
    isMoneyText body.amount = true ∧ isPositive body.amount = true := by
  obtain ⟨_, clean, -⟩ := bind_ok taken
  have clean := refuse_ok clean
  simp only [paymentIssues, append_eq_nil_iff] at clean
  exact ⟨check_nil clean.1.1.1, check_nil clean.1.1.2⟩

theorem remittance_accepted {tenantId : Uuid} {ref : String} {body : RemittanceBody}
    (taken : (Request.reconcileRemittance tenantId ref body).validate = .ok done) :
    isMoneyText body.remittedAmount = true := by
  obtain ⟨_, clean, -⟩ := bind_ok taken
  have clean := refuse_ok clean
  simp only [remittanceIssues, append_eq_nil_iff] at clean
  exact check_nil clean.1

theorem intent_accepted {tenantId storeId : Uuid} {body : SettlementIntentBody}
    (taken : (Request.recordIntent tenantId storeId body).validate = .ok done) :
    ∀ payer ∈ body.payers, isMoneyText payer.owedAmount = true ∧ isPositive payer.owedAmount = true := by
  intro payer mem
  have clean := refuse_ok taken
  simp only [intentIssues, append_eq_nil_iff, flatMap_eq_nil_iff] at clean
  obtain ⟨index, position⟩ := mem_iff_getElem?.1 mem
  have clean := clean.2 (payer, index) (List.mk_mem_zipIdx_iff_getElem?.2 position)
  simp only [payerIssues, append_eq_nil_iff] at clean
  exact ⟨check_nil clean.1.2, check_nil clean.2⟩

theorem service_effect {world : World Uuid Thrown} {session after : Session Db}
    {answer : Except Failure ResponseBody} (taken : request.validate = .ok ())
    (ran : Commits (engine request.tenantId) world request.service session answer after) :
    after.db = session.db ∨ ((∃ body, answer = .ok body) ∧ Effect request session.db after.db) := by
  cases request with
  | recordIntent tenantId storeId body =>
    obtain ⟨result, middle, work, ran⟩ := commits_bind ran
    rcases openFromIntent_effect work with same | ⟨⟨rows, rfl⟩, did⟩
    · cases result <;> obtain ⟨-, rfl⟩ := commits_done ran <;> exact .inl same
    · obtain ⟨rfl, rfl⟩ := commits_done ran
      exact .inr ⟨⟨_, rfl⟩, .opened did⟩
  | applyPayment tenantId receivableRef body =>
    obtain ⟨result, middle, work, ran⟩ := commits_bind ran
    rcases applyPayment_effect (payment_accepted taken).1 work with
      same | ⟨⟨row, rfl⟩, id, r, payment, target, did, amount⟩
    · cases result <;> obtain ⟨-, rfl⟩ := commits_done ran <;> exact .inl same
    · obtain ⟨rfl, rfl⟩ := commits_done ran
      exact .inr ⟨⟨_, rfl⟩, .applied target did amount⟩
  | submitClaim tenantId body =>
    obtain ⟨result, middle, work, ran⟩ := commits_bind ran
    rcases submitClaim_effect work with same | ⟨⟨row, rfl⟩, claimId, claim, lines, did⟩
    · cases result <;> obtain ⟨-, rfl⟩ := commits_done ran <;> exact .inl same
    · obtain ⟨rfl, rfl⟩ := commits_done ran
      exact .inr ⟨⟨_, rfl⟩, .submitted did⟩
  | reconcileRemittance tenantId claimRef body =>
    obtain ⟨result, middle, work, ran⟩ := commits_bind ran
    rcases reconcileRemittance_effect (remittance_accepted taken) work with
      same | ⟨⟨row, rfl⟩, claimId, claim, target, did⟩
    · cases result <;> obtain ⟨-, rfl⟩ := commits_done ran <;> exact .inl same
    · obtain ⟨rfl, rfl⟩ := commits_done ran
      exact .inr ⟨⟨_, rfl⟩, .reconciled target did⟩

/-- **A request leaves the tables as they were, or it was accepted, answered with a body and had one
of the four effects.** -/
theorem handle_cases (call : Call) (db : Db) :
    (handle call db).2 = db ∨
      (call.request.validate = .ok () ∧ (∃ body, (handle call db).1 = .ok body) ∧
        Effect call.request db (handle call db).2) := by
  unfold handle
  cases taken : call.request.validate with
  | error failure => exact .inl rfl
  | ok done =>
    dsimp only
    rcases transaction_cases (engine call.request.tenantId) call.world call.request.service db with
      same | ⟨answer, after, commits, outcome⟩
    · refine .inl ?_
      rw [← same]
      split <;> simp_all
    · rw [outcome]
      rcases service_effect taken commits with same | ⟨body, effect⟩
      · exact .inl same
      · exact .inr ⟨rfl, body, effect⟩

/-! ### Runs -/

/-- Every request of the run meets the condition in the state it finds. -/
def Along (condition : Call → Db → Prop) : List Call → Db → Prop
  | [], _ => True
  | call :: rest, db => condition call db ∧ Along condition rest (handle call db).2

/-- **A run keeps what its steps keep**, when every step meets the condition. -/
theorem run_keeps_along (invariant : Db → Prop) {condition : Call → Db → Prop}
    (step : ∀ call db, invariant db → condition call db → invariant (handle call db).2) {calls : List Call}
    (start : invariant db) (along : Along condition calls db) : invariant (run calls db) := by
  induction calls generalizing db with
  | nil => exact start
  | cons call rest ih => exact ih (step call db start along.1) along.2

theorem run_keeps (invariant : Db → Prop) (step : ∀ call db, invariant db → invariant (handle call db).2)
    (start : invariant db) (calls : List Call) : invariant (run calls db) := by
  induction calls generalizing db with
  | nil => exact start
  | cons call rest ih => exact ih (step call db start)

theorem run_one (call : Call) (db : Db) : run [call] db = (handle call db).2 := by
  rw [run, foldl_cons, foldl_nil]

theorem run_append (first later : List Call) (db : Db) : run (first ++ later) db = run later (run first db) :=
  foldl_append

/-! ### Claims and their lines -/

/-- What the requests keep true of claims and their lines. -/
structure WellKept (db : Db) : Prop where
  /-- A line belongs to a claim and to a receivable of its tenant. -/
  linked : ∀ line ∈ db.claimReceivables,
    (∃ claim, db.claims line.claimId = some claim ∧ claim.tenantId = line.tenantId) ∧
      ∃ r, db.receivables line.receivableId = some r ∧ r.tenantId = line.tenantId
  /-- A claim has a line. -/
  lined : ∀ claimId claim, db.claims claimId = some claim →
    ∃ line ∈ db.claimReceivables, line.claimId = claimId
  /-- A receivable is on a claim at most once. -/
  distinct : (db.claimReceivables.map fun line => (line.claimId, line.receivableId)).Nodup
  /-- A claim that is not reconciled was never updated. -/
  untouched : ∀ claimId claim, db.claims claimId = some claim → claim.status ≠ .reconciled →
    claim.version = 0

theorem mem_claimLines :
    (id, r) ∈ db.claimLines tenant claimId ↔
      ∃ line ∈ db.claimReceivables, line.tenantId = tenant ∧ line.claimId = claimId ∧ line.receivableId = id ∧
      db.receivables id = some r ∧ r.tenantId = tenant := by
  simp only [Db.claimLines, mem_insertionSort, mem_filterMap, mem_filter,
    map_eq_some_iff, visible_some, Prod.mk.injEq, and_eq_true, decide_eq_true_eq]
  constructor
  · rintro ⟨line, ⟨mem, own, ofClaim⟩, r', ⟨here, own'⟩, rfl, rfl⟩
    exact ⟨line, mem, own, ofClaim, rfl, here, own'⟩
  · rintro ⟨line, mem, own, ofClaim, rfl, here, own'⟩
    exact ⟨line, ⟨mem, own, ofClaim⟩, r, ⟨here, own'⟩, rfl, rfl⟩

theorem map_fst_filterMap_sublist {Row : Type} (key : Row → Uuid) (value : Row → Option Receivable)
    (rows : List Row) :
    List.Sublist ((rows.filterMap fun row => (value row).map fun r => (key row, r)).map Prod.fst)
      (rows.map key) := by
  induction rows with
  | nil => exact .slnil
  | cons row rest ih =>
    rw [filterMap_cons, map_cons]
    cases value row with
    | none => exact ih.cons _
    | some r => exact ih.cons_cons _

theorem WellKept.claimLines_distinct (kept : WellKept db) (tenant claimId : Uuid) :
    ((db.claimLines tenant claimId).map Prod.fst).Nodup := by
  refine ((perm_insertionSort byId _).map Prod.fst).nodup_iff.2 ?_
  refine List.Nodup.sublist (map_fst_filterMap_sublist _ _ _) ?_
  refine List.Nodup.map_on (fun first inOne second inTwo same => ?_) (kept.distinct.of_map.filter _)
  simp only [mem_filter, and_eq_true, decide_eq_true_eq] at inOne inTwo
  refine inj_on_of_nodup_map kept.distinct inOne.1 inTwo.1 ?_
  rw [Prod.mk.injEq]
  exact ⟨inOne.2.2.trans inTwo.2.2.symm, same⟩

/-! ### What a request makes of a receivable -/

/-- What one request can make of a receivable. -/
inductive Evolves (r : Receivable) : Receivable → Prop where
  | same : Evolves r r
  | paid {amount : Nat} (live : isTerminalState r.state = false) (positive : 0 < amount)
      (covered : amount ≤ r.outstandingBalance.units) : Evolves r (r.paid amount)
  | submitted (claimable : r.state ∈ claimableStates) : Evolves r r.submitted
  | remitted {outcome : ReconcileOutcome} {balance : Money} (claimed : r.state = .claimed)
      (less : balance.units ≤ r.outstandingBalance.units) :
      Evolves r (r.remitted outcome balance)

theorem apportion_sublist (remaining : Nat) (balances : List (Uuid × Money)) :
    List.Sublist ((apportion remaining balances).map Prod.fst) (balances.map Prod.fst) := by
  induction balances generalizing remaining with
  | nil => exact .slnil
  | cons line rest ih =>
    obtain ⟨id, balance⟩ := line
    unfold apportion
    split_ifs
    · exact nil_sublist _
    · exact (ih _).cons _
    · exact (ih _).cons_cons _

theorem apportion_le {remaining : Nat} {balances : List (Uuid × Money)}
    (member : (id, left) ∈ apportion remaining balances) :
    ∃ balance, (id, balance) ∈ balances ∧ left.units ≤ balance.units := by
  induction balances generalizing remaining with
  | nil => cases member
  | cons line rest ih =>
    obtain ⟨id', balance⟩ := line
    unfold apportion at member
    split_ifs at member
    · cases member
    · obtain ⟨balance', member, less⟩ := ih member
      exact ⟨balance', mem_cons_of_mem _ member, less⟩
    · rcases mem_cons.1 member with same | member
      · cases same
        exact ⟨balance, mem_cons_self, Nat.sub_le _ _⟩
      · obtain ⟨balance', member, less⟩ := ih member
        exact ⟨balance', mem_cons_of_mem _ member, less⟩

theorem payout_sublist (remitted : Nat) (balances : List (Uuid × Money)) :
    List.Sublist ((payout remitted balances).map Prod.fst) (balances.map Prod.fst) := by
  unfold payout
  split
  · exact apportion_sublist _ _
  · rw [map_map]
    exact List.Sublist.refl _

theorem payout_le {balances : List (Uuid × Money)} (mem : (id, left) ∈ payout remitted balances) :
    ∃ balance, (id, balance) ∈ balances ∧ left.units ≤ balance.units := by
  unfold payout at mem
  split at mem
  · exact apportion_le mem
  · obtain ⟨⟨id', balance⟩, inBalances, same⟩ := mem_map.1 mem
    cases same
    exact ⟨balance, inBalances, Nat.zero_le _⟩

theorem Submitted.receivable (did : Submitted tenant claimId claim lines db db')
    (here : db.receivables id = some r) :
    (id ∉ lines.map ClaimReceivable.receivableId ∧ db'.receivables id = some r) ∨
      (id ∈ lines.map ClaimReceivable.receivableId ∧ r.state ∈ claimableStates ∧
        db'.receivables id = some r.submitted) := by
  rw [did.written]
  by_cases mem : id ∈ lines.map ClaimReceivable.receivableId
  · obtain ⟨line, inLines, rfl⟩ := mem_map.1 mem
    obtain ⟨r', present', -, claimable⟩ := did.claimable line inLines
    obtain rfl := mem_unique here present'
    exact .inr ⟨mem, claimable, (if_pos mem).trans (by rw [here]; rfl)⟩
  · exact .inl ⟨mem, (if_neg mem).trans here⟩

theorem Reconciled.receivable (kept : WellKept db) (did : Reconciled tenant claimId claim remitted db db')
    (id : Uuid) :
    db'.receivables id = db.receivables id ∨
      ∃ r balance, (id, r) ∈ db.claimLines tenant claimId ∧
      (id, balance) ∈ payout remitted (balances (db.claimLines tenant claimId)) ∧
      balance.units ≤ r.outstandingBalance.units ∧ db.receivables id = some r ∧
      db'.receivables id =
      some (r.remitted (remittanceOutcome remitted (balances (db.claimLines tenant claimId))) balance) := by
  obtain ⟨remittance, result, rfl⟩ := did.written
  have ids : (balances (db.claimLines tenant claimId)).map Prod.fst =
      (db.claimLines tenant claimId).map Prod.fst := by
    rw [balances, map_map]
    rfl
  by_cases written : id ∈ (payout remitted (balances (db.claimLines tenant claimId))).map Prod.fst
  · obtain ⟨⟨id', balance⟩, mem, same⟩ := mem_map.1 written
    obtain rfl : id' = id := same
    obtain ⟨before, ofLine, less⟩ := payout_le mem
    obtain ⟨⟨id'', r⟩, line, same⟩ := mem_map.1 ofLine
    cases same
    obtain ⟨_, -, -, -, -, here, own⟩ := mem_claimLines.1 line
    have distinct := (kept.claimLines_distinct tenant claimId)
    rw [← ids] at distinct
    exact .inr ⟨r, balance, line, mem, less, here,
      writeBalances_mem (distinct.sublist (payout_sublist _ _)) mem here own⟩
  · exact .inl (writeBalances_other written)

/-- **Every receivable is still there after a request, and evolved as `Evolves` says.** -/
theorem Effect.receivable (kept : WellKept db) (effect : Effect request db db')
    (here : db.receivables id = some r) : ∃ r', db'.receivables id = some r' ∧ Evolves r r' := by
  cases effect with
  | opened did => exact ⟨r, did.kept id r here, .same⟩
  | @applied _ target _ _ owed payment _ _ _ did amount =>
    by_cases paid : id = target
    · subst paid
      obtain rfl := mem_unique here did.present
      refine ⟨r.paid payment.appliedAmount.units, ?_, .paid did.live did.positive did.covered⟩
      rw [did.written]
      exact Db.setReceivable_self _
    · refine ⟨r, ?_, .same⟩
      rw [did.written]
      exact (Db.setReceivable_of_ne paid _).trans here
  | submitted did =>
    rcases did.receivable here with ⟨-, same⟩ | ⟨-, claimable, written⟩
    · exact ⟨r, same, .same⟩
    · exact ⟨r.submitted, written, .submitted claimable⟩
  | reconciled target did =>
    rcases did.receivable kept id with same | ⟨r', balance, line, -, less, present', written⟩
    · exact ⟨r, same.trans here, .same⟩
    · obtain rfl := mem_unique here present'
      exact ⟨_, written, .remitted (did.claimed _ line) less⟩

/-! ### Claims and their lines along a run -/

theorem Evolves.tenantId {r' : Receivable} (evolves : Evolves r r') : r'.tenantId = r.tenantId := by
  cases evolves <;> rfl

theorem linked_of_kept (kept : WellKept db)
    (claims : ∀ claimId claim, db.claims claimId = some claim →
        ∃ claim', db'.claims claimId = some claim' ∧ claim'.tenantId = claim.tenantId)
    (receivables : ∀ id r, db.receivables id = some r → ∃ r', db'.receivables id = some r' ∧ Evolves r r') :
    ∀ line ∈ db.claimReceivables,
      (∃ claim, db'.claims line.claimId = some claim ∧ claim.tenantId = line.tenantId) ∧
      ∃ r, db'.receivables line.receivableId = some r ∧ r.tenantId = line.tenantId := by
  intro line mem
  obtain ⟨⟨claim, presentClaim, ownClaim⟩, r, here, own⟩ := kept.linked line mem
  obtain ⟨claim', presentClaim', sameClaim⟩ := claims _ _ presentClaim
  obtain ⟨r', present', evolves⟩ := receivables _ _ here
  exact ⟨⟨claim', presentClaim', sameClaim.trans ownClaim⟩, r', present', evolves.tenantId.trans own⟩

theorem wellKept_of_same_claims (kept : WellKept db) (claims : db'.claims = db.claims)
    (lines : db'.claimReceivables = db.claimReceivables)
    (receivables : ∀ id r, db.receivables id = some r → ∃ r', db'.receivables id = some r' ∧ Evolves r r') :
    WellKept db' := by
  have linked := linked_of_kept kept (fun _ claim here => ⟨claim, by rw [claims, here], rfl⟩) receivables
  refine ⟨?_, ?_, ?_, ?_⟩
  · rw [lines]
    exact linked
  · rw [lines, claims]
    exact kept.lined
  · rw [lines]
    exact kept.distinct
  · rw [claims]
    exact kept.untouched

theorem Submitted.wellKept (kept : WellKept db) (did : Submitted tenant claimId claim lines db db')
    (receivables : ∀ id r, db.receivables id = some r → ∃ r', db'.receivables id = some r' ∧ Evolves r r') :
    WellKept db' := by
  have old : ∀ other claim', db.claims other = some claim' → db'.claims other = some claim' := by
    intro other claim' here
    have unlike : other ≠ claimId := by
      rintro rfl
      rw [did.free] at here
      cases here
    rw [did.written]
    exact (Function.update_of_ne unlike _ _).trans here
  have new : db'.claims claimId = some claim := by
    rw [did.written]
    exact Function.update_self _ _ _
  have rows : db'.claimReceivables = db.claimReceivables ++ lines := by
    rw [did.written]
  have known : ∀ line ∈ db.claimReceivables, line.claimId ≠ claimId := by
    rintro line mem rfl
    obtain ⟨⟨claim', here, -⟩, -⟩ := kept.linked line mem
    rw [did.free] at here
    cases here
  constructor
  · rw [rows]
    intro line mem
    rcases mem_append.1 mem with before | added
    · exact linked_of_kept kept (fun _ claim' here => ⟨claim', old _ _ here, rfl⟩) receivables line before
    · obtain ⟨ofClaim, ofTenant⟩ := did.linked line added
      obtain ⟨r, here, own, -⟩ := did.claimable line added
      obtain ⟨r', present', evolves⟩ := receivables _ _ here
      exact ⟨⟨claim, ofClaim ▸ new, did.own.trans ofTenant.symm⟩, r', present',
        (evolves.tenantId.trans own).trans ofTenant.symm⟩
  · rw [rows]
    intro other claim' here
    by_cases same : other = claimId
    · obtain ⟨line, added⟩ := exists_mem_of_ne_nil _ did.nonempty
      exact ⟨line, mem_append_right _ added, (did.linked line added).1.trans same.symm⟩
    · have present' : db.claims other = some claim' := by
        rw [did.written] at here
        exact (Function.update_of_ne same _ _).symm.trans here
      obtain ⟨line, before, ofClaim⟩ := kept.lined other claim' present'
      exact ⟨line, mem_append_left _ before, ofClaim⟩
  · rw [rows, map_append]
    refine List.Nodup.append kept.distinct ?_ ?_
    · refine List.Nodup.of_map Prod.snd ?_
      rw [map_map]
      exact did.distinct
    · intro pair before added
      obtain ⟨first, inBefore, rfl⟩ := mem_map.1 before
      obtain ⟨second, inAdded, same⟩ := mem_map.1 added
      refine known first inBefore ?_
      rw [← (Prod.mk.inj same).1]
      exact (did.linked second inAdded).1
  · intro other claim' here pending
    by_cases same : other = claimId
    · subst same
      rw [← mem_unique new here]
      exact did.version
    · rw [did.written] at here
      exact kept.untouched other claim' ((Function.update_of_ne same _ _).symm.trans here) pending

theorem Effect.wellKept (kept : WellKept db) (effect : Effect request db db') : WellKept db' := by
  have receivables : ∀ id r, db.receivables id = some r → ∃ r', db'.receivables id = some r' ∧ Evolves r r' :=
    fun id r here => effect.receivable kept here
  cases effect with
  | opened did =>
    have frame : db' = { db with receivables := db'.receivables } := did.frame
    exact wellKept_of_same_claims kept (by rw [frame]) (by rw [frame]) receivables
  | applied target did amount =>
    exact wellKept_of_same_claims kept (by rw [did.written]; rfl) (by rw [did.written]; rfl)
      receivables
  | submitted did => exact did.wellKept kept receivables
  | @reconciled _ claimId _ body claim _ _ target did =>
    have claims : ∀ other claim', db.claims other = some claim' →
        ∃ claim'', db'.claims other = some claim'' ∧ claim''.tenantId = claim'.tenantId := by
      obtain ⟨remittance, result, rfl⟩ := did.written
      intro other claim' here
      by_cases same : other = claimId
      · subst same
        obtain rfl := mem_unique here did.present
        exact ⟨_, Function.update_self _ _ _, rfl⟩
      · exact ⟨claim', (Function.update_of_ne same _ _).trans here, rfl⟩
    have linked := linked_of_kept kept claims receivables
    obtain ⟨remittance, result, rfl⟩ := did.written
    refine ⟨linked, fun other claim' here => ?_, kept.distinct, fun other claim' here pending => ?_⟩
    · by_cases same : other = claimId
      · subst same
        exact kept.lined other claim did.present
      · exact kept.lined other claim' ((Function.update_of_ne same _ _).symm.trans here)
    · by_cases same : other = claimId
      · subst same
        simp only [Function.update_self, Option.some.injEq] at here
        rw [← here] at pending
        exact absurd rfl pending
      · exact kept.untouched other claim' ((Function.update_of_ne same _ _).symm.trans here) pending

theorem wellKept_handle (call : Call) (db : Db) (kept : WellKept db) : WellKept (handle call db).2 := by
  rcases handle_cases call db with same | ⟨-, -, effect⟩
  · rwa [same]
  · exact effect.wellKept kept

theorem wellKept_start (reference : Reference) : WellKept reference.start where
  linked :=
  fun line mem => by cases mem
  lined := fun claimId claim here => by cases here
  distinct := nodup_nil
  untouched := fun claimId claim here => by cases here

/-- **Every reachable state keeps its claims and their lines.** -/
theorem wellKept_run (reference : Reference) (calls : List Call) : WellKept (run calls reference.start) :=
  run_keeps WellKept wellKept_handle (wellKept_start reference) calls

end DataPulse.Settlement
