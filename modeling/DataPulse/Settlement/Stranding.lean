/-
**Receivables that reach zero without being settled.**

A partial remittance is paid out line by line; the lines it pays in full keep the state `claimed` with
nothing outstanding, while their claim is reconciled. Without such a payout (`KeepsLinesOpen`) every
reachable state is sound: zero exactly where a receivable is terminal, and every other receivable can still
be settled.

* `sound_of_open_lines`: and every live receivable can be brought to a terminal state.
-/

import DataPulse.Settlement.Progress

namespace DataPulse.Settlement

open Lib Lib.Decimal Platform

variable {r : Receivable} {id : Uuid} {db : Db}
variable {request : Request} {calls : List Call} {r' : Receivable} {db' : Db}
variable {remitted : Nat} {left : Money}

/-! ### Runs that pay no line in full -/

/-- A remittance that covers the claim, or does not even cover its first line. -/
def PaysNoLineInFull (remitted : Nat) (balances : List (Uuid × Money)) : Prop :=
  claimedSum balances ≤ remitted ∨ ∀ line ∈ balances.head?, remitted < line.2.units

/-- A claim that its reconciliation would find pending, with all lines claimed. -/
def Reconcilable (tenant claimId : Uuid) (db : Db) : Prop :=
  (∃ claim, db.claims claimId = some claim ∧ claim.status ≠ .reconciled) ∧
    ∀ line ∈ db.claimLines tenant claimId, line.2.state = .claimed

/-- A request that reconciles no claim, or covers the claim or not even its first line. -/
def KeepsLinesOpen (call : Call) (db : Db) : Prop :=
  match call.request with
  | .reconcileRemittance tenantId claimRef body =>
    ∀ claimId ∈ Uuid.ofText claimRef, Reconcilable tenantId claimId db →
      PaysNoLineInFull (unitsOf body.remittedAmount) (balances (db.claimLines tenantId claimId))
  | _ => True

/-- A receivable with nothing outstanding is terminal, and a settled one has nothing outstanding. -/
def Receivable.Funded (r : Receivable) : Prop :=
  (r.outstandingBalance.units = 0 → isTerminalState r.state = true) ∧
    (r.state = .settled → r.outstandingBalance.units = 0)

def Funded (db : Db) : Prop := ∀ id r, db.receivables id = some r → r.Funded

theorem Effect.origin (kept : WellKept db) (effect : Effect request db db')
    (absent : db.receivables id = none) (here : db'.receivables id = some r) :
    ∃ tenantId storeId body,
      request = .recordIntent tenantId storeId body ∧ r.state = .opened ∧ r.version = 0 ∧
      ∃ payer ∈ body.payers, Money.ofText "receivable_balance_non_negative" payer.owedAmount =
      .ok r.outstandingBalance := by
  cases effect with
  | @opened tenantId storeId body _ _ did =>
    rcases did.added id r here with before | ⟨-, state, version, owed⟩
    · rw [absent] at before
      cases before
    · exact ⟨tenantId, storeId, body, rfl, state, version, owed⟩
  | @applied _ target _ _ _ _ _ _ _ did amount =>
    have other : id ≠ target := by
      rintro rfl
      rw [did.present] at absent
      cases absent
    rw [did.written] at here
    have before := (Db.setReceivable_of_ne other _).symm.trans here
    rw [absent] at before
    cases before
  | submitted did =>
    rw [did.written] at here
    simp [Db.submitAll, Db.setClaim, absent] at here
  | reconciled target did =>
    rcases did.receivable kept id with same | ⟨r', balance, -, -, -, before, -⟩
    · rw [same, absent] at here
      cases here
    · rw [absent] at before
      cases before

theorem opened_positive {tenantId storeId : Uuid} {body : SettlementIntentBody} {payer : IntentPayerInput}
    {balance : Money} (taken : (Request.recordIntent tenantId storeId body).validate = .ok ())
    (mem : payer ∈ body.payers)
    (owed : Money.ofText "receivable_balance_non_negative" payer.owedAmount = .ok balance) :
    0 < balance.units := by
  obtain ⟨shape, positive⟩ := intent_accepted taken payer mem
  obtain ⟨w, f, parts⟩ := plain_split shape
  rw [Money.ofText_plain parts] at owed
  rw [← Except.ok.inj owed]
  exact (isPositive_plain parts).1 positive

theorem apportion_positive {balances : List (Uuid × Money)}
    (first : ∀ line ∈ balances.head?, remitted < line.2.units)
    (mem : (id, left) ∈ apportion remitted balances) : 0 < left.units := by
  cases balances with
  | nil => cases mem
  | cons line rest =>
    obtain ⟨id', balance⟩ := line
    have below : remitted < balance.units := first (id', balance) rfl
    unfold apportion at mem
    rw [show remitted - balance.units = 0 by omega] at mem
    split_ifs at mem with spent empty
    · cases mem
    · omega
    · rcases mem_cons.1 mem with same | later
      · cases same
        exact Nat.sub_pos_of_lt below
      · cases rest with
        | nil => cases later
        | cons line rest => simp [apportion] at later

theorem Receivable.paid_funded (r : Receivable) (amount : Nat) : (r.paid amount).Funded := by
  unfold Receivable.Funded Receivable.paid Money.minus
  dsimp only
  by_cases cleared : r.outstandingBalance.units - amount = 0
  · rw [if_pos cleared]
    exact ⟨fun _ => rfl, fun _ => cleared⟩
  · rw [if_neg cleared]
    exact ⟨fun empty => absurd empty cleared, fun settled => by cases settled⟩

theorem Receivable.submitted_funded (funded : r.Funded) (claimable : r.state ∈ claimableStates) :
    r.submitted.Funded := by
  refine ⟨fun empty => ?_, fun settled => by cases settled⟩
  rcases (isTerminalState_iff _).1 (funded.1 empty) with state | state <;>
    simp [claimableStates, state] at claimable

theorem Receivable.remitted_funded {balances : List (Uuid × Money)}
    (open' : PaysNoLineInFull remitted balances) (claimed : r.state = .claimed)
    (mem : (id, left) ∈ payout remitted balances) :
    (r.remitted (remittanceOutcome remitted balances) left).Funded := by
  unfold payout at mem
  cases outcome : remittanceOutcome remitted balances with
  | settled | flagged =>
    rw [outcome] at mem
    obtain ⟨line, -, same⟩ := mem_map.1 mem
    cases same
    exact ⟨fun _ => rfl, fun _ => rfl⟩
  | partially =>
    rw [outcome] at mem
    have below : remitted < claimedSum balances := by
      unfold remittanceOutcome outcomeOf at outcome
      split_ifs at outcome
      omega
    rcases open' with covers | first
    · omega
    · have positive := apportion_positive first mem
      refine ⟨fun empty => absurd empty positive.ne', fun settled => ?_⟩
      rw [show (r.remitted .partially left).state = r.state from rfl, claimed] at settled
      cases settled

theorem Effect.funded {call : Call} (kept : WellKept db) (effect : Effect call.request db db')
    (condition : KeepsLinesOpen call db) (funded : r.Funded) (here : db.receivables id = some r)
    (present' : db'.receivables id = some r') : r'.Funded := by
  obtain ⟨request, world⟩ := call
  cases effect with
  | opened did => rwa [← Option.some.inj ((did.kept id r here).symm.trans present')]
  | @applied _ target _ _ _ payment _ _ _ did amount =>
    rw [did.written] at present'
    by_cases paid : id = target
    · subst paid
      rw [← Option.some.inj ((Db.setReceivable_self _).symm.trans present')]
      exact Receivable.paid_funded _ _
    · have same := (Db.setReceivable_of_ne paid _).symm.trans present'
      rwa [← mem_unique here same]
  | submitted did =>
    rcases did.receivable here with ⟨-, same⟩ | ⟨-, claimable, written⟩
    · rwa [← mem_unique same present']
    · rw [← mem_unique written present']
      exact Receivable.submitted_funded funded claimable
  | reconciled target did =>
    rcases did.receivable kept id with same | ⟨r₀, balance, line, paid, -, -, written⟩
    · rwa [← Option.some.inj (here.symm.trans (same.symm.trans present'))]
    · rw [← mem_unique written present']
      have reconcilable := condition _ target ⟨⟨_, did.present, did.pending⟩, did.claimed⟩
      exact Receivable.remitted_funded reconcilable (did.claimed _ line) paid

theorem funded_handle (call : Call) (db : Db) (kept : WellKept db ∧ Funded db)
    (condition : KeepsLinesOpen call db) : WellKept (handle call db).2 ∧ Funded (handle call db).2 := by
  refine ⟨wellKept_handle call db kept.1, fun id r' present' => ?_⟩
  rcases handle_cases call db with same | ⟨taken, -, effect⟩
  · rw [same] at present'
    exact kept.2 id r' present'
  · cases here : db.receivables id with
    | none =>
      obtain ⟨tenantId, storeId, body, isIntent, state, -, payer, mem, owed⟩ :=
        effect.origin kept.1 here present'
      rw [isIntent] at taken
      have positive := opened_positive taken mem owed
      refine ⟨fun empty => absurd empty positive.ne', fun settled => ?_⟩
      rw [state] at settled
      cases settled
    | some r => exact effect.funded kept.1 condition (kept.2 id r here) here present'

/-! ### Soundness -/

/-- What the settlement states promise: zero is terminal, settled is zero, and what is not terminal
can still become so. -/
def SettlementSound (db : Db) : Prop :=
  ∀ id r, db.receivables id = some r →
    (r.outstandingBalance.units = 0 → isTerminalState r.state = true) ∧
    (r.state = .settled → r.outstandingBalance.units = 0) ∧
    (isTerminalState r.state = false →
      ∃ calls r', (run calls db).receivables id = some r' ∧ isTerminalState r'.state = true)

def VersionsFit (db : Db) : Prop :=
  ∀ id r, db.receivables id = some r → isTerminalState r.state = false → r.version + 1 < maxInteger

def StepSound (call : Call) (db : Db) : Prop := KeepsLinesOpen call db ∧ VersionsFit db

/-- Every live receivable has room for another version. -/
def Room (db : Db) : Prop :=
  ∀ id r, db.receivables id = some r → isTerminalState r.state = false → r.version < maxInteger

theorem handle_version (call : Call) (kept : WellKept db)
    (present' : (handle call db).2.receivables id = some r') :
    r'.version = 0 ∨
      ∃ r, db.receivables id = some r ∧
      (r' = r ∨ (isTerminalState r.state = false ∧ r'.version = r.version + 1)) := by
  cases here : db.receivables id with
  | none =>
    rcases handle_cases call db with same | ⟨-, -, effect⟩
    · rw [same, here] at present'
      cases present'
    · obtain ⟨_, _, _, -, -, version, -⟩ := effect.origin kept here present'
      exact .inl version
  | some r =>
    obtain ⟨r'', again, evolves⟩ := handle_receivable call kept here
    obtain rfl := mem_unique again present'
    refine .inr ⟨r, rfl, ?_⟩
    by_cases same : r'' = r
    · exact .inl same
    · refine .inr ⟨?_, evolves.version same⟩
      by_contra terminal
      exact same (evolves.terminal (by simpa using terminal))

theorem room_handle (call : Call) (db : Db) (kept : WellKept db) (fits : VersionsFit db) : Room
    (handle call db).2 := by
  intro id r' present' live'
  rcases handle_version call kept present' with zero | ⟨r, here, rfl | ⟨live, next⟩⟩
  · rw [zero]
    decide
  · exact (Nat.lt_succ_self _).trans (fits id _ here live')
  · rw [next]
    exact fits id r here live

/-- What the runs below keep. -/
structure StillSound (db : Db) : Prop where
  kept : WellKept db
  funded : Funded db
  room : Room db

theorem stillSound_run {reference : Reference} (along : Along StepSound calls reference.start) :
    StillSound (run calls reference.start) := by
  have start : StillSound reference.start := by
    refine ⟨wellKept_start reference, ?_, ?_⟩
    · intro id r here
      cases here
    · intro id r here
      cases here
  refine run_keeps_along StillSound (fun call db sound condition => ?_) start along
  obtain ⟨kept, funded⟩ := funded_handle call db ⟨sound.kept, sound.funded⟩ condition.1
  exact ⟨kept, funded, room_handle call db sound.kept condition.2⟩

/-- **Runs that pay no line in full are sound.** As long as no partial remittance reaches the balance
of its claim's first line and no version runs out, a receivable with nothing outstanding is terminal,
a settled one has nothing outstanding, and a live one can be settled, if the identifiers have not
run out. -/
theorem sound_of_open_lines {reference : Reference} {calls : List Call}
    (along : Along StepSound calls reference.start)
    (supply : ∃ fresh : Uuid, ∀ p ∈ (run calls reference.start).paymentApplications, p.id ≠ fresh) :
    SettlementSound (run calls reference.start) := by
  have sound := stillSound_run along
  obtain ⟨fresh, unused⟩ := supply
  intro id r here
  have funded := sound.funded id r here
  refine ⟨funded.1, funded.2, fun live => ?_⟩
  have positive : 0 < r.outstandingBalance.units := by
    refine Nat.pos_of_ne_zero fun empty => ?_
    rw [funded.1 empty] at live
    cases live
  obtain ⟨r', settled, terminal⟩ := payInFull_settles here live positive (sound.room id r here live) unused
  have final : (run [payInFull fresh id r] (run calls reference.start)).receivables id = some r' := by
    rw [run_one]
    exact settled
  exact ⟨[payInFull fresh id r], r', final, terminal⟩

theorem stepSound_of_short (most : Nat) (kept : WellKept db)
    (bounded : ∀ id r, db.receivables id = some r → r.version ≤ most)
    (short : most + calls.length < maxInteger) (along : Along KeepsLinesOpen calls db) :
    Along StepSound calls db := by
  induction calls generalizing db most with
  | nil => trivial
  | cons call rest ih =>
    rw [length_cons] at short
    refine ⟨⟨along.1, fun id r here _ => ?_⟩, ?_⟩
    · have bound := bounded id r here
      omega
    · refine ih (most + 1) (wellKept_handle call db kept) (fun id r' present' => ?_) (by omega)
        along.2
      rcases handle_version call kept present' with zero | ⟨r, here, rfl | ⟨-, next⟩⟩
      · omega
      · exact (bounded id _ here).trans (Nat.le_succ _)
      · rw [next]
        exact Nat.succ_le_succ (bounded id r here)

/-! ### A claim over two lines -/

def remitTwoLines (amount : String) : Call :=
  ⟨.reconcileRemittance (.sample 7) (sample 1).text ⟨amount, none⟩, sampleWorld 1⟩

/-- A remittance of 5 covers not even the first line. -/
theorem sound_of_remitting_five :
    SettlementSound (run (twoLineClaim ++ [remitTwoLines "5"]) Reference.sample.start) := by
  have bounded : ∀ id r, Reference.sample.start.receivables id = some r → r.version ≤ 0 := by
    intro id r here
    cases here
  refine sound_of_open_lines (stepSound_of_short 0 (wellKept_start _) bounded (by decide)
    ⟨trivial, trivial, ?_, trivial⟩) ⟨.sample 0, by decide +kernel⟩
  intro claimId target _
  rw [Uuid.ofText_text] at target
  cases target
  exact .inr (by decide +kernel)

/-- **A remittance of 15 strands the first line**: it covers the 10.00 and leaves it claimed. -/
theorem remitting_fifteen_strands :
    ¬ SettlementSound (run (twoLineClaim ++ [remitTwoLines "15"]) Reference.sample.start) := by
  intro sound
  have first : ((run (twoLineClaim ++ [remitTwoLines "15"]) Reference.sample.start).receivables
      (.sample 1)).map (fun r => (r.outstandingBalance.units, r.state)) = some (0, .claimed) := by
    decide +kernel
  obtain ⟨r, here, same⟩ := map_eq_some_iff.1 first
  obtain ⟨empty, claimed⟩ := Prod.mk.inj same
  have terminal := (sound _ r here).1 empty
  rw [claimed] at terminal
  cases terminal

end DataPulse.Settlement
