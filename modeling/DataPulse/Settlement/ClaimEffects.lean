/-
**What submitting and reconciling a claim did, if they did anything.**

* `submitClaim_effect`: a new claim over distinct claimable receivables of the tenant, which are all
  claimed now (`Submitted`).
-/

import DataPulse.Settlement.ReceivableEffects

namespace DataPulse.Settlement

open Lib Lib.Decimal Lib.Prog Platform

variable {world : World Uuid Thrown} {tenant : Uuid} {session after : Session Db}
variable {lines : List (Uuid × Receivable)} {result : ReconcileResult} {storeId claimId id : Uuid}
  {ids : List Uuid} {done : Unit} {w f : List Char}
variable {input : ReconcileInput} {outcome : ReconcileOutcome} {table : Uuid → Option Receivable}
  {writes : List (Uuid × Money)} {refs : List String} {claim : Claim} {claimed : String}
  {balance : Money}
variable {db' db : Db}

/-! ### Submitting -/

def Receivable.submitted (r : Receivable) : Receivable :=
  { r with state := .claimed, version := r.version + 1 }

/-- The tables with every one of the receivables put on a claim. -/
def Db.submitAll (ids : List Uuid) (db : Db) : Db :=
  { db with receivables := fun id =>
      if id ∈ ids then (db.receivables id).map Receivable.submitted else db.receivables id }

/-- A new claim over distinct claimable receivables. -/
structure Submitted (tenant claimId : Uuid) (claim : Claim) (lines : List ClaimReceivable)
    (db db' : Db) : Prop where
  free : db.claims claimId = none
  own : claim.tenantId = tenant
  pending : claim.status = .submitted
  version : claim.version = 0
  nonempty : lines ≠ []
  distinct : (lines.map ClaimReceivable.receivableId).Nodup
  linked : ∀ line ∈ lines, line.claimId = claimId ∧ line.tenantId = tenant
  claimable : ∀ line ∈ lines, ∃ r, db.receivables line.receivableId = some r ∧
    r.tenantId = tenant ∧ r.state ∈ claimableStates
  written : db' = { (db.submitAll (lines.map ClaimReceivable.receivableId)).setClaim claimId claim
    with claimReceivables := db.claimReceivables ++ lines }

theorem updateReceivables_ok (distinct : ids.Nodup)
    (shown : ∀ id ∈ ids, ∃ r, db.receivables id = some r ∧ r.tenantId = tenant)
    (works : db.updateReceivables tenant (fun r => { r with state := .claimed }) ids = .ok db') :
    db' = db.submitAll ids := by
  induction ids generalizing db with
  | nil =>
    cases works
    simp [Db.submitAll]
  | cons id rest ih =>
    obtain ⟨⟨row, db''⟩, updated, works⟩ := bind_ok works
    obtain ⟨fresh, distinct⟩ := nodup_cons.1 distinct
    obtain ⟨r, here, own⟩ := shown id mem_cons_self
    rcases Db.updateReceivable_ok updated with ⟨hidden, -, -⟩ | ⟨r', present', -, -, rfl⟩
    · rw [visible_some.2 ⟨here, own⟩] at hidden
      cases hidden
    · have later : ∀ id' ∈ rest, id' ≠ id := fun id' mem same => fresh (same ▸ mem)
      rw [ih distinct (fun id' mem => ?_) works]
      · obtain rfl : r = r' := mem_unique here present'
        unfold Db.submitAll
        congr 1
        funext other
        by_cases same : other = id
        · subst same
          rw [if_neg fresh, Db.setReceivable_self, if_pos mem_cons_self, here]
          rfl
        · simp only [mem_cons, same, false_or, Db.setReceivable_of_ne same]
      · obtain ⟨r', present', own'⟩ := shown id' (mem_cons_of_mem _ mem)
        exact ⟨r', by rwa [Db.setReceivable_of_ne (later id' mem)], own'⟩

theorem found_distinct {Row : Type} {row : Uuid → Option Row}
    (complete : (ids.dedup.filterMap row).length = ids.length) :
    ids.Nodup ∧ ∀ id ∈ ids, ∃ r, row id = some r := by
  have shorter := (List.dedup_sublist ids).length_le
  have fewer := List.length_filterMap_le row ids.dedup
  have same : ids.dedup = ids :=
    (List.dedup_sublist ids).eq_of_length (Nat.le_antisymm shorter (complete ▸ fewer))
  rw [same] at complete
  refine ⟨List.dedup_eq_self.1 same, fun id mem => isSome_iff_exists.1 ?_⟩
  exact List.filterMap_length_eq_length.1 complete id mem

theorem insertLines_effect {input : SubmitClaimInput} {rows : List Unit}
    (read : refs.map Uuid.ofText = ids.map some)
    (ran : Commits (engine tenant) world
      (forEach (fun ref => do
        let id ← newId
        clientQuery (.insertClaimReceivable id input.tenantId storeId claimId ref)) refs)
      session rows after) :
    ∃ lines, lines.map ClaimReceivable.receivableId = ids ∧
      (∀ line ∈ lines, line.claimId = claimId ∧ line.tenantId = input.tenantId) ∧
      after.db = { session.db with claimReceivables := session.db.claimReceivables ++ lines } := by
  refine commits_forEach
    (fun ref _ db db' => ∃ line : ClaimReceivable, Uuid.ofText ref = some line.receivableId ∧
      line.claimId = claimId ∧ line.tenantId = input.tenantId ∧
      db' = { db with claimReceivables := db.claimReceivables ++ [line] })
    (fun refs _ db db' => ∀ ids, refs.map Uuid.ofText = ids.map some →
      ∃ lines, lines.map ClaimReceivable.receivableId = ids ∧
        (∀ line ∈ lines, line.claimId = claimId ∧ line.tenantId = input.tenantId) ∧
        db' = { db with claimReceivables := db.claimReceivables ++ lines }) ?_ ran ?_ ?_ ids read
  · intro ref session done after ran
    obtain ⟨id, drawn, drew, ran⟩ := commits_bind ran
    obtain ⟨receivableId, cast, -, written⟩ := insertClaimReceivable_ok (commits_query ran)
    rw [commits_newId drew] at written
    exact ⟨_, cast, rfl, rfl, written⟩
  · intro db ids read
    obtain rfl : ids = [] := by simpa using read.symm
    exact ⟨[], rfl, by simp, by simp⟩
  · rintro ref _ rest _ db _ db' ⟨line, cast, claim, own, rfl⟩ later ids read
    cases ids with
    | nil => cases read
    | cons id ids =>
      obtain ⟨head, tail⟩ := List.cons.inj read
      obtain ⟨lines, receivables, linked, rfl⟩ := later ids tail
      refine ⟨line :: lines, ?_, ?_, by simp⟩
      · rw [map_cons, receivables, mem_unique cast head]
      · intro other member
        rcases mem_cons.1 member with rfl | member
        · exact ⟨claim, own⟩
        · exact linked other member

theorem claimFound_effect {input : SubmitClaimInput} {result : SubmitClaimResult}
    (cast : refs.mapM castUuid = .ok ids)
    (ran : Commits (engine tenant) world
      (claimFound input refs
          (ids.dedup.filterMap fun id => (visible Receivable.tenantId tenant (session.db.receivables id)).map
            fun r => ⟨id, r.state, r.storeId, r.payerId⟩)) session result after) :
    after.db = session.db ∨
      ((∃ body, result = .ok body) ∧
        ∃ claimId claim lines, Submitted tenant claimId claim lines session.db after.db) := by
  have read := mapM_castUuid_ok cast
  have lengths : refs.length = ids.length := by simpa using congrArg List.length read
  generalize rows : (ids.dedup.filterMap fun id =>
    (visible Receivable.tenantId tenant (session.db.receivables id)).map fun r =>
      (⟨id, r.state, r.storeId, r.payerId⟩ : FoundRow)) = found at ran
  unfold claimFound at ran
  split_ifs at ran with missing unclaimable otherPayer
  · obtain ⟨-, rfl⟩ := commits_done ran
    exact .inl rfl
  · obtain ⟨-, rfl⟩ := commits_done ran
    exact .inl rfl
  · obtain ⟨-, rfl⟩ := commits_done ran
    exact .inl rfl
  · split at ran
    · rename_i storeId stores
      obtain ⟨claimId, drawn, drew, ran⟩ := commits_bind ran
      obtain ⟨_, created, asked, ran⟩ := commits_bind ran
      obtain ⟨payerId, free, own, claimed⟩ := insertClaim_ok (commits_query asked)
      obtain ⟨_, ended, linking, ran⟩ := commits_bind ran
      obtain ⟨rfl, rfl⟩ := commits_done ran
      obtain ⟨_, linked, loop, marking⟩ := commits_bind linking
      obtain ⟨lines, receivables, ofClaim, added⟩ := insertLines_effect read loop
      obtain ⟨ids', cast', marked⟩ := claimReceivables_ok (commits_query marking)
      obtain rfl : ids = ids' := Except.ok.inj (cast.symm.trans cast')
      obtain ⟨distinct, all⟩ := found_distinct (by rw [rows, not_not.1 missing, lengths])
      have shown : ∀ id ∈ ids, ∃ r, session.db.receivables id = some r ∧ r.tenantId = tenant ∧
          r.state ∈ claimableStates := by
        intro id mem
        obtain ⟨row, found'⟩ := all id mem
        obtain ⟨r, hit, rfl⟩ := map_eq_some_iff.1 found'
        obtain ⟨here, own⟩ := visible_some.1 hit
        refine ⟨r, here, own, ?_⟩
        by_contra state
        refine unclaimable ⟨⟨id, r.state, r.storeId, r.payerId⟩, ?_, state⟩
        rw [← rows]
        exact mem_filterMap.2 ⟨id, List.mem_dedup.2 mem, found'⟩
      have same : linked.db.receivables = session.db.receivables := by
        rw [added, claimed, commits_newId drew]
        rfl
      rw [List.Nodup.dedup distinct] at marked
      have written := updateReceivables_ok distinct (fun id mem => by
        obtain ⟨r, here, own, -⟩ := shown id mem
        exact ⟨r, by rw [same, here], own⟩) marked
      rw [commits_newId drew] at free claimed
      refine .inr ⟨⟨_, rfl⟩, claimId, ⟨input.tenantId, storeId, payerId, .submitted, 0⟩, lines, free,
        own, rfl, rfl, ?_, receivables ▸ distinct, fun line mem => ?_, fun line mem => ?_, ?_⟩
      · rintro rfl
        rw [map_nil] at receivables
        rw [← receivables] at rows
        rw [← rows] at stores
        simp [Platform.distinct] at stores
      · rw [← own]
        exact ofClaim line mem
      · exact shown _ (receivables ▸ mem_map_of_mem mem)
      · rw [written, added, claimed, receivables]
        rfl
    · obtain ⟨-, rfl⟩ := commits_done ran
      exact .inl rfl

theorem submitClaim_effect {input : SubmitClaimInput} {result : SubmitClaimResult}
    (ran : Commits (engine tenant) world (submitClaim input) session result after) :
    after.db = session.db ∨
      ((∃ body, result = .ok body) ∧
        ∃ claimId claim lines, Submitted tenant claimId claim lines session.db after.db) := by
  obtain ⟨payer, asked, found, ran⟩ := commits_bind ran
  have unchanged := selectPayer_ok (commits_query found)
  by_cases missing : Option.isNone payer = true
  · rw [if_pos missing] at ran
    obtain ⟨-, rfl⟩ := commits_done ran
    exact .inl unchanged
  · rw [if_neg missing] at ran
    obtain ⟨rows, locked, asked', ran⟩ := commits_bind ran
    obtain ⟨ids, cast, unchanged', rfl⟩ := lockReceivables_ok (commits_query asked')
    rw [← unchanged, ← unchanged'] at *
    exact claimFound_effect cast ran

/-! ### Reconciling -/

def balances (lines : List (Uuid × Receivable)) : List (Uuid × Money) :=
  lines.map fun line => (line.1, line.2.outstandingBalance)

def claimedSum (balances : List (Uuid × Money)) : Nat := (balances.map fun b => b.2.units).sum

/-- First in, first out: the lines that get something, with what they are left with. -/
def apportion (remaining : Nat) : List (Uuid × Money) → List (Uuid × Money)
  | [] => []
  | (id, balance) :: rest =>
    if remaining = 0 then []
    else if balance.units = 0 then apportion remaining rest
    else (id, balance.minus remaining) :: apportion (remaining - balance.units) rest

def remittanceOutcome (remitted : Nat) (balances : List (Uuid × Money)) : ReconcileOutcome :=
  outcomeOf ((claimedSum balances : ℤ) - remitted)

/-- The lines a remittance writes, with what they are left with. -/
def payout (remitted : Nat) (balances : List (Uuid × Money)) : List (Uuid × Money) :=
  match remittanceOutcome remitted balances with
  | .partially => apportion remitted balances
  | _ => balances.map fun b => (b.1, .zero)

/-- A line after the remittance reached it: a partial one leaves its state alone. -/
def Receivable.remitted (outcome : ReconcileOutcome) (balance : Money) (r : Receivable) :
    Receivable :=
  { r with
    outstandingBalance := balance
    state := match outcome with
      | .settled => .settled
      | .flagged => .flagged
      | .partially => r.state
    version := r.version + 1 }

def writeBalance (tenant : Uuid) (outcome : ReconcileOutcome) (table : Uuid → Option Receivable)
    (write : Uuid × Money) : Uuid → Option Receivable :=
  match visible Receivable.tenantId tenant (table write.1) with
  | none => table
  | some r => Function.update table write.1 (some (r.remitted outcome write.2))

def writeBalances (tenant : Uuid) (outcome : ReconcileOutcome) (writes : List (Uuid × Money))
    (table : Uuid → Option Receivable) : Uuid → Option Receivable :=
  writes.foldl (writeBalance tenant outcome) table

theorem writeBalance_other {write : Uuid × Money} (other : id ≠ write.1) :
    writeBalance tenant outcome table write id = table id := by
  unfold writeBalance
  cases visible Receivable.tenantId tenant (table write.1) with
  | none => rfl
  | some r => exact Function.update_of_ne other _ _

theorem writeBalances_other (other : id ∉ writes.map Prod.fst) :
    writeBalances tenant outcome writes table id = table id := by
  induction writes generalizing table with
  | nil => rfl
  | cons write rest ih =>
    simp only [map_cons, mem_cons, not_or] at other
    show writeBalances tenant outcome rest (writeBalance tenant outcome table write) id = table id
    rw [ih other.2, writeBalance_other other.1]

theorem writeBalances_mem {r : Receivable} (distinct : (writes.map Prod.fst).Nodup)
    (member : (id, balance) ∈ writes) (here : table id = some r) (own : r.tenantId = tenant) :
    writeBalances tenant outcome writes table id = some (r.remitted outcome balance) := by
  induction writes generalizing table with
  | nil => cases member
  | cons write rest ih =>
    obtain ⟨fresh, distinct⟩ := nodup_cons.1 distinct
    show writeBalances tenant outcome rest (writeBalance tenant outcome table write) id = _
    rcases mem_cons.1 member with rfl | member
    · rw [writeBalances_other fresh, writeBalance, visible_some.2 ⟨here, own⟩]
      exact Function.update_self _ _ _
    · have unlike : id ≠ write.1 := by
        rintro rfl
        exact fresh (mem_map.2 ⟨_, member, rfl⟩)
      exact ih distinct member ((writeBalance_other unlike).trans here)

/-- The remitted amount written to the lines of a pending claim. -/
structure Reconciled (tenant claimId : Uuid) (claim : Claim) (remitted : Nat) (db db' : Db) :
    Prop where
  present : db.claims claimId = some claim
  own : claim.tenantId = tenant
  pending : claim.status ≠ .reconciled
  nonempty : db.claimLines tenant claimId ≠ []
  claimed : ∀ line ∈ db.claimLines tenant claimId, line.2.state = .claimed
  written : ∃ remittance result, db' = { db with
    receivables := writeBalances tenant
      (remittanceOutcome remitted (balances (db.claimLines tenant claimId)))
      (payout remitted (balances (db.claimLines tenant claimId))) db.receivables
    claims := Function.update db.claims claimId
      (some { claim with status := .reconciled, version := claim.version + 1 })
    remittances := db.remittances ++ [remittance]
    reconciliationResults := db.reconciliationResults ++ [result] }

/-- The rows the driver hands out for the lines of a claim. -/
def lineRows (lines : List (Uuid × Receivable)) : List LineRow :=
  lines.map fun line => ⟨line.1, line.2.state, line.2.outstandingBalance.text⟩

theorem writeLine_effect {row : Option DbRow} {set : Receivable → Receivable}
    (sets : ∀ r : Receivable, r.updated set = r.remitted outcome balance)
    (works : db.updateReceivable tenant id set = .ok (row, db')) :
    db' = { db with receivables := writeBalance tenant outcome db.receivables (id, balance) } := by
  rcases Db.updateReceivable_ok works with ⟨hidden, -, rfl⟩ | ⟨r, here, own, -, rfl⟩
  · simp only [writeBalance, hidden]
  · simp only [writeBalance, visible_some.2 ⟨here, own⟩, sets]
    rfl

theorem clearLines_effect {nextState : ReceivableState}
    (sets : ∀ r : Receivable, (r.remitted outcome .zero).state = nextState)
    (ran : Commits (engine tenant) world (clearLines nextState (lineRows lines)) session done after) :
    after.db = { session.db with
      receivables := writeBalances tenant outcome
        ((balances lines).map fun b => (b.1, .zero)) session.db.receivables } := by
  obtain ⟨_, last, loop, ran⟩ := commits_bind ran
  obtain ⟨-, rfl⟩ := commits_done ran
  refine commits_forEach (fun line _ db db' => db' =
      { db with receivables := writeBalance tenant outcome db.receivables (line.id, .zero) })
    (fun rows _ db db' => ∀ lines, rows = lineRows lines → db' =
      { db with
        receivables := writeBalances tenant outcome
          ((balances lines).map fun b => (b.1, .zero)) db.receivables }) ?_ loop ?_ ?_ lines rfl
  · intro line session done after ran
    obtain ⟨⟨row, db⟩, updated, ended⟩ := bind_ok (commits_query ran)
    cases ended
    refine writeLine_effect (fun r => ?_) updated
    rw [← sets r]
    rfl
  · intro db lines empty
    obtain rfl : lines = [] := by simpa [lineRows] using empty.symm
    rfl
  · rintro row _ rest _ db _ db' rfl later lines rows
    cases lines with
    | nil => cases rows
    | cons line lines =>
      obtain ⟨rfl, tail⟩ := List.cons.inj rows
      exact later lines tail

theorem apportionLines_cons (remaining : Nat) (id : Uuid) (r : Receivable) (rest : List (Uuid × Receivable)) :
    apportionLines remaining (lineRows ((id, r) :: rest)) =
      if remaining = 0 then .done () else if r.outstandingBalance.units = 0 then
      apportionLines remaining (lineRows rest) else
      (clientQuery (.reduceReceivable id (r.outstandingBalance.minus remaining).text)).bind
      fun _ => apportionLines (remaining - r.outstandingBalance.units : ℕ) (lineRows rest) := by
  have read := (toScaledInt_of_money r.outstandingBalance).2.2
  simp only [lineRows, map_cons, apportionLines]
  by_cases spent : remaining = 0
  · rw [if_pos (by simp [spent]), if_pos spent]
    rfl
  · rw [if_neg (by omega), if_neg spent, read]
    show (if _ then _ else _) = _
    by_cases empty : r.outstandingBalance.units = 0
    · rw [if_pos (by split_ifs <;> omega), if_pos empty]
    · have applied : (if (remaining : ℤ) < r.outstandingBalance.units then (remaining : ℤ)
          else r.outstandingBalance.units) = (min remaining r.outstandingBalance.units : ℕ) := by
        split_ifs <;> omega
      have left : (r.outstandingBalance.units : ℤ) - (min remaining r.outstandingBalance.units : ℕ)
          = ((r.outstandingBalance.minus remaining).units : ℕ) := by
        simp only [Money.minus]
        omega
      have rest' : (remaining : ℤ) - (min remaining r.outstandingBalance.units : ℕ) =
          (remaining - r.outstandingBalance.units : ℕ) := by omega
      rw [applied, left, rest', fromScaledInt_units, if_neg (by omega), if_neg empty]
      rfl

/-- **The loop of the service distributes the amount as `apportion` does.** -/
theorem apportionLines_effect {remaining : Nat}
    (ran : Commits (engine tenant) world (apportionLines remaining (lineRows lines)) session done after) :
    after.db = { session.db with
      receivables := writeBalances tenant .partially
        (apportion remaining (balances lines)) session.db.receivables } := by
  induction lines generalizing remaining session with
  | nil =>
    obtain ⟨-, rfl⟩ := commits_done ran
    rfl
  | cons line rest ih =>
    obtain ⟨id, r⟩ := line
    rw [apportionLines_cons] at ran
    simp only [balances, map_cons, apportion]
    split_ifs at ran ⊢ with spent empty
    · obtain ⟨-, rfl⟩ := commits_done ran
      rfl
    · exact ih ran
    · obtain ⟨_, next, asked, ran⟩ := commits_bind ran
      obtain ⟨stored, cast, asked⟩ := bind_ok (commits_query asked)
      obtain ⟨⟨row, db⟩, updated, ended⟩ := bind_ok asked
      rw [Money.ofText_text] at cast
      cases cast
      have written : db = next.db := (ok_inj ended).2
      have sets : ∀ line : Receivable, line.updated (fun line =>
          { line with outstandingBalance := r.outstandingBalance.minus remaining }) =
          line.remitted .partially (r.outstandingBalance.minus remaining) := fun _ => rfl
      rw [ih ran, ← written, writeLine_effect sets updated]
      rfl

theorem applyRemittance_effect (parts : PlainParts 15 4 input.remittedAmount.toList w f)
    (ran : Commits (engine tenant) world (applyRemittance input
      (remittanceOutcome (plainUnits w f) (balances lines)) (lineRows lines)) session done after) :
    after.db = { session.db with
      receivables := writeBalances tenant (remittanceOutcome (plainUnits w f) (balances lines))
        (payout (plainUnits w f) (balances lines)) session.db.receivables } := by
  unfold payout
  generalize remittanceOutcome (plainUnits w f) (balances lines) = outcome at ran ⊢
  cases outcome with
  | settled | flagged => exact clearLines_effect (fun r => rfl) ran
  | partially =>
    obtain ⟨remaining, read, asked, ran⟩ := commits_bind ran
    obtain ⟨remaining', rfl⟩ := commits_orSyntaxError asked
    obtain rfl := Option.some.inj (remaining'.symm.trans (toScaledInt_of_plain parts).2.2)
    exact apportionLines_effect ran

theorem recordRemittance_effect {decision : ReconcileDecision}
    (ran : Commits (engine tenant) world (recordRemittance input storeId claimed decision) session done after) :
    ∃ remittance result, Numeric.ofText decision.variance = .ok result.variance ∧ after.db = { session.db with
        remittances := session.db.remittances ++ [remittance]
        reconciliationResults := session.db.reconciliationResults ++ [result] } := by
  obtain ⟨remittanceId, drawn, drew, ran⟩ := commits_bind ran
  obtain ⟨_, stored, asked, ran⟩ := commits_bind ran
  obtain ⟨remittance, first⟩ := insertRemittance_ok (commits_query asked)
  obtain ⟨resultId, drawn', drew', ran⟩ := commits_bind ran
  obtain ⟨result, cast, second⟩ := insertReconciliationResult_ok (commits_query ran)
  rw [commits_newId drew', first, commits_newId drew] at second
  exact ⟨remittance, result, cast, second⟩

theorem sumScaled_lineRows (lines : List (Uuid × Receivable)) :
    ClaimService.sumScaled ((lineRows lines).map LineRow.outstandingBalance) =
      some (fromScaledInt (claimedSum (balances lines) : ℕ)) := by
  have amounts : (lineRows lines).map LineRow.outstandingBalance =
      ((balances lines).map Prod.snd).map Money.text := by
    simp [lineRows, balances]
  rw [amounts, sumScaled_of_money, map_map]
  rfl

theorem writeReconciliation_effect {variance : String} (parts : PlainParts 15 4 input.remittedAmount.toList w f)
    (read : Uuid.ofText input.claimRef = some claimId)
    (here : session.db.claims claimId = some claim) (own : claim.tenantId = tenant)
    (ran : Commits (engine tenant) world (writeReconciliation input storeId (lineRows lines) claimed
      ⟨remittanceOutcome (plainUnits w f) (balances lines), variance⟩) session result after) :
    (∃ body, result = .ok body) ∧ ∃ remittance result, Numeric.ofText variance = .ok result.variance ∧
      after.db = { session.db with
        receivables := writeBalances tenant (remittanceOutcome (plainUnits w f) (balances lines))
          (payout (plainUnits w f) (balances lines)) session.db.receivables
        claims := Function.update session.db.claims claimId
          (some { claim with status := .reconciled, version := claim.version + 1 })
        remittances := session.db.remittances ++ [remittance]
        reconciliationResults := session.db.reconciliationResults ++ [result] } := by
  obtain ⟨_, recorded, recording, ran⟩ := commits_bind ran
  obtain ⟨remittance, result', cast, kept⟩ := recordRemittance_effect recording
  obtain ⟨_, applied, applying, ran⟩ := commits_bind ran
  have paid := applyRemittance_effect parts applying
  obtain ⟨_, last, asked, ran⟩ := commits_bind ran
  obtain ⟨rfl, rfl⟩ := commits_done ran
  obtain ⟨claimId', read', marked⟩ := reconcileClaim_ok (commits_query asked)
  obtain rfl : claimId = claimId' := mem_unique read read'
  have present' : applied.db.claims claimId = some claim := by
    rw [paid, kept]
    exact here
  refine ⟨⟨_, rfl⟩, remittance, result', cast, ?_⟩
  rw [marked claim present' own, paid, kept]
  rfl

theorem reconcileLines_claimed (parts : PlainParts 15 4 input.remittedAmount.toList w f)
    (nonempty : lines ≠ []) (claimed : ∀ line ∈ lines, line.2.state = .claimed) :
    reconcileLines input storeId (lineRows lines) =
      writeReconciliation input storeId (lineRows lines) (fromScaledInt (claimedSum (balances lines) : ℕ))
      ⟨remittanceOutcome (plainUnits w f) (balances lines),
       fromScaledInt ((claimedSum (balances lines) : ℕ) - (plainUnits w f : ℕ))⟩ := by
  have some' : ¬ (lineRows lines).length = 0 := by
    rw [lineRows, length_map, length_eq_zero_iff]
    exact nonempty
  have unmoved : ¬ ∃ r ∈ lineRows lines, r.state ≠ .claimed := by
    rintro ⟨row, mem, moved⟩
    obtain ⟨line, inLines, rfl⟩ := mem_map.1 mem
    exact moved (claimed line inLines)
  have decided : decideReconciliation (fromScaledInt (claimedSum (balances lines) : ℕ)) input.remittedAmount =
      some ⟨remittanceOutcome (plainUnits w f) (balances lines),
        fromScaledInt ((claimedSum (balances lines) : ℕ) - (plainUnits w f : ℕ))⟩ :=
    decideReconciliation_of_money parts
  rw [reconcileLines, if_neg some', if_neg unmoved]
  simp only [sumScaled_lineRows, decided, orSyntaxError, bind_eq, done_bind]

theorem reconcileLines_effect (shape : isMoneyText input.remittedAmount = true)
    (read : Uuid.ofText input.claimRef = some claimId) (here : session.db.claims claimId = some claim)
    (own : claim.tenantId = tenant) (pending : claim.status ≠ .reconciled)
    (ran : Commits (engine tenant) world
      (reconcileLines input storeId (lineRows (session.db.claimLines tenant claimId))) session result after) :
    after.db = session.db ∨
      ((∃ body, result = .ok body) ∧
        Reconciled tenant claimId claim (unitsOf input.remittedAmount) session.db after.db) := by
  obtain ⟨w, f, parts⟩ := plain_split shape
  by_cases nonempty : session.db.claimLines tenant claimId = []
  · rw [nonempty] at ran
    obtain ⟨-, rfl⟩ := commits_done ran
    exact .inl rfl
  by_cases claimed : ∀ line ∈ session.db.claimLines tenant claimId, line.2.state = .claimed
  · rw [reconcileLines_claimed parts nonempty claimed] at ran
    obtain ⟨ok, remittance, result, -, written⟩ := writeReconciliation_effect parts read here own ran
    rw [unitsOf_plain parts]
    exact .inr ⟨ok, here, own, pending, nonempty, claimed, remittance, result, written⟩
  · have moved : ∃ r ∈ lineRows (session.db.claimLines tenant claimId), r.state ≠ .claimed := by
      push Not at claimed
      obtain ⟨line, mem, state⟩ := claimed
      exact ⟨_, mem_map_of_mem mem, state⟩
    unfold reconcileLines at ran
    split_ifs at ran
    · obtain ⟨-, rfl⟩ := commits_done ran
      exact .inl rfl
    · obtain ⟨-, rfl⟩ := commits_done ran
      exact .inl rfl

theorem reconcileFound_effect (shape : isMoneyText input.remittedAmount = true)
    (read : Uuid.ofText input.claimRef = some claimId) (here : session.db.claims claimId = some claim)
    (own : claim.tenantId = tenant)
    (ran : Commits (engine tenant) world (reconcileFound input claim.status claim.storeId) session result
      after) :
    after.db = session.db ∨
      ((∃ body, result = .ok body) ∧
        Reconciled tenant claimId claim (unitsOf input.remittedAmount) session.db after.db) := by
  unfold reconcileFound at ran
  split_ifs at ran with done
  · obtain ⟨-, rfl⟩ := commits_done ran
    exact .inl rfl
  · obtain ⟨rows, locked, asked, ran⟩ := commits_bind ran
    obtain ⟨claimId', read', unchanged, rfl⟩ := lockClaimLines_ok (commits_query asked)
    obtain rfl : claimId = claimId' := mem_unique read read'
    rw [← unchanged] at here ran ⊢
    exact reconcileLines_effect shape read here own done ran

theorem reconcileRemittance_effect (shape : isMoneyText input.remittedAmount = true)
    (ran : Commits (engine tenant) world (reconcileRemittance input) session result after) :
    after.db = session.db ∨
      ((∃ body, result = .ok body) ∧
        ∃ claimId claim, Uuid.ofText input.claimRef = some claimId ∧
        Reconciled tenant claimId claim (unitsOf input.remittedAmount) session.db after.db) := by
  obtain ⟨found, locked, asked, ran⟩ := commits_bind ran
  obtain ⟨claimId, read, unchanged, reply⟩ := lockClaim_ok (commits_query asked)
  rw [← unchanged]
  cases found with
  | none =>
    obtain ⟨-, rfl⟩ := commits_done ran
    exact .inl rfl
  | some row =>
    obtain ⟨claim, hit, rfl⟩ := map_eq_some_iff.1 reply.symm
    obtain ⟨here, own⟩ := visible_some.1 hit
    rw [← unchanged] at here
    rcases reconcileFound_effect shape read here own ran with same | ⟨ok, reconciled⟩
    · exact .inl same
    · exact .inr ⟨ok, claimId, claim, read, reconciled⟩

end DataPulse.Settlement
