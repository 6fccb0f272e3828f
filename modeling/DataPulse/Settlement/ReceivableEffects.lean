/-
**What opening and paying did, if they did anything.**

A service call that commits left the tables as they were or had one effect, whatever its arguments
were and whichever statement the world failed.
-/

import DataPulse.Settlement.Service

namespace DataPulse.Settlement

open Lib Lib.Decimal Lib.Prog Platform

variable {world : World Uuid Thrown} {tenant : Uuid} {session after : Session Db}
variable {result : ApplyPaymentResult} {payers : List IntentPayerInput} {r : Receivable}
variable {newState : ReceivableState} {input : ApplyPaymentInput} {newBalance : String} {id : Uuid}
variable {storeId : Uuid} {w f : List Char}

/-- No other table than that of the receivables changed. -/
def OnlyReceivables (db db' : Db) : Prop := db' = { db with receivables := db'.receivables }

/-! ### Opening -/

/-- New receivables, each owing the amount of one of the payers. -/
structure Opened (payers : List IntentPayerInput) (db db' : Db) : Prop where
  kept : ∀ id r, db.receivables id = some r → db'.receivables id = some r
  added : ∀ id r, db'.receivables id = some r → db.receivables id = some r ∨
    (db.receivables id = none ∧ r.state = .opened ∧ r.version = 0 ∧
      ∃ payer ∈ payers, Money.ofText "receivable_balance_non_negative" payer.owedAmount =
        .ok r.outstandingBalance)
  frame : OnlyReceivables db db'

theorem payersInScope_effect {inScope : Bool}
    (ran : Commits (engine tenant) world (payersInScope storeId payers) session inScope after) :
    after.db = session.db := by
  induction payers generalizing session with
  | nil =>
    obtain ⟨-, rfl⟩ := commits_done ran
    rfl
  | cons payer rest ih =>
    obtain ⟨found, middle, asked, later⟩ := commits_bind ran
    have unchanged := selectPayer_ok (commits_query asked)
    by_cases missing : Option.isNone found = true
    · rw [if_pos missing] at later
      obtain ⟨-, rfl⟩ := commits_done later
      exact unchanged
    · rw [if_neg missing] at later
      exact (ih later).trans unchanged

theorem Opened.refl (payers : List IntentPayerInput) (db : Db) : Opened payers db db :=
  ⟨fun _ _ here => here, fun _ _ here => .inl here, rfl⟩

theorem Opened.insert {payer : IntentPayerInput} {rest : List IntentPayerInput} {db db' : Db}
    (free : db.receivables id = none) (fresh : r.state = .opened) (version : r.version = 0)
    (owed : Money.ofText "receivable_balance_non_negative" payer.owedAmount = .ok r.outstandingBalance)
    (later : Opened rest (db.setReceivable id r) db') : Opened (payer :: rest) db db' := by
  refine ⟨fun other r' here => later.kept other r' ?_, fun other r' here => ?_, later.frame⟩
  · have unlike : other ≠ id := by
      rintro rfl
      rw [free] at here
      cases here
    rw [Db.setReceivable_of_ne unlike]
    exact here
  · rcases later.added other r' here with old | ⟨absent, state, version', from_, mem, amount⟩
    · by_cases same : other = id
      · subst same
        rw [Db.setReceivable_self] at old
        rw [← Option.some.inj old]
        exact .inr ⟨free, fresh, version, payer, mem_cons_self, owed⟩
      · rw [Db.setReceivable_of_ne same] at old
        exact .inl old
    · have unlike : other ≠ id := by
        rintro rfl
        rw [Db.setReceivable_self] at absent
        cases absent
      rw [Db.setReceivable_of_ne unlike] at absent
      exact .inr ⟨absent, state, version', from_, mem_cons_of_mem _ mem, amount⟩

theorem insertReceivables_effect {input : OpenIntentInput} {rows : List ReceivableRow}
    (ran : Commits (engine tenant) world (forEach (insertReceivable input) payers) session rows after) :
    Opened payers session.db after.db := by
  refine commits_forEach (fun payer _ db db' => ∃ id r, db.receivables id = none ∧
      r.state = .opened ∧ r.version = 0 ∧
      Money.ofText "receivable_balance_non_negative" payer.owedAmount = .ok r.outstandingBalance ∧
      db' = db.setReceivable id r) (fun payers _ db db' => Opened payers db db') ?_ ran
    (fun db => .refl [] db) ?_
  · intro payer session value after ran
    obtain ⟨id, drawn, drew, ran⟩ := commits_bind ran
    obtain ⟨row, added, asked, ran⟩ := commits_bind ran
    obtain ⟨-, rfl⟩ := commits_done ran
    obtain ⟨r, free, state, version, -, owed, written⟩ := insertReceivable_ok (commits_query asked)
    rw [commits_newId drew] at free written
    exact ⟨id, r, free, state, version, owed, written⟩
  · rintro payer _ rest _ db _ db' ⟨id, r, free, state, version, owed, rfl⟩ later
    exact later.insert free state version owed

theorem openFromIntent_effect {input : OpenIntentInput} {result : OpenIntentResult}
    (ran : Commits (engine tenant) world (openFromIntent input) session result after) :
    after.db = session.db ∨ ((∃ rows, result = .ok rows) ∧ Opened input.payers session.db after.db) := by
  obtain ⟨inScope, checked, scope, ran⟩ := commits_bind ran
  have unchanged := payersInScope_effect scope
  by_cases missing : (!inScope) = true
  · rw [if_pos missing] at ran
    obtain ⟨-, rfl⟩ := commits_done ran
    exact .inl unchanged
  · rw [if_neg missing] at ran
    have aborts : AbortsOnError (engine tenant) world
      ((forEach (insertReceivable input) input.payers).bind fun rows
      => .done (OpenIntentResult.ok rows)) := abortsOnError_bind (abortsOnError_forEach (fun payer =>
      abortsOnError_bind abortsOnError_newId fun id => abortsOnError_bind (abortsOnError_query _) fun row =>
      abortsOnError_done _) _) fun rows => abortsOnError_done _
    obtain ⟨rows, added, loop, ran⟩ := commits_bind (commits_rescue aborts ran)
    obtain ⟨rfl, rfl⟩ := commits_done ran
    have opened := insertReceivables_effect loop
    rw [unchanged] at opened
    exact .inr ⟨⟨rows, rfl⟩, opened⟩

/-! ### Paying -/

def Receivable.paid (amount : Nat) (r : Receivable) : Receivable :=
  { r with
    outstandingBalance := r.outstandingBalance.minus amount
    state := if r.outstandingBalance.units - amount = 0 then .settled else .partiallyApplied
    version := r.version + 1 }

/-- A payment within the balance of a live receivable, with its ledger row. -/
structure Applied (id : Uuid) (r : Receivable) (payment : PaymentApplication) (db db' : Db) :
    Prop where
  present : db.receivables id = some r
  live : isTerminalState r.state = false
  target : payment.receivableId = id
  positive : 0 < payment.appliedAmount.units
  covered : payment.appliedAmount.units ≤ r.outstandingBalance.units
  written : db' = { db.setReceivable id (r.paid payment.appliedAmount.units) with
    paymentApplications := db.paymentApplications ++ [payment] }

theorem commits_orSyntaxError {α : Type} {read : Option α} {value : α}
    (ran : Commits (engine tenant) world (orSyntaxError read) session value after) :
    read = some value ∧ after = session := by
  cases read with
  | none => exact (not_commits_fail ran).elim
  | some value' =>
    obtain ⟨rfl, rfl⟩ := commits_done ran
    exact ⟨rfl, rfl⟩

theorem paid_written {amount : String} {balance : Money} (parts : PlainParts 15 4 amount.toList w f)
    (decided : decideApplication ⟨r.outstandingBalance.text, amount, r.state⟩ =
        some (.ok newBalance newState))
    (stored : Money.ofText "receivable_balance_non_negative" newBalance = .ok balance) :
    plainUnits w f ≤ r.outstandingBalance.units ∧
      ({ r with outstandingBalance := balance, state := newState, version := r.version + 1 } : Receivable) =
      r.paid (plainUnits w f) := by
  rw [decideApplication_of_money parts] at decided
  by_cases exceeds : plainUnits w f > r.outstandingBalance.units
  · rw [if_pos exceeds] at decided
    cases decided
  · rw [if_neg exceeds] at decided
    simp only [Option.some.injEq, ApplyDecision.ok.injEq] at decided
    obtain ⟨rfl, rfl⟩ := decided
    have left := fromScaledInt_units (r.outstandingBalance.minus (plainUnits w f))
    rw [show r.outstandingBalance.units - plainUnits w f =
      (r.outstandingBalance.minus (plainUnits w f)).units from rfl, left, Money.ofText_text] at stored
    rw [← Except.ok.inj stored]
    exact ⟨not_lt.1 exceeds, rfl⟩

theorem writePayment_effect (input : ApplyPaymentInput) (parts : PlainParts 15 4 input.amount.toList w f)
    (read : Uuid.ofText input.receivableRef = some id) (here : session.db.receivables id = some r)
    (own : r.tenantId = tenant) (current : r.version = input.version) (live : isTerminalState r.state = false)
    (decided : decideApplication ⟨r.outstandingBalance.text, input.amount, r.state⟩ =
        some (.ok newBalance newState))
    (ran : Commits (engine tenant) world (writePayment input storeId newBalance newState) session result
      after) :
    (∃ row, result = .ok row) ∧
      ∃ payment, Applied id r payment session.db after.db ∧
      payment.appliedAmount.units = unitsOf input.amount := by
  obtain ⟨paymentId, drawn, drew, ran⟩ := commits_bind ran
  obtain ⟨_, added, asked, ran⟩ := commits_bind ran
  obtain ⟨payment, target, amount, positive, written⟩ := insertPaymentApplication_ok (commits_query asked)
  rw [commits_newId drew] at written
  obtain ⟨updated, last, asked, ran⟩ := commits_bind ran
  obtain ⟨id', balance, read', stored, update⟩ := updateReceivable_ok (commits_query asked)
  obtain rfl : id = id' := mem_unique read read'
  have present' : added.db.receivables id = some r := by
    rw [written]
    exact here
  obtain ⟨found, written'⟩ := update r present' own current
  obtain ⟨row, rfl⟩ := isSome_iff_exists.1 found
  obtain ⟨rfl, rfl⟩ := commits_done ran
  obtain ⟨covered, paid⟩ := paid_written parts decided stored
  have units : payment.appliedAmount.units = plainUnits w f := by
    rw [Money.ofText_plain parts] at amount
    rw [← Except.ok.inj amount]
  refine ⟨⟨toRow row, rfl⟩, payment, ⟨here, live, mem_unique target read,
    positive, units.trans_le covered, ?_⟩, units.trans (unitsOf_plain parts).symm⟩
  rw [written', paid, written, units]
  rfl

theorem payReceivable_effect (shape : isMoneyText input.amount = true)
    (read : Uuid.ofText input.receivableRef = some id) (here : session.db.receivables id = some r)
    (own : r.tenantId = tenant)
    (ran : Commits (engine tenant) world (payReceivable input (r.dbRow id) r.storeId) session result after) :
    after.db = session.db ∨
      ((∃ row, result = .ok row) ∧
        ∃ payment, Applied id r payment session.db after.db ∧
        payment.appliedAmount.units = unitsOf input.amount) := by
  obtain ⟨w, f, parts⟩ := plain_split shape
  unfold payReceivable at ran
  split at ran
  · obtain ⟨-, rfl⟩ := commits_done ran
    exact .inl rfl
  · rename_i taken
    simp only [not_or, not_not] at taken
    obtain ⟨current, notSettled, notFlagged⟩ := taken
    have live : isTerminalState r.state = false := by
      rw [Bool.eq_false_iff, ne_eq, isTerminalState_iff, not_or]
      exact ⟨notSettled, notFlagged⟩
    obtain ⟨decision, decided, asked, ran⟩ := commits_bind ran
    obtain ⟨decision', rfl⟩ := commits_orSyntaxError asked
    cases decision with
    | overApplication =>
      obtain ⟨-, rfl⟩ := commits_done ran
      exact .inl rfl
    | ok newBalance newState =>
      exact .inr (writePayment_effect input parts read here own current live decision' ran)

theorem applyPayment_effect (shape : isMoneyText input.amount = true)
    (ran : Commits (engine tenant) world (applyPayment input) session result after) :
    after.db = session.db ∨
      ((∃ row, result = .ok row) ∧
        ∃ id r payment, Uuid.ofText input.receivableRef = some id ∧ Applied id r payment session.db after.db ∧
        payment.appliedAmount.units = unitsOf input.amount) := by
  obtain ⟨current, locked, asked, ran⟩ := commits_bind ran
  obtain ⟨id, read, unchanged, reply⟩ := lockReceivable_ok (commits_query asked)
  rw [← unchanged]
  cases current with
  | none =>
    obtain ⟨-, rfl⟩ := commits_done ran
    exact .inl rfl
  | some found =>
    obtain ⟨r, hit, rfl⟩ := map_eq_some_iff.1 reply.symm
    obtain ⟨here, own⟩ := visible_some.1 hit
    rw [← unchanged] at here
    rcases payReceivable_effect shape read here own ran with
      same | ⟨ok, payment, applied, amount⟩
    · exact .inl same
    · exact .inr ⟨ok, id, r, payment, read, applied, amount⟩

end DataPulse.Settlement
