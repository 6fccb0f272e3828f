/-
**The lifecycle of a receivable and the conservation of its money.**

* `requests_follow_lifecycle`: from any reachable state, whatever a request does to a receivable is
  an edge of `validTransitions`, leaves a terminal one alone and raises the version of what it
  changes by one; a request that is not answered with a body changes no table;
* `balances_conserved`: along any run, the amount a receivable was opened with is what is still
  outstanding, plus its payments, plus what remittances took off it; the balance never rises.
-/

import DataPulse.Settlement.Runs
import Mathlib.Algebra.BigOperators.Group.List.Lemmas

namespace DataPulse.Settlement

open Lib Platform

variable {r : Receivable} {id : Uuid} {db db' : Db}
variable {call : Call}

/-! ### The lifecycle -/

namespace Evolves

variable {r r' : Receivable}

variable (evolves : Evolves r r')
include evolves

theorem transition (moved : r'.state ≠ r.state) : canTransition r.state r'.state = true := by
  cases evolves with
  | same => exact absurd rfl moved
  | @paid amount live positive covered =>
    have next : (r.paid amount).state = .settled ∨ (r.paid amount).state = .partiallyApplied := by
      unfold Receivable.paid
      dsimp only
      split_ifs
      · exact .inl rfl
      · exact .inr rfl
    rcases next with next | next
    all_goals
      rw [next] at moved ⊢
      cases state : r.state <;> simp_all [canTransition, validTransitions, isTerminalState]
  | submitted claimable =>
    simp only [claimableStates, mem_cons, not_mem_nil, or_false] at claimable
    rcases claimable with state | state <;> rw [state] <;> rfl
  | @remitted outcome balance claimed less =>
    rw [claimed]
    cases outcome with
    | settled | flagged => rfl
    | partially => exact absurd rfl moved

theorem terminal (terminal : isTerminalState r.state = true) : r' = r := by
  cases evolves with
  | same => rfl
  | paid live positive covered =>
    rw [live] at terminal
    cases terminal
  | submitted claimable =>
    rcases (isTerminalState_iff _).1 terminal with state | state <;>
      simp [claimableStates, state] at claimable
  | remitted claimed less =>
    rw [claimed] at terminal
    cases terminal

theorem version (changed : r' ≠ r) : r'.version = r.version + 1 := by
  cases evolves with
  | same => exact absurd rfl changed
  | paid live positive covered | submitted claimable | remitted claimed less => rfl

theorem balance_le : r'.outstandingBalance.units ≤ r.outstandingBalance.units := by
  cases evolves with
  | same => exact le_refl _
  | paid live positive covered => exact Nat.sub_le _ _
  | submitted claimable => exact le_refl _
  | remitted claimed less => exact less

omit evolves

end Evolves

theorem handle_receivable (call : Call) (kept : WellKept db) (here : db.receivables id = some r) :
    ∃ r', (handle call db).2.receivables id = some r' ∧ Evolves r r' := by
  rcases handle_cases call db with same | ⟨-, -, effect⟩
  · exact ⟨r, by rw [same, here], .same⟩
  · exact effect.receivable kept here

/-- **Every request follows the lifecycle.** In a reachable state, a receivable that changes its
settlement state moves along an edge of `validTransitions`; a terminal one stays as it is; a changed
one has the next version; and a request that fails leaves every table as it was. -/
theorem requests_follow_lifecycle (reference : Reference) (calls : List Call) (call : Call) :
    (∀ id r, (run calls reference.start).receivables id = some r →
        ∃ r', (handle call (run calls reference.start)).2.receivables id = some r' ∧
        (r'.state ≠ r.state → canTransition r.state r'.state = true) ∧
        (isTerminalState r.state = true → r' = r) ∧ (r' ≠ r → r'.version = r.version + 1)) ∧
      ∀ failure, (handle call (run calls reference.start)).1 = .error failure →
      (handle call (run calls reference.start)).2 = run calls reference.start := by
  constructor
  · intro id r here
    obtain ⟨r', present', evolves⟩ := handle_receivable call (wellKept_run reference calls) here
    exact ⟨r', present', evolves.transition, evolves.terminal, evolves.version⟩
  · intro failure failed
    rcases handle_cases call (run calls reference.start) with same | ⟨-, ⟨body, answered⟩, -⟩
    · exact same
    · rw [answered] at failed
      cases failed

/-! ### Conservation -/

/-- A request with the tables before and after it. -/
structure Step where
  call : Call
  before : Db
  after : Db

def steps : List Call → Db → List Step
  | [], _ => []
  | call :: rest, db => ⟨call, db, (handle call db).2⟩ :: steps rest (handle call db).2

/-- The balance of a receivable, in ten-thousandths; 0 when there is none. -/
def balanceOf (id : Uuid) (db : Db) : Nat :=
  ((db.receivables id).map fun r => r.outstandingBalance.units).getD 0

/-- The amount a receivable was opened with: its balance in the first state that has it. -/
def openedWith (id : Uuid) (steps : List Step) : Option Nat :=
  steps.findSome? fun step =>
    if (step.before.receivables id).isNone then
      (step.after.receivables id).map fun r => r.outstandingBalance.units
    else none

/-- What the rows of `payment_application` say was paid on a receivable. -/
def applications (id : Uuid) (db : Db) : Nat :=
  ((db.paymentApplications.filter fun p => p.receivableId = id).map fun p =>
    p.appliedAmount.units).sum

/-- What a step took off a receivable, if it was a remittance. -/
def Step.remittedOff (id : Uuid) (step : Step) : Int :=
  match step.call.request with
  | .reconcileRemittance .. => balanceOf id step.before - balanceOf id step.after
  | _ => 0

/-- What the remittances of a run took off a receivable. -/
def remittedOff (id : Uuid) (steps : List Step) : Int := (steps.map (Step.remittedOff id)).sum

/-- The account of one receivable at the end of a run. -/
structure Conserved (calls : List Call) (db : Db) (id : Uuid) (r : Receivable) : Prop where
  /-- Opened = outstanding + paid + remitted. -/
  accounted : ∃ opened, openedWith id (steps calls db) = some opened ∧
    (opened : ℤ) = r.outstandingBalance.units + applications id (run calls db) +
      remittedOff id (steps calls db)
  nonneg : 0 ≤ r.outstandingBalance.numeric.units
  /-- At no earlier moment of the run was it lower. -/
  falling : ∀ first later, calls = first ++ later → ∀ r₀, (run first db).receivables id = some r₀ →
    r.outstandingBalance.units ≤ r₀.outstandingBalance.units

/-- The account of every receivable at the end of a run. -/
def AllConserved (calls : List Call) (db : Db) : Prop :=
  ∀ id r, (run calls db).receivables id = some r → Conserved calls db id r

theorem balanceOf_some (here : db.receivables id = some r) : balanceOf id db = r.outstandingBalance.units := by
  rw [balanceOf, here]
  rfl

@[simp] theorem Step.remittedOff_same (id : Uuid) (call : Call) (db : Db) :
    Step.remittedOff id ⟨call, db, db⟩ = 0 := by
  unfold Step.remittedOff
  split
  · exact Int.sub_self _
  · rfl

def PaymentsLinked (db : Db) : Prop :=
  ∀ payment ∈ db.paymentApplications, ∃ r, db.receivables payment.receivableId = some r

theorem Effect.payments {request : Request} (effect : Effect request db db') :
    db'.paymentApplications = db.paymentApplications ∨ ∃ id r payment, Applied id r payment db db' := by
  cases effect with
  | opened did =>
    have frame : db' = { db with receivables := db'.receivables } := did.frame
    exact .inl (by rw [frame])
  | applied target did amount => exact .inr ⟨_, _, _, did⟩
  | submitted did => exact .inl (by rw [did.written]; rfl)
  | reconciled target did =>
    obtain ⟨remittance, result, rfl⟩ := did.written
    exact .inl rfl

theorem paymentsLinked_handle (call : Call) (db : Db) (kept : WellKept db ∧ PaymentsLinked db) :
    WellKept (handle call db).2 ∧ PaymentsLinked (handle call db).2 := by
  refine ⟨wellKept_handle call db kept.1, fun payment mem => ?_⟩
  have still : ∀ id, (∃ r, db.receivables id = some r) → ∃ r, (handle call db).2.receivables id = some r := by
    rintro id ⟨r, here⟩
    obtain ⟨r', present', -⟩ := handle_receivable call kept.1 here
    exact ⟨r', present'⟩
  rcases handle_cases call db with same | ⟨-, -, effect⟩
  · rw [same] at mem
    exact still _ (kept.2 payment mem)
  · rcases effect.payments with same | ⟨id, r, added, did⟩
    · rw [same] at mem
      exact still _ (kept.2 payment mem)
    · rw [did.written] at mem
      rcases mem_append.1 mem with before | last
      · exact still _ (kept.2 payment before)
      · rw [mem_singleton.1 last, did.target]
        exact still _ ⟨r, did.present⟩

theorem applications_absent (linked : PaymentsLinked db) (absent : db.receivables id = none) :
    applications id db = 0 := by
  have none' : (db.paymentApplications.filter fun p => p.receivableId = id) = [] := by
    rw [filter_eq_nil_iff]
    intro payment mem ofId
    obtain ⟨r, here⟩ := linked payment mem
    rw [of_decide_eq_true ofId, absent] at here
    cases here
  rw [applications, none']
  rfl

theorem applications_append {payment : PaymentApplication}
    (added : db'.paymentApplications = db.paymentApplications ++ [payment]) :
    applications id db' =
      applications id db + if payment.receivableId = id then payment.appliedAmount.units else 0 := by
  rw [applications, added, filter_append, map_append, sum_append, applications]
  by_cases ofId : payment.receivableId = id
  · simp [ofId]
  · simp [ofId]

theorem Effect.accounted (effect : Effect call.request db db') (here : db.receivables id = some r) :
    (r.outstandingBalance.units : ℤ) + applications id db =
      balanceOf id db' + applications id db' + Step.remittedOff id ⟨call, db, db'⟩ := by
  obtain ⟨request, world⟩ := call
  cases effect with
  | opened did =>
    have frame : db' = { db with receivables := db'.receivables } := did.frame
    have same : applications id db' = applications id db := by rw [frame]; rfl
    rw [same, balanceOf_some (did.kept id r here)]
    exact (add_zero _).symm
  | @applied _ target _ _ owed payment _ _ _ did amount =>
    have added : db'.paymentApplications = db.paymentApplications ++ [payment] := by
      rw [did.written]
    rw [applications_append added, did.target]
    show _ = _ + _ + 0
    by_cases paid : target = id
    · subst paid
      obtain rfl := mem_unique here did.present
      have after : db'.receivables target = some (r.paid payment.appliedAmount.units) := by
        rw [did.written]
        exact Db.setReceivable_self _
      have covered := did.covered
      rw [balanceOf_some after, if_pos rfl]
      simp only [Receivable.paid, Money.minus]
      omega
    · have after : db'.receivables id = some r := by
        rw [did.written]
        exact (Db.setReceivable_of_ne (Ne.symm paid) _).trans here
      rw [balanceOf_some after, if_neg paid]
      omega
  | submitted did =>
    have same : applications id db' = applications id db := by rw [did.written]; rfl
    have balance : balanceOf id db' = r.outstandingBalance.units := by
      rcases did.receivable here with ⟨-, after⟩ | ⟨-, -, after⟩
      · exact balanceOf_some after
      · exact (balanceOf_some after).trans rfl
    rw [same, balance]
    exact (add_zero _).symm
  | reconciled target did =>
    have same : applications id db' = applications id db := by
      obtain ⟨remittance, result, rfl⟩ := did.written
      rfl
    rw [same, ← balanceOf_some here]
    show _ = _ + _ + ((balanceOf id db : ℤ) - balanceOf id db')
    omega

theorem handle_accounted (call : Call) (here : db.receivables id = some r) :
    (r.outstandingBalance.units : ℤ) + applications id db =
      balanceOf id (handle call db).2 + applications id (handle call db).2 +
      Step.remittedOff id ⟨call, db, (handle call db).2⟩ := by
  rcases handle_cases call db with same | ⟨-, -, effect⟩
  · rw [same, Step.remittedOff_same, balanceOf_some here, add_zero]
  · exact effect.accounted here

theorem run_accounted (calls : List Call) (kept : WellKept db) (here : db.receivables id = some r) :
    ∃ r', (run calls db).receivables id = some r' ∧ r'.outstandingBalance.units ≤ r.outstandingBalance.units ∧
      (r.outstandingBalance.units : ℤ) + applications id db =
      r'.outstandingBalance.units + applications id (run calls db) + remittedOff id (steps calls db) := by
  induction calls generalizing db r with
  | nil => exact ⟨r, here, le_refl _, (add_zero _).symm⟩
  | cons call rest ih =>
    obtain ⟨r₁, present₁, evolves⟩ := handle_receivable call kept here
    obtain ⟨r₂, present₂, less, account⟩ := ih (wellKept_handle call db kept) present₁
    have first := handle_accounted call here
    rw [balanceOf_some present₁] at first
    refine ⟨r₂, present₂, less.trans evolves.balance_le, ?_⟩
    calc (r.outstandingBalance.units : ℤ) + applications id db
        = r₁.outstandingBalance.units + applications id (handle call db).2 +
            Step.remittedOff id ⟨call, db, (handle call db).2⟩ := first
      _ = r₂.outstandingBalance.units + applications id (run rest (handle call db).2) +
            remittedOff id (steps rest (handle call db).2) +
            Step.remittedOff id ⟨call, db, (handle call db).2⟩ := by rw [account]
      _ = r₂.outstandingBalance.units + applications id (run (call :: rest) db) +
            remittedOff id (steps (call :: rest) db) := by
          rw [add_assoc, add_comm (remittedOff id _)]
          rfl

/-- A receivable that did not exist before the request has no payments after it, and no remittance
took anything off it. -/
theorem Effect.absent (kept : WellKept db) (linked : PaymentsLinked db) (effect : Effect call.request db db')
    (absent : db.receivables id = none) :
    applications id db' = 0 ∧ Step.remittedOff id ⟨call, db, db'⟩ = 0 := by
  constructor
  · have before := applications_absent linked absent
    rcases effect.payments with same | ⟨target, r, payment, did⟩
    · rwa [applications, same]
    · have other : payment.receivableId ≠ id := by
        rw [did.target]
        rintro rfl
        rw [did.present] at absent
        cases absent
      have added : db'.paymentApplications = db.paymentApplications ++ [payment] := by
        rw [did.written]
      rw [applications_append added, before, if_neg other]
  · obtain ⟨request, world⟩ := call
    cases effect with
    | opened did | applied target did amount | submitted did => rfl
    | reconciled target did =>
      show (balanceOf id db : ℤ) - balanceOf id db' = 0
      rcases did.receivable kept id with same | ⟨r, balance, -, -, -, here, -⟩
      · simp [balanceOf, same]
      · rw [absent] at here
        cases here

theorem handle_absent (kept : WellKept db ∧ PaymentsLinked db) (absent : db.receivables id = none) :
    applications id (handle call db).2 = 0 ∧ Step.remittedOff id ⟨call, db, (handle call db).2⟩ = 0 := by
  rcases handle_cases call db with same | ⟨-, -, effect⟩
  · rw [same]
    exact ⟨applications_absent kept.2 absent, Step.remittedOff_same _ _ _⟩
  · exact effect.absent kept.1 kept.2 absent

theorem run_opened {calls : List Call} (kept : WellKept db ∧ PaymentsLinked db)
    (absent : db.receivables id = none) (here : (run calls db).receivables id = some r) :
    ∃ opened, openedWith id (steps calls db) = some opened ∧
      (opened : ℤ) =
      r.outstandingBalance.units + applications id (run calls db) + remittedOff id (steps calls db) := by
  induction calls generalizing db with
  | nil =>
    rw [show run [] db = db from rfl, absent] at here
    cases here
  | cons call rest ih =>
    have kept' := paymentsLinked_handle call db kept
    have total : remittedOff id (steps (call :: rest) db) = remittedOff id (steps rest (handle call db).2) := by
      show Step.remittedOff id _ + remittedOff id _ = _
      rw [(handle_absent kept absent).2, zero_add]
    rw [total]
    cases after : (handle call db).2.receivables id with
    | none =>
      obtain ⟨opened, first, account⟩ := ih kept' after here
      refine ⟨opened, ?_, account⟩
      rw [openedWith, steps, List.findSome?_cons]
      simp only [absent, after, isNone_none, if_true, map_none]
      exact first
    | some r₁ =>
      obtain ⟨r', present', -, account⟩ := run_accounted rest kept'.1 after
      obtain rfl := mem_unique here present'
      refine ⟨r₁.outstandingBalance.units, ?_, ?_⟩
      · rw [openedWith, steps, List.findSome?_cons]
        simp only [absent, after, isNone_none, if_true, map_some]
      · rw [(handle_absent kept absent).1] at account
        exact (add_zero _).symm.trans account

/-- **The money of a receivable is conserved.** Along any run of requests, what a receivable was
opened with is what is outstanding, plus its payments, plus what remittances took off it, and its
balance never rises. -/
theorem balances_conserved (reference : Reference) (calls : List Call) : AllConserved calls reference.start := by
  intro id r here
  refine ⟨?_, Int.natCast_nonneg _, ?_⟩
  · refine run_opened ⟨wellKept_start reference, fun payment mem => ?_⟩ rfl here
    cases mem
  · rintro first later rfl r₀ present₀
    rw [run_append] at here
    obtain ⟨r', present', less, -⟩ := run_accounted later (wellKept_run reference first) present₀
    rwa [mem_unique here present']

end DataPulse.Settlement
