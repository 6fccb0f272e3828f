/-
**Paying debts in their order.**

An amount is spent on a list of debts, first in, first out. `waterfall` is what each debt is left with.

* `waterfall_le`: no debt grows;
* `waterfall_sum`: together they shrink by the amount, or to nothing;
* `waterfall_ordered`: a debt is paid from only once every earlier one is paid in full.
-/

import DataPulse.Lib.Lists
import Mathlib

namespace DataPulse.Lib

/-- What the debts are left with, once the amount was spent on them in their order. -/
def waterfall : Nat → List Nat → List Nat
  | _, [] => []
  | amount, debt :: rest => (debt - amount) :: waterfall (amount - debt) rest

variable {amount : Nat} {debts : List Nat}

@[simp] theorem waterfall_nil (amount : Nat) : waterfall amount [] = [] := rfl

@[simp] theorem waterfall_cons (amount debt : Nat) (rest : List Nat) :
    waterfall amount (debt :: rest) = (debt - amount) :: waterfall (amount - debt) rest := rfl

@[simp] theorem waterfall_zero (debts : List Nat) : waterfall 0 debts = debts := by
  induction debts with
  | nil => rfl
  | cons debt rest ih => simp [ih]

/-- **No debt grows.** -/
theorem waterfall_le (amount : Nat) (debts : List Nat) : List.Forall₂ (· ≤ ·) (waterfall amount debts)
    debts := by
  induction debts generalizing amount with
  | nil => exact .nil
  | cons debt rest ih => exact .cons (Nat.sub_le debt amount) (ih (amount - debt))

/-- **Together the debts shrink by the amount, or to nothing.** -/
theorem waterfall_sum (amount : Nat) (debts : List Nat) : (waterfall amount debts).sum = debts.sum - amount := by
  induction debts generalizing amount with
  | nil => simp
  | cons debt rest ih =>
    rw [waterfall_cons, sum_cons, sum_cons, ih]
    omega

theorem waterfall_spent (below : amount ≤ debts.sum) : (waterfall amount debts).sum + amount = debts.sum := by
  rw [waterfall_sum, Nat.sub_add_cancel below]

/-- **A debt is paid from only once every earlier one is paid in full.** -/
theorem waterfall_ordered {before later : List Nat} {debt : Nat}
    (debts_eq : debts = before ++ debt :: later) :
    ∃ paid left rest, waterfall amount debts = paid ++ left :: rest ∧ paid.length = before.length ∧
      (left < debt → ∀ prior ∈ paid, prior = 0) := by
  subst debts_eq
  induction before generalizing amount with
  | nil => exact ⟨[], debt - amount, waterfall (amount - debt) later, rfl, rfl, fun _ _ none => by cases none⟩
  | cons first before ih =>
    obtain ⟨paid, left, rest, split, lengths, order⟩ := @ih (amount - first)
    refine ⟨(first - amount) :: paid, left, rest, ?_, by simp [lengths], fun less prior member => ?_⟩
    · rw [cons_append, waterfall_cons, split, cons_append]
    · rcases mem_cons.1 member with rfl | member
      · by_contra some
        -- Nothing is left after the first debt, so the later one is not paid from.
        have nothing : amount - first = 0 := by omega
        rw [nothing, waterfall_zero] at split
        obtain ⟨-, same⟩ := List.append_inj split lengths.symm
        exact absurd (List.cons.inj same).1.symm (Nat.ne_of_lt less)
      · exact order less prior member

end DataPulse.Lib
