/-
**A loop over batches.**

`do { count = batch(); total += count; batches += 1 } while (count === size)`: the loop goes on while the
batches are full. The loop takes fuel; where a batch takes away what it counts, there is fuel enough.
-/

import DataPulse.Lib.Lists
import Mathlib.Data.List.Basic
import Mathlib.Tactic.Linarith

namespace DataPulse.Lib

variable {State : Type}

/-- What a loop over batches returns. -/
structure Batched (State : Type) where
  total : Nat
  batches : Nat
  last : State

/-- The loop from its `n`-th batch on; `none` where the fuel is spent. -/
def repeatWhileFull (batch : Nat → State → Nat × State) (size : Nat) :
    Nat → Nat → State → Option (Batched State)
  | 0, _, _ => none
  | fuel + 1, n, state =>
    let count := (batch n state).1
    let next := (batch n state).2
    if count = size then
      (repeatWhileFull batch size fuel (n + 1) next).map fun rest =>
        ⟨count + rest.total, rest.batches + 1, rest.last⟩
    else some ⟨count, 1, next⟩

section Rules

variable {batch : Nat → State → Nat × State} {size : Nat}

/-- **While batches take away what they count, the loop returns.** -/
theorem repeatWhileFull_returns (left : State → Nat)
    (takes : ∀ n state, left (batch n state).2 + (batch n state).1 ≤ left state) :
    ∀ fuel n state, left state < fuel * size →
      ∃ result, repeatWhileFull batch size fuel n state = some result ∧
      (result.batches - 1) * size ≤ left state := by
  intro fuel
  induction fuel with
  | zero =>
    intro n state enough
    rw [Nat.zero_mul] at enough
    exact absurd enough (Nat.not_lt_zero _)
  | succ fuel ih =>
    intro n state enough
    have step := takes n state
    unfold repeatWhileFull
    by_cases full : (batch n state).1 = size
    · rw [Nat.succ_mul] at enough
      obtain ⟨rest, gave, bound⟩ := ih (n + 1) (batch n state).2 (by omega)
      refine ⟨⟨(batch n state).1 + rest.total, rest.batches + 1, rest.last⟩, ?_, ?_⟩
      · simp only [full, if_true, gave, map_some]
      · show (rest.batches + 1 - 1) * size ≤ left state
        rw [Nat.add_sub_cancel]
        cases count : rest.batches with
        | zero => rw [Nat.zero_mul]; exact Nat.zero_le _
        | succ more =>
          rw [count, Nat.add_sub_cancel] at bound
          rw [Nat.succ_mul]
          omega
    · refine ⟨⟨(batch n state).1, 1, (batch n state).2⟩, by simp only [full, if_false], ?_⟩
      rw [Nat.sub_self, Nat.zero_mul]
      exact Nat.zero_le _

/-- **The last batch is not full; the state it meets satisfies what every batch keeps.** -/
theorem repeatWhileFull_ends {invariant : State → Prop}
    (kept : ∀ n state, invariant state → invariant (batch n state).2) :
    ∀ {fuel n state result}, invariant state → repeatWhileFull batch size fuel n state = some result →
      ∃ k before, invariant before ∧ (batch k before).1 ≠ size ∧ result.last = (batch k before).2 := by
  intro fuel
  induction fuel with
  | zero => exact fun _ gave => by cases gave
  | succ fuel ih =>
    intro n state result holds gave
    unfold repeatWhileFull at gave
    by_cases full : (batch n state).1 = size
    · simp only [full, if_true] at gave
      obtain ⟨rest, later, rfl⟩ := map_eq_some_iff.1 gave
      obtain ⟨k, before, still, short, last⟩ := ih (kept n state holds) later
      exact ⟨k, before, still, short, last⟩
    · simp only [full, if_false] at gave
      cases gave
      exact ⟨n, state, holds, full, rfl⟩

theorem repeatWhileFull_total (left : State → Nat)
    (takes : ∀ n state, (batch n state).1 + left (batch n state).2 = left state) :
    ∀ {fuel n state result}, repeatWhileFull batch size fuel n state = some result →
      result.total + left result.last = left state := by
  intro fuel
  induction fuel with
  | zero => exact fun gave => by cases gave
  | succ fuel ih =>
    intro n state result gave
    unfold repeatWhileFull at gave
    by_cases full : (batch n state).1 = size
    · simp only [full, if_true] at gave
      obtain ⟨rest, later, rfl⟩ := map_eq_some_iff.1 gave
      have totals := ih later
      have step := takes n state
      rw [full] at step
      show size + rest.total + left rest.last = left state
      omega
    · simp only [full, if_false] at gave
      cases gave
      exact takes n state

end Rules

end DataPulse.Lib
