/-
**Processes by their index.**

A list of processes, each at its index, in which one process goes on or a new one arrives.

* `slot_set_cases`: who is where after one process went on; `slot_set_self`, `slot_set_other`: the process
  and the others;
* `slot_append_cases`, `slot_append`: who is where after an arrival;
* `mem_others`: the other processes.
-/

import DataPulse.Lib.Lists
import Mathlib.Data.List.Basic

namespace DataPulse.Lib

variable {Proc : Type} {procs : List Proc} {index other : Nat} {before found next : Proc}

theorem slot_set_cases (mem : (procs.set index next)[other]? = some found) :
    other = index ∧ found = next ∨ other ≠ index ∧ procs[other]? = some found := by
  rw [getElem?_set] at mem
  split at mem
  · rename_i same
    split at mem
    · exact .inl ⟨same.symm, (Option.some.inj mem).symm⟩
    · cases mem
  · rename_i apart
    exact .inr ⟨fun same => apart same.symm, mem⟩

theorem slot_set_self (here : procs[index]? = some before) : (procs.set index next)[index]? = some next := by
  obtain ⟨inside, -⟩ := getElem?_eq_some_iff.1 here
  simp [inside]

theorem slot_set_other (apart : other ≠ index) : (procs.set index next)[other]? = procs[other]? := by
  simp [apart.symm]

theorem slot_append_cases (mem : (procs ++ [next])[other]? = some found) :
    procs[other]? = some found ∨ found = next := by
  rw [List.getElem?_append] at mem
  split at mem
  · exact .inl mem
  · exact .inr (mem_singleton.1 (mem_of_getElem? mem))

theorem slot_append (here : procs[index]? = some before) : (procs ++ [next])[index]? = some before :=
  (List.getElem?_append_left (getElem?_eq_some_iff.1 here).1).trans here

theorem mem_others {passes : Proc → Bool} (none : ((procs.eraseIdx index).any passes) = false)
    (apart : other ≠ index) (here : procs[other]? = some found) : passes found = false := by
  rw [any_eq_false] at none
  exact Bool.eq_false_iff.2 (none found (List.mem_eraseIdx_iff_getElem?.2 ⟨other, apart, here⟩))

end DataPulse.Lib
