/-
**Machines and their runs.**

A machine has a start and a step function that is defined on the events that can happen in a state.

* `Reaches allowed`: steps whose events are allowed in the states where they happen; `Reachable`:
  from the start, with every event allowed;
* `Reaches.invariant`: what every allowed step keeps holds wherever such a run leads;
* `run`: a list of events, evaluated; `run_reaches`: it is such a run.
-/

import DataPulse.Lib.Lists
import Mathlib.Logic.Relation

namespace DataPulse.Lib

/-- A machine: where it begins, and what an event does, unless it cannot happen. -/
structure Machine (State Event : Type) where
  start : State
  step : State → Event → Option State

namespace Machine

variable {State Event : Type} (machine : Machine State Event)
variable {events : List Event}

/-- Some allowed steps lead from the one state to the other. -/
inductive Reaches (allowed : State → Event → Prop) (start : State) : State → Prop where
  | refl : Reaches allowed start start
  | tail {middle next : State} {event : Event} (before : Reaches allowed start middle)
      (fits : allowed middle event) (stepped : machine.step middle event = some next) :
      Reaches allowed start next

/-- Any steps lead from the one state to the other. -/
def Later : State → State → Prop := machine.Reaches fun _ _ => True

/-- Any steps from the start lead to the state. -/
def Reachable : State → Prop := machine.Later machine.start

variable {machine} {allowed : State → Event → Prop} {first second third : State}

/-- **What every allowed step keeps holds wherever allowed steps lead.** -/
theorem Reaches.invariant {holds : State → Prop} (reaches : machine.Reaches allowed first second)
    (initially : holds first)
    (kept : ∀ state event next, holds state → allowed state event → machine.step state event = some next →
      holds next) : holds second := by
  induction reaches with
  | refl => exact initially
  | tail _ fits step ih => exact kept _ _ _ ih fits step

theorem Reaches.mono {weaker : State → Event → Prop} (reaches : machine.Reaches allowed first second)
    (weaken : ∀ state event, allowed state event → weaker state event) :
    machine.Reaches weaker first second := by
  induction reaches with
  | refl => exact .refl
  | tail _ fits step ih => exact .tail ih (weaken _ _ fits) step

theorem Reaches.trans (reaches : machine.Reaches allowed first second)
    (onward : machine.Reaches allowed second third) : machine.Reaches allowed first third := by
  induction onward with
  | refl => exact reaches
  | tail _ fits step ih => exact .tail ih fits step

theorem Later.refl (state : State) : machine.Later state state := Reaches.refl

theorem Later.step {event : Event} (step : machine.step first event = some second) :
    machine.Later first second := .tail .refl trivial step

theorem Later.trans (later : machine.Later first second) (onward : machine.Later second third) :
    machine.Later first third := Reaches.trans later onward

theorem Reachable.start : machine.Reachable machine.start := Reaches.refl

theorem Reachable.step {event : Event} (reach : machine.Reachable first)
    (step : machine.step first event = some second) : machine.Reachable second :=
  .tail reach trivial step

/-- **An invariant of all steps holds in every reachable state.** -/
theorem Reachable.invariant {holds : State → Prop} (reach : machine.Reachable first)
    (initially : holds machine.start)
    (kept : ∀ state event next, holds state → machine.step state event = some next → holds next) :
    holds first :=
  Reaches.invariant reach initially fun state event next before _ => kept state event next before

variable (machine) in
/-- The state after a list of events. -/
def run (state : State) (events : List Event) : Option State := events.foldlM machine.step state

variable (machine) in
/-- Every event of the list is allowed where it happens. -/
def AllowedAlong (allowed : State → Event → Prop) : State → List Event → Prop
  | _, [] => True
  | state, event :: rest => allowed state event ∧
      ∀ next, machine.step state event = some next → AllowedAlong allowed next rest

instance decidableAllowedAlong [∀ state event, Decidable (allowed state event)] :
    (state : State) → (events : List Event) → Decidable (machine.AllowedAlong allowed state events)
  | _, [] => .isTrue trivial
  | _, _ :: rest =>
    have (next : State) : Decidable (machine.AllowedAlong allowed next rest) :=
      decidableAllowedAlong next rest
    inferInstanceAs (Decidable (_ ∧ _))

theorem run_reaches (ran : machine.run first events = some second)
    (fits : machine.AllowedAlong allowed first events) : machine.Reaches allowed first second := by
  induction events generalizing first with
  | nil =>
    cases ran
    exact .refl
  | cons event rest ih =>
    obtain ⟨next, step, ran⟩ := bind_eq_some_iff.1 ran
    exact Reaches.trans (.tail .refl fits.1 step) (ih ran (fits.2 next step))

theorem run_later (ran : machine.run first events = some second) : machine.Later first second := by
  refine run_reaches ran ?_
  clear ran
  induction events generalizing first with
  | nil => trivial
  | cons event rest ih => exact ⟨trivial, fun _ _ => ih⟩

end Machine

end DataPulse.Lib
