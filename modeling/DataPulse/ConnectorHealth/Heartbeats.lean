/-
**The heartbeats of a connector.**

`recordHeartbeat` writes the one row of a registration, with the time at which its transaction started.
Beats overlap, and the row takes them in the order in which they get its lock.

* `heartbeats_converge`: in a run whose beats are written in the order of their starts, and with fields once
  fields were reported, the row carries the latest beat.
-/

import DataPulse.Lib.Machine
import DataPulse.Platform.Values

namespace DataPulse.ConnectorHealth

open Lib

structure HeartbeatFields where
  connectorVersion : Option String
  backlogIndicator : Option Nat
  erpnextReachable : Option Bool
  /-- The time the connector reports, as the server reads it. -/
  sourceClockAt : Option Int
  deriving DecidableEq

def HeartbeatFields.hasFields (fields : HeartbeatFields) : Bool :=
  fields.connectorVersion.isSome || fields.backlogIndicator.isSome || fields.erpnextReachable.isSome ||
    fields.sourceClockAt.isSome

/-- The row of `connector_health`; times in microseconds. -/
structure HealthRow where
  lastSeenAt : Int
  fields : HeartbeatFields
  reportedFieldsAt : Option Int
  updatedAt : Int
  deriving DecidableEq

/-- `recordHeartbeat(identity, fields)` under way, with the `now()` of its transaction. -/
structure Beat where
  startedAt : Int
  fields : HeartbeatFields
  deriving DecidableEq

/-- `INSERT … ON CONFLICT (connector_registration_id) DO UPDATE`. -/
def Beat.upsert (beat : Beat) (stored : Option HealthRow) : HealthRow where
  lastSeenAt := beat.startedAt
  fields := beat.fields
  reportedFieldsAt := if beat.fields.hasFields then some beat.startedAt else stored.bind
    HealthRow.reportedFieldsAt
  updatedAt := beat.startedAt

/-- The row and the transactions. The one that has written holds the row's lock; `accepted` is a history,
the beats that were committed. -/
structure State where
  stored : Option HealthRow
  waiting : List Beat
  holder : Option Beat
  accepted : List Beat

inductive Event where
  | begin (beat : Beat)
  /-- The upsert of a transaction, once no other holds the lock. -/
  | write (beat : Beat)
  | commit
  /-- A transaction ends without its upsert, or takes it back. -/
  | abort (beat : Beat)
  | rollback
  deriving DecidableEq

/-- What the holder writes depends on the row alone, which nobody else changes before it commits. -/
def heartbeatStep (state : State) : Event → Option State
  | .begin beat => some { state with waiting := beat :: state.waiting }
  | .write beat =>
    if beat ∈ state.waiting ∧ state.holder = none then
      some { state with waiting := state.waiting.erase beat, holder := some beat }
    else none
  | .commit => state.holder.map fun beat => { state with
      stored := some (beat.upsert state.stored), holder := none, accepted := beat :: state.accepted }
  | .abort beat =>
    if beat ∈ state.waiting then some { state with waiting := state.waiting.erase beat } else none
  | .rollback => state.holder.map fun _ => { state with holder := none }

def heartbeats : Machine State Event := ⟨⟨none, [], none, []⟩, heartbeatStep⟩

/-! ### The verdict -/

inductive LivenessVerdict where
  | healthy
  | stale
  | neverSeen
  | disabled
  deriving DecidableEq

/-- A time of the server as a `Date`: milliseconds. -/
def toDate (at_ : Int) : Int := at_ / 1000

def deriveLiveness (lastSeenAt : Option Int) (now thresholdMs : Int)
    (disabledAt : Option Int) : LivenessVerdict :=
  if disabledAt.isSome then .disabled
  else match lastSeenAt with
    | none => .neverSeen
    | some lastSeenAt => if now - lastSeenAt ≤ thresholdMs then .healthy else .stale

/-! ### What a run comes to -/

def State.lastSeenAt (state : State) : Option Int := state.stored.map HealthRow.lastSeenAt

/-- `last_seen_at` does not move back. -/
def Advances (first second : State) : Prop :=
  ∀ before, first.lastSeenAt = some before → ∃ after, second.lastSeenAt = some after ∧ before ≤ after

structure Converged (state : State) : Prop where
  latest : ∀ time, state.lastSeenAt = some time ↔
    (∃ beat ∈ state.accepted, beat.startedAt = time) ∧ ∀ beat ∈ state.accepted, beat.startedAt ≤ time
  reported : ∀ row, state.stored = some row → ∀ time, row.reportedFieldsAt = some time →
    ∃ beat ∈ state.accepted, beat.startedAt = time ∧ beat.fields = row.fields
  unreported : ∀ row, state.stored = some row → row.reportedFieldsAt = none → row.fields.hasFields = false
  verdict : ∀ now thresholdMs, deriveLiveness (state.lastSeenAt.map toDate) now thresholdMs none = .healthy ↔
    ∃ beat ∈ state.accepted, now - toDate beat.startedAt ≤ thresholdMs

/-- The beat that commits started no earlier than the one stored, and carries a field if any was reported. -/
def InOrder (state : State) : Event → Prop
  | .commit => ∀ beat, state.holder = some beat → ∀ row, state.stored = some row →
      row.lastSeenAt ≤ beat.startedAt ∧ (beat.fields.hasFields = true ∨ row.reportedFieldsAt = none)
  | _ => True

/-- The row is that of the latest beat accepted, if any is. -/
def Sound (state : State) : Prop :=
  (state.stored = none ∧ state.accepted = []) ∨ ∃ row, state.stored = some row ∧
    (∃ beat ∈ state.accepted, beat.startedAt = row.lastSeenAt) ∧
    (∀ beat ∈ state.accepted, beat.startedAt ≤ row.lastSeenAt) ∧
    (∀ time, row.reportedFieldsAt = some time →
      ∃ beat ∈ state.accepted, beat.startedAt = time ∧ beat.fields = row.fields) ∧
    (row.reportedFieldsAt = none → row.fields.hasFields = false)

section Runs

variable {state next first second : State} {event : Event}

/-- **What a step does to the row**: nothing, or it writes the holder's beat. -/
theorem step_cases (step : heartbeatStep state event = some next) :
    (next.stored = state.stored ∧ next.accepted = state.accepted) ∨
      (event = .commit ∧
        ∃ beat, state.holder = some beat ∧ next.stored = some (beat.upsert state.stored) ∧
        next.accepted = beat :: state.accepted) := by
  cases event with
  | begin beat =>
    cases step
    exact .inl ⟨rfl, rfl⟩
  | write beat =>
    simp only [heartbeatStep] at step
    split_ifs at step
    cases step
    exact .inl ⟨rfl, rfl⟩
  | commit =>
    obtain ⟨beat, held, rfl⟩ := map_eq_some_iff.1 step
    exact .inr ⟨rfl, beat, held, rfl, rfl⟩
  | abort beat =>
    simp only [heartbeatStep] at step
    split_ifs at step
    cases step
    exact .inl ⟨rfl, rfl⟩
  | rollback =>
    obtain ⟨beat, -, rfl⟩ := map_eq_some_iff.1 step
    exact .inl ⟨rfl, rfl⟩

theorem Sound.step (sound : Sound state) (ordered : InOrder state event)
    (step : heartbeatStep state event = some next) : Sound next := by
  rcases step_cases step with ⟨stored, taken⟩ | ⟨rfl, beat, held, stored, taken⟩
  · rwa [Sound, stored, taken]
  refine .inr ⟨_, stored, ?_⟩
  rw [taken]
  refine ⟨⟨beat, mem_cons_self, rfl⟩, ?_, ?_, ?_⟩
  · intro other mem
    rcases mem_cons.1 mem with rfl | earlier
    · exact le_refl _
    · rcases sound with ⟨-, none⟩ | ⟨row, here, -, latest, -⟩
      · rw [none] at earlier
        cases earlier
      · exact (latest other earlier).trans (ordered beat held row here).1
  · intro time reported
    unfold Beat.upsert at reported
    split_ifs at reported with carries
    · exact ⟨beat, mem_cons_self, Option.some.inj reported, rfl⟩
    · obtain ⟨row, here, earlier⟩ := bind_eq_some_iff.1 reported
      rcases (ordered beat held row here).2 with fields | never
      · exact absurd fields carries
      · rw [never] at earlier
        cases earlier
  · intro never
    unfold Beat.upsert at never
    split_ifs at never with carries
    simpa [Beat.upsert] using carries

theorem Sound.converged (sound : Sound state) : Converged state := by
  rcases sound with ⟨empty, none⟩ | ⟨row, here, ⟨beat, mem, same⟩, latest, reported, unreported⟩
  · constructor
    · simp [State.lastSeenAt, empty, none]
    · simp [empty]
    · simp [empty]
    · simp [State.lastSeenAt, empty, none, deriveLiveness]
  · have seen : state.lastSeenAt = some row.lastSeenAt := by rw [State.lastSeenAt, here, map_some]
    constructor
    · intro time
      rw [seen, Option.some.injEq]
      constructor
      · rintro rfl
        exact ⟨⟨beat, mem, same⟩, latest⟩
      · rintro ⟨⟨other, inside, rfl⟩, greatest⟩
        exact le_antisymm (same ▸ greatest beat mem) (latest other inside)
    · intro other stored
      cases here.symm.trans stored
      exact reported
    · intro other stored
      cases here.symm.trans stored
      exact unreported
    · intro now thresholdMs
      have healthy : deriveLiveness (state.lastSeenAt.map toDate) now thresholdMs none = .healthy ↔
          now - toDate row.lastSeenAt ≤ thresholdMs := by
        simp [seen, deriveLiveness]
      rw [healthy]
      constructor
      · exact fun within => ⟨beat, mem, same ▸ within⟩
      · rintro ⟨other, inside, within⟩
        have prior : toDate other.startedAt ≤ toDate row.lastSeenAt :=
          Int.ediv_le_ediv (by decide) (latest other inside)
        omega

theorem Advances.refl (state : State) : Advances state state := fun before seen => ⟨before, seen, le_refl before⟩

theorem Advances.trans {third : State} (one : Advances first second) (two : Advances second third) :
    Advances first third := by
  intro before seen
  obtain ⟨middle, seen, less⟩ := one before seen
  obtain ⟨after, seen, more⟩ := two middle seen
  exact ⟨after, seen, less.trans more⟩

theorem advances_step (ordered : InOrder state event) (step : heartbeatStep state event = some next) :
    Advances state next := by
  intro before seen
  rcases step_cases step with ⟨stored, -⟩ | ⟨rfl, beat, held, stored, -⟩
  · exact ⟨before, by rw [State.lastSeenAt, stored]; exact seen, le_refl before⟩
  · obtain ⟨row, here, rfl⟩ := map_eq_some_iff.1 seen
    exact ⟨beat.startedAt, by rw [State.lastSeenAt, stored]; rfl, (ordered beat held row here).1⟩

/-- **Where beats are written in the order of their starts, and with fields once fields were reported**,
`last_seen_at` never moves back, it is the time of the latest beat accepted, the fields are those of the
beat whose time is recorded with them, and the verdict is `healthy` exactly when a beat accepted lies within
the threshold. -/
theorem heartbeats_converge (reached : heartbeats.Reaches InOrder heartbeats.start first)
    (later : heartbeats.Reaches InOrder first second) : Advances first second ∧ Converged second := by
  constructor
  · induction later with
    | refl => exact .refl first
    | tail _ ordered step ih => exact ih.trans (advances_step ordered step)
  · have sound : Sound second := (reached.trans later).invariant (.inl ⟨rfl, rfl⟩)
      fun _ _ _ sound ordered step => sound.step ordered step
    exact sound.converged

end Runs

/-- A beat with a version. -/
def versioned (startedAt : Int) : Beat := ⟨startedAt, ⟨some "1.0", none, none, none⟩⟩

theorem heartbeats_converge_sample :
    ∃ first second, heartbeats.run heartbeats.start [.begin (versioned 1), .write (versioned 1), .commit] =
      some first ∧ heartbeats.run first [.begin (versioned 2), .write (versioned 2), .commit] = some second ∧
      Advances first second ∧ Converged second := by
  have ordered : ∀ state event, event ≠ .commit → InOrder state event := by
    intro state event other
    cases event with
    | commit => exact absurd rfl other
    | _ => trivial
  have one : InOrder ⟨none, [], some (versioned 1), []⟩ .commit := by
    rintro beat - row none
    cases none
  have two : InOrder ⟨some ((versioned 1).upsert none), [], some (versioned 2), [versioned 1]⟩ .commit := by
    rintro beat held row stored
    cases held
    cases stored
    exact ⟨by decide, .inl rfl⟩
  have first : heartbeats.Reaches InOrder heartbeats.start
      ⟨some ((versioned 1).upsert none), [], none, [versioned 1]⟩ :=
    ((Machine.Reaches.refl.tail (ordered _ (.begin (versioned 1)) nofun) rfl).tail
        (ordered _ (.write (versioned 1)) nofun) rfl).tail one rfl
  have second : heartbeats.Reaches InOrder ⟨some ((versioned 1).upsert none), [], none, [versioned 1]⟩ ⟨some
        ((versioned 2).upsert (some ((versioned 1).upsert none))), [], none, [versioned 2, versioned 1]⟩ :=
    ((Machine.Reaches.refl.tail (ordered _ (.begin (versioned 2)) nofun) rfl).tail
        (ordered _ (.write (versioned 2)) nofun) rfl).tail two rfl
  exact ⟨_, _, rfl, rfl, heartbeats_converge first second⟩

/-- A beat that started first is written last: `last_seen_at` moves back. -/
theorem overtaken_beat :
    ¬
      ∀ first second, heartbeats.Reachable first → heartbeats.Later first second →
      Advances first second ∧ Converged second := by
  intro law
  have first : heartbeats.run heartbeats.start [.begin (versioned 1), .begin (versioned 2), .write (versioned 2),
      .commit] = some ⟨some ((versioned 2).upsert none), [versioned 1], none, [versioned 2]⟩ := rfl
  have second : heartbeats.run ⟨some ((versioned 2).upsert none), [versioned 1], none, [versioned 2]⟩
      [.write (versioned 1), .commit] = some ⟨some ((versioned 1).upsert (some ((versioned 2).upsert none))),
          [], none, [versioned 1, versioned 2]⟩ :=
    rfl
  obtain ⟨after, seen, less⟩ := (law _ _ (Machine.run_later first) (Machine.run_later second)).1 2 rfl
  cases seen
  exact absurd less (by decide)

end DataPulse.ConnectorHealth
