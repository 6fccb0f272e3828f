/-
**Sweeps that mark old audit events.**

A sweep marks batches until one is short. A batch is one statement: its snapshot picks unmarked rows, its
`UPDATE` asks for their identifiers only. Sweeps overlap: a row that another has marked since the snapshot
is marked again. The worker is taken to connect as a role that bypasses row-level security.

* `retention_sound`: a sweep ends after so many batches, and then every row older than its cutoff is marked;
  along batches none of whose rows was marked since their snapshot, no mark changes.
-/

import DataPulse.Lib.Machine
import DataPulse.Platform.Values

namespace DataPulse.Audit

open Lib Platform

/-- `audit_events`, times in microseconds; `facts` are the other columns. -/
structure AuditEvent (Facts : Type) where
  id : Uuid
  occurredAt : Int
  facts : Facts
  retentionMarkedAt : Option Int

/-- The rows of the table, under its primary key. -/
structure AuditTable (Facts : Type) where
  rows : List (AuditEvent Facts)
  ids : (rows.map AuditEvent.id).Nodup

def RETENTION_DAYS : Int := 365

/-- `computeCutoff(now)`, in milliseconds. -/
def computeCutoff (now : Int) : Int := now - RETENTION_DAYS * 86400000

inductive Phase where
  | idle
  /-- The statement has its snapshot, and goes on to update these rows. -/
  | selected (ids : List Uuid)
  | done
  | failed
  deriving DecidableEq

/-- `process` under way; `marked` is a history, the identifiers returned. -/
structure Sweep where
  now : Int
  phase : Phase
  markedCount : Nat
  batchCount : Nat
  marked : List Uuid

structure State (Facts : Type) where
  rows : List (AuditEvent Facts)
  sweeps : List Sweep

inductive Event where
  | begin (now : Int)
  | select (index : Nat)
  | mark (index : Nat)
  /-- The statement is rolled back, or the connection is lost. -/
  | fail (index : Nat)

section Steps

variable {Facts : Type} (size : Nat) (sweep : Sweep) (row : AuditEvent Facts) (rows : List (AuditEvent Facts))
  (ids : List Uuid)

/-- `occurred_at < $1`. -/
def Sweep.covers : Bool := row.occurredAt < computeCutoff sweep.now * 1000

/-- `ORDER BY occurred_at ASC, id ASC`. -/
def older (first second : AuditEvent Facts) : Prop :=
  first.occurredAt < second.occurredAt ∨ first.occurredAt = second.occurredAt ∧ first.id.precedes second.id =
  true

instance : DecidableRel (@older Facts) := fun _ _ => inferInstanceAs (Decidable (_ ∨ _))

def Sweep.candidate : List Uuid :=
  (((rows.filter fun row => sweep.covers row && row.retentionMarkedAt.isNone).insertionSort older).take size).map
    AuditEvent.id

/-- `SET retention_marked_at = $2 WHERE id IN (…)`. -/
def Sweep.mark : AuditEvent Facts :=
  if row.id ∈ ids then { row with retentionMarkedAt := some sweep.now } else row

/-- `RETURNING id`. -/
def returned : List Uuid := (rows.filter (·.id ∈ ids)).map AuditEvent.id

/-- One turn of the loop, which goes on while the batch is full. -/
def Sweep.counted (marked : List Uuid) : Sweep :=
  { sweep with phase := if marked.length = size then .idle else .done, markedCount :=
               sweep.markedCount + marked.length
               batchCount := sweep.batchCount + 1, marked := sweep.marked ++ marked }

def retentionStep (state : State Facts) : Event → Option (State Facts)
  | .begin now => some { state with sweeps := state.sweeps ++ [⟨now, .idle, 0, 0, []⟩] }
  | .select index => state.sweeps[index]?.bind fun sweep =>
    if sweep.phase = .idle then some { state with
      sweeps := state.sweeps.set index { sweep with phase := .selected (sweep.candidate size state.rows) } }
    else none
  | .mark index => state.sweeps[index]?.bind fun sweep =>
    match sweep.phase with
    | .selected ids => some ⟨state.rows.map fun row => sweep.mark row ids,
        state.sweeps.set index (sweep.counted size (returned state.rows ids))⟩
    | _ => none
  | .fail index => state.sweeps[index]?.bind fun sweep =>
    if sweep.phase = .done ∨ sweep.phase = .failed then none
    else some { state with sweeps := state.sweeps.set index { sweep with phase := .failed } }

def retention (table : AuditTable Facts) : Machine (State Facts) Event := ⟨⟨table.rows, []⟩, retentionStep size⟩

end Steps

section Runs

variable {Facts : Type} {size : Nat} {sweep : Sweep} {row : AuditEvent Facts} {rows : List (AuditEvent Facts)}
  {ids : List Uuid} {table : AuditTable Facts} {state next first second : State Facts} {event : Event}

/-- All columns but `retention_marked_at`. -/
def AuditEvent.columns (row : AuditEvent Facts) : Uuid × Int × Facts := (row.id, row.occurredAt, row.facts)

@[simp] theorem mark_columns : (sweep.mark row ids).columns = row.columns := by
  unfold Sweep.mark
  split <;> rfl

@[simp] theorem mark_id : (sweep.mark row ids).id = row.id := congrArg Prod.fst mark_columns

variable {other : Sweep}

theorem mark_covers : sweep.covers (other.mark row ids) = sweep.covers row := by
  unfold Sweep.mark
  split <;> rfl

theorem mark_marked (marked : row.retentionMarkedAt.isSome) : (sweep.mark row ids).retentionMarkedAt.isSome := by
  unfold Sweep.mark
  split
  · rfl
  · exact marked

theorem mark_inside (inside : row.id ∈ ids) : (sweep.mark row ids).retentionMarkedAt.isSome := by
  rw [Sweep.mark, if_pos inside]
  rfl

/-- Every row the sweep covers is marked, save those of a list. -/
def Swept (sweep : Sweep) (rows : List (AuditEvent Facts)) (ids : List Uuid) : Prop :=
  ∀ row ∈ rows, sweep.covers row = true → row.id ∈ ids ∨ row.retentionMarkedAt.isSome

/-- What a statement under way will do: rows of the table, none of them the sweep's own, and all if they are
few. -/
structure Chosen (size : Nat) (rows : List (AuditEvent Facts)) (sweep : Sweep) (ids : List Uuid) : Prop where
  distinct : ids.Nodup
  present : ids ⊆ rows.map AuditEvent.id
  apart : sweep.marked.Disjoint ids
  most : ids.length ≤ size
  all : ids.length < size → Swept sweep rows ids

/-- What holds of a sweep over rows. -/
structure Sound (size : Nat) (rows : List (AuditEvent Facts)) (sweep : Sweep) : Prop where
  distinct : sweep.marked.Nodup
  taken : ∀ id ∈ sweep.marked, ∃ row ∈ rows, row.id = id ∧ row.retentionMarkedAt.isSome
  count : sweep.markedCount = sweep.marked.length
  full : sweep.phase ≠ .done → sweep.batchCount * size ≤ sweep.marked.length
  last : sweep.batchCount * size ≤ sweep.marked.length + size
  chosen : ∀ ids, sweep.phase = .selected ids → Chosen size rows sweep ids
  swept : sweep.phase = .done → Swept sweep rows []

variable {more : List Uuid}

theorem Swept.mark (swept : Swept sweep rows ids) :
    Swept sweep (rows.map fun row => other.mark row more) ids := by
  intro row mem covered
  obtain ⟨old, inside, rfl⟩ := mem_map.1 mem
  rw [mark_covers] at covered
  rw [mark_id]
  exact (swept old inside covered).imp_right mark_marked

/-- **Marks of any sweep keep what holds of a sweep.** -/
theorem Sound.mark (sound : Sound size rows sweep) :
    Sound size (rows.map fun row => other.mark row more) sweep where
  distinct := sound.distinct
  taken id member := by
    obtain ⟨row, inside, same, marked⟩ := sound.taken id member
    exact ⟨_, mem_map_of_mem inside, mark_id.trans same, mark_marked marked⟩
  count := sound.count
  full := sound.full
  last := sound.last
  chosen ids phase := by
    have chosen := sound.chosen ids phase
    refine ⟨chosen.distinct, ?_, chosen.apart, chosen.most, fun few => (chosen.all few).mark⟩
    simpa [Function.comp_def] using chosen.present
  swept done := (sound.swept done).mark

/-- What the snapshot picks. -/
theorem candidate_chosen (unique : (rows.map AuditEvent.id).Nodup) (sound : Sound size rows sweep) :
    Chosen size rows sweep (sweep.candidate size rows) := by
  generalize chosen : rows.filter (fun row => sweep.covers row && row.retentionMarkedAt.isNone) = eligible
  have sorted : (eligible.insertionSort older).Perm eligible := perm_insertionSort older eligible
  have picked : ∀ id ∈ sweep.candidate size rows, ∃ row ∈ rows, row.id = id ∧
      row.retentionMarkedAt.isNone = true := by
    intro id mem
    rw [Sweep.candidate, chosen] at mem
    obtain ⟨row, inside, rfl⟩ := mem_map.1 mem
    have inside := sorted.mem_iff.1 (mem_of_mem_take inside)
    rw [← chosen, mem_filter, and_eq_true] at inside
    exact ⟨row, inside.1, rfl, inside.2.2⟩
  constructor
  · rw [Sweep.candidate, chosen]
    refine ((List.take_sublist _ _).map _).nodup ((sorted.map _).nodup_iff.2 ?_)
    rw [← chosen]
    exact ((filter_sublist).map _).nodup unique
  · intro id mem
    obtain ⟨row, inside, same, -⟩ := picked id mem
    exact mem_map.2 ⟨row, inside, same⟩
  · intro id mine mem
    obtain ⟨row, inside, same, unmarked⟩ := picked id mem
    obtain ⟨row', inside', same', marked⟩ := sound.taken id mine
    rw [inj_on_of_nodup_map unique inside' inside (same'.trans same.symm)] at marked
    cases found : row.retentionMarkedAt <;> simp [found] at marked unmarked
  · rw [Sweep.candidate, length_map, List.length_take]
    exact Nat.min_le_left _ _
  · intro few row mem covered
    by_cases marked : row.retentionMarkedAt.isSome
    · exact .inr marked
    refine .inl ?_
    rw [Sweep.candidate, chosen] at few ⊢
    rw [length_map, List.length_take, min_lt_iff, or_iff_right (lt_irrefl _)] at few
    rw [take_of_length_le few.le]
    refine mem_map_of_mem (sorted.mem_iff.2 ?_)
    rw [← chosen, mem_filter, covered]
    exact ⟨mem, by simpa using marked⟩

/-- **The batch is written.** -/
theorem Sound.counted (unique : (rows.map AuditEvent.id).Nodup) (sound : Sound size rows sweep)
    (phase : sweep.phase = .selected ids) :
    Sound size (rows.map fun row => sweep.mark row ids) (sweep.counted size (returned rows ids)) := by
  have chosen := sound.chosen ids phase
  have inside : ∀ id ∈ returned rows ids, id ∈ ids ∧ ∃ row ∈ rows, row.id = id := by
    intro id member
    obtain ⟨row, inside, rfl⟩ := mem_map.1 member
    obtain ⟨there, inside⟩ := mem_filter.1 inside
    exact ⟨of_decide_eq_true inside, row, there, rfl⟩
  have every : ids ⊆ returned rows ids := by
    intro id member
    obtain ⟨row, there, rfl⟩ := mem_map.1 (chosen.present member)
    exact mem_map_of_mem (mem_filter.2 ⟨there, decide_eq_true member⟩)
  have single : (returned rows ids).Nodup := ((filter_sublist).map _).nodup unique
  have length : (returned rows ids).length = ids.length :=
    le_antisymm (List.subperm_of_subset single fun id member => (inside id member).1).length_le
      (List.subperm_of_subset chosen.distinct every).length_le
  have most := chosen.most
  have before := sound.full (phase ▸ nofun)
  constructor
  · refine nodup_append.2 ⟨sound.distinct, single, ?_⟩
    rintro id mine _ member rfl
    exact chosen.apart mine (inside id member).1
  · intro id member
    rcases mem_append.1 member with mine | member
    · exact (Sound.mark sound).taken id mine
    · obtain ⟨own, row, there, rfl⟩ := inside id member
      exact ⟨_, mem_map_of_mem there, mark_id, mark_inside own⟩
  · exact (congrArg (· + _) sound.count).trans (length_append).symm
  · intro going
    have complete : (returned rows ids).length = size := by
      by_contra short
      exact going (if_neg short)
    show (sweep.batchCount + 1) * size ≤ (sweep.marked ++ returned rows ids).length
    rw [Nat.succ_mul, length_append, complete]
    omega
  · show (sweep.batchCount + 1) * size ≤ (sweep.marked ++ returned rows ids).length + size
    rw [Nat.succ_mul, length_append]
    omega
  · intro ids' selected
    simp only [Sweep.counted] at selected
    split at selected <;> cases selected
  · intro done row member covered
    have short : (returned rows ids).length ≠ size := by
      intro complete
      rw [Sweep.counted, if_pos complete] at done
      cases done
    obtain ⟨old, there, rfl⟩ := mem_map.1 member
    rcases chosen.all (by omega) old there (mark_covers.symm.trans covered) with own | marked
    · exact .inr (mark_inside own)
    · exact .inr (mark_marked marked)

/-! ### Runs -/

/-- The columns are those of the table, and every sweep is sound. -/
structure Holds (size : Nat) (table : AuditTable Facts) (state : State Facts) : Prop where
  columns : state.rows.map AuditEvent.columns = table.rows.map AuditEvent.columns
  sound : ∀ sweep ∈ state.sweeps, Sound size state.rows sweep

theorem Holds.unique (holds : Holds size table state) : (state.rows.map AuditEvent.id).Nodup := by
  have same := congrArg (List.map (·.1)) holds.columns
  rw [map_map, map_map] at same
  exact same ▸ table.ids

theorem Holds.step (holds : Holds size table state) (step : retentionStep size state event = some next) :
    Holds size table next := by
  cases event with
  | begin now =>
    cases step
    refine ⟨holds.columns, fun sweep mem => ?_⟩
    rcases mem_append.1 mem with old | new
    · exact holds.sound sweep old
    · cases mem_singleton.1 new
      exact ⟨nodup_nil, nofun, rfl, by simp, by simp, nofun, nofun⟩
  | select index =>
    obtain ⟨sweep, found, step⟩ := bind_eq_some_iff.1 step
    have sound := holds.sound sweep (mem_of_getElem? found)
    split_ifs at step with idle
    cases step
    refine ⟨holds.columns, fun other mem => ?_⟩
    rcases mem_or_eq_of_mem_set mem with old | rfl
    · exact holds.sound other old
    · refine ⟨sound.distinct, sound.taken, sound.count, fun _ => sound.full (idle ▸ nofun), sound.last, ?_,
        nofun⟩
      rintro ids ⟨⟩
      have chosen := candidate_chosen holds.unique sound
      exact ⟨chosen.distinct, chosen.present, chosen.apart, chosen.most, chosen.all⟩
  | mark index =>
    obtain ⟨sweep, found, step⟩ := bind_eq_some_iff.1 step
    have sound := holds.sound sweep (mem_of_getElem? found)
    split at step
    · rename_i ids phase
      cases step
      refine ⟨?_, fun other mem => ?_⟩
      · rw [← holds.columns, map_map]
        exact map_congr_left fun row _ => mark_columns
      · rcases mem_or_eq_of_mem_set mem with old | rfl
        · exact (holds.sound other old).mark
        · exact sound.counted holds.unique phase
    · cases step
  | fail index =>
    obtain ⟨sweep, found, step⟩ := bind_eq_some_iff.1 step
    have sound := holds.sound sweep (mem_of_getElem? found)
    split_ifs at step with ended
    cases step
    refine ⟨holds.columns, fun other mem => ?_⟩
    rcases mem_or_eq_of_mem_set mem with old | rfl
    · exact holds.sound other old
    · exact ⟨sound.distinct, sound.taken, sound.count, fun _ => sound.full fun done => ended (.inl done),
        sound.last, nofun, nofun⟩

/-- What a sweep promises: no other column changes, the loop ends, and then the rows of the sweep are marked. -/
structure Retained (size : Nat) (table : AuditTable Facts) (state : State Facts) : Prop where
  columns : state.rows.map AuditEvent.columns = table.rows.map AuditEvent.columns
  goesOn : ∀ index sweep, state.sweeps[index]? = some sweep → sweep.phase ≠ .done → sweep.phase ≠ .failed →
    (retentionStep size state (.select index)).isSome ∨ (retentionStep size state (.mark index)).isSome
  ends : ∀ sweep ∈ state.sweeps, sweep.batchCount ≤ table.rows.length / size + 1
  swept : ∀ sweep ∈ state.sweeps, sweep.phase = .done →
    ∀ row ∈ state.rows, sweep.covers row = true → row.retentionMarkedAt.isSome

theorem Holds.retained (holds : Holds size table state) (positive : 0 < size) : Retained size table state := by
  refine ⟨holds.columns, fun index sweep found going unfailed => ?_, fun sweep mem => ?_,
    fun sweep mem done row inside covered => ?_⟩
  · cases phase : sweep.phase with
    | idle => exact .inl (by simp [retentionStep, found, phase])
    | selected ids => exact .inr (by simp [retentionStep, found, phase])
    | done => exact absurd phase going
    | failed => exact absurd phase unfailed
  · have sound := holds.sound sweep mem
    have inside : sweep.marked ⊆ state.rows.map AuditEvent.id := by
      intro id mine
      obtain ⟨row, there, same, -⟩ := sound.taken id mine
      exact mem_map.2 ⟨row, there, same⟩
    have most := (List.subperm_of_subset sound.distinct inside).length_le
    have length := congrArg List.length holds.columns
    simp only [length_map] at most length
    rw [← Nat.add_div_right _ positive, Nat.le_div_iff_mul_le positive]
    have last := sound.last
    omega
  · exact ((holds.sound sweep mem).swept done row inside covered).resolve_left not_mem_nil

/-- A row that is marked stays as it is. -/
def MarksKept (first second : State Facts) : Prop :=
  ∀ row ∈ first.rows, row.retentionMarkedAt.isSome → row ∈ second.rows

/-- No row of the batch was marked since the snapshot. -/
def Unmarked (state : State Facts) : Event → Prop
  | .mark index => ∀ sweep ids, state.sweeps[index]? = some sweep → sweep.phase = .selected ids →
      ∀ row ∈ state.rows, row.id ∈ ids → row.retentionMarkedAt = none
  | _ => True

/-- The rows that a statement under way will update. -/
def Phase.picked : Phase → List Uuid
  | .selected ids => ids
  | _ => []

instance (state : State Facts) : (event : Event) → Decidable (Unmarked state event)
  | .mark index => decidable_of_iff (∀ sweep ∈ state.sweeps[index]?, ∀ row ∈ state.rows, row.id ∈
      sweep.phase.picked →
      row.retentionMarkedAt = none) <| by
    constructor
    · intro holds sweep ids found phase row mem inside
      exact holds sweep found row mem (phase ▸ inside)
    · intro holds sweep found row mem inside
      cases phase : sweep.phase with
      | selected ids => exact holds sweep ids found phase row mem (by rwa [phase] at inside)
      | idle | done | failed =>
        rw [phase] at inside
        cases inside
  | .begin _ | .select _ | .fail _ => .isTrue trivial

theorem marksKept_step (unmarked : Unmarked state event) (step : retentionStep size state event = some next) :
    MarksKept state next := by
  intro row mem marked
  cases event with
  | begin now =>
    cases step
    exact mem
  | select index =>
    obtain ⟨sweep, -, step⟩ := bind_eq_some_iff.1 step
    split_ifs at step
    cases step
    exact mem
  | mark index =>
    obtain ⟨sweep, found, step⟩ := bind_eq_some_iff.1 step
    split at step
    · rename_i ids phase
      cases step
      refine mem_map.2 ⟨row, mem, if_neg fun inside => ?_⟩
      rw [unmarked sweep ids found phase row mem inside] at marked
      cases marked
    · cases step
  | fail index =>
    obtain ⟨sweep, -, step⟩ := bind_eq_some_iff.1 step
    split_ifs at step
    cases step
    exact mem

/-- **Where no batch meets a row that was marked since its snapshot**, a mark is set once and never changes;
and every sweep ends, its rows marked, with no other column changed. -/
theorem retention_sound (positive : 0 < size)
    (reached : (retention size table).Reaches Unmarked (retention size table).start first)
    (later : (retention size table).Reaches Unmarked first second) :
    MarksKept first second ∧ Retained size table second := by
  constructor
  · induction later with
    | refl => exact fun row mem _ => mem
    | tail _ unmarked step ih =>
      exact fun row mem marked => marksKept_step unmarked step row (ih row mem marked) marked
  · have holds : Holds size table second := (reached.trans later).invariant ⟨rfl, fun _ none => by cases none⟩
      fun _ _ _ holds _ step => holds.step step
    exact holds.retained positive

end Runs

def sampleEvent (mark : Option Int) : AuditEvent Unit := ⟨sample 1, 0, (), mark⟩

def sampleTable : AuditTable Unit := ⟨[sampleEvent none], nodup_singleton _⟩

def sampleNow (later : Int) : Int := RETENTION_DAYS * 86400000 + 1 + later

/-- Five events that are old, one that is not. -/
def sampleLog : AuditTable Unit where
  rows := ⟨sample 6, sampleNow 0 * 1000, (), none⟩ :: [5, 4, 3, 2, 1].map fun n => ⟨sample n, 0, (), none⟩
  ids := by decide

/-- Two sweeps take batches of two by turns: the first ends with the fifth event, the second finds nothing
more. -/
theorem retention_sound_sample :
    ∃ first second, (retention 2 sampleLog).run (retention 2 sampleLog).start
      [.begin (sampleNow 0), .begin (sampleNow 1), .select 0, .mark 0, .select 1] = some first ∧
      (retention 2 sampleLog).run first [.mark 1, .select 0, .mark 0, .select 1, .mark 1] = some second ∧
      second.sweeps.map (fun sweep => (sweep.phase, sweep.markedCount)) = [(.done, 3), (.done, 2)] ∧
      MarksKept first second ∧ Retained 2 sampleLog second := by
  have ran : ((retention 2 sampleLog).run (retention 2 sampleLog).start
      [.begin (sampleNow 0), .begin (sampleNow 1), .select 0, .mark 0, .select 1]).any (fun first =>
        ((retention 2 sampleLog).run first [.mark 1, .select 0, .mark 0, .select 1, .mark 1]).any fun second =>
          second.sweeps.map (fun sweep => (sweep.phase, sweep.markedCount)) = [(.done, 3), (.done, 2)] &&
          decide ((retention 2 sampleLog).AllowedAlong Unmarked first
            [.mark 1, .select 0, .mark 0, .select 1, .mark 1])) = true := by
    decide +kernel
  obtain ⟨first, reached, ran⟩ := (any_eq_true _ _).1 ran
  obtain ⟨second, later, ended⟩ := (any_eq_true _ _).1 ran
  simp only [and_eq_true, decide_eq_true_eq] at ended
  exact ⟨first, second, reached, later, ended.1, retention_sound (by decide)
    (Machine.run_reaches reached (by decide +kernel)) (Machine.run_reaches later ended.2)⟩

/-- Of two sweeps that picked the same row, the later to write takes the mark of the other away. -/
theorem marked_again :
    ¬
      ∀ first second,
      (retention 2 sampleTable).Reachable first → (retention 2 sampleTable).Later first second →
      MarksKept first second ∧ Retained 2 sampleTable second := by
  intro law
  have first : (retention 2 sampleTable).run (retention 2 sampleTable).start [.begin (sampleNow 0),
      .begin (sampleNow 1), .select 0, .select 1, .mark 0] = some ⟨[sampleEvent (some (sampleNow 0))],
        [⟨sampleNow 0, .done, 1, 1, [sample 1]⟩, ⟨sampleNow 1, .selected [sample 1], 0, 0, []⟩]⟩ := rfl
  have second : (retention 2 sampleTable).run ⟨[sampleEvent (some (sampleNow 0))],
        [⟨sampleNow 0, .done, 1, 1, [sample 1]⟩, ⟨sampleNow 1, .selected [sample 1], 0, 0, []⟩]⟩ [.mark 1] =
      some ⟨[sampleEvent (some (sampleNow 1))],
        [⟨sampleNow 0, .done, 1, 1, [sample 1]⟩, ⟨sampleNow 1, .done, 1, 1, [sample 1]⟩]⟩ :=
    rfl
  have kept := (law _ _ (Machine.run_later first) (Machine.run_later second)).1 _ (mem_singleton_self _) rfl
  exact absurd (congrArg AuditEvent.retentionMarkedAt (mem_singleton.1 kept)) (by decide)

end DataPulse.Audit
