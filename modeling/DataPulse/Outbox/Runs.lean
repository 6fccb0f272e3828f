/-
**Drainers, retention and producers on one outbox table.**

Any number of drainers, any number of retention sweeps and any producers, in any order of their
steps. A transaction that changed rows holds their locks until it commits or is rolled back; a
statement that would wait for a lock is not enabled, and the claim and the retention DELETE skip
locked rows. A worker may be gone at any point, and the answer to a COMMIT may be lost.

* `outbox_sound`: both, over all runs.
-/

import DataPulse.Lib.Machine
import DataPulse.Outbox.Drainer

namespace DataPulse.Outbox

open Lib Platform

/-! ### Worlds -/

/-- What an open transaction did to the rows it locked. -/
inductive Work where
  | claim (drainer : Nat)
  | mark (drainer : Nat) (change : Mark)
  | purge

/-- The row once the transaction commits; a purged row is gone. -/
def Work.change (now : Int) (row : OutboxEvent) : Work → Option OutboxEvent
  | claim _ => some (row.claim now)
  | mark _ change => some (change.apply now row)
  | purge => none

/-- An open transaction, the rows it changed, and its `now()`. -/
structure Txn where
  work : Work
  ids : List Uuid
  now : Int

def Txn.apply (txn : Txn) (rows : List OutboxEvent) : List OutboxEvent :=
  rows.filterMap fun row =>
    if row.eventId ∈ txn.ids then txn.work.change txn.now row else some row

/-- How far a call of `processRow` is: its consumer handles the event, it is about to mark the row,
or its UPDATE is done and its COMMIT is not answered yet. -/
inductive Phase where
  | handling
  | marking (change : Mark)
  | sent
  deriving DecidableEq

/-- A call of `processRow` in progress. -/
structure Hand where
  drainer : Nat
  event : ClaimedOutboxEvent
  phase : Phase
  deriving DecidableEq

/-- The database, the calls in progress, and two history lists: the identifiers ever inserted and,
for every committed claim, the rows it claimed. -/
structure World where
  now : Int
  rows : List OutboxEvent
  opened : List Txn
  hands : List Hand
  emitted : List Uuid
  claims : List Uuid

/-- The registry the drainers share, and how many rows each of them claims at once. -/
structure Deployment where
  registry : OutboxConsumerRegistry
  batchSize : Nat → Nat
  positive : ∀ drainer, 0 < batchSize drainer

/-- What can happen. Clients are told apart by their place in the lists of the world. -/
inductive Event where
  | wait (time : Nat)
  | emit (input : OutboxEmitInput) (eventId : Uuid)
  | claim (drainer : Nat) (started : Int)
  | finish (hand : Nat) (outcome : Outcome) (date : Int)
  | mark (hand : Nat) (started : Int)
  | lose (hand : Nat)
  | purge (cutoffs : RetentionCutoffs) (batchSize : Nat)
  | commit (txn : Nat) (heard : Bool)
  | rollback (txn : Nat)

namespace World

def locked (world : World) (eventId : Uuid) : Bool :=
  world.opened.any fun txn => eventId ∈ txn.ids

/-- The calls that are left when the transaction of a mark has ended. -/
def release (world : World) (ids : List Uuid) : List Hand :=
  world.hands.filter fun hand => !(hand.phase = .sent && hand.event.eventId ∈ ids)

/-- The calls once the transaction has committed: a claim whose drainer hears of it puts its rows
into its hands. -/
def handsAfter (world : World) (txn : Txn) (heard : Bool) : List Hand :=
  match txn.work with
  | .claim drainer =>
    if heard then world.hands ++ (claimedEvents txn.ids txn.now world.rows).map fun event =>
      ⟨drainer, event, .handling⟩
    else world.hands
  | .mark .. => world.release txn.ids
  | .purge => world.hands

def claimsAfter (world : World) (txn : Txn) : List Uuid :=
  match txn.work with
  | .claim _ => world.claims ++ txn.ids
  | _ => world.claims

def commit (world : World) (index : Nat) (txn : Txn) (heard : Bool) : World :=
  { world with
    rows := txn.apply world.rows
    opened := world.opened.eraseIdx index
    hands := world.handsAfter txn heard
    claims := world.claimsAfter txn }

def rollback (world : World) (index : Nat) (txn : Txn) : World :=
  { world with
    opened := world.opened.eraseIdx index
    hands := match txn.work with
      | .mark .. => world.release txn.ids
      | _ => world.hands }

end World

def step (deployment : Deployment) (world : World) : Event → Option World
  | .wait time => some { world with now := world.now + time }
  | .emit input eventId =>
    if eventId ∈ world.emitted then none
    else some { world with
      rows := world.rows ++ [input.row eventId world.now]
      emitted := eventId :: world.emitted }
  | .claim drainer started =>
    if started ≤ world.now then some { world with
      opened := world.opened ++ [⟨.claim drainer,
        claimIds world.locked started (deployment.batchSize drainer) world.rows, started⟩] }
    else none
  | .finish index outcome date => do
      let hand ← world.hands[index]?
      if hand.phase = .handling then
        match chosen deployment.registry outcome date hand.event with
        | .ok change => some { world with
            hands := world.hands.set index { hand with phase := .marking change } }
        -- `markFailed` threw before it sent anything
        | .error _ => some { world with hands := world.hands.eraseIdx index }
      else none
  | .mark index started => do
      let hand ← world.hands[index]?
      match hand.phase with
      | .marking change =>
        if started ≤ world.now ∧ world.locked hand.event.eventId = false then
          match mark change hand.event.eventId started world.rows with
          | .ok _ => some { world with
              opened := world.opened ++
                [⟨.mark hand.drainer change, [hand.event.eventId], started⟩]
              hands := world.hands.set index { hand with phase := .sent } }
          | .error _ => some { world with hands := world.hands.eraseIdx index }
        else none
      | _ => none
  -- the worker is gone, or its mark failed and was logged
  | .lose index => do
      let _ ← world.hands[index]?
      some { world with hands := world.hands.eraseIdx index }
  | .purge cutoffs batchSize => some { world with
      opened := world.opened ++
        [⟨.purge, purgeIds world.locked cutoffs batchSize world.rows, world.now⟩] }
  | .commit index heard => do
      let txn ← world.opened[index]?
      some (world.commit index txn heard)
  | .rollback index => do
      let txn ← world.opened[index]?
      some (world.rollback index txn)

def World.empty : World := ⟨0, [], [], [], [], []⟩

def outbox (deployment : Deployment) : Machine World Event := ⟨.empty, step deployment⟩

/-! ### What holds of one row -/

section Rows

variable {row row' : OutboxEvent} {rows : List OutboxEvent} {txn : Txn}
variable {now : Int}
variable {work : Work}

/-- The attempts and the processing time fit the state. -/
def OutboxEvent.Sound (row : OutboxEvent) : Prop :=
  match row.deliveryState with
  | .pending => row.attempts = 0 ∧ row.processedAt = none
  | .claimed => row.attempts ≤ MAX_ATTEMPTS ∧ row.processedAt = none
  | .failed => row.attempts < MAX_ATTEMPTS ∧ row.processedAt = none
  | .delivered => row.attempts ≤ MAX_ATTEMPTS ∧ row.processedAt.isSome
  | .deadLettered => row.attempts = MAX_ATTEMPTS ∧ row.processedAt.isSome

def Mark.Fits (attempts : Nat) : Mark → Prop
  | delivered => True
  | failed .. => attempts < MAX_ATTEMPTS
  | deadLettered _ => MAX_ATTEMPTS ≤ attempts

def Work.Ready (row : OutboxEvent) : Work → Prop
  | claim _ => row.deliveryState = .pending ∨ row.deliveryState = .failed
  | mark _ change => row.deliveryState = .claimed ∧ change.Fits row.attempts
  | purge => row.deliveryState = .failed ∨ row.terminal = true

variable (sound : row.Sound)
include sound

theorem OutboxEvent.Sound.attempts_le : row.attempts ≤ MAX_ATTEMPTS := by
  unfold OutboxEvent.Sound at sound
  split at sound <;> omega

theorem OutboxEvent.Sound.processed_iff : row.processedAt.isSome ↔ row.terminal = true := by
  unfold OutboxEvent.Sound at sound
  unfold OutboxEvent.terminal
  cases state : row.deliveryState <;> rw [state] at sound <;> simp [sound.2]

theorem OutboxEvent.Sound.deadLettered (dead : row.deliveryState = .deadLettered) :
    row.attempts = MAX_ATTEMPTS := by
  unfold OutboxEvent.Sound at sound
  rw [dead] at sound
  exact sound.1

theorem OutboxEvent.Sound.claim (ready : row.deliveryState = .pending ∨ row.deliveryState = .failed) :
    (row.claim now).Sound := by
  unfold OutboxEvent.Sound at sound
  show row.attempts + 1 ≤ MAX_ATTEMPTS ∧ row.processedAt = none
  rcases ready with state | state
  · rw [state] at sound
    exact ⟨by simp [sound.1, MAX_ATTEMPTS], sound.2⟩
  · rw [state] at sound
    exact ⟨sound.1, sound.2⟩

theorem OutboxEvent.Sound.mark {change : Mark} (claimed : row.deliveryState = .claimed)
    (fits : change.Fits row.attempts) : (change.apply now row).Sound := by
  unfold OutboxEvent.Sound at sound
  rw [claimed] at sound
  cases change with
  | delivered => exact ⟨sound.1, rfl⟩
  | failed errorClass nextAttemptAt => exact ⟨fits, sound.2⟩
  | deadLettered errorClass => exact ⟨le_antisymm sound.1 fits, rfl⟩

/-- **A committed change keeps the row sound.** -/
theorem Work.change_sound (ready : work.Ready row) (changed : work.change now row = some row') :
    row'.Sound := by
  cases work with
  | claim drainer =>
    cases changed
    exact sound.claim ready
  | mark drainer change =>
    cases changed
    exact sound.mark ready.1 ready.2
  | purge => cases changed

omit sound

theorem Work.change_eventId (changed : work.change now row = some row') : row'.eventId = row.eventId := by
  cases work with
  | claim drainer =>
    cases changed
    rfl
  | mark drainer change =>
    cases changed
    exact change.apply_eventId now row
  | purge => cases changed

theorem Work.Ready.not_terminal (ready : work.Ready row) (work_ne : work ≠ .purge) : row.terminal = false := by
  unfold OutboxEvent.terminal
  cases work with
  | claim drainer => rcases ready with state | state <;> simp [state]
  | mark drainer change => simp [ready.1]
  | purge => exact absurd rfl work_ne

theorem chosen_fits {registry : OutboxConsumerRegistry} {outcome : Outcome} {date : Int}
    {event : ClaimedOutboxEvent} {change : Mark} (chose : chosen registry outcome date event = .ok change) :
    change.Fits event.attempts := by
  have failed : ∀ errorClass, failedMark event.eventId event.attempts errorClass date = .ok change →
      change.Fits event.attempts := by
    intro errorClass made
    unfold failedMark at made
    split_ifs at made with exhausted
    cases made
    exact Nat.not_le.1 exhausted
  unfold chosen at chose
  split at chose
  · exact failed _ chose
  · split at chose
    · cases chose
      trivial
    · split_ifs at chose with exhausted
      · cases chose
        exact exhausted
      · exact failed _ chose

/-! ### What a commit does to the table -/

theorem Txn.mem_apply :
    row' ∈ txn.apply rows ↔
      (row' ∈ rows ∧ row'.eventId ∉ txn.ids) ∨
      ∃ row ∈ rows, row.eventId ∈ txn.ids ∧ txn.work.change txn.now row = some row' := by
  unfold Txn.apply
  rw [mem_filterMap]
  constructor
  · rintro ⟨row, mem, kept⟩
    split_ifs at kept with inside
    · exact .inr ⟨row, mem, inside, kept⟩
    · cases kept
      exact .inl ⟨mem, inside⟩
  · rintro (⟨mem, outside⟩ | ⟨row, mem, inside, changed⟩)
    · exact ⟨row', mem, if_neg outside⟩
    · exact ⟨row, mem, (if_pos inside).trans changed⟩

/-- **Rows that are not locked by a transaction are not changed by its commit.** -/
theorem Txn.mem_apply_of_not_mem (outside : row.eventId ∉ txn.ids) : row ∈ txn.apply rows ↔ row ∈ rows := by
  rw [Txn.mem_apply]
  constructor
  · rintro (⟨mem, -⟩ | ⟨before, -, inside, changed⟩)
    · exact mem
    · exact absurd (Work.change_eventId changed ▸ inside) outside
  · exact fun mem => .inl ⟨mem, outside⟩

theorem Txn.apply_keyed (keyed : (rows.map OutboxEvent.eventId).Nodup) :
    ((txn.apply rows).map OutboxEvent.eventId).Nodup := by
  refine keyed.sublist ?_
  clear keyed
  induction rows with
  | nil => exact List.Sublist.slnil
  | cons row rest ih =>
    unfold Txn.apply at ih ⊢
    rw [filterMap_cons]
    split
    · exact ih.cons _
    · rename_i row' kept
      have same : row'.eventId = row.eventId := by
        split_ifs at kept
        · exact Work.change_eventId kept
        · cases kept
          rfl
      rw [map_cons, map_cons, same]
      exact ih.cons_cons _

end Rows

/-! ### What holds in every world -/

section Sound

variable {deployment : Deployment} {world world' : World}
variable {index : Nat} {cutoffs : RetentionCutoffs} {txn : Txn} {event : Event} {hand : Hand}
  {heard : Bool} {id : Uuid}
variable {rows : List OutboxEvent} {row : OutboxEvent} {batchSize : Nat} {ids : List Uuid}

/-- The row of a call in progress is claimed with the attempts the call knows, and locked at most by
the mark of that call. -/
structure World.Holds (world : World) (hand : Hand) : Prop where
  row : ∃ row ∈ world.rows, row.eventId = hand.event.eventId ∧ row.deliveryState = .claimed ∧
    row.attempts = hand.event.attempts
  fits : ∀ change, hand.phase = .marking change → change.Fits hand.event.attempts
  free : hand.phase ≠ .sent → world.locked hand.event.eventId = false

/-- The row fits its state, and was claimed as often as it says. -/
structure World.Counts (world : World) (row : OutboxEvent) : Prop where
  sound : row.Sound
  emitted : row.eventId ∈ world.emitted
  counted : row.attempts = world.claims.count row.eventId

/-- An open transaction locked each of its rows once, and may change them. -/
structure World.Opens (world : World) (txn : Txn) : Prop where
  nodup : txn.ids.Nodup
  ready : ∀ id ∈ txn.ids, ∃ row ∈ world.rows, row.eventId = id ∧ txn.work.Ready row

/-- What holds in every reachable world. -/
structure Sound (world : World) : Prop where
  keyed : (world.rows.map OutboxEvent.eventId).Nodup
  rows : ∀ row ∈ world.rows, world.Counts row
  claimed : ∀ id ∈ world.claims, id ∈ world.emitted
  once : (world.hands.map fun hand => hand.event.eventId).Nodup
  hands : ∀ hand ∈ world.hands, world.Holds hand
  opened : ∀ txn ∈ world.opened, world.Opens txn
  apart : world.opened.Pairwise fun txn other => txn.ids.Disjoint other.ids

theorem World.locked_iff : world.locked id = true ↔ ∃ txn ∈ world.opened, id ∈ txn.ids := by
  simp [World.locked]

theorem World.locked_false : world.locked id = false ↔ ∀ txn ∈ world.opened, id ∉ txn.ids := by
  rw [← not_eq_true, World.locked_iff]
  exact ⟨fun none txn mem inside => none ⟨txn, mem, inside⟩, fun none ⟨txn, mem, inside⟩ => none txn mem inside⟩

theorem Sound.empty : Sound .empty where
  keyed := nodup_nil
  rows := by intro row mem; cases mem
  claimed := by intro id mem; cases mem
  once := nodup_nil
  hands := by intro hand mem; cases mem
  opened := by intro txn mem; cases mem
  apart := List.Pairwise.nil

theorem Sound.drop (sound : Sound world) {hands : List Hand} (fewer : hands.Sublist world.hands) :
    Sound { world with hands := hands } :=
  { sound with
    rows := fun row mem => { sound.rows row mem with }
    once := sound.once.sublist (fewer.map _)
    hands := fun hand mem => { sound.hands hand (fewer.subset mem) with }
    opened := fun txn mem => { sound.opened txn mem with } }

theorem Sound.put (sound : Sound world) {index : Nat} {hand : Hand} {phase : Phase}
    (found : world.hands[index]? = some hand)
    (fits : ∀ change, phase = .marking change → change.Fits hand.event.attempts)
    (free : phase ≠ .sent → world.locked hand.event.eventId = false) :
    Sound { world with hands := world.hands.set index { hand with phase := phase } } := by
  have held := sound.hands hand (mem_of_getElem? found)
  refine { sound with rows := ?_, once := ?_, hands := ?_, opened := ?_ }
  · exact fun row mem => { sound.rows row mem with }
  · have same : (world.hands.set index { hand with phase := phase }).map
        (fun hand => hand.event.eventId) = world.hands.map fun hand => hand.event.eventId := by
      rw [List.map_set]
      refine List.ext_getElem? fun other => ?_
      rw [getElem?_set]
      split_ifs with here inside
      · rw [← here, getElem?_map, found]
        rfl
      · rw [← here, List.getElem?_eq_none (Nat.le_of_not_lt inside)]
      · rfl
    rw [same]
    exact sound.once
  · intro other mem
    rcases mem_or_eq_of_mem_set mem with mem | rfl
    · exact { sound.hands other mem with }
    · exact ⟨held.row, fits, free⟩
  · exact fun txn mem => { sound.opened txn mem with }

/-- **A statement locks rows that nobody has locked.** -/
theorem Sound.begin (sound : Sound world) (opens : world.Opens txn)
    (unlocked : ∀ id ∈ txn.ids, world.locked id = false)
    (free : ∀ hand ∈ world.hands, hand.phase ≠ .sent → hand.event.eventId ∉ txn.ids) :
    Sound { world with opened := world.opened ++ [txn] } := by
  refine { sound with rows := ?_, hands := ?_, opened := ?_, apart := ?_ }
  · exact fun row mem => { sound.rows row mem with }
  · intro hand mem
    have held := sound.hands hand mem
    refine ⟨held.row, held.fits, fun early => ?_⟩
    have before := World.locked_false.1 (held.free early)
    refine World.locked_false.2 fun other inside => ?_
    rcases mem_append.1 inside with inside | inside
    · exact before other inside
    · rw [mem_singleton.1 inside]
      exact free hand mem early
  · intro other inside
    rcases mem_append.1 inside with inside | inside
    · exact { sound.opened other inside with }
    · rw [mem_singleton.1 inside]
      exact { opens with }
  · refine pairwise_append.2 ⟨sound.apart, pairwise_singleton _ _, ?_⟩
    intro other inside new same
    rw [mem_singleton.1 same]
    intro id here there
    exact World.locked_false.1 (unlocked id there) other inside here

theorem Sound.claimed_row (sound : Sound world) (mem : hand ∈ world.hands) (inside : row ∈ world.rows)
    (same : row.eventId = hand.event.eventId) :
    row.deliveryState = .claimed ∧ row.attempts = hand.event.attempts := by
  obtain ⟨held, there, id, claimed, attempts⟩ := (sound.hands hand mem).row
  obtain rfl := same_row sound.keyed inside there (same.trans id.symm)
  exact ⟨claimed, attempts⟩

theorem Sound.claim_opens (sound : Sound world) (drainer : Nat) (started : Int) (batchSize : Nat) :
    world.Opens ⟨.claim drainer, claimIds world.locked started batchSize world.rows, started⟩ := by
  refine ⟨claimIds_nodup sound.keyed, fun id taken => ?_⟩
  obtain ⟨row, mem, same, claimable, -⟩ := mem_claimIds taken
  exact ⟨row, mem, same, (OutboxEvent.claimable_iff.1 claimable).1⟩

theorem mem_purgeIds {locked : Uuid → Bool} (taken : id ∈ purgeIds locked cutoffs batchSize rows) :
    ∃ row ∈ rows, row.eventId = id ∧ row.purgeable cutoffs = true ∧ locked id = false := by
  obtain ⟨row, mem, rfl⟩ := mem_map.1 taken
  have mem := (perm_insertionSort _ _).mem_iff.1 (mem_of_mem_take mem)
  obtain ⟨mem, fits⟩ := mem_filter.1 mem
  rw [and_eq_true] at fits
  exact ⟨row, mem, rfl, fits.1, by simpa using fits.2⟩

theorem purgeIds_nodup {locked : Uuid → Bool} (keyed : (rows.map OutboxEvent.eventId).Nodup) :
    (purgeIds locked cutoffs batchSize rows).Nodup := by
  unfold purgeIds
  refine List.Nodup.sublist ((List.take_sublist _ _).map _) ?_
  rw [((perm_insertionSort _ _).map OutboxEvent.eventId).nodup_iff]
  exact keyed.sublist (filter_sublist.map _)

theorem OutboxEvent.purgeable_state (purgeable : row.purgeable cutoffs = true) :
    row.deliveryState = .failed ∨ row.terminal = true := by
  unfold OutboxEvent.purgeable at purgeable
  unfold OutboxEvent.terminal
  cases state : row.deliveryState <;> simp [state] at purgeable ⊢

theorem Sound.purge_opens (sound : Sound world) (cutoffs : RetentionCutoffs) (batchSize : Nat) :
    world.Opens ⟨.purge, purgeIds world.locked cutoffs batchSize world.rows, world.now⟩ := by
  refine ⟨purgeIds_nodup sound.keyed, fun id taken => ?_⟩
  obtain ⟨row, mem, same, purgeable, -⟩ := mem_purgeIds taken
  exact ⟨row, mem, same, OutboxEvent.purgeable_state purgeable⟩

theorem Sound.held_not_ready (sound : Sound world) (mem : hand ∈ world.hands) (opens : world.Opens txn)
    (work : (∃ drainer, txn.work = .claim drainer) ∨ txn.work = .purge) : hand.event.eventId ∉ txn.ids := by
  intro inside
  obtain ⟨row, there, same, ready⟩ := opens.ready _ inside
  have claimed := (sound.claimed_row mem there same).1
  rcases work with ⟨drainer, work⟩ | work
  · rw [work] at ready
    rcases ready with state | state <;> rw [state] at claimed <;> cases claimed
  · rw [work] at ready
    rcases ready with state | state
    · rw [state] at claimed
      cases claimed
    · simp [OutboxEvent.terminal, claimed] at state

theorem Sound.release_apart (sound : Sound world) (mem : txn ∈ world.opened)
    (left : hand ∈ world.release txn.ids) : hand.event.eventId ∉ txn.ids := by
  intro inside
  obtain ⟨there, kept⟩ := mem_filter.1 left
  have early : hand.phase ≠ .sent := by
    rintro sent
    simp [sent, inside] at kept
  exact World.locked_false.1 ((sound.hands hand there).free early) txn mem inside

theorem Sound.disjoint (sound : Sound world) {other : Txn} (found : world.opened[index]? = some txn)
    (mem : other ∈ world.opened.eraseIdx index) : txn.ids.Disjoint other.ids := by
  obtain ⟨bound, here⟩ := getElem?_eq_some_iff.1 found
  have perm := List.getElem_cons_eraseIdx_perm bound
  rw [here] at perm
  have apart := (perm.pairwise_iff fun h => h.symm).2 sound.apart
  exact (pairwise_cons.1 apart).1 other mem

theorem Sound.unlocked (sound : Sound world) (found : world.opened[index]? = some txn)
    (inside : id ∈ txn.ids) : ∀ other ∈ world.opened.eraseIdx index, id ∉ other.ids :=
  fun _ mem => sound.disjoint found mem inside

theorem Sound.rollback (sound : Sound world) (index : Nat) (txn : Txn) : Sound (world.rollback index txn) := by
  have fewer : ∀ hands : List Hand, hands.Sublist world.hands →
      Sound { world with opened := world.opened.eraseIdx index, hands := hands } := by
    intro hands sublist
    refine { sound.drop sublist with rows := ?_, hands := ?_, opened := ?_, apart := ?_ }
    · exact fun row mem => { sound.rows row mem with }
    · intro hand mem
      have held := sound.hands hand (sublist.subset mem)
      refine ⟨held.row, held.fits, fun early => World.locked_false.2 fun other inside => ?_⟩
      exact World.locked_false.1 (held.free early) other (mem_of_mem_eraseIdx inside)
    · exact fun other mem => { sound.opened other (mem_of_mem_eraseIdx mem) with }
    · exact sound.apart.sublist (eraseIdx_sublist _ _)
  unfold World.rollback
  cases txn.work with
  | claim drainer => exact fewer _ (List.Sublist.refl _)
  | mark drainer change => exact fewer _ filter_sublist
  | purge => exact fewer _ (List.Sublist.refl _)

theorem Sound.commit_counts (sound : Sound world) (found : world.opened[index]? = some txn)
    (mem : row ∈ txn.apply world.rows) : (world.commit index txn heard).Counts row := by
  have opens := sound.opened txn (mem_of_getElem? found)
  rcases Txn.mem_apply.1 mem with ⟨there, outside⟩ | ⟨before, there, inside, changed⟩
  · have counts := sound.rows row there
    refine ⟨counts.sound, counts.emitted, counts.counted.trans ?_⟩
    show _ = (world.claimsAfter txn).count row.eventId
    unfold World.claimsAfter
    cases txn.work with
    | claim drainer =>
      show _ = (world.claims ++ txn.ids).count row.eventId
      rw [count_append, List.count_eq_zero_of_not_mem outside, Nat.add_zero]
    | mark drainer change | purge => rfl
  · obtain ⟨other, there', same, ready⟩ := opens.ready _ inside
    obtain rfl := same_row sound.keyed there there' same.symm
    have counts := sound.rows before there
    have id := Work.change_eventId changed
    refine ⟨Work.change_sound counts.sound ready changed, ?_, ?_⟩
    · rw [id]
      exact counts.emitted
    · show _ = (world.claimsAfter txn).count row.eventId
      unfold World.claimsAfter
      rw [id]
      cases work : txn.work with
      | claim drainer =>
        rw [work] at changed
        cases changed
        show before.attempts + 1 = (world.claims ++ txn.ids).count before.eventId
        rw [count_append, List.count_eq_one_of_mem opens.nodup inside, counts.counted]
      | mark drainer change =>
        rw [work] at changed
        cases changed
        exact (change.apply_attempts _ _).trans counts.counted
      | purge =>
        rw [work] at changed
        cases changed

theorem Sound.commit_holds (sound : Sound world) (mem : hand ∈ world.hands)
    (outside : hand.event.eventId ∉ txn.ids) : (world.commit index txn heard).Holds hand := by
  have held := sound.hands hand mem
  obtain ⟨row, there, same, claimed, attempts⟩ := held.row
  refine ⟨⟨row, ?_, same, claimed, attempts⟩, held.fits, fun early => ?_⟩
  · exact (Txn.mem_apply_of_not_mem (same ▸ outside)).2 there
  · refine World.locked_false.2 fun other inside => ?_
    exact World.locked_false.1 (held.free early) other (mem_of_mem_eraseIdx inside)

/-- **The rows of a claim are in the hands of its drainer once it heard of the commit.** -/
theorem Sound.claimed_holds (sound : Sound world) {drainer : Nat} (found : world.opened[index]? = some txn)
    (work : txn.work = .claim drainer) {event : ClaimedOutboxEvent}
    (mem : event ∈ claimedEvents txn.ids txn.now world.rows) :
    (world.commit index txn heard).Holds ⟨drainer, event, .handling⟩ := by
  obtain ⟨row, there, rfl⟩ := mem_map.1 mem
  obtain ⟨there, inside⟩ := mem_filter.1 there
  have inside : row.eventId ∈ txn.ids := by simpa using inside
  refine ⟨⟨row.claim txn.now, ?_, rfl, rfl, rfl⟩, fun _ same => (nomatch same), fun _ => ?_⟩
  · exact Txn.mem_apply.2 (.inr ⟨row, there, inside, by rw [work]; rfl⟩)
  · exact World.locked_false.2 (sound.unlocked found inside)

theorem mem_claimedEvents {now : Int} {event : ClaimedOutboxEvent}
    (mem : event ∈ claimedEvents ids now rows) : event.eventId ∈ ids := by
  obtain ⟨row, there, rfl⟩ := mem_map.1 mem
  show row.eventId ∈ ids
  simpa using (mem_filter.1 there).2

theorem claimedEvents_nodup {now : Int} (keyed : (rows.map OutboxEvent.eventId).Nodup) :
    ((claimedEvents ids now rows).map ClaimedOutboxEvent.eventId).Nodup := by
  unfold claimedEvents
  rw [map_map]
  exact keyed.sublist (filter_sublist.map _)

theorem Sound.commit_hands (sound : Sound world) (found : world.opened[index]? = some txn) :
    ((world.commit index txn heard).hands.map fun hand => hand.event.eventId).Nodup ∧
      ∀ hand ∈ (world.commit index txn heard).hands, (world.commit index txn heard).Holds hand := by
  have inside := mem_of_getElem? found
  have opens := sound.opened txn inside
  show ((world.handsAfter txn heard).map fun hand => hand.event.eventId).Nodup ∧
    ∀ hand ∈ world.handsAfter txn heard, (world.commit index txn heard).Holds hand
  unfold World.handsAfter
  cases work : txn.work with
  | claim drainer =>
    have old : ∀ hand ∈ world.hands, hand.event.eventId ∉ txn.ids := fun hand member =>
      sound.held_not_ready member opens (.inl ⟨drainer, work⟩)
    have kept : ∀ hand ∈ world.hands, (world.commit index txn heard).Holds hand :=
      fun hand member => sound.commit_holds member (old hand member)
    cases heard with
    | false => exact ⟨sound.once, kept⟩
    | true =>
      simp only [if_true]
      refine ⟨?_, fun hand member => ?_⟩
      · rw [map_append, map_map]
        refine nodup_append.2 ⟨sound.once, claimedEvents_nodup sound.keyed, ?_⟩
        rintro id mine other theirs rfl
        obtain ⟨hand, member, rfl⟩ := mem_map.1 mine
        obtain ⟨event, claimed, same⟩ := mem_map.1 theirs
        exact old hand member (same ▸ mem_claimedEvents claimed)
      · rcases mem_append.1 member with member | member
        · exact kept hand member
        · obtain ⟨event, claimed, rfl⟩ := mem_map.1 member
          exact sound.claimed_holds found work claimed
  | mark drainer change =>
    refine ⟨sound.once.sublist (filter_sublist.map _), fun hand left => ?_⟩
    exact sound.commit_holds (mem_of_mem_filter left) (sound.release_apart inside left)
  | purge =>
    exact ⟨sound.once, fun hand member => sound.commit_holds member
      (sound.held_not_ready member opens (.inr work))⟩

theorem Sound.commit (sound : Sound world) (found : world.opened[index]? = some txn) :
    Sound (world.commit index txn heard) where
  keyed := Txn.apply_keyed sound.keyed
  rows := fun row member => sound.commit_counts found member
  claimed := by
    have opens := sound.opened txn (mem_of_getElem? found)
    intro id member
    change id ∈ world.claimsAfter txn at member
    unfold World.claimsAfter at member
    cases work : txn.work with
    | claim drainer =>
      rw [work] at member
      rcases mem_append.1 member with member | member
      · exact sound.claimed id member
      · obtain ⟨row, there, rfl, -⟩ := opens.ready id member
        exact (sound.rows row there).emitted
    | mark drainer change | purge =>
      rw [work] at member
      exact sound.claimed id member
  once := (sound.commit_hands found).1
  hands := (sound.commit_hands found).2
  opened := by
    intro other member
    have opens := sound.opened other (mem_of_mem_eraseIdx member)
    refine ⟨opens.nodup, fun id inside => ?_⟩
    obtain ⟨row, there, same, ready⟩ := opens.ready id inside
    have outside : row.eventId ∉ txn.ids := fun both => sound.disjoint found member both (same ▸ inside)
    exact ⟨row, (Txn.mem_apply_of_not_mem outside).2 there, same, ready⟩
  apart := sound.apart.sublist (eraseIdx_sublist _ _)

/-! ### One step -/

/-- **What a step does.** -/
inductive Does (deployment : Deployment) (world : World) : Event → World → Prop where
  | wait (time : Nat) : Does deployment world (.wait time) { world with now := world.now + time }
  | emit {input : OutboxEmitInput} {eventId : Uuid} (new : eventId ∉ world.emitted) :
      Does deployment world (.emit input eventId) { world with
        rows := world.rows ++ [input.row eventId world.now]
        emitted := eventId :: world.emitted }
  | claim {drainer : Nat} {started : Int} (past : started ≤ world.now) :
      Does deployment world (.claim drainer started) { world with
        opened := world.opened ++ [⟨.claim drainer,
          claimIds world.locked started (deployment.batchSize drainer) world.rows, started⟩] }
  | chose {index : Nat} {hand : Hand} {outcome : Outcome} {date : Int} {change : Mark}
      (found : world.hands[index]? = some hand) (phase : hand.phase = .handling)
      (chose : chosen deployment.registry outcome date hand.event = .ok change) :
      Does deployment world (.finish index outcome date)
        { world with hands := world.hands.set index { hand with phase := .marking change } }
  | unmarkable {index : Nat} {hand : Hand} {outcome : Outcome} {date : Int}
      {error : OutboxStateTransitionError}
      (found : world.hands[index]? = some hand) (phase : hand.phase = .handling)
      (throws : chosen deployment.registry outcome date hand.event = .error error) :
      Does deployment world (.finish index outcome date)
        { world with hands := world.hands.eraseIdx index }
  | marked {index : Nat} {hand : Hand} {change : Mark} {started : Int}
      (found : world.hands[index]? = some hand) (phase : hand.phase = .marking change)
      (free : world.locked hand.event.eventId = false) :
      Does deployment world (.mark index started) { world with
        opened := world.opened ++ [⟨.mark hand.drainer change, [hand.event.eventId], started⟩]
        hands := world.hands.set index { hand with phase := .sent } }
  | unmarked {index : Nat} {hand : Hand} {change : Mark} {started : Int}
      {error : OutboxStateTransitionError}
      (found : world.hands[index]? = some hand) (phase : hand.phase = .marking change)
      (throws : mark change hand.event.eventId started world.rows = .error error) :
      Does deployment world (.mark index started)
        { world with hands := world.hands.eraseIdx index }
  | lose {index : Nat} {hand : Hand} (found : world.hands[index]? = some hand) :
      Does deployment world (.lose index) { world with hands := world.hands.eraseIdx index }
  | purge (cutoffs : RetentionCutoffs) (batchSize : Nat) :
      Does deployment world (.purge cutoffs batchSize) { world with opened := world.opened ++
        [⟨.purge, purgeIds world.locked cutoffs batchSize world.rows, world.now⟩] }
  | commit {index : Nat} {txn : Txn} (heard : Bool) (found : world.opened[index]? = some txn) :
      Does deployment world (.commit index heard) (world.commit index txn heard)
  | rollback {index : Nat} {txn : Txn} (found : world.opened[index]? = some txn) :
      Does deployment world (.rollback index) (world.rollback index txn)

theorem step_does (stepped : step deployment world event = some world') : Does deployment world event
    world' := by
  cases event with
  | wait time =>
    cases stepped
    exact .wait time
  | emit input eventId =>
    change (if eventId ∈ world.emitted then none else some _) = some world' at stepped
    split_ifs at stepped with drawn
    cases stepped
    exact .emit drawn
  | claim drainer started =>
    change (if started ≤ world.now then some _ else none) = some world' at stepped
    split_ifs at stepped with past
    cases stepped
    exact .claim past
  | finish index outcome date =>
    obtain ⟨hand, found, stepped⟩ := bind_eq_some_iff.1 stepped
    split_ifs at stepped with phase
    split at stepped
    · cases stepped
      exact .chose found phase ‹_›
    · cases stepped
      exact .unmarkable found phase ‹_›
  | mark index started =>
    obtain ⟨hand, found, stepped⟩ := bind_eq_some_iff.1 stepped
    split at stepped
    · rename_i change phase
      split_ifs at stepped with able
      split at stepped
      · cases stepped
        exact .marked found phase able.2
      · cases stepped
        exact .unmarked found phase ‹_›
    · cases stepped
  | lose index =>
    obtain ⟨hand, found, stepped⟩ := bind_eq_some_iff.1 stepped
    cases stepped
    exact .lose found
  | purge cutoffs batchSize =>
    cases stepped
    exact .purge cutoffs batchSize
  | commit index heard =>
    obtain ⟨txn, found, stepped⟩ := bind_eq_some_iff.1 stepped
    cases stepped
    exact .commit heard found
  | rollback index =>
    obtain ⟨txn, found, stepped⟩ := bind_eq_some_iff.1 stepped
    cases stepped
    exact .rollback found

theorem Sound.emit (sound : Sound world) {input : OutboxEmitInput} {eventId : Uuid}
    (new : eventId ∉ world.emitted) : Sound { world with
      rows := world.rows ++ [input.row eventId world.now], emitted := eventId :: world.emitted } := by
  refine { sound with keyed := ?_, rows := ?_, claimed := ?_, hands := ?_, opened := ?_ }
  · rw [map_append]
    refine nodup_append.2 ⟨sound.keyed, nodup_singleton _, ?_⟩
    rintro id mine other theirs rfl
    obtain ⟨row, member, rfl⟩ := mem_map.1 mine
    rw [mem_singleton.1 theirs] at mine
    refine new ?_
    have emitted := (sound.rows row member).emitted
    rw [mem_singleton.1 theirs] at emitted
    exact emitted
  · intro row member
    rcases mem_append.1 member with member | member
    · have counts := sound.rows row member
      exact ⟨counts.sound, mem_cons_of_mem _ counts.emitted, counts.counted⟩
    · rw [mem_singleton.1 member]
      refine ⟨⟨rfl, rfl⟩, mem_cons_self, ?_⟩
      exact (List.count_eq_zero_of_not_mem fun claimed => new (sound.claimed _ claimed)).symm
  · exact fun id member => mem_cons_of_mem _ (sound.claimed id member)
  · intro hand member
    have held := sound.hands hand member
    obtain ⟨row, there, same⟩ := held.row
    exact ⟨⟨row, mem_append_left _ there, same⟩, held.fits, held.free⟩
  · intro txn member
    have opens := sound.opened txn member
    refine ⟨opens.nodup, fun id inside => ?_⟩
    obtain ⟨row, there, same⟩ := opens.ready id inside
    exact ⟨row, mem_append_left _ there, same⟩

theorem Sound.marked (sound : Sound world) {change : Mark} {started : Int}
    (found : world.hands[index]? = some hand) (phase : hand.phase = .marking change)
    (free : world.locked hand.event.eventId = false) : Sound { world with
      opened := world.opened ++ [⟨.mark hand.drainer change, [hand.event.eventId], started⟩]
      hands := world.hands.set index { hand with phase := .sent } } := by
  have mem := mem_of_getElem? found
  have held := sound.hands hand mem
  have put :=
    @Sound.put world sound index hand .sent found (fun _ same => (nomatch same)) fun early => absurd rfl early
  refine put.begin ⟨nodup_singleton _, fun id inside => ?_⟩ (fun id inside => ?_) ?_
  · obtain ⟨row, there, same, claimed, attempts⟩ := held.row
    refine ⟨row, there, same.trans (mem_singleton.1 inside).symm, claimed, ?_⟩
    rw [attempts]
    exact held.fits change phase
  · rw [mem_singleton.1 inside]
    exact free
  · intro other there early inside
    obtain ⟨place, here⟩ := mem_iff_getElem?.1 there
    change (world.hands.set index _)[place]? = some other at here
    have other_ne : place ≠ index := by
      rintro rfl
      rw [getElem?_set_self (getElem?_eq_some_iff.1 found).1] at here
      cases here
      exact early rfl
    rw [List.getElem?_set_ne other_ne.symm] at here
    have bound : place < (world.hands.map fun hand => hand.event.eventId).length := by
      simpa using (getElem?_eq_some_iff.1 here).1
    refine other_ne ((List.getElem?_inj bound sound.once).1 ?_)
    · rw [getElem?_map, getElem?_map, here, found]
      exact congrArg some (mem_singleton.1 inside)

/-- **Every step keeps what holds.** -/
theorem sound_step (sound : Sound world) (stepped : step deployment world event =
    some world') : Sound world' := by
  cases step_does stepped with
  | wait time => exact { sound with
      rows := fun row mem => { sound.rows row mem with }
      hands := fun hand mem => { sound.hands hand mem with }
      opened := fun txn mem => { sound.opened txn mem with } }
  | emit new => exact sound.emit new
  | @claim drainer started past =>
    have opens := sound.claim_opens drainer started (deployment.batchSize drainer)
    refine sound.begin opens (fun id taken => ?_) fun hand mem _ => sound.held_not_ready mem opens
      (.inl ⟨drainer, rfl⟩)
    obtain ⟨-, -, -, -, unlocked⟩ := mem_claimIds taken
    exact unlocked
  | @chose _ hand _ _ change found phase chose =>
    refine sound.put found (fun other same => ?_) fun _ => ?_
    · cases same
      exact chosen_fits chose
    · refine (sound.hands hand (mem_of_getElem? found)).free ?_
      rw [phase]
      exact nofun
  | unmarkable found phase throws => exact sound.drop (eraseIdx_sublist _ _)
  | marked found phase free => exact sound.marked found phase free
  | unmarked found phase throws | lose found => exact sound.drop (eraseIdx_sublist _ _)
  | purge cutoffs batchSize =>
    have opens := sound.purge_opens cutoffs batchSize
    refine sound.begin opens (fun id taken => ?_) fun hand mem _ => sound.held_not_ready mem opens (.inr rfl)
    obtain ⟨-, -, -, -, unlocked⟩ := mem_purgeIds taken
    exact unlocked
  | commit heard found => exact sound.commit found
  | rollback found => exact sound.rollback _ _

theorem Reachable.sound (reach : (outbox deployment).Reachable world) : Sound world :=
  Machine.Reachable.invariant reach Sound.empty fun _ _ _ sound step => sound_step sound step

/-! ### Over whole runs -/

theorem step_rows (stepped : step deployment world event = some world') :
    world'.rows = world.rows ∨ (∃ row, row.eventId ∉ world.emitted ∧ world'.rows = world.rows ++ [row]) ∨
      ∃ index txn heard, world.opened[index]? = some txn ∧ event = .commit index heard ∧
      world'.rows = txn.apply world.rows := by
  cases step_does stepped with
  | @emit input eventId new => exact .inr (.inl ⟨input.row eventId world.now, new, rfl⟩)
  | @commit index txn heard found => exact .inr (.inr ⟨index, txn, heard, found, rfl, rfl⟩)
  | _ => exact .inl rfl

/-- **No step changes a delivered or dead-lettered row, unless it deletes it.** -/
theorem terminal_step (sound : Sound world) (stepped : step deployment world event = some world')
    {row' : OutboxEvent} (member : row ∈ world.rows) (terminal : row.terminal = true)
    (member' : row' ∈ world'.rows) (same : row'.eventId = row.eventId) : row' = row := by
  rcases step_rows stepped with rows | ⟨added, new, rows⟩ | ⟨index, txn, heard, found, -, rows⟩
  · rw [rows] at member'
    exact same_row sound.keyed member' member same
  · rw [rows] at member'
    rcases mem_append.1 member' with member' | member'
    · exact same_row sound.keyed member' member same
    · rw [mem_singleton.1 member'] at same
      exact absurd (sound.rows row member).emitted (same ▸ new)
  · rw [rows] at member'
    rcases Txn.mem_apply.1 member' with ⟨member', -⟩ | ⟨before, there, inside, changed⟩
    · exact same_row sound.keyed member' member same
    · have id := Work.change_eventId changed
      obtain rfl := same_row sound.keyed there member (id.symm.trans same)
      obtain ⟨other, there', same', ready⟩ := (sound.opened txn (mem_of_getElem? found)).ready _ inside
      obtain rfl := same_row sound.keyed there there' same'.symm
      have work_ne : txn.work ≠ .purge := by
        intro work
        rw [work] at changed
        cases changed
      rw [ready.not_terminal work_ne] at terminal
      cases terminal

theorem absent_step (stepped : step deployment world event = some world') (emitted : id ∈ world.emitted)
    (absent : ∀ row ∈ world.rows, row.eventId ≠ id) :
    id ∈ world'.emitted ∧ ∀ row ∈ world'.rows, row.eventId ≠ id := by
  refine ⟨?_, fun row member => ?_⟩
  · cases step_does stepped with
    | emit new => exact mem_cons_of_mem _ emitted
    | _ => exact emitted
  · rcases step_rows stepped with rows | ⟨added, new, rows⟩ | ⟨index, txn, heard, found, -, rows⟩
    · exact absent row (rows ▸ member)
    · rw [rows] at member
      rcases mem_append.1 member with member | member
      · exact absent row member
      · rintro rfl
        rw [mem_singleton.1 member] at emitted
        exact new emitted
    · rw [rows] at member
      rcases Txn.mem_apply.1 member with ⟨member, -⟩ | ⟨before, there, -, changed⟩
      · exact absent row member
      · rw [Work.change_eventId changed]
        exact absent before there

/-- **A delivered or dead-lettered row stays as it is, or is deleted for good.** -/
theorem terminal_later (sound : Sound world) {later : World} (reaches : (outbox deployment).Later world later)
    (mem : row ∈ world.rows) (terminal : row.terminal = true) :
    ∀ row' ∈ later.rows, row'.eventId = row.eventId → row' = row := by
  have onward :=
    @Machine.Reaches.invariant World Event (outbox deployment) _ world later (fun later => Sound later ∧
          row.eventId ∈ later.emitted ∧ (row ∈ later.rows ∨ ∀ row' ∈ later.rows, row'.eventId ≠ row.eventId))
      reaches ⟨sound, (sound.rows row mem).emitted, .inl mem⟩ ?_
  · intro row' member' same
    rcases onward.2.2 with here | absent
    · exact same_row onward.1.keyed member' here same
    · exact absurd same (absent row' member')
  · rintro world event world' ⟨sound, emitted, here⟩ - step
    have emitted' : row.eventId ∈ world'.emitted := by
      cases step_does step with
      | emit new => exact mem_cons_of_mem _ emitted
      | _ => exact emitted
    refine ⟨sound_step sound step, emitted', ?_⟩
    rcases here with here | absent
    · by_cases gone : ∃ row' ∈ world'.rows, row'.eventId = row.eventId
      · obtain ⟨row', member', same⟩ := gone
        rw [← terminal_step sound step here terminal member' same]
        exact .inl member'
      · exact .inr fun row' member' same => gone ⟨row', member', same⟩
    · exact .inr (absent_step step emitted absent).2

/-- In how many hands the row is: calls of `processRow`, and claims that are not committed yet. -/
def World.holders (world : World) (id : Uuid) : Nat :=
  (world.hands.countP fun hand => hand.event.eventId = id) +
    world.opened.countP fun txn => (match txn.work with | .claim _ => true | _ => false) &&
      decide (id ∈ txn.ids)

theorem countP_le_one {α : Type} {holds : α → Bool} {list : List α}
    (apart : list.Pairwise fun first second => ¬ (holds first = true ∧ holds second = true)) :
    list.countP holds ≤ 1 := by
  induction apart with
  | nil => exact Nat.zero_le 1
  | @cons first rest others _ ih =>
    cases here : holds first with
    | false => simpa [List.countP_cons, here] using ih
    | true =>
      have none : rest.countP holds = 0 :=
        countP_eq_zero.2 fun other mem there => others other mem ⟨here, there⟩
      simp [here, none]

/-- **No row is in two hands.** -/
theorem Sound.holders_le (sound : Sound world) (id : Uuid) : world.holders id ≤ 1 := by
  have hands : (world.hands.countP fun hand => hand.event.eventId = id) ≤ 1 := by
    refine countP_le_one ((pairwise_map.1 sound.once).imp fun {first second} other => ?_)
    rintro ⟨here, there⟩
    exact other ((of_decide_eq_true here).trans (of_decide_eq_true there).symm)
  have claims : (world.opened.countP fun txn => (match txn.work with
      | .claim _ => true | _ => false) && decide (id ∈ txn.ids)) ≤ 1 := by
    refine countP_le_one (sound.apart.imp fun {first second} disjoint => ?_)
    rintro ⟨here, there⟩
    rw [and_eq_true] at here there
    exact disjoint (of_decide_eq_true here.2) (of_decide_eq_true there.2)
  unfold World.holders
  by_cases held : ∃ hand ∈ world.hands, hand.event.eventId = id
  · obtain ⟨hand, mem, rfl⟩ := held
    have none : (world.opened.countP fun txn => (match txn.work with
        | .claim _ => true | _ => false) && decide (hand.event.eventId ∈ txn.ids)) = 0 := by
      refine countP_eq_zero.2 fun txn there => ?_
      rw [and_eq_true]
      rintro ⟨work, inside⟩
      refine sound.held_not_ready mem (sound.opened txn there) ?_ (of_decide_eq_true inside)
      cases of : txn.work with
      | claim drainer => exact .inl ⟨drainer, rfl⟩
      | mark drainer change | purge => simp [of] at work
    omega
  · have none : (world.hands.countP fun hand => hand.event.eventId = id) = 0 :=
      countP_eq_zero.2 fun hand mem same => held ⟨hand, mem, of_decide_eq_true same⟩
    omega

/-- **What holds of the outbox in every reachable world, for any number of drainers and retention
sweeps in any order.** -/
theorem outbox_sound (reachable : (outbox deployment).Reachable world) :
    (∀ row ∈ world.rows, row.attempts = world.claims.count row.eventId ∧ row.attempts ≤ MAX_ATTEMPTS ∧
        (row.deliveryState = .deadLettered → row.attempts = MAX_ATTEMPTS) ∧
        (row.processedAt.isSome ↔ row.deliveryState = .delivered ∨ row.deliveryState = .deadLettered)) ∧
      (∀ id, world.holders id ≤ 1) ∧
      ∀ later, (outbox deployment).Later world later →
      ∀ row ∈ world.rows, row.deliveryState = .delivered ∨ row.deliveryState = .deadLettered →
      ∀ row' ∈ later.rows, row'.eventId = row.eventId → row' = row := by
  have sound := Reachable.sound reachable
  have terminal_iff : ∀ row : OutboxEvent, row.terminal = true ↔
      row.deliveryState = .delivered ∨ row.deliveryState = .deadLettered := by
    intro row
    simp [OutboxEvent.terminal]
  refine ⟨fun row mem => ?_, sound.holders_le, fun later reaches row mem terminal => ?_⟩
  · have counts := sound.rows row mem
    refine ⟨counts.counted, counts.sound.attempts_le, counts.sound.deadLettered, ?_⟩
    rw [counts.sound.processed_iff, terminal_iff]
  · exact terminal_later sound reaches mem ((terminal_iff row).2 terminal)

end Sound

/-! ### A delivery -/

def Deployment.sample : Deployment := ⟨workerRegistry, fun _ => 50, fun _ => by decide⟩

def OutboxEmitInput.sample (eventType : String) : OutboxEmitInput :=
  ⟨eventType, .sample 1, some (.sample 2), "\x7b\x7d", none, none⟩

def deliverySteps : List Event :=
  [.emit (.sample "sale.captured") (.sample 0), .claim 0 0, .commit 0 true, .finish 0 .returned 0,
    .mark 0 0, .commit 0 true]

theorem outbox_sound_sample :
    ∃ world row, (outbox .sample).run .empty deliverySteps = some world ∧ row ∈ world.rows ∧
      row.deliveryState = .delivered ∧ row.attempts = world.claims.count row.eventId ∧
      row.processedAt.isSome ∧ world.holders row.eventId ≤ 1 := by
  have delivered : ((outbox .sample).run .empty deliverySteps).any fun world =>
      world.rows.any fun row => row.deliveryState = .delivered := by decide +kernel
  obtain ⟨world, ran, some⟩ := (any_eq_true _ _).1 delivered
  obtain ⟨row, mem, state⟩ := List.any_eq_true.1 some
  have state : row.deliveryState = .delivered := by simpa using state
  obtain ⟨rows, holders, -⟩ := outbox_sound (Machine.run_later ran)
  obtain ⟨counted, -, -, processed⟩ := rows row mem
  exact ⟨world, row, ran, mem, state, counted, processed.2 (.inl state), holders _⟩

end DataPulse.Outbox
