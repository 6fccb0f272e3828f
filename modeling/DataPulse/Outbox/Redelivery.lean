/-
**Which events can still be claimed.**

An event that is neither delivered nor dead-lettered has to be claimed again some time, or the drainer
that holds it has to end its last attempt. The claim takes `pending` and `failed` rows only, so a row
that is `claimed` when its drainer is gone stays as it is (`Stranded`, `stranded_later`).

* `kept_recoverable`: in a run of such steps the event is never stranded.
-/

import DataPulse.Outbox.Runs

namespace DataPulse.Outbox

open Lib Platform

variable {deployment : Deployment} {world world' : World} {row : OutboxEvent}
variable {index drainer : Nat} {hand : Hand} {id : Uuid} {txn : Txn} {event : Event}
variable {change : Mark} {outcome : Outcome} {α : Type}

/-! ### Going on -/

/-- Some later tick claims the event: its claim commits and its drainer hears of it. -/
def CanBeClaimed (deployment : Deployment) (world : World) (id : Uuid) : Prop :=
  ∃ before after index txn drainer, (outbox deployment).Later world before ∧
    before.opened[index]? = some txn ∧ txn.work = .claim drainer ∧ id ∈ txn.ids ∧
    step deployment before (.commit index true) = some after

/-- The event can be delivered or dead-lettered by the mark of its last attempt. -/
def CanBeSettled (deployment : Deployment) (world : World) (id : Uuid) : Prop :=
  ∃ later, (outbox deployment).Later world later ∧
    ∃ row ∈ later.rows, row.eventId = id ∧ row.terminal = true

theorem CanBeClaimed.of_later (later : (outbox deployment).Later world world')
    (can : CanBeClaimed deployment world' id) : CanBeClaimed deployment world id := by
  obtain ⟨before, after, index, txn, drainer, onward, rest⟩ := can
  exact ⟨before, after, index, txn, drainer, later.trans onward, rest⟩

theorem CanBeSettled.of_later (later : (outbox deployment).Later world world')
    (can : CanBeSettled deployment world' id) : CanBeSettled deployment world id := by
  obtain ⟨last, onward, rest⟩ := can
  exact ⟨last, later.trans onward, rest⟩

/-- The event is claimed once more, or its last attempt ends. -/
def Recoverable (deployment : Deployment) (world : World) (id : Uuid) : Prop :=
  CanBeClaimed deployment world id ∨ CanBeSettled deployment world id

/-- What comes of the mark: after a failure the event is claimed once more. -/
def Mark.Leads (deployment : Deployment) (world : World) (id : Uuid) : Mark → Prop
  | failed .. => CanBeClaimed deployment world id
  | _ => CanBeSettled deployment world id

theorem Mark.Leads.of_later (later : (outbox deployment).Later world world')
    (leads : change.Leads deployment world' id) : change.Leads deployment world id := by
  cases change with
  | delivered => exact CanBeSettled.of_later later leads
  | failed errorClass nextAttemptAt => exact CanBeClaimed.of_later later leads
  | deadLettered errorClass => exact CanBeSettled.of_later later leads

theorem Mark.Leads.recoverable (leads : change.Leads deployment world id) : Recoverable deployment world id := by
  cases change with
  | delivered => exact .inr leads
  | failed errorClass nextAttemptAt => exact .inl leads
  | deadLettered errorClass => exact .inr leads

theorem later_of_step (stepped : step deployment world event = some world') : (outbox deployment).Later world
    world' :=
  @Machine.Later.step _ _ (outbox deployment) _ _ _ stepped

variable (found : world.opened[index]? = some txn)
include found

theorem commit_step (heard : Bool) :
    step deployment world (.commit index heard) = some (world.commit index txn heard) := by
  show (world.opened[index]?).bind _ = _
  rw [found]
  rfl

theorem commit_later (heard : Bool) : (outbox deployment).Later world (world.commit index txn heard) :=
  later_of_step (commit_step found heard)

theorem rollback_later : (outbox deployment).Later world (world.rollback index txn) := by
  refine @later_of_step deployment _ _ (.rollback index) ?_
  show (world.opened[index]?).bind _ = _
  rw [found]
  rfl

theorem canBeClaimed_of_opened (work : txn.work = .claim drainer) (inside : id ∈ txn.ids) :
    CanBeClaimed deployment world id :=
  ⟨world, _, index, txn, drainer, Machine.Later.refl _, found, work, inside, commit_step found true⟩

omit found

/-! ### Ticks -/

def World.tick (deployment : Deployment) (world : World) (drainer : Nat) : Txn :=
  ⟨.claim drainer, claimIds world.locked world.now (deployment.batchSize drainer) world.rows,
    world.now⟩

theorem claim_later (world : World) (drainer : Nat) :
    (outbox deployment).Later world
      { world with opened := world.opened ++ [world.tick deployment drainer] } :=
  @later_of_step deployment _ _ (.claim drainer world.now) (if_pos le_rfl)

theorem getElem?_last (list : List α) (item : α) : (list ++ [item])[list.length]? = some item := by
  rw [List.getElem?_append_right le_rfl, Nat.sub_self]
  rfl

theorem eraseIdx_last (list : List α) (item : α) : (list ++ [item]).eraseIdx list.length = list := by
  rw [List.eraseIdx_append_of_length_le le_rfl, Nat.sub_self, List.eraseIdx_cons_zero, append_nil]

theorem tick_later (world : World) (drainer : Nat) :
    ∃ world', (outbox deployment).Later world world' ∧ world'.now = world.now ∧ world'.opened = world.opened ∧
      world'.rows = (world.tick deployment drainer).apply world.rows :=
  ⟨_, (claim_later world drainer).trans (commit_later (getElem?_last _ _) true), rfl, eraseIdx_last _ _, rfl⟩

theorem countP_lt_countP {fewer more : α → Bool} {list : List α}
    (within : ∀ item ∈ list, fewer item = true → more item = true) {item : α} (mem : item ∈ list)
    (here : more item = true) (gone : fewer item = false) : list.countP fewer < list.countP more := by
  have inner : list.filter fewer = (list.filter more).filter fewer := by
    rw [filter_filter]
    refine filter_congr fun other inside => ?_
    cases less : fewer other with
    | false => rfl
    | true => rw [within other inside less]; rfl
  rw [countP_eq_length_filter, countP_eq_length_filter, inner]
  refine List.length_filter_lt_length_iff_exists.2 ⟨item, mem_filter.2 ⟨mem, here⟩, ?_⟩
  rw [gone]
  exact false_ne_true

theorem candidates_length (locked : Uuid → Bool) (now : Int) (rows : List OutboxEvent) :
    (candidates locked now rows).length =
      rows.countP fun row => row.claimable now && !locked row.eventId := by
  unfold candidates
  rw [List.length_insertionSort, countP_eq_length_filter]

/-- **While a row is claimable, every tick leaves fewer candidates.** -/
theorem candidates_shorter (waiting : row ∈ world.rows) (claimable : row.claimable world.now = true)
    (free : world.locked row.eventId = false) :
    (candidates world.locked world.now ((world.tick deployment drainer).apply world.rows)).length <
      (candidates world.locked world.now world.rows).length := by
  set ids := (world.tick deployment drainer).ids with taken
  have claims : (world.tick deployment drainer).apply world.rows = claimRows ids world.now world.rows := by
    unfold Txn.apply claimRows
    rw [← List.filterMap_eq_map]
    refine filterMap_congr fun other _ => ?_
    show (if other.eventId ∈ ids then some (other.claim world.now) else some other) =
      some (if other.eventId ∈ ids then other.claim world.now else other)
    split_ifs <;> rfl
  -- the row is a candidate, so at least one candidate was taken
  have waits : row ∈ candidates world.locked world.now world.rows :=
    mem_candidates.2 ⟨waiting, claimable, free⟩
  obtain ⟨first, rest, order⟩ := exists_cons_of_ne_nil (ne_nil_of_mem waits)
  have inside : first.eventId ∈ ids := by
    rw [taken]
    show first.eventId ∈ claimIds world.locked world.now (deployment.batchSize drainer) world.rows
    unfold claimIds
    rw [order]
    obtain ⟨size, positive⟩ := Nat.exists_eq_succ_of_ne_zero (deployment.positive drainer).ne'
    rw [positive, take_succ_cons, map_cons]
    exact mem_cons_self
  obtain ⟨there, fits, unlocked⟩ := mem_candidates.1 (order ▸ mem_cons_self :
    first ∈ candidates world.locked world.now world.rows)
  rw [candidates_length, candidates_length, claims]
  unfold claimRows
  rw [countP_map]
  refine countP_lt_countP (fun other _ fits => ?_) there (by rw [fits, unlocked]; rfl) ?_
  · by_cases claimed : other.eventId ∈ ids
    · simp [claimed, OutboxEvent.claimable, OutboxEvent.claim] at fits
    · simpa [claimed] using fits
  · simp [inside, OutboxEvent.claimable, OutboxEvent.claim]

/-- **Ticks reach every claimable row**: the induction is on the number of candidates. -/
theorem claimable_reached (count : Nat) (world : World)
    (bound : (candidates world.locked world.now world.rows).length ≤ count) (waiting : row ∈ world.rows)
    (claimable : row.claimable world.now = true) (free : world.locked row.eventId = false) :
    CanBeClaimed deployment world row.eventId := by
  induction count generalizing world with
  | zero =>
    have waits := mem_candidates.2 ⟨waiting, claimable, free⟩
    rw [List.eq_nil_of_length_eq_zero (Nat.le_zero.1 bound)] at waits
    cases waits
  | succ count ih =>
    by_cases taken : row.eventId ∈ (world.tick deployment 0).ids
    · refine CanBeClaimed.of_later (claim_later world 0) ?_
      exact canBeClaimed_of_opened (getElem?_last _ _) rfl taken
    · obtain ⟨world', later, now, opened, rows⟩ := @tick_later deployment world 0
      have locked : world'.locked = world.locked := by
        unfold World.locked
        rw [opened]
      refine CanBeClaimed.of_later later (ih world' ?_ ?_ (now ▸ claimable) (locked ▸ free))
      · have shorter := @candidates_shorter deployment world row 0 waiting claimable free
        rw [now, locked, rows]
        omega
      · rw [rows]
        exact (Txn.mem_apply_of_not_mem taken).2 waiting

/-! ### Rows that can go on -/

theorem unlocked_claimable (waiting : row ∈ world.rows)
    (state : row.deliveryState = .pending ∨ row.deliveryState = .failed)
    (free : world.locked row.eventId = false) : CanBeClaimed deployment world row.eventId := by
  have waited : ∀ time : Nat, (outbox deployment).Later world { world with now := world.now + time } :=
    fun time =>
    @later_of_step deployment _ _ (.wait time) rfl
  refine CanBeClaimed.of_later (waited ((row.nextAttemptAt.getD world.now) - world.now).toNat) ?_
  refine claimable_reached _ _ le_rfl waiting (OutboxEvent.claimable_iff.2 ⟨state, ?_⟩) free
  intro next due
  show next ≤ world.now + _
  rw [due, getD_some]
  have enough := Int.self_le_toNat (next - world.now)
  omega

/-- **A pending or failed row can be claimed.** -/
theorem waiting_claimable (sound : Sound world) (waiting : row ∈ world.rows)
    (state : row.deliveryState = .pending ∨ row.deliveryState = .failed) :
    CanBeClaimed deployment world row.eventId := by
  cases locked : world.locked row.eventId with
  | false => exact unlocked_claimable waiting state locked
  | true =>
    obtain ⟨txn, mem, inside⟩ := World.locked_iff.1 locked
    obtain ⟨index, found⟩ := mem_iff_getElem?.1 mem
    obtain ⟨other, there, same, ready⟩ := (sound.opened txn mem).ready _ inside
    obtain rfl := same_row sound.keyed there waiting same
    cases work : txn.work with
    | claim drainer => exact canBeClaimed_of_opened found work inside
    | mark drainer change =>
      rw [work] at ready
      rcases state with state | state <;> rw [ready.1] at state <;> cases state
    | purge =>
      refine CanBeClaimed.of_later (rollback_later found) ?_
      exact @unlocked_claimable deployment (world.rollback index txn) _ waiting state
        (World.locked_false.2 (sound.unlocked found inside))

theorem Sound.marks (sound : Sound world) (mem : txn ∈ world.opened) (waiting : row ∈ world.rows)
    (inside : row.eventId ∈ txn.ids) (claimed : row.deliveryState = .claimed) :
    ∃ drainer change, txn.work = .mark drainer change := by
  obtain ⟨other, there, same, ready⟩ := (sound.opened txn mem).ready _ inside
  obtain rfl := same_row sound.keyed there waiting same
  cases work : txn.work with
  | mark drainer change => exact ⟨drainer, change, rfl⟩
  | claim drainer =>
    rw [work] at ready
    rcases ready with state | state <;> rw [state] at claimed <;> cases claimed
  | purge =>
    rw [work] at ready
    rcases ready with state | state
    · rw [state] at claimed
      cases claimed
    · simp [OutboxEvent.terminal, claimed] at state

/-- **A mark that is about to commit leads on.** -/
theorem marked_leads (sound : Sound world) {txn : Txn} {drainer : Nat} {change : Mark}
    (mem : txn ∈ world.opened) (waiting : row ∈ world.rows) (inside : row.eventId ∈ txn.ids)
    (work : txn.work = .mark drainer change) : change.Leads deployment world row.eventId := by
  obtain ⟨index, found⟩ := mem_iff_getElem?.1 mem
  have later := @commit_later deployment world index txn found true
  have sound' : Sound (world.commit index txn true) := sound.commit found
  have marked : change.apply txn.now row ∈ (world.commit index txn true).rows :=
    Txn.mem_apply.2 (.inr ⟨row, waiting, inside, by rw [work]; rfl⟩)
  cases change with
  | delivered | deadLettered errorClass => exact ⟨_, later, _, marked, rfl, rfl⟩
  | failed errorClass nextAttemptAt =>
    have again := @waiting_claimable deployment _
      (Mark.apply txn.now row (.failed errorClass nextAttemptAt)) sound' marked (.inr rfl)
    exact CanBeClaimed.of_later later again

def World.CanMark (deployment : Deployment) (hand : Hand) : Prop :=
  (∃ change, hand.phase = .marking change) ∨ (hand.phase = .handling ∧
    ((deployment.registry.resolve hand.event.eventType).isSome ∨
      hand.event.attempts < MAX_ATTEMPTS))

theorem finish_step {date : Int} (found : world.hands[index]? = some hand) (phase : hand.phase = .handling)
    (chose : chosen deployment.registry outcome date hand.event = .ok change) :
    step deployment world (.finish index outcome date) =
      some { world with hands := world.hands.set index { hand with phase := .marking change } } := by
  show (world.hands[index]?).bind _ = _
  rw [found]
  show (if hand.phase = .handling then _ else none) = _
  rw [if_pos phase, chose]

theorem mark_step (sound : Sound world) {index : Nat} {hand : Hand} {change : Mark}
    (found : world.hands[index]? = some hand) (phase : hand.phase = .marking change) :
    step deployment world (.mark index world.now) = some { world with
      opened := world.opened ++ [⟨.mark hand.drainer change, [hand.event.eventId], world.now⟩]
      hands := world.hands.set index { hand with phase := .sent } } := by
  have held := sound.hands hand (mem_of_getElem? found)
  obtain ⟨row, there, same, claimed, -⟩ := held.row
  have free : world.locked hand.event.eventId = false := by
    refine held.free ?_
    rw [phase]
    exact nofun
  show (world.hands[index]?).bind _ = _
  rw [found, bind_some, phase]
  show (if _ then _ else none) = _
  rw [if_pos ⟨le_rfl, free⟩, ← same, mark_claimed sound.keyed there claimed]

theorem marking_leads (sound : Sound world) (found : world.hands[index]? = some hand)
    (phase : hand.phase = .marking change) (waiting : row ∈ world.rows)
    (same : row.eventId = hand.event.eventId) : change.Leads deployment world row.eventId := by
  have step := @mark_step deployment world sound index hand change found phase
  refine Mark.Leads.of_later (later_of_step step) ?_
  exact marked_leads (sound_step sound step) (mem_append_right _
    (mem_singleton_self _)) waiting (same ▸ mem_singleton_self _) rfl

theorem getElem?_set_found {hand' : Hand} (found : world.hands[index]? = some hand) :
    (world.hands.set index hand')[index]? = some hand' :=
  getElem?_set_self (getElem?_eq_some_iff.1 found).1

/-- **A call whose consumer ends leads on through the mark it chooses.** -/
theorem handling_leads (sound : Sound world) {date : Int} (mem : hand ∈ world.hands)
    (phase : hand.phase = .handling) (chose : chosen deployment.registry outcome date hand.event = .ok change)
    (waiting : row ∈ world.rows) (same : row.eventId = hand.event.eventId) :
    change.Leads deployment world row.eventId := by
  obtain ⟨index, found⟩ := mem_iff_getElem?.1 mem
  have step := finish_step found phase chose
  refine Mark.Leads.of_later (later_of_step step) ?_
  exact marking_leads (sound_step sound step) (getElem?_set_found found) rfl waiting same

/-- **A call that can mark its row leads on**: to another claim, unless it is the last attempt or the
mark ends the event. -/
theorem held_leads (sound : Sound world) (mem : hand ∈ world.hands) (able : World.CanMark deployment hand)
    (waiting : row ∈ world.rows) (same : row.eventId = hand.event.eventId) :
    ∃ change : Mark, change.Leads deployment world row.eventId ∧
      (hand.phase = .marking change ∨
        (hand.phase = .handling ∧
          (hand.event.attempts < MAX_ATTEMPTS →
            ∃ errorClass nextAttemptAt, change = .failed errorClass nextAttemptAt))) := by
  rcases able with ⟨change, phase⟩ | ⟨phase, budget⟩
  · obtain ⟨index, found⟩ := mem_iff_getElem?.1 mem
    exact ⟨change, marking_leads sound found phase waiting same, .inl phase⟩
  · obtain ⟨change, chose⟩ := (@chosen_ok_iff deployment.registry (.threw .other) 0 hand.event).2 budget
    refine ⟨change, handling_leads sound mem phase chose waiting same, .inr ⟨phase, ?_⟩⟩
    intro left
    unfold chosen at chose
    have failed : ∀ errorClass, failedMark hand.event.eventId hand.event.attempts errorClass 0 =
        .ok change → ∃ errorClass nextAttemptAt, change = .failed errorClass nextAttemptAt := by
      intro errorClass made
      unfold failedMark at made
      rw [if_neg (Nat.not_le.2 left)] at made
      cases made
      exact ⟨_, _, rfl⟩
    split at chose
    · exact failed _ chose
    · change (if MAX_ATTEMPTS ≤ hand.event.attempts then _ else _) = _ at chose
      rw [if_neg (Nat.not_le.2 left)] at chose
      exact failed _ chose

/-! ### Rows that are stranded -/

/-- The row is claimed, and nothing that happens will mark it: no transaction has locked it, and a
call that holds it can only throw. -/
structure Stranded (deployment : Deployment) (world : World) (row : OutboxEvent) : Prop where
  member : row ∈ world.rows
  claimed : row.deliveryState = .claimed
  free : world.locked row.eventId = false
  unmarkable : ∀ hand ∈ world.hands, hand.event.eventId = row.eventId →
    hand.phase = .sent ∨ (hand.phase = .handling ∧
      deployment.registry.resolve hand.event.eventType = none ∧ MAX_ATTEMPTS ≤ hand.event.attempts)

theorem Stranded.not_marking (stranded : Stranded deployment world row) (mem : hand ∈ world.hands)
    (same : hand.event.eventId = row.eventId) : ¬ World.CanMark deployment hand := by
  rintro (⟨change, phase⟩ | ⟨phase, budget⟩)
  · rcases stranded.unmarkable hand mem same with early | ⟨early, -⟩ <;>
      rw [phase] at early <;> cases early
  · rcases stranded.unmarkable hand mem same with early | ⟨-, unroutable, exhausted⟩
    · rw [phase] at early
      cases early
    · rw [unroutable] at budget
      rcases budget with routable | left
      · cases routable
      · omega

/-- **A stranded row stays stranded.** -/
theorem stranded_step (sound : Sound world) (stranded : Stranded deployment world row)
    (stepped : step deployment world event = some world') : Stranded deployment world' row := by
  have unlocked := World.locked_false.1 stranded.free
  -- a claim or a purge takes other rows
  have beside : ∀ ids : List Uuid, (∀ id ∈ ids, ∃ other ∈ world.rows, other.eventId = id ∧
      other.deliveryState ≠ .claimed) → row.eventId ∉ ids := by
    intro ids others inside
    obtain ⟨other, there, same, state⟩ := others _ inside
    obtain rfl := same_row sound.keyed there stranded.member same
    exact state stranded.claimed
  have opening : ∀ txn : Txn, row.eventId ∉ txn.ids →
      ({ world with opened := world.opened ++ [txn] } : World).locked row.eventId = false := by
    intro txn outside
    refine World.locked_false.2 fun other inside => ?_
    rcases mem_append.1 inside with inside | inside
    · exact unlocked other inside
    · rw [mem_singleton.1 inside]
      exact outside
  have dropping : ∀ index, Stranded deployment { world with hands := world.hands.eraseIdx index } row := by
    intro index
    refine { stranded with unmarkable := fun other inside => ?_ }
    exact stranded.unmarkable other (mem_of_mem_eraseIdx inside)
  cases step_does stepped with
  | wait time => exact { stranded with }
  | emit new => exact { stranded with member := mem_append_left _ stranded.member }
  | claim past =>
    refine { stranded with free := opening _ (beside _ fun id taken => ?_) }
    obtain ⟨other, there, same, claimable, -⟩ := mem_claimIds taken
    refine ⟨other, there, same, fun claimed => ?_⟩
    rcases (OutboxEvent.claimable_iff.1 claimable).1 with state | state <;>
      rw [state] at claimed <;> cases claimed
  | chose found phase chose =>
    refine { stranded with unmarkable := fun other inside same => ?_ }
    rcases mem_or_eq_of_mem_set inside with inside | rfl
    · exact stranded.unmarkable other inside same
    · refine absurd (.inr ⟨phase, ?_⟩) (stranded.not_marking (mem_of_getElem? found) same)
      exact chosen_ok_iff.1 ⟨_, chose⟩
  | marked found phase free =>
    have inside := mem_of_getElem? found
    refine { stranded with free := opening _ fun taken => ?_, unmarkable := ?_ }
    · exact stranded.not_marking inside (mem_singleton.1 taken).symm (.inl ⟨_, phase⟩)
    · intro other there same
      rcases mem_or_eq_of_mem_set there with there | rfl
      · exact stranded.unmarkable other there same
      · exact .inl rfl
  | unmarkable found phase throws | unmarked found phase throws | lose found => exact dropping _
  | purge cutoffs batchSize =>
    refine { stranded with free := opening _ (beside _ fun id taken => ?_) }
    obtain ⟨other, there, same, purgeable, -⟩ := mem_purgeIds taken
    refine ⟨other, there, same, fun claimed => ?_⟩
    rcases OutboxEvent.purgeable_state purgeable with state | state
    · rw [state] at claimed
      cases claimed
    · simp [OutboxEvent.terminal, claimed] at state
  | @commit index txn heard found =>
    have outside := unlocked txn (mem_of_getElem? found)
    refine ⟨(Txn.mem_apply_of_not_mem outside).2 stranded.member, stranded.claimed, ?_, ?_⟩
    · exact World.locked_false.2 fun other inside => unlocked other (mem_of_mem_eraseIdx inside)
    · intro hand inside same
      change hand ∈ world.handsAfter txn heard at inside
      unfold World.handsAfter at inside
      split at inside
      · split_ifs at inside
        · rcases mem_append.1 inside with inside | inside
          · exact stranded.unmarkable hand inside same
          · obtain ⟨event, claimed, rfl⟩ := mem_map.1 inside
            exact absurd (same ▸ mem_claimedEvents claimed) outside
        · exact stranded.unmarkable hand inside same
      · exact stranded.unmarkable hand (mem_of_mem_filter inside) same
      · exact stranded.unmarkable hand inside same
  | @rollback index txn found =>
    refine { stranded with free := ?_, unmarkable := fun hand inside => ?_ }
    · exact World.locked_false.2 fun other inside => unlocked other (mem_of_mem_eraseIdx inside)
    · refine stranded.unmarkable hand ?_
      unfold World.rollback at inside
      cases work : txn.work with
      | mark drainer change =>
        rw [work] at inside
        exact mem_of_mem_filter inside
      | claim drainer | purge =>
        rw [work] at inside
        exact inside

theorem stranded_later (sound : Sound world) (stranded : Stranded deployment world row) {later : World}
    (reaches : (outbox deployment).Later world later) : Sound later ∧ Stranded deployment later row :=
  @Machine.Reaches.invariant World Event (outbox deployment) _ world later
    (fun later => Sound later ∧ Stranded deployment later row) reaches ⟨sound, stranded⟩
    fun _ _ _ before _ step => ⟨sound_step before.1 step, stranded_step before.1 before.2 step⟩

/-- **A row that is not delivered and not dead-lettered can go on if and only if it is not
stranded.** -/
theorem recoverable_iff (sound : Sound world) (mem : row ∈ world.rows) (live : row.terminal = false) :
    Recoverable deployment world row.eventId ↔ ¬ Stranded deployment world row := by
  constructor
  · rintro can stranded
    rcases can with ⟨before, -, index, txn, drainer, later, found, -, inside, -⟩ |
      ⟨later, reaches, other, there, same, terminal⟩
    · obtain ⟨-, stranded⟩ := stranded_later sound stranded later
      exact World.locked_false.1 stranded.free txn (mem_of_getElem? found) inside
    · obtain ⟨sound, stranded⟩ := stranded_later sound stranded reaches
      obtain rfl := same_row sound.keyed there stranded.member same
      rw [terminal] at live
      cases live
  · intro free
    by_cases claimed : row.deliveryState = .claimed
    · by_cases locked : world.locked row.eventId = true
      · obtain ⟨txn, there, inside⟩ := World.locked_iff.1 locked
        obtain ⟨drainer, change, work⟩ := sound.marks there mem inside claimed
        exact (marked_leads sound there mem inside work).recoverable
      · by_cases able : ∃ hand ∈ world.hands, hand.event.eventId = row.eventId ∧ World.CanMark deployment hand
        · obtain ⟨hand, there, same, able⟩ := able
          obtain ⟨change, leads, -⟩ := held_leads sound there able mem same.symm
          exact leads.recoverable
        · refine absurd ⟨mem, claimed, Bool.eq_false_of_not_eq_true locked, ?_⟩ free
          intro hand there same
          have unable : ¬ World.CanMark deployment hand := fun can => able ⟨hand, there, same, can⟩
          unfold World.CanMark at unable
          cases phase : hand.phase with
          | sent => exact .inl rfl
          | marking change => exact absurd (.inl ⟨change, phase⟩) unable
          | handling =>
            refine .inr ⟨rfl, ?_, ?_⟩
            · by_contra routable
              exact unable (.inr ⟨phase, .inl (isSome_iff_ne_none.2 routable)⟩)
            · by_contra left
              exact unable (.inr ⟨phase, .inr (Nat.not_le.1 left)⟩)
    · refine .inl (waiting_claimable sound mem ?_)
      unfold OutboxEvent.terminal at live
      cases state : row.deliveryState <;> simp [state] at live claimed ⊢

/-! ### Runs that keep an event -/

/-- The commit of this work keeps the event whose row it changes: its drainer hears of the claim, and
somebody handles the event or this is not its last attempt; or the row was to be deleted. -/
def Work.Keeps (deployment : Deployment) (world : World) (id : Uuid) (heard : Bool) : Work → Prop
  | claim _ => heard = true ∧ ∀ row ∈ world.rows, row.eventId = id →
      (deployment.registry.resolve row.eventType).isSome ∨ row.attempts + 1 < MAX_ATTEMPTS
  | mark .. => True
  | purge => ∀ row ∈ world.rows, row.eventId = id → row.terminal = true

def Work.isMark : Work → Bool
  | mark .. => true
  | _ => false

/-- The step does not lose the event: its drainer stays alive, hears of its claim and makes its mark,
it is not claimed for its last attempt when nobody handles it, and its row is deleted only when it is
delivered or dead-lettered. -/
def Kept (deployment : Deployment) (id : Uuid) (world : World) : Event → Prop
  | .lose index => ∀ hand ∈ world.hands[index]?, hand.event.eventId ≠ id
  | .commit index heard => ∀ txn ∈ world.opened[index]?, id ∈ txn.ids →
      txn.work.Keeps deployment world id heard
  | .rollback index => ∀ txn ∈ world.opened[index]?, id ∈ txn.ids → txn.work.isMark = false
  | _ => True

instance (deployment : Deployment) (world : World) (id : Uuid) (heard : Bool) :
    (work : Work) → Decidable (work.Keeps deployment world id heard)
  | .claim _ => inferInstanceAs (Decidable (_ ∧ _))
  | .mark .. => .isTrue trivial
  | .purge => inferInstanceAs (Decidable (∀ row ∈ world.rows, _))

instance (deployment : Deployment) (id : Uuid) (world : World) :
    (event : Event) → Decidable (Kept deployment id world event)
  | .lose index => inferInstanceAs (Decidable (∀ hand ∈ world.hands[index]?, _))
  | .commit index _ => inferInstanceAs (Decidable (∀ txn ∈ world.opened[index]?, _))
  | .rollback index => inferInstanceAs (Decidable (∀ txn ∈ world.opened[index]?, _))
  | .wait _ | .emit .. | .claim .. | .finish .. | .mark .. | .purge .. => .isTrue trivial

/-- While the row of the event is claimed, its mark is on the way or a drainer will make it. -/
def Watched (deployment : Deployment) (id : Uuid) (world : World) : Prop :=
  ∀ row ∈ world.rows, row.eventId = id → row.deliveryState = .claimed →
    world.locked id = true ∨
      ∃ hand ∈ world.hands, hand.event.eventId = id ∧ World.CanMark deployment hand

theorem locked_append (locked : world.locked id = true) :
    ({ world with opened := world.opened ++ [txn] } : World).locked id = true := by
  obtain ⟨other, there, inside⟩ := World.locked_iff.1 locked
  exact World.locked_iff.2 ⟨other, mem_append_left _ there, inside⟩

theorem locked_eraseIdx (found : world.opened[index]? = some txn) (outside : id ∉ txn.ids)
    (locked : world.locked id = true) :
    ({ world with opened := world.opened.eraseIdx index } : World).locked id = true := by
  obtain ⟨other, there, inside⟩ := World.locked_iff.1 locked
  obtain ⟨place, here⟩ := mem_iff_getElem?.1 there
  refine World.locked_iff.2 ⟨other, List.mem_eraseIdx_iff_getElem?.2 ⟨place, ?_, here⟩, inside⟩
  rintro rfl
  rw [found] at here
  cases here
  exact outside inside

theorem mem_set_of_ne {hand' other : Hand} (found : world.hands[index]? = some hand)
    (there : other ∈ world.hands) (other_ne : other ≠ hand) : other ∈ world.hands.set index hand' := by
  obtain ⟨place, here⟩ := mem_iff_getElem?.1 there
  have apart : index ≠ place := by
    rintro rfl
    rw [found] at here
    exact other_ne (Option.some.inj here).symm
  exact mem_of_getElem? ((List.getElem?_set_ne apart).trans here)

theorem mem_eraseIdx_of_ne {other : Hand} (found : world.hands[index]? = some hand)
    (there : other ∈ world.hands) (other_ne : other ≠ hand) : other ∈ world.hands.eraseIdx index := by
  obtain ⟨place, here⟩ := mem_iff_getElem?.1 there
  refine List.mem_eraseIdx_iff_getElem?.2 ⟨place, ?_, here⟩
  rintro rfl
  rw [found] at here
  exact other_ne (Option.some.inj here).symm

theorem Watched.drop (watched : Watched deployment id world) (found : world.hands[index]? = some hand)
    (idle : hand.event.eventId = id → ¬ World.CanMark deployment hand) :
    Watched deployment id { world with hands := world.hands.eraseIdx index } := by
  intro row mem same claimed
  refine (watched row mem same claimed).imp_right ?_
  rintro ⟨other, there, mine, able⟩
  refine ⟨other, mem_eraseIdx_of_ne found there ?_, mine, able⟩
  rintro rfl
  exact idle mine able

theorem mem_claimedEvents_of_row {ids : List Uuid} {now : Int} {rows : List OutboxEvent} (mem : row ∈ rows)
    (inside : row.eventId ∈ ids) : (row.claim now).toClaimed ∈ claimedEvents ids now rows :=
  mem_map.2 ⟨row, mem_filter.2 ⟨mem, by simpa using inside⟩, rfl⟩

theorem Watched.commit_other (watched : Watched deployment id world) {heard : Bool}
    (found : world.opened[index]? = some txn) (outside : id ∉ txn.ids) :
    Watched deployment id (world.commit index txn heard) := by
  intro row mem same claimed
  have there := (Txn.mem_apply_of_not_mem (same ▸ outside)).1 mem
  rcases watched row there same claimed with locked | ⟨hand, held, mine, able⟩
  · exact .inl (locked_eraseIdx found outside locked)
  · refine .inr ⟨hand, ?_, mine, able⟩
    show hand ∈ world.handsAfter txn heard
    unfold World.handsAfter
    split
    · split_ifs
      · exact mem_append_left _ held
      · exact held
    · exact mem_filter.2 ⟨held, by simp [mine, outside]⟩
    · exact held

/-- **The commit that takes the event hands it to its drainer.** -/
theorem Watched.commit_own {heard : Bool} (found : world.opened[index]? = some txn) (inside : id ∈ txn.ids)
    (kept : Kept deployment id world (.commit index heard)) :
    Watched deployment id (world.commit index txn heard) := by
  intro row member same claimed
  have kept := kept txn found inside
  rcases Txn.mem_apply.1 member with ⟨-, outside⟩ | ⟨before, there, taken, changed⟩
  · exact absurd (same ▸ inside) outside
  have mine := (Work.change_eventId changed).symm.trans same
  cases work : txn.work with
  | claim drainer =>
    rw [work] at changed kept
    cases changed
    obtain ⟨rfl, budget⟩ := kept
    refine .inr ⟨⟨drainer, (before.claim txn.now).toClaimed, .handling⟩, ?_, mine,
      .inr ⟨rfl, budget before there mine⟩⟩
    show _ ∈ world.handsAfter txn true
    unfold World.handsAfter
    rw [work]
    exact mem_append_right _ (mem_map.2 ⟨_, mem_claimedEvents_of_row there taken, rfl⟩)
  | mark drainer change =>
    rw [work] at changed
    cases changed
    cases change <;> cases claimed
  | purge =>
    rw [work] at changed
    cases changed

/-- **A transaction that has the event and is rolled back held a row that is not claimed.** -/
theorem Watched.rollback (watched : Watched deployment id world) (sound : Sound world)
    (found : world.opened[index]? = some txn) (kept : Kept deployment id world (.rollback index)) :
    Watched deployment id (world.rollback index txn) := by
  intro row member same claimed
  by_cases inside : id ∈ txn.ids
  · obtain ⟨other, there, mine, ready⟩ := (sound.opened txn (mem_of_getElem? found)).ready id inside
    obtain rfl := same_row sound.keyed there member (mine.trans same.symm)
    cases work : txn.work with
    | claim drainer =>
      rw [work] at ready
      rcases ready with state | state <;> rw [state] at claimed <;> cases claimed
    | mark drainer change =>
      have other := kept txn found inside
      rw [work] at other
      cases other
    | purge =>
      rw [work] at ready
      rcases ready with state | state
      · rw [state] at claimed
        cases claimed
      · simp [OutboxEvent.terminal, claimed] at state
  · rcases watched row member same claimed with locked | ⟨hand, held, mine, able⟩
    · exact .inl (locked_eraseIdx found inside locked)
    · refine .inr ⟨hand, ?_, mine, able⟩
      unfold World.rollback
      split
      · exact mem_filter.2 ⟨held, by simp [mine, inside]⟩
      · exact held

/-- **A step that keeps the event keeps it watched.** -/
theorem watched_step (sound : Sound world) (watched : Watched deployment id world)
    (kept : Kept deployment id world event) (stepped : step deployment world event = some world') :
    Watched deployment id world' := by
  have opening : ∀ txn : Txn, Watched deployment id { world with opened := world.opened ++ [txn] } := by
    intro txn row member same claimed
    exact (watched row member same claimed).imp_left locked_append
  cases step_does stepped with
  | wait time => exact watched
  | emit new =>
    intro row member same claimed
    rcases mem_append.1 member with member | member
    · exact watched row member same claimed
    · rw [mem_singleton.1 member] at claimed
      cases claimed
  | claim past => exact opening _
  | @chose index hand outcome date change found phase chose =>
    intro row member same claimed
    refine (watched row member same claimed).imp_right ?_
    rintro ⟨other, there, mine, able⟩
    by_cases ours : other = hand
    · subst ours
      exact ⟨_, mem_of_getElem? (getElem?_set_self (getElem?_eq_some_iff.1 found).1), mine, .inl ⟨change, rfl⟩⟩
    · exact ⟨other, mem_set_of_ne found there ours, mine, able⟩
  | @unmarkable index hand outcome date error found phase throws =>
    refine watched.drop found fun _ able => ?_
    rcases able with ⟨change, early⟩ | ⟨-, budget⟩
    · rw [phase] at early
      cases early
    · obtain ⟨change, chose⟩ := (@chosen_ok_iff _ outcome date hand.event).2 budget
      rw [throws] at chose
      cases chose
  | @marked index hand change started found phase free =>
    intro row member same claimed
    rcases watched row member same claimed with locked | ⟨other, there, mine, able⟩
    · exact .inl (locked_append locked)
    · by_cases ours : other = hand
      · subst ours
        exact .inl
          (World.locked_iff.2 ⟨_, mem_append_right _ (mem_singleton_self _), mine ▸ mem_singleton_self _⟩)
      · exact .inr ⟨other, mem_set_of_ne found there ours, mine, able⟩
  | @unmarked index hand change started error found phase throws =>
    refine watched.drop found fun _ _ => ?_
    obtain ⟨row, there, same, claimed, -⟩ := (sound.hands hand (mem_of_getElem? found)).row
    rw [← same, mark_claimed sound.keyed there claimed] at throws
    cases throws
  | lose found => exact watched.drop found fun mine => absurd mine (kept _ found)
  | purge cutoffs batchSize => exact opening _
  | @commit index txn heard found =>
    by_cases inside : id ∈ txn.ids
    · exact .commit_own found inside kept
    · exact watched.commit_other found inside
  | rollback found => exact watched.rollback sound found kept

/-- The drainer of the event is about to deliver or to dead-letter it: it has chosen that mark, or
this is the last attempt. -/
def Ending (world : World) (id : Uuid) : Prop :=
  (∃ txn ∈ world.opened, id ∈ txn.ids ∧ ∃ drainer change, txn.work = .mark drainer change ∧
      ∀ errorClass nextAttemptAt, change ≠ .failed errorClass nextAttemptAt) ∨
    ∃ hand ∈ world.hands, hand.event.eventId = id ∧
      ((∃ change, hand.phase = .marking change ∧
          ∀ errorClass nextAttemptAt, change ≠ .failed errorClass nextAttemptAt) ∨
        (hand.phase = .handling ∧ hand.event.attempts = MAX_ATTEMPTS))

theorem Mark.Leads.cases (leads : change.Leads deployment world id) :
    CanBeClaimed deployment world id ∨
      ((∀ errorClass nextAttemptAt, change ≠ .failed errorClass nextAttemptAt) ∧
        CanBeSettled deployment world id) := by
  cases change with
  | delivered => exact .inr ⟨fun _ _ => nofun, leads⟩
  | failed errorClass nextAttemptAt => exact .inl leads
  | deadLettered errorClass => exact .inr ⟨fun _ _ => nofun, leads⟩

/-- **A watched event can be claimed again, or is about to end.** -/
theorem Watched.goes_on (sound : Sound world) (watched : Watched deployment row.eventId world)
    (mem : row ∈ world.rows) (live : row.terminal = false) :
    CanBeClaimed deployment world row.eventId ∨
      (Ending world row.eventId ∧ CanBeSettled deployment world row.eventId) := by
  by_cases claimed : row.deliveryState = .claimed
  · rcases watched row mem rfl claimed with locked | ⟨hand, there, mine, able⟩
    · obtain ⟨txn, there, inside⟩ := World.locked_iff.1 locked
      obtain ⟨drainer, change, work⟩ := sound.marks there mem inside claimed
      rcases (@marked_leads deployment _ _ sound _ _ _ there mem inside work).cases with
        can | ⟨ends, can⟩
      · exact .inl can
      · exact .inr ⟨.inl ⟨txn, there, inside, drainer, change, work, ends⟩, can⟩
    · obtain ⟨change, leads, phase⟩ := held_leads sound there able mem mine.symm
      rcases leads.cases with can | ⟨ends, can⟩
      · exact .inl can
      · refine .inr ⟨.inr ⟨hand, there, mine, ?_⟩, can⟩
        rcases phase with phase | ⟨phase, last⟩
        · exact .inl ⟨change, phase, ends⟩
        · refine .inr ⟨phase, ?_⟩
          obtain ⟨held, attempts⟩ := sound.claimed_row there mem mine.symm
          rw [← attempts]
          refine le_antisymm (sound.rows row mem).sound.attempts_le (Nat.not_lt.1 fun left => ?_)
          obtain ⟨errorClass, nextAttemptAt, fails⟩ := last (attempts ▸ left)
          exact ends errorClass nextAttemptAt fails
  · refine .inl (waiting_claimable sound mem ?_)
    unfold OutboxEvent.terminal at live
    cases state : row.deliveryState <;> simp [state] at live claimed ⊢

/-- The event was delivered or dead-lettered before, in the same run. -/
def SettledBefore (deployment : Deployment) (id : Uuid) (world : World) : Prop :=
  ∃ earlier, (outbox deployment).Reaches (Kept deployment id) .empty earlier ∧
    (outbox deployment).Reaches (Kept deployment id) earlier world ∧
    ∃ row ∈ earlier.rows, row.eventId = id ∧ row.terminal = true

theorem kept_watched (run : (outbox deployment).Reaches (Kept deployment id) .empty world) :
    Sound world ∧ Watched deployment id world :=
  @Machine.Reaches.invariant World Event (outbox deployment) _ .empty world
    (fun world => Sound world ∧ Watched deployment id world) run
    ⟨Sound.empty, fun row mem => by cases mem⟩
    fun _ _ _ before kept step => ⟨sound_step before.1 step, watched_step before.1 before.2 kept step⟩

/-- **The row of an event stays in the table until the event was delivered or dead-lettered.** -/
theorem kept_present (run : (outbox deployment).Reaches (Kept deployment id) .empty world)
    (emitted : id ∈ world.emitted) :
    (∃ row ∈ world.rows, row.eventId = id) ∨ SettledBefore deployment id world := by
  induction run with
  | refl => cases emitted
  | @tail before world event run kept step ih =>
    have onward := Machine.Reaches.tail (.refl) kept step
    have stays : id ∈ before.emitted → (∀ row ∈ before.rows, row.eventId = id →
            (∃ row ∈ world.rows, row.eventId = id) ∨ row.terminal = true) →
        (∃ row ∈ world.rows, row.eventId = id) ∨ SettledBefore deployment id world := by
      intro emitted keeps
      rcases ih emitted with ⟨row, mem, same⟩ | ⟨prior, first, second, settled⟩
      · rcases keeps row mem same with here | terminal
        · exact .inl here
        · exact .inr ⟨before, run, onward, row, mem, same, terminal⟩
      · exact .inr ⟨prior, first, second.trans onward, settled⟩
    cases step_does step with
    | @emit input eventId new =>
      by_cases mine : eventId = id
      · exact .inl ⟨_, mem_append_right _ (mem_singleton_self _), mine⟩
      · exact stays ((mem_cons.1 emitted).resolve_left (Ne.symm mine))
          fun row mem same => .inl ⟨row, mem_append_left _ mem, same⟩
    | @commit index txn heard found =>
      refine stays emitted fun row mem same => ?_
      by_cases inside : row.eventId ∈ txn.ids
      · have kept := kept txn found (same ▸ inside)
        have changed : ∀ row', txn.work.change txn.now row = some row' →
            ∃ row ∈ (before.commit index txn heard).rows, row.eventId = id :=
          fun row' changed => ⟨row', Txn.mem_apply.2 (.inr ⟨row, mem, inside, changed⟩),
            (Work.change_eventId changed).trans same⟩
        cases work : txn.work with
        | claim drainer => exact .inl (changed (row.claim txn.now) (by rw [work]; rfl))
        | mark drainer change =>
          exact .inl (changed (change.apply txn.now row) (by rw [work]; rfl))
        | purge =>
          rw [work] at kept
          exact .inr (kept row mem same)
      · exact .inl ⟨row, (Txn.mem_apply_of_not_mem inside).2 mem, same⟩
    | _ => exact stays emitted fun row mem same => .inl ⟨row, mem, same⟩

/-- **In a run that keeps an event, the event was delivered or dead-lettered, or it can be claimed
again, or the drainer that holds it is about to deliver or dead-letter it.** -/
theorem kept_recoverable {id : Uuid} (run : (outbox deployment).Reaches (Kept deployment id) .empty world)
    (emitted : id ∈ world.emitted) :
    (∃ row ∈ world.rows, row.eventId = id ∧
        (row.terminal = true ∨ CanBeClaimed deployment world id ∨
          (Ending world id ∧ CanBeSettled deployment world id))) ∨ SettledBefore deployment id world := by
  refine (kept_present run emitted).imp_left ?_
  rintro ⟨row, mem, rfl⟩
  obtain ⟨sound, watched⟩ := kept_watched run
  refine ⟨row, mem, rfl, ?_⟩
  cases live : row.terminal with
  | true => exact .inl rfl
  | false => exact .inr (watched.goes_on sound mem live)

/-! ### A drainer that is gone -/

/-- An event is inserted, and claimed by a drainer that dies before its consumer has ended. -/
def crashSteps : List Event :=
  [.emit (.sample "sale.captured") (.sample 0), .claim 0 0, .commit 0 true, .lose 0]

/-- A run in which the first attempt fails and the event is claimed again. -/
def retrySteps : List Event :=
  [.emit (.sample "sale.captured") (.sample 0), .claim 0 0, .commit 0 true,
    .finish 0 (.threw .other) 0, .mark 0 0, .commit 0 true]

theorem kept_recoverable_sample :
    ∃ world row, (outbox .sample).run .empty retrySteps = some world ∧ row ∈ world.rows ∧
      row.eventId = .sample 0 ∧ row.deliveryState = .failed ∧
      (CanBeClaimed .sample world (.sample 0) ∨
        (Ending world (.sample 0) ∧ CanBeSettled .sample world (.sample 0)) ∨
        SettledBefore .sample (.sample 0) world) := by
  have failed : ((outbox .sample).run .empty retrySteps).any fun world =>
      world.emitted = [.sample 0] && world.rows.all fun row => row.deliveryState = .failed := by
    decide +kernel
  obtain ⟨world, ran, failed⟩ := (any_eq_true _ _).1 failed
  rw [and_eq_true] at failed
  have kept : (outbox .sample).AllowedAlong (Kept .sample (.sample 0)) .empty retrySteps := by
    decide +kernel
  have emitted : sample 0 ∈ world.emitted := by
    rw [of_decide_eq_true failed.1]
    exact mem_singleton_self _
  have state : ∀ row ∈ world.rows, row.deliveryState = .failed := fun row mem =>
    of_decide_eq_true (all_eq_true.1 failed.2 row mem)
  rcases kept_recoverable (Machine.run_reaches ran kept) emitted with
    ⟨row, mem, same, terminal | can | ending⟩ | before
  · rw [OutboxEvent.terminal, state row mem] at terminal
    cases terminal
  · exact ⟨world, row, ran, mem, same, state row mem, .inl can⟩
  · exact ⟨world, row, ran, mem, same, state row mem, .inr (.inl ending)⟩
  · obtain ⟨row, mem, same⟩ : ∃ row ∈ world.rows, row.eventId = .sample 0 := by
      have there : ((outbox .sample).run .empty retrySteps).all fun world =>
          world.rows.any fun row => row.eventId = .sample 0 := by decide +kernel
      rw [ran] at there
      obtain ⟨row, mem, same⟩ := List.any_eq_true.1 there
      exact ⟨row, mem, of_decide_eq_true same⟩
    exact ⟨world, row, ran, mem, same, state row mem, .inr (.inr before)⟩

/-- **Nobody ever claims the event again**, though it is neither delivered nor dead-lettered. -/
theorem crash_strands :
    ∃ world row, (outbox .sample).Reachable world ∧ row ∈ world.rows ∧ row.terminal = false ∧
      ¬ CanBeClaimed .sample world row.eventId ∧
      ∀ later, (outbox .sample).Later world later → row ∈ later.rows := by
  have idle : ((outbox .sample).run .empty crashSteps).any fun world =>
      world.hands.isEmpty && world.opened.isEmpty &&
        world.rows.any fun row => row.deliveryState = .claimed := by decide +kernel
  obtain ⟨world, ran, idle⟩ := (any_eq_true _ _).1 idle
  simp only [and_eq_true, isEmpty_iff] at idle
  obtain ⟨⟨noHands, noTxns⟩, claimed⟩ := idle
  obtain ⟨row, mem, claimed⟩ := List.any_eq_true.1 claimed
  have claimed : row.deliveryState = .claimed := of_decide_eq_true claimed
  have reach : (outbox .sample).Reachable world := Machine.run_later ran
  have stranded : Stranded .sample world row := by
    refine ⟨mem, claimed, World.locked_false.2 fun txn inside => ?_, fun hand inside => ?_⟩
    · rw [noTxns] at inside
      cases inside
    · rw [noHands] at inside
      cases inside
  have live : row.terminal = false := by rw [OutboxEvent.terminal, claimed]; rfl
  have sound := Reachable.sound reach
  refine ⟨world, row, reach, mem, live, fun can => ?_, fun later reaches => ?_⟩
  · exact (recoverable_iff sound mem live).1 (.inl can) stranded
  · exact (stranded_later sound stranded reaches).2.member

end DataPulse.Outbox
