/-
**A terminal's replica while the catalogue is written.**

The state is what is committed, the next value of the identity, the open transactions and one terminal.
A statement is executed on what is committed and what its own transaction wrote; its triggers draw the
sequences of their rows at once, and the rows are seen when the transaction commits. The terminal takes a
snapshot that fits one page, and then reads deltas with the cursor it holds; its SELECTs are steps of
their own, each on what is committed then.

* `replica_complete`: in a run of such commits nothing is missed; `skipped_commit`: a run where a
  transaction commits a sequence that the terminal has passed.
-/

import DataPulse.Lib.Machine
import DataPulse.ReadDown.Coverage
import DataPulse.ReadDown.Deltas

namespace DataPulse.ReadDown

open Lib Platform

/-! ### Transactions -/

/-- A statement that was executed, with the rows its triggers inserted. -/
structure Written where
  change : Change
  rows : List ChangeLogRow
  logs : rows.map ChangeLogRow.toChangeLogValues = change.logged

def Catalogue.write (catalogue : Catalogue) (written : Written) : Catalogue :=
  { written.change.apply catalogue with
    log := (written.change.apply catalogue).log ++ written.rows }

/-- The contents after the statements of a transaction. -/
def Catalogue.writes (catalogue : Catalogue) (transaction : List Written) : Catalogue :=
  transaction.foldl Catalogue.write catalogue

def draw (nextSequence : Nat) : List ChangeLogValues → List ChangeLogRow
  | [] => []
  | values :: rest => ⟨values, nextSequence⟩ :: draw (nextSequence + 1) rest

theorem draw_values (nextSequence : Nat) (values : List ChangeLogValues) :
    (draw nextSequence values).map ChangeLogRow.toChangeLogValues = values := by
  induction values generalizing nextSequence with
  | nil => rfl
  | cons first rest ih => rw [draw, map_cons, ih]

def TakesAll (reference : Reference) (catalogue : Catalogue) : List Written → Prop
  | [] => True
  | written :: rest => Admits reference catalogue written.change ∧
      WellFormed reference (catalogue.write written) ∧ TakesAll reference (catalogue.write written) rest

instance decidableTakesAll (reference : Reference) :
    (catalogue : Catalogue) → (transaction : List Written) →
      Decidable (TakesAll reference catalogue transaction)
  | _, [] => .isTrue trivial
  | catalogue, written :: rest =>
    have : Decidable (TakesAll reference (catalogue.write written) rest) :=
      decidableTakesAll reference _ rest
    inferInstanceAs (Decidable (_ ∧ _ ∧ _))

/-! ### The machine -/

/-- A store of a tenant, and the contents before anything happens. -/
structure Setting where
  reference : Reference
  tenantId : Uuid
  storeId : Uuid
  owns : reference.storeTenant storeId = some tenantId
  catalogue : Catalogue
  nextSequence : Nat
  fits : WellFormed reference catalogue
  below : ∀ row ∈ catalogue.log, row.sequence < nextSequence

/-- A call of `getDeltas` under way, with what its SELECTs saw: the horizon, the head, the changed
products. -/
inductive Call where
  | horizon (limit : Option ℚ) (horizonAt : Catalogue)
  | head (limit : Option ℚ) (horizonAt headAt : Catalogue)
  | changed (limit : Option ℚ) (horizonAt headAt changedAt : Catalogue)

/-- A terminal: without a replica, between the SELECTs of a snapshot, or with a replica and a cursor. -/
inductive Terminal where
  | bare
  | snapshotting (limit : Option ℚ) (headAt : Catalogue)
  | holding (replica : Replica) (cursor : Token SnapshotCursor) (call : Option Call)

structure State where
  committed : Catalogue
  nextSequence : Nat
  transactions : List (List Written)
  terminal : Terminal

inductive Event where
  | begin
  | execute (index : Nat) (change : Change)
  | commit (index : Nat)
  | rollback (index : Nat)
  | startSnapshot (limit : Option ℚ)
  | startDeltas (limit : Option ℚ)
  | select

section Machine

variable (setting : Setting)

/-- The items of the page are the resolved sellable catalogue. -/
def FitsOnePage (catalogue : Catalogue) (page : CatalogSnapshotPage) : Prop :=
  (page.items.map SellableCatalogRow.content).Perm
    (sellableCatalogue catalogue setting.tenantId setting.storeId)

instance (catalogue : Catalogue) (page : CatalogSnapshotPage) :
    Decidable (FitsOnePage setting catalogue page) :=
  inferInstanceAs (Decidable (List.Perm _ _))

def Terminal.select (committed : Catalogue) : Terminal → Option Terminal
  | snapshotting limit headAt =>
    match getSnapshot setting.tenantId setting.storeId limit none none headAt committed with
    | .ok page =>
      if FitsOnePage setting committed page then
        some (holding (replicaOf page.items) page.cursor none)
      else none
    | .error _ => none
  | holding replica cursor (some (.horizon limit horizonAt)) =>
    some (holding replica cursor (some (.head limit horizonAt committed)))
  | holding replica cursor (some (.head limit horizonAt headAt)) =>
    some (holding replica cursor (some (.changed limit horizonAt headAt committed)))
  | holding replica cursor (some (.changed limit horizonAt headAt changedAt)) =>
    match getDeltas setting.tenantId setting.storeId cursor limit horizonAt headAt changedAt
      committed with
    | .ok (.ok page) => some (holding (page.ops.foldl applyOp replica) page.cursor none)
    | .ok .snapshotRequired => some bare
    | .error _ => none
  | _ => none

def step (state : State) : Event → Option State
  | .begin => some { state with transactions := state.transactions ++ [[]] }
  | .execute index change => do
      let transaction ← state.transactions[index]?
      if Admits setting.reference (state.committed.writes transaction) change then
        some { state with
          nextSequence := state.nextSequence + change.logged.length
          transactions := state.transactions.set index (transaction ++
            [⟨change, draw state.nextSequence change.logged, draw_values _ _⟩]) }
      else none
  | .commit index => do
      let transaction ← state.transactions[index]?
      if TakesAll setting.reference state.committed transaction then
        some { state with
          committed := state.committed.writes transaction
          transactions := state.transactions.eraseIdx index }
      else none
  | .rollback index =>
    if index < state.transactions.length then
      some { state with transactions := state.transactions.eraseIdx index }
    else none
  | .startSnapshot limit =>
    match state.terminal with
    | .bare => some { state with terminal := .snapshotting limit state.committed }
    | .holding _ _ none => some { state with terminal := .snapshotting limit state.committed }
    | _ => none
  | .startDeltas limit =>
    match state.terminal with
    | .holding replica cursor none =>
      some { state with
        terminal := .holding replica cursor (some (.horizon limit state.committed)) }
    | _ => none
  | .select =>
    (state.terminal.select setting state.committed).map fun terminal =>
      { state with terminal }

def replication : Machine State Event where
  start := ⟨setting.catalogue, setting.nextSequence, [], .bare⟩
  step := step setting

/-! ### Commits for the terminal's sake -/

def Token.sequence : Token SnapshotCursor → Nat
  | carrying cursor => cursor.sequence
  | malformed => 0

/-- The sequence the terminal reads on from: that of its cursor or, once the changed products of a call
are read, the one the call advances to. -/
def Terminal.passed : Terminal → Option Nat
  | holding _ cursor (some (.changed limit _ headAt changedAt)) =>
    some (advancedSequence setting.tenantId setting.storeId (clampLimit limit) cursor.sequence headAt
      changedAt)
  | holding _ cursor _ => some cursor.sequence
  | _ => none

def Terminal.resolves : Terminal → List Uuid
  | holding _ cursor (some (.changed limit _ _ changedAt)) =>
    (pageRows setting.tenantId setting.storeId (clampLimit limit) cursor.sequence changedAt).map
      ChangedProduct.productId
  | _ => []

/-- The terminal has a row of the product, and will keep it when the call under way returns. -/
def Terminal.Keeps (productId : Uuid) : Terminal → Prop
  | holding replica cursor call => (replica productId).isSome ∧
      productId ∉ (holding replica cursor call).resolves setting
  | _ => False

instance (productId : Uuid) : (terminal : Terminal) →
    Decidable (terminal.Keeps setting productId)
  | .bare => .isFalse id
  | .snapshotting _ _ => .isFalse id
  | .holding .. => inferInstanceAs (Decidable (_ ∧ _))

/-- The statement is tracked; a deleted product, whose log rows go with it, is not in the replica. -/
def Change.Safe (terminal : Terminal) : Change → Prop
  | product (.delete old) => ¬ terminal.Keeps setting old.id
  | change => change.Tracked

instance (terminal : Terminal) : (change : Change) → Decidable (change.Safe setting terminal)
  | .product (.delete old) => inferInstanceAs (Decidable (¬ terminal.Keeps setting old.id))
  | .product (.insert new) => inferInstanceAs (Decidable (Change.product (.insert new)).Tracked)
  | .product (.update old new) =>
    inferInstanceAs (Decidable (Change.product (.update old new)).Tracked)
  | .override change => inferInstanceAs (Decidable (Change.override change).Tracked)
  | .alias change => inferInstanceAs (Decidable (Change.alias change).Tracked)

/-- **The commit comes in time for the terminal**: its statements are safe, and what it logs for the
terminal's stream it leaves with a row beyond the sequence the terminal has passed. -/
def Timely (state : State) (transaction : List Written) : Prop :=
  ∀ passed ∈ state.terminal.passed setting,
    (∀ written ∈ transaction, written.change.Safe setting state.terminal) ∧
    ∀ written ∈ transaction, ∀ row ∈ written.rows,
      row.inStream setting.tenantId setting.storeId = true →
      row ∈ (state.committed.writes transaction).log →
      Unread setting.tenantId setting.storeId passed (state.committed.writes transaction).log
        row.productId

instance (state : State) (transaction : List Written) :
    Decidable (Timely setting state transaction) :=
  inferInstanceAs (Decidable (∀ passed ∈ state.terminal.passed setting, _))

def InTime (state : State) : Event → Prop
  | .commit index => ∀ transaction ∈ state.transactions[index]?, Timely setting state transaction
  | _ => True

instance (state : State) : (event : Event) → Decidable (InTime setting state event)
  | .commit index =>
    inferInstanceAs (Decidable (∀ transaction ∈ state.transactions[index]?, _))
  | .begin => .isTrue trivial
  | .execute _ _ => .isTrue trivial
  | .rollback _ => .isTrue trivial
  | .startSnapshot _ => .isTrue trivial
  | .startDeltas _ => .isTrue trivial
  | .select => .isTrue trivial

end Machine

/-! ### What a commit leaves unread -/

variable {setting : Setting}

section Commits

variable {terminal : Terminal}
variable {catalogue : Catalogue} {replica : Replica}
variable {transaction : List Written} {cursor : Token SnapshotCursor} {fresh : List ChangeLogRow}
  {reference : Reference} {call : Option Call} {written : Written} {productId tenantId : Uuid}
  {change : Change}
variable {storeId : Uuid} {old : Product}

theorem offered_write (catalogue : Catalogue) (written : Written) (tenantId storeId productId : Uuid) :
    offered (catalogue.write written) tenantId storeId productId =
      offered (written.change.apply catalogue) tenantId storeId productId := by
  have same : sellableRow (catalogue.write written) tenantId storeId productId =
      sellableRow (written.change.apply catalogue) tenantId storeId productId :=
    sellableRow_congr rfl rfl rfl
  rw [offered, offered, same]

/-- What the replica is missing has a row in the log that the terminal will read, or one of the
transaction that commits. -/
def Owed (setting : Setting) (terminal : Terminal) (replica : Replica) (passed : Nat)
    (fresh : List ChangeLogRow) (catalogue : Catalogue) : Prop :=
  ∀ productId ∉ terminal.resolves setting,
    replica.content productId ≠ offered catalogue setting.tenantId setting.storeId productId →
    ∃ row ∈ catalogue.log, row.inStream setting.tenantId setting.storeId = true ∧
      row.productId = productId ∧ (passed < row.sequence ∨ row ∈ fresh)

theorem log_apply {row : ChangeLogRow} (inside : row ∈ catalogue.log)
    (other : ∀ old, change = .product (.delete old) → row.productId ≠ old.id) :
    row ∈ (change.apply catalogue).log := by
  cases change with
  | product change =>
    cases change with
    | insert new | update old new => exact inside
    | delete old => exact mem_filter.2 ⟨inside, decide_eq_true (other old rfl)⟩
  | override change => exact inside
  | «alias» change => exact inside

theorem delete_matches (deletes : written.change = .product (.delete old))
    (admits : Admits setting.reference catalogue written.change) (gone : replica old.id = none) :
    replica.content old.id = offered (catalogue.write written) setting.tenantId setting.storeId old.id := by
  rw [deletes] at admits
  have absent := delete_absent admits
  have nothing : sellableRow ((Change.product (.delete old)).apply catalogue) setting.tenantId setting.storeId
      old.id = none :=
    sellableRow_of_absent (fun product inside _ same => absent ⟨product, inside, same⟩) _
  rw [offered_write, deletes, offered, nothing, Replica.content, gone]
  rfl

theorem Change.Tracked.logs (tracked : change.Tracked) (admits : Admits reference catalogue change)
    (differs : offered catalogue tenantId storeId productId ≠
      offered (change.apply catalogue) tenantId storeId productId) :
    ∃ row ∈ change.logged, row.inStream tenantId storeId = true ∧ row.productId = productId := by
  by_contra nothing
  refine differs ?_
  have silent : Silent tenantId storeId productId change.logged := fun row logged stream same =>
    nothing ⟨row, logged, stream, same⟩
  have kept := tracked.kept admits silent
  rw [offered, offered, kept]

theorem delete_elsewhere (elsewhere : old.id ≠ productId) :
    offered catalogue tenantId storeId productId =
      offered ((Change.product (.delete old)).apply catalogue) tenantId storeId productId := by
  have kept : sellableRow catalogue tenantId storeId productId =
      sellableRow ((Change.product (.delete old)).apply catalogue) tenantId storeId productId :=
    product_elsewhere (Product.at_elsewhere fun there => elsewhere there.2)
  rw [offered, offered, kept]

/-- **A safe statement keeps what is owed.** -/
theorem write_keeps {passed : Nat}
    (owed : Owed setting (.holding replica cursor call) replica passed fresh catalogue)
    (admits : Admits setting.reference catalogue written.change)
    (safe : written.change.Safe setting (.holding replica cursor call))
    (drawn : ∀ row ∈ written.rows, row ∈ fresh) :
    Owed setting (.holding replica cursor call) replica passed fresh (catalogue.write written) := by
  intro productId outside missing
  -- A product that is deleted is not missing.
  have standing : ∀ old, written.change = .product (.delete old) → old.id ≠ productId := by
    rintro old deletes rfl
    rw [deletes] at safe
    have gone : replica old.id = none := by
      by_contra has
      exact safe ⟨isSome_iff_ne_none.2 has, outside⟩
    exact missing (delete_matches deletes admits gone)
  by_cases same : offered catalogue setting.tenantId setting.storeId productId =
      offered (written.change.apply catalogue) setting.tenantId setting.storeId productId
  · -- It was missing before.
    rw [offered_write, ← same] at missing
    obtain ⟨row, inside, stream, product, later⟩ := owed productId outside missing
    exact ⟨row, mem_append_left _ (log_apply inside fun old deletes equal =>
      standing old deletes (equal.symm.trans product)), stream, product, later⟩
  · -- The stmt changed it.
    have tracked : written.change.Tracked := by
      cases change : written.change with
      | product one =>
        rw [change] at safe
        cases one with
        | insert new | update old new => exact safe
        | delete old =>
          rw [change] at same
          exact absurd (delete_elsewhere (standing old change)) same
      | override one =>
        rw [change] at safe
        exact safe
      | «alias» one =>
        rw [change] at safe
        exact safe
    obtain ⟨values, logged, stream, product⟩ := tracked.logs admits same
    rw [← written.logs] at logged
    obtain ⟨row, inRows, rfl⟩ := mem_map.1 logged
    exact ⟨row, mem_append_right _ inRows, stream, product, .inr (drawn row inRows)⟩

theorem writes_keep {passed : Nat}
    (owed : Owed setting (.holding replica cursor call) replica passed fresh catalogue)
    (takes : TakesAll setting.reference catalogue transaction)
    (safe : ∀ written ∈ transaction, written.change.Safe setting (.holding replica cursor call))
    (drawn : ∀ written ∈ transaction, ∀ row ∈ written.rows, row ∈ fresh) :
    Owed setting (.holding replica cursor call) replica passed fresh (catalogue.writes transaction) := by
  induction transaction generalizing catalogue with
  | nil => exact owed
  | cons written rest ih =>
    obtain ⟨admits, -, onward⟩ := takes
    refine ih (write_keeps owed admits (safe written mem_cons_self) (drawn written mem_cons_self)) onward ?_ ?_
    · exact fun other inside => safe other (.tail _ inside)
    · exact fun other inside => drawn other (.tail _ inside)

theorem takesAll_fits (fits : WellFormed reference catalogue)
    (takes : TakesAll reference catalogue transaction) :
    WellFormed reference (catalogue.writes transaction) := by
  induction transaction generalizing catalogue with
  | nil => exact fits
  | cons written rest ih => exact ih takes.2.1 takes.2.2

/-! ### The invariant -/

/-- The cursor is the terminal's own, and what the replica is missing is unread: its log row lies beyond
the sequence the terminal has passed, or its call is about to resolve it. -/
def Sound (setting : Setting) (committed : Catalogue) : Terminal → Prop
  | .holding replica cursor call =>
    (∃ sequence, cursor = encodeCursor ⟨setting.tenantId, setting.storeId, sequence⟩) ∧
      ∀ passed ∈ (Terminal.holding replica cursor call).passed setting,
        ∀ productId ∉ (Terminal.holding replica cursor call).resolves setting,
          replica.content productId ≠
            offered committed setting.tenantId setting.storeId productId →
          Unread setting.tenantId setting.storeId passed committed.log productId
  | _ => True

/-- **A commit in time keeps the terminal sound.** -/
theorem commit_keeps {state : State} (sound : Sound setting state.committed state.terminal)
    (takes : TakesAll setting.reference state.committed transaction)
    (timely : Timely setting state transaction) :
    Sound setting (state.committed.writes transaction) state.terminal := by
  unfold Timely at timely
  cases holds : state.terminal with
  | bare | snapshotting limit headAt => trivial
  | holding replica cursor call =>
    rw [holds] at sound timely
    refine ⟨sound.1, fun passed isPassed productId outside missing => ?_⟩
    obtain ⟨safe, kept⟩ := timely passed isPassed
    -- What was missing before was unread.
    have owed : Owed setting (.holding replica cursor call) replica passed
        (transaction.flatMap Written.rows) state.committed := by
      intro other outside missing
      obtain ⟨row, inside, stream, product, later⟩ := sound.2 passed isPassed other outside missing
      exact ⟨row, inside, stream, product, .inl later⟩
    obtain ⟨row, inside, stream, product, later | fresh⟩ :=
      writes_keep owed takes safe (fun written mem row inRows => mem_flatMap.2 ⟨written, mem, inRows⟩)
        productId outside missing
    · exact ⟨row, inside, stream, product, later⟩
    · obtain ⟨written, mem, inRows⟩ := mem_flatMap.1 fresh
      exact product ▸ kept written mem row inRows stream inside

end Commits

/-! ### What the terminal reads -/

theorem getDeltas_own {tenantId storeId : Uuid} (since : Nat) (limit : Option ℚ)
    (horizonAt headAt changedAt resolvedAt : Catalogue) :
    getDeltas tenantId storeId (encodeCursor ⟨tenantId, storeId, since⟩) limit horizonAt headAt changedAt
      resolvedAt =
      .ok
      (if belowHorizon tenantId since horizonAt then .snapshotRequired else
        .ok (deltaPage tenantId storeId (clampLimit limit) since headAt changedAt resolvedAt)) := by
  have own : decodeCursor (encodeCursor ⟨tenantId, storeId, since⟩) tenantId
      storeId = .ok ⟨tenantId, storeId, since⟩ := by
    simp [decodeCursor, encodeCursor]
  rw [getDeltas, own]
  change (if belowHorizon tenantId since horizonAt = true then _ else _) = _
  split_ifs <;> rfl

/-- **A replica made of a page that fits is what the store is offered.** -/
theorem replicaOf_content {catalogue : Catalogue} {page : CatalogSnapshotPage}
    (fits : FitsOnePage setting catalogue page) (productId : Uuid) :
    (replicaOf page.items).content productId =
      offered catalogue setting.tenantId setting.storeId productId := by
  unfold Replica.content replicaOf
  cases found : page.items.find? fun row => row.productId = productId with
  | none =>
    cases brings : offered catalogue setting.tenantId setting.storeId productId with
    | none => rfl
    | some row =>
      have id := (offered_of brings).1
      have listed : row ∈ sellableCatalogue catalogue setting.tenantId setting.storeId :=
        mem_sellableCatalogue.2 (id ▸ brings)
      obtain ⟨item, inside, rfl⟩ := mem_map.1 (fits.mem_iff.2 listed)
      have missed := find?_eq_none.1 found item inside
      exact absurd (decide_eq_true id) missed
  | some item =>
    have id := find?_some found
    rw [decide_eq_true_eq] at id
    have listed := fits.mem_iff.1 (mem_map_of_mem (mem_of_find?_eq_some found))
    rw [← id]
    exact (mem_sellableCatalogue.1 listed).symm

/-- **The next SELECT keeps the terminal sound.** -/
theorem select_keeps {kept : Catalogue} {terminal next : Terminal} (fits : WellFormed setting.reference kept)
    (sound : Sound setting kept terminal) (selected : terminal.select setting kept = some next) :
    Sound setting kept next := by
  unfold Terminal.select at selected
  split at selected
  · -- The items of a snapshot.
    rename_i limit headAt
    split at selected
    · rename_i page answered
      split_ifs at selected with onePage
      obtain rfl := Option.some.inj selected
      have cursor : page.cursor = encodeCursor ⟨setting.tenantId, setting.storeId,
          (headSequence setting.tenantId headAt).getD 0⟩ := by
        rw [← Except.ok.inj answered]
        rfl
      refine ⟨⟨_, cursor⟩, fun passed _ productId _ missing => ?_⟩
      exact absurd (replicaOf_content onePage productId) missing
    · cases selected
  · -- The head.
    obtain rfl := Option.some.inj selected
    exact sound
  · -- The changed products: the ones of the page are resolved next.
    rename_i replica cursor limit horizonAt headAt
    obtain rfl := Option.some.inj selected
    refine ⟨sound.1, fun passed isPassed productId outside missing => ?_⟩
    obtain rfl := Option.some.inj isPassed
    have unread := sound.2 cursor.sequence rfl productId (not_mem_nil) missing
    exact (pageRows_or_later fits.2.2.2.1 (clampLimit_pos limit) unread headAt).resolve_left outside
  · -- The page.
    rename_i replica cursor limit horizonAt headAt changedAt
    obtain ⟨⟨since, rfl⟩, owed⟩ := sound
    rw [getDeltas_own] at selected
    split_ifs at selected with below
    · obtain rfl := Option.some.inj selected
      trivial
    · obtain rfl := Option.some.inj selected
      refine ⟨⟨_, rfl⟩, fun passed isPassed productId _ missing => ?_⟩
      obtain rfl := Option.some.inj isPassed
      have brought : Replica.content ((deltaPage setting.tenantId setting.storeId (clampLimit limit)
          since headAt changedAt kept).ops.foldl applyOp replica) productId =
            if productId ∈ (pageRows setting.tenantId setting.storeId (clampLimit limit) since
                changedAt).map ChangedProduct.productId then
              offered kept setting.tenantId setting.storeId productId
            else replica.content productId :=
        applyOps_exact fits.1.1 _ replica (fun _ inside => mem_map_of_mem inside) productId
      rw [brought] at missing
      split_ifs at missing with onPage
      · exact absurd rfl missing
      · exact owed _ rfl productId onPage missing
  · cases selected

/-! ### Runs -/

section Runs

variable {state next : State}

def Invariant (setting : Setting) (state : State) : Prop :=
  WellFormed setting.reference state.committed ∧ Sound setting state.committed state.terminal

/-- **A step in time keeps the terminal sound.** -/
theorem step_keeps {event : Event} (holds : Invariant setting state) (inTime : InTime setting state event)
    (stepped : step setting state event = some next) : Invariant setting next := by
  obtain ⟨fits, sound⟩ := holds
  cases event with
  | begin =>
    obtain rfl := Option.some.inj stepped
    exact ⟨fits, sound⟩
  | execute index change =>
    obtain ⟨transaction, -, stepped⟩ := bind_eq_some_iff.1 stepped
    split_ifs at stepped
    obtain rfl := Option.some.inj stepped
    exact ⟨fits, sound⟩
  | commit index =>
    obtain ⟨transaction, isOpen, stepped⟩ := bind_eq_some_iff.1 stepped
    split_ifs at stepped with takes
    obtain rfl := Option.some.inj stepped
    exact ⟨takesAll_fits fits takes, commit_keeps sound takes (inTime transaction isOpen)⟩
  | rollback index =>
    unfold step at stepped
    dsimp only at stepped
    split_ifs at stepped
    obtain rfl := Option.some.inj stepped
    exact ⟨fits, sound⟩
  | startSnapshot limit =>
    unfold step at stepped
    dsimp only at stepped
    split at stepped
    · obtain rfl := Option.some.inj stepped
      exact ⟨fits, trivial⟩
    · obtain rfl := Option.some.inj stepped
      exact ⟨fits, trivial⟩
    · cases stepped
  | startDeltas limit =>
    unfold step at stepped
    dsimp only at stepped
    split at stepped
    · rename_i replica cursor idle
      rw [idle] at sound
      obtain rfl := Option.some.inj stepped
      exact ⟨fits, sound⟩
    · cases stepped
  | select =>
    obtain ⟨terminal, selected, rfl⟩ := map_eq_some_iff.1 stepped
    exact ⟨fits, select_keeps fits sound selected⟩

theorem run_keeps
    (reaches : (replication setting).Reaches (InTime setting) (replication setting).start state) :
    Invariant setting state :=
  reaches.invariant ⟨setting.fits, trivial⟩ fun _ _ _ holds inTime step => step_keeps holds inTime step

/-- **Nothing is missed**: what the replica of an idle terminal is missing has a log row beyond its
cursor. -/
def NothingMissed (setting : Setting) (state : State) : Prop :=
  ∀ (replica : Replica) (cursor : Token SnapshotCursor),
    state.terminal = .holding replica cursor none →
    ∀ productId, replica.content productId ≠
        offered state.committed setting.tenantId setting.storeId productId →
      Unread setting.tenantId setting.storeId cursor.sequence state.committed.log productId

/-- **The replica converges**: when the writes are finished and a page of deltas is empty, it is the
resolved sellable catalogue. -/
def Converges (setting : Setting) (state : State) : Prop :=
  ∀ (replica : Replica) (cursor : Token SnapshotCursor) (limit : Option ℚ) (page : CatalogDeltaPage),
    state.terminal = .holding replica cursor none → state.transactions = [] →
    getDeltas setting.tenantId setting.storeId cursor limit state.committed state.committed
      state.committed state.committed = .ok (.ok page) →
    page.ops = [] →
    ∀ productId, replica.content productId =
      offered state.committed setting.tenantId setting.storeId productId

/-- **In a run in time nothing is missed, and the replica converges.** -/
theorem replica_complete
    (reaches : (replication setting).Reaches (InTime setting) (replication setting).start state) :
    NothingMissed setting state ∧ Converges setting state := by
  obtain ⟨-, sound⟩ := run_keeps reaches
  have nothing : NothingMissed setting state := by
    intro replica cursor idle productId missing
    rw [idle] at sound
    exact sound.2 _ rfl productId not_mem_nil missing
  refine ⟨nothing, fun replica cursor limit page idle _ answered empty productId => ?_⟩
  by_contra missing
  have unread := nothing replica cursor idle productId missing
  rw [idle] at sound
  obtain ⟨since, rfl⟩ := sound.1
  rw [getDeltas_own] at answered
  have answer := Except.ok.inj answered
  split_ifs at answer
  obtain rfl := DeltaResult.ok.inj answer
  -- An empty page has no changed product behind it.
  have noRows : pageRows setting.tenantId setting.storeId (clampLimit limit) since state.committed = [] :=
    List.map_eq_nil_iff.1 empty
  have unread' : Unread setting.tenantId setting.storeId since state.committed.log productId := unread
  obtain ⟨changed, inside, -⟩ := changed_of_unread unread'
  rcases List.take_eq_nil_iff.1 noRows with zero | none
  · exact absurd zero (clampLimit_pos limit).ne'
  · rw [none] at inside
    cases inside

end Runs

/-! ### Two runs -/

def dearer (product : Product) : Product :=
  { product with
    defaultPrice := some ⟨20000, by decide⟩
    defaultCurrencyCode := some "USD"
    paired := rfl
    priced := by simp }

/-- Two sellable products, and the log row of the first. -/
theorem shelf_below : ∀ row ∈ [(⟨⟨sample 0, none, sample 1, .upsert⟩, 1⟩ : ChangeLogRow)], row.sequence < 2 := by
  simp

def shelf : Setting where
  reference := ⟨fun _ => true, fun _ => some (sample 0)⟩
  tenantId := sample 0
  storeId := sample 9
  owns := rfl
  catalogue :=
    { products := [shelfProduct true (sample 1), shelfProduct true (sample 2)]
      overrides := []
      aliases := []
      log := [⟨⟨sample 0, none, sample 1, .upsert⟩, 1⟩] }
  nextSequence := 2
  fits := by decide
  below := shelf_below

def raises (id : Uuid) : Change := .product (.update (shelfProduct true id) (dearer (shelfProduct true id)))

/-- Two transactions change a product each; the one that drew its sequence first commits last, after the
terminal has read the other's. -/
def overtaking : List Event :=
  [.startSnapshot none, .select, .begin, .begin, .execute 0 (raises (sample 1)),
    .execute 1 (raises (sample 2)), .commit 1, .startDeltas none, .select, .select, .select,
    .commit 0]

/-- The writes are finished, a page of deltas is empty, and the replica has another price. -/
def isStale (setting : Setting) (productId : Uuid) (state : State) : Bool :=
  match state.terminal with
  | .holding replica cursor none => state.transactions.isEmpty &&
      (match getDeltas setting.tenantId setting.storeId cursor none state.committed state.committed
          state.committed state.committed with
        | .ok (.ok page) => page.ops.isEmpty
        | _ => false) &&
      replica.content productId ≠
        offered state.committed setting.tenantId setting.storeId productId
  | _ => false

theorem not_converges_of_isStale {setting : Setting} {productId : Uuid} {state : State}
    (stale : isStale setting productId state = true) : ¬ Converges setting state := by
  intro converges
  unfold isStale at stale
  split at stale
  · rename_i replica cursor idle
    simp only [and_eq_true, decide_eq_true_eq, isEmpty_iff] at stale
    obtain ⟨⟨ended, empty⟩, missing⟩ := stale
    split at empty
    · rename_i page answered
      exact missing (converges replica cursor none page idle ended answered (isEmpty_iff.1 empty) productId)
    · cases empty
  · cases stale

/-- **A commit that the terminal has passed is never read.** -/
theorem skipped_commit : ∃ state, (replication shelf).Reachable state ∧ ¬ Converges shelf state := by
  have ran : ((replication shelf).run (replication shelf).start overtaking).any (isStale shelf (sample 1)) =
      true := by
    decide +kernel
  obtain ⟨state, ran, stale⟩ := (any_eq_true _ _).1 ran
  exact ⟨state, Machine.run_later ran, not_converges_of_isStale stale⟩

/-- One change after the other, each read before the next. -/
def orderly : List Event :=
  [.startSnapshot none, .select, .begin, .execute 0 (raises (sample 1)), .commit 0,
    .startDeltas none, .select, .select, .select]

theorem replica_complete_sample :
    ∃ state, (replication shelf).run (replication shelf).start orderly = some state ∧
      NothingMissed shelf state ∧ Converges shelf state := by
  have ran : ((replication shelf).run (replication shelf).start orderly).isSome = true := by
    decide +kernel
  have inTime : (replication shelf).AllowedAlong (InTime shelf) (replication shelf).start orderly := by
    decide +kernel
  obtain ⟨state, ran⟩ := isSome_iff_exists.1 ran
  exact ⟨state, ran, replica_complete (Machine.run_reaches ran inTime)⟩

end DataPulse.ReadDown
