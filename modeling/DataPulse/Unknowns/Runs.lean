/-
**Items, products and aliases over a run.**

* `Reachable.collideFree`: no two committed rows of a table share an id.
-/

import DataPulse.Unknowns.Effects

namespace DataPulse.Unknowns

open Lib Lib.Interleave Platform

/-! ### One row for an id -/

inductive Table where
  | item
  | product
  | alias
  deriving DecidableEq

/-- The table and the identifier of the row a write inserts. -/
def Write.rowKey : Write → Option (Table × Uuid)
  | .item row => some (.item, row.id)
  | .product row => some (.product, row.id)
  | .alias row => some (.alias, row.id)
  | _ => none

abbrev collide : Write → Write → Bool := sameRow Write.rowKey

variable {reference : Reference} {writes : List Write} {config : Config} {pid : Nat}
  {before after : List (Nat × List Write)}

section Keys

variable {context : Context} {wrote : List Write}
variable {second first : Write}

theorem clash_of_collide (collides : collide first second = true) : clash first second = true := by
  cases first <;> cases second <;> simp_all [clash, sameRow, Write.rowKey]

theorem exec_rows {stmt : Stmt} {reply : Reply stmt}
    (ran : exec reference context writes stmt = .ok (reply, wrote)) :
    (∀ write ∈ wrote, write.rowKey = none) ∨ ∃ write, wrote = [write] ∧ ∀ first ∈ writes, collide first write = false := by
  have product : ∀ {values : ProductValues} {done : Unit}, insertProduct reference context writes values =
      .ok (done, wrote) → ∀ first ∈ writes, collide first (.product values.row) = false := by
    intro values done put first mem
    obtain ⟨-, -, fresh⟩ := insertProduct_ok put
    cases first with
    | product other => exact sameRow_ne rfl rfl (fresh other mem)
    | _ => rfl
  have added : ∀ {values : AliasValues} {done : Unit}, insertAlias reference context writes values =
      .ok (done, wrote) → ∀ first ∈ writes, collide first (.alias (values.row context)) = false := by
    intro values done put first mem
    obtain ⟨-, admitted⟩ := insertAlias_ok put
    cases first with
    | «alias» other => exact sameRow_ne rfl rfl (admitted.fresh other mem)
    | _ => rfl
  cases stmt with
  | change edit =>
    rcases edit with values | values | id | id
    · exact .inr ⟨_, (insertProduct_ok ran).1, product ran⟩
    · exact .inr ⟨_, (insertAlias_ok ran).1, added ran⟩
    · obtain ⟨-, rfl⟩ := ok_inj ran
      split_ifs
      · exact .inr ⟨_, rfl, fun first _ => sameRow_none rfl⟩
      · exact .inl fun _ none => by cases none
    · obtain ⟨-, rfl⟩ := ok_inj ran
      split_ifs
      · exact .inr ⟨_, rfl, fun first _ => sameRow_none rfl⟩
      · exact .inl fun _ none => by cases none
  | insertItem values =>
    obtain ⟨-, rfl, -, fresh⟩ := insertItem_ok ran
    refine .inr ⟨_, rfl, fun first mem => ?_⟩
    cases first with
    | item other => exact sameRow_ne rfl rfl (fresh other mem)
    | _ => rfl
  | lockItem id =>
    obtain ⟨-, rfl⟩ | ⟨-, -, -, -, -, rfl⟩ := lockItem_ok reference ran
    · exact .inl fun _ none => by cases none
    · exact .inr ⟨_, rfl, fun first _ => sameRow_none rfl⟩
  | insertProduct values => exact .inr ⟨_, (insertProduct_ok ran).1, product ran⟩
  | insertAlias values => exact .inr ⟨_, (insertAlias_ok ran).1, added ran⟩
  | resolveItem id action actor productId =>
    obtain ⟨-, -, ran⟩ := bind_ok ran
    obtain ⟨-, rfl⟩ | ⟨-, -, -, -, -, -, rfl⟩ := updateItem_ok ran
    · exact .inl fun _ none => by cases none
    · exact .inr ⟨_, rfl, fun first _ => sameRow_none rfl⟩
  | dismissItem id actor =>
    obtain ⟨-, rfl⟩ | ⟨-, -, -, -, -, -, rfl⟩ := updateItem_ok ran
    · exact .inl fun _ none => by cases none
    · exact .inr ⟨_, rfl, fun first _ => sameRow_none rfl⟩
  | _ =>
    obtain ⟨-, rfl⟩ := ok_inj ran
    exact .inl fun _ none => by cases none

theorem unknownsServer_lawful (reference : Reference) :
    Lawful { unknownsServer reference with clash := collide } :=
  .of_rows fun _ _ _ _ _ ran => exec_rows ran

variable (reach : Reachable reference config)
include reach

/-- **No two committed rows of a table share an id.** -/
theorem Reachable.collideFree :
    config.ledger.Pairwise fun first second => collide first second = false :=
  ((Interleave.Reachable.weaken (fun _ _ => clash_of_collide) reach).clashFree
    (unknownsServer_lawful reference)).ledger

/-- **An item has one row.** -/
theorem Reachable.one_item {first second : UnknownItem}
    (inOne : .item first ∈ config.ledger) (inTwo : .item second ∈ config.ledger)
    (same : first.id = second.id) : first = second :=
  Write.item.inj (eq_of_sameRow reach.collideFree inOne inTwo rfl (by rw [same]; rfl))

theorem Reachable.fresh {pid : Nat}
    {before after : List (Nat × List Write)} (commits : config.commits = before ++ (pid, writes) :: after)
    (old : first ∈ contents before) (new : second ∈ writes) : collide first second = false := by
  have apart := pairwise_commit commits reach.collideFree old new
  exact apart

omit reach

end Keys

/-! ### Commits -/

section Commits

variable {call : Call} {id : Uuid} {log : Log}
variable {commits : List (Nat × List Write)} {update : Write}
variable {body : Body}

/-- **A commit is what its call did on what was committed before it.** -/
theorem Reachable.effect (reach : Reachable reference config)
    (commits : config.commits = before ++ (pid, writes) :: after) :
    ∃ proc body, config.procs[pid]? = some proc ∧ proc.result = some (.ok body) ∧
      Effect before proc.call proc.log body writes ∧ Held (unknownsServer reference) before proc.log ∧
      Ordered proc.log := by
  obtain ⟨proc, body, found, gave, rfl, ends, held, ordered⟩ := reach.commit_of clash_comm commits
  exact ⟨proc, body, found, gave, Operation.effect ends, held, ordered⟩

theorem clash_of_claims {first second : Write} (one : first.claims = some id)
    (two : second.claims = some id) : clash first second = true := by
  cases first <;> cases one <;> cases second <;> cases two <;> simp [clash]

theorem Effect.claimed (effect : Effect commits call log body writes) (member : update ∈ writes)
    (about : update.updated = some id) : ∃ claim ∈ writes, claim.claims = some id := by
  cases effect with
  | quiet unsettled locks =>
    have lock := locks update member
    cases update <;> cases about <;> cases lock
  | reopened entered =>
    rcases mem_cons.1 member with rfl | member
    · cases about
    · rw [mem_singleton.1 member] at about
      cases about
  | @reconciled item added action productId actor resolvedAt products body seen seen' holds names
      entered names' answers =>
      refine ⟨_, mem_cons_self, ?_⟩
      obtain ⟨product, -, -, ⟨rfl, -⟩ | rfl⟩ := names
      all_goals
        simp only [cons_append, nil_append, mem_cons, not_mem_nil, or_false]
          at member
      · rcases member with rfl | rfl | rfl <;> first | exact about | cases about
      · rcases member with rfl | rfl | rfl | rfl <;> first | exact about | cases about
  | dismissed holds =>
    rw [mem_singleton.1 member] at about
    cases about
    exact ⟨_, mem_singleton_self _, rfl⟩
  | _ =>
    rw [mem_singleton.1 member] at about
    cases about

theorem Reachable.claimed (reach : Reachable reference config)
    (inside : ∀ commit ∈ commits, commit ∈ config.commits) (mem : update ∈ contents commits)
    (about : update.updated = some id) : ∃ claim ∈ contents commits, claim.claims = some id := by
  obtain ⟨pid, writes, commit, mem⟩ := mem_contents.1 mem
  obtain ⟨before, after, split⟩ := append_of_mem (inside _ commit)
  obtain ⟨proc, body, -, -, effect, -, -⟩ := reach.effect split
  obtain ⟨claim, mem, claims⟩ := effect.claimed mem about
  exact ⟨claim, mem_contents.2 ⟨pid, writes, commit, mem⟩, claims⟩

/-- **An item whose row a transaction holds is still as it found it.** -/
theorem Reachable.still (reach : Reachable reference config) (commits : config.commits = before ++ after)
    {item : UnknownItem} {seen : Nat} (holds : HoldsItem before call log item seen)
    (held : Held (unknownsServer reference) before log) :
    item.after (contents before) = item.after (contents (before.take seen)) := by
  rw [contents_split before seen, UnknownItem.after_append]
  refine UnknownItem.after_untouched fun update since about => ?_
  rw [UnknownItem.after_id] at about
  obtain ⟨claim, later, claims⟩ := reach.claimed (fun commit mem => by
    rw [commits]
    exact mem_append_left _ (List.mem_of_mem_drop mem)) since about
  obtain ⟨stmt, reply, write, answered, claims'⟩ := holds.locked
  have apart := held _ _ _ _ answered _ later _ (mem_singleton_self _)
  rw [show (unknownsServer reference).clash claim write = true from clash_of_claims claims claims'] at apart
  cases apart

theorem Effect.updates (effect : Effect commits call log body writes) (member : update ∈ writes)
    (about : update.updated = some id) :
    (∃ item seen, HoldsItem commits call log item seen ∧ item.id = id) ∧
      writes.countP (fun write => write.updated = some id) ≤ 1 := by
  cases effect with
  | quiet unsettled locks =>
    have lock := locks update member
    cases update <;> cases about <;> cases lock
  | reopened entered =>
    rcases mem_cons.1 member with rfl | member
    · cases about
    · rw [mem_singleton.1 member] at about
      cases about
  | @reconciled item added action productId actor resolvedAt products body seen seen' holds names
      entered names' answers =>
      obtain ⟨product, -, -, ⟨rfl, -⟩ | rfl⟩ := names
      all_goals
        simp only [cons_append, nil_append, mem_cons, not_mem_nil, or_false]
          at member
      · rcases member with rfl | rfl | rfl <;> cases about
        exact ⟨⟨item, seen, holds, rfl⟩, by simp [Write.updated]⟩
      · rcases member with rfl | rfl | rfl | rfl <;> cases about
        exact ⟨⟨item, seen, holds, rfl⟩, by simp [Write.updated]⟩
  | @dismissed item row actor resolvedAt seen holds =>
    rw [mem_singleton.1 member] at about
    cases about
    exact ⟨⟨item, seen, holds, rfl⟩, List.countP_le_length⟩
  | _ =>
    rw [mem_singleton.1 member] at about
    cases about

/-- **Whoever updates an item finds it pending.** -/
theorem Reachable.pending_of_update (reach : Reachable reference config)
    (commits : config.commits = before ++ (pid, writes) :: after) (mem : update ∈ writes)
    (about : update.updated = some id) :
    ∃ item, .item item ∈ contents before ∧ item.id = id ∧
      (item.after (contents before)).isPending = true := by
  obtain ⟨proc, body, -, -, effect, held, -⟩ := reach.effect commits
  obtain ⟨⟨item, seen, holds, same⟩, -⟩ := effect.updates mem about
  refine ⟨item, contents_take holds.present, same, ?_⟩
  rw [reach.still commits holds held]
  exact holds.pending

theorem Effect.entered {commits : List (Nat × List Write)} {body : Body}
    (effect : Effect commits call log body writes) {row : UnknownItem} (member : .item row ∈ writes) :
    (∃ seen, ItemEntered commits call log row seen) ∧
      (body = .captured (.unknown row true) ∨ body = .reopened (.ok row true)) ∧
      ∃ locks, writes = locks ++ [.item row] ∧ ∀ write ∈ locks, write.isLock = true := by
  cases effect with
  | quiet unsettled locks => cases locks _ member
  | captured entered =>
    cases mem_singleton.1 member
    exact ⟨⟨_, entered⟩, .inl rfl, [], rfl, fun _ none => by cases none⟩
  | @reopened row' seen itemId entered =>
    rcases mem_cons.1 member with same | member
    · cases same
    cases mem_singleton.1 member
    refine ⟨⟨_, entered⟩, .inr rfl, [.lock itemId], rfl, fun write lock => ?_⟩
    rw [mem_singleton.1 lock]
    rfl
  | reconciled holds names entered names' answers =>
    obtain ⟨product, -, -, ⟨rfl, -⟩ | rfl⟩ := names
    · simp at member
    · simp at member
  | _ => cases mem_singleton.1 member

theorem Reachable.inserted_pending (reach : Reachable reference config) {row : UnknownItem}
    (mem : .item row ∈ config.ledger) : row.isPending = true := by
  obtain ⟨pid, writes, commit, mem⟩ := mem_contents.1 mem
  obtain ⟨before, after, split⟩ := append_of_mem commit
  obtain ⟨proc, body, -, -, effect, -, -⟩ := reach.effect split
  obtain ⟨⟨seen, entered⟩, -, -⟩ := effect.entered mem
  exact entered.pending

end Commits

/-! ### An item is updated at most once -/

section Once

variable {row : UnknownItem}

/-- **An item is pending until an UPDATE is about it.** -/
theorem UnknownItem.after_isPending :
    (row.after writes).isPending =
      (row.isPending && writes.all fun write => write.updated ≠ some row.id) := by
  induction writes generalizing row with
  | nil => simp
  | cons write rest ih =>
    show ((row.apply write).after rest).isPending = _
    rw [ih, UnknownItem.apply_id, all_cons]
    by_cases about : write.updated = some row.id
    · simp [UnknownItem.apply_updated about, about]
    · rw [UnknownItem.apply_untouched about]
      simp [about]

def updates (writes : List Write) (id : Uuid) : Nat :=
  writes.countP fun write => write.updated = some id

theorem updates_append {more : List Write} {id : Uuid} :
    updates (writes ++ more) id = updates writes id + updates more id := countP_append

theorem updates_of_pending (pending : (row.after writes).isPending = true) : updates writes row.id = 0 := by
  rw [UnknownItem.after_isPending, and_eq_true, all_eq_true] at pending
  refine countP_eq_zero.2 fun write mem about => ?_
  exact of_decide_eq_true (pending.2 write mem) (of_decide_eq_true about)

/-- **An item is updated at most once.** -/
theorem Reachable.updated_once (reach : Reachable reference config) (id : Uuid) : updates config.ledger id ≤
    1 := by
  refine prefix_induction (fun before => updates (contents before) id ≤ 1) (Nat.zero_le 1)
    (fun before commit after commits once => ?_) config.commits [] (append_nil _).symm
  obtain ⟨pid, writes⟩ := commit
  show updates (contents (before ++ [(pid, writes)])) id ≤ 1
  rw [contents_append, contents_cons, contents_nil, append_nil, updates_append]
  by_cases touched : ∃ update ∈ writes, update.updated = some id
  · obtain ⟨update, mem, about⟩ := touched
    obtain ⟨item, -, same, pending⟩ := reach.pending_of_update commits mem about
    obtain ⟨proc, body, -, -, effect, -, -⟩ := reach.effect commits
    rw [← same, updates_of_pending pending, Nat.zero_add, same]
    exact (effect.updates mem about).2
  · have none : updates writes id = 0 :=
      countP_eq_zero.2 fun write mem about => touched ⟨write, mem, of_decide_eq_true about⟩
    rw [none]
    exact once

/-- **Once an item is not pending, its row is never changed.** -/
theorem Reachable.frozen (reach : Reachable reference config) (commits : config.commits = before ++ after)
    (mem : .item row ∈ contents before) (reconciled : (row.after (contents before)).isPending = false) :
    row.after config.ledger = row.after (contents before) := by
  have whole : config.ledger = contents before ++ contents after := by
    rw [Config.ledger, commits, contents_append]
  have there : .item row ∈ config.ledger := mem_ledger commits mem
  have added := reach.inserted_pending there
  have once := reach.updated_once row.id
  rw [whole, updates_append] at once
  have touched : 0 < updates (contents before) row.id := by
    refine List.countP_pos_iff.2 ?_
    rw [UnknownItem.after_isPending, added, Bool.true_and, List.all_eq_false] at reconciled
    obtain ⟨update, inside, about⟩ := reconciled
    exact ⟨update, inside, by simpa using about⟩
  have none : updates (contents after) row.id = 0 := by
    omega
  rw [whole, UnknownItem.after_append, UnknownItem.after_untouched]
  intro update inside about
  rw [UnknownItem.after_id] at about
  exact countP_eq_zero.1 none update inside (decide_eq_true about)

theorem pending_before {row : UnknownItem} {more : List Write}
    (pending : (row.after (writes ++ more)).isPending = true) : (row.after writes).isPending = true := by
  rw [UnknownItem.after_isPending, and_eq_true, List.all_append, and_eq_true] at pending
  rw [UnknownItem.after_isPending, pending.1, pending.2.1]
  rfl

theorem Reachable.entered_pending (reach : Reachable reference config)
    (commits : config.commits = before ++ (pid, writes) :: after) (mem : .item row ∈ writes) :
    (row.after (contents before ++ writes)).isPending = true := by
  obtain ⟨proc, body, -, -, effect, -, -⟩ := reach.effect commits
  obtain ⟨⟨seen, entered⟩, -, locks, rfl, calm⟩ := effect.entered mem
  rw [UnknownItem.after_isPending, entered.pending, Bool.true_and]
  refine all_eq_true.2 fun update inside => decide_eq_true fun about => ?_
  rcases mem_append.1 inside with old | new
  · -- what was updated before has another id
    obtain ⟨pid', writes', commit, inside⟩ := mem_contents.1 old
    obtain ⟨prior, later, split⟩ := append_of_mem commit
    obtain ⟨item, there, same, -⟩ := reach.pending_of_update
      (commits.trans (by rw [split, append_assoc, cons_append])) inside about
    have apart := reach.fresh commits (by
      rw [split, contents_append]
      exact mem_append_left _ there) mem
    simp [sameRow, Write.rowKey, same] at apart
  · rcases mem_append.1 new with lock | row
    · have calm := calm update lock
      cases update <;> cases about <;> cases calm
    · rw [mem_singleton.1 row] at about
      cases about

end Once

end DataPulse.Unknowns
