/-
**The drainer and its connection pool.**

A tick handles the rows of its batch at the same time, each in a transaction of its own, and hands the
pool itself to the consumers: a consumer that opens a transaction holds its drainer's connection while
it waits for another one.

* `never_exhausted_iff`: when a tick can come to a state in which every connection is held by a row
  that waits for another one, and so nothing goes on any more.

The pool has `max` connections and waits for one as long as it takes, as `pg` does unless configured
otherwise.
-/

import DataPulse.Lib.Pool
import DataPulse.Outbox.Drainer

namespace DataPulse.Outbox

open Lib Lib.Pool

/-! ### Transactions -/

/-- What a piece of code does with the pool; it releases what it has acquired. -/
structure Plan where
  uses : List Use
  wellFormed : WellFormed 0 uses

/-- `pool.connect()`, the work, and `client.release()` at its end. -/
def runWithTenantContext (work : List Use) : List Use := .acquire :: (work ++ [.release])

theorem wellFormed_more {held : Nat} {work rest : List Use} (wellFormed : WellFormed held work)
    (any : ∀ held, WellFormed held rest) : WellFormed (held + 1) (work ++ .release :: rest) := by
  induction work generalizing held with
  | nil => exact any held
  | cons use work ih =>
    cases use with
    | acquire => exact ih wellFormed
    | release =>
      cases held with
      | zero => cases wellFormed
      | succ held => exact ih wellFormed

def Plan.transaction (work : Plan) : Plan :=
  ⟨runWithTenantContext work.uses, wellFormed_more work.wellFormed fun _ => trivial⟩

def Plan.none : Plan := ⟨[], trivial⟩

/-! ### Rows -/

/-- What `processRow` does with the pool: the transaction around the consumer, and that of the mark.
A row without a consumer has only its mark, unless `markFailed` throws. -/
def uses (registry : OutboxConsumerRegistry) (handle : ClaimedOutboxEvent → Plan)
    (row : ClaimedOutboxEvent) : List Use :=
  match registry.resolve row.eventType with
  | some _ => runWithTenantContext (handle row).uses ++ runWithTenantContext []
  | none => if row.attempts < MAX_ATTEMPTS then runWithTenantContext [] else []

theorem wellFormed_mark (held : Nat) : WellFormed held (runWithTenantContext []) := trivial

theorem uses_wellFormed (registry : OutboxConsumerRegistry) (handle : ClaimedOutboxEvent → Plan)
    (row : ClaimedOutboxEvent) : WellFormed 0 (uses registry handle row) := by
  unfold uses
  split
  · show WellFormed 1 ((handle row).uses ++ [.release] ++ runWithTenantContext [])
    rw [append_assoc]
    exact wellFormed_more (handle row).wellFormed wellFormed_mark
  · split_ifs
    · exact wellFormed_mark 0
    · trivial

/-- The most connections a row holds while it waits for another one. -/
def holding (registry : OutboxConsumerRegistry) (handle : ClaimedOutboxEvent → Plan)
    (row : ClaimedOutboxEvent) : Nat := demand 0 (uses registry handle row)

def tickPool (max : Nat) (registry : OutboxConsumerRegistry) (handle : ClaimedOutboxEvent → Plan)
    (batch : List ClaimedOutboxEvent) : Machine State Pool.Event :=
  pool max (batch.map (uses registry handle))

theorem tick_exhausts_iff {max : Nat} {registry : OutboxConsumerRegistry} {handle : ClaimedOutboxEvent → Plan}
    {batch : List ClaimedOutboxEvent} :
    (∃ state, (tickPool max registry handle batch).Reachable state ∧ Exhausted max state) ↔
      max ≤ (batch.map (holding registry handle)).sum := by
  have wellFormed : ∀ trace ∈ batch.map (uses registry handle), WellFormed 0 trace := by
    intro trace mem
    obtain ⟨row, -, rfl⟩ := mem_map.1 mem
    exact uses_wellFormed registry handle row
  unfold tickPool
  rw [exhausted_iff wellFormed, map_map]
  rfl

/-- **A tick never exhausts the pool by rows that wait for more of it, if and only if what its rows
hold while they wait stays below the size of the pool.** -/
theorem never_exhausted_iff (max : Nat) (registry : OutboxConsumerRegistry)
    (handle : ClaimedOutboxEvent → Plan) (batch : List ClaimedOutboxEvent) :
    (∀ state, (tickPool max registry handle batch).Reachable state → ¬ Exhausted max state) ↔
      (batch.map (holding registry handle)).sum < max := by
  rw [← Nat.not_le, ← @tick_exhausts_iff max registry handle batch]
  exact ⟨fun never ⟨state, reach, exhausted⟩ => never state reach exhausted,
    fun never state reach exhausted => never ⟨state, reach, exhausted⟩⟩

/-! ### The consumers of the worker -/

/-- The `max` of a `pg` pool when none is given. -/
def DEFAULT_POOL_MAX : Nat := 10

/-- What the worker's consumers do with the pool for an event they accept: a posting request and a
product reconciliation open a transaction, a reconciliation opens a further one inside it, to read
the bin view, and the other consumers only add a job to a queue. -/
def workerHandle (row : ClaimedOutboxEvent) : Plan :=
  if row.eventType = "erpnext.posting.requested" ∨
      row.eventType = "erpnext.product_reconciliation.requested" then Plan.none.transaction
  else if row.eventType = "erpnext.reconciliation.requested" then Plan.none.transaction.transaction
  else Plan.none

def tenPostings : List ClaimedOutboxEvent := (List.range 10).map fun n =>
  { (OutboxEvent.sample "erpnext.posting.requested" 1).toClaimed with eventId := .numbered n }

/-- **Ten posting requests claimed by one tick can block the worker for good.** -/
theorem ten_postings_block :
    tenPostings.length ≤ 50 ∧
      ∃ state, (tickPool DEFAULT_POOL_MAX workerRegistry workerHandle tenPostings).Reachable state ∧
      Exhausted DEFAULT_POOL_MAX state := by
  refine ⟨by decide, tick_exhausts_iff.2 ?_⟩
  decide +kernel

end DataPulse.Outbox
