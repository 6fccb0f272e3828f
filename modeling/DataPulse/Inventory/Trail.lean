/-
**The trail of the ledger.**

Every committed movement is announced by one event and covered by one audit row, whatever mixture of
first runs, replays, failures and interleavings led there (`trail_exact`). A replay finds its key
taken: two movements of one tenant never share a key (`Reachable.keys_apart`), so what a commit adds
was not there before it.
-/

import DataPulse.Inventory.Runs
import DataPulse.Lib.Logs

namespace DataPulse.Inventory

open Lib Lib.Interleave Platform

variable {reference : Reference} {config : Config}
variable {movement : Movement} {proc : Proc}
variable {before after : List (Nat × List Row)} {writes : List Row} {context : TenantContext}
  {key : String × String} {pid : Nat}

theorem contents_commit (before after : List (Nat × List Row)) (pid : Nat) (writes : List Row) :
    contents (before ++ (pid, writes) :: after) = contents before ++ (writes ++ contents after) := by
  rw [contents_append]
  rfl

theorem ledger_grows {config' : Config} (later : Later (inventory reference) config config') :
    ∃ more, config'.ledger = config.ledger ++ more := by
  obtain ⟨more, commits⟩ := later.commits
  exact ⟨contents more, by rw [Config.ledger, commits, contents_append]; rfl⟩

theorem clash_of_keyed {first second : Movement} (one : Keyed context key first)
    (two : Keyed context key second) : clash (.movement first) (.movement second) = true := by
  have tenant : first.tenantId = second.tenantId := Option.some.inj (one.1.trans two.1.symm)
  simp [clash, Movement.sameKey, one.2, two.2, tenant]

variable (reach : Reachable reference config)
include reach

/-- **A commit adds no movement under a key that was taken.** -/
theorem Reachable.keys_apart
    (commits : config.commits = before ++ (pid, writes) :: after) {old new : Movement}
    (taken : old ∈ movementsOf (contents before)) (oldKey : Keyed context key old)
    (newKey : Keyed context key new) : new ∉ movementsOf writes := by
  intro added
  have apart := pairwise_commit commits (reach.clashFree (inventory_lawful reference)).ledger
    (mem_movementsOf.1 taken) (mem_movementsOf.1 added)
  rw [show (inventory reference).clash (.movement old) (.movement new) = true from
    clash_of_keyed oldKey newKey] at apart
  cases apart

theorem Reachable.drawn_committed
    (mem : movement ∈ movementsOf config.ledger) (found : config.procs[pid]? = some proc)
    (drew : movement.id ∈ drawn proc.log) : pid ∈ config.commits.map Prod.fst := by
  obtain ⟨deeds, ⟨rows, -⟩, known, -⟩ := reach.deeds
  rw [Config.ledger, rows, mem_movementsOf, mem_flatMap] at mem
  obtain ⟨deed, inDeeds, inDeed⟩ := mem
  have key := Deed.refs_keys (mem_movementsOf.2 inDeed) movement.id mem_cons_self
  obtain ⟨other, kept, proc', found', drew'⟩ := known movement.id (mem_flatMap.2 ⟨deed, inDeeds, key⟩)
  by_cases same : pid = other
  · rw [same]
    exact kept
  · exact absurd drew' (reach.drawnOnce.apart pid other proc proc' found found' same drew)

/-- **A client that threw left no movement.** -/
theorem Reachable.threw_none {error : Thrown}
    (found : config.procs[pid]? = some proc) (threw : proc.result = some (.error error))
    (mem : movement ∈ movementsOf config.ledger) : movement.id ∉ drawn proc.log := by
  intro drew
  have kept := reach.drawn_committed mem found drew
  obtain ⟨⟨pid', writes⟩, commit, rfl⟩ := mem_map.1 kept
  obtain ⟨proc', value, found', gave, -⟩ := reach.booked.committed pid' writes commit
  obtain rfl := mem_unique found found'
  rw [threw] at gave
  cases gave

omit reach

theorem MovementValues.Gives.inTenant {values : MovementValues} {call : Call} (gives : values.Gives movement)
    (same : call.operation.tenantId = values.tenantId) : some movement.tenantId = call.context.tenant := by
  rw [call.context_tenant, same, gives.tenant]

/-- The call is a backfill whose key is taken among the rows. -/
def Call.replays (call : Call) (rows : List Row) : Prop :=
  match call.operation with
  | .backfillSaleLinkedOutbound input | .backfillRestockInbound input =>
    ∃ movement ∈ movementsOf rows,
      Keyed call.context (trim input.sourceSystem, trim input.externalId) movement
  | _ => False

/-- **A backfill whose key is taken commits nothing.** -/
theorem Reachable.replay_none (reach : Reachable reference config)
    (commits : config.commits = before ++ (pid, writes) :: after) (found : config.procs[pid]? = some proc)
    (replays : proc.call.replays (contents before)) : writes = [] := by
  obtain ⟨proc', body, found', -, same, ends⟩ := reach.commit commits
  obtain rfl := mem_unique found found'
  have none : ∀ (kind : BackfillKind) (input : BackfillInput) (result : StockMovementBody),
      Finishes (inventory reference) before proc.call [] (kind.backfill input) proc.log (.ok result) →
      proc.call.operation.tenantId = input.tenantId → (∃ movement ∈ movementsOf (contents before),
          Keyed proc.call.context (trim input.sourceSystem, trim input.externalId) movement) →
      writes = [] := by
    rintro kind input result goes tenant ⟨old, taken, oldKey⟩
    obtain ⟨checked, -, ⟨deed, ids, read, wrote, -⟩ | ⟨existing, ids, wrote, -⟩⟩ :=
      BackfillKind.backfill_effect goes
    · have gives := MovementValues.row_ok read
      have newKey : Keyed proc.call.context (trim input.sourceSystem, trim input.externalId)
          deed.movement := ⟨gives.inTenant tenant, gives.provenance⟩
      refine absurd ?_ (reach.keys_apart commits taken oldKey newKey)
      rw [same, wrote.written]
      exact mem_movementsOf.2 mem_cons_self
    · rw [same, wrote.written]
  cases op : proc.call.operation with
  | backfillSaleLinkedOutbound input | backfillRestockInbound input =>
    have goes := ends.finishes
    rw [inventory_program, op] at goes
    simp only [op, Call.replays] at replays
    obtain ⟨result, -, goes⟩ := returns_map goes
    exact none _ input result goes (by rw [op]; rfl) replays
  | _ => simp [Call.replays, op] at replays

/-- The lines a job appended. -/
structure Appended (reference : Reference) (job : InventoryBackfillJob) (context : TenantContext)
    (rows writes : List Row) (deeds : List (SaleLine × Moved)) : Prop where
  wrote : writes = deeds.flatMap fun deed => deed.2.rows
  among : ∃ saleId storeId, Uuid.ofText job.saleId = some saleId ∧
    Uuid.ofText job.storeId = some storeId ∧ (deeds.map Prod.fst).Sublist
      (InventoryBackfillJob.linesOf reference context saleId storeId)
  keyed : ∀ deed ∈ deeds, Keyed context (job.sourceSystem, deed.1.id.text) deed.2.movement
  absent : ∀ deed ∈ deeds, ¬ job.Present context rows deed.1

/-- **A backfill job commits one movement, audit row and event for each of its lines that was not there,
and nothing for the others.** -/
theorem Reachable.job_commits (reach : Reachable reference config) {job : InventoryBackfillJob}
    (commits : config.commits = before ++ (pid, writes) :: after) (found : config.procs[pid]? = some proc)
    (op : proc.call.operation = .process job) :
    ∃ deeds, Appended reference job proc.call.context (contents before) writes deeds := by
  obtain ⟨proc', body, found', -, same, ends⟩ := reach.commit commits
  obtain rfl := mem_unique found found'
  have goes := ends.finishes
  rw [inventory_program, op] at goes
  obtain ⟨result, -, goes⟩ := returns_map goes
  obtain ⟨saleId, storeId, appended, deeds, -, sale, store, done, -⟩ := process_effect goes
  have wrote := same.trans done.wrote
  have keyed : ∀ deed ∈ deeds, Keyed proc.call.context (job.sourceSystem, deed.1.id.text) deed.2.movement := by
    intro deed mem
    have gives := MovementValues.row_ok (done.reads deed mem)
    exact ⟨gives.inTenant (by rw [op]; rfl), gives.provenance⟩
  refine ⟨deeds, wrote, ⟨saleId, storeId, sale, store, done.among⟩, keyed, ?_⟩
  rintro deed mem ⟨old, taken, oldKey⟩
  refine reach.keys_apart commits taken oldKey (keyed deed mem) ?_
  rw [wrote, mem_movementsOf, mem_flatMap]
  exact ⟨deed, mem, mem_cons_self⟩

/-- **Exactly one event and one audit row for each movement.** In every run: each committed movement is
named by one event and covered by one audit row; rows are only ever added; a backfill whose key is
taken commits nothing, and a job commits nothing for a line whose key is; a call that threw left no
movement. -/
theorem trail_exact (reachable : Reachable reference config) :
    (∀ movement ∈ movementsOf config.ledger, namings movement config.ledger = 1 ∧
        coverings movement config.ledger = 1) ∧
      (∀ config', Later (inventory reference) config config' →
          ∃ more, config'.ledger = config.ledger ++ more) ∧
      (∀ before pid writes after proc,
          config.commits = before ++ (pid, writes) :: after → config.procs[pid]? = some proc →
          (proc.call.replays (contents before) → writes = []) ∧
          ∀ job, proc.call.operation = .process job →
          ∃ deeds, Appended reference job proc.call.context (contents before) writes deeds) ∧
      (∀ (pid : Nat) (proc : Proc) (error : Thrown),
        config.procs[pid]? = some proc → proc.result = some (.error error) →
        ∀ movement ∈ movementsOf config.ledger, movement.id ∉ drawn proc.log) := by
  refine ⟨fun movement mem => reachable.movement_once mem, fun config' later => ledger_grows later, ?_, ?_⟩
  · intro before pid writes after proc commits found
    exact ⟨reachable.replay_none commits found, fun job op => reachable.job_commits commits found op⟩
  · intro pid proc error found threw movement mem
    exact reachable.threw_none found threw mem

theorem trail_exact_sample :
    ∃ config, run (inventory .sample) sampleEvents = some config ∧
      ∃ movement ∈ movementsOf config.ledger, namings movement config.ledger = 1 ∧
      coverings movement config.ledger = 1 := by
  obtain ⟨config, ran, units⟩ := sampleEvents_run
  refine ⟨config, ran, ?_⟩
  cases movements : movementsOf config.ledger with
  | nil =>
    rw [movements] at units
    cases units
  | cons movement rest =>
    refine ⟨movement, mem_cons_self, ?_⟩
    exact (trail_exact (run_reachable (inventory .sample) ran)).1 movement (movements ▸ mem_cons_self)

end DataPulse.Inventory
