/-
**The ledger as a list of deeds.**

* `deeds_of_call`: what a returned call wrote is a list of deeds, whose identifiers it drew.
-/

import DataPulse.Inventory.Effects

namespace DataPulse.Inventory

open Lib Lib.Interleave Platform

variable {movement : Movement}
variable {deed : Deed}

abbrev Config := Interleave.Config Stmt Reply Uuid Thrown PgError Row Call Body

abbrev Proc := Interleave.Proc Stmt Reply Uuid Thrown PgError Row Call Body

section Calls

variable {reference : Reference} {commits : List (Nat × List Row)} {call : Call} {log : Log}
variable {ids : List Uuid}

def Deed.From (operation : Operation) : Deed → Prop
  | .transferred deed => ∃ input, operation = .createStockTransfer input ∧
      Uuid.ofText input.sourceStoreId = some deed.outbound.storeId ∧
      Uuid.ofText input.destinationStoreId = some deed.inbound.storeId
  | _ => True

/-- The deeds of an operation: a log wrote their rows and drew their identifiers. -/
structure WroteDeeds (operation : Operation) (log : Log) (deeds : List Deed) : Prop where
  rows : written log = deeds.flatMap Deed.rows
  keys : (deeds.flatMap Deed.keys).Sublist (drawn log)
  origin : ∀ deed ∈ deeds, deed.From operation

variable {operation : Operation}

theorem WroteDeeds.nil (wrote : Wrote log [] ids) : WroteDeeds operation log [] :=
  ⟨wrote.written, nil_sublist _, fun _ none => by cases none⟩

theorem WroteDeeds.single {deed : Deed} (wrote : Wrote log deed.rows ids) (keys : deed.keys.Sublist ids)
    (origin : deed.From operation) : WroteDeeds operation log [deed] := by
  refine ⟨?_, ?_, ?_⟩
  · rw [wrote.written, List.flatMap_singleton]
  · rw [wrote.drawn, List.flatMap_singleton]
    exact keys
  · intro other mem
    rw [mem_singleton.1 mem]
    exact origin

/-- **What a returned call wrote is a list of deeds.** -/
theorem deeds_of_call {body : Body}
    (ends : Finishes (inventory reference) commits call [] call.operation.program log (.ok body)) :
    ∃ deeds, WroteDeeds call.operation log deeds := by
  cases operation : call.operation with
  | createStockMovement input =>
    rw [operation] at ends
    obtain ⟨result, -, ends⟩ := returns_map ends
    obtain ⟨checked, deed, ids, -, -, wrote, -⟩ := createStockMovement_effect ends
    exact ⟨[.moved deed], .single wrote ((nil_sublist ids).cons_cons _) trivial⟩
  | createStockTransfer input =>
    rw [operation] at ends
    obtain ⟨result, -, ends⟩ := returns_map ends
    obtain ⟨checked, deed, ids, -, source, destination, -, wrote, -⟩ := createStockTransfer_effect ends
    exact ⟨[.transferred deed], .single wrote ((((nil_sublist ids).cons_cons _).cons_cons _).cons_cons _)
      ⟨input, rfl, source, destination⟩⟩
  | recordStockCount input =>
    rw [operation] at ends
    obtain ⟨result, -, ends⟩ := returns_map ends
    obtain ⟨checked, deed, sum, seen, auditId, eventIds, -, -, -, -, -, -, wrote, -⟩ :=
      recordStockCount_effect ends
    exact ⟨[.counted deed],
      .single wrote (((List.sublist_append_left _ eventIds).cons auditId).cons_cons _) trivial⟩
  | backfillSaleLinkedOutbound input | backfillRestockInbound input =>
    rw [operation] at ends
    obtain ⟨result, -, ends⟩ := returns_map ends
    obtain ⟨checked, -, ⟨deed, ids, -, wrote, -⟩ | ⟨old, ids, wrote, -⟩⟩ := BackfillKind.backfill_effect ends
    · exact ⟨[.moved deed], .single wrote ((nil_sublist ids).cons_cons _) trivial⟩
    · exact ⟨[], .nil wrote⟩
  | process job =>
    rw [operation] at ends
    obtain ⟨result, -, ends⟩ := returns_map ends
    obtain ⟨saleId, storeId, appended, deeds, -, -, -, done, -⟩ := process_effect ends
    refine ⟨deeds.map fun deed => .moved deed.2, ?_, ?_, ?_⟩
    · rw [done.wrote, List.flatMap_map]
      rfl
    · rw [List.flatMap_map]
      have ids := done.drew
      rw [List.map_eq_flatMap] at ids
      exact ids
    · intro deed mem
      obtain ⟨line, -, rfl⟩ := mem_map.1 mem
      trivial

end Calls

/-! ### Deeds and their identifiers -/

/-- The identifiers a movement stands under: its own, its transfer's and its count's. -/
def Movement.refs (movement : Movement) : List Uuid :=
  movement.id :: (movement.transferGroupId.toList ++ movement.stockCountId.toList)

def OutboxEvent.names (event : OutboxEvent) (movement : Movement) : Bool :=
  event.eventType = inventoryMovementCreated && movement.id ∈ event.payload.movementIds

/-- The audit row covers the movement: it is about the movement, its transfer or its count. -/
def AuditEvent.covers (audit : AuditEvent) (movement : Movement) : Bool :=
  (audit.targetType = "stock_movement" && audit.targetId = movement.id) ||
    (audit.targetType = "stock_transfer" && some audit.targetId = movement.transferGroupId) ||
    (audit.targetType = "stock_count" && some audit.targetId = movement.stockCountId)

def namings (movement : Movement) (rows : List Row) : Nat :=
  (eventsOf rows).countP fun event => event.names movement

def coverings (movement : Movement) (rows : List Row) : Nat :=
  (auditsOf rows).countP fun audit => audit.covers movement

theorem namings_append (movement : Movement) (first second : List Row) :
    namings movement (first ++ second) = namings movement first + namings movement second := by
  rw [namings, eventsOf_append, countP_append]
  rfl

theorem coverings_append (movement : Movement) (first second : List Row) :
    coverings movement (first ++ second) = coverings movement first + coverings movement second := by
  rw [coverings, auditsOf_append, countP_append]
  rfl

theorem Deed.refs_keys (mem : movement ∈ movementsOf deed.rows) : ∀ id ∈ movement.refs, id ∈ deed.keys := by
  intro id inRefs
  cases deed with
  | moved deed =>
    have same : movement = deed.movement := by
      simpa [Deed.rows, Moved.rows, movementsOf] using mem
    simpa [same, Movement.refs, deed.alone, Deed.keys] using inRefs
  | transferred deed =>
    have same : movement = deed.outbound ∨ movement = deed.inbound := by
      simpa [Deed.rows, Transferred.rows, movementsOf] using mem
    rcases same with same | same
    · have own : id = deed.outbound.id ∨ id = deed.group := by
        simpa [same, Movement.refs, deed.grouped, deed.uncounted, eq_comm] using inRefs
      rcases own with rfl | rfl <;> simp [Deed.keys]
    · have own : id = deed.inbound.id ∨ id = deed.group := by
        simpa [same, Movement.refs, deed.grouped, deed.uncounted, eq_comm] using inRefs
      rcases own with rfl | rfl <;> simp [Deed.keys]
  | counted deed =>
    cases correction : deed.correction with
    | none => simp [Deed.rows, Counted.rows, correction, movementsOf] at mem
    | some c =>
      have same : movement = c.movement := by
        simpa [Deed.rows, Counted.rows, correction, movementsOf] using mem
      have own : id = c.movement.id ∨ id = deed.count.id := by
        simpa [same, Movement.refs, c.linked, c.ungrouped, eq_comm] using inRefs
      rcases own with rfl | rfl <;> simp [Deed.keys, correction]

theorem Deed.names_keys {event : OutboxEvent} (mem : event ∈ eventsOf deed.rows)
    (names : event.names movement = true) : movement.id ∈ deed.keys := by
  have named : movement.id ∈ event.payload.movementIds := by
    rw [OutboxEvent.names, and_eq_true] at names
    exact of_decide_eq_true names.2
  cases deed with
  | moved deed =>
    have same : event = deed.event := by
      simpa [Deed.rows, Moved.rows, eventsOf] using mem
    simpa [same, deed.announced, Deed.keys] using named
  | transferred deed =>
    have same : event = deed.event := by
      simpa [Deed.rows, Transferred.rows, eventsOf] using mem
    rw [same, deed.announced.2] at named
    exact mem_cons_of_mem _ named
  | counted deed =>
    cases correction : deed.correction with
    | none => simp [Deed.rows, Counted.rows, correction, eventsOf] at mem
    | some c =>
      have same : event = c.event := by
        simpa [Deed.rows, Counted.rows, correction, eventsOf] using mem
      rw [same, c.announced.2] at named
      simpa [Deed.keys, correction] using Or.inr (mem_singleton.1 named)

theorem Deed.covers_keys {audit : AuditEvent} (mem : audit ∈ auditsOf deed.rows)
    (covers : audit.covers movement = true) : ∃ id ∈ movement.refs, id ∈ deed.keys := by
  have target : audit.targetId ∈ deed.keys := by
    cases deed with
    | moved deed =>
      have same : audit = deed.audit := by
        simpa [Deed.rows, Moved.rows, auditsOf] using mem
      simp [same, deed.audited, Deed.keys]
    | transferred deed =>
      have same : audit = deed.audit := by
        simpa [Deed.rows, Transferred.rows, auditsOf] using mem
      simp [same, deed.audited, Deed.keys]
    | counted deed =>
      have same : audit = deed.audit := by
        cases correction : deed.correction <;>
          simpa [Deed.rows, Counted.rows, correction, auditsOf] using mem
      simp [same, deed.audited, Deed.keys]
  refine ⟨audit.targetId, ?_, target⟩
  simp only [AuditEvent.covers, or_eq_true, and_eq_true, decide_eq_true_eq] at covers
  rcases covers with (⟨-, same⟩ | ⟨-, same⟩) | ⟨-, same⟩
  · simp [Movement.refs, same]
  · simp [Movement.refs, ← same]
  · simp [Movement.refs, ← same]

/-- **A movement has one event and one audit row in its own deed.** -/
theorem Deed.own_once (mem : movement ∈ movementsOf deed.rows) :
    namings movement deed.rows = 1 ∧ coverings movement deed.rows = 1 := by
  cases deed with
  | moved deed =>
    have same : movement = deed.movement := by
      simpa [Deed.rows, Moved.rows, movementsOf] using mem
    simp [namings, coverings, Deed.rows, Moved.rows, eventsOf, auditsOf, OutboxEvent.names,
      AuditEvent.covers, same, deed.announced, deed.audited]
  | transferred deed =>
    have same : movement = deed.outbound ∨ movement = deed.inbound := by
      simpa [Deed.rows, Transferred.rows, movementsOf] using mem
    rcases same with same | same <;>
      simp [namings, coverings, Deed.rows, Transferred.rows, eventsOf, auditsOf,
        OutboxEvent.names, AuditEvent.covers, same, deed.announced, deed.audited, deed.grouped]
  | counted deed =>
    cases correction : deed.correction with
    | none => simp [Deed.rows, Counted.rows, correction, movementsOf] at mem
    | some c =>
      have same : movement = c.movement := by
        simpa [Deed.rows, Counted.rows, correction, movementsOf] using mem
      simp [namings, coverings, Deed.rows, Counted.rows, correction, eventsOf, auditsOf,
        OutboxEvent.names, AuditEvent.covers, same, c.announced, deed.audited, c.linked]

theorem Deed.other_none (apart : ∀ id ∈ movement.refs, id ∉ deed.keys) :
    namings movement deed.rows = 0 ∧ coverings movement deed.rows = 0 := by
  constructor
  · refine countP_eq_zero.2 fun event mem names => ?_
    exact apart movement.id mem_cons_self (Deed.names_keys mem names)
  · refine countP_eq_zero.2 fun audit mem covers => ?_
    obtain ⟨id, inRefs, inKeys⟩ := Deed.covers_keys mem covers
    exact apart id inRefs inKeys

/-- Rows that are those of deeds, none of whose identifiers occurs twice. -/
structure Deeds (rows : List Row) (deeds : List Deed) : Prop where
  rows : rows = deeds.flatMap Deed.rows
  once : (deeds.flatMap Deed.keys).Nodup

theorem others_none {deeds : List Deed} (apart : ∀ id ∈ movement.refs, id ∉ deeds.flatMap Deed.keys) :
    namings movement (deeds.flatMap Deed.rows) = 0 ∧ coverings movement (deeds.flatMap Deed.rows) = 0 := by
  induction deeds with
  | nil => exact ⟨rfl, rfl⟩
  | cons deed rest ih =>
    have first := Deed.other_none fun id inRefs inKeys => apart id inRefs (mem_append_left _ inKeys)
    have others := ih fun id inRefs inKeys => apart id inRefs (mem_append_right _ inKeys)
    rw [flatMap_cons, namings_append, coverings_append, first.1, first.2, others.1, others.2]
    exact ⟨rfl, rfl⟩

/-- **Each movement of the deeds has one event and one audit row.** -/
theorem movement_once {deeds : List Deed} (once : (deeds.flatMap Deed.keys).Nodup)
    (mem : movement ∈ movementsOf (deeds.flatMap Deed.rows)) :
    namings movement (deeds.flatMap Deed.rows) = 1 ∧ coverings movement (deeds.flatMap Deed.rows) = 1 := by
  induction deeds with
  | nil => cases mem
  | cons deed rest ih =>
    rw [flatMap_cons] at mem once ⊢
    obtain ⟨-, restOnce, apart⟩ := List.nodup_append'.1 once
    rw [movementsOf_append] at mem
    rw [namings_append, coverings_append]
    rcases mem_append.1 mem with own | other
    · have others : ∀ id ∈ movement.refs, id ∉ rest.flatMap Deed.keys := fun id inRefs inKeys =>
        apart (Deed.refs_keys own id inRefs) inKeys
      rw [(Deed.own_once own).1, (Deed.own_once own).2, (others_none others).1, (others_none others).2]
      exact ⟨rfl, rfl⟩
    · obtain ⟨deed', member', inside⟩ := mem_flatMap.1 (mem_movementsOf.1 other)
      have none : ∀ id ∈ movement.refs, id ∉ deed.keys := fun id inRefs inKeys =>
        apart inKeys (mem_flatMap.2 ⟨deed', member', Deed.refs_keys (mem_movementsOf.2 inside) id inRefs⟩)
      rw [(Deed.other_none none).1, (Deed.other_none none).2, (ih restOnce other).1, (ih restOnce other).2]
      exact ⟨rfl, rfl⟩

/-! ### Runs -/

section Runs

variable {reference : Reference} {config : Config}

/-- Some client, one of those given, drew the identifier. -/
def drawnBy (config : Config) (pids : List Nat) (id : Uuid) : Prop :=
  ∃ pid ∈ pids, ∃ proc, config.procs[pid]? = some proc ∧ id ∈ drawn proc.log

/-- The deeds of some commits. -/
structure DeedsOf (config : Config) (commits : List (Nat × List Row)) (deeds : List Deed) : Prop
    extends Deeds (contents commits) deeds where
  known : ∀ id ∈ deeds.flatMap Deed.keys, drawnBy config (commits.map Prod.fst) id
  origin : ∀ deed ∈ deeds, ∃ proc ∈ config.procs, deed.From proc.call.operation

variable (reach : Reachable reference config)
include reach

theorem commits_deeds (commits : List (Nat × List Row))
    (among : ∀ commit ∈ commits, commit ∈ config.commits) (once : (commits.map Prod.fst).Nodup) :
    ∃ deeds, DeedsOf config commits deeds := by
  induction commits with
  | nil => exact ⟨[], ⟨rfl, nodup_nil⟩, fun _ none => (by cases none), fun _ none => by cases none⟩
  | cons commit rest ih =>
    obtain ⟨pid, writes⟩ := commit
    obtain ⟨unbooked, restOnce⟩ := nodup_cons.1 once
    obtain ⟨deeds, ⟨rows, keysOnce⟩, known, origin⟩ :=
      ih (fun other mem => among other (mem_cons_of_mem _ mem)) restOnce
    obtain ⟨before, after, split⟩ := append_of_mem (among _ mem_cons_self)
    obtain ⟨proc, body, found, -, rfl, ends⟩ := reach.commit split
    obtain ⟨own, wrote, drew, ownOrigin⟩ := deeds_of_call ends.finishes
    have ownOnce := (reach.drawnOnce.each proc (mem_of_getElem? found)).sublist drew
    refine ⟨own ++ deeds, ⟨?_, ?_⟩, ?_, ?_⟩
    · rw [flatMap_append, ← wrote, ← rows]
      rfl
    · rw [flatMap_append]
      refine List.Nodup.append ownOnce keysOnce fun id inOwn inOthers => ?_
      obtain ⟨other, inRest, proc', found', inLog⟩ := known id inOthers
      have unlike : pid ≠ other := fun same => unbooked (same ▸ inRest)
      exact reach.drawnOnce.apart pid other proc proc' found found' unlike (drew.subset inOwn) inLog
    · intro id mem
      rw [flatMap_append] at mem
      rcases mem_append.1 mem with inOwn | inOthers
      · exact ⟨pid, mem_cons_self, proc, found, drew.subset inOwn⟩
      · obtain ⟨other, inRest, drew'⟩ := known id inOthers
        exact ⟨other, mem_cons_of_mem _ inRest, drew'⟩
    · intro deed mem
      rcases mem_append.1 mem with inOwn | inOthers
      · exact ⟨proc, mem_of_getElem? found, ownOrigin deed inOwn⟩
      · exact origin deed inOthers

/-- **The ledger is a list of deeds of the clients.** -/
theorem Reachable.deeds : ∃ deeds, DeedsOf config config.commits deeds :=
  commits_deeds reach config.commits (fun _ mem => mem) reach.booked.once

/-- **Each committed movement has one event and one audit row.** -/
theorem Reachable.movement_once {movement : Movement}
    (mem : movement ∈ movementsOf config.ledger) :
    namings movement config.ledger = 1 ∧ coverings movement config.ledger = 1 := by
  obtain ⟨deeds, ⟨rows, once⟩, -, -⟩ := reach.deeds
  rw [Config.ledger, rows] at mem ⊢
  exact Inventory.movement_once once mem

omit reach

end Runs

/-! ### A sample world -/

def Reference.sample : Reference where
  tenants := fun _ => true
  stores := fun _ => some (.sample 7)
  products := fun _ => true
  users := fun _ => true
  sales := fun _ => none
  saleLines := []
  lineOnce := nodup_nil
  lineTenant := fun _ none => by cases none
  lineStore := fun _ none => by cases none

def sampleMovement (movementType : ManualMovementType) (quantity stockingUnit : String) : Call :=
  ⟨0, .createStockMovement {
    tenantId := (sample 7).text
    storeId := (sample 8).text
    userId := (sample 6).text
    movementType := movementType
    quantity := quantity
    stockingUnit := stockingUnit
    tenantProductRef := some (sample 5).text }⟩

/-- The steps of an inbound movement that client `pid` makes, undisturbed. -/
def inboundSteps (pid first : Nat) : List (Event Uuid PgError Call) :=
  [.draw pid (.numbered first), .draw pid (.numbered (first + 1)), .ask pid, .ask pid, .ask pid,
    .draw pid (.numbered (first + 2)), .ask pid, .stop pid none]

def sampleEvents : List (Event Uuid PgError Call) :=
  .start (sampleMovement .inbound "3" "each") :: inboundSteps 0 1

theorem sampleEvents_run :
    ∃ config, run (inventory .sample) sampleEvents = some config ∧
      (movementsOf config.ledger).map (fun m => m.quantity.units) = [30000] := by
  have ran : (run (inventory .sample) sampleEvents).map (fun config =>
      (movementsOf config.ledger).map fun m => m.quantity.units) = some [30000] := by
    decide +kernel
  exact map_eq_some_iff.1 ran

end DataPulse.Inventory
