/-
**What the writers write.**

A call that returned without a failed statement committed the rows of a few *deeds*: a movement with
its audit row and its event (`Moved`), the two legs of a transfer with theirs (`Transferred`), or a
count with its correction, if there was one (`Counted`). The deeds carry how their rows refer to each
other.
-/

import DataPulse.Inventory.Service

namespace DataPulse.Inventory

open Lib Lib.Interleave Platform

variable {second first : Log}

/-! ### Deeds -/

/-- A movement with its audit row and its event. -/
structure Moved where
  movement : Movement
  audit : AuditEvent
  event : OutboxEvent
  audited : audit.targetType = "stock_movement" ∧ audit.targetId = movement.id
  announced : event.eventType = inventoryMovementCreated ∧
    event.payload.movementIds = [movement.id]
  alone : movement.transferGroupId = none ∧ movement.stockCountId = none

/-- The legs of a transfer with their audit row and their event. -/
structure Transferred where
  group : Uuid
  outbound : Movement
  inbound : Movement
  audit : AuditEvent
  event : OutboxEvent
  grouped : outbound.transferGroupId = some group ∧ inbound.transferGroupId = some group
  uncounted : outbound.stockCountId = none ∧ inbound.stockCountId = none
  opposite : inbound.quantity = -outbound.quantity
  sameTenant : inbound.tenantId = outbound.tenantId
  sameProduct : inbound.tenantProductRef = outbound.tenantProductRef
  sameUnit : inbound.stockingUnit = outbound.stockingUnit
  audited : audit.targetType = "stock_transfer" ∧ audit.targetId = group
  announced : event.eventType = inventoryMovementCreated ∧
    event.payload.movementIds = [outbound.id, inbound.id]

/-- The correction of a count with its event. -/
structure Correction (count : StockCount) where
  movement : Movement
  event : OutboxEvent
  linked : movement.stockCountId = some count.id
  ungrouped : movement.transferGroupId = none
  announced : event.eventType = inventoryMovementCreated ∧
    event.payload.movementIds = [movement.id]

/-- A count with its correction, if it has one, and its audit row. -/
structure Counted where
  count : StockCount
  correction : Option (Correction count)
  audit : AuditEvent
  audited : audit.targetType = "stock_count" ∧ audit.targetId = count.id

/-- One logical write. -/
inductive Deed where
  | moved (deed : Moved)
  | transferred (deed : Transferred)
  | counted (deed : Counted)

def Moved.rows (deed : Moved) : List Row :=
  [.movement deed.movement, .audit deed.audit, .event deed.event]

def Transferred.rows (deed : Transferred) : List Row :=
  [.movement deed.outbound, .movement deed.inbound, .audit deed.audit, .event deed.event]

def Counted.rows (deed : Counted) : List Row :=
  match deed.correction with
  | none => [.count deed.count, .audit deed.audit]
  | some correction => [.count deed.count, .movement correction.movement, .audit deed.audit,
      .event correction.event]

/-- The rows of a deed, in the order they are inserted. -/
def Deed.rows : Deed → List Row
  | moved deed => deed.rows
  | transferred deed => deed.rows
  | counted deed => deed.rows

/-- The identifiers of a deed's movements, its transfer group and its count. -/
def Deed.keys : Deed → List Uuid
  | moved deed => [deed.movement.id]
  | transferred deed => [deed.group, deed.outbound.id, deed.inbound.id]
  | counted deed => deed.count.id :: (deed.correction.map fun c => c.movement.id).toList

/-! ### Logs of the writers -/

abbrev Log := List (Entry Stmt Reply Uuid PgError Row)

def ProbesAnswered (log : Log) : Prop :=
  ∀ storeId product seen fault,
    Entry.answered (.onHand storeId product) seen (.error fault) ∉ log

/-- The rows a log wrote and the identifiers it drew. -/
structure Wrote (log : Log) (rows : List Row) (ids : List Uuid) : Prop where
  written : written log = rows
  drawn : drawn log = ids

theorem Wrote.append {rows rows' : List Row} {ids ids' : List Uuid} (before : Wrote first rows ids)
    (later : Wrote second rows' ids') : Wrote (first ++ second) (rows ++ rows') (ids ++ ids') := by
  constructor
  · rw [written_append, before.written, later.written]
  · rw [drawn_append, before.drawn, later.drawn]

theorem Wrote.nil : Wrote [] [] [] := ⟨rfl, rfl⟩

theorem ProbesAnswered.right (answered : ProbesAnswered (first ++ second)) : ProbesAnswered second :=
  fun storeId product seen fault mem => answered storeId product seen fault (mem_append_right _ mem)

theorem probesAnswered_of_sound {log : Log} (sound : aborted log = false) : ProbesAnswered log := by
  intro storeId product seen fault mem
  have failed : aborted log = true := List.any_eq_true.2 ⟨_, mem, rfl⟩
  rw [sound] at failed
  cases failed

variable {payload : Payload} {correlationId : Option String} {when : Prop}

variable {reference : Reference} {commits : List (Nat × List Row)} {call : Call} {own : List Row}
  {log : Log} {done : Unit} {α : Type} {tenantId : String}

section Statements

variable {product : Option String} {storeId : String}
variable {values : MovementValues} {reply : Option Movement} {statement : Stmt}
variable {unit : String} {result value body : α} {id : Uuid}

theorem query_completes {reply : Reply statement}
    (ends : Completes (inventory reference) commits call own (clientQuery statement) log reply) :
    ∃ seen writes, seen ≤ commits.length ∧
      exec reference call.context (contents (commits.take seen) ++ own) statement = .ok (reply, writes) ∧
      Wrote log writes [] := by
  obtain ⟨seen, writes, rfl, early, ran⟩ := completes_query ends
  exact ⟨seen, writes, early, ran, by simp [written, Entry.writes], rfl⟩

theorem read_completes {reply : Reply statement} (reads : statement.reads = true)
    (ends : Completes (inventory reference) commits call own (clientQuery statement) log reply) :
    Wrote log [] [] := by
  obtain ⟨seen, writes, -, ran, wrote⟩ := query_completes ends
  rwa [exec_reads reads ran] at wrote

theorem newId_completes (ends : Completes (inventory reference) commits call own Prog.newId log id) :
    Wrote log [] [id] := by
  rw [Interleave.completes_newId ends]
  exact ⟨rfl, rfl⟩

theorem orThrow_completes {checked : Except Thrown α}
    (ends : Completes (inventory reference) commits call own (orThrow checked) log value) :
    checked = .ok value ∧ Wrote log [] [] := by
  cases checked with
  | ok value' =>
    obtain ⟨rfl, rfl⟩ := completes_done ends
    exact ⟨rfl, .nil⟩
  | error error => exact absurd ends not_completes_fail

theorem careful_orThrow (checked : Except Thrown α) : Careful (inventory reference) (orThrow checked) := by
  cases checked with
  | ok value => exact careful_done value
  | error error => exact careful_fail error

theorem careful_assertUnitMatchesEstablished (storeId product unit : String) :
    Careful (inventory reference) (assertUnitMatchesEstablished storeId product unit) := by
  refine careful_bind (careful_query _) fun established => ?_
  cases established with
  | none => exact careful_done ()
  | some found =>
    show Careful (inventory reference) (if found ≠ unit then _ else _)
    split
    · exact careful_fail _
    · exact careful_done ()

theorem assertUnitMatchesEstablished_completes {product : String}
    (ends : Completes (inventory reference) commits call own
      (assertUnitMatchesEstablished storeId product unit) log done) : Wrote log [] [] := by
  obtain ⟨established, first, second, rfl, asked, ends⟩ := completes_bind ends
  have ended : second = [] := by
    cases established with
    | none => exact (completes_done ends).1
    | some found =>
      change Completes _ _ _ _ (if found ≠ unit then _ else _) _ _ at ends
      split at ends
      · exact absurd ends not_completes_fail
      · exact (completes_done ends).1
  rw [ended, append_nil]
  exact read_completes rfl asked

theorem careful_assertUnitOfProduct (storeId : String) (product : Option String) (unit : String) :
    Careful (inventory reference) (assertUnitOfProduct storeId product unit) := by
  cases product with
  | none => exact careful_done ()
  | some product => exact careful_assertUnitMatchesEstablished storeId product unit

theorem assertUnitOfProduct_completes
    (ends : Completes (inventory reference) commits call own (assertUnitOfProduct storeId product unit) log
      done) : Wrote log [] [] := by
  cases product with
  | none =>
    rw [(completes_done ends).1]
    exact .nil
  | some product => exact assertUnitMatchesEstablished_completes ends

theorem insertMovementRow_throws (values : MovementValues) (error : Thrown) : NeverReturns (inventory reference)
      (match isUnitExclusionViolation error, values.tenantProductRef with
      | true, some product => do
          let established ← clientQuery (.establishedUnit values.storeId product)
          .fail (.crossUnit (Option.getD established values.stockingUnit) values.stockingUnit)
      | _, _ => .fail error : Service (Option Movement)) := by
  split
  · exact neverReturns_bind fun _ => neverReturns_fail _
  · exact neverReturns_fail _

theorem careful_insertMovementRow (values : MovementValues) (doNothing : Bool) :
    Careful (inventory reference) (insertMovementRow values doNothing) :=
  careful_rescue (careful_query _) (insertMovementRow_throws values)

/-- **A completed INSERT inserted its row, or found its key taken.** -/
theorem insertMovementRow_completes {doNothing : Bool}
    (ends : Completes (inventory reference) commits call own (insertMovementRow values doNothing) log reply) :
    ∃ movement seen, values.row call.context = .ok movement ∧ seen ≤ commits.length ∧
      ((reply = some movement ∧ Wrote log [.movement movement] [] ∧
          movement.Fits reference call.context (contents (commits.take seen) ++ own)) ∨
        (doNothing = true ∧ reply = none ∧ Wrote log [] [] ∧ some movement.tenantId = call.context.tenant ∧
          ∃ other ∈ movementsOf (contents (commits.take seen) ++ own), movement.sameKey other = true)) := by
  obtain ⟨seen, writes, early, ran, wrote⟩ :=
    query_completes (completes_rescue (insertMovementRow_throws values) ends)
  obtain ⟨movement, read, ⟨same, rfl, fits⟩ | ⟨once, same, rfl, tenant, taken⟩⟩ := insertMovement_ok ran
  · exact ⟨movement, seen, read, early, .inl ⟨same, wrote, fits⟩⟩
  · exact ⟨movement, seen, read, early, .inr ⟨once, same, wrote, tenant, taken⟩⟩

theorem insertMovementRow_inserts
    (ends : Completes (inventory reference) commits call own (insertMovementRow values false) log reply) :
    ∃ movement seen, values.row call.context = .ok movement ∧ seen ≤ commits.length ∧ reply = some movement ∧
      Wrote log [.movement movement] [] ∧
      movement.Fits reference call.context (contents (commits.take seen) ++ own) := by
  obtain ⟨movement, seen, read, early, added | ⟨once, -⟩⟩ := insertMovementRow_completes ends
  · exact ⟨movement, seen, read, early, added⟩
  · cases once

theorem careful_orMissing (row : Option Movement) (message : String) :
    Careful (inventory reference) (orMissing row message) := by
  cases row with
  | none => exact careful_fail _
  | some row => exact careful_done row

theorem orMissing_completes {row : Option Movement} {message : String} {found : Movement}
    (ends : Completes (inventory reference) commits call own (orMissing row message) log found) :
    row = some found ∧ Wrote log [] [] := by
  cases row with
  | none => exact absurd ends not_completes_fail
  | some row =>
    obtain ⟨rfl, rfl⟩ := completes_done ends
    exact ⟨rfl, .nil⟩

theorem insertAudit_completes {values : AuditValues}
    (ends : Completes (inventory reference) commits call own (clientQuery (.insertAudit values)) log done) :
    ∃ audit : AuditEvent, audit.targetType = values.targetType ∧ audit.targetId = values.targetId ∧
      Wrote log [.audit audit] [] := by
  obtain ⟨seen, writes, -, ran, wrote⟩ := query_completes ends
  obtain ⟨audit, read, rfl, -⟩ := insertAudit_ok ran
  obtain ⟨targetType, targetId⟩ := AuditValues.row_ok read
  exact ⟨audit, targetType, targetId, wrote⟩

theorem careful_emit (input : OutboxEmitInput) : Careful (inventory reference) (emit input) :=
  careful_bind careful_newId fun _ => careful_bind (careful_query _) fun _ => careful_done _

/-- **An emitted event carries its type and its payload.** -/
theorem emit_completes {input : OutboxEmitInput}
    (ends : Completes (inventory reference) commits call own (emit input) log id) :
    ∃ event : OutboxEvent, event.eventType = input.eventType ∧ event.payload = input.payload ∧
      Wrote log [.event event] [event.eventId] := by
  obtain ⟨eventId, first, rest, rfl, drew, ends⟩ := completes_bind ends
  obtain ⟨done, asked, rfl⟩ := completes_map ends
  obtain ⟨seen, writes, -, ran, wrote⟩ := query_completes asked
  obtain ⟨event, read, rfl, -⟩ := insertEvent_ok ran
  obtain ⟨sameId, sameType, samePayload⟩ := EventValues.row_ok read
  refine ⟨event, sameType, samePayload, ?_⟩
  rw [show event.eventId = id from sameId]
  exact (newId_completes drew).append wrote

theorem careful_emitMovementCreated (tenantId storeId : String) (payload : Payload)
    (correlationId : Option String) :
    Careful (inventory reference) (emitMovementCreated tenantId storeId payload correlationId) :=
  careful_bind (careful_emit _) fun _ => careful_done _

theorem emitMovementCreated_completes
    (ends : Completes (inventory reference) commits call own
      (emitMovementCreated tenantId storeId payload correlationId) log done) :
    ∃ event : OutboxEvent, event.eventType = inventoryMovementCreated ∧ event.payload = payload ∧
      Wrote log [.event event] [event.eventId] := by
  obtain ⟨id, emitted, -⟩ := completes_map ends
  exact emit_completes emitted

/-- **The probe writes nothing, and only its own failure is swallowed.** -/
theorem flagIfNegativeOnHand_finishes
    (goes : Finishes (inventory reference) commits call own (flagIfNegativeOnHand storeId product) log
      (.ok done)) : Wrote log [] [] ∧ (ProbesAnswered log → aborted log = false) := by
  cases product with
  | none =>
    rw [(ends_done goes.ends).1]
    exact ⟨.nil, fun _ => rfl⟩
  | some product =>
    rcases ends_rescue goes.ends with
      ⟨value, gave, -⟩ | ⟨error, first, second, rfl, threw, handled⟩
    · have careful : Careful (inventory reference)
          ((clientQuery (.onHand storeId product)).bind fun _ => .done ()) :=
        careful_bind (careful_query _) fun _ => careful_done _
      obtain ⟨quantity, first, second, rfl, asked, ends⟩ :=
        completes_bind (careful.completes ⟨gave, goes.answers⟩)
      rw [(completes_done ends).1, append_nil]
      exact ⟨read_completes rfl asked, fun _ => asked.sound⟩
    · obtain ⟨rfl, -⟩ := ends_done handled
      rw [append_nil]
      rcases ends_bind threw with ⟨error', failed, -⟩ | ⟨quantity, before, after, -, -, done⟩
      · obtain ⟨seen, answer, rfl, told⟩ := ends_query failed
        match answer with
        | .ok (reply, writes) => cases told
        | .error fault =>
          exact ⟨⟨rfl, rfl⟩, fun answered =>
            absurd mem_cons_self (answered storeId product seen fault)⟩
      · obtain ⟨-, same⟩ := ends_done done
        cases same

theorem flag_then_done
    (ends : Finishes (inventory reference) commits call own
      ((flagIfNegativeOnHand storeId product).bind fun _ => .done body) log (.ok result)) :
    result = body ∧ Wrote log [] [] ∧ (ProbesAnswered log → aborted log = false) := by
  rcases ends_bind ends.ends with ⟨error, -, same⟩ | ⟨done, first, second, rfl, flagged, rest⟩
  · cases same
  · obtain ⟨rfl, same⟩ := ends_done rest
    rw [append_nil] at ends ⊢
    exact ⟨Except.ok.inj same, flagIfNegativeOnHand_finishes ⟨flagged, ends.answers⟩⟩

theorem flagWhen_then_done [Decidable when]
    (ends : Finishes (inventory reference) commits call own
      (if when then (flagIfNegativeOnHand storeId product).bind fun _ => .done body else .done body) log
      (.ok result)) : result = body ∧ Wrote log [] [] ∧ (ProbesAnswered log → aborted log = false) := by
  split at ends
  · exact flag_then_done ends
  · obtain ⟨rfl, same⟩ := ends_done ends.ends
    exact ⟨Except.ok.inj same, .nil, fun _ => rfl⟩

theorem runWithTenantContext_returns {work : Service α}
    (ends : Finishes (inventory reference) commits call own (runWithTenantContext tenantId work) log
      (.ok value)) : Finishes (inventory reference) commits call own work log (.ok value) := by
  unfold runWithTenantContext at ends
  split at ends
  · exact ends
  · obtain ⟨-, same⟩ := ends_fail ends.ends
    cases same

end Statements

/-! ### The five methods -/

section Methods

variable {job : InventoryBackfillJob} {body : StockMovementBody}
variable {input : RecordStockCountInput} {correction : Option Movement} {line : SaleLine}
  {stockCountId : Uuid} {checked : Checked}
variable {work : Service α}

theorem sound_append {first second : Log} (sound : aborted first = false)
    (rest : ProbesAnswered second → aborted second = false) (answered : ProbesAnswered (first ++ second)) :
    aborted (first ++ second) = false := by
  rw [aborted_append, sound, rest answered.right]
  rfl

theorem recorded_effect {values : AuditValues} {storeId : String} [Decidable when] {flagged : Option String}
    {result : StockMovementBody}
    (ends : Finishes (inventory reference) commits call own
      ((clientQuery (.insertAudit values)).bind
          fun _ => (emitMovementCreated tenantId storeId payload correlationId).bind fun _ => if when then
          (flagIfNegativeOnHand storeId flagged).bind fun _ => .done body else .done body) log (.ok result)) :
    ∃ (audit : AuditEvent) (event : OutboxEvent), audit.targetType = values.targetType ∧
      audit.targetId = values.targetId ∧ event.eventType = inventoryMovementCreated ∧
      event.payload = payload ∧ Wrote log [.audit audit, .event event] [event.eventId] ∧ result = body ∧
      (ProbesAnswered log → aborted log = false) := by
  obtain ⟨_, first, rest, rfl, audited, ends⟩ := returns_bind (careful_query _) ends
  obtain ⟨_, second, last, rfl, emitted, ends⟩ :=
    returns_bind (careful_emitMovementCreated _ _ _ _) ends
  obtain ⟨audit, targetType, targetId, auditWrote⟩ := insertAudit_completes audited
  obtain ⟨event, eventType, samePayload, eventWrote⟩ := emitMovementCreated_completes emitted
  obtain ⟨same, flagWrote, probed⟩ := flagWhen_then_done ends
  refine ⟨audit, event, targetType, targetId, eventType, samePayload, ?_, same, ?_⟩
  · simpa using auditWrote.append (eventWrote.append flagWrote)
  · exact sound_append audited.sound (sound_append emitted.sound probed)

/-- **What `createStockMovement` did.** -/
theorem createStockMovement_effect {input : CreateStockMovementInput}
    (ends : Finishes (inventory reference) commits call [] (createStockMovement input) log (.ok body)) :
    ∃ checked deed ids, input.check = .ok checked ∧
      (input.values checked deed.movement.id).row call.context = .ok deed.movement ∧
      Wrote log (Moved.rows deed) (deed.movement.id :: ids) ∧ body = toMovementBody deed.movement ∧
      (ProbesAnswered log → aborted log = false) := by
  obtain ⟨checked, log₁, rest₁, rfl, checks, ends⟩ :=
    returns_bind (careful_orThrow _) ends
  obtain ⟨movementId, log₂, rest₂, rfl, drewId, ends⟩ := returns_bind careful_newId ends
  obtain ⟨auditId, log₃, rest₃, rfl, drewAudit, ends⟩ := returns_bind careful_newId ends
  obtain ⟨_, log₄, rest₄, rfl, unit, ends⟩ :=
    returns_bind (careful_assertUnitOfProduct _ _ _) (runWithTenantContext_returns ends)
  obtain ⟨added, log₅, rest₅, rfl, insert, ends⟩ :=
    returns_bind (careful_insertMovementRow _ _) ends
  obtain ⟨row, log₆, rest₆, rfl, here, ends⟩ :=
    returns_bind (careful_orMissing _ _) ends
  obtain ⟨movement, seen, read, -, same, wrote, -⟩ := insertMovementRow_inserts insert
  obtain ⟨same', presentWrote⟩ := orMissing_completes here
  obtain rfl : movement = row := mem_unique same same'
  obtain ⟨audit, event, targetType, targetId, eventType, payload, recorded, rfl, probed⟩ := recorded_effect ends
  obtain ⟨taken, checkWrote⟩ := orThrow_completes checks
  have gives := MovementValues.row_ok read
  obtain rfl : movement.id = movementId := gives.id
  have names : event.payload.movementIds = [movement.id] := by rw [payload]
  refine ⟨checked, ⟨movement, audit, event, ⟨targetType, targetId⟩, ⟨eventType, names⟩,
    gives.transferGroup, gives.stockCount⟩, [auditId, event.eventId], taken, read, ?_, rfl, ?_⟩
  · have later := (assertUnitOfProduct_completes unit).append (wrote.append (presentWrote.append recorded))
    exact checkWrote.append ((newId_completes drewId).append ((newId_completes drewAudit).append later))
  · exact sound_append checks.sound (sound_append drewId.sound (sound_append drewAudit.sound
      (sound_append unit.sound (sound_append insert.sound (sound_append here.sound probed)))))

theorem throwWhen_ok {wrong : Bool} {error : Thrown} (passed : throwWhen wrong error = .ok done) : wrong =
    false := by
  unfold throwWhen at passed
  split at passed
  · cases passed
  · exact Bool.eq_false_of_not_eq_true ‹_›

theorem CreateStockTransferInput.check_ok {input : CreateStockTransferInput}
    (taken : input.check = .ok checked) :
    input.sourceStoreId ≠ input.destinationStoreId ∧ 0 < checked.quantity := by
  obtain ⟨_, differ, taken⟩ := bind_ok taken
  obtain ⟨quantity, -, taken⟩ := bind_ok taken
  obtain ⟨_, positive, taken⟩ := bind_ok taken
  obtain ⟨_, -, taken⟩ := bind_ok taken
  cases taken
  exact ⟨of_decide_eq_false (throwWhen_ok differ), not_le.1 (of_decide_eq_false (throwWhen_ok positive))⟩

theorem legs_opposite {quantity : ℚ} {out inb : Numeric} (positive : 0 < quantity)
    (outCast : (QuantitySql.cast ("-" ++ toFixed4 quantity)).value = .ok out)
    (inCast : (QuantitySql.cast (toFixed4 quantity)).value = .ok inb) : inb = -out := by
  have outUnits := Numeric.ofUnits_ok ((ofText_minus_toFixed4 positive.le).symm.trans outCast)
  have inUnits := Numeric.ofUnits_ok ((ofText_toFixed4 quantity).symm.trans inCast)
  refine Numeric.ext ?_
  rw [inUnits, Numeric.neg_units, outUnits, neg_neg]

/-- **What `createStockTransfer` did.** -/
theorem createStockTransfer_effect {input : CreateStockTransferInput} {body : StockTransferBody}
    (ends : Finishes (inventory reference) commits call [] (createStockTransfer input) log (.ok body)) :
    ∃ checked deed ids,
      input.check = .ok checked ∧ Uuid.ofText input.sourceStoreId = some (Transferred.outbound deed).storeId ∧
      Uuid.ofText input.destinationStoreId = some deed.inbound.storeId ∧
      Numeric.ofText (toFixed4 checked.quantity) = .ok deed.inbound.quantity ∧
      Wrote log deed.rows (deed.group :: deed.outbound.id :: deed.inbound.id :: ids) ∧
      body = ⟨deed.group, toMovementBody deed.outbound, toMovementBody deed.inbound⟩ ∧
      (ProbesAnswered log → aborted log = false) := by
  obtain ⟨checked, log₁, rest₁, rfl, checks, ends⟩ :=
    returns_bind (careful_orThrow _) ends
  obtain ⟨group, log₂, rest₂, rfl, drewGroup, ends⟩ := returns_bind careful_newId ends
  obtain ⟨outId, log₃, rest₃, rfl, drewOut, ends⟩ := returns_bind careful_newId ends
  obtain ⟨inId, log₄, rest₄, rfl, drewIn, ends⟩ := returns_bind careful_newId ends
  obtain ⟨auditId, log₅, rest₅, rfl, drewAudit, ends⟩ := returns_bind careful_newId ends
  obtain ⟨dest, log₆, rest₆, rfl, found, ends⟩ :=
    returns_bind (careful_query _) (runWithTenantContext_returns ends)
  split at ends
  · obtain ⟨-, same⟩ := ends_fail ends.ends
    cases same
  obtain ⟨_, log₇, rest₇, rfl, sourceUnit, ends⟩ :=
    returns_bind (careful_assertUnitMatchesEstablished _ _ _) ends
  obtain ⟨_, log₈, rest₈, rfl, destUnit, ends⟩ :=
    returns_bind (careful_assertUnitMatchesEstablished _ _ _) ends
  obtain ⟨out, log₉, rest₉, rfl, insertOut, ends⟩ :=
    returns_bind (careful_insertMovementRow _ _) ends
  obtain ⟨inb, log₁₀, rest₁₀, rfl, insertIn, ends⟩ :=
    returns_bind (careful_insertMovementRow _ _) ends
  obtain ⟨outRow, log₁₁, rest₁₁, rfl, outPresent, ends⟩ :=
    returns_bind (careful_orMissing _ _) ends
  obtain ⟨inRow, log₁₂, rest₁₂, rfl, inPresent, ends⟩ :=
    returns_bind (careful_orMissing _ _) ends
  obtain ⟨_, log₁₃, rest₁₃, rfl, audited, ends⟩ := returns_bind (careful_query _) ends
  obtain ⟨_, log₁₄, rest₁₄, rfl, emitted, ends⟩ :=
    returns_bind (careful_emitMovementCreated _ _ _ _) ends
  obtain ⟨rfl, flagWrote, probed⟩ := flag_then_done ends
  -- the two rows
  obtain ⟨outbound, _, outRead, -, outSame, outWrote, -⟩ := insertMovementRow_inserts insertOut
  obtain ⟨inbound, _, inRead, -, inSame, inWrote, -⟩ := insertMovementRow_inserts insertIn
  obtain ⟨outSame', outPresentWrote⟩ := orMissing_completes outPresent
  obtain ⟨inSame', inPresentWrote⟩ := orMissing_completes inPresent
  obtain rfl : outbound = outRow := mem_unique outSame outSame'
  obtain rfl : inbound = inRow := mem_unique inSame inSame'
  have outGives := MovementValues.row_ok outRead
  have inGives := MovementValues.row_ok inRead
  obtain rfl : outbound.id = outId := outGives.id
  obtain rfl : inbound.id = inId := inGives.id
  -- what refers to them
  obtain ⟨audit, targetType, targetId, auditWrote⟩ := insertAudit_completes audited
  obtain ⟨event, eventType, payload, eventWrote⟩ := emitMovementCreated_completes emitted
  obtain ⟨taken, checkWrote⟩ := orThrow_completes checks
  have positive := (CreateStockTransferInput.check_ok taken).2
  have sameTenant : inbound.tenantId = outbound.tenantId := mem_unique inGives.tenant outGives.tenant
  have sameProduct : inbound.tenantProductRef = outbound.tenantProductRef :=
    Except.ok.inj (inGives.product.symm.trans outGives.product)
  have names : event.payload.movementIds = [outbound.id, inbound.id] := by rw [payload]
  refine ⟨checked, ⟨group, outbound, inbound, audit, event, ⟨outGives.transferGroup, inGives.transferGroup⟩,
      ⟨outGives.stockCount, inGives.stockCount⟩, legs_opposite positive outGives.quantity inGives.quantity,
      sameTenant, sameProduct, inGives.unit.trans outGives.unit.symm, ⟨targetType, targetId⟩,
      ⟨eventType, names⟩⟩, [auditId, event.eventId], taken, outGives.store, inGives.store, inGives.quantity,
    ?_, rfl, ?_⟩
  · have reads := (read_completes rfl found).append ((assertUnitMatchesEstablished_completes sourceUnit).append
        (assertUnitMatchesEstablished_completes destUnit))
    have inserts := outWrote.append (inWrote.append (outPresentWrote.append
      (inPresentWrote.append (auditWrote.append (eventWrote.append flagWrote)))))
    have later := reads.append inserts
    simp only [append_assoc, nil_append, append_nil] at later
    exact checkWrote.append ((newId_completes drewGroup).append ((newId_completes drewOut).append
      ((newId_completes drewIn).append ((newId_completes drewAudit).append later))))
  · have tail := sound_append inPresent.sound (sound_append audited.sound (sound_append emitted.sound probed))
    have inserts :=
      sound_append insertOut.sound (sound_append insertIn.sound (sound_append outPresent.sound tail))
    have reads := sound_append found.sound (sound_append sourceUnit.sound (sound_append destUnit.sound inserts))
    exact sound_append checks.sound (sound_append drewGroup.sound (sound_append drewOut.sound
      (sound_append drewIn.sound (sound_append drewAudit.sound reads))))

theorem careful_correct (input : RecordStockCountInput) (checked : Checked) (stockCountId : Uuid)
    (difference : ℚ) : Careful (inventory reference) (input.correct checked stockCountId difference) := by
  unfold RecordStockCountInput.correct
  split
  · exact careful_bind careful_newId fun _ => careful_bind (careful_insertMovementRow _ _) fun _ =>
      careful_bind (careful_orMissing _ _) fun _ => careful_done _
  · exact careful_done _

def correctionRows : Option Movement → List Row
  | none => []
  | some movement => [.movement movement]

theorem correct_completes {difference : ℚ}
    (ends : Completes (inventory reference) commits call own (input.correct checked stockCountId difference)
      log correction) :
    (correction = none ↔ difference = 0) ∧
      Wrote log (correctionRows correction) (correction.map Movement.id).toList ∧
      ∀ movement, correction = some movement →
      (input.correction checked movement.id stockCountId (toFixed4 difference)).row call.context =
      .ok movement := by
  unfold RecordStockCountInput.correct at ends
  split at ends
  · rename_i differs
    obtain ⟨id, log₁, rest₁, rfl, drew, ends⟩ := completes_bind ends
    obtain ⟨added, log₂, rest₂, rfl, insert, ends⟩ := completes_bind ends
    obtain ⟨row, here, rfl⟩ := completes_map ends
    obtain ⟨movement, seen, read, -, same, wrote, -⟩ := insertMovementRow_inserts insert
    obtain ⟨same', presentWrote⟩ := orMissing_completes here
    obtain rfl : movement = row := mem_unique same same'
    obtain rfl : movement.id = id := (MovementValues.row_ok read).id
    refine ⟨by simp [differs], ?_, ?_⟩
    · exact (newId_completes drew).append (wrote.append presentWrote)
    · intro other same
      cases same
      exact read
  · rename_i same
    obtain ⟨rfl, rfl⟩ := completes_done ends
    refine ⟨by simpa using same, .nil, ?_⟩
    intro movement none
    cases none

theorem announce_completes
    (ends : Completes (inventory reference) commits call own (input.announce stockCountId correction) log
      done) :
    (correction = none ∧ Wrote log [] []) ∨
      ∃ (movement : Movement) (event : OutboxEvent),
      correction = some movement ∧ event.eventType = inventoryMovementCreated ∧
      event.payload.movementIds = [movement.id] ∧ Wrote log [.event event] [event.eventId] := by
  cases correction with
  | none =>
    obtain ⟨rfl, -⟩ := completes_done ends
    exact .inl ⟨rfl, .nil⟩
  | some movement =>
    obtain ⟨event, eventType, payload, wrote⟩ := emitMovementCreated_completes ends
    exact .inr ⟨movement, event, rfl, eventType, by rw [payload], wrote⟩

theorem careful_announce (input : RecordStockCountInput) (stockCountId : Uuid)
    (correction : Option Movement) :
    Careful (inventory reference) (input.announce stockCountId correction) := by
  cases correction with
  | none => exact careful_done ()
  | some row => exact careful_emitMovementCreated _ _ _ _

/-- **What `recordStockCount` did.** -/
theorem recordStockCount_effect {body : StockCountResultBody}
    (ends : Finishes (inventory reference) commits call [] (recordStockCount input) log (.ok body)) :
    ∃ (checked : Checked) (deed : Counted) (sum : Numeric) (seen : Nat) (auditId : Uuid)
      (eventIds : List Uuid), input.check = .ok checked ∧
      (input.count checked deed.count.id (derivedOnHand sum.text)).row call.context = .ok deed.count ∧
      seen ≤ commits.length ∧
      sum.units =
        total
        (ofPair call.context.tenant deed.count.storeId deed.count.tenantProductRef
          (contents (commits.take seen))) ∧
      (deed.correction = none ↔ variance checked.quantity (derivedOnHand sum.text) = 0) ∧
      (∀ correction, deed.correction = some correction →
          (input.correction checked correction.movement.id deed.count.id
            (toFixed4 (variance checked.quantity (derivedOnHand sum.text)))).row call.context =
          .ok correction.movement) ∧
      Wrote log deed.rows
        (deed.count.id :: auditId :: ((deed.correction.map fun c => c.movement.id).toList ++ eventIds)) ∧
      body =
        ⟨deed.count.id, toFixed4 checked.quantity,
         toFixed4 (variance checked.quantity (derivedOnHand sum.text)),
         deed.correction.map fun c => toMovementBody c.movement⟩ ∧ aborted log = false := by
  obtain ⟨checked, log₁, rest₁, rfl, checks, ends⟩ :=
    returns_bind (careful_orThrow _) ends
  obtain ⟨stockCountId, log₂, rest₂, rfl, drewCount, ends⟩ :=
    returns_bind careful_newId ends
  obtain ⟨auditId, log₃, rest₃, rfl, drewAudit, ends⟩ := returns_bind careful_newId ends
  obtain ⟨_, log₄, rest₄, rfl, unit, ends⟩ :=
    returns_bind (careful_assertUnitMatchesEstablished _ _ _) (runWithTenantContext_returns ends)
  obtain ⟨quantity, log₅, rest₅, rfl, probe, ends⟩ := returns_bind (careful_query _) ends
  obtain ⟨_, log₆, rest₆, rfl, counted, ends⟩ := returns_bind (careful_query _) ends
  obtain ⟨correction, log₇, rest₇, rfl, corrected, ends⟩ :=
    returns_bind (careful_correct _ _ _ _) ends
  obtain ⟨_, log₈, rest₈, rfl, audited, ends⟩ := returns_bind (careful_query _) ends
  obtain ⟨_, log₉, rest₉, rfl, announced, ends⟩ := returns_bind (careful_announce _ _ _) ends
  obtain ⟨rfl, same⟩ := ends_done ends.ends
  obtain ⟨taken, checkWrote⟩ := orThrow_completes checks
  have unitWrote := assertUnitMatchesEstablished_completes unit
  have before : written log₁ = [] ∧ written log₂ = [] ∧ written log₃ = [] ∧ written log₄ = [] :=
    ⟨checkWrote.written, (newId_completes drewCount).written, (newId_completes drewAudit).written,
      unitWrote.written⟩
  -- the count and what it read
  obtain ⟨seen, writes, early, ran, -⟩ := query_completes probe
  obtain ⟨store, item, sum, storeText, itemText, sums, rfl⟩ := onHand_ok ran
  obtain ⟨_, countWrites, -, countExecuted, countWrote⟩ := query_completes counted
  obtain ⟨count, read, rfl, -⟩ := insertCount_ok countExecuted
  have gives := CountValues.row_ok read
  obtain rfl : count.id = stockCountId := gives.id
  obtain rfl : count.storeId = store := mem_unique gives.store storeText
  obtain rfl : count.tenantProductRef = item := mem_unique gives.product itemText
  simp only [before, append_nil] at sums
  -- the correction and what refers to the count
  obtain ⟨varies, correctionWrote, correctionRead⟩ := correct_completes corrected
  obtain ⟨audit, targetType, targetId, auditWrote⟩ := insertAudit_completes audited
  have sound : aborted (log₁ ++ (log₂ ++ (log₃ ++ (log₄ ++ (log₅ ++ (log₆ ++ (log₇ ++ (log₈ ++
      (log₉ ++ []))))))))) = false := by
    simp only [aborted_append, checks.sound, drewCount.sound, drewAudit.sound, unit.sound,
      probe.sound, counted.sound, corrected.sound, audited.sound, announced.sound, aborted_nil]
    rfl
  have head := (newId_completes drewCount).append ((newId_completes drewAudit).append
    (unitWrote.append ((read_completes rfl probe).append countWrote)))
  rcases announce_completes announced with
    ⟨rfl, announceWrote⟩ | ⟨movement, event, rfl, eventType, names, announceWrote⟩
  · refine ⟨checked, ⟨count, none, audit, targetType, targetId⟩, sum, seen, auditId, [], taken,
      read, early, sums, by simpa using varies, ?_, ?_, Except.ok.inj same, sound⟩
    · intro correction none
      cases none
    · have tail := correctionWrote.append (auditWrote.append (announceWrote.append .nil))
      simpa [Counted.rows, correctionRows] using checkWrote.append (head.append tail)
  · have correctionGives := MovementValues.row_ok (correctionRead movement rfl)
    refine ⟨checked, ⟨count, some ⟨movement, event, correctionGives.stockCount,
        correctionGives.transferGroup, eventType, names⟩, audit, targetType, targetId⟩, sum, seen,
      auditId, [event.eventId], taken, read, early, sums, by simpa using varies, ?_, ?_,
      Except.ok.inj same, sound⟩
    · intro correction same
      cases same
      exact correctionRead movement rfl
    · have tail := correctionWrote.append (auditWrote.append (announceWrote.append .nil))
      simpa [Counted.rows, correctionRows] using checkWrote.append (head.append tail)

/-- A movement stands under the key in the tenant of the context. -/
def Keyed (context : TenantContext) (key : String × String) (movement : Movement) : Prop :=
  some movement.tenantId = context.tenant ∧ movement.provenance = some key

theorem keyed_of_sameKey {context : TenantContext} {key : String × String} {movement other : Movement}
    (same : movement.sameKey other = true) (tenant : some movement.tenantId = context.tenant)
    (provenance : movement.provenance = some key) : Keyed context key other := by
  unfold Movement.sameKey at same
  simp only [and_eq_true, decide_eq_true_eq] at same
  obtain ⟨⟨-, sameProvenance⟩, sameTenant⟩ := same
  exact ⟨by rw [← sameTenant, tenant], by rw [← sameProvenance, provenance]⟩

/-- **What `backfillSaleLinkedOutbound` and `backfillRestockInbound` did: they appended a movement, or
answered the one that has the key.** -/
theorem BackfillKind.backfill_effect {kind : BackfillKind} {input : BackfillInput}
    (ends : Finishes (inventory reference) commits call [] (kind.backfill input) log (.ok body)) :
    ∃ checked, kind.check input = .ok checked ∧
      ((∃ deed ids, (kind.values input checked deed.movement.id).row call.context = .ok deed.movement ∧
          Wrote log (Moved.rows deed) (deed.movement.id :: ids) ∧ body = toMovementBody deed.movement ∧
          (ProbesAnswered log → aborted log = false)) ∨
        ∃ old ids, Wrote log [] ids ∧ old ∈ movementsOf (contents commits) ∧
        Keyed call.context (trim input.sourceSystem, trim input.externalId) old ∧ body = toMovementBody old ∧
        aborted log = false) := by
  obtain ⟨checked, log₁, rest₁, rfl, checks, ends⟩ :=
    returns_bind (careful_orThrow _) ends
  obtain ⟨movementId, log₂, rest₂, rfl, drewId, ends⟩ := returns_bind careful_newId ends
  obtain ⟨auditId, log₃, rest₃, rfl, drewAudit, ends⟩ := returns_bind careful_newId ends
  obtain ⟨_, log₄, rest₄, rfl, unit, ends⟩ :=
    returns_bind (careful_assertUnitOfProduct _ _ _) (runWithTenantContext_returns ends)
  obtain ⟨added, log₅, rest₅, rfl, insert, ends⟩ :=
    returns_bind (careful_insertMovementRow _ _) ends
  obtain ⟨taken, checkWrote⟩ := orThrow_completes checks
  have unitWrote := assertUnitOfProduct_completes unit
  refine ⟨checked, taken, ?_⟩
  obtain ⟨movement, _, read, -, ⟨rfl, wrote, -⟩ | ⟨-, rfl, wrote, tenant, -⟩⟩ :=
    insertMovementRow_completes insert
  · obtain ⟨audit, event, targetType, targetId, eventType, payload, recorded, rfl, probed⟩ :=
      recorded_effect ends
    have gives := MovementValues.row_ok read
    obtain rfl : movement.id = movementId := gives.id
    have names : event.payload.movementIds = [movement.id] := by rw [payload]
    refine .inl ⟨⟨movement, audit, event, ⟨targetType, targetId⟩, ⟨eventType, names⟩,
      gives.transferGroup, gives.stockCount⟩, [auditId, event.eventId], read, ?_, rfl, ?_⟩
    · exact checkWrote.append ((newId_completes drewId).append
        ((newId_completes drewAudit).append (unitWrote.append (wrote.append recorded))))
    · exact sound_append checks.sound (sound_append drewId.sound (sound_append drewAudit.sound
        (sound_append unit.sound (sound_append insert.sound probed))))
  · obtain ⟨found, log₆, rest₆, rfl, asked, ends⟩ := returns_bind (careful_query _) ends
    obtain ⟨row, log₇, rest₇, rfl, here, ends⟩ :=
      returns_bind (careful_orMissing _ _) ends
    obtain ⟨rfl, same⟩ := ends_done ends.ends
    obtain ⟨rfl, presentWrote⟩ := orMissing_completes here
    obtain ⟨seen, _, -, ran, foundWrote⟩ := query_completes asked
    obtain ⟨found, tenantText, matches'⟩ := findMovement_ok ran
    obtain ⟨mem, rowTenant, provenance⟩ := matches' row rfl
    have before : written log₁ = [] ∧ written log₂ = [] ∧ written log₃ = [] ∧ written log₄ = [] ∧
        written log₅ = [] := ⟨checkWrote.written, (newId_completes drewId).written,
      (newId_completes drewAudit).written, unitWrote.written, wrote.written⟩
    simp only [before, append_nil] at mem
    have gives := MovementValues.row_ok read
    have sameTenant : row.tenantId = movement.tenantId := by
      rw [rowTenant]
      exact mem_unique tenantText gives.tenant
    refine .inr ⟨row, [movementId, auditId], ?_, ?_, ⟨?_, provenance⟩, Except.ok.inj same, ?_⟩
    · exact checkWrote.append ((newId_completes drewId).append ((newId_completes drewAudit).append
        (unitWrote.append (wrote.append ((read_completes rfl asked).append (presentWrote.append .nil))))))
    · exact mem_movementsOf.2 (contents_take (mem_movementsOf.1 mem))
    · rw [sameTenant, tenant]
    · simp only [aborted_append, checks.sound, drewId.sound, drewAudit.sound, unit.sound,
        insert.sound, asked.sound, here.sound, aborted_nil]
      rfl

/-! ### The backfill job -/

theorem careful_assertUnit (job : InventoryBackfillJob) (line : SaleLine) :
    Careful (inventory reference) (job.assertUnit line) := by
  unfold InventoryBackfillJob.assertUnit
  cases line.tenantProductRef with
  | none => exact careful_done ()
  | some product =>
    refine careful_bind (careful_query _) fun established => ?_
    cases established with
    | none => exact careful_done ()
    | some found =>
      show Careful (inventory reference) (if found ≠ line.unit then _ else _)
      split
      · exact careful_fail _
      · exact careful_done ()

theorem insertLine_throws (line : SaleLine) (error : Thrown) :
    NeverReturns (inventory reference)
      (if isUnitExclusionViolation error then .fail (.backfillCrossUnit line.unit line.unit) else
        .fail error : Service (Option Movement)) := by
  split
  · exact neverReturns_fail _
  · exact neverReturns_fail _

theorem careful_insertLine (job : InventoryBackfillJob) (line : SaleLine) (id : Uuid) :
    Careful (inventory reference) (job.insertLine line id) :=
  careful_rescue (careful_query _) (insertLine_throws line)

theorem careful_record (job : InventoryBackfillJob) (line : SaleLine) (row : Movement) :
    Careful (inventory reference) (job.record line row) :=
  careful_bind careful_newId fun _ => careful_bind (careful_query _) fun _ =>
    careful_bind (careful_emit _) fun _ => careful_done _

theorem careful_backfillLine (job : InventoryBackfillJob) (line : SaleLine) :
    Careful (inventory reference) (job.backfillLine line) := by
  refine careful_bind (careful_assertUnit job line) fun _ => careful_bind careful_newId fun id =>
    careful_bind (careful_insertLine job line id) fun added => ?_
  cases added with
  | none => exact careful_done _
  | some row => exact careful_bind (careful_record job line row) fun _ => careful_done _

theorem assertUnit_completes
    (ends : Completes (inventory reference) commits call own (job.assertUnit line) log done) :
    Wrote log [] [] := by
  unfold InventoryBackfillJob.assertUnit at ends
  split at ends
  · rw [(completes_done ends).1]
    exact .nil
  · obtain ⟨established, first, second, rfl, asked, ends⟩ := completes_bind ends
    have ended : second = [] := by
      cases established with
      | none => exact (completes_done ends).1
      | some found =>
        change Completes _ _ _ _ (if found ≠ line.unit then _ else _) _ _ at ends
        split at ends
        · exact absurd ends not_completes_fail
        · exact (completes_done ends).1
    rw [ended, append_nil]
    exact read_completes rfl asked

theorem record_completes {row : Movement}
    (ends : Completes (inventory reference) commits call own (job.record line row) log done) :
    ∃ (audit : AuditEvent) (event : OutboxEvent) (auditId : Uuid),
      (audit.targetType = "stock_movement" ∧ audit.targetId = row.id) ∧
      (event.eventType = inventoryMovementCreated ∧ event.payload.movementIds = [row.id]) ∧
      Wrote log [.audit audit, .event event] [auditId, event.eventId] := by
  obtain ⟨auditId, log₁, rest₁, rfl, drew, ends⟩ := completes_bind ends
  obtain ⟨_, log₂, rest₂, rfl, audited, ends⟩ := completes_bind ends
  obtain ⟨_, emitted, -⟩ := completes_map ends
  obtain ⟨audit, targetType, targetId, auditWrote⟩ := insertAudit_completes audited
  obtain ⟨event, eventType, payload, eventWrote⟩ := emit_completes emitted
  refine ⟨audit, event, auditId, ⟨targetType, targetId⟩, ⟨eventType, by rw [payload]⟩, ?_⟩
  exact (newId_completes drew).append (auditWrote.append eventWrote)

def InventoryBackfillJob.Present (job : InventoryBackfillJob) (context : TenantContext)
    (rows : List Row) (line : SaleLine) : Prop :=
  ∃ movement ∈ movementsOf rows, Keyed context (job.sourceSystem, line.id.text) movement

/-- **One line: its movement is appended, or there already.** -/
theorem backfillLine_completes {appended : Bool}
    (ends : Completes (inventory reference) commits call own (job.backfillLine line) log appended) :
    (appended = true ∧
        ∃ deed ids, (job.values line deed.movement.id).row call.context = .ok deed.movement ∧
        some deed.movement.tenantId = call.context.tenant ∧
        Wrote log (Moved.rows deed) (deed.movement.id :: ids)) ∨
      (appended = false ∧ (∃ id, Wrote log [] [id]) ∧
        job.Present call.context (contents commits ++ own) line) := by
  obtain ⟨_, log₁, rest₁, rfl, unit, ends⟩ := completes_bind ends
  obtain ⟨id, log₂, rest₂, rfl, drew, ends⟩ := completes_bind ends
  obtain ⟨added, log₃, rest₃, rfl, insert, ends⟩ := completes_bind ends
  have unitWrote := assertUnit_completes unit
  obtain ⟨seen, writes, -, ran, wrote⟩ := query_completes (completes_rescue (insertLine_throws line) insert)
  obtain ⟨movement, read, ⟨rfl, rfl, fits⟩ | ⟨-, rfl, rfl, tenant, other, mem, same⟩⟩ := insertMovement_ok ran
  · obtain ⟨_, recorded, rfl⟩ := completes_map ends
    obtain ⟨audit, event, auditId, audited, announced, recordWrote⟩ := record_completes recorded
    have gives := MovementValues.row_ok read
    obtain rfl : movement.id = id := gives.id
    refine .inl ⟨rfl, ⟨movement, audit, event, audited, announced, gives.transferGroup,
      gives.stockCount⟩, [auditId, event.eventId], read, fits.tenant, ?_⟩
    exact unitWrote.append ((newId_completes drew).append (wrote.append recordWrote))
  · obtain ⟨rfl, rfl⟩ := completes_done ends
    refine .inr ⟨rfl, ⟨id, ?_⟩, other, ?_, ?_⟩
    · exact unitWrote.append ((newId_completes drew).append (wrote.append .nil))
    · rw [unitWrote.written, (newId_completes drew).written, append_nil, append_nil, movementsOf_append] at mem
      rw [movementsOf_append]
      rcases mem_append.1 mem with kept | own
      · exact mem_append_left _ (mem_movementsOf.2 (contents_take (mem_movementsOf.1 kept)))
      · exact mem_append_right _ own
    · exact keyed_of_sameKey same tenant (MovementValues.row_ok read).provenance

/-- What a job did to its lines. -/
structure Backfilled (job : InventoryBackfillJob) (context : TenantContext) (rows : List Row)
    (lines : List SaleLine) (log : Log) (appended : List Bool) (deeds : List (SaleLine × Moved)) :
    Prop where
  wrote : written log = deeds.flatMap fun deed => deed.2.rows
  drew : (deeds.map fun deed => deed.2.movement.id).Sublist (drawn log)
  among : (deeds.map Prod.fst).Sublist lines
  reads : ∀ deed ∈ deeds, (job.values deed.1 deed.2.movement.id).row context = .ok deed.2.movement
  length : appended.length = lines.length
  count : appended.count true = deeds.length
  present : ∀ line ∈ lines, job.Present context (rows ++ written log) line

/-- **A job that ran through its lines appended some of them, and all of them are there.** -/
theorem forEach_backfillLine_completes {lines : List SaleLine} {appended : List Bool}
    (ends : Completes (inventory reference) commits call own (Prog.forEach job.backfillLine lines) log
      appended) :
    ∃ deeds, Backfilled job call.context (contents commits ++ own) lines log appended deeds := by
  induction lines generalizing log appended own with
  | nil =>
    obtain ⟨rfl, rfl⟩ := completes_done ends
    exact ⟨[], rfl, .refl _, .refl _, by simp, rfl, rfl, by simp⟩
  | cons line rest ih =>
    obtain ⟨head, log₁, rest₁, rfl, first, ends⟩ := completes_bind ends
    obtain ⟨tail, log₂, rest₂, rfl, later, ends⟩ := completes_bind ends
    obtain ⟨rfl, rfl⟩ := completes_done ends
    obtain ⟨deeds, done⟩ := ih later
    have laterPresent : ∀ other ∈ rest,
        job.Present call.context (contents commits ++ own ++ written (log₁ ++ (log₂ ++ []))) other := by
      intro other mem
      rw [append_nil, written_append, ← append_assoc, append_assoc _ own]
      exact done.present other mem
    rcases backfillLine_completes first with
      ⟨rfl, deed, ids, read, tenant, wrote⟩ | ⟨rfl, ⟨id, wrote⟩, movement, mem, keyed⟩
    · refine ⟨(line, deed) :: deeds, ?_, ?_, done.among.cons_cons _, ?_, ?_, ?_, ?_⟩
      · rw [append_nil, written_append, wrote.written, done.wrote]
        rfl
      · rw [append_nil, drawn_append, wrote.drawn]
        exact (done.drew.trans (List.sublist_append_right ids _)).cons_cons _
      · rintro other (_ | ⟨_, mem⟩)
        · exact read
        · exact done.reads other mem
      · simp [done.length]
      · simp [done.count]
      · rintro other (_ | ⟨_, mem⟩)
        · refine ⟨deed.movement, ?_, tenant, (MovementValues.row_ok read).provenance⟩
          rw [written_append, wrote.written]
          simp [Moved.rows]
        · exact laterPresent other mem
    · refine ⟨deeds, ?_, ?_, done.among.cons _, done.reads, ?_, ?_, ?_⟩
      · rw [append_nil, written_append, wrote.written, done.wrote]
        rfl
      · rw [append_nil, drawn_append, wrote.drawn]
        exact done.drew.cons _
      · simp [done.length]
      · simp [done.count]
      · rintro other (_ | ⟨_, inside⟩)
        · rw [InventoryBackfillJob.Present, movementsOf_append]
          exact ⟨movement, mem_append_left _ mem, keyed⟩
        · exact laterPresent other inside

theorem runWithTenantContext_completes {value : α}
    (ends : Completes (inventory reference) commits call own (runWithTenantContext tenantId work) log value) :
    Completes (inventory reference) commits call own work log value :=
  ⟨(runWithTenantContext_returns ⟨ends.returns, ends.answers⟩).ends, ends.answers, ends.sound⟩

theorem careful_runWithTenantContext (careful : Careful (inventory reference) work) (tenantId : String) :
    Careful (inventory reference) (runWithTenantContext tenantId work) := by
  unfold runWithTenantContext
  split
  · exact careful
  · exact careful_fail _

theorem careful_process (job : InventoryBackfillJob) : Careful (inventory reference) job.process := by
  refine careful_bind (careful_orThrow _) fun _ => careful_runWithTenantContext ?_ _
  refine careful_bind (careful_query _) fun sale => ?_
  split
  · exact careful_fail _
  · refine careful_bind (careful_query _) fun lines => ?_
    split
    · exact careful_fail _
    · exact careful_bind (careful_forEach (careful_backfillLine job) _) fun _ => careful_done _

/-- The lines a job reads: those of its sale at its store, in the order of their identifiers. -/
def InventoryBackfillJob.linesOf (reference : Reference) (context : TenantContext)
    (saleId storeId : Uuid) : List SaleLine :=
  (reference.saleLines.filter fun line => some line.tenantId = context.tenant &&
    line.saleId = saleId && line.storeId = storeId).insertionSort
      fun first second => first.id.precedes second.id = true

/-- **What `process` did.** -/
theorem process_effect {result : InventoryBackfillResult}
    (goes : Finishes (inventory reference) commits call [] job.process log (.ok result)) :
    ∃ saleId storeId appended deeds,
      job.assertJob = .ok () ∧ Uuid.ofText job.saleId = some saleId ∧ Uuid.ofText job.storeId = some storeId ∧
      Backfilled job call.context (contents commits)
        (InventoryBackfillJob.linesOf reference call.context saleId storeId) log appended deeds ∧
      result = ⟨job.saleId, appended.count true, appended.count false, 0 < appended.count true⟩ ∧
      aborted log = false := by
  obtain ⟨returns, answers, sound⟩ := (careful_process job).completes goes
  obtain ⟨_, log₁, rest₁, rfl, checks, ends⟩ := completes_bind ⟨returns, answers, sound⟩
  obtain ⟨taken, checkWrote⟩ := orThrow_completes checks
  obtain ⟨sale, log₂, rest₂, rfl, found, ends⟩ := completes_bind (runWithTenantContext_completes ends)
  split at ends
  · exact absurd ends not_completes_fail
  obtain ⟨lines, log₃, rest₃, rfl, selected, ends⟩ := completes_bind ends
  split at ends
  · exact absurd ends not_completes_fail
  obtain ⟨appended, log₄, rest₄, rfl, each, ends⟩ := completes_bind ends
  obtain ⟨rfl, rfl⟩ := completes_done ends
  obtain ⟨_, _, -, ran, selectWrote⟩ := query_completes selected
  obtain ⟨saleId, saleText, ran⟩ := bind_ok ran
  obtain ⟨storeId, storeText, ran⟩ := bind_ok ran
  cases ran
  have foundWrote := read_completes rfl found
  obtain ⟨deeds, done⟩ := forEach_backfillLine_completes each
  have sameWritten : written (log₁ ++ (log₂ ++ (log₃ ++ (log₄ ++ [])))) = written log₄ := by
    simp only [written_append, checkWrote.written, foundWrote.written, selectWrote.written, nil_append,
      append_nil]
  have sameDrawn : drawn (log₁ ++ (log₂ ++ (log₃ ++ (log₄ ++ [])))) = drawn log₄ := by
    simp only [drawn_append, checkWrote.drawn, foundWrote.drawn, selectWrote.drawn, nil_append, append_nil]
  simp only [checkWrote.written, foundWrote.written, selectWrote.written, append_nil] at done
  refine ⟨saleId, storeId, appended, deeds, taken, castUuid_ok saleText, castUuid_ok storeText,
    ⟨?_, ?_, done.among, done.reads, done.length, done.count, ?_⟩, rfl, sound⟩
  · rw [sameWritten]
    exact done.wrote
  · rw [sameDrawn]
    exact done.drew
  · rw [sameWritten]
    exact done.present

end Methods

end DataPulse.Inventory
