/-
**Two ways to backfill a line.**

The worker appends a movement for each line of a sale; `backfillSaleLinkedOutbound` appends one for the
line it is called with. Both are to be one operation: append a movement under a key, once
(`appendOnce`).

* `paths_agree_iff`: the paths agree on every ledger exactly on these lines.
-/

import DataPulse.Inventory.Trail
import DataPulse.Lib.Atomic

namespace DataPulse.Inventory

open Lib Lib.Interleave Lib.Prog Platform

/-! ### One specification -/

/-- What became of a line. -/
inductive Outcome where
  | rejected
  | deduped
  | appended (movement : Movement)

/-- The same where a probe after the movement may lose it. -/
def Outcome.probed (answered : Movement → Bool) : Outcome → Outcome
  | appended movement => if answered movement then .appended movement else .deduped
  | other => other

/-- The product of the values stands in no other unit at their store. -/
def unitStands (context : TenantContext) (rows : List Row) (values : MovementValues) : Bool :=
  match Uuid.ofText values.storeId, values.tenantProductRef.bind Uuid.ofText with
  | some store, some product => (earliest (ofPair context.tenant store product rows)).all fun first =>
    first.stockingUnit = values.stockingUnit
  | _, _ => true

/-- The audit row and the event of a movement can be inserted. -/
def recordable (reference : Reference) (rows : List Row) (movement : Movement)
    (auditId eventId : Uuid) : Bool :=
  (auditsOf rows).all (fun other => other.id ≠ auditId) &&
    (eventsOf rows).all (fun other => other.eventId ≠ eventId) && reference.users movement.createdBy

/-- **Append a movement under its key, once.** -/
def appendOnce (reference : Reference) (context : TenantContext) (rows : List Row)
    (values : MovementValues) (auditId eventId : Uuid) : Outcome :=
  if unitStands context rows values then
    match insertMovement reference context rows values true with
    | .ok (some movement, _) =>
      if recordable reference rows movement auditId eventId then .appended movement else .rejected
    | .ok (none, _) => .deduped
    | .error _ => .rejected
  else .rejected

/-! ### The two paths, alone with a ledger -/

def ledgerEngine (reference : Reference) (context : TenantContext) :
    Engine Stmt Reply Thrown (List Row) where
  exec statement rows := match exec reference context rows statement with
    | .ok (reply, writes) => .ok (reply, rows ++ writes)
    | .error fault => .error (.pg fault)
  refused := .pg (.plain .failedTransaction)

def undisturbed (ids : Nat → Uuid) : World Uuid Thrown := ⟨ids, fun _ => none⟩

def outcome {α : Type} (rows : List Row) (ended : Except Thrown α × List Row) : Outcome :=
  match ended.1 with
  | .error _ => .rejected
  | .ok _ => match (movementsOf ended.2).drop (movementsOf rows).length with
    | [] => .deduped
    | movement :: _ => .appended movement

/-- The worker's append of one line: the checks of its job, and the body of its loop. -/
def InventoryBackfillJob.lineAlone (job : InventoryBackfillJob) (line : SaleLine) : Service Bool := do
  orThrow job.assertJob
  runWithTenantContext job.tenantId (job.backfillLine line)

/-- The same line as the input of `backfillSaleLinkedOutbound`: the sold quantity negated. -/
def InventoryBackfillJob.input (job : InventoryBackfillJob) (line : SaleLine) : BackfillInput where
  tenantId := job.tenantId
  storeId := job.storeId
  userId := job.actorId
  sourceSystem := job.sourceSystem
  externalId := line.id.text
  quantity := "-" ++ line.quantity.text
  stockingUnit := line.unit
  tenantProductRef := line.tenantProductRef.map Uuid.text
  saleId := some job.saleId
  saleLineId := some line.id.text
  correlationId := job.correlationId

section Runs

variable {reference : Reference} {context : TenantContext} {rows : List Row} {ids : Nat → Uuid}
  {sent drawn : Nat}
variable {session after : Session (List Row)} {values : MovementValues} {α β : Type}
  {handler : Thrown → Service α} {writes : List Row} {doNothing : Bool} {value : α} {drew : Nat}
  {program : Service α} {next : α → Service β}

variable {stmt : Stmt}

theorem run_query_ok {reply : Reply stmt} {writes : List Row}
    (ran : exec reference context rows stmt = .ok (reply, writes)) :
    (clientQuery stmt).run (ledgerEngine reference context) (undisturbed ids) ⟨rows, false, sent, drawn⟩ =
      (.ok reply, ⟨rows ++ writes, false, sent + 1, drawn⟩) := by
  simp [clientQuery, query, Prog.run, answer, undisturbed, ledgerEngine, ran]

theorem run_query_error {fault : PgError} (ran : exec reference context rows stmt = .error fault) :
    (clientQuery stmt).run (ledgerEngine reference context) (undisturbed ids) ⟨rows, false, sent, drawn⟩ =
      (.error (.pg fault), ⟨rows, true, sent + 1, drawn⟩) := by
  simp [clientQuery, query, Prog.run, answer, undisturbed, ledgerEngine, ran]

theorem run_newId :
    (newId : Service Uuid).run (ledgerEngine reference context) (undisturbed ids) session =
      (.ok (ids session.drawn), { session with drawn := session.drawn + 1 }) := rfl

theorem run_then
    (ran : program.run (ledgerEngine reference context) (undisturbed ids) session = (.ok value, after)) :
    (program.bind next).run (ledgerEngine reference context) (undisturbed ids) session =
      (next value).run (ledgerEngine reference context) (undisturbed ids) after := by
  rw [run_bind, ran]

variable {error : Thrown}

theorem run_threw
    (ran : program.run (ledgerEngine reference context) (undisturbed ids) session = (.error error, after)) :
    (program.bind next).run (ledgerEngine reference context) (undisturbed ids) session =
      (.error error, after) := by
  rw [run_bind, ran]

theorem rescue_returned
    (ran : program.run (ledgerEngine reference context) (undisturbed ids) session = (.ok value, after)) :
    (program.rescue handler).run (ledgerEngine reference context) (undisturbed ids) session =
      (.ok value, after) := by
  rw [run_rescue, ran]

theorem rescue_threw
    (ran : program.run (ledgerEngine reference context) (undisturbed ids) session = (.error error, after)) :
    (program.rescue handler).run (ledgerEngine reference context) (undisturbed ids) session =
      (handler error).run (ledgerEngine reference context) (undisturbed ids) after := by
  rw [run_rescue, ran]

/-- The path throws on the rows, after some statements and identifiers. -/
def Throws {α : Type} (reference : Reference) (context : TenantContext) (ids : Nat → Uuid)
    (program : Service α) (rows : List Row) (sent drawn : Nat) : Prop :=
  ∃ error after, program.run (ledgerEngine reference context) (undisturbed ids)
    ⟨rows, false, sent, drawn⟩ = (.error error, after)

theorem Throws.bind (throws : Throws reference context ids program rows sent drawn) :
    Throws reference context ids (program.bind next) rows sent drawn := by
  obtain ⟨error, after, ran⟩ := throws
  exact ⟨error, after, run_threw ran⟩

/-! ### The shared statements -/

theorem run_insertAudit {values : AuditValues} {movement : Movement}
    (tenant : some movement.tenantId = context.tenant) (known : reference.tenants movement.tenantId = true)
    (actor : Uuid.ofText values.actorUserId = some movement.createdBy)
    (owner : Uuid.ofText values.tenantId = some movement.tenantId) :
    if (auditsOf rows).all (fun other => other.id ≠ values.id) && reference.users movement.createdBy then
      ∃ audit : AuditEvent, exec reference context rows (.insertAudit values) = .ok ((), [.audit audit]) else
      ∃ fault, exec reference context rows (.insertAudit values) = .error fault := by
  have read : values.row = .ok ⟨values.id, movement.createdBy, movement.tenantId, values.action,
      values.targetType, values.targetId, values.metadata⟩ := by
    simp only [AuditValues.row, castUuid_of actor, castUuid_of owner, ok_bind]
  have own : require (some movement.tenantId = context.tenant) (.plain .rowSecurity) = .ok () :=
    if_pos (decide_eq_true tenant)
  simp only [exec, read, ok_bind, own]
  cases fresh : (auditsOf rows).all fun other => decide (other.id ≠ values.id) with
  | false => exact ⟨_, rfl⟩
  | true =>
    cases user : reference.users movement.createdBy with
    | false => exact ⟨_, rfl⟩
    | true =>
      rw [known]
      exact ⟨_, rfl⟩

theorem run_insertEvent {values : EventValues} {movement : Movement}
    (tenant : some movement.tenantId = context.tenant)
    (owner : Uuid.ofText values.tenantId = some movement.tenantId)
    (store : Uuid.ofText values.storeId = some movement.storeId)
    (correlation : ∃ id, castOptional values.correlationId = .ok id) :
    if (eventsOf rows).all (fun other => other.eventId ≠ values.eventId) then
      ∃ event : OutboxEvent, exec reference context rows (.insertEvent values) = .ok ((), [.event event]) else
      ∃ fault, exec reference context rows (.insertEvent values) = .error fault := by
  obtain ⟨correlationId, cast⟩ := correlation
  have read : values.row context = .ok ⟨values.eventId, movement.tenantId, movement.storeId,
      values.eventType, values.payload, correlationId, context.now⟩ := by
    simp only [EventValues.row, castUuid_of owner, castUuid_of store, cast, ok_bind]
  have own : require (some movement.tenantId = context.tenant) (.plain .rowSecurity) = .ok () :=
    if_pos (decide_eq_true tenant)
  simp only [exec, read, ok_bind, own]
  cases fresh : (eventsOf rows).all fun other => decide (other.eventId ≠ values.eventId) with
  | false | true => exact ⟨_, rfl⟩

theorem castOptional_filter (text : Option String) : ∃ id, castOptional (text.filter Uuid.isUuid) = .ok id := by
  cases text with
  | none => exact ⟨none, rfl⟩
  | some text =>
    cases read : Uuid.ofText text with
    | none =>
      have drop : Uuid.isUuid text = false := by rw [Uuid.isUuid, read]; rfl
      exact ⟨none, by rw [Option.filter_some_neg (by simp [drop])]; rfl⟩
    | some id =>
      have keep : Uuid.isUuid text = true := by rw [Uuid.isUuid, read]; rfl
      exact ⟨some id, by rw [Option.filter_some_pos keep]; exact castOptional_of read⟩

/-- The path returns on the rows, after some statements and identifiers: what, what it added to the
rows, and how many identifiers it drew. -/
def Returns {α : Type} (reference : Reference) (context : TenantContext) (ids : Nat → Uuid)
    (program : Service α) (rows : List Row) (sent drawn : Nat) (value : α) (writes : List Row)
    (drew : Nat) : Prop :=
  ∃ sent', program.run (ledgerEngine reference context) (undisturbed ids)
    ⟨rows, false, sent, drawn⟩ = (.ok value, ⟨rows ++ writes, false, sent', drawn + drew⟩)

theorem emit_alone {input : OutboxEmitInput} {movement : Movement}
    (tenant : some movement.tenantId = context.tenant)
    (owner : Uuid.ofText input.tenantId = some movement.tenantId)
    (store : Uuid.ofText input.storeId = some movement.storeId)
    (correlation : ∃ id, castOptional input.correlationId = .ok id) :
    if (eventsOf rows).all (fun other => other.eventId ≠ ids drawn) then
      ∃ event : OutboxEvent, Returns reference context ids (emit input) rows sent drawn (ids drawn)
        [.event event] 1 else Throws reference context ids (emit input) rows sent drawn := by
  have added :=
    @run_insertEvent reference context rows
      ⟨ids drawn, input.tenantId, input.storeId, input.eventType, input.payload, input.correlationId⟩ movement
      tenant owner store correlation
  split_ifs at added ⊢
  · obtain ⟨event, went⟩ := added
    have ran : (emit input).run (ledgerEngine reference context) (undisturbed ids) ⟨rows, false, sent, drawn⟩ =
          (.ok (ids drawn), ⟨rows ++ [.event event], false, sent + 1, drawn + 1⟩) :=
      (run_then run_newId).trans (run_then (run_query_ok went))
    exact ⟨event, sent + 1, ran⟩
  · obtain ⟨fault, went⟩ := added
    have ran : (emit input).run (ledgerEngine reference context) (undisturbed ids)
        ⟨rows, false, sent, drawn⟩ = (.error (.pg fault), ⟨rows, true, sent + 1, drawn + 1⟩) :=
      (run_then run_newId).trans (run_threw (run_query_error went))
    exact ⟨_, _, ran⟩

/-- An inserted movement, as the rows after it refer to it. -/
structure Inserted (reference : Reference) (context : TenantContext)
    (tenantId storeId actorId : String) (movement : Movement) : Prop where
  tenant : some movement.tenantId = context.tenant
  known : reference.tenants movement.tenantId = true
  owner : Uuid.ofText tenantId = some movement.tenantId
  store : Uuid.ofText storeId = some movement.storeId
  actor : Uuid.ofText actorId = some movement.createdBy

theorem inserted_ok {movement : Movement}
    (added : insertMovement reference context rows values doNothing = .ok (some movement, writes)) :
    writes = [.movement movement] ∧
      Inserted reference context values.tenantId values.storeId values.createdBy movement := by
  obtain ⟨row, read, ⟨same, wrote, fits⟩ | ⟨-, none, -⟩⟩ := insertMovement_ok added
  · cases same
    have gives := MovementValues.row_ok read
    exact ⟨wrote, fits.tenant, fits.known, gives.tenant, gives.store, gives.creator⟩
  · cases none

theorem insertAudit_alone {values : AuditValues} {movement : Movement} {storeId : String}
    (added : Inserted reference context values.tenantId storeId values.actorUserId movement) :
    if (auditsOf rows).all (fun other => other.id ≠ values.id) && reference.users movement.createdBy then
      ∃ audit : AuditEvent, Returns reference context ids (clientQuery (.insertAudit values)) rows sent drawn
        () [.audit audit] 0 else
      Throws reference context ids (clientQuery (.insertAudit values)) rows sent drawn := by
  have ran :=
    @run_insertAudit reference context rows values movement added.tenant added.known added.actor added.owner
  split_ifs at ran ⊢
  · obtain ⟨audit, ran⟩ := ran
    exact ⟨audit, sent + 1, run_query_ok ran⟩
  · obtain ⟨fault, ran⟩ := ran
    exact ⟨_, _, run_query_error ran⟩

theorem auditsOf_movement (movement : Movement) : auditsOf (rows ++ [.movement movement]) = auditsOf rows := by
  simp [auditsOf]

theorem eventsOf_recorded (movement : Movement) (audit : AuditEvent) :
    eventsOf (rows ++ [.movement movement] ++ [.audit audit]) = eventsOf rows := by
  simp [eventsOf]

/-- **After the movement, an audit row and an event.** -/
theorem recorded_alone {values : AuditValues} {input : OutboxEmitInput} {movement : Movement}
    (added : Inserted reference context values.tenantId input.storeId values.actorUserId movement)
    (owner : values.tenantId = input.tenantId)
    (correlation : ∃ id, castOptional input.correlationId = .ok id) :
    if recordable reference rows movement values.id (ids drawn) then
      ∃ (audit : AuditEvent) (event : OutboxEvent),
        Returns reference context ids ((clientQuery (.insertAudit values)).bind fun _ => emit input)
        (rows ++ [.movement movement]) sent drawn (ids drawn) [.audit audit, .event event] 1 else
      Throws reference context ids ((clientQuery (.insertAudit values)).bind fun _ => emit input)
      (rows ++ [.movement movement]) sent drawn := by
  have audits := @insertAudit_alone reference context (rows ++ [.movement movement]) ids sent drawn
    values movement input.storeId added
  rw [auditsOf_movement] at audits
  by_cases audited : ((auditsOf rows).all (fun other => other.id ≠ values.id) &&
      reference.users movement.createdBy) = true
  · rw [if_pos audited] at audits
    obtain ⟨audit, sent', ran⟩ := audits
    have events := @emit_alone reference context (rows ++ [.movement movement] ++ [.audit audit]) ids sent' drawn
      input movement added.tenant (owner ▸ added.owner) added.store correlation
    rw [eventsOf_recorded] at events
    rw [and_eq_true] at audited
    have allowed : recordable reference rows movement values.id (ids drawn) =
        (eventsOf rows).all fun other => other.eventId ≠ ids drawn := by
      rw [recordable, audited.1, audited.2, Bool.true_and, Bool.and_true]
    rw [allowed]
    split_ifs at events ⊢
    · obtain ⟨event, sent'', later⟩ := events
      refine ⟨audit, event, sent'', (run_then ran).trans (later.trans ?_)⟩
      simp only [append_assoc, cons_append, nil_append]
    · obtain ⟨error, after, later⟩ := events
      exact ⟨error, after, (run_then ran).trans later⟩
  · rw [if_neg audited] at audits
    have refused : recordable reference rows movement values.id (ids drawn) ≠ true := by
      intro allowed
      simp only [recordable, and_eq_true] at allowed audited
      exact audited ⟨allowed.1.1, allowed.2⟩
    rw [if_neg refused]
    exact audits.bind

/-- The check of a unit in front of a movement, with the error of its path. -/
def checkUnit (storeId product unit : String) (thrown : String → Thrown) : Service Unit :=
  (clientQuery (.establishedUnit storeId product)).bind fun established =>
    match established with
    | some found => if found ≠ unit then .fail (thrown found) else .done ()
    | none => .done ()

theorem checkUnit_alone {storeId product unit : String} {thrown : String → Thrown} {store item : Uuid}
    (storeText : Uuid.ofText storeId = some store) (itemText : Uuid.ofText product = some item) :
    if (earliest (ofPair context.tenant store item rows)).all (fun first => first.stockingUnit = unit) then
      Returns reference context ids (checkUnit storeId product unit thrown) rows sent drawn () [] 0 else
      Throws reference context ids (checkUnit storeId product unit thrown) rows sent drawn := by
  have went : exec reference context rows (.establishedUnit storeId product) = .ok
      ((earliest (ofPair context.tenant store item rows)).map Movement.stockingUnit, []) := by
    simp only [exec, castUuid_of storeText, castUuid_of itemText, ok_bind]
  have ran := @run_query_ok reference context rows ids sent drawn _ _ _ went
  cases first : earliest (ofPair context.tenant store item rows) with
  | none =>
    rw [first] at ran
    exact ⟨sent + 1, run_then ran⟩
  | some movement =>
    rw [first] at ran
    by_cases same : movement.stockingUnit = unit
    · have stays : (if movement.stockingUnit ≠ unit then .fail (thrown movement.stockingUnit)
          else .done () : Service Unit) = .done () := if_neg (not_not.2 same)
      simp only [all_some, same, decide_true, if_true]
      refine ⟨sent + 1, (run_then ran).trans ?_⟩
      simp only [map_some, stays]
      rfl
    · have stops : (if movement.stockingUnit ≠ unit then .fail (thrown movement.stockingUnit)
          else .done () : Service Unit) = .fail (thrown movement.stockingUnit) := if_pos same
      simp only [all_some, same, decide_false, false_eq_true, if_false]
      refine ⟨thrown movement.stockingUnit, ⟨rows ++ [], false, sent + 1, drawn⟩, (run_then ran).trans ?_⟩
      simp only [map_some, stops]
      rfl

theorem insert_alone {values : MovementValues} {handler : Thrown → Service (Option Movement)}
    (throws : ∀ error session, session.aborted = true →
      ∃ error' after, (handler error).run (ledgerEngine reference context) (undisturbed ids) session =
      (.error error', after)) : match insertMovement reference context rows values true with
    | .ok (reply, writes) => Returns reference context ids
        ((clientQuery (.insertMovement values true)).rescue handler) rows sent drawn reply writes 0
    | .error _ => Throws reference context ids
        ((clientQuery (.insertMovement values true)).rescue handler) rows sent drawn := by
  cases added : insertMovement reference context rows values true with
  | ok result =>
    obtain ⟨reply, writes⟩ := result
    have went : exec reference context rows (.insertMovement values true) = .ok (reply, writes) := added
    exact ⟨sent + 1, rescue_returned (run_query_ok went)⟩
  | error fault =>
    have went : exec reference context rows (.insertMovement values true) = .error fault := added
    obtain ⟨error, after, ran⟩ := throws (.pg fault) ⟨rows, true, sent + 1, drawn⟩ rfl
    exact ⟨error, after, (rescue_threw (run_query_error went)).trans ran⟩

theorem outcome_returns (gave : Returns reference context ids program rows 0 0 value writes drew) :
    outcome rows (program.transaction (ledgerEngine reference context) (undisturbed ids) rows) =
      match movementsOf writes with
      | [] => .deduped
      | movement :: _ => .appended movement := by
  obtain ⟨sent, ran⟩ := gave
  have ended : program.transaction (ledgerEngine reference context) (undisturbed ids) rows =
      (.ok value, rows ++ writes) := by
    rw [transaction, begun, ran]
    rfl
  rw [ended, outcome, movementsOf_append, drop_left]

theorem outcome_throws (throws : Throws reference context ids program rows 0 0) :
    outcome rows (program.transaction (ledgerEngine reference context) (undisturbed ids) rows) =
      .rejected := by
  obtain ⟨error, after, ran⟩ := throws
  have ended : program.transaction (ledgerEngine reference context) (undisturbed ids) rows =
      (.error error, rows) := by
    rw [transaction, begun, ran]
  rw [ended, outcome]

/-! ### The worker -/

variable {job : InventoryBackfillJob}

theorem InventoryBackfillJob.assertJob_ok (taken : job.assertJob = .ok ()) :
    Uuid.isUuid job.saleId = true ∧ Uuid.isUuid job.tenantId = true ∧ Uuid.isUuid job.storeId = true ∧
      Uuid.isUuid job.actorId = true ∧ trim job.sourceSystem ≠ "" := by
  obtain ⟨_, sale, taken⟩ := bind_ok taken
  obtain ⟨_, tenant, taken⟩ := bind_ok taken
  obtain ⟨_, store, taken⟩ := bind_ok taken
  obtain ⟨_, actor, taken⟩ := bind_ok taken
  have source := throwWhen_ok taken
  simp only [decide_eq_false_iff_not] at sale tenant store actor source
  refine ⟨?_, ?_, ?_, ?_, source⟩
  · simpa using throwWhen_ok sale
  · simpa using throwWhen_ok tenant
  · simpa using throwWhen_ok store
  · simpa using throwWhen_ok actor

theorem assertUnit_eq (job : InventoryBackfillJob) (line : SaleLine) :
    job.assertUnit line = match line.tenantProductRef with
      | none => .done ()
      | some item => checkUnit job.storeId item.text line.unit
          fun found => .backfillCrossUnit found line.unit := by
  unfold InventoryBackfillJob.assertUnit
  cases line.tenantProductRef with
  | none => rfl
  | some item =>
    refine congrArg (Prog.bind _) (funext fun established => ?_)
    cases established with
    | none | some found => rfl

variable {line : SaleLine}

theorem assertUnit_alone {id : Uuid} (stored : Uuid.isUuid job.storeId = true) :
    if unitStands context rows (job.values line id) then
      Returns reference context ids (job.assertUnit line) rows sent drawn () [] 0 else
      Throws reference context ids (job.assertUnit line) rows sent drawn := by
  obtain ⟨store, storeText⟩ := isSome_iff_exists.1 stored
  rw [assertUnit_eq]
  cases product : line.tenantProductRef with
  | none =>
    have stands : unitStands context rows (job.values line id) = true := by
      simp [unitStands, InventoryBackfillJob.values, product, storeText]
    rw [if_pos stands]
    exact ⟨sent, by rw [append_nil]; rfl⟩
  | some item =>
    have stands : unitStands context rows (job.values line id) = (earliest (ofPair context.tenant store item
        rows)).all fun first => first.stockingUnit = line.unit := by
      simp [unitStands, InventoryBackfillJob.values, product, storeText]
    rw [stands]
    exact checkUnit_alone storeText (Uuid.ofText_text item)

theorem record_eq (job : InventoryBackfillJob) (line : SaleLine) (row : Movement) :
    job.record line row =
      newId.bind fun auditId => ((clientQuery
          (.insertAudit
            ⟨auditId, job.actorId, job.tenantId, "inventory.movement.backfill", "stock_movement", row.id,
             [("sourceSystem", .text job.sourceSystem), ("externalId", .text line.id.text),
               ("saleId", .text job.saleId), ("correlationId", .ofOption job.correlationId)]⟩)).bind
        fun _ => emit
        ⟨inventoryMovementCreated, job.tenantId, job.storeId,
         ⟨[row.id], "outbound", line.tenantProductRef.map Uuid.text,
            [("sourceSystem", .text job.sourceSystem), ("externalId", .text line.id.text),
              ("saleId", .text job.saleId)]⟩, job.correlationId.filter Uuid.isUuid⟩).bind fun _ => .done () :=
  congrArg (Prog.bind _) (funext fun _ => (Prog.bind_assoc _ _ _).symm)

/-- **After the movement, the worker's audit row and event.** -/
theorem record_alone {movement : Movement}
    (added : Inserted reference context job.tenantId job.storeId job.actorId movement) :
    if recordable reference rows movement (ids drawn) (ids (drawn + 1)) then
      ∃ (audit : AuditEvent) (event : OutboxEvent), Returns reference context ids (job.record line movement)
        (rows ++ [.movement movement]) sent drawn () [.audit audit, .event event] 2 else
      Throws reference context ids (job.record line movement) (rows ++ [.movement movement]) sent drawn := by
  have recorded := @recorded_alone reference context rows ids sent (drawn + 1)
    ⟨ids drawn, job.actorId, job.tenantId, "inventory.movement.backfill", "stock_movement",
      movement.id, [("sourceSystem", .text job.sourceSystem), ("externalId", .text line.id.text),
        ("saleId", .text job.saleId), ("correlationId", .ofOption job.correlationId)]⟩
    ⟨inventoryMovementCreated, job.tenantId, job.storeId, ⟨[movement.id], "outbound",
      line.tenantProductRef.map Uuid.text, [("sourceSystem", .text job.sourceSystem),
        ("externalId", .text line.id.text), ("saleId", .text job.saleId)]⟩,
      job.correlationId.filter Uuid.isUuid⟩
    movement added rfl (castOptional_filter _)
  rw [record_eq]
  split_ifs at recorded ⊢
  · obtain ⟨audit, event, sent', ran⟩ := recorded
    exact ⟨audit, event, sent', (run_then run_newId).trans ((run_then ran).trans rfl)⟩
  · obtain ⟨error, after, ran⟩ := recorded
    exact ⟨error, after, (run_then run_newId).trans (run_threw ran)⟩

theorem dedup_writes (added : insertMovement reference context rows values doNothing = .ok (none, writes)) :
    writes = [] := by
  obtain ⟨row, -, ⟨same, -⟩ | ⟨-, -, none, -⟩⟩ := insertMovement_ok added
  · cases same
  · exact none

/-- A path whose INSERT comes after parts that only read. -/
structure Inserts {α : Type} (reference : Reference) (context : TenantContext) (ids : Nat → Uuid)
    (program : Service α) (rows : List Row) (values : MovementValues) (drew : Nat)
    (next : Option Movement → Service α) : Prop where
  refused : unitStands context rows values = false → Throws reference context ids program rows 0 0
  failed : ∀ fault, insertMovement reference context rows values true = .error fault →
    Throws reference context ids program rows 0 0
  inserted : ∀ reply writes, unitStands context rows values = true →
    insertMovement reference context rows values true = .ok (reply, writes) →
      ∃ sent, program.run (ledgerEngine reference context) (undisturbed ids) ⟨rows, false, 0, 0⟩ =
        (next reply).run (ledgerEngine reference context) (undisturbed ids)
          ⟨rows ++ writes, false, sent, drew⟩

/-- The path returns inside an aborted transaction: its COMMIT rolls back. -/
def Loses {α : Type} (reference : Reference) (context : TenantContext) (ids : Nat → Uuid)
    (program : Service α) (rows : List Row) (sent drawn : Nat) : Prop :=
  ∃ (value : α) (after : Session (List Row)), after.aborted = true ∧
    program.run (ledgerEngine reference context) (undisturbed ids) ⟨rows, false, sent, drawn⟩ =
      (.ok value, after)

theorem outcome_loses (loses : Loses reference context ids program rows 0 0) :
    Inventory.outcome rows (program.transaction (ledgerEngine reference context) (undisturbed ids) rows) =
      .deduped := by
  obtain ⟨value, after, aborted, ran⟩ := loses
  have ended : program.transaction (ledgerEngine reference context) (undisturbed ids) rows =
      (.ok value, rows) := by
    rw [transaction, begun, ran]
    simp only [aborted, if_true]
  rw [ended, Inventory.outcome, List.drop_length]

/-- What a path does after a movement was inserted: it records it, unless its probe fails. -/
def Records {α : Type} (reference : Reference) (context : TenantContext) (ids : Nat → Uuid)
    (program : Service α) (rows : List Row) (sent drawn : Nat) (movement : Movement)
    (auditId eventId : Uuid) (answered : Bool) : Prop :=
  if recordable reference rows movement auditId eventId then
    if answered then ∃ value audit event drew, Returns reference context ids program
      (rows ++ [.movement movement]) sent drawn value [.audit audit, .event event] drew
    else Loses reference context ids program (rows ++ [.movement movement]) sent drawn
  else Throws reference context ids program (rows ++ [.movement movement]) sent drawn

/-- **Such a path is the specification**, if it returns where the key was taken, and records a movement
where it can be recorded. -/
theorem Inserts.outcome {next : Option Movement → Service α} {auditId eventId : Uuid}
    {answered : Movement → Bool} (inserts : Inserts reference context ids program rows values drew next)
    (deduped : ∀ sent, insertMovement reference context rows values true = .ok (none, []) →
        ∃ value drew', Returns reference context ids (next none) rows sent drew value [] drew')
    (records : ∀ sent movement,
      insertMovement reference context rows values true = .ok (some movement, [.movement movement]) →
      Records reference context ids (next (some movement)) rows sent drew movement auditId eventId
      (answered movement)) :
    Inventory.outcome rows (program.transaction (ledgerEngine reference context) (undisturbed ids) rows) =
      (appendOnce reference context rows values auditId eventId).probed answered := by
  unfold appendOnce
  cases stands : unitStands context rows values with
  | false =>
    rw [if_neg false_ne_true]
    exact outcome_throws (inserts.refused stands)
  | true =>
    rw [if_pos rfl]
    cases placed : insertMovement reference context rows values true with
    | error fault => exact outcome_throws (inserts.failed fault placed)
    | ok result =>
      obtain ⟨reply, writes⟩ := result
      obtain ⟨sent, before⟩ := inserts.inserted reply writes stands placed
      cases reply with
      | none =>
        obtain rfl := dedup_writes placed
        rw [append_nil] at before
        obtain ⟨value, drew', sent', ran⟩ := deduped sent placed
        have gave : Returns reference context ids program rows 0 0 value [] (drew + drew') :=
          ⟨sent', by rw [before, ran, Nat.zero_add]⟩
        exact outcome_returns gave
      | some movement =>
        obtain ⟨rfl, -⟩ := inserted_ok placed
        have recorded := records sent movement placed
        unfold Records at recorded
        simp only
        split_ifs at recorded ⊢ with _ probe
        · obtain ⟨value, audit, event, drew', sent', ran⟩ := recorded
          have gave : Returns reference context ids program rows 0 0 value
              [.movement movement, .audit audit, .event event] (drew + drew') :=
            ⟨sent', by rw [before, ran, Nat.zero_add, append_assoc]; rfl⟩
          exact (outcome_returns gave).trans (if_pos probe).symm
        · obtain ⟨value, after, aborted, ran⟩ := recorded
          exact (outcome_loses ⟨value, after, aborted, before.trans ran⟩).trans (if_neg probe).symm
        · obtain ⟨error, after, ran⟩ := recorded
          exact outcome_throws ⟨error, after, before.trans ran⟩

theorem Outcome.probed_always (outcome : Outcome) : outcome.probed (fun _ => true) = outcome := by
  cases outcome <;> rfl

theorem reads_then (gave : Returns reference context ids program rows sent drawn value [] drew) :
    ∃ sent', ∀ {β : Type} (next : α → Service β),
      (program.bind next).run (ledgerEngine reference context) (undisturbed ids) ⟨rows, false, sent, drawn⟩ =
      (next value).run (ledgerEngine reference context) (undisturbed ids)
      ⟨rows, false, sent', drawn + drew⟩ := by
  obtain ⟨sent', ran⟩ := gave
  rw [append_nil] at ran
  exact ⟨sent', fun _ => run_then ran⟩

def InventoryBackfillJob.appended (job : InventoryBackfillJob) (line : SaleLine) :
    Option Movement → Service Bool
  | none => .done false
  | some row => (job.record line row).bind fun _ => .done true

theorem backfillLine_eq (job : InventoryBackfillJob) (line : SaleLine) :
    job.backfillLine line =
      (job.assertUnit line).bind fun _ => newId.bind fun id => (job.insertLine line id).bind
      (job.appended line) :=
  congrArg (Prog.bind _) (funext fun _ => congrArg (Prog.bind _) (funext fun _ =>
    congrArg (Prog.bind _) (funext fun added => by cases added <;> rfl)))

theorem backfillLine_inserts (job : InventoryBackfillJob) (line : SaleLine)
    (stored : Uuid.isUuid job.storeId = true) :
    Inserts reference context ids (job.backfillLine line) rows (job.values line (ids 0)) 1
      (job.appended line) := by
  have unit := @assertUnit_alone reference context rows ids 0 0 job line (ids 0) stored
  have insert : ∀ sent, _ := fun sent => @insert_alone reference context rows ids sent 1
    (job.values line (ids 0)) (fun error => if isUnitExclusionViolation error then
      .fail (.backfillCrossUnit line.unit line.unit) else .fail error)
    (fun error session _ => by split <;> exact ⟨_, _, rfl⟩)
  have before : unitStands context rows (job.values line (ids 0)) = true →
      ∃ sent, (job.backfillLine line).run (ledgerEngine reference context) (undisturbed ids)
      ⟨rows, false, 0, 0⟩ = ((job.insertLine line (ids 0)).bind (job.appended line)).run
        (ledgerEngine reference context) (undisturbed ids) ⟨rows, false, sent, 1⟩ := by
    intro stands
    rw [if_pos stands] at unit
    obtain ⟨sent, ran⟩ := reads_then unit
    rw [backfillLine_eq]
    exact ⟨sent, (ran _).trans (run_then run_newId)⟩
  have refused : unitStands context rows (job.values line (ids 0)) = false →
      Throws reference context ids (job.backfillLine line) rows 0 0 := by
    intro stands
    rw [if_neg (by rw [stands]; exact false_ne_true)] at unit
    rw [backfillLine_eq]
    exact unit.bind
  refine ⟨refused, fun fault failed => ?_, fun reply writes stands placed => ?_⟩
  · cases stands : unitStands context rows (job.values line (ids 0)) with
    | false => exact refused stands
    | true =>
      obtain ⟨sent, ran⟩ := before stands
      have throws := insert sent
      rw [failed] at throws
      obtain ⟨error, after, threw⟩ := throws
      exact ⟨error, after, ran.trans (run_threw threw)⟩
  · obtain ⟨sent, ran⟩ := before stands
    have gave := insert sent
    rw [placed] at gave
    obtain ⟨sent', added⟩ := gave
    exact ⟨sent', ran.trans (run_then added)⟩

/-- **The worker's path is the specification at the worker's values**, behind the checks of the job. -/
theorem backfillLine_outcome (job : InventoryBackfillJob) (line : SaleLine) :
    outcome rows ((job.lineAlone line).transaction (ledgerEngine reference context) (undisturbed ids) rows) =
      if job.assertJob = .ok () then
      appendOnce reference context rows (job.values line (ids 0)) (ids 1) (ids 2) else .rejected := by
  cases checked : job.assertJob with
  | error thrown =>
    rw [if_neg (by intro same; cases same)]
    refine outcome_throws ⟨thrown, begun rows, ?_⟩
    unfold InventoryBackfillJob.lineAlone
    rw [checked]
    rfl
  | ok done =>
    obtain ⟨-, tenant, stored, -⟩ := InventoryBackfillJob.assertJob_ok checked
    have alone : job.lineAlone line = job.backfillLine line := by
      unfold InventoryBackfillJob.lineAlone
      rw [checked]
      exact if_pos tenant
    have inserts := @backfillLine_inserts reference context rows ids job line stored
    rw [if_pos rfl, alone]
    rw [← Outcome.probed_always (appendOnce _ _ _ _ _ _)]
    refine inserts.outcome (fun sent _ => ⟨false, 0, sent, ?_⟩) fun sent movement placed => ?_
    · rw [append_nil]
      rfl
    · obtain ⟨-, added⟩ := inserted_ok placed
      have recorded := @record_alone reference context rows ids sent 1 job line movement added
      unfold Records
      rw [if_pos rfl]
      split_ifs at recorded ⊢
      · obtain ⟨audit, event, sent', ran⟩ := recorded
        exact ⟨true, audit, event, 2, sent', (run_then ran).trans rfl⟩
      · exact recorded.bind

end Runs

end DataPulse.Inventory
