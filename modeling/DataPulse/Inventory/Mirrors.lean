/-
**Where the two backfill paths agree.**

* `paths_agree_iff`: the paths agree on every ledger whose total fits exactly on these lines.
-/

import DataPulse.Inventory.Backfills
import DataPulse.Inventory.Transfers

namespace DataPulse.Inventory

open Lib Lib.Interleave Lib.Prog Platform

variable {reference : Reference} {movement : Movement}

section Method

variable {context : TenantContext} {rows : List Row} {ids : Nat → Uuid} {sent drawn : Nat}
variable {job : InventoryBackfillJob} {session : Session (List Row)}
variable {values : MovementValues} {input : BackfillInput} {kind : BackfillKind} {checked : Checked}

/-! ### The parts of the method -/

theorem MovementValues.row_sale (read : values.row context = .ok movement) :
    castOptional values.saleId = .ok movement.saleId := by
  obtain ⟨_, _, _, _, read⟩ := bind_ok₄ read
  obtain ⟨saleId, sale, read⟩ := bind_ok read
  obtain ⟨_, _, _, read⟩ := bind_ok₃ read
  cases read
  exact sale

theorem insertMovement_unread (unread : ∀ row, values.row context ≠ .ok row) :
    ∃ fault, insertMovement reference context rows values true = .error fault := by
  cases read : values.row context with
  | ok row => exact absurd read (unread row)
  | error fault =>
    refine ⟨fault, ?_⟩
    unfold insertMovement
    rw [read]
    rfl

theorem run_query_aborted {stmt : Stmt} {session : Session (List Row)} (aborted : session.aborted = true) :
    ∃ after, (clientQuery stmt).run (ledgerEngine reference context) (undisturbed ids) session =
      (.error (.pg (.plain .failedTransaction)), after) := by
  simp [clientQuery, query, Prog.run, answer, aborted, ledgerEngine]

theorem assertUnitOfProduct_alone (values : MovementValues) :
    if unitStands context rows values then
      Returns reference context ids
        (assertUnitOfProduct values.storeId values.tenantProductRef values.stockingUnit) rows sent drawn () []
        0 ∨
        (Throws reference context ids
          (assertUnitOfProduct values.storeId values.tenantProductRef values.stockingUnit) rows sent drawn ∧
          ∃ fault, insertMovement reference context rows values true = .error fault) else
      Throws reference context ids
      (assertUnitOfProduct values.storeId values.tenantProductRef values.stockingUnit) rows sent drawn := by
  cases product : values.tenantProductRef with
  | none =>
    have stands : unitStands context rows values = true := by simp [unitStands, product]
    rw [if_pos stands]
    exact .inl ⟨sent, by rw [append_nil]; rfl⟩
  | some text =>
    cases store : Uuid.ofText values.storeId with
    | none =>
      have stands : unitStands context rows values = true := by simp [unitStands, store]
      have ran : exec reference context rows (.establishedUnit values.storeId text) =
          .error (.plain .invalidText) := by
        simp only [exec, castUuid, store]
        rfl
      have unread : ∀ row, values.row context ≠ .ok row := by
        intro row read
        have gives := (MovementValues.row_ok read).store
        rw [store] at gives
        cases gives
      rw [if_pos stands]
      exact .inr ⟨⟨_, _, run_threw (run_query_error ran)⟩, insertMovement_unread unread⟩
    | some store' =>
      cases item : Uuid.ofText text with
      | none =>
        have stands : unitStands context rows values = true := by
          simp [unitStands, store, product, item]
        have ran : exec reference context rows (.establishedUnit values.storeId text) =
            .error (.plain .invalidText) := by
          simp only [exec, castUuid, store, item, ok_bind]
          rfl
        have unread : ∀ row, values.row context ≠ .ok row := by
          intro row read
          have gives := (MovementValues.row_ok read).product
          rw [product] at gives
          obtain ⟨found, cast, -⟩ := bind_ok gives
          rw [castUuid, item] at cast
          cases cast
        rw [if_pos stands]
        exact .inr ⟨⟨_, _, run_threw (run_query_error ran)⟩, insertMovement_unread unread⟩
      | some item' =>
        have stands :
            unitStands context rows values = (earliest (ofPair context.tenant store' item' rows)).all
              fun first => first.stockingUnit = values.stockingUnit := by
          simp [unitStands, product, store, item]
        have checked :=
          @checkUnit_alone reference context rows ids sent drawn values.storeId text values.stockingUnit
            (fun found => .crossUnit found values.stockingUnit) store' item' store item
        rw [stands]
        split_ifs at checked ⊢
        · exact .inl checked
        · exact checked

theorem insertMovementRow_handler (values : MovementValues) (error : Thrown) (aborted : session.aborted = true) :
    ∃ error' after, (match isUnitExclusionViolation error, values.tenantProductRef with
      | true, some product => do
          let established ← clientQuery (.establishedUnit values.storeId product)
          .fail (.crossUnit (Option.getD established values.stockingUnit) values.stockingUnit)
      | _, _ => .fail error : Service (Option Movement)).run (ledgerEngine reference context)
        (undisturbed ids) session = (.error error', after) := by
  split
  · obtain ⟨after, ran⟩ :=
      @run_query_aborted reference context ids (.establishedUnit values.storeId _) session aborted
    exact ⟨_, after, run_threw ran⟩
  · exact ⟨_, _, rfl⟩

theorem insertMovementRow_alone (values : MovementValues) :
    match insertMovement reference context rows values true with
    | .ok (reply, writes) => Returns reference context ids (insertMovementRow values true) rows sent
        drawn reply writes 0
    | .error _ => Throws reference context ids (insertMovementRow values true) rows sent drawn :=
  insert_alone fun error _ aborted => insertMovementRow_handler values error aborted

/-- **A taken key is found again.** -/
theorem existing_alone {id : Uuid}
    (placed : insertMovement reference context rows (kind.values input checked id) true = .ok (none, [])) :
    ∃ body, Returns reference context ids (kind.existing input) rows sent drawn body [] 0 := by
  obtain ⟨movement, read, ⟨none, -⟩ | ⟨-, -, -, tenant, other, mem, same⟩⟩ := insertMovement_ok placed
  · cases none
  have gives := MovementValues.row_ok read
  have keyed := keyed_of_sameKey same tenant gives.provenance
  have owner : castUuid input.tenantId = .ok movement.tenantId := castUuid_of gives.tenant
  have matches' : (some other.tenantId = context.tenant && other.tenantId = movement.tenantId &&
      other.provenance = some (trim input.sourceSystem, trim input.externalId)) = true := by
    have sameTenant : other.tenantId = movement.tenantId := Option.some.inj (keyed.1.trans tenant.symm)
    simp only [and_eq_true, decide_eq_true_eq]
    exact ⟨⟨keyed.1, sameTenant⟩, keyed.2⟩
  obtain ⟨found, first⟩ : ∃ found, (movementsOf rows).find? (fun m =>
      some m.tenantId = context.tenant && m.tenantId = movement.tenantId &&
        m.provenance = some (trim input.sourceSystem, trim input.externalId)) = some found :=
    isSome_iff_exists.1 (find?_isSome.2 ⟨other, mem, matches'⟩)
  have ran : exec reference context rows (.findMovement input.tenantId
      (trim input.sourceSystem) (trim input.externalId)) = .ok (some found, []) := by
    simp only [exec, owner, ok_bind, first]
  refine ⟨toMovementBody found, sent + 1, (run_then (run_query_ok ran)).trans ?_⟩
  rfl

/-- The total of the movement's product at its store fits its column, with the movement in it. -/
def totalFits (context : TenantContext) (rows : List Row) (movement : Movement) : Bool :=
  match movement.tenantProductRef with
  | some product => decide ((total (ofPair context.tenant movement.storeId product
      (rows ++ [.movement movement]))).natAbs < 10 ^ 19)
  | none => true

/-- **The probe of a negative balance is harmless where the total fits, and fatal elsewhere.** -/
theorem flagIfNegativeOnHand_alone {storeId : String} {product : Option String} {movement : Movement}
    {audit : AuditEvent} {event : OutboxEvent} (store : Uuid.ofText storeId = some movement.storeId)
    (item : castOptional product = .ok movement.tenantProductRef) :
    if totalFits context rows movement then
      Returns reference context ids (flagIfNegativeOnHand storeId product)
        (rows ++ [.movement movement] ++ [.audit audit, .event event]) sent drawn () [] 0 else
      Loses reference context ids (flagIfNegativeOnHand storeId product)
      (rows ++ [.movement movement] ++ [.audit audit, .event event]) sent drawn := by
  cases product with
  | none =>
    have none : movement.tenantProductRef = none := (Except.ok.inj item).symm
    have fits : totalFits context rows movement = true := by rw [totalFits, none]
    rw [if_pos fits]
    exact ⟨sent, by rw [append_nil]; rfl⟩
  | some text =>
    obtain ⟨found, itemText, found'⟩ := bind_ok item
    have known : movement.tenantProductRef = some found := (Except.ok.inj found').symm
    have same : ofPair context.tenant movement.storeId found
        (rows ++ [.movement movement] ++ [.audit audit, .event event]) =
        ofPair context.tenant movement.storeId found (rows ++ [.movement movement]) := by
      simp [ofPair, movementsOf]
    by_cases fits : (total (ofPair context.tenant movement.storeId found
        (rows ++ [.movement movement]))).natAbs < 10 ^ 19
    · rw [if_pos (by rw [totalFits, known]; exact decide_eq_true fits)]
      have ran : exec reference context (rows ++ [.movement movement] ++ [.audit audit, .event event]) (.onHand
          storeId text) = .ok (Numeric.text ⟨_, fits⟩, []) := by
        simp only [exec, castUuid_of store, itemText, ok_bind, same, Numeric.ofUnits_fits fits]
      exact ⟨sent + 1, rescue_returned ((run_then (run_query_ok ran)).trans rfl)⟩
    · rw [if_neg (by rw [totalFits, known]; exact fun claimed => fits (of_decide_eq_true claimed))]
      have ran : exec reference context (rows ++ [.movement movement] ++ [.audit audit, .event event]) (.onHand
          storeId text) = .error (.plain .outOfRange) := by
        simp only [exec, castUuid_of store, itemText, ok_bind, same, Numeric.ofUnits_error fits]
        rfl
      exact ⟨(), _, rfl, (rescue_threw (run_threw (run_query_error ran))).trans rfl⟩

def BackfillKind.appended (kind : BackfillKind) (input : BackfillInput) (auditId : Uuid) :
    Option Movement → Service StockMovementBody
  | none => kind.existing input
  | some row => kind.record input auditId row

theorem BackfillKind.backfill_eq (taken : kind.check input = .ok checked)
    (tenant : Uuid.isUuid input.tenantId = true) :
    kind.backfill input =
      newId.bind fun movementId => newId.bind fun auditId =>
      (assertUnitOfProduct input.storeId input.tenantProductRef checked.stockingUnit).bind fun _ =>
      (insertMovementRow (kind.values input checked movementId) true).bind (kind.appended input auditId) := by
  unfold BackfillKind.backfill
  rw [taken]
  refine congrArg (Prog.bind _) (funext fun movementId => congrArg (Prog.bind _) (funext fun auditId =>
    (if_pos tenant).trans (congrArg (Prog.bind _) (funext fun _ =>
      congrArg (Prog.bind _) (funext fun added => ?_)))))
  cases added <;> rfl

/-- **After the movement, the method's audit row, event and probe.** -/
theorem saleLinkedOutbound_record {auditId : Uuid}
    (inserted : Inserted reference context input.tenantId input.storeId input.userId movement)
    (item : castOptional input.tenantProductRef = .ok movement.tenantProductRef) :
    Records reference context ids (saleLinkedOutbound.record input auditId movement) rows sent drawn movement
      auditId (ids drawn) (totalFits context rows movement) := by
  have recorded := @recorded_alone reference context rows ids sent drawn
    ⟨auditId, input.userId, input.tenantId, "inventory.movement.backfill", "stock_movement",
      movement.id, [("sourceSystem", .text (trim input.sourceSystem)),
        ("externalId", .text (trim input.externalId))] ++ saleLinkedOutbound.auditRefs input ++
          [("correlationId", .ofOption input.correlationId)]⟩
    ⟨inventoryMovementCreated, input.tenantId, input.storeId,
      ⟨[movement.id], movement.movementType.text, input.tenantProductRef,
        [("sourceSystem", .text (trim input.sourceSystem)),
          ("externalId", .text (trim input.externalId))] ++ saleLinkedOutbound.eventRefs input⟩,
      input.correlationId.filter Uuid.isUuid⟩
    movement inserted rfl (castOptional_filter _)
  have parts : saleLinkedOutbound.record input auditId movement =
      (((clientQuery (.insertAudit ⟨auditId, input.userId, input.tenantId,
        "inventory.movement.backfill", "stock_movement", movement.id,
        [("sourceSystem", .text (trim input.sourceSystem)),
          ("externalId", .text (trim input.externalId))] ++ saleLinkedOutbound.auditRefs input ++
            [("correlationId", .ofOption input.correlationId)]⟩)).bind fun _ =>
        emit ⟨inventoryMovementCreated, input.tenantId, input.storeId,
          ⟨[movement.id], movement.movementType.text, input.tenantProductRef,
            [("sourceSystem", .text (trim input.sourceSystem)),
              ("externalId", .text (trim input.externalId))] ++ saleLinkedOutbound.eventRefs input⟩,
          input.correlationId.filter Uuid.isUuid⟩).bind fun _ =>
        (flagIfNegativeOnHand input.storeId input.tenantProductRef).bind fun _ =>
          .done (toMovementBody movement)) :=
    (congrArg (Prog.bind _) (funext fun _ => Prog.bind_assoc _ _ _)).trans (Prog.bind_assoc _ _ _).symm
  unfold Records
  rw [parts]
  split_ifs at recorded ⊢ with allowed fits
  · obtain ⟨audit, event, sent', ran⟩ := recorded
    have probed := @flagIfNegativeOnHand_alone reference context rows ids sent' (drawn + 1)
      input.storeId input.tenantProductRef movement audit event inserted.store item
    rw [if_pos fits] at probed
    obtain ⟨sent'', later⟩ := probed
    rw [append_nil] at later
    exact ⟨_, audit, event, 1, sent'', (run_then ran).trans ((run_then later).trans rfl)⟩
  · obtain ⟨audit, event, sent', ran⟩ := recorded
    have probed := @flagIfNegativeOnHand_alone reference context rows ids sent' (drawn + 1)
      input.storeId input.tenantProductRef movement audit event inserted.store item
    rw [if_neg fits] at probed
    obtain ⟨done, after, aborted, later⟩ := probed
    exact ⟨_, after, aborted, (run_then ran).trans ((run_then later).trans rfl)⟩
  · exact recorded.bind

/-- **The method's path is the specification at the method's values**, behind its checks, up to its
probe. -/
theorem backfill_outcome (input : BackfillInput) :
    outcome rows
      ((backfillSaleLinkedOutbound input).transaction (ledgerEngine reference context) (undisturbed ids)
        rows) = match saleLinkedOutbound.check input with
      | .ok checked => if Uuid.isUuid input.tenantId then
          (appendOnce reference context rows (saleLinkedOutbound.values input checked (ids 0))
            (ids 1) (ids 2)).probed (totalFits context rows) else .rejected
      | .error _ => .rejected := by
  unfold backfillSaleLinkedOutbound
  cases taken : saleLinkedOutbound.check input with
  | error thrown =>
    refine outcome_throws ⟨thrown, begun rows, ?_⟩
    unfold BackfillKind.backfill
    rw [taken]
    rfl
  | ok checked =>
    by_cases tenant : Uuid.isUuid input.tenantId = true
    swap
    · simp only [tenant, false_eq_true, if_false]
      refine outcome_throws
        ⟨.error "runWithTenantContext: tenantId must be a UUID string or null", ⟨rows, false, 0, 2⟩, ?_⟩
      unfold BackfillKind.backfill runWithTenantContext
      rw [taken]
      simp only [tenant, false_eq_true, if_false]
      exact (run_then run_newId).trans ((run_then run_newId).trans rfl)
    simp only [tenant, if_true]
    have unit := @assertUnitOfProduct_alone reference context rows ids 0 2
      (saleLinkedOutbound.values input checked (ids 0))
    have insert : ∀ sent, _ := fun sent => @insertMovementRow_alone reference context rows ids sent 2
      (saleLinkedOutbound.values input checked (ids 0))
    have drew : (saleLinkedOutbound.backfill input).run (ledgerEngine reference context) (undisturbed ids) ⟨rows,
        false, 0, 0⟩ = ((assertUnitOfProduct input.storeId input.tenantProductRef checked.stockingUnit).bind
        fun _ =>
        (insertMovementRow (saleLinkedOutbound.values input checked (ids 0)) true).bind
          (saleLinkedOutbound.appended
        input (ids 1))).run (ledgerEngine reference context) (undisturbed ids) ⟨rows, false, 0, 2⟩ := by
      rw [BackfillKind.backfill_eq taken tenant]
      exact (run_then run_newId).trans (run_then run_newId)
    have stopped : Throws reference context ids
        (assertUnitOfProduct input.storeId input.tenantProductRef checked.stockingUnit) rows 0 2 →
        Throws reference context ids (saleLinkedOutbound.backfill input) rows 0 0 := by
      intro throws
      obtain ⟨error, after, ran⟩ := throws.bind
      exact ⟨error, after, drew.trans ran⟩
    have before : Returns reference context ids
        (assertUnitOfProduct input.storeId input.tenantProductRef checked.stockingUnit) rows 0 2 () [] 0 →
        ∃ sent, (saleLinkedOutbound.backfill input).run (ledgerEngine reference context) (undisturbed ids)
        ⟨rows, false, 0, 0⟩ = ((insertMovementRow (saleLinkedOutbound.values input checked (ids 0)) true).bind
            (saleLinkedOutbound.appended input (ids 1))).run (ledgerEngine reference context)
          (undisturbed ids) ⟨rows, false, sent, 2⟩ := by
      intro gave
      obtain ⟨sent, ran⟩ := reads_then gave
      exact ⟨sent, drew.trans (ran _)⟩
    have inserts : Inserts reference context ids (saleLinkedOutbound.backfill input) rows
        (saleLinkedOutbound.values input checked (ids 0)) 2 (saleLinkedOutbound.appended input (ids 1)) := by
      refine ⟨fun stands => ?_, fun fault failed => ?_, fun reply writes stands placed => ?_⟩
      · rw [if_neg (by rw [stands]; exact false_ne_true)] at unit
        exact stopped unit
      · split_ifs at unit
        · rcases unit with gave | ⟨throws, -⟩
          · obtain ⟨sent, ran⟩ := before gave
            have throws := insert sent
            rw [failed] at throws
            obtain ⟨error, after, threw⟩ := throws
            exact ⟨error, after, ran.trans (run_threw threw)⟩
          · exact stopped throws
        · exact stopped unit
      · rw [if_pos stands] at unit
        rcases unit with gave | ⟨-, fault, failed⟩
        · obtain ⟨sent, ran⟩ := before gave
          have added := insert sent
          rw [placed] at added
          obtain ⟨sent', added⟩ := added
          exact ⟨sent', ran.trans (run_then added)⟩
        · rw [placed] at failed
          cases failed
    refine inserts.outcome (fun sent placed => ?_) fun sent movement placed => ?_
    · obtain ⟨body, gave⟩ := existing_alone placed
      exact ⟨body, 0, gave⟩
    · obtain ⟨-, added⟩ := inserted_ok placed
      obtain ⟨row, read, ⟨same, -⟩ | ⟨-, none, -⟩⟩ := insertMovement_ok placed
      · cases same
        exact saleLinkedOutbound_record added (MovementValues.row_ok read).product
      · cases none

/-! ### The two inputs -/

theorem digit_not_blank {c : Char} (hex : isLowerHex c = true ∨ c = '-') : isJsSpace c = false := by
  rcases hex with hex | rfl
  · simp only [isLowerHex, or_eq_true, and_eq_true, decide_eq_true_eq] at hex
    rcases hex with digit | letter
    · exact (digit_not_space digit).2
    · have lower : 97 ≤ c.toNat := UInt32.le_iff_toNat_le.1 letter.1
      have upper : c.toNat ≤ 102 := UInt32.le_iff_toNat_le.1 letter.2
      simp only [isJsSpace, mem_cons, not_mem_nil, or_false, or_eq_false_iff,
        decide_eq_false_iff_not, Bool.and_eq_false_iff]
      omega
  · decide

theorem trim_uuid (id : Uuid) : trim id.text = id.text := by
  have canonical := id.canonical
  simp only [isCanonicalUuid, and_eq_true, all_eq_true] at canonical
  have clean : ∀ c ∈ id.text.toList, isJsSpace c = false := by
    intro c mem
    refine digit_not_blank ?_
    rcases Uuid.mem_splitOn '-' id.text.toList c mem with same | ⟨group, inGroups, inGroup⟩
    · exact .inr same
    · exact .inl (canonical.2 group inGroups c inGroup)
  rw [trim, trimBy_eq_self clean, String.ofList_toList]

theorem uuid_ne_empty (id : Uuid) : id.text ≠ "" := by
  intro empty
  have canonical := id.canonical
  rw [empty] at canonical
  exact absurd canonical (by decide)

theorem sold_finiteAtScale (sold : SoldQuantity) (message : String) :
    finiteAtScale ("-" ++ sold.text) message =
      .ok (atScale (-Binary64.roundBinary64 (sold.micros / 10 ^ 6))) := by
  rw [finiteAtScale, sold.number_minus]

variable {line : SaleLine}

/-- **The method rejects a quantity of up to 50 millionths, and a unit of blanks.** -/
theorem input_check_error
    (rejected : line.quantity.micros ≤ 50 ∨ trim job.sourceSystem = "" ∨ trim line.unit = "") :
    ∃ error, saleLinkedOutbound.check (job.input line) = .error error := by
  have quantity := sold_finiteAtScale line.quantity "quantity must be a number"
  unfold BackfillKind.check
  rw [show (job.input line).quantity = "-" ++ line.quantity.text from rfl, quantity, ok_bind]
  rcases line.quantity.atScale_sold with ⟨-, zero⟩ | ⟨large, negative⟩
  · refine ⟨.badRequest "quantity must be non-zero at numeric(19,4) scale", ?_⟩
    rw [zero]
    rfl
  · have nonzero : ¬ atScale (-Binary64.roundBinary64 (line.quantity.micros / 10 ^ 6)) = 0 := ne_of_lt negative
    have sign : ¬ 0 < atScale (-Binary64.roundBinary64 (line.quantity.micros / 10 ^ 6)) := not_lt.2 negative.le
    simp only [throwWhen, nonzero, decide_false, false_eq_true, if_false, ok_bind, saleLinkedOutbound, sign]
    rcases rejected with small | source | unit
    · omega
    · exact ⟨_, by simp [InventoryBackfillJob.input, source]; rfl⟩
    · by_cases source : trim job.sourceSystem = ""
      · exact ⟨_, by simp [InventoryBackfillJob.input, source]; rfl⟩
      · refine ⟨.badRequest "stockingUnit is required", ?_⟩
        simp [InventoryBackfillJob.input, source, unit, trim_uuid, uuid_ne_empty]
        rfl

/-- **It accepts the others.** -/
theorem input_check_ok (large : 51 ≤ line.quantity.micros) (source : trim job.sourceSystem ≠ "")
    (unit : trim line.unit ≠ "") :
    ∃ quantity, saleLinkedOutbound.check (job.input line) = .ok ⟨quantity, trim line.unit, none⟩ := by
  have quantity := sold_finiteAtScale line.quantity "quantity must be a number"
  rcases line.quantity.atScale_sold with ⟨small, -⟩ | ⟨-, negative⟩
  · omega
  · refine ⟨atScale (-Binary64.roundBinary64 (line.quantity.micros / 10 ^ 6)), ?_⟩
    have nonzero : ¬ atScale (-Binary64.roundBinary64 (line.quantity.micros / 10 ^ 6)) = 0 := ne_of_lt negative
    have sign : ¬ 0 < atScale (-Binary64.roundBinary64 (line.quantity.micros / 10 ^ 6)) := not_lt.2 negative.le
    unfold BackfillKind.check
    rw [show (job.input line).quantity = "-" ++ line.quantity.text from rfl, quantity, ok_bind]
    simp only [throwWhen, nonzero, decide_false, false_eq_true, if_false, ok_bind, saleLinkedOutbound, sign]
    simp [InventoryBackfillJob.input, source, unit, trim_uuid, uuid_ne_empty, trimmedReason]

theorem insertMovement_congr {values' : MovementValues} (same : values.row context = values'.row context) :
    insertMovement reference context rows values true =
      insertMovement reference context rows values' true := by
  unfold insertMovement
  rw [same]

def InventoryBackfillJob.methodValues (job : InventoryBackfillJob) (line : SaleLine) (quantity : ℚ)
    (id : Uuid) : MovementValues :=
  saleLinkedOutbound.values (job.input line) ⟨quantity, trim line.unit, none⟩ id

variable {quantity : ℚ}

/-- **Both paths insert one row**, where there is nothing to trim. -/
theorem rows_agree {id : Uuid} (source : trim job.sourceSystem = job.sourceSystem)
    (unit : trim line.unit = line.unit) :
    (job.methodValues line quantity id).row context = (job.values line id).row context := by
  have negated : (QuantitySql.negatedCast line.quantity.text).value = .ok line.quantity.taken := by
    simp only [QuantitySql.value, line.quantity.ofText_text, ok_bind]
    rfl
  have minus : (QuantitySql.cast ("-" ++ line.quantity.text)).value = .ok line.quantity.taken := by
    simp only [QuantitySql.value, line.quantity.ofText_minus]
  have texts : job.methodValues line quantity id =
      { job.values line id with quantity := .cast ("-" ++ line.quantity.text) } := by
    simp only [InventoryBackfillJob.methodValues, BackfillKind.values, InventoryBackfillJob.input,
      InventoryBackfillJob.values, source, unit, trim_uuid, saleLinkedOutbound]
  rw [texts]
  unfold MovementValues.row
  simp only [minus, InventoryBackfillJob.values, negated]

theorem unitStands_agree {id : Uuid} (unit : trim line.unit = line.unit) :
    unitStands context rows (job.methodValues line quantity id) =
      unitStands context rows (job.values line id) := by
  simp only [unitStands, InventoryBackfillJob.methodValues, BackfillKind.values,
    InventoryBackfillJob.input, InventoryBackfillJob.values, unit]
  rfl

theorem appendOnce_rejected {auditId eventId : Uuid}
    (failed : ∃ fault, insertMovement reference context rows values true = .error fault) :
    appendOnce reference context rows values auditId eventId = .rejected := by
  obtain ⟨fault, failed⟩ := failed
  unfold appendOnce
  rw [failed]
  split <;> rfl

end Method

/-! ### Agreement -/

def InventoryBackfillJob.context (job : InventoryBackfillJob) (now : Int) : TenantContext :=
  ⟨Uuid.ofText job.tenantId, now⟩

/-- The paths do the same to a ledger: both reject the line, find it there, or append one movement. -/
def PathsAgree (reference : Reference) (job : InventoryBackfillJob) (line : SaleLine) (now : Int)
    (rows : List Row) (ids : Nat → Uuid) : Prop :=
  outcome rows ((job.lineAlone line).transaction (ledgerEngine reference (job.context now))
      (undisturbed ids) rows) =
    outcome rows ((backfillSaleLinkedOutbound (job.input line)).transaction
      (ledgerEngine reference (job.context now)) (undisturbed ids) rows)

/-- **The lines of which both paths make the same values.** -/
structure Mirrors (job : InventoryBackfillJob) (line : SaleLine) : Prop where
  source : trim job.sourceSystem = job.sourceSystem
  unit : trim line.unit = line.unit
  present : line.unit ≠ ""
  quantity : 51 ≤ line.quantity.micros

/-- The total of the line's product at the job's store fits its column with the line taken off. -/
def LineFits (job : InventoryBackfillJob) (line : SaleLine) (now : Int) (rows : List Row) : Prop :=
  ∀ store product, Uuid.ofText job.storeId = some store → line.tenantProductRef = some product →
    (total (ofPair (job.context now).tenant store product rows) - line.quantity.units).natAbs <
      10 ^ 19

/-- What the line refers to is there. -/
structure Resolvable (reference : Reference) (job : InventoryBackfillJob) (line : SaleLine) : Prop
    where
  tenant : (Uuid.ofText job.tenantId).all reference.tenants = true
  store : (Uuid.ofText job.storeId).all (fun store => (reference.stores store).isSome) = true
  product : line.tenantProductRef.all reference.products = true
  actor : (Uuid.ofText job.actorId).all reference.users = true

section Agreement

variable {job : InventoryBackfillJob} {line : SaleLine} {now : Int} {rows : List Row}
  {ids : Nat → Uuid}

theorem line_gives {id : Uuid} (read : (job.values line id).row (job.context now) = .ok movement) :
    movement.quantity = line.quantity.taken ∧ movement.tenantProductRef = line.tenantProductRef := by
  have gives := MovementValues.row_ok read
  constructor
  · have value := gives.quantity
    simp only [InventoryBackfillJob.values, QuantitySql.value, line.quantity.ofText_text, ok_bind] at value
    exact (Except.ok.inj value).symm
  · have product := gives.product
    simp only [InventoryBackfillJob.values, castOptional_text] at product
    exact (Except.ok.inj product).symm

theorem totalFits_of_line {id : Uuid} (read : (job.values line id).row (job.context now) = .ok movement)
    (tenant : some movement.tenantId = (job.context now).tenant) (fits : LineFits job line now rows) :
    totalFits (job.context now) rows movement = true := by
  obtain ⟨quantity, product⟩ := line_gives read
  have store := (MovementValues.row_ok read).store
  cases item : line.tenantProductRef with
  | none => rw [totalFits, product, item]
  | some item' =>
    have bound := fits movement.storeId item' store item
    have counted : Movement.counts (job.context now).tenant movement.storeId item' movement = true := by
      simp [Movement.counts, tenant, product, item]
    have sum : total (ofPair (job.context now).tenant movement.storeId item' (rows ++ [.movement movement])) =
        total (ofPair (job.context now).tenant movement.storeId item' rows) - line.quantity.units := by
      rw [ofPair, movementsOf_append, filter_append, total_append,
        show movementsOf [.movement movement] = [movement] from rfl,
        filter_cons_of_pos counted, sub_eq_add_neg]
      simp [total, quantity, SoldQuantity.taken, ofPair]
    rw [totalFits, product, item]
    simp only [sum]
    exact decide_eq_true bound

theorem refused_agree {thrown : Thrown} (refused : job.assertJob = .error thrown) :
    outcome rows
      ((backfillSaleLinkedOutbound (job.input line)).transaction (ledgerEngine reference (job.context now))
        (undisturbed ids) rows) = .rejected := by
  rw [backfill_outcome]
  cases taken : saleLinkedOutbound.check (job.input line) with
  | error error => rfl
  | ok checked =>
    show (if Uuid.isUuid job.tenantId then _ else _) = _
    by_cases tenant : Uuid.isUuid job.tenantId = true
    · have unread : ∀ row, (saleLinkedOutbound.values (job.input line) checked (ids 0)).row
          (job.context now) ≠ .ok row := by
        intro row read
        have gives := MovementValues.row_ok read
        have sale := MovementValues.row_sale read
        have store : Uuid.isUuid job.storeId = true := isSome_iff_exists.2 ⟨_, gives.store⟩
        have actor : Uuid.isUuid job.actorId = true := isSome_iff_exists.2 ⟨_, gives.creator⟩
        have source : trim job.sourceSystem ≠ "" := by
          intro blank
          obtain ⟨error, rejected⟩ := @input_check_error job line (.inr (.inl blank))
          rw [taken] at rejected
          cases rejected
        obtain ⟨saleId, saleText, -⟩ := bind_ok sale
        have saleUuid : Uuid.isUuid job.saleId = true := isSome_iff_exists.2 ⟨saleId, castUuid_ok saleText⟩
        simp [InventoryBackfillJob.assertJob, throwWhen, saleUuid, tenant, store, actor, source] at refused
      rw [if_pos tenant, appendOnce_rejected (insertMovement_unread unread)]
      rfl
    · rw [if_neg tenant]

/-- **On lines that mirror, the paths agree wherever the total fits.** -/
theorem Mirrors.agree (mirrors : job.assertJob = .ok () → Mirrors job line)
    (fits : LineFits job line now rows) : PathsAgree reference job line now rows ids := by
  unfold PathsAgree
  rw [backfillLine_outcome]
  cases checked : job.assertJob with
  | error thrown =>
    rw [if_neg (by intro same; cases same), refused_agree checked]
  | ok done =>
    obtain ⟨source, unit, here, quantity⟩ := mirrors checked
    obtain ⟨-, tenant, -, -, blank⟩ := InventoryBackfillJob.assertJob_ok checked
    obtain ⟨scaled, taken⟩ := @input_check_ok job line quantity blank (by rw [unit]; exact here)
    have same := @rows_agree (job.context now) job line scaled (ids 0) source unit
    rw [if_pos rfl, backfill_outcome, taken]
    show _ = if Uuid.isUuid job.tenantId then
      (appendOnce reference (job.context now) rows (job.methodValues line scaled (ids 0)) (ids 1)
        (ids 2)).probed (totalFits (job.context now) rows) else _
    rw [if_pos tenant]
    unfold appendOnce
    rw [insertMovement_congr same, unitStands_agree unit]
    split
    · cases placed : insertMovement reference (job.context now) rows (job.values line (ids 0)) true with
      | error fault => rfl
      | ok result =>
        obtain ⟨reply, writes⟩ := result
        cases reply with
        | none => rfl
        | some movement =>
          simp only
          split
          · obtain ⟨row, read, ⟨found, -, around⟩ | ⟨-, none, -⟩⟩ := insertMovement_ok placed
            · cases found
              exact (if_pos (totalFits_of_line read around.tenant fits)).symm
            · cases none
          · rfl
    · rfl

theorem appended_first (taken : job.assertJob = .ok ()) (resolvable : Resolvable reference job line) :
    ∃ movement, appendOnce reference (job.context now) [] (job.values line (ids 0)) (ids 1) (ids 2) =
      .appended movement ∧ movement.stockingUnit = line.unit ∧
      movement.provenance = some (job.sourceSystem, line.id.text) := by
  obtain ⟨sale, tenant, store, actor, -⟩ := InventoryBackfillJob.assertJob_ok taken
  obtain ⟨saleId, saleText⟩ := isSome_iff_exists.1 sale
  obtain ⟨tenantId, tenantText⟩ := isSome_iff_exists.1 tenant
  obtain ⟨storeId, storeText⟩ := isSome_iff_exists.1 store
  obtain ⟨actorId, actorText⟩ := isSome_iff_exists.1 actor
  obtain ⟨knownTenant, knownStore, knownProduct, knownActor⟩ := resolvable
  rw [tenantText, all_some] at knownTenant
  rw [storeText, all_some] at knownStore
  rw [actorText, all_some] at knownActor
  have negated : (QuantitySql.negatedCast line.quantity.text).value = .ok line.quantity.taken := by
    simp only [QuantitySql.value, line.quantity.ofText_text, ok_bind]
    rfl
  let movement : Movement := ⟨ids 0, tenantId, storeId, .outbound, line.quantity.taken, line.unit,
    line.tenantProductRef, none, now, now, some (job.sourceSystem, line.id.text), some saleId,
    some line.id, none, none, none, actorId⟩
  have row : (job.values line (ids 0)).row (job.context now) = .ok movement := by
    unfold MovementValues.row
    simp only [InventoryBackfillJob.values, castUuid_of tenantText, castUuid_of storeText, negated,
      castOptional_text, castOptional_of saleText, castOptional_of (Uuid.ofText_text line.id),
      castUuid_of actorText, ok_bind]
    rfl
  have own : some tenantId = (job.context now).tenant := tenantText.symm
  have placed : insertMovement reference (job.context now) [] (job.values line (ids 0)) true =
      .ok (some movement, [.movement movement]) := by
    unfold insertMovement
    rw [row]
    simp [require, movementsOf, movement, own, knownTenant, knownStore, knownProduct]
  have stands : unitStands (job.context now) [] (job.values line (ids 0)) = true := by
    unfold unitStands
    split <;> rfl
  have recorded : recordable reference [] movement (ids 1) (ids 2) = true := by
    simp [recordable, auditsOf, eventsOf, movement, knownActor]
  refine ⟨movement, ?_, rfl, rfl⟩
  unfold appendOnce
  rw [if_pos stands, placed]
  exact if_pos recorded

/-- **Only on lines that mirror do the paths agree on the empty ledger.** -/
theorem mirrors_of_agree (taken : job.assertJob = .ok ()) (resolvable : Resolvable reference job line)
    (agree : PathsAgree reference job line now [] ids) : Mirrors job line := by
  obtain ⟨-, tenant, -, -, blank⟩ := InventoryBackfillJob.assertJob_ok taken
  obtain ⟨movement, appended, unit, provenance⟩ := @appended_first reference job line now ids taken resolvable
  unfold PathsAgree at agree
  rw [backfillLine_outcome, if_pos taken, appended, backfill_outcome] at agree
  by_cases rejected : line.quantity.micros ≤ 50 ∨ trim job.sourceSystem = "" ∨ trim line.unit = ""
  · obtain ⟨error, refused⟩ := input_check_error rejected
    rw [refused] at agree
    cases agree
  push Not at rejected
  obtain ⟨large, source, here⟩ := rejected
  obtain ⟨scaled, passed⟩ := @input_check_ok job line large source here
  rw [passed] at agree
  replace agree : Outcome.appended movement = if Uuid.isUuid job.tenantId then
      (appendOnce reference (job.context now) [] (job.methodValues line scaled (ids 0)) (ids 1)
        (ids 2)).probed (totalFits (job.context now) []) else .rejected := agree
  rw [if_pos tenant] at agree
  unfold appendOnce at agree
  split at agree
  · split at agree
    · rename_i other writes placed
      split at agree
      · have same : movement = other := by
          unfold Outcome.probed at agree
          simp only at agree
          split at agree
          · exact Outcome.appended.inj agree
          · cases agree
        obtain ⟨row, read, ⟨found, -⟩ | ⟨-, none, -⟩⟩ := insertMovement_ok placed
        · cases found
          have gives := MovementValues.row_ok read
          have trimmedUnit : movement.stockingUnit = trim line.unit := by rw [same]; exact gives.unit
          have trimmedKey : movement.provenance = some (trim job.sourceSystem, trim line.id.text) := by
            rw [same]
            exact gives.provenance
          rw [unit] at trimmedUnit
          rw [provenance] at trimmedKey
          have sources : job.sourceSystem = trim job.sourceSystem :=
            congrArg Prod.fst (Option.some.inj trimmedKey)
          refine ⟨sources.symm, trimmedUnit.symm, ?_, large⟩
          rw [trimmedUnit]
          exact here
        · cases none
      · cases agree
    · cases agree
    · cases agree
  · cases agree


end Agreement

/-! ### Runs -/

def lineMovements (tenant : Option Uuid) (sourceSystem : String) (line : SaleLine)
    (rows : List Row) : List Movement :=
  (movementsOf rows).filter fun m =>
    some m.tenantId = tenant && m.provenance = some (sourceSystem, line.id.text)

section Runs

variable {config : Config} {job : InventoryBackfillJob} {line : SaleLine}

theorem lineMovements_keyed (now : Int) {tenant : Option Uuid} {sourceSystem : String} {rows : List Row}
    {movement : Movement} :
    movement ∈ lineMovements tenant sourceSystem line rows ↔
      movement ∈ movementsOf rows ∧ Keyed ⟨tenant, now⟩ (sourceSystem, line.id.text) movement := by
  simp only [lineMovements, mem_filter, Keyed, and_eq_true, decide_eq_true_eq]

/-- **Under one key there is at most one movement.** -/
theorem lineMovements_le_one (reach : Reachable reference config) (tenant : Option Uuid)
    (sourceSystem : String) : (lineMovements tenant sourceSystem line config.ledger).length ≤ 1 := by
  have free := (reach.clashFree (inventory_lawful reference)).ledger
  refine filter_length_le_one (List.Pairwise.filterMap _ ?_ free)
  intro first second apart one isFirst two isSecond
  cases first <;> cases isFirst
  cases second <;> cases isSecond
  rintro ⟨here, there⟩
  simp only [and_eq_true, decide_eq_true_eq] at here there
  have clashing := @clash_of_keyed ⟨tenant, 0⟩ (sourceSystem, line.id.text) _ _ ⟨here.1, here.2⟩ there
  rw [show clash (.movement one) (.movement two) = false from apart] at clashing
  cases clashing

/-- The call appends the line: the job of its sale, or the method with the line's input. -/
def Call.appends (reference : Reference) (job : InventoryBackfillJob) (line : SaleLine)
    (call : Call) : Prop :=
  match call.operation with
  | .process other => other = job ∧ ∃ saleId storeId, Uuid.ofText job.saleId = some saleId ∧
      Uuid.ofText job.storeId = some storeId ∧
      line ∈ InventoryBackfillJob.linesOf reference call.context saleId storeId
  | .backfillSaleLinkedOutbound input => input = job.input line
  | _ => False

/-- **A path that committed leaves the movement of the line.** -/
theorem movement_of_commit (reach : Reachable reference config)
    (source : trim job.sourceSystem = job.sourceSystem) {pid : Nat} {proc : Proc}
    (found : config.procs[pid]? = some proc) (appends : proc.call.appends reference job line) {body : Body}
    (gave : proc.result = some (.ok body)) (sound : aborted proc.log = false) :
    ∃ movement, movement ∈ lineMovements (Uuid.ofText job.tenantId) job.sourceSystem line config.ledger := by
  obtain ⟨before, after, commits⟩ := reach.committed found gave sound
  obtain ⟨proc', body', found', -, -, ends⟩ := reach.commit commits
  obtain rfl := mem_unique found found'
  have goes := ends.finishes
  have among : ∀ movement, movement ∈ movementsOf (contents before) ∨
      movement ∈ movementsOf (written proc.log) → movement ∈ movementsOf config.ledger := by
    intro movement mem
    rw [Config.ledger, commits, contents_commit, movementsOf_append, movementsOf_append]
    rcases mem with prior | own
    · exact mem_append_left _ prior
    · exact mem_append_right _ (mem_append_left _ own)
  have keyed : ∀ movement, Keyed proc.call.context (job.sourceSystem, line.id.text) movement →
      proc.call.operation.tenantId = job.tenantId →
      (movement ∈ movementsOf (contents before) ∨ movement ∈ movementsOf (written proc.log)) →
      movement ∈ lineMovements (Uuid.ofText job.tenantId) job.sourceSystem line config.ledger := by
    intro movement key tenant mem
    refine (lineMovements_keyed proc.call.now).2 ⟨among movement mem, ?_, key.2⟩
    exact key.1.trans (by rw [proc.call.context_tenant, tenant])
  unfold Call.appends at appends
  cases op : proc.call.operation with
  | process other =>
    rw [op] at appends
    obtain ⟨rfl, saleId, storeId, sale, store, inside⟩ := appends
    rw [inventory_program, op] at goes
    obtain ⟨result, -, goes⟩ := returns_map goes
    obtain ⟨saleId', storeId', appended, deeds, -, sale', store', done, -⟩ := process_effect goes
    obtain rfl := mem_unique sale sale'
    obtain rfl := mem_unique store store'
    obtain ⟨movement, mem, key⟩ := done.present line inside
    rw [movementsOf_append] at mem
    exact ⟨movement, keyed movement key (by rw [op]; rfl) (mem_append.1 mem)⟩
  | backfillSaleLinkedOutbound input =>
    rw [op] at appends
    subst appends
    rw [inventory_program, op] at goes
    obtain ⟨result, -, goes⟩ := returns_map goes
    have tenant : proc.call.operation.tenantId = job.tenantId := by rw [op]; rfl
    obtain ⟨checked, -, ⟨deed, ids, read, wrote, -⟩ | ⟨old, ids, -, mem, key, -⟩⟩ :=
      BackfillKind.backfill_effect goes
    · have gives := MovementValues.row_ok read
      have provenance : deed.movement.provenance = some (job.sourceSystem, line.id.text) := by
        rw [gives.provenance]
        simp only [BackfillKind.values, InventoryBackfillJob.input, source, trim_uuid]
      refine ⟨deed.movement, keyed _ ⟨gives.inTenant tenant, provenance⟩ tenant (.inr ?_)⟩
      rw [wrote.written]
      exact mem_movementsOf.2 mem_cons_self
    · simp only [InventoryBackfillJob.input, source, trim_uuid] at key
      exact ⟨old, keyed old key tenant (.inl mem)⟩
  | _ =>
    rw [op] at appends
    exact appends.elim

/-- **The paths agree exactly on the lines that mirror**, and in any order of the two, repeated or
interleaved, such a line gets one movement. -/
theorem paths_agree_iff (reference : Reference) (job : InventoryBackfillJob) (line : SaleLine) :
    ((job.assertJob = .ok () → Mirrors job line) →
        ∀ now rows ids, LineFits job line now rows → PathsAgree reference job line now rows ids) ∧
      (Resolvable reference job line →
          (∀ now rows ids, LineFits job line now rows → PathsAgree reference job line now rows ids) →
          job.assertJob = .ok () → Mirrors job line) ∧
      ((job.assertJob = .ok () → Mirrors job line) →
        ∀ config, Reachable reference config →
        (lineMovements (Uuid.ofText job.tenantId) job.sourceSystem line config.ledger).length ≤ 1 ∧
        ∀ (pid : Nat) (proc : Proc) (body : Body),
        config.procs[pid]? = some proc → proc.call.appends reference job line →
        proc.result = some (.ok body) → aborted proc.log = false → job.assertJob = .ok () →
        (lineMovements (Uuid.ofText job.tenantId) job.sourceSystem line config.ledger).length = 1) := by
  refine ⟨fun mirrors now rows ids fits => Mirrors.agree mirrors fits, fun resolvable agree taken => ?_, fun
    mirrors config reach => ⟨lineMovements_le_one reach _ _, ?_⟩⟩
  · have fits : LineFits job line 0 [] := by
      intro store product _ _
      have small := line.quantity.units_fits
      simp only [ofPair, movementsOf, List.filterMap_nil, List.filter_nil, total, map_nil, sum_nil]
      omega
    exact mirrors_of_agree taken resolvable (agree 0 [] (fun _ => sample 0) fits)
  · intro pid proc body found appends gave sound taken
    obtain ⟨movement, mem⟩ := movement_of_commit reach (mirrors taken).source found appends gave sound
    have one := @lineMovements_le_one reference config line reach (Uuid.ofText job.tenantId) job.sourceSystem
    have here := length_pos_of_mem mem
    omega

def sampleJob : InventoryBackfillJob where
  saleId := (sample 2).text
  tenantId := (sample 7).text
  storeId := (sample 8).text
  actorId := (sample 5).text
  sourceSystem := "pos"

def sampleLine (micros : Fin 100000000) : SaleLine where
  id := .sample 3
  saleId := .sample 2
  tenantId := .sample 7
  storeId := .sample 8
  quantity := ⟨micros, by have := micros.isLt; omega⟩
  unit := "each"
  tenantProductRef := some (.sample 9)

theorem sampleJob_accepted : sampleJob.assertJob = .ok () := by decide +kernel

theorem sampleLine_mirrors : Mirrors sampleJob (sampleLine 2500000) :=
  ⟨by decide +kernel, by decide +kernel, by decide, by decide⟩

theorem paths_agree_sample : PathsAgree .sample sampleJob (sampleLine 2500000) 0 [] sample := by
  refine (paths_agree_iff .sample sampleJob (sampleLine 2500000)).1 (fun _ => sampleLine_mirrors) 0 [] sample ?_
  intro store product _ _
  have small := (sampleLine 2500000).quantity.units_fits
  simp only [ofPair, movementsOf, List.filterMap_nil, List.filter_nil, total, map_nil, sum_nil]
  omega

/-- **A line of 50 millionths: the worker appends a movement of 0.0001 and the method rejects it.** -/
theorem paths_disagree : sampleJob.assertJob = .ok () ∧
    ¬ PathsAgree .sample sampleJob (sampleLine 50) 0 [] sample := by
  have resolvable : Resolvable .sample sampleJob (sampleLine 50) :=
    ⟨by decide +kernel, by decide +kernel, by decide, by decide +kernel⟩
  refine ⟨sampleJob_accepted, fun agree => ?_⟩
  exact absurd (mirrors_of_agree sampleJob_accepted resolvable agree).quantity (by decide)

end Runs

end DataPulse.Inventory
