/-
**One unit for each product at a store.**

Two guards keep it: a check before the INSERT, and the EXCLUDE constraint at the INSERT.

* `guarded_iff`: so a call that a guard stopped ends as it should exactly when the constraint did not
  fire.
-/

import DataPulse.Inventory.Trail

namespace DataPulse.Inventory

open Lib Lib.Interleave Platform

/-! ### The constraint -/

variable {reference : Reference} {config : Config}

/-- **The movements of a product at a store have one unit.** -/
theorem Reachable.one_unit (reach : Reachable reference config) {first second : Movement}
    (one : first ∈ movementsOf config.ledger) (two : second ∈ movementsOf config.ledger)
    (store : first.storeId = second.storeId) (product : first.tenantProductRef = second.tenantProductRef)
    (named : first.tenantProductRef ≠ none) : first.stockingUnit = second.stockingUnit := by
  by_contra unlike
  have free := (reach.clashFree (inventory_lawful reference)).ledger
  have clashes : clash (.movement first) (.movement second) = true := by
    simp [clash, Movement.otherUnit, store, product, isSome_iff_ne_none.2 (product ▸ named), unlike]
  have same := eq_of_clash clash_comm free (mem_movementsOf.1 one) (mem_movementsOf.1 two) clashes
  exact unlike (congrArg Movement.stockingUnit (Row.movement.inj same))

/-! ### What stopped a call -/

/-- The EXCLUDE constraint refused the INSERT of an entry. -/
def firedBy : Entry Stmt Reply Uuid PgError Row → Bool
  | .answered (.insertMovement _ _) _ (.error fault) => fault = unitViolation
  | _ => false

def exclusionFired (log : Log) : Bool := log.any firedBy

theorem exclusionFired_append (first second : Log) :
    exclusionFired (first ++ second) = (exclusionFired first || exclusionFired second) :=
  any_append

theorem failed_of_firedBy {entry : Entry Stmt Reply Uuid PgError Row} (fired : firedBy entry = true) :
    entry.failed = true := by
  unfold firedBy at fired
  split at fired
  · rfl
  · cases fired

theorem not_fired_of_sound {log : Log} (sound : aborted log = false) : exclusionFired log = false := by
  refine any_eq_false.2 fun entry mem fired => ?_
  exact any_eq_false.1 sound entry mem (failed_of_firedBy fired)

variable {error : Thrown}

section Programs

variable {commits : List (Nat × List Row)} {call : Call} {own : List Row} {log : Log} {α β : Type}
variable {storeId : String} {checked : Checked}
variable {program : Service α} {next : Unit → Service β} {product : Option String}
  {tenantId : String}

/-- The program never throws the cross-unit error, whatever the server answers. -/
def Silent (reference : Reference) (program : Service α) : Prop :=
  ∀ commits call failed own log established supplied,
    Answers (inventory reference) commits call failed own log →
      ¬ Ends (inventory reference) program log (.error (.crossUnit established supplied))

/-- Why a program threw the cross-unit error: one of its products stands in another unit. -/
structure Blames (commits : List (Nat × List Row)) (call : Call) (own : List Row)
    (pairs : List (String × String)) (log : Log) (established supplied : String) : Prop where
  unfired : exclusionFired log = false
  differs : established ≠ supplied
  standing : ∃ pair ∈ pairs, ∃ store product, Uuid.ofText pair.1 = some store ∧
    Uuid.ofText pair.2 = some product ∧
    ∃ movement ∈ ofPair call.context.tenant store product (contents commits ++ own),
      movement.stockingUnit = established

/-- The program throws the cross-unit error only of a supplied unit, and for a reason. -/
def Honest (reference : Reference) (pairs : List (String × String)) (unit : String)
    (program : Service α) : Prop :=
  ∀ commits call own log established supplied,
    Finishes (inventory reference) commits call own program log
      (.error (.crossUnit established supplied)) →
        supplied = unit ∧ Blames commits call own pairs log established supplied

theorem Silent.honest {pairs : List (String × String)} {unit : String} (silent : Silent reference program) :
    Honest reference pairs unit program :=
  fun commits call own log established supplied ends =>
    absurd ends.ends (silent commits call false own log established supplied ends.answers)

theorem silent_done (value : α) : Silent reference (.done value : Service α) := by
  intro commits call failed own log established supplied _ ends
  obtain ⟨-, same⟩ := ends_done ends
  cases same

theorem silent_fail (other : ∀ established supplied, error ≠ .crossUnit established supplied) :
    Silent reference (.fail error : Service α) := by
  intro commits call failed own log established supplied _ ends
  obtain ⟨-, same⟩ := ends_fail ends
  exact other established supplied (Except.error.inj same).symm

theorem silent_query (stmt : Stmt) : Silent reference (clientQuery stmt) := by
  intro commits call failed own log established supplied _ ends
  obtain ⟨seen, answer, -, same⟩ := ends_query ends
  match answer with
  | .ok _ => cases same
  | .error _ => cases same

theorem silent_newId : Silent reference (Prog.newId : Service Uuid) := by
  intro commits call failed own log established supplied _ ends
  obtain ⟨id, -, same⟩ := ends_newId ends
  cases same

theorem silent_bind {next : α → Service β} (first : Silent reference program)
    (second : ∀ value, Silent reference (next value)) : Silent reference (program.bind next) := by
  intro commits call failed own log established supplied answers ends
  rcases ends_bind ends with ⟨error, threw, same⟩ | ⟨value, before, after, rfl, -, later⟩
  · cases same
    exact first commits call failed own log established supplied answers threw
  · exact second value _ _ _ _ after established supplied (answers_append.1 answers).2 later

theorem silent_orMissing (row : Option Movement) (message : String) : Silent reference
    (orMissing row message) := by
  cases row with
  | none => exact silent_fail fun _ _ => Thrown.noConfusion
  | some row => exact silent_done row

/-- **After a failed INSERT the established unit is not answered**, so nobody learns it. -/
theorem silent_insertMovementRow (values : MovementValues) (doNothing : Bool) :
    Silent reference (insertMovementRow values doNothing) := by
  intro commits call failed own log established supplied answers ends
  rcases ends_rescue ends with ⟨value, -, same⟩ | ⟨error, first, second, rfl, threw, handled⟩
  · cases same
  obtain ⟨seen, answer, rfl, told⟩ := ends_query threw
  match answer with
  | .ok (reply, writes) => cases told
  | .error fault =>
    obtain rfl : error = .pg fault := Except.error.inj told
    have refused := (answers_append.1 answers).2
    have dead : (failed || aborted [(.answered (.insertMovement values doNothing) seen
        (.error fault) : Entry Stmt Reply Uuid PgError Row)]) = true := by
      simp [aborted, Entry.failed]
    rw [dead] at refused
    split at handled
    · rcases ends_bind handled with ⟨error, failed, same⟩ | ⟨unit, third, last, rfl, known, -⟩
      · cases same
        exact silent_query _ _ _ _ _ _ _ _ refused failed
      · exact not_returns_aborted known (answers_append.1 refused).1
    · exact silent_fail (fun _ _ => Thrown.noConfusion) _ _ _ _ _ _ _ refused handled

theorem silent_emit (input : OutboxEmitInput) : Silent reference (emit input) :=
  silent_bind silent_newId fun _ => silent_bind (silent_query _) fun _ => silent_done _

theorem silent_emitMovementCreated (tenantId storeId : String) (payload : Payload)
    (correlationId : Option String) :
    Silent reference (emitMovementCreated tenantId storeId payload correlationId) :=
  silent_bind (silent_emit _) fun _ => silent_done _

theorem silent_flagIfNegativeOnHand (storeId : String) (product : Option String) :
    Silent reference (flagIfNegativeOnHand storeId product) := by
  cases product with
  | none => exact silent_done ()
  | some product =>
    intro commits call failed own log established supplied answers ends
    rcases ends_rescue ends with ⟨value, -, same⟩ | ⟨error, first, second, -, -, handled⟩
    · cases same
    · obtain ⟨-, same⟩ := ends_done handled
      cases same

theorem honest_bind {pairs : List (String × String)} {unit : String} {next : α → Service β}
    (careful : Careful (inventory reference) program)
    (quiet : ∀ {commits call own log value}, Completes (inventory reference) commits call own program log
        value → written log = []) (first : Honest reference pairs unit program)
    (second : ∀ value, Honest reference pairs unit (next value)) :
    Honest reference pairs unit (program.bind next) := by
  intro commits call own log established supplied ends
  rcases finishes_bind careful ends with
    ⟨error, same, threw⟩ | ⟨value, before, after, rfl, gave, later⟩
  · cases same
    exact first commits call own log established supplied threw
  · rw [quiet gave, append_nil] at later
    obtain ⟨same, blames⟩ := second value commits call own after established supplied later
    refine ⟨same, ?_, blames.differs, blames.standing⟩
    rw [exclusionFired_append, not_fired_of_sound gave.sound, blames.unfired]
    rfl

theorem honest_assertUnitMatchesEstablished {pairs : List (String × String)} {product unit : String}
    (named : (storeId, product) ∈ pairs) :
    Honest reference pairs unit (assertUnitMatchesEstablished storeId product unit) := by
  intro commits call own log established supplied goes
  rcases finishes_bind (careful_query _) goes with
    ⟨error, same, threw⟩ | ⟨found, before, after, rfl, asked, later⟩
  · cases same
    exact absurd threw.ends (silent_query _ _ _ _ _ _ _ _ threw.answers)
  · obtain ⟨seen, writes, -, ran, -⟩ := query_completes asked
    obtain ⟨store, item, storeText, itemText, same⟩ := establishedUnit_ok ran
    cases found with
    | none =>
      obtain ⟨-, ended⟩ := ends_done later.ends
      cases ended
    | some foundUnit =>
      have ends := later.ends
      change Ends _ (if foundUnit ≠ unit then _ else _) _ _ at ends
      by_cases differs : foundUnit ≠ unit
      · rw [if_pos differs] at ends
        obtain ⟨rfl, ended⟩ := ends_fail ends
        cases ended
        obtain ⟨movement, first, sameUnit⟩ := map_eq_some_iff.1 same.symm
        have seenMember := earliest_mem first
        refine ⟨rfl, ?_, differs, (storeId, product), named, store, item, storeText, itemText, movement, ?_,
          sameUnit⟩
        · rw [append_nil]
          exact not_fired_of_sound asked.sound
        · obtain ⟨mem, counts⟩ := mem_filter.1 seenMember
          refine mem_filter.2 ⟨mem_movementsOf.2 ?_, counts⟩
          rcases mem_append.1 (mem_movementsOf.1 mem) with kept | pending
          · exact mem_append_left _ (contents_take kept)
          · exact mem_append_right _ pending
      · rw [if_neg differs] at ends
        obtain ⟨-, ended⟩ := ends_done ends
        cases ended

/-! ### The five methods -/

theorem CreateStockMovementInput.check_unit {input : CreateStockMovementInput}
    (taken : input.check = .ok checked) : checked.stockingUnit = trim input.stockingUnit := by
  obtain ⟨_, _, _, _, taken⟩ := bind_ok₄ taken
  obtain ⟨_, _, taken⟩ := bind_ok₂ taken
  cases taken
  rfl

theorem CreateStockTransferInput.check_unit {input : CreateStockTransferInput}
    (taken : input.check = .ok checked) : checked.stockingUnit = trim input.stockingUnit := by
  obtain ⟨_, _, _, _, taken⟩ := bind_ok₄ taken
  cases taken
  rfl

theorem RecordStockCountInput.check_unit {input : RecordStockCountInput} (taken : input.check = .ok checked) :
    checked.stockingUnit = trim input.stockingUnit := by
  obtain ⟨_, _, _, taken⟩ := bind_ok₃ taken
  cases taken
  rfl

theorem BackfillKind.check_unit {kind : BackfillKind} {input : BackfillInput}
    (taken : kind.check input = .ok checked) : checked.stockingUnit = trim input.stockingUnit := by
  obtain ⟨_, _, _, _, taken⟩ := bind_ok₄ taken
  obtain ⟨_, -, taken⟩ := bind_ok taken
  cases taken
  rfl

def OnlyMessages (checked : Except Thrown α) : Prop :=
  ∀ established supplied, checked ≠ .error (.crossUnit established supplied)

theorem onlyMessages_bind {checked : Except Thrown α} {next : α → Except Thrown β}
    (first : OnlyMessages checked) (second : ∀ value, OnlyMessages (next value)) :
    OnlyMessages (checked >>= next) := by
  intro established supplied same
  cases checked with
  | ok value => exact second value established supplied same
  | error thrown =>
    exact first established supplied (congrArg Except.error (Except.error.inj same))

theorem onlyMessages_ok (value : α) : OnlyMessages (.ok value) := by
  intro established supplied same
  cases same

theorem onlyMessages_throwWhen {wrong : Bool} {message : String} {next : Unit → Except Thrown β}
    (after : OnlyMessages (next ())) : OnlyMessages (throwWhen wrong (.badRequest message) >>= next) := by
  refine onlyMessages_bind ?_ fun _ => after
  intro established supplied same
  unfold throwWhen at same
  split at same <;> cases same

theorem onlyMessages_finiteAtScale (text message : String) : OnlyMessages (finiteAtScale text message) := by
  intro established supplied same
  unfold finiteAtScale at same
  split at same <;> cases same

theorem onlyMessages_movement (input : CreateStockMovementInput) : OnlyMessages input.check := by
  refine onlyMessages_bind (onlyMessages_finiteAtScale _ _) fun _ => ?_
  iterate 5 refine onlyMessages_throwWhen ?_
  exact onlyMessages_ok _

theorem onlyMessages_transfer (input : CreateStockTransferInput) : OnlyMessages input.check := by
  refine onlyMessages_throwWhen (onlyMessages_bind (onlyMessages_finiteAtScale _ _) fun _ => ?_)
  iterate 2 refine onlyMessages_throwWhen ?_
  exact onlyMessages_ok _

theorem onlyMessages_count (input : RecordStockCountInput) : OnlyMessages input.check := by
  refine onlyMessages_bind (onlyMessages_finiteAtScale _ _) fun _ => ?_
  iterate 2 refine onlyMessages_throwWhen ?_
  exact onlyMessages_ok _

theorem onlyMessages_backfill (kind : BackfillKind) (input : BackfillInput) :
    OnlyMessages (kind.check input) := by
  refine onlyMessages_bind (onlyMessages_finiteAtScale _ _) fun _ => ?_
  iterate 4 refine onlyMessages_throwWhen ?_
  exact onlyMessages_ok _

variable {pairs : List (String × String)} {unit : String}

theorem honest_checked {checked : Except Thrown Checked} {next : Checked → Service β}
    (messages : OnlyMessages checked)
    (second : ∀ value, checked = .ok value → Honest reference pairs unit (next value)) :
    Honest reference pairs unit ((orThrow checked).bind next) := by
  cases checked with
  | ok value => exact second value rfl
  | error thrown => exact (silent_fail fun established supplied same =>
    messages established supplied (congrArg Except.error same)).honest

theorem honest_newId {next : Uuid → Service β} (second : ∀ id, Honest reference pairs unit (next id)) :
    Honest reference pairs unit (Prog.newId.bind next) :=
  honest_bind careful_newId (fun ends => (newId_completes ends).written) silent_newId.honest second

theorem honest_read {stmt : Stmt} {next : Reply stmt → Service β} (reads : stmt.reads = true)
    (second : ∀ reply, Honest reference pairs unit (next reply)) :
    Honest reference pairs unit ((clientQuery stmt).bind next) :=
  honest_bind (careful_query _) (fun ends => (read_completes reads ends).written) (silent_query _).honest second

theorem honest_unit {product : String} (named : (storeId, product) ∈ pairs)
    (second : Honest reference pairs unit (next ())) :
    Honest reference pairs unit ((assertUnitMatchesEstablished storeId product unit).bind next) :=
  honest_bind (careful_assertUnitMatchesEstablished _ _ _)
    (fun ends => (assertUnitMatchesEstablished_completes ends).written)
    (honest_assertUnitMatchesEstablished named) fun _ => second

theorem honest_unitOfProduct (named : ∀ item, product = some item → (storeId, item) ∈ pairs)
    (second : Silent reference (next ())) :
    Honest reference pairs unit ((assertUnitOfProduct storeId product unit).bind next) := by
  cases product with
  | none => exact second.honest
  | some item => exact honest_unit (named item rfl) second.honest

theorem honest_runWithTenantContext {work : Service α} (honest : Honest reference pairs unit work) :
    Honest reference pairs unit (runWithTenantContext tenantId work) := by
  unfold runWithTenantContext
  split
  · exact honest
  · exact (silent_fail fun _ _ => Thrown.noConfusion).honest

theorem silent_recorded {values : AuditValues} {payload : Payload} {correlationId : Option String}
    {when : Prop} [Decidable when] {flagged : Option String} {body : α} :
    Silent reference
      ((clientQuery (.insertAudit values)).bind
        fun _ => (emitMovementCreated tenantId storeId payload correlationId).bind fun _ => if when then
        (flagIfNegativeOnHand storeId flagged).bind fun _ => .done body else .done body) := by
  refine silent_bind (silent_query _) fun _ => silent_bind (silent_emitMovementCreated _ _ _ _) fun _ => ?_
  split
  · exact silent_bind (silent_flagIfNegativeOnHand _ _) fun _ => silent_done _
  · exact silent_done _

def pairOf (storeId : String) (product : Option String) : List (String × String) :=
  (product.map fun item => (storeId, item)).toList

theorem mem_pairOf {item : String} (named : product = some item) : (storeId, item) ∈ pairOf storeId product := by
  simp [pairOf, named]

theorem honest_createStockMovement (input : CreateStockMovementInput) :
    Honest reference (pairOf input.storeId input.tenantProductRef) (trim input.stockingUnit)
      (createStockMovement input) := by
  refine honest_checked (onlyMessages_movement input) fun checked taken => ?_
  rw [← CreateStockMovementInput.check_unit taken]
  refine honest_newId fun movementId => honest_newId fun auditId => honest_runWithTenantContext ?_
  refine honest_unitOfProduct (fun item named => mem_pairOf named) ?_
  exact silent_bind (silent_insertMovementRow _ _) fun added =>
    silent_bind (silent_orMissing _ _) fun row => silent_recorded

theorem honest_createStockTransfer (input : CreateStockTransferInput) :
    Honest reference
      [(input.sourceStoreId, input.tenantProductRef), (input.destinationStoreId, input.tenantProductRef)]
      (trim input.stockingUnit) (createStockTransfer input) := by
  refine honest_checked (onlyMessages_transfer input) fun checked taken => ?_
  rw [← CreateStockTransferInput.check_unit taken]
  refine honest_newId fun group => honest_newId fun outId => honest_newId fun inId =>
    honest_newId fun auditId => honest_runWithTenantContext (honest_read rfl fun dest => ?_)
  split
  · exact (silent_fail fun _ _ => Thrown.noConfusion).honest
  refine honest_unit mem_cons_self (honest_unit (mem_cons_of_mem _ mem_cons_self) (Silent.honest ?_))
  exact silent_bind (silent_insertMovementRow _ _) fun out =>
    silent_bind (silent_insertMovementRow _ _) fun inb =>
      silent_bind (silent_orMissing _ _) fun outRow =>
        silent_bind (silent_orMissing _ _) fun inRow =>
          silent_bind (silent_query _) fun _ =>
            silent_bind (silent_emitMovementCreated _ _ _ _) fun _ =>
              silent_bind (silent_flagIfNegativeOnHand _ _) fun _ => silent_done _

theorem silent_correct (input : RecordStockCountInput) (checked : Checked) (stockCountId : Uuid)
    (difference : ℚ) : Silent reference (input.correct checked stockCountId difference) := by
  unfold RecordStockCountInput.correct
  split
  · exact silent_bind silent_newId fun _ => silent_bind (silent_insertMovementRow _ _) fun _ =>
      silent_bind (silent_orMissing _ _) fun _ => silent_done _
  · exact silent_done _

theorem silent_announce (input : RecordStockCountInput) (stockCountId : Uuid) (correction : Option Movement) :
    Silent reference (input.announce stockCountId correction) := by
  cases correction with
  | none => exact silent_done ()
  | some row => exact silent_emitMovementCreated _ _ _ _

theorem honest_recordStockCount (input : RecordStockCountInput) :
    Honest reference [(input.storeId, input.tenantProductRef)] (trim input.stockingUnit)
      (recordStockCount input) := by
  refine honest_checked (onlyMessages_count input) fun checked taken => ?_
  rw [← RecordStockCountInput.check_unit taken]
  refine honest_newId fun stockCountId => honest_newId fun auditId =>
    honest_runWithTenantContext (honest_unit mem_cons_self (Silent.honest ?_))
  exact silent_bind (silent_query _) fun quantity => silent_bind (silent_query _) fun _ =>
    silent_bind (silent_correct _ _ _ _) fun correction => silent_bind (silent_query _) fun _ =>
      silent_bind (silent_announce _ _ _) fun _ => silent_done _

theorem honest_backfill (kind : BackfillKind) (input : BackfillInput) :
    Honest reference (pairOf input.storeId input.tenantProductRef) (trim input.stockingUnit)
      (kind.backfill input) := by
  refine honest_checked (onlyMessages_backfill kind input) fun checked taken => ?_
  rw [← BackfillKind.check_unit taken]
  refine honest_newId fun movementId => honest_newId fun auditId => honest_runWithTenantContext ?_
  refine honest_unitOfProduct (fun item named => mem_pairOf named) ?_
  refine silent_bind (silent_insertMovementRow _ _) fun added => ?_
  cases added with
  | none => exact silent_bind (silent_query _) fun _ => silent_bind (silent_orMissing _ _) fun _ => silent_done _
  | some row => exact silent_recorded

end Programs

/-! ### Calls of a run -/

/-- The store and product texts an operation of the API writes to; a job has none here. -/
def Operation.pairs : Operation → List (String × String)
  | .createStockMovement input => pairOf input.storeId input.tenantProductRef
  | .createStockTransfer input => [(input.sourceStoreId, input.tenantProductRef),
      (input.destinationStoreId, input.tenantProductRef)]
  | .recordStockCount input => [(input.storeId, input.tenantProductRef)]
  | .backfillSaleLinkedOutbound input => pairOf input.storeId input.tenantProductRef
  | .backfillRestockInbound input => pairOf input.storeId input.tenantProductRef
  | .process _ => []

/-- The unit an operation of the API supplies, trimmed. -/
def Operation.unit : Operation → String
  | .createStockMovement input => trim input.stockingUnit
  | .createStockTransfer input => trim input.stockingUnit
  | .recordStockCount input => trim input.stockingUnit
  | .backfillSaleLinkedOutbound input => trim input.stockingUnit
  | .backfillRestockInbound input => trim input.stockingUnit
  | .process _ => ""

def Operation.isMethod : Operation → Bool
  | .process _ => false
  | _ => true

section Runs

variable {proc : Proc}

theorem honest_map {α β : Type} {pairs : List (String × String)} {unit : String} {program : Service α}
    {wrap : α → β} (honest : Honest reference pairs unit program) :
    Honest reference pairs unit (program.bind fun value => .done (wrap value)) := by
  intro commits call own log established supplied ends
  rcases ends_bind ends.ends with ⟨error, threw, same⟩ | ⟨value, first, second, -, -, ended⟩
  · cases same
    exact honest commits call own log established supplied ⟨threw, ends.answers⟩
  · obtain ⟨-, same⟩ := ends_done ended
    cases same

theorem Operation.honest {op : Operation} (isMethod : op.isMethod = true) :
    Honest reference op.pairs op.unit op.program := by
  cases op with
  | createStockMovement input => exact honest_map (honest_createStockMovement input)
  | createStockTransfer input => exact honest_map (honest_createStockTransfer input)
  | recordStockCount input => exact honest_map (honest_recordStockCount input)
  | backfillSaleLinkedOutbound input | backfillRestockInbound input => exact honest_map (honest_backfill _ input)
  | process job => cases isMethod

/-- **A method that throws the cross-unit error was stopped by the check.** -/
theorem Reachable.crossUnit_blames (reach : Reachable reference config) (mem : proc ∈ config.procs)
    (isMethod : proc.call.operation.isMethod = true) {established supplied : String}
    (threw : proc.result = some (.error (.crossUnit established supplied))) :
    supplied = proc.call.operation.unit ∧
      Blames config.commits proc.call [] proc.call.operation.pairs proc.log established supplied := by
  rcases reach.ends mem threw with ends | ⟨value, fault, -, same⟩
  · exact Operation.honest isMethod _ _ _ _ _ _ ⟨ends, reach.answered proc mem⟩
  · cases same

/-- A guard stopped the call: it threw the cross-unit error, or the constraint fired. -/
def GuardStopped (proc : Proc) : Prop :=
  (∃ established supplied, proc.result = some (.error (.crossUnit established supplied))) ∨
    exclusionFired proc.log = true

/-- The call ended as a call that a guard stopped should: with the cross-unit error, which carries the
unit in which a product of the call stands, and with nothing committed. -/
def StoppedWell (config : Config) (pid : Nat) (proc : Proc) : Prop :=
  ∃ established, proc.result = some (.error (.crossUnit established proc.call.operation.unit)) ∧
    established ≠ proc.call.operation.unit ∧ pid ∉ config.commits.map Prod.fst ∧
    ∃ pair ∈ proc.call.operation.pairs, ∃ store product, Uuid.ofText pair.1 = some store ∧
      Uuid.ofText pair.2 = some product ∧
      ∃ movement ∈ ofPair proc.call.context.tenant store product config.ledger,
        movement.stockingUnit = established

theorem Reachable.threw_unbooked (reach : Reachable reference config) {pid : Nat}
    (found : config.procs[pid]? = some proc) (threw : proc.result = some (.error error)) :
    pid ∉ config.commits.map Prod.fst := by
  intro kept
  obtain ⟨⟨pid', writes⟩, commit, rfl⟩ := mem_map.1 kept
  obtain ⟨proc', value, found', gave, -⟩ := reach.booked.committed pid' writes commit
  obtain rfl := mem_unique found found'
  rw [threw] at gave
  cases gave

/-- **Products keep their unit, and a method that a guard stops ends as it should exactly when the
constraint did not fire.** -/
theorem guarded_iff (reachable : Reachable reference config) :
    (∀ first ∈ movementsOf config.ledger, ∀ second ∈ movementsOf config.ledger, first.tenantId =
        second.tenantId → first.storeId = second.storeId → first.tenantProductRef = second.tenantProductRef →
        first.tenantProductRef ≠ none → first.stockingUnit = second.stockingUnit) ∧
      (∀ (pid : Nat) (proc : Proc),
        config.procs[pid]? = some proc → proc.result ≠ none → proc.call.operation.isMethod = true →
        GuardStopped proc → (StoppedWell config pid proc ↔ exclusionFired proc.log = false)) := by
  constructor
  · intro first one second two _ store product named
    exact reachable.one_unit one two store product named
  · intro pid proc found _ isMethod stopped
    have mem := mem_of_getElem? found
    constructor
    · rintro ⟨established, threw, -⟩
      exact (reachable.crossUnit_blames mem isMethod threw).2.unfired
    · intro unfired
      rcases stopped with ⟨established, supplied, threw⟩ | fired
      · obtain ⟨rfl, blames⟩ := reachable.crossUnit_blames mem isMethod threw
        have standing := blames.standing
        rw [append_nil] at standing
        exact ⟨established, threw, blames.differs, reachable.threw_unbooked found threw, standing⟩
      · rw [fired] at unfired
        cases unfired

end Runs

/-! ### A race of two first movements -/

/-- The first two movements of a product, in two units: both checks run before either INSERT. -/
def racedEvents : List (Event Uuid PgError Call) :=
  [.start (sampleMovement .inbound "3" "each"), .start (sampleMovement .inbound "3" "box"),
    .draw 0 (.numbered 1), .draw 0 (.numbered 2), .draw 1 (.numbered 3), .draw 1 (.numbered 4),
    .ask 0, .ask 1, .ask 0, .ask 0, .draw 0 (.numbered 5), .ask 0, .stop 0 none, .ask 1, .ask 1,
    .stop 1 none]

theorem racedEvents_run :
    ∃ config proc, run (inventory .sample) racedEvents = some config ∧ config.procs[1]? = some proc ∧
      proc.result = some (.error (.pg (.plain .failedTransaction))) ∧ exclusionFired proc.log = true ∧
      proc.call.operation.isMethod = true := by
  have ran : (run (inventory .sample) racedEvents).bind (fun config =>
      config.procs[1]?.map fun proc => (decide (proc.result =
        some (.error (.pg (.plain .failedTransaction)))), exclusionFired proc.log,
          proc.call.operation.isMethod)) = some (true, true, true) := by
    decide +kernel
  obtain ⟨config, ran, seen⟩ := bind_eq_some_iff.1 ran
  obtain ⟨proc, found, seen⟩ := map_eq_some_iff.1 seen
  simp only [Prod.mk.injEq, decide_eq_true_eq] at seen
  exact ⟨config, proc, ran, found, seen⟩

/-- **The constraint stopped a movement, and its caller never learns the established unit.** -/
theorem raced_stopped_badly :
    ∃ config proc, run (inventory .sample) racedEvents = some config ∧ config.procs[1]? = some proc ∧
      GuardStopped proc ∧ ¬ StoppedWell config 1 proc := by
  obtain ⟨config, proc, ran, found, threw, fired, -⟩ := racedEvents_run
  refine ⟨config, proc, ran, found, .inr fired, ?_⟩
  rintro ⟨established, crossed, -⟩
  rw [threw] at crossed
  cases crossed

theorem guarded_iff_raced :
    ∃ config proc, run (inventory .sample) racedEvents = some config ∧ config.procs[1]? = some proc ∧
      GuardStopped proc ∧ (StoppedWell config 1 proc ↔ exclusionFired proc.log = false) := by
  obtain ⟨config, proc, ran, found, threw, fired, isMethod⟩ := racedEvents_run
  refine ⟨config, proc, ran, found, .inr fired, ?_⟩
  exact (guarded_iff (run_reachable (inventory .sample) ran)).2 1 proc found
    (by rw [threw]; exact some_ne_none _) isMethod (.inr fired)

end DataPulse.Inventory
