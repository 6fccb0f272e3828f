/-
**What a successful statement found, and what it wrote.**

* `Sale.after_untouched`: a row that no UPDATE is about stays as it is; `Sale.after_frozen`: an UPDATE
  changes three columns only.
-/

import DataPulse.Sales.Ledger

namespace DataPulse.Sales

open Lib Platform
open Inventory (TenantContext castUuid castOptional require require_ok require_all castUuid_ok
  castUuid_text)

/-! ### Rows of the tables -/

variable {writes more : List Write} {sale : Sale} {write : Write} {context : TenantContext}
  {reference : Reference}

@[simp] theorem mem_insertedSales {row : Sale} : row ∈ insertedSales writes ↔ .sale row ∈ writes :=
  mem_picked fun write row => by cases write <;> simp

@[simp] theorem mem_linesOf {row : SaleLine} : row ∈ linesOf writes ↔ .line row ∈ writes :=
  mem_picked fun write row => by cases write <;> simp

@[simp] theorem mem_terminalsOf {row : TerminalEvent} : row ∈ terminalsOf writes ↔ .terminal row ∈ writes :=
  mem_picked fun write row => by cases write <;> simp

@[simp] theorem mem_insertedDeadletters {row : Deadletter} :
    row ∈ insertedDeadletters writes ↔ .deadletter row ∈ writes :=
  mem_picked fun write row => by cases write <;> simp

@[simp] theorem mem_eventsOf {row : OutboxEvent} : row ∈ eventsOf writes ↔ .event row ∈ writes :=
  mem_picked fun write row => by cases write <;> simp

@[simp] theorem linesOf_append : linesOf (writes ++ more) = linesOf writes ++ linesOf more :=
  filterMap_append

@[simp] theorem eventsOf_append : eventsOf (writes ++ more) = eventsOf writes ++ eventsOf more :=
  filterMap_append

theorem mem_salesOf {sale : Sale} : sale ∈ salesOf writes ↔ ∃ row, .sale row ∈ writes ∧ row.after writes =
    sale := by
  simp only [salesOf, mem_map, mem_insertedSales]

theorem mem_deadlettersOf {deadletter : Deadletter} :
    deadletter ∈ deadlettersOf writes ↔ ∃ row, .deadletter row ∈ writes ∧ row.after writes = deadletter := by
  simp only [deadlettersOf, mem_map, mem_insertedDeadletters]

namespace Sale

@[simp] theorem after_nil : sale.after [] = sale := rfl

theorem after_cons : sale.after (write :: more) = (sale.apply write).after more := rfl

theorem after_append : sale.after (writes ++ more) = (sale.after writes).after more :=
  foldl_append

theorem apply_frozen (sale : Sale) (write : Write) :
    ∃ mismatchFlag processedAt syncStatus, sale.apply write =
      { sale with mismatchFlag, processedAt, syncStatus } := by
  unfold apply
  split
  · split_ifs
    · exact ⟨_, _, _, rfl⟩
    · exact ⟨_, _, _, rfl⟩
  · split_ifs
    · exact ⟨_, _, _, rfl⟩
    · exact ⟨_, _, _, rfl⟩
  · exact ⟨_, _, _, rfl⟩

/-- **An UPDATE changes the mismatch flag, the processing time and the status of a sale only.** -/
theorem after_frozen (writes : List Write) (sale : Sale) :
    ∃ mismatchFlag processedAt syncStatus, sale.after writes =
      { sale with mismatchFlag, processedAt, syncStatus } := by
  induction writes generalizing sale with
  | nil => exact ⟨_, _, _, rfl⟩
  | cons write rest ih =>
    obtain ⟨_, _, _, first⟩ := apply_frozen sale write
    obtain ⟨mismatchFlag, processedAt, syncStatus, later⟩ := ih (sale.apply write)
    refine ⟨mismatchFlag, processedAt, syncStatus, later.trans ?_⟩
    rw [first]

@[simp] theorem after_id : (sale.after writes).id = sale.id := by
  obtain ⟨_, _, _, same⟩ := after_frozen writes sale
  rw [same]

@[simp] theorem after_tenantId : (sale.after writes).tenantId = sale.tenantId := by
  obtain ⟨_, _, _, same⟩ := after_frozen writes sale
  rw [same]

@[simp] theorem after_storeId : (sale.after writes).storeId = sale.storeId := by
  obtain ⟨_, _, _, same⟩ := after_frozen writes sale
  rw [same]

@[simp] theorem after_sourceSystem : (sale.after writes).sourceSystem = sale.sourceSystem := by
  obtain ⟨_, _, _, same⟩ := after_frozen writes sale
  rw [same]

@[simp] theorem after_externalId : (sale.after writes).externalId = sale.externalId := by
  obtain ⟨_, _, _, same⟩ := after_frozen writes sale
  rw [same]

theorem apply_untouched (other : write.saleUpdated ≠ some sale.id) : sale.apply write = sale := by
  unfold apply
  split
  · rename_i saleId mismatchFlag processedAt
    exact if_neg fun same => other (congrArg some same.symm)
  · rename_i saleId status
    exact if_neg fun same => other (congrArg some same.symm)
  · rfl

/-- **A sale that no UPDATE is about stays as it is.** -/
theorem after_untouched (others : ∀ write ∈ writes, write.saleUpdated ≠ some sale.id) : sale.after writes =
    sale := by
  induction writes generalizing sale with
  | nil => rfl
  | cons write rest ih =>
    show (sale.apply write).after rest = sale
    rw [apply_untouched (others write mem_cons_self)]
    exact ih fun write mem => others write (mem_cons_of_mem _ mem)

theorem apply_process (mismatchFlag : Bool) (processedAt : Int) :
    sale.apply (.process sale.id mismatchFlag processedAt) =
      { sale with mismatchFlag := some mismatchFlag, processedAt := some processedAt, syncStatus := .synced } :=
      if_pos rfl

theorem apply_setStatus (status : SaleSyncStatus) :
    sale.apply (.setStatus sale.id status) = { sale with syncStatus := status } := if_pos rfl

theorem apply_processed (processed : sale.processedAt.isSome = true) :
    (sale.apply write).processedAt.isSome = true := by
  unfold apply
  split
  · split_ifs
    · rfl
    · exact processed
  · split_ifs
    · exact processed
    · exact processed
  · exact processed

theorem after_processed (processed : sale.processedAt.isSome = true) :
    (sale.after writes).processedAt.isSome = true := by
  induction writes generalizing sale with
  | nil => exact processed
  | cons write rest ih => exact ih (apply_processed processed)

theorem after_process {mismatchFlag : Bool} {processedAt : Int}
    (mem : .process sale.id mismatchFlag processedAt ∈ writes) :
    (sale.after writes).processedAt.isSome = true := by
  induction writes generalizing sale with
  | nil => cases mem
  | cons write rest ih =>
    rcases mem_cons.1 mem with rfl | later
    · refine @after_processed rest _ ?_
      rw [apply_process]
      rfl
    · refine @ih (sale.apply write) ?_
      obtain ⟨_, _, _, same⟩ := apply_frozen sale write
      rw [same]
      exact later

end Sale

namespace Deadletter

variable {row : Deadletter}

theorem after_append : row.after (writes ++ more) = (row.after writes).after more :=
  foldl_append

theorem apply_frozen (row : Deadletter) (write : Write) :
    ∃ resolvedAt retryCount, row.apply write = { row with resolvedAt, retryCount } := by
  unfold apply
  split
  · split_ifs
    · exact ⟨_, _, rfl⟩
    · exact ⟨_, _, rfl⟩
  · exact ⟨_, _, rfl⟩

/-- **An UPDATE changes the resolution and the retry count of a dead letter only.** -/
theorem after_frozen (writes : List Write) (row : Deadletter) :
    ∃ resolvedAt retryCount, row.after writes = { row with resolvedAt, retryCount } := by
  induction writes generalizing row with
  | nil => exact ⟨_, _, rfl⟩
  | cons write rest ih =>
    obtain ⟨_, _, first⟩ := apply_frozen row write
    obtain ⟨resolvedAt, retryCount, later⟩ := ih (row.apply write)
    refine ⟨resolvedAt, retryCount, later.trans ?_⟩
    rw [first]

@[simp] theorem after_id : (row.after writes).id = row.id := by
  obtain ⟨_, _, same⟩ := after_frozen writes row
  rw [same]

@[simp] theorem after_saleId : (row.after writes).saleId = row.saleId := by
  obtain ⟨_, _, same⟩ := after_frozen writes row
  rw [same]

@[simp] theorem after_classification : (row.after writes).classification = row.classification := by
  obtain ⟨_, _, same⟩ := after_frozen writes row
  rw [same]

theorem apply_untouched (other : ∀ saleId resolvedAt, write ≠ .resolve row.id saleId resolvedAt) :
    row.apply write = row := by
  unfold apply
  split
  · rename_i id saleId resolvedAt
    refine if_neg fun same => other saleId resolvedAt ?_
    rw [same]
  · rfl

/-- **A dead letter that no UPDATE is about stays as it is.** -/
theorem after_untouched (others : ∀ saleId resolvedAt, .resolve row.id saleId resolvedAt ∉ writes) :
    row.after writes = row := by
  induction writes generalizing row with
  | nil => rfl
  | cons write rest ih =>
    show (row.apply write).after rest = row
    rw [apply_untouched fun saleId resolvedAt same => others saleId resolvedAt (same ▸ mem_cons_self)]
    exact ih fun saleId resolvedAt mem => others saleId resolvedAt (mem_cons_of_mem _ mem)

theorem apply_resolved (resolved : row.isOpen = false) : (row.apply write).isOpen = false := by
  unfold apply
  split
  · split_ifs
    · rfl
    · exact resolved
  · exact resolved

theorem after_resolved (resolved : row.isOpen = false) : (row.after writes).isOpen = false := by
  induction writes generalizing row with
  | nil => exact resolved
  | cons write rest ih => exact ih (apply_resolved resolved)

theorem after_resolve {saleId : Uuid} {resolvedAt : Int} (mem : .resolve row.id saleId resolvedAt ∈ writes) :
    (row.after writes).isOpen = false := by
  induction writes generalizing row with
  | nil => cases mem
  | cons write rest ih =>
    rcases mem_cons.1 mem with rfl | later
    · refine @after_resolved rest _ ?_
      unfold apply isOpen
      simp
    · refine @ih (row.apply write) ?_
      obtain ⟨_, _, same⟩ := apply_frozen row write
      rw [same]
      exact later

end Deadletter

/-! ### Reading a sale -/

section Reading

variable {saleId storeId : Uuid}
variable {row : Sale}

theorem visibleSale_some (found : visibleSale context writes saleId = some sale) :
    ∃ row, .sale row ∈ writes ∧ row.after writes = sale ∧ row.id = saleId ∧
      some row.tenantId = context.tenant := by
  have holds := find?_some found
  simp only [and_eq_true, decide_eq_true_eq] at holds
  obtain ⟨row, mem, rfl⟩ := mem_salesOf.1 (mem_of_find?_eq_some found)
  simp only [Sale.after_id, Sale.after_tenantId] at holds
  exact ⟨row, mem, rfl, holds.1, holds.2⟩

theorem visibleSale_none (missing : visibleSale context writes saleId = none) (mem : .sale row ∈ writes)
    (id : row.id = saleId) : some row.tenantId ≠ context.tenant := by
  intro tenant
  have absent := find?_eq_none.1 missing _ (mem_salesOf.2 ⟨row, mem, rfl⟩)
  simp [id, tenant] at absent

theorem saleInScope_some (found : saleInScope context writes saleId storeId = some sale) :
    ∃ row, .sale row ∈ writes ∧ row.after writes = sale ∧ row.id = saleId ∧ row.storeId = storeId ∧
      some row.tenantId = context.tenant := by
  have holds := find?_some found
  simp only [and_eq_true, decide_eq_true_eq] at holds
  obtain ⟨row, mem, rfl⟩ := mem_salesOf.1 (mem_of_find?_eq_some found)
  simp only [Sale.after_id, Sale.after_storeId, Sale.after_tenantId] at holds
  exact ⟨row, mem, rfl, holds.1.1, holds.1.2, holds.2⟩

theorem saleInScope_none (missing : saleInScope context writes saleId storeId = none)
    (mem : .sale row ∈ writes) (id : row.id = saleId) (store : row.storeId = storeId) :
    some row.tenantId ≠ context.tenant := by
  intro tenant
  have absent := find?_eq_none.1 missing _ (mem_salesOf.2 ⟨row, mem, rfl⟩)
  simp [id, store, tenant] at absent

end Reading

/-! ### The writers' statements -/

theorem Sale.sameKey_comm (first second : Sale) : first.sameKey second = second.sameKey first := by
  simp only [Sale.sameKey, eq_comm]

theorem TerminalEvent.sameKey_comm (first second : TerminalEvent) : first.sameKey second =
    second.sameKey first := by
  simp only [TerminalEvent.sameKey, eq_comm]

structure SaleValues.Gives (values : SaleValues) (row : Sale) : Prop where
  id : row.id = values.id
  tenant : Uuid.ofText values.tenantId = some row.tenantId
  store : Uuid.ofText values.storeId = some row.storeId
  source : row.sourceSystem = values.sourceSystem
  external : row.externalId = values.externalId
  unprocessed : row.processedAt = none
  status : row.syncStatus = values.syncStatus

structure TerminalValues.Gives (values : TerminalValues) (row : TerminalEvent) : Prop where
  id : row.id = values.id
  sale : Uuid.ofText values.saleId = some row.saleId
  tenant : Uuid.ofText values.tenantId = some row.tenantId
  store : Uuid.ofText values.storeId = some row.storeId
  kind : row.refunded.isSome = values.refunded.isSome
  source : row.sourceSystem = values.sourceSystem
  external : row.externalId = values.externalId

structure DeadletterValues.Gives (values : DeadletterValues) (row : Deadletter) : Prop where
  id : row.id = values.id
  sale : Uuid.ofText values.saleId = some row.saleId
  tenant : Uuid.ofText values.tenantId = some row.tenantId
  store : Uuid.ofText values.storeId = some row.storeId
  classification : row.classification = values.classification
  isOpen : row.isOpen = true

structure EventValues.Gives (values : EventValues) (row : OutboxEvent) : Prop where
  id : row.eventId = values.eventId
  tenant : Uuid.ofText values.tenantId = some row.tenantId
  eventType : row.eventType = values.eventType
  payload : row.payload = values.payload

theorem SaleValues.row_ok {values : SaleValues} {row : Sale} (read : values.row reference context = .ok row) :
    values.Gives row := by
  obtain ⟨tenantId, tenant, read⟩ := bind_ok read
  obtain ⟨storeId, store, read⟩ := bind_ok read
  obtain ⟨posTotal, -, read⟩ := bind_ok read
  obtain ⟨createdBy, -, read⟩ := bind_ok read
  split at read
  · cases read
  · cases read
    exact ⟨rfl, castUuid_ok tenant, castUuid_ok store, rfl, rfl, rfl, rfl⟩

theorem LineValues.row_ok {values : LineValues} {row : SaleLine} (read : values.row = .ok row) :
    row.id = values.id ∧ row.saleId = values.saleId ∧ Uuid.ofText values.tenantId = some row.tenantId := by
  obtain ⟨tenantId, tenant, read⟩ := bind_ok read
  obtain ⟨storeId, -, read⟩ := bind_ok read
  obtain ⟨unitPrice, -, read⟩ := bind_ok read
  obtain ⟨quantity, -, read⟩ := bind_ok read
  obtain ⟨lineAmount, -, read⟩ := bind_ok read
  obtain ⟨taxAmount, -, read⟩ := bind_ok read
  obtain ⟨tenantProductRef, -, read⟩ := bind_ok read
  cases read
  exact ⟨rfl, rfl, castUuid_ok tenant⟩

theorem castRefunded_ok {refunded : Option (String × String)} {stored : Option (Numeric × String)}
    (cast : castRefunded refunded = .ok stored) : stored.isSome = refunded.isSome := by
  match refunded with
  | none =>
    cases cast
    rfl
  | some (amount, currencyCode) =>
    obtain ⟨value, -, cast⟩ := bind_ok cast
    cases cast
    rfl

theorem TerminalValues.row_ok {values : TerminalValues} {row : TerminalEvent}
    (read : values.row context = .ok row) : values.Gives row := by
  obtain ⟨saleId, sale, read⟩ := bind_ok read
  obtain ⟨tenantId, tenant, read⟩ := bind_ok read
  obtain ⟨storeId, store, read⟩ := bind_ok read
  obtain ⟨refunded, kind, read⟩ := bind_ok read
  obtain ⟨createdBy, -, read⟩ := bind_ok read
  cases read
  exact ⟨rfl, castUuid_ok sale, castUuid_ok tenant, castUuid_ok store, castRefunded_ok kind, rfl, rfl⟩

theorem DeadletterValues.row_ok {values : DeadletterValues} {row : Deadletter}
    (read : values.row context = .ok row) : values.Gives row := by
  obtain ⟨saleId, sale, read⟩ := bind_ok read
  obtain ⟨tenantId, tenant, read⟩ := bind_ok read
  obtain ⟨storeId, store, read⟩ := bind_ok read
  obtain ⟨correlationId, -, read⟩ := bind_ok read
  cases read
  exact ⟨rfl, castUuid_ok sale, castUuid_ok tenant, castUuid_ok store, rfl, rfl⟩

theorem EventValues.row_ok {values : EventValues} {row : OutboxEvent} (read : values.row context = .ok row) :
    values.Gives row := by
  obtain ⟨tenantId, tenant, read⟩ := bind_ok read
  obtain ⟨storeId, -, read⟩ := bind_ok read
  cases read
  exact ⟨rfl, castUuid_ok tenant, rfl, rfl⟩

section Writers

variable {wrote : List Write}
variable {saleId : String}
variable {reply : Option Uuid} {storeId : String} {statement : Stmt}

/-- **An INSERT into `sales` inserts its row, or found its key taken.** -/
theorem insertSale_ok {values : SaleValues}
    (added : insertSale reference context writes values = .ok (reply, wrote)) :
    ∃ row, values.row reference context = .ok row ∧ some row.tenantId = context.tenant ∧
      ((reply = some row.id ∧ wrote = [.sale row] ∧
          ∀ other, .sale other ∈ writes → collide (.sale other) (.sale row) = false) ∨
        (reply = none ∧ wrote = [] ∧ ∃ other, .sale other ∈ writes ∧ row.sameKey other = true)) := by
  obtain ⟨row, read, added⟩ := bind_ok added
  obtain ⟨_, tenant, added⟩ := bind_ok added
  obtain ⟨-, -, added⟩ := bind_ok₂ added
  refine ⟨row, read, of_decide_eq_true (require_ok tenant), ?_⟩
  split at added
  · rename_i taken
    cases added
    obtain ⟨other, mem, same⟩ := List.any_eq_true.1 taken
    exact .inr ⟨rfl, rfl, other, mem_insertedSales.1 mem, same⟩
  · rename_i free
    obtain ⟨_, ids, added⟩ := bind_ok added
    obtain ⟨-, -, added⟩ := bind_ok₂ added
    cases added
    refine .inl ⟨rfl, rfl, fun other mem => ?_⟩
    have id := all_eq_true.1 (require_ok ids) other (mem_insertedSales.2 mem)
    have key : row.sameKey other = false := by
      by_contra same
      exact free (List.any_eq_true.2 ⟨other, mem_insertedSales.2 mem, by simpa using same⟩)
    exact or_eq_false_iff.2 ⟨decide_eq_false (of_decide_eq_true id), (Sale.sameKey_comm other row).trans key⟩

theorem insertLine_ok {values : LineValues} (added : insertLine writes context values = .ok ((), wrote)) :
    ∃ row, values.row = .ok row ∧ some row.tenantId = context.tenant ∧ wrote = [.line row] ∧
      ∀ other, .line other ∈ writes → other.id ≠ row.id := by
  obtain ⟨row, read, added⟩ := bind_ok added
  obtain ⟨_, tenant, added⟩ := bind_ok added
  obtain ⟨-, -, -, -, added⟩ := bind_ok₄ added
  obtain ⟨_, ids, added⟩ := bind_ok added
  obtain ⟨-, -, added⟩ := bind_ok added
  cases added
  exact ⟨row, read, of_decide_eq_true (require_ok tenant), rfl, fun other mem =>
    require_all ids other (mem_linesOf.2 mem)⟩

/-- **An INSERT of a terminal event inserts its row, or found its key taken.** -/
theorem insertTerminal_ok {values : TerminalValues} {reply : Option TerminalEvent}
    (added : insertTerminal context writes values = .ok (reply, wrote)) :
    ∃ row, values.row context = .ok row ∧ some row.tenantId = context.tenant ∧
      ((reply = some row ∧ wrote = [.terminal row] ∧
          hasSale writes row.saleId row.tenantId row.storeId = true ∧
          ∀ other, .terminal other ∈ writes → collide (.terminal other) (.terminal row) = false) ∨
        (reply = none ∧ wrote = [] ∧ ∃ other, .terminal other ∈ writes ∧ row.sameKey other = true)) := by
  obtain ⟨row, read, added⟩ := bind_ok added
  obtain ⟨_, tenant, added⟩ := bind_ok added
  obtain ⟨-, -, added⟩ := bind_ok₂ added
  refine ⟨row, read, of_decide_eq_true (require_ok tenant), ?_⟩
  split at added
  · rename_i taken
    cases added
    obtain ⟨other, mem, same⟩ := List.any_eq_true.1 taken
    exact .inr ⟨rfl, rfl, other, mem_terminalsOf.1 mem, same⟩
  · rename_i free
    obtain ⟨_, ids, added⟩ := bind_ok added
    obtain ⟨_, sale, added⟩ := bind_ok added
    cases added
    refine .inl ⟨rfl, rfl, require_ok sale, fun other mem => ?_⟩
    have id := all_eq_true.1 (require_ok ids) other (mem_terminalsOf.2 mem)
    have key : row.sameKey other = false := by
      by_contra same
      exact free (List.any_eq_true.2 ⟨other, mem_terminalsOf.2 mem, by simpa using same⟩)
    simp only [or_eq_true, decide_eq_true_eq] at id
    have apart : ¬ (other.kind = row.kind ∧ other.id = row.id) := by
      rintro ⟨kind, same⟩
      rcases id with different | different
      · exact different kind
      · exact different same
    refine or_eq_false_iff.2 ⟨?_, (TerminalEvent.sameKey_comm other row).trans key⟩
    rw [← Bool.decide_and]
    exact decide_eq_false apart

theorem hasSale_ok {saleId tenantId storeId : Uuid} (holds : hasSale writes saleId tenantId storeId = true) :
    ∃ row, .sale row ∈ writes ∧ row.id = saleId ∧ row.tenantId = tenantId ∧ row.storeId = storeId := by
  obtain ⟨row, mem, same⟩ := List.any_eq_true.1 holds
  simp only [and_eq_true, decide_eq_true_eq] at same
  exact ⟨row, mem_insertedSales.1 mem, same.1.1, same.1.2, same.2⟩

/-- **An INSERT of a dead letter inserts its row, or found one open.** -/
theorem insertDeadletter_ok {values : DeadletterValues}
    (added : insertDeadletter context writes values = .ok (reply, wrote)) :
    ∃ row, values.row context = .ok row ∧ some row.tenantId = context.tenant ∧
      ((reply = some row.id ∧ wrote = [.deadletter row] ∧
          (∀ other ∈ deadlettersOf writes, other.saleId = row.saleId → other.isOpen = false) ∧
          (∀ other, .deadletter other ∈ writes → other.id ≠ row.id) ∧
          hasSale writes row.saleId row.tenantId row.storeId = true) ∨
        (reply = none ∧ wrote = [] ∧
          ∃ other ∈ deadlettersOf writes, other.saleId = row.saleId ∧ other.isOpen = true)) := by
  obtain ⟨row, read, added⟩ := bind_ok added
  obtain ⟨_, tenant, added⟩ := bind_ok added
  obtain ⟨-, -, added⟩ := bind_ok added
  refine ⟨row, read, of_decide_eq_true (require_ok tenant), ?_⟩
  split at added
  · rename_i taken
    cases added
    obtain ⟨other, mem, opened⟩ := List.any_eq_true.1 taken
    simp only [Deadletter.opens, and_eq_true, decide_eq_true_eq] at opened
    exact .inr ⟨rfl, rfl, other, mem, opened⟩
  · rename_i free
    obtain ⟨_, ids, added⟩ := bind_ok added
    obtain ⟨_, sale, added⟩ := bind_ok added
    cases added
    refine .inl ⟨rfl, rfl, fun other mem same => ?_, fun other mem => ?_, require_ok sale⟩
    · by_contra opened
      refine free (List.any_eq_true.2 ⟨other, mem, ?_⟩)
      simpa [Deadletter.opens, same] using opened
    · exact require_all ids other (mem_insertedDeadletters.2 mem)

theorem insertEvent_ok {values : EventValues}
    (ran : exec reference context writes (.insertEvent values) = .ok ((), wrote)) :
    ∃ row, values.row context = .ok row ∧ wrote = [.event row] ∧
      ∀ other, .event other ∈ writes → other.eventId ≠ row.eventId := by
  obtain ⟨row, read, ran⟩ := bind_ok ran
  obtain ⟨-, -, ran⟩ := bind_ok ran
  obtain ⟨_, ids, ran⟩ := bind_ok ran
  cases ran
  exact ⟨row, read, rfl, fun other mem => require_all ids other (mem_eventsOf.2 mem)⟩

/-- **The drain's UPDATE finds its sale in scope and unprocessed, or changes nothing.** -/
theorem processSale_ok {reply : Option (Bool × Int)}
    (ran : exec reference context writes (.processSale saleId storeId) = .ok (reply, wrote)) :
    ∃ sale store, Uuid.ofText saleId = some sale ∧ Uuid.ofText storeId = some store ∧
      ((∃ row mismatchFlag, .sale row ∈ writes ∧ row.id = sale ∧ row.storeId = store ∧
          some row.tenantId = context.tenant ∧ (row.after writes).processedAt = none ∧
          reply = some (mismatchFlag, context.now) ∧ wrote = [.process sale mismatchFlag context.now]) ∨
        (reply = none ∧ wrote = [])) := by
  obtain ⟨sale, saleCast, ran⟩ := bind_ok ran
  obtain ⟨store, storeCast, ran⟩ := bind_ok ran
  refine ⟨sale, store, castUuid_ok saleCast, castUuid_ok storeCast, ?_⟩
  split at ran
  · cases ran
    exact .inr ⟨rfl, rfl⟩
  · rename_i found matched
    obtain ⟨inScope, unprocessed⟩ := filter_eq_some_iff.1 matched
    obtain ⟨row, mem, rfl, id, atStore, tenant⟩ := saleInScope_some inScope
    cases ran
    exact .inl ⟨row, _, mem, id, atStore, tenant, isNone_iff_eq_none.1 unprocessed, rfl, rfl⟩

/-- **The quarantine's UPDATE finds its sale in scope and not synced, or changes nothing.** -/
theorem advanceStatus_ok {status : SaleSyncFailureStatus}
    (ran : exec reference context writes (.advanceStatus saleId storeId status) = .ok (reply, wrote)) :
    ∃ sale store, Uuid.ofText saleId = some sale ∧ Uuid.ofText storeId = some store ∧
      ((∃ row, .sale row ∈ writes ∧ row.id = sale ∧ (row.after writes).syncStatus ≠ .synced ∧
          reply = some sale ∧ wrote = [.setStatus sale status.status]) ∨
        (reply = none ∧ wrote = [] ∧
          ∀ row, saleInScope context writes sale store = some row → row.syncStatus = .synced)) := by
  obtain ⟨sale, saleCast, ran⟩ := bind_ok ran
  obtain ⟨store, storeCast, ran⟩ := bind_ok ran
  refine ⟨sale, store, castUuid_ok saleCast, castUuid_ok storeCast, ?_⟩
  split at ran
  · rename_i missed
    cases ran
    refine .inr ⟨rfl, rfl, fun row found => ?_⟩
    rw [found, filter_some] at missed
    by_contra unsynced
    simp [unsynced] at missed
  · rename_i found matched
    obtain ⟨inScope, unsynced⟩ := filter_eq_some_iff.1 matched
    obtain ⟨row, mem, rfl, id, -, -⟩ := saleInScope_some inScope
    cases ran
    exact .inl ⟨row, mem, id, of_decide_eq_true unsynced, rfl, rfl⟩

/-- **The repair's first UPDATE resolves an open needs-repair dead letter of its sale, if there is
one.** -/
theorem resolveDeadletter_ok
    (ran : exec reference context writes (.resolveDeadletter saleId) = .ok (reply, wrote)) :
    ∃ sale, Uuid.ofText saleId = some sale ∧
      ((∃ row, .deadletter row ∈ writes ∧ row.saleId = sale ∧ row.classification = .needsRepair ∧
          (row.after writes).isOpen = true ∧ reply = some row.id ∧
          wrote = [.resolve row.id sale context.now]) ∨ (reply = none ∧ wrote = [])) := by
  obtain ⟨sale, saleCast, ran⟩ := bind_ok ran
  refine ⟨sale, castUuid_ok saleCast, ?_⟩
  dsimp only at ran
  split at ran
  · cases ran
    exact .inr ⟨rfl, rfl⟩
  · rename_i found matched
    have holds := find?_some matched
    simp only [Deadletter.opens, and_eq_true, decide_eq_true_eq] at holds
    obtain ⟨row, mem, rfl⟩ := mem_deadlettersOf.1 (mem_of_find?_eq_some matched)
    simp only [Deadletter.after_saleId, Deadletter.after_classification] at holds
    cases ran
    exact .inl ⟨row, mem, holds.1.1.1, holds.1.2, holds.1.1.2, by rw [Deadletter.after_id],
      by rw [Deadletter.after_id]⟩

/-- **The repair's second UPDATE is of the sale, whatever its status.** -/
theorem requeueSale_ok (ran : exec reference context writes (.requeueSale saleId) = .ok ((), wrote)) :
    ∃ sale, Uuid.ofText saleId = some sale ∧
      ((∃ row, .sale row ∈ writes ∧ row.id = sale ∧ wrote = [.setStatus sale .failedRetryable]) ∨
        (wrote = [] ∧ visibleSale context writes sale = none)) := by
  obtain ⟨sale, saleCast, ran⟩ := bind_ok ran
  refine ⟨sale, castUuid_ok saleCast, ?_⟩
  split at ran
  · rename_i missing
    cases ran
    exact .inr ⟨rfl, missing⟩
  · rename_i found matched
    obtain ⟨row, mem, -, id, -⟩ := visibleSale_some matched
    cases ran
    exact .inl ⟨row, mem, id, rfl⟩

def Stmt.reads : Stmt → Bool
  | .insertSale .. | .insertLine .. | .insertEvent .. | .insertTerminal .. | .processSale ..
  | .insertDeadletter .. | .advanceStatus .. | .resolveDeadletter .. | .requeueSale .. => false
  | _ => true

theorem exec_reads {reply : Reply statement} (reads : statement.reads = true)
    (ran : exec reference context writes statement = .ok (reply, wrote)) : wrote = [] := by
  cases statement with
  | compareTotal posTotal lineAmounts =>
    obtain ⟨_, _, ran⟩ := bind_ok₂ ran
    cases ran
    rfl
  | storeTimezone storeId | findWinner tenantId sourceSystem externalId =>
    obtain ⟨_, -, ran⟩ := bind_ok ran
    cases ran
    rfl
  | selectSale saleId storeId =>
    obtain ⟨_, _, ran⟩ := bind_ok₂ ran
    cases ran
    rfl
  | selectLines saleId | findTerminal kind tenantId sourceSystem externalId | readSaleStatus saleId
  | readOpenDeadletter saleId =>
    obtain ⟨_, -, ran⟩ := bind_ok ran
    cases ran
    rfl
  | needsRepairPage storeId cursor limit =>
    obtain ⟨_, _, ran⟩ := bind_ok₂ ran
    cases ran
    rfl
  | _ => cases reads

/-! ### Writes that collide -/

theorem clash_comm (first second : Write) : clash first second = clash second first := by
  cases first <;> cases second <;>
    simp [clash, Write.saleUpdated, Sale.sameKey, TerminalEvent.sameKey, eq_comm]

theorem collide_comm (first second : Write) : collide first second = collide second first := by
  cases first <;> cases second <;>
    simp only [collide, Sale.sameKey, TerminalEvent.sameKey, eq_comm]

theorem clash_of_collide {first second : Write} (collides : collide first second = true) :
    clash first second = true := by
  cases first <;> cases second <;> first
    | exact collides
    | simp_all [collide, clash, Write.saleUpdated]

/-- **The server refuses a write that collides with one it sees.** -/
theorem exec_refuses {reply : Reply statement}
    (ran : exec reference context writes statement = .ok (reply, wrote)) :
    wrote.Pairwise (fun first second => collide first second = false) ∧
      ∀ first ∈ writes, ∀ second ∈ wrote, collide first second = false := by
  by_cases reads : statement.reads = true
  · rw [exec_reads reads ran]
    exact refuses_none
  cases statement with
  | insertSale values =>
    obtain ⟨row, -, -, ⟨-, rfl, fresh⟩ | ⟨-, rfl, -⟩⟩ := insertSale_ok ran
    · refine refuses_single fun first mem => ?_
      cases first with
      | sale other => exact fresh other mem
      | _ => rfl
    · exact refuses_none
  | insertLine values =>
    obtain ⟨row, -, -, rfl, fresh⟩ := insertLine_ok ran
    refine refuses_single fun first mem => ?_
    cases first with
    | line other => exact decide_eq_false (fresh other mem)
    | _ => rfl
  | insertEvent values =>
    obtain ⟨row, -, rfl, fresh⟩ := insertEvent_ok ran
    refine refuses_single fun first mem => ?_
    cases first with
    | event other => exact decide_eq_false (fresh other mem)
    | _ => rfl
  | insertTerminal values =>
    obtain ⟨row, -, -, ⟨-, rfl, -, fresh⟩ | ⟨-, rfl, -⟩⟩ := insertTerminal_ok ran
    · refine refuses_single fun first mem => ?_
      cases first with
      | terminal other => exact fresh other mem
      | _ => rfl
    · exact refuses_none
  | insertDeadletter values =>
    obtain ⟨row, -, -, ⟨-, rfl, -, fresh, -⟩ | ⟨-, rfl, -⟩⟩ := insertDeadletter_ok ran
    · refine refuses_single fun first mem => ?_
      cases first with
      | deadletter other => exact decide_eq_false (fresh other mem)
      | _ => rfl
    · exact refuses_none
  | processSale saleId storeId =>
    obtain ⟨sale, store, -, -, ⟨row, mismatchFlag, -, rfl, -, -, unprocessed, -, rfl⟩ | ⟨-, rfl⟩⟩ :=
      processSale_ok ran
    · refine refuses_single fun first mem => ?_
      cases first with
      | process other flag processedAt =>
        refine decide_eq_false fun same => ?_
        rw [same] at mem
        have processed := Sale.after_process mem
        rw [unprocessed] at processed
        cases processed
      | _ => rfl
    · exact refuses_none
  | advanceStatus saleId storeId status =>
    obtain ⟨sale, store, -, -, ⟨row, -, -, -, -, rfl⟩ | ⟨-, rfl, -⟩⟩ := advanceStatus_ok ran
    · refine refuses_single fun first _ => ?_
      cases first <;> rfl
    · exact refuses_none
  | resolveDeadletter saleId =>
    obtain ⟨sale, -, ⟨row, -, -, -, isOpen, -, rfl⟩ | ⟨-, rfl⟩⟩ := resolveDeadletter_ok ran
    · refine refuses_single fun first mem => ?_
      cases first with
      | resolve id saleId resolvedAt =>
        refine decide_eq_false fun same => ?_
        rw [same] at mem
        have resolved := Deadletter.after_resolve mem
        rw [isOpen] at resolved
        cases resolved
      | _ => rfl
    · exact refuses_none
  | requeueSale saleId =>
    obtain ⟨sale, -, ⟨row, -, -, rfl⟩ | ⟨rfl, -⟩⟩ := requeueSale_ok ran
    · refine refuses_single fun first _ => ?_
      cases first <;> rfl
    · exact refuses_none
  | _ => exact absurd rfl reads

end Writers

end DataPulse.Sales
