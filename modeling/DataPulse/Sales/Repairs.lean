/-
**The queue of repairs.**

The console lists the open needs-repair dead letters; the repair asks for the status of the sale. Both
say the same only while the drain spares the sales that wait for a repair, and while no quarantine
leaves a needs-repair dead letter of a sale that it found synced.

* `repair_queue_sound`: both.
-/

import DataPulse.Sales.Transitions

namespace DataPulse.Sales

open Lib Lib.Interleave Platform
open Inventory (castUuid_text)

/-- A quarantine that asks for a repair does not find its sale synced. -/
def quarantineSparesSynced (present : List Write) : Stmt → List Write → Bool
  | .advanceStatus saleId _ .failedNeedsRepair, _ =>
    (Uuid.ofText saleId).all fun saleId => !hasStatus present saleId .synced
  | _, _ => true

/-- The sale has an open dead letter that asks for a repair. -/
def WaitsForRepair (writes : List Write) (saleId : Uuid) : Prop :=
  ∃ deadletter ∈ deadlettersOf writes, deadletter.saleId = saleId ∧
    deadletter.classification = .needsRepair ∧ deadletter.isOpen = true

variable {writes here more : List Write}

theorem waitsForRepair_iff {saleId : Uuid} :
    WaitsForRepair writes saleId ↔
      ∃ row : Deadletter, .deadletter row ∈ writes ∧ row.saleId = saleId ∧ row.classification = .needsRepair ∧
      (row.after writes).isOpen = true := by
  constructor
  · rintro ⟨deadletter, mem, about, needs, isOpen⟩
    obtain ⟨row, added, rfl⟩ := mem_deadlettersOf.1 mem
    rw [Deadletter.after_saleId] at about
    rw [Deadletter.after_classification] at needs
    exact ⟨row, added, about, needs, isOpen⟩
  · rintro ⟨row, added, about, needs, isOpen⟩
    exact ⟨_, mem_deadlettersOf.2 ⟨row, added, rfl⟩, Deadletter.after_saleId.trans about,
      Deadletter.after_classification.trans needs, isOpen⟩

/-! ### What writes do to one sale -/

section Writes

theorem waitsForRepair_append {present : List Write} {saleId : Uuid}
    (inserts : ∀ row, .deadletter row ∈ more → row.saleId = saleId → row.classification ≠ .needsRepair)
    (resolves : ∀ id other resolvedAt, .resolve id other resolvedAt ∈ more →
      ∀ row, .deadletter row ∈ present → row.id = id → row.saleId ≠ saleId) :
    WaitsForRepair (present ++ more) saleId ↔ WaitsForRepair present saleId := by
  rw [waitsForRepair_iff, waitsForRepair_iff]
  have stays : ∀ row, .deadletter row ∈ present → row.saleId = saleId →
      row.after (present ++ more) = row.after present := by
    intro row mem about
    rw [Deadletter.after_append]
    refine Deadletter.after_untouched fun other resolvedAt inside => ?_
    rw [Deadletter.after_id] at inside
    exact resolves _ _ _ inside row mem rfl about
  constructor
  · rintro ⟨row, mem, about, needs, isOpen⟩
    rcases mem_append.1 mem with old | new
    · exact ⟨row, old, about, needs, by rwa [stays row old about] at isOpen⟩
    · exact absurd needs (inserts row new about)
  · rintro ⟨row, mem, about, needs, isOpen⟩
    exact ⟨row, mem_append_left _ mem, about, needs, by rwa [stays row mem about]⟩

theorem after_more {present : List Write} {row : Sale}
    (others : ∀ write ∈ more, write.saleUpdated ≠ some row.id) :
    row.after (present ++ more) = row.after present := by
  rw [Sale.after_append]
  refine Sale.after_untouched fun write mem => ?_
  rw [Sale.after_id]
  exact others write mem

end Writes

/-! ### What a commit does to one sale -/

/-- Every sale waits for a repair exactly when its status says so. -/
def WaitsAsStatus (writes : List Write) : Prop :=
  ∀ row : Sale, .sale row ∈ writes →
    (WaitsForRepair writes row.id ↔ (row.after writes).syncStatus = .failedNeedsRepair)

section Deeds

variable {before : List (Nat × List Write)} {writes : List Write}

theorem WaitsAsStatus.append (agree : WaitsAsStatus (contents before))
    (inserts : ∀ row : Sale, .sale row ∉ writes)
    (letters : ∀ row : Deadletter, .deadletter row ∈ writes → row.classification ≠ .needsRepair)
    (resolves : ∀ id other resolvedAt, .resolve id other resolvedAt ∉ writes)
    (updates : ∀ write ∈ writes, write.saleUpdated = none) : WaitsAsStatus (contents before ++ writes) := by
  intro row mem
  have old : .sale row ∈ contents before := (mem_append.1 mem).resolve_right (inserts row)
  rw [waitsForRepair_append (fun other inside _ => letters other inside)
      (fun id other resolvedAt inside => absurd inside (resolves id other resolvedAt)),
    after_more fun write inside => by rw [updates write inside]; exact fun none => by cases none]
  exact agree row old

theorem captured_others {sale : Sale} {lines : List SaleLine} {event : OutboxEvent} {present : List Write}
    (saleId : Uuid) :
    (WaitsForRepair (present ++ .sale sale :: (lines.map .line ++ [.event event])) saleId ↔
        WaitsForRepair present saleId) ∧
      ∀ row : Sale, row.after (present ++ .sale sale :: (lines.map .line ++ [.event event])) =
      row.after present := by
  have noUpdate : ∀ write ∈ Write.sale sale :: (lines.map Write.line ++ [.event event]), write.saleUpdated =
      none := by
    intro write mem
    simp only [mem_cons, mem_append, mem_map, not_mem_nil, or_false] at mem
    rcases mem with rfl | ⟨line, -, rfl⟩ | rfl
    · rfl
    · rfl
    · rfl
  constructor
  · exact waitsForRepair_append (fun row inside => by simp at inside)
      (fun id other resolvedAt inside => by simp at inside)
  · exact fun row => after_more fun write inside => by
      rw [noUpdate write inside]
      exact fun none => by cases none

theorem captured_idle (anchored : Anchored here) {sale : Sale}
    (fresh : ∀ other, .sale other ∈ here → other.id ≠ sale.id) :
    ¬ WaitsForRepair here sale.id ∧ sale.after here = sale := by
  constructor
  · rw [waitsForRepair_iff]
    rintro ⟨deadletter, inside, about, -, -⟩
    obtain ⟨other, there, id⟩ := anchored.letters deadletter inside
    exact fresh other there (id.trans about)
  · refine Sale.after_untouched fun write inside about => ?_
    obtain ⟨other, there, id⟩ := anchored.updates write inside _ about
    exact fresh other there id

theorem WaitsAsStatus.captured (agree : WaitsAsStatus (contents before))
    (anchored : Anchored (contents before)) {sale : Sale} {lines : List SaleLine} {event : OutboxEvent}
    (status : sale.syncStatus = .captured)
    (fresh : ∀ other, .sale other ∈ contents before → other.id ≠ sale.id) :
    WaitsAsStatus (contents before ++ .sale sale :: (lines.map .line ++ [.event event])) := by
  intro row mem
  obtain ⟨waits, same⟩ := @captured_others sale lines event (contents before) row.id
  rw [waits, same row]
  rcases mem_append.1 mem with old | new
  · exact agree row old
  · have one : row = sale := by simpa using new
    subst one
    obtain ⟨idle, untouched⟩ := captured_idle anchored fresh
    rw [untouched, status]
    simp [idle]

theorem processed_sale {saleId : Uuid} {mismatchFlag : Bool} {processedAt : Int} {event : OutboxEvent}
    (row : Sale) :
    (WaitsForRepair (here ++ [.process saleId mismatchFlag processedAt, .event event]) row.id ↔
        WaitsForRepair here row.id) ∧
      (row.id = saleId →
          (row.after (here ++ [.process saleId mismatchFlag processedAt, .event event])).syncStatus =
          .synced) ∧
      (row.id ≠ saleId →
        row.after (here ++ [.process saleId mismatchFlag processedAt, .event event]) = row.after here) := by
  refine ⟨waitsForRepair_append (fun _ inside => by simp at inside)
    (fun id other resolvedAt inside => by simp at inside), fun mine => ?_, fun others => ?_⟩
  · subst mine
    have id : (row.after here).id = row.id := Sale.after_id
    rw [Sale.after_append, Sale.after_cons, ← id, Sale.apply_process]
    rfl
  · refine after_more fun write inside => ?_
    simp only [mem_cons, not_mem_nil, or_false] at inside
    rcases inside with rfl | rfl
    · exact fun same => others (Option.some.inj same).symm
    · exact fun none => by cases none

theorem WaitsAsStatus.processed (agree : WaitsAsStatus (contents before)) {saleId : Uuid}
    {mismatchFlag : Bool} {processedAt : Int} {event : OutboxEvent}
    (spared : ∀ row : Sale, .sale row ∈ contents before → row.id = saleId →
      (row.after (contents before)).syncStatus ≠ .failedNeedsRepair) :
    WaitsAsStatus (contents before ++ [.process saleId mismatchFlag processedAt, .event event]) := by
  intro row mem
  have old : .sale row ∈ contents before := by simpa using mem
  obtain ⟨waits, synced, others⟩ := @processed_sale (contents before) saleId mismatchFlag processedAt event row
  rw [waits]
  by_cases mine : row.id = saleId
  · have idle := (not_congr (agree row old)).2 (spared row old mine)
    rw [synced mine]
    simp [idle]
  · rw [others mine]
    exact agree row old

theorem quarantined_others {present : List Write} {deadletter : Deadletter} {status : SaleSyncStatus}
    {row : Sale} (others : row.id ≠ deadletter.saleId) :
    (WaitsForRepair (present ++ [.deadletter deadletter, .setStatus deadletter.saleId status]) row.id ↔
        WaitsForRepair present row.id) ∧
      row.after (present ++ [.deadletter deadletter, .setStatus deadletter.saleId status]) =
      row.after present := by
  constructor
  · refine waitsForRepair_append (fun other inside about =>
      ?_) (fun id other resolvedAt inside => by simp at inside)
    have same : other = deadletter := by simpa using inside
    rw [same] at about
    exact absurd about.symm others
  · refine after_more fun write inside => ?_
    simp only [mem_cons, not_mem_nil, or_false] at inside
    rcases inside with rfl | rfl
    · exact fun none => by cases none
    · exact fun same => others (Option.some.inj same).symm

theorem waits_of_inserted {deadletter : Deadletter} (isOpen : deadletter.isOpen = true)
    (unresolved : ∀ other resolvedAt, .resolve deadletter.id other resolvedAt ∉
        here ++ .deadletter deadletter :: more) (alone : ∀ other, .deadletter other ∉ more)
    (closed : ∀ other ∈ deadlettersOf here, other.saleId = deadletter.saleId → other.isOpen = false) :
    WaitsForRepair (here ++ .deadletter deadletter :: more) deadletter.saleId ↔
      deadletter.classification = .needsRepair := by
  rw [waitsForRepair_iff]
  constructor
  · rintro ⟨other, inside, about, needs, still⟩
    rcases mem_append.1 inside with early | new
    · have resolved := closed _ (mem_deadlettersOf.2 ⟨other, early, rfl⟩) (Deadletter.after_saleId.trans about)
      rw [Deadletter.after_append, Deadletter.after_resolved resolved] at still
      cases still
    · rcases mem_cons.1 new with same | later
      · rwa [← Write.deadletter.inj same]
      · exact absurd later (alone other)
  · intro needs
    refine ⟨deadletter, by simp, rfl, needs, ?_⟩
    rw [Deadletter.after_untouched unresolved]
    exact isOpen

theorem status_of_quarantined {deadletter : Deadletter} {status : SaleSyncStatus} {row : Sale}
    (mine : row.id = deadletter.saleId) :
    (row.after (here ++ [.deadletter deadletter, .setStatus deadletter.saleId status])).syncStatus =
      status := by
  have id : ((row.after here).apply (.deadletter deadletter)).id = deadletter.saleId := by
    show (row.after here).id = _
    rw [Sale.after_id, mine]
  rw [Sale.after_append, Sale.after_cons, Sale.after_cons, ← id, Sale.apply_setStatus]
  rfl

theorem WaitsAsStatus.quarantined (agree : WaitsAsStatus (contents before)) {deadletter : Deadletter}
    {target : SaleSyncFailureStatus} (isOpen : deadletter.isOpen = true)
    (unresolved : ∀ other resolvedAt, .resolve deadletter.id other resolvedAt ∉ contents before)
    (closed : ∀ other ∈ deadlettersOf (contents before), other.saleId = deadletter.saleId →
        other.isOpen = false)
    (routed : deadletter.classification = .needsRepair ↔ target = .failedNeedsRepair) :
    WaitsAsStatus
      (contents before ++ [.deadletter deadletter, .setStatus deadletter.saleId target.status]) := by
  intro row mem
  have old : .sale row ∈ contents before := by simpa using mem
  by_cases mine : row.id = deadletter.saleId
  · rw [mine, waits_of_inserted isOpen (fun other resolvedAt => by simp [unresolved other resolvedAt])
      (fun other => by simp) closed, status_of_quarantined mine, routed]
    cases target <;> simp [SaleSyncFailureStatus.status]
  · obtain ⟨waits, same⟩ := @quarantined_others (contents before) _ target.status row mine
    rw [waits, same]
    exact agree row old

theorem repaired_sale {present : List Write} (anchored : Anchored present) {saleId : Uuid}
    {deadletter : Deadletter} {resolvedAt : Int} (there : .deadletter deadletter ∈ present)
    (about : deadletter.saleId = saleId) (isOpen : (deadletter.after present).isOpen = true)
    (once : ∀ other, .deadletter other ∈ present → other.id = deadletter.id → other = deadletter)
    (row : Sale) :
    (row.id = saleId →
        ¬ WaitsForRepair
        (present ++ [.resolve deadletter.id saleId resolvedAt, .setStatus saleId .failedRetryable]) row.id ∧
        (row.after
          (present ++
            [.resolve deadletter.id saleId resolvedAt, .setStatus saleId .failedRetryable])).syncStatus =
        .failedRetryable) ∧
      (row.id ≠ saleId →
        (WaitsForRepair
          (present ++ [.resolve deadletter.id saleId resolvedAt, .setStatus saleId .failedRetryable]) row.id ↔
          WaitsForRepair present row.id) ∧
        row.after
        (present ++ [.resolve deadletter.id saleId resolvedAt, .setStatus saleId .failedRetryable]) =
        row.after present) := by
  refine ⟨fun mine => ⟨?_, ?_⟩, fun others => ⟨?_, ?_⟩⟩
  · rw [waitsForRepair_iff]
    rintro ⟨other, inside, same, -, still⟩
    have early : .deadletter other ∈ present := by simpa using inside
    have before : (other.after present).isOpen = true := by
      by_contra resolved
      rw [Deadletter.after_append, Deadletter.after_resolved (by simpa using resolved)] at still
      cases still
    obtain rfl := anchored.lone other deadletter early there (same.trans (mine.trans about.symm)) before isOpen
    rw [@Deadletter.after_resolve _ _ saleId resolvedAt (by simp)] at still
    cases still
  · subst mine
    have id : (row.after present).id = row.id := Sale.after_id
    rw [Sale.after_append]
    show ((row.after present).apply (.setStatus row.id .failedRetryable)).syncStatus = .failedRetryable
    rw [← id, Sale.apply_setStatus]
  · refine waitsForRepair_append (fun other inside => by simp at inside) ?_
    intro id other at' inside letter known same
    have resolved : id = deadletter.id := by
      simp at inside
      exact inside.1
    rw [once letter known (same.trans resolved), about]
    exact fun equal => others equal.symm
  · refine after_more fun write inside => ?_
    simp only [mem_cons, not_mem_nil, or_false] at inside
    rcases inside with rfl | rfl
    · exact fun none => by cases none
    · exact fun same => others (Option.some.inj same).symm

theorem WaitsAsStatus.repaired (agree : WaitsAsStatus (contents before))
    (anchored : Anchored (contents before)) {saleId : Uuid} {deadletter : Deadletter} {resolvedAt : Int}
    (there : .deadletter deadletter ∈ contents before) (about : deadletter.saleId = saleId)
    (isOpen : (deadletter.after (contents before)).isOpen = true)
    (once : ∀ other, .deadletter other ∈ contents before → other.id = deadletter.id → other = deadletter) :
    WaitsAsStatus
      (contents before ++
        [.resolve deadletter.id saleId resolvedAt, .setStatus saleId .failedRetryable]) := by
  intro row mem
  have old : .sale row ∈ contents before := by simpa using mem
  obtain ⟨own, others⟩ := @repaired_sale _ anchored _ _ resolvedAt there about isOpen once row
  by_cases mine : row.id = saleId
  · obtain ⟨idle, status⟩ := own mine
    rw [status]
    simp [idle]
  · obtain ⟨waits, same⟩ := others mine
    rw [waits, same]
    exact agree row old

end Deeds

/-! ### The list and the repair -/

section Queue

variable {reference : Reference} {commits : List (Nat × List Write)} {call : Call}

/-- The program completes on the commits as they are, and writes what is given. -/
def Does {α : Type} (reference : Reference) (commits : List (Nat × List Write)) (call : Call)
    (own : List Write) (program : Service α) (writes : List Write) (value : α) : Prop :=
  ∃ log, Alone (salesServer reference) commits call own program log value ∧ written log = writes

theorem does_query {own : List Write} {stmt : Stmt} {reply : Reply stmt}
    (ran : exec reference call.context (contents commits ++ own) stmt = .ok (reply, writes)) :
    Does reference commits call own (clientQuery stmt) writes reply :=
  ⟨_, alone_query ran, append_nil _⟩

theorem does_bind {α β : Type} {own first second : List Write} {program : Service α} {next : α → Service β}
    {value : α} {result : β} (before : Does reference commits call own program first value)
    (after : Does reference commits call (own ++ first) (next value) second result) :
    Does reference commits call own (program.bind next) (first ++ second) result := by
  obtain ⟨log, alone, rfl⟩ := before
  obtain ⟨log', alone', rfl⟩ := after
  exact ⟨log ++ log', alone_bind alone alone', written_append _ _⟩

theorem does_done {α : Type} {own : List Write} (value : α) :
    Does reference commits call own (.done value) [] value := ⟨[], alone_done value, rfl⟩

theorem does_throwWhen {own : List Write} {wrong : Bool} {error : Thrown} (fine : wrong = false) :
    Does reference commits call own (throwWhen wrong error) [] () := by
  rw [fine]
  exact does_done ()

theorem does_readSaleStatusRow {own : List Write} {saleId : Uuid} {found : Sale}
    (visible : visibleSale call.context (contents commits ++ own) saleId = some found) :
    Does reference commits call own (readSaleStatusRow saleId.text) [] found := by
  have ran : exec reference call.context (contents commits ++ own)
      (.readSaleStatus saleId.text) = .ok (some found, []) := by
    simp [exec, castUuid_text, visible]
  exact does_bind (does_query ran) (does_done found)

theorem visible_more (more : List Write) {saleId : Uuid} {found : Sale}
    (visible : visibleSale call.context writes saleId = some found) :
    ∃ later, visibleSale call.context (writes ++ more) saleId = some later := by
  obtain ⟨row, mem, -, id, tenant⟩ := visibleSale_some visible
  by_contra missing
  have absent := Option.eq_none_iff_forall_ne_some.2 (not_exists.1 missing)
  exact visibleSale_none absent (mem_append_left _ mem) id tenant

/-- **The repair accepts a sale that waits for it, and whose status says so.** -/
theorem repair_accepts {tenantId : String} {saleId : Uuid} {sale : Sale} {deadletter : Deadletter}
    (tenant : Uuid.isUuid tenantId = true)
    (visible : visibleSale call.context (contents commits) saleId = some sale)
    (status : sale.syncStatus = .failedNeedsRepair) (mem : deadletter ∈ deadlettersOf (contents commits))
    (about : deadletter.saleId = saleId) (needs : deadletter.classification = .needsRepair)
    (isOpen : deadletter.isOpen = true) (mine : some deadletter.tenantId = call.context.tenant) :
    ∃ body writes, Does reference commits call [] (repairSaleSync tenantId saleId.text) writes body := by
  have reads := @does_readSaleStatusRow reference commits call [] saleId sale (by rwa [append_nil])
  obtain ⟨resolved, found⟩ : ∃ resolved, (deadlettersOf (contents commits)).find? (fun row => row.opens saleId &&
      row.classification = .needsRepair && some row.tenantId = call.context.tenant) = some resolved := by
    refine isSome_iff_exists.1 (find?_isSome.2 ⟨deadletter, mem, ?_⟩)
    simp [Deadletter.opens, about, needs, isOpen, mine]
  have resolves : exec reference call.context (contents commits ++ []) (.resolveDeadletter saleId.text) =
        .ok (some resolved.id, [.resolve resolved.id saleId call.now]) := by
    simp [exec, castUuid_text, found]
  obtain ⟨sale', visible'⟩ := visible_more [.resolve resolved.id saleId call.now] visible
  have requeues : exec reference call.context (contents commits ++ [.resolve resolved.id saleId call.now])
      (.requeueSale saleId.text) = .ok ((), [.setStatus saleId .failedRetryable]) := by
    simp [exec, castUuid_text, visible']
  obtain ⟨after, visibleAfter⟩ := visible_more
    [.resolve resolved.id saleId call.now, .setStatus saleId .failedRetryable] visible
  have opens : exec reference call.context
      (contents commits ++ [.resolve resolved.id saleId call.now, .setStatus saleId .failedRetryable])
      (.readOpenDeadletter saleId.text) = .ok ((deadlettersOf (contents commits ++
                  [.resolve resolved.id saleId call.now, .setStatus saleId .failedRetryable])).find?
            fun row => row.opens saleId && some row.tenantId = call.context.tenant, []) := by
    simp [exec, castUuid_text]
  unfold repairSaleSync runWithTenantContext
  rw [if_pos tenant]
  exact ⟨_, _, does_bind reads (does_bind (does_throwWhen (by simp [status])) (does_bind
    (does_query resolves) (does_bind (does_throwWhen rfl) (does_bind (does_query requeues) (does_bind
      (does_readSaleStatusRow visibleAfter) (does_bind (does_query opens) (does_done _)))))))⟩

theorem listNeedsRepair_items {input : ListNeedsRepairInput} {log : Log} {page : NeedsRepairPage}
    (alone : Alone (salesServer reference) commits call [] (listNeedsRepair input) log page)
    {item : NeedsRepairItem} (listed : item ∈ page.items) :
    Uuid.isUuid input.tenantId = true ∧
      ∃ deadletter sale, deadletter ∈ deadlettersOf (contents commits) ∧ deadletter.saleId = item.saleRef ∧
      deadletter.classification = .needsRepair ∧ deadletter.isOpen = true ∧
      some deadletter.tenantId = call.context.tenant ∧
      visibleSale call.context (contents commits) item.saleRef = some sale := by
  have ends := alone.toCompletes
  have tenant : Uuid.isUuid input.tenantId = true := by
    by_contra wrong
    unfold listNeedsRepair runWithTenantContext at ends
    rw [if_neg wrong] at ends
    exact not_completes_fail ends
  refine ⟨tenant, ?_⟩
  obtain ⟨rows, first, rest, rfl, asked, ends⟩ := completes_bind (runWithTenantContext_completes ends)
  obtain ⟨rfl, rfl⟩ := completes_done ends
  obtain ⟨seen, writes, rfl, -, ran, -⟩ := query_completes asked
  obtain rfl := alone.now seen (by simp [seens, Entry.seen])
  rw [take_length, append_nil] at ran
  obtain ⟨storeId, -, ran⟩ := bind_ok ran
  obtain ⟨cursor, -, ran⟩ := bind_ok ran
  cases ran
  obtain ⟨row, shown, rfl⟩ := mem_map.1 listed
  have inQueue := mem_of_mem_take shown
  rw [needsRepairRows, mem_insertionSort, mem_filterMap] at inQueue
  obtain ⟨deadletter, known, matched⟩ := inQueue
  split_ifs at matched with open'
  obtain ⟨sale, visible, same⟩ := map_eq_some_iff.1 matched
  obtain ⟨visible, -⟩ := filter_eq_some_iff.1 visible
  simp only [and_eq_true, decide_eq_true_eq] at open'
  subst same
  exact ⟨deadletter, sale, known, rfl, open'.1.1.1, open'.1.1.2, open'.1.2, visible⟩

end Queue

/-! ### Runs -/

section Runs

variable {reference : Reference} {config : Config}

/-- **Every sale waits for a repair exactly when its status says so, while drains spare the sales that
wait and no needs-repair quarantine finds its sale synced.** -/
theorem waits_as_status (reach : Reachable reference config)
    (drains : Passes drainSparesRepairs config = true)
    (quarantines : Passes quarantineSparesSynced config = true) : WaitsAsStatus config.ledger := by
  refine prefix_induction (fun before => WaitsAsStatus (contents before))
    (fun _ none => by cases none) (fun before commit after commits agree => ?_) config.commits []
    (append_nil _).symm
  obtain ⟨pid, writes⟩ := commit
  obtain ⟨proc, value, found, -, wrote, kept⟩ := Reachable.commit_of reach commits
  have deed := kept.deed
  rw [← wrote] at deed
  have anchored := reach.anchored commits
  have fresh := reach.fresh commits
  rw [contents_append, contents_cons, contents_nil, append_nil]
  cases deed with
  | idle => rwa [append_nil]
  | captured op capture =>
    refine agree.captured anchored capture.status fun other there same => ?_
    have apart := fresh _ there _ mem_cons_self
    simp [collide, same] at apart
  | ended terminal =>
    refine agree.append (fun row => by simp) (fun row inside => by simp at inside)
      (fun id other resolvedAt => by simp) fun write inside => ?_
    simp only [mem_cons, not_mem_nil, or_false] at inside
    rcases inside with rfl | rfl
    · rfl
    · rfl
  | @processed job row mismatchFlag event process unprocessed =>
    obtain ⟨seen, early, answered, there, -⟩ := process.updated
    have spared := status_ne there (Passes.entry drains commits found answered early)
    rw [← after_seen kept.held answered mem_cons_self rfl] at spared
    refine agree.processed fun other known same => ?_
    rwa [reach.one_sale (mem_ledger commits known) (mem_ledger commits (contents_take there)) same]
  | @quarantined input deadletter sale quarantine about closed advance unsynced =>
    refine agree.quarantined quarantine.isOpen (fun other resolvedAt inside => ?_) closed ?_
    · obtain ⟨row, known, same, -⟩ := anchored.resolved _ _ _ inside
      have apart := fresh _ known _ mem_cons_self
      simp [collide, same] at apart
    · rw [quarantine.classification]
      exact needsRepair_iff input.condition
  | @overtaken input deadletter sale quarantine about closed overtaken order =>
    refine agree.append (fun row => by simp) (fun row inside => ?_)
      (fun id other resolvedAt => by simp) fun write inside => ?_
    · have same : row = deadletter := by simpa using inside
      rw [same, quarantine.classification, Ne, needsRepair_iff]
      intro needs
      obtain ⟨seen, early, answered, there, synced⟩ := overtaken
      have spared := Passes.entry quarantines commits found answered early
      rw [show input.target = .failedNeedsRepair from needs] at spared
      simp only [quarantineSparesSynced, quarantine.sale, all_some, ← about] at spared
      exact status_ne there spared synced
    · rw [mem_singleton.1 inside]
      rfl
  | @repaired saleId row deadletter repair isOpen =>
    obtain ⟨seen, -, -, there, -⟩ := repair.resolved
    refine agree.repaired anchored (contents_take there) repair.about isOpen ?_
    intro other known same
    exact reach.one_deadletter (mem_ledger commits known) (mem_ledger commits (contents_take there)) same

/-- **In such a run a sale has an open needs-repair dead letter exactly when its status is
`failed-needs-repair`, and the repair accepts whatever the list shows.** -/
theorem repair_queue_sound (reachable : Reachable reference config)
    (drains : Passes drainSparesRepairs config = true)
    (quarantines : Passes quarantineSparesSynced config = true) :
    (∀ sale ∈ salesOf config.ledger, WaitsForRepair config.ledger sale.id ↔
        sale.syncStatus = .failedNeedsRepair) ∧
      ∀ (now now' : Int) (input : ListNeedsRepairInput) (log : Log) (page : NeedsRepairPage),
      Alone (salesServer reference) config.commits ⟨now, .listNeedsRepair input⟩ [] (listNeedsRepair input)
      log page →
      ∀ item ∈ page.items, ∃ log' body,
      Alone (salesServer reference) config.commits ⟨now', .repairSaleSync input.tenantId item.saleRef.text⟩ []
      (repairSaleSync input.tenantId item.saleRef.text) log' body := by
  have agree := waits_as_status reachable drains quarantines
  constructor
  · intro sale mem
    obtain ⟨row, added, rfl⟩ := mem_salesOf.1 mem
    rw [Sale.after_id]
    exact agree row added
  · intro now now' input log page alone item listed
    obtain ⟨tenant, deadletter, sale, known, about, needs, isOpen, mine, visible⟩ :=
      listNeedsRepair_items alone listed
    obtain ⟨row, added, rfl, id, -⟩ := visibleSale_some visible
    have status := (agree row added).1 ⟨deadletter, known, about.trans id.symm, needs, isOpen⟩
    obtain ⟨body, writes, log', taken, -⟩ := @repair_accepts reference config.commits
      ⟨now', .repairSaleSync input.tenantId item.saleRef.text⟩ input.tenantId item.saleRef _
      deadletter tenant visible status known about needs isOpen mine
    exact ⟨log', body, taken⟩

end Runs

theorem repairRuns :
    (run (salesServer sampleReference)
        (captureEvents ++ quarantineEvents .validationFailure ++ drainEvents 2)).any
      (fun config => (salesOf config.ledger).any fun sale => sale.syncStatus =
        .synced &&
        (deadlettersOf config.ledger).any fun deadletter => deadletter.saleId =
        sale.id && deadletter.classification = .needsRepair && deadletter.isOpen) = true ∧
      (run (salesServer sampleReference) (captureEvents ++ quarantineEvents .validationFailure)).any
      (fun config => Passes drainSparesRepairs config = true ∧ Passes quarantineSparesSynced config = true) =
      true := by
  decide +kernel

/-- **A drain leaves the open dead letter of a sale that waited for a repair.** -/
theorem drained_still_waits :
    ∃ config, Reachable sampleReference config ∧
      ¬
      ∀ sale ∈ salesOf config.ledger, WaitsForRepair config.ledger sale.id ↔
      sale.syncStatus = .failedNeedsRepair := by
  have ran := repairRuns.1
  obtain ⟨config, ran, seen⟩ := (any_eq_true _ _).1 ran
  refine ⟨config, run_reachable _ ran, fun agree => ?_⟩
  obtain ⟨sale, mem, holds⟩ := List.any_eq_true.1 seen
  rw [and_eq_true, decide_eq_true_eq] at holds
  obtain ⟨deadletter, known, waits⟩ := List.any_eq_true.1 holds.2
  simp only [and_eq_true, decide_eq_true_eq] at waits
  have status := (agree sale mem).1 ⟨deadletter, known, waits.1.1, waits.1.2, waits.2⟩
  rw [holds.1] at status
  cases status

theorem repair_queue_sound_sample :
    ∃ config,
      run (salesServer sampleReference) (captureEvents ++ quarantineEvents .validationFailure) = some config ∧
      (∀ sale ∈ salesOf config.ledger, WaitsForRepair config.ledger sale.id ↔
          sale.syncStatus = .failedNeedsRepair) ∧
      ∀ (now now' : Int) (input : ListNeedsRepairInput) (log : Log) (page : NeedsRepairPage),
      Alone (salesServer sampleReference) config.commits ⟨now, .listNeedsRepair input⟩ []
      (listNeedsRepair input) log page →
      ∀ item ∈ page.items, ∃ log' body, Alone (salesServer sampleReference) config.commits
      ⟨now', .repairSaleSync input.tenantId item.saleRef.text⟩ []
      (repairSaleSync input.tenantId item.saleRef.text) log' body := by
  have ran := repairRuns.2
  obtain ⟨config, ran, seen⟩ := (any_eq_true _ _).1 ran
  obtain ⟨drains, quarantines⟩ := of_decide_eq_true seen
  exact ⟨config, ran, repair_queue_sound (run_reachable _ ran) drains quarantines⟩

end DataPulse.Sales
