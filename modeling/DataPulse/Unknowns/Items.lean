/-
**The life of an unknown item.**

`ItemsHold` is what the captures, reconciliations, dismissals and reopenings of a run ought to satisfy;
`items_hold` says that they do, with one exception by design: a bulk dismissal that throws keeps the
dismissals it had made (`bulk_keeps_dismissals`). Each of its dismissals by itself is all or nothing.
-/

import DataPulse.Unknowns.Runs

namespace DataPulse.Unknowns

open Lib Lib.Interleave Platform

/-! ### Aliases at their commit -/

variable {reference : Reference} {config : Config} {pid : Nat} {writes : List Write}
  {before after : List (Nat × List Write)} {body : Body}

section Aliases

variable {commits : List (Nat × List Write)}
variable {call : Call} {row : Alias} {log : Log}

theorem Effect.retires (effect : Effect commits call log body writes) {id : Uuid} {retiredAt : Int}
    (mem : .retireAlias id retiredAt ∈ writes) :
    (∃ row, .alias row ∈ contents commits ∧ row.id = id) ∧ ∀ row, .alias row ∉ writes := by
  cases effect with
  | quiet unsettled locks => cases locks _ mem
  | @retireAlias row retiredAt' here =>
    cases mem_singleton.1 mem
    exact ⟨⟨row, here, rfl⟩, fun row inside => by cases mem_singleton.1 inside⟩
  | reopened entered => simp at mem
  | reconciled holds names entered names' answers =>
    obtain ⟨product, -, -, ⟨rfl, -⟩ | rfl⟩ := names
    · simp at mem
    · simp at mem
  | _ => cases mem_singleton.1 mem

theorem Effect.aliased (effect : Effect commits call log body writes) (mem : .alias row ∈ writes) :
    (∃ seen, AliasEntered commits call log row seen) ∧ ∀ other, .alias other ∈ writes → other = row := by
  cases effect with
  | quiet unsettled locks => cases locks _ mem
  | «alias» entered =>
    cases mem_singleton.1 mem
    exact ⟨⟨_, entered⟩, fun other inside => Write.alias.inj (mem_singleton.1 inside)⟩
  | reopened entered => simp at mem
  | reconciled holds names entered names' answers =>
    obtain ⟨product, -, -, ⟨rfl, -⟩ | rfl⟩ := names
    all_goals
      simp only [cons_append, nil_append, mem_cons, not_mem_nil, or_false,
        Write.alias.injEq, reduceCtorEq, false_or] at mem ⊢
      subst mem
      exact ⟨⟨_, entered⟩, fun other same => same⟩
  | _ => cases mem_singleton.1 mem

/-- **A new alias is active after its commit.** -/
theorem Reachable.active_of_entered (reach : Reachable reference config)
    (commits : config.commits = before ++ (pid, writes) :: after) (mem : .alias row ∈ writes) :
    row.after (contents before ++ writes) = row := by
  obtain ⟨proc, body, -, -, effect, -, -⟩ := reach.effect commits
  refine foldl_fixed fun write inside => ?_
  unfold Alias.apply
  split
  swap
  · rfl
  rename_i id retiredAt
  refine if_neg fun same => ?_
  rcases mem_append.1 inside with old | new
  · -- what was retired before has another id
    obtain ⟨pid', writes', commit, inside⟩ := mem_contents.1 old
    obtain ⟨prior, later, split⟩ := append_of_mem commit
    have commits' : config.commits = prior ++ (pid', writes') :: (later ++ (pid, writes) :: after) := by
      rw [commits, split, append_assoc, cons_append]
    obtain ⟨_, _, -, -, effect', -, -⟩ := reach.effect commits'
    obtain ⟨⟨other, there, id'⟩, -⟩ := effect'.retires inside
    have apart := reach.fresh commits (by
      rw [split, contents_append]
      exact mem_append_left _ there) mem
    simp [sameRow, Write.rowKey, same, id'] at apart
  · exact (effect.retires new).2 row mem

end Aliases

/-! ### Calls that do not report success -/

section Success

variable {more : List Write}
variable {result : Except Thrown Body}

theorem Reconciles.succeeds {itemId productId : Uuid} {op : Operation} {action : ResolutionAction}
    (reconciles : Reconciles itemId productId op body action) : succeeds (.ok body) = true := by
  cases reconciles with
  | linked item product | created item => rfl

/-- **Only a call that reports success writes more than locks.** -/
theorem Effect.succeeds_or_locks {commits : List (Nat × List Write)} {call : Call} {log : Log}
    (effect : Effect commits call log body writes) :
    succeeds (.ok body) = true ∨ ∀ write ∈ writes, write.isLock = true := by
  cases effect with
  | quiet unsettled locks => exact .inr locks
  | reconciled holds names entered names' answers => exact .inl answers.succeeds
  | _ => exact .inl rfl

theorem reported_of_succeeds (success : succeeds result = true) : ∃ body, report result = .ok body := by
  unfold succeeds at success
  split at success
  · exact ⟨_, ‹_›⟩
  · cases success

/-- The writes leave items, products and aliases as they are. -/
structure Unchanged (before writes : List Write) : Prop where
  items : itemsOf (before ++ writes) = itemsOf before
  products : productsOf (before ++ writes) = productsOf before
  aliases : aliasesOf (before ++ writes) = aliasesOf before

theorem Write.eq_lock {write : Write} (lock : write.isLock = true) : ∃ id, write = .lock id := by
  cases write with
  | lock id => exact ⟨id, rfl⟩
  | _ => cases lock

theorem unchanged_of_locks (locks : ∀ write ∈ more, write.isLock = true) : Unchanged writes more := by
  have nothing : ∀ {Row : Type} (select : Write → Option Row), (∀ write, write.isLock = true →
        select write = none) → (writes ++ more).filterMap select = writes.filterMap select := by
    intro Row select skips
    rw [filterMap_append, List.filterMap_eq_nil_iff.2 fun write mem => skips write (locks write mem),
      append_nil]
  have products : ∀ row : Product, row.after (writes ++ more) = row.after writes := by
    intro row
    unfold Product.after
    rw [foldl_append]
    refine foldl_fixed fun write mem => ?_
    obtain ⟨id, rfl⟩ := Write.eq_lock (locks write mem)
    rfl
  have aliases : ∀ row : Alias, row.after (writes ++ more) = row.after writes := by
    refine fun row => Alias.after_own fun write mem id retiredAt same => ?_
    have lock := locks write mem
    rw [same] at lock
    cases lock
  refine ⟨?_, ?_, ?_⟩
  · unfold itemsOf insertedItems
    rw [nothing _ (by rintro write lock; obtain ⟨id, rfl⟩ := Write.eq_lock lock; rfl)]
    exact map_congr_left fun row _ => UnknownItem.after_locks locks
  · unfold productsOf insertedProducts
    rw [nothing _ (by rintro write lock; obtain ⟨id, rfl⟩ := Write.eq_lock lock; rfl)]
    exact map_congr_left fun row _ => products row
  · unfold aliasesOf insertedAliases
    rw [nothing _ (by rintro write lock; obtain ⟨id, rfl⟩ := Write.eq_lock lock; rfl)]
    exact map_congr_left fun row _ => aliases row

theorem Reachable.all_or_nothing (reach : Reachable reference config) {proc : Proc}
    (found : config.procs[pid]? = some proc) (ended : proc.result = some result)
    (unsuccessful : succeeds result = false) (commits : config.commits = before ++ (pid, writes) :: after) :
    Unchanged (contents before) writes := by
  obtain ⟨proc', body, found', gave, effect, -, -⟩ := reach.effect commits
  obtain rfl := mem_unique found found'
  obtain rfl := mem_unique ended gave
  rcases effect.succeeds_or_locks with success | locks
  · rw [unsuccessful] at success
    cases success
  · exact unchanged_of_locks locks

end Success

/-! ### What holds of a run -/

/-- Some item, product and alias stand behind an item that a commit reconciles. -/
def Backed (before writes : List Write) (itemId productId : Uuid) : Prop :=
  ∃ item ∈ itemsOf before, item.id = itemId ∧ item.isPending = true ∧
    (∃ product ∈ productsOf (before ++ writes), product.id = productId ∧
      product.tenantId = item.tenantId) ∧
    ∃ row ∈ aliasesOf (before ++ writes), row.isActive = true ∧ row.productId = productId ∧
      row.tenantId = item.tenantId ∧ row.identifier = item.identifier ∧
      row.storeId = some item.storeId

/-- **What the calls of a run ought to leave behind.** -/
structure ItemsHold (config : Config) : Prop where
  once : ∀ id, updates config.ledger id ≤ 1
  frozen : ∀ before after, config.commits = before ++ after →
    ∀ row, .item row ∈ contents before → (row.after (contents before)).isPending = false →
      row.after config.ledger = row.after (contents before)
  backed : ∀ before pid writes after, config.commits = before ++ (pid, writes) :: after →
    ∀ itemId action productId actor resolvedAt,
      .resolve itemId action productId actor resolvedAt ∈ writes →
        Backed (contents before) writes itemId productId
  unchanged : ∀ (pid : Nat) (proc : Proc) (result : Except Thrown Body),
    config.procs[pid]? = some proc → proc.result = some result → succeeds result = false →
      ∀ before writes after, config.commits = before ++ (pid, writes) :: after →
        Unchanged (contents before) writes
  bulk : ∀ (input : BulkInput) (ids : List Uuid) (pids : List Nat)
    (outcomes : Except Thrown (List BulkDismissOutcome)), BulkCall config input ids pids outcomes →
      ∀ before pid writes after, config.commits = before ++ (pid, writes) :: after → pid ∈ pids →
        Unchanged (contents before) writes ∨
          ∃ id ∈ ids, ∃ resolvedAt, writes = [.dismiss id input.actorUserId resolvedAt]

section Claims

variable {input : DismissInput}

/-- **What a commit reconciles is pending, and has its product and its alias.** -/
theorem Reachable.backed (reach : Reachable reference config)
    (commits : config.commits = before ++ (pid, writes) :: after) {itemId productId actor : Uuid}
    {action : ResolutionAction} {resolvedAt : Int}
    (mem : .resolve itemId action productId actor resolvedAt ∈ writes) :
    Backed (contents before) writes itemId productId := by
  obtain ⟨item, there, same, pending⟩ := reach.pending_of_update commits mem rfl
  obtain ⟨proc, body, -, -, effect, -, -⟩ := reach.effect commits
  have entered : ∀ row, .alias row ∈ writes → row ∈ aliasesOf (contents before ++ writes) :=
    fun row inside => mem_aliasesOf.2 ⟨row, mem_append_right _ inside, reach.active_of_entered commits inside⟩
  revert mem entered
  cases effect with
  | quiet unsettled locks => exact fun mem => by cases locks _ mem
  | reopened _ => exact fun mem => by simp at mem
  | @reconciled item' added action' productId' actor' resolvedAt' products body seen seen' holds
      names entered' facts answers =>
      intro mem entered
      obtain ⟨product, id, tenant, origin⟩ := names
      have mine : itemId = item'.id ∧ productId = productId' := by
        obtain ⟨rfl, -⟩ | rfl := origin
        · simp at mem
          exact ⟨mem.1, mem.2.2.1⟩
        · simp at mem
          exact ⟨mem.1, mem.2.2.1⟩
      obtain ⟨rfl, rfl⟩ := mine
      obtain rfl :=
        reach.one_item (mem_ledger commits there) (mem_ledger commits (contents_take holds.present))
          same
      refine ⟨_, mem_itemsOf.2 ⟨item, there, rfl⟩, UnknownItem.after_id, pending, ?_, ?_⟩
      · refine ⟨_, mem_productsOf.2 ⟨product, ?_, rfl⟩, Product.after_id.trans id,
          Product.after_tenantId.trans (tenant.trans UnknownItem.after_tenantId.symm)⟩
        obtain ⟨rfl, old⟩ | rfl := origin
        · exact mem_append_left _ old
        · simp
      · refine ⟨added, entered added (by simp), by simp [Alias.isActive, entered'.active], facts.1, ?_⟩
        simp only [UnknownItem.after_tenantId, UnknownItem.after_identifier, UnknownItem.after_storeId]
        exact ⟨facts.2.2.2, facts.2.1, facts.2.2.1⟩
  | _ => exact fun mem => by cases mem_singleton.1 mem

theorem dismissUnknownItem_written {commits : List (Nat × List Write)} {call : Call} {log : Log}
    {result : DismissResult}
    (ends : Completes (unknownsServer reference) commits call [] (dismissUnknownItem input) log result) :
    written log = [] ∨ written log = [.dismiss input.id input.actorUserId call.context.now] := by
  obtain ⟨updated, seen, writes, rest₁, rfl, -, ran, logged, ends⟩ := query_then ends
  have reads : WritesOnly (unknownsServer reference) (fun _ => False) (clientQuery (.itemStatus input.id)) := by
    refine writesOnly_query fun call view reply wrote read => ?_
    obtain ⟨-, rfl⟩ := ok_inj read
    exact fun _ none => by cases none
  rw [written_append, logged.written]
  obtain ⟨rfl, rfl⟩ | ⟨_, -, -, -, -, rfl, rfl⟩ := updateItem_ok ran
  · obtain ⟨status, log₂, rest₂, rfl, reading, ends⟩ := completes_bind ends
    rw [written_append, reads.nothing reading]
    split_ifs at ends
    · obtain ⟨rfl, -⟩ := completes_done ends
      exact .inl rfl
    · obtain ⟨rfl, -⟩ := completes_done ends
      exact .inl rfl
  · obtain ⟨rfl, -⟩ := completes_done ends
    exact .inr rfl

theorem Reachable.dismissal (reach : Reachable reference config) {proc : Proc}
    (found : config.procs[pid]? = some proc) (called : proc.call.operation = .dismiss input)
    (commits : config.commits = before ++ (pid, writes) :: after) :
    Unchanged (contents before) writes ∨
      ∃ resolvedAt, writes = [.dismiss input.id input.actorUserId resolvedAt] := by
  obtain ⟨proc', body, found', -, rfl, ends, -, -⟩ := reach.commit_of clash_comm commits
  obtain rfl := mem_unique found found'
  have program : (unknownsServer reference).program proc.call = Operation.program (.dismiss input) :=
    congrArg Operation.program called
  rw [program] at ends
  obtain ⟨result, log₁, rest₁, split, ran, ends⟩ := completes_bind ends
  obtain ⟨rfl, -⟩ := completes_done ends
  rw [split, append_nil]
  rcases dismissUnknownItem_written ran with nothing | wrote
  · rw [nothing]
    exact .inl (unchanged_of_locks fun _ none => by cases none)
  · exact .inr ⟨_, wrote⟩

theorem BulkCall.dismissals {input : BulkInput} {ids : List Uuid} {pids : List Nat}
    {outcomes : Except Thrown (List BulkDismissOutcome)} (bulk : BulkCall config input ids pids outcomes)
    (member : pid ∈ pids) :
    ∃ id ∈ ids, ∃ result, Ended config pid (.dismiss (input.dismissal id)) result := by
  induction bulk with
  | done => cases member
  | throws ended =>
    rw [mem_singleton.1 member]
    exact ⟨_, mem_cons_self, _, ended⟩
  | dismissed ended reported rest ih | alreadyReconciled ended reported showed rest ih
  | notFound ended reported rest ih =>
    rcases mem_cons.1 member with rfl | member
    · exact ⟨_, mem_cons_self, _, ended⟩
    · exact (ih member).imp fun id later => ⟨mem_cons_of_mem _ later.1, later.2⟩

/-- **In every interleaving of the calls, items are resolved or dismissed once and for good.** -/
theorem items_hold (reachable : Reachable reference config) : ItemsHold config where
  once :=
  reachable.updated_once
  frozen before after commits row member reconciled := reachable.frozen commits member reconciled
  backed before pid writes after commits itemId action productId actor resolvedAt member :=
    reachable.backed commits member
  unchanged pid proc result found ended unsuccessful before writes after commits :=
    reachable.all_or_nothing found ended unsuccessful commits
  bulk input ids pids outcomes bulk before pid writes after commits member := by
    obtain ⟨id, inside, result, proc, found, called, ended⟩ := bulk.dismissals member
    exact (reachable.dismissal found called commits).imp_right fun dismissed => ⟨id, inside, dismissed⟩

end Claims

/-! ### Runs of two items -/

theorem barcode_unsourced : (none : Option String).isSome = decide (IdentifierType.barcode = .externalPosId) :=
  rfl

def sampleCapture (value : String) (sized : 1 ≤ value.length ∧ value.length ≤ 200) :
    CaptureItemInput where
  tenantId := sample 0
  storeId := sample 1
  identifier := ⟨.barcode, value, none, sized, barcode_unsourced⟩
  saleContext := none
  correlationId := sample 2

def captureEvents (pid : Nat) (id : Uuid) (input : CaptureItemInput) : List (Event Uuid PgError Call) :=
  [.start ⟨1, .captureItem input⟩, .draw pid id, .ask pid, .ask pid, .ask pid, .stop pid none]

def sampleBulk : BulkInput := ⟨sample 0, none, sample 3, [sample 4, sample 5]⟩

/-- Another service creates a product, and an item is linked with it. -/
def linkEvents (pid : Nat) : List (Event Uuid PgError Call) :=
  [.start ⟨2, .change (sample 0) (.product ⟨sample 6, sample 0, "tea", "std", none,
      sample 3⟩)⟩, .ask pid, .stop pid none,
    .start ⟨3, .link ⟨sample 0, none, sample 4, sample 6, sample 3⟩⟩,
    .ask (pid + 1), .ask (pid + 1), .draw (pid + 1) (sample 7), .ask (pid + 1), .ask (pid + 1),
    .stop (pid + 1) none]

def anyReference : Reference := ⟨fun _ => true, fun _ => true, fun _ => true⟩

theorem items_hold_sample :
    ∃ config, run (unknownsServer anyReference)
      (captureEvents 0 (sample 4) (sampleCapture "4006381" (by decide)) ++
        captureEvents 1 (sample 5) (sampleCapture "5410228" (by decide)) ++ linkEvents 2) = some config ∧
      config.commits.length = 4 ∧ ItemsHold config := by
  have ran : (run (unknownsServer anyReference)
        (captureEvents 0 (sample 4) (sampleCapture "4006381" (by decide)) ++
        captureEvents 1 (sample 5) (sampleCapture "5410228" (by decide)) ++
        linkEvents 2)).any (fun config => config.commits.length = 4) = true := by
    decide +kernel
  obtain ⟨config, ran, seen⟩ := (any_eq_true _ _).1 ran
  exact ⟨config, ran, of_decide_eq_true seen, items_hold (run_reachable _ ran)⟩

/-- Two dismissals of a bulk call, of which the server fails the second. -/
def bulkEvents (pid : Nat) : List (Event Uuid PgError Call) :=
  [.start ⟨2, .dismiss (sampleBulk.dismissal (sample 4))⟩, .ask pid, .stop pid none,
    .start ⟨3, .dismiss (sampleBulk.dismissal (sample 5))⟩,
    .outage (pid + 1) (.plain (.other "40001")), .stop (pid + 1) none]

/-- **A bulk dismissal that throws keeps the dismissals it had made.** -/
theorem bulk_keeps_dismissals :
    ¬
      ∀ config, Reachable anyReference config →
      ∀ input ids pids error, BulkCall config input ids pids (.error error) →
      ∀ before pid writes after, config.commits = before ++ (pid, writes) :: after → pid ∈ pids →
      Unchanged (contents before) writes := by
  intro unchanged
  have ran : (run (unknownsServer anyReference)
        (captureEvents 0 (sample 4) (sampleCapture "4006381" (by decide)) ++
        captureEvents 1 (sample 5) (sampleCapture "5410228" (by decide)) ++
        bulkEvents 2)).any (fun config =>
          config.commits.drop 2 = [(2, [.dismiss (sample 4) (sample 3) 2])] &&
          (config.procs[2]?.any fun proc =>
            proc.call.operation = .dismiss (sampleBulk.dismissal (sample 4)) && proc.result.any succeeds) &&
          (config.procs[3]?.any fun proc =>
            proc.call.operation = .dismiss (sampleBulk.dismissal (sample 5)) &&
              proc.result = some (.error (.pg (.plain (.other "40001"))))) &&
          itemsOf (contents (config.commits.take 2)) ≠ itemsOf (contents config.commits)) = true := by
    decide +kernel
  obtain ⟨config, ran, observed⟩ := (any_eq_true _ _).1 ran
  simp only [and_eq_true, decide_eq_true_eq] at observed
  obtain ⟨⟨⟨last, first⟩, second⟩, changed⟩ := observed
  obtain ⟨proc, found, first⟩ := (any_eq_true _ _).1 first
  obtain ⟨proc', found', second⟩ := (any_eq_true _ _).1 second
  simp only [and_eq_true, decide_eq_true_eq] at first second
  obtain ⟨result, ended, success⟩ := (any_eq_true _ _).1 first.2
  obtain ⟨body, reported⟩ := reported_of_succeeds success
  have bulk : BulkCall config sampleBulk [sample 4, sample 5] [2, 3] (.error (.pg (.plain (.other "40001")))) :=
    .dismissed ⟨proc, found, first.1, ended⟩ reported (.throws ⟨proc', found', second⟩ rfl nofun nofun)
  have commits : config.commits = config.commits.take 2 ++ (2, [.dismiss (sample 4) (sample 3) 2]) :: [] := by
    rw [← last, take_append_drop]
  have same := (unchanged config (run_reachable _ ran) _ _ _ _ bulk _ _ _ _ commits mem_cons_self).items
  refine changed (Eq.symm ?_)
  rw [← same, contents_split config.commits 2, last]
  rfl

end DataPulse.Unknowns
