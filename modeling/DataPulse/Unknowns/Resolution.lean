/-
**What a capture resolves to.**

A capture looks up an alias by the type and the value of its identifier; a reconciliation enters an alias
with the whole identifier, for the item's store.
-/

import DataPulse.Lib.Sorting
import DataPulse.Unknowns.Pending

namespace DataPulse.Unknowns

open Lib Lib.Interleave Platform

/-! ### The order of the look-up -/

instance : Std.Total Alias.ordered := by
  refine ⟨fun first second => ?_⟩
  unfold Alias.ordered
  cases first.storeId.isNone <;> cases second.storeId.isNone <;> simp [Int.le_total]

instance : IsTrans Alias Alias.ordered := by
  refine ⟨fun first second third => ?_⟩
  unfold Alias.ordered
  cases first.storeId.isNone <;> cases second.storeId.isNone <;> cases third.storeId.isNone <;>
    simp
  all_goals exact fun earlier later => Int.le_trans later earlier

/-! ### One active alias for a key -/

variable {reference : Reference} {config : Config} {before after : List (Nat × List Write)}

section Aliases

variable {pid : Nat} {writes : List Write}

/-- **No active alias has the key of a new one.** -/
theorem Reachable.unrivalled (reach : Reachable reference config)
    (commits : config.commits = before ++ (pid, writes) :: after) {row other : Alias}
    (mem : .alias row ∈ writes) (there : .alias other ∈ contents before) (same : other.sameKey row = true) :
    (other.after (contents before)).isActive = false := by
  obtain ⟨proc, body, -, -, effect, held, -⟩ := reach.effect commits
  obtain ⟨⟨seen, entered⟩, -⟩ := effect.aliased mem
  obtain ⟨stmt, reply, answered⟩ := entered.answered
  rw [contents_split before seen] at there
  rcases mem_append.1 there with early | late
  · rw [contents_split before seen, Alias.after_append]
    exact Alias.after_retired (entered.unique other early same)
  · have apart := held _ _ _ _ answered _ late _ (mem_singleton_self _)
    rw [show (unknownsServer reference).clash (.alias other) (.alias row) =
      (decide (other.id = row.id) || other.sameKey row) from rfl, same, Bool.or_true] at apart
    cases apart

abbrev OneActive (writes : List Write) : Prop :=
  OneActiveOf Write.alias Alias.sameKey (fun writes row => (row.after writes).isActive) writes

variable (reach : Reachable reference config)
include reach

theorem OneActive.step (commits : config.commits = before ++ (pid, writes) :: after)
    (one : OneActive (contents before)) : OneActive (contents (before ++ [(pid, writes)])) := by
  rw [contents_append, contents_cons, contents_nil, append_nil]
  refine one.append (fun _ _ => Alias.sameKey_symm) (fun row active => ?_)
    (fun row other new old same => reach.unrivalled commits new old same) fun row other new new' => ?_
  · by_contra retired
    rw [Alias.after_append, Alias.after_retired (by simpa using retired)] at active
    cases active
  · obtain ⟨proc, body, -, -, effect, -, -⟩ := reach.effect commits
    exact ((effect.aliased new).2 other new').symm

/-- **No two active aliases share a key.** -/
theorem Reachable.one_active (commits : config.commits = before ++ after) : OneActive (contents before) := by
  refine prefix_induction (fun before => OneActive (contents before)) (fun _ _ none => by cases none)
    (fun before commit after commits one => ?_) before after commits
  obtain ⟨pid, writes⟩ := commit
  exact one.step reach commits

theorem Reachable.unscoped {row : Alias} (mem : .alias row ∈ config.ledger) :
    row.storeId = none ∨ row.identifier.identifierType ≠ .externalPosId := by
  obtain ⟨pid, writes, commit, mem⟩ := mem_contents.1 mem
  obtain ⟨before, after, split⟩ := append_of_mem commit
  obtain ⟨proc, body, -, -, effect, -, -⟩ := reach.effect split
  obtain ⟨⟨seen, entered⟩, -⟩ := effect.aliased mem
  exact entered.unscoped

/-- **An alias has one row.** -/
theorem Reachable.one_alias {first second : Alias} (inOne : .alias first ∈ config.ledger)
    (inTwo : .alias second ∈ config.ledger) (same : first.id = second.id) : first = second :=
  Write.alias.inj (eq_of_sameRow reach.collideFree inOne inTwo rfl (by rw [same]; rfl))

theorem Reachable.aliases_nodup (commits : config.commits = before ++ after) :
    (aliasesOf (contents before)).Nodup := by
  have free := reach.collideFree
  rw [Config.ledger, commits, contents_append] at free
  have ids : (insertedAliases (contents before)).Pairwise fun first second => first.id ≠ second.id := by
    refine List.Pairwise.filterMap _ ?_ (pairwise_append.1 free).1
    rintro first second apart row inOne other inTwo same
    cases first <;> cases inOne
    cases second <;> cases inTwo
    simp [sameRow, Write.rowKey, same] at apart
  refine pairwise_map.2 (ids.imp fun unlike same => unlike ?_)
  have id := congrArg Alias.id same
  rwa [Alias.after_id, Alias.after_id] at id

omit reach

end Aliases

/-! ### What a capture looks up -/

section Captures

variable {action : ResolutionAction} {result : CaptureItemResult} {productId itemId : Uuid}
  {operation : Operation} {proc : Proc} {body : Body}
variable {input : CaptureItemInput} {tenantId : Uuid}
variable {value : String} {hit : Alias} {seen : Nat} {log : Log}

/-- A capture looked for an alias once, and this is what it made of it. -/
structure Looked (config : Config) (proc : Proc) (input : CaptureItemInput)
    (result : CaptureItemResult) (seen : Nat) (hit : Option Alias) : Prop where
  early : seen ≤ config.commits.length
  asked : ∃ reply, Entry.answered (.resolveAlias input.tenantId input.identifier.identifierType
    input.identifier.value input.storeId) seen reply ∈ proc.log
  only : ∀ seen' reply, Entry.answered (.resolveAlias input.tenantId input.identifier.identifierType
    input.identifier.value input.storeId) seen' reply ∈ proc.log → seen' = seen
  found : (resolvingAliases proc.call.context (contents (config.commits.take seen)) input.tenantId
    input.identifier.identifierType input.identifier.value input.storeId).head? = hit
  answers : ∀ productId aliasId, result = .resolved productId aliasId ↔
    ∃ row, hit = some row ∧ row.productId = productId ∧ row.id = aliasId

/-- **Every capture that returned looked once.** -/
theorem Reachable.looked (reach : Reachable reference config) (mem : proc ∈ config.procs)
    (called : proc.call.operation = .captureItem input) (gave : proc.result = some (.ok (.captured result))) :
    ∃ seen hit, Looked config proc input result seen hit := by
  have goes := reach.finishes mem gave
  have program : (unknownsServer reference).program proc.call =
      Operation.program (.captureItem input) := congrArg Operation.program called
  rw [program] at goes
  have ends := (careful_bind (captureItem_careful input) fun result =>
    careful_done (Body.captured result)).completes goes
  obtain ⟨result', log', rest', split, ran, ended⟩ := completes_bind ends
  obtain ⟨rfl, same⟩ := completes_done ended
  cases same
  rw [append_nil] at split
  subst split
  obtain ⟨id, log₀, rest₀, split, drawing, ran⟩ := completes_bind ran
  obtain rfl := completes_newId drawing
  obtain ⟨hit, seen, writes, rest₁, rfl, early, went, logged, ran⟩ := query_then ran
  obtain ⟨found, rfl⟩ := ok_inj went
  simp only [written_drew, append_nil] at found
  have others : ∀ seen' reply, Entry.answered (.resolveAlias input.tenantId
      input.identifier.identifierType input.identifier.value input.storeId) seen' reply ∉ rest₁ := by
    intro seen' reply later
    cases hit with
    | some hit =>
      obtain ⟨rfl, -⟩ := completes_done ran
      cases later
    | none =>
      obtain ⟨old, log₂, rest₂, rfl, looking, ran⟩ := completes_bind ran
      obtain ⟨seen₂, writes₂, rfl, -, -, -⟩ := query_logged looking
      cases old with
      | some old =>
        obtain ⟨rfl, -⟩ := completes_done ran
        simp at later
      | none =>
        obtain ⟨added, log₃, rest₃, rfl, inserting, ran⟩ := completes_bind ran
        obtain ⟨seen₃, writes₃, rfl, -, executed₃, -⟩ := query_logged inserting
        obtain ⟨rfl, -, -, -⟩ := insertItem_ok executed₃
        obtain ⟨rfl, -⟩ := completes_done ran
        simp at later
  refine ⟨seen, hit, early, ⟨.ok (hit, []), by rw [split]; simp⟩, fun seen' reply inside => ?_, found,
    fun productId aliasId => ?_⟩
  · rw [split] at inside
    simp only [cons_append, nil_append, mem_cons, reduceCtorEq, false_or] at inside
    rcases inside with same | later
    · cases same
      rfl
    · exact absurd later (others seen' reply)
  · cases hit with
    | some hit =>
      obtain ⟨-, rfl⟩ := completes_done ran
      simp
    | none =>
      obtain ⟨old, log₂, rest₂, rfl, looking, ran⟩ := completes_bind ran
      refine ⟨fun same => ?_, ?_⟩
      swap
      · rintro ⟨_, nothing, _⟩
        cases nothing
      cases old with
      | some old =>
        rw [(completes_done ran).2] at same
        cases same
      | none =>
        obtain ⟨added, seen₃, writes₃, rest₃, rfl, -, executed₃, -, ran⟩ := query_then ran
        obtain ⟨rfl, -, -, -⟩ := insertItem_ok executed₃
        rw [(completes_done ran).2] at same
        cases same

theorem Looked.row (looked : Looked config proc input result seen (some hit)) :
    ∃ row, .alias row ∈ contents (config.commits.take seen) ∧
      row.after (contents (config.commits.take seen)) = hit ∧ hit.isActive = true ∧
      hit.tenantId = input.tenantId ∧ hit.identifier.identifierType = input.identifier.identifierType ∧
      hit.identifier.value = input.identifier.value ∧ hit.storeId.all (· = input.storeId) = true := by
  have inside := (head_least looked.found).1
  obtain ⟨known, holds⟩ := mem_filter.1 inside
  obtain ⟨row, there, rfl⟩ := mem_aliasesOf.1 known
  simp only [and_eq_true, decide_eq_true_eq] at holds
  exact ⟨row, there, rfl, holds.1.1.2, holds.1.1.1.1.1, holds.1.1.1.1.2, holds.1.1.1.2, holds.1.2⟩

/-! ### After a reconciliation -/

/-- **A reconciled identifier resolves to its product, for as long as the alias is active.** -/
def Linked (config : Config) : Prop :=
  ∀ (pid : Nat) (proc : Proc) (itemId productId : Uuid) (action : ResolutionAction) (body : Body),
    config.procs[pid]? = some proc → Reconciles itemId productId proc.call.operation body action →
    proc.result = some (.ok body) →
      ∃ before writes after item added, config.commits = before ++ (pid, writes) :: after ∧
        .item item ∈ contents before ∧ item.id = itemId ∧ .alias added ∈ writes ∧
        ∀ (capture : Proc) (input : CaptureItemInput) (result : CaptureItemResult),
          capture ∈ config.procs → capture.call.operation = .captureItem input →
          capture.result = some (.ok (.captured result)) → input.submits item →
          ∀ seen reply, Entry.answered (.resolveAlias input.tenantId input.identifier.identifierType
              input.identifier.value input.storeId) seen reply ∈ capture.log → before.length < seen →
            (added.after (contents (config.commits.take seen))).isActive = true →
              result = .resolved productId added.id

theorem Reconciles.reconciled (reconciles : Reconciles itemId productId operation body action) :
    body.reconciled = true := by
  cases reconciles with
  | linked item product | created item => rfl

theorem Reconciles.unique {itemId' productId' : Uuid} {action' : ResolutionAction}
    (first : Reconciles itemId productId operation body action)
    (second : Reconciles itemId' productId' operation body action') :
    itemId = itemId' ∧ productId = productId' := by
  cases first with
  | linked item product =>
    cases second with
    | linked item' product' => exact ⟨item.symm.trans item', product.symm.trans product'⟩
  | created item =>
    cases second with
    | created item' => exact ⟨item.symm.trans item', rfl⟩

theorem insertAliasFor_sound {actorUserId : Uuid} {item : UnknownItem} {onConflict : Service Bool}
    (refuses : ∀ log, ¬ Ends (unknownsServer reference) onConflict log (.ok true))
    (ends : Ends (unknownsServer reference) (insertAliasFor tenantId productId actorUserId item onConflict)
      log (.ok true)) : aborted log = false := by
  obtain ⟨id, log₀, rest₀, rfl, drawing, ends⟩ := returned_bind ends
  rw [aborted_append, careful_newId _ _ drawing, Bool.false_or]
  rcases ends_rescue ends with ⟨value, gave, -⟩ | ⟨error, first, second, -, -, handled⟩
  · exact careful_bind (careful_query _) (fun _ => careful_done true) _ _ gave
  · exfalso
    split_ifs at handled
    · exact refuses _ handled
    · cases (ends_fail handled).2

/-- **A call that reports an item as reconciled had no failed statement.** -/
theorem Reconciles.sound (reconciles : Reconciles itemId productId operation body action)
    (ends : Ends (unknownsServer reference) operation.program log (.ok body)) : aborted log = false := by
  cases reconciles with
  | @linked input row item product =>
    obtain ⟨result, first, last, rfl, ran, ended⟩ := returned_bind ends
    obtain ⟨rfl, same⟩ := ends_done ended
    cases same
    rw [append_nil]
    obtain ⟨old, log₁, rest₁, rfl, locking, ran⟩ := returned_bind ran
    rw [aborted_append, careful_query _ _ _ locking, Bool.false_or]
    cases old with
    | none => cases (ends_done ran).2
    | some old =>
      dsimp only at ran
      split_ifs at ran
      · cases (ends_done ran).2
      obtain ⟨found, log₂, rest₂, rfl, finding, ran⟩ := returned_bind ran
      rw [aborted_append, careful_query _ _ _ finding, Bool.false_or]
      cases found with
      | none => cases (ends_done ran).2
      | some found =>
        dsimp only at ran
        split_ifs at ran
        · cases (ends_done ran).2
        obtain ⟨added, log₃, rest₃, rfl, inserting, ran⟩ := returned_bind ran
        cases added with
        | false => cases (ends_done ran).2
        | true =>
          have entered := insertAliasFor_sound (fun log refused => by cases (ends_done refused).2) inserting
          rw [aborted_append, entered, Bool.false_or]
          obtain ⟨updated, log₄, rest₄, rfl, updating, ran⟩ := returned_bind ran
          rw [aborted_append, careful_query _ _ _ updating, Bool.false_or]
          cases updated with
          | none => cases (ends_fail ran).2
          | some updated =>
            obtain ⟨rfl, -⟩ := ends_done ran
            rfl
  | @created input row item =>
    refine careful_bind (careful_bind (careful_query _) fun old => ?_) (fun _ => careful_done _) _ _ ends
    cases old with
    | none => exact careful_done _
    | some old =>
      show Careful _ (if _ then _ else _)
      split_ifs
      · exact careful_done _
      refine careful_bind careful_newId fun productId => careful_bind (careful_query _) fun _ =>
        careful_bind (careful_bind careful_newId fun id => careful_rescue
          (careful_bind (careful_query _) fun _ => careful_done true) fun error => ?_) fun _ =>
            careful_bind (careful_query _) fun updated => ?_
      · show NeverReturns _ (if _ then _ else _)
        split_ifs
        · exact neverReturns_fail _
        · exact neverReturns_fail _
      · cases updated with
        | none => exact careful_fail _
        | some updated => exact careful_done _

theorem Reachable.reconciled (reach : Reachable reference config) {pid : Nat}
    (found : config.procs[pid]? = some proc)
    (reconciles : Reconciles itemId productId proc.call.operation body action)
    (gave : proc.result = some (.ok body)) :
    ∃ before writes after item added,
      config.commits = before ++ (pid, writes) :: after ∧ .item item ∈ contents before ∧ item.id = itemId ∧
      .alias added ∈ writes ∧ added.productId = productId ∧ added.identifier = item.identifier ∧
      added.storeId = some item.storeId ∧ added.tenantId = item.tenantId := by
  have ends := (reach.finishes (mem_of_getElem? found) gave).ends
  obtain ⟨before, after, commits⟩ := reach.committed found gave (reconciles.sound ends)
  obtain ⟨proc', body', found', returned', effect, -, -⟩ := reach.effect commits
  obtain rfl := mem_unique found found'
  cases mem_unique gave returned'
  have settled := reconciles.reconciled
  generalize written proc.log = writes at effect commits
  cases effect with
  | quiet unsettled locks =>
    rw [unsettled] at settled
    cases settled
  | reconciled holds names entered facts answers =>
    obtain ⟨rfl, rfl⟩ := reconciles.unique answers
    exact ⟨before, _, after, _, _, commits, contents_take holds.present, rfl, by simp,
      facts⟩
  | _ => cases settled

theorem Reachable.linked (reach : Reachable reference config) : Linked config := by
  intro pid proc itemId productId action body found reconciles gave
  obtain ⟨before, writes, after, item, added, commits, there, same, entered, product, identifier,
    store, tenant⟩ := reach.reconciled found reconciles gave
  refine ⟨before, writes, after, item, added, commits, there, same, entered, ?_⟩
  intro capture input result mem called answered submits seen reply asked later active
  obtain ⟨seen', hit, looked⟩ := reach.looked mem called answered
  obtain rfl := looked.only seen reply asked
  have prefixed : config.commits = config.commits.take seen ++ config.commits.drop seen :=
    (take_append_drop _ _).symm
  -- the alias is among the rows of the look-up
  have inside : .alias added ∈ contents (config.commits.take seen) := by
    refine mem_contents.2 ⟨pid, writes, ?_, entered⟩
    rw [commits, take_append]
    obtain ⟨more, length⟩ := Nat.exists_eq_add_of_lt later
    rw [show seen - before.length = more + 1 by omega]
    exact mem_append_right _ mem_cons_self
  obtain ⟨tenant', store', identifier'⟩ := submits
  have listed : added.after (contents (config.commits.take seen)) ∈
      resolvingAliases capture.call.context (contents (config.commits.take seen)) input.tenantId
        input.identifier.identifierType input.identifier.value input.storeId := by
    refine (mem_insertionSort _).2 (mem_filter.2 ⟨mem_aliasesOf.2 ⟨added, inside, rfl⟩, ?_⟩)
    simp [active, tenant, identifier, store, tenant', identifier', store', Call.context, Operation.tenant,
      called]
  cases hit with
  | none =>
    rw [head?_eq_none_iff.1 looked.found] at listed
    cases listed
  | some hit =>
    have least := (head_least looked.found).2 _ ((mem_insertionSort _).1 listed)
    obtain ⟨row, known, rfl, active', tenant'', type, value, scope⟩ := looked.row
    have first : row = added := by
      by_contra unlike
      have ordered := least fun equal => unlike (reach.one_alias
        (mem_ledger prefixed known) (mem_ledger prefixed inside) (by
          have id := congrArg Alias.id equal
          rwa [Alias.after_id, Alias.after_id, eq_comm] at id))
      refine unlike (reach.one_active prefixed row added known inside ?_ active' active)
      -- an alias of the store comes before those of the tenant, so the one found is of the store
      have bound : row.storeId = some input.storeId := by
        unfold Alias.ordered at ordered
        rw [Alias.after_storeId, Alias.after_storeId, store] at ordered
        rw [Alias.after_storeId] at scope
        cases given : row.storeId with
        | none =>
          rw [given] at ordered
          exact absurd ordered (by simp)
        | some owner =>
          rw [given] at scope
          exact congrArg some (by simpa using scope)
      rw [Alias.after_tenantId] at tenant''
      rw [Alias.after_identifier] at type value
      simp [Alias.sameKey, bound, store, tenant, tenant', tenant'', identifier, identifier', type, value, store']
    subst first
    refine (looked.answers productId row.id).2 ⟨_, rfl, ?_, Alias.after_id⟩
    rw [Alias.after_productId, product]

/-! ### The source system -/

/-- **A capture resolves through an active alias of its identifier, for its store or for all.** -/
def Matched (config : Config) : Prop :=
  ∀ (capture : Proc) (input : CaptureItemInput) (productId aliasId : Uuid),
    capture ∈ config.procs → capture.call.operation = .captureItem input →
    capture.result = some (.ok (.captured (.resolved productId aliasId))) →
      ∃ seen reply, Entry.answered (.resolveAlias input.tenantId input.identifier.identifierType
          input.identifier.value input.storeId) seen reply ∈ capture.log ∧
        ∃ row ∈ aliasesOf (contents (config.commits.take seen)), row.isActive = true ∧
          row.id = aliasId ∧ row.productId = productId ∧ row.tenantId = input.tenantId ∧
          row.identifier = input.identifier ∧ row.storeId.all (· = input.storeId) = true

/-- The active aliases of an external POS id, of any source system. -/
def posAliases (writes : List Write) (tenantId : Uuid) (value : String) : List Alias :=
  (aliasesOf writes).filter fun row => row.tenantId = tenantId &&
    row.identifier.identifierType = .externalPosId && row.identifier.value = value && row.isActive

/-- `created_at DESC`. -/
def Alias.newer (first second : Alias) : Prop := second.createdAt ≤ first.createdAt

/-- When a capture of an external POS id looks, the newest active alias of the value, if there is one, is
of the source system of the capture. -/
def Unambiguous (config : Config) : Prop :=
  ∀ (capture : Proc) (input : CaptureItemInput) (result : CaptureItemResult),
    capture ∈ config.procs → capture.call.operation = .captureItem input →
    capture.result = some (.ok (.captured result)) →
    input.identifier.identifierType = .externalPosId →
      ∀ seen reply, Entry.answered (.resolveAlias input.tenantId input.identifier.identifierType
          input.identifier.value input.storeId) seen reply ∈ capture.log →
        ∀ row, First Alias.newer (posAliases (contents (config.commits.take seen)) input.tenantId
            input.identifier.value) row →
          row.identifier.sourceSystem = input.identifier.sourceSystem

theorem Identifier.eq_of {first second : Identifier} (type : first.identifierType = second.identifierType)
    (value : first.value = second.value) (source : first.sourceSystem = second.sourceSystem) :
    first = second := by
  cases first
  cases second
  cases type
  cases value
  cases source
  rfl

theorem Identifier.unsourced {identifier : Identifier}
    (ordinary : identifier.identifierType ≠ .externalPosId) : identifier.sourceSystem = none := by
  have paired := identifier.paired
  rw [decide_eq_false ordinary] at paired
  cases given : identifier.sourceSystem with
  | none => rfl
  | some source =>
    rw [given] at paired
    cases paired

variable (reach : Reachable reference config)
include reach

variable (commits : config.commits = before ++ after)
include commits

theorem Reachable.pos_unscoped {row : Alias}
    (known : row ∈ aliasesOf (contents before)) (external : row.identifier.identifierType = .externalPosId) :
    row.storeId = none := by
  obtain ⟨added, there, rfl⟩ := mem_aliasesOf.1 known
  rw [Alias.after_storeId]
  rw [Alias.after_identifier] at external
  exact (reach.unscoped (mem_ledger commits there)).resolve_right fun other => other external

/-- **For an external POS id the look-up reads all active aliases of the value.** -/
theorem Reachable.resolving_pos {context : Context}
    {storeId : Uuid} :
    resolvingAliases context (contents before) context.tenant .externalPosId value storeId =
      (posAliases (contents before) context.tenant value).insertionSort Alias.ordered := by
  unfold resolvingAliases posAliases
  congr 1
  refine filter_congr fun row known => ?_
  rw [Bool.eq_iff_iff]
  simp only [and_eq_true, decide_eq_true_eq]
  constructor
  · rintro ⟨⟨⟨⟨⟨tenant, type⟩, value⟩, active⟩, -⟩, -⟩
    exact ⟨⟨⟨tenant, type⟩, value⟩, active⟩
  · rintro ⟨⟨⟨tenant, type⟩, value⟩, active⟩
    exact ⟨⟨⟨⟨⟨tenant, type⟩, value⟩, active⟩, by
      rw [reach.pos_unscoped commits known type]
      rfl⟩, tenant⟩

theorem Reachable.newest
    (head : ((posAliases (contents before) tenantId value).insertionSort Alias.ordered).head? = some hit) :
    First Alias.newer (posAliases (contents before) tenantId value) hit := by
  have first := head_first ((reach.aliases_nodup commits).filter _) head
  have wide : ∀ row ∈ posAliases (contents before) tenantId value, row.storeId = none := by
    intro row listed
    obtain ⟨known, holds⟩ := mem_filter.1 listed
    simp only [and_eq_true, decide_eq_true_eq] at holds
    exact reach.pos_unscoped commits known holds.1.1.2
  have ordered : ∀ first ∈ posAliases (contents before) tenantId value, ∀ second ∈ posAliases (contents before)
      tenantId value, first.ordered second ↔ first.newer second := by
    intro first one second two
    simp [Alias.ordered, Alias.newer, wide first one, wide second two]
  refine ⟨first.member, fun other inside unlike => ?_, fun other inside unlike newer => ?_⟩
  · exact (ordered hit first.member other inside).1 (first.least other inside unlike)
  · exact first.tied other inside unlike ((ordered other inside hit first.member).2 newer)

omit commits

theorem Looked.pos {hit : Option Alias} (looked : Looked config proc input result seen hit)
    (called : proc.call.operation = .captureItem input)
    (external : input.identifier.identifierType = .externalPosId) :
    ((posAliases (contents (config.commits.take seen)) input.tenantId input.identifier.value).insertionSort
        Alias.ordered).head? = hit := by
  have tenant : input.tenantId = proc.call.context.tenant := by
    simp [Call.context, Operation.tenant, called]
  have found := looked.found
  rw [external, tenant, reach.resolving_pos (take_append_drop seen _).symm] at found
  rw [tenant]
  exact found

omit reach

/-- **Captures resolve through aliases of their own identifier exactly when no capture of an external POS
id looks while the newest alias of the value is of another source system.** -/
theorem resolution_iff (reachable : Reachable reference config) :
    Linked config ∧ Matched config ↔ Unambiguous config := by
  constructor
  · rintro ⟨-, matched⟩ capture input result mem called gave external seen reply asked row newest
    obtain ⟨seen', hit, looked⟩ := reachable.looked mem called gave
    obtain rfl := looked.only seen reply asked
    have prefixed : config.commits = config.commits.take seen ++ config.commits.drop seen :=
      (take_append_drop _ _).symm
    have head := looked.pos reachable called external
    cases hit with
    | none =>
      have listed := (mem_insertionSort Alias.ordered).2 newest.member
      rw [head?_eq_none_iff.1 head] at listed
      cases listed
    | some hit =>
      obtain rfl := newest.unique ((reachable.aliases_nodup prefixed).filter _) (reachable.newest prefixed head)
      obtain rfl := (looked.answers row.productId row.id).2 ⟨row, rfl, rfl, rfl⟩
      obtain ⟨seen', reply', asked', other, known, -, id, -, -, identifier, -⟩ :=
        matched capture input _ _ mem called gave
      obtain rfl := looked.only seen' reply' asked'
      -- both rows of the table have the id that was answered
      obtain ⟨mine, there, rfl, -⟩ := looked.row
      obtain ⟨its, there', rfl⟩ := mem_aliasesOf.1 known
      rw [Alias.after_id, Alias.after_id] at id
      obtain rfl := reachable.one_alias (mem_ledger prefixed there') (mem_ledger prefixed there) id
      rw [identifier]
  · intro unambiguous
    refine ⟨reachable.linked, fun capture input productId aliasId mem called gave => ?_⟩
    obtain ⟨seen, hit, looked⟩ := reachable.looked mem called gave
    obtain ⟨row, rfl, product, id⟩ := (looked.answers productId aliasId).1 rfl
    obtain ⟨added, there, same, active, tenant, type, value, scope⟩ := looked.row
    obtain ⟨reply, asked⟩ := looked.asked
    refine ⟨seen, reply, asked, row, mem_aliasesOf.2 ⟨added, there, same⟩, active, id, product,
      tenant, Identifier.eq_of type value ?_, scope⟩
    by_cases external : input.identifier.identifierType = .externalPosId
    · exact unambiguous capture input _ mem called gave external seen reply asked row
        (reachable.newest (take_append_drop _ _).symm (looked.pos reachable called external))
    · rw [Identifier.unsourced external, Identifier.unsourced (type.trans_ne external)]

end Captures

/-! ### Two source systems with one value -/

def samplePosId (sourceSystem : String) : Identifier :=
  ⟨.externalPosId, "42", some sourceSystem, by decide, rfl⟩

/-- Another service creates a product with an alias for the POS id of one source system; a capture submits
the value for another one. -/
def crossingEvents : List (Event Uuid PgError Call) :=
  [.start ⟨1, .change (sample 0) (.product ⟨sample 6, sample 0, "tea", "std", none,
      sample 3⟩)⟩, .ask 0, .stop 0 none,
    .start ⟨2, .change (sample 0) (.alias ⟨sample 7, sample 0, sample 6,
      samplePosId "pos-a", none, sample 3⟩)⟩, .ask 1, .stop 1 none,
    .start ⟨3, .captureItem ⟨sample 0, sample 1, samplePosId "pos-b", none,
      sample 2⟩⟩, .draw 2 (sample 4), .ask 2, .stop 2 none]

/-- **A capture of one source system resolves through the alias of another.** -/
theorem resolved_across_sources : ∃ config, Reachable anyReference config ∧
    ¬ (Linked config ∧ Matched config) := by
  have ran : (run (unknownsServer anyReference) crossingEvents).any (fun config =>
      (config.procs[2]?.any fun proc =>
        proc.call.operation = .captureItem ⟨sample 0, sample 1, samplePosId "pos-b", none, sample 2⟩ &&
        proc.result = some (.ok (.captured (.resolved (sample 6) (sample 7))))) &&
      (insertedAliases config.ledger).all fun row => row.identifier.sourceSystem = some "pos-a") = true := by
    decide +kernel
  obtain ⟨config, ran, observed⟩ := (any_eq_true _ _).1 ran
  obtain ⟨resolved, sources⟩ := and_eq_true_iff.1 observed
  obtain ⟨proc, found, resolved⟩ := (any_eq_true _ _).1 resolved
  simp only [and_eq_true, decide_eq_true_eq] at resolved
  refine ⟨config, run_reachable _ ran, fun hold => ?_⟩
  obtain ⟨seen, reply, -, row, known, -, -, -, -, identifier, -⟩ :=
    hold.2 proc _ _ _ (mem_of_getElem? found) resolved.1 resolved.2
  obtain ⟨added, there, rfl⟩ := mem_aliasesOf.1 known
  have source :=
    all_eq_true.1 sources added (mem_insertedAliases.2 (mem_ledger (take_append_drop seen _).symm there))
  rw [decide_eq_true_eq, ← Alias.after_identifier, identifier] at source
  exact absurd source (by decide)

theorem resolution_sample :
    ∃ config, run (unknownsServer anyReference)
      (captureEvents 0 (sample 4) (sampleCapture "4006381" (by decide)) ++ linkEvents 1 ++
        [.start ⟨4, .captureItem (sampleCapture "4006381" (by decide))⟩, .draw 3 (sample 8), .ask 3, .stop 3
          none]) = some config ∧
      (config.procs[3]?.any fun proc => proc.result =
          some (.ok (.captured (.resolved (sample 6) (sample 7))))) = true ∧ Linked config ∧
      Matched config := by
  have ran : (run (unknownsServer anyReference)
      (captureEvents 0 (sample 4) (sampleCapture "4006381" (by decide)) ++ linkEvents 1 ++
        [.start ⟨4, .captureItem (sampleCapture "4006381" (by decide))⟩, .draw 3 (sample 8),
          .ask 3, .stop 3 none])).any (fun config =>
      (config.procs[3]?.any fun proc => proc.result = some (.ok (.captured (.resolved (sample 6) (sample 7)))))
        &&
      config.procs.all fun proc => match proc.call.operation with
        | .captureItem input => input.identifier.identifierType ≠ .externalPosId
        | _ => true) = true := by
    decide +kernel
  obtain ⟨config, ran, observed⟩ := (any_eq_true _ _).1 ran
  obtain ⟨resolved, ordinary⟩ := and_eq_true_iff.1 observed
  refine ⟨config, ran, resolved, (resolution_iff (run_reachable _ ran)).2 ?_⟩
  intro capture input result mem called gave external
  have other := all_eq_true.1 ordinary capture mem
  rw [called] at other
  exact absurd external (of_decide_eq_true other)

end DataPulse.Unknowns
