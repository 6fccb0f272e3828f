/-
**At most one pending item for a tuple.**

A capture and a reopening look for a pending item of the tuple and insert one when there is none; no
constraint keeps two apart.

* `one_pending_iff`: the first two hold all along a run exactly when the last one does.
-/

import DataPulse.Unknowns.Items

namespace DataPulse.Unknowns

open Lib Lib.Interleave Platform

/-! ### What a run ought to keep -/

def OnePending (writes : List Write) : Prop :=
  ∀ first second, .item first ∈ writes → .item second ∈ writes → first.sameTuple second = true →
    (first.after writes).isPending = true → (second.after writes).isPending = true → first = second

def CaptureItemInput.submits (input : CaptureItemInput) (item : UnknownItem) : Prop :=
  item.tenantId = input.tenantId ∧ item.storeId = input.storeId ∧ item.identifier = input.identifier

/-- Every capture that reaches the items answers with an item of its tuple, and with the one that was
pending when it looked. -/
def Counted (config : Config) : Prop :=
  ∀ (proc : Proc) (input : CaptureItemInput) (answered : UnknownItem) (inserted : Bool),
    proc ∈ config.procs → proc.call.operation = .captureItem input →
    proc.result = some (.ok (.captured (.unknown answered inserted))) →
      (∃ item, .item item ∈ config.ledger ∧ item.id = answered.id ∧ input.submits item) ∧
      ∀ seen answer, Entry.answered (.findPending input.tenantId input.storeId input.identifier) seen
          answer ∈ proc.log →
        ∀ item, .item item ∈ contents (config.commits.take seen) → input.submits item →
          (item.after (contents (config.commits.take seen))).isPending = true →
            answered = item.after (contents (config.commits.take seen))

/-- **At every moment of the run at most one item of each tuple is pending, and captures count on it.** -/
def CountsOnOne (config : Config) : Prop :=
  (∀ before after, config.commits = before ++ after → OnePending (contents before)) ∧ Counted config

/-- Since the look-up of a call that commits a new item, nobody committed an item of its tuple that is
still pending. -/
def Undisturbed (config : Config) : Prop :=
  ∀ before pid writes after, config.commits = before ++ (pid, writes) :: after →
    ∀ row, .item row ∈ writes → ∀ proc : Proc, config.procs[pid]? = some proc →
      ∀ seen answer, Entry.answered (.findPending row.tenantId row.storeId row.identifier) seen answer ∈
          proc.log →
        ∀ other, .item other ∈ contents (before.drop seen) → other.sameTuple row = true →
          (other.after (contents before)).isPending = false

section Pending

variable {reference : Reference} {config : Config} {pid : Nat} {writes : List Write}
  {before after : List (Nat × List Write)}

variable (reach : Reachable reference config)
include reach

/-- **A new item is alone in its tuple, unless the look-up was disturbed.** -/
theorem Reachable.alone_of_undisturbed (undisturbed : Undisturbed config)
    (commits : config.commits = before ++ (pid, writes) :: after) {row other : UnknownItem}
    (mem : .item row ∈ writes) (there : .item other ∈ contents before) (same : other.sameTuple row = true) :
    (other.after (contents before)).isPending = false := by
  obtain ⟨proc, body, found, -, effect, -, -⟩ := reach.effect commits
  obtain ⟨⟨seen, entered⟩, -, -⟩ := effect.entered mem
  rw [contents_split before seen] at there
  rcases mem_append.1 there with early | late
  · by_contra pending
    rw [not_eq_false, contents_split before seen] at pending
    have prior := pending_before pending
    rw [entered.unmatched other early same] at prior
    cases prior
  · exact undisturbed before pid writes after commits row mem proc found seen _ entered.looked other late same

theorem OnePending.step (undisturbed : Undisturbed config)
    (commits : config.commits = before ++ (pid, writes) :: after) (one : OnePending (contents before)) :
    OnePending (contents (before ++ [(pid, writes)])) := by
  rw [contents_append, contents_cons, contents_nil, append_nil]
  have apart : ∀ first second, .item first ∈ contents before → .item second ∈ writes →
      first.sameTuple second = true → (first.after (contents before ++ writes)).isPending ≠ true := by
    intro first second old new same pending
    have waited := pending_before pending
    rw [reach.alone_of_undisturbed undisturbed commits new old same] at waited
    cases waited
  intro first second inOne inTwo same pending pending'
  rcases mem_append.1 inOne with old | new
  · rcases mem_append.1 inTwo with old' | new'
    · exact one first second old old' same (pending_before pending) (pending_before pending')
    · exact absurd pending (apart first second old new' same)
  · rcases mem_append.1 inTwo with old' | new'
    · exact absurd pending' (apart second first old' new (UnknownItem.sameTuple_comm.trans same))
    · obtain ⟨proc, body, -, -, effect, -, -⟩ := reach.effect commits
      obtain ⟨-, -, locks, rfl, calm⟩ := effect.entered new
      rcases mem_append.1 new' with lock | last
      · cases calm _ lock
      · exact (Write.item.inj (mem_singleton.1 last)).symm

theorem Undisturbed.onePending (undisturbed : Undisturbed config)
    (commits : config.commits = before ++ after) : OnePending (contents before) := by
  refine prefix_induction (fun before => OnePending (contents before)) (fun _ _ none => by cases none)
    (fun before commit after commits one => ?_) before after commits
  obtain ⟨pid, writes⟩ := commit
  exact one.step reach undisturbed commits

/-- **Two pending items of a tuple appear at the commit of the second, which was disturbed.** -/
theorem Undisturbed.of_onePending
    (one : ∀ before after, config.commits = before ++ after → OnePending (contents before)) :
    Undisturbed config := by
  intro before pid writes after commits row mem proc found seen answer looked other since same
  by_contra pending
  rw [not_eq_false] at pending
  have there : .item other ∈ contents before := by
    rw [contents_split before seen]
    exact mem_append_right _ since
  obtain ⟨proc', body, -, -, effect, -, -⟩ := reach.effect commits
  obtain ⟨-, -, locks, rfl, calm⟩ := effect.entered mem
  have waits : (other.after (contents before ++ (locks ++ [.item row]))).isPending = true := by
    have single : ∀ item : UnknownItem, item.after [.item row] = item := fun _ => rfl
    rw [UnknownItem.after_append, UnknownItem.after_append, single, ← UnknownItem.after_append,
      UnknownItem.after_locks calm]
    exact pending
  have both := one (before ++ [(pid, locks ++ [.item row])]) after (by
    rw [commits, append_assoc]
    rfl)
  rw [contents_append, contents_cons, contents_nil, append_nil] at both
  obtain rfl := both other row (mem_append_left _ there) (mem_append_right _ mem) same
    waits (reach.entered_pending commits mem)
  have apart := reach.fresh commits there mem
  simp [sameRow, Write.rowKey] at apart

omit reach

/-! ### What a capture answers -/

theorem captureItem_unknown {commits : List (Nat × List Write)} {call : Call} {log : Log}
    {input : CaptureItemInput} {answered : UnknownItem} {added : Bool}
    (ends : Completes (unknownsServer reference) commits call [] (captureItem input) log
      (.unknown answered added)) :
    ∃ seen found, seen ≤ commits.length ∧
      (∀ seen' answer, Entry.answered (.findPending input.tenantId input.storeId input.identifier) seen'
          answer ∈ log → seen' = seen) ∧
      (pendingItems call.context (contents (commits.take seen)) input.tenantId input.storeId
          input.identifier).head? = found ∧
      (found = some answered ∨ found = none ∧ written log = [.item answered] ∧ input.submits answered) := by
  obtain ⟨id, log₀, rest₀, rfl, drawing, ends⟩ := completes_bind ends
  obtain rfl := completes_newId drawing
  obtain ⟨hit, seen₁, writes₁, rest₁, rfl, -, executed₁, logged₁, ends⟩ := query_then ends
  obtain ⟨-, rfl⟩ := ok_inj executed₁
  simp only [written_append, written_drew, logged₁.written, append_nil, nil_append]
    at ends ⊢
  cases hit with
  | some hit => cases (completes_done ends).2
  | none =>
    obtain ⟨old, seen, writes₂, rest₂, rfl, early, executed₂, logged₂, ends⟩ := query_then ends
    obtain ⟨found, rfl⟩ := ok_inj executed₂
    rw [append_nil] at found
    simp only [written_append, logged₂.written, append_nil, nil_append] at ends ⊢
    cases old with
    | some old =>
      obtain ⟨rfl, same⟩ := completes_done ends
      cases same
      refine ⟨seen, some answered, early, fun seen' answer mem => ?_, found, .inl rfl⟩
      simp at mem
      exact mem.1
    | none =>
      obtain ⟨inserted', seen₃, writes₃, rest₃, rfl, -, executed₃, logged₃, ends⟩ := query_then ends
      obtain ⟨rfl, rfl, -, -⟩ := insertItem_ok executed₃
      obtain ⟨rfl, same⟩ := completes_done ends
      cases same
      refine ⟨seen, none, early, fun seen' answer mem => ?_, found, .inr ⟨rfl, logged₃.written, rfl, rfl, rfl⟩⟩
      simp at mem
      exact mem.1

theorem captureItem_careful (input : CaptureItemInput) : Careful (unknownsServer reference)
    (captureItem input) := by
  refine careful_bind careful_newId fun id => careful_bind (careful_query _) fun hit => ?_
  cases hit with
  | some hit => exact careful_done _
  | none =>
    refine careful_bind (careful_query _) fun old => ?_
    cases old with
    | some old => exact careful_done _
    | none =>
      refine careful_bind (careful_query _) fun added => ?_
      cases added with
      | none => exact careful_fail _
      | some row => exact careful_done _

/-- **A capture answers with the pending item of its tuple, where there is at most one.** -/
theorem Reachable.counted (reach : Reachable reference config)
    (one : ∀ before after, config.commits = before ++ after → OnePending (contents before)) :
    Counted config := by
  intro proc input answered added mem called gave
  have goes := reach.finishes mem gave
  have program : (unknownsServer reference).program proc.call =
      Operation.program (.captureItem input) := congrArg Operation.program called
  rw [program] at goes
  have ends := (careful_bind (captureItem_careful input) fun result =>
    careful_done (Body.captured result)).completes goes
  have sound := ends.sound
  obtain ⟨result, log₁, rest₁, split, ran, ended⟩ := completes_bind ends
  obtain ⟨rfl, same⟩ := completes_done ended
  cases same
  rw [append_nil] at split
  subst split
  obtain ⟨seen, found, early, only, looked, answers⟩ := captureItem_unknown ran
  have prefixed : config.commits = config.commits.take seen ++ config.commits.drop seen :=
    (take_append_drop _ _).symm
  have head : found = some answered → ∃ item, .item item ∈ contents (config.commits.take seen) ∧
        item.after (contents (config.commits.take seen)) = answered ∧ input.submits item ∧
        answered.isPending = true := by
    rintro rfl
    obtain ⟨item, there, same, tenant, store, identifier, pending⟩ := findPending_some looked
    exact ⟨item, there, same, ⟨tenant, store, identifier⟩, pending⟩
  constructor
  · rcases answers with some | ⟨-, wrote, submits⟩
    · obtain ⟨item, there, rfl, submits, -⟩ := head some
      exact ⟨item, mem_ledger prefixed there, UnknownItem.after_id.symm, submits⟩
    · obtain ⟨pid, found⟩ := mem_iff_getElem?.1 mem
      obtain ⟨before, after, commits⟩ := reach.committed found gave sound
      refine ⟨answered, ?_, rfl, submits⟩
      rw [Config.ledger, commits, contents_append, contents_cons, wrote]
      simp
  · intro seen' answer asked item there submits pending
    obtain rfl := only seen' answer asked
    rcases answers with some | ⟨rfl, -, -⟩
    · obtain ⟨item', there', rfl, submits', pending'⟩ := head some
      have tuple : item'.sameTuple item = true := by
        obtain ⟨tenant, store, identifier⟩ := submits
        obtain ⟨tenant', store', identifier'⟩ := submits'
        simp [UnknownItem.sameTuple, tenant, store, identifier, tenant', store', identifier']
      rw [one _ _ prefixed item' item there' there tuple pending' pending]
    · -- the look-up found nothing, so nothing of the tuple was pending
      obtain ⟨tenant, store, identifier⟩ := submits
      have sees : proc.call.context.sees item = true := by
        simp [Context.sees, Call.context, Operation.tenant, Operation.store, called, tenant, store]
      rw [← tenant, ← store, ← identifier] at looked
      have none := findPending_none sees looked item there (by simp [UnknownItem.sameTuple])
      rw [none] at pending
      cases pending

/-- **There is one pending item for a tuple, and captures count on it, exactly when no look-up was
disturbed before the commit of what it inserted.** -/
theorem one_pending_iff (reachable : Reachable reference config) : CountsOnOne config ↔ Undisturbed config := by
  constructor
  · exact fun counts => Undisturbed.of_onePending reachable counts.1
  · intro undisturbed
    have one : ∀ before after, config.commits = before ++ after → OnePending (contents before) :=
      fun before after commits => undisturbed.onePending reachable commits
    exact ⟨one, reachable.counted one⟩

end Pending

/-! ### Two captures of one tuple -/

/-- Two captures of a tuple that both look before either inserts. -/
def racingEvents (input : CaptureItemInput) : List (Event Uuid PgError Call) :=
  [.start ⟨1, .captureItem input⟩, .start ⟨2, .captureItem input⟩, .draw 0 (sample 4),
    .draw 1 (sample 5), .ask 0, .ask 0, .ask 1, .ask 1, .ask 0, .stop 0 none, .ask 1, .stop 1 none]

/-- **Two captures that overlap leave two pending items of one tuple.** -/
theorem doubly_captured : ∃ config, Reachable anyReference config ∧ ¬ CountsOnOne config := by
  have ran : (run (unknownsServer anyReference) (racingEvents (sampleCapture "4006381" (by decide)))).any
    (fun config =>
        (insertedItems config.ledger).any fun first => (insertedItems config.ledger).any fun second =>
          first.sameTuple second && (first.after config.ledger).isPending &&
            (second.after config.ledger).isPending && first.id ≠ second.id) = true := by
    decide +kernel
  obtain ⟨config, ran, seen⟩ := (any_eq_true _ _).1 ran
  refine ⟨config, run_reachable _ ran, fun counts => ?_⟩
  obtain ⟨first, inOne, seen⟩ := List.any_eq_true.1 seen
  obtain ⟨second, inTwo, seen⟩ := List.any_eq_true.1 seen
  simp only [and_eq_true, decide_eq_true_eq] at seen
  obtain ⟨⟨⟨same, pending⟩, pending'⟩, unlike⟩ := seen
  refine unlike (congrArg UnknownItem.id ?_)
  exact counts.1 config.commits [] (append_nil _).symm first second
    (mem_insertedItems.1 inOne) (mem_insertedItems.1 inTwo) same pending pending'

theorem undisturbed_of_single {config : Config} (single : (insertedItems config.ledger).length ≤ 1) :
    Undisturbed config := by
  intro before pid writes after commits row mem proc found seen answer looked other since same
  exfalso
  have there : other ∈ insertedItems (contents before) := by
    rw [mem_insertedItems, contents_split before seen]
    exact mem_append_right _ since
  have here := length_pos_of_mem (mem_insertedItems.2 mem)
  have there := length_pos_of_mem there
  have whole : insertedItems config.ledger = insertedItems (contents before) ++
      (insertedItems writes ++ insertedItems (contents after)) := by
    rw [Config.ledger, commits, contents_append, contents_cons]
    simp only [insertedItems, filterMap_append]
  rw [whole, length_append, length_append] at single
  omega

theorem one_pending_sample :
    ∃ config, run (unknownsServer anyReference)
      (captureEvents 0 (sample 4) (sampleCapture "4006381" (by decide)) ++
        [.start ⟨2, .captureItem (sampleCapture "4006381" (by decide))⟩, .draw 1 (sample 5), .ask 1, .ask 1,
          .stop 1 none]) = some config ∧ config.commits.length = 2 ∧ CountsOnOne config := by
  have ran : (run (unknownsServer anyReference)
        (captureEvents 0 (sample 4) (sampleCapture "4006381" (by decide)) ++
        [.start ⟨2, .captureItem (sampleCapture "4006381" (by decide))⟩, .draw 1 (sample 5),
          .ask 1, .ask 1, .stop 1 none])).any (fun config =>
        config.commits.length = 2 ∧ (insertedItems config.ledger).length ≤ 1) = true := by
    decide +kernel
  obtain ⟨config, ran, seen⟩ := (any_eq_true _ _).1 ran
  obtain ⟨two, single⟩ := of_decide_eq_true seen
  exact ⟨config, ran, two, (one_pending_iff (run_reachable _ ran)).2 (undisturbed_of_single single)⟩

end DataPulse.Unknowns
