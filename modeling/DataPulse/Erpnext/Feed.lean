/-
**What the connector is offered.**

A connector pulls a page after the cursor of its previous one. `Connector` is its history of pages in a
run.

* `offered_or_omitted`: while nothing is committed behind a page that was read, every pending posting at
  or below the cursor was on a page at its place, where it was offered, or omitted since a line had lost
  its map or a reversal its terminal event.
-/

import DataPulse.Erpnext.Postings

namespace DataPulse.Erpnext

open Lib Lib.Interleave Platform
open Inventory (TenantContext)
open Sales (SaleLine TerminalKind TerminalEvent)

/-! ### Places of the feed -/

variable {row : PostingStatus} {users : Uuid → Bool} {config : Config}
variable {writes : List Write} {first second : PostingStatus}

section Places

variable {before after : List (Nat × List Write)}
variable {sequence : Nat}

theorem Effect.heads {commits : List (Nat × List Write)} {log : Log} (effect : Effect commits log writes)
    {write : Write} {id : Uuid} (mem : write ∈ writes) (heads : write.heads = some (id, sequence)) :
    Drew log sequence ∧ ∀ other ∈ writes, other.heads ≠ none → other = write := by
  cases effect with
  | quiet plain =>
    rw [(plain write mem).heads_none] at heads
    cases heads
  | @created row created drew sold =>
    obtain rfl := mem_singleton.1 mem
    cases heads
    exact ⟨drew, fun other inside _ => mem_singleton.1 inside⟩
  | @moved row update trail seen holds move about drew plain =>
    have moved : ∀ other ∈ Write.lock row.id :: update :: trail, other.heads ≠ none → other = update := by
      intro other inside some
      rcases mem_cons.1 inside with rfl | inside
      · exact absurd rfl some
      rcases mem_cons.1 inside with rfl | inside
      · rfl
      · exact absurd (plain other inside).heads_none some
    obtain rfl := moved write mem (by rw [heads]; nofun)
    exact ⟨drew id sequence heads, moved⟩

variable (reach : Reachable users config)
include reach

/-- **A place of the feed is drawn once.** -/
theorem Reachable.heads_once {first second : Write} {one two : Uuid} (inOne : first ∈ config.ledger)
    (inTwo : second ∈ config.ledger) (headsFirst : first.heads = some (one, sequence))
    (headsSecond : second.heads = some (two, sequence)) : first = second := by
  obtain ⟨pid, writes, kept, inOne⟩ := mem_contents.1 inOne
  obtain ⟨pid', writes', committed', inTwo⟩ := mem_contents.1 inTwo
  obtain ⟨before, after, split⟩ := append_of_mem kept
  obtain ⟨before', after', split'⟩ := append_of_mem committed'
  obtain ⟨proc, value, found, -, rfl, ends, -⟩ := reach.commit_of clash_comm split
  obtain ⟨proc', value', found', -, rfl, completes', -⟩ := reach.commit_of clash_comm split'
  obtain ⟨⟨number, same, drew⟩, alone⟩ := (Operation.effect ends).heads inOne headsFirst
  obtain ⟨⟨number', same', drew'⟩, -⟩ := (Operation.effect completes').heads inTwo headsSecond
  obtain rfl := Nat.succ.inj (same.symm.trans same')
  by_cases samePid : pid = pid'
  · subst samePid
    obtain rfl := mem_unique found found'
    exact (alone second inTwo (by rw [headsSecond]; nofun)).symm
  · exact absurd drew' (reach.drawnOnce.apart pid pid' proc proc' found found' samePid drew)

variable (commits : config.commits = before ++ after)
include commits

theorem Reachable.headed :
    ∀ row, .posting row ∈ contents before →
      ∃ write ∈ contents before, write.heads = some (row.id, (row.after (contents before)).sequence) := by
  refine prefix_induction (fun before => ∀ row, .posting row ∈ contents before →
      ∃ write ∈ contents before, write.heads = some (row.id, (row.after (contents before)).sequence))
    (fun _ none => by cases none) (fun before commit after commits headed => ?_) before after commits
  obtain ⟨pid, writes⟩ := commit
  rw [contents_append, contents_cons, contents_nil, append_nil]
  intro row mem
  rcases mem_append.1 mem with old | new
  · obtain ⟨write, inside, heads⟩ := headed row old
    have kept : (row.after (contents before ++ writes)).sequence = (row.after (contents before)).sequence →
        ∃ write ∈ contents before ++ writes, write.heads =
        some (row.id, (row.after (contents before ++ writes)).sequence) := by
      intro same
      exact ⟨write, mem_append_left _ inside, by rw [same]; exact heads⟩
    obtain same | ⟨update, moved, about, move, same⟩ := reach.changes commits old
    · exact kept (by rw [same])
    · cases move with
      | post awaits | reject awaits => exact kept (by rw [same]; rfl)
      | reoffer awaits budget | requeue lettered =>
        refine ⟨_, mem_append_right _ moved, ?_⟩
        rw [same]
        cases about
        rfl
  · obtain ⟨-, same⟩ := reach.inserts commits new
    exact ⟨_, mem_append_right _ new, by rw [same]; rfl⟩

/-- **No two postings stand at one place**, not even one after the other. -/
theorem Reachable.one_place
    {before' after' : List (Nat × List Write)} (commits' : config.commits = before' ++ after')
    (inOne : .posting first ∈ contents before) (inTwo : .posting second ∈ contents before')
    (same : (first.after (contents before)).sequence = (second.after (contents before')).sequence) :
    first = second := by
  have onLedger : ∀ write ∈ contents before, write ∈ config.ledger :=
    fun write => contents_mono ⟨after, commits.symm⟩
  have onLedger' : ∀ write ∈ contents before', write ∈ config.ledger := fun write =>
    contents_mono ⟨after', commits'.symm⟩
  obtain ⟨write, inside, heads⟩ := reach.headed commits first inOne
  obtain ⟨write', inside', heads'⟩ := reach.headed commits' second inTwo
  rw [same] at heads
  obtain rfl := reach.heads_once (onLedger _ inside) (onLedger' _ inside') heads heads'
  rw [heads] at heads'
  exact reach.one_posting (onLedger _ inOne) (onLedger' _ inTwo) (Prod.mk.inj (Option.some.inj heads')).1

/-- **A posting that is pending at a place was pending there ever since it was put there.** -/
theorem Reachable.pending_since
    (here : .posting row ∈ config.ledger) (pending : (row.after config.ledger).status = .pending)
    (behind : ∀ write ∈ contents after, write.heads ≠ some (row.id, (row.after config.ledger).sequence)) :
    .posting row ∈ contents before ∧ (row.after (contents before)).status = .pending ∧
      (row.after (contents before)).sequence = (row.after config.ledger).sequence := by
  revert pending behind
  generalize place : (row.after config.ledger).sequence = sequence
  intro pending behind
  suffices back : ∀ middle rest, after = middle ++ rest → (.posting row ∈ contents (before ++ middle) ∧
        (row.after (contents (before ++ middle))).status = .pending ∧
        (row.after (contents (before ++ middle))).sequence = sequence) →
      .posting row ∈ contents before ∧ (row.after (contents before)).status = .pending ∧
        (row.after (contents before)).sequence = sequence by
    refine back after [] (append_nil _).symm ?_
    rw [← commits]
    exact ⟨here, pending, place⟩
  intro middle
  induction middle using List.reverseRecOn with
  | nil =>
    intro rest _ holds
    rwa [append_nil] at holds
  | append_singleton middle commit ih =>
    obtain ⟨pid, writes⟩ := commit
    rintro rest split ⟨mem, isPending, isPlace⟩
    refine ih ((pid, writes) :: rest) (by rw [split, append_assoc]; rfl) ?_
    rw [split, append_assoc, singleton_append, ← append_assoc] at commits
    rw [← append_assoc, contents_append, contents_cons, contents_nil, append_nil]
      at mem isPending isPlace
    have late : ∀ write ∈ writes, write.heads ≠ some (row.id, sequence) := by
      intro write inside
      refine behind write ?_
      rw [split, contents_append, contents_append, contents_cons]
      exact mem_append_left _ (mem_append_right _ (mem_append_left _ inside))
    rcases mem_append.1 mem with old | new
    · refine ⟨old, ?_⟩
      obtain same | ⟨update, moved, about, move, same⟩ := reach.changes commits old
      · rw [same] at isPending isPlace
        exact ⟨isPending, isPlace⟩
      · rw [same] at isPending isPlace
        cases move with
        | post awaits | reject awaits => cases isPending
        | reoffer awaits budget | requeue lettered =>
          cases about
          exact absurd (congrArg (fun n => some (row.id, n)) isPlace) (late _ moved)
    · obtain ⟨-, same⟩ := reach.inserts commits new
      rw [same] at isPlace
      exact absurd (congrArg (fun n => some (row.id, n)) isPlace) (late _ new)

theorem Reachable.sold :
    ∀ row, .posting row ∈ contents before →
      ∃ sale ∈ salesOf (contents before), sale.id = row.saleId ∧ sale.tenantId = row.tenantId := by
  refine prefix_induction (fun before => ∀ row, .posting row ∈ contents before →
      ∃ sale ∈ salesOf (contents before), sale.id = row.saleId ∧ sale.tenantId = row.tenantId)
    (fun _ none => by cases none) (fun before commit after commits sold => ?_) before after commits
  obtain ⟨pid, writes⟩ := commit
  rw [contents_append, contents_cons, contents_nil, append_nil]
  intro row mem
  suffices there : ∃ sale ∈ salesOf (contents before), sale.id = row.saleId ∧ sale.tenantId = row.tenantId by
    obtain ⟨sale, inside, same⟩ := there
    exact ⟨sale, mem_salesOf.2 (mem_append_left _ (mem_salesOf.1 inside)), same⟩
  rcases mem_append.1 mem with old | new
  · exact sold row old
  cases reach.deed commits with
  | quiet plain => exact absurd rfl ((plain _ new).2 row)
  | created created sold =>
    obtain rfl := Write.posting.inj (mem_singleton.1 new)
    exact sold
  | @moved row' update trail here move about plain =>
    rcases mem_cons.1 new with same | new
    · cases same
    rcases mem_cons.1 new with rfl | new
    · cases about
    · exact absurd rfl ((plain _ new).2 row)

omit commits

omit reach

end Places

/-! ### One row of a page -/

/-- **A work item is omitted**: a line of the sale has no confirmed map that names an item, or the row
is a reversal of which neither terminal table knows the event. -/
inductive Omits (writes : List Write) (context : TenantContext) (row : PostingStatus) : Prop where
  | unmapped {line : SaleLine} (sold : line ∈ saleLines context writes row.saleId)
      (unmapped : (confirmedMap context writes line).all (·.erpnextItemRef = "") = true)
  | unclassified (reversal : row.kind = .reversal)
      (unknown : ∀ event ∈ terminalsOf writes, event.id = row.sourceRefId →
        some event.tenantId ≠ context.tenant)

variable {context : TenantContext}

theorem Omits.of_sameRow (omits : Omits writes context first)
    (same : first.sameRow second ∨ second.sameRow first) : Omits writes context second := by
  have columns : first.saleId = second.saleId ∧ first.kind = second.kind ∧
      first.sourceRefId = second.sourceRefId := by
    rcases same with ⟨-, -, sale, -, source, kind, -⟩ | ⟨-, -, sale, -, source, kind, -⟩
    · exact ⟨sale, kind, source⟩
    · exact ⟨sale.symm, kind.symm, source.symm⟩
  obtain ⟨sale, kind, source⟩ := columns
  cases omits with
  | unmapped sold unmapped => exact .unmapped (sale ▸ sold) unmapped
  | unclassified reversal unknown => exact .unclassified (kind ▸ reversal) (source ▸ unknown)

/-- What `buildWorkItem` answers for a row, and what it found where it answers none. -/
inductive Built (commits : List (Nat × List Write)) (context : TenantContext) (row : PostingStatus)
    (log : Log) : Option PostingWorkItem → Prop where
  | offered {item : PostingWorkItem} (ref : item.workItemRef = row.id)
      (place : item.itemCursor = row.sequence) : Built commits context row log (some item)
  | unsold {seen : Nat} (asked : seen ∈ seens log)
      (missing : ∀ sale ∈ salesOf (contents (commits.take seen)), sale.id = row.saleId →
        some sale.tenantId ≠ context.tenant) : Built commits context row log none
  | omitted {seen : Nat} (asked : seen ∈ seens log)
      (omits : Omits (contents (commits.take seen)) context row) : Built commits context row log none

section Items

variable {commits : List (Nat × List Write)} {call : Call} {log : Log}

theorem mapM_none {α β : Type} {f : α → Option β} {list : List α} (none : list.mapM f = none) :
    ∃ element ∈ list, f element = Option.none := by
  induction list with
  | nil => cases none
  | cons element rest ih =>
    cases head : f element with
    | none => exact ⟨element, mem_cons_self, head⟩
    | some value =>
      rw [mapM_cons, head] at none
      cases tail : rest.mapM f with
      | none =>
        obtain ⟨other, mem, same⟩ := ih tail
        exact ⟨other, mem_cons_of_mem _ mem, same⟩
      | some values =>
        rw [tail] at none
        cases none

theorem wireLine_none {line : SaleLine} {map : Option ItemMap}
    (none : wireLine (line, map.map ItemMap.erpnextItemRef) = none) :
    map.all (·.erpnextItemRef = "") = true := by
  cases map with
  | none => rfl
  | some map =>
    simp only [wireLine, map_some, Option.map_eq_none_iff, Option.filter_eq_none_iff, Option.some.injEq] at none
    simpa using none

/-- **What becomes of one row of a page.** -/
theorem buildWorkItem_effect {item : Option PostingWorkItem}
    (ends : Completes (erpnextServer users) commits call [] (buildWorkItem row) log item) :
    written log = [] ∧ Built commits call.context row log item := by
  have nothing := (buildWorkItem_reads row).nothing ends
  refine ⟨nothing, ?_⟩
  obtain ⟨sale, seen₁, writes₁, rest₁, rfl, early₁, executed₁, logged₁, ends⟩ := query_then ends
  rw [append_nil] at executed₁
  cases sale with
  | none =>
    obtain ⟨rfl, rfl⟩ := completes_done ends
    have absent := find?_eq_none.1 (congrArg Prod.fst (Except.ok.inj executed₁))
    refine .unsold (by rw [append_nil]; exact mem_cons_self) fun sale mem id tenant => ?_
    have wrong := absent sale mem
    simp [id, tenant] at wrong
  | some sale =>
    obtain ⟨lines, seen₂, writes₂, rest₂, rfl, early₂, executed₂, logged₂, ends⟩ := query_then ends
    rw [written_append, append_eq_nil_iff] at nothing
    rw [nil_append, nothing.1, append_nil] at executed₂
    split at ends
    · rename_i unmapped
      obtain ⟨rfl, rfl⟩ := completes_done ends
      obtain ⟨line, mem, none⟩ := mapM_none unmapped
      obtain rfl := congrArg Prod.fst (Except.ok.inj executed₂).symm
      obtain ⟨sold, inside, rfl⟩ := mem_map.1 mem
      refine (@Built.omitted _ _ _ _ seen₂ ?_ (.unmapped ((mem_insertionSort _).1 inside) (wireLine_none none)))
      simp [seens, Entry.seen]
    · rename_i mapped found
      unfold classifyReversal at ends
      split at ends
      · obtain ⟨rfl, rfl⟩ := completes_done ends
        exact .offered rfl rfl
      · rename_i reversal
        obtain ⟨kind, seen₃, writes₃, rest₃, rfl, early₃, executed₃, logged₃, ends⟩ := query_then ends
        obtain ⟨rfl, rfl⟩ := completes_done ends
        rw [append_nil, written_append, append_eq_nil_iff] at nothing
        cases kind with
        | some kind => exact .offered rfl rfl
        | none =>
          rw [nil_append, nothing.1, nothing.2.1, append_nil, append_nil]
            at executed₃
          refine @Built.omitted _ _ _ _ seen₃ (by simp [seens, Entry.seen])
            (.unclassified reversal fun event mem id tenant => ?_)
          have missing := head?_eq_none_iff.1 (congrArg Prod.fst (Except.ok.inj executed₃))
          have known : event.kind ∈
              reversalKinds call.context (contents (commits.take seen₃)) row.sourceRefId := by
            have inside : event.kind ∈ ((terminalsOf (contents (commits.take seen₃))).filter
                fun other => other.id = row.sourceRefId &&
                  some other.tenantId = call.context.tenant).map TerminalEvent.kind :=
              mem_map.2 ⟨event, mem_filter.2 ⟨mem, by simp [id, tenant]⟩, rfl⟩
            unfold reversalKinds
            cases kind : event.kind with
            | void =>
              rw [kind] at inside
              exact mem_append_left _ (mem_filter.2 ⟨inside, rfl⟩)
            | refund =>
              rw [kind] at inside
              exact mem_append_right _ (mem_filter.2 ⟨inside, rfl⟩)
          rw [missing] at known
          cases known

end Items

/-! ### The connector -/

structure Page where
  proc : Proc
  input : PullPostingsInput
  result : PullPostingsResult

namespace Page

variable (page : Page) (config : Config) (tenantId : Uuid)

/-- How many transactions were committed when the rows of the page were read. -/
def seen : Nat := (seens page.proc.log).headD 0

/-- `result.cursor ?? query.since ?? "0"`. -/
def cursor : Nat := (page.result.cursor.orElse fun _ => page.input.since).getD 0

/-- The tenant's connector pulled after the cursor and was answered the page. -/
structure Pulled (since : Option Nat) : Prop where
  member : page.proc ∈ config.procs
  operation : page.proc.call.operation = .pullPostings page.input
  tenant : page.input.tenantId = tenantId
  since : page.input.since = since
  returned : page.proc.result = some (.ok (.page page.result))

/-- After the rows of the page were read, no commit put a posting of the tenant at or below its
cursor. -/
def Timely : Prop :=
  ∀ row, .posting row ∈ config.ledger → row.tenantId = tenantId →
    ∀ write ∈ contents (config.commits.drop page.seen), ∀ sequence,
      write.heads = some (row.id, sequence) → page.cursor < sequence

/-- The page has the work item of the posting, at its place. -/
def Offers (row : PostingStatus) : Prop :=
  ∃ item ∈ page.result.items, item.workItemRef = row.id ∧ item.itemCursor = row.sequence

def Omitted (row : PostingStatus) : Prop :=
  ∃ seen ∈ seens page.proc.log, page.seen ≤ seen ∧
    Omits (contents (config.commits.take seen)) page.proc.call.context row

end Page

/-- **The pages of a connector that pulls with the cursor of its previous page, and the cursor it
holds.** -/
inductive Connector (config : Config) (tenantId : Uuid) : List Page → Option Nat → Prop where
  | idle : Connector config tenantId [] none
  | pull {pages : List Page} {since : Option Nat} {page : Page}
      (earlier : Connector config tenantId pages since)
      (pulled : page.Pulled config tenantId since) :
      Connector config tenantId (pages ++ [page]) (some page.cursor)

section Pages

variable {tenantId : Uuid}
variable {since : Option Nat}
variable {page : Page}

theorem careful_pullPostings (input : PullPostingsInput) : Careful (erpnextServer users) input.pullPostings := by
  refine careful_bind (careful_query _) fun rows => careful_bind ?_ fun items => careful_done _
  refine careful_forEach (fun row => careful_bind (careful_query _) fun sale => ?_) _
  cases sale with
  | none => exact careful_done _
  | some sale =>
    refine careful_bind (careful_query _) fun lines => ?_
    split
    · exact careful_done _
    · unfold classifyReversal
      split
      · exact careful_done _
      · exact careful_bind (careful_query _) fun kind => careful_done _

/-- **What a page shows**: the first pending rows after the cursor, each built, or not. -/
theorem Page.Pulled.shows (reach : Reachable users config) (pulled : page.Pulled config tenantId since) :
    ∃ rows, rows =
      (pendingRows page.proc.call.context (contents (config.commits.take page.seen)) since).take
      page.input.pageSize ∧ page.seen ≤ config.commits.length ∧
      page.result.cursor = rows.getLast?.map PostingStatus.sequence ∧
      ∀ row ∈ rows, page.Offers row ∨
      ∃ seen ∈ seens page.proc.log, page.seen ≤ seen ∧ seen ≤ config.commits.length ∧
      ((∀ sale ∈ salesOf (contents (config.commits.take seen)), sale.id = row.saleId →
          some sale.tenantId ≠ page.proc.call.context.tenant) ∨
        Omits (contents (config.commits.take seen)) page.proc.call.context row) := by
  obtain ⟨mem, op, -, sinceEq, gave⟩ := pulled
  have goes := Interleave.Reachable.finishes reach mem gave
  obtain ⟨ordered, early⟩ := Interleave.Reachable.ordered reach _ mem
  have program : (erpnextServer users).program page.proc.call =
      page.input.pullPostings.bind fun result => .done (.page result) := by
    show page.proc.call.operation.program = _
    rw [op]
    rfl
  rw [program] at goes
  have sound := (careful_bind (careful_pullPostings page.input) fun result =>
    careful_done (Body.page result)) _ _ goes.ends
  obtain ⟨result, log, last, same, pulling, rest⟩ := completes_bind ⟨goes.ends, goes.answers, sound⟩
  obtain ⟨rfl, sameResult⟩ := completes_done rest
  obtain rfl := Body.page.inj sameResult
  rw [append_nil] at same
  obtain ⟨rows, log₁, rest₁, rfl, reading, ends⟩ := completes_bind pulling
  obtain ⟨items, log₂, rest₂, rfl, building, ends⟩ := completes_bind ends
  obtain ⟨rfl, answer⟩ := completes_done ends
  obtain ⟨seen, writes, rfl, soon, ran, logged⟩ := query_logged reading
  cases ran
  rw [logged.written, append_nil] at building
  simp only [append_nil] at same
  have seenEq : page.seen = seen := by
    unfold Page.seen
    rw [same]
    rfl
  have each : ∀ (row : PostingStatus) (part : Log) (item : Option PostingWorkItem),
      Completes (erpnextServer users) config.commits page.proc.call [] (buildWorkItem row) part item →
      written part = [] ∧ Built config.commits page.proc.call.context row part item :=
    fun row part item ends => buildWorkItem_effect ends
  obtain ⟨-, built⟩ := forEach_completes each building
  refine ⟨_, ?_, seenEq ▸ soon, by rw [answer], fun row inside => ?_⟩
  · rw [seenEq, ← sinceEq, append_nil]
  obtain ⟨item, inItems, part, isBuilt, inLog⟩ := partner_of_forall₂ built inside
  have later : ∀ seen' ∈ seens part, seen' ∈ seens page.proc.log ∧ page.seen ≤ seen' ∧
      seen' ≤ config.commits.length := by
    intro seen' asked
    obtain ⟨entry, inPart, isSeen⟩ := mem_filterMap.1 asked
    have inRest : seen' ∈ seens log₂ := mem_filterMap.2 ⟨entry, inLog entry inPart, isSeen⟩
    have inAll : seen' ∈ seens page.proc.log := by
      rw [same, seens_append]
      exact mem_append_right _ inRest
    refine ⟨inAll, ?_, early seen' inAll⟩
    rw [same] at ordered
    rw [seenEq]
    exact ordered.across (mem_singleton_self _) inRest
  cases isBuilt with
  | @offered item ref place =>
    refine .inl ⟨item, ?_, ref, place⟩
    rw [answer]
    exact mem_filterMap.2 ⟨_, inItems, rfl⟩
  | @unsold seen' asked missing =>
    obtain ⟨inAll, after, soon⟩ := later seen' asked
    exact .inr ⟨seen', inAll, after, soon, .inl missing⟩
  | @omitted seen' asked omits =>
    obtain ⟨inAll, after, soon⟩ := later seen' asked
    exact .inr ⟨seen', inAll, after, soon, .inr omits⟩

theorem mem_take_of_sorted {rows : List PostingStatus} {n : Nat} {last : PostingStatus}
    (sorted : rows.Pairwise fun first second => first.sequence ≤ second.sequence) (mem : row ∈ rows)
    (cut : (rows.take n).getLast? = some last) (below : row.sequence ≤ last.sequence)
    (apart : row.sequence = last.sequence → row = last) : row ∈ rows.take n := by
  have inside : last ∈ rows.take n := mem_of_getLast? cut
  rw [← take_append_drop n rows] at mem sorted
  rcases mem_append.1 mem with early | late
  · exact early
  · have above := (pairwise_append.1 sorted).2.2 last inside row late
    rw [apart (Nat.le_antisymm below above)]
    exact inside

theorem PullPostingsInput.pageSize_pos (input : PullPostingsInput) : 0 < input.pageSize := by
  unfold PullPostingsInput.pageSize POSTING_FEED_MAX_PAGE
  omega

theorem mem_pendingRows :
    row ∈ pendingRows context writes since ↔
      row ∈ postingsOf writes ∧ row.status = .pending ∧ (since.all (· < row.sequence)) = true ∧
      some row.tenantId = context.tenant := by
  unfold pendingRows
  rw [mem_insertionSort, mem_filter]
  simp [and_assoc]

/-- **A posting that was pending when a page was read, after the cursor it was pulled with and at or
below its own, is on it.** -/
theorem Page.Pulled.reaches (reach : Reachable users config) (pulled : page.Pulled config tenantId since)
    (pending : row ∈ pendingRows page.proc.call.context (contents (config.commits.take page.seen)) since)
    (below : row.sequence ≤ page.cursor) : page.Offers row ∨ page.Omitted config row := by
  obtain ⟨rows, cut, soon, cursor, shows⟩ := pulled.shows reach
  have split : config.commits = config.commits.take page.seen ++ config.commits.drop page.seen :=
    (take_append_drop _ _).symm
  obtain ⟨known, status, after, tenant⟩ := mem_pendingRows.1 pending
  have onPage : row ∈ rows := by
    cases lastRow : rows.getLast? with
    | none =>
      rw [List.getLast?_eq_none_iff, cut, List.take_eq_nil_iff] at lastRow
      rcases lastRow with zero | empty
      · exact absurd zero page.input.pageSize_pos.ne'
      · rw [empty] at pending
        cases pending
    | some last =>
      have inside : last ∈ rows := mem_of_getLast? lastRow
      have cursorEq : page.cursor = last.sequence := by
        unfold Page.cursor
        rw [cursor, lastRow]
        rfl
      rw [cut] at lastRow inside ⊢
      obtain ⟨lastKnown, -⟩ := mem_pendingRows.1 (mem_of_mem_take inside)
      refine mem_take_of_sorted ?_ pending lastRow (cursorEq ▸ below) fun same => ?_
      · have total : Std.Total fun first second : PostingStatus =>
            first.sequence ≤ second.sequence := ⟨fun first second => Nat.le_total _ _⟩
        have trans : IsTrans PostingStatus fun first second => first.sequence ≤ second.sequence :=
          ⟨fun _ _ _ => Nat.le_trans⟩
        exact pairwise_insertionSort _ _
      · obtain ⟨first, inOne, rfl⟩ := mem_postingsOf.1 known
        obtain ⟨second, inTwo, rfl⟩ := mem_postingsOf.1 lastKnown
        rw [reach.one_place split split inOne inTwo same]
  rcases shows row onPage with offers | ⟨seen, asked, later, early, missing | omits⟩
  · exact .inl offers
  · -- the sale of a posting never goes away
    obtain ⟨added, there, rfl⟩ := mem_postingsOf.1 known
    obtain ⟨sale, sold, id, owner⟩ := reach.sold split added there
    have still : sale ∈ salesOf (contents (config.commits.take seen)) := by
      refine mem_salesOf.2 (contents_mono ?_ (mem_salesOf.1 sold))
      exact List.take_prefix_take_left later
    refine absurd ?_ (missing sale still (by rw [id, PostingStatus.after_saleId]))
    rw [owner]
    rwa [PostingStatus.after_tenantId] at tenant
  · exact .inr ⟨seen, asked, later, omits⟩

/-- **While nothing is committed behind a page that was read, every pending posting at or below the
connector's cursor was on a page at its place: it was offered there, or omitted.** -/
theorem offered_or_omitted (reachable : Reachable users config) {pages : List Page} {cursor : Option Nat}
    (connector : Connector config tenantId pages cursor)
    (timely : ∀ page ∈ pages, page.Timely config tenantId) :
    ∀ row ∈ postingsOf config.ledger,
      row.tenantId = tenantId → row.status = .pending → (∃ held, cursor = some held ∧ row.sequence ≤ held) →
      ∃ page ∈ pages, page.Offers row ∨ page.Omitted config row := by
  intro row mem tenant pending
  induction connector with
  | idle =>
    rintro ⟨held, none, -⟩
    cases none
  | @pull pages since page prior pulled ih =>
    rintro ⟨held, same, below⟩
    obtain rfl := Option.some.inj same
    have former := ih fun page inside => timely page (mem_append_left _ inside)
    by_cases passed : ∃ held, since = some held ∧ row.sequence ≤ held
    · obtain ⟨page', inside, outcome⟩ := former passed
      exact ⟨page', mem_append_left _ inside, outcome⟩
    have onTime := timely page (mem_append_right _ mem_cons_self)
    refine ⟨page, mem_append_right _ mem_cons_self, ?_⟩
    obtain ⟨added, onLedger, rfl⟩ := mem_postingsOf.1 mem
    rw [PostingStatus.after_tenantId] at tenant
    obtain ⟨there, wasPending, wasPlace⟩ :=
      reachable.pending_since (take_append_drop page.seen config.commits).symm onLedger pending
        fun write inside heads => absurd below
        (Nat.not_le.2 (onTime added onLedger tenant write inside _ heads))
    have context : page.proc.call.context.tenant = some tenantId := by
      show page.proc.call.operation.tenant = _
      rw [pulled.operation, ← pulled.tenant]
      rfl
    have after : since.all (· < (added.after config.ledger).sequence) = true := by
      cases since with
      | none => rfl
      | some held =>
        by_contra behind
        exact passed ⟨held, rfl, by simpa using behind⟩
    have outcome := pulled.reaches reachable (mem_pendingRows.2
      ⟨mem_postingsOf.2 ⟨added, there, rfl⟩, wasPending, wasPlace ▸ after, by
        rw [PostingStatus.after_tenantId, tenant, context]⟩) (wasPlace ▸ below)
    rcases outcome with ⟨item, inItems, ref, place⟩ | ⟨seen, asked, later, omits⟩
    · refine .inl ⟨item, inItems, ?_, place.trans wasPlace⟩
      rw [ref, PostingStatus.after_id, PostingStatus.after_id]
    · exact .inr ⟨seen, asked, later, (omits.of_sameRow (.inl (PostingStatus.after_frozen _ _))).of_sameRow
        (.inr (PostingStatus.after_frozen _ _))⟩

/-- **A place in the feed is one posting's for good**, at whatever moments it is looked at, and the posting
is of a sale of its tenant. -/
theorem place_of_one (reach : Reachable users config) {before after before' after' : List (Nat × List Write)}
    (commits : config.commits = before ++ after) (commits' : config.commits = before' ++ after')
    {row' : PostingStatus} (mem : row ∈ postingsOf (contents before))
    (mem' : row' ∈ postingsOf (contents before')) (same : row.sequence = row'.sequence) :
    row.id = row'.id ∧
      ∃ sale ∈ salesOf (contents before), sale.id = row.saleId ∧ sale.tenantId = row.tenantId := by
  obtain ⟨first, inOne, rfl⟩ := mem_postingsOf.1 mem
  obtain ⟨second, inTwo, rfl⟩ := mem_postingsOf.1 mem'
  obtain rfl := reach.one_place commits commits' inOne inTwo same
  simp only [PostingStatus.after_id, PostingStatus.after_saleId, PostingStatus.after_tenantId]
  exact ⟨trivial, reach.sold commits first inOne⟩

end Pages

/-! ### Runs of one connector -/

theorem zero_fits : 0 < 10 ^ 19 := by
  decide

def sampleLine : SaleLine where
  id := sample 6
  saleId := sample 2
  tenantId := sample 0
  storeId := sample 1
  lineName := "tea"
  unitPrice := ⟨0, zero_fits⟩
  currencyCode := "EGP"
  quantity := ⟨1000000, by decide⟩
  lineAmount := ⟨0, zero_fits⟩
  taxAmount := none
  unit := "cup"
  tenantProductRef := some (sample 7)

def sampleMap (retiredAt : Option Int) : ItemMap :=
  ⟨sample 8, sample 0, sample 7, "TEA", true, retiredAt⟩

def samplePull : PullPostingsInput := ⟨sample 0, none, 100⟩

def mappedEvents : List (Event Fresh PgError Call) :=
  (recordEvents 0 (.sale sampleSale) ++ recordEvents 1 (.line sampleLine) ++
    recordEvents 2 (.itemMap (sampleMap none)) ++ recordEvents 3 (.warehouseMap sampleWarehouse)).append
    [.start ⟨2, .handle sampleEvent⟩, .ask 4, .ask 4, .draw 4 (.uuid (sample 4)),
      .draw 4 (.sequence 0), .ask 4, .stop 4 none]

def pullEvents (pid : Nat) : List (Event Fresh PgError Call) :=
  [.start ⟨3, .pullPostings samplePull⟩, .ask pid, .ask pid, .ask pid, .stop pid none]

def answeredPage (config : Config) (pid : Nat) : Option Page := do
  let proc ← config.procs[pid]?
  match proc.call.operation, proc.result with
  | .pullPostings input, some (.ok (.page result)) => some ⟨proc, input, result⟩
  | _, _ => none

theorem answeredPage_pulled {config : Config} {pid : Nat} {page : Page}
    (answered : answeredPage config pid = some page) :
    page.Pulled config page.input.tenantId page.input.since := by
  obtain ⟨proc, found, answered⟩ := bind_eq_some_iff.1 answered
  split at answered
  · rename_i input result op gave
    cases answered
    exact ⟨mem_of_getElem? found, op, rfl, rfl, gave⟩
  · cases answered

/-- **A posting whose map was retired before the pull is behind the cursor and was never offered.** -/
theorem retired_map_passed_over :
    ∃ config pages cursor,
      Reachable (fun _ => true) config ∧ Connector config (sample 0) pages (some cursor) ∧
      ¬
      ∀ row ∈ postingsOf config.ledger, row.tenantId = sample 0 → row.status = .pending →
      row.sequence ≤ cursor → ∃ page ∈ pages, page.Offers row := by
  have ran : (run (erpnextServer fun _ => true)
        (mappedEvents ++ recordEvents 5 (.itemMap (sampleMap (some 2))) ++ pullEvents 6)).any
      (fun config => (answeredPage config 6).any fun page =>
        page.input = samplePull ∧ page.cursor = 1 ∧ page.result.items = [] ∧ (postingsOf config.ledger).any
          fun row => row.tenantId = sample 0 && row.status = .pending && row.sequence = 1) = true := by
    decide +kernel
  obtain ⟨config, ran, seen⟩ := (any_eq_true _ _).1 ran
  obtain ⟨page, answered, seen⟩ := (any_eq_true _ _).1 seen
  obtain ⟨input, cursor, none, seen⟩ := of_decide_eq_true seen
  obtain ⟨row, mem, holds⟩ := List.any_eq_true.1 seen
  simp only [and_eq_true, decide_eq_true_eq] at holds
  have pulled := answeredPage_pulled answered
  rw [input] at pulled
  refine ⟨config, [] ++ [page], page.cursor, run_reachable _ ran, .pull .idle pulled, fun offered => ?_⟩
  obtain ⟨page', inside, item, inItems, -⟩ := offered row mem holds.1.1 holds.1.2 (by rw [cursor, holds.2])
  rw [mem_singleton.1 inside, none] at inItems
  cases inItems

theorem offered_or_omitted_sample :
    ∃ config page, run (erpnextServer fun _ => true) (mappedEvents ++ pullEvents 5) = some config ∧
      Connector config (sample 0) [page] (some 1) ∧
      (∃ row ∈ postingsOf config.ledger, row.sequence = 1 ∧ (page.Offers row ∨ page.Omitted config row)) := by
  have ran : (run (erpnextServer fun _ => true) (mappedEvents ++ pullEvents 5)).any (fun config =>
      (answeredPage config 5).any fun page => page.input = samplePull ∧ page.cursor = 1 ∧
        contents (config.commits.drop page.seen) = [] ∧ (postingsOf config.ledger).any fun row =>
          row.tenantId = sample 0 && row.status = .pending && row.sequence = 1) = true := by
    decide +kernel
  obtain ⟨config, ran, seen⟩ := (any_eq_true _ _).1 ran
  obtain ⟨page, answered, seen⟩ := (any_eq_true _ _).1 seen
  obtain ⟨input, cursor, nothing, seen⟩ := of_decide_eq_true seen
  obtain ⟨row, mem, holds⟩ := List.any_eq_true.1 seen
  simp only [and_eq_true, decide_eq_true_eq] at holds
  have pulled := answeredPage_pulled answered
  rw [input] at pulled
  have connector : Connector config (sample 0) ([] ++ [page]) (some page.cursor) := .pull .idle pulled
  have timely : ∀ page' ∈ [] ++ [page], page'.Timely config (sample 0) := by
    intro page' inside other _ _ write late
    rw [mem_singleton.1 inside, nothing] at late
    cases late
  obtain ⟨page', inside, outcome⟩ := offered_or_omitted (run_reachable _ ran) connector timely row
    mem holds.1.1 holds.1.2 ⟨page.cursor, rfl, by rw [cursor, holds.2]⟩
  obtain rfl := mem_singleton.1 inside
  exact ⟨config, page', ran, cursor ▸ connector, row, mem, holds.2, outcome⟩

def secondEvent : PostingRequestedEvent := { sampleEvent with
  payload := .object (.text (sample 9).text) (.text (sample 1).text) (.text "sale_post")
    (.text (sample 9).text) }

/-- Two sales are posted, and the connector fails on the first: its posting takes the next place. -/
def reheadEvents : List (Event Fresh PgError Call) :=
  (mappedEvents ++ recordEvents 5 (.sale { sampleSale with id := sample 9, externalId := "s-2" })).append
    [.start ⟨2, .handle secondEvent⟩, .ask 6, .ask 6, .draw 6 (.uuid (sample 5)), .draw 6 (.sequence 1), .ask 6,
      .stop 6 none, .start ⟨4, .ackOutcome ⟨sample 0, sample 4, .failedTransient, none, none⟩⟩, .ask 7,
      .draw 7 (.sequence 2), .ask 7, .stop 7 none]

theorem place_of_one_sample :
    ∃ config, run (erpnextServer fun _ => true) reheadEvents = some config ∧
      (postingsOf (contents (config.commits.take 7))).map (·.sequence) = [1, 2] ∧
      (postingsOf config.ledger).map (·.sequence) = [3, 2] ∧
      ∀ row ∈ postingsOf (contents (config.commits.take 7)), ∀ row' ∈ postingsOf config.ledger, row.sequence =
      row'.sequence → row.id = row'.id := by
  have ran : (run (erpnextServer fun _ => true) reheadEvents).any (fun config =>
      (postingsOf (contents (config.commits.take 7))).map (·.sequence) = [1, 2] &&
        (postingsOf config.ledger).map (·.sequence) = [3, 2]) = true := by
    decide +kernel
  obtain ⟨config, ran, places⟩ := (any_eq_true _ _).1 ran
  simp only [and_eq_true, decide_eq_true_eq] at places
  refine ⟨config, ran, places.1, places.2, fun row mem row' mem' same => ?_⟩
  exact (place_of_one (run_reachable _ ran) (take_append_drop 7 config.commits).symm (append_nil _).symm mem mem'
    same).1

end DataPulse.Erpnext
