/-
**A snapshot read page by page.**

* `snapshot_yields_iff`: they hold the resolved sellable catalogue exactly if none of them is cut.
-/

import DataPulse.Lib.Paging
import DataPulse.Platform.Strings
import DataPulse.ReadDown.View

namespace DataPulse.ReadDown

open Lib Platform
open Lib.Paging (window emitted continues remaining Walk Start Cut)

variable {catalogue : Catalogue} {tenantId storeId : Uuid}
variable {row : SellableCatalogRow}

/-! ### The order of the pages -/

/-- `ORDER BY tp.id`. -/
def byId (first second : Product) : Prop := first.id.precedes second.id = true

instance : DecidableRel byId := fun first second =>
  inferInstanceAs (Decidable (first.id.precedes second.id = true))

instance : Std.Total byId := ⟨fun first second => Uuid.precedes_total first.id second.id⟩

instance : IsTrans Product byId := ⟨fun _ _ _ one two => Uuid.precedes_trans one two⟩

/-- `second.id > first.id`. -/
def before (first second : Product) : Bool := !second.id.precedes first.id

theorem before_strict (first second : Product) (order : before first second = true) : before second first =
    false := by
  simp only [before, not_eq_true', Bool.not_eq_false'] at order ⊢
  rcases Uuid.precedes_total first.id second.id with ahead | behind
  · exact ahead
  · rw [behind] at order
    cases order

/-- The products of the tenant, in the order of the pages. -/
def tenantProducts (catalogue : Catalogue) (tenantId : Uuid) : List Product :=
  (catalogue.products.filter fun product => product.tenantId = tenantId).insertionSort byId

def productsAfter (catalogue : Catalogue) (tenantId : Uuid) (afterProductId : Option Uuid) :
    List Product :=
  (tenantProducts catalogue tenantId).filter fun product =>
    afterProductId.all fun last => !product.id.precedes last

section Order

theorem tenantProducts_perm :
    (tenantProducts catalogue tenantId).Perm
      (catalogue.products.filter fun product => product.tenantId = tenantId) :=
  perm_insertionSort _ _

theorem mem_tenantProducts {product : Product} :
    product ∈ tenantProducts catalogue tenantId ↔
      product ∈ catalogue.products ∧ product.tenantId = tenantId := by
  rw [tenantProducts_perm.mem_iff, mem_filter, decide_eq_true_eq]

variable (keys : (catalogue.products.map Product.id).Nodup)

include keys

/-- **The order of the pages is strict.** -/
theorem tenantProducts_sorted :
    (tenantProducts catalogue tenantId).Pairwise fun first second => before first second = true := by
  have distinct : (tenantProducts catalogue tenantId).Pairwise fun first second =>
      first.id ≠ second.id := by
    refine pairwise_map.1 ?_
    refine (tenantProducts_perm.map Product.id).nodup_iff.2 ?_
    exact keys.sublist (filter_sublist.map Product.id)
  refine ((pairwise_insertionSort byId _).and distinct).imp ?_
  intro first second ⟨ordered, unlike⟩
  rw [before, not_eq_true']
  by_contra back
  exact unlike (Uuid.precedes_antisymm ordered (eq_true_of_not_eq_false back))

theorem selectProducts_paginated (afterProductId : Option Uuid) (limit : Nat) :
    selectProducts catalogue tenantId (.paginated afterProductId limit) =
      (productsAfter catalogue tenantId afterProductId).take limit := by
  have selected : (catalogue.products.filter ((Mode.paginated afterProductId limit).selects tenantId))
      = (catalogue.products.filter fun product => product.tenantId = tenantId).filter fun product =>
          afterProductId.all fun last => !product.id.precedes last := by
    rw [filter_filter]
    refine filter_congr fun product _ => ?_
    rw [Mode.selects, Bool.and_comm]
  rw [selectProducts, Mode.limits]
  congr 1
  refine List.Perm.eq_of_pairwise ?_ (pairwise_insertionSort byId _)
    ((pairwise_insertionSort byId _).filter _) ?_
  · intro first second inOne inTwo one two
    have there := (mem_filter.1 ((mem_insertionSort _).1 inOne)).1
    have here := (mem_tenantProducts.1 (mem_filter.1 inTwo).1).1
    exact inj_on_of_nodup_map keys there here (Uuid.precedes_antisymm one two)
  · change ((catalogue.products.filter _).insertionSort byId).Perm _
    rw [selected]
    exact (perm_insertionSort byId _).trans ((perm_insertionSort byId _).filter _).symm

omit keys in
theorem productsAfter_last {afterProductId : Option Uuid} {last : Product}
    (inside : last ∈ productsAfter catalogue tenantId afterProductId) :
    productsAfter catalogue tenantId (some last.id) =
      (productsAfter catalogue tenantId afterProductId).filter (before last) := by
  rw [productsAfter, productsAfter, filter_filter]
  refine filter_congr fun product _ => ?_
  change before last product = (before last product && _)
  cases order : before last product with
  | false => rfl
  | true =>
    cases afterProductId with
    | none => rfl
    | some first =>
      -- Behind the last product is behind where the page began.
      have ahead := (mem_filter.1 inside).2
      simp only [all_some, not_eq_true'] at ahead ⊢
      rw [Bool.true_and, eq_comm, not_eq_true']
      by_contra back
      simp only [before, not_eq_true'] at order
      have behind : last.id.precedes product.id = true :=
        (Uuid.precedes_total last.id product.id).resolve_right (by simp [order])
      have joined := Uuid.precedes_trans behind (eq_true_of_not_eq_false back)
      rw [ahead] at joined
      cases joined

end Order

/-! ### One page -/

section Page

variable (catalogue : Catalogue) (tenantId storeId : Uuid)
variable {α β : Type} {bring : α → Option β} {rows : List α}

def sells (product : Product) : Bool :=
  (mergedRow product (storeOverride catalogue tenantId storeId product.id)
    (skuOf catalogue tenantId storeId product.id)
    (aliasesOf catalogue tenantId storeId product.id)).isSome

def offer (headSeq : Nat) (product : Product) : Option ResolvedCatalogRow :=
  (classifySellable (resolveRow catalogue tenantId storeId headSeq product)).row?

variable {catalogue tenantId storeId} {headSeq : Nat} {product : Product}

theorem offer_isSome (headSeq : Nat) :
    (offer catalogue tenantId storeId headSeq product).isSome = sells catalogue tenantId storeId product := by
  rw [offer, sells, ← resolveRow_content catalogue tenantId storeId headSeq product, isSome_map]

theorem offer_id {row : ResolvedCatalogRow}
    (offered : offer catalogue tenantId storeId headSeq product = some row) : row.productId = product.id := by
  unfold offer classifySellable at offered
  dsimp only at offered
  split at offered
  · split_ifs at offered
    · cases offered
    · cases offered
    · rw [← Option.some.inj offered]
      rfl
  · cases offered

theorem take_filterMap (all : ∀ row ∈ rows, (bring row).isSome) (count : Nat) :
    (rows.filterMap bring).take count = (rows.take count).filterMap bring := by
  induction rows generalizing count with
  | nil => simp
  | cons row rest ih =>
    obtain ⟨value, brings⟩ := isSome_iff_exists.1 (all row mem_cons_self)
    cases count with
    | zero => rfl
    | succ count =>
      rw [filterMap_cons_some brings, take_succ_cons, take_succ_cons,
        filterMap_cons_some brings, ih fun other inside => all other (.tail _ inside)]

theorem filterMap_filter {keep : α → Bool} (same : ∀ row ∈ rows, (bring row).isSome = keep row) :
    (rows.filter keep).filterMap bring = rows.filterMap bring := by
  rw [← List.filterMap_eq_filter, List.filterMap_filterMap]
  refine filterMap_congr fun row inside => ?_
  cases brings : bring row <;> simp [Option.guard, ← same row inside, brings]

theorem length_filterMap (all : ∀ row ∈ rows, (bring row).isSome) : (rows.filterMap bring).length =
    rows.length := by
  induction rows with
  | nil => rfl
  | cons row rest ih =>
    obtain ⟨value, brings⟩ := isSome_iff_exists.1 (all row mem_cons_self)
    rw [filterMap_cons_some brings, length_cons, length_cons, ih fun other inside => all other (.tail _ inside)]

/-- **The rows of a page.** -/
theorem emittedRows_eq (limit : Nat) (rows : List Product) :
    emittedRows limit ((window limit rows).map (resolveRow catalogue tenantId storeId headSeq)) =
      (emitted limit (sells catalogue tenantId storeId) rows).filterMap
      (offer catalogue tenantId storeId headSeq) := by
  rw [emittedRows, filterMap_map, emitted]
  change ((window limit rows).filterMap (offer catalogue tenantId storeId headSeq)).take limit = _
  rw [← filterMap_filter (fun _ _ => offer_isSome headSeq), take_filterMap]
  intro row inside
  rw [offer_isSome]
  exact (mem_filter.1 inside).2

theorem sells_of_emitted {limit : Nat} {rows : List Product}
    (inside : product ∈ emitted limit (sells catalogue tenantId storeId) rows) :
    product ∈ rows ∧ sells catalogue tenantId storeId product = true := by
  obtain ⟨inWindow, kept⟩ := mem_filter.1 (mem_of_mem_take inside)
  exact ⟨mem_of_mem_take inWindow, kept⟩

theorem lastProductId_eq (limit : Nat) (rows : List Product) :
    ((emittedRows limit
          ((window limit rows).map (resolveRow catalogue tenantId storeId headSeq))).getLast?.map
        ResolvedCatalogRow.productId) =
      (emitted limit (sells catalogue tenantId storeId) rows).getLast?.map Product.id := by
  rw [emittedRows_eq, ← List.getLast?_map, ← List.getLast?_map]
  congr 1
  have all : ∀ product ∈ emitted limit (sells catalogue tenantId storeId) rows, sells catalogue tenantId storeId
    product = true := fun product inside => (sells_of_emitted inside).2
  generalize emitted limit (sells catalogue tenantId storeId) rows = handed at all
  induction handed with
  | nil => rfl
  | cons product rest ih =>
    have some := all product mem_cons_self
    rw [← offer_isSome headSeq] at some
    obtain ⟨row, offered⟩ := isSome_iff_exists.1 some
    rw [filterMap_cons_some offered, map_cons, map_cons, offer_id offered,
      ih fun other inside => all other (.tail _ inside)]

/-- **A page of `getSnapshot` is a page of the walk.** -/
theorem snapshotPage_walk (limit : Nat) (cursor : Token SnapshotCursor) (rows : List Product) :
    snapshotPage tenantId storeId limit cursor
        ((window limit rows).map (resolveRow catalogue tenantId storeId headSeq)) =
      { items := ((emitted limit (sells catalogue tenantId storeId) rows).filterMap
          (offer catalogue tenantId storeId headSeq)).map fun row => toSellableRow row cursor
        cursor
        nextPageToken :=
          if continues before limit (sells catalogue tenantId storeId) rows then
            (emitted limit (sells catalogue tenantId storeId) rows).getLast?.map fun last =>
              encodePageToken ⟨tenantId, storeId, last.id⟩
          else none } := by
  unfold snapshotPage
  dsimp only
  rw [lastProductId_eq, emittedRows_eq, continues]
  cases (emitted limit (sells catalogue tenantId storeId) rows).getLast? with
  | none => simp
  | some last =>
    have same : (fun product : Product => !product.id.precedes last.id) = before last := rfl
    simp only [map_some, hasMore, List.any_map, Function.comp_def, resolveRow]
    rw [same]

end Page

/-! ### The resolved sellable catalogue -/

def SellableCatalogRow.content (row : SellableCatalogRow) : SellableCatalogRow :=
  { row with rowCursor := .row 0 }

def offered (catalogue : Catalogue) (tenantId storeId productId : Uuid) : Option SellableCatalogRow :=
  (sellableRow catalogue tenantId storeId productId).map fun row =>
    (toSellableRow row .malformed).content

def sellableCatalogue (catalogue : Catalogue) (tenantId storeId : Uuid) : List SellableCatalogRow :=
  (catalogue.products.filter fun product => product.tenantId = tenantId).filterMap fun product =>
    offered catalogue tenantId storeId product.id

section Offered

variable (keys : (catalogue.products.map Product.id).Nodup)

include keys

theorem offer_content (headSeq : Nat) (cursor : Token SnapshotCursor) {product : Product}
    (inside : product ∈ tenantProducts catalogue tenantId) :
    (offer catalogue tenantId storeId headSeq product).map (fun row => (toSellableRow row cursor).content) =
      offered catalogue tenantId storeId product.id := by
  obtain ⟨there, rfl⟩ := mem_tenantProducts.1 inside
  rw [offered, sellableRow_of_mem keys there, ← resolveRow_content catalogue _ storeId headSeq product,
    Option.map_map]
  rfl

end Offered

theorem mergedRow_id {product : Product} {spo : Option Override} {sku : Option String}
    {aliases : Option (List String)} {row : ResolvedCatalogRow}
    (merged : mergedRow product spo sku aliases = some row) : row.productId = product.id := by
  unfold mergedRow classifySellable at merged
  dsimp only at merged
  split at merged
  · split_ifs at merged
    · cases merged
    · cases merged
    · rw [← Option.some.inj merged]
  · cases merged

theorem offered_of {productId : Uuid} (brings : offered catalogue tenantId storeId productId = some row) :
    row.productId = productId ∧
      ∃ product ∈ catalogue.products, product.tenantId = tenantId ∧ product.id = productId := by
  obtain ⟨resolved, sells, rfl⟩ := map_eq_some_iff.1 brings
  rw [sellableRow_eq] at sells
  obtain ⟨product, found, merged⟩ := bind_eq_some_iff.1 sells
  obtain ⟨inside, tenant, id⟩ := product?_id found
  exact ⟨(mergedRow_id merged).trans id, product, inside, tenant, id⟩

theorem mem_sellableCatalogue :
    row ∈ sellableCatalogue catalogue tenantId storeId ↔
      offered catalogue tenantId storeId row.productId = some row := by
  unfold sellableCatalogue
  rw [mem_filterMap]
  constructor
  · rintro ⟨product, -, brings⟩
    rw [(offered_of brings).1]
    exact brings
  · intro brings
    obtain ⟨-, product, inside, tenant, id⟩ := offered_of brings
    exact ⟨product, mem_filter.2 ⟨inside, decide_eq_true tenant⟩, id ▸ brings⟩

/-! ### The walk -/

/-- The pages from a token until the token is null, with no change in between. -/
inductive Follows (catalogue : Catalogue) (tenantId storeId : Uuid) (limit : Option ℚ) :
    Option (Token PageTokenPayload) → List CatalogSnapshotPage → Prop where
  | last {pageToken : Option (Token PageTokenPayload)} {page : CatalogSnapshotPage}
      (answered : getSnapshot tenantId storeId limit pageToken none catalogue catalogue = .ok page)
      (ends : page.nextPageToken = none) :
      Follows catalogue tenantId storeId limit pageToken [page]
  | next {pageToken : Option (Token PageTokenPayload)} {page : CatalogSnapshotPage}
      {token : Token PageTokenPayload} {pages : List CatalogSnapshotPage}
      (answered : getSnapshot tenantId storeId limit pageToken none catalogue catalogue = .ok page)
      (goes : page.nextPageToken = some token)
      (onward : Follows catalogue tenantId storeId limit (some token) pages) :
      Follows catalogue tenantId storeId limit pageToken (page :: pages)

/-- The pages hold the resolved sellable catalogue: every product of it once, and no other. -/
def Yields (catalogue : Catalogue) (tenantId storeId : Uuid) (pages : List CatalogSnapshotPage) : Prop :=
  ((pages.flatMap CatalogSnapshotPage.items).map SellableCatalogRow.content).Perm
    (sellableCatalogue catalogue tenantId storeId)

/-- No page of the walk hides a sellable product: none has a full window that holds no sellable product,
or an excluded one and a sellable one at its end, while a sellable product follows. -/
def Uncut (catalogue : Catalogue) (tenantId storeId : Uuid) (limit : Nat) : Prop :=
  ∀ start, Start before limit (sells catalogue tenantId storeId) (tenantProducts catalogue tenantId)
    start → ¬ Cut limit (sells catalogue tenantId storeId) start

section Walks

variable {limit : Option ℚ}

theorem Follows.unique {pageToken : Option (Token PageTokenPayload)} {pages others : List CatalogSnapshotPage}
    (follows : Follows catalogue tenantId storeId limit pageToken pages)
    (other : Follows catalogue tenantId storeId limit pageToken others) : others = pages := by
  induction follows generalizing others with
  | last answered ends =>
    cases other with
    | last again _ => rw [Except.ok.inj (again.symm.trans answered)]
    | next again goes _ =>
      rw [Except.ok.inj (again.symm.trans answered), ends] at goes
      cases goes
  | next answered goes _ ih =>
    cases other with
    | last again ends =>
      rw [Except.ok.inj (again.symm.trans answered), goes] at ends
      cases ends
    | next again goes' onward =>
      have same := Except.ok.inj (again.symm.trans answered)
      rw [same, goes] at goes'
      obtain rfl := Option.some.inj goes'
      rw [same, ih onward]

theorem clampLimit_pos (limit : Option ℚ) : 0 < clampLimit limit := by
  unfold clampLimit
  cases limit with
  | none => decide
  | some limit =>
    dsimp only
    split_ifs with small
    · decide
    · have large : 0 < ⌊limit⌋.toNat := by omega
      exact lt_min large (by decide)

variable (keys : (catalogue.products.map Product.id).Nodup)

include keys

theorem getSnapshot_eq (afterProductId : Option Uuid) :
    getSnapshot tenantId storeId limit
      (afterProductId.map fun last => encodePageToken ⟨tenantId, storeId, last⟩) none catalogue catalogue =
      .ok
      (snapshotPage tenantId storeId (clampLimit limit)
        (encodeCursor ⟨tenantId, storeId, (headSequence tenantId catalogue).getD 0⟩)
        ((window (clampLimit limit) (productsAfter catalogue tenantId afterProductId)).map
          (resolveRow catalogue tenantId storeId ((headSequence tenantId catalogue).getD 0)))) := by
  cases afterProductId with
  | none =>
    change Except.ok _ = _
    rw [resolveProducts, selectProducts_paginated keys]
    rfl
  | some last =>
    simp only [getSnapshot, map_some, encodePageToken, decodePageToken, ne_eq,
      not_true_eq_false, decide_false, Bool.or_self, false_eq_true, if_false]
    change Except.ok _ = _
    rw [resolveProducts, selectProducts_paginated keys]
    rfl

/-- **The pages of `getSnapshot` are the pages of the walk.** -/
theorem follows_of_walk {rows : List Product} {handed : List (List Product)}
    (walk : Walk before (clampLimit limit) (sells catalogue tenantId storeId) rows handed)
    {afterProductId : Option Uuid} (start : rows = productsAfter catalogue tenantId afterProductId) :
    ∃ pages, Follows catalogue tenantId storeId limit
      (afterProductId.map fun last => encodePageToken ⟨tenantId, storeId, last⟩) pages ∧
      (pages.flatMap CatalogSnapshotPage.items).map SellableCatalogRow.content =
      handed.flatten.filterMap fun product => offered catalogue tenantId storeId product.id := by
  -- The items of one page.
  have items : ∀ {rows : List Product} {afterProductId : Option Uuid} {cursor : Token SnapshotCursor},
      rows = productsAfter catalogue tenantId afterProductId →
      (((emitted (clampLimit limit) (sells catalogue tenantId storeId) rows).filterMap
          (offer catalogue tenantId storeId ((headSequence tenantId catalogue).getD 0))).map
        (fun row => toSellableRow row cursor)).map SellableCatalogRow.content =
      (emitted (clampLimit limit) (sells catalogue tenantId storeId) rows).filterMap fun product =>
      offered catalogue tenantId storeId product.id := by
    intro rows afterProductId cursor start
    rw [map_map, List.map_filterMap]
    refine filterMap_congr fun product inside => ?_
    refine offer_content keys _ cursor ?_
    rw [start] at inside
    exact (mem_filter.1 (sells_of_emitted inside).1).1
  induction walk generalizing afterProductId with
  | @last rows ends =>
    refine ⟨_, .last (getSnapshot_eq keys afterProductId) ?_, ?_⟩
    · rw [snapshotPage_walk, ← start, ends]
      rfl
    · rw [List.flatMap_singleton, List.flatten_singleton, snapshotPage_walk, ← start]
      exact items start
  | @next rows handed goes _ ih =>
    cases tail : (emitted (clampLimit limit) (sells catalogue tenantId storeId) rows).getLast? with
    | none => simp [continues, tail] at goes
    | some last =>
      have inside : last ∈ productsAfter catalogue tenantId afterProductId :=
        start ▸ (sells_of_emitted (mem_of_getLast? tail)).1
      have rest : remaining before (clampLimit limit) (sells catalogue tenantId storeId) rows =
          productsAfter catalogue tenantId (some last.id) := by
        rw [productsAfter_last inside, remaining, tail, start]
      obtain ⟨pages, follows, hands⟩ := ih rest
      refine ⟨_, .next (getSnapshot_eq keys afterProductId) ?_ follows, ?_⟩
      · rw [snapshotPage_walk, ← start, goes, tail]
        rfl
      · rw [flatMap_cons, map_append, hands, List.flatten_cons, filterMap_append, snapshotPage_walk, ← start]
        congr 1
        exact items start

theorem follows_yields (tenantId storeId : Uuid) (limit : Option ℚ) :
    ∃ pages, Follows catalogue tenantId storeId limit none pages ∧
      (Yields catalogue tenantId storeId pages ↔ Uncut catalogue tenantId storeId (clampLimit limit)) := by
  have sorted : (tenantProducts catalogue tenantId).Pairwise fun first second =>
      before first second = true := tenantProducts_sorted keys
  have walks : ∃ handed, Walk before (clampLimit limit) (sells catalogue tenantId storeId)
      (tenantProducts catalogue tenantId) handed := Walk.total before_strict _ sorted
  obtain ⟨handed, walk⟩ := walks
  have start : tenantProducts catalogue tenantId = productsAfter catalogue tenantId none := by
    simp [productsAfter]
  obtain ⟨pages, follows, hands⟩ := follows_of_walk keys walk start
  refine ⟨pages, follows, ?_⟩
  rw [Uncut, ← walk.emits_iff (clampLimit_pos limit) sorted before_strict, Yields, hands]
  let brings : Product → Option SellableCatalogRow :=
    fun product => offered catalogue tenantId storeId product.id
  have same : ∀ product ∈ tenantProducts catalogue tenantId,
      (brings product).isSome = sells catalogue tenantId storeId product := by
    intro product inside
    rw [← offer_isSome 0]
    change (offered catalogue tenantId storeId product.id).isSome = _
    rw [← offer_content keys 0 .malformed inside, isSome_map]
  have all : ((tenantProducts catalogue tenantId).filter (sells catalogue tenantId storeId)).filterMap brings
        |>.Perm
        (sellableCatalogue catalogue tenantId storeId) := by
    rw [filterMap_filter same]
    exact tenantProducts_perm.filterMap brings
  have sold : ∀ product ∈ (tenantProducts catalogue tenantId).filter
      (sells catalogue tenantId storeId), (brings product).isSome := by
    intro product inside
    obtain ⟨there, sellable⟩ := mem_filter.1 inside
    rw [same product there, sellable]
  constructor
  · -- As many rows of a sublist are the whole list.
    intro perm
    have part := walk.sublist before_strict sorted
    have lengths := (perm.trans all.symm).length_eq
    rw [length_filterMap sold,
      length_filterMap fun product inside => sold product (part.subset inside)] at lengths
    exact part.eq_of_length lengths
  · intro whole
    rw [whole]
    exact all

end Walks

/-- **The pages from no token until the token is null are the resolved sellable catalogue exactly if no
page hides a sellable product.** -/
theorem snapshot_yields_iff {catalogue : Catalogue} {reference : Reference}
    (fits : WellFormed reference catalogue) (tenantId storeId : Uuid) (limit : Option ℚ) :
    ∃ pages, Follows catalogue tenantId storeId limit none pages ∧
      (∀ others, Follows catalogue tenantId storeId limit none others → others = pages) ∧
      (Yields catalogue tenantId storeId pages ↔ Uncut catalogue tenantId storeId (clampLimit limit)) := by
  obtain ⟨pages, follows, yields⟩ := follows_yields fits.1.1 tenantId storeId limit
  exact ⟨pages, follows, fun _ other => follows.unique other, yields⟩

theorem shelf_named : 1 ≤ "product".length ∧ "product".length ≤ 500 := by
  decide

def shelfProduct (isActive : Bool) (id : Uuid) : Product where
  id
  tenantId := sample 0
  name := "product"
  defaultPrice := some ⟨10000, by decide⟩
  defaultCurrencyCode := some "USD"
  isActive
  taxCategory := "standard"
  retiredAt := none
  named := shelf_named
  paired := rfl
  taxed := by decide
  priced := by simp

/-- Two products that are not sellable, and a third one that is. -/
def hidingShelf : Catalogue where
  products := [shelfProduct false (sample 1), shelfProduct false (sample 2),
    shelfProduct true (sample 3)]
  overrides := []
  aliases := []
  log := []

theorem snapshot_yields_sample :
    ∃ pages, Follows hidingShelf (sample 0) (sample 9) (some 1) none pages ∧
      (∀ others, Follows hidingShelf (sample 0) (sample 9) (some 1) none others → others = pages) ∧
      (Yields hidingShelf (sample 0) (sample 9) pages ↔
        Uncut hidingShelf (sample 0) (sample 9) (clampLimit (some 1))) := by
  have fits : WellFormed ⟨fun _ => true, fun _ => some (sample 0)⟩ hidingShelf := by decide
  exact snapshot_yields_iff fits _ _ _

/-- **At one product a page, the first page sees two that are not sellable and ends the walk: the third is
never handed out.** -/
theorem hidden_behind_window :
    ∃ pages, Follows hidingShelf (sample 0) (sample 9) (some 1) none pages ∧
      ¬ Yields hidingShelf (sample 0) (sample 9) pages := by
  have keys : (hidingShelf.products.map Product.id).Nodup := by decide
  obtain ⟨pages, follows, yields⟩ := follows_yields keys (sample 0) (sample 9) (some 1)
  refine ⟨pages, follows, fun whole => yields.1 whole _ .first ?_⟩
  have one : clampLimit (some 1) = 1 := by
    simp [clampLimit, maxLimit]
  rw [one]
  unfold Cut
  decide +kernel

end DataPulse.ReadDown
