/-
**The resolver and the two reads of a terminal.**

* `resolveProducts`: `Tenant ⊕ Store Override` for the products of a page, or for given products. At most
  one override joins a product (`UQ_idx_store_product_overrides_product_store`). Rows that an `ORDER BY`
  does not tell apart stand in the order of their table;
* `classifySellable`, `isRepresentable`, `toSellableRow`: what is sellable, and its wire form;
* `getSnapshot`, `getDeltas`: every statement of a READ COMMITTED transaction sees its own contents, so
  each takes the contents at each of its statements.

A token is opaque to the terminal: it is what the text decodes to. The metric of
`recordCatalogUnpricedIssue` is left out.
-/

import DataPulse.ReadDown.Catalogue

namespace DataPulse.ReadDown

open Lib Platform
open Unknowns (Identifier IdentifierType)

/-! ### Resolution -/

structure ResolvedRow where
  productId : Uuid
  sku : Option String
  aliases : Option (List String)
  name : String
  resolvedPrice : Option String
  resolvedCurrency : Option String
  resolvedTaxCategory : String
  resolvedActive : Bool
  retiredAt : Option Int
  rowSequence : Option Nat

/-- Which products a resolution is about. -/
inductive Mode where
  | paginated (afterProductId : Option Uuid) (limit : Nat)
  | targeted (productIds : List Uuid)

/-- `pa.tenant_id = tp.tenant_id AND pa.product_id = tp.id AND pa.retired_at IS NULL AND (pa.store_id IS
NULL OR pa.store_id = $2)`. -/
def Alias.reaches (tenantId storeId productId : Uuid) (row : Alias) : Bool :=
  row.tenantId = tenantId && row.productId = productId && row.retiredAt.isNone &&
    row.storeId.all (· = storeId)

/-- `identifier_type = 'sku'`. -/
def Alias.isSku (row : Alias) : Bool := row.identifier.identifierType = .sku

/-- `ORDER BY store_id NULLS LAST`, among the aliases of one store and of the tenant. -/
def nullsLast (first second : Option Uuid) : Prop := first.isNone ≤ second.isNone

instance : DecidableRel nullsLast := fun first second =>
  inferInstanceAs (Decidable (first.isNone ≤ second.isNone))

section Resolution

variable (catalogue : Catalogue) (tenantId storeId : Uuid)

def storeOverride (productId : Uuid) : Option Override :=
  catalogue.overrides.find? fun row => row.tenantId = tenantId && row.storeId = storeId &&
    row.productId = productId && row.retiredAt.isNone

/-- The `sku` of the product at the store. -/
def skuOf (productId : Uuid) : Option String :=
  ((catalogue.aliases.filter fun row => row.reaches tenantId storeId productId && row.isSku).insertionSort
    fun first second => nullsLast first.storeId second.storeId).head?.map fun row =>
      row.identifier.value

/-- The `aliases` of the product at the store: `array_agg` of no row is `NULL`. -/
def aliasesOf (productId : Uuid) : Option (List String) :=
  let values := (catalogue.aliases.filter fun row =>
    row.reaches tenantId storeId productId && !row.isSku).map fun row => row.identifier.value
  if values = [] then none else some (values.insertionSort (· ≤ ·))

/-- `SELECT max(ccl.sequence) …`: the last log row of the product for the store up to the head. -/
def rowSequenceOf (headSeq : Nat) (productId : Uuid) : Option Nat :=
  ((catalogue.log.filter fun row => row.tenantId = tenantId && row.productId = productId &&
    row.storeId.all (· = storeId) && row.sequence ≤ headSeq).map ChangeLogRow.sequence).max?

def resolveRow (headSeq : Nat) (product : Product) : ResolvedRow :=
  let spo := storeOverride catalogue tenantId storeId product.id
  { productId := product.id
    sku := skuOf catalogue tenantId storeId product.id
    aliases := aliasesOf catalogue tenantId storeId product.id
    name := product.name
    resolvedPrice := ((spo.bind Override.price).or product.defaultPrice).map Numeric.text
    resolvedCurrency := (spo.bind Override.currencyCode).or product.defaultCurrencyCode
    resolvedTaxCategory := (spo.bind Override.taxCategory).getD product.taxCategory
    resolvedActive := (spo.bind Override.isActive).getD product.isActive
    retiredAt := product.retiredAt
    rowSequence := rowSequenceOf catalogue tenantId storeId headSeq product.id }

/-- `WHERE tp.tenant_id = $1 AND (…)`. -/
def Mode.selects : Mode → Product → Bool
  | paginated afterProductId _, product => product.tenantId = tenantId &&
      afterProductId.all fun last => !product.id.precedes last
  | targeted productIds, product => product.tenantId = tenantId && product.id ∈ productIds

/-- `LIMIT $6`, in the paginated mode. -/
def Mode.limits {α : Type} : Mode → List α → List α
  | paginated _ limit, rows => rows.take limit
  | targeted _, rows => rows

/-- The products of a mode, `ORDER BY tp.id`. -/
def selectProducts (mode : Mode) : List Product :=
  mode.limits ((catalogue.products.filter (mode.selects tenantId)).insertionSort
    fun first second => first.id.precedes second.id = true)

def resolveProducts (headSeq : Nat) (mode : Mode) : List ResolvedRow :=
  (selectProducts catalogue tenantId mode).map (resolveRow catalogue tenantId storeId headSeq)

end Resolution

/-! ### What is sellable -/

/-- A sellable row as the resolver hands it on. -/
structure ResolvedCatalogRow where
  productId : Uuid
  sku : String
  name : String
  aliases : List String
  amount : String
  currencyCode : String
  taxCategory : String
  rowSequence : Option Nat

/-- `MINOR_UNIT_EXPONENT[currencyCode] ?? DEFAULT_MINOR_UNIT`. -/
def minorUnitExponent : String → Nat
  | "EGP" => 2
  | "USD" => 2
  | "EUR" => 2
  | "GBP" => 2
  | "SAR" => 2
  | "AED" => 2
  | "JPY" => 0
  | "KWD" => 3
  | "BHD" => 3
  | _ => 2

def fractionText (amount : String) : List Char := (amount.toList.dropWhile (· ≠ '.')).drop 1

def significantFractionDigits (amount : String) : Nat :=
  ((fractionText amount).reverse.dropWhile (· = '0')).length

/-- The amount has no more fraction digits than the currency. -/
def isRepresentable (amount currencyCode : String) : Bool :=
  significantFractionDigits amount ≤ minorUnitExponent currencyCode

/-- The verdict of `classifySellable`. -/
inductive Sellability where
  | sellable (row : ResolvedCatalogRow)
  | excluded (priceRelated : Bool)

def classifySellable (row : ResolvedRow) : Sellability :=
  let active := row.resolvedActive && row.retiredAt.isNone
  match row.resolvedPrice, row.resolvedCurrency with
  | some amount, some currencyCode =>
    if !isRepresentable amount currencyCode then .excluded true
    else if !active then .excluded false
    else
      .sellable
        { productId := row.productId
          sku := row.sku.getD row.productId.text
          name := row.name
          aliases := row.aliases.getD []
          amount
          currencyCode
          taxCategory := row.resolvedTaxCategory
          rowSequence := row.rowSequence }
  | _, _ => .excluded active

def Sellability.row? : Sellability → Option ResolvedCatalogRow
  | sellable row => some row
  | excluded _ => none

/-! ### Tokens -/

structure ReadDownCursorError where
  message : String

/-- An opaque token: what its text decodes to. -/
inductive Token (Payload : Type) where
  | malformed
  | carrying (payload : Payload)
  deriving DecidableEq

structure SnapshotCursor where
  tenantId : Uuid
  storeId : Uuid
  sequence : Nat
  deriving DecidableEq

structure PageTokenPayload where
  tenantId : Uuid
  storeId : Uuid
  afterProductId : Uuid

def encodeCursor (cursor : SnapshotCursor) : Token SnapshotCursor := .carrying cursor

def decodeCursor (token : Token SnapshotCursor) (tenantId storeId : Uuid) :
    Except ReadDownCursorError SnapshotCursor :=
  match token with
  | .malformed => .error ⟨"malformed cursor"⟩
  | .carrying payload =>
    if payload.tenantId ≠ tenantId || payload.storeId ≠ storeId then
      .error ⟨"cursor scope mismatch"⟩
    else .ok ⟨tenantId, storeId, payload.sequence⟩

def encodePageToken (payload : PageTokenPayload) : Token PageTokenPayload := .carrying payload

def decodePageToken (token : Token PageTokenPayload) (tenantId storeId : Uuid) :
    Except ReadDownCursorError Uuid :=
  match token with
  | .malformed => .error ⟨"malformed page_token"⟩
  | .carrying payload =>
    if payload.tenantId ≠ tenantId || payload.storeId ≠ storeId then
      .error ⟨"page_token scope mismatch"⟩
    else .ok payload.afterProductId

/-! ### The wire form -/

/-- `row_cursor`: the row's own sequence, or the cursor of the response. -/
inductive RowCursor where
  | row (sequence : Nat)
  | response (cursor : Token SnapshotCursor)
  deriving DecidableEq

structure Price where
  amount : String
  currencyCode : String
  deriving DecidableEq

structure SellableCatalogRow where
  productId : Uuid
  sku : String
  name : String
  aliases : List String
  price : Price
  taxCategory : String
  active : Bool
  rowCursor : RowCursor
  deriving DecidableEq

/-- `/^0(\.0+)?$/`. -/
def isZeroText (text : String) : Bool :=
  match text.toList with
  | ['0'] => true
  | '0' :: '.' :: digit :: rest => (digit :: rest).all (· = '0')
  | _ => false

def normalizeAmount (amount currencyCode : String) : String :=
  let exp := minorUnitExponent currencyCode
  let neg := amount.startsWith "-"
  let unsigned := if neg then String.ofList (amount.toList.drop 1) else amount
  let intPart := unsigned.toList.takeWhile (· ≠ '.')
  let result := String.ofList (if exp = 0 then intPart
    else intPart ++ '.' :: (fractionText unsigned ++ List.replicate exp '0').take exp)
  if neg && result ≠ "0" && !isZeroText result then "-" ++ result else result

def toSellableRow (row : ResolvedCatalogRow) (responseCursor : Token SnapshotCursor) :
    SellableCatalogRow where
  productId := row.productId
  sku := row.sku
  name := row.name
  aliases := row.aliases
  price := ⟨normalizeAmount row.amount row.currencyCode, row.currencyCode⟩
  taxCategory := row.taxCategory
  active := true
  rowCursor := match row.rowSequence with
    | some sequence => .row sequence
    | none => .response responseCursor

/-! ### Snapshots -/

structure CatalogSnapshotPage where
  items : List SellableCatalogRow
  cursor : Token SnapshotCursor
  nextPageToken : Option (Token PageTokenPayload)

def defaultLimit : Nat := 500

def maxLimit : Nat := 1000

/-- `clampLimit`; an absent limit and one that is not finite are `none`. -/
def clampLimit (limit : Option ℚ) : Nat :=
  match limit with
  | none => defaultLimit
  | some limit => if ⌊limit⌋ < 1 then defaultLimit else min ⌊limit⌋.toNat maxLimit

section Reads

variable (tenantId storeId : Uuid)

/-- `SELECT max(sequence) … WHERE tenant_id = $1`. -/
def headSequence (catalogue : Catalogue) : Option Nat :=
  ((catalogue.log.filter fun row => row.tenantId = tenantId).map ChangeLogRow.sequence).max?

/-- `SELECT min(sequence) … WHERE tenant_id = $1`. -/
def minSequence (catalogue : Catalogue) : Option Nat :=
  ((catalogue.log.filter fun row => row.tenantId = tenantId).map ChangeLogRow.sequence).min?

/-- The sellable rows of the resolution, in its order, up to the limit. -/
def emittedRows (limit : Nat) (resolved : List ResolvedRow) : List ResolvedCatalogRow :=
  (resolved.filterMap fun row => (classifySellable row).row?).take limit

/-- `hasMore`: a row beyond the last one emitted; if none was, more rows than the limit. -/
def hasMore (limit : Nat) (resolved : List ResolvedRow) (lastProductId : Option Uuid) : Bool :=
  match lastProductId with
  | some last => resolved.any fun row => !row.productId.precedes last
  | none => limit < resolved.length

def snapshotPage (limit : Nat) (cursor : Token SnapshotCursor) (resolved : List ResolvedRow) :
    CatalogSnapshotPage :=
  let emitted := emittedRows limit resolved
  let lastProductId := emitted.getLast?.map ResolvedCatalogRow.productId
  { items := emitted.map fun row => toSellableRow row cursor
    cursor
    nextPageToken := if hasMore limit resolved lastProductId then
        lastProductId.map fun last => encodePageToken ⟨tenantId, storeId, last⟩
      else none }

/-- `getSnapshot`, with the contents at the SELECT of the head and at the resolution. -/
def getSnapshot (limit : Option ℚ) (pageToken : Option (Token PageTokenPayload))
    (cursorToken : Option (Token SnapshotCursor)) (headAt resolvedAt : Catalogue) :
    Except ReadDownCursorError CatalogSnapshotPage := do
  let limit := clampLimit limit
  let head ← match cursorToken with
    | some token => decodeCursor token tenantId storeId
    | none => pure ⟨tenantId, storeId, (headSequence tenantId headAt).getD 0⟩
  let cursor := encodeCursor head
  let afterProductId ← match pageToken with
    | some token => some <$> decodePageToken token tenantId storeId
    | none => pure none
  let resolved := resolveProducts resolvedAt tenantId storeId head.sequence
    (.paginated afterProductId (limit + 1))
  pure (snapshotPage tenantId storeId limit cursor resolved)

/-! ### Deltas -/

/-- `CatalogDeltaOp`: an `upsert` brings the row. -/
inductive CatalogDeltaOp where
  | upsert (productId : Uuid) (row : SellableCatalogRow) (rowCursor : Token SnapshotCursor)
  | removeFromSellable (productId : Uuid) (rowCursor : Token SnapshotCursor)

structure CatalogDeltaPage where
  ops : List CatalogDeltaOp
  cursor : Token SnapshotCursor
  nextPageToken : Option (Token SnapshotCursor)

inductive DeltaResult where
  | ok (page : CatalogDeltaPage)
  | snapshotRequired

def belowHorizon (since : Nat) (horizonAt : Catalogue) : Bool :=
  match minSequence tenantId horizonAt with
  | some minSeq => (since : Int) < minSeq - 1
  | none => false

/-- A log row in the stream of the store: `tenant_id = $1 AND (store_id = $2 OR store_id IS NULL)`. -/
def ChangeLogValues.inStream (row : ChangeLogValues) : Bool :=
  row.tenantId = tenantId && row.storeId.all (· = storeId)

/-- A changed product and its last sequence. -/
structure ChangedProduct where
  productId : Uuid
  maxSeq : Nat

/-- `SELECT product_id, max(sequence) … GROUP BY product_id ORDER BY max(sequence)`: the rows of the
stream beyond the cursor that no later one of their product follows. -/
def changedProducts (since : Nat) (changedAt : Catalogue) : List ChangedProduct :=
  let rows := changedAt.log.filter fun row => row.inStream tenantId storeId && since < row.sequence
  ((rows.filter fun row => rows.all fun other =>
      other.productId = row.productId → other.sequence ≤ row.sequence).map fun row =>
    ⟨row.productId, row.sequence⟩).insertionSort fun first second => first.maxSeq ≤ second.maxSeq

/-- The op for a changed product: an `upsert` if it is sellable now. -/
def deltaOp (resolved : List ResolvedRow) (changed : ChangedProduct) : CatalogDeltaOp :=
  let rowCursor := encodeCursor ⟨tenantId, storeId, changed.maxSeq⟩
  match (resolved.find? fun row => row.productId = changed.productId).map classifySellable with
  | some (.sellable row) => .upsert changed.productId (toSellableRow row rowCursor) rowCursor
  | _ => .removeFromSellable changed.productId rowCursor

def pageRows (limit since : Nat) (changedAt : Catalogue) : List ChangedProduct :=
  (changedProducts tenantId storeId since changedAt).take limit

/-- The sequence the page advances to: its last one, or the head if nothing changed. -/
def advancedSequence (limit since : Nat) (headAt changedAt : Catalogue) : Nat :=
  match (pageRows tenantId storeId limit since changedAt).getLast? with
  | some last => last.maxSeq
  | none => (headSequence tenantId headAt).getD since

/-- The page made of the changed products and their resolution. -/
def deltaPage (limit since : Nat) (headAt changedAt resolvedAt : Catalogue) : CatalogDeltaPage :=
  let rows := pageRows tenantId storeId limit since changedAt
  let resolved := resolveProducts resolvedAt tenantId storeId
    ((headSequence tenantId headAt).getD since) (.targeted (rows.map ChangedProduct.productId))
  let lastSeq := (rows.getLast?.map ChangedProduct.maxSeq).getD since
  { ops := rows.map (deltaOp tenantId storeId resolved)
    cursor := encodeCursor
      ⟨tenantId, storeId, advancedSequence tenantId storeId limit since headAt changedAt⟩
    nextPageToken :=
      if limit < (changedProducts tenantId storeId since changedAt).length then
        some (encodeCursor ⟨tenantId, storeId, lastSeq⟩)
      else none }

/-- `getDeltas`, with the contents at each of its four SELECTs. -/
def getDeltas (sinceToken : Token SnapshotCursor) (limit : Option ℚ)
    (horizonAt headAt changedAt resolvedAt : Catalogue) :
    Except ReadDownCursorError DeltaResult := do
  let since ← decodeCursor sinceToken tenantId storeId
  if belowHorizon tenantId since.sequence horizonAt then pure .snapshotRequired
  else pure (.ok (deltaPage tenantId storeId (clampLimit limit) since.sequence headAt changedAt
    resolvedAt))

end Reads

end DataPulse.ReadDown
