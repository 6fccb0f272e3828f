/-
**Which numbers of a request fit their columns.**

The request schemas bound the digits of amounts and quantities, the columns their precision and scale.
Amounts always fit; a quantity may have 15 digits before the point, its column `numeric(19,6)` has room for
13.

* `numbers_fit_iff`: every statement a capture can send carries its numbers exactly where its quantities
  stay below 10^13, and every statement of a refund does.
-/

import DataPulse.Lib.Sending
import DataPulse.Sales.Mismatch

namespace DataPulse.Sales

open Lib Lib.Prog Lib.Decimal Platform
open Lib.Autocommit (Sends CanEnd canEnd_newId canEnd_bind sends_query sends_bind sends_newId sends_bind_iff
  sends_forEach_iff)
open Inventory (SoldQuantity TenantContext castUuid castOptional castUuid_text require)

variable {body : CaptureSaleRequestDto}
variable {text : String} {statement : Stmt} {α : Type}

/-! ### What fits -/

/-- The text fits `numeric(19,4)`, digit for digit. -/
def AmountFits (text : String) : Prop :=
  ∃ stored : Numeric, Numeric.ofText text = .ok stored ∧ literal text.toList = some (stored.units / 10 ^ 4 : ℚ)

/-- The text fits `numeric(19,6)`, digit for digit. -/
def QuantityFits (text : String) : Prop :=
  ∃ stored : SoldQuantity, castQuantity text = .ok stored ∧ literal text.toList =
  some (stored.micros / 10 ^ 6 : ℚ)

def QuantityBelow (text : String) : Prop := ∀ q, literal text.toList = some q → q < 10 ^ 13

/-- Every number of the statement fits its column, digit for digit. -/
def Stmt.Fits : Stmt → Prop
  | .insertSale values => AmountFits values.posTotal
  | .insertLine values => AmountFits values.unitPrice ∧ QuantityFits values.quantity ∧
      AmountFits values.lineAmount ∧
      ∀ tax ∈ values.taxAmount, AmountFits tax
  | .insertTerminal values => ∀ refunded ∈ values.refunded, AmountFits refunded.1
  | _ => True

/-- `numeric_value_out_of_range`. -/
def overflow : PgError := .plain .outOfRange

/-- The server does not refuse the statement for a number out of range, whatever is in the tables. -/
def Stmt.InRange (statement : Stmt) : Prop :=
  ∀ reference context writes, exec reference context writes statement ≠ .error overflow

/-- The statement carries its numbers: they fit, and the server finds none out of range. -/
structure Stmt.Carried (statement : Stmt) : Prop where
  fits : statement.Fits
  inRange : statement.InRange

/-! ### The texts of the schemas -/

theorem amountFits_of_accepted (taken : isDecimalAmount text = true) : AmountFits text := by
  obtain ⟨w, f, parts⟩ := plain_split taken
  have fits : ((plainUnits w f : ℕ) : ℤ).natAbs < 10 ^ 19 := by
    rw [Int.natAbs_natCast]
    exact plainUnits_lt parts
  exact ⟨⟨_, fits⟩, (Numeric.ofText_plain parts).trans (Numeric.ofUnits_fits fits), literal_plainUnits parts⟩

theorem quantity_read (taken : isQuantityAmount text = true) :
    ∃ n : ℕ, literal text.toList = some (n / 10 ^ 6 : ℚ) ∧ castNumeric text = .ok (n / 10 ^ 6 : ℚ) := by
  obtain ⟨w, f, parts⟩ := plain_split taken
  have short : 10 ^ 6 = (10 : ℚ) ^ f.length * 10 ^ (6 - f.length) := by
    rw [← pow_add, Nat.add_sub_cancel' parts.fracLength]
  have scaled : (value (w ++ f) / 10 ^ f.length : ℚ) =
      ((value (w ++ f) * 10 ^ (6 - f.length) : ℕ) : ℚ) / 10 ^ 6 := by
    push_cast
    rw [short]
    field_simp
  have read := parts.literal
  rw [scaled] at read
  refine ⟨_, read, ?_⟩
  rw [castNumeric, trimBy_eq_self fun c mem => (bare_not_space parts.bare c mem).1, read]

/-- **An accepted quantity fits exactly below 10^13**; from there on it is out of range. -/
theorem quantityFits_iff (taken : isQuantityAmount text = true) :
    (QuantityFits text ↔ QuantityBelow text) ∧
      (¬ QuantityBelow text → castQuantity text = .error overflow) := by
  obtain ⟨n, read, cast⟩ := quantity_read taken
  have micros : Numeric.roundHalfAway ((n / 10 ^ 6 : ℚ) * 10 ^ 6) = (n : ℤ) := by
    rw [div_mul_cancel₀ _ (by norm_num)]
    exact Numeric.roundHalfAway_intCast n
  have below : QuantityBelow text ↔ n < 10 ^ 19 := by
    have number : (n / 10 ^ 6 : ℚ) < 10 ^ 13 ↔ n < 10 ^ 19 := by
      rw [div_lt_iff₀ (by norm_num), ← pow_add]
      exact_mod_cast Iff.rfl
    rw [← number]
    refine ⟨fun bound => bound _ read, fun bound q same => ?_⟩
    obtain rfl := mem_unique read same
    exact bound
  rw [below]
  by_cases fits : n < 10 ^ 19
  · have stored : castQuantity text = .ok ⟨n, fits⟩ := by
      rw [castQuantity, cast]
      simp only [ok_bind, micros, Int.natAbs_natCast, fits, dif_pos, Int.natCast_nonneg, if_true]
    exact ⟨⟨fun _ => fits, fun _ => ⟨_, stored, read⟩⟩, fun large => absurd fits large⟩
  · have refused : castQuantity text = .error overflow := by
      rw [castQuantity, cast]
      simp only [ok_bind, micros, Int.natAbs_natCast, fits, dif_neg, not_false_iff]
      rfl
    refine ⟨⟨fun ⟨stored, held, _⟩ => ?_, fun below => absurd below fits⟩, fun _ => refused⟩
    rw [refused] at held
    cases held

/-! ### The server -/

theorem bind_inRange {β : Type} {first : Except PgError α} {next : α → Except PgError β}
    (one : first ≠ .error overflow) (two : ∀ value, first = .ok value → next value ≠ .error overflow) :
    (first >>= next) ≠ .error overflow := by
  cases first with
  | error error => exact fun same => one (congrArg Except.error (Except.error.inj same))
  | ok value => exact two value rfl

theorem ok_inRange (value : α) : (.ok value : Except PgError α) ≠ .error overflow := nofun

theorem castUuid_inRange {β : Type} {text : String} {next : Uuid → Except PgError β}
    (after : ∀ id, next id ≠ .error overflow) : (castUuid text >>= next) ≠ .error overflow := by
  refine bind_inRange ?_ fun id _ => after id
  unfold castUuid
  split <;> nofun

theorem castOptional_inRange (text : Option String) : castOptional text ≠ .error overflow := by
  cases text with
  | none => exact ok_inRange _
  | some text => exact castUuid_inRange fun _ => ok_inRange _

theorem castNumeric_inRange (text : String) : castNumeric text ≠ .error overflow := by
  unfold castNumeric
  split <;> nofun

theorem require_inRange {β : Type} {holds : Bool} {error : PgError} {next : Unit → Except PgError β}
    (other : error.code ≠ .outOfRange) (after : next () ≠ .error overflow) :
    (require holds error >>= next) ≠ .error overflow := by
  refine bind_inRange ?_ fun _ _ => after
  unfold require
  split
  · nofun
  · exact fun same => other (congrArg PgError.code (Except.error.inj same))

theorem AmountFits.inRange (fits : AmountFits text) : Numeric.ofText text ≠ .error overflow := by
  obtain ⟨stored, cast, -⟩ := fits
  rw [cast]
  exact ok_inRange _

theorem QuantityFits.inRange (fits : QuantityFits text) : castQuantity text ≠ .error overflow := by
  obtain ⟨stored, cast, -⟩ := fits
  rw [cast]
  exact ok_inRange _

theorem castAmount_inRange {text : Option String} (fits : ∀ amount ∈ text, AmountFits amount) :
    castAmount text ≠ .error overflow := by
  cases text with
  | none => exact ok_inRange _
  | some text => exact bind_inRange (fits text rfl).inRange fun _ _ => ok_inRange _

theorem insertSale_inRange {values : SaleValues} (fits : AmountFits values.posTotal) (reference : Reference)
    (context : TenantContext) (writes : List Write) :
    insertSale reference context writes values ≠ .error overflow := by
  have row : values.row reference context ≠ .error overflow := by
    refine castUuid_inRange fun tenantId => castUuid_inRange fun storeId =>
      bind_inRange fits.inRange fun posTotal _ => castUuid_inRange fun createdBy => ?_
    split <;> nofun
  refine bind_inRange row fun row _ => ?_
  iterate 3 refine require_inRange (by decide) ?_
  split_ifs
  · exact ok_inRange _
  · iterate 3 refine require_inRange (by decide) ?_
    exact ok_inRange _

theorem insertLine_inRange {values : LineValues} (fits : (Stmt.insertLine values).Fits)
    (context : TenantContext) (writes : List Write) : insertLine writes context values ≠ .error overflow := by
  obtain ⟨unitPrice, quantity, lineAmount, taxAmount⟩ := fits
  have row : values.row ≠ .error overflow :=
    castUuid_inRange fun _ => castUuid_inRange fun _ =>
      bind_inRange unitPrice.inRange fun _ _ => bind_inRange quantity.inRange fun _ _ =>
        bind_inRange lineAmount.inRange fun _ _ => bind_inRange (castAmount_inRange taxAmount) fun _ _ =>
          bind_inRange (castOptional_inRange _) fun _ _ => ok_inRange _
  refine bind_inRange row fun _ _ => ?_
  iterate 7 refine require_inRange (by decide) ?_
  exact ok_inRange _

theorem insertTerminal_inRange {values : TerminalValues} (fits : (Stmt.insertTerminal values).Fits)
    (context : TenantContext) (writes : List Write) :
    insertTerminal context writes values ≠ .error overflow := by
  have refunded : castRefunded values.refunded ≠ .error overflow := by
    cases shape : values.refunded with
    | none => exact ok_inRange _
    | some pair => exact bind_inRange (fits pair shape).inRange fun _ _ => ok_inRange _
  have row : values.row context ≠ .error overflow :=
    castUuid_inRange fun _ => castUuid_inRange fun _ => castUuid_inRange fun _ =>
      bind_inRange refunded fun _ _ => castUuid_inRange fun _ => ok_inRange _
  refine bind_inRange row fun _ _ => ?_
  iterate 3 refine require_inRange (by decide) ?_
  split_ifs
  · exact ok_inRange _
  · exact require_inRange (by decide) (require_inRange (by decide) (ok_inRange _))

theorem insertDeadletter_inRange (values : DeadletterValues) (context : TenantContext) (writes : List Write) :
    insertDeadletter context writes values ≠ .error overflow := by
  have row : values.row context ≠ .error overflow :=
    castUuid_inRange fun _ => castUuid_inRange fun _ => castUuid_inRange fun _ =>
      bind_inRange (castOptional_inRange _) fun _ _ => ok_inRange _
  refine bind_inRange row fun _ _ => require_inRange (by decide) (require_inRange (by decide) ?_)
  split_ifs
  · exact ok_inRange _
  · exact require_inRange (by decide) (require_inRange (by decide) (ok_inRange _))

theorem mapM_castNumeric_inRange (texts : List String) : texts.mapM castNumeric ≠ .error overflow := by
  induction texts with
  | nil => exact ok_inRange _
  | cons text rest ih =>
    rw [mapM_cons]
    exact bind_inRange (castNumeric_inRange text) fun _ _ => bind_inRange ih fun _ _ => ok_inRange _

/-- **A statement whose numbers fit is refused for none of them.** -/
theorem inRange_of_fits (fits : statement.Fits) : statement.InRange := by
  intro reference context writes
  cases statement with
  | compareTotal posTotal lineAmounts =>
    exact bind_inRange (castNumeric_inRange _) fun _ _ => bind_inRange (mapM_castNumeric_inRange _) fun _ _ =>
      ok_inRange _
  | storeTimezone storeId => exact castUuid_inRange fun _ => ok_inRange _
  | insertSale values => exact insertSale_inRange fits reference context writes
  | findWinner tenantId sourceSystem externalId => exact castUuid_inRange fun _ => ok_inRange _
  | insertLine values => exact insertLine_inRange fits context writes
  | insertEvent values =>
    refine bind_inRange ?_ fun _ _ => require_inRange (by decide) (require_inRange (by decide) (ok_inRange _))
    exact castUuid_inRange fun _ => castUuid_inRange fun _ => ok_inRange _
  | selectSale saleId storeId => exact castUuid_inRange fun _ => castUuid_inRange fun _ => ok_inRange _
  | selectLines saleId => exact castUuid_inRange fun _ => ok_inRange _
  | insertTerminal values => exact insertTerminal_inRange fits context writes
  | findTerminal kind tenantId sourceSystem externalId => exact castUuid_inRange fun _ => ok_inRange _
  | processSale saleId storeId =>
    refine castUuid_inRange fun _ => castUuid_inRange fun _ => ?_
    split <;> exact ok_inRange _
  | insertDeadletter values => exact insertDeadletter_inRange values context writes
  | advanceStatus saleId storeId status =>
    refine castUuid_inRange fun _ => castUuid_inRange fun _ => ?_
    split <;> exact ok_inRange _
  | readSaleStatus saleId | readOpenDeadletter saleId => exact castUuid_inRange fun _ => ok_inRange _
  | resolveDeadletter saleId =>
    refine castUuid_inRange fun _ => ?_
    dsimp only
    split <;> exact ok_inRange _
  | requeueSale saleId =>
    refine castUuid_inRange fun _ => ?_
    split <;> exact ok_inRange _
  | needsRepairPage storeId cursor limit =>
    exact bind_inRange (castOptional_inRange _) fun _ _ => bind_inRange (castOptional_inRange _) fun _ _ =>
      ok_inRange _

theorem carried_of_fits (fits : statement.Fits) : statement.Carried := ⟨fits, inRange_of_fits fits⟩

/-! ### The requests -/

/-- `RecordRefundRequestSchema`. -/
def recordRefundIssues (body : RecordRefundRequestDto) : List Issue :=
  textIssues ["sourceSystem"] 100 body.sourceSystem ++
    textIssues ["externalId"] 200 body.externalId ++
    decimalAmountIssues ["posRefundAmount"] body.posRefundAmount ++
    currencyCodeIssues ["currencyCode"] body.currencyCode

/-- What an accepted line has for its columns. -/
structure AcceptedLine (line : CaptureSaleLineDto) : Prop where
  unitPrice : AmountFits line.unitPrice
  quantity : isQuantityAmount line.quantity = true
  lineAmount : AmountFits line.lineAmount
  taxAmount : ∀ tax ∈ line.taxAmount, AmountFits tax

theorem acceptedLine_of_issues (taken : captureSaleIssues body = []) {line : CaptureSaleLineDto}
    (mem : line ∈ body.lines) : AcceptedLine line := by
  simp only [captureSaleIssues, append_eq_nil_iff, flatMap_eq_nil_iff] at taken
  obtain ⟨index, found⟩ := mem_iff_getElem?.1 mem
  have issues := taken.2 (line, index) (List.mem_zipIdx_iff_getElem?.2 found)
  simp only [captureSaleLineIssues, append_eq_nil_iff, flatMap_eq_nil_iff] at issues
  obtain ⟨⟨⟨⟨⟨⟨⟨-, unitPrice⟩, -⟩, quantity⟩, lineAmount⟩, taxAmount⟩, -⟩, -⟩ := issues
  exact ⟨amountFits_of_accepted (check_nil unitPrice), check_nil quantity,
    amountFits_of_accepted (check_nil lineAmount), fun tax here => amountFits_of_accepted
    (check_nil (taxAmount tax (Option.mem_toList.2 here)))⟩

theorem sends_runWithTenantContext {kind : Stmt → Prop} (tenant : Uuid) {work : Service α} :
    Sends kind (runWithTenantContext tenant.text work) ↔ Sends kind work := by
  have known : Uuid.isUuid tenant.text = true := by simp [Uuid.isUuid]
  rw [runWithTenantContext, if_pos known]

theorem canEnd_clientQuery (statement : Stmt) (reply : Reply statement) : CanEnd (clientQuery statement) reply :=
  ⟨.ok reply, rfl⟩

theorem insertLines_sends {input : CaptureSaleInput} (saleId : Uuid)
    (taken : ∀ line ∈ input.body.lines, AcceptedLine line) :
    Sends Stmt.Carried (insertLines input saleId) ↔
      ∀ line ∈ input.body.lines, QuantityBelow line.quantity := by
  have rounds : Sends Stmt.Carried (insertLines input saleId) ↔ ∀ line ∈ input.body.lines,
      ∀ lineId, Stmt.Carried (.insertLine (line.values input saleId lineId)) := by
    rw [show insertLines input saleId = Prog.bind _ _ from rfl, sends_bind_iff, sends_forEach_iff]
    · constructor
      · rintro ⟨sends, -⟩ line mem lineId
        exact ((sends_bind_iff.1 (sends line mem)).2 lineId (canEnd_newId lineId)).1
      · intro each
        exact ⟨fun line mem => sends_bind_iff.2
          ⟨fun _ => trivial, fun lineId _ => sends_query (each line mem lineId)⟩, fun _ _ => trivial⟩
    · intro line _
      exact ⟨(), canEnd_bind (canEnd_newId saleId)
        (canEnd_clientQuery (.insertLine (line.values input saleId saleId)) ())⟩
  rw [rounds]
  refine forall₂_congr fun line mem => ?_
  obtain ⟨unitPrice, quantity, lineAmount, taxAmount⟩ := taken line mem
  rw [← (quantityFits_iff quantity).1]
  constructor
  · intro each
    exact (each saleId).fits.2.1
  · intro fits lineId
    exact carried_of_fits ⟨unitPrice, fits, lineAmount, taxAmount⟩

/-- **The statements of a capture carry their numbers exactly where the quantities are small.** -/
theorem captureTransaction_sends (tenant : Uuid) (storeId actorUserId : String)
    (taken : captureSaleIssues body = []) :
    Sends Stmt.Carried (captureTransaction ⟨tenant.text, storeId, actorUserId, body⟩) ↔
      ∀ line ∈ body.lines, QuantityBelow line.quantity := by
  have lines : ∀ line ∈ body.lines, AcceptedLine line := fun line => acceptedLine_of_issues taken
  have total := amountFits_of_accepted (comparable_of_accepted taken).posTotal
  rw [captureTransaction, sends_runWithTenantContext]
  constructor
  · intro sends
    have drawn := (sends_bind_iff.1 sends).2 none (canEnd_clientQuery _ _)
    have zoned := (sends_bind_iff.1 drawn).2 tenant (canEnd_newId tenant)
    have resolved : CanEnd (resolveTimezone storeId) "UTC" :=
      canEnd_bind (canEnd_clientQuery (.storeTimezone storeId) (some "UTC")) rfl
    have inserted := (sends_bind_iff.1 ((sends_bind_iff.1 zoned).2 "UTC" resolved)).2 (some tenant)
      (canEnd_clientQuery _ _)
    exact (insertLines_sends tenant lines).1 (sends_bind_iff.1 inserted).1
  · intro small
    refine sends_bind (sends_query (carried_of_fits trivial)) fun compare => sends_newId fun saleId => ?_
    have zone : Sends Stmt.Carried (resolveTimezone storeId) := by
      refine sends_bind (sends_query (carried_of_fits trivial)) fun timezone => ?_
      split <;> trivial
    refine sends_bind zone fun timezone => sends_bind (sends_query (carried_of_fits total)) fun inserted => ?_
    cases inserted with
    | none =>
      refine sends_bind (sends_query (carried_of_fits trivial)) fun winner => ?_
      cases winner <;> trivial
    | some id =>
      refine sends_bind ((insertLines_sends saleId lines).2 small) fun _ => sends_bind ?_ fun _ => trivial
      exact sends_newId fun eventId => sends_bind (sends_query (carried_of_fits trivial)) fun _ => trivial

/-- **The statements of a refund carry their numbers.** -/
theorem recordRefund_sends (input : RecordRefundInput) (taken : recordRefundIssues input.body = []) :
    Sends Stmt.Carried (recordRefund input) := by
  simp only [recordRefundIssues, append_eq_nil_iff] at taken
  have amount := amountFits_of_accepted (check_nil taken.1.2)
  unfold recordRefund recordTerminal runWithTenantContext
  split_ifs
  · refine sends_bind (sends_bind (sends_query (carried_of_fits trivial)) fun sale => ?_) fun _ =>
      sends_newId fun eventId => sends_bind (sends_query (carried_of_fits ?_)) fun added => ?_
    · unfold throwWhen
      split_ifs <;> trivial
    · rintro refunded ⟨⟩
      exact amount
    · cases added with
      | none =>
        refine sends_bind (sends_query (carried_of_fits trivial)) fun old => ?_
        cases old with
        | none => trivial
        | some row =>
          dsimp only
          split_ifs <;> trivial
      | some row =>
        refine sends_bind ?_ fun _ => trivial
        exact sends_bind
          (sends_newId fun eventId => sends_bind (sends_query (carried_of_fits trivial)) fun _ => trivial)
          fun _ => trivial
  · trivial

/-- **The numbers of an accepted request fit their columns, and none is rounded**, in every statement of a
capture exactly where its quantities stay below 10^13, and in every statement of a refund. -/
theorem numbers_fit_iff (tenant : Uuid) (storeId actorUserId : String) (body : CaptureSaleRequestDto)
    (input : RecordRefundInput) :
    (captureSaleIssues body = [] →
        (Sends Stmt.Carried (captureTransaction ⟨tenant.text, storeId, actorUserId, body⟩) ↔
          ∀ line ∈ body.lines, QuantityBelow line.quantity)) ∧
      (recordRefundIssues input.body = [] → Sends Stmt.Carried (recordRefund input)) :=
  ⟨captureTransaction_sends tenant storeId actorUserId, recordRefund_sends input⟩

theorem numbers_fit_iff_sample :
    Sends Stmt.Carried (captureTransaction ⟨(sample 0).text, "", "", sampleCapture.body⟩) := by
  refine ((numbers_fit_iff (.sample 0) "" "" sampleCapture.body
    ⟨"", "", "", "", ⟨"", "", "", ""⟩⟩).1 (by decide +kernel)).2 fun line member q read => ?_
  obtain rfl := mem_singleton.1 member
  have one : literal "1".toList = some 1 := by decide +kernel
  rw [← mem_unique one read]
  norm_num

def wideLine : CaptureSaleLineDto := ⟨"tea", "10.00", "EGP", "10000000000000", "10.00", none, "cup", none⟩

def wideCapture : CaptureSaleRequestDto := { sampleCapture.body with lines := [wideLine] }

theorem wideLine_row (saleId id : Uuid) :
    (wideLine.values { sampleCapture with body := wideCapture } saleId id).row = .error overflow := by
  obtain ⟨price, cast, -⟩ := amountFits_of_accepted (show isDecimalAmount "10.00" = true by decide +kernel)
  have large : ¬ QuantityBelow "10000000000000" := fun below =>
    absurd (below (10 ^ 13) (by decide +kernel)) (lt_irrefl _)
  have quantity := (quantityFits_iff (show isQuantityAmount "10000000000000" = true by decide +kernel)).2 large
  have tenant := castUuid_text (.sample 0)
  have store := castUuid_text (.sample 1)
  simp only [LineValues.row, CaptureSaleLineDto.values, wideLine, sampleCapture, tenant, store, cast,
    quantity, ok_bind]
  rfl

/-- **It is accepted, and its line is out of range.** -/
theorem wideCapture_overflows :
    captureSaleIssues wideCapture = [] ∧
      exec sampleReference ⟨some (.sample 0), 0⟩ []
        (.insertLine (wideLine.values { sampleCapture with body := wideCapture } (.sample 3) (.sample 4))) =
        .error overflow ∧
      ¬
      ∀ (tenant : Uuid) (storeId actorUserId : String) (body : CaptureSaleRequestDto), captureSaleIssues
      body = [] → Sends Stmt.Carried (captureTransaction ⟨tenant.text, storeId, actorUserId, body⟩) := by
  have accepted : captureSaleIssues wideCapture = [] := by decide +kernel
  refine ⟨accepted, ?_, fun law => ?_⟩
  · simp only [exec, insertLine, wideLine_row]
    rfl
  · have small :=
      (captureTransaction_sends (.sample 0) "" "" accepted).1 (law (.sample 0) "" "" wideCapture accepted)
    have bound := small _ (mem_singleton.2 rfl) (10 ^ 13) (by decide +kernel)
    exact absurd bound (lt_irrefl _)

end DataPulse.Sales
