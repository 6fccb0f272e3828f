/-
**The row-level policies of the catalogue.**

The statements of migrations 0007 to 0011 about the policies of `store_product_overrides` and `unknown_items`, in
their order, and the policies they leave. Both tables have row-level security enabled and forced.

* `policies_hold`: what a session may read and write, for every session and row.

The policies of `unknown_items` for writes look at the tenant only: a row of any store of the tenant is written,
save that a statement that reads the row needs it to be visible.
-/

import DataPulse.Policies.Settings

namespace DataPulse.Policies.Catalog

open Lib Platform

/-! ### The migrations -/

inductive Table where
  | storeProductOverrides
  | unknownItems

inductive Expression where
  /-- `tenant_id = current_setting('app.current_tenant', true)::uuid`. -/
  | tenantIs
  /-- `tenant_id = CASE WHEN current_setting('app.current_tenant', true) = '' THEN NULL
  ELSE current_setting('app.current_tenant', true)::uuid END`. -/
  | tenantIsGuarded
  /-- `store_id = current_setting('app.current_store', true)::uuid`. -/
  | storeIs
  /-- `current_setting('app.current_store', true) = text`. -/
  | storeSettingIs (text : Setting)

open Expression Command PolicyStatement

def storeOrEmpty : Cond Expression := .or (.atom storeIs) (.atom (storeSettingIs .empty))

/-- The guarded conjunct of 0009 on the store, with what it makes of the empty setting. -/
def storeUnlessEmpty (empty : Bool) : Cond Expression :=
  .case (storeSettingIs .empty) (.const empty) (.atom storeIs)

/-- The conjunct of 0011 on the store, with what it makes of the sentinel. -/
def storeBySentinel (sentinel : Bool) : Cond Expression :=
  .case (storeSettingIs .sentinel) (.const sentinel) (storeUnlessEmpty false)

/-- The policy for `SELECT`. -/
def selectPolicy (name : String) (cond : Cond Expression) : Policy Expression :=
  ⟨name, select, some cond, none⟩

def overridesWrite (usingCond withCheck : Cond Expression) : Policy Expression :=
  ⟨"store_product_overrides_tenant_write", all, some usingCond, some withCheck⟩

def unknownItemsInsert (tenant : Expression) : Policy Expression :=
  ⟨"unknown_items_insert", insert, none, some (.atom tenant)⟩

def unknownItemsResolve (tenant : Expression) : Policy Expression :=
  ⟨"unknown_items_resolve", update, some (.atom tenant), some (.atom tenant)⟩

def migrations : Table → List (PolicyStatement Expression)
  | .storeProductOverrides =>
    -- 0007
    [create (selectPolicy "store_product_overrides_tenant_isolation" (.atom tenantIs)),
      create (selectPolicy "store_product_overrides_store_read" storeOrEmpty),
      create (overridesWrite (.and (.atom tenantIs) (.atom storeIs)) (.and (.atom tenantIs) (.atom storeIs))),
      -- 0008
      drop "store_product_overrides_tenant_isolation",
      drop "store_product_overrides_store_read",
      create (selectPolicy "store_product_overrides_select" (.and (.atom tenantIs) storeOrEmpty)),
      -- 0009
      drop "store_product_overrides_select",
      create (selectPolicy "store_product_overrides_select" (.and (.atom tenantIs) (storeUnlessEmpty true))),
      drop "store_product_overrides_tenant_write",
      create (overridesWrite (.and (.atom tenantIs) (storeUnlessEmpty true))
        (.and (.atom tenantIs) (storeUnlessEmpty false))),
      -- 0010
      drop "store_product_overrides_select",
      create (selectPolicy "store_product_overrides_select"
        (.and (.atom tenantIsGuarded) (storeUnlessEmpty true))),
      drop "store_product_overrides_tenant_write",
      create (overridesWrite (.and (.atom tenantIsGuarded) (storeUnlessEmpty true))
        (.and (.atom tenantIsGuarded) (storeUnlessEmpty false))),
      -- 0011
      drop "store_product_overrides_select",
      create (selectPolicy "store_product_overrides_select"
        (.and (.atom tenantIsGuarded) (storeBySentinel true))),
      drop "store_product_overrides_tenant_write",
      create (overridesWrite (.and (.atom tenantIsGuarded) (storeBySentinel false))
        (.and (.atom tenantIsGuarded) (storeBySentinel false)))]
  | .unknownItems =>
    -- 0007
    [create (selectPolicy "unknown_items_tenant_isolation" (.atom tenantIs)),
      create (selectPolicy "unknown_items_store_read" storeOrEmpty),
      create (unknownItemsInsert tenantIs),
      create (unknownItemsResolve tenantIs),
      -- 0008
      drop "unknown_items_tenant_isolation",
      drop "unknown_items_store_read",
      create (selectPolicy "unknown_items_select" (.and (.atom tenantIs) storeOrEmpty)),
      -- 0009
      drop "unknown_items_select",
      create (selectPolicy "unknown_items_select" (.and (.atom tenantIs) (storeUnlessEmpty true))),
      -- 0010
      drop "unknown_items_insert",
      create (unknownItemsInsert tenantIsGuarded),
      drop "unknown_items_resolve",
      create (unknownItemsResolve tenantIsGuarded),
      drop "unknown_items_select",
      create (selectPolicy "unknown_items_select" (.and (.atom tenantIsGuarded) (storeUnlessEmpty true))),
      -- 0011
      drop "unknown_items_select",
      create (selectPolicy "unknown_items_select" (.and (.atom tenantIsGuarded) (storeBySentinel true)))]

def policies : Table → List (Policy Expression)
  | .storeProductOverrides =>
    [selectPolicy "store_product_overrides_select" (.and (.atom tenantIsGuarded) (storeBySentinel true)),
      overridesWrite (.and (.atom tenantIsGuarded) (storeBySentinel false))
        (.and (.atom tenantIsGuarded) (storeBySentinel false))]
  | .unknownItems =>
    [unknownItemsInsert tenantIsGuarded, unknownItemsResolve tenantIsGuarded,
      selectPolicy "unknown_items_select" (.and (.atom tenantIsGuarded) (storeBySentinel true))]

/-- **The migrations apply, and leave these policies.** -/
theorem effective_migrations (table : Table) : effective (migrations table) = some (policies table) := by
  cases table <;> rfl

inductive Deed where
  | read
  | insert
  /-- The row an `UPDATE` finds. -/
  | update
  | leave
  | delete

/-- What the policies ask of the row; `reads` says whether a write reads the row, in its `WHERE` or its
`RETURNING`. -/
def asked (table : Table) (reads : Bool) : Deed → Cond Expression
  | .read => readCond (policies table)
  | .insert => insertCond (policies table) reads
  | .update => updateCond (policies table) reads
  | .leave => leaveCond (policies table) reads
  | .delete => deleteCond (policies table) reads

/-! ### What the expressions come to -/

structure Session where
  tenant : Setting
  store : Setting

structure Row where
  tenantId : Uuid
  storeId : Uuid

variable (session : Session) (row : Row)

/-- What an expression comes to, in a session and for a row. -/
def value : Expression → Outcome
  | tenantIs => session.tenant.cast (some row.tenantId)
  | tenantIsGuarded =>
    if session.tenant = .empty then .value none else session.tenant.cast (some row.tenantId)
  | storeIs => session.store.cast (some row.storeId)
  | storeSettingIs text => session.store.isText text

/-- A condition lets a row pass in some order of evaluation. -/
def Passes (cond : Cond Expression) : Prop := cond.Evaluates (value session row) (.value (some true))

/-- A condition raises an error in some order of evaluation. -/
def Raises (cond : Cond Expression) : Prop := cond.Evaluates (value session row) .error

section Expressions

variable {session : Session} {row : Row} {sentinel : Bool}

theorem tenantGuard_true :
    value session row tenantIsGuarded = .value (some true) ↔ session.tenant = .id row.tenantId := by
  rw [value]
  by_cases empty : session.tenant = .empty
  · simp [empty]
  · rw [if_neg empty, Setting.cast_eq_true]
    simp

theorem tenantGuard_safe : value session row tenantIsGuarded ≠ .error ↔ session.tenant ≠ .sentinel := by
  rw [value]
  by_cases empty : session.tenant = .empty
  · simp [empty]
  · rw [if_neg empty, Setting.cast_ne_error]
    simp [empty]

theorem storeSettingIs_true {text : Setting} (given : text ≠ .unset) :
    value session row (storeSettingIs text) = .value (some true) ↔ session.store = text :=
  Setting.isText_eq_true given

theorem storeUnlessEmpty_true :
    (storeUnlessEmpty false).eval (value session row) = some true ↔ session.store = .id row.storeId := by
  rw [storeUnlessEmpty, Cond.eval]
  by_cases empty : session.store = .empty
  · rw [if_pos ((storeSettingIs_true (by decide)).2 empty), empty]
    simp [Cond.eval]
  · rw [if_neg (mt (storeSettingIs_true (by decide)).1 empty), Cond.eval, value]
    cases same : session.store <;> simp [Setting.cast, Outcome.truth, eq_comm]

theorem storeBySentinel_true :
    (storeBySentinel sentinel).eval (value session row) = some true ↔
      session.store = .sentinel ∧ sentinel = true ∨ session.store = .id row.storeId := by
  rw [storeBySentinel, Cond.eval]
  by_cases star : session.store = .sentinel
  · rw [if_pos ((storeSettingIs_true (by decide)).2 star), star]
    simp [Cond.eval]
  · rw [if_neg (mt (storeSettingIs_true (by decide)).1 star), storeUnlessEmpty_true]
    simp [star]

theorem storeBySentinel_safe : (storeBySentinel sentinel).safe (value session row) = true := by
  obtain ⟨tenant, store⟩ := session
  cases store <;>
    simp [storeBySentinel, storeUnlessEmpty, Cond.safe, value, Setting.isText, Setting.cast]

theorem tenantGuard_truth :
    (value session row tenantIsGuarded).truth = some true ↔ session.tenant = .id row.tenantId := by
  rw [← tenantGuard_true]
  cases value session row tenantIsGuarded <;> simp [Outcome.truth]

end Expressions

/-! ### What a session may do -/

def Seen : Prop :=
  session.tenant = .id row.tenantId ∧ (session.store = .sentinel ∨ session.store = .id row.storeId)

def Written (reads : Bool) : Table → Prop
  | .storeProductOverrides => session.tenant = .id row.tenantId ∧ session.store = .id row.storeId
  | .unknownItems => session.tenant = .id row.tenantId ∧ (reads = true → Seen session row)

def Allowed (table : Table) (reads : Bool) : Deed → Prop
  | .read => Seen session row
  | .insert | .update | .leave => Written session row reads table
  | .delete => table = .storeProductOverrides ∧ Written session row reads table

section Deeds

variable {session : Session} {row : Row} {table : Table} {reads : Bool}

theorem asked_safe (tenant : session.tenant ≠ .sentinel) (deed : Deed) :
    (asked table reads deed).safe (value session row) = true := by
  have guard := (@tenantGuard_safe session row).2 tenant
  cases table <;> cases deed <;> cases reads <;>
    simp [asked, readCond, insertCond, updateCond, leaveCond, deleteCond, whenRead, usingOf, checkOf,
      policiesFor, policies, selectPolicy, overridesWrite, unknownItemsInsert, unknownItemsResolve,
      Cond.safe_anyOf, Cond.safe, storeBySentinel_safe, guard]

theorem asked_true (deed : Deed) :
    (asked table reads deed).eval (value session row) = some true ↔ Allowed session row table reads deed := by
  cases table <;> cases deed <;> cases reads <;>
    simp [asked, readCond, insertCond, updateCond, leaveCond, deleteCond, whenRead, usingOf, checkOf,
      policiesFor,
      policies, selectPolicy, overridesWrite, unknownItemsInsert, unknownItemsResolve, Cond.eval_anyOf,
        Cond.eval,
      sqlAnd_eq_true, tenantGuard_truth, storeBySentinel_true, Allowed, Written, Seen] <;>
    tauto

theorem Allowed.tenant {deed : Deed} (allowed : Allowed session row table reads deed) :
    session.tenant = .id row.tenantId := by
  cases deed with
  | read => exact allowed.1
  | insert | update | leave => cases table <;> exact allowed.1
  | delete =>
    obtain ⟨rfl, written⟩ := allowed
    exact written.1

theorem passes_iff (deed : Deed) :
    Passes session row (asked table reads deed) ↔ Allowed session row table reads deed := by
  rw [← asked_true]
  refine Cond.evaluates_true fun holds => asked_safe ?_ deed
  rw [((asked_true deed).1 holds).tenant]
  nofun

end Deeds

/-- **What the policies let a session do, for every setting of tenant and store and every row.** -/
theorem policies_hold (table : Table) :
    effective (migrations table) = some (policies table) ∧
      ∀ (session : Session) (row : Row) (reads : Bool) (deed : Deed),
      (Passes session row (asked table reads deed) ↔ Allowed session row table reads deed) ∧
      (session.tenant ≠ .sentinel → ¬Raises session row (asked table reads deed)) := by
  refine ⟨effective_migrations table, fun session row reads deed => ⟨passes_iff deed, ?_⟩⟩
  intro tenant raises
  exact Cond.safe_ne_error (asked_safe tenant deed) raises rfl

/-- **A session of one store writes the unknown items of another store of its tenant; a tenant setting that is no
identifier raises an error.** -/
theorem unknownItems_crossStore :
    (∃ (session : Session) (row : Row), session.store = .id (.sample 2) ∧ row.storeId = .sample 3 ∧
        Passes session row (asked .unknownItems false .insert)) ∧
      ∃ (session : Session) (row : Row), Raises session row (asked .unknownItems false .read) := by
  constructor
  · refine ⟨⟨.id (.sample 1), .id (.sample 2)⟩, ⟨.sample 1, .sample 3⟩, rfl, rfl, ?_⟩
    exact (passes_iff .insert).2 ⟨rfl, nofun⟩
  · exact ⟨⟨.sentinel, .unset⟩, ⟨.sample 1, .sample 3⟩, .orErrorFirst (.andErrorFirst (.atom _))⟩

end DataPulse.Policies.Catalog
