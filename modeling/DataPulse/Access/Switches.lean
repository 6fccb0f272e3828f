/-
**Switches of one session that overlap.**

`switchTenant`, `switchStore` and `clearStore` each read, and later write the whole active context of the
session in one `UPDATE`, on which a trigger checks that the store is one of the tenant. Calls of one session
run side by side. Their statements run on the plain pool, taken to connect as a role that bypasses row-level
security.

* `switches_serial`: so it holds over every run of such steps; `switch_undone`: not over every run.
-/

import DataPulse.Access.Contexts
import DataPulse.Lib.Machine
import DataPulse.Lib.Slots
import Mathlib.Data.List.Permutation

namespace DataPulse.Access

open Platform Lib
open Auth (Principal)

/-! ### Calls -/

/-- `active_tenant_id` and `active_store_id`. -/
abbrev ActiveContext := Option Uuid × Option Uuid

inductive SwitchCall where
  | switchTenant (tenantId : Uuid)
  | switchStore (storeId : Uuid)
  | clearStore
  deriving DecidableEq

section Validation

variable (tables : Tenancy) (userId : Uuid)

/-- What `switchTenant` validates. -/
def validatesTenant (tenantId : Uuid) : Bool :=
  if tables.isPlatformAdmin userId then (tables.findTenantSummary .bootstrap tenantId).isSome
  else (tables.findActiveMembership .bootstrap userId tenantId).isSome

/-- What `switchStore` validates, of the tenant it read. -/
def allowsStore (tenantId storeId : Uuid) : Bool :=
  if tables.isPlatformAdmin userId then tables.canAccessStore .bootstrap (.sample 0) tenantId storeId .all
  else match tables.findActiveMembership .bootstrap userId tenantId with
    | none => false
    | some membership => tables.canAccessStore .bootstrap membership.id tenantId storeId
        membership.storeAccessKind

/-- `sessions_check_active_store_tenant`, and the check that a store implies a tenant. -/
def pairedBy : ActiveContext → Bool
  | (_, none) => true
  | (none, some _) => false
  | (some tenantId, some storeId) => tables.stores.any fun store => store.id = storeId && store.tenantId =
      tenantId

def SwitchCall.perform (context : ActiveContext) : SwitchCall → Option ActiveContext
  | switchTenant tenantId => if validatesTenant tables userId tenantId then some (some tenantId, none) else none
  | switchStore storeId => match context.1 with
      | none => none
      | some tenantId => if allowsStore tables userId tenantId storeId then some (some tenantId,
          some storeId) else none
  | clearStore => some (context.1, none)

variable {tables userId}

end Validation

/-! ### Calls under way -/

inductive SwitchPhase where
  | begun
  /-- `switchStore` has read the active tenant. -/
  | validating (tenantId : Uuid)
  | writing (next : ActiveContext)
  | done (succeeded : Bool)

/-- The session's context, and the calls. `settled` is a history: the calls that succeeded, in the order of their
writes. -/
structure SwitchState where
  context : ActiveContext
  calls : List (SwitchCall × SwitchPhase)
  settled : List SwitchCall

/-- A call arrives, or executes its next statement. -/
inductive SwitchEvent where
  | begin (call : SwitchCall)
  | advance (index : Nat)

section Machine

variable (tables : Tenancy) (userId : Uuid)

/-- The phase of a call that reads, and what it reads of the session. -/
def SwitchCall.read (context : ActiveContext) : SwitchCall → SwitchPhase
  | switchTenant tenantId =>
    if validatesTenant tables userId tenantId then .writing (some tenantId, none) else .done false
  | switchStore _ => match context.1 with
      | none => .done false
      | some tenantId => .validating tenantId
  | clearStore => .writing (context.1, none)

/-- The next statement of a call. `buildResponse` fails for a user who is not there. -/
def SwitchState.advance (state : SwitchState) (index : Nat) (call : SwitchCall) : SwitchPhase →
  Option SwitchState
  | .begun => some { state with calls := state.calls.set index (call, call.read tables userId state.context) }
  | .validating tenantId => match call with
      | .switchStore storeId => some { state with calls := state.calls.set index (call,
          if allowsStore tables userId tenantId storeId then .writing (some tenantId, some storeId) else .done
            false) }
      | _ => none
  | .writing next =>
    if pairedBy tables next then
      if (tables.findUserSummary userId).isSome then some {
        context := next
        calls := state.calls.set index (call, .done true)
        settled := state.settled ++ [call] }
      else some { state with context := next, calls := state.calls.set index (call, .done false) }
    else some { state with calls := state.calls.set index (call, .done false) }
  | .done _ => none

def switching (start : ActiveContext) : Machine SwitchState SwitchEvent where
  start := ⟨start, [], []⟩
  step state
    | .begin call => some { state with calls := state.calls ++ [(call, .begun)] }
    | .advance index => match state.calls[index]? with
        | none => none
        | some (call, phase) => state.advance tables userId index call phase

/-- The tenant that the last successful `switchTenant` set. -/
def lastTenant (settled : List SwitchCall) (start : Option Uuid) : Option Uuid :=
  settled.foldl (fun tenant call => match call with
    | .switchTenant tenantId => some tenantId
    | _ => tenant) start

/-- **The context is what the calls that succeeded give in the order of their writes**, its store is one of
its tenant, and its tenant is the one the last successful `switchTenant` set: no call wrote an earlier one
back. -/
structure Serial (start : ActiveContext) (state : SwitchState) : Prop where
  order : state.settled.foldlM (fun context call => call.perform tables userId context) start =
    some state.context
  paired : pairedBy tables state.context = true
  kept : state.context.1 = lastTenant state.settled start.1

/-- A call that read the session's tenant writes while the session is still in it, for a user who is there. -/
def Undisturbed (state : SwitchState) : SwitchEvent → Prop
  | .begin _ => True
  | .advance index => ∀ call next, state.calls[index]? = some (call, .writing next) →
      (tables.findUserSummary userId).isSome = true ∧
        ((∀ tenantId, call ≠ .switchTenant tenantId) → next.1 = state.context.1)

end Machine

/-! ### One step -/

variable {index : Nat}

section Steps

variable {tables : Tenancy} {userId : Uuid} {start : ActiveContext} {state next : SwitchState}
variable {call : SwitchCall}
variable {written context : ActiveContext}

def Ready (tables : Tenancy) (userId : Uuid) (written : ActiveContext) : SwitchCall → Prop
  | .switchTenant tenantId => validatesTenant tables userId tenantId = true ∧ written = (some tenantId, none)
  | .switchStore storeId => ∃ tenantId, allowsStore tables userId tenantId storeId = true ∧
      written = (some tenantId, some storeId)
  | .clearStore => written.2 = none

/-- The law, and what it rests on: every call that is about to write has validated it. -/
structure Switched (tables : Tenancy) (userId : Uuid) (start : ActiveContext) (state : SwitchState) : Prop
    extends Serial tables userId start state where
  ready : ∀ (index : Nat) call written, state.calls[index]? = some (call, .writing written) →
    Ready tables userId written call

theorem read_ready (reads : call.read tables userId context = .writing written) : Ready tables userId written
    call := by
  cases call with
  | switchTenant tenantId =>
    dsimp only [SwitchCall.read] at reads
    split at reads
    · rename_i validated
      cases reads
      exact ⟨validated, rfl⟩
    · cases reads
  | switchStore storeId =>
    dsimp only [SwitchCall.read] at reads
    split at reads <;> cases reads
  | clearStore =>
    cases reads
    rfl

theorem ready_set {calls : List (SwitchCall × SwitchPhase)} {phase : SwitchPhase}
    (ready : ∀ (other : Nat) call written, calls[other]? = some (call, .writing written) →
        Ready tables userId written call)
    (own : ∀ written, phase = .writing written → Ready tables userId written call) :
    ∀ (other : Nat) called written, (calls.set index (call, phase))[other]? =
      some (called, .writing written) → Ready tables userId written called := by
  intro other called written mem
  obtain ⟨-, same⟩ | ⟨-, before⟩ := slot_set_cases mem
  · cases same
    exact own written rfl
  · exact ready other called written before

theorem perform_eq (ready : Ready tables userId written call)
    (undisturbed : (∀ tenantId, call ≠ .switchTenant tenantId) → written.1 = context.1) :
    call.perform tables userId context = some written := by
  cases call with
  | switchTenant tenantId =>
    obtain ⟨validated, rfl⟩ := ready
    exact if_pos validated
  | switchStore storeId =>
    obtain ⟨tenantId, allowed, rfl⟩ := ready
    have same : some tenantId = context.1 := undisturbed fun _ => by simp
    simp only [SwitchCall.perform, ← same, allowed, if_true]
  | clearStore =>
    have same := undisturbed fun _ => by simp
    exact congrArg some (Prod.ext same.symm (Eq.symm ready))

theorem lastTenant_append (settled : List SwitchCall) (call : SwitchCall) (tenant : Option Uuid) :
    lastTenant (settled ++ [call]) tenant = match call with
      | .switchTenant tenantId => some tenantId
      | _ => lastTenant settled tenant := by
  simp only [lastTenant, foldl_append, foldl_cons, foldl_nil]

/-- **A write keeps the order where the session is still in the tenant its call read.** -/
theorem write_serial (serial : Serial tables userId start state) (ready : Ready tables userId written call)
    (paired : pairedBy tables written = true)
    (undisturbed : (∀ tenantId, call ≠ .switchTenant tenantId) → written.1 = state.context.1)
    (calls : List (SwitchCall × SwitchPhase)) :
    Serial tables userId start ⟨written, calls, state.settled ++ [call]⟩ := by
  refine ⟨?_, paired, ?_⟩
  · rw [List.foldlM_append, serial.order]
    simpa using perform_eq ready undisturbed
  · change written.1 = lastTenant (state.settled ++ [call]) start.1
    rw [lastTenant_append, ← serial.kept]
    cases call with
    | switchTenant tenantId => exact congrArg Prod.fst ready.2
    | switchStore storeId | clearStore => exact undisturbed fun _ => by simp

theorem step_switched {event : SwitchEvent} (switched : Switched tables userId start state)
    (undisturbed : Undisturbed tables userId state event)
    (step : (switching tables userId start).step state event = some next) :
    Switched tables userId start next := by
  cases event with
  | begin call =>
    cases step
    refine ⟨⟨switched.order, switched.paired, switched.kept⟩, fun index called written mem => ?_⟩
    rcases slot_append_cases mem with before | new
    · exact switched.ready index called written before
    · cases new
  | advance index =>
    dsimp only [switching] at step
    split at step
    · cases step
    rename_i call phase found
    have same {phase : SwitchPhase} (own : ∀ written, phase = .writing written →
        Ready tables userId written call) :
        Switched tables userId start { state with calls := state.calls.set index (call, phase) } :=
      ⟨⟨switched.order, switched.paired, switched.kept⟩, ready_set switched.ready own⟩
    cases phase with
    | begun =>
      cases step
      exact same fun written reads => read_ready reads
    | validating tenantId =>
      dsimp only [SwitchState.advance] at step
      split at step
      · cases step
        refine same fun written reads => ?_
        split at reads
        · rename_i allowed
          cases reads
          exact ⟨tenantId, allowed, rfl⟩
        · cases reads
      · cases step
    | writing written =>
      have fits := undisturbed call written found
      have ready := switched.ready index call written found
      dsimp only [SwitchState.advance] at step
      rw [if_pos fits.1] at step
      split at step <;> cases step
      · rename_i paired
        exact ⟨write_serial switched.toSerial ready paired fits.2 _, ready_set switched.ready fun _ other => by
          cases other⟩
      · exact same fun _ other => by cases other
    | done succeeded => cases step

end Steps

/-! ### Every run -/

/-- **Over any run in which a call that read the session's tenant writes while the session is still in it,
the context is what the calls that succeeded give in the order of their writes.** -/
theorem switches_serial {tables : Tenancy} {userId : Uuid} {start : ActiveContext} {state : SwitchState}
    (paired : pairedBy tables start = true)
    (reaches : (switching tables userId start).Reaches (Undisturbed tables userId)
      (switching tables userId start).start state) : Serial tables userId start state := by
  have initially : Switched tables userId start (switching tables userId start).start :=
    ⟨⟨rfl, paired, rfl⟩, fun _ _ _ mem => by cases mem⟩
  have switched : Switched tables userId start state :=
    @Machine.Reaches.invariant _ _ _ _ _ _ (Switched tables userId start) reaches initially
      fun before event after switched undisturbed step => step_switched switched undisturbed step
  exact switched.toSerial

/-! ### A tenant switch that is undone -/

section Samples

/-- The session of the user of `ContextState.sample`, in the first tenant. -/
def firstTenant : ActiveContext := (some (.sample 2), none)

/-- A store switch reads the first tenant, the session switches to the second, and the store switch writes
the first back: no order of the two gives that. -/
theorem switch_undone :
    ¬
      ∀ (tables : Tenancy) (userId : Uuid) (start : ActiveContext) (state : SwitchState),
      pairedBy tables start = true → (switching tables userId start).Reachable state →
      ∃ order : List SwitchCall, order.Perm state.settled ∧
      order.foldlM (fun context call => call.perform tables userId context) start = some state.context := by
  intro law
  have ran : ((switching (ContextState.sample none).tables (.sample 1) firstTenant).run
        (switching (ContextState.sample none).tables (.sample 1) firstTenant).start
        [.begin (.switchStore (.sample 4)), .advance 0, .advance 0, .begin (.switchTenant (.sample 3)),
        .advance 1, .advance 1, .advance 0]).any
      (fun state => state.context = (some (.sample 2), some (.sample 4)) && state.settled =
        [.switchTenant (.sample 3), .switchStore (.sample 4)]) = true := by
    decide +kernel
  obtain ⟨state, reached, undone⟩ := (any_eq_true _ _).1 ran
  simp only [and_eq_true, decide_eq_true_eq] at undone
  obtain ⟨order, perm, gives⟩ := law _ _ firstTenant state (by decide) (Machine.run_later reached)
  rw [undone.1] at gives
  rw [undone.2, ← List.mem_permutations'] at perm
  have orders : ∀ order ∈ List.permutations' [SwitchCall.switchTenant (.sample 3), .switchStore (.sample 4)],
      order.foldlM (fun context call => call.perform (ContextState.sample none).tables (.sample 1) context)
        firstTenant ≠ some (some (.sample 2), some (.sample 4)) := by
    decide +kernel
  exact orders order perm gives

/-- `Undisturbed`, evaluated at an `advance`. -/
def undisturbed (tables : Tenancy) (userId : Uuid) (state : SwitchState) (index : Nat) : Bool :=
  match state.calls[index]? with
  | some (.switchTenant _, .writing _) => (tables.findUserSummary userId).isSome
  | some (_, .writing next) => (tables.findUserSummary userId).isSome && decide (next.1 = state.context.1)
  | _ => true

theorem undisturbed_iff {tables : Tenancy} {userId : Uuid} {state : SwitchState} :
    undisturbed tables userId state index = true ↔ Undisturbed tables userId state (.advance index) := by
  unfold undisturbed
  constructor
  · intro holds call next found
    rw [found] at holds
    cases call with
    | switchTenant tenantId => exact ⟨holds, fun other => absurd rfl (other tenantId)⟩
    | switchStore | clearStore =>
      simp only [and_eq_true, decide_eq_true_eq] at holds
      exact ⟨holds.1, fun _ => holds.2⟩
  · intro allowed
    split
    · rename_i found
      exact (allowed _ _ found).1
    · rename_i call next other found
      simp only [and_eq_true, decide_eq_true_eq]
      exact ⟨(allowed _ _ found).1, (allowed _ _ found).2 other⟩
    · rfl

instance (tables : Tenancy) (userId : Uuid) (state : SwitchState) :
    (event : SwitchEvent) → Decidable (Undisturbed tables userId state event)
  | .begin _ => .isTrue trivial
  | .advance _ => decidable_of_iff _ undisturbed_iff

/-- A store switch and a `clearStore` that overlap: both read the first tenant, then the store switch
writes, then the clear. -/
def overlapping : List SwitchEvent :=
  [.begin (.switchStore (.sample 4)), .begin .clearStore, .advance 0, .advance 1, .advance 0, .advance 0,
  .advance 1]

theorem switches_serial_sample :
    ∃ state, (switching (ContextState.sample none).tables (.sample 1) firstTenant).run
      (switching (ContextState.sample none).tables (.sample 1) firstTenant).start overlapping = some state ∧
      state.settled = [.switchStore (.sample 4), .clearStore] ∧
      Serial (ContextState.sample none).tables (.sample 1) firstTenant state := by
  have ran : ((switching (ContextState.sample none).tables (.sample 1) firstTenant).run (switching
      (ContextState.sample none).tables (.sample 1) firstTenant).start overlapping).any
      (fun state => state.settled = [.switchStore (.sample 4), .clearStore]) = true := by
    decide +kernel
  obtain ⟨state, reached, both⟩ := (any_eq_true _ _).1 ran
  exact ⟨state, reached, of_decide_eq_true both,
    switches_serial (by decide) (Machine.run_reaches reached (by decide +kernel))⟩

end Samples

end DataPulse.Access
