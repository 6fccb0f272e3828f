/-
**The forbidden keys of a payload, at every level.**

The contract forbids the keys at any nesting level; `hasForbiddenField` stops below level 20 and lets the
rest through.

* `hasForbiddenField_iff`: what the check sees;
* `screening_exact_iff`: the payloads for which it does what the contract says.
-/

import DataPulse.PosAudit.Batches

namespace DataPulse.PosAudit

open Platform

/-- An object at the level has a forbidden key. -/
def ForbiddenAt (level : Nat) (value : Json) : Prop :=
  ∃ fields, (Json.object fields).Within level value ∧ ∃ field ∈ fields, field.1 ∈ FORBIDDEN_PAYLOAD_KEYS

section Levels

variable {level : Nat} {items : List Json} {fields : List (String × Json)}

theorem forbiddenAt_array :
    ForbiddenAt level (.array items) ↔
      ∃ below, level = below + 1 ∧ ∃ item ∈ items, ForbiddenAt below item := by
  constructor
  · rintro ⟨found, within, key⟩
    cases within with
    | item mem deeper => exact ⟨_, rfl, _, mem, found, deeper, key⟩
  · rintro ⟨below, rfl, item, mem, found, within, key⟩
    exact ⟨found, .item mem within, key⟩

theorem forbiddenAt_object :
    ForbiddenAt level (.object fields) ↔
      level = 0 ∧ (∃ field ∈ fields, field.1 ∈ FORBIDDEN_PAYLOAD_KEYS) ∨
      ∃ below, level = below + 1 ∧ ∃ field ∈ fields, ForbiddenAt below field.2 := by
  constructor
  · rintro ⟨found, within, key⟩
    cases within with
    | here => exact .inl ⟨rfl, key⟩
    | field mem deeper => exact .inr ⟨_, rfl, _, mem, found, deeper, key⟩
  · rintro (⟨rfl, key⟩ | ⟨below, rfl, field, mem, found, within, key⟩)
    · exact ⟨fields, .here, key⟩
    · exact ⟨found, .field mem within, key⟩

end Levels

/-- **The check sees the keys of so many levels, and all of them.** -/
theorem hasForbiddenField_iff (levels : Nat) (value : Json) :
    hasForbiddenField levels value = true ↔ ∃ level < levels, ForbiddenAt level value := by
  induction levels generalizing value with
  | zero => simp [hasForbiddenField]
  | succ levels ih =>
    cases value with
    | array items =>
      simp only [hasForbiddenField, List.any_eq_true, ih, forbiddenAt_array]
      constructor
      · rintro ⟨item, mem, level, low, key⟩
        exact ⟨level + 1, Nat.succ_lt_succ low, level, rfl, item, mem, key⟩
      · rintro ⟨_, low, level, rfl, item, mem, key⟩
        exact ⟨item, mem, level, Nat.lt_of_succ_lt_succ low, key⟩
    | object fields =>
      simp only [hasForbiddenField, List.any_eq_true, or_eq_true, decide_eq_true_eq, ih, forbiddenAt_object]
      constructor
      · rintro ⟨field, mem, key | ⟨level, low, key⟩⟩
        · exact ⟨0, Nat.succ_pos _, .inl ⟨rfl, field, mem, key⟩⟩
        · exact ⟨level + 1, Nat.succ_lt_succ low, .inr ⟨level, rfl, field, mem, key⟩⟩
      · rintro ⟨_, low, ⟨rfl, field, mem, key⟩ | ⟨level, rfl, field, mem, key⟩⟩
        · exact ⟨field, mem, .inl key⟩
        · exact ⟨field, mem, .inr ⟨level, Nat.lt_of_succ_lt_succ low, key⟩⟩
    | _ =>
      simp only [hasForbiddenField, false_eq_true, false_iff, not_exists, not_and]
      rintro level - ⟨fields, within, -⟩
      cases within

/-- No forbidden key at any level of the payload. -/
def Clean (payload : List (String × Json)) : Prop := ∀ level, ¬ ForbiddenAt level (.object payload)

/-- No event with this payload is accepted unless the payload is clean, whoever sends it, and the check lets
a clean payload through. -/
def ScreenedExactly (payload : List (String × Json)) : Prop :=
  (∀ (server : Server) (registry : Registry) (device : Auth.Device) (event : AuditEventItem)
    (requestId : Option Uuid) (fault : Option Fault) (tables : Tables), event.payload = payload →
      (processEvent server registry device event requestId fault tables).2 = some .accepted → Clean payload) ∧
  (Clean payload → hasForbiddenField 21 (.object payload) = false)

def unlocked (payload : List (String × Json)) : AuditEventItem :=
  { sampleEvent (.sample 1) (.sample 2) (.sample 6) with payload := payload }

def till : Auth.Device := ⟨.sample 6, .sample 1, .sample 2, [], none⟩

theorem unlocked_accepted {payload : List (String × Json)}
    (passes : hasForbiddenField 21 (.object payload) = false) :
    (processEvent sampleServer sampleRegistry till (unlocked payload) none none ⟨[], []⟩).2 =
      some .accepted := by
  have category : (unlocked payload).actionCategory ∈ POS_AUDIT_ACTION_CATEGORIES := by
    show "cashier.pin.unlock" ∈ POS_AUDIT_ACTION_CATEGORIES
    decide
  have unopened : (unlocked payload).actionCategory ≠ "shift.open" := by
    show "cashier.pin.unlock" ≠ "shift.open"
    decide
  have clean : ¬ hasForbiddenField 21 (.object (unlocked payload).payload) = true := Bool.eq_false_iff.1 passes
  have own : ¬ ((unlocked payload).tenantId.text ≠ till.tenantId.text ∨
      (unlocked payload).branchId.text ≠ till.storeId.text) := by
    rintro (astray | astray) <;> exact astray rfl
  have resolved : resolveActorUserId sampleRegistry (unlocked payload).actingOperatorId till.tenantId =
      some (.sample 5) := by
    show resolveActorUserId sampleRegistry "clerk" (.sample 1) = some (.sample 5)
    decide +kernel
  have added : insertEvent sampleServer sampleRegistry (unlocked payload) (.sample 5) none ⟨[], []⟩ =
      some (⟨[auditRow (unlocked payload) (.sample 5) none], []⟩, true) := by
    simp [insertEvent, sampleServer, opens, unopened]
  unfold processEvent
  rw [if_neg (not_not_intro category), if_neg clean, if_neg fun both => unopened both.1, if_neg own,
    if_neg (by simp),
    resolved]
  dsimp only
  rw [added]
  rfl

/-- **The check does what the contract says of a payload exactly where a forbidden key, if it has one, is at
one of the levels 0 to 20.** -/
theorem screening_exact_iff (payload : List (String × Json)) :
    ScreenedExactly payload ↔ (¬ Clean payload → ∃ level < 21, ForbiddenAt level (.object payload)) := by
  rw [← hasForbiddenField_iff]
  constructor
  · rintro ⟨sound, -⟩ dirty
    by_contra passes
    exact dirty (sound _ _ _ (unlocked payload) _ _ _ rfl (unlocked_accepted (by simpa using passes)))
  · refine fun seen => ⟨fun server registry device event requestId fault tables same taken => ?_, fun clean =>
      ?_⟩
    · by_contra dirty
      rcases processEvent_cases requestId fault tables with ⟨category, outcome, -⟩ | ⟨outcome, -⟩ | ⟨screened, -⟩
      · rw [outcome] at taken
        cases taken
      · rw [outcome] at taken
        cases taken
      · have passes := screened.payload
        rw [same, seen dirty] at passes
        cases passes
    · by_contra blocked
      obtain ⟨level, -, key⟩ := (hasForbiddenField_iff _ _).1 (by simpa using blocked)
      exact clean level key

def buried : Nat → List (String × Json)
  | 0 => [("password", .null)]
  | level + 1 => [("inner", .object (buried level))]

theorem buried_forbidden (level : Nat) : ForbiddenAt level (.object (buried level)) := by
  induction level with
  | zero => exact ⟨_, .here, _, mem_singleton_self _, by decide⟩
  | succ level ih => exact forbiddenAt_object.2 (.inr ⟨level, rfl, _, mem_singleton_self _, ih⟩)

/-- One at level 21 is let through. -/
theorem buried_accepted : ¬ ∀ payload, ScreenedExactly payload := fun law =>
  (law (buried 21)).1 _ _ _ (unlocked _) _ _ _ rfl (unlocked_accepted (by decide)) 21 (buried_forbidden 21)

end DataPulse.PosAudit
