/-
**What becomes of the metadata of an audit event.**

`safeMetadata` keeps an object it finds nothing in and stores `{}` for any other value; below level 10 it
looks no further and takes the whole object for unsafe.

* `checkFields_iff`: what the check finds;
* `metadata_safe`: no blocked key is stored at any level, and an object without one that is not too deep is
  kept.
-/

import DataPulse.Outbox.AuditFanout

namespace DataPulse.Outbox

open Platform

/-- An object at the level has a key that is blocked in some letter case. -/
def BlockedAt (level : Nat) (value : Json) : Prop :=
  ∃ fields, (Json.object fields).Within level value ∧ ∃ field ∈ fields, toLowerCase field.1 ∈ BLOCKED_KEYS

/-- An object or an array. -/
inductive Container : Json → Prop where
  | array (items : List Json) : Container (.array items)
  | object (fields : List (String × Json)) : Container (.object fields)

/-- Its objects and arrays are at the levels 0 to 10. -/
def Shallow (value : Json) : Prop := ∀ level inner, inner.Within level value → Container inner → level ≤ 10

/-- What stops the check of a value at the depth: a blocked key in it, or an object or array below level 10. -/
def Stops (depth : Nat) (value : Json) : Prop :=
  ∃ level, BlockedAt level value ∨ ∃ inner, inner.Within level value ∧ Container inner ∧ 10 < depth + level

section Checking

variable {depth level : Nat} {value : Json} {items : List Json} {fields : List (String × Json)}

theorem hasBlockedKey_iff :
    hasBlockedKey depth fields = true ↔
      10 < depth ∨
      ∃ field ∈ fields, toLowerCase field.1 ∈ BLOCKED_KEYS ∨ childBlocked depth field.2 = true := by
  induction fields with
  | nil => simp [hasBlockedKey]
  | cons field rest ih =>
    simp only [hasBlockedKey, or_eq_true, decide_eq_true_eq, ih, List.exists_mem_cons_iff]
    constructor
    · rintro (((past | key) | child) | past | deeper)
      exacts [.inl past, .inr (.inl (.inl key)), .inr (.inl (.inr child)), .inl past, .inr (.inr deeper)]
    · rintro (past | (key | child) | deeper)
      exacts [.inl (.inl (.inl past)), .inl (.inl (.inr key)), .inl (.inr child), .inr (.inr deeper)]

theorem hasBlockedKeyInArray_iff :
    hasBlockedKeyInArray depth items = true ↔
      10 < depth ∨ ∃ item ∈ items, childBlocked depth item = true := by
  induction items with
  | nil => simp [hasBlockedKeyInArray]
  | cons item rest ih =>
    simp only [hasBlockedKeyInArray, or_eq_true, decide_eq_true_eq, ih, List.exists_mem_cons_iff]
    constructor
    · rintro ((past | child) | past | deeper)
      exacts [.inl past, .inr (.inl child), .inl past, .inr (.inr deeper)]
    · rintro (past | child | deeper)
      exacts [.inl (.inl past), .inl (.inr child), .inr (.inr deeper)]

theorem Stops.item {item : Json} (mem : item ∈ items) (stops : Stops (depth + 1) item) :
    Stops depth (.array items) := by
  obtain ⟨level, ⟨found, within, key⟩ | ⟨inner, within, container, deep⟩⟩ := stops
  · exact ⟨level + 1, .inl ⟨found, .item mem within, key⟩⟩
  · exact ⟨level + 1, .inr ⟨inner, .item mem within, container, by omega⟩⟩

theorem Stops.field {field : String × Json} (mem : field ∈ fields) (stops : Stops (depth + 1) field.2) :
    Stops depth (.object fields) := by
  obtain ⟨level, ⟨found, within, key⟩ | ⟨inner, within, container, deep⟩⟩ := stops
  · exact ⟨level + 1, .inl ⟨found, .field mem within, key⟩⟩
  · exact ⟨level + 1, .inr ⟨inner, .field mem within, container, by omega⟩⟩

/-- The check stops for a reason: by induction on the levels that are left. -/
theorem stops_of_childBlocked (left : Nat) :
    ∀ {depth : Nat} {value : Json}, 10 ≤ depth + left → childBlocked depth value = true →
      Stops (depth + 1) value := by
  induction left with
  | zero =>
    intro depth value deep blocked
    have past : 10 < depth + 1 + 0 := by omega
    cases value with
    | array items => exact ⟨0, .inr ⟨_, .here, .array items, past⟩⟩
    | object fields => exact ⟨0, .inr ⟨_, .here, .object fields, past⟩⟩
    | _ => cases blocked
  | succ left ih =>
    intro depth value deep blocked
    have less : 10 ≤ depth + 1 + left := by omega
    cases value with
    | array items =>
      rcases hasBlockedKeyInArray_iff.1 blocked with past | ⟨item, mem, blocked⟩
      · exact ⟨0, .inr ⟨_, .here, .array items, past⟩⟩
      · exact (ih less blocked).item mem
    | object fields =>
      rcases hasBlockedKey_iff.1 blocked with past | ⟨field, mem, key | blocked⟩
      · exact ⟨0, .inr ⟨_, .here, .object fields, past⟩⟩
      · exact ⟨0, .inl ⟨fields, .here, field, mem, key⟩⟩
      · exact (ih less blocked).field mem
    | _ => cases blocked

/-- No shape is left out: what lies within stops the check of the whole, by induction on where it lies. -/
theorem childBlocked_of_within {inner : Json} (within : inner.Within level value)
    (blocked : childBlocked (depth + level) inner = true) : childBlocked depth value = true := by
  induction within generalizing depth with
  | here => exact blocked
  | item mem deeper ih =>
    refine hasBlockedKeyInArray_iff.2 (.inr ⟨_, mem, ih ?_⟩)
    rwa [Nat.add_right_comm]
  | field mem deeper ih =>
    refine hasBlockedKey_iff.2 (.inr ⟨_, mem, .inr (ih ?_)⟩)
    rwa [Nat.add_right_comm]

/-- **The check finds a blocked key at any level, or that the object is too deep to look into.** -/
theorem checkFields_iff : hasBlockedKey 0 fields = true ↔ Stops 0 (.object fields) := by
  constructor
  · intro blocked
    rcases hasBlockedKey_iff.1 blocked with past | ⟨field, mem, key | blocked⟩
    · cases past
    · exact ⟨0, .inl ⟨fields, .here, field, mem, key⟩⟩
    · exact (stops_of_childBlocked 10 (by decide) blocked).field mem
  · rintro ⟨level, ⟨found, within, field, mem, key⟩ | ⟨inner, within, container, deep⟩⟩
    · cases within with
      | here => exact hasBlockedKey_iff.2 (.inr ⟨field, mem, .inl key⟩)
      | field outer within =>
        refine hasBlockedKey_iff.2 (.inr ⟨_, outer, .inr (childBlocked_of_within within ?_)⟩)
        exact hasBlockedKey_iff.2 (.inr ⟨field, mem, .inl key⟩)
    · cases within with
      | here => cases deep
      | field outer within =>
        refine hasBlockedKey_iff.2 (.inr ⟨_, outer, .inr (childBlocked_of_within within ?_)⟩)
        cases container with
        | array items => exact hasBlockedKeyInArray_iff.2 (.inl (by omega))
        | object inner => exact hasBlockedKey_iff.2 (.inl (by omega))

end Checking

/-- What the job's metadata must be like to be kept. -/
def Harmless (value : Json) : Prop := (∀ level, ¬ BlockedAt level value) ∧ Shallow value

/-- An object that passes the check is harmless. -/
theorem harmless_of_passes {fields : List (String × Json)} (passes : hasBlockedKey 0 fields = false) :
    Harmless (.object fields) := by
  have nothing : ¬ Stops 0 (.object fields) := fun stops => by
    rw [checkFields_iff.2 stops] at passes
    cases passes
  refine ⟨fun level blocked => nothing ⟨level, .inl blocked⟩, fun level inner within container => ?_⟩
  by_contra deep
  exact nothing ⟨level, .inr ⟨inner, within, container, by omega⟩⟩

theorem safeMetadata_clean (metadata : Option Json) (level : Nat) :
    ¬ BlockedAt level (.object (safeMetadata metadata)) := by
  have empty : ¬ BlockedAt level (.object []) := by
    rintro ⟨found, within, field, mem, -⟩
    cases within with
    | here => cases mem
    | field outer => cases outer
  unfold safeMetadata
  split
  · split
    · exact empty
    · rename_i passes
      exact fun blocked => passes (checkFields_iff.2 ⟨level, .inl blocked⟩)
  · exact empty

theorem safeMetadata_kept {fields : List (String × Json)} (harmless : Harmless (.object fields)) :
    safeMetadata (some (.object fields)) = fields := by
  refine if_neg fun blocked => ?_
  obtain ⟨level, blocked | ⟨inner, within, container, deep⟩⟩ := checkFields_iff.1 blocked
  · exact harmless.1 level blocked
  · have shallow := harmless.2 level inner within container
    omega

/-- **The metadata that is stored has no blocked key at any level, and an object that has none and is not
too deep is stored as it is.** -/
theorem metadata_safe {jobName : String} {job : List (String × Json)} {id : Uuid} {row : AuditEventRow}
    (processed : process jobName (.object job) id = .ok row) :
    (∀ level, ¬ BlockedAt level (.object row.metadata)) ∧
      ∀ fields, job.lookup "metadata" = some (.object fields) → Harmless (.object fields) →
      row.metadata = fields := by
  have stored : row.metadata = safeMetadata (job.lookup "metadata") := by
    unfold process at processed
    split_ifs at processed
    split at processed
    · cases processed
    · rename_i parsed taken
      obtain ⟨fields, same, -, rfl⟩ := Json.safeParse_ok taken
      cases same
      cases processed
      rfl
  rw [stored]
  refine ⟨safeMetadata_clean _, fun fields found harmless => ?_⟩
  rw [found]
  exact safeMetadata_kept harmless

/-- The event of a sign-in. -/
def signInWith (metadata : Json) : AuditFanoutJobData :=
  ⟨none, none, none, none, "auth.login", none, none, none, some metadata⟩

/-- A device with its model, and a list of an object and a `null` one level down. -/
def nested : List (String × Json) := [("device", .object [("Model", .string "T1"),
  ("ids", .array [.object [("Serial", .string "77")], .null])])]

/-- The nested object is stored as it is. -/
theorem metadata_safe_sample :
    ∃ row, process AUDIT_FANOUT_JOB_NAME (signInWith (.object nested)).json (.sample 3) = .ok row ∧
      row.metadata = nested ∧ ∀ level, ¬ BlockedAt level (.object row.metadata) := by
  have processed : process AUDIT_FANOUT_JOB_NAME (signInWith (.object nested)).json (.sample 3) =
      .ok ((signInWith (.object nested)).row (.sample 3)) := rfl
  have safe := metadata_safe processed
  exact ⟨_, processed, safe.2 nested rfl (harmless_of_passes rfl), safe.1⟩

/-- An array is not kept: `{}` is stored. -/
theorem array_dropped :
    ¬
      ∀ (jobName : String) (job : List (String × Json)) (id : Uuid) (row : AuditEventRow) (metadata : Json),
      process jobName (.object job) id = .ok row → job.lookup "metadata" = some metadata → Harmless metadata →
      .object row.metadata = metadata := by
  intro law
  have harmless : Harmless (.array []) := by
    refine ⟨fun level => ?_, fun level inner within _ => ?_⟩
    · rintro ⟨found, within, -⟩
      cases within with
      | item member => cases member
    · cases within with
      | here => exact Nat.zero_le 10
      | item member => cases member
  have same := law AUDIT_FANOUT_JOB_NAME (signInWith (.array [])).fields (.sample 3)
    ((signInWith (.array [])).row (.sample 3)) _ rfl rfl harmless
  cases same

end DataPulse.Outbox
