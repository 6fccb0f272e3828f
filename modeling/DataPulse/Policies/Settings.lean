/-
**The session settings the policies read.**

`app.current_tenant` and `app.current_store` as `current_setting(name, true)` gives them: nothing where a
connection has never had the setting, the empty text, the sentinel `*`, or an identifier.
-/

import DataPulse.Lib.RowSecurity
import DataPulse.Platform.Values

namespace DataPulse.Policies

open Lib Platform

/-- What `current_setting(name, true)` gives. -/
inductive Setting where
  | unset
  /-- `''`. -/
  | empty
  /-- `'*'`. -/
  | sentinel
  | id (uuid : Uuid)
  deriving DecidableEq

namespace Setting

variable {setting : Setting}
variable {column : Option Uuid}

/-- `current_setting(name, true) = text`. -/
def isText (setting text : Setting) : Outcome :=
  if setting = .unset then .value none else .value (some (decide (setting = text)))

/-- `column = current_setting(name, true)::uuid`: `NULL` where either is, an error where the text is no
identifier. -/
def cast (setting : Setting) (column : Option Uuid) : Outcome :=
  match setting with
  | unset => .value none
  | empty | sentinel => .error
  | id uuid => .value (column.map fun value => decide (value = uuid))

theorem cast_eq_true : setting.cast column = .value (some true) ↔ ∃ uuid, column = some uuid ∧ setting =
    .id uuid := by
  cases setting with
  | unset | empty | sentinel => simp [cast]
  | id own =>
    cases column with
    | none => simp [cast]
    | some value => simp [cast, eq_comm]

theorem cast_ne_error : setting.cast column ≠ .error ↔ setting ≠ .empty ∧ setting ≠ .sentinel := by
  cases setting <;> simp [cast]

theorem isText_eq_true {text : Setting} (given : text ≠ .unset) :
    setting.isText text = .value (some true) ↔ setting = text := by
  by_cases unset : setting = .unset
  · simp [isText, unset, given.symm]
  · simp [isText, unset]

end Setting

end DataPulse.Policies
