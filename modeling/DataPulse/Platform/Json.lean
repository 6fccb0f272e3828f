/-
**JSON values and the checks on them.**

What a `jsonb` column holds once it is decoded, and the `zod` checks of a text field of an object. An
object schema is the list of the issues of its fields, in their order.
-/

import DataPulse.Platform.Schema

namespace DataPulse.Platform

/-- A JSON value; a number by its text. -/
inductive Json where
  | null
  | bool (value : Bool)
  | number (text : String)
  | string (text : String)
  | array (items : List Json)
  | object (fields : List (String × Json))

namespace Json

/-- A value lies in another, so many levels down. -/
inductive Within (inner : Json) : Nat → Json → Prop where
  | here : Within inner 0 inner
  | item {level : Nat} {item : Json} {items : List Json} (member : item ∈ items)
      (deeper : Within inner level item) : Within inner (level + 1) (.array items)
  | field {level : Nat} {field : String × Json} {fields : List (String × Json)} (member : field ∈ fields)
      (deeper : Within inner level field.2) : Within inner (level + 1) (.object fields)

/-- `ZodParsedType`. -/
def kind : Json → String
  | null => "null"
  | bool _ => "boolean"
  | number _ => "number"
  | string _ => "string"
  | array _ => "array"
  | object _ => "object"

/-- The issues of a text field of an object, with those its text has. -/
def textField (fields : List (String × Json)) (key : String) (issues : List String → String → List Issue) :
    List Issue :=
  match fields.lookup key with
  | none => [⟨[key], "Required"⟩]
  | some (.string text) => issues [key] text
  | some other => [⟨[key], "Expected string, received " ++ other.kind⟩]

/-- The same where the field is `.nullable()`. -/
def nullableField (fields : List (String × Json)) (key : String)
    (issues : List String → String → List Issue) : List Issue :=
  match fields.lookup key with
  | some .null => []
  | _ => textField fields key issues

def textOf (fields : List (String × Json)) (key : String) : Option String :=
  match fields.lookup key with
  | some (.string text) => some text
  | _ => none

/-- `schema.safeParse(value)` of an object schema: its first issue, or what it reads of the fields. -/
def safeParse {Parsed : Type} (issues : List (String × Json) → List Issue)
    (read : List (String × Json) → Parsed) : Json → Except Issue Parsed
  | object fields =>
    match issues fields with
    | [] => .ok (read fields)
    | first :: _ => .error first
  | other => .error ⟨[], "Expected object, received " ++ other.kind⟩

/-- A text field without issues is a text. -/
theorem textField_nil {fields : List (String × Json)} {key : String}
    {issues : List String → String → List Issue} (none : textField fields key issues = []) :
    ∃ text, fields.lookup key = some (.string text) ∧ issues [key] text = [] := by
  unfold textField at none
  split at none
  · cases none
  · exact ⟨_, ‹_›, none⟩
  · cases none

theorem safeParse_ok {Parsed : Type} {issues : List (String × Json) → List Issue}
    {read : List (String × Json) → Parsed} {value : Json} {parsed : Parsed}
    (taken : safeParse issues read value = .ok parsed) :
    ∃ fields, value = .object fields ∧ issues fields = [] ∧ read fields = parsed := by
  unfold safeParse at taken
  split at taken
  · rename_i fields
    split at taken
    · exact ⟨fields, rfl, ‹_›, Except.ok.inj taken⟩
    · cases taken
  · cases taken

end Json

/-- `z.string()`: any text. -/
def anyText (_ : List String) (_ : String) : List Issue := []

/-- `z.string().min(1)`. -/
def nonEmpty (path : List String) (text : String) : List Issue :=
  check (1 ≤ utf16Length text) path "String must contain at least 1 character(s)"

/-- How a consumer words the issue of a payload: `${path.join(".") || "<root>"}: ${message}`. -/
def Issue.detail (issue : Issue) : String :=
  (if ".".intercalate issue.path = "" then "<root>" else ".".intercalate issue.path) ++ ": " ++
    issue.message

end DataPulse.Platform
