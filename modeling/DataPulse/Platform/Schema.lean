/-
**Request schemas.**

The checks of the `zod` schemas the routes share. A schema is the list of the issues it finds, in the
order of its fields; a request is accepted when there is none.
-/

import DataPulse.Platform.Values

namespace DataPulse.Platform

/-- An entry of a `ZodError`. -/
structure Issue where
  path : List String
  message : String

def check (holds : Bool) (path : List String) (message : String) : List Issue :=
  if holds then [] else [⟨path, message⟩]

theorem check_nil {holds : Bool} {path : List String} {message : String}
    (none : check holds path message = []) : holds = true := by
  unfold check at none
  split at none
  · assumption
  · cases none

/-- `z.string().uuid()`. -/
def uuidIssues (path : List String) (text : String) : List Issue :=
  check (Uuid.isUuid text) path "Invalid uuid"

/-- `z.array(…).min(1).max(most)`. -/
def sizeIssues {α : Type} (path : List String) (most : Nat) (items : List α) : List Issue :=
  check (1 ≤ items.length) path "Array must contain at least 1 element(s)" ++
    check (items.length ≤ most) path ("Array must contain at most " ++ toString most ++ " element(s)")

/-- `z.string().max(most)` of a text that may be absent. -/
def lengthIssues (path : List String) (most : Nat) (text : Option String) : List Issue :=
  check (text.all fun t => utf16Length t ≤ most) path
    ("String must contain at most " ++ toString most ++ " character(s)")

/-- `z.string().min(1).max(most)`. -/
def textIssues (path : List String) (most : Nat) (text : String) : List Issue :=
  check (1 ≤ utf16Length text) path "String must contain at least 1 character(s)" ++
    lengthIssues path most (some text)

end DataPulse.Platform
