/-
**Row-level security.**

The conditions of row-level policies in the logic of SQL, with its third truth value, and with
subexpressions that may raise an error. The server evaluates the two sides of an `AND` and of an `OR` in the
order it likes, and leaves one out where the other decides; only a `CASE` keeps its order.
-/

import DataPulse.Lib.Lists
import Mathlib.Data.List.Basic

namespace DataPulse.Lib

/-! ### Conditions -/

/-- What an expression comes to: a truth value, `NULL` being `none`, or an error. -/
inductive Outcome where
  | value (truth : Option Bool)
  | error
  deriving DecidableEq

/-- The truth value, where there is one. -/
def Outcome.truth : Outcome → Option Bool
  | value truth => truth
  | error => none

/-- A condition over atomic expressions. -/
inductive Cond (Atom : Type) where
  | atom (expression : Atom)
  | const (truth : Bool)
  | and (first second : Cond Atom)
  | or (first second : Cond Atom)
  /-- `CASE WHEN … THEN … ELSE … END`. -/
  | case (test : Atom) (yes no : Cond Atom)

/-- `AND`. -/
def sqlAnd : Option Bool → Option Bool → Option Bool
  | some false, _ => some false
  | _, some false => some false
  | some true, some true => some true
  | _, _ => none

/-- `OR`. -/
def sqlOr : Option Bool → Option Bool → Option Bool
  | some true, _ => some true
  | _, some true => some true
  | some false, some false => some false
  | _, _ => none

section Conditions

variable {Atom : Type} {value : Atom → Outcome}
variable {second first : Option Bool}

@[simp] theorem sqlAnd_false_right (truth : Option Bool) : sqlAnd truth (some false) = some false := by
  rcases truth with - | - | - <;> rfl

@[simp] theorem sqlOr_true_right (truth : Option Bool) : sqlOr truth (some true) = some true := by
  rcases truth with - | - | - <;> rfl

theorem sqlAnd_eq_true : sqlAnd first second = some true ↔ first = some true ∧ second = some true := by
  rcases first with - | - | - <;> rcases second with - | - | - <;> simp [sqlAnd]

theorem sqlOr_eq_true : sqlOr first second = some true ↔ first = some true ∨ second = some true := by
  rcases first with - | - | - <;> rcases second with - | - | - <;> simp [sqlOr]

namespace Cond

variable {cond : Cond Atom}
variable {conds : List (Cond Atom)} {outcome : Outcome}

/-- **What some order of evaluation makes of a condition.** -/
inductive Evaluates (value : Atom → Outcome) : Cond Atom → Outcome → Prop where
  | atom (expression : Atom) : Evaluates value (.atom expression) (value expression)
  | const (truth : Bool) : Evaluates value (.const truth) (.value (some truth))
  | and {first second : Cond Atom} {one two : Option Bool} (left : Evaluates value first (.value one))
      (right : Evaluates value second (.value two)) :
      Evaluates value (.and first second) (.value (sqlAnd one two))
  | andFirst {first second : Cond Atom} (left : Evaluates value first (.value (some false))) :
      Evaluates value (.and first second) (.value (some false))
  | andSecond {first second : Cond Atom} (right : Evaluates value second (.value (some false))) :
      Evaluates value (.and first second) (.value (some false))
  | andErrorFirst {first second : Cond Atom} (left : Evaluates value first .error) :
      Evaluates value (.and first second) .error
  | andErrorSecond {first second : Cond Atom} (right : Evaluates value second .error) :
      Evaluates value (.and first second) .error
  | or {first second : Cond Atom} {one two : Option Bool} (left : Evaluates value first (.value one))
      (right : Evaluates value second (.value two)) :
      Evaluates value (.or first second) (.value (sqlOr one two))
  | orFirst {first second : Cond Atom} (left : Evaluates value first (.value (some true))) :
      Evaluates value (.or first second) (.value (some true))
  | orSecond {first second : Cond Atom} (right : Evaluates value second (.value (some true))) :
      Evaluates value (.or first second) (.value (some true))
  | orErrorFirst {first second : Cond Atom} (left : Evaluates value first .error) :
      Evaluates value (.or first second) .error
  | orErrorSecond {first second : Cond Atom} (right : Evaluates value second .error) :
      Evaluates value (.or first second) .error
  | caseYes {test : Atom} {yes no : Cond Atom} {outcome : Outcome} (holds : value test = .value (some true))
      (branch : Evaluates value yes outcome) : Evaluates value (.case test yes no) outcome
  | caseNo {test : Atom} {yes no : Cond Atom} {outcome : Outcome} {truth : Option Bool}
      (fails : value test = .value truth) (other : truth ≠ some true)
      (branch : Evaluates value no outcome) : Evaluates value (.case test yes no) outcome
  | caseError {test : Atom} {yes no : Cond Atom} (raises : value test = .error) :
      Evaluates value (.case test yes no) .error

/-- The truth value of a condition, an error being unknown. -/
def eval (value : Atom → Outcome) : Cond Atom → Option Bool
  | atom expression => (value expression).truth
  | const truth => some truth
  | and first second => sqlAnd (first.eval value) (second.eval value)
  | or first second => sqlOr (first.eval value) (second.eval value)
  | case test yes no => if value test = .value (some true) then yes.eval value else no.eval value

attribute [local simp] eval

/-- **A truth value that comes out is the same in every order.** -/
theorem Evaluates.eq_eval (evaluates : Evaluates value cond outcome) :
    ∀ truth, outcome = .value truth → truth = cond.eval value := by
  induction evaluates with
  | atom expression =>
    intro truth same
    simp only [eval, same, Outcome.truth]
  | const truth =>
    rintro other ⟨⟩
    rfl
  | and left right first second =>
    rintro truth ⟨⟩
    rw [eval, ← first _ rfl, ← second _ rfl]
  | andFirst left first =>
    rintro truth ⟨⟩
    rw [eval, ← first _ rfl]
    rfl
  | andSecond right second =>
    rintro truth ⟨⟩
    rw [eval, ← second _ rfl, sqlAnd_false_right]
  | or left right first second =>
    rintro truth ⟨⟩
    rw [eval, ← first _ rfl, ← second _ rfl]
  | orFirst left first =>
    rintro truth ⟨⟩
    rw [eval, ← first _ rfl]
    rfl
  | orSecond right second =>
    rintro truth ⟨⟩
    rw [eval, ← second _ rfl, sqlOr_true_right]
  | caseYes holds branch ih =>
    intro truth same
    rw [eval, if_pos holds]
    exact ih truth same
  | caseNo fails other branch ih =>
    intro truth same
    rw [eval, if_neg (by rw [fails]; simpa using other)]
    exact ih truth same
  | andErrorFirst | andErrorSecond | orErrorFirst | orErrorSecond | caseError => exact fun _ => nofun

/-- No order of evaluation meets an error. -/
def safe (value : Atom → Outcome) : Cond Atom → Bool
  | atom expression => value expression ≠ .error
  | const _ => true
  | and first second => first.safe value && second.safe value
  | or first second => first.safe value && second.safe value
  | case test yes no =>
    value test ≠ .error && if value test = .value (some true) then yes.safe value else no.safe value

attribute [local simp] safe

theorem safe_evaluates (safe : cond.safe value = true) : Evaluates value cond (.value (cond.eval value)) := by
  induction cond with
  | atom expression =>
    have here : Evaluates value (.atom expression) (value expression) := .atom expression
    cases same : value expression with
    | error => simp [same] at safe
    | value truth =>
      rw [same] at here
      rwa [eval, same]
  | const truth => exact .const truth
  | and first second one two =>
    rw [Cond.safe, and_eq_true] at safe
    exact .and (one safe.1) (two safe.2)
  | or first second one two =>
    rw [Cond.safe, and_eq_true] at safe
    exact .or (one safe.1) (two safe.2)
  | case test yes no one two =>
    simp only [Cond.safe, and_eq_true, decide_eq_true_eq] at safe
    obtain ⟨sound, branch⟩ := safe
    rw [eval]
    split_ifs at branch ⊢ with holds
    · exact .caseYes holds (one branch)
    · cases same : value test with
      | error => exact absurd same sound
      | value truth => exact .caseNo same (fun yes => holds (by rw [same, yes])) (two branch)

/-- **And it raises no error.** -/
theorem safe_ne_error (safe : cond.safe value = true) (evaluates : Evaluates value cond outcome) :
    outcome ≠ .error := by
  induction evaluates with
  | atom expression => simpa using safe
  | const | and | andFirst | andSecond | or | orFirst | orSecond => exact nofun
  | andErrorFirst left ih =>
    rw [Cond.safe, and_eq_true] at safe
    exact ih safe.1
  | andErrorSecond right ih =>
    rw [Cond.safe, and_eq_true] at safe
    exact ih safe.2
  | orErrorFirst left ih =>
    rw [Cond.safe, and_eq_true] at safe
    exact ih safe.1
  | orErrorSecond right ih =>
    rw [Cond.safe, and_eq_true] at safe
    exact ih safe.2
  | caseYes holds branch ih =>
    simp only [Cond.safe, holds, and_eq_true, if_true] at safe
    exact ih safe.2
  | caseNo fails other branch ih =>
    simp only [Cond.safe, fails, and_eq_true, Outcome.value.injEq, if_neg other] at safe
    exact ih safe.2
  | caseError raises => simp [raises] at safe

theorem evaluates_true (safe : cond.eval value = some true → cond.safe value = true) :
    Evaluates value cond (.value (some true)) ↔ cond.eval value = some true := by
  constructor
  · exact fun evaluates => (evaluates.eq_eval _ rfl).symm
  · intro holds
    have evaluates := safe_evaluates (safe holds)
    rwa [holds] at evaluates

def anyOf (conds : List (Cond Atom)) : Cond Atom := conds.foldr Cond.or (.const false)

theorem eval_anyOf : (anyOf conds).eval value = some true ↔ ∃ cond ∈ conds, cond.eval value = some true := by
  induction conds with
  | nil => simp [anyOf]
  | cons cond rest ih =>
    have head : (anyOf (cond :: rest)).eval value = sqlOr (cond.eval value) ((anyOf rest).eval value) := rfl
    rw [head, sqlOr_eq_true, ih, List.exists_mem_cons_iff]

theorem safe_anyOf : (anyOf conds).safe value = true ↔ ∀ cond ∈ conds, cond.safe value = true := by
  induction conds with
  | nil => simp [anyOf]
  | cons cond rest ih =>
    have head : (anyOf (cond :: rest)).safe value = (cond.safe value && (anyOf rest).safe value) := rfl
    rw [head, and_eq_true, ih, List.forall_mem_cons]

end Cond

end Conditions

/-! ### Policies -/

inductive Command where
  | all
  | select
  | insert
  | update
  | delete
  deriving DecidableEq

/-- A permissive policy: its `USING` and its `WITH CHECK`. -/
structure Policy (Atom : Type) where
  name : String
  command : Command
  usingCond : Option (Cond Atom)
  withCheck : Option (Cond Atom)

/-- A statement of a migration about the policies of a table. -/
inductive PolicyStatement (Atom : Type) where
  /-- `CREATE POLICY`. -/
  | create (policy : Policy Atom)
  /-- `DROP POLICY IF EXISTS`. -/
  | drop (name : String)

section Policies

variable {Atom : Type}

/-- The policies after a statement; a name is created once. -/
def PolicyStatement.apply (policies : List (Policy Atom)) :
    PolicyStatement Atom → Option (List (Policy Atom))
  | create policy =>
    if policies.any fun other => other.name = policy.name then none else some (policies ++ [policy])
  | drop name => some (policies.filter fun other => other.name ≠ name)

/-- **The policies that migrations leave a table with.** -/
def effective (statements : List (PolicyStatement Atom)) : Option (List (Policy Atom)) :=
  statements.foldlM PolicyStatement.apply []

def policiesFor (policies : List (Policy Atom)) (command : Command) : List (Policy Atom) :=
  policies.filter fun policy => policy.command = .all || policy.command = command

/-- What the policies ask of a row that is there. -/
def usingOf (policies : List (Policy Atom)) (command : Command) : Cond Atom :=
  .anyOf ((policiesFor policies command).filterMap Policy.usingCond)

/-- What the policies ask of a row that is written; `USING` stands in for a `WITH CHECK` that is not given. -/
def checkOf (policies : List (Policy Atom)) (command : Command) : Cond Atom :=
  .anyOf ((policiesFor policies command).filterMap fun policy => policy.withCheck <|> policy.usingCond)

variable (policies : List (Policy Atom))

/-- A condition that a statement asks where it reads the row, in its `WHERE` or its `RETURNING`. -/
def whenRead (reads : Bool) (cond : Cond Atom) : Cond Atom :=
  if reads then .and (usingOf policies .select) cond else cond

/-- A `SELECT` of the row. -/
def readCond : Cond Atom := usingOf policies .select

/-- An `INSERT` of the row. -/
def insertCond (reads : Bool) : Cond Atom := whenRead policies reads (checkOf policies .insert)

/-- An `UPDATE` of the row. -/
def updateCond (reads : Bool) : Cond Atom := whenRead policies reads (usingOf policies .update)

/-- The row an `UPDATE` leaves. -/
def leaveCond (reads : Bool) : Cond Atom := whenRead policies reads (checkOf policies .update)

/-- A `DELETE` of the row. -/
def deleteCond (reads : Bool) : Cond Atom := whenRead policies reads (usingOf policies .delete)

end Policies

end DataPulse.Lib
