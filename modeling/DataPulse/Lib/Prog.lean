/-
**Programs of a database client.**

A service method is a straight piece of client code: it sends statements to the server one after
the other, looks at each answer, may catch an error, draws fresh identifiers, and ends with a value
or with a thrown error. `Prog` is that piece of code as a tree, cut at the statements, so that the
same text can be run as one atomic transaction (`Lib.Atomic`) or interleaved statement by statement
with other clients (`Lib.Interleave`).
-/

import DataPulse.Lib.Lists
import Mathlib.Data.List.Basic

namespace DataPulse.Lib

variable {ε α β : Type}
variable {first : Except ε α}
variable {result : β}

theorem bind_ok {next : α → Except ε β} (works : first >>= next = .ok result) :
    ∃ value, first = .ok value ∧ next value = .ok result := by
  cases first with
  | error error => cases works
  | ok value => exact ⟨value, rfl, works⟩

section Chains

variable {ε α β γ δ τ : Type} {first : Except ε α} {second : α → Except ε β} {third : α → β → Except ε γ}
  {fourth : α → β → γ → Except ε δ} {fifth : α → β → γ → δ → Except ε τ}

theorem bind_ok₂ {result : γ} (works : (first >>= fun a => second a >>= third a) = .ok result) :
    ∃ a b, third a b = .ok result := by
  obtain ⟨a, -, works⟩ := bind_ok works
  obtain ⟨b, -, works⟩ := bind_ok works
  exact ⟨a, b, works⟩

theorem bind_ok₃ {result : δ}
    (works : (first >>= fun a => second a >>= fun b => third a b >>= fourth a b) = .ok result) :
    ∃ a b c, fourth a b c = .ok result := by
  obtain ⟨a, -, works⟩ := bind_ok works
  exact ⟨a, bind_ok₂ works⟩

theorem bind_ok₄ {result : τ}
    (works : (first >>= fun a => second a >>= fun b => third a b >>= fun c => fourth a b c >>= fifth a b c) =
      .ok result) : ∃ a b c d, fifth a b c d = .ok result := by
  obtain ⟨a, -, works⟩ := bind_ok works
  exact ⟨a, bind_ok₃ works⟩

end Chains

theorem ok_inj {first second : α} {one two : β}
    (same : (.ok (first, one) : Except ε (α × β)) = .ok (second, two)) : first = second ∧ one = two :=
  Prod.mk.inj (Except.ok.inj same)

theorem map_ok {wrap : α → β} (works : first.map wrap = .ok result) :
    ∃ value, first = .ok value ∧ wrap value = result := by
  cases first with
  | error error => cases works
  | ok value => exact ⟨value, rfl, Except.ok.inj works⟩

/-- The rows of one kind among what was written. -/
theorem mem_picked {Row Write : Type} {pick : Write → Option Row} {make : Row → Write} {writes : List Write}
    {row : Row} (picks : ∀ write row, pick write = some row ↔ write = make row) :
    row ∈ writes.filterMap pick ↔ make row ∈ writes := by
  simp only [mem_filterMap, picks]
  exact exists_eq_right

@[simp] theorem ok_bind (value : α) (next : α → Except ε β) : (Except.ok value >>= next) = next value := rfl

/-- A client program: it ends, throws, asks the server one statement and goes on with the answer,
or draws a fresh identifier. -/
inductive Prog (Stmt : Type) (Reply : Stmt → Type) (Id Err : Type) (α : Type) : Type where
  | done (value : α)
  | fail (error : Err)
  | ask (statement : Stmt) (next : Except Err (Reply statement) → Prog Stmt Reply Id Err α)
  | draw (next : Id → Prog Stmt Reply Id Err α)

namespace Prog

variable {Stmt : Type} {Reply : Stmt → Type} {Id Err α β γ : Type}

/-- Sequencing: the continuation runs on the value, an error skips it. -/
def bind (program : Prog Stmt Reply Id Err α) (next : α → Prog Stmt Reply Id Err β) :
    Prog Stmt Reply Id Err β :=
  match program with
  | .done value => next value
  | .fail error => .fail error
  | .ask statement rest => .ask statement fun answer => (rest answer).bind next
  | .draw rest => .draw fun id => (rest id).bind next

instance : Monad (Prog Stmt Reply Id Err) where
  pure := .done
  bind := bind

/-- `await client.query(…)`: a failed statement throws. -/
def query (statement : Stmt) : Prog Stmt Reply Id Err (Reply statement) :=
  .ask statement fun
    | .ok reply => .done reply
    | .error error => .fail error

/-- `newId()` / `gen_random_uuid()`. -/
def newId : Prog Stmt Reply Id Err Id := .draw .done

/-- `throw`. -/
def raise (error : Err) : Prog Stmt Reply Id Err α := .fail error

/-- `try { program } catch (error) { handler(error) }`. -/
def rescue (program : Prog Stmt Reply Id Err α) (handler : Err → Prog Stmt Reply Id Err α) :
    Prog Stmt Reply Id Err α :=
  match program with
  | .done value => .done value
  | .fail error => handler error
  | .ask statement rest => .ask statement fun answer => (rest answer).rescue handler
  | .draw rest => .draw fun id => (rest id).rescue handler

/-- `for (const element of list) { await body(element) }`, collecting the results in order. -/
def forEach (body : α → Prog Stmt Reply Id Err β) : List α → Prog Stmt Reply Id Err (List β)
  | [] => .done []
  | element :: rest => (body element).bind fun head =>
    (forEach body rest).bind fun tail => .done (head :: tail)

theorem bind_assoc (program : Prog Stmt Reply Id Err α) (next : α → Prog Stmt Reply Id Err β)
    (last : β → Prog Stmt Reply Id Err γ) :
    (program.bind next).bind last = program.bind fun value => (next value).bind last := by
  induction program with
  | done value | fail error => rfl
  | ask stmt rest ih => exact congrArg (ask stmt) (funext fun answer => ih answer)
  | draw rest ih => exact congrArg draw (funext fun id => ih id)

@[simp] theorem pure_eq (value : α) : (pure value : Prog Stmt Reply Id Err α) = .done value := rfl

@[simp] theorem bind_eq (program : Prog Stmt Reply Id Err α) (next : α → Prog Stmt Reply Id Err β) :
    program >>= next = program.bind next := rfl

@[simp] theorem done_bind (value : α) (next : α → Prog Stmt Reply Id Err β) :
    (Prog.done value).bind next = next value := rfl

@[simp] theorem fail_bind (error : Err) (next : α → Prog Stmt Reply Id Err β) :
    (Prog.fail error).bind next = .fail error := rfl

end Prog

end DataPulse.Lib
