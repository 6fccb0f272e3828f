/-
**What a program sends, part by part.**

`Sends` is about every statement a program may send, whatever it is answered. Of a sequence it says what it
says of the first part, and of the second for each value the first can end with.

* `CanEnd`: some answers lead the program to the value;
* `sends_bind_iff`, `sends_forEach_iff`: the statements of a sequence, and of a loop, are those of its
  parts.
-/

import DataPulse.Lib.Autocommit

namespace DataPulse.Lib.Autocommit

variable {Stmt : Type} {Reply : Stmt → Type} {Id Err α β : Type}

/-- Some answers and identifiers lead the program to the value. -/
def CanEnd : Prog Stmt Reply Id Err α → α → Prop
  | .done value, result => value = result
  | .fail _, _ => False
  | .ask _ next, result => ∃ answer, CanEnd (next answer) result
  | .draw next, result => ∃ id, CanEnd (next id) result

section Rules

variable {kind : Stmt → Prop} {program : Prog Stmt Reply Id Err α} {next : α → Prog Stmt Reply Id Err β}

theorem canEnd_newId (id : Id) : CanEnd (Prog.newId : Prog Stmt Reply Id Err Id) id := ⟨id, rfl⟩

theorem canEnd_bind {value : α} {result : β} (first : CanEnd program value)
    (second : CanEnd (next value) result) : CanEnd (program.bind next) result := by
  induction program with
  | done other =>
    obtain rfl : other = value := first
    exact second
  | fail error => exact first.elim
  | ask stmt step ih =>
    obtain ⟨answer, first⟩ := first
    exact ⟨answer, ih answer first⟩
  | draw step ih =>
    obtain ⟨id, first⟩ := first
    exact ⟨id, ih id first⟩

/-- **The statements of a sequence are those of its parts.** -/
theorem sends_bind_iff :
    Sends kind (program.bind next) ↔
      Sends kind program ∧ ∀ value, CanEnd program value → Sends kind (next value) := by
  induction program with
  | done value => exact ⟨fun sends => ⟨trivial, fun other same => same ▸ sends⟩, fun ⟨_, sends⟩ =>
      sends value rfl⟩
  | fail error => exact ⟨fun _ => ⟨trivial, fun _ none => none.elim⟩, fun _ => trivial⟩
  | ask stmt step ih =>
    constructor
    · intro sends
      refine ⟨⟨sends.1, fun answer => ((ih answer).1 (sends.2 answer)).1⟩, ?_⟩
      rintro value ⟨answer, ends⟩
      exact ((ih answer).1 (sends.2 answer)).2 value ends
    · rintro ⟨first, second⟩
      exact ⟨first.1, fun answer => (ih answer).2
        ⟨first.2 answer, fun value ends => second value ⟨answer, ends⟩⟩⟩
  | draw step ih =>
    constructor
    · intro sends
      refine ⟨fun id => ((ih id).1 (sends id)).1, ?_⟩
      rintro value ⟨id, ends⟩
      exact ((ih id).1 (sends id)).2 value ends
    · rintro ⟨first, second⟩
      exact fun id => (ih id).2 ⟨first id, fun value ends => second value ⟨id, ends⟩⟩

/-- **The statements of a loop are those of its rounds.** -/
theorem sends_forEach_iff {body : α → Prog Stmt Reply Id Err β} {elements : List α}
    (ends : ∀ element ∈ elements, ∃ value, CanEnd (body element) value) :
    Sends kind (Prog.forEach body elements) ↔ ∀ element ∈ elements, Sends kind (body element) := by
  induction elements with
  | nil => exact ⟨fun _ _ none => absurd none not_mem_nil, fun _ => trivial⟩
  | cons element rest ih =>
    obtain ⟨value, ended⟩ := ends element mem_cons_self
    have later := ih fun other mem => ends other (mem_cons_of_mem _ mem)
    rw [List.forall_mem_cons, ← later, Prog.forEach, sends_bind_iff]
    constructor
    · rintro ⟨first, second⟩
      exact ⟨first, (sends_bind_iff.1 (second value ended)).1⟩
    · rintro ⟨first, second⟩
      exact ⟨first, fun _ _ => sends_bind_iff.2 ⟨second, fun _ _ => trivial⟩⟩

end Rules

end DataPulse.Lib.Autocommit
