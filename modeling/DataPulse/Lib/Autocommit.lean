/-
**Statements that commit one by one.**

The clients of one server, each running its `Prog` without a transaction around it: every statement is
executed on the contents of the moment and stays, and between two statements of a client anybody else
may send theirs. The contents of the database are the writes, in the order in which they were made.

`Reachable` is what any order of steps leads to, and its history the list of what happened.
-/

import DataPulse.Lib.Machine
import DataPulse.Lib.Prog
import Mathlib.Data.List.Pairwise

namespace DataPulse.Lib

/-- The clients of a server, and the server: the program of a client, what a statement answers and
writes at a time when it sees the given contents, and what an error of the server is to a client. -/
structure Backend (Stmt : Type) (Reply : Stmt → Type) (Id Err Fault Write Call Value : Type) where
  program : Call → Prog Stmt Reply Id Err Value
  exec : Int → List Write → (statement : Stmt) → Except Fault (Reply statement × List Write)
  thrown : Fault → Err

variable {Stmt : Type} {Reply : Stmt → Type} {Id Err Fault Write Call Value : Type}

namespace Autocommit

/-- What happens to a client: an identifier is handed to it, or its statement runs and is answered, runs
and the answer is lost, or does not run. -/
inductive Entry (Stmt : Type) (Reply : Stmt → Type) (Id Fault Write : Type) where
  | drew (id : Id)
  | answered (statement : Stmt) (reply : Reply statement) (writes : List Write)
  | lost (statement : Stmt) (reply : Reply statement) (writes : List Write) (fault : Fault)
  | failed (statement : Stmt) (fault : Fault)

section Definitions

namespace Entry

def writes : Entry Stmt Reply Id Fault Write → List Write
  | drew _ => []
  | answered _ _ writes => writes
  | lost _ _ writes _ => writes
  | failed _ _ => []

def statement : Entry Stmt Reply Id Fault Write → Option Stmt
  | drew _ => none
  | answered statement _ _ => some statement
  | lost statement _ _ _ => some statement
  | failed statement _ => some statement

end Entry

/-- What happened, to whom, and when. -/
structure Moment (Stmt : Type) (Reply : Stmt → Type) (Id Fault Write : Type) where
  pid : Nat
  now : Int
  entry : Entry Stmt Reply Id Fault Write

def contents (history : List (Moment Stmt Reply Id Fault Write)) : List Write :=
  history.flatMap fun moment => moment.entry.writes

def logOf (pid : Nat) (history : List (Moment Stmt Reply Id Fault Write)) :
    List (Entry Stmt Reply Id Fault Write) :=
  history.filterMap fun moment => if moment.pid = pid then some moment.entry else none

/-- A client: its call, what is left of its program, and how it ended. -/
structure Proc (Stmt : Type) (Reply : Stmt → Type) (Id Err Call Value : Type) where
  call : Call
  rest : Prog Stmt Reply Id Err Value
  result : Option (Except Err Value)

/-- What happened so far, the server's clock, and the clients. -/
structure Config (Stmt : Type) (Reply : Stmt → Type) (Id Err Fault Write Call Value : Type) where
  history : List (Moment Stmt Reply Id Fault Write)
  now : Int
  procs : List (Proc Stmt Reply Id Err Call Value)

def Config.ledger (config : Config Stmt Reply Id Err Fault Write Call Value) : List Write :=
  contents config.history

def Config.empty : Config Stmt Reply Id Err Fault Write Call Value := ⟨[], 0, []⟩

variable (backend : Backend Stmt Reply Id Err Fault Write Call Value)

def Proc.start (call : Call) : Proc Stmt Reply Id Err Call Value := ⟨call, backend.program call, none⟩

namespace Config

variable (config : Config Stmt Reply Id Err Fault Write Call Value)

/-- Something happened to a client, and it goes on. -/
def advance (pid : Nat) (proc : Proc Stmt Reply Id Err Call Value)
    (entry : Entry Stmt Reply Id Fault Write) (rest : Prog Stmt Reply Id Err Value) :
    Config Stmt Reply Id Err Fault Write Call Value :=
  { config with
    history := config.history ++ [⟨pid, config.now, entry⟩]
    procs := config.procs.set pid { proc with rest := rest } }

def conclude (pid : Nat) (proc : Proc Stmt Reply Id Err Call Value) (result : Except Err Value) :
    Config Stmt Reply Id Err Fault Write Call Value :=
  { config with procs := config.procs.set pid { proc with result := some result } }

end Config

/-- What happens next: a client begins, draws a value, has its next statement run and answered, run and
the answer lost, or not run, or ends; or the server's clock goes on. -/
inductive Event (Id Fault Call : Type) where
  | start (call : Call)
  | draw (pid : Nat) (id : Id)
  | ask (pid : Nat)
  | lose (pid : Nat) (fault : Fault)
  | fail (pid : Nat) (fault : Fault)
  | stop (pid : Nat)
  | tick (now : Int)

def Config.running (config : Config Stmt Reply Id Err Fault Write Call Value) (pid : Nat) :
    Option (Proc Stmt Reply Id Err Call Value) :=
  config.procs[pid]?.filter fun proc => proc.result.isNone

/-- The entry of the client's next step, and what is left of its program. -/
def Proc.next (now : Int) (writes : List Write) (proc : Proc Stmt Reply Id Err Call Value) :
    Event Id Fault Call →
      Option (Entry Stmt Reply Id Fault Write × Prog Stmt Reply Id Err Value)
  | .draw _ id => match proc.rest with
      | .draw next => some (.drew id, next id)
      | _ => none
  | .ask _ => match proc.rest with
      | .ask statement next => match backend.exec now writes statement with
          | .ok (reply, writes) => some (.answered statement reply writes, next (.ok reply))
          | .error fault => some (.failed statement fault, next (.error (backend.thrown fault)))
      | _ => none
  | .lose _ fault => match proc.rest with
      | .ask statement next => match backend.exec now writes statement with
          | .ok (reply, writes) =>
            some (.lost statement reply writes fault, next (.error (backend.thrown fault)))
          | .error _ => none
      | _ => none
  | .fail _ fault => match proc.rest with
      | .ask statement next =>
        some (.failed statement fault, next (.error (backend.thrown fault)))
      | _ => none
  | _ => none

/-- How the client ends, if its program is at an end. -/
def Proc.outcome (proc : Proc Stmt Reply Id Err Call Value) : Option (Except Err Value) :=
  match proc.rest with
  | .done value => some (.ok value)
  | .fail error => some (.error error)
  | _ => none

def Event.pid : Event Id Fault Call → Nat
  | draw pid _ => pid
  | ask pid => pid
  | lose pid _ => pid
  | fail pid _ => pid
  | stop pid => pid
  | _ => 0

def step (config : Config Stmt Reply Id Err Fault Write Call Value) (event : Event Id Fault Call) :
    Option (Config Stmt Reply Id Err Fault Write Call Value) :=
  match event with
  | .start call => some { config with procs := config.procs ++ [Proc.start backend call] }
  | .tick now => if config.now ≤ now then some { config with now := now } else none
  | .stop pid => do
      let proc ← config.running pid
      (proc.outcome).map (config.conclude pid proc)
  | event => do
      let proc ← config.running event.pid
      (proc.next backend config.now config.ledger event).map fun (entry, rest) =>
        config.advance event.pid proc entry rest

def run (events : List (Event Id Fault Call)) :
    Option (Config Stmt Reply Id Err Fault Write Call Value) :=
  events.foldlM (step backend) Config.empty

inductive Reachable : Config Stmt Reply Id Err Fault Write Call Value → Prop where
  | empty : Reachable .empty
  | step {config config' : Config Stmt Reply Id Err Fault Write Call Value}
      {event : Event Id Fault Call} (before : Reachable config)
      (next : step backend config event = some config') : Reachable config'

end Definitions

/-! ### What one step does -/

section Steps

variable (backend : Backend Stmt Reply Id Err Fault Write Call Value)
variable {config config' : Config Stmt Reply Id Err Fault Write Call Value}
variable {proc : Proc Stmt Reply Id Err Call Value} {event : Event Id Fault Call}

/-- A program goes on by an entry, at a time when the server holds the given contents. -/
inductive Fits {Value : Type} (now : Int) (held : List Write) :
    Prog Stmt Reply Id Err Value → Entry Stmt Reply Id Fault Write → Prog Stmt Reply Id Err Value →
      Prop where
  | drew {next : Id → Prog Stmt Reply Id Err Value} {id : Id} :
      Fits now held (.draw next) (.drew id) (next id)
  | answered {statement : Stmt} {reply : Reply statement} {writes : List Write}
      {next : Except Err (Reply statement) → Prog Stmt Reply Id Err Value}
      (executed : backend.exec now held statement = .ok (reply, writes)) :
      Fits now held (.ask statement next) (.answered statement reply writes) (next (.ok reply))
  | lost {statement : Stmt} {reply : Reply statement} {writes : List Write} {fault : Fault}
      {next : Except Err (Reply statement) → Prog Stmt Reply Id Err Value}
      (executed : backend.exec now held statement = .ok (reply, writes)) :
      Fits now held (.ask statement next) (.lost statement reply writes fault)
        (next (.error (backend.thrown fault)))
  | failed {statement : Stmt} {fault : Fault}
      {next : Except Err (Reply statement) → Prog Stmt Reply Id Err Value} :
      Fits now held (.ask statement next) (.failed statement fault)
        (next (.error (backend.thrown fault)))

theorem Config.running_some {pid : Nat} (found : config.running pid = some proc) :
    config.procs[pid]? = some proc ∧ proc.result = none := by
  obtain ⟨found, unended⟩ := filter_eq_some_iff.1 found
  exact ⟨found, isNone_iff_eq_none.1 unended⟩

theorem Proc.next_fits {now : Int} {held : List Write} {entry : Entry Stmt Reply Id Fault Write}
    {rest : Prog Stmt Reply Id Err Value} (goes : proc.next backend now held event = some (entry, rest)) :
    Fits backend now held proc.rest entry rest := by
  unfold Proc.next at goes
  split at goes
  · split at goes
    · rename_i next running
      cases goes
      rw [running]
      exact .drew
    · cases goes
  · split at goes
    · rename_i statement next running
      split at goes
      · rename_i reply writes ran
        cases goes
        rw [running]
        exact .answered ran
      · cases goes
        rw [running]
        exact .failed
    · cases goes
  · split at goes
    · rename_i statement next running
      split at goes
      · rename_i reply writes ran
        cases goes
        rw [running]
        exact .lost ran
      · cases goes
    · cases goes
  · split at goes
    · rename_i statement next running
      cases goes
      rw [running]
      exact .failed
    · cases goes
  · cases goes

/-- A program at its end. -/
inductive Ends {Value : Type} : Prog Stmt Reply Id Err Value → Except Err Value → Prop where
  | returns {value : Value} : Ends (.done value) (.ok value)
  | throws {error : Err} : Ends (.fail error) (.error error)

theorem Proc.outcome_ends {result : Except Err Value} (ended : proc.outcome = some result) : Ends proc.rest
    result := by
  unfold Proc.outcome at ended
  split at ended
  · rename_i value running
    cases ended
    rw [running]
    exact .returns
  · rename_i error running
    cases ended
    rw [running]
    exact .throws
  · cases ended

/-- **A step begins a client, moves the clock, or lets a client that has not ended go on or end.** -/
theorem step_cases (next : step backend config event = some config') :
    (∃ call, config' = { config with procs := config.procs ++ [Proc.start backend call] }) ∨
      (∃ now, config.now ≤ now ∧ config' = { config with now := now }) ∨
      ∃ pid proc, config.procs[pid]? = some proc ∧ proc.result = none ∧
      ((∃ entry rest, Fits backend config.now config.ledger proc.rest entry rest ∧
          config' = config.advance pid proc entry rest) ∨
        ∃ result, Ends proc.rest result ∧ config' = config.conclude pid proc result) := by
  have goes : ∀ event : Event Id Fault Call, (do
      let proc ← config.running event.pid
      (proc.next backend config.now config.ledger event).map fun (entry, rest) =>
        config.advance event.pid proc entry rest) = some config' →
      ∃ pid proc, config.procs[pid]? = some proc ∧ proc.result = none ∧
        ((∃ entry rest, Fits backend config.now config.ledger proc.rest entry rest ∧
            config' = config.advance pid proc entry rest) ∨
          ∃ result, Ends proc.rest result ∧ config' = config.conclude pid proc result) := by
    intro event next
    obtain ⟨proc, found, next⟩ := bind_eq_some_iff.1 next
    obtain ⟨⟨entry, rest⟩, goes, rfl⟩ := map_eq_some_iff.1 next
    obtain ⟨found, running⟩ := Config.running_some found
    exact ⟨_, proc, found, running, .inl ⟨entry, rest, Proc.next_fits backend goes, rfl⟩⟩
  cases event with
  | start call => exact .inl ⟨call, (Option.some.inj next).symm⟩
  | tick now =>
    simp only [step] at next
    split_ifs at next with later
    exact .inr (.inl ⟨now, later, (Option.some.inj next).symm⟩)
  | stop pid =>
    obtain ⟨proc, found, next⟩ := bind_eq_some_iff.1 next
    obtain ⟨result, ended, rfl⟩ := map_eq_some_iff.1 next
    obtain ⟨found, running⟩ := Config.running_some found
    exact .inr (.inr ⟨pid, proc, found, running, .inr ⟨result, Proc.outcome_ends ended, rfl⟩⟩)
  | draw pid id | ask pid | lose pid fault | fail pid fault => exact .inr (.inr (goes _ next))

theorem run_reachable {events : List (Event Id Fault Call)} (ran : run backend events = some config) :
    Reachable backend config := by
  have later : Machine.Later ⟨Config.empty, step backend⟩ Config.empty config := Machine.run_later ran
  exact later.invariant .empty fun _ _ _ reach _ next => .step reach next

end Steps

/-! ### The log of a client -/

section Logs

variable {α β : Type}
variable {history : List (Moment Stmt Reply Id Fault Write)}
  {second first log : List (Entry Stmt Reply Id Fault Write)}
variable {program rest : Prog Stmt Reply Id Err α} {entry : Entry Stmt Reply Id Fault Write}
  {M : Type}

@[simp] theorem contents_nil : contents ([] : List (Moment Stmt Reply Id Fault Write)) = [] := rfl

theorem contents_append (first second : List (Moment Stmt Reply Id Fault Write)) :
    contents (first ++ second) = contents first ++ contents second := flatMap_append

@[simp] theorem contents_cons (moment : Moment Stmt Reply Id Fault Write)
    (rest : List (Moment Stmt Reply Id Fault Write)) :
    contents (moment :: rest) = moment.entry.writes ++ contents rest := flatMap_cons

@[simp] theorem logOf_nil (pid : Nat) : logOf pid ([] : List (Moment Stmt Reply Id Fault Write)) = [] := rfl

theorem logOf_append (pid : Nat) (first second : List (Moment Stmt Reply Id Fault Write)) :
    logOf pid (first ++ second) = logOf pid first ++ logOf pid second := filterMap_append

theorem logOf_own (moment : Moment Stmt Reply Id Fault Write)
    (rest : List (Moment Stmt Reply Id Fault Write)) :
    logOf moment.pid (moment :: rest) = moment.entry :: logOf moment.pid rest := by
  simp [logOf]

theorem logOf_other {pid : Nat} {moment : Moment Stmt Reply Id Fault Write} (other : moment.pid ≠ pid)
    (rest : List (Moment Stmt Reply Id Fault Write)) : logOf pid (moment :: rest) = logOf pid rest := by
  simp [logOf, other]

theorem mem_logOf {pid : Nat} :
    entry ∈ logOf pid history ↔ ∃ moment ∈ history, moment.pid = pid ∧ moment.entry = entry := by
  simp only [logOf, mem_filterMap, Option.ite_none_right_eq_some, Option.some.injEq]

theorem logOf_split {pid : Nat} (split : logOf pid history = first ++ entry :: second) :
    ∃ before moment after, history = before ++ moment :: after ∧ moment.pid = pid ∧ moment.entry = entry ∧
      logOf pid before = first ∧ logOf pid after = second := by
  induction history generalizing first with
  | nil => exact absurd split (by simp)
  | cons moment rest ih =>
    by_cases own : moment.pid = pid
    · subst own
      rw [logOf_own] at split
      cases first with
      | nil =>
        obtain ⟨same, later⟩ := List.cons.inj split
        exact ⟨[], moment, rest, rfl, rfl, same, rfl, later⟩
      | cons head tail =>
        obtain ⟨same, split⟩ := List.cons.inj split
        obtain ⟨before, moment', after, rfl, own', found, early, later⟩ := ih split
        refine ⟨moment :: before, moment', after, rfl, own', found, ?_, later⟩
        rw [logOf_own, early, same]
    · rw [logOf_other own] at split
      obtain ⟨before, moment', after, rfl, own', found, early, later⟩ := ih split
      refine ⟨moment :: before, moment', after, rfl, own', found, ?_, later⟩
      rw [logOf_other own, early]

theorem splits_order {first second after after' : List M} {one other : M}
    (same : first ++ one :: after = second ++ other :: after') :
    (first = second ∧ one = other) ∨ (∃ between, second = first ++ one :: between) ∨
      ∃ between, first = second ++ other :: between := by
  rcases List.append_eq_append_iff.1 same with ⟨rest, rfl, tail⟩ | ⟨rest, rfl, tail⟩
  · cases rest with
    | nil => exact .inl ⟨(append_nil _).symm, (List.cons.inj tail).1⟩
    | cons head between =>
      obtain rfl := (List.cons.inj tail).1
      exact .inr (.inl ⟨between, rfl⟩)
  · cases rest with
    | nil => exact .inl ⟨append_nil _, (List.cons.inj tail).1.symm⟩
    | cons head between =>
      obtain rfl := (List.cons.inj tail).1
      exact .inr (.inr ⟨between, rfl⟩)

theorem logOf_place {first second after after' : List (Moment Stmt Reply Id Fault Write)}
    {one other : Moment Stmt Reply Id Fault Write} (same : first ++ one :: after = second ++ other :: after')
    (own : one.pid = other.pid) (level : (logOf one.pid first).length = (logOf one.pid second).length) :
    first = second ∧ one = other := by
  rcases splits_order same with here | ⟨between, rfl⟩ | ⟨between, rfl⟩
  · exact here
  · rw [logOf_append, logOf_own, length_append, length_cons] at level
    omega
  · rw [own, logOf_append, logOf_own, length_append, length_cons] at level
    omega

theorem countP_le_one {counts : M → Bool} {history : List M}
    (once : ∀ before first between second after, history = before ++ first :: (between ++ second :: after) →
      counts first = true → counts second = true → False) : history.countP counts ≤ 1 := by
  induction history with
  | nil => exact Nat.zero_le 1
  | cons head rest ih =>
    by_cases counted : counts head = true
    · have none : rest.countP counts = 0 := by
        refine countP_eq_zero.2 fun other mem counted' => ?_
        obtain ⟨between, after, rfl⟩ := append_of_mem mem
        exact once [] head between other after rfl counted counted'
      rw [List.countP_cons_of_pos counted]
      omega
    · rw [List.countP_cons_of_neg counted]
      refine ih fun before first between second after split => ?_
      exact once (head :: before) first between second after (by rw [split, cons_append])

/-- Every step of a history met a condition on what had happened before it. -/
def Throughout {M : Type} (meets : List M → M → Prop) (history : List M) : Prop :=
  ∀ n, (bound : n < history.length) → meets (history.take n) history[n]

theorem Throughout.at {meets : List M → M → Prop} {before after : List M} {moment : M}
    (throughout : Throughout meets (before ++ moment :: after)) : meets before moment := by
  have step := throughout before.length (by simp)
  rwa [List.take_left, List.getElem_append_right (Nat.le_refl _), getElem_congr_idx (Nat.sub_self _),
    List.getElem_cons_zero] at step

variable (thrown : Fault → Err)

inductive Leads : Prog Stmt Reply Id Err α → List (Entry Stmt Reply Id Fault Write) →
    Prog Stmt Reply Id Err α → Prop where
  | refl (program : Prog Stmt Reply Id Err α) : Leads program [] program
  | drew {next : Id → Prog Stmt Reply Id Err α} {id : Id}
      {log : List (Entry Stmt Reply Id Fault Write)} {rest : Prog Stmt Reply Id Err α}
      (later : Leads (next id) log rest) : Leads (.draw next) (.drew id :: log) rest
  | answered {statement : Stmt} {reply : Reply statement} {writes : List Write}
      {next : Except Err (Reply statement) → Prog Stmt Reply Id Err α}
      {log : List (Entry Stmt Reply Id Fault Write)} {rest : Prog Stmt Reply Id Err α}
      (later : Leads (next (.ok reply)) log rest) :
      Leads (.ask statement next) (.answered statement reply writes :: log) rest
  | lost {statement : Stmt} {reply : Reply statement} {writes : List Write} {fault : Fault}
      {next : Except Err (Reply statement) → Prog Stmt Reply Id Err α}
      {log : List (Entry Stmt Reply Id Fault Write)} {rest : Prog Stmt Reply Id Err α}
      (later : Leads (next (.error (thrown fault))) log rest) :
      Leads (.ask statement next) (.lost statement reply writes fault :: log) rest
  | failed {statement : Stmt} {fault : Fault}
      {next : Except Err (Reply statement) → Prog Stmt Reply Id Err α}
      {log : List (Entry Stmt Reply Id Fault Write)} {rest : Prog Stmt Reply Id Err α}
      (later : Leads (next (.error (thrown fault))) log rest) :
      Leads (.ask statement next) (.failed statement fault :: log) rest

/-- The program has come to a statement. -/
def Asks (program : Prog Stmt Reply Id Err α) (log : List (Entry Stmt Reply Id Fault Write))
    (statement : Stmt) : Prop := ∃ next, Leads thrown program log (.ask statement next)

def Returns (program : Prog Stmt Reply Id Err α) (log : List (Entry Stmt Reply Id Fault Write))
    (value : α) : Prop := Leads thrown program log (.done value)

def Throws (program : Prog Stmt Reply Id Err α) (log : List (Entry Stmt Reply Id Fault Write))
    (error : Err) : Prop := Leads thrown program log (.fail error)

variable {thrown}

theorem Leads.trans {middle : Prog Stmt Reply Id Err α} (before : Leads thrown program first middle)
    (later : Leads thrown middle second rest) : Leads thrown program (first ++ second) rest := by
  induction before with
  | refl program => exact later
  | drew _ ih => exact .drew (ih later)
  | answered _ ih => exact .answered (ih later)
  | lost _ ih => exact .lost (ih later)
  | failed _ ih => exact .failed (ih later)

theorem leads_bind {next : α → Prog Stmt Reply Id Err β} {rest : Prog Stmt Reply Id Err β}
    (leads : Leads thrown (program.bind next) log rest) :
    (∃ middle, Leads thrown program log middle ∧ rest = middle.bind next) ∨
      ∃ value first second, log = first ++ second ∧ Returns thrown program first value ∧
      Leads thrown (next value) second rest := by
  induction program generalizing log with
  | done value => exact .inr ⟨value, [], log, rfl, .refl _, leads⟩
  | fail error =>
    cases leads with
    | refl => exact .inl ⟨_, .refl _, rfl⟩
  | ask statement step ih =>
    cases leads with
    | refl => exact .inl ⟨_, .refl _, rfl⟩
    | answered later =>
      obtain ⟨middle, inside, same⟩ | ⟨value, first, second, rfl, gave, later⟩ := ih _ later
      · exact .inl ⟨middle, .answered inside, same⟩
      · exact .inr ⟨value, _ :: first, second, rfl, .answered gave, later⟩
    | lost later =>
      obtain ⟨middle, inside, same⟩ | ⟨value, first, second, rfl, gave, later⟩ := ih _ later
      · exact .inl ⟨middle, .lost inside, same⟩
      · exact .inr ⟨value, _ :: first, second, rfl, .lost gave, later⟩
    | failed later =>
      obtain ⟨middle, inside, same⟩ | ⟨value, first, second, rfl, gave, later⟩ := ih _ later
      · exact .inl ⟨middle, .failed inside, same⟩
      · exact .inr ⟨value, _ :: first, second, rfl, .failed gave, later⟩
  | draw step ih =>
    cases leads with
    | refl => exact .inl ⟨_, .refl _, rfl⟩
    | drew later =>
      obtain ⟨middle, inside, same⟩ | ⟨value, first, second, rfl, gave, later⟩ := ih _ later
      · exact .inl ⟨middle, .drew inside, same⟩
      · exact .inr ⟨value, _ :: first, second, rfl, .drew gave, later⟩

theorem leads_rescue {handler : Err → Prog Stmt Reply Id Err α}
    (leads : Leads thrown (program.rescue handler) log rest) :
    (∃ middle, Leads thrown program log middle ∧ rest = middle.rescue handler) ∨
      ∃ error first second, log = first ++ second ∧ Throws thrown program first error ∧
      Leads thrown (handler error) second rest := by
  induction program generalizing log with
  | done value =>
    cases leads with
    | refl => exact .inl ⟨_, .refl _, rfl⟩
  | fail error => exact .inr ⟨error, [], log, rfl, .refl _, leads⟩
  | ask statement step ih =>
    cases leads with
    | refl => exact .inl ⟨_, .refl _, rfl⟩
    | answered later =>
      obtain ⟨middle, inside, same⟩ | ⟨error, first, second, rfl, threw, later⟩ := ih _ later
      · exact .inl ⟨middle, .answered inside, same⟩
      · exact .inr ⟨error, _ :: first, second, rfl, .answered threw, later⟩
    | lost later =>
      obtain ⟨middle, inside, same⟩ | ⟨error, first, second, rfl, threw, later⟩ := ih _ later
      · exact .inl ⟨middle, .lost inside, same⟩
      · exact .inr ⟨error, _ :: first, second, rfl, .lost threw, later⟩
    | failed later =>
      obtain ⟨middle, inside, same⟩ | ⟨error, first, second, rfl, threw, later⟩ := ih _ later
      · exact .inl ⟨middle, .failed inside, same⟩
      · exact .inr ⟨error, _ :: first, second, rfl, .failed threw, later⟩
  | draw step ih =>
    cases leads with
    | refl => exact .inl ⟨_, .refl _, rfl⟩
    | drew later =>
      obtain ⟨middle, inside, same⟩ | ⟨error, first, second, rfl, threw, later⟩ := ih _ later
      · exact .inl ⟨middle, .drew inside, same⟩
      · exact .inr ⟨error, _ :: first, second, rfl, .drew threw, later⟩

/-! #### What a part has done -/

section Rules

variable {program : Prog Stmt Reply Id Err α} {next : α → Prog Stmt Reply Id Err β}
  {log : List (Entry Stmt Reply Id Fault Write)} {statement : Stmt}
variable {error : Err}
variable {value : α}

theorem returns_done {result : α}
    (gave : Returns thrown (.done value : Prog Stmt Reply Id Err α) log result) :
    log = [] ∧ result = value := by
  cases gave with
  | refl => exact ⟨rfl, rfl⟩

theorem not_returns_fail : ¬ Returns thrown (.fail error : Prog Stmt Reply Id Err α) log value := nofun

theorem returns_query {reply : Reply statement}
    (gave : Returns thrown (Prog.query statement : Prog Stmt Reply Id Err _) log reply) :
    ∃ writes, log = [.answered statement reply writes] := by
  cases gave with
  | answered later =>
    obtain ⟨rfl, rfl⟩ := returns_done later
    exact ⟨_, rfl⟩
  | lost later | failed later => exact absurd later not_returns_fail

theorem returns_draw {next : Id → Prog Stmt Reply Id Err α} (gave : Returns thrown (.draw next) log value) :
    ∃ id rest, log = .drew id :: rest ∧ Returns thrown (next id) rest value := by
  cases gave with
  | drew later => exact ⟨_, _, rfl, later⟩

theorem returns_bind {result : β} (gave : Returns thrown (program.bind next) log result) :
    ∃ value first second, log = first ++ second ∧ Returns thrown program first value ∧
      Returns thrown (next value) second result := by
  obtain ⟨middle, inside, same⟩ | past := leads_bind gave
  · cases middle with
    | done value =>
      refine ⟨value, log, [], (append_nil _).symm, inside, ?_⟩
      rw [show next value = .done result from same.symm]
      exact .refl _
    | fail error | ask statement step | draw step => cases same
  · exact past

theorem not_throws_done : ¬ Throws thrown (.done value : Prog Stmt Reply Id Err α) log error := nofun

theorem throws_fail {error' : Err}
    (threw : Throws thrown (.fail error : Prog Stmt Reply Id Err α) log error') :
    log = [] ∧ error' = error := by
  cases threw with
  | refl => exact ⟨rfl, rfl⟩

theorem throws_query (threw : Throws thrown (Prog.query statement : Prog Stmt Reply Id Err _) log error) :
    (∃ reply writes fault, log = [.lost statement reply writes fault]) ∨
      ∃ fault, log = [.failed statement fault] := by
  cases threw with
  | answered later => exact absurd later not_throws_done
  | lost later =>
    obtain ⟨rfl, -⟩ := throws_fail later
    exact .inl ⟨_, _, _, rfl⟩
  | failed later =>
    obtain ⟨rfl, -⟩ := throws_fail later
    exact .inr ⟨_, rfl⟩

theorem throws_newId {next : Id → Prog Stmt Reply Id Err β}
    (threw : Throws thrown (Prog.newId.bind next) log error) :
    ∃ id rest, log = .drew id :: rest ∧ Throws thrown (next id) rest error := by
  cases threw with
  | drew later => exact ⟨_, _, rfl, later⟩

theorem throws_bind (threw : Throws thrown (program.bind next) log error) :
    Throws thrown program log error ∨
      ∃ value first second, log = first ++ second ∧ Returns thrown program first value ∧
      Throws thrown (next value) second error := by
  obtain ⟨middle, inside, same⟩ | past := leads_bind threw
  · cases middle with
    | done value =>
      refine .inr ⟨value, log, [], (append_nil _).symm, inside, ?_⟩
      rw [show next value = .fail error from same.symm]
      exact .refl _
    | fail error' =>
      cases same
      exact .inl inside
    | ask statement step | draw step => cases same
  · exact .inr past

theorem not_asks_done : ¬ Asks thrown (.done value : Prog Stmt Reply Id Err α) log statement := nofun

theorem not_asks_fail : ¬ Asks thrown (.fail error : Prog Stmt Reply Id Err α) log statement := nofun

theorem asks_query {asked : Stmt}
    (asks : Asks thrown (Prog.query statement : Prog Stmt Reply Id Err _) log asked) :
    log = [] ∧ asked = statement := by
  obtain ⟨next, leads⟩ := asks
  cases leads with
  | refl => exact ⟨rfl, rfl⟩
  | answered later => exact absurd ⟨_, later⟩ not_asks_done
  | lost later | failed later => exact absurd ⟨_, later⟩ not_asks_fail

theorem asks_draw {next : Id → Prog Stmt Reply Id Err α} (asks : Asks thrown (.draw next) log statement) :
    ∃ id rest, log = .drew id :: rest ∧ Asks thrown (next id) rest statement := by
  obtain ⟨step, leads⟩ := asks
  cases leads with
  | drew later => exact ⟨_, _, rfl, _, later⟩

theorem returns_newId {next : Id → Prog Stmt Reply Id Err β} {result : β}
    (gave : Returns thrown (Prog.newId.bind next) log result) :
    ∃ id rest, log = .drew id :: rest ∧ Returns thrown (next id) rest result := returns_draw gave

theorem asks_newId {next : Id → Prog Stmt Reply Id Err β}
    (asks : Asks thrown (Prog.newId.bind next) log statement) :
    ∃ id rest, log = .drew id :: rest ∧ Asks thrown (next id) rest statement := asks_draw asks

theorem asks_bind (asks : Asks thrown (program.bind next) log statement) :
    Asks thrown program log statement ∨
      ∃ value first second, log = first ++ second ∧ Returns thrown program first value ∧
      Asks thrown (next value) second statement := by
  obtain ⟨step, leads⟩ := asks
  obtain ⟨middle, inside, same⟩ | ⟨value, first, second, split, gave, later⟩ := leads_bind leads
  · cases middle with
    | done value =>
      refine .inr ⟨value, log, [], (append_nil _).symm, inside, step, ?_⟩
      rw [show next value = .ask statement step from same.symm]
      exact .refl _
    | fail error => cases same
    | ask statement' step' =>
      cases same
      exact .inl ⟨_, inside⟩
    | draw step => cases same
  · exact .inr ⟨value, first, second, split, gave, step, later⟩

theorem asks_rescue {handler : Err → Prog Stmt Reply Id Err α}
    (asks : Asks thrown (program.rescue handler) log statement) :
    Asks thrown program log statement ∨
      ∃ error first second, log = first ++ second ∧ Throws thrown program first error ∧
      Asks thrown (handler error) second statement := by
  obtain ⟨step, leads⟩ := asks
  obtain ⟨middle, inside, same⟩ | ⟨error, first, second, split, threw, later⟩ := leads_rescue leads
  · cases middle with
    | done value => cases same
    | fail error =>
      refine .inr ⟨error, log, [], (append_nil _).symm, inside, step, ?_⟩
      rw [show handler error = .ask statement step from same.symm]
      exact .refl _
    | ask statement' step' =>
      cases same
      exact .inl ⟨_, inside⟩
    | draw step => cases same
  · exact .inr ⟨error, first, second, split, threw, step, later⟩

end Rules

/-! #### What a program may send -/

/-- Every statement the program may send is of a kind. -/
def Sends (kind : Stmt → Prop) : Prog Stmt Reply Id Err α → Prop
  | .done _ => True
  | .fail _ => True
  | .ask statement next => kind statement ∧ ∀ answer, Sends kind (next answer)
  | .draw next => ∀ id, Sends kind (next id)

section Sends

variable {kind : Stmt → Prop} {program : Prog Stmt Reply Id Err α}
variable {log : List (Entry Stmt Reply Id Fault Write)}

theorem sends_query {statement : Stmt} (of : kind statement) :
    Sends kind (Prog.query statement : Prog Stmt Reply Id Err _) :=
  ⟨of, fun answer => by cases answer <;> trivial⟩

theorem sends_bind {next : α → Prog Stmt Reply Id Err β} (first : Sends kind program)
    (second : ∀ value, Sends kind (next value)) : Sends kind (program.bind next) := by
  induction program with
  | done value => exact second value
  | fail error => trivial
  | ask statement step ih => exact ⟨first.1, fun answer => ih answer (first.2 answer)⟩
  | draw step ih => exact fun id => ih id (first id)

theorem sends_newId {next : Id → Prog Stmt Reply Id Err β} (each : ∀ id, Sends kind (next id)) :
    Sends kind (Prog.newId.bind next) := each

theorem sends_done {value : α} : Sends kind (.done value : Prog Stmt Reply Id Err α) := trivial

theorem Sends.logged (sends : Sends kind program) {rest : Prog Stmt Reply Id Err α}
    (leads : Leads thrown program log rest) :
    ∀ entry ∈ log, ∀ statement, entry.statement = some statement → kind statement := by
  induction leads with
  | refl program => exact fun entry none => nomatch none
  | drew _ ih =>
    intro entry mem statement asked
    rcases mem_cons.1 mem with rfl | later
    · cases asked
    · exact ih (sends _) entry later statement asked
  | answered _ ih | lost _ ih | failed _ ih =>
    intro entry mem statement asked
    rcases mem_cons.1 mem with rfl | later
    · cases asked
      exact sends.1
    · exact ih (sends.2 _) entry later statement asked

theorem Sends.asks (sends : Sends kind program) {statement : Stmt}
    (asks : Asks thrown program log statement) : kind statement := by
  obtain ⟨next, leads⟩ := asks
  generalize stands : Prog.ask statement next = rest at leads
  induction leads with
  | refl program =>
    subst stands
    exact sends.1
  | drew _ ih => exact ih (sends _) stands
  | answered _ ih | lost _ ih | failed _ ih => exact ih (sends.2 _) stands

end Sends

end Logs

/-! ### Reachable configurations -/

section Reachable

variable {backend : Backend Stmt Reply Id Err Fault Write Call Value}
variable {config : Config Stmt Reply Id Err Fault Write Call Value}
variable {proc : Proc Stmt Reply Id Err Call Value}
variable {before after : List (Moment Stmt Reply Id Fault Write)}

theorem Fits.leads {now : Int} {held : List Write} {program rest : Prog Stmt Reply Id Err Value}
    {entry : Entry Stmt Reply Id Fault Write} (fits : Fits backend now held program entry rest) :
    Leads backend.thrown program [entry] rest := by
  cases fits with
  | drew => exact .drew (.refl _)
  | answered ran => exact .answered (.refl _)
  | lost ran => exact .lost (.refl _)
  | failed => exact .failed (.refl _)

/-- **Things happened to clients that began.** -/
theorem Reachable.known (reach : Reachable backend config) :
    ∀ moment ∈ config.history, moment.pid < config.procs.length := by
  induction reach with
  | empty =>
    intro moment none
    cases none
  | @step config config' event before next ih =>
    rcases step_cases backend next with ⟨call, rfl⟩ | ⟨now, -, rfl⟩ |
      ⟨pid, proc, found, -, ⟨entry, rest, -, rfl⟩ | ⟨result, -, rfl⟩⟩
    · intro moment mem
      rw [length_append]
      exact Nat.lt_add_right _ (ih moment mem)
    · exact ih
    · intro moment mem
      simp only [Config.advance, List.length_set]
      rcases mem_append.1 mem with old | new
      · exact ih moment old
      · rw [mem_singleton.1 new]
        exact (getElem?_eq_some_iff.1 found).1
    · intro moment mem
      simp only [Config.conclude, List.length_set]
      exact ih moment mem

theorem logOf_unknown {history : List (Moment Stmt Reply Id Fault Write)} {pid : Nat}
    (known : ∀ moment ∈ history, moment.pid < pid) : logOf pid history = [] :=
  List.filterMap_eq_nil_iff.2 fun moment mem => if_neg (Nat.ne_of_lt (known moment mem))

variable (reach : Reachable backend config)
include reach

/-- **What happened to a client leads its program to where it is.** -/
theorem Reachable.leads {pid : Nat}
    (found : config.procs[pid]? = some proc) :
    Leads backend.thrown (backend.program proc.call) (logOf pid config.history) proc.rest := by
  induction reach generalizing pid proc with
  | empty => simp [Config.empty] at found
  | @step config config' event before next ih =>
    rcases step_cases backend next with ⟨call, rfl⟩ | ⟨now, -, rfl⟩ |
      ⟨own, proc', found', -, ⟨entry, rest, fits, rfl⟩ | ⟨result, -, rfl⟩⟩
    · rcases Nat.lt_trichotomy pid config.procs.length with early | rfl | late
      · rw [List.getElem?_append_left early] at found
        exact ih found
      · rw [List.getElem?_concat_length] at found
        obtain rfl := Option.some.inj found
        rw [logOf_unknown before.known]
        exact .refl _
      · rw [List.getElem?_eq_none (by rw [length_append]; exact late)] at found
        cases found
    · exact ih found
    · simp only [Config.advance] at found ⊢
      by_cases same : own = pid
      · subst same
        rw [getElem?_set_self (getElem?_eq_some_iff.1 found').1] at found
        obtain rfl := Option.some.inj found
        rw [logOf_append, logOf_own ⟨own, config.now, entry⟩ [], logOf_nil]
        exact (ih found').trans fits.leads
      · rw [List.getElem?_set_ne same] at found
        rw [logOf_append, logOf_other same, logOf_nil, append_nil]
        exact ih found
    · simp only [Config.conclude] at found ⊢
      by_cases same : own = pid
      · subst same
        rw [getElem?_set_self (getElem?_eq_some_iff.1 found').1] at found
        have leads := ih found'
        rw [← Option.some.inj found]
        exact leads
      · rw [List.getElem?_set_ne same] at found
        exact ih found

theorem Reachable.ended {pid : Nat}
    (found : config.procs[pid]? = some proc) {result : Except Err Value} (ended : proc.result = some result) :
    Ends proc.rest result := by
  induction reach generalizing pid proc with
  | empty => simp [Config.empty] at found
  | @step config config' event before next ih =>
    rcases step_cases backend next with ⟨call, rfl⟩ | ⟨now, -, rfl⟩ |
      ⟨own, proc', found', running, ⟨entry, rest, fits, rfl⟩ | ⟨result', ends, rfl⟩⟩
    · rcases mem_append.1 (mem_of_getElem? found) with old | new
      · obtain ⟨pid', found⟩ := List.getElem?_of_mem old
        exact ih found ended
      · rw [mem_singleton.1 new] at ended
        cases ended
    · exact ih found ended
    · rcases mem_or_eq_of_mem_set (mem_of_getElem? found) with old | rfl
      · obtain ⟨pid', found⟩ := List.getElem?_of_mem old
        exact ih found ended
      · rw [show proc'.result = some result from ended] at running
        cases running
    · rcases mem_or_eq_of_mem_set (mem_of_getElem? found) with old | rfl
      · obtain ⟨pid', found⟩ := List.getElem?_of_mem old
        exact ih found ended
      · cases ended
        exact ends

/-- **A client that returned has done what its program does to return.** -/
theorem Reachable.returned {pid : Nat}
    (found : config.procs[pid]? = some proc) {value : Value} (ended : proc.result = some (.ok value)) :
    Returns backend.thrown (backend.program proc.call) (logOf pid config.history) value := by
  have leads := reach.leads found
  have ends := reach.ended found ended
  generalize proc.rest = rest at leads ends
  cases ends with
  | returns => exact leads

theorem Reachable.threw {pid : Nat}
    (found : config.procs[pid]? = some proc) {error : Err} (ended : proc.result = some (.error error)) :
    Throws backend.thrown (backend.program proc.call) (logOf pid config.history) error := by
  have leads := reach.leads found
  have ends := reach.ended found ended
  generalize proc.rest = rest at leads ends
  cases ends with
  | throws => exact leads

omit reach

theorem step_calls {config' : Config Stmt Reply Id Err Fault Write Call Value} {event : Event Id Fault Call}
    (next : step backend config event = some config') {pid : Nat} (found : config.procs[pid]? = some proc) :
    ∃ proc', config'.procs[pid]? = some proc' ∧ proc'.call = proc.call := by
  rcases step_cases backend next with ⟨call, rfl⟩ | ⟨now, -, rfl⟩ |
    ⟨own, other, found', -, ⟨entry, rest, -, rfl⟩ | ⟨result, -, rfl⟩⟩
  · exact ⟨proc, by rw [List.getElem?_append_left (getElem?_eq_some_iff.1 found).1, found], rfl⟩
  · exact ⟨proc, found, rfl⟩
  · by_cases same : own = pid
    · subst same
      obtain rfl := mem_unique found found'
      exact ⟨_, getElem?_set_self (getElem?_eq_some_iff.1 found).1, rfl⟩
    · exact ⟨proc, by simp [Config.advance, List.getElem?_set_ne same, found], rfl⟩
  · by_cases same : own = pid
    · subst same
      obtain rfl := mem_unique found found'
      exact ⟨_, getElem?_set_self (getElem?_eq_some_iff.1 found).1, rfl⟩
    · exact ⟨proc, by simp [Config.conclude, List.getElem?_set_ne same, found], rfl⟩

variable (reach : Reachable backend config)
include reach

/-- **What happened is what the program of the client had come to, and what the server did with it on
the contents before it.** -/
theorem Reachable.moment {moment : Moment Stmt Reply Id Fault Write}
    (split : config.history = before ++ moment :: after) :
    ∃ proc rest rest', config.procs[moment.pid]? = some proc ∧
      Leads backend.thrown (backend.program proc.call) (logOf moment.pid before) rest ∧
      Fits backend moment.now (contents before) rest moment.entry rest' := by
  induction reach generalizing after with
  | empty => exact absurd split (by simp [Config.empty])
  | @step config config' event prior next ih =>
    have older : ∀ after',
        config.history = before ++ moment :: after' → ∃ proc rest rest', config'.procs[moment.pid]? =
          some proc ∧ Leads backend.thrown (backend.program proc.call) (logOf moment.pid before) rest ∧
          Fits backend moment.now (contents before) rest moment.entry rest' := by
      intro after' split'
      obtain ⟨proc, rest, rest', found, leads, fits⟩ := ih split'
      obtain ⟨proc', found', same⟩ := step_calls next found
      rw [← same] at leads
      exact ⟨proc', rest, rest', found', leads, fits⟩
    rcases step_cases backend next with ⟨call, same⟩ | ⟨now, -, same⟩ |
      ⟨own, proc, found, -, ⟨entry, rest, fits, same⟩ | ⟨result, -, same⟩⟩
    · exact older after (by rw [← split, same])
    · exact older after (by rw [← split, same])
    · have grown : config'.history = config.history ++ [⟨own, config.now, entry⟩] := by
        rw [same]
        rfl
      rw [grown] at split
      rcases List.eq_nil_or_concat after with rfl | ⟨after', last, rfl⟩
      · obtain ⟨rfl, new⟩ := List.append_inj' split rfl
        obtain rfl := (List.cons.inj new).1
        obtain ⟨proc', found', called⟩ := step_calls next found
        refine ⟨proc', proc.rest, rest, found', ?_, fits⟩
        rw [called]
        exact prior.leads found
      · rw [List.concat_eq_append, ← cons_append, ← append_assoc] at split
        exact older after' (List.append_inj' split rfl).1
    · exact older after (by rw [← split, same]; rfl)

theorem Reachable.asked {moment : Moment Stmt Reply Id Fault Write}
    (split : config.history = before ++ moment :: after) {statement : Stmt}
    (asked : moment.entry.statement = some statement) :
    ∃ proc, config.procs[moment.pid]? = some proc ∧
      Asks backend.thrown (backend.program proc.call) (logOf moment.pid before) statement := by
  obtain ⟨proc, rest, rest', found, leads, fits⟩ := reach.moment split
  refine ⟨proc, found, ?_⟩
  generalize moment.entry = entry at asked fits
  cases fits with
  | drew => cases asked
  | answered ran | lost ran | failed =>
    cases asked
    exact ⟨_, leads⟩

theorem Reachable.answered {moment : Moment Stmt Reply Id Fault Write}
    (split : config.history = before ++ moment :: after) {statement : Stmt} {reply : Reply statement}
    {writes : List Write} (answered : moment.entry = .answered statement reply writes) :
    backend.exec moment.now (contents before) statement = .ok (reply, writes) := by
  obtain ⟨proc, rest, rest', -, -, fits⟩ := reach.moment split
  rw [answered] at fits
  cases fits with
  | answered ran => exact ran

theorem Reachable.unanswered {moment : Moment Stmt Reply Id Fault Write}
    (split : config.history = before ++ moment :: after) {statement : Stmt} {reply : Reply statement}
    {writes : List Write} {fault : Fault} (lost : moment.entry = .lost statement reply writes fault) :
    backend.exec moment.now (contents before) statement = .ok (reply, writes) := by
  obtain ⟨proc, rest, rest', -, -, fits⟩ := reach.moment split
  rw [lost] at fits
  cases fits with
  | lost ran => exact ran

theorem Reachable.wrote {moment : Moment Stmt Reply Id Fault Write}
    (split : config.history = before ++ moment :: after) :
    moment.entry.writes = [] ∨
      ∃ statement reply, moment.entry.statement = some statement ∧
      backend.exec moment.now (contents before) statement = .ok (reply, moment.entry.writes) := by
  obtain ⟨proc, rest, rest', -, -, fits⟩ := reach.moment split
  generalize moment.entry = entry at fits
  cases fits with
  | drew => exact .inl rfl
  | answered ran | lost ran => exact .inr ⟨_, _, rfl, ran⟩
  | failed => exact .inl rfl

/-- **What no statement undoes stays.** -/
theorem Reachable.stable (Holds : List Write → Prop)
    (kept : ∀ now held statement reply writes, Holds held →
        backend.exec now held statement = .ok (reply, writes) → Holds (held ++ writes))
    {later : List (Moment Stmt Reply Id Fault Write)} (split : config.history = before ++ after ++ later)
    (holds : Holds (contents before)) : Holds (contents (before ++ after)) := by
  induction after generalizing before with
  | nil => rwa [append_nil]
  | cons moment after ih =>
    have place : config.history = before ++ moment :: (after ++ later) := by
      rw [split, append_assoc, cons_append]
    have next : Holds (contents (before ++ [moment])) := by
      rw [contents_append, contents_cons, contents_nil, append_nil]
      rcases reach.wrote place with nothing | ⟨statement, reply, -, ran⟩
      · rwa [nothing, append_nil]
      · exact kept _ _ _ _ _ holds ran
    have onward := ih (show config.history = (before ++ [moment]) ++ after ++ later by
      rw [place]
      simp) next
    rwa [append_assoc, singleton_append] at onward

theorem Reachable.clock :
    (config.history.Pairwise fun first second => first.now ≤ second.now) ∧
      ∀ moment ∈ config.history, moment.now ≤ config.now := by
  induction reach with
  | empty => exact ⟨.nil, fun moment none => by cases none⟩
  | @step config config' event before next ih =>
    obtain ⟨ordered, past⟩ := ih
    rcases step_cases backend next with ⟨call, rfl⟩ | ⟨now, later, rfl⟩ |
      ⟨pid, proc, -, -, ⟨entry, rest, -, rfl⟩ | ⟨result, -, rfl⟩⟩
    · exact ⟨ordered, past⟩
    · exact ⟨ordered, fun moment mem => Int.le_trans (past moment mem) later⟩
    · refine ⟨pairwise_append.2 ⟨ordered, pairwise_singleton _ _, ?_⟩, ?_⟩
      · intro moment mem last isLast
        rw [mem_singleton.1 isLast]
        exact past moment mem
      · intro moment mem
        rcases mem_append.1 mem with old | new
        · exact past moment old
        · rw [mem_singleton.1 new]
          exact Int.le_refl config.now
    · exact ⟨ordered, past⟩

omit reach

end Reachable

end Autocommit

end DataPulse.Lib
