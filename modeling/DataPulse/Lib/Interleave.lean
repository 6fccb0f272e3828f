/-
**Transactions that run at the same time.**

The clients of one server, each running its `Prog` in a transaction of its own, statement by
statement in any order (READ COMMITTED): a statement sees what is committed when it runs, and the
transaction's own writes. The contents of the database are the writes themselves, in the order of
their commits.

* A statement whose write clashes with a write another open transaction has not committed yet waits:
  the step is not enabled until that transaction ends.
* A failed statement aborts its transaction: the server refuses every later one, and the COMMIT of
  an aborted transaction rolls back without an error. Any statement, and any COMMIT, may be failed by
  the world.
* An identifier is drawn at most once.

`Reachable` is what any order of steps leads to.
-/

import DataPulse.Lib.Machine
import DataPulse.Lib.Prog
import Mathlib.Data.List.Flatten
import Mathlib.Data.List.Nodup
import Mathlib.Logic.Relation

namespace DataPulse.Lib

/-- The clients of a server, and the server: the program of a client, what a statement answers and
writes when it sees the given contents, what an error of the server is to a client, what the server
says inside an aborted transaction, and which writes cannot stand next to each other. -/
structure System (Stmt : Type) (Reply : Stmt → Type) (Id Err Fault Write Call Value : Type) where
  program : Call → Prog Stmt Reply Id Err Value
  exec : Call → List Write → (statement : Stmt) → Except Fault (Reply statement × List Write)
  thrown : Fault → Err
  refused : Fault
  clash : Write → Write → Bool

variable {Stmt : Type} {Reply : Stmt → Type} {Id Err Fault Write Call Value : Type} {pid : Nat}
  {α β : Type} {own : List Write} {call : Call}
  {system : System Stmt Reply Id Err Fault Write Call Value}

namespace Interleave

/-- What a client has been told: an identifier, or the answer to a statement, given when `seen`
transactions were committed. -/
inductive Entry (Stmt : Type) (Reply : Stmt → Type) (Id Fault Write : Type) where
  | drew (id : Id)
  | answered (statement : Stmt) (seen : Nat)
      (answer : Except Fault (Reply statement × List Write))

section Definitions

namespace Entry

def draws : Entry Stmt Reply Id Fault Write → List Id
  | drew id => [id]
  | answered .. => []

def writes : Entry Stmt Reply Id Fault Write → List Write
  | drew _ => []
  | answered _ _ (.ok (_, writes)) => writes
  | answered _ _ (.error _) => []

/-- The statement of the entry failed. -/
def failed : Entry Stmt Reply Id Fault Write → Bool
  | answered _ _ (.error _) => true
  | _ => false

end Entry

/-- A client: its call, its log, what is left of its program, and how it ended. -/
structure Proc (Stmt : Type) (Reply : Stmt → Type) (Id Err Fault Write Call Value : Type) where
  call : Call
  log : List (Entry Stmt Reply Id Fault Write)
  rest : Prog Stmt Reply Id Err Value
  result : Option (Except Err Value)

def written (log : List (Entry Stmt Reply Id Fault Write)) : List Write := log.flatMap Entry.writes

def drawn (log : List (Entry Stmt Reply Id Fault Write)) : List Id := log.flatMap Entry.draws

/-- A statement of the log failed. -/
def aborted (log : List (Entry Stmt Reply Id Fault Write)) : Bool := log.any Entry.failed

/-- The transaction of the client holds its writes: it neither ended nor was aborted. -/
def Proc.live (proc : Proc Stmt Reply Id Err Fault Write Call Value) : Bool :=
  proc.result.isNone && !aborted proc.log

/-- The clients, and the commits so far, each with the client it is of. -/
structure Config (Stmt : Type) (Reply : Stmt → Type) (Id Err Fault Write Call Value : Type) where
  commits : List (Nat × List Write)
  procs : List (Proc Stmt Reply Id Err Fault Write Call Value)

/-- The writes of commits, in order. -/
def contents (commits : List (Nat × List Write)) : List Write := commits.flatMap Prod.snd

def Config.ledger (config : Config Stmt Reply Id Err Fault Write Call Value) : List Write :=
  contents config.commits

def Config.empty : Config Stmt Reply Id Err Fault Write Call Value := ⟨[], []⟩

variable (system : System Stmt Reply Id Err Fault Write Call Value)

/-- What the client is told of an answer. -/
def told {statement : Stmt} (answer : Except Fault (Reply statement × List Write)) :
    Except Err (Reply statement) :=
  match answer with
  | .ok (reply, _) => .ok reply
  | .error fault => .error (system.thrown fault)

def Proc.start (call : Call) : Proc Stmt Reply Id Err Fault Write Call Value :=
  ⟨call, [], system.program call, none⟩

def Proc.draw (id : Id) (proc : Proc Stmt Reply Id Err Fault Write Call Value) :
    Option (Proc Stmt Reply Id Err Fault Write Call Value) :=
  match proc.rest, proc.result with
  | .draw next, none => some { proc with log := proc.log ++ [.drew id], rest := next id }
  | _, _ => none

def Proc.reply (seen : Nat)
    (answer : (statement : Stmt) → Option (Except Fault (Reply statement × List Write)))
    (proc : Proc Stmt Reply Id Err Fault Write Call Value) :
    Option (Proc Stmt Reply Id Err Fault Write Call Value) :=
  match proc.rest, proc.result with
  | .ask statement next, none => (answer statement).map fun answer =>
    { proc with
      log := proc.log ++ [.answered statement seen answer]
      rest := next (told system answer) }
  | _, _ => none

/-- The client with its program at an end: what it returns or throws; a COMMIT may fail. -/
def Proc.stop (outage : Option Fault) (proc : Proc Stmt Reply Id Err Fault Write Call Value) :
    Option (Except Err Value) :=
  match proc.rest, proc.result, outage with
  | .done value, none, none => some (.ok value)
  | .done _, none, some fault => some (.error (system.thrown fault))
  | .fail error, none, none => some (.error error)
  | _, _, _ => none

namespace Config

variable (config : Config Stmt Reply Id Err Fault Write Call Value)

/-- The writes clash with what another client's open transaction wrote. -/
def blocked (pid : Nat) (writes : List Write) : Bool :=
  config.procs.zipIdx.any fun (other, index) => index ≠ pid && other.live &&
    (written other.log).any fun pending => writes.any fun write => system.clash pending write

/-- The server's answer to a client, unless the client has to wait. -/
def serve (pid : Nat) (proc : Proc Stmt Reply Id Err Fault Write Call Value) (statement : Stmt) :
    Option (Except Fault (Reply statement × List Write)) :=
  if aborted proc.log then some (.error system.refused)
  else match system.exec proc.call (config.ledger ++ written proc.log) statement with
    | .ok (reply, writes) => if config.blocked system pid writes then none else some (.ok (reply, writes))
    | .error fault => some (.error fault)

/-- No client has drawn the identifier. -/
def unused [DecidableEq Id] (id : Id) : Bool :=
  config.procs.all fun proc => id ∉ drawn proc.log

def put (pid : Nat) (proc : Proc Stmt Reply Id Err Fault Write Call Value) :
    Config Stmt Reply Id Err Fault Write Call Value :=
  { config with procs := config.procs.set pid proc }

/-- The client ended; without an error and without a failed statement, its writes are committed. -/
def conclude (pid : Nat) (proc : Proc Stmt Reply Id Err Fault Write Call Value)
    (result : Except Err Value) : Config Stmt Reply Id Err Fault Write Call Value where
  commits := match result with
    | .ok _ => if aborted proc.log then config.commits else config.commits ++ [(pid, written proc.log)]
    | .error _ => config.commits
  procs := config.procs.set pid { proc with result := some result }

end Config

/-- What happens next: a client begins, draws an identifier, sends its next statement, has it failed
by the world, or ends, where the world may fail the COMMIT. -/
inductive Event (Id Fault Call : Type) where
  | start (call : Call)
  | draw (pid : Nat) (id : Id)
  | ask (pid : Nat)
  | outage (pid : Nat) (fault : Fault)
  | stop (pid : Nat) (outage : Option Fault)

def step [DecidableEq Id] (config : Config Stmt Reply Id Err Fault Write Call Value) :
    Event Id Fault Call → Option (Config Stmt Reply Id Err Fault Write Call Value)
  | .start call => some { config with procs := config.procs ++ [Proc.start system call] }
  | .draw pid id => do
      let proc ← config.procs[pid]?
      if config.unused id then (proc.draw id).map (config.put pid) else none
  | .ask pid => do
      let proc ← config.procs[pid]?
      (proc.reply system config.commits.length (config.serve system pid proc)).map (config.put pid)
  | .outage pid fault => do
      let proc ← config.procs[pid]?
      (proc.reply system config.commits.length fun _ => some (.error fault)).map (config.put pid)
  | .stop pid outage => do
      let proc ← config.procs[pid]?
      (proc.stop system outage).map (config.conclude pid proc)

def run [DecidableEq Id] (events : List (Event Id Fault Call)) :
    Option (Config Stmt Reply Id Err Fault Write Call Value) :=
  events.foldlM (step system) Config.empty

/-- What some order of steps leads to. -/
inductive Reachable [DecidableEq Id] : Config Stmt Reply Id Err Fault Write Call Value → Prop where
  | empty : Reachable .empty
  | step {config config' : Config Stmt Reply Id Err Fault Write Call Value}
      {event : Event Id Fault Call} (before : Reachable config)
      (next : step system config event = some config') : Reachable config'

/-- Some further steps lead from the one to the other. -/
def Later [DecidableEq Id] :
    Config Stmt Reply Id Err Fault Write Call Value →
      Config Stmt Reply Id Err Fault Write Call Value → Prop :=
  Relation.ReflTransGen fun config config' => ∃ event, step system config event = some config'

end Definitions

/-! ### What one step does -/

section Steps

variable (system : System Stmt Reply Id Err Fault Write Call Value)
variable {config config' : Config Stmt Reply Id Err Fault Write Call Value}
variable {proc proc' : Proc Stmt Reply Id Err Fault Write Call Value}
variable {event : Event Id Fault Call}

/-- An answer a client can be given: any error, or what the server executes, if it need not wait. -/
def Given (config : Config Stmt Reply Id Err Fault Write Call Value) (pid : Nat)
    (proc : Proc Stmt Reply Id Err Fault Write Call Value) (statement : Stmt) :
    Except Fault (Reply statement × List Write) → Prop
  | .ok (reply, writes) => aborted proc.log = false ∧
      system.exec proc.call (config.ledger ++ written proc.log) statement = .ok (reply, writes) ∧
      config.blocked system pid writes = false
  | .error _ => True

/-- A client goes on. -/
inductive Runs [DecidableEq Id] (config : Config Stmt Reply Id Err Fault Write Call Value) (pid : Nat)
    (proc : Proc Stmt Reply Id Err Fault Write Call Value) :
    Proc Stmt Reply Id Err Fault Write Call Value → Prop where
  | draw {id : Id} {next : Id → Prog Stmt Reply Id Err Value} (rest : proc.rest = .draw next)
      (new : config.unused id = true) :
      Runs config pid proc { proc with log := proc.log ++ [.drew id], rest := next id }
  | answer {statement : Stmt} {next : Except Err (Reply statement) → Prog Stmt Reply Id Err Value}
      {answer : Except Fault (Reply statement × List Write)} (rest : proc.rest = .ask statement next)
      (given : Given system config pid proc statement answer) :
      Runs config pid proc { proc with
        log := proc.log ++ [.answered statement config.commits.length answer]
        rest := next (told system answer) }

/-- A client ends. -/
inductive Stops (proc : Proc Stmt Reply Id Err Fault Write Call Value) : Except Err Value → Prop where
  | returns {value : Value} (rest : proc.rest = .done value) : Stops proc (.ok value)
  | lost {value : Value} (fault : Fault) (rest : proc.rest = .done value) :
      Stops proc (.error (system.thrown fault))
  | throws {error : Err} (rest : proc.rest = .fail error) : Stops proc (.error error)

theorem Config.serve_given {statement : Stmt} {answer : Except Fault (Reply statement × List Write)}
    (served : config.serve system pid proc statement = some answer) :
    Given system config pid proc statement answer := by
  unfold Config.serve at served
  split at served
  · cases served
    trivial
  · rename_i sound
    split at served
    · rename_i reply writes ran
      split_ifs at served with waits
      cases served
      exact ⟨by simpa using sound, ran, by simpa using waits⟩
    · cases served
      trivial

theorem Proc.reply_runs [DecidableEq Id]
    {answer : (statement : Stmt) → Option (Except Fault (Reply statement × List Write))}
    (given : ∀ statement reply, answer statement = some reply → Given system config pid proc statement reply)
    (replied : proc.reply system config.commits.length answer = some proc') :
    proc.result = none ∧ Runs system config pid proc proc' := by
  unfold Proc.reply at replied
  split at replied
  · rename_i statement next rest running
    obtain ⟨reply, answered, rfl⟩ := map_eq_some_iff.1 replied
    exact ⟨running, .answer rest (given statement reply answered)⟩
  · cases replied

theorem Proc.stop_stops {outage : Option Fault} {result : Except Err Value}
    (stopped : proc.stop system outage = some result) : proc.result = none ∧ Stops system proc result := by
  unfold Proc.stop at stopped
  split at stopped
  · cases stopped
    exact ⟨‹_›, .returns ‹_›⟩
  · cases stopped
    exact ⟨‹_›, .lost _ ‹_›⟩
  · cases stopped
    exact ⟨‹_›, .throws ‹_›⟩
  · cases stopped

/-- **A step begins a client, or lets one that has not ended go on or end.** -/
theorem step_cases [DecidableEq Id] (next : step system config event = some config') :
    (∃ call, event = .start call ∧
        config' = { config with procs := config.procs ++ [Proc.start system call] }) ∨
      ∃ pid proc, config.procs[pid]? = some proc ∧ proc.result = none ∧
      ((∃ proc', Runs system config pid proc proc' ∧ config' = config.put pid proc') ∨
        ∃ result, Stops system proc result ∧ config' = config.conclude pid proc result) := by
  cases event with
  | start call => exact .inl ⟨call, rfl, (Option.some.inj next).symm⟩
  | draw pid id =>
    obtain ⟨proc, found, next⟩ := bind_eq_some_iff.1 next
    split_ifs at next with new
    obtain ⟨proc', drew, rfl⟩ := map_eq_some_iff.1 next
    unfold Proc.draw at drew
    split at drew
    · cases drew
      exact .inr ⟨pid, proc, found, ‹_›, .inl ⟨_, .draw ‹_› new, rfl⟩⟩
    · cases drew
  | ask pid =>
    obtain ⟨proc, found, next⟩ := bind_eq_some_iff.1 next
    obtain ⟨proc', replied, rfl⟩ := map_eq_some_iff.1 next
    obtain ⟨running, runs⟩ := Proc.reply_runs system (fun _ _ served => Config.serve_given system served) replied
    exact .inr ⟨pid, proc, found, running, .inl ⟨proc', runs, rfl⟩⟩
  | outage pid fault =>
    obtain ⟨proc, found, next⟩ := bind_eq_some_iff.1 next
    obtain ⟨proc', replied, rfl⟩ := map_eq_some_iff.1 next
    have given : ∀ statement reply, some (Except.error fault) = some reply →
        Given system config pid proc statement reply := by
      rintro statement reply same
      cases same
      trivial
    obtain ⟨running, runs⟩ := Proc.reply_runs system given replied
    exact .inr ⟨pid, proc, found, running, .inl ⟨proc', runs, rfl⟩⟩
  | stop pid outage =>
    obtain ⟨proc, found, next⟩ := bind_eq_some_iff.1 next
    obtain ⟨result, stopped, rfl⟩ := map_eq_some_iff.1 next
    obtain ⟨running, stops⟩ := Proc.stop_stops system stopped
    exact .inr ⟨pid, proc, found, running, .inr ⟨result, stops, rfl⟩⟩

theorem Config.conclude_commits (config : Config Stmt Reply Id Err Fault Write Call Value) (pid : Nat)
    (proc : Proc Stmt Reply Id Err Fault Write Call Value) (result : Except Err Value) :
    (config.conclude pid proc result).commits = config.commits ∨
      ((∃ value, result = .ok value) ∧ aborted proc.log = false ∧
        (config.conclude pid proc result).commits = config.commits ++ [(pid, written proc.log)]) := by
  unfold Config.conclude
  cases result with
  | error error => exact .inl rfl
  | ok value =>
    cases failed : aborted proc.log with
    | true => exact .inl (by simp)
    | false => exact .inr ⟨⟨value, rfl⟩, rfl, by simp⟩

theorem step_commits [DecidableEq Id] (next : step system config event = some config') :
    ∃ more, config'.commits = config.commits ++ more := by
  rcases step_cases system next with
    ⟨call, rfl, rfl⟩ | ⟨pid, proc, -, -, ⟨proc', -, rfl⟩ | ⟨result, -, rfl⟩⟩
  · exact ⟨[], (append_nil _).symm⟩
  · exact ⟨[], (append_nil _).symm⟩
  · rcases config.conclude_commits pid proc result with same | ⟨-, -, more⟩
    · exact ⟨[], same.trans (append_nil _).symm⟩
    · exact ⟨_, more⟩

/-- **What is committed stays.** -/
theorem Later.commits [DecidableEq Id] (later : Later system config config') :
    ∃ more, config'.commits = config.commits ++ more := by
  induction later with
  | refl => exact ⟨[], (append_nil _).symm⟩
  | tail _ next ih =>
    obtain ⟨event, next⟩ := next
    obtain ⟨more, grown⟩ := ih
    obtain ⟨last, grown'⟩ := step_commits system next
    exact ⟨more ++ last, by rw [grown', grown, append_assoc]⟩

theorem run_reachable [DecidableEq Id] {events : List (Event Id Fault Call)}
    (ran : run system events = some config) : Reachable system config := by
  have later : Machine.Later ⟨Config.empty, step system⟩ Config.empty config := Machine.run_later ran
  exact later.invariant .empty fun _ _ _ reach _ next => .step reach next

end Steps

/-! ### The log of a client -/

section Logs

variable {second first : List (Entry Stmt Reply Id Fault Write)}

@[simp] theorem written_nil : written ([] : List (Entry Stmt Reply Id Fault Write)) = [] := rfl

@[simp] theorem drawn_nil : drawn ([] : List (Entry Stmt Reply Id Fault Write)) = [] := rfl

@[simp] theorem aborted_nil : aborted ([] : List (Entry Stmt Reply Id Fault Write)) = false := rfl

theorem written_append (first second : List (Entry Stmt Reply Id Fault Write)) :
    written (first ++ second) = written first ++ written second := flatMap_append

theorem drawn_append (first second : List (Entry Stmt Reply Id Fault Write)) :
    drawn (first ++ second) = drawn first ++ drawn second := flatMap_append

theorem aborted_append (first second : List (Entry Stmt Reply Id Fault Write)) :
    aborted (first ++ second) = (aborted first || aborted second) := any_append

theorem Runs.extends [DecidableEq Id] {system : System Stmt Reply Id Err Fault Write Call Value}
    {config : Config Stmt Reply Id Err Fault Write Call Value}
    {proc proc' : Proc Stmt Reply Id Err Fault Write Call Value} (runs : Runs system config pid proc proc') :
    ∃ entry, proc'.log = proc.log ++ [entry] ∧ proc'.call = proc.call ∧ proc'.result = proc.result := by
  cases runs with
  | draw rest new | answer rest given => exact ⟨_, rfl, rfl, rfl⟩

theorem contents_take {commits : List (Nat × List Write)} {seen : Nat} {write : Write}
    (early : write ∈ contents (commits.take seen)) : write ∈ contents commits := by
  obtain ⟨commit, mem, inside⟩ := mem_flatMap.1 early
  exact mem_flatMap.2 ⟨commit, mem_of_mem_take mem, inside⟩

variable (system : System Stmt Reply Id Err Fault Write Call Value)

/-- The log leads the program to what is left of it. -/
inductive Leads : Prog Stmt Reply Id Err α → List (Entry Stmt Reply Id Fault Write) →
    Prog Stmt Reply Id Err α → Prop where
  | refl (program : Prog Stmt Reply Id Err α) : Leads program [] program
  | draw {next : Id → Prog Stmt Reply Id Err α} {id : Id}
      {log : List (Entry Stmt Reply Id Fault Write)} {rest : Prog Stmt Reply Id Err α}
      (later : Leads (next id) log rest) : Leads (.draw next) (.drew id :: log) rest
  | answer {statement : Stmt} {seen : Nat} {answer : Except Fault (Reply statement × List Write)}
      {next : Except Err (Reply statement) → Prog Stmt Reply Id Err α}
      {log : List (Entry Stmt Reply Id Fault Write)} {rest : Prog Stmt Reply Id Err α}
      (later : Leads (next (told system answer)) log rest) :
      Leads (.ask statement next) (.answered statement seen answer :: log) rest

/-- Every answer of the log was given by the server, on the first `seen` commits and the client's
own writes; after a failed statement there is none. -/
def Answers (commits : List (Nat × List Write)) (call : Call) :
    Bool → List Write → List (Entry Stmt Reply Id Fault Write) → Prop
  | _, _, [] => True
  | failed, own, .drew _ :: log => Answers commits call failed own log
  | failed, own, .answered statement seen (.ok (reply, writes)) :: log =>
    (failed = false ∧ seen ≤ commits.length ∧
      system.exec call (contents (commits.take seen) ++ own) statement = .ok (reply, writes)) ∧
    Answers commits call failed (own ++ writes) log
  | _, own, .answered _ _ (.error _) :: log => Answers commits call true own log

variable {system} {commits : List (Nat × List Write)}

theorem Leads.trans {program middle rest : Prog Stmt Reply Id Err α}
    (before : Leads system program first middle) (later : Leads system middle second rest) :
    Leads system program (first ++ second) rest := by
  induction before with
  | refl program => exact later
  | draw _ ih => exact .draw (ih later)
  | answer _ ih => exact .answer (ih later)

theorem answers_append {failed : Bool} :
    Answers system commits call failed own (first ++ second) ↔
      Answers system commits call failed own first ∧
      Answers system commits call (failed || aborted first) (own ++ written first) second := by
  induction first generalizing failed own with
  | nil => simp [Answers]
  | cons entry rest ih =>
    match entry with
    | .drew _ =>
      show Answers system commits call failed own (rest ++ second) ↔ _
      rw [ih]
      rfl
    | .answered statement seen (.ok (reply, writes)) =>
      show _ ∧ Answers system commits call failed (own ++ writes) (rest ++ second) ↔ _
      rw [ih, ← and_assoc, append_assoc]
      rfl
    | .answered statement seen (.error fault) =>
      show Answers system commits call true own (rest ++ second) ↔ _
      have stays : (failed || aborted (Entry.answered statement seen (.error fault) :: rest)) =
          (true || aborted rest) := by
        simp [aborted, Entry.failed]
      rw [ih, stays]
      rfl

theorem Answers.grow {failed : Bool} {log : List (Entry Stmt Reply Id Fault Write)}
    (answers : Answers system commits call failed own log) (more : List (Nat × List Write)) :
    Answers system (commits ++ more) call failed own log := by
  induction log generalizing failed own with
  | nil => trivial
  | cons entry rest ih =>
    match entry with
    | .drew _ => exact ih answers
    | .answered statement seen (.ok (reply, writes)) =>
      obtain ⟨⟨sound, early, ran⟩, later⟩ := answers
      refine ⟨⟨sound, ?_, ?_⟩, ih later⟩
      · rw [length_append]
        omega
      · rw [List.take_append_of_le_length early]
        exact ran
    | .answered statement seen (.error fault) => exact ih answers

end Logs

/-! ### Clients of a reachable configuration -/

section Clients

variable [DecidableEq Id]
variable {config : Config Stmt Reply Id Err Fault Write Call Value}
variable {proc : Proc Stmt Reply Id Err Fault Write Call Value}
variable {proc' : Proc Stmt Reply Id Err Fault Write Call Value}
  {procs : List (Proc Stmt Reply Id Err Fault Write Call Value)}
variable {result : Except Err Value} {other : Nat}

/-- **What every step of a client keeps holds of every client.** -/
theorem Reachable.each
    (invariant : List (Nat × List Write) → Proc Stmt Reply Id Err Fault Write Call Value → Prop)
    (start : ∀ commits call, invariant commits (Proc.start system call))
    (runs : ∀ {pid : Nat} (config : Config Stmt Reply Id Err Fault Write Call Value) proc proc',
        invariant config.commits proc → proc.result = none → Runs system config pid proc proc' →
        invariant config.commits proc')
    (stops : ∀ commits proc result, invariant commits proc → Stops system proc result →
        invariant commits { proc with result := some result })
    (grow : ∀ commits more proc, invariant commits proc → invariant (commits ++ more) proc)
    (reach : Reachable system config) : ∀ proc ∈ config.procs, invariant config.commits proc := by
  induction reach with
  | empty =>
    intro proc mem
    cases mem
  | @step config config' event before next ih =>
    obtain ⟨more, grown⟩ := step_commits system next
    rw [grown]
    intro other mem
    refine grow _ _ _ ?_
    rcases step_cases system next with
      ⟨call, rfl, rfl⟩ | ⟨pid, proc, found, running, ⟨proc', ran, rfl⟩ | ⟨result, stopped, rfl⟩⟩
    · rcases mem_append.1 mem with old | new
      · exact ih other old
      · rw [mem_singleton.1 new]
        exact start _ call
    · rcases mem_or_eq_of_mem_set mem with old | rfl
      · exact ih other old
      · exact runs _ proc _ (ih proc (mem_of_getElem? found)) running ran
    · rcases mem_or_eq_of_mem_set mem with old | rfl
      · exact ih other old
      · exact stops _ proc _ (ih proc (mem_of_getElem? found)) stopped

/-- **The log of a client leads its program to where it is.** -/
theorem Reachable.leads (reach : Reachable system config) :
    ∀ proc ∈ config.procs, Leads system (system.program proc.call) proc.log proc.rest := by
  refine reach.each (fun _ proc => Leads system (system.program proc.call) proc.log proc.rest) (fun _ call =>
    .refl _) (fun config proc proc' leads _ ran => ?_) (fun _ _ _ leads _ => leads) (fun _ _ _ leads => leads)
  cases ran with
  | draw rest new =>
    rw [rest] at leads
    exact leads.trans (.draw (.refl _))
  | answer rest given =>
    rw [rest] at leads
    exact leads.trans (.answer (.refl _))

/-- **The answers in the log of a client were given by the server.** -/
theorem Reachable.answered (reach : Reachable system config) :
    ∀ proc ∈ config.procs, Answers system config.commits proc.call false [] proc.log := by
  refine reach.each (fun commits proc => Answers system commits proc.call false [] proc.log)
    (fun _ _ => trivial) (fun config proc proc' answers _ ran => ?_) (fun _ _ _ answers _ => answers)
    (fun _ more _ answers => answers.grow more)
  cases ran with
  | draw rest new => exact answers_append.2 ⟨answers, trivial⟩
  | @answer statement next answer rest given =>
    refine answers_append.2 ⟨answers, ?_⟩
    match answer with
    | .ok (reply, writes) =>
      obtain ⟨sound, went, -⟩ := given
      refine ⟨⟨sound, Nat.le_refl _, ?_⟩, trivial⟩
      rw [take_length]
      exact went
    | .error fault => trivial

theorem Reachable.ended (reach : Reachable system config) :
    ∀ proc ∈ config.procs, ∀ result, proc.result = some result → Stops system proc result := by
  refine reach.each (fun _ proc => ∀ result, proc.result = some result →
    Stops system proc result) (fun _ call result none => ?_) (fun config proc proc' _ running ran => ?_)
    (fun _ proc result _ stops other same => ?_) (fun _ _ _ ended => ended)
  · cases none
  · intro result ended
    obtain ⟨entry, -, -, same⟩ := ran.extends
    rw [same, running] at ended
    cases ended
  · cases same
    cases stops with
    | returns rest => exact .returns rest
    | lost fault rest => exact .lost fault rest
    | throws rest => exact .throws rest

/-- What the commits are. -/
structure Booked (config : Config Stmt Reply Id Err Fault Write Call Value) : Prop where
  committed : ∀ pid writes, (pid, writes) ∈ config.commits → ∃ proc value,
    config.procs[pid]? = some proc ∧ proc.result = some (.ok value) ∧ aborted proc.log = false ∧
      writes = written proc.log
  returned : ∀ pid (proc : Proc Stmt Reply Id Err Fault Write Call Value) value,
    config.procs[pid]? = some proc → proc.result = some (.ok value) → aborted proc.log = false →
      (pid, written proc.log) ∈ config.commits
  once : (config.commits.map Prod.fst).Nodup

theorem getElem?_put {α : Type} {procs : List α} {proc proc' found' : α} (found : procs[pid]? = some proc) :
    (procs.set pid proc')[other]? = some found' ↔
      (other = pid ∧ found' = proc') ∨ (other ≠ pid ∧ procs[other]? = some found') := by
  by_cases same : other = pid
  · subst same
    rw [getElem?_set_self (getElem?_eq_some_iff.1 found).1]
    simp [eq_comm]
  · rw [List.getElem?_set_ne (Ne.symm same)]
    simp [same]

theorem getElem?_begin {α : Type} {procs : List α} {new found : α} :
    (procs ++ [new])[other]? = some found ↔
      procs[other]? = some found ∨ (other = procs.length ∧ found = new) := by
  rw [List.getElem?_append]
  split_ifs with early
  · simp [Nat.ne_of_lt early]
  · have none : procs[other]? = none := List.getElem?_eq_none (by omega)
    rw [none, List.getElem?_singleton]
    by_cases last : other - procs.length = 0
    · have same : other = procs.length := by omega
      simp [same, eq_comm]
    · have unlike : other ≠ procs.length := by omega
      simp [last, unlike]

/-- Any two clients are related. -/
def Across {α : Type} (related : α → α → Prop) (procs : List α) : Prop :=
  ∀ (one two : Nat) (proc proc' : α), procs[one]? = some proc → procs[two]? = some proc' → one ≠ two →
    related proc proc'

section Across

variable {related : α → α → Prop} {procs : List α} {proc proc' new : α}

theorem Across.put (symm : ∀ one two, related one two → related two one) (across : Across related procs)
    (found : procs[pid]? = some proc)
    (fresh : ∀ other found', procs[other]? = some found' → other ≠ pid → related found' proc') :
    Across related (procs.set pid proc') := by
  intro first second one two knownOne knownTwo unlike
  rcases (getElem?_put found).1 knownOne with ⟨rfl, rfl⟩ | ⟨otherOne, oldOne⟩
  · rcases (getElem?_put found).1 knownTwo with ⟨rfl, rfl⟩ | ⟨otherTwo, oldTwo⟩
    · exact absurd rfl unlike
    · exact symm _ _ (fresh second two oldTwo otherTwo)
  · rcases (getElem?_put found).1 knownTwo with ⟨rfl, rfl⟩ | ⟨otherTwo, oldTwo⟩
    · exact fresh first one oldOne otherOne
    · exact across first second one two oldOne oldTwo unlike

theorem Across.begin (across : Across related procs) (left : ∀ proc, related proc new)
    (right : ∀ proc, related new proc) : Across related (procs ++ [new]) := by
  intro first second one two knownOne knownTwo unlike
  rcases getElem?_begin.1 knownOne with oldOne | ⟨-, rfl⟩
  · rcases getElem?_begin.1 knownTwo with oldTwo | ⟨-, rfl⟩
    · exact across first second one two oldOne oldTwo unlike
    · exact left one
  · exact right two

end Across

omit [DecidableEq Id] in
theorem Booked.begin (booked : Booked config) (call : Call) :
    Booked { config with procs := config.procs ++ [Proc.start system call] } := by
  refine ⟨fun pid writes mem => ?_, fun pid proc value found ended => ?_, booked.once⟩
  · obtain ⟨proc, value, found, rest⟩ := booked.committed pid writes mem
    exact ⟨proc, value, getElem?_begin.2 (.inl found), rest⟩
  · rcases getElem?_begin.1 found with old | ⟨-, rfl⟩
    · exact booked.returned pid proc value old ended
    · cases ended

omit [DecidableEq Id] in
theorem Booked.unbooked (booked : Booked config) (found : config.procs[pid]? = some proc)
    (running : proc.result = none) : pid ∉ config.commits.map Prod.fst := by
  intro mem
  obtain ⟨⟨other, writes⟩, commit, rfl⟩ := mem_map.1 mem
  obtain ⟨proc', value, found', ended, -⟩ := booked.committed _ _ commit
  obtain rfl := mem_unique found found'
  rw [running] at ended
  cases ended

omit [DecidableEq Id] in
theorem Booked.put (booked : Booked config) {pid : Nat} (found : config.procs[pid]? = some proc)
    (running : proc.result = none) (running' : proc'.result = none) : Booked (config.put pid proc') := by
  refine ⟨fun other writes mem => ?_, fun other found' value known ended => ?_, booked.once⟩
  · obtain ⟨proc₁, value, known, rest⟩ := booked.committed other writes mem
    have unlike : other ≠ pid := by
      rintro rfl
      exact booked.unbooked found running (mem_map_of_mem (f := Prod.fst) mem)
    exact ⟨proc₁, value, (getElem?_put found).2 (.inr ⟨unlike, known⟩), rest⟩
  · rcases (getElem?_put found).1 known with ⟨-, rfl⟩ | ⟨-, old⟩
    · rw [running'] at ended
      cases ended
    · exact booked.returned other found' value old ended

omit [DecidableEq Id] in
theorem Booked.conclude (booked : Booked config) (found : config.procs[pid]? = some proc)
    (running : proc.result = none) : Booked (config.conclude pid proc result) := by
  have unbooked := booked.unbooked found running
  have others : ∀ other writes, (other, writes) ∈ config.commits → ∃ proc' value,
      (config.procs.set pid { proc with result := some result })[other]? = some proc' ∧
        proc'.result = some (.ok value) ∧ aborted proc'.log = false ∧ writes = written proc'.log := by
    intro other writes mem
    obtain ⟨proc', value, known, rest⟩ := booked.committed other writes mem
    have unlike : other ≠ pid := by
      rintro rfl
      exact unbooked (mem_map_of_mem (f := Prod.fst) mem)
    exact ⟨proc', value, (getElem?_put found).2 (.inr ⟨unlike, known⟩), rest⟩
  have mine : (config.procs.set pid { proc with result := some result })[pid]? =
      some { proc with result := some result } := (getElem?_put found).2 (.inl ⟨rfl, rfl⟩)
  rcases config.conclude_commits pid proc result with same | ⟨⟨value, rfl⟩, sound, more⟩
  · refine ⟨?_, ?_, ?_⟩
    · rw [same]
      exact others
    · intro other proc' value known ended unfailed
      rw [same]
      rcases (getElem?_put found).1 known with ⟨rfl, rfl⟩ | ⟨-, old⟩
      · cases ended
        unfold Config.conclude at same
        have lengths := congrArg List.length same
        rw [show aborted proc.log = false from unfailed] at lengths
        simp at lengths
      · exact booked.returned other proc' value old ended unfailed
    · rw [same]
      exact booked.once
  · refine ⟨?_, ?_, ?_⟩
    · rw [more]
      intro other writes mem
      rcases mem_append.1 mem with old | new
      · exact others other writes old
      · cases mem_singleton.1 new
        exact ⟨_, value, mine, rfl, sound, rfl⟩
    · intro other proc' value' known ended unfailed
      rw [more]
      rcases (getElem?_put found).1 known with ⟨rfl, rfl⟩ | ⟨-, old⟩
      · exact mem_append_right _ mem_cons_self
      · exact mem_append_left _ (booked.returned other proc' value' old ended unfailed)
    · rw [more, map_append]
      refine List.Nodup.append booked.once (nodup_singleton _) ?_
      intro other mem new
      have same : other = pid := mem_singleton.1 new
      rw [same] at mem
      exact unbooked mem

/-- **What is committed is what a client wrote that returned without a failed statement.** -/
theorem Reachable.booked (reach : Reachable system config) : Booked config := by
  induction reach with
  | empty =>
    refine ⟨?_, ?_, nodup_nil⟩
    · intro pid writes mem
      cases mem
    · intro pid proc value found
      cases found
  | @step config config' event before next ih =>
    rcases step_cases system next with
      ⟨call, rfl, rfl⟩ | ⟨pid, proc, found, running, ⟨proc', ran, rfl⟩ | ⟨result, -, rfl⟩⟩
    · exact ih.begin call
    · obtain ⟨entry, -, -, same⟩ := ran.extends
      exact ih.put found running (same.trans running)
    · exact ih.conclude found running

/-- No identifier is drawn twice. -/
structure DrawnOnce (procs : List (Proc Stmt Reply Id Err Fault Write Call Value)) : Prop where
  each : ∀ proc ∈ procs, (drawn proc.log).Nodup
  apart : ∀ (first second : Nat) (proc proc' : Proc Stmt Reply Id Err Fault Write Call Value),
    procs[first]? = some proc → procs[second]? = some proc' → first ≠ second →
      List.Disjoint (drawn proc.log) (drawn proc'.log)

omit [DecidableEq Id] in
theorem DrawnOnce.put (once : DrawnOnce config.procs) {pid : Nat} (found : config.procs[pid]? = some proc)
    (nodup : (drawn proc'.log).Nodup)
    (apart : ∀ (other : Nat) (found' : Proc Stmt Reply Id Err Fault Write Call Value), config.procs[other]? =
      some found' → other ≠ pid → List.Disjoint (drawn found'.log) (drawn proc'.log)) :
    DrawnOnce (config.procs.set pid proc') := by
  refine ⟨fun other mem => ?_, Across.put (fun _ _ apart _ inTwo inOne => apart inOne inTwo)
    once.apart found apart⟩
  rcases mem_or_eq_of_mem_set mem with old | rfl
  · exact once.each other old
  · exact nodup

theorem DrawnOnce.runs (once : DrawnOnce config.procs) (found : config.procs[pid]? = some proc)
    (ran : Runs system config pid proc proc') : DrawnOnce (config.procs.set pid proc') := by
  have nodup := once.each proc (mem_of_getElem? found)
  cases ran with
  | @draw id next rest new =>
    have unused : ∀ other ∈ config.procs, id ∉ drawn other.log := fun other mem =>
      of_decide_eq_true (all_eq_true.1 new other mem)
    refine once.put found ?_ fun other found' known unlike => ?_
    · show (drawn (proc.log ++ [.drew id])).Nodup
      rw [drawn_append]
      refine List.Nodup.append nodup (nodup_singleton _) ?_
      intro other mem same
      rw [mem_singleton.1 same] at mem
      exact unused proc (mem_of_getElem? found) mem
    · show List.Disjoint _ (drawn (proc.log ++ [.drew id]))
      rw [drawn_append, List.disjoint_append_right]
      refine ⟨once.apart other pid found' proc known found unlike, fun mem inOther same => ?_⟩
      rw [mem_singleton.1 same] at inOther
      exact unused found' (mem_of_getElem? known) inOther
  | @answer statement next answer rest given =>
    have same : drawn (proc.log ++ [.answered statement config.commits.length answer]) = drawn proc.log := by
      rw [drawn_append]
      exact append_nil _
    refine once.put found ?_ fun other found' known unlike => ?_
    · show (drawn (proc.log ++ _)).Nodup
      rwa [same]
    · show List.Disjoint _ (drawn (proc.log ++ _))
      rw [same]
      exact once.apart other pid found' proc known found unlike

/-- **No identifier is drawn twice.** -/
theorem Reachable.drawnOnce (reach : Reachable system config) : DrawnOnce config.procs := by
  induction reach with
  | empty =>
    refine ⟨?_, ?_⟩
    · intro proc mem
      cases mem
    · intro first second proc proc' found
      cases found
  | @step config config' event before next ih =>
    rcases step_cases system next with
      ⟨call, rfl, rfl⟩ | ⟨pid, proc, found, -, ⟨proc', ran, rfl⟩ | ⟨result, -, rfl⟩⟩
    · refine ⟨fun other mem => ?_, Across.begin ih.apart (fun _ => List.disjoint_nil_right _)
        fun _ => List.disjoint_nil_left _⟩
      rcases mem_append.1 mem with old | new
      · exact ih.each other old
      · rw [mem_singleton.1 new]
        exact nodup_nil
    · exact ih.runs found ran
    · exact ih.put found (ih.each proc (mem_of_getElem? found))
        fun other found' known unlike => ih.apart other pid found' proc known found unlike

omit [DecidableEq Id] in
theorem Config.unblocked {writes : List Write} (passes : config.blocked system pid writes = false)
    (found : config.procs[other]? = some proc) (unlike : other ≠ pid) (live : proc.live = true) :
    ∀ first ∈ written proc.log, ∀ second ∈ writes, system.clash first second = false := by
  intro first pending second new
  by_contra clashes
  have waits : config.blocked system pid writes = true := by
    refine List.any_eq_true.2 ⟨(proc, other), List.mem_zipIdx_iff_getElem?.2 found, ?_⟩
    refine and_eq_true_iff.2 ⟨and_eq_true_iff.2 ⟨decide_eq_true unlike, live⟩, ?_⟩
    refine List.any_eq_true.2 ⟨first, pending, ?_⟩
    exact List.any_eq_true.2 ⟨second, new, by simpa using clashes⟩
  rw [passes] at waits
  cases waits

/-- What the one open transaction wrote does not clash with what the other did. -/
def Unclashing (system : System Stmt Reply Id Err Fault Write Call Value)
    (proc proc' : Proc Stmt Reply Id Err Fault Write Call Value) : Prop :=
  proc.live = true → proc'.live = true →
    ∀ first ∈ written proc.log, ∀ second ∈ written proc'.log, system.clash first second = false

theorem Runs.live (ran : Runs system config pid proc proc') (live : proc'.live = true) : proc.live = true := by
  obtain ⟨entry, log, -, result⟩ := ran.extends
  simp only [Proc.live, log, result, aborted_append, Bool.not_or, and_eq_true] at live ⊢
  exact ⟨live.1, live.2.1⟩

omit [DecidableEq Id] in
theorem written_drew {log : List (Entry Stmt Reply Id Fault Write)} {id : Id} :
    written (log ++ [.drew id]) = written log := by
  rw [written_append]
  exact append_nil _

theorem Runs.unclashing (symm : ∀ first second, system.clash first second = system.clash second first)
    (apart : Across (Unclashing system) config.procs) (found : config.procs[pid]? = some proc)
    (ran : Runs system config pid proc proc') : Across (Unclashing system) (config.put pid proc').procs := by
  refine Across.put (fun one two apart live live' first inOne second inTwo => ?_) apart found
    fun other found' known unlike live' live => ?_
  · rw [symm]
    exact apart live' live second inTwo first inOne
  have old := apart other pid found' proc known found unlike live' (ran.live live)
  cases ran with
  | draw rest new =>
    show ∀ first ∈ _, ∀ second ∈ written (proc.log ++ _), _
    rwa [written_drew]
  | @answer statement next answer rest given =>
    show ∀ first ∈ _, ∀ second ∈ written (proc.log ++ _), _
    rw [written_append]
    intro first pending second wrote
    rcases mem_append.1 wrote with before | new
    · exact old first pending second before
    · cases answer with
      | error fault => simp [written, Entry.writes] at new
      | ok answer =>
        obtain ⟨reply, writes⟩ := answer
        obtain ⟨_, _, passes⟩ := given
        have inside : second ∈ writes := by simpa [written, Entry.writes] using new
        -- the server let the statement pass because nothing pending clashes with it
        exact Config.unblocked passes known unlike live' first pending second inside

omit [DecidableEq Id] in
theorem live_concluded {result : Except Err Value} :
    Proc.live { proc with result := some result } ≠ true := by
  simp [Proc.live]

omit [DecidableEq Id] in
theorem Unclashing.conclude (apart : Across (Unclashing system) config.procs)
    (found : config.procs[pid]? = some proc) :
    Across (Unclashing system) (config.put pid { proc with result := some result }).procs := by
  intro first second one two knownOne knownTwo unlike liveOne liveTwo
  rcases (getElem?_put found).1 knownOne with ⟨-, rfl⟩ | ⟨-, oldOne⟩
  · exact absurd liveOne live_concluded
  · rcases (getElem?_put found).1 knownTwo with ⟨-, rfl⟩ | ⟨-, oldTwo⟩
    · exact absurd liveTwo live_concluded
    · exact apart first second one two oldOne oldTwo unlike liveOne liveTwo

/-- **What open transactions wrote does not clash.** -/
theorem Reachable.unclashing (symm : ∀ first second, system.clash first second = system.clash second first)
    (reach : Reachable system config) : Across (Unclashing system) config.procs := by
  induction reach with
  | empty =>
    intro one two proc proc' found
    cases found
  | @step config config' event before next ih =>
    rcases step_cases system next with
      ⟨call, rfl, rfl⟩ | ⟨pid, proc, found, running, ⟨proc', ran, rfl⟩ | ⟨result, -, rfl⟩⟩
    · exact ih.begin (fun _ _ _ _ _ _ none => by cases none) fun _ _ _ _ none => by cases none
    · exact ran.unclashing symm ih found
    · exact Unclashing.conclude ih found

/-- The server refuses a write that clashes with what its statement sees. -/
structure Lawful (system : System Stmt Reply Id Err Fault Write Call Value) : Prop where
  symm : ∀ first second, system.clash first second = system.clash second first
  refuses : ∀ call view statement reply writes,
    system.exec call view statement = .ok (reply, writes) →
      writes.Pairwise (fun first second => system.clash first second = false) ∧
        ∀ first ∈ view, ∀ second ∈ writes, system.clash first second = false

/-- What is committed, and what open transactions wrote, does not clash. -/
structure ClashFree (system : System Stmt Reply Id Err Fault Write Call Value)
    (config : Config Stmt Reply Id Err Fault Write Call Value) : Prop where
  ledger : config.ledger.Pairwise fun first second => system.clash first second = false
  own : ∀ proc ∈ config.procs, proc.live = true →
    (written proc.log).Pairwise (fun first second => system.clash first second = false) ∧
      ∀ first ∈ config.ledger, ∀ second ∈ written proc.log, system.clash first second = false
  apart : ∀ (one two : Nat) (proc proc' : Proc Stmt Reply Id Err Fault Write Call Value),
    config.procs[one]? = some proc → config.procs[two]? = some proc' → one ≠ two →
      proc.live = true → proc'.live = true →
        ∀ first ∈ written proc.log, ∀ second ∈ written proc'.log, system.clash first second = false

theorem ClashFree.runs (lawful : Lawful system) (free : ClashFree system config)
    (found : config.procs[pid]? = some proc) (ran : Runs system config pid proc proc') :
    ClashFree system (config.put pid proc') := by
  refine ⟨free.ledger, fun other mem live => ?_, ran.unclashing lawful.symm free.apart found⟩
  rcases mem_or_eq_of_mem_set mem with old | rfl
  · exact free.own other old live
  obtain ⟨pairwise, ledger⟩ := free.own proc (mem_of_getElem? found) (ran.live live)
  cases ran with
  | draw rest new =>
    show (written (proc.log ++ _)).Pairwise _ ∧ ∀ first ∈ _, ∀ second ∈ written (proc.log ++ _), _
    rw [written_drew]
    exact ⟨pairwise, ledger⟩
  | @answer statement next answer rest given =>
    match answer, given with
    | .error fault, _ => simp [Proc.live, aborted, Entry.failed] at live
    | .ok (reply, writes), ⟨sound, went, passes⟩ =>
      have more : written (proc.log ++ [.answered statement config.commits.length (.ok (reply, writes))]) =
            written proc.log ++ writes := by
        rw [written_append]
        simp [written, Entry.writes]
      obtain ⟨fresh, unclashing⟩ := lawful.refuses _ _ _ _ _ went
      show (written (proc.log ++ _)).Pairwise _ ∧ ∀ first ∈ _, ∀ second ∈ written (proc.log ++ _), _
      rw [more]
      refine ⟨pairwise_append.2 ⟨pairwise, fresh, fun first old second new =>
        unclashing first (mem_append_right _ old) second new⟩, ?_⟩
      intro first kept second new
      rcases mem_append.1 new with old | new
      · exact ledger first kept second old
      · exact unclashing first (mem_append_left _ kept) second new

omit [DecidableEq Id] in
theorem ClashFree.conclude (free : ClashFree system config) (found : config.procs[pid]? = some proc)
    (running : proc.result = none) : ClashFree system (config.conclude pid proc result) := by
  have apart : Across (Unclashing system) (config.put pid { proc with result := some result }).procs :=
    Unclashing.conclude free.apart found
  have kept : ∀ other ∈ (config.put pid { proc with result := some result }).procs, other.live = true →
      (written other.log).Pairwise (fun first second => system.clash first second = false) ∧
        ∀ first ∈ config.ledger, ∀ second ∈ written other.log, system.clash first second = false := by
    intro other mem live
    rcases mem_or_eq_of_mem_set mem with old | rfl
    · exact free.own other old live
    · exact absurd live live_concluded
  rcases config.conclude_commits pid proc result with same | ⟨-, sound, more⟩
  · have ledger : (config.conclude pid proc result).ledger = config.ledger :=
      congrArg contents same
    exact ⟨by rw [ledger]; exact free.ledger, by rw [ledger]; exact kept, apart⟩
  · have live : proc.live = true := by
      simp [Proc.live, running, sound]
    have ledger : (config.conclude pid proc result).ledger = config.ledger ++ written proc.log := by
      unfold Config.ledger
      rw [more, contents, flatMap_append]
      exact congrArg _ (append_nil _)
    obtain ⟨pairwise, unclashing⟩ := free.own proc (mem_of_getElem? found) live
    refine ⟨?_, fun other mem live' => ?_, apart⟩
    · rw [ledger]
      exact pairwise_append.2 ⟨free.ledger, pairwise, unclashing⟩
    · obtain ⟨own, kept⟩ := kept other mem live'
      refine ⟨own, fun first inLedger second inOther => ?_⟩
      rw [ledger] at inLedger
      rcases mem_append.1 inLedger with old | new
      · exact kept first old second inOther
      · obtain ⟨index, known⟩ := mem_iff_getElem?.1 mem
        rcases (getElem?_put found).1 known with ⟨-, rfl⟩ | ⟨unlike, old⟩
        · exact absurd live' live_concluded
        · exact free.apart pid index proc other found old (Ne.symm unlike) live live'
            first new second inOther

/-- **No two committed writes clash.** -/
theorem Reachable.clashFree (lawful : Lawful system) (reach : Reachable system config) : ClashFree system
    config := by
  induction reach with
  | empty =>
    refine ⟨.nil, fun _ mem => ?_, fun _ _ _ _ found => ?_⟩
    · cases mem
    · cases found
  | @step config config' event before next ih =>
    rcases step_cases system next with
      ⟨call, rfl, rfl⟩ | ⟨pid, proc, found, running, ⟨proc', ran, rfl⟩ | ⟨result, -, rfl⟩⟩
    · refine ⟨ih.ledger, fun other mem live => ?_, Reachable.unclashing lawful.symm (before.step next)⟩
      rcases mem_append.1 mem with old | new
      · exact ih.own other old live
      · rw [mem_singleton.1 new]
        exact ⟨List.Pairwise.nil, fun _ _ _ none => by cases none⟩
    · exact ih.runs lawful found ran
    · exact ih.conclude found running

end Clients

/-! ### Reading a program with its log -/

section Reading

variable {handler : Err → Prog Stmt Reply Id Err α} {result : Except Err α}
variable {program : Prog Stmt Reply Id Err α} {next : α → Prog Stmt Reply Id Err β}
  {statement : Stmt} {value : α} {wrap : α → β}
variable {error : Err}

/-- The log leads the program to its end. -/
def Ends (system : System Stmt Reply Id Err Fault Write Call Value) (program : Prog Stmt Reply Id Err α)
    (log : List (Entry Stmt Reply Id Fault Write)) (result : Except Err α) : Prop :=
  match result with
  | .ok value => Leads system program log (.done value)
  | .error error => Leads system program log (.fail error)

theorem ends_done {log : List (Entry Stmt Reply Id Fault Write)}
    (ends : Ends system (.done value) log result) : log = [] ∧ result = .ok value := by
  cases result with
  | ok value' =>
    cases ends
    exact ⟨rfl, rfl⟩
  | error error => cases ends

theorem ends_fail {log : List (Entry Stmt Reply Id Fault Write)}
    (ends : Ends system (.fail error) log result) : log = [] ∧ result = .error error := by
  cases result with
  | ok value => cases ends
  | error error' =>
    cases ends
    exact ⟨rfl, rfl⟩

theorem ends_ask {next : Except Err (Reply statement) → Prog Stmt Reply Id Err α}
    {log : List (Entry Stmt Reply Id Fault Write)} (ends : Ends system (.ask statement next) log result) :
    ∃ seen answer later, log = .answered statement seen answer :: later ∧
      Ends system (next (told system answer)) later result := by
  cases result with
  | ok value | error error =>
    cases ends with
    | answer later => exact ⟨_, _, _, rfl, later⟩

theorem ends_draw {next : Id → Prog Stmt Reply Id Err α} {log : List (Entry Stmt Reply Id Fault Write)}
    (ends : Ends system (.draw next) log result) :
    ∃ id later, log = .drew id :: later ∧ Ends system (next id) later result := by
  cases result with
  | ok value | error error =>
    cases ends with
    | draw later => exact ⟨_, _, rfl, later⟩

theorem ends_bind {log : List (Entry Stmt Reply Id Fault Write)} {result : Except Err β}
    (ends : Ends system (program.bind next) log result) :
    (∃ error, Ends system program log (.error error) ∧ result = .error error) ∨
      ∃ value first second, log = first ++ second ∧ Ends system program first (.ok value) ∧
      Ends system (next value) second result := by
  induction program generalizing log with
  | done value => exact .inr ⟨value, [], log, rfl, .refl _, ends⟩
  | fail error =>
    obtain ⟨rfl, rfl⟩ := ends_fail ends
    exact .inl ⟨error, .refl _, rfl⟩
  | ask statement rest ih =>
    obtain ⟨seen, answer, later, rfl, after⟩ := ends_ask ends
    rcases ih _ after with ⟨error, threw, same⟩ | ⟨value, first, second, rfl, before, after⟩
    · exact .inl ⟨error, .answer threw, same⟩
    · exact .inr ⟨value, _ :: first, second, rfl, .answer before, after⟩
  | draw rest ih =>
    obtain ⟨id, later, rfl, after⟩ := ends_draw ends
    rcases ih _ after with ⟨error, threw, same⟩ | ⟨value, first, second, rfl, before, after⟩
    · exact .inl ⟨error, .draw threw, same⟩
    · exact .inr ⟨value, _ :: first, second, rfl, .draw before, after⟩

theorem ends_rescue {log : List (Entry Stmt Reply Id Fault Write)}
    (ends : Ends system (program.rescue handler) log result) :
    (∃ value, Ends system program log (.ok value) ∧ result = .ok value) ∨
      ∃ error first second, log = first ++ second ∧ Ends system program first (.error error) ∧
      Ends system (handler error) second result := by
  induction program generalizing log with
  | done value =>
    obtain ⟨rfl, rfl⟩ := ends_done ends
    exact .inl ⟨value, .refl _, rfl⟩
  | fail error => exact .inr ⟨error, [], log, rfl, .refl _, ends⟩
  | ask statement rest ih =>
    obtain ⟨seen, answer, later, rfl, after⟩ := ends_ask ends
    rcases ih _ after with ⟨value, gave, same⟩ | ⟨error, first, second, rfl, before, after⟩
    · exact .inl ⟨value, .answer gave, same⟩
    · exact .inr ⟨error, _ :: first, second, rfl, .answer before, after⟩
  | draw rest ih =>
    obtain ⟨id, later, rfl, after⟩ := ends_draw ends
    rcases ih _ after with ⟨value, gave, same⟩ | ⟨error, first, second, rfl, before, after⟩
    · exact .inl ⟨value, .draw gave, same⟩
    · exact .inr ⟨error, _ :: first, second, rfl, .draw before, after⟩

theorem ends_query {log : List (Entry Stmt Reply Id Fault Write)} {result : Except Err (Reply statement)}
    (ends : Ends system (Prog.query statement) log result) :
    ∃ seen answer, log = [.answered statement seen answer] ∧ result = told system answer := by
  obtain ⟨seen, answer, later, rfl, after⟩ := ends_ask ends
  refine ⟨seen, answer, ?_⟩
  cases heard : told system answer with
  | ok reply =>
    rw [heard] at after
    obtain ⟨rfl, rfl⟩ := ends_done after
    exact ⟨rfl, rfl⟩
  | error error =>
    rw [heard] at after
    obtain ⟨rfl, rfl⟩ := ends_fail after
    exact ⟨rfl, rfl⟩

theorem ends_newId {log : List (Entry Stmt Reply Id Fault Write)} {result : Except Err Id}
    (ends : Ends system Prog.newId log result) : ∃ id, log = [.drew id] ∧ result = .ok id := by
  obtain ⟨id, later, rfl, after⟩ := ends_draw ends
  obtain ⟨rfl, rfl⟩ := ends_done after
  exact ⟨id, rfl, rfl⟩

/-! ### Clients that return without a failed statement -/

/-- The program returns, and no statement of its log failed. -/
structure Completes (system : System Stmt Reply Id Err Fault Write Call Value)
    (commits : List (Nat × List Write)) (call : Call) (own : List Write)
    (program : Prog Stmt Reply Id Err α) (log : List (Entry Stmt Reply Id Fault Write)) (value : α) :
    Prop where
  returns : Ends system program log (.ok value)
  answers : Answers system commits call false own log
  sound : aborted log = false

variable {commits : List (Nat × List Write)} {log : List (Entry Stmt Reply Id Fault Write)}

theorem completes_done {result : α} (ends : Completes system commits call own (.done value) log result) :
    log = [] ∧ result = value := by
  obtain ⟨empty, same⟩ := ends_done ends.returns
  exact ⟨empty, Except.ok.inj same⟩

theorem not_completes_fail (ends : Completes system commits call own (.fail error) log value) : False := by
  obtain ⟨-, same⟩ := ends_fail ends.returns
  cases same

theorem completes_bind {result : β}
    (ends : Completes system commits call own (program.bind next) log result) :
    ∃ value first second, log = first ++ second ∧ Completes system commits call own program first value ∧
      Completes system commits call (own ++ written first) (next value) second result := by
  obtain ⟨returns, answers, sound⟩ := ends
  rcases ends_bind returns with ⟨error, -, same⟩ | ⟨value, first, second, rfl, before, after⟩
  · cases same
  · rw [aborted_append, or_eq_false_iff] at sound
    obtain ⟨answered, later⟩ := answers_append.1 answers
    rw [sound.1] at later
    exact ⟨value, first, second, rfl, ⟨before, answered, sound.1⟩, after, later, sound.2⟩

theorem completes_map {result : β}
    (ends : Completes system commits call own (program.bind fun value => .done (wrap value)) log result) :
    ∃ value, Completes system commits call own program log value ∧ result = wrap value := by
  obtain ⟨value, first, second, rfl, before, after⟩ := completes_bind ends
  obtain ⟨rfl, same⟩ := completes_done after
  rw [append_nil]
  exact ⟨value, before, same⟩

theorem completes_query {reply : Reply statement}
    (ends : Completes system commits call own (Prog.query statement) log reply) :
    ∃ seen writes, log = [.answered statement seen (.ok (reply, writes))] ∧ seen ≤ commits.length ∧
      system.exec call (contents (commits.take seen) ++ own) statement = .ok (reply, writes) := by
  obtain ⟨returns, answers, sound⟩ := ends
  obtain ⟨seen, answer, rfl, same⟩ := ends_query returns
  match answer with
  | .ok (reply', writes) =>
    obtain rfl := Except.ok.inj same
    exact ⟨seen, writes, rfl, answers.1.2.1, answers.1.2.2⟩
  | .error fault => cases same

theorem completes_newId {id : Id} (ends : Completes system commits call own Prog.newId log id) : log =
    [.drew id] := by
  obtain ⟨id', drew, same⟩ := ends_newId ends.returns
  rw [drew, Except.ok.inj same]

/-! ### Programs that return only after all their statements succeeded -/

def NeverReturns (system : System Stmt Reply Id Err Fault Write Call Value)
    (program : Prog Stmt Reply Id Err α) : Prop :=
  ∀ log value, ¬ Ends system program log (.ok value)

theorem neverReturns_fail (error : Err) : NeverReturns system (.fail error : Prog Stmt Reply Id Err α) := by
  intro log value ends
  obtain ⟨-, same⟩ := ends_fail ends
  cases same

theorem neverReturns_bind (later : ∀ value, NeverReturns system (next value)) :
    NeverReturns system (program.bind next) := by
  intro log value ends
  rcases ends_bind ends with ⟨error, -, same⟩ | ⟨middle, first, second, -, -, after⟩
  · cases same
  · exact later middle second value after

/-- A returned value means that no statement failed. -/
def Careful (system : System Stmt Reply Id Err Fault Write Call Value)
    (program : Prog Stmt Reply Id Err α) : Prop :=
  ∀ log value, Ends system program log (.ok value) → aborted log = false

theorem NeverReturns.careful (never : NeverReturns system program) : Careful system program := by
  intro log value ends
  exact absurd ends (never log value)

theorem careful_done (value : α) : Careful system (.done value : Prog Stmt Reply Id Err α) := by
  intro log result ends
  rw [(ends_done ends).1]
  rfl

theorem careful_fail (error : Err) : Careful system (.fail error : Prog Stmt Reply Id Err α) :=
  (neverReturns_fail error).careful

theorem careful_query (statement : Stmt) : Careful system (Prog.query statement : Prog Stmt Reply Id Err _) := by
  intro log value ends
  obtain ⟨seen, answer, rfl, same⟩ := ends_query ends
  match answer with
  | .ok (reply, writes) => rfl
  | .error fault => cases same

theorem careful_newId : Careful system (Prog.newId : Prog Stmt Reply Id Err Id) := by
  intro log value ends
  obtain ⟨id, rfl, -⟩ := ends_newId ends
  rfl

theorem careful_bind (first : Careful system program) (second : ∀ value, Careful system (next value)) :
    Careful system (program.bind next) := by
  intro log value ends
  rcases ends_bind ends with ⟨error, -, same⟩ | ⟨middle, before, after, rfl, gave, later⟩
  · cases same
  · rw [aborted_append, first _ _ gave, second _ _ _ later]
    rfl

theorem careful_rescue (body : Careful system program)
    (throws : ∀ error, NeverReturns system (handler error)) : Careful system (program.rescue handler) := by
  intro log value ends
  rcases ends_rescue ends with ⟨value', gave, -⟩ | ⟨error, first, second, -, -, handled⟩
  · exact body _ _ gave
  · exact absurd handled (throws error second value)

theorem careful_forEach {body : α → Prog Stmt Reply Id Err β}
    (each : ∀ element, Careful system (body element)) (elements : List α) :
    Careful system (Prog.forEach body elements) := by
  induction elements with
  | nil => exact careful_done []
  | cons element rest ih =>
    exact careful_bind (each element) fun _ => careful_bind ih fun _ => careful_done _

/-- The program ended so, and the server gave the answers. -/
structure Finishes (system : System Stmt Reply Id Err Fault Write Call Value)
    (commits : List (Nat × List Write)) (call : Call) (own : List Write)
    (program : Prog Stmt Reply Id Err α) (log : List (Entry Stmt Reply Id Fault Write))
    (result : Except Err α) : Prop where
  ends : Ends system program log result
  answers : Answers system commits call false own log

theorem Completes.finishes (ends : Completes system commits call own program log value) :
    Finishes system commits call own program log (.ok value) :=
  ⟨ends.returns, ends.answers⟩

theorem Careful.completes (careful : Careful system program)
    (ends : Finishes system commits call own program log (.ok value)) :
    Completes system commits call own program log value :=
  ⟨ends.ends, ends.answers, careful _ _ ends.ends⟩

theorem finishes_bind {result : Except Err β} (careful : Careful system program)
    (goes : Finishes system commits call own (program.bind next) log result) :
    (∃ error, result = .error error ∧ Finishes system commits call own program log (.error error)) ∨
      ∃ value first second, log = first ++ second ∧ Completes system commits call own program first value ∧
      Finishes system commits call (own ++ written first) (next value) second result := by
  obtain ⟨ends, answers⟩ := goes
  rcases ends_bind ends with ⟨error, threw, same⟩ | ⟨value, first, second, rfl, before, after⟩
  · exact .inl ⟨error, same, threw, answers⟩
  · obtain ⟨answered, later⟩ := answers_append.1 answers
    have sound := careful _ _ before
    rw [sound] at later
    exact .inr ⟨value, first, second, rfl, ⟨before, answered, sound⟩, after, later⟩

theorem returns_map {result : β}
    (ends : Finishes system commits call own (program.bind fun value => .done (wrap value)) log
      (.ok result)) :
    ∃ value, result = wrap value ∧ Finishes system commits call own program log (.ok value) := by
  rcases ends_bind ends.ends with ⟨error, -, same⟩ | ⟨value, first, second, rfl, before, after⟩
  · cases same
  · obtain ⟨rfl, same⟩ := ends_done after
    rw [append_nil] at ends ⊢
    exact ⟨value, Except.ok.inj same, before, ends.answers⟩

theorem returns_bind {result : β} (careful : Careful system program)
    (ends : Finishes system commits call own (program.bind next) log (.ok result)) :
    ∃ value first second, log = first ++ second ∧ Completes system commits call own program first value ∧
      Finishes system commits call (own ++ written first) (next value) second (.ok result) := by
  rcases finishes_bind careful ends with ⟨error, same, -⟩ | later
  · cases same
  · exact later

theorem completes_rescue (throws : ∀ error, NeverReturns system (handler error))
    (ends : Completes system commits call own (program.rescue handler) log value) :
    Completes system commits call own program log value := by
  obtain ⟨returns, answers, sound⟩ := ends
  rcases ends_rescue returns with ⟨value', gave, same⟩ | ⟨error, first, second, -, -, handled⟩
  · rw [Except.ok.inj same]
    exact ⟨gave, answers, sound⟩
  · exact absurd handled (throws error second value)

theorem not_returns_aborted {reply : Reply statement} {own : List Write}
    (ends : Ends system (Prog.query statement) log (.ok reply))
    (answers : Answers system commits call true own log) : False := by
  obtain ⟨seen, answer, rfl, same⟩ := ends_query ends
  match answer with
  | .ok (reply', writes) => cases answers.1.1
  | .error fault => cases same

variable [DecidableEq Id] {config : Config Stmt Reply Id Err Fault Write Call Value}
  {proc : Proc Stmt Reply Id Err Fault Write Call Value}

theorem Reachable.ends (reach : Reachable system config) (mem : proc ∈ config.procs)
    {result : Except Err Value} (ended : proc.result = some result) :
    Ends system (system.program proc.call) proc.log result ∨
      ∃ value fault, Ends system (system.program proc.call) proc.log (.ok value) ∧
      result = .error (system.thrown fault) := by
  have leads := reach.leads proc mem
  cases reach.ended proc mem result ended with
  | returns rest =>
    rw [rest] at leads
    exact .inl leads
  | lost fault rest =>
    rw [rest] at leads
    exact .inr ⟨_, fault, leads, rfl⟩
  | throws rest =>
    rw [rest] at leads
    exact .inl leads

theorem Reachable.finishes (reach : Reachable system config) (mem : proc ∈ config.procs) {value : Value}
    (gave : proc.result = some (.ok value)) :
    Finishes system config.commits proc.call [] (system.program proc.call) proc.log (.ok value) := by
  refine ⟨?_, reach.answered proc mem⟩
  rcases reach.ends mem gave with ends | ⟨value', fault, -, same⟩
  · exact ends
  · cases same

theorem step_keeps {event : Event Id Fault Call} {config' : Config Stmt Reply Id Err Fault Write Call Value}
    {value : Value} (found : config.procs[pid]? = some proc) (gave : proc.result = some (.ok value))
    (next : step system config event = some config') : config'.procs[pid]? = some proc := by
  have kept : ∀ other (proc' proc'' : Proc Stmt Reply Id Err Fault Write Call Value), config.procs[other]? = some
      proc' → proc'.result = none → (config.procs.set other proc'')[pid]? = some proc := by
    intro other proc' proc'' known running
    refine (getElem?_put known).2 (.inr ⟨?_, found⟩)
    rintro rfl
    obtain rfl := mem_unique found known
    rw [gave] at running
    cases running
  rcases step_cases system next with
    ⟨call, rfl, rfl⟩ | ⟨other, proc', known, running, ⟨proc'', -, rfl⟩ | ⟨result, -, rfl⟩⟩
  · exact getElem?_begin.2 (.inl found)
  · exact kept other proc' proc'' known running
  · exact kept other proc' _ known running

/-- **Every commit is of a client that completed its program on what was committed before.** -/
theorem Reachable.commit (reach : Reachable system config) {pid : Nat} {writes : List Write}
    {before after : List (Nat × List Write)} (commits : config.commits = before ++ (pid, writes) :: after) :
    ∃ proc value,
      config.procs[pid]? = some proc ∧ proc.result = some (.ok value) ∧ writes = written proc.log ∧
      Completes system before proc.call [] (system.program proc.call) proc.log value := by
  induction reach generalizing after with
  | empty => simp [Config.empty] at commits
  | @step config config' event prior next ih =>
    have old : ∀ after, config.commits = before ++ (pid, writes) :: after → ∃ proc value,
        config'.procs[pid]? = some proc ∧ proc.result = some (.ok value) ∧ writes = written proc.log ∧
          Completes system before proc.call [] (system.program proc.call) proc.log value := by
      intro after commits
      obtain ⟨proc, value, found, gave, rest⟩ := ih commits
      exact ⟨proc, value, step_keeps found gave next, gave, rest⟩
    rcases step_cases system next with
      ⟨call, rfl, rfl⟩ | ⟨other, proc, known, running, ⟨proc', -, rfl⟩ | ⟨result, -, same⟩⟩
    · exact old after commits
    · exact old after commits
    rcases config.conclude_commits other proc result with unchanged | ⟨⟨value, rfl⟩, sound, more⟩
    · exact old after (by rw [← commits, same, unchanged])
    rw [same, more] at commits
    rcases List.eq_nil_or_concat after with rfl | ⟨after, last, rfl⟩
    · -- the commit is the one this step made
      obtain ⟨rfl, single⟩ := List.append_inj' commits rfl
      cases single
      have found : config'.procs[pid]? = some { proc with result := some (.ok value) } := by
        rw [same]
        exact (getElem?_put known).2 (.inl ⟨rfl, rfl⟩)
      have reached : Reachable system config' := .step prior next
      have ends := (reached.finishes (mem_of_getElem? found) rfl).ends
      exact ⟨_, value, found, rfl, rfl, ends, prior.answered proc (mem_of_getElem? known), sound⟩
    · rw [List.concat_eq_append, ← cons_append, ← append_assoc] at commits
      exact old after (List.append_inj' commits rfl).1

theorem Reachable.committed (reach : Reachable system config) (found : config.procs[pid]? = some proc)
    {value : Value} (gave : proc.result = some (.ok value)) (sound : aborted proc.log = false) :
    ∃ before after, config.commits = before ++ (pid, written proc.log) :: after :=
  append_of_mem (reach.booked.returned pid proc value found gave sound)

end Reading

end Interleave

end DataPulse.Lib
