/-
**A call that runs by itself, as a run of the server.**

`Alone` says of a program what the server answers it while nothing else is committed, and `Performs` what it
draws and writes then. `Performs.runs` is the run: where every client has ended, a call whose program completes
alone can begin, is answered as it says, and commits. `Prog.evaluate` computes the value of a program that draws
nothing.
-/

import DataPulse.Lib.Logs

namespace DataPulse.Lib

variable {Stmt : Type} {Reply : Stmt → Type} {Id Err Fault Write α β : Type} {writes : List Write}
  {statement : Stmt} {reply : Reply statement}

namespace Prog

/-- The value of a program that is alone on the server, and the contents it leaves: every statement is
executed on the contents so far. A program that draws an identifier has none, nor has one that throws. -/
def evaluate (exec : List Write → (statement : Stmt) → Except Fault (Reply statement × List Write)) :
    Prog Stmt Reply Id Err α → List Write → Option (α × List Write)
  | .done value, writes => some (value, writes)
  | .ask statement next, writes =>
    match exec writes statement with
    | .ok (reply, wrote) => (next (.ok reply)).evaluate exec (writes ++ wrote)
    | .error _ => none
  | _, _ => none

variable {exec : List Write → (statement : Stmt) → Except Fault (Reply statement × List Write)}
variable {wrote : List Write}

theorem evaluate_query {next : Reply statement → Prog Stmt Reply Id Err β}
    (ran : exec writes statement = .ok (reply, wrote)) :
    ((query statement).bind next).evaluate exec writes = (next reply).evaluate exec (writes ++ wrote) := by
  simp only [query, bind, evaluate, ran]

theorem evaluate_read {next : Reply statement → Prog Stmt Reply Id Err β}
    (ran : exec writes statement = .ok (reply, [])) :
    ((query statement).bind next).evaluate exec writes = (next reply).evaluate exec writes := by
  rw [evaluate_query ran, append_nil]

end Prog

namespace Interleave

section Solo

variable {Call Value : Type}
variable {system : System Stmt Reply Id Err Fault Write Call Value}
variable {config : Config Stmt Reply Id Err Fault Write Call Value}
variable {commits : List (Nat × List Write)} {call : Call} {own : List Write}
variable {log : List (Entry Stmt Reply Id Fault Write)} {handler : Err → Prog Stmt Reply Id Err α}
  {ids : List Id} {result : β}

theorem alone_newId (id : Id) : Alone system commits call own (Prog.newId : Prog Stmt Reply Id Err Id)
    [.drew id] id :=
  ⟨⟨.draw (.refl _), trivial, rfl⟩, fun _ none => by cases none⟩

variable {program : Prog Stmt Reply Id Err α} {value : α}

variable (alone : Alone system commits call own program log value)
include alone

theorem alone_rescue :
    Alone system commits call own (program.rescue handler) log value := by
  have leads :
      ∀ {program rest : Prog Stmt Reply Id Err α} {log : List (Entry Stmt Reply Id Fault Write)}, Leads system
      program log rest → rest = .done value → Leads system (program.rescue handler) log (.done value) := by
    intro program rest log leads
    induction leads with
    | refl program =>
      rintro rfl
      exact .refl _
    | draw _ ih => exact fun ended => .draw (ih ended)
    | answer _ ih => exact fun ended => .answer (ih ended)
  exact ⟨⟨leads alone.returns rfl, alone.answers, alone.sound⟩, alone.now⟩

theorem Alone.held : Held system commits log := by
  intro statement seen reply writes answered
  rw [alone.now seen (mem_seens answered), List.drop_length]
  exact fun _ => nofun

theorem Alone.ordered : Ordered log := by
  refine List.pairwise_of_forall_mem_list fun early first late second => ?_
  exact Nat.le_of_eq ((alone.now early first).trans (alone.now late second).symm)

omit alone

variable {seen : Nat}

theorem Completes.executed (ends : Completes system commits call own program log value)
    (answered : Entry.answered statement seen (.ok (reply, writes)) ∈ log) :
    ∃ before, system.exec call (contents (commits.take seen) ++ (own ++ before)) statement =
      .ok (reply, writes) := by
  obtain ⟨first, second, rfl⟩ := append_of_mem answered
  obtain ⟨⟨-, -, ran⟩, -⟩ := (answers_append.1 ends.answers).2
  exact ⟨written first, ran⟩

theorem Alone.answered (alone : Alone system commits call own program log value)
    (answered : Entry.answered statement seen (.ok (reply, writes)) ∈ log) :
    ∃ before, system.exec call (contents commits ++ (own ++ before)) statement = .ok (reply, writes) := by
  obtain ⟨before, ran⟩ := alone.toCompletes.executed answered
  rw [alone.now seen (mem_seens answered), take_length] at ran
  exact ⟨before, ran⟩

variable {next : α → Prog Stmt Reply Id Err β}

theorem Alone.split (alone : Alone system commits call own (program.bind next) log result) :
    ∃ value first second, log = first ++ second ∧ Alone system commits call own program first value ∧
      Alone system commits call (own ++ written first) (next value) second result := by
  obtain ⟨value, first, second, rfl, before, after⟩ := completes_bind alone.toCompletes
  refine ⟨value, first, second, rfl, ⟨before, fun seen mem => ?_⟩, ⟨after, fun seen mem => ?_⟩⟩
  · exact alone.now seen (seens_append first second ▸ mem_append_left _ mem)
  · exact alone.now seen (seens_append first second ▸ mem_append_right _ mem)

theorem Alone.executed (alone : Alone system commits call own (Prog.query statement) log reply) :
    system.exec call (contents commits ++ own) statement = .ok (reply, written log) := by
  obtain ⟨seen, writes, rfl, -, ran, logged⟩ := query_logged alone.toCompletes
  obtain rfl := alone.now seen (mem_seens mem_cons_self)
  rwa [take_length, ← logged.written] at ran

/-- The program completes while nothing else is committed: it draws the identifiers, writes the rows and
returns the value. -/
def Performs (system : System Stmt Reply Id Err Fault Write Call Value) (commits : List (Nat × List Write))
    (call : Call) (own : List Write) (program : Prog Stmt Reply Id Err α) (ids : List Id)
    (writes : List Write) (value : α) : Prop :=
  ∃ log, Alone system commits call own program log value ∧ Logged log writes ids

theorem performs_done (value : α) : Performs system commits call own (.done value) [] [] value :=
  ⟨[], alone_done value, .nil⟩

theorem performs_query (ran : system.exec call (contents commits ++ own) statement = .ok (reply, writes)) :
    Performs system commits call own (Prog.query statement) [] writes reply :=
  ⟨_, alone_query ran, ⟨append_nil _, rfl⟩⟩

theorem performs_rescue (performs : Performs system commits call own program ids writes value) :
    Performs system commits call own (program.rescue handler) ids writes value := by
  obtain ⟨log, alone, logged⟩ := performs
  exact ⟨log, alone_rescue alone, logged⟩

theorem performs_bind {ids' : List Id} {writes writes' : List Write}
    (before : Performs system commits call own program ids writes value)
    (after : Performs system commits call (own ++ writes) (next value) ids' writes' result) :
    Performs system commits call own (program.bind next) (ids ++ ids') (writes ++ writes') result := by
  obtain ⟨log, alone, logged⟩ := before
  obtain ⟨log', alone', logged'⟩ := after
  rw [← logged.written] at alone'
  exact ⟨log ++ log', alone_bind alone alone', logged.append logged'⟩

theorem performs_then (before : Performs system commits call own program ids writes value)
    (after : Performs system commits call (own ++ writes) (next value) [] [] result) :
    Performs system commits call own (program.bind next) ids writes result := by
  rw [← append_nil ids, ← append_nil writes]
  exact performs_bind before after

theorem performs_read {next : Reply statement → Prog Stmt Reply Id Err β}
    (ran : system.exec call (contents commits ++ own) statement = .ok (reply, []))
    (after : Performs system commits call own (next reply) ids writes result) :
    Performs system commits call own ((Prog.query statement).bind next) ids writes result := by
  rw [← append_nil own] at after
  exact performs_bind (performs_query ran) after

theorem performs_write {write : Write} (before : Performs system commits call own program [] [write] value)
    (after : Performs system commits call (own ++ [write]) (next value) ids writes result) :
    Performs system commits call own (program.bind next) ids (write :: writes) result :=
  performs_bind before after

theorem performs_draw {next : Id → Prog Stmt Reply Id Err β} {id : Id}
    (after : Performs system commits call own (next id) ids writes result) :
    Performs system commits call own (Prog.newId.bind next) (id :: ids) writes result := by
  have drew : Performs system commits call own (Prog.newId : Prog Stmt Reply Id Err Id) [id] [] id :=
    ⟨_, alone_newId id, ⟨rfl, rfl⟩⟩
  rw [← append_nil own] at after
  exact performs_bind drew after

def Config.idle (config : Config Stmt Reply Id Err Fault Write Call Value) : Prop :=
  ∀ proc ∈ config.procs, proc.result.isSome = true

/-- The configuration with one more client. -/
def Config.joined (config : Config Stmt Reply Id Err Fault Write Call Value)
    (proc : Proc Stmt Reply Id Err Fault Write Call Value) :
    Config Stmt Reply Id Err Fault Write Call Value :=
  { config with procs := config.procs ++ [proc] }

theorem Config.joined_last (proc : Proc Stmt Reply Id Err Fault Write Call Value) :
    (config.joined proc).procs[config.procs.length]? = some proc := by
  simp [Config.joined]

theorem Config.joined_put (proc proc' : Proc Stmt Reply Id Err Fault Write Call Value) :
    (config.joined proc).put config.procs.length proc' = config.joined proc' := by
  simp [Config.joined, Config.put]

theorem Config.joined_blocked (idle : config.idle) (proc : Proc Stmt Reply Id Err Fault Write Call Value)
    (writes : List Write) : (config.joined proc).blocked system config.procs.length writes = false := by
  unfold Config.blocked
  rw [any_eq_false]
  rintro ⟨other, index⟩ mem
  have inside := List.mem_zipIdx mem
  simp only [Config.joined, length_append, length_cons, length_nil] at inside
  obtain ⟨-, small, found⟩ := inside
  by_cases last : index = config.procs.length
  · simp [last]
  · have old : index < config.procs.length := by omega
    have ended : other.result.isSome = true := by
      refine idle other ?_
      rw [found]
      simp only [Nat.sub_zero]
      rw [List.getElem_append_left (by omega)]
      exact List.getElem_mem _
    simp [Proc.live, isNone_iff_eq_none, isSome_iff_ne_none.1 ended]

variable [DecidableEq Id]

/-- **The only client that has not ended runs on as its program leads.** -/
theorem Leads.runs (idle : config.idle) {program rest : Prog Stmt Reply Id Err Value}
    {told : List (Entry Stmt Reply Id Fault Write)} (leads : Leads system program log rest)
    (answers : Answers system config.commits call false (written told) log)
    (now : ∀ seen ∈ seens log, seen = config.commits.length) (sound : aborted told = false)
    (unbroken : aborted log = false) (fresh : ∀ id ∈ drawn log, config.unused id = true)
    (once : (drawn (told ++ log)).Nodup) :
    Later system (config.joined ⟨call, told, program, none⟩)
      (config.joined ⟨call, told ++ log, rest, none⟩) := by
  induction leads generalizing told with
  | refl program =>
    rw [append_nil]
    exact .refl
  | @draw next id log rest later ih =>
    have here : step system (config.joined ⟨call, told, .draw next, none⟩) (.draw config.procs.length id) =
          some (config.joined ⟨call, told ++ [.drew id], next id, none⟩) := by
      have unused : (config.joined ⟨call, told, .draw next, none⟩).unused id = true := by
        unfold Config.unused
        rw [Config.joined, List.all_append, and_eq_true]
        refine ⟨fresh id mem_cons_self, ?_⟩
        rw [drawn_append] at once
        have apart := (nodup_append.1 once).2.2
        simp only [all_cons, List.all_nil, Bool.and_true, decide_eq_true_eq]
        exact fun mine => apart id mine id mem_cons_self rfl
      simp only [step, Config.joined_last, bind_eq_bind, bind_some, unused, if_true,
        Proc.draw, map_some, Config.joined_put]
    refine .head ⟨_, here⟩ ?_
    have answered : Answers system config.commits call false (written (told ++ [.drew id])) log := by
      rw [written_append]
      exact (append_nil (written told)).symm ▸ answers
    have onward := @ih (told ++ [.drew id]) answered
      (fun seen mem => now seen mem) (by rw [aborted_append, sound]; rfl) unbroken
      (fun id mem => fresh id (mem_cons_of_mem _ mem))
      (by simpa [append_assoc] using once)
    rwa [append_assoc] at onward
  | @answer statement seen answer next log rest later ih =>
    cases answer with
    | error fault => simp [aborted, Entry.failed] at unbroken
    | ok answer =>
      obtain ⟨reply, writes⟩ := answer
      obtain rfl := now seen mem_cons_self
      obtain ⟨⟨-, -, ran⟩, answers⟩ := answers
      rw [take_length] at ran
      have served : (config.joined ⟨call, told, .ask statement next, none⟩).serve system config.procs.length
          ⟨call, told, .ask statement next, none⟩ statement = some (.ok (reply, writes)) := by
        unfold Config.serve
        simp only [sound, false_eq_true, if_false]
        have ledger : (config.joined ⟨call, told, .ask statement next, none⟩).ledger =
            contents config.commits :=
          rfl
        rw [ledger, ran]
        simp only [Config.joined_blocked idle, false_eq_true, if_false]
      have here : step system (config.joined ⟨call, told, .ask statement next, none⟩)
          (.ask config.procs.length) = some
            (config.joined ⟨call, told ++ [.answered statement config.commits.length (.ok (reply, writes))],
                next (.ok reply), none⟩) := by
        simp only [step, Config.joined_last, bind_eq_bind, bind_some, Proc.reply, served, map_some,
          Config.joined_put]
        rfl
      refine .head ⟨_, here⟩ ?_
      have onward := @ih (told ++ [.answered statement config.commits.length (.ok (reply, writes))])
        (by simpa [written_append, written, Entry.writes] using answers)
        (fun seen mem => now seen (mem_cons_of_mem _ mem))
        (by rw [aborted_append, sound]; rfl)
        (by simpa [aborted, Entry.failed] using unbroken) fresh
        (by simpa [append_assoc] using once)
      rwa [append_assoc] at onward

/-- **A call whose program completes alone can run and commit where every client has ended.** -/
theorem Performs.runs (idle : config.idle) {value : Value}
    (performs : Performs system config.commits call [] (system.program call) ids writes value)
    (fresh : ∀ id ∈ ids, config.unused id = true) (once : ids.Nodup) :
    ∃ config' log,
      Later system config config' ∧ config'.commits = config.commits ++ [(config.procs.length, writes)] ∧
      config'.procs = config.procs ++ [⟨call, log, .done value, some (.ok value)⟩] := by
  obtain ⟨log, alone, rfl, rfl⟩ := performs
  have begun : step system config (.start call) = some (config.joined (Proc.start system call)) := rfl
  have ran : Later system (config.joined ⟨call, [], system.program call, none⟩)
      (config.joined ⟨call, [] ++ log, .done value, none⟩) :=
    Leads.runs idle alone.returns alone.answers alone.now rfl alone.sound fresh once
  have stopped : step system (config.joined ⟨call, log, .done value, none⟩) (.stop config.procs.length none) =
        some ((config.joined ⟨call, log, .done value, none⟩).conclude config.procs.length
          ⟨call, log, .done value, none⟩ (.ok value)) := by
    simp only [step, Config.joined_last, bind_eq_bind, bind_some, Proc.stop, map_some]
  refine ⟨_, log, .head ⟨_, begun⟩ (.tail ran ⟨_, stopped⟩), ?_, ?_⟩
  · simp [Config.conclude, alone.sound, Config.joined]
  · simp [Config.conclude, Config.joined]

end Solo

end Interleave

end DataPulse.Lib
