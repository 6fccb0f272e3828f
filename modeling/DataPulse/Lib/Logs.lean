/-
**Adding up the log of a completed call.**

* `Logged log writes ids`: what a log wrote and which identifiers it drew, part by part;
* `query_logged`, `query_then`, `draw_completes`: the ways a completed program goes on;
* `forEach_completes`: a loop completes element by element;
* `Reachable.commit_of`: a committed call completed its program on what was committed before it, and
  what it wrote was locked since;
* `Reachable.adds_up`: what the commits add up to, counted over the clients that returned;
* `WritesOnly` and its rules, one for each way to build a program: whatever a program is told, it writes
  nothing but such writes;
* `Faultless` and its rules: a program that throws only after a failed statement;
* `LogsPass`: a check of every entry of the committed calls;
* `foldl_keeps`, `foldl_fixed`: a row with its UPDATEs applied;
* `eq_of_sameRow`, `OneActiveOf.append`: one row under a key, and one active row among rivals.
-/

import DataPulse.Lib.Locks
import DataPulse.Lib.Rows

namespace DataPulse.Lib.Interleave

variable {Id Write : Type} {writes : List Write} {Row : Type}

section Logs

variable {Stmt : Type} {Reply : Stmt → Type} {Err Fault Call Value α β : Type}
variable {system : System Stmt Reply Id Err Fault Write Call Value}
variable {commits : List (Nat × List Write)} {call : Call} {own : List Write}
  {log : List (Entry Stmt Reply Id Fault Write)}
variable {config : Config Stmt Reply Id Err Fault Write Call Value}
  {body : α → Prog Stmt Reply Id Err β}
variable {program : Prog Stmt Reply Id Err α} {next : α → Prog Stmt Reply Id Err β}
  {before after : List (Nat × List Write)} {statement : Stmt} {value : α}
variable {write : Write} {result : β} {pid : Nat}

/-- The writes of a log and the identifiers it drew. -/
structure Logged (log : List (Entry Stmt Reply Id Fault Write)) (writes : List Write) (ids : List Id) :
    Prop where
  written : written log = writes
  drawn : drawn log = ids

theorem Logged.nil : Logged ([] : List (Entry Stmt Reply Id Fault Write)) [] [] := ⟨rfl, rfl⟩

theorem Logged.append {first second : List (Entry Stmt Reply Id Fault Write)} {writes' : List Write}
    {ids ids' : List Id} (before : Logged first writes ids) (later : Logged second writes' ids') :
    Logged (first ++ second) (writes ++ writes') (ids ++ ids') := by
  constructor
  · rw [written_append, before.written, later.written]
  · rw [drawn_append, before.drawn, later.drawn]

theorem query_logged {reply : Reply statement}
    (ends : Completes system commits call own (Prog.query statement) log reply) :
    ∃ seen writes, log = [.answered statement seen (.ok (reply, writes))] ∧ seen ≤ commits.length ∧
      system.exec call (contents (commits.take seen) ++ own) statement = .ok (reply, writes) ∧
      Logged log writes [] := by
  obtain ⟨seen, writes, rfl, early, ran⟩ := completes_query ends
  exact ⟨seen, writes, rfl, early, ran, by simp [written, Entry.writes], rfl⟩

theorem query_then {next : Reply statement → Prog Stmt Reply Id Err β}
    (ends : Completes system commits call own ((Prog.query statement).bind next) log result) :
    ∃ reply seen writes rest, let first : List (Entry Stmt Reply Id Fault Write) :=
      [.answered statement seen (.ok (reply, writes))]
      log = first ++ rest ∧ seen ≤ commits.length ∧
      system.exec call (contents (commits.take seen) ++ own) statement = .ok (reply, writes) ∧
      Logged first writes [] ∧
      Completes system commits call (own ++ written first) (next reply) rest result := by
  obtain ⟨reply, first, rest, rfl, asked, after⟩ := completes_bind ends
  obtain ⟨seen, writes, rfl, early, ran, logged⟩ := query_logged asked
  exact ⟨reply, seen, writes, rest, rfl, early, ran, logged, after⟩

theorem returned_bind (ends : Ends system (program.bind next) log (.ok result)) :
    ∃ value first second, log = first ++ second ∧ Ends system program first (.ok value) ∧
      Ends system (next value) second (.ok result) := by
  rcases ends_bind ends with ⟨error, -, same⟩ | returned
  · cases same
  · exact returned

theorem draw_completes {next : Id → Prog Stmt Reply Id Err α}
    (ends : Completes system commits call own (.draw next) log value) :
    ∃ id rest, log = .drew id :: rest ∧ Completes system commits call own (next id) rest value := by
  obtain ⟨returns, answers, sound⟩ := ends
  obtain ⟨id, rest, rfl, later⟩ := ends_draw returns
  exact ⟨id, rest, rfl, later, answers, by simpa [aborted, Entry.failed] using sound⟩

/-- **A loop whose body has an effect on every element has it on the whole list.** -/
theorem forEach_completes {effect : α → List (Entry Stmt Reply Id Fault Write) → β → Prop} {elements : List α}
    (each : ∀ element log value, Completes system commits call own (body element) log value →
        written log = [] ∧ effect element log value) {values : List β}
    (ends : Completes system commits call own (Prog.forEach body elements) log values) :
    written log = [] ∧
      List.Forall₂ (fun element value => ∃ part, effect element part value ∧ ∀ entry ∈ part, entry ∈ log)
      elements values := by
  induction elements generalizing log values with
  | nil =>
    obtain ⟨rfl, rfl⟩ := completes_done ends
    exact ⟨rfl, .nil⟩
  | cons element rest ih =>
    obtain ⟨head, first, later, rfl, ran, ends⟩ := completes_bind ends
    obtain ⟨tail, second, last, rfl, looped, ends⟩ := completes_bind ends
    obtain ⟨rfl, rfl⟩ := completes_done ends
    obtain ⟨nothing, holds⟩ := each _ _ _ ran
    rw [nothing, append_nil] at looped
    obtain ⟨nothing', holds'⟩ := ih looped
    rw [append_nil]
    refine ⟨by rw [written_append, nothing, nothing', append_nil],
      .cons ⟨first, holds, fun entry mem => mem_append_left _ mem⟩ ?_⟩
    refine holds'.imp fun element value ⟨part, holds, inside⟩ => ⟨part, holds, ?_⟩
    exact fun entry mem => mem_append_right _ (inside entry mem)

/-- **A committed call, on what was committed before it: what it wrote was locked from then on.** -/
theorem Reachable.commit_of [DecidableEq Id]
    (symm : ∀ first second, system.clash first second = system.clash second first)
    (reach : Reachable system config) (commits : config.commits = before ++ (pid, writes) :: after) :
    ∃ proc value,
      config.procs[pid]? = some proc ∧ proc.result = some (.ok value) ∧ writes = written proc.log ∧
      Completes system before proc.call [] (system.program proc.call) proc.log value ∧
      Held system before proc.log ∧ Ordered proc.log := by
  obtain ⟨proc, value, found, gave, wrote, ends⟩ := reach.commit commits
  exact ⟨proc, value, found, gave, wrote, ends, reach.held symm commits found,
    (reach.ordered proc (mem_of_getElem? found)).1⟩

section Ledger

variable {first second : Write} {related : Write → Write → Prop}

theorem mem_ledger (commits : config.commits = before ++ after) (mem : write ∈ contents before) :
    write ∈ config.ledger := by
  rw [Config.ledger, commits, contents_append]
  exact mem_append_left _ mem

theorem mem_ledger_own (commits : config.commits = before ++ (pid, writes) :: after) (mem : write ∈ writes) :
    write ∈ config.ledger := by
  rw [Config.ledger, commits, contents_append, contents_cons]
  exact mem_append_right _ (mem_append_left _ mem)

/-- What holds of any two committed writes, in their order, holds of one committed before a transaction and one
of its own. -/
theorem pairwise_commit (commits : config.commits = before ++ (pid, writes) :: after)
    (free : config.ledger.Pairwise related) (old : first ∈ contents before) (new : second ∈ writes) :
    related first second := by
  rw [Config.ledger, commits, contents_append, contents_cons] at free
  exact (pairwise_append.1 free).2.2 first old second (mem_append_left _ new)

end Ledger

theorem contents_split (commits : List (Nat × List Write)) (seen : Nat) :
    contents commits = contents (commits.take seen) ++ contents (commits.drop seen) := by
  rw [← contents_append, take_append_drop]

theorem mem_contents : write ∈ contents commits ↔ ∃ pid writes, (pid, writes) ∈ commits ∧ write ∈ writes := by
  simp only [contents, mem_flatMap, Prod.exists]

theorem contents_mono {prior later : List (Nat × List Write)} (grown : prior <+: later)
    (mem : write ∈ contents prior) : write ∈ contents later := by
  obtain ⟨more, rfl⟩ := grown
  rw [contents_append]
  exact mem_append_left _ mem

theorem partner_of_forall₂ {relates : α → β → Prop} {first : List α} {second : List β}
    (all : List.Forall₂ relates first second) {element : α} (mem : element ∈ first) :
    ∃ partner ∈ second, relates element partner := by
  induction all with
  | nil => cases mem
  | cons head _ ih =>
    rcases mem_cons.1 mem with rfl | later
    · exact ⟨_, mem_cons_self, head⟩
    · obtain ⟨partner, inside, related⟩ := ih later
      exact ⟨partner, mem_cons_of_mem _ inside, related⟩

/-! ### What the commits add up to -/

section Sums

variable [DecidableEq Id] {config : Config Stmt Reply Id Err Fault Write Call Value}
  {counts : Proc Stmt Reply Id Err Fault Write Call Value → Bool}

omit [DecidableEq Id] in
theorem countP_put {proc proc' : Proc Stmt Reply Id Err Fault Write Call Value} {pid : Nat}
    {procs : List (Proc Stmt Reply Id Err Fault Write Call Value)} (found : procs[pid]? = some proc)
    (uncounted : counts proc = false) :
    (procs.set pid proc').countP counts = procs.countP counts + if counts proc' then 1 else 0 := by
  obtain ⟨inside, same⟩ := getElem?_eq_some_iff.1 found
  rw [List.countP_set inside, same, uncounted]
  simp

/-- **What the commits add up to is how many clients that returned count.** -/
theorem Reachable.adds_up (careful : ∀ call, Careful system (system.program call))
    {measure : List Write → Nat} (empty : measure [] = 0)
    (append : ∀ first second, measure (first ++ second) = measure first + measure second)
    (unreturned : ∀ proc, (∀ value, proc.result ≠ some (.ok value)) → counts proc = false)
    (gave : ∀ proc value commits, proc.result = some (.ok value) →
        Completes system commits proc.call [] (system.program proc.call) proc.log value →
        measure (written proc.log) = if counts proc then 1 else 0) (reach : Reachable system config) :
    measure config.ledger = config.procs.countP counts := by
  induction reach with
  | empty => exact empty
  | @step config config' event prior next ih =>
    have running : ∀ proc : Proc Stmt Reply Id Err Fault Write Call Value, proc.result = none →
        counts proc = false := fun proc running => unreturned proc fun value ended => by
      rw [running] at ended
      cases ended
    have reached : Reachable system config' := .step prior next
    rcases step_cases system next with
      ⟨call, rfl, rfl⟩ | ⟨pid, proc, found, live, ⟨proc', runs, rfl⟩ | ⟨result, stops, rfl⟩⟩
    · show measure config.ledger = (config.procs ++ [Proc.start system call]).countP counts
      rw [ih, countP_append, List.countP_singleton, running _ rfl]
      simp
    · show measure config.ledger = (config.procs.set pid proc').countP counts
      have still : proc'.result = none := by
        cases runs with
        | draw rest new | answer rest given => exact live
      rw [ih, countP_put found (running proc live), running proc' still]
      simp
    · have put : (config.conclude pid proc result).procs[pid]? = some { proc with result := some result } :=
        (getElem?_put found).2 (.inl ⟨rfl, rfl⟩)
      show _ = (config.procs.set pid { proc with result := some result }).countP counts
      rw [countP_put found (running proc live), ← ih]
      cases result with
      | error error =>
        rw [unreturned { proc with result := some (.error error) } fun value same => by cases same]
        rfl
      | ok value =>
        have ends := (careful proc.call).completes (reached.finishes (mem_of_getElem? put) rfl)
        have sound : aborted proc.log = false := ends.sound
        rw [← gave _ value _ rfl ends]
        show measure (contents (Config.conclude config pid proc (.ok value)).commits) = _
        rw [Config.conclude, sound]
        show measure (contents (config.commits ++ [(pid, written proc.log)])) = _
        rw [contents_append, append, contents, contents, List.flatMap_singleton]
        rfl

end Sums

/-! ### What a program may write -/

/-- Whenever the program completes, it wrote such writes only. -/
def WritesOnly (system : System Stmt Reply Id Err Fault Write Call Value) (allowed : Write → Prop)
    (program : Prog Stmt Reply Id Err α) : Prop :=
  ∀ commits call own log value, Completes system commits call own program log value →
    ∀ write ∈ written log, allowed write

variable {allowed : Write → Prop}

theorem writesOnly_done (value : α) : WritesOnly system allowed (.done value : Prog Stmt Reply Id Err α) := by
  intro commits call own log result ends write mem
  obtain ⟨rfl, -⟩ := completes_done ends
  cases mem

theorem writesOnly_fail (error : Err) : WritesOnly system allowed (.fail error : Prog Stmt Reply Id Err α) :=
  fun _ _ _ _ _ ends => absurd ends not_completes_fail

theorem writesOnly_draw {next : Id → Prog Stmt Reply Id Err α}
    (later : ∀ id, WritesOnly system allowed (next id)) : WritesOnly system allowed (.draw next) := by
  intro commits call own log value ends write mem
  obtain ⟨id, rest, rfl, ran⟩ := draw_completes ends
  exact later id _ _ _ _ _ ran write mem

theorem writesOnly_query
    (executes : ∀ call seen reply writes, system.exec call seen statement = .ok (reply, writes) →
      ∀ write ∈ writes, allowed write) : WritesOnly system allowed (Prog.query statement) := by
  intro commits call own log value ends write mem
  obtain ⟨seen, writes, rfl, -, ran, logged⟩ := query_logged ends
  rw [logged.written] at mem
  exact executes _ _ _ _ ran write mem

theorem writesOnly_bind (first : WritesOnly system allowed program)
    (later : ∀ value, WritesOnly system allowed (next value)) :
    WritesOnly system allowed (program.bind next) := by
  intro commits call own log value ends write mem
  obtain ⟨middle, before, after, rfl, ran, ends⟩ := completes_bind ends
  rw [written_append] at mem
  rcases mem_append.1 mem with early | late
  · exact first _ _ _ _ _ ran write early
  · exact later middle _ _ _ _ _ ends write late

theorem writesOnly_forEach (each : ∀ element, WritesOnly system allowed (body element)) (elements : List α) :
    WritesOnly system allowed (Prog.forEach body elements) := by
  induction elements with
  | nil => exact writesOnly_done []
  | cons element rest ih =>
    exact writesOnly_bind (each element) fun _ => writesOnly_bind ih fun _ => writesOnly_done _

theorem WritesOnly.nothing (reads : WritesOnly system (fun _ => False) program)
    (ends : Completes system commits call own program log value) : written log = [] :=
  eq_nil_iff_forall_not_mem.2 fun write mem => reads _ _ _ _ _ ends write mem

/-! ### A body that throws only after a failed statement -/

/-- The program throws only after one of its statements failed. -/
def Faultless (system : System Stmt Reply Id Err Fault Write Call Value)
    (program : Prog Stmt Reply Id Err α) : Prop :=
  ∀ log error, Ends system program log (.error error) → aborted log = true

theorem faultless_done (value : α) : Faultless system (.done value : Prog Stmt Reply Id Err α) := by
  intro log error ends
  cases (ends_done ends).2

theorem faultless_query (statement : Stmt) : Faultless system
    (Prog.query statement : Prog Stmt Reply Id Err _) := by
  intro log error ends
  obtain ⟨seen, answer, rfl, same⟩ := ends_query ends
  match answer with
  | .ok (reply, writes) => cases same
  | .error fault => rfl

theorem faultless_bind (first : Faultless system program) (later : ∀ value, Faultless system (next value)) :
    Faultless system (program.bind next) := by
  intro log error ends
  rcases ends_bind ends with ⟨error', threw, -⟩ | ⟨value, before, after, rfl, -, threw⟩
  · exact first _ _ threw
  · rw [aborted_append, later value _ _ threw, Bool.or_true]

/-- **Without a failed statement, such a body of a `try` never reaches the handler.** -/
theorem Faultless.completes {handler : Err → Prog Stmt Reply Id Err α} (faultless : Faultless system program)
    (ends : Completes system commits call own (program.rescue handler) log value) :
    Completes system commits call own program log value := by
  obtain ⟨returns, answers, sound⟩ := ends
  rcases ends_rescue returns with ⟨value', gave, same⟩ | ⟨error, first, second, rfl, threw, -⟩
  · rw [Except.ok.inj same]
    exact ⟨gave, answers, sound⟩
  · rw [aborted_append, faultless _ _ threw] at sound
    cases sound

/-! ### A check of the committed calls -/

/-- Every entry of the log of a committed call passes the check, of the call, what was committed before it, and
the entry. -/
def LogsPass (check : Call → List (Nat × List Write) → Entry Stmt Reply Id Fault Write → Bool)
    (config : Config Stmt Reply Id Err Fault Write Call Value) : Bool :=
  config.commits.zipIdx.all fun (commit, index) => (config.procs[commit.1]?).all fun proc =>
    proc.log.all (check proc.call (config.commits.take index))

theorem LogsPass.entry {check : Call → List (Nat × List Write) → Entry Stmt Reply Id Fault Write → Bool}
    (passes : LogsPass check config = true) (split : config.commits = before ++ (pid, writes) :: after)
    {proc : Proc Stmt Reply Id Err Fault Write Call Value} (found : config.procs[pid]? = some proc)
    {entry : Entry Stmt Reply Id Fault Write} (mem : entry ∈ proc.log) :
    check proc.call before entry = true := by
  have here : ((pid, writes), before.length) ∈ config.commits.zipIdx := by
    rw [List.mk_mem_zipIdx_iff_getElem?, split]
    simp
  have procs := all_eq_true.1 passes _ here
  dsimp only at procs
  rw [found] at procs
  have passed := all_eq_true.1 procs entry mem
  rwa [split, List.take_left] at passed

end Logs

/-! ### Rows and their UPDATEs -/

section Rows

variable {Column : Type} {apply : Row → Write → Row}

theorem foldl_keeps {column : Row → Column} (kept : ∀ row write, column (apply row write) = column row)
    (writes : List Write) (row : Row) : column (writes.foldl apply row) = column row := by
  induction writes generalizing row with
  | nil => rfl
  | cons write rest ih => exact (ih (apply row write)).trans (kept row write)

theorem foldl_fixed {writes : List Write} {row : Row} (fixed : ∀ write ∈ writes, apply row write = row) :
    writes.foldl apply row = row := by
  induction writes with
  | nil => rfl
  | cons write rest ih =>
    rw [foldl_cons, fixed write mem_cons_self]
    exact ih fun other mem => fixed other (mem_cons_of_mem _ mem)

end Rows

/-! ### Rows under a key -/

section Keys

variable {Table : Type} [DecidableEq Table] [DecidableEq Id] {key : Write → Option (Table × Id)}
variable {first second : Write} {table : Table} {one two : Id}

/-- Two writes insert rows of one table under one identifier; a write that inserts none has no key. -/
def sameRow (key : Write → Option (Table × Id)) (first second : Write) : Bool :=
  (key first).isSome && key first = key second

theorem sameRow_comm (first second : Write) : sameRow key first second = sameRow key second first := by
  by_cases same : key first = key second
  · simp [sameRow, same]
  · simp [sameRow, same, Ne.symm same]

theorem sameRow_none (update : key second = none) : sameRow key first second = false := by
  cases found : key first <;> simp [sameRow, update, found]

theorem sameRow_ne (here : key first = some (table, one)) (there : key second = some (table, two))
    (apart : one ≠ two) : sameRow key first second = false := by
  simp [sameRow, here, there, apart]

/-- **Rows of one table under one identifier are one row.** -/
theorem eq_of_sameRow (free : writes.Pairwise fun first second => sameRow key first second = false)
    (inOne : first ∈ writes) (inTwo : second ∈ writes) (here : key first = some (table, one))
    (there : key second = some (table, one)) : first = second :=
  eq_of_clash sameRow_comm free inOne inTwo (by simp [sameRow, here, there])

/-- **A server is lawful for the rows under a key** if each statement inserts none, or one row of a free
identifier. -/
theorem Lawful.of_rows {Stmt : Type} {Reply : Stmt → Type} {Drawn Err Fault Call Value : Type}
    {system : System Stmt Reply Drawn Err Fault Write Call Value}
    (rows : ∀ call view statement reply writes, system.exec call view statement = .ok (reply, writes) →
      (∀ write ∈ writes, key write = none) ∨
        ∃ write, writes = [write] ∧ ∀ first ∈ view, sameRow key first write = false) :
    Lawful { system with clash := sameRow key } := by
  refine ⟨sameRow_comm, fun call view statement reply writes ran => ?_⟩
  rcases rows call view statement reply writes ran with plain | ⟨write, rfl, apart⟩
  · exact refuses_apart fun first second new => sameRow_none (plain second new)
  · exact refuses_single apart

end Keys

/-! ### Rows of which one is active -/

section Active

variable {insert : Row → Write} {rival : Row → Row → Bool} {active : List Write → Row → Bool}
variable {before : List Write}

/-- Of the inserted rows that are rivals, one at most is active. -/
def OneActiveOf (insert : Row → Write) (rival : Row → Row → Bool) (active : List Write → Row → Bool)
    (writes : List Write) : Prop :=
  ∀ first second, insert first ∈ writes → insert second ∈ writes → rival first second = true →
    active writes first = true → active writes second = true → first = second

/-- **A transaction whose row has no active rival keeps it so**: a row does not become active again. -/
theorem OneActiveOf.append (one : OneActiveOf insert rival active before)
    (comm : ∀ first second, rival first second = true → rival second first = true)
    (prior : ∀ row, active (before ++ writes) row = true → active before row = true)
    (unrivalled : ∀ row other, insert row ∈ writes → insert other ∈ before → rival other row = true →
        active before other = false)
    (single : ∀ row other, insert row ∈ writes → insert other ∈ writes → row = other) :
    OneActiveOf insert rival active (before ++ writes) := by
  have apart : ∀ old new, insert old ∈ before → insert new ∈ writes → rival old new = true →
      active (before ++ writes) old ≠ true := by
    intro old new there mem same still
    have stood := prior old still
    rw [unrivalled new old mem there same] at stood
    cases stood
  intro first second inOne inTwo same still still'
  rcases mem_append.1 inOne with old | new
  · rcases mem_append.1 inTwo with old' | new'
    · exact one first second old old' same (prior first still) (prior second still')
    · exact absurd still (apart first second old new' same)
  · rcases mem_append.1 inTwo with old' | new'
    · exact absurd still' (apart second first old' new (comm _ _ same))
    · exact single first second new new'

end Active

end DataPulse.Lib.Interleave
