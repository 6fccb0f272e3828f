/-
**One transaction at a time.**

`Prog.run` runs a client program against a database that nobody else touches meanwhile: every
statement is executed on the current contents (`exec`), a failed statement aborts the transaction,
and from then on the server answers every statement with the same refusal. `transaction` is the
whole `BEGIN … COMMIT`: a thrown error rolls back, and so does the COMMIT of an aborted transaction,
which the server accepts without an error.

An `Outage` lets the server or the connection fail any statement, so that what is proved below holds
whichever statement breaks.
-/

import DataPulse.Lib.Prog

namespace DataPulse.Lib

/-- The state of one session: the contents it sees, whether its transaction is aborted, and how many
statements it has sent and identifiers it has drawn. -/
structure Session (Db : Type) where
  db : Db
  aborted : Bool
  sent : Nat
  drawn : Nat

/-- How the server executes one statement, and what it answers inside an aborted transaction. -/
structure Engine (Stmt : Type) (Reply : Stmt → Type) (Err Db : Type) where
  exec : (statement : Stmt) → Db → Except Err (Reply statement × Db)
  refused : Err

/-- What the outside world does to one transaction: the identifiers it hands out, in order, and the
statements it fails. -/
structure World (Id Err : Type) where
  ids : Nat → Id
  outage : Nat → Option Err

/-- The world in which nothing fails and one identifier is handed out. -/
def World.quiet {Id Err : Type} (id : Id) : World Id Err := ⟨fun _ => id, fun _ => none⟩

namespace Prog

variable {Stmt : Type} {Reply : Stmt → Type} {Id Err Db α β : Type}
variable {session middle : Session Db} {body : α → Prog Stmt Reply Id Err β} {error : Err} {db : Db}
variable {program : Prog Stmt Reply Id Err α} {next : α → Prog Stmt Reply Id Err β}
  {after : Session Db} {value : α} {statement : Stmt} {reply : Reply statement}
variable {result : β}

/-- The session after one statement, and the answer. -/
def answer (engine : Engine Stmt Reply Err Db) (world : World Id Err) (statement : Stmt)
    (session : Session Db) : Except Err (Reply statement) × Session Db :=
  let counted := { session with sent := session.sent + 1 }
  if session.aborted then (.error engine.refused, counted)
  else match world.outage session.sent with
    | some error => (.error error, { counted with aborted := true })
    | none => match engine.exec statement session.db with
      | .ok (reply, db) => (.ok reply, { counted with db := db })
      | .error error => (.error error, { counted with aborted := true })

def run (engine : Engine Stmt Reply Err Db) (world : World Id Err) :
    Prog Stmt Reply Id Err α → Session Db → Except Err α × Session Db
  | .done value, session => (.ok value, session)
  | .fail error, session => (.error error, session)
  | .ask statement next, session =>
    let replied := answer engine world statement session
    (next replied.1).run engine world replied.2
  | .draw next, session =>
    (next (world.ids session.drawn)).run engine world { session with drawn := session.drawn + 1 }

attribute [local simp] run

def begun (db : Db) : Session Db := ⟨db, false, 0, 0⟩

/-- `BEGIN; work; COMMIT`, with ROLLBACK when the work throws. -/
def transaction (engine : Engine Stmt Reply Err Db) (world : World Id Err)
    (program : Prog Stmt Reply Id Err α) (db : Db) : Except Err α × Db :=
  match program.run engine world (begun db) with
  | (.ok value, session) => (.ok value, if session.aborted then db else session.db)
  | (.error error, _) => (.error error, db)

variable (engine : Engine Stmt Reply Err Db) (world : World Id Err)

theorem run_bind (program : Prog Stmt Reply Id Err α) (next : α → Prog Stmt Reply Id Err β)
    (session : Session Db) :
    (program.bind next).run engine world session = match program.run engine world session with
      | (.ok value, after) => (next value).run engine world after
      | (.error error, after) => (.error error, after) := by
  induction program generalizing session with
  | done value | fail error => rfl
  | ask statement rest ih | draw rest ih => exact ih _ _

theorem run_rescue (program : Prog Stmt Reply Id Err α) (handler : Err → Prog Stmt Reply Id Err α)
    (session : Session Db) :
    (program.rescue handler).run engine world session = match program.run engine world session with
      | (.ok value, after) => (.ok value, after)
      | (.error error, after) => (handler error).run engine world after := by
  induction program generalizing session with
  | done value | fail error => rfl
  | ask statement rest ih | draw rest ih => exact ih _ _

theorem answer_aborted (statement : Stmt) (session : Session Db) (aborted : session.aborted = true) :
    (answer engine world statement session).2.aborted = true := by
  simp [answer, aborted]

theorem run_aborted (program : Prog Stmt Reply Id Err α) (session : Session Db)
    (aborted : session.aborted = true) : (program.run engine world session).2.aborted = true := by
  induction program generalizing session with
  | done value | fail error => exact aborted
  | ask statement rest ih => exact ih _ _ (answer_aborted engine world statement session aborted)
  | draw rest ih => exact ih _ _ aborted

/-! ### Runs that end well -/

/-- The run returns a value, and its transaction is not aborted. -/
structure Commits (program : Prog Stmt Reply Id Err α) (session : Session Db) (value : α)
    (after : Session Db) : Prop where
  returns : program.run engine world session = (.ok value, after)
  sound : after.aborted = false

theorem transaction_cases (program : Prog Stmt Reply Id Err α) (db : Db) :
    (program.transaction engine world db).2 = db ∨
      ∃ value after, Commits engine world program (begun db) value after ∧
      program.transaction engine world db = (.ok value, after.db) := by
  unfold transaction
  split
  · rename_i value session ran
    cases aborted : session.aborted with
    | true => exact .inl (by simp)
    | false => exact .inr ⟨value, session, ⟨ran, aborted⟩, by simp⟩
  · exact .inl rfl

variable {engine world}

theorem commits_done {result : α}
    (run : Commits engine world (.done value : Prog Stmt Reply Id Err α) session result after) :
    result = value ∧ after = session := by
  have returns := run.returns
  simp only [Prog.run, Prod.mk.injEq, Except.ok.injEq] at returns
  exact ⟨returns.1.symm, returns.2.symm⟩

theorem not_commits_fail
    (run : Commits engine world (.fail error : Prog Stmt Reply Id Err α) session value after) : False := by
  have returns := run.returns
  simp at returns

theorem commits_bind (run : Commits engine world (program.bind next) session result after) :
    ∃ value middle, Commits engine world program session value middle ∧
      Commits engine world (next value) middle result after := by
  obtain ⟨returns, sound⟩ := run
  rw [run_bind] at returns
  split at returns
  · rename_i value middle first
    refine ⟨value, middle, ⟨first, ?_⟩, ⟨returns, sound⟩⟩
    by_contra aborted
    have aborted' := run_aborted engine world (next value) middle (by simpa using aborted)
    rw [returns, sound] at aborted'
    exact absurd aborted' (by decide)
  · simp at returns

theorem commits_query (run : Commits engine world (query statement) session reply after) :
    engine.exec statement session.db = .ok (reply, after.db) := by
  obtain ⟨returns, -⟩ := run
  cases aborted : session.aborted with
  | true => simp [query, answer, aborted] at returns
  | false =>
    cases failed : world.outage session.sent with
    | some error => simp [query, answer, aborted, failed] at returns
    | none =>
      cases ran : engine.exec statement session.db with
      | error error => simp [query, answer, aborted, failed, ran] at returns
      | ok outcome =>
        simp only [query, Prog.run, answer, aborted, failed, ran,
          false_eq_true, if_false, Prod.mk.injEq, Except.ok.injEq] at returns
        rw [← returns.1, ← returns.2]

theorem commits_newId {id : Id}
    (run : Commits engine world (newId : Prog Stmt Reply Id Err Id) session id after) :
    after.db = session.db := by
  have returns := run.returns
  simp only [newId, Prog.run, Prod.mk.injEq] at returns
  rw [← returns.2]

/-- An error that only a failed statement can raise leaves the transaction aborted. -/
def AbortsOnError (engine : Engine Stmt Reply Err Db) (world : World Id Err)
    (program : Prog Stmt Reply Id Err α) : Prop :=
  ∀ session error after, program.run engine world session = (.error error, after) →
    after.aborted = true

theorem abortsOnError_done (value : α) : AbortsOnError engine world
    (.done value : Prog Stmt Reply Id Err α) := by
  intro session error after ran
  simp at ran

theorem abortsOnError_query (statement : Stmt) :
    AbortsOnError engine world (query statement : Prog Stmt Reply Id Err _) := by
  intro session error after ran
  simp only [query, Prog.run] at ran
  generalize replied : answer engine world statement session = outcome at ran
  obtain ⟨reply, session'⟩ := outcome
  cases reply with
  | ok reply => simp at ran
  | error error' =>
    simp only [Prog.run, Prod.mk.injEq, Except.error.injEq] at ran
    rw [← ran.2]
    unfold answer at replied
    split_ifs at replied with aborted
    · simp only [Prod.mk.injEq] at replied
      rw [← replied.2]
      exact aborted
    · split at replied
      · simp only [Prod.mk.injEq] at replied
        rw [← replied.2]
      · split at replied
        · simp at replied
        · simp only [Prod.mk.injEq] at replied
          rw [← replied.2]

theorem abortsOnError_newId : AbortsOnError engine world (newId : Prog Stmt Reply Id Err Id) := by
  intro session error after ran
  simp [newId] at ran

theorem abortsOnError_bind (first : AbortsOnError engine world program)
    (second : ∀ value, AbortsOnError engine world (next value)) :
    AbortsOnError engine world (program.bind next) := by
  intro session error after ran
  rw [run_bind] at ran
  split at ran
  · exact second _ _ _ _ ran
  · rename_i error' after' ran'
    simp only [Prod.mk.injEq, Except.error.injEq] at ran
    rw [← ran.2]
    exact first _ _ _ ran'

theorem abortsOnError_forEach (each : ∀ element, AbortsOnError engine world (body element))
    (elements : List α) : AbortsOnError engine world (forEach body elements) := by
  induction elements with
  | nil => exact abortsOnError_done _
  | cons element rest ih =>
    exact abortsOnError_bind (each element) fun head => abortsOnError_bind ih fun tail => abortsOnError_done _

theorem commits_rescue {handler : Err → Prog Stmt Reply Id Err α}
    (aborts : AbortsOnError engine world program)
    (run : Commits engine world (program.rescue handler) session value after) :
    Commits engine world program session value after := by
  obtain ⟨returns, sound⟩ := run
  rw [run_rescue] at returns
  split at returns
  · rename_i value' after' ran
    exact ⟨ran.trans returns, sound⟩
  · rename_i error after' ran
    have aborted := run_aborted engine world (handler error) after' (aborts _ _ _ ran)
    rw [returns, sound] at aborted
    exact absurd aborted (by decide)

/-- A loop that ends well, one element at a time: `Each` is what the body tells about the databases
before and after it, `Loop` what follows for the whole list. -/
theorem commits_forEach (Each : α → β → Db → Db → Prop) (Loop : List α → List β → Db → Db → Prop)
    (each : ∀ element session value after, Commits engine world (body element) session value after →
        Each element value session.db after.db) {elements : List α} {values : List β}
    (run : Commits engine world (forEach body elements) session values after) (empty : ∀ db, Loop [] [] db db)
    (step : ∀ element value rest tail db db' db'', Each element value db db' → Loop rest tail db' db'' →
      Loop (element :: rest) (value :: tail) db db'') : Loop elements values session.db after.db := by
  induction elements generalizing session values with
  | nil =>
    obtain ⟨rfl, rfl⟩ := commits_done run
    exact empty _
  | cons element rest ih =>
    obtain ⟨head, middle, first, later⟩ := commits_bind run
    obtain ⟨tail, last, loop, finish⟩ := commits_bind later
    obtain ⟨rfl, rfl⟩ := commits_done finish
    exact step _ _ _ _ _ _ _ (each _ _ _ _ first) (ih loop)

/-! ### Runs that return -/

/-- A run that returns has lost no statement: the session is as sound after it as before. -/
def Unbroken (engine : Engine Stmt Reply Err Db) (world : World Id Err)
    (program : Prog Stmt Reply Id Err α) : Prop :=
  ∀ session value after, program.run engine world session = (.ok value, after) →
    after.aborted = session.aborted

theorem unbroken_done (value : α) : Unbroken engine world (.done value : Prog Stmt Reply Id Err α) := by
  intro session result after ran
  simp only [Prog.run, Prod.mk.injEq] at ran
  rw [← ran.2]

theorem unbroken_fail (error : Err) : Unbroken engine world (.fail error : Prog Stmt Reply Id Err α) := by
  intro session result after ran
  simp at ran

theorem unbroken_query (statement : Stmt) : Unbroken engine world
    (query statement : Prog Stmt Reply Id Err _) := by
  intro session reply after ran
  cases aborted : session.aborted with
  | true => simp [query, answer, aborted] at ran
  | false =>
    cases failed : world.outage session.sent with
    | some error => simp [query, answer, aborted, failed] at ran
    | none =>
      cases went : engine.exec statement session.db with
      | error error => simp [query, answer, aborted, failed, went] at ran
      | ok outcome =>
        simp only [query, Prog.run, answer, aborted, failed, went, false_eq_true, if_false, Prod.mk.injEq] at ran
        rw [← ran.2]

theorem unbroken_draw {next : Id → Prog Stmt Reply Id Err α} (rest : ∀ id, Unbroken engine world (next id)) :
    Unbroken engine world (.draw next) := by
  intro session value after ran
  rw [Prog.run] at ran
  exact rest _ { session with drawn := session.drawn + 1 } value after ran

theorem unbroken_bind (first : Unbroken engine world program)
    (second : ∀ value, Unbroken engine world (next value)) : Unbroken engine world (program.bind next) := by
  intro session result after ran
  rw [run_bind] at ran
  split at ran
  · rename_i value middle ran'
    exact (second value _ _ _ ran).trans (first _ _ _ ran')
  · simp at ran

theorem transaction_ok (unbroken : Unbroken engine world program)
    (gave : (program.transaction engine world db).1 = .ok value) :
    ∃ after, Commits engine world program (begun db) value after ∧
      program.transaction engine world db = (.ok value, after.db) := by
  unfold transaction at gave ⊢
  split at gave
  · rename_i result after ran
    obtain rfl := Except.ok.inj gave
    have sound : after.aborted = false := unbroken _ _ _ ran
    refine ⟨after, ⟨ran, sound⟩, ?_⟩
    simp [sound]
  · cases gave

/-! ### Runs forward -/

def Succeeds (engine : Engine Stmt Reply Err Db) (world : World Id Err)
    (program : Prog Stmt Reply Id Err α) (session : Session Db) : Prop :=
  ∃ value after, Commits engine world program session value after

theorem succeeds_done (value : α) (sound : session.aborted = false) :
    Succeeds engine world (.done value : Prog Stmt Reply Id Err α) session :=
  ⟨value, session, rfl, sound⟩

theorem commits_executed (calm : world.outage session.sent = none) (sound : session.aborted = false)
    (ran : engine.exec statement session.db = .ok (reply, db)) :
    Commits engine world (query statement : Prog Stmt Reply Id Err _) session reply
      { session with sent := session.sent + 1, db := db } :=
  ⟨by simp [query, answer, calm, sound, ran], sound⟩

theorem commits_append (first : Commits engine world program session value middle)
    (second : Commits engine world (next value) middle result after) :
    Commits engine world (program.bind next) session result after :=
  ⟨by rw [run_bind, first.returns]; exact second.returns, second.sound⟩

theorem commits_drawn (sound : session.aborted = false) :
    Commits engine world (newId : Prog Stmt Reply Id Err Id) session (world.ids session.drawn)
      { session with drawn := session.drawn + 1 } := ⟨rfl, sound⟩

theorem succeeds_then (first : Commits engine world program session value middle)
    (rest : Succeeds engine world (next value) middle) :
    Succeeds engine world (program.bind next) session := by
  obtain ⟨result, after, ran⟩ := rest
  exact ⟨result, after, commits_append first ran⟩

/-- A sequence ends well when its first part does and the rest ends well after it: what the first
part did is known from its own rule. -/
theorem succeeds_bind (first : Succeeds engine world program session)
    (rest : ∀ value middle, Commits engine world program session value middle →
      Succeeds engine world (next value) middle) : Succeeds engine world (program.bind next) session := by
  obtain ⟨value, middle, ran⟩ := first
  obtain ⟨result, after, ran'⟩ := rest value middle ran
  exact ⟨result, after, commits_append ran ran'⟩

theorem transaction_of_commits (ran : Commits engine world program (begun db) value after) :
    program.transaction engine world db = (.ok value, after.db) := by
  rw [transaction, ran.returns]
  simp [ran.sound]

/-! ### Runs that throw -/

def Throws (engine : Engine Stmt Reply Err Db) (world : World Id Err) (program : Prog Stmt Reply Id Err α)
    (session : Session Db) (error : Err) : Prop :=
  ∃ after, program.run engine world session = (.error error, after)

theorem throws_executed (calm : world.outage session.sent = none) (sound : session.aborted = false)
    (refused : engine.exec statement session.db = .error error) :
    Throws engine world (query statement : Prog Stmt Reply Id Err _) session error :=
  ⟨{ session with sent := session.sent + 1, aborted := true },
    by simp [query, answer, calm, sound, refused]⟩

theorem throws_first (first : Throws engine world program session error) :
    Throws engine world (program.bind next) session error := by
  obtain ⟨after, ran⟩ := first
  exact ⟨after, by rw [run_bind, ran]⟩

theorem throws_then (first : Commits engine world program session value middle)
    (rest : Throws engine world (next value) middle error) :
    Throws engine world (program.bind next) session error := by
  obtain ⟨after, ran⟩ := rest
  exact ⟨after, by rw [run_bind, first.returns]; exact ran⟩

theorem transaction_of_throws (thrown : Throws engine world program (begun db) error) :
    program.transaction engine world db = (.error error, db) := by
  obtain ⟨after, ran⟩ := thrown
  rw [transaction, ran]

/-- From a sound session whose tables satisfy `before`, the program does not throw the error, and where it
returns the session is sound and its tables satisfy `after`. -/
def Spares (engine : Engine Stmt Reply Err Db) (world : World Id Err) (error : Err) (before after : Db → Prop)
    (program : Prog Stmt Reply Id Err α) : Prop :=
  ∀ session, session.aborted = false → before session.db →
    match program.run engine world session with
    | (.ok _, later) => later.aborted = false ∧ after later.db
    | (.error thrown, _) => thrown ≠ error

section Spares

variable {error : Err} {before middle after : Db → Prop}
variable {program : Prog Stmt Reply Id Err α}

theorem spares_done (value : α) : Spares engine world error before before
    (.done value : Prog Stmt Reply Id Err α) :=
  fun _ sound holds => ⟨sound, holds⟩

theorem spares_newId : Spares engine world error before before (newId : Prog Stmt Reply Id Err Id) :=
  fun _ sound holds => ⟨sound, holds⟩

theorem spares_query {statement : Stmt} (calm : ∀ n, world.outage n = none)
    (executes : ∀ db, before db →
      match engine.exec statement db with | .ok (_, db') => after db' | .error thrown => thrown ≠ error) :
    Spares engine world error before after (query statement : Prog Stmt Reply Id Err _) := by
  intro session sound holds
  have outcome := executes session.db holds
  simp only [query, Prog.run, answer, sound, calm, false_eq_true, if_false]
  cases ran : engine.exec statement session.db with
  | ok replied =>
    rw [ran] at outcome
    exact ⟨rfl, outcome⟩
  | error thrown =>
    rw [ran] at outcome
    exact outcome

theorem spares_bind {next : α → Prog Stmt Reply Id Err β}
    (first : Spares engine world error before middle program)
    (rest : ∀ value, Spares engine world error middle after (next value)) :
    Spares engine world error before after (program.bind next) := by
  intro session sound holds
  have outcome := first session sound holds
  rw [run_bind]
  cases ran : program.run engine world session with
  | mk result later =>
    rw [ran] at outcome
    cases result with
    | ok value => exact rest value later outcome.1 outcome.2
    | error thrown => exact outcome

theorem spares_forEach {body : α → Prog Stmt Reply Id Err β}
    (each : ∀ element, Spares engine world error before before (body element)) (elements : List α) :
    Spares engine world error before before (forEach body elements) := by
  induction elements with
  | nil => exact spares_done _
  | cons element rest ih =>
    exact spares_bind (each element) fun head => spares_bind ih fun tail => spares_done _

theorem transaction_spares {db : Db} (spares : Spares engine world error before after program)
    (holds : before db) : (program.transaction engine world db).1 ≠ .error error := by
  have outcome := spares (begun db) rfl holds
  unfold transaction
  intro thrown
  cases ran : program.run engine world (begun db) with
  | mk result later =>
    rw [ran] at outcome thrown
    cases result with
    | ok value => cases thrown
    | error error' => exact outcome (Except.error.inj thrown)

end Spares

end Prog

end DataPulse.Lib
