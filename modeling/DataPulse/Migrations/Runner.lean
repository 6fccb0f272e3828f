/-
**The migration runner.**

`migrate.ts up` walks the migration files in their order. Each file is a script that begins and commits its
own transaction; the row of the ledger that says it was applied is a statement of its own, after it. Runners
hold an advisory lock while they work, and any of them can stop at any point.

* `migrations_applied`: so over any run without such a crash each migration takes effect once, the ledger
  lists those in effect, and a later run completes; `ledger_behind`: not over every run.
-/

import DataPulse.Lib.Machine
import DataPulse.Lib.Slots

namespace DataPulse.Migrations

open Lib

/-! ### Files -/

/-- `MigrationFile`: the statements between the `BEGIN` and the `COMMIT` of its script. -/
structure MigrationFile (Statement : Type) where
  id : String
  statements : List Statement

/-- Statements, one after the other, unless one of them fails. -/
def executeAll {Statement Schema : Type} (execute : Statement → Schema →
    Option Schema) (statements : List Statement)
    (schema : Schema) : Option Schema :=
  statements.foldlM (fun schema statement => execute statement schema) schema

/-- The files of a directory in their order (`listMigrations`), with what a statement does to a schema. In
their order they apply to a fresh database. -/
structure MigrationSet (Statement Schema : Type) where
  execute : Statement → Schema → Option Schema
  fresh : Schema
  files : List (MigrationFile Statement)
  /-- Files of a directory have different names. -/
  names : (files.map MigrationFile.id).Nodup
  applies : (files.foldlM (fun schema file => executeAll execute file.statements schema) fresh).isSome

section Model

variable {Statement Schema : Type}

def MigrationSet.after (set : MigrationSet Statement Schema) (files : List (MigrationFile Statement))
    (schema : Schema) : Option Schema :=
  files.foldlM (fun schema file => executeAll set.execute file.statements schema) schema

/-! ### Runners -/

/-- Where a run of `up` is: what it does next. -/
inductive Phase (Statement Schema : Type) where
  /-- `ensureLedger`. -/
  | connected
  /-- `CREATE TABLE IF NOT EXISTS` found no ledger and creates it. -/
  | creating
  /-- `takeLock`. -/
  | waiting
  /-- `appliedIds`. -/
  | locked
  /-- The loop over the pending migrations. -/
  | between (pending : List (MigrationFile Statement))
  /-- In the transaction of a script: the statements that are left, on its view of the schema. -/
  | applying (current : MigrationFile Statement) (rest : List Statement) (view : Schema)
      (pending : List (MigrationFile Statement))
  /-- `INSERT INTO _drizzle_migrations`. -/
  | committed (current : MigrationFile Statement) (pending : List (MigrationFile Statement))
  /-- `releaseLock`. -/
  | releasing
  /-- The session is over; the run completed, or not. -/
  | ended (completed : Bool)

def Phase.working : Phase Statement Schema → Bool
  | locked | between _ | applying .. | committed .. | releasing => true
  | _ => false

/-- The database and the runners. `history` is not stored: the migrations that committed, in their order. -/
structure Deployment (Statement Schema : Type) where
  schema : Schema
  /-- `_drizzle_migrations`, once it is there. -/
  ledger : Option (List String)
  /-- Who holds the advisory lock. -/
  holder : Option Nat
  runners : List (Phase Statement Schema)
  history : List String

/-- What happens: someone runs `up`, a runner executes its next statement, or a runner stops. -/
inductive Event where
  | start
  | advance (runner : Nat)
  | crash (runner : Nat)

namespace Deployment

variable (set : MigrationSet Statement Schema) (db : Deployment Statement Schema) (runner : Nat)

def goTo (phase : Phase Statement Schema) : Deployment Statement Schema :=
  { db with runners := db.runners.set runner phase }

/-- The session of the runner ends: an open transaction is rolled back and its lock is released. -/
def stop (completed : Bool) : Deployment Statement Schema :=
  { db.goTo runner (.ended completed) with holder := if db.holder = some runner then none else db.holder }

/-- The next statement of a runner, unless it waits for the lock or is over. A statement that fails ends the
run. -/
def advance : Phase Statement Schema → Option (Deployment Statement Schema)
  | .connected => match db.ledger with
      | none => some (db.goTo runner .creating)
      | some _ => some (db.goTo runner .waiting)
  | .creating => match db.ledger with
      | none => some { db.goTo runner .waiting with ledger := some [] }
      -- another runner created it meanwhile: the insert into the catalogue violates its key
      | some _ => some (db.stop runner false)
  | .waiting => match db.holder with
      | none => some { db.goTo runner .locked with holder := some runner }
      | some _ => none
  | .locked =>
    let applied := db.ledger.getD []
    some (db.goTo runner (.between (set.files.filter fun file => file.id ∉ applied)))
  | .between [] => some (db.goTo runner .releasing)
  | .between (file :: pending) => some (db.goTo runner (.applying file file.statements db.schema pending))
  | .applying file (statement :: rest) view pending => match set.execute statement view with
      | none => some (db.stop runner false)
      | some view => some (db.goTo runner (.applying file rest view pending))
  | .applying file [] view pending => some
      { db.goTo runner (.committed file pending) with schema := view, history := db.history ++ [file.id] }
  | .committed file pending =>
    let applied := db.ledger.getD []
    if file.id ∈ applied then some (db.stop runner false)
    else some { db.goTo runner (.between pending) with ledger := some (applied ++ [file.id]) }
  | .releasing => some (db.stop runner true)
  | .ended _ => none

def step : Event → Option (Deployment Statement Schema)
  | .start => some { db with runners := db.runners ++ [.connected] }
  | .advance runner => match db.runners[runner]? with
      | none => none
      | some phase => db.advance set runner phase
  | .crash runner => match db.runners[runner]? with
      | none | some (.ended _) => none
      | some _ => some (db.stop runner false)

def Idle : Prop := ∀ phase ∈ db.runners, ∃ completed, phase = .ended completed

end Deployment

/-- The runs of `up` on a fresh database. -/
def migrate (set : MigrationSet Statement Schema) : Machine (Deployment Statement Schema) Event :=
  ⟨⟨set.fresh, none, none, [], []⟩, fun db event => db.step set event⟩

/-- **Each migration takes effect at most once, the ledger lists those in effect whenever no run is active,
and a later run that nothing disturbs completes**: every migration is then in effect and listed. -/
structure Lawful (set : MigrationSet Statement Schema) (db : Deployment Statement Schema) : Prop where
  once : db.history.Nodup ∧ ∀ id ∈ db.history, id ∈ set.files.map MigrationFile.id
  listed : db.Idle → db.ledger.getD [] = db.history
  completes : db.Idle → ∃ final, (migrate set).Reaches (fun _ event => event = .advance db.runners.length)
      { db with runners := db.runners ++ [.connected] } final ∧
    final.runners[db.runners.length]? = some (.ended true) ∧ final.ledger =
      some (set.files.map MigrationFile.id) ∧
      final.history = set.files.map MigrationFile.id

/-- No runner stops between a migration's `COMMIT` and its row of the ledger. -/
def Careful (db : Deployment Statement Schema) : Event → Prop
  | .crash runner => ∀ file pending, db.runners[runner]? ≠ some (.committed file pending)
  | _ => True

/-! ### The schema and the ledger -/

/-- What a runner knows of the migrations that committed and of those that are left. -/
def Fits (set : MigrationSet Statement Schema) (ledger : Option (List String)) (schema : Schema)
    (done todo : List (MigrationFile Statement)) : Phase Statement Schema → Prop
  | .waiting => ledger ≠ none
  | .locked => ledger = some (done.map MigrationFile.id)
  | .between pending => pending = todo ∧ ledger = some (done.map MigrationFile.id)
  | .applying file rest view pending => todo = file :: pending ∧ ledger = some (done.map MigrationFile.id) ∧
      executeAll set.execute rest view = executeAll set.execute file.statements schema
  | .committed file pending => pending = todo ∧ ∃ before, done = before ++ [file] ∧
      ledger = some (before.map MigrationFile.id)
  | .releasing => todo = [] ∧ ledger = some (done.map MigrationFile.id)
  | _ => True

/-- The runner is between a `COMMIT` and its row. -/
def Phase.unlisted : Phase Statement Schema → Bool
  | committed .. => true
  | _ => false

/-- **The schema is that of the migrations that committed, in their order; the holder of the lock works, and
no one else.** -/
structure Progress (set : MigrationSet Statement Schema) (db : Deployment Statement Schema)
    (done todo : List (MigrationFile Statement)) : Prop where
  files : set.files = done ++ todo
  history : db.history = done.map MigrationFile.id
  schema : set.after done set.fresh = some db.schema
  fits : ∀ (runner : Nat) phase, db.runners[runner]? = some phase → Fits set db.ledger db.schema done todo phase
  listed : (∀ (runner : Nat) phase, db.runners[runner]? = some phase → phase.unlisted = false) →
    db.ledger.getD [] = done.map MigrationFile.id
  exclusive : ∀ (runner : Nat) phase, db.runners[runner]? = some phase → phase.working = true → db.holder =
    some runner
  held : ∀ runner, db.holder = some runner → ∃ phase, db.runners[runner]? = some phase ∧ phase.working = true

/-- The migrations are split into those that committed and those that are left. -/
def Consistent (set : MigrationSet Statement Schema) (db : Deployment Statement Schema) : Prop :=
  ∃ done todo, Progress set db done todo

section Steps

variable {set : MigrationSet Statement Schema} {db : Deployment Statement Schema}
  {done todo : List (MigrationFile Statement)} {runner : Nat} {phase next : Phase Statement Schema}
variable {file : MigrationFile Statement} {pending : List (MigrationFile Statement)}
  {schema : Schema}
variable {before : List (MigrationFile Statement)} {ledger : Option (List String)}
  {written : Schema}

variable (progress : Progress set db done todo)
include progress

theorem Progress.others_rest (here : db.runners[runner]? = some phase) (working : phase.working = true) :
    ∀ (other : Nat) found, other ≠ runner → db.runners[other]? = some found → found.working = false := by
  refine fun other found apart mem => Bool.eq_false_iff.2 fun works => ?_
  have first := progress.exclusive runner phase here working
  have second := progress.exclusive other found mem works
  exact apart (mem_unique second first)

theorem Progress.rest (free : db.holder = none) :
    ∀ (runner : Nat) phase, db.runners[runner]? = some phase → phase.working = false := by
  refine fun runner phase mem => Bool.eq_false_iff.2 fun works => ?_
  have holds := progress.exclusive runner phase mem works
  rw [free] at holds
  cases holds

theorem Progress.goTo (here : db.runners[runner]? = some phase) (listed : phase.unlisted = false)
    (same : next.working = phase.working) (fits : Fits set db.ledger db.schema done todo next) :
    Progress set (db.goTo runner next) done todo := by
  refine ⟨progress.files, progress.history, progress.schema, fun other found mem => ?_, fun rested => ?_,
    fun other found mem works => ?_, fun other holds => ?_⟩
  · obtain ⟨rfl, rfl⟩ | ⟨-, before⟩ := slot_set_cases mem
    · exact fits
    · exact progress.fits other found before
  · refine progress.listed fun other found mem => ?_
    by_cases this : other = runner
    · subst this
      cases here.symm.trans mem
      exact listed
    · exact rested other found ((slot_set_other this).trans mem)
  · obtain ⟨rfl, rfl⟩ | ⟨-, before⟩ := slot_set_cases mem
    · exact progress.exclusive other phase here (same ▸ works)
    · exact progress.exclusive other found before works
  · obtain ⟨found, mem, works⟩ := progress.held other holds
    by_cases this : other = runner
    · subst this
      cases here.symm.trans mem
      exact ⟨next, slot_set_self here, same.trans works⟩
    · exact ⟨found, (slot_set_other this).trans mem, works⟩

theorem Progress.stop (here : db.runners[runner]? = some phase) (listed : phase.unlisted = false)
    (completed : Bool) : Progress set (db.stop runner completed) done todo := by
  refine ⟨progress.files, progress.history, progress.schema, fun other found mem => ?_, fun rested => ?_,
    fun other found mem works => ?_, fun other holds => ?_⟩
  · obtain ⟨rfl, rfl⟩ | ⟨-, before⟩ := slot_set_cases mem
    · trivial
    · exact progress.fits other found before
  · refine progress.listed fun other found mem => ?_
    by_cases this : other = runner
    · subst this
      cases here.symm.trans mem
      exact listed
    · exact rested other found ((slot_set_other this).trans mem)
  · obtain ⟨rfl, rfl⟩ | ⟨apart, before⟩ := slot_set_cases mem
    · cases works
    · have holds := progress.exclusive other found before works
      have unlike : db.holder ≠ some runner := fun same => apart (mem_unique holds same)
      exact (if_neg unlike).trans holds
  · dsimp only [Deployment.stop] at holds
    split at holds
    · cases holds
    · rename_i unlike
      obtain ⟨found, mem, works⟩ := progress.held other holds
      have apart : other ≠ runner := fun same => unlike (same ▸ holds)
      exact ⟨found, (slot_set_other apart).trans mem, works⟩

omit progress

theorem Progress.replace (here : db.runners[runner]? = some phase)
    (others : ∀ (other : Nat) found, other ≠ runner → db.runners[other]? = some found → found.working = false)
    {holder : Option Nat} {history : List String} {done' todo' : List (MigrationFile Statement)}
    (table : ledger ≠ none) (files : set.files = done' ++ todo') (ran : history = done'.map MigrationFile.id)
    (after : set.after done' set.fresh = some schema)
    (fits : Fits set ledger schema done' todo' next)
    (listed : next.unlisted = false → ledger.getD [] = done'.map MigrationFile.id)
    (holds : holder = if next.working then some runner else none) :
    Progress set ⟨schema, ledger, holder, db.runners.set runner next, history⟩ done' todo' := by
  refine ⟨files, ran, after, fun other found mem => ?_, fun rested => ?_, fun other found mem works => ?_,
    fun other held => ?_⟩
  · obtain ⟨rfl, rfl⟩ | ⟨apart, before⟩ := slot_set_cases mem
    · exact fits
    · have resting := others other found apart before
      cases found with
      | connected | creating | ended => trivial
      | waiting => exact table
      | locked | between | applying | committed | releasing => cases resting
  · exact listed (rested runner next (slot_set_self here))
  · obtain ⟨rfl, rfl⟩ | ⟨apart, before⟩ := slot_set_cases mem
    · rw [holds, if_pos works]
    · exact absurd works (by simp [others other found apart before])
  · rw [holds] at held
    split at held
    · rename_i works
      cases held
      exact ⟨next, slot_set_self here, works⟩
    · cases held

theorem Fits.table (fits : Fits set ledger schema done todo phase) (working : phase.working = true) :
    ledger ≠ none := by
  cases phase with
  | connected | creating | waiting | ended => cases working
  | locked =>
    have listed : ledger = some (done.map MigrationFile.id) := fits
    simp [listed]
  | between pending => simp [fits.2]
  | applying file rest view pending => simp [fits.2.1]
  | committed file pending =>
    obtain ⟨-, before, -, listed⟩ := fits
    simp [listed]
  | releasing => simp [fits.2]

theorem Progress.listed_of_rest (progress : Progress set db done todo)
    (rest : ∀ (runner : Nat) phase, db.runners[runner]? = some phase → phase.working = false) :
    db.ledger.getD [] = done.map MigrationFile.id := by
  refine progress.listed fun runner phase mem => ?_
  have resting := rest runner phase mem
  cases phase with
  | committed => cases resting
  | connected | creating | waiting | locked | between | applying | releasing | ended => rfl

theorem pending_eq (files : set.files = done ++ todo) :
    (set.files.filter fun file => file.id ∉ done.map MigrationFile.id) = todo := by
  have names := set.names
  rw [files, map_append, nodup_append] at names
  rw [files, filter_append, filter_eq_nil_iff.2, nil_append, filter_eq_self.2]
  · intro file mem
    refine decide_eq_true fun listed => ?_
    exact names.2.2 file.id listed file.id (mem_map_of_mem mem) rfl
  · intro file mem
    simpa using ⟨file, mem, rfl⟩

theorem after_append (after : set.after before set.fresh = some schema)
    (ran : executeAll set.execute file.statements schema = some written) :
    set.after (before ++ [file]) set.fresh = some written := by
  unfold MigrationSet.after at after ⊢
  rw [List.foldlM_append, after]
  simpa using ran

theorem Progress.free_of_rest (progress : Progress set db done todo)
    (rest : ∀ (other : Nat) found, db.runners[other]? = some found → found.working = false) :
    db.holder = none := by
  cases holds : db.holder with
  | none => rfl
  | some other =>
    obtain ⟨found, mem, works⟩ := progress.held other holds
    exact absurd works (by simp [rest other found mem])

theorem Progress.unlisted (progress : Progress set db (before ++ [file]) todo) :
    file.id ∉ before.map MigrationFile.id := by
  have names := set.names
  rw [progress.files, map_append, map_append, nodup_append, nodup_append] at names
  exact fun mem => names.1.2.2 file.id mem file.id (by simp) rfl

variable {after : Deployment Statement Schema}

/-- **The next statement of a runner keeps it.** -/
theorem advance_consistent (progress : Progress set db done todo) (here : db.runners[runner]? = some phase)
    (step : db.advance set runner phase = some after) : Consistent set after := by
  have knows := progress.fits runner phase here
  cases phase with
  | connected =>
    dsimp only [Deployment.advance] at step
    split at step <;> cases step
    · exact ⟨done, todo, progress.goTo here rfl rfl trivial⟩
    · rename_i found
      exact ⟨done, todo, progress.goTo here rfl rfl (by simp [Fits, found])⟩
  | creating =>
    dsimp only [Deployment.advance] at step
    split at step <;> cases step
    · rename_i missing
      have rest : ∀ (other : Nat) found, db.runners[other]? = some found → found.working = false :=
        fun other found mem => Bool.eq_false_iff.2 fun works => (progress.fits other found mem).table works
          missing
      have free := progress.free_of_rest rest
      have listed := progress.listed_of_rest rest
      rw [missing] at listed
      exact ⟨done, todo, Progress.replace here (fun other found _ => rest other found) (by simp) progress.files
        progress.history progress.schema (by simp [Fits]) (fun _ => listed) free⟩
    · exact ⟨done, todo, progress.stop here rfl false⟩
  | waiting =>
    dsimp only [Deployment.advance] at step
    split at step <;> cases step
    rename_i free
    have rest := progress.rest free
    have listed := progress.listed_of_rest rest
    have table : db.ledger = some (done.map MigrationFile.id) := by
      obtain ⟨rows, found⟩ := Option.ne_none_iff_exists'.1 knows
      rw [found] at listed ⊢
      exact congrArg some listed
    exact ⟨done, todo, Progress.replace here (fun other found _ => rest other found) knows progress.files
      progress.history progress.schema table (fun _ => listed) rfl⟩
  | locked =>
    cases step
    have listed : db.ledger = some (done.map MigrationFile.id) := knows
    refine ⟨done, todo, progress.goTo here rfl rfl ⟨?_, listed⟩⟩
    rw [listed]
    exact pending_eq progress.files
  | between pending =>
    obtain ⟨rfl, listed⟩ := knows
    cases pending with
    | nil =>
      cases step
      exact ⟨done, _, progress.goTo here rfl rfl ⟨rfl, listed⟩⟩
    | cons file pending =>
      cases step
      exact ⟨done, _, progress.goTo here rfl rfl ⟨rfl, listed, rfl⟩⟩
  | applying file rest view pending =>
    obtain ⟨rfl, listed, view_eq⟩ := knows
    cases rest with
    | nil =>
      cases step
      exact ⟨done ++ [file], pending, Progress.replace here (progress.others_rest here rfl)
        ((progress.fits runner _ here).table rfl) (by simp [progress.files]) (by simp [progress.history])
        (after_append progress.schema view_eq.symm) ⟨rfl, done, rfl, listed⟩
        (fun unlisted => by cases unlisted) (progress.exclusive runner _ here rfl)⟩
    | cons stmt rest =>
      dsimp only [Deployment.advance] at step
      split at step <;> cases step
      · exact ⟨done, _, progress.stop here rfl false⟩
      · rename_i next ran
        refine ⟨done, _, progress.goTo here rfl rfl ⟨rfl, listed, ?_⟩⟩
        rw [← view_eq]
        simp [executeAll, ran]
  | committed file pending =>
    obtain ⟨rfl, before, rfl, listed⟩ := knows
    have unlisted : file.id ∉ db.ledger.getD [] := by
      rw [listed]
      exact progress.unlisted
    dsimp only [Deployment.advance] at step
    rw [if_neg unlisted] at step
    cases step
    exact ⟨before ++ [file], pending, Progress.replace here (progress.others_rest here rfl) (by simp)
      progress.files progress.history progress.schema ⟨rfl, by simp [listed]⟩ (fun _ => by simp [listed])
      (progress.exclusive runner _ here rfl)⟩
  | releasing =>
    cases step
    exact ⟨done, todo, progress.stop here rfl true⟩
  | ended => cases step

theorem Progress.start (progress : Progress set db done todo) :
    Progress set { db with runners := db.runners ++ [.connected] } done todo := by
  refine ⟨progress.files, progress.history, progress.schema, fun other found mem => ?_, fun rested => ?_,
    fun other found mem works => ?_, fun other holds => ?_⟩
  · rcases slot_append_cases mem with before | rfl
    · exact progress.fits other found before
    · trivial
  · exact progress.listed fun other found mem => rested other found (slot_append mem)
  · rcases slot_append_cases mem with before | rfl
    · exact progress.exclusive other found before works
    · cases works
  · obtain ⟨found, mem, works⟩ := progress.held other holds
    exact ⟨found, slot_append mem, works⟩

/-- **Every step keeps the schema and the ledger together, but a crash between a `COMMIT` and its row.** -/
theorem step_consistent {event : Event} (consistent : Consistent set db) (careful : Careful db event)
    (step : db.step set event = some after) : Consistent set after := by
  obtain ⟨done, todo, progress⟩ := consistent
  cases event with
  | start =>
    cases step
    exact ⟨done, todo, progress.start⟩
  | advance runner =>
    dsimp only [Deployment.step] at step
    split at step
    · cases step
    · rename_i phase here
      exact advance_consistent progress here step
  | crash runner =>
    dsimp only [Deployment.step] at step
    split at step
    · cases step
    · cases step
    · rename_i phase _ here
      cases step
      refine ⟨done, todo, progress.stop here ?_ false⟩
      cases phase with
      | committed file pending => exact absurd here (careful file pending)
      | connected | creating | waiting | locked | between | applying | releasing | ended => rfl

/-! ### A run that nothing disturbs -/

def Alone (set : MigrationSet Statement Schema) (runner : Nat) (db next : Deployment Statement Schema) : Prop :=
  (migrate set).Reaches (fun _ event => event = .advance runner) db next

theorem Alone.step {after final : Deployment Statement Schema} (here : db.runners[runner]? = some phase)
    (step : db.advance set runner phase = some after) (onward : Alone set runner after final) :
    Alone set runner db final := by
  have first : (migrate set).step db (.advance runner) = some after := by
    simp only [migrate, Deployment.step, here, step]
  exact Machine.Reaches.trans (.tail .refl rfl first) onward

/-- What the transaction of a script leaves alone until it commits. -/
structure Unwritten (db next : Deployment Statement Schema) : Prop where
  schema : next.schema = db.schema
  ledger : next.ledger = db.ledger
  history : next.history = db.history

theorem apply_statements {rest : List Statement} {view : Schema}
    (here : db.runners[runner]? = some (.applying file rest view pending))
    (ran : executeAll set.execute rest view = some written) :
    ∃ next, Alone set runner db next ∧ next.runners[runner]? = some (.applying file [] written pending) ∧
      Unwritten db next := by
  induction rest generalizing db view with
  | nil =>
    cases ran
    exact ⟨db, .refl, here, rfl, rfl, rfl⟩
  | cons stmt rest ih =>
    obtain ⟨viewed, first, ran⟩ := bind_eq_some_iff.1 ran
    have step : db.advance set runner (.applying file (stmt :: rest) view pending) =
        some (db.goTo runner (.applying file rest viewed pending)) := by
      simp only [Deployment.advance, first]
    have viewing : (db.goTo runner (.applying file rest viewed pending)).runners[runner]? =
        some (.applying file rest viewed pending) := slot_set_self here
    obtain ⟨next, onward, there, unwritten⟩ := ih viewing ran
    exact ⟨next, onward.step here step, there, unwritten.schema, unwritten.ledger, unwritten.history⟩

theorem apply_pending {listed : List String} (here : db.runners[runner]? = some (.between pending))
    (table : db.ledger = some listed) (names : (listed ++ pending.map MigrationFile.id).Nodup)
    (went : set.after pending db.schema = some written) :
    ∃ next, Alone set runner db next ∧ next.runners[runner]? = some (.between []) ∧
      next.ledger = some (listed ++ pending.map MigrationFile.id) ∧
      next.history = db.history ++ pending.map MigrationFile.id := by
  induction pending generalizing db listed with
  | nil => exact ⟨db, .refl, here, by simp [table], by simp⟩
  | cons file pending ih =>
    obtain ⟨middle, first, went⟩ := bind_eq_some_iff.1 went
    have begun : (db.goTo runner (.applying file file.statements db.schema pending)).runners[runner]? =
        some (.applying file file.statements db.schema pending) := slot_set_self here
    obtain ⟨scripted, ran, there, unwritten⟩ := apply_statements begun first
    have ledger : scripted.ledger = some listed := unwritten.ledger.trans table
    have fresh : file.id ∉ scripted.ledger.getD [] := by
      rw [ledger]
      exact fun mem => (nodup_append.1 names).2.2 file.id mem file.id (by simp) rfl
    let published : Deployment Statement Schema :=
      { scripted.goTo runner (.committed file pending) with
        schema := middle, history := scripted.history ++ [file.id] }
    let recorded : Deployment Statement Schema :=
      { published.goTo runner (.between pending) with ledger := some (scripted.ledger.getD [] ++ [file.id]) }
    have commit : scripted.advance set runner (.applying file [] middle pending) = some published := rfl
    have record : published.advance set runner (.committed file pending) = some recorded := if_neg fresh
    have inCommit : published.runners[runner]? = some (.committed file pending) := slot_set_self there
    have inLoop : recorded.runners[runner]? = some (.between pending) := slot_set_self inCommit
    have row : recorded.ledger = some (listed ++ [file.id]) := by simp [recorded, ledger]
    obtain ⟨next, onward, ended, rows, history⟩ := ih inLoop row (by simpa using names) went
    refine ⟨next, ?_, ended, by simp [rows], ?_⟩
    · exact Alone.step here rfl (Machine.Reaches.trans ran ((onward.step inCommit record).step there commit))
    · rw [history]
      simp only [recorded, published, Deployment.goTo, unwritten.history]
      simp

theorem after_todo (progress : Progress set db done todo) : ∃ written, set.after todo db.schema =
    some written := by
  have applies : (set.after set.files set.fresh).isSome := set.applies
  have schema : set.after done set.fresh = some db.schema := progress.schema
  unfold MigrationSet.after at applies schema ⊢
  rw [progress.files, List.foldlM_append, schema] at applies
  exact isSome_iff_exists.1 applies

variable (set) in
theorem ensureLedger (here : db.runners[runner]? = some .connected) :
    ∃ next, Alone set runner db next ∧ next.runners[runner]? = some .waiting ∧
      next.ledger = some (db.ledger.getD []) ∧ next.holder = db.holder ∧ next.schema = db.schema ∧
      next.history = db.history := by
  cases found : db.ledger with
  | some listed =>
    have stepped : db.advance set runner .connected = some (db.goTo runner .waiting) := by
      simp only [Deployment.advance, found]
    exact ⟨_, Alone.step here stepped .refl, slot_set_self here, found, rfl, rfl, rfl⟩
  | none =>
    have missing : db.advance set runner .connected = some (db.goTo runner .creating) := by
      simp only [Deployment.advance, found]
    have creates : (db.goTo runner .creating).runners[runner]? = some .creating := slot_set_self here
    have absent : (db.goTo runner .creating).ledger = none := found
    have created : (db.goTo runner .creating).advance set runner .creating =
        some { (db.goTo runner .creating).goTo runner .waiting with ledger := some [] } := by
      simp only [Deployment.advance, absent]
    exact ⟨_, Alone.step here missing (Alone.step creates created .refl), slot_set_self creates, rfl, rfl,
      rfl, rfl⟩

/-- **A run that nothing disturbs applies what is left**, from any state in which no run is active. -/
theorem up_completes (progress : Progress set db done todo) (idle : db.Idle) :
    ∃ final, Alone set db.runners.length { db with runners := db.runners ++ [.connected] } final ∧
      final.runners[db.runners.length]? = some (.ended true) ∧
      final.ledger = some (set.files.map MigrationFile.id) ∧
      final.history = set.files.map MigrationFile.id := by
  have rest : ∀ (other : Nat) found, db.runners[other]? = some found → found.working = false := by
    intro other found mem
    obtain ⟨completed, rfl⟩ := idle found (mem_of_getElem? mem)
    rfl
  have free : db.holder = none := by
    cases holds : db.holder with
    | none => rfl
    | some other =>
      obtain ⟨found, mem, works⟩ := progress.held other holds
      exact absurd works (by simp [rest other found mem])
  have listed := progress.listed_of_rest rest
  have connected : ({ db with runners := db.runners ++ [.connected] } : Deployment Statement Schema).runners[
      db.runners.length]? = some .connected := List.getElem?_concat_length
  obtain ⟨queued, ensured, waits, table, holder, schema, history⟩ := ensureLedger set connected
  have table : queued.ledger = some (done.map MigrationFile.id) := table.trans (congrArg some listed)
  have locks : queued.advance set db.runners.length .waiting =
      some { queued.goTo db.runners.length .locked with holder := some db.runners.length } := by
    simp only [Deployment.advance, holder.trans free]
  let locked : Deployment Statement Schema :=
    { queued.goTo db.runners.length .locked with holder := some db.runners.length }
  have inLock : locked.runners[db.runners.length]? = some .locked := slot_set_self waits
  have reads : locked.advance set db.runners.length .locked =
      some (locked.goTo db.runners.length (.between todo)) := by
    have same : locked.ledger.getD [] = done.map MigrationFile.id := by
      simp [locked, Deployment.goTo, table]
    simp only [Deployment.advance, same, pending_eq progress.files]
  have inLoop : (locked.goTo db.runners.length (.between todo)).runners[db.runners.length]? =
      some (.between todo) :=
    slot_set_self inLock
  have names : (done.map MigrationFile.id ++ todo.map MigrationFile.id).Nodup := by
    rw [← map_append, ← progress.files]
    exact set.names
  obtain ⟨written, ran⟩ := after_todo progress
  have remaining : set.after todo (locked.goTo db.runners.length (.between todo)).schema = some written :=
    schema.symm ▸ ran
  obtain ⟨applied, looped, ended, rows, kept⟩ := apply_pending inLoop table names remaining
  have releases : applied.advance set db.runners.length (.between []) =
      some (applied.goTo db.runners.length .releasing) := rfl
  have releasing : (applied.goTo db.runners.length .releasing).runners[db.runners.length]? = some .releasing :=
    slot_set_self ended
  have released : Alone set db.runners.length applied ((applied.goTo db.runners.length .releasing).stop
    db.runners.length true) := Alone.step ended releases (Alone.step releasing rfl .refl)
  refine ⟨_, Machine.Reaches.trans ensured (Alone.step waits locks (Alone.step inLock reads
    (Machine.Reaches.trans looped released))), slot_set_self releasing, ?_, ?_⟩
  · rw [progress.files, map_append]
    exact rows
  · rw [progress.files, map_append]
    refine Eq.trans kept ?_
    exact congrArg (· ++ todo.map MigrationFile.id) (history.trans progress.history)

end Steps

/-! ### Every run -/

theorem Consistent.lawful {set : MigrationSet Statement Schema} {db : Deployment Statement Schema}
    (consistent : Consistent set db) : Lawful set db := by
  obtain ⟨done, todo, progress⟩ := consistent
  have names := set.names
  rw [progress.files, map_append] at names
  refine ⟨⟨?_, fun id mem => ?_⟩, fun idle => ?_, fun idle => up_completes progress idle⟩
  · rw [progress.history]
    exact (nodup_append.1 names).1
  · rw [progress.history] at mem
    rw [progress.files, map_append]
    exact mem_append_left _ mem
  · rw [progress.history]
    refine progress.listed_of_rest fun other found mem => ?_
    obtain ⟨completed, rfl⟩ := idle found (mem_of_getElem? mem)
    rfl

theorem consistent_start (set : MigrationSet Statement Schema) : Consistent set (migrate set).start := by
  refine ⟨[], set.files, rfl, rfl, rfl, fun runner phase mem => ?_, fun _ => rfl, fun runner phase mem => ?_,
    fun runner holds => ?_⟩
  · cases mem
  · cases mem
  · cases holds

/-- **Over any run in which no runner stops between a `COMMIT` and its row of the ledger, each migration
takes effect at most once, the ledger lists those in effect whenever no run is active, and a later run
completes.** -/
theorem migrations_applied {set : MigrationSet Statement Schema} {db : Deployment Statement Schema}
    (reaches : (migrate set).Reaches Careful (migrate set).start db) : Lawful set db := by
  have consistent : Consistent set db :=
    @Machine.Reaches.invariant _ _ _ _ _ _ (Consistent set) reaches (consistent_start set)
      fun before event after consistent careful step => step_consistent consistent careful step
  exact consistent.lawful

end Model

/-! ### A script of the repository -/

section Samples

/-- `CREATE … IF NOT EXISTS`, and the plain `CREATE TRIGGER` and `CREATE POLICY`. -/
inductive Ddl where
  | createIfNotExists (object : String)
  | create (object : String)

/-- A plain `CREATE` fails where the object is there. -/
def Ddl.execute (objects : List String) : Ddl → Option (List String)
  | createIfNotExists object => some (if object ∈ objects then objects else object :: objects)
  | create object => if object ∈ objects then none else some (object :: objects)

/-- `0002_shifts.sql`, alone. -/
def shiftsSet : MigrationSet Ddl (List String) where
  execute statement objects := statement.execute objects
  fresh := []
  files := [⟨"0002_shifts", [.createIfNotExists "shifts", .create "shifts_set_updated_at",
    .createIfNotExists "shifts_tenant_store_state_idx", .create "shifts_tenant_isolation"]⟩]
  names := by simp
  applies := by decide

/-- A runner stops after the script's `COMMIT`: the migration is in effect and the ledger does not list it. -/
theorem ledger_behind :
    ¬
      ∀ (set : MigrationSet Ddl (List String)) (db : Deployment Ddl (List String)), (migrate set).Reachable
      db → Lawful set db := by
  intro law
  have ran : ((migrate shiftsSet).run (migrate shiftsSet).start
      (.start :: (List.replicate 10 (.advance 0) ++ [.crash 0]))).any (fun db =>
        db.runners.all (fun phase => match phase with
          | .ended _ => true
          | _ => false) && db.ledger.getD [] ≠ db.history) = true := by
    decide +kernel
  obtain ⟨db, reached, behind⟩ := (any_eq_true _ _).1 ran
  simp only [and_eq_true, all_eq_true, decide_eq_true_eq] at behind
  refine behind.2 ((law shiftsSet db (Machine.run_later reached)).listed fun phase mem => ?_)
  have rested := behind.1 phase mem
  cases phase with
  | ended completed => exact ⟨completed, rfl⟩
  | connected | creating | waiting | locked | between | applying | committed | releasing => cases rested

theorem careful_iff {db : Deployment Ddl (List String)} {runner : Nat} :
    (db.runners[runner]?).any Phase.unlisted = false ↔ Careful db (.crash runner) := by
  change _ ↔ ∀ file pending, db.runners[runner]? ≠ some (.committed file pending)
  generalize db.runners[runner]? = found
  cases found with
  | none => simp
  | some phase => cases phase <;> simp [Phase.unlisted]

instance (db : Deployment Ddl (List String)) : (event : Event) → Decidable (Careful db event)
  | .start | .advance _ => .isTrue trivial
  | .crash _ => decidable_of_iff _ careful_iff

theorem migrations_applied_sample :
    ∃ db, (migrate shiftsSet).run (migrate shiftsSet).start
      (.start :: (List.replicate 7 (.advance 0) ++ [.crash 0, .start])) = some db ∧ Lawful shiftsSet db := by
  have ran : ((migrate shiftsSet).run (migrate shiftsSet).start
      (.start :: (List.replicate 7 (.advance 0) ++ [.crash 0, .start]))).any (fun _ => true) = true := by
    decide +kernel
  obtain ⟨db, reached, -⟩ := (any_eq_true _ _).1 ran
  exact ⟨db, reached, migrations_applied (Machine.run_reaches reached (by decide +kernel))⟩

end Samples

end DataPulse.Migrations
