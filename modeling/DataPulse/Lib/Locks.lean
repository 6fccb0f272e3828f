/-
**What an open transaction holds until it commits.**

A write of an open transaction blocks every statement of another client that would write something it
clashes with. So between a statement of a client and the commit of that client nobody else commits such a
write, and what the statement found is still there.
-/

import DataPulse.Lib.Interleave
import Mathlib.Data.List.Induction
import Mathlib.Data.List.Pairwise

namespace DataPulse.Lib.Interleave

section Locks

variable {Stmt : Type} {Reply : Stmt → Type} {Id Err Fault Write Call Value : Type}
variable {system : System Stmt Reply Id Err Fault Write Call Value}
variable {config config' : Config Stmt Reply Id Err Fault Write Call Value}
variable {proc : Proc Stmt Reply Id Err Fault Write Call Value}
variable {commits : List (Nat × List Write)} {log : List (Entry Stmt Reply Id Fault Write)}
variable {second first : List (Entry Stmt Reply Id Fault Write)}
  {proc' : Proc Stmt Reply Id Err Fault Write Call Value}
variable {before after : List (Nat × List Write)} {writes : List Write}
  {next : α → Prog Stmt Reply Id Err β} {program : Prog Stmt Reply Id Err α} {statement : Stmt}
  {pid : Nat} {reply : Reply statement}

/-! ### Locks -/

/-- No commit since a statement of the log ran clashes with what that statement wrote. -/
def Held (system : System Stmt Reply Id Err Fault Write Call Value) (commits : List (Nat × List Write))
    (log : List (Entry Stmt Reply Id Fault Write)) : Prop :=
  ∀ statement seen reply writes, Entry.answered statement seen (.ok (reply, writes)) ∈ log →
    ∀ first ∈ contents (commits.drop seen), ∀ second ∈ writes, system.clash first second = false

/-- What open transactions wrote is locked against the commits and against each other. -/
structure Locked (system : System Stmt Reply Id Err Fault Write Call Value)
    (config : Config Stmt Reply Id Err Fault Write Call Value) : Prop where
  held : ∀ proc ∈ config.procs, proc.live = true → Held system config.commits proc.log
  apart : ∀ (one two : Nat) (proc proc' : Proc Stmt Reply Id Err Fault Write Call Value),
    config.procs[one]? = some proc → config.procs[two]? = some proc' → one ≠ two →
      proc.live = true → proc'.live = true →
        ∀ first ∈ written proc.log, ∀ second ∈ written proc'.log, system.clash first second = false

theorem mem_written {write : Write} (mem : write ∈ written log) :
    ∃ statement seen reply writes, Entry.answered statement seen (.ok (reply, writes)) ∈ log ∧
      write ∈ writes := by
  obtain ⟨entry, inLog, inside⟩ := mem_flatMap.1 mem
  match entry with
  | .answered statement seen (.ok (reply, writes)) => exact ⟨_, _, _, _, inLog, inside⟩
  | .answered statement seen (.error fault) => cases inside
  | .drew id => cases inside

theorem Held.answer {statement : Stmt} {answer : Except Fault (Reply statement × List Write)}
    (held : Held system commits log) :
    Held system commits (log ++ [.answered statement commits.length answer]) := by
  intro statement' seen reply writes mem
  rcases mem_append.1 mem with old | new
  · exact held statement' seen reply writes old
  · cases mem_singleton.1 new
    intro first since
    rw [List.drop_length] at since
    cases since

theorem Held.draw {id : Id} (held : Held system commits log) : Held system commits (log ++ [.drew id]) := by
  intro statement seen reply writes mem
  rcases mem_append.1 mem with old | new
  · exact held statement seen reply writes old
  · cases mem_singleton.1 new

theorem Locked.runs [DecidableEq Id]
    (symm : ∀ first second, system.clash first second = system.clash second first)
    (locked : Locked system config) (found : config.procs[pid]? = some proc)
    (ran : Runs system config pid proc proc') : Locked system (config.put pid proc') := by
  refine ⟨fun other mem live => ?_, ran.unclashing symm locked.apart found⟩
  rcases mem_or_eq_of_mem_set mem with old | rfl
  · exact locked.held other old live
  have held := locked.held proc (mem_of_getElem? found) (ran.live live)
  cases ran with
  | draw rest new => exact held.draw
  | answer rest given => exact held.answer

theorem Locked.conclude (locked : Locked system config) {result : Except Err Value}
    (found : config.procs[pid]? = some proc) (running : proc.result = none) :
    Locked system (config.conclude pid proc result) := by
  refine ⟨fun other mem live' => ?_, Unclashing.conclude locked.apart found⟩
  obtain ⟨index, known⟩ := mem_iff_getElem?.1 mem
  rcases (getElem?_put found).1 known with ⟨-, rfl⟩ | ⟨unlike, old⟩
  · exact absurd live' live_concluded
  have held := locked.held other (mem_of_getElem? old) live'
  rcases config.conclude_commits pid proc result with same | ⟨-, sound, more⟩
  · rwa [same]
  · have live : proc.live = true := by
      simp [Proc.live, running, sound]
    intro statement seen reply writes answered first since second wrote
    rw [more, List.drop_append, contents, flatMap_append] at since
    rcases mem_append.1 since with before | new
    · exact held statement seen reply writes answered first before second wrote
    · -- the new commit is of an open transaction, whose writes clash with no other's
      obtain ⟨commit, inDrop, inside⟩ := mem_flatMap.1 new
      rw [mem_singleton.1 (List.mem_of_mem_drop inDrop)] at inside
      have mine : second ∈ written other.log := mem_flatMap.2 ⟨_, answered, wrote⟩
      exact locked.apart pid index proc other found old (Ne.symm unlike) live live' first inside second mine

/-- **What open transactions wrote is locked.** -/
theorem Reachable.locked [DecidableEq Id]
    (symm : ∀ first second, system.clash first second = system.clash second first)
    (reach : Reachable system config) : Locked system config := by
  induction reach with
  | empty =>
    refine ⟨fun _ mem => ?_, fun _ _ _ _ found => ?_⟩
    · cases mem
    · cases found
  | @step config config' event before next ih =>
    rcases step_cases system next with
      ⟨call, rfl, rfl⟩ | ⟨pid, proc, found, running, ⟨proc', ran, rfl⟩ | ⟨result, -, rfl⟩⟩
    · refine ⟨fun other mem live => ?_, Reachable.unclashing symm (before.step next)⟩
      rcases mem_append.1 mem with old | new
      · exact ih.held other old live
      · rw [mem_singleton.1 new]
        intro statement seen reply writes none
        cases none
    · exact ih.runs symm found ran
    · exact ih.conclude found running

/-- **What holds of every open transaction holds of a committed one when it commits.** -/
theorem Reachable.atCommit [DecidableEq Id]
    (holds : List (Nat × List Write) → Proc Stmt Reply Id Err Fault Write Call Value → Prop)
    (always : ∀ config, Reachable system config →
        ∀ proc ∈ config.procs, proc.live = true → holds config.commits proc)
    (ending : ∀ commits proc result, holds commits proc → holds commits { proc with result := result })
    (reach : Reachable system config) (commits : config.commits = before ++ (pid, writes) :: after)
    (found : config.procs[pid]? = some proc) : holds before proc := by
  induction reach generalizing after proc with
  | empty => simp [Config.empty] at commits
  | @step config config' event prior next ih =>
    have old : ∀ after, config.commits = before ++ (pid, writes) :: after → holds before proc := by
      intro after commits
      obtain ⟨known, value, there, gave, -⟩ :=
        prior.booked.committed pid writes (commits ▸ mem_append_right _ mem_cons_self)
      obtain rfl := Option.some.inj (found.symm.trans (step_keeps there gave next))
      exact ih commits there
    rcases step_cases system next with
      ⟨call, rfl, rfl⟩ | ⟨other, proc', known, running, ⟨proc'', -, rfl⟩ | ⟨result, -, same⟩⟩
    · exact old after commits
    · exact old after commits
    rcases config.conclude_commits other proc' result with unchanged | ⟨-, sound, more⟩
    · exact old after (by rw [← commits, same, unchanged])
    rw [same, more] at commits
    rcases List.eq_nil_or_concat after with rfl | ⟨after, last, rfl⟩
    · obtain ⟨rfl, single⟩ := List.append_inj' commits rfl
      cases single
      have mine : config'.procs[pid]? = some { proc' with result := some result } := by
        rw [same]
        exact (getElem?_put known).2 (.inl ⟨rfl, rfl⟩)
      have live : proc'.live = true := by
        simp [Proc.live, running, sound]
      rw [mem_unique found mine]
      exact ending _ _ _ (always config prior proc' (mem_of_getElem? known) live)
    · rw [List.concat_eq_append, ← cons_append, ← append_assoc] at commits
      exact old after (List.append_inj' commits rfl).1

/-- **Since a statement of a committed client ran, no commit clashes with what it wrote.** -/
theorem Reachable.held [DecidableEq Id]
    (symm : ∀ first second, system.clash first second = system.clash second first)
    (reach : Reachable system config) (commits : config.commits = before ++ (pid, writes) :: after)
    (found : config.procs[pid]? = some proc) : Held system before proc.log :=
  reach.atCommit (fun commits proc => Held system commits proc.log)
    (fun _ reach => (reach.locked symm).held) (fun _ _ _ held => held) commits found

/-! ### The order in which a client sees the commits -/

/-- When the statement of an entry ran. -/
def Entry.seen : Entry Stmt Reply Id Fault Write → Option Nat
  | drew _ => none
  | answered _ seen _ => some seen

/-- When the statements of a log ran. -/
def seens (log : List (Entry Stmt Reply Id Fault Write)) : List Nat := log.filterMap Entry.seen

theorem mem_seens {seen : Nat} {answer : Except Fault (Reply statement × List Write)}
    (mem : Entry.answered statement seen answer ∈ log) : seen ∈ seens log :=
  mem_filterMap.2 ⟨_, mem, rfl⟩

theorem seens_append (first second : List (Entry Stmt Reply Id Fault Write)) :
    seens (first ++ second) = seens first ++ seens second := filterMap_append

@[simp] theorem seens_drew (id : Id) : seens (log ++ [.drew id]) = seens log :=
  (seens_append _ _).trans (append_nil _)

def Ordered (log : List (Entry Stmt Reply Id Fault Write)) : Prop := (seens log).Pairwise (· ≤ ·)

theorem Ordered.right (ordered : Ordered (first ++ second)) : Ordered second := by
  unfold Ordered at ordered
  rw [seens_append] at ordered
  exact (pairwise_append.1 ordered).2.1

theorem Ordered.across (ordered : Ordered (first ++ second)) {early late : Nat} (inOne : early ∈ seens first)
    (inTwo : late ∈ seens second) : early ≤ late := by
  unfold Ordered at ordered
  rw [seens_append] at ordered
  exact (pairwise_append.1 ordered).2.2 early inOne late inTwo

/-- **The statements of a client see the commits in their order.** -/
theorem Reachable.ordered [DecidableEq Id] (reach : Reachable system config) :
    ∀ proc ∈ config.procs, Ordered proc.log ∧ ∀ seen ∈ seens proc.log, seen ≤ config.commits.length := by
  refine reach.each (fun commits proc => Ordered proc.log ∧
      ∀ seen ∈ seens proc.log, seen ≤ commits.length)
    (fun _ _ => ⟨List.Pairwise.nil, fun _ none => by cases none⟩)
    (fun config proc proc' invariant _ ran => ?_) (fun _ _ _ invariant _ => invariant)
    (fun commits more proc invariant => ⟨invariant.1, fun seen mem => ?_⟩)
  · obtain ⟨ordered, early⟩ := invariant
    unfold Ordered at ordered ⊢
    cases ran with
    | draw rest new =>
      simp only [seens_drew]
      exact ⟨ordered, early⟩
    | answer rest given =>
      show (seens (proc.log ++ _)).Pairwise _ ∧ ∀ seen ∈ seens (proc.log ++ _), _
      rw [seens_append]
      refine ⟨pairwise_append.2 ⟨ordered, pairwise_singleton _ _, ?_⟩, ?_⟩
      · intro first old second new
        rw [mem_singleton.1 new]
        exact early first old
      · intro seen mem
        rcases mem_append.1 mem with old | new
        · exact early seen old
        · exact Nat.le_of_eq (mem_singleton.1 new)
  · rw [length_append]
    exact Nat.le_trans (invariant.2 seen mem) (Nat.le_add_right _ _)

/-- **A client that begins later sees what was committed.** -/
theorem Later.sees [DecidableEq Id] (later : Later system config config') :
    ∀ pid proc, config.procs.length ≤ pid → config'.procs[pid]? = some proc →
      ∀ seen ∈ seens proc.log, config.commits.length ≤ seen := by
  induction later with
  | refl =>
    intro pid proc late found
    rw [List.getElem?_eq_none late] at found
    cases found
  | @tail middle config' before next ih =>
    obtain ⟨event, next⟩ := next
    obtain ⟨more, grown⟩ := Later.commits system before
    intro pid proc late found
    rcases step_cases system next with
      ⟨call, rfl, rfl⟩ | ⟨other, proc', known, running, ⟨proc'', ran, rfl⟩ | ⟨result, -, rfl⟩⟩
    · rcases getElem?_begin.1 found with old | ⟨-, rfl⟩
      · exact ih pid proc late old
      · intro seen none
        cases none
    · rcases (getElem?_put known).1 found with ⟨rfl, rfl⟩ | ⟨-, old⟩
      · have before := ih pid proc' late known
        cases ran with
        | draw rest new =>
          simp only [seens_drew]
          exact before
        | answer rest given =>
          show ∀ seen ∈ seens (proc'.log ++ _), _
          rw [seens_append]
          intro seen mem
          rcases mem_append.1 mem with old | new
          · exact before seen old
          · rw [mem_singleton.1 new, grown, length_append]
            exact Nat.le_add_right _ _
      · exact ih pid proc late old
    · rcases (getElem?_put known).1 found with ⟨rfl, rfl⟩ | ⟨-, old⟩
      · exact ih pid proc' late known
      · exact ih pid proc late old

/-- **A client after a step** has just begun, or is one that was there, which saw what is committed if it
was answered. -/
theorem step_proc [DecidableEq Id] {event : Event Id Fault Call}
    (next : step system config event = some config') (mem : proc ∈ config'.procs) :
    (∃ call, event = .start call ∧ proc = Proc.start system call) ∨
      ∃ prior ∈ config.procs, proc.call = prior.call ∧
      ∀ seen ∈ seens proc.log, seen ∈ seens prior.log ∨ seen = config.commits.length := by
  have itself : proc ∈ config.procs → ∃ prior ∈ config.procs, proc.call = prior.call ∧
        ∀ seen ∈ seens proc.log, seen ∈ seens prior.log ∨ seen = config.commits.length :=
    fun old => ⟨proc, old, rfl, fun _ inside => .inl inside⟩
  rcases step_cases system next with
    ⟨call, rfl, rfl⟩ | ⟨pid, prior, found, running, ⟨proc', ran, rfl⟩ | ⟨result, -, rfl⟩⟩
  · rcases mem_append.1 mem with old | new
    · exact .inr (itself old)
    · exact .inl ⟨call, rfl, mem_singleton.1 new⟩
  · rcases mem_or_eq_of_mem_set mem with old | rfl
    · exact .inr (itself old)
    · refine .inr ⟨prior, mem_of_getElem? found, ?_⟩
      cases ran with
      | draw rest new =>
        refine ⟨rfl, fun seen inside => .inl ?_⟩
        rwa [seens_drew] at inside
      | answer rest given =>
        refine ⟨rfl, fun seen inside => ?_⟩
        rw [seens_append] at inside
        rcases mem_append.1 inside with old | new
        · exact .inl old
        · exact .inr (mem_singleton.1 new)
  · rcases mem_or_eq_of_mem_set mem with old | rfl
    · exact .inr (itself old)
    · exact .inr ⟨prior, mem_of_getElem? found, rfl, fun _ inside => .inl inside⟩

/-! ### Fewer clashes -/

/-- **What can be reached with more clashes can be reached with fewer.** -/
theorem Reachable.weaken [DecidableEq Id] {collide : Write → Write → Bool}
    (fewer : ∀ first second, collide first second = true → system.clash first second = true)
    (reach : Reachable system config) : Reachable { system with clash := collide } config := by
  have passes : ∀ (config : Config Stmt Reply Id Err Fault Write Call Value) pid writes,
      config.blocked system pid
      writes = false → config.blocked { system with clash := collide } pid writes = false := by
    intro config pid writes free
    by_contra waits
    rw [not_eq_false] at waits
    obtain ⟨⟨other, index⟩, mem, holds⟩ := List.any_eq_true.1 waits
    rw [and_eq_true, and_eq_true] at holds
    obtain ⟨⟨unlike, live⟩, pending⟩ := holds
    obtain ⟨first, inOther, clashing⟩ := List.any_eq_true.1 pending
    obtain ⟨second, inWrites, collides⟩ := List.any_eq_true.1 clashing
    have free := Config.unblocked free (List.mem_zipIdx_iff_getElem?.1 mem)
      (of_decide_eq_true unlike) live first inOther second inWrites
    rw [fewer first second collides] at free
    cases free
  have serves : ∀ (config : Config Stmt Reply Id Err Fault Write Call Value) pid proc statement answer,
      config.serve system pid proc statement = some answer →
        config.serve { system with clash := collide } pid proc statement = some answer := by
    intro config pid proc statement answer served
    unfold Config.serve at served ⊢
    split at served
    · rename_i failed
      rw [if_pos failed]
      exact served
    · rename_i sound
      rw [if_neg sound]
      split at served
      · rename_i reply writes ran
        split_ifs at served with waits
        simp only [ran, passes config pid writes (by simpa using waits), served]
        simp
      · rename_i fault ran
        simp only [ran, served]
  induction reach with
  | empty => exact .empty
  | @step config config' event before next ih =>
    suffices again : Interleave.step ({ system with clash := collide } :
        System Stmt Reply Id Err Fault Write Call Value) config event = some config' from
      .step ih again
    cases event with
    | ask pid =>
      obtain ⟨proc, found, next⟩ := bind_eq_some_iff.1 next
      refine bind_eq_some_iff.2 ⟨proc, found, ?_⟩
      obtain ⟨proc', replied, rfl⟩ := map_eq_some_iff.1 next
      refine map_eq_some_iff.2 ⟨proc', ?_, rfl⟩
      unfold Proc.reply at replied ⊢
      split at replied
      · rename_i statement next rest running
        obtain ⟨answer, served, same⟩ := map_eq_some_iff.1 replied
        exact map_eq_some_iff.2 ⟨answer, serves _ _ _ _ _ served, same⟩
      · cases replied
    | start call | draw pid id | outage pid fault | stop pid outage => exact next

/-- **Of writes that do not clash, two that would are one.** -/
theorem eq_of_clash {Write : Type} {clash : Write → Write → Bool}
    (symm : ∀ first second, clash first second = clash second first) {writes : List Write}
    (free : writes.Pairwise fun first second => clash first second = false) {first second : Write}
    (one : first ∈ writes) (two : second ∈ writes) (clashes : clash first second = true) : first = second := by
  have symmetric : Std.Symm fun first second => clash first second = false :=
    ⟨fun first second apart => (symm second first).trans apart⟩
  by_contra unlike
  have apart := free.forall one two unlike
  simp [clashes] at apart

/-! ### Checks of statements -/

/-- The statement of the entry succeeded only if the check accepts it: what was committed when it ran,
the statement, and what it wrote. -/
def Entry.passes (check : List Write → Stmt → List Write → Bool) (commits : List (Nat × List Write)) :
    Entry Stmt Reply Id Fault Write → Bool
  | answered statement seen (.ok (_, writes)) =>
    check (contents (commits.take seen)) statement writes
  | _ => true

/-- Every statement of a committed transaction was accepted by the check. -/
def Passes (check : List Write → Stmt → List Write → Bool)
    (config : Config Stmt Reply Id Err Fault Write Call Value) : Bool :=
  config.commits.all fun commit => (config.procs[commit.1]?).all fun proc =>
    proc.log.all fun entry => entry.passes check config.commits

theorem Passes.entry {check : List Write → Stmt → List Write → Bool} (passes : Passes check config = true)
    {kept : List Write} (commits : config.commits = before ++ (pid, kept) :: after)
    (found : config.procs[pid]? = some proc) {seen : Nat}
    (answered : Entry.answered statement seen (.ok (reply, writes)) ∈ proc.log)
    (early : seen ≤ before.length) : check (contents (before.take seen)) statement writes = true := by
  have mem : (pid, kept) ∈ config.commits := by
    rw [commits]
    exact mem_append_right _ mem_cons_self
  have taken := all_eq_true.1 passes _ mem
  rw [found] at taken
  have passed : check (contents (config.commits.take seen)) statement writes = true :=
    all_eq_true.1 taken _ answered
  rwa [commits, List.take_append_of_le_length early] at passed

/-! ### The commits one after the other -/

/-- **What every element keeps holds of a list, up to each element.** -/
theorem prefix_induction {α : Type} {list : List α} (invariant : List α → Prop) (start : invariant [])
    (step : ∀ before last after, list = before ++ last :: after → invariant before →
      invariant (before ++ [last])) : ∀ before after, list = before ++ after → invariant before := by
  intro before
  induction before using List.reverseRecOn with
  | nil => exact fun _ _ => start
  | append_singleton before last ih =>
    intro after split
    rw [append_assoc] at split
    exact step before last after split (ih _ split)

theorem contents_append (first second : List (Nat × List Write)) :
    contents (first ++ second) = contents first ++ contents second := flatMap_append

@[simp] theorem contents_cons (pid : Nat) (writes : List Write) (rest : List (Nat × List Write)) :
    contents ((pid, writes) :: rest) = writes ++ contents rest := rfl

@[simp] theorem contents_nil : contents ([] : List (Nat × List Write)) = [] := rfl

theorem contents_at {commits : List (Nat × List Write)} {before after : List Write} {write : Write}
    (contained : contents commits = before ++ write :: after) :
    ∃ prior pid early late later, commits = prior ++ (pid, early ++ write :: late) :: later ∧
      before = contents prior ++ early := by
  induction commits generalizing before with
  | nil => simp at contained
  | cons commit rest ih =>
    obtain ⟨pid, writes⟩ := commit
    rw [contents_cons] at contained
    rcases List.append_eq_append_iff.1 contained with ⟨more, rfl, tail⟩ | ⟨more, rfl, tail⟩
    · obtain ⟨prior, other, early, late, later, rfl, rfl⟩ := ih tail
      exact ⟨(pid, writes) :: prior, other, early, late, later, rfl, (append_assoc _ _ _).symm⟩
    · cases more with
      | nil =>
        obtain ⟨prior, other, early, late, later, rfl, empty⟩ := @ih [] tail.symm
        refine ⟨(pid, before ++ []) :: prior, other, early, late, later, rfl, ?_⟩
        rw [contents_cons, append_assoc, ← empty, append_nil, append_nil]
      | cons first more =>
        obtain ⟨rfl, rfl⟩ := List.cons.inj tail
        exact ⟨[], pid, before, more, rest, rfl, rfl⟩

/-! ### Calls that run by themselves -/

variable {call : Call} {own : List Write} {α β : Type}

/-- The program completes, and nothing is committed while it runs. -/
structure Alone (system : System Stmt Reply Id Err Fault Write Call Value)
    (commits : List (Nat × List Write)) (call : Call) (own : List Write)
    (program : Prog Stmt Reply Id Err α) (log : List (Entry Stmt Reply Id Fault Write)) (value : α) :
    Prop extends Completes system commits call own program log value where
  now : ∀ seen ∈ seens log, seen = commits.length

theorem alone_done (value : α) : Alone system commits call own (.done value) [] value :=
  ⟨⟨.refl _, trivial, rfl⟩, fun _ none => by cases none⟩

theorem alone_query (ran : system.exec call (contents commits ++ own) statement = .ok (reply, writes)) :
    Alone system commits call own (Prog.query statement)
      [.answered statement commits.length (.ok (reply, writes))] reply := by
  refine ⟨⟨.answer (.refl _), ⟨⟨rfl, Nat.le_refl _, ?_⟩, trivial⟩, rfl⟩, fun seen mem => ?_⟩
  · rw [take_length]
    exact ran
  · exact mem_singleton.1 mem

theorem Leads.bind {program : Prog Stmt Reply Id Err α} {rest : Prog Stmt Reply Id Err α}
    {next : α → Prog Stmt Reply Id Err β} (leads : Leads system program log rest) :
    Leads system (program.bind next) log (rest.bind next) := by
  induction leads with
  | refl program => exact .refl _
  | draw _ ih => exact .draw ih
  | answer _ ih => exact .answer ih

theorem alone_bind {program : Prog Stmt Reply Id Err α} {next : α → Prog Stmt Reply Id Err β}
    {first second : List (Entry Stmt Reply Id Fault Write)} {value : α} {result : β}
    (before : Alone system commits call own program first value)
    (after : Alone system commits call (own ++ written first) (next value) second result) :
    Alone system commits call own (program.bind next) (first ++ second) result := by
  have leads : Leads system (program.bind next) first (next value) := before.returns.bind
  refine ⟨⟨leads.trans after.returns, answers_append.2 ⟨before.answers, ?_⟩, ?_⟩, fun seen mem => ?_⟩
  · rw [before.sound]
    exact after.answers
  · rw [aborted_append, before.sound, after.sound]
    rfl
  · rw [seens_append] at mem
    rcases mem_append.1 mem with early | late
    · exact before.now seen early
    · exact after.now seen late

end Locks

end DataPulse.Lib.Interleave
