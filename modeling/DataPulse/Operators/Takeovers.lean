/-
**One operator at a device.**

A sign-in looks for a live session of its device and store before it inserts its own, and a takeover
supersedes the live ones first; a takeover reserves its event id, and a replay is answered with the session
that was attached to it. Nothing holds these statements together, so what they are for is kept only by
runs in which requests do not come between each other's.
-/

import DataPulse.Operators.Requests

namespace DataPulse.Operators

open Lib Lib.Autocommit Lib.Prog Platform
open Auth (AuthToken)

/-! ### What the requests are for -/

def created (entry : LogEntry) : List OperatorToken := entry.writes.filterMap Write.insertedToken

def reservedEvent : LogEntry → Option EventKey
  | .answered (.insertTakeoverKey row) _ _ => some row.toEventKey
  | _ => none

def eventOf (pid : Nat) (history : List Step) : Option EventKey :=
  (logOf pid history).findSome? reservedEvent

/-- A look at the sessions of a device: a sign-in's check, or the revocation of a takeover. -/
def isLook : LogEntry → Bool
  | .answered (.activeOperatorSessionExists _ _) _ _ => true
  | .answered (.revokeActiveOperatorSession _ _) _ _ => true
  | _ => false

def sinceLook (pid : Nat) (history : List Step) : List Step :=
  history.dropWhile fun moment => !(moment.pid = pid && isLook moment.entry)

/-- The takeover goes no further: its revocation found nothing or did not succeed, or its INSERT
failed. -/
def gaveUp : LogEntry → Bool
  | .answered (.revokeActiveOperatorSession _ _) revoked _ => revoked.isNone
  | .lost (.revokeActiveOperatorSession _ _) _ _ _ => true
  | .failed (.revokeActiveOperatorSession _ _) _ => true
  | .failed (.insertOperatorSession _) _ => true
  | _ => false

section Properties

variable (environment : Environment) (config : OperatorConfig)

def tablesOf (history : List Step) : Tables := Tables.empty.after (contents history)

def callOf (pid : Nat) : Option Call := config.procs[pid]?.map Proc.call

def operatorOf (pid : Nat) : Option String :=
  match callOf config pid with
  | some (.takeoverConfirm _ body) => some body.operatorId
  | _ => none

def outcomeOf (pid : Nat) : Option Outcome :=
  match config.procs[pid]? with
  | some ⟨_, _, some (.ok outcome)⟩ => some outcome
  | _ => none

def sessionOf (pid : Nat) : Option Uuid :=
  match operatorOf config pid, outcomeOf config pid with
  | some _, some (.signedIn _ session) => some session.id
  | _, _ => none

def wrote (pid : Nat) : List Write := (logOf pid config.history).flatMap fun entry => entry.writes

/-- **At most one live session per device and store.** -/
def OneLive : Prop := ∀ deviceId storeId,
  (tablesOf config.history).tokens.countP (OperatorToken.liveAt deviceId storeId config.now) ≤ 1

/-- How many sessions the takeovers of an event inserted. -/
def effects (event : EventKey) : Nat :=
  config.history.countP fun moment => !(created moment.entry).isEmpty &&
    eventOf moment.pid config.history = some event

def TakenOnce : Prop := ∀ event, effects config event ≤ 1

/-- **The takeovers of an event are answered with one session.** -/
def SameSession : Prop := ∀ first second event sessionId sessionId',
  eventOf first config.history = some event → sessionOf config first = some sessionId →
    eventOf second config.history = some event → sessionOf config second = some sessionId' →
      sessionId = sessionId'

def ReadEnded (pid : Nat) (sessionId : Uuid) : Prop :=
  ∃ (row : OperatorToken) (writes : List Write),
    .answered (.findOperatorSession sessionId) (some row) writes ∈ logOf pid config.history ∧
      (row.revokedAt ≠ none ∨ ∃ drawn, .drew drawn ∈ logOf pid config.history ∧ row.expiresAt ≤ drawn.now)

/-- **A later takeover of an operator's event is answered with its session**, or is refused because that
session is over. -/
def Replays : Prop := ∀ first event sessionId, eventOf first config.history = some event →
  sessionOf config first = some sessionId → ∀ before moment after,
    config.history = before ++ moment :: after → logOf first before = logOf first config.history →
      reservedEvent moment.entry = some event → operatorOf config moment.pid = operatorOf config first →
        ∀ outcome, outcomeOf config moment.pid = some outcome →
          (∃ operator session, outcome = .signedIn operator session ∧ session.id = sessionId) ∨
            outcome = .refused .noActiveSessionToSupersede ∧ ReadEnded config moment.pid sessionId

def Outcome.declines : Outcome → Bool
  | takeoverRequired => true
  | refused _ => true
  | _ => false

/-- **A request that is refused leaves sessions and keys as they were**, but for the key without a session
of a takeover that found nothing to supersede; a sign-in or sign-out that throws does, unless an answer was
lost. -/
def LeavesAsWere : Prop := ∀ pid proc, config.procs[pid]? = some proc →
  (∀ outcome, proc.result = some (.ok outcome) → outcome.declines = true →
    wrote config pid = [] ∨ ∃ rawJwt body row, proc.call = .takeoverConfirm rawJwt body ∧
      outcome = .refused .noActiveSessionToSupersede ∧ wrote config pid = [.key row] ∧
        row.key = body.eventId ∧ row.sessionId = none) ∧
    ∀ error, proc.result = some (.error error) → operatorOf config pid = none →
      (∀ entry ∈ logOf pid config.history, ¬ Lost entry) → wrote config pid = []

/-- The event a takeover enters at a step: it reserved the key, or found it free. -/
def entering (moment : Step) : Option EventKey :=
  match moment.entry, operatorOf config moment.pid with
  | .answered (.insertTakeoverKey row) inserted _, _ => if inserted then some row.toEventKey else none
  | .answered (.findTakeoverKey event) existing _, some operatorId =>
    if checkKey environment operatorId existing = .fresh then some event else none
  | _, _ => none

/-- A step that keeps apart from other requests. When a session is inserted, none of its device and store
has been inserted since its request looked; and when a takeover enters an event, every other that entered
it has given up. -/
def KeepsApart (before : List Step) (moment : Step) : Prop :=
  (∀ row ∈ created moment.entry, ∀ other ∈ sinceLook moment.pid before, ∀ row' ∈ created other.entry,
    ¬ (row'.deviceId = row.deviceId ∧ row'.storeId = row.storeId)) ∧
    ∀ event ∈ entering environment config moment, ∀ earlier ∈ before, earlier.pid ≠ moment.pid →
      entering environment config earlier = some event →
        (logOf earlier.pid before).any gaveUp = true

def Apart : Prop := Throughout (KeepsApart environment config) config.history

end Properties

/-! ### The tables of a run -/

section Runs

variable {environment : Environment} {config : OperatorConfig}
variable {before after : List Step} {moment : Step}
variable {writes : List Write} {row : TakeoverKey} {statement : Stmt} {pid : Nat}

theorem tablesOf_append (first second : List Step) :
    tablesOf (first ++ second) = (tablesOf first).after (contents second) := by
  rw [tablesOf, contents_append, Tables.after_append, tablesOf]

variable (reachable : Reachable (backend environment) config)
include reachable

theorem executed (split : config.history = before ++ moment :: after) {reply : Reply statement}
    (answered : moment.entry = .answered statement reply writes) :
    (tablesOf before).exec (environment.identities moment.now) moment.now statement = .ok (reply, writes) :=
  reachable.answered split answered

theorem wrote_cases (split : config.history = before ++ moment :: after) :
    moment.entry.writes = [] ∨
      ∃ statement, moment.entry.statement = some statement ∧
      (tablesOf before).Executed moment.now statement moment.entry.writes := by
  rcases reachable.wrote split with nothing | ⟨statement, reply, asked, ran⟩
  · exact .inl nothing
  · exact .inr ⟨statement, asked, Tables.exec_cases ran⟩

theorem keyed (split : config.history = before ++ after) : (tablesOf before).Keyed := by
  have stays := reachable.stable (fun held => (Tables.empty.after held).Keyed) ?_
    (show config.history = [] ++ before ++ after from split) Tables.Keyed.empty
  · exact stays
  · intro now held statement reply writes keyed ran
    rw [Tables.after_append]
    exact keyed.stays ran

variable (split : config.history = before ++ moment :: after)
include split

theorem token_asked {row : OperatorToken} (inserts : .token row ∈ moment.entry.writes) :
    moment.entry.writes = [.token row] ∧
      moment.entry.statement = some (.insertOperatorSession row.toAuthToken) := by
  rcases wrote_cases reachable split with nothing | ⟨statement, asked, ran⟩
  · rw [nothing] at inserts
    cases inserts
  · generalize moment.entry.writes = writes at inserts ran
    cases ran with
    | token fresh =>
      cases mem_singleton.1 inserts
      exact ⟨rfl, asked⟩
    | nothing => cases inserts
    | key fresh | superseded | sessionRevoked | attached => cases mem_singleton.1 inserts

theorem key_asked (inserts : .key row ∈ moment.entry.writes) :
    moment.entry.statement = some (.insertTakeoverKey row) := by
  rcases wrote_cases reachable split with nothing | ⟨statement, asked, ran⟩
  · rw [nothing] at inserts
    cases inserts
  · generalize moment.entry.writes = writes at inserts ran
    cases ran with
    | key fresh =>
      cases mem_singleton.1 inserts
      exact asked
    | nothing => cases inserts
    | token fresh | superseded | sessionRevoked | attached => cases mem_singleton.1 inserts

theorem attached_asked {event : EventKey} {sessionId : Uuid}
    (attaches : .attached event sessionId ∈ moment.entry.writes) :
    moment.entry.statement = some (.updateIdempotencyKeyWithSession event sessionId) := by
  rcases wrote_cases reachable split with nothing | ⟨statement, asked, ran⟩
  · rw [nothing] at attaches
    cases attaches
  · generalize moment.entry.writes = writes at attaches ran
    cases ran with
    | attached =>
      cases mem_singleton.1 attaches
      exact asked
    | nothing => cases attaches
    | token fresh | key fresh | superseded | sessionRevoked => cases mem_singleton.1 attaches

theorem taken_at (asked : moment.entry.statement = some statement) (own : statement.ofTakeover = true) :
    ∃ rawJwt body, callOf config moment.pid = some (.takeoverConfirm rawJwt body) ∧
      Taken environment body (logOf moment.pid before) statement := by
  obtain ⟨proc, found, asks⟩ := reachable.asked split asked
  obtain ⟨rawJwt, body, called, taken⟩ := program_asks_takeover asks own
  refine ⟨rawJwt, body, ?_, taken⟩
  rw [callOf, found, map_some, called]

/-! ### What a refused request leaves -/

theorem silent_writes (silent : Silent moment.entry) : moment.entry.writes = [] := by
  cases entry : moment.entry with
  | drew drawn | failed statement fault => rfl
  | lost statement reply writes fault =>
    rw [entry] at silent
    exact Tables.exec_reads (reachable.unanswered split entry) silent
  | answered statement reply writes =>
    rw [entry] at silent
    have ran := executed reachable split entry
    show writes = []
    cases statement with
    | insertTakeoverKey row =>
      obtain rfl : reply = false := silent
      exact Tables.insertKey_false ran
    | revokeActiveOperatorSession deviceId storeId =>
      obtain rfl : reply = none := silent
      exact Tables.revoke_none ran
    | markSessionRevoked sessionId userId =>
      obtain rfl : reply = false := silent
      exact Tables.mark_false ran
    | insertOperatorSession row | updateIdempotencyKeyWithSession event sessionId =>
      exact Tables.exec_reads ran silent
    | _ => exact Tables.exec_reads ran rfl

omit split

theorem silent_log {log : Log} (part : ∀ entry ∈ log, entry ∈ logOf pid config.history)
    (silent : ∀ entry ∈ log, Silent entry) : log.flatMap (fun entry => entry.writes) = [] := by
  refine flatMap_eq_nil_iff.2 fun entry mem => ?_
  obtain ⟨moment, inside, -, rfl⟩ := mem_logOf.1 (part entry mem)
  obtain ⟨before, after, split⟩ := append_of_mem inside
  exact silent_writes reachable split (silent moment.entry mem)

theorem silent_wrote (silent : ∀ entry ∈ logOf pid config.history, Silent entry) : wrote config pid = [] :=
  silent_log reachable (fun _ mem => mem) silent

theorem reserved_writes (split : config.history = before ++ moment :: after)
    (answered : moment.entry = .answered (.insertTakeoverKey row) true writes) : writes = [.key row] :=
  Tables.insertKey_true (executed reachable split answered)

/-- **A refused takeover leaves what was there, or the key it reserved.** -/
theorem refused_leaves {body : PosTakeoverConfirmInput} {outcome : Outcome}
    (confirmed : Confirmed environment body (logOf pid config.history) outcome)
    (declines : outcome.declines = true) :
    wrote config pid = [] ∨
      ∃ row, outcome = .refused .noActiveSessionToSupersede ∧ wrote config pid = [.key row] ∧
      row.key = body.eventId ∧ row.sessionId = none := by
  generalize logged : logOf pid config.history = log at confirmed
  have quietly : (∀ entry ∈ log, Silent entry) → wrote config pid = [] := by
    rw [← logged]
    exact silent_wrote reachable
  have place : ∀ entry ∈ log, ∃ before moment after,
      config.history = before ++ moment :: after ∧ moment.entry = entry := by
    intro entry mem
    rw [← logged] at mem
    obtain ⟨moment, inside, -, same⟩ := mem_logOf.1 mem
    obtain ⟨before, after, split⟩ := append_of_mem inside
    exact ⟨before, moment, after, split, same⟩
  cases confirmed with
  | unauthorized quiet => exact .inl (quietly quiet.silent)
  | conflict quiet differs | missing quiet duplicate =>
    exact .inl (quietly (quiet.silent_append (by simp [Silent, Stmt.reads])))
  | finished quiet duplicate ended =>
    exact .inl (quietly (quiet.silent_append (by simp [Silent, Stmt.reads])))
  | replayed quiet duplicate | superseded quiet enters => cases declines
  | @vacant first entered authorized writes quiet enters =>
    cases enters with
    | found free => exact .inl (quietly (quiet.silent_append (by simp [Silent, Stmt.reads])))
    | @reserved drawn writes' =>
      -- the key is in before the revocation finds nothing to revoke
      have early : first.flatMap (fun entry => entry.writes) = [] :=
        silent_log reachable (fun entry mem => by rw [logged]; exact mem_append_left _ mem)
          quiet.silent
      obtain ⟨before, moment, after, split, same⟩ := place (.answered (.insertTakeoverKey
        (keyRow environment (eventKey authorized.device body.eventId) body.operatorId drawn)) true
        writes') (by simp)
      obtain rfl := reserved_writes reachable split same
      obtain ⟨before', moment', after', split', same'⟩ := place (.answered
        (.revokeActiveOperatorSession authorized.device.id authorized.device.storeId) none writes)
        (by simp)
      obtain rfl := Tables.revoke_none (executed reachable split' same')
      refine .inr ⟨keyRow environment (eventKey authorized.device body.eventId) body.operatorId drawn,
        rfl, ?_, rfl, rfl⟩
      rw [wrote, logged, flatMap_append, early]
      rfl

/-- **What a request that is refused leaves.** -/
theorem leaves_as_were : LeavesAsWere config := by
  intro pid proc found
  refine ⟨fun outcome ended declines => ?_, fun error ended notTakeover answered => ?_⟩
  · have gave := reachable.returned found ended
    cases called : proc.call with
    | signIn rawJwt rawAttestation =>
      rw [called] at gave
      refine .inl (silent_wrote reachable ?_)
      rcases signIn_returns gave with quiet | ⟨first, deviceId, storeId, writes, quiet, logged⟩ |
        ⟨operator, session, rfl⟩
      · exact quiet.silent
      · rw [logged]
        exact quiet.silent_append (by simp [Silent, Stmt.reads])
      · cases declines
    | signOut rawJwt sessionId =>
      rw [called] at gave
      rcases signOut_returns gave with rfl | silent
      · cases declines
      · exact .inl (silent_wrote reachable silent)
    | takeoverConfirm rawJwt body =>
      rw [called] at gave
      rcases refused_leaves reachable (takeover_returns gave) declines with nothing |
        ⟨row, refused, left, own, vacant⟩
      · exact .inl nothing
      · exact .inr ⟨rawJwt, body, row, rfl, refused, left, own, vacant⟩
  · have threw := reachable.threw found ended
    refine silent_wrote reachable fun entry mem => ?_
    have silent : ∀ entry ∈ logOf pid config.history, Silent entry ∨ Lost entry := by
      cases called : proc.call with
      | signIn rawJwt rawAttestation =>
        rw [called] at threw
        exact signIn_throws threw
      | signOut rawJwt sessionId =>
        rw [called] at threw
        exact signOut_throws threw
      | takeoverConfirm rawJwt body =>
        rw [operatorOf, callOf, found, map_some, called] at notTakeover
        cases notTakeover
    exact (silent entry mem).resolve_right (answered entry mem)

end Runs

end DataPulse.Operators
