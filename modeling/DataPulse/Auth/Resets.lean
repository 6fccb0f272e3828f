/-
**What a reset of a password leaves behind.**

A reset token is for one use, and a confirmed reset sweeps the user's sessions so that none obtained with
the old password is left. Its statements commit one by one, so two confirmations that hold the same token
both change the password, and a sign-in that read the old hash inserts its session after the sweep.

* `resets_hold`: in every run whose steps keep apart, both hold.
-/

import DataPulse.Auth.Effects

namespace DataPulse.Auth

open Lib Lib.Autocommit Lib.Prog Platform

variable {token : AuthToken} {userId : Uuid} {pid : Nat} {statement : Stmt} {before : List Step}
variable {rawToken newPassword password : String} {log : Log} {scope : TokenScope}
variable {hash : String} {call : Call}

abbrev Log := List (Autocommit.Entry Stmt Reply Drawn PgError Write)
abbrev Step := Moment Stmt Reply Drawn PgError Write
abbrev AuthConfig := Config Stmt Reply Drawn Thrown PgError Write Call Value

variable {primitives : Primitives}

/-! ### What the methods send -/

/-- The statements of a confirmed reset, each with what happened before it. -/
inductive Confirmed (primitives : Primitives) (rawToken newPassword : String) : Log → Stmt → Prop where
  | find : Confirmed primitives rawToken newPassword []
      (.findActiveByTokenHash (primitives.hashToken rawToken))
  | update {token : AuthToken} {userId : Uuid} {drawn : Drawn} {writes : List Write}
      (scope : token.scope = .passwordReset) (of : token.userId = some userId) :
      Confirmed primitives rawToken newPassword
        [.answered (.findActiveByTokenHash (primitives.hashToken rawToken)) (some token) writes,
          .drew drawn]
        (.updatePassword userId (primitives.argon2Hash drawn.salt newPassword))
  | revoke {token : AuthToken} {userId : Uuid} {drawn : Drawn} {writes writes' : List Write}
      (scope : token.scope = .passwordReset) (of : token.userId = some userId) :
      Confirmed primitives rawToken newPassword
        [.answered (.findActiveByTokenHash (primitives.hashToken rawToken)) (some token) writes,
          .drew drawn,
          .answered (.updatePassword userId (primitives.argon2Hash drawn.salt newPassword)) () writes']
        (.revoke token.id)
  | sweep {token : AuthToken} {userId : Uuid} {drawn : Drawn} {revoked : Bool}
      {writes writes' writes'' : List Write}
      (scope : token.scope = .passwordReset) (of : token.userId = some userId) :
      Confirmed primitives rawToken newPassword
        [.answered (.findActiveByTokenHash (primitives.hashToken rawToken)) (some token) writes,
          .drew drawn,
          .answered (.updatePassword userId (primitives.argon2Hash drawn.salt newPassword)) () writes',
          .answered (.revoke token.id) revoked writes'']
        (.revokeAllSessionsForUser userId)

theorem redeem_returns
    (gave : Returns Thrown.database (redeem primitives rawToken scope) log (token, userId)) :
    token.scope = scope ∧ token.userId = some userId ∧
      ∃ writes,
      log = [.answered (.findActiveByTokenHash (primitives.hashToken rawToken)) (some token) writes] := by
  obtain ⟨row, first, second, rfl, found, checked⟩ := returns_bind gave
  obtain ⟨writes, rfl⟩ := returns_query found
  cases row with
  | none => exact absurd checked not_returns_fail
  | some row =>
    simp only at checked
    split_ifs at checked with other
    · exact absurd checked not_returns_fail
    · split at checked
      · exact absurd checked not_returns_fail
      · rename_i owner of
        obtain ⟨rfl, same⟩ := returns_done checked
        cases same
        exact ⟨not_not.1 other, of, writes, rfl⟩

variable {entry : Autocommit.Entry Stmt Reply Drawn PgError Write}

theorem redeem_asks (asks : Asks Thrown.database (redeem primitives rawToken scope) log statement) :
    log = [] ∧ statement = .findActiveByTokenHash (primitives.hashToken rawToken) := by
  rcases asks_bind asks with finding | ⟨row, first, second, rfl, found, checks⟩
  · exact asks_query finding
  · cases row with
    | none => exact absurd checks not_asks_fail
    | some row =>
      simp only at checks
      split_ifs at checks
      · exact absurd checks not_asks_fail
      · split at checks
        · exact absurd checks not_asks_fail
        · exact absurd checks not_asks_done

theorem hashPassword_returns (gave : Returns Thrown.database (hashPassword primitives password) log hash) :
    ∃ drawn : Drawn, log = [.drew drawn] ∧ hash = primitives.argon2Hash drawn.salt password := by
  unfold hashPassword at gave
  split_ifs at gave with empty
  · exact absurd gave not_returns_fail
  · obtain ⟨drawn, rest, rfl, hashed⟩ := returns_newId gave
    obtain ⟨rfl, rfl⟩ := returns_done hashed
    exact ⟨drawn, rfl, rfl⟩

theorem not_hashPassword_asks : ¬ Asks Thrown.database (hashPassword primitives password) log statement := by
  intro asks
  unfold hashPassword at asks
  split_ifs at asks
  · exact not_asks_fail asks
  · obtain ⟨drawn, rest, rfl, hashed⟩ := asks_newId asks
    exact not_asks_done hashed

/-- **A confirmation reads the token, updates the password, revokes the token and sweeps the sessions,
in this order.** -/
theorem confirm_asks
    (asks : Asks Thrown.database (confirmPasswordReset primitives rawToken newPassword) log statement) :
    Confirmed primitives rawToken newPassword log statement := by
  rcases asks_bind asks with finding | ⟨⟨token, userId⟩, first, second, rfl, redeemed, past⟩
  · obtain ⟨rfl, rfl⟩ := redeem_asks finding
    exact .find
  obtain ⟨scope, of, writes, rfl⟩ := redeem_returns redeemed
  rcases asks_bind past with hashing | ⟨hash, first, second, rfl, hashed, toUpdate⟩
  · exact absurd hashing not_hashPassword_asks
  obtain ⟨drawn, rfl, rfl⟩ := hashPassword_returns hashed
  rcases asks_bind toUpdate with updating | ⟨⟨⟩, first, second, rfl, updated, toRevoke⟩
  · obtain ⟨rfl, rfl⟩ := asks_query updating
    exact .update scope of
  obtain ⟨writes', rfl⟩ := returns_query updated
  rcases asks_bind toRevoke with revoking | ⟨revoked, first, second, rfl, revoking, toSweep⟩
  · obtain ⟨rfl, rfl⟩ := asks_query revoking
    exact .revoke scope of
  obtain ⟨writes'', rfl⟩ := returns_query revoking
  obtain ⟨rfl, rfl⟩ := asks_query toSweep
  exact .sweep scope of

theorem confirm_returns {value : Unit}
    (gave : Returns Thrown.database (confirmPasswordReset primitives rawToken newPassword) log value) :
    ∃ before userId writes,
      Confirmed primitives rawToken newPassword before (.revokeAllSessionsForUser userId) ∧
      log = before ++ [.answered (.revokeAllSessionsForUser userId) () writes] := by
  obtain ⟨⟨token, userId⟩, first, second, rfl, redeemed, past⟩ := returns_bind gave
  obtain ⟨scope, of, writes, rfl⟩ := redeem_returns redeemed
  obtain ⟨hash, first, second, rfl, hashed, toUpdate⟩ := returns_bind past
  obtain ⟨drawn, rfl, rfl⟩ := hashPassword_returns hashed
  obtain ⟨⟨⟩, first, second, rfl, updated, toRevoke⟩ := returns_bind toUpdate
  obtain ⟨writes', rfl⟩ := returns_query updated
  obtain ⟨revoked, first, second, rfl, revoking, toSweep⟩ := returns_bind toRevoke
  obtain ⟨writes'', rfl⟩ := returns_query revoking
  obtain ⟨last, rfl⟩ := returns_query toSweep
  exact ⟨_, userId, last, .sweep scope of, rfl⟩

/-- **A sign-in reads the user and, when the password is verified against the hash it read, inserts a
session.** -/
theorem signIn_asks {email : String}
    (asks : Asks Thrown.database (signIn primitives email password) log statement) :
    (log = [] ∧ statement = .findActiveUserByEmail email) ∨
      ∃ (user : Account) (hash : String) (drawn : Drawn) (writes : List Write),
      user.passwordHash = some hash ∧ verifyPassword primitives hash password = true ∧
      log = [.answered (.findActiveUserByEmail email) (some user) writes, .drew drawn] ∧
      statement = .createSession drawn.id user.id (drawn.now + SESSION_ABSOLUTE_EXPIRY_MS) := by
  rcases asks_bind asks with finding | ⟨row, first, second, rfl, found, verifying⟩
  · exact .inl (asks_query finding)
  obtain ⟨writes, rfl⟩ := returns_query found
  cases row with
  | none => exact absurd verifying not_asks_fail
  | some user =>
    simp only at verifying
    split_ifs at verifying with refused
    · exact absurd verifying not_asks_fail
    · cases stored : user.passwordHash with
      | none => simp [stored] at refused
      | some hash =>
        obtain ⟨drawn, rest, rfl, creating⟩ := asks_newId verifying
        rcases asks_bind creating with creating | ⟨created, first, second, rfl, -, ended⟩
        · obtain ⟨rfl, rfl⟩ := asks_query creating
          refine .inr ⟨user, hash, drawn, writes, stored, ?_, rfl, rfl⟩
          simpa [stored] using refused
        · exact absurd ended not_asks_done

def Stmt.ofReset : Stmt → Bool
  | updatePassword _ _ => true
  | revokeAllSessionsForUser _ => true
  | _ => false

def Stmt.ofSignIn : Stmt → Bool
  | createSession _ _ _ => true
  | _ => false

def Stmt.common (statement : Stmt) : Prop := statement.ofReset = false ∧ statement.ofSignIn = false

theorem redeem_sends : Sends Stmt.common (redeem primitives rawToken scope) := by
  refine sends_bind (sends_query ⟨rfl, rfl⟩) fun row => ?_
  cases row with
  | none => trivial
  | some row =>
    simp only
    split_ifs
    · trivial
    · split <;> trivial

/-- Of the methods, a confirmed reset updates a password and sweeps sessions, and a sign-in inserts a
session. -/
theorem program_sends (primitives : Primitives) :
    ∀ call : Call, (∃ rawToken newPassword, call = .confirmPasswordReset rawToken newPassword) ∨
      (∃ email password, call = .signIn email password) ∨ Sends Stmt.common (program primitives call)
  | .signIn email password => .inr (.inl ⟨email, password, rfl⟩)
  | .confirmPasswordReset rawToken newPassword => .inl ⟨rawToken, newPassword, rfl⟩
  | .signOut sessionId => .inr (.inr (sends_bind (sends_query ⟨rfl, rfl⟩) fun revoked => trivial))
  | .refresh sessionId => by
      refine
        .inr (.inr (sends_bind (sends_bind (sends_query ⟨rfl, rfl⟩) fun session => ?_) fun result => trivial))
      cases session with
      | none => trivial
      | some session => exact sends_bind (sends_query ⟨rfl, rfl⟩) fun touched => trivial
  | .requestPasswordReset email => by
      refine .inr (.inr (sends_bind (sends_bind (sends_query ⟨rfl, rfl⟩) fun user => ?_) fun result => trivial))
      cases user with
      | none => trivial
      | some user =>
        exact sends_newId fun drawn => sends_bind (sends_query ⟨rfl, rfl⟩) fun issued => sends_query ⟨rfl, rfl⟩
  | .requestEmailVerification userId => by
      refine .inr (.inr (sends_bind (sends_bind (sends_query ⟨rfl, rfl⟩) fun user => ?_) fun result => trivial))
      cases user with
      | none => trivial
      | some user =>
        exact sends_newId fun drawn => sends_bind (sends_query ⟨rfl, rfl⟩) fun issued => sends_query ⟨rfl, rfl⟩
  | .confirmEmailVerification rawToken =>
    .inr (.inr (sends_bind (sends_bind redeem_sends fun redeemed =>
      sends_bind (sends_query ⟨rfl, rfl⟩) fun stamped =>
        sends_bind (sends_query ⟨rfl, rfl⟩) fun revoked => trivial) fun result => trivial))

theorem program_asks_reset (asks : Asks Thrown.database (program primitives call) log statement)
    (reset : statement.ofReset = true) :
    ∃ rawToken newPassword, call = .confirmPasswordReset rawToken newPassword ∧
      Confirmed primitives rawToken newPassword log statement := by
  rcases program_sends primitives call with ⟨rawToken, newPassword, rfl⟩ | ⟨email, password, rfl⟩ | sends
  · rcases asks_bind asks with confirming | ⟨value, first, second, rfl, -, ended⟩
    · exact ⟨rawToken, newPassword, rfl, confirm_asks confirming⟩
    · exact absurd ended not_asks_done
  · rcases asks_bind asks with signing | ⟨value, first, second, rfl, -, ended⟩
    · rcases signIn_asks signing with ⟨-, rfl⟩ | ⟨user, hash, drawn, writes, -, -, -, rfl⟩
      · cases reset
      · cases reset
    · exact absurd ended not_asks_done
  · rw [(sends.asks asks).1] at reset
    cases reset

theorem program_asks_session {id : Uuid} {expires : Int}
    (asks : Asks Thrown.database (program primitives call) log (.createSession id userId expires)) :
    ∃ (email password : String) (user : Account) (hash : String) (drawn : Drawn) (writes : List Write),
      call = .signIn email password ∧ user.passwordHash = some hash ∧
      verifyPassword primitives hash password = true ∧ user.id = userId ∧
      log = [.answered (.findActiveUserByEmail email) (some user) writes, .drew drawn] := by
  rcases program_sends primitives call with ⟨rawToken, newPassword, rfl⟩ | ⟨email, password, rfl⟩ | sends
  · rcases asks_bind asks with confirming | ⟨value, first, second, rfl, -, ended⟩
    · nomatch confirm_asks confirming
    · exact absurd ended not_asks_done
  · rcases asks_bind asks with signing | ⟨value, first, second, rfl, -, ended⟩
    · rcases signIn_asks signing with ⟨-, wrong⟩ | ⟨user, hash, drawn, writes, stored, verified, rfl, same⟩
      · cases wrong
      · cases same
        exact ⟨email, password, user, hash, drawn, writes, rfl, stored, verified, rfl, rfl⟩
    · exact absurd ended not_asks_done
  · exact absurd (sends.asks asks).2 (by simp [Stmt.ofSignIn])

/-! ### What a reset is for -/

def foundToken : Autocommit.Entry Stmt Reply Drawn PgError Write → Option AuthToken
  | .answered (.findActiveByTokenHash _) row _ => row
  | _ => none

def foundUser : Autocommit.Entry Stmt Reply Drawn PgError Write → Option Account
  | .answered (.findActiveUserByEmail _) row _ => row
  | _ => none

def updatedPassword : Autocommit.Entry Stmt Reply Drawn PgError Write → Bool
  | .answered (.updatePassword _ _) _ _ => true
  | .lost (.updatePassword _ _) _ _ _ => true
  | _ => false

def sweptUser : Autocommit.Entry Stmt Reply Drawn PgError Write → Option Uuid
  | .answered (.revokeAllSessionsForUser userId) _ _ => some userId
  | .lost (.revokeAllSessionsForUser userId) _ _ _ => some userId
  | _ => none

/-- The token was revoked, or the reset failed before it changed the password. -/
def releases : Autocommit.Entry Stmt Reply Drawn PgError Write → Bool
  | .answered (.revoke _) _ _ => true
  | .lost (.revoke _) _ _ _ => true
  | .failed (.updatePassword _ _) _ => true
  | _ => false

def Write.inserted : Write → Option Session
  | session row => some row
  | _ => none

def created (entry : Autocommit.Entry Stmt Reply Drawn PgError Write) : List Session :=
  entry.writes.filterMap Write.inserted

def heldToken (pid : Nat) (history : List Step) : Option AuthToken :=
  (logOf pid history).findSome? foundToken

/-- What happened from the password update of a client on. -/
def since (pid : Nat) (history : List Step) : List Step :=
  history.dropWhile fun moment => !(moment.pid = pid && updatedPassword moment.entry)

section Properties

variable (primitives : Primitives) (initial : Accounts) (config : AuthConfig)

def callOf (pid : Nat) : Option Call := config.procs[pid]?.map Proc.call

def confirms (pid : Nat) : Bool :=
  match callOf config pid with
  | some (.confirmPasswordReset _ _) => true
  | _ => false

/-- How often the password was changed in the name of a token. -/
def changes (tokenId : Uuid) : Nat :=
  config.history.countP fun moment => updatedPassword moment.entry && !moment.entry.writes.isEmpty &&
    (heldToken moment.pid config.history).map AuthToken.id = some tokenId

def OneShot : Prop := ∀ tokenId, changes config tokenId ≤ 1

def completedReset (pid : Nat) : Option Uuid :=
  match config.procs[pid]? with
  | some ⟨.confirmPasswordReset _ _, _, some (.ok _)⟩ =>
    (heldToken pid config.history).bind AuthToken.userId
  | _ => none

/-- The session was created by a sign-in that read the user, after the reset had updated the password,
and verified the password against a hash set by then. -/
def Renewed (pid : Nat) (session : Session) : Prop :=
  ∃ lookup ∈ since pid config.history, ∃ creation ∈ since pid config.history,
    lookup.pid = creation.pid ∧ session.id ∈ (created creation.entry).map Session.id ∧
      ∃ user ∈ foundUser lookup.entry, user.id = session.userId ∧ ∃ hash ∈ user.passwordHash,
        hash ∈ hashesOf session.userId (contents (since pid config.history)) ∧
          match callOf config lookup.pid with
          | some (.signIn _ password) => verifyPassword primitives hash password = true
          | _ => False

/-- **Once a reset returned, the live sessions of its user are of the new password.** -/
def NoneSurvives : Prop :=
  ∀ pid < config.procs.length, ∀ userId ∈ completedReset config pid,
    ∀ session ∈ (initial.after config.ledger).sessions, session.userId = userId →
      session.live config.now = true → Renewed primitives config pid session

/-- A step that keeps apart from the resets. When a reset reads its token, every other reset that read
it has revoked it or failed to change the password; and when a sign-in inserts its session, every reset
that has swept the user's sessions had updated the password before the sign-in read the user. -/
def KeepsApart (before : List Step) (moment : Step) : Prop :=
  (∀ token ∈ foundToken moment.entry, confirms config moment.pid = true → ∀ earlier ∈ before,
    earlier.pid ≠ moment.pid → confirms config earlier.pid = true →
      (foundToken earlier.entry).map AuthToken.id = some token.id →
        (logOf earlier.pid before).any releases = true) ∧
    ∀ session ∈ created moment.entry, ∀ sweep ∈ before, sweptUser sweep.entry = some session.userId →
      ∃ lookup ∈ since sweep.pid before, lookup.pid = moment.pid ∧
        (foundUser lookup.entry).isSome = true

def Apart : Prop := Throughout (KeepsApart config) config.history

end Properties

/-! ### What the runs do -/

theorem updated_statement (updated : updatedPassword entry = true) :
    ∃ userId hash, entry.statement = some (.updatePassword userId hash) := by
  unfold updatedPassword at updated
  split at updated
  · exact ⟨_, _, rfl⟩
  · exact ⟨_, _, rfl⟩
  · cases updated

theorem found_entry (found : foundToken entry = some token) :
    ∃ hash writes, entry = .answered (.findActiveByTokenHash hash) (some token) writes := by
  unfold foundToken at found
  split at found
  · subst found
    exact ⟨_, _, rfl⟩
  · cases found

theorem heldToken_append (held : heldToken pid before = some token) (later : List Step) :
    heldToken pid (before ++ later) = some token := by
  rw [heldToken] at held
  rw [heldToken, logOf_append, List.findSome?_append, held, some_or]

theorem heldToken_found (held : heldToken pid before = some token) :
    ∃ moment ∈ before, moment.pid = pid ∧ foundToken moment.entry = some token := by
  obtain ⟨entry, mem, found⟩ := List.exists_of_findSome?_eq_some held
  obtain ⟨moment, inside, own, rfl⟩ := mem_logOf.1 mem
  exact ⟨moment, inside, own, found⟩

theorem Confirmed.atUpdate
    (confirmed : Confirmed primitives rawToken newPassword log (.updatePassword userId hash)) :
    log.length = 2 ∧ log.any updatedPassword = false ∧
      ∃ token, log.findSome? foundToken = some token ∧ token.userId = some userId := by
  cases confirmed with
  | update scope of => exact ⟨rfl, rfl, _, rfl, of⟩

variable {tokenId : Uuid}

theorem Confirmed.atRevoke (confirmed : Confirmed primitives rawToken newPassword log (.revoke tokenId)) :
    ∃ token, log.findSome? foundToken = some token ∧ token.id = tokenId := by
  cases confirmed with
  | revoke scope of => exact ⟨_, rfl, rfl⟩

section Runs

variable {initial : Accounts} {config : AuthConfig}
variable {later : List Step}
variable {id : Uuid}

theorem callOf_confirms {rawToken newPassword : String}
    (called : callOf config pid = some (.confirmPasswordReset rawToken newPassword)) :
    confirms config pid = true := by
  rw [confirms, called]

theorem confirms_call (confirming : confirms config pid = true) :
    ∃ rawToken newPassword, callOf config pid = some (.confirmPasswordReset rawToken newPassword) := by
  unfold confirms at confirming
  split at confirming
  · exact ⟨_, _, ‹_›⟩
  · cases confirming

variable (reachable : Reachable (backend primitives initial) config)
variable {after : List Step} {moment : Step}
include reachable

variable (split : config.history = before ++ moment :: after)
include split

theorem reset_asked
    (asked : moment.entry.statement = some statement) (reset : statement.ofReset = true) :
    confirms config moment.pid = true ∧
      ∃ rawToken newPassword, Confirmed primitives rawToken newPassword (logOf moment.pid before)
      statement := by
  obtain ⟨proc, found, asks⟩ := reachable.asked split asked
  obtain ⟨rawToken, newPassword, called, confirmed⟩ := program_asks_reset asks reset
  have called' : callOf config moment.pid = some (.confirmPasswordReset rawToken newPassword) := by
    rw [callOf, found, map_some, called]
  exact ⟨callOf_confirms called', rawToken, newPassword, confirmed⟩

theorem confirm_asked
    (confirming : confirms config moment.pid = true) (asked : moment.entry.statement = some statement) :
    ∃ rawToken newPassword, Confirmed primitives rawToken newPassword (logOf moment.pid before)
      statement := by
  obtain ⟨proc, found, asks⟩ := reachable.asked split asked
  obtain ⟨rawToken, newPassword, called⟩ := confirms_call confirming
  rw [callOf, found] at called
  rw [show proc.call = _ from Option.some.inj called] at asks
  refine ⟨rawToken, newPassword, ?_⟩
  rcases asks_bind asks with confirming | ⟨value, first, second, same, -, ended⟩
  · exact confirm_asks confirming
  · exact absurd ended not_asks_done

theorem found_unspent
    (found : foundToken moment.entry = some token) :
    (initial.after (contents before)).Known token.id ∧
      ¬ (initial.after (contents before)).Spent token.id := by
  obtain ⟨hash, writes, same⟩ := found_entry found
  have ran : Accounts.exec primitives moment.now (initial.after (contents before))
      (.findActiveByTokenHash hash) = .ok (some token, writes) := reachable.answered split same
  exact Accounts.find_unspent ran

omit split

theorem known_later (split : config.history = before ++ after ++ later)
    (known : (initial.after (contents before)).Known id) :
    (initial.after (contents (before ++ after))).Known id := by
  refine reachable.stable (fun held => (initial.after held).Known id) ?_ split known
  intro now held statement reply writes known ran
  rw [Accounts.after_append]
  exact known.stays ran

theorem spent_later (split : config.history = before ++ after ++ later)
    (spent : (initial.after (contents before)).Spent id) :
    (initial.after (contents (before ++ after))).Spent id := by
  refine reachable.stable (fun held => (initial.after held).Spent id) ?_ split spent
  intro now held statement reply writes spent ran
  rw [Accounts.after_append]
  exact spent.stays ran

variable (split : config.history = before ++ moment :: after)
include split

theorem revoked_spent
    (held : heldToken pid before = some token) {revoked : Bool}
    (ran : Accounts.exec primitives moment.now (initial.after (contents before)) (.revoke token.id) =
      .ok (revoked, moment.entry.writes)) :
    (initial.after (contents (before ++ [moment]))).Spent token.id := by
  obtain ⟨lookup, inside, -, found⟩ := heldToken_found held
  obtain ⟨early, between, rfl⟩ := append_of_mem inside
  have foundAt : config.history = early ++ lookup :: (between ++ moment :: after) := by
    rw [split, append_assoc, cons_append]
  have untilHere : config.history = early ++ (lookup :: between) ++ moment :: after := split
  have known := known_later reachable untilHere (found_unspent reachable foundAt found).1
  rw [contents_append _ [moment], contents_cons, contents_nil, append_nil, Accounts.after_append]
  exact Accounts.revoke_spent known ran

theorem released_token
    (confirming : confirms config moment.pid = true)
    (asked : moment.entry.statement = some (.revoke tokenId)) :
    ∃ token, heldToken moment.pid before = some token ∧ token.id = tokenId := by
  obtain ⟨_, _, confirmed⟩ := confirm_asked reachable split confirming asked
  exact confirmed.atRevoke

theorem released_spent
    (confirming : confirms config moment.pid = true) (releasing : releases moment.entry = true) :
    (∃ token, heldToken moment.pid before = some token ∧
        (initial.after (contents (before ++ [moment]))).Spent token.id) ∨
      ∃ userId hash fault, moment.entry = .failed (.updatePassword userId hash) fault := by
  unfold releases at releasing
  split at releasing
  · rename_i tokenId revoked writes entry
    obtain ⟨token, held, rfl⟩ := released_token reachable split confirming (by rw [entry]; rfl)
    have ran : Accounts.exec primitives moment.now (initial.after (contents before))
        (.revoke token.id) = .ok (revoked, moment.entry.writes) := by
      rw [entry]
      exact reachable.answered split entry
    exact .inl ⟨token, held, revoked_spent reachable split held ran⟩
  · rename_i tokenId revoked writes fault entry
    obtain ⟨token, held, rfl⟩ := released_token reachable split confirming (by rw [entry]; rfl)
    have ran : Accounts.exec primitives moment.now (initial.after (contents before))
        (.revoke token.id) = .ok (revoked, moment.entry.writes) := by
      rw [entry]
      exact reachable.unanswered split entry
    exact .inl ⟨token, held, revoked_spent reachable split held ran⟩
  · exact .inr ⟨_, _, _, ‹_›⟩
  · cases releasing

omit split

/-- **When resets keep apart, a token that changed the password is not found again.** -/
theorem not_found_again (apart : Apart config) (split : config.history = before ++ moment :: after)
    (updated : updatedPassword moment.entry = true) (held : heldToken moment.pid before = some token)
    {before' after' : List Step} {again : Step} (split' : config.history = before' ++ again :: after')
    {first : Step} (mem : first ∈ before') (own : first.pid = moment.pid)
    (found : foundToken first.entry = some token) (other : moment.pid ≠ again.pid)
    (confirming : confirms config again.pid = true) {token' : AuthToken}
    (found' : foundToken again.entry = some token') : token'.id ≠ token.id := by
  intro same
  obtain ⟨userId, hash, asked⟩ := updated_statement updated
  obtain ⟨confirming', _, _, confirmed⟩ := reset_asked reachable split asked rfl
  rw [Apart, split'] at apart
  have released := apart.at.1 token' found' confirming first mem (own ▸ other)
    (own ▸ confirming') (by rw [found, map_some, same])
  rw [own] at released
  obtain ⟨entry, among, releasing⟩ := List.any_eq_true.1 released
  obtain ⟨step, inside, own', rfl⟩ := mem_logOf.1 among
  obtain ⟨early, late, rfl⟩ := append_of_mem inside
  have place : config.history = early ++ step :: (late ++ again :: after') := by
    rw [split', append_assoc, cons_append]
  rcases released_spent reachable place (own' ▸ confirming') releasing with
    ⟨token'', held', spent⟩ | ⟨userId', hash', fault, failed⟩
  · -- The token was revoked by then, and could not be found.
    have first : heldToken moment.pid config.history = some token'' := by
      rw [place, ← own']
      exact heldToken_append held' _
    have second : heldToken moment.pid config.history = some token := by
      rw [split]
      exact heldToken_append held _
    obtain rfl := mem_unique first second
    have untilAgain : config.history = (early ++ [step]) ++ late ++ again :: after' := by
      rw [place, append_assoc, append_assoc, singleton_append]
    have later := spent_later reachable untilAgain spent
    rw [append_assoc, singleton_append, ← same] at later
    exact (found_unspent reachable split' found').2 later
  · -- A reset asks for its update once.
    obtain ⟨-, _, _, confirmed'⟩ := reset_asked reachable place (by rw [failed]; rfl) rfl
    have level : (logOf moment.pid before).length = (logOf moment.pid early).length := by
      rw [confirmed.atUpdate.1, ← own', confirmed'.atUpdate.1]
    obtain ⟨-, rfl⟩ := logOf_place (split.symm.trans place) own'.symm level
    rw [failed] at updated
    cases updated

/-- **When resets keep apart, a token changes the password at most once.** -/
theorem apart_oneShot (apart : Apart config) : OneShot config := by
  intro tokenId
  refine countP_le_one ?_
  intro before one between other after split changed changed'
  simp only [and_eq_true, decide_eq_true_eq] at changed changed'
  obtain ⟨⟨updated, -⟩, sameId⟩ := changed
  obtain ⟨⟨updated', -⟩, sameId'⟩ := changed'
  have split' : config.history = (before ++ one :: between) ++ other :: after := by
    rw [split, append_assoc, cons_append]
  obtain ⟨userId, hash, asked⟩ := updated_statement updated
  obtain ⟨userId', hash', asked'⟩ := updated_statement updated'
  obtain ⟨confirming, _, _, confirmed⟩ := reset_asked reachable split asked rfl
  obtain ⟨confirming', _, _, confirmed'⟩ := reset_asked reachable split' asked' rfl
  obtain ⟨level, -, token, held, -⟩ := confirmed.atUpdate
  obtain ⟨level', -, token', held', -⟩ := confirmed'.atUpdate
  have distinct : one.pid ≠ other.pid := by
    intro same
    obtain ⟨short, -⟩ := logOf_place (split.symm.trans split') same (by rw [level, same, level'])
    exact absurd (congrArg List.length short) (by simp)
  have first : (heldToken one.pid config.history) = some token := by
    rw [split]
    exact heldToken_append held _
  have second : (heldToken other.pid config.history) = some token' := by
    rw [split']
    exact heldToken_append held' _
  rw [first, map_some, Option.some.injEq] at sameId
  rw [second, map_some, Option.some.injEq] at sameId'
  obtain ⟨lookup, inside, own, found⟩ := heldToken_found held
  obtain ⟨lookup', inside', own', found'⟩ := heldToken_found held'
  obtain ⟨early, late, rfl⟩ := append_of_mem inside
  obtain ⟨early', late', same⟩ := append_of_mem inside'
  have place : config.history = early ++ lookup :: (late ++ one :: (between ++ other :: after)) := by
    rw [split, append_assoc, cons_append]
  have place' : config.history = early' ++ lookup' :: (late' ++ other :: after) := by
    rw [split', same, append_assoc, cons_append]
  -- Whichever of the two read the token later must not have found it.
  rcases splits_order (place.symm.trans place') with ⟨-, rfl⟩ | ⟨_, rfl⟩ | ⟨_, rfl⟩
  · exact distinct (own.symm.trans own')
  · refine not_found_again reachable apart split updated held place'
      (mem_append_right _ mem_cons_self) own found (own' ▸ distinct) (own' ▸ confirming')
      found' (sameId'.trans sameId.symm)
  · refine not_found_again reachable apart split' updated' held' place
      (mem_append_right _ mem_cons_self) own' found' (own ▸ distinct.symm)
      (own ▸ confirming) found (sameId.trans sameId'.symm)

omit reachable in
theorem since_split (none : (logOf pid before).any updatedPassword = false) (own : moment.pid = pid)
    (updated : updatedPassword moment.entry = true) :
    since pid (before ++ moment :: later) = moment :: later := by
  rw [since, List.dropWhile_append_of_pos, List.dropWhile_cons_of_neg (by simp [own, updated])]
  intro prior mem
  by_cases same : prior.pid = pid
  · have entry := any_eq_false.1 none prior.entry (mem_logOf.2 ⟨prior, mem, same, rfl⟩)
    simp [entry]
  · simp [same]

theorem completed_split (done : completedReset config pid = some userId) :
    ∃ before update between sweep after, config.history = before ++ update :: (between ++ sweep :: after) ∧
      update.pid = pid ∧ sweep.pid = pid ∧ (logOf pid before).any updatedPassword = false ∧
      (∃ hash writes, update.entry = .answered (.updatePassword userId hash) () writes) ∧
      ∃ writes, sweep.entry = .answered (.revokeAllSessionsForUser userId) () writes := by
  unfold completedReset at done
  split at done
  · rename_i rawToken newPassword rest value found
    have gave := reachable.returned found rfl
    obtain ⟨result, first, second, log, swept, ended⟩ := returns_bind gave
    obtain ⟨rfl, -⟩ := returns_done ended
    obtain ⟨before, owner, writes, confirmed, rfl⟩ := confirm_returns swept
    rw [append_nil] at log
    cases confirmed with
    | sweep scope of =>
      rw [heldToken, log] at done
      obtain rfl := mem_unique of done
      obtain ⟨before, update, later, split, own, entry, early, late⟩ := logOf_split
        (show logOf pid config.history = [_, _] ++ _ :: [_, _] from log)
      obtain ⟨between, sweep, after, rfl, own', entry', -, -⟩ := logOf_split
        (show logOf pid later = [_] ++ _ :: [] from late)
      refine ⟨before, update, between, sweep, after, split, own, own', ?_, ⟨_, _, entry⟩, _, entry'⟩
      rw [early]
      rfl
  · cases done

theorem read_updated {between : List Step} {update lookup : Step} {newHash email : String}
    {writes writes' : List Write} {user : Account} {hash : String}
    (split : config.history = before ++ update :: (between ++ lookup :: later))
    (updated : update.entry = .answered (.updatePassword userId newHash) () writes)
    (found : lookup.entry = .answered (.findActiveUserByEmail email) (some user) writes')
    (own : user.id = userId) (stored : user.passwordHash = some hash) :
    hash ∈ hashesOf userId (contents (update :: between)) := by
  have split' : config.history = (before ++ update :: between) ++ lookup :: later := by
    rw [split, append_assoc, cons_append]
  have ran : Accounts.exec primitives update.now (initial.after (contents before))
      (.updatePassword userId newHash) = .ok ((), writes) := reachable.answered split updated
  have read : Accounts.exec primitives lookup.now (initial.after (contents (before ++ update :: between)))
      (.findActiveUserByEmail email) = .ok (some user, writes') := reachable.answered split' found
  have same := (Prod.ext_iff.1 (Except.ok.inj read)).1
  have mem := mem_of_find?_eq_some same
  have passes := find?_some same
  simp only [and_eq_true, isNone_iff_eq_none] at passes
  rw [contents_append, contents_cons, Accounts.after_append, updated] at mem
  rw [contents_cons, updated]
  obtain ⟨hash', among, stored'⟩ := Accounts.updated_users ran mem own passes.2
  rwa [mem_unique stored stored']

theorem session_inserted (split : config.history = before ++ moment :: after) {row : Session}
    (wrote : .session row ∈ moment.entry.writes) :
    ∃ (email password : String) (user : Account) (hash : String) (drawn : Drawn) (writes : List Write),
      callOf config moment.pid = some (.signIn email password) ∧ user.passwordHash = some hash ∧
      verifyPassword primitives hash password = true ∧ user.id = row.userId ∧
      logOf moment.pid before =
      [.answered (.findActiveUserByEmail email) (some user) writes, .drew drawn] := by
  rcases reachable.wrote split with nothing | ⟨statement, reply, asked, ran⟩
  · rw [nothing] at wrote
    cases wrote
  obtain ⟨expires, rfl⟩ := Accounts.exec_session ran wrote
  obtain ⟨proc, found, asks⟩ := reachable.asked split asked
  obtain ⟨email, password, user, hash, drawn, writes, called, stored, verified, own, log⟩ :=
    program_asks_session asks
  refine ⟨email, password, user, hash, drawn, writes, ?_, stored, verified, own, log⟩
  rw [callOf, found, map_some, called]

/-- **When sign-ins keep apart, no session of the old password survives a reset.** -/
theorem apart_noneSurvives (apart : Apart config) : NoneSurvives primitives initial config := by
  intro pid bound userId done session mem own live
  obtain ⟨before, update, between, sweep, after, split, updating, sweeping, none, ⟨newHash, writes, updated⟩,
    writes', swept⟩ := completed_split reachable done
  have unrevoked : session.revokedAt = .none := by
    simp only [Session.live, and_eq_true, isNone_iff_eq_none] at live
    exact live.1
  have untilSweep : config.history = (before ++ update :: between) ++ sweep :: after := by
    rw [split, append_assoc, cons_append]
  have ran : Accounts.exec primitives sweep.now (initial.after (contents (before ++ update :: between)))
    (.revokeAllSessionsForUser userId) = .ok ((), writes') := reachable.answered untilSweep swept
  rw [Config.ledger, untilSweep, contents_append, contents_cons, Accounts.after_append,
    Accounts.after_append, swept] at mem
  -- The session was added after the sweep.
  rcases Accounts.after_sessions mem with ⟨old, inside, same, kept⟩ | ⟨row, added, sameId, sameUser⟩
  · exact absurd (kept unrevoked) (Accounts.sweep_revokes ran old inside (same.trans own))
  obtain ⟨creation, inside, wrote⟩ := mem_flatMap.1 added
  obtain ⟨early, late, rfl⟩ := append_of_mem inside
  have untilCreation : config.history =
      (before ++ update :: (between ++ sweep :: early)) ++ creation :: late := by
    rw [split]
    simp only [append_assoc, cons_append]
  obtain ⟨email, password, user, hash, drawn, writes'', called, stored, verified, ownRow, log⟩ :=
    session_inserted reachable untilCreation wrote
  have isUpdate : updatedPassword update.entry = true := by
    rw [updated]
    rfl
  -- So the sign-in read the user after the update.
  have apart' := apart
  rw [Apart, untilCreation] at apart'
  obtain ⟨lookup, among, samePid, reads⟩ := apart'.at.2 row (mem_filterMap.2 ⟨_, wrote, rfl⟩) sweep (by simp)
    (by rw [swept, ← own, ← sameUser]; rfl)
  rw [sweeping, since_split none updating isUpdate] at among
  have entry : lookup.entry = .answered (.findActiveUserByEmail email) (some user) writes'' := by
    have logged : lookup.entry ∈ logOf creation.pid (before ++ update :: (between ++ sweep :: early)) :=
      mem_logOf.2 ⟨lookup, mem_append_right _ among, samePid, rfl⟩
    rw [log] at logged
    rcases mem_cons.1 logged with same | drew
    · exact same
    · rw [mem_singleton.1 drew] at reads
      cases reads
  have later : lookup ∈ between ++ sweep :: early := by
    rcases mem_cons.1 among with rfl | later
    · rw [entry] at isUpdate
      cases isUpdate
    · exact later
  obtain ⟨mid, rest, place⟩ := append_of_mem later
  have untilLookup : config.history = before ++ update :: (mid ++ lookup :: (rest ++ creation :: late)) := by
    rw [untilCreation, place]
    simp only [append_assoc, cons_append]
  have renewed := read_updated reachable untilLookup updated entry (ownRow.trans (sameUser.trans own)) stored
  have whole : since pid config.history = update :: (mid ++ lookup :: (rest ++ creation :: late)) := by
    rw [untilLookup, since_split none updating isUpdate]
  refine ⟨lookup, ?_, creation, ?_, samePid, ?_, user, ?_, ownRow.trans sameUser, hash, stored, ?_, ?_⟩
  · simp [whole]
  · simp [whole]
  · exact mem_map.2 ⟨row, mem_filterMap.2 ⟨_, wrote, rfl⟩, sameId⟩
  · rw [entry]
    rfl
  · rw [whole, own, ← cons_append, contents_append, hashesOf, filterMap_append]
    exact mem_append_left _ renewed
  · rw [samePid, called]
    exact verified

end Runs

/-- **What a reset is for holds in every run whose steps keep apart from it**: each token changes the
password at most once, and no session of the old password survives a reset that returned. -/
theorem resets_hold (primitives : Primitives) (initial : Accounts) {config : AuthConfig}
    (reachable : Reachable (backend primitives initial) config) (apart : Apart config) :
    OneShot config ∧ NoneSurvives primitives initial config :=
  ⟨apart_oneShot reachable apart, apart_noneSurvives reachable apart⟩

/-! ### Runs -/

instance {config : AuthConfig} {before : List Step} {moment : Step} :
    Decidable (KeepsApart config before moment) := by
  unfold KeepsApart
  infer_instance

instance {config : AuthConfig} : Decidable (Apart config) := by
  unfold Apart Throughout
  infer_instance

def samplePrimitives : Primitives where
  citext := id
  hashToken text := text.toList.map fun c => c.toNat.toUInt8
  argon2Hash _ password := "$argon2id$" ++ password
  argon2Verify phc password := phc = "$argon2id$" ++ password

def sampleAccounts : Accounts where
  users := [⟨⟨sample 1, "a@example.com", none, none, none⟩, none, some "$argon2id$old password", false, 0⟩]
  sessions := []
  tokens := []

def sampleDrawn (n : Nat) : Drawn := ⟨sample n, 0, [], "r"⟩

def sampleRequest : List (Event Drawn PgError Call) :=
  [.start (.requestPasswordReset "a@example.com"), .ask 0, .draw 0 (sampleDrawn 2), .ask 0, .ask 0, .stop 0]

def sampleOverlap : List (Event Drawn PgError Call) :=
  sampleRequest.append
    [.start (.signIn "a@example.com" "old password"), .ask 1,
      .start (.confirmPasswordReset "r" "new password"), .ask 2,
      .start (.confirmPasswordReset "r" "next password"), .ask 3,
      .draw 2 (sampleDrawn 3), .ask 2, .ask 2, .ask 2, .stop 2,
      .draw 3 (sampleDrawn 4), .ask 3, .draw 1 (sampleDrawn 5), .ask 1, .stop 1]

/-- **One token changes the password twice, and a session of the old password survives the reset.** -/
theorem resets_overlapped :
    ∃ config : AuthConfig, Reachable (backend samplePrimitives sampleAccounts) config ∧ ¬ OneShot config ∧
      ¬ NoneSurvives samplePrimitives sampleAccounts config := by
  have happens : (run (backend samplePrimitives sampleAccounts) sampleOverlap).any (fun config =>
      changes config (sample 2) = 2 && completedReset config 2 = some (sample 1) &&
          (since 2 config.history).all (fun
          moment => (foundUser moment.entry).isNone) &&
            (sampleAccounts.after config.ledger).sessions.any fun session =>
          session.userId = sample 1 && session.live config.now) = true := by
    decide +kernel
  obtain ⟨config, ran, holds⟩ := (any_eq_true _ _).1 happens
  simp only [and_eq_true, decide_eq_true_eq] at holds
  obtain ⟨⟨⟨twice, done⟩, unread⟩, survives⟩ := holds
  refine ⟨config, run_reachable _ ran, fun once => ?_, fun none => ?_⟩
  · exact absurd (once (sample 2)) (by rw [twice]; decide)
  · obtain ⟨session, mem, live⟩ := List.any_eq_true.1 survives
    simp only [and_eq_true, decide_eq_true_eq] at live
    have bound : 2 < config.procs.length := by
      by_contra beyond
      rw [completedReset, List.getElem?_eq_none (Nat.le_of_not_lt beyond)] at done
      cases done
    obtain ⟨lookup, among, _, _, _, _, user, found, _⟩ := none 2 bound _ done session mem live.1 live.2
    have missing := all_eq_true.1 unread lookup among
    rw [isNone_iff_eq_none.1 missing] at found
    cases found

def sampleOrderly : List (Event Drawn PgError Call) :=
  sampleRequest.append
    [.start (.signIn "a@example.com" "old password"), .ask 1, .draw 1 (sampleDrawn 3), .ask 1, .stop 1,
      .start (.confirmPasswordReset "r" "new password"), .ask 2, .draw 2 (sampleDrawn 4),
      .ask 2, .ask 2, .ask 2, .stop 2,
      .start (.signIn "a@example.com" "new password"), .ask 3, .draw 3 (sampleDrawn 5), .ask 3, .stop 3]

theorem resets_hold_sample :
    ∃ config : AuthConfig, run (backend samplePrimitives sampleAccounts) sampleOrderly = some config ∧
      (sampleAccounts.after config.ledger).sessions.length = 2 ∧ OneShot config ∧
      NoneSurvives samplePrimitives sampleAccounts config := by
  have happens : (run (backend samplePrimitives sampleAccounts) sampleOrderly).any (fun config =>
      decide (Apart config) && (sampleAccounts.after config.ledger).sessions.length = 2) = true := by
    decide +kernel
  obtain ⟨config, ran, holds⟩ := (any_eq_true _ _).1 happens
  rw [and_eq_true, decide_eq_true_eq, decide_eq_true_eq] at holds
  exact ⟨config, ran, holds.2, resets_hold _ _ (run_reachable _ ran) holds.1⟩

end DataPulse.Auth
