/-
**What the requests of an operator send.**

Each request checks its caller with look-ups (`Quiet`) and goes on only when they pass.

* `Entered`: a takeover that has its event id for itself, by reserving it or by finding it without a
  session.
-/

import DataPulse.Operators.Effects

namespace DataPulse.Operators

open Lib Lib.Autocommit Lib.Prog Platform
open Auth (User Device MembershipRow AuthToken)

variable {log : Log} {authorized : Authorized} {rawJwt rawAttestation operatorId : String}
  {event : EventKey} {body : PosTakeoverConfirmInput} {sessionId : Uuid} {error : PgError}
variable {statement : Stmt} {outcome : Outcome}
variable {call : Call}

abbrev LogEntry := Autocommit.Entry Stmt Reply Drawn PgError Write
abbrev Log := List LogEntry
abbrev Step := Moment Stmt Reply Drawn PgError Write
abbrev OperatorConfig := Config Stmt Reply Drawn PgError PgError Write Call Outcome

variable {environment : Environment}

/-! ### The caller -/

/-- The look-ups of `authorize`. -/
def Stmt.checks : Stmt → Bool
  | findUserByClerkSubject _ => true
  | findActiveByAttestation _ => true
  | findActiveMembership _ _ => true
  | storeIsInAccessSet _ _ => true
  | _ => false

def Quiet (log : Log) : Prop :=
  ∀ entry ∈ log, ∀ statement, entry.statement = some statement → statement.checks = true

theorem Quiet.nil : Quiet [] := fun _ none => nomatch none

theorem authorizeAt_sends (user : User) (device : Device) :
    Sends (fun statement => statement.checks = true) (authorizeAt user device) := by
  refine sends_bind (sends_query rfl) fun membership => ?_
  cases membership with
  | none => exact sends_done
  | some membership =>
    simp only
    split
    · exact sends_done
    split
    · exact sends_done
    split
    · exact sends_done
    split
    · refine sends_bind (sends_query rfl) fun ok => ?_
      cases ok <;> exact sends_done
    · exact sends_done

theorem authorize_sends (environment : Environment) (sub rawAttestation : String) :
    Sends (fun statement => statement.checks = true) (authorize environment sub rawAttestation) := by
  refine sends_bind (sends_query rfl) fun user => ?_
  cases user with
  | none => exact sends_done
  | some user =>
    simp only
    split_ifs
    · exact sends_done
    · refine sends_bind ?_ fun device => ?_
      · unfold findActiveByAttestation
        split_ifs
        · exact sends_done
        · exact sends_query rfl
      · cases device with
        | none => exact sends_done
        | some device => exact authorizeAt_sends user device

theorem authorize_quiet {sub : String} {rest : Client (Except Refusal Authorized)}
    (leads : Leads id (authorize environment sub rawAttestation) log rest) : Quiet log :=
  (authorize_sends environment sub rawAttestation).logged leads

/-! ### A takeover -/

/-- A takeover goes on as the first of its event: it reserved the key, or found it free. -/
inductive Entered (environment : Environment) (event : EventKey) (operatorId : String) : Log → Prop where
  | reserved {drawn : Drawn} {writes : List Write} :
      Entered environment event operatorId
        [.drew drawn, .answered (.insertTakeoverKey (keyRow environment event operatorId drawn)) true writes]
  | found {drawn : Drawn} {existing : Option TakeoverKey} {writes writes' : List Write}
      (free : checkKey environment operatorId existing = .fresh) :
      Entered environment event operatorId
        [.drew drawn,
          .answered (.insertTakeoverKey (keyRow environment event operatorId drawn)) false writes,
          .answered (.findTakeoverKey event) existing writes']

/-- The session a takeover inserted, after it had superseded another. -/
def issued (authorized : Authorized) (superseded : Uuid) (drawn : Drawn)
    (writes : List Write) : Log :=
  [.answered (.revokeActiveOperatorSession authorized.device.id authorized.device.storeId)
      (some superseded) writes, .drew drawn]

/-- The statements of a takeover, each with what happened before it. -/
inductive Taken (environment : Environment) (body : PosTakeoverConfirmInput) : Log → Stmt → Prop where
  | check {log : Log} {statement : Stmt} (quiet : Quiet log) (checks : statement.checks = true) :
      Taken environment body log statement
  | reserve {first : Log} {authorized : Authorized} {drawn : Drawn} (quiet : Quiet first) :
      Taken environment body (first ++ [.drew drawn])
        (.insertTakeoverKey
          (keyRow environment (eventKey authorized.device body.eventId) body.operatorId drawn))
  | look {first : Log} {authorized : Authorized} {drawn : Drawn} {writes : List Write}
      (quiet : Quiet first) :
      Taken environment body
        (first ++ [.drew drawn, .answered (.insertTakeoverKey
          (keyRow environment (eventKey authorized.device body.eventId) body.operatorId drawn)) false writes])
        (.findTakeoverKey (eventKey authorized.device body.eventId))
  | replay {first : Log} {sessionId : Uuid} : Taken environment body first (.findOperatorSession sessionId)
  | supersede {first entered : Log} {authorized : Authorized} (quiet : Quiet first)
      (enters : Entered environment (eventKey authorized.device body.eventId) body.operatorId entered) :
      Taken environment body (first ++ entered)
        (.revokeActiveOperatorSession authorized.device.id authorized.device.storeId)
  | issue {first entered : Log} {authorized : Authorized} {superseded : Uuid} {drawn : Drawn}
      {writes : List Write} (quiet : Quiet first)
      (enters : Entered environment (eventKey authorized.device body.eventId) body.operatorId entered) :
      Taken environment body (first ++ (entered ++ issued authorized superseded drawn writes))
        (.insertOperatorSession (sessionRow environment authorized drawn))
  | attach {first entered : Log} {authorized : Authorized} {superseded : Uuid} {drawn : Drawn}
      {row : OperatorToken} {writes writes' : List Write} (quiet : Quiet first)
      (enters : Entered environment (eventKey authorized.device body.eventId) body.operatorId entered) :
      Taken environment body
        (first ++ (entered ++ (issued authorized superseded drawn writes ++
          [.answered (.insertOperatorSession (sessionRow environment authorized drawn)) row writes'])))
        (.updateIdempotencyKeyWithSession (eventKey authorized.device body.eventId) row.id)
  | audit {first : Log} {id targetId supersededId : Uuid} :
      Taken environment body first (.insertAuditEvent id targetId supersededId)

/-- How a takeover ends. -/
inductive Confirmed (environment : Environment) (body : PosTakeoverConfirmInput) : Log → Outcome → Prop where
  | unauthorized {log : Log} {reason : Refusal} (quiet : Quiet log) :
      Confirmed environment body log (.refused reason)
  | conflict {first : Log} {authorized : Authorized} {drawn : Drawn} {existing : Option TakeoverKey}
      {writes writes' : List Write} (quiet : Quiet first)
      (differs : checkKey environment body.operatorId existing = .conflict) :
      Confirmed environment body
        (first ++ [.drew drawn, .answered (.insertTakeoverKey
            (keyRow environment (eventKey authorized.device body.eventId) body.operatorId drawn)) false writes,
          .answered (.findTakeoverKey (eventKey authorized.device body.eventId)) existing writes'])
        (.refused .eventIdOperatorConflict)
  | missing {first : Log} {authorized : Authorized} {drawn : Drawn} {existing : Option TakeoverKey}
      {sessionId : Uuid} {writes writes' writes'' : List Write} (quiet : Quiet first)
      (duplicate : checkKey environment body.operatorId existing = .duplicate sessionId) :
      Confirmed environment body
        (first ++ [.drew drawn, .answered (.insertTakeoverKey
            (keyRow environment (eventKey authorized.device body.eventId) body.operatorId drawn)) false writes,
          .answered (.findTakeoverKey (eventKey authorized.device body.eventId)) existing writes',
          .answered (.findOperatorSession sessionId) none writes''])
        (.refused .noActiveSessionToSupersede)
  | finished {first : Log} {authorized : Authorized} {drawn drawn' : Drawn} {existing : Option TakeoverKey}
      {sessionId : Uuid} {row : OperatorToken} {writes writes' writes'' : List Write} (quiet : Quiet first)
      (duplicate : checkKey environment body.operatorId existing = .duplicate sessionId)
      (ended : row.revokedAt ≠ none ∨ row.expiresAt ≤ drawn'.now) :
      Confirmed environment body
        (first ++ [.drew drawn, .answered (.insertTakeoverKey
            (keyRow environment (eventKey authorized.device body.eventId) body.operatorId drawn)) false writes,
          .answered (.findTakeoverKey (eventKey authorized.device body.eventId)) existing writes',
          .answered (.findOperatorSession sessionId) (some row) writes'', .drew drawn'])
        (.refused .noActiveSessionToSupersede)
  | replayed {first : Log} {authorized : Authorized} {drawn drawn' : Drawn}
      {existing : Option TakeoverKey} {sessionId : Uuid} {row : OperatorToken}
      {writes writes' writes'' : List Write} (quiet : Quiet first)
      (duplicate : checkKey environment body.operatorId existing = .duplicate sessionId) :
      Confirmed environment body
        (first ++ [.drew drawn, .answered (.insertTakeoverKey
            (keyRow environment (eventKey authorized.device body.eventId) body.operatorId drawn)) false writes,
          .answered (.findTakeoverKey (eventKey authorized.device body.eventId)) existing writes',
          .answered (.findOperatorSession sessionId) (some row) writes'', .drew drawn'])
        (.signedIn authorized.operator ⟨row.id, row.issuedAt, none⟩)
  | vacant {first entered : Log} {authorized : Authorized} {writes : List Write} (quiet : Quiet first)
      (enters : Entered environment (eventKey authorized.device body.eventId) body.operatorId entered) :
      Confirmed environment body
        (first ++ (entered ++ [.answered (.revokeActiveOperatorSession authorized.device.id
          authorized.device.storeId) none writes]))
        (.refused .noActiveSessionToSupersede)
  | superseded {first entered rest : Log} {authorized : Authorized} {superseded : Uuid} {drawn : Drawn}
      {row : OperatorToken} {writes writes' writes'' : List Write} (quiet : Quiet first)
      (enters : Entered environment (eventKey authorized.device body.eventId) body.operatorId entered) :
      Confirmed environment body
        (first ++ (entered ++ (issued authorized superseded drawn writes ++
          .answered (.insertOperatorSession (sessionRow environment authorized drawn)) row writes' ::
            .answered (.updateIdempotencyKeyWithSession (eventKey authorized.device body.eventId) row.id) ()
              writes'' :: rest)))
        (.signedIn authorized.operator ⟨row.id, row.issuedAt, some drawn.rawToken⟩)

theorem issue_asks (asks : Asks id (issueOperatorSessionRow environment authorized) log statement) :
    ∃ drawn : Drawn, log = [.drew drawn] ∧
      statement = .insertOperatorSession (sessionRow environment authorized drawn) := by
  obtain ⟨drawn, rest, rfl, inserting⟩ := asks_newId asks
  rcases asks_bind inserting with inserting | ⟨row, first, second, rfl, -, ended⟩
  · obtain ⟨rfl, rfl⟩ := asks_query inserting
    exact ⟨drawn, rfl, rfl⟩
  · exact absurd ended not_asks_done

theorem issue_returns {session : PosOperatorSessionSummary}
    (gave : Returns id (issueOperatorSessionRow environment authorized) log session) :
    ∃ (drawn : Drawn) (row : OperatorToken) (writes : List Write),
      session = ⟨row.id, row.issuedAt, some drawn.rawToken⟩ ∧
      log =
      [.drew drawn, .answered (.insertOperatorSession (sessionRow environment authorized drawn)) row
        writes] := by
  obtain ⟨drawn, rest, rfl, inserting⟩ := returns_newId gave
  obtain ⟨row, first, second, rfl, added, ended⟩ := returns_bind inserting
  obtain ⟨writes, rfl⟩ := returns_query added
  obtain ⟨rfl, rfl⟩ := returns_done ended
  exact ⟨drawn, row, writes, rfl, rfl⟩

theorem upsert_returns {check : KeyCheck}
    (gave : Returns id (upsertTakeoverIdempotencyKey environment event operatorId) log check) :
    (check = .fresh ∧ Entered environment event operatorId log) ∨
      ∃ (drawn : Drawn) (old : Option TakeoverKey) (writes writes' : List Write),
      check = checkKey environment operatorId old ∧
      log =
      [.drew drawn, .answered (.insertTakeoverKey (keyRow environment event operatorId drawn)) false writes,
        .answered (.findTakeoverKey event) old writes'] := by
  obtain ⟨drawn, rest, rfl, inserting⟩ := returns_newId gave
  obtain ⟨added, first, second, rfl, asked, onward⟩ := returns_bind inserting
  obtain ⟨writes, rfl⟩ := returns_query asked
  cases added with
  | true =>
    obtain ⟨rfl, rfl⟩ := returns_done onward
    exact .inl ⟨rfl, .reserved⟩
  | false =>
    obtain ⟨old, first, second, rfl, found, ended⟩ := returns_bind onward
    obtain ⟨writes', rfl⟩ := returns_query found
    obtain ⟨rfl, rfl⟩ := returns_done ended
    exact .inr ⟨drawn, old, writes, writes', rfl, rfl⟩

theorem upsert_fresh
    (gave : Returns id (upsertTakeoverIdempotencyKey environment event operatorId) log .fresh) :
    Entered environment event operatorId log := by
  rcases upsert_returns gave with ⟨-, enters⟩ | ⟨drawn, old, writes, writes', free, rfl⟩
  · exact enters
  · exact .found free.symm

theorem upsert_asks
    (asks : Asks id (upsertTakeoverIdempotencyKey environment event operatorId) log statement) :
    ∃ drawn : Drawn,
      (log = [.drew drawn] ∧ statement = .insertTakeoverKey (keyRow environment event operatorId drawn)) ∨
      ∃ writes, log =
      [.drew drawn, .answered (.insertTakeoverKey (keyRow environment event operatorId drawn)) false writes] ∧
      statement = .findTakeoverKey event := by
  obtain ⟨drawn, rest, rfl, reserving⟩ := asks_newId asks
  refine ⟨drawn, ?_⟩
  rcases asks_bind reserving with inserting | ⟨added, first, second, rfl, asked, looking⟩
  · obtain ⟨rfl, rfl⟩ := asks_query inserting
    exact .inl ⟨rfl, rfl⟩
  obtain ⟨writes, rfl⟩ := returns_query asked
  cases added with
  | true => exact absurd looking not_asks_done
  | false =>
    rcases asks_bind looking with finding | ⟨old, first, second, rfl, -, ended⟩
    · obtain ⟨rfl, rfl⟩ := asks_query finding
      exact .inr ⟨writes, rfl, rfl⟩
    · exact absurd ended not_asks_done

theorem replay_asks (asks : Asks id (replay authorized sessionId) log statement) :
    statement = .findOperatorSession sessionId := by
  rcases asks_bind asks with finding | ⟨session, first, second, rfl, -, judging⟩
  · exact (asks_query finding).2
  · cases session with
    | none => exact absurd judging not_asks_done
    | some session =>
      obtain ⟨drawn, rest, rfl, ended⟩ := asks_newId judging
      split_ifs at ended
      · exact absurd ended not_asks_done
      · exact absurd ended not_asks_done

theorem supersede_asks (asks : Asks id (supersede environment authorized event) log statement) :
    (log = [] ∧ statement = .revokeActiveOperatorSession authorized.device.id authorized.device.storeId) ∨
      (∃ superseded drawn writes, log = issued authorized superseded drawn writes ∧
          statement = .insertOperatorSession (sessionRow environment authorized drawn)) ∨
      (∃ superseded drawn writes writes', ∃ row : OperatorToken, log =
          issued authorized superseded drawn writes ++
          [.answered (.insertOperatorSession (sessionRow environment authorized drawn)) row writes'] ∧
          statement = .updateIdempotencyKeyWithSession event row.id) ∨
      ∃ id targetId supersededId, statement = .insertAuditEvent id targetId supersededId := by
  rcases asks_bind asks with revoking | ⟨gave, first, second, rfl, revoked, issuing⟩
  · exact .inl (asks_query revoking)
  obtain ⟨writes, rfl⟩ := returns_query revoked
  cases gave with
  | none => exact absurd issuing not_asks_done
  | some superseded =>
    rcases asks_bind issuing with inserting | ⟨session, first, second, rfl, added, attaching⟩
    · obtain ⟨drawn, rfl, rfl⟩ := issue_asks inserting
      exact .inr (.inl ⟨superseded, drawn, writes, rfl, rfl⟩)
    obtain ⟨drawn, row, writes', rfl, rfl⟩ := issue_returns added
    rcases asks_bind attaching with attaching | ⟨attached, first, second, rfl, -, auditing⟩
    · obtain ⟨rfl, rfl⟩ := asks_query attaching
      exact .inr (.inr (.inl ⟨superseded, drawn, writes, writes', row, rfl, rfl⟩))
    obtain ⟨drawn', rest, rfl, recording⟩ := asks_newId auditing
    rcases asks_bind recording with guarded | ⟨audited, first, second, rfl, -, ended⟩
    · rcases asks_rescue guarded with inserting | ⟨error, first, second, rfl, -, ended⟩
      · exact .inr (.inr (.inr ⟨_, _, _, (asks_query inserting).2⟩))
      · exact absurd ended not_asks_done
    · exact absurd ended not_asks_done

/-- **The statements of a takeover, each at its place.** -/
theorem takeover_asks (asks : Asks id (runTakeoverConfirmPipeline environment rawJwt body) log statement) :
    Taken environment body log statement := by
  unfold runTakeoverConfirmPipeline at asks
  split at asks
  · exact absurd asks not_asks_done
  split_ifs at asks
  · exact absurd asks not_asks_done
  rcases asks_bind asks with checking | ⟨checked, first, second, rfl, authorizing, past⟩
  · obtain ⟨rest, leads⟩ := checking
    exact .check (authorize_quiet leads) ((authorize_sends environment _ _).asks ⟨rest, leads⟩)
  have quiet := authorize_quiet authorizing
  cases checked with
  | error reason => exact absurd past not_asks_done
  | ok authorized =>
    rcases asks_bind past with reserving | ⟨check, entered, third, rfl, reserved, onward⟩
    · obtain ⟨drawn, ⟨rfl, rfl⟩ | ⟨writes, rfl, rfl⟩⟩ := upsert_asks reserving
      · exact .reserve quiet
      · exact .look quiet
    · cases check with
      | conflict => exact absurd onward not_asks_done
      | duplicate sessionId =>
        obtain rfl := replay_asks onward
        exact .replay
      | fresh =>
        have enters := upsert_fresh reserved
        rcases supersede_asks onward with ⟨rfl, rfl⟩ | ⟨superseded, drawn, writes, rfl, rfl⟩ |
          ⟨superseded, drawn, writes, writes', row, rfl, rfl⟩ | ⟨_, _, _, rfl⟩
        · rw [append_nil]
          exact .supersede quiet enters
        · exact .issue quiet enters
        · exact .attach quiet enters
        · exact .audit

theorem replay_returns (gave : Returns id (replay authorized sessionId) log outcome) :
    (∃ writes, log = [.answered (.findOperatorSession sessionId) none writes] ∧
        outcome = .refused .noActiveSessionToSupersede) ∨
      ∃ (row : OperatorToken) (drawn : Drawn) (writes : List Write),
      log = [.answered (.findOperatorSession sessionId) (some row) writes, .drew drawn] ∧
      ((outcome = .refused .noActiveSessionToSupersede ∧ (row.revokedAt ≠ none ∨ row.expiresAt ≤ drawn.now)) ∨
        outcome = .signedIn authorized.operator ⟨row.id, row.issuedAt, none⟩) := by
  obtain ⟨session, first, second, rfl, found, judging⟩ := returns_bind gave
  obtain ⟨writes, rfl⟩ := returns_query found
  cases session with
  | none =>
    obtain ⟨rfl, rfl⟩ := returns_done judging
    exact .inl ⟨writes, rfl, rfl⟩
  | some row =>
    obtain ⟨drawn, rest, rfl, judged⟩ := returns_newId judging
    refine .inr ⟨row, drawn, writes, ?_⟩
    split_ifs at judged with ended
    · obtain ⟨rfl, rfl⟩ := returns_done judged
      rw [or_eq_true, decide_eq_true_eq, isSome_iff_ne_none] at ended
      exact ⟨rfl, .inl ⟨rfl, ended⟩⟩
    · obtain ⟨rfl, rfl⟩ := returns_done judged
      exact ⟨rfl, .inr rfl⟩

theorem supersede_returns (gave : Returns id (supersede environment authorized event) log outcome) :
    (∃ writes, log =
        [.answered (.revokeActiveOperatorSession authorized.device.id authorized.device.storeId) none
          writes] ∧ outcome = .refused .noActiveSessionToSupersede) ∨
      ∃ superseded drawn writes writes' writes'' rest, ∃ row : OperatorToken, log =
      issued authorized superseded drawn writes ++
      .answered (.insertOperatorSession (sessionRow environment authorized drawn)) row writes' ::
      .answered (.updateIdempotencyKeyWithSession event row.id) () writes'' :: rest ∧
      outcome = .signedIn authorized.operator ⟨row.id, row.issuedAt, some drawn.rawToken⟩ := by
  obtain ⟨superseded, first, second, rfl, revoked, issuing⟩ := returns_bind gave
  obtain ⟨writes, rfl⟩ := returns_query revoked
  cases superseded with
  | none =>
    obtain ⟨rfl, rfl⟩ := returns_done issuing
    exact .inl ⟨writes, rfl, rfl⟩
  | some superseded =>
    obtain ⟨session, first, second, rfl, added, attaching⟩ := returns_bind issuing
    obtain ⟨drawn, row, writes', rfl, rfl⟩ := issue_returns added
    obtain ⟨attached, first, second, rfl, attached', auditing⟩ := returns_bind attaching
    obtain ⟨writes'', rfl⟩ := returns_query attached'
    obtain ⟨drawn', rest, rfl, audited⟩ := returns_newId auditing
    obtain ⟨audited', first, second, rfl, -, ended⟩ := returns_bind audited
    obtain ⟨rfl, rfl⟩ := returns_done ended
    exact .inr ⟨superseded, drawn, writes, writes', writes'', _, row, rfl, rfl⟩

/-- **How a takeover ends.** -/
theorem takeover_returns
    (gave : Returns id (runTakeoverConfirmPipeline environment rawJwt body) log outcome) :
    Confirmed environment body log outcome := by
  unfold runTakeoverConfirmPipeline at gave
  split at gave
  · obtain ⟨rfl, rfl⟩ := returns_done gave
    exact .unauthorized .nil
  split_ifs at gave
  · obtain ⟨rfl, rfl⟩ := returns_done gave
    exact .unauthorized .nil
  obtain ⟨checked, first, second, rfl, authorizing, past⟩ := returns_bind gave
  have quiet := authorize_quiet authorizing
  cases checked with
  | error reason =>
    obtain ⟨rfl, rfl⟩ := returns_done past
    rw [append_nil]
    exact .unauthorized quiet
  | ok authorized =>
    obtain ⟨check, entered, third, rfl, reserved, onward⟩ := returns_bind past
    cases check with
    | fresh =>
      have enters := upsert_fresh reserved
      rcases supersede_returns onward with ⟨writes, rfl, rfl⟩ |
        ⟨superseded, drawn, writes, writes', writes'', rest, row, rfl, rfl⟩
      · exact .vacant quiet enters
      · exact .superseded quiet enters
    | conflict =>
      obtain ⟨rfl, rfl⟩ := returns_done onward
      rcases upsert_returns reserved with ⟨wrong, -⟩ | ⟨drawn, old, writes, writes', differs, rfl⟩
      · cases wrong
      · exact .conflict quiet differs.symm
    | duplicate sessionId =>
      rcases upsert_returns reserved with ⟨wrong, -⟩ | ⟨drawn, old, writes, writes', duplicate, rfl⟩
      · cases wrong
      rcases replay_returns onward with ⟨writes'', rfl, rfl⟩ | ⟨row, drawn', writes'', rfl, ended⟩
      · exact .missing quiet duplicate.symm
      · rcases ended with ⟨rfl, ended⟩ | rfl
        · exact .finished quiet duplicate.symm ended
        · exact .replayed quiet duplicate.symm

/-! ### Sign-in and sign-out -/

def Stmt.ofTakeover : Stmt → Bool
  | insertTakeoverKey _ => true
  | findTakeoverKey _ => true
  | revokeActiveOperatorSession _ _ => true
  | updateIdempotencyKeyWithSession _ _ => true
  | _ => false

def Stmt.looks (statement : Stmt) : Prop := statement.reads = true ∧ statement.ofTakeover = false

theorem Stmt.looks_of_checks (checks : statement.checks = true) : statement.looks := by
  cases statement <;> first | exact ⟨rfl, rfl⟩ | cases checks

/-- **A sign-in inserts its session after it saw that none is live.** -/
theorem signIn_asks (asks : Asks id (runPipeline environment rawJwt rawAttestation) log statement) :
    statement.looks ∨
      ∃ first authorized drawn writes, Quiet first ∧
      log =
        first ++
        [.answered (.activeOperatorSessionExists authorized.device.id authorized.device.storeId) false writes,
          .drew drawn] ∧ statement = .insertOperatorSession (sessionRow environment authorized drawn) := by
  unfold runPipeline at asks
  split at asks
  · exact absurd asks not_asks_done
  rcases asks_bind asks with checking | ⟨checked, first, second, rfl, authorizing, past⟩
  · exact .inl (Stmt.looks_of_checks ((authorize_sends environment _ _).asks checking))
  cases checked with
  | error reason => exact absurd past not_asks_done
  | ok authorized =>
    rcases asks_bind past with looking | ⟨active, third, fourth, rfl, looked, onward⟩
    · obtain ⟨rfl, rfl⟩ := asks_query looking
      exact .inl ⟨rfl, rfl⟩
    obtain ⟨writes, rfl⟩ := returns_query looked
    cases active with
    | true => exact absurd onward not_asks_done
    | false =>
      rcases asks_bind onward with issuing | ⟨session, fifth, sixth, rfl, -, ended⟩
      · obtain ⟨drawn, rfl, rfl⟩ := issue_asks issuing
        exact .inr ⟨first, authorized, drawn, writes, authorize_quiet authorizing, rfl, rfl⟩
      · exact absurd ended not_asks_done

theorem signIn_returns (gave : Returns id (runPipeline environment rawJwt rawAttestation) log outcome) :
    Quiet log ∨
      (∃ first deviceId storeId writes, Quiet first ∧
          log = first ++ [.answered (.activeOperatorSessionExists deviceId storeId) true writes]) ∨
      ∃ operator session, outcome = .signedIn operator session := by
  unfold runPipeline at gave
  split at gave
  · obtain ⟨rfl, rfl⟩ := returns_done gave
    exact .inl .nil
  obtain ⟨checked, first, second, rfl, authorizing, past⟩ := returns_bind gave
  have quiet := authorize_quiet authorizing
  cases checked with
  | error reason =>
    obtain ⟨rfl, rfl⟩ := returns_done past
    rw [append_nil]
    exact .inl quiet
  | ok authorized =>
    obtain ⟨active, third, fourth, rfl, looked, onward⟩ := returns_bind past
    obtain ⟨writes, rfl⟩ := returns_query looked
    cases active with
    | true =>
      obtain ⟨rfl, rfl⟩ := returns_done onward
      rw [append_nil]
      exact .inr (.inl ⟨first, _, _, writes, quiet, rfl⟩)
    | false =>
      obtain ⟨session, fifth, sixth, rfl, -, ended⟩ := returns_bind onward
      obtain ⟨rfl, rfl⟩ := returns_done ended
      exact .inr (.inr ⟨_, _, rfl⟩)

def Stmt.ofSignOut (statement : Stmt) : Prop :=
  statement.looks ∨ ∃ sessionId userId, statement = .markSessionRevoked sessionId userId

theorem signOut_sends (environment : Environment) (rawJwt : String) (sessionId : Uuid) :
    Sends Stmt.ofSignOut (runSignOutPipeline environment rawJwt sessionId) := by
  unfold runSignOutPipeline
  split
  · exact sends_done
  refine sends_bind (sends_query (.inl ⟨rfl, rfl⟩)) fun user => ?_
  cases user with
  | none => exact sends_done
  | some user =>
    simp only
    split
    · exact sends_done
    refine sends_bind (sends_query (.inl ⟨rfl, rfl⟩)) fun session => ?_
    cases session with
    | none => exact sends_done
    | some session =>
      simp only
      split
      · exact sends_done
      split
      · exact sends_done
      split
      · exact sends_done
      refine sends_newId fun drawn => ?_
      split
      · exact sends_done
      refine sends_bind (sends_query (.inr ⟨_, _, rfl⟩)) fun revoked => ?_
      cases revoked <;> exact sends_done

/-! ### What writes nothing -/

def Silent : LogEntry → Prop
  | .drew _ => True
  | .failed _ _ => True
  | .answered (.insertTakeoverKey _) inserted _ => inserted = false
  | .answered (.revokeActiveOperatorSession _ _) revoked _ => revoked = none
  | .answered (.markSessionRevoked _ _) revoked _ => revoked = false
  | .answered statement _ _ => statement.reads = true
  | .lost statement _ _ _ => statement.reads = true

theorem silent_of_reads {entry : LogEntry}
    (reads : ∀ statement, entry.statement = some statement → statement.reads = true) : Silent entry := by
  cases entry with
  | drew drawn | failed statement fault => trivial
  | lost statement reply writes fault => exact reads statement rfl
  | answered statement reply writes =>
    have reads := reads statement rfl
    cases statement <;> first | exact reads | cases reads

theorem Quiet.silent (quiet : Quiet log) : ∀ entry ∈ log, Silent entry :=
  fun entry mem => silent_of_reads fun statement asked => (Stmt.looks_of_checks
      (quiet entry mem statement asked)).1

theorem Quiet.silent_append {first rest : Log} (quiet : Quiet first) (silent : ∀ entry ∈ rest, Silent entry) :
    ∀ entry ∈ first ++ rest, Silent entry := by
  intro entry mem
  rcases mem_append.1 mem with early | late
  · exact quiet.silent entry early
  · exact silent entry late

theorem signOut_returns (gave : Returns id (runSignOutPipeline environment rawJwt sessionId) log outcome) :
    outcome = .signedOut ∨ ∀ entry ∈ log, Silent entry := by
  unfold runSignOutPipeline at gave
  split at gave
  · obtain ⟨rfl, rfl⟩ := returns_done gave
    exact .inr (by simp)
  obtain ⟨user, first, second, rfl, found, onward⟩ := returns_bind gave
  obtain ⟨writes, rfl⟩ := returns_query found
  cases user with
  | none =>
    obtain ⟨rfl, rfl⟩ := returns_done onward
    exact .inr (by simp [Silent, Stmt.reads])
  | some user =>
    simp only at onward
    split at onward
    · obtain ⟨rfl, rfl⟩ := returns_done onward
      exact .inr (by simp [Silent, Stmt.reads])
    obtain ⟨session, third, fourth, rfl, found', judging⟩ := returns_bind onward
    obtain ⟨writes', rfl⟩ := returns_query found'
    cases session with
    | none =>
      obtain ⟨rfl, rfl⟩ := returns_done judging
      exact .inr (by simp [Silent, Stmt.reads])
    | some session =>
      simp only at judging
      split at judging
      · obtain ⟨rfl, rfl⟩ := returns_done judging
        exact .inr (by simp [Silent, Stmt.reads])
      split at judging
      · obtain ⟨rfl, rfl⟩ := returns_done judging
        exact .inr (by simp [Silent, Stmt.reads])
      split at judging
      · obtain ⟨rfl, rfl⟩ := returns_done judging
        exact .inr (by simp [Silent, Stmt.reads])
      obtain ⟨drawn, rest, rfl, timed⟩ := returns_newId judging
      split at timed
      · obtain ⟨rfl, rfl⟩ := returns_done timed
        exact .inr (by simp [Silent, Stmt.reads])
      obtain ⟨revoked, fifth, sixth, rfl, marked, ended⟩ := returns_bind timed
      obtain ⟨writes'', rfl⟩ := returns_query marked
      cases revoked with
      | true =>
        obtain ⟨rfl, rfl⟩ := returns_done ended
        exact .inl rfl
      | false =>
        obtain ⟨rfl, rfl⟩ := returns_done ended
        exact .inr (by simp [Silent, Stmt.reads])

def Lost : LogEntry → Prop
  | .lost _ _ _ _ => True
  | _ => False

theorem failing_silent (threw : Throws id (query statement : Client (Reply statement)) log error) :
    ∀ entry ∈ log, Silent entry ∨ Lost entry := by
  intro entry mem
  rcases throws_query threw with ⟨reply, writes, fault, rfl⟩ | ⟨fault, rfl⟩
  · rw [mem_singleton.1 mem]
    exact .inr trivial
  · rw [mem_singleton.1 mem]
    exact .inl trivial

theorem signIn_throws (threw : Throws id (runPipeline environment rawJwt rawAttestation) log error) :
    ∀ entry ∈ log, Silent entry ∨ Lost entry := by
  unfold runPipeline at threw
  split at threw
  · exact absurd threw not_throws_done
  rcases throws_bind threw with checking | ⟨checked, first, second, rfl, authorizing, past⟩
  · exact fun entry mem => .inl ((authorize_quiet checking).silent entry mem)
  have quiet := (authorize_quiet authorizing).silent
  cases checked with
  | error reason => exact absurd past not_throws_done
  | ok authorized =>
    intro entry mem
    rcases mem_append.1 mem with early | late
    · exact .inl (quiet entry early)
    rcases throws_bind past with looking | ⟨active, third, fourth, rfl, looked, onward⟩
    · exact failing_silent looking entry late
    obtain ⟨writes, rfl⟩ := returns_query looked
    cases active with
    | true => exact absurd onward not_throws_done
    | false =>
      rcases mem_append.1 late with looked' | late
      · rw [mem_singleton.1 looked']
        exact .inl rfl
      rcases throws_bind onward with issuing | ⟨session, fifth, sixth, rfl, -, ended⟩
      · obtain ⟨drawn, rest, rfl, inserting⟩ := throws_newId issuing
        rcases mem_cons.1 late with rfl | late
        · exact .inl trivial
        rcases throws_bind inserting with failing | ⟨row, seventh, eighth, rfl, -, ended⟩
        · exact failing_silent failing entry late
        · exact absurd ended not_throws_done
      · exact absurd ended not_throws_done

theorem signOut_throws (threw : Throws id (runSignOutPipeline environment rawJwt sessionId) log error) :
    ∀ entry ∈ log, Silent entry ∨ Lost entry := by
  unfold runSignOutPipeline at threw
  split at threw
  · exact absurd threw not_throws_done
  rcases throws_bind threw with finding | ⟨user, first, second, rfl, found, onward⟩
  · exact failing_silent finding
  obtain ⟨writes, rfl⟩ := returns_query found
  intro entry mem
  rcases mem_append.1 mem with early | late
  · rw [mem_singleton.1 early]
    exact .inl rfl
  cases user with
  | none => exact absurd onward not_throws_done
  | some user =>
    simp only at onward
    split at onward
    · exact absurd onward not_throws_done
    rcases throws_bind onward with finding | ⟨session, third, fourth, rfl, found', judging⟩
    · exact failing_silent finding entry late
    obtain ⟨writes', rfl⟩ := returns_query found'
    rcases mem_append.1 late with early | last
    · rw [mem_singleton.1 early]
      exact .inl rfl
    cases session with
    | none => exact absurd judging not_throws_done
    | some session =>
      simp only at judging
      split at judging
      · exact absurd judging not_throws_done
      split at judging
      · exact absurd judging not_throws_done
      split at judging
      · exact absurd judging not_throws_done
      obtain ⟨drawn, rest, rfl, timed⟩ := throws_newId judging
      rcases mem_cons.1 last with rfl | final
      · exact .inl trivial
      split at timed
      · exact absurd timed not_throws_done
      rcases throws_bind timed with marking | ⟨revoked, fifth, sixth, rfl, -, ended⟩
      · exact failing_silent marking entry final
      · cases revoked with
        | true | false => exact absurd ended not_throws_done

/-! ### Which request sends what -/

theorem program_asks_takeover (asks : Asks id (program environment call) log statement)
    (own : statement.ofTakeover = true) :
    ∃ rawJwt body, call = .takeoverConfirm rawJwt body ∧ Taken environment body log statement := by
  cases call with
  | takeoverConfirm rawJwt body => exact ⟨rawJwt, body, rfl, takeover_asks asks⟩
  | signIn rawJwt rawAttestation =>
    rcases signIn_asks asks with looks | ⟨_, authorized, drawn, _, _, _, rfl⟩
    · rw [looks.2] at own
      cases own
    · cases own
  | signOut rawJwt sessionId =>
    rcases (signOut_sends environment rawJwt sessionId).asks asks with looks | ⟨_, _, rfl⟩
    · rw [looks.2] at own
      cases own
    · cases own

/-- **A session is inserted by a sign-in that saw none live, or by a takeover that superseded one.** -/
theorem program_asks_session {row : AuthToken}
    (asks : Asks id (program environment call) log (.insertOperatorSession row)) :
    (∃ rawJwt body, call = .takeoverConfirm rawJwt body ∧
        Taken environment body log (.insertOperatorSession row)) ∨
      ∃ rawJwt rawAttestation first authorized drawn writes,
      call = .signIn rawJwt rawAttestation ∧ Quiet first ∧
      log =
        first ++
        [.answered (.activeOperatorSessionExists authorized.device.id authorized.device.storeId) false writes,
          .drew drawn] ∧ row = sessionRow environment authorized drawn := by
  cases call with
  | takeoverConfirm rawJwt body => exact .inl ⟨rawJwt, body, rfl, takeover_asks asks⟩
  | signIn rawJwt rawAttestation =>
    rcases signIn_asks asks with looks | ⟨first, authorized, drawn, writes, quiet, split, same⟩
    · cases looks.1
    · cases same
      exact .inr ⟨rawJwt, rawAttestation, first, authorized, drawn, writes, rfl, quiet, split, rfl⟩
  | signOut rawJwt sessionId =>
    rcases (signOut_sends environment rawJwt sessionId).asks asks with looks | ⟨_, _, wrong⟩
    · cases looks.1
    · cases wrong

end DataPulse.Operators
