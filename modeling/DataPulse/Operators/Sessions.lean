/-
**The sessions of runs that keep apart.**

Statements of one takeover come once each and in one order (`Stmt.stage`), so that what a takeover did is
found again in the history of all.
-/

import DataPulse.Operators.Takeovers

namespace DataPulse.Operators

open Lib Lib.Autocommit Lib.Prog Platform
open Auth (AuthToken)

variable {event : EventKey} {body : PosTakeoverConfirmInput} {row : OperatorToken}
  {statement : Stmt}
variable {operatorId : String} {log : Log}
variable {entry : LogEntry}
variable {first : Log} {pid : Nat}

/-! ### A takeover's statements, in order -/

/-- The place of a statement among those a takeover sends once; its look-ups and its audit row have
none. -/
def Stmt.stage : Stmt → Nat
  | insertTakeoverKey _ => 1
  | findTakeoverKey _ => 2
  | revokeActiveOperatorSession _ _ => 3
  | insertOperatorSession _ => 4
  | updateIdempotencyKeyWithSession _ _ => 5
  | _ => 0

theorem Stmt.stage_of_checks (checks : statement.checks = true) : statement.stage = 0 := by
  cases statement <;> first | rfl | cases checks

def Below (stage : Nat) (log : Log) : Prop :=
  ∀ entry ∈ log, ∀ statement, entry.statement = some statement → statement.stage < stage

variable {stage : Nat}

theorem Below.append {second : Log} (early : Below stage first) (late : Below stage second) :
    Below stage (first ++ second) := by
  intro entry mem
  rcases mem_append.1 mem with inside | inside
  · exact early entry inside
  · exact late entry inside

theorem Quiet.below (quiet : Quiet log) (positive : 0 < stage) : Below stage log := by
  intro entry mem statement asked
  rw [Stmt.stage_of_checks (quiet entry mem statement asked)]
  exact positive

variable {environment : Environment} {config : OperatorConfig}

theorem Entered.below (enters : Entered environment event operatorId log) (past : 2 < stage) :
    Below stage log := by
  cases enters with
  | reserved | found free => simp [Below, Entry.statement, Stmt.stage]; omega

theorem issued_below {authorized : Authorized} {superseded : Uuid} {drawn : Drawn} {writes : List Write}
    (past : 3 < stage) : Below stage (issued authorized superseded drawn writes) := by
  simp [Below, issued, Entry.statement, Stmt.stage, past]

/-- **Before a statement of a takeover come those of earlier stages.** -/
theorem Taken.below (taken : Taken environment body log statement) (staged : 0 < statement.stage) :
    Below statement.stage log := by
  cases taken with
  | check quiet checks =>
    rw [Stmt.stage_of_checks checks] at staged
    exact absurd staged (Nat.lt_irrefl 0)
  | reserve quiet => exact (quiet.below staged).append (by simp [Below, Entry.statement])
  | look quiet => exact (quiet.below staged).append (by simp [Below, Entry.statement, Stmt.stage])
  | supersede quiet enters => exact (quiet.below staged).append (enters.below (Nat.lt_succ_self 2))
  | issue quiet enters =>
    refine (quiet.below staged).append ((enters.below ?_).append (issued_below ?_))
    · show 2 < 4
      omega
    · show 3 < 4
      omega
  | attach quiet enters =>
    refine (quiet.below staged).append ((enters.below ?_).append ((issued_below ?_).append ?_))
    · show 2 < 5
      omega
    · show 3 < 5
      omega
    · simp [Below, Entry.statement, Stmt.stage]
  | replay | audit => exact absurd staged (Nat.lt_irrefl 0)

theorem Taken.inserts {token : AuthToken}
    (taken : Taken environment body log (.insertOperatorSession token)) :
    ∃ first entered authorized superseded drawn writes,
      Quiet first ∧ Entered environment (eventKey authorized.device body.eventId) body.operatorId entered ∧
      log = first ++ (entered ++ issued authorized superseded drawn writes) ∧
      token = sessionRow environment authorized drawn := by
  cases taken with
  | check quiet checks => cases checks
  | issue quiet enters => exact ⟨_, _, _, _, _, _, quiet, enters, rfl, rfl⟩

theorem gaveUp_cases (ended : gaveUp entry = true) :
    (∃ deviceId storeId, entry.statement = some (.revokeActiveOperatorSession deviceId storeId) ∧
        ∀ superseded writes,
        entry ≠ .answered (.revokeActiveOperatorSession deviceId storeId) (some superseded) writes) ∨
      ∃ token, entry.statement = some (.insertOperatorSession token) ∧ entry.writes = [] := by
  unfold gaveUp at ended
  split at ended
  · refine .inl ⟨_, _, rfl, fun superseded writes same => ?_⟩
    cases same
    cases ended
  · exact .inl ⟨_, _, rfl, nofun⟩
  · exact .inl ⟨_, _, rfl, nofun⟩
  · exact .inr ⟨_, rfl, rfl⟩
  · cases ended

theorem event_reserved (own : eventOf pid config.history = some event) :
    ∃ before moment after, config.history = before ++ moment :: after ∧ moment.pid = pid ∧
      reservedEvent moment.entry = some event := by
  obtain ⟨entry, mem, reserved⟩ := List.exists_of_findSome?_eq_some own
  obtain ⟨moment, inside, same, rfl⟩ := mem_logOf.1 mem
  obtain ⟨before, after, split⟩ := append_of_mem inside
  exact ⟨before, moment, after, split, same, reserved⟩

theorem reservedEvent_cases (reserved : reservedEvent entry = some event) :
    ∃ row added writes, entry = .answered (.insertTakeoverKey row) added writes ∧ row.toEventKey = event := by
  unfold reservedEvent at reserved
  split at reserved
  · exact ⟨_, _, _, rfl, Option.some.inj reserved⟩
  · cases reserved

theorem mem_created : row ∈ created entry ↔ .token row ∈ entry.writes := by
  rw [created, mem_filterMap]
  constructor
  · rintro ⟨write, mem, added⟩
    cases write with
    | token row' =>
      obtain rfl := Option.some.inj added
      exact mem
    | _ => cases added
  · exact fun mem => ⟨_, mem, rfl⟩

theorem entered_place {before : List Step} {rawJwt : String}
    (called : callOf config pid = some (.takeoverConfirm rawJwt body)) {entered rest : Log}
    (enters : Entered environment event body.operatorId entered)
    (logged : logOf pid before = first ++ (entered ++ rest)) :
    ∃ prior moment between, before = prior ++ moment :: between ∧ moment.pid = pid ∧
      entering environment config moment = some event := by
  have operator : operatorOf config pid = some body.operatorId := by rw [operatorOf, called]
  cases enters with
  | @reserved drawn writes =>
    have place : logOf pid before = (first ++ [.drew drawn]) ++ .answered (.insertTakeoverKey
        (keyRow environment event body.operatorId drawn)) true writes :: rest := by
      rw [logged, append_assoc]
      rfl
    obtain ⟨prior, moment, between, rfl, own, same, -, -⟩ := logOf_split place
    refine ⟨prior, moment, between, rfl, own, ?_⟩
    rw [entering, same, own, operator]
    rfl
  | @found drawn old writes writes' free =>
    have place : logOf pid before = (first ++ [.drew drawn, .answered
                (.insertTakeoverKey (keyRow environment event body.operatorId drawn)) false writes]) ++
          .answered (.findTakeoverKey event) old writes' :: rest := by
      rw [logged, append_assoc]
      rfl
    obtain ⟨prior, moment, between, rfl, own, same, -, -⟩ := logOf_split place
    refine ⟨prior, moment, between, rfl, own, ?_⟩
    rw [entering, same, own, operator]
    exact if_pos free

theorem Entered.reserves (enters : Entered environment event operatorId log) :
    ∃ entry ∈ log, reservedEvent entry = some event := by
  cases enters with
  | reserved | found free => exact ⟨_, mem_cons_of_mem _ mem_cons_self, rfl⟩

/-- **Of two takeovers of an event that keep apart, one gave up.** -/
theorem apart_entered (apart : Apart environment config) {first second rest rest' : List Step}
    {one other : Step} (split : config.history = first ++ one :: rest)
    (split' : config.history = second ++ other :: rest') (distinct : one.pid ≠ other.pid)
    (enters : entering environment config one = some event)
    (enters' : entering environment config other = some event) :
    (logOf one.pid config.history).any gaveUp = true ∨
      (logOf other.pid config.history).any gaveUp = true := by
  have onward : ∀ {early late : List Step} {pid : Nat}, config.history = early ++ late →
      (logOf pid early).any gaveUp = true → (logOf pid config.history).any gaveUp = true := by
    intro early late pid grown gave
    rw [grown, logOf_append, any_append, gave, Bool.true_or]
  rcases splits_order (split.symm.trans split') with ⟨-, rfl⟩ | ⟨between, rfl⟩ | ⟨between, rfl⟩
  · exact absurd rfl distinct
  · rw [Apart, split'] at apart
    refine .inl (onward split' ?_)
    exact apart.at.2 event enters' one (by simp) distinct enters
  · rw [Apart, split] at apart
    refine .inr (onward split ?_)
    exact apart.at.2 event enters other (by simp) (Ne.symm distinct) enters'

theorem sinceLook_split {pre mid : List Step} {look : Step}
    (unlooked : ∀ entry ∈ logOf look.pid pre, isLook entry = false) (looks : isLook look.entry = true) :
    sinceLook look.pid (pre ++ look :: mid) = look :: mid := by
  rw [sinceLook, List.dropWhile_append_of_pos, List.dropWhile_cons_of_neg]
  · simp [looks]
  · intro moment mem
    by_cases own : moment.pid = look.pid
    · have unseen := unlooked moment.entry (mem_logOf.2 ⟨moment, mem, own, rfl⟩)
      simp [unseen]
    · simp [own]

theorem Quiet.unlooked (quiet : Quiet log) : ∀ entry ∈ log, isLook entry = false := by
  intro entry mem
  have checks := quiet entry mem
  unfold isLook
  split
  · cases checks _ rfl
  · cases checks _ rfl
  · rfl

theorem Entered.unlooked (enters : Entered environment event operatorId log) : ∀ entry ∈ log, isLook entry =
    false := by
  cases enters with
  | reserved | found free => simp [isLook]

theorem inserted_place {history : List Step} (mem : .token row ∈ contents history) :
    ∃ before moment after, history = before ++ moment :: after ∧ .token row ∈ moment.entry.writes := by
  obtain ⟨moment, inside, inserts⟩ := mem_flatMap.1 mem
  obtain ⟨before, after, rfl⟩ := append_of_mem inside
  exact ⟨before, moment, after, rfl, inserts⟩

section Runs

variable {before after : List Step} {moment : Step}
variable (reachable : Reachable (backend environment) config)
include reachable

variable {second first rest' : List Step} {other one : Step}
variable {row' : OperatorToken} {rest : List Step} {rawJwt : String}

theorem taken_of (split : config.history = before ++ moment :: after)
    (asked : moment.entry.statement = some statement)
    (called : callOf config moment.pid = some (.takeoverConfirm rawJwt body)) :
    Taken environment body (logOf moment.pid before) statement := by
  obtain ⟨proc, found, asks⟩ := reachable.asked split asked
  rw [callOf, found, map_some] at called
  rw [Option.some.inj called] at asks
  exact takeover_asks asks

/-- **A takeover sends a statement of a stage once.** -/
theorem once (split : config.history = first ++ one :: rest)
    (split' : config.history = second ++ other :: rest') (own : one.pid = other.pid)
    (called : callOf config one.pid = some (.takeoverConfirm rawJwt body)) {statement' : Stmt}
    (asked : one.entry.statement = some statement) (asked' : other.entry.statement = some statement')
    (level : statement.stage = statement'.stage) (staged : 0 < statement.stage) :
    first = second ∧ one = other := by
  rcases splits_order (split.symm.trans split') with here | ⟨between, rfl⟩ | ⟨between, rfl⟩
  · exact here
  · have early : one.entry ∈ logOf other.pid (first ++ one :: between) := mem_logOf.2 ⟨one, by simp, own, rfl⟩
    rw [own] at called
    have below := (taken_of reachable split' asked' called).below (level ▸ staged) _ early _ asked
    omega
  · have early : other.entry ∈ logOf one.pid (second ++ other :: between) :=
      mem_logOf.2 ⟨other, by simp, own.symm, rfl⟩
    have below := (taken_of reachable split asked called).below staged _ early _ asked'
    omega

/-! ### The event of a takeover -/

theorem reserved_called (split : config.history = before ++ moment :: after)
    (reserved : reservedEvent moment.entry = some event) :
    ∃ rawJwt body, callOf config moment.pid = some (.takeoverConfirm rawJwt body) := by
  obtain ⟨row, added, writes, same, -⟩ := reservedEvent_cases reserved
  obtain ⟨rawJwt, body, called, -⟩ := taken_at reachable split
    (show moment.entry.statement = some (.insertTakeoverKey row) by rw [same]; rfl) rfl
  exact ⟨rawJwt, body, called⟩

theorem reserved_once (split : config.history = first ++ one :: rest)
    (split' : config.history = second ++ other :: rest') (own : one.pid = other.pid) {event' : EventKey}
    (reserved : reservedEvent one.entry = some event) (reserved' : reservedEvent other.entry = some event') :
    first = second ∧ one = other := by
  obtain ⟨rawJwt, body, called⟩ := reserved_called reachable split reserved
  obtain ⟨row, added, writes, same, -⟩ := reservedEvent_cases reserved
  obtain ⟨row', inserted', writes', same', -⟩ := reservedEvent_cases reserved'
  have asked : one.entry.statement = some (.insertTakeoverKey row) := by rw [same]; rfl
  have asked' : other.entry.statement = some (.insertTakeoverKey row') := by rw [same']; rfl
  exact once reachable split split' own called asked asked' rfl Nat.one_pos

/-- **A takeover that inserted a session entered its event, and superseded another before.** -/
theorem took (split : config.history = before ++ moment :: after) (inserts : .token row ∈ moment.entry.writes)
    (own : eventOf moment.pid config.history = some event) :
    ∃ rawJwt body first entered authorized superseded drawn writes, callOf config moment.pid =
      some (.takeoverConfirm rawJwt body) ∧ Quiet first ∧ Entered environment event body.operatorId entered ∧
      logOf moment.pid before = first ++ (entered ++ issued authorized superseded drawn writes) := by
  obtain ⟨prior, asking, later, reserving, same, reserved⟩ := event_reserved own
  obtain ⟨rawJwt, body, called⟩ := reserved_called reachable reserving reserved
  rw [same] at called
  have asked := (token_asked reachable split inserts).2
  obtain ⟨first, entered, authorized, superseded, drawn, writes, quiet, enters, logged, -⟩ :=
    (taken_of reachable split asked called).inserts
  obtain ⟨entry, mem, reserves⟩ := enters.reserves
  have inside : entry ∈ logOf moment.pid before := by
    rw [logged]
    exact mem_append_right _ (mem_append_left _ mem)
  obtain ⟨other, member', same', rfl⟩ := mem_logOf.1 inside
  obtain ⟨pre, post, rfl⟩ := append_of_mem member'
  rw [append_assoc, cons_append] at split
  obtain ⟨-, rfl⟩ := reserved_once reachable reserving split (same.trans same'.symm) reserved reserves
  obtain rfl := mem_unique reserved reserves
  exact ⟨rawJwt, body, first, entered, authorized, superseded, drawn, writes, called, quiet, enters, logged⟩

theorem took_on (split : config.history = before ++ moment :: after)
    (inserts : .token row ∈ moment.entry.writes) (own : eventOf moment.pid config.history = some event) :
    (logOf moment.pid config.history).any gaveUp = false := by
  obtain ⟨rawJwt, body, first, entered, authorized, superseded, drawn, writes, called, quiet, enters,
    logged⟩ := took reachable split inserts own
  refine any_eq_false.2 fun entry mem ended => ?_
  obtain ⟨other, inside, same, rfl⟩ := mem_logOf.1 mem
  obtain ⟨prior, later, split'⟩ := append_of_mem inside
  rcases gaveUp_cases ended with ⟨deviceId, storeId, asked, differs⟩ | ⟨token, asked, nothing⟩
  · -- its revocation is the one that gave a session
    have place : logOf moment.pid before = (first ++ entered) ++ .answered (.revokeActiveOperatorSession
        authorized.device.id authorized.device.storeId) (some superseded) writes :: [.drew drawn] := by
      rw [logged, append_assoc]
      rfl
    obtain ⟨pre, revoking, between, rfl, own', revoked, -, -⟩ := logOf_split place
    rw [append_assoc, cons_append] at split
    have asked' : revoking.entry.statement = some
        (.revokeActiveOperatorSession authorized.device.id authorized.device.storeId) := by
      rw [revoked]
      rfl
    rw [← same] at called
    obtain ⟨-, rfl⟩ :=
      once reachable split' split (same.trans own'.symm) called asked asked' rfl (Nat.succ_pos _)
    rw [asked'] at asked
    cases asked
    exact differs _ _ revoked
  · -- its INSERT is the one that ran
    rw [← same] at called
    have asked' := (token_asked reachable split inserts).2
    obtain ⟨-, rfl⟩ := once reachable split' split same called asked asked' rfl (Nat.succ_pos _)
    rw [nothing] at inserts
    cases inserts

/-- **Two sessions that takeovers of one event inserted are one.** -/
theorem apart_taken (apart : Apart environment config) (split : config.history = first ++ one :: rest)
    (split' : config.history = second ++ other :: rest') (inserts : .token row ∈ one.entry.writes)
    (inserts' : .token row' ∈ other.entry.writes) (own : eventOf one.pid config.history = some event)
    (own' : eventOf other.pid config.history = some event) : first = second ∧ one = other := by
  obtain ⟨rawJwt, body, quiet, entered, authorized, superseded, drawn, writes, called, -, enters,
    logged⟩ := took reachable split inserts own
  obtain ⟨rawJwt', body', quiet', entered', authorized', superseded', drawn', writes', called', -, enters',
    logged'⟩ := took reachable split' inserts' own'
  by_cases same : one.pid = other.pid
  · exact once reachable split split' same called (token_asked reachable split inserts).2
      (token_asked reachable split' inserts').2 rfl (Nat.succ_pos _)
  obtain ⟨early, entry, between, grown, pid, entering⟩ := entered_place called enters logged
  obtain ⟨early', entry', between', grown', pid', entering'⟩ := entered_place called' enters' logged'
  have place : config.history = early ++ entry :: (between ++ one :: rest) := by rw [split, grown]; simp
  have place' : config.history = early' ++ entry' :: (between' ++ other :: rest') := by
    rw [split', grown']
    simp
  have distinct : entry.pid ≠ entry'.pid := by
    rw [pid, pid']
    exact same
  exfalso
  rcases apart_entered apart place place' distinct entering entering' with gave | gave
  · rw [pid, took_on reachable split inserts own] at gave
    cases gave
  · rw [pid', took_on reachable split' inserts' own'] at gave
    cases gave

/-- **A takeover takes effect at most once.** -/
theorem apart_taken_once (apart : Apart environment config) : TakenOnce config := by
  refine fun event => countP_le_one fun before one between other after split counted counted' => ?_
  simp only [and_eq_true, not_eq_true', decide_eq_true_eq, List.isEmpty_eq_false_iff_exists_mem]
    at counted counted'
  obtain ⟨⟨row, mem⟩, own⟩ := counted
  obtain ⟨⟨row', member'⟩, own'⟩ := counted'
  have split' : config.history = (before ++ one :: between) ++ other :: after := by
    rw [split, append_assoc, cons_append]
  have same := apart_taken reachable apart split split' (mem_created.1 mem) (mem_created.1 member') own own'
  have longer := congrArg List.length same.1
  simp at longer

/-! ### One session at a device -/

theorem inserted_fresh (split : config.history = before ++ moment :: after)
    (inserts : .token row ∈ moment.entry.writes) {prior : OperatorToken}
    (added : .token prior ∈ contents before) : prior.id ≠ row.id := by
  intro same
  have held : row.id ∈ (tablesOf before).tokens.map fun token => token.id := by
    rw [tablesOf, Tables.ids_after]
    refine mem_append_right _ (mem_map.2 ⟨prior, ?_, same⟩)
    exact mem_filterMap.2 ⟨_, added, rfl⟩
  rcases wrote_cases reachable split with nothing | ⟨statement, asked, ran⟩
  · rw [nothing] at inserts
    cases inserts
  · rw [(token_asked reachable split inserts).1] at ran
    cases ran with
    | token fresh => exact fresh held

/-- **A session is inserted when its request has seen that no other is live.** -/
theorem inserted_look (split : config.history = before ++ moment :: after)
    (inserts : .token row ∈ moment.entry.writes) :
    ∃ pre look mid deviceId storeId, before = pre ++ look :: mid ∧ sinceLook moment.pid before = look :: mid ∧
      row.deviceId = some deviceId ∧ row.storeId = some storeId ∧
      ∀ other ∈ (tablesOf (pre ++ [look])).tokens, other.liveAt deviceId storeId look.now = false := by
  obtain ⟨writes, asked⟩ := token_asked reachable split inserts
  obtain ⟨proc, found, asks⟩ := reachable.asked split asked
  have onward : ∀ {pre mid : List Step} {look : Step} {statement : Stmt} {reply : Reply statement}
      {writes : List Write}, before = pre ++ look :: mid → look.entry = .answered statement reply writes →
        (tablesOf (pre ++ [look])).tokens = ((tablesOf pre).after writes).tokens := by
    intro pre mid look statement reply writes grown entry
    rw [tablesOf_append, contents_cons, contents_nil, append_nil, entry]
    rfl
  rcases program_asks_session asks with ⟨rawJwt, body, -, taken⟩ |
    ⟨rawJwt, attestation, first, authorized, drawn, writes', -, quiet, logged, same⟩
  · obtain ⟨first, entered, authorized, superseded, drawn, writes', quiet, enters, logged, same⟩ := taken.inserts
    have place : logOf moment.pid before = (first ++ entered) ++ .answered (.revokeActiveOperatorSession
        authorized.device.id authorized.device.storeId) (some superseded) writes' :: [.drew drawn] := by
      rw [logged, append_assoc]
      rfl
    obtain ⟨pre, look, mid, grown, own, revoked, early, -⟩ := logOf_split place
    refine ⟨pre, look, mid, authorized.device.id, authorized.device.storeId, grown, ?_, ?_, ?_, ?_⟩
    · rw [grown, ← own]
      refine sinceLook_split ?_ (by rw [revoked]; rfl)
      rw [own, early]
      intro entry mem
      rcases mem_append.1 mem with inside | inside
      · exact quiet.unlooked entry inside
      · exact enters.unlooked entry inside
    · exact congrArg AuthToken.deviceId same
    · exact congrArg AuthToken.storeId same
    · rw [onward grown revoked]
      rw [grown, append_assoc, cons_append] at split
      exact Tables.none_live_after_revoke (executed reachable split revoked)
  · obtain ⟨pre, look, mid, grown, own, checked, early, -⟩ := logOf_split logged
    refine ⟨pre, look, mid, authorized.device.id, authorized.device.storeId, grown, ?_, ?_, ?_, ?_⟩
    · rw [grown, ← own]
      refine sinceLook_split ?_ (by rw [checked]; rfl)
      rw [own, early]
      exact quiet.unlooked
    · exact congrArg AuthToken.deviceId same
    · exact congrArg AuthToken.storeId same
    · rw [onward grown checked]
      rw [grown, append_assoc, cons_append] at split
      exact Tables.none_live_of_check (executed reachable split checked)

/-- **Of two sessions of one device and store that keep apart, the earlier one is not live.** -/
theorem apart_not_both (apart : Apart environment config) {between : List Step}
    (split : config.history = before ++ one :: (between ++ other :: after)) {origin origin' : OperatorToken}
    (inserts : .token origin ∈ one.entry.writes) (inserts' : .token origin' ∈ other.entry.writes)
    (descends : Descends origin row) (descends' : Descends origin' row')
    (mem : row ∈ (tablesOf config.history).tokens) {deviceId storeId : Uuid}
    (live : row.liveAt deviceId storeId config.now = true)
    (live' : row'.liveAt deviceId storeId config.now = true) : False := by
  have place : config.history = (before ++ one :: between) ++ other :: after := by
    rw [split, append_assoc, cons_append]
  obtain ⟨pre, look, mid, deviceId', storeId', grown, since, device, store, unlive⟩ :=
    inserted_look reachable place inserts'
  obtain ⟨ownDevice, ownStore⟩ := OperatorToken.live_at (descends'.live (Int.le_refl _) live')
  obtain rfl := mem_unique device ownDevice
  obtain rfl := mem_unique store ownStore
  -- the other session was there when this one's request looked, or was inserted since
  have rest : config.history = (pre ++ [look]) ++ (mid ++ other :: after) := by
    rw [place, grown]
    simp
  rw [rest, tablesOf_append] at mem
  obtain ⟨old, origins, onward⟩ := Tables.after_tokens mem
  obtain ⟨oldDevice, oldStore⟩ := OperatorToken.live_at (onward.live (Int.le_refl _) live)
  rcases origins with held | inserted
  · have past : look.now ≤ config.now := reachable.clock.2 look (by rw [rest]; simp)
    have dead := unlive old held
    rw [onward.live past live] at dead
    cases dead
  rw [contents_append, contents_cons, mem_append] at inserted
  rcases inserted with meanwhile | late
  · -- inserted since the look
    obtain ⟨early, moment, later, rfl, inserts''⟩ := inserted_place meanwhile
    rw [Apart, place] at apart
    refine apart.at.1 origin' (mem_created.2 inserts') moment ?_ old (mem_created.2 inserts'') ?_
    · rw [since]
      simp
    · exact ⟨oldDevice.trans ownDevice.symm, oldStore.trans ownStore.symm⟩
  · -- inserted again: its id was taken
    have same : old.id = origin.id := by
      have first := congrArg (fun token : OperatorToken => token.id) onward.same
      have second := congrArg (fun token : OperatorToken => token.id) descends.same
      exact first.symm.trans second
    rw [← contents_cons] at late
    obtain ⟨early, moment, later, tail, inserts''⟩ := inserted_place late
    have again : config.history = (before ++ one :: (between ++ early)) ++ moment :: later := by
      rw [split, tail]
      simp
    refine inserted_fresh reachable again inserts'' ?_ same.symm
    rw [contents_append, contents_cons]
    exact mem_append_right _ (mem_append_left _ inserts)

/-- **At most one session of a device and store is live.** -/
theorem apart_one_live (apart : Apart environment config) : OneLive config := by
  refine fun deviceId storeId => countP_le_one fun before row between row' after split live live' => ?_
  have ids := (keyed reachable (show config.history = config.history ++ [] by simp)).ids
  have origin : ∀ row ∈ (tablesOf config.history).tokens, ∃ origin early moment later,
      config.history = early ++ moment :: later ∧ .token origin ∈ moment.entry.writes ∧ Descends origin row := by
    intro row mem
    obtain ⟨origin, origins, descends⟩ := Tables.after_tokens mem
    rcases origins with none | inserted
    · cases none
    · obtain ⟨early, moment, later, grown, inserts⟩ := inserted_place inserted
      exact ⟨origin, early, moment, later, grown, inserts, descends⟩
  have mem : row ∈ (tablesOf config.history).tokens := by rw [split]; simp
  have member' : row' ∈ (tablesOf config.history).tokens := by rw [split]; simp
  obtain ⟨first, early, one, later, grown, inserts, descends⟩ := origin row mem
  obtain ⟨second, early', other, later', grown', inserts', descends'⟩ := origin row' member'
  rcases splits_order (grown.symm.trans grown') with ⟨rfl, rfl⟩ | ⟨gap, rfl⟩ | ⟨gap, rfl⟩
  · -- one statement inserts one session, and the two have unlike ids
    rw [(token_asked reachable grown inserts).1] at inserts'
    cases mem_singleton.1 inserts'
    have same := congrArg (fun token : OperatorToken => token.id) descends.same
    have same' := congrArg (fun token : OperatorToken => token.id) descends'.same
    rw [split, map_append, map_cons, map_append, map_cons] at ids
    have apart' := (nodup_cons.1 (nodup_append.1 ids).2.1).1
    exact apart' (mem_append_right _ (mem_cons.2 (.inl (same.trans same'.symm))))
  · rw [append_assoc, cons_append] at grown'
    exact apart_not_both reachable apart grown' inserts inserts' descends descends' mem live live'
  · rw [append_assoc, cons_append] at grown
    exact apart_not_both reachable apart grown inserts' inserts descends' descends member' live' live

end Runs

end DataPulse.Operators
