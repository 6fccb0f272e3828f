/-
**Takeovers of one event, in runs that keep apart.**

The session of an event is attached to its key by the one takeover that inserted it, and stays attached. So
every takeover that is answered with a session is answered with this one.

* `sessions_hold`: what holds of every run, and what holds of those that keep apart.
-/

import DataPulse.Operators.Sessions

namespace DataPulse.Operators

open Lib Lib.Autocommit Lib.Prog Platform
open Auth (AuthToken)

variable {environment : Environment} {config : OperatorConfig}
variable {operatorId : String} {event : EventKey} {row : TakeoverKey} {sessionId : Uuid}
  {entered first rest : Log} {pid : Nat}
variable {body : PosTakeoverConfirmInput}
variable {history : List Step} {log : Log}

/-! ### The event of a log -/

theorem Quiet.unreserved (quiet : Quiet log) : log.findSome? reservedEvent = none := by
  refine List.findSome?_eq_none_iff.2 fun entry mem => ?_
  cases reserved : reservedEvent entry with
  | none => rfl
  | some event =>
    obtain ⟨row, added, writes, rfl, -⟩ := reservedEvent_cases reserved
    cases quiet _ mem _ rfl

variable {drawn : Drawn} {added : Bool}

theorem eventOf_opens {writes : List Write} (quiet : Quiet first)
    (logged : logOf pid history =
      first ++ (.drew drawn :: .answered (.insertTakeoverKey row) added writes :: rest)) :
    eventOf pid history = some row.toEventKey := by
  rw [eventOf, logged, List.findSome?_append, quiet.unreserved]
  rfl

theorem Entered.opens (enters : Entered environment event operatorId entered) :
    ∃ drawn added writes rest, entered =
      .drew drawn ::
      .answered (.insertTakeoverKey (keyRow environment event operatorId drawn)) added writes :: rest := by
  cases enters with
  | reserved | found free => exact ⟨_, _, _, _, rfl⟩

theorem Entered.eventOf (enters : Entered environment event operatorId entered) (quiet : Quiet first)
    (logged : logOf pid history = first ++ (entered ++ rest)) : eventOf pid history = some event := by
  obtain ⟨drawn, added, writes, tail, rfl⟩ := enters.opens
  exact eventOf_opens quiet logged

theorem Taken.attaches
    (taken : Taken environment body log (.updateIdempotencyKeyWithSession event sessionId)) :
    ∃ first entered authorized superseded drawn writes writes',
      ∃ row : OperatorToken, Quiet first ∧ Entered environment event body.operatorId entered ∧
      log =
        first ++
        (entered ++
          (issued authorized superseded drawn writes ++
            [.answered (.insertOperatorSession (sessionRow environment authorized drawn)) row writes'])) ∧
      sessionId = row.id := by
  cases taken with
  | check quiet checks => cases checks
  | attach quiet enters => exact ⟨_, _, _, _, _, _, _, _, quiet, enters, rfl, rfl⟩

theorem Taken.reserves (taken : Taken environment body log (.insertTakeoverKey row)) :
    ∃ (first : Log) (authorized : Authorized) (drawn : Drawn), Quiet first ∧ log = first ++ [.drew drawn] ∧
      row = keyRow environment (eventKey authorized.device body.eventId) body.operatorId drawn := by
  cases taken with
  | check quiet checks => cases checks
  | reserve quiet => exact ⟨_, _, _, quiet, rfl, rfl⟩

theorem done_before {before after early later : List Step} {moment last : Step} {first : Nat}
    (split : config.history = before ++ moment :: after)
    (ended : logOf first before = logOf first config.history)
    (place : config.history = early ++ last :: later) (own : last.pid = first) :
    ∃ between, before = early ++ last :: between := by
  have none_after : logOf first (moment :: after) = [] := by
    rw [split, logOf_append] at ended
    exact List.self_eq_append_right.1 ended
  rcases splits_order (place.symm.trans split) with ⟨rfl, rfl⟩ | ⟨between, rfl⟩ | ⟨between, rfl⟩
  · rw [← own, logOf_own] at none_after
    cases none_after
  · exact ⟨between, rfl⟩
  · have tail : moment :: after = moment :: (between ++ last :: later) := by
      have same := split.symm.trans place
      rw [append_assoc] at same
      exact List.append_cancel_left same
    rw [tail, ← cons_append, logOf_append, ← own, logOf_own] at none_after
    exact absurd none_after (by simp)

theorem duplicate_cases {existing : Option TakeoverKey}
    (duplicate : checkKey environment operatorId existing = .duplicate sessionId) :
    ∃ key, existing = some key ∧ key.requestHash = environment.hashToken operatorId ∧
      key.sessionId = some sessionId := by
  unfold checkKey at duplicate
  split at duplicate
  · cases duplicate
  · rename_i key
    split_ifs at duplicate with differs
    split at duplicate
    · cases duplicate
    · rename_i sessionId' session
      cases duplicate
      exact ⟨key, rfl, not_not.1 differs, session⟩

section Runs

variable {before after : List Step} {moment : Step}
variable (reachable : Reachable (backend environment) config)
include reachable

variable {requestHash : Auth.Digest}
variable {writes writes' : List Write} {existing : Option TakeoverKey}

/-! ### What is attached -/

/-- **A session is attached by the takeover that inserted it.** -/
theorem attached_made (split : config.history = before ++ moment :: after)
    (attaches : .attached event sessionId ∈ moment.entry.writes) :
    ∃ early making between,
      ∃ row : OperatorToken, before = early ++ making :: between ∧ making.entry.writes = [.token row] ∧
      row.id = sessionId ∧ eventOf making.pid config.history = some event := by
  obtain ⟨rawJwt, body, -, taken⟩ := taken_at reachable split (attached_asked reachable split attaches) rfl
  obtain ⟨first, entered, authorized, superseded, drawn, writes, writes', row, quiet, enters, logged, rfl⟩ :=
    taken.attaches
  have place : logOf moment.pid before = (first ++ (entered ++ issued authorized superseded drawn writes)) ++
      .answered (.insertOperatorSession (sessionRow environment authorized drawn)) row writes' :: [] := by
    rw [logged]
    simp
  have own := enters.eventOf quiet
    (show logOf moment.pid config.history = first ++ (entered ++ (issued authorized superseded drawn writes ++
        .answered (.insertOperatorSession (sessionRow environment authorized drawn)) row writes' ::
          logOf moment.pid (moment :: after))) by rw [split, logOf_append, logged]; simp)
  obtain ⟨early, making, between, rfl, same, added, -, -⟩ := logOf_split place
  rw [append_assoc, cons_append] at split
  obtain ⟨rfl, -⟩ := Tables.insertToken_ok (executed reachable split added)
  rw [← same] at own
  exact ⟨early, making, between, row, rfl, by rw [added]; rfl, rfl, own⟩

/-- **Nothing else is attached to an event.** -/
theorem attached_alone (apart : Apart environment config) {first second rest rest' : List Step}
    {one other : Step} (split : config.history = first ++ one :: rest)
    (split' : config.history = second ++ other :: rest') {sessionId' : Uuid}
    (attaches : .attached event sessionId ∈ one.entry.writes)
    (attaches' : .attached event sessionId' ∈ other.entry.writes) : sessionId' = sessionId := by
  obtain ⟨early, making, between, row, rfl, inserts, rfl, own⟩ := attached_made reachable split attaches
  obtain ⟨early', making', between', row', rfl, inserts', rfl, own'⟩ := attached_made reachable split' attaches'
  rw [append_assoc, cons_append] at split split'
  have token : .token row ∈ making.entry.writes := by rw [inserts]; exact mem_singleton_self _
  have token' : .token row' ∈ making'.entry.writes := by rw [inserts']; exact mem_singleton_self _
  obtain ⟨-, rfl⟩ := apart_taken reachable apart split split' token token' own own'
  rw [inserts] at inserts'
  cases inserts'
  rfl

theorem attached_wrote (split : config.history = before ++ after)
    (attached : (tablesOf before).Attached event sessionId requestHash) :
    .attached event sessionId ∈ contents before := by
  obtain ⟨row, mem, rfl, session, -⟩ := attached
  obtain ⟨old, origins, own, -, kept⟩ := Tables.after_keys mem
  rcases kept with kept | ⟨sessionId', wrote, same⟩
  · rcases origins with none | inserted
    · cases none
    · obtain ⟨moment, inside, inserts⟩ := mem_flatMap.1 inserted
      obtain ⟨early, later, rfl⟩ := append_of_mem inside
      rw [append_assoc, cons_append] at split
      obtain ⟨rawJwt, body, -, taken⟩ := taken_at reachable split (key_asked reachable split inserts) rfl
      obtain ⟨_, authorized, drawn, -, -, rfl⟩ := taken.reserves
      rw [kept] at session
      cases session
  · rw [session] at same
    rwa [Option.some.inj same]

/-- **What is attached stays attached.** -/
theorem attached_stays (apart : Apart environment config) {between : List Step}
    (split : config.history = before ++ (between ++ after))
    (attached : (tablesOf before).Attached event sessionId requestHash) :
    (tablesOf (before ++ between)).Attached event sessionId requestHash := by
  rw [tablesOf_append]
  refine attached.kept fun other wrote => ?_
  obtain ⟨one, inside, attaches⟩ := mem_flatMap.1 (attached_wrote reachable split attached)
  obtain ⟨two, inside', attaches'⟩ := mem_flatMap.1 wrote
  obtain ⟨first, rest, rfl⟩ := append_of_mem inside
  obtain ⟨second, rest', rfl⟩ := append_of_mem inside'
  refine attached_alone reachable apart
    (show config.history = first ++ one :: (rest ++ (second ++ two :: rest' ++ after)) by rw [split]; simp)
    (show config.history = (first ++ one :: rest ++ second) ++ two :: (rest' ++ after) by rw [split]; simp)
    attaches attaches'

/-! ### What is answered -/

theorem outcome_confirmed {rawJwt : String} {body : PosTakeoverConfirmInput}
    (called : callOf config pid = some (.takeoverConfirm rawJwt body)) {outcome : Outcome}
    (ended : outcomeOf config pid = some outcome) :
    Confirmed environment body (logOf pid config.history) outcome := by
  unfold outcomeOf at ended
  split at ended
  · rename_i call rest outcome' found
    cases ended
    rw [callOf, found, map_some] at called
    have gave := reachable.returned found rfl
    rw [Option.some.inj called] at gave
    exact takeover_returns gave
  · cases ended

theorem session_confirmed (answered : sessionOf config pid = some sessionId) :
    ∃ body operator session, operatorOf config pid = some body.operatorId ∧
      Confirmed environment body (logOf pid config.history) (.signedIn operator session) ∧
      session.id = sessionId := by
  unfold sessionOf at answered
  split at answered
  · rename_i operatorId operator session own ended
    cases called : callOf config pid with
    | none =>
      rw [operatorOf, called] at own
      cases own
    | some call =>
      rw [operatorOf, called] at own
      cases call with
      | takeoverConfirm rawJwt body =>
        refine ⟨body, operator, session, ?_, outcome_confirmed reachable called ended, Option.some.inj answered⟩
        rw [operatorOf, called]
      | signIn rawJwt attestation | signOut rawJwt sessionId => cases own
  · cases answered

theorem entered_held (split : config.history = before ++ after)
    (enters : Entered environment event operatorId entered)
    (logged : logOf pid before = first ++ (entered ++ rest)) :
    (tablesOf before).Held event (environment.hashToken operatorId) := by
  cases enters with
  | @reserved drawn writes =>
    have place : logOf pid before = (first ++ [.drew drawn]) ++ .answered (.insertTakeoverKey
        (keyRow environment event operatorId drawn)) true writes :: rest := by
      rw [logged, append_assoc]
      rfl
    obtain ⟨early, moment, later, rfl, -, added, -, -⟩ := logOf_split place
    rw [append_assoc, cons_append] at split
    obtain rfl := reserved_writes reachable split added
    have wrote : .key (keyRow environment event operatorId drawn) ∈ contents (early ++ moment :: later) := by
      rw [contents_append, contents_cons, added]
      exact mem_append_right _ (mem_append_left _ (mem_singleton_self _))
    exact Tables.held_of_key wrote
  | @found drawn existing writes writes' free =>
    have place : logOf pid before = (first ++ [.drew drawn,
              .answered (.insertTakeoverKey (keyRow environment event operatorId drawn)) false writes]) ++
          .answered (.findTakeoverKey event) existing writes' :: rest := by
      rw [logged, append_assoc]
      rfl
    obtain ⟨early, moment, later, rfl, -, looked, prior, -⟩ := logOf_split place
    rw [append_assoc, cons_append] at split
    have found := (Tables.found_key (executed reachable split looked)).1
    rw [tablesOf_append]
    refine Tables.Held.kept ?_ _
    cases existing with
    | none =>
      -- the key that was in the way is still there
      have place' : logOf pid early = (first ++ [.drew drawn]) ++ .answered (.insertTakeoverKey
          (keyRow environment event operatorId drawn)) false writes :: [] := by
        rw [prior, append_assoc]
        rfl
      obtain ⟨early', moment', later', rfl, -, added, -, -⟩ := logOf_split place'
      rw [append_assoc, cons_append] at split
      obtain ⟨requestHash, held⟩ := Tables.taken_of_insertKey (executed reachable split added)
      obtain ⟨key, mem, own, -⟩ := held.kept (contents (moment' :: later'))
      rw [← tablesOf_append] at mem
      have missing := find?_eq_none.1 found.symm key mem
      rw [decide_eq_true_eq] at missing
      exact absurd own missing
    | some row =>
      have passes := find?_some found.symm
      refine ⟨row, mem_of_find?_eq_some found.symm, of_decide_eq_true passes, ?_⟩
      by_contra differs
      rw [checkKey, if_pos differs] at free
      cases free

theorem duplicate_attached (split : config.history = before ++ moment :: after)
    (looked : moment.entry = .answered (.findTakeoverKey event) existing writes)
    (duplicate : checkKey environment operatorId existing = .duplicate sessionId) :
    (tablesOf before).Attached event sessionId (environment.hashToken operatorId) := by
  obtain ⟨key, rfl, hash, session⟩ := duplicate_cases duplicate
  have found := (Tables.found_key (executed reachable split looked)).1.symm
  have passes := find?_some found
  exact ⟨key, mem_of_find?_eq_some found, of_decide_eq_true passes, session, hash⟩

theorem found_id {row : OperatorToken}
    (logged : logOf pid config.history =
      first ++ .answered (.findOperatorSession sessionId) (some row) writes :: rest) :
    row.id = sessionId := by
  obtain ⟨early, look, later, split, -, found, -, -⟩ := logOf_split logged
  have passes := find?_some (Tables.found_session (executed reachable split found)).1.symm
  exact of_decide_eq_true passes

/-- **What a takeover was answered is attached to its event**, from a step of its own on. -/
theorem settled (own : eventOf pid config.history = some event)
    (answered : sessionOf config pid = some sessionId) :
    ∃ operatorId early last later,
      operatorOf config pid = some operatorId ∧ config.history = early ++ last :: later ∧ last.pid = pid ∧
      (tablesOf (early ++ [last])).Attached event sessionId (environment.hashToken operatorId) := by
  obtain ⟨body, operator, session, operator', confirmed, rfl⟩ := session_confirmed reachable answered
  generalize logged : logOf pid config.history = log at confirmed
  generalize ended : Outcome.signedIn operator session = outcome at confirmed
  cases confirmed with
  | unauthorized quiet | conflict quiet differs | missing quiet duplicate | finished quiet duplicate finished
  | vacant quiet enters => cases ended
  | @replayed first authorized drawn drawn' existing sessionId row writes writes' writes'' quiet duplicate =>
    cases ended
    obtain rfl := Option.some.inj (own.symm.trans (eventOf_opens quiet logged))
    have looking := logged.trans (append_assoc first [_, _] [_, _, _]).symm
    have finding := logged.trans (append_assoc first [_, _, _] [_, _]).symm
    obtain ⟨early, last, later, split, same, looked, -, -⟩ := logOf_split looking
    refine ⟨body.operatorId, early, last, later, operator', split, same, ?_⟩
    have attached := duplicate_attached reachable split looked duplicate
    have unchanged := (Tables.found_key (executed reachable split looked)).2
    rw [tablesOf_append, contents_cons, contents_nil, append_nil, looked, found_id reachable finding]
    show ((tablesOf early).after writes').Attached _ _ _
    rw [unchanged]
    exact attached
  | @superseded first entered rest authorized superseded drawn row writes writes' writes'' quiet enters =>
    cases ended
    obtain rfl := Option.some.inj (own.symm.trans (enters.eventOf quiet logged))
    have place : logOf pid config.history =
        (first ++ (entered ++ (issued authorized superseded drawn writes ++ [.answered
                      (.insertOperatorSession (sessionRow environment authorized drawn)) row writes']))) ++
        .answered (.updateIdempotencyKeyWithSession (eventKey authorized.device body.eventId) row.id) ()
          writes'' :: rest := by
      rw [logged]
      simp
    obtain ⟨early, last, later, split, same, attached, prior, -⟩ := logOf_split place
    refine ⟨body.operatorId, early, last, later, operator', split, same, ?_⟩
    rw [tablesOf_append, contents_cons, contents_nil, append_nil, attached]
    exact Tables.attached_of_held (entered_held reachable split enters prior) (executed reachable split attached)

/-- **All takeovers of an event are answered with one session.** -/
theorem apart_same_session (apart : Apart environment config) : SameSession config := by
  intro first second event sessionId sessionId' own answered own' answered'
  obtain ⟨operatorId, early, last, later, -, split, -, attached⟩ := settled reachable own answered
  obtain ⟨operatorId', early', last', later', -, split', -, attached'⟩ := settled reachable own' answered'
  have place : config.history = (early ++ [last]) ++ later := by rw [split]; simp
  have place' : config.history = (early' ++ [last']) ++ later' := by rw [split']; simp
  obtain ⟨one, inside, attaches⟩ := mem_flatMap.1 (attached_wrote reachable place attached)
  obtain ⟨two, inside', attaches'⟩ := mem_flatMap.1 (attached_wrote reachable place' attached')
  obtain ⟨before, after, grown⟩ := append_of_mem inside
  obtain ⟨before', after', grown'⟩ := append_of_mem inside'
  rw [grown, append_assoc, cons_append] at place
  rw [grown', append_assoc, cons_append] at place'
  exact (attached_alone reachable apart place place' attaches attaches').symm

theorem attached_stored (split : config.history = before ++ after)
    (attached : (tablesOf before).Attached event sessionId requestHash) :
    ∃ row ∈ (tablesOf before).tokens, row.id = sessionId := by
  obtain ⟨moment, inside, attaches⟩ := mem_flatMap.1 (attached_wrote reachable split attached)
  obtain ⟨early, later, rfl⟩ := append_of_mem inside
  rw [append_assoc, cons_append] at split
  obtain ⟨early', making, between, row, rfl, inserts, rfl, -⟩ := attached_made reachable split attaches
  have mem : row.id ∈ (tablesOf ((early' ++ making :: between) ++ moment :: later)).tokens.map
      fun token => token.id := by
    rw [tablesOf, Tables.ids_after, contents_append, contents_append, contents_cons, inserts]
    simp [Write.insertedToken]
  exact mem_map.1 mem

variable (apart : Apart environment config)
include apart

/-- **A takeover that asks for an event that is settled finds its session.** -/
theorem apart_found (split : config.history = before ++ moment :: after)
    (reserved : reservedEvent moment.entry = some event)
    (attached : (tablesOf before).Attached event sessionId (environment.hashToken operatorId))
    (logged : logOf moment.pid config.history =
      (first ++ [.drew drawn, .answered (.insertTakeoverKey row) added writes]) ++
      .answered (.findTakeoverKey row.toEventKey) existing writes' :: rest) :
    checkKey environment operatorId existing = .duplicate sessionId := by
  obtain ⟨early, look, later, split', own, looked, prior, -⟩ := logOf_split logged
  obtain ⟨reserving, inside, own', same⟩ := mem_logOf.1
    (show .answered (.insertTakeoverKey row) added writes ∈ logOf moment.pid early by rw [prior]; simp)
  obtain ⟨pre, between, rfl⟩ := append_of_mem inside
  rw [append_assoc, cons_append] at split'
  obtain ⟨rfl, rfl⟩ := reserved_once reachable split split' own'.symm reserved
    (show reservedEvent reserving.entry = some row.toEventKey by rw [same]; rfl)
  rw [same] at reserved
  obtain rfl := Option.some.inj reserved
  obtain ⟨key, mem, event, session, hash⟩ := attached_stays reachable apart
    (show config.history = before ++ ((moment :: between) ++ look :: later) from split') attached
  have place : config.history = (before ++ moment :: between) ++ look :: later := by rw [split']; simp
  have found := (Tables.found_key (executed reachable place looked)).1
  rw [← event, (keyed reachable place).find_event mem] at found
  rw [found, checkKey, if_neg (not_not.2 hash), session]

theorem duplicate_stored (duplicate : checkKey environment operatorId existing = .duplicate sessionId)
    {entry entry' : LogEntry} {session : Option OperatorToken}
    (logged : logOf pid config.history =
      (first ++ [entry, entry', .answered (.findTakeoverKey event) existing writes]) ++
      .answered (.findOperatorSession sessionId) session writes' :: rest) :
    ∃ row, session = some row ∧ row.id = sessionId := by
  obtain ⟨early, look, later, split, -, finding, prior, -⟩ := logOf_split logged
  obtain ⟨looking, inside, -, looked⟩ := mem_logOf.1
    (show .answered (.findTakeoverKey event) existing writes ∈ logOf pid early by rw [prior]; simp)
  obtain ⟨pre, between, rfl⟩ := append_of_mem inside
  have place : config.history = pre ++ looking :: (between ++ look :: later) := by rw [split]; simp
  have attached := attached_stays reachable apart
    (show config.history = pre ++ ((looking :: between) ++ look :: later) from place)
    (duplicate_attached reachable place looked duplicate)
  obtain ⟨row, mem, rfl⟩ := attached_stored reachable split attached
  refine ⟨row, ?_, rfl⟩
  rw [(Tables.found_session (executed reachable split finding)).1]
  exact (keyed reachable split).find_token mem

theorem apart_not_entered (split : config.history = before ++ moment :: after)
    (reserved : reservedEvent moment.entry = some row.toEventKey)
    (answered : moment.entry = .answered (.insertTakeoverKey row) false writes)
    (attached : (tablesOf before).Attached row.toEventKey sessionId (environment.hashToken operatorId))
    (logged : logOf moment.pid config.history = first ++ (entered ++ rest)) :
    ¬ Entered environment event operatorId entered := by
  intro enters
  cases enters with
  | @reserved drawn writes' =>
    obtain ⟨other, inside, own, same⟩ := mem_logOf.1 (show .answered (.insertTakeoverKey
      (keyRow environment event operatorId drawn)) true writes' ∈ logOf moment.pid config.history by
        rw [logged]; simp)
    obtain ⟨early, later, split'⟩ := append_of_mem inside
    obtain ⟨-, rfl⟩ := reserved_once reachable split split' own.symm reserved
      (show reservedEvent other.entry = some event by rw [same]; rfl)
    rw [answered] at same
    cases same
  | @found drawn existing writes' writes'' free =>
    have looking := logged.trans (append_assoc first [_, _] (_ :: rest)).symm
    have found := apart_found reachable apart split reserved attached looking
    rw [free] at found
    cases found

/-- **Later takeovers of an operator's event are answered with its session**, or read it as over. -/
theorem apart_replays : Replays config := by
  intro first event sessionId own answered before moment after split done reserved operator outcome ended
  obtain ⟨operatorId, early, last, later, owner, place, pid, attached⟩ := settled reachable own answered
  obtain ⟨between, rfl⟩ := done_before split done place pid
  have held : (tablesOf (early ++ last :: between)).Attached event sessionId
      (environment.hashToken operatorId) := by
    have grown : early ++ last :: between = (early ++ [last]) ++ between := by simp
    rw [grown] at split ⊢
    rw [append_assoc] at split
    exact attached_stays reachable apart split attached
  obtain ⟨rawJwt, body, called⟩ := reserved_called reachable split reserved
  have same : body.operatorId = operatorId := by
    rw [owner, operatorOf, called] at operator
    exact Option.some.inj operator
  obtain ⟨row, added, writes, entry, rfl⟩ := reservedEvent_cases reserved
  obtain rfl : added = false := by
    obtain ⟨key, mem, own', -, hash⟩ := held
    exact Tables.insertKey_of_held ⟨key, mem, own', hash⟩ (executed reachable split entry)
  subst same
  have confirmed := outcome_confirmed reachable called ended
  generalize logged : logOf moment.pid config.history = log at confirmed
  cases confirmed with
  | unauthorized quiet =>
    have mem : moment.entry ∈ logOf moment.pid config.history :=
      mem_logOf.2 ⟨moment, by rw [split]; simp, rfl, rfl⟩
    rw [logged, entry] at mem
    cases quiet _ mem _ rfl
  | @conflict first authorized drawn existing writes writes' quiet differs =>
    have found :=
      apart_found reachable apart split reserved held (logged.trans (append_assoc first [_, _] [_]).symm)
    rw [differs] at found
    cases found
  | @missing first authorized drawn existing sessionId' writes writes' writes'' quiet duplicate =>
    obtain ⟨row, some', -⟩ := duplicate_stored reachable apart duplicate
      (logged.trans (append_assoc first [_, _, _] [_]).symm)
    cases some'
  | @finished first authorized drawn drawn' existing sessionId' row writes writes' writes'' quiet duplicate
      finished =>
    have looking := logged.trans (append_assoc first [_, _] [_, _, _]).symm
    have found := apart_found reachable apart split reserved held looking
    rw [duplicate] at found
    cases found
    refine .inr ⟨rfl, row, writes'', ?_, ?_⟩
    · rw [logged]
      simp
    · refine finished.imp_right fun expired => ⟨drawn', ?_, expired⟩
      rw [logged]
      simp
  | @replayed first authorized drawn drawn' existing sessionId' row writes writes' writes'' quiet duplicate =>
    have looking := logged.trans (append_assoc first [_, _] [_, _, _]).symm
    have found := apart_found reachable apart split reserved held looking
    rw [duplicate] at found
    cases found
    exact .inl ⟨_, _, rfl, found_id reachable (logged.trans (append_assoc first [_, _, _] [_, _]).symm)⟩
  | vacant quiet enters | superseded quiet enters =>
    exact absurd enters (apart_not_entered reachable apart split reserved entry held logged)

omit apart

end Runs

/-- **The operator sessions of every run, and of those whose requests keep apart.** -/
theorem sessions_hold (reachable : Reachable (backend environment) config) :
    LeavesAsWere config ∧
      (Apart environment config → OneLive config ∧ TakenOnce config ∧ SameSession config ∧ Replays config) :=
  ⟨leaves_as_were reachable, fun apart => ⟨apart_one_live reachable apart, apart_taken_once reachable apart,
    apart_same_session reachable apart, apart_replays reachable apart⟩⟩

/-- **A session stays in its table**, as it was or revoked once, and no other gets its id. -/
theorem session_lasts (reachable : Reachable (backend environment) config) {before after : List Step}
    (split : config.history = before ++ after) {row : OperatorToken} (held : row ∈ (tablesOf before).tokens) :
    ∃ later, Lasts row later ∧
      ∀ other, other ∈ (tablesOf config.history).tokens ∧ other.id = row.id ↔ other = later := by
  have ids := (keyed reachable (show config.history = config.history ++ [] by simp)).ids
  rw [split, tablesOf_append] at ids ⊢
  obtain ⟨later, mem, lasts⟩ := Tables.after_lasts (contents after) held
  have same : later.id = row.id := by rcases lasts with rfl | ⟨-, time, rfl⟩ <;> rfl
  refine ⟨later, lasts, fun other => ⟨fun ⟨inside, id⟩ => ?_, ?_⟩⟩
  · exact inj_on_of_nodup_map ids inside mem (id.trans same.symm)
  · rintro rfl
    exact ⟨mem, same⟩

/-! ### Runs that do and do not keep apart -/

instance {before : List Step} {moment : Step} : Decidable (KeepsApart environment config before moment) := by
  unfold KeepsApart
  infer_instance

instance : Decidable (Apart environment config) := by
  unfold Apart Throughout
  infer_instance

def sampleIdentities : Auth.Identities where
  users := [⟨sample 1, "a@example.com", none, some "a", none⟩]
  links := []
  devices := [⟨sample 2, sample 3, sample 4, ['d'.toNat.toUInt8], none⟩]
  roles := [⟨sample 5, "owner"⟩]
  memberships := [⟨sample 6, sample 3, sample 1, sample 5, .all, none, none⟩]
  storeAccess := []
  userIds := by simp
  deviceIds := by simp
  deviceHashes := by simp
  linkUsers := by simp

def sampleEnvironment : Environment where
  verify := some
  hashToken text := text.toList.map fun c => c.toNat.toUInt8
  identities _ := sampleIdentities

def sampleDrawn (n : Nat) : Drawn := ⟨Uuid.numbered n, 0, String.ofList (Nat.toDigits 10 n)⟩

def sampleChecks (pid : Nat) : List (Event Drawn PgError Call) := [.ask pid, .ask pid, .ask pid, .ask pid]

def sampleSignIn (pid : Nat) : List (Event Drawn PgError Call) :=
  .start (.signIn "a" "d") :: sampleChecks pid

def sampleIssue (pid id : Nat) : List (Event Drawn PgError Call) :=
  [.draw pid (sampleDrawn id), .ask pid, .stop pid]

def sampleReserve (pid id : Nat) : List (Event Drawn PgError Call) :=
  [.start (.takeoverConfirm "a" ⟨"e", "a", "d"⟩), .ask pid, .ask pid, .ask pid,
    .draw pid (sampleDrawn id), .ask pid]

def sampleSupersede (pid id : Nat) : List (Event Drawn PgError Call) :=
  [.ask pid, .draw pid (sampleDrawn id), .ask pid, .ask pid, .draw pid (sampleDrawn 99), .ask pid, .stop pid]

/-- What the service does when requests overlap, or follow each other. Two sign-ins that look before either
inserts are both live; two takeovers of one event that find it without a session both insert one; a replay
is refused after the session's sign-out; and a takeover that finds nothing to supersede is refused, with its
key reserved. -/
theorem sessions_overlapped :
    (∃ config : OperatorConfig, Reachable (backend sampleEnvironment) config ∧ ¬ OneLive config) ∧
      (∃ config : OperatorConfig, Reachable (backend sampleEnvironment) config ∧ ¬ TakenOnce config ∧
          ¬ SameSession config) ∧
      (∃ config : OperatorConfig, Reachable (backend sampleEnvironment) config ∧
          eventOf 3 config.history = eventOf 1 config.history ∧ operatorOf config 3 = operatorOf config 1 ∧
          sessionOf config 1 = some (Uuid.numbered 11) ∧
          outcomeOf config 3 = some (.refused .noActiveSessionToSupersede)) ∧
      ∃ config : OperatorConfig, Reachable (backend sampleEnvironment) config ∧
      outcomeOf config 0 = some (.refused .noActiveSessionToSupersede) ∧ wrote config 0 ≠ [] := by
  refine ⟨?_, ?_, ?_, ?_⟩
  · have happens : (run (backend sampleEnvironment) (sampleSignIn 0 ++ sampleSignIn 1 ++ sampleIssue 0 10 ++
        sampleIssue 1 11)).any (fun config => (tablesOf config.history).tokens.countP
          (OperatorToken.liveAt (sample 2) (sample 4) config.now) = 2) = true := by decide +kernel
    obtain ⟨config, ran, both⟩ := (any_eq_true _ _).1 happens
    refine ⟨config, run_reachable _ ran, fun one => ?_⟩
    have bound := one (sample 2) (sample 4)
    rw [of_decide_eq_true both] at bound
    omega
  · have happens : (run (backend sampleEnvironment) (sampleSignIn 0 ++ sampleIssue 0 10 ++ sampleReserve 1 20 ++
        sampleReserve 2 21 ++ [.ask 2] ++ sampleSupersede 2 12 ++ sampleSupersede 1 11)).any (fun config =>
          effects config ⟨sample 3, sample 4, "e"⟩ = 2 && eventOf 1 config.history =
            some ⟨sample 3, sample 4, "e"⟩ &&
            eventOf 2 config.history = some ⟨sample 3, sample 4, "e"⟩ &&
            sessionOf config 1 = some (Uuid.numbered 11) && sessionOf config 2 = some (Uuid.numbered 12)) =
              true := by
      decide +kernel
    obtain ⟨config, ran, holds⟩ := (any_eq_true _ _).1 happens
    simp only [and_eq_true, decide_eq_true_eq] at holds
    obtain ⟨⟨⟨⟨twice, own⟩, own'⟩, answered⟩, answered'⟩ := holds
    refine ⟨config, run_reachable _ ran, fun once => ?_, fun same => ?_⟩
    · have bound := once ⟨sample 3, sample 4, "e"⟩
      rw [twice] at bound
      omega
    · exact absurd (same 1 2 _ _ _ own answered own' answered') (by decide +kernel)
  · have happens : (run (backend sampleEnvironment) (sampleSignIn 0 ++ sampleIssue 0 10 ++ sampleReserve 1 20 ++
        sampleSupersede 1 11 ++ [.start (.signOut "a" (Uuid.numbered 11)), .ask 2, .ask 2,
          .draw 2 (sampleDrawn 98), .ask 2, .stop 2] ++ sampleReserve 3 21 ++
        [.ask 3, .ask 3, .draw 3 (sampleDrawn 97), .stop 3])).any (fun config =>
          decide (eventOf 3 config.history = eventOf 1 config.history) &&
            operatorOf config 3 = operatorOf config 1 && sessionOf config 1 = some (Uuid.numbered 11) &&
            outcomeOf config 3 = some (.refused .noActiveSessionToSupersede)) = true := by
      decide +kernel
    obtain ⟨config, ran, holds⟩ := (any_eq_true _ _).1 happens
    simp only [and_eq_true, decide_eq_true_eq] at holds
    exact ⟨config, run_reachable _ ran, holds.1.1.1, holds.1.1.2, holds.1.2, holds.2⟩
  · have happens : (run (backend sampleEnvironment) (sampleReserve 0 20 ++ [.ask 0, .stop 0])).any (fun config =>
        outcomeOf config 0 = some (.refused .noActiveSessionToSupersede) && !(wrote config 0).isEmpty) =
          true := by
      decide +kernel
    obtain ⟨config, ran, holds⟩ := (any_eq_true _ _).1 happens
    simp only [and_eq_true, decide_eq_true_eq, not_eq_true'] at holds
    exact ⟨config, run_reachable _ ran, holds.1, fun nothing => by simp [nothing] at holds⟩

theorem sessions_hold_sample :
    ∃ config : OperatorConfig, Reachable (backend sampleEnvironment) config ∧
      sessionOf config 1 = some (Uuid.numbered 11) ∧ sessionOf config 2 = some (Uuid.numbered 11) ∧
      LeavesAsWere config ∧ OneLive config ∧ TakenOnce config ∧ SameSession config ∧ Replays config := by
  have happens : (run (backend sampleEnvironment) (sampleSignIn 0 ++ sampleIssue 0 10 ++ sampleReserve 1 20 ++
      sampleSupersede 1 11 ++ sampleReserve 2 21 ++ [.ask 2, .ask 2, .draw 2 (sampleDrawn 98), .stop 2] ++
      [.start (.signOut "a" (Uuid.numbered 11)), .ask 3, .ask 3, .draw 3 (sampleDrawn 97), .ask 3,
        .stop 3])).any (fun config =>
          decide (Apart sampleEnvironment config) && sessionOf config 1 = some (Uuid.numbered 11) &&
            sessionOf config 2 = some (Uuid.numbered 11)) = true := by
    decide +kernel
  obtain ⟨config, ran, holds⟩ := (any_eq_true _ _).1 happens
  simp only [and_eq_true, decide_eq_true_eq] at holds
  obtain ⟨leaves, kept⟩ := sessions_hold (run_reachable _ ran)
  exact ⟨config, run_reachable _ ran, holds.1.2, holds.2, leaves, kept holds.1.1⟩

theorem session_lasts_sample :
    ∃ (config : OperatorConfig) (row later : OperatorToken),
      Reachable (backend sampleEnvironment) config ∧ row ∈ (tablesOf (config.history.take 6)).tokens ∧
      later ∈ (tablesOf config.history).tokens ∧ Lasts row later := by
  have happens : (run (backend sampleEnvironment) (sampleSignIn 0 ++ sampleIssue 0 10 ++ [.start (.signOut "a"
      (Uuid.numbered 10)), .ask 1, .ask 1, .draw 1 (sampleDrawn 98), .ask 1, .stop 1])).any (fun config =>
        !(tablesOf (config.history.take 6)).tokens.isEmpty) = true := by
    decide +kernel
  obtain ⟨config, ran, holds⟩ := (any_eq_true _ _).1 happens
  obtain ⟨row, held⟩ := List.isEmpty_eq_false_iff_exists_mem.1 (by simpa using holds)
  obtain ⟨later, lasts, only⟩ :=
    session_lasts (run_reachable _ ran) (take_append_drop 6 config.history).symm held
  exact ⟨config, row, later, run_reachable _ ran, held, ((only later).2 rfl).1, lasts⟩

end DataPulse.Operators
