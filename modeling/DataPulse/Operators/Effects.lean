/-
**What the statements of the operator service leave behind.**

* `Executed`, `exec_cases`: what a statement can write at all.
-/

import DataPulse.Operators.Service

namespace DataPulse.Operators

open Lib Platform
open Auth (Identities AuthToken)

variable {row : OperatorToken} {deviceId : Uuid}
variable {storeId : Uuid} {now : Int}

def Write.insertedToken : Write → Option OperatorToken
  | token row => some row
  | _ => none

def Write.insertedKey : Write → Option TakeoverKey
  | key row => some row
  | _ => none

def Stmt.reads : Stmt → Bool
  | insertOperatorSession _ => false
  | markSessionRevoked _ _ => false
  | insertTakeoverKey _ => false
  | revokeActiveOperatorSession _ _ => false
  | updateIdempotencyKeyWithSession _ _ => false
  | _ => true

/-- A row as it became: only its revocation may have changed, and is not taken back. -/
structure Descends (old row : OperatorToken) : Prop where
  same : row = { old with revokedAt := row.revokedAt }
  unrevoked : row.revokedAt = none → old.revokedAt = none

theorem Descends.refl (row : OperatorToken) : Descends row row := ⟨rfl, id⟩

theorem Descends.trans {first second third : OperatorToken} (prior : Descends first second)
    (later : Descends second third) : Descends first third := by
  refine ⟨?_, fun unrevoked => prior.unrevoked (later.unrevoked unrevoked)⟩
  rw [later.same, prior.same]

theorem OperatorToken.live_at (live : row.liveAt deviceId storeId now = true) :
    row.deviceId = some deviceId ∧ row.storeId = some storeId := by
  simp only [OperatorToken.liveAt, OperatorToken.isAt, and_eq_true, decide_eq_true_eq] at live
  exact ⟨live.1.1.1.2, live.1.1.2⟩

theorem Descends.live {old : OperatorToken} (descends : Descends old row) {later : Int} (onward : now ≤ later)
    (live : row.liveAt deviceId storeId later = true) : old.liveAt deviceId storeId now = true := by
  have same := descends.same
  simp only [OperatorToken.liveAt, OperatorToken.isAt, and_eq_true, decide_eq_true_eq,
    isNone_iff_eq_none] at live ⊢
  obtain ⟨⟨⟨⟨scope, device⟩, store⟩, unrevoked⟩, unexpired⟩ := live
  rw [same] at scope device store unexpired
  exact ⟨⟨⟨⟨scope, device⟩, store⟩, descends.unrevoked unrevoked⟩, Int.lt_of_le_of_lt onward unexpired⟩

/-- What becomes of a session: it stays as it is, or is revoked once. -/
def Lasts (row later : OperatorToken) : Prop :=
  later = row ∨ row.revokedAt = none ∧ ∃ time, later = { row with revokedAt := some time }

namespace Tables

variable {tables : Tables} {identities : Identities} {now : Int}
variable {requestHash : Auth.Digest} {sessionId deviceId storeId : Uuid} {event : EventKey}
variable {writes : List Write} {row : TakeoverKey} {statement : Stmt} {reply : Reply statement}

theorem after_append (first second : List Write) :
    tables.after (first ++ second) = (tables.after first).after second := foldl_append

theorem after_singleton (write : Write) : tables.after [write] = tables.apply write := rfl

/-- What a statement can write. -/
inductive Executed (tables : Tables) (now : Int) : Stmt → List Write → Prop where
  | nothing {statement : Stmt} : Executed tables now statement []
  | token {row : AuthToken} (fresh : row.id ∉ tables.tokens.map fun token => token.id) :
      Executed tables now (.insertOperatorSession row) [.token ⟨row, now⟩]
  | key {row : TakeoverKey} (fresh : row.toEventKey ∉ tables.keys.map TakeoverKey.toEventKey) :
      Executed tables now (.insertTakeoverKey row) [.key row]
  | superseded {deviceId storeId : Uuid} :
      Executed tables now (.revokeActiveOperatorSession deviceId storeId)
        [.superseded deviceId storeId now]
  | sessionRevoked {sessionId userId : Uuid} :
      Executed tables now (.markSessionRevoked sessionId userId) [.sessionRevoked sessionId userId now]
  | attached {event : EventKey} {sessionId : Uuid} :
      Executed tables now (.updateIdempotencyKeyWithSession event sessionId) [.attached event sessionId]

/-- **A statement writes nothing, or the one row change that is its own.** -/
theorem exec_cases (ran : tables.exec identities now statement = .ok (reply, writes)) :
    Executed tables now statement writes := by
  cases statement with
  | insertOperatorSession token =>
    simp only [exec, insertToken] at ran
    split_ifs at ran with taken
    cases ran
    refine .token fun mem => taken ?_
    obtain ⟨other, inside, same⟩ := mem_map.1 mem
    exact List.any_eq_true.2 ⟨other, inside, decide_eq_true same⟩
  | insertTakeoverKey row =>
    simp only [exec, insertKey] at ran
    split_ifs at ran with taken
    · cases ran
      exact .nothing
    · cases ran
      refine .key fun mem => taken ?_
      obtain ⟨other, inside, same⟩ := mem_map.1 mem
      exact List.any_eq_true.2 ⟨other, inside, decide_eq_true same⟩
  | revokeActiveOperatorSession deviceId storeId =>
    cases ran
    split_ifs
    · exact .superseded
    · exact .nothing
  | markSessionRevoked sessionId userId =>
    cases ran
    split_ifs
    · exact .sessionRevoked
    · exact .nothing
  | updateIdempotencyKeyWithSession event sessionId =>
    cases ran
    split_ifs
    · exact .attached
    · exact .nothing
  | findUserByClerkSubject sub | findActiveByAttestation tokenHash | findActiveMembership tenantId userId
  | storeIsInAccessSet membershipId storeId | activeOperatorSessionExists deviceId storeId
  | findOperatorSession sessionId | findTakeoverKey event | insertAuditEvent id targetId supersededId =>
    cases ran; exact .nothing

theorem exec_reads (ran : tables.exec identities now statement = .ok (reply, writes))
    (reads : statement.reads = true) : writes = [] := by
  cases exec_cases ran with
  | nothing => rfl
  | token fresh | key fresh | superseded | sessionRevoked | attached => cases reads

/-! ### Keys -/

theorem ids_after (writes : List Write) :
    (tables.after writes).tokens.map (fun token => token.id) =
      tables.tokens.map (fun token => token.id) ++
      (writes.filterMap Write.insertedToken).map fun token => token.id := by
  induction writes using List.reverseRecOn with
  | nil => exact (append_nil _).symm
  | append_singleton writes write ih =>
    rw [after_append, after_singleton, filterMap_append, map_append, ← append_assoc, ← ih]
    cases write with
    | token row => exact map_append
    | superseded deviceId storeId time | sessionRevoked sessionId userId time =>
      refine (map_updateWhere ?_ _ _).trans (append_nil _).symm
      exact fun _ => rfl
    | key row | attached event sessionId => exact (append_nil _).symm

theorem events_after (writes : List Write) :
    (tables.after writes).keys.map TakeoverKey.toEventKey =
      tables.keys.map TakeoverKey.toEventKey ++
      (writes.filterMap Write.insertedKey).map TakeoverKey.toEventKey := by
  induction writes using List.reverseRecOn with
  | nil => exact (append_nil _).symm
  | append_singleton writes write ih =>
    rw [after_append, after_singleton, filterMap_append, map_append, ← append_assoc, ← ih]
    cases write with
    | key row => exact map_append
    | attached event sessionId =>
      refine (map_updateWhere ?_ _ _).trans (append_nil _).symm
      exact fun _ => rfl
    | token row | superseded deviceId storeId time | sessionRevoked sessionId userId time =>
      exact (append_nil _).symm

/-- No two sessions have one id, and no two keys one event. -/
structure Keyed (tables : Tables) : Prop where
  ids : (tables.tokens.map fun token => token.id).Nodup
  events : (tables.keys.map TakeoverKey.toEventKey).Nodup

theorem Keyed.empty : Tables.empty.Keyed := ⟨.nil, .nil⟩

theorem nodup_inserted {Key : Type} {held added : List Key} (nodup : held.Nodup)
    (fresh : added = [] ∨ ∃ key, added = [key] ∧ key ∉ held) : (held ++ added).Nodup := by
  rcases fresh with rfl | ⟨key, rfl, absent⟩
  · rwa [append_nil]
  · refine nodup_append.2 ⟨nodup, nodup_singleton _, fun other mem last single => ?_⟩
    rw [mem_singleton.1 single]
    rintro rfl
    exact absent mem

theorem Keyed.stays (keyed : tables.Keyed)
    (ran : tables.exec identities now statement = .ok (reply, writes)) : (tables.after writes).Keyed := by
  have cases' := exec_cases ran
  refine ⟨?_, ?_⟩
  · rw [ids_after]
    refine nodup_inserted keyed.ids ?_
    cases cases' with
    | token fresh => exact .inr ⟨_, rfl, fresh⟩
    | nothing | key fresh | superseded | sessionRevoked | attached => exact .inl rfl
  · rw [events_after]
    refine nodup_inserted keyed.events ?_
    cases cases' with
    | key fresh => exact .inr ⟨_, rfl, fresh⟩
    | nothing | token fresh | superseded | sessionRevoked | attached => exact .inl rfl

/-! ### Sessions -/

variable {passes : OperatorToken → Bool} {time : Int} {rows : List OperatorToken}

theorem descends_updateWhere {row : OperatorToken}
    (mem : row ∈ updateWhere passes ({ · with revokedAt := some time }) rows) :
    ∃ old ∈ rows, Descends old row := by
  obtain ⟨old, inside, rfl⟩ := mem_updateWhere.1 mem
  refine ⟨old, inside, ?_⟩
  split_ifs
  · exact ⟨rfl, nofun⟩
  · exact .refl old

/-- **A session was there, or was inserted since.** -/
theorem after_tokens {row : OperatorToken} (mem : row ∈ (tables.after writes).tokens) :
    ∃ old, (old ∈ tables.tokens ∨ .token old ∈ writes) ∧ Descends old row := by
  induction writes using List.reverseRecOn generalizing row with
  | nil => exact ⟨row, .inl mem, .refl row⟩
  | append_singleton writes write ih =>
    have onward : ∀ middle ∈ (tables.after writes).tokens, Descends middle row →
        ∃ old, (old ∈ tables.tokens ∨ .token old ∈ writes ++ [write]) ∧ Descends old row := by
      intro middle inside descends
      obtain ⟨old, origin, prior⟩ := ih inside
      exact ⟨old, origin.imp_right (mem_append_left _), prior.trans descends⟩
    rw [after_append] at mem
    cases write with
    | token added =>
      rcases mem_append.1 mem with old | new
      · exact onward row old (.refl row)
      · rw [mem_singleton.1 new]
        exact ⟨added, .inr (by simp), .refl added⟩
    | superseded deviceId storeId time | sessionRevoked sessionId userId time =>
      obtain ⟨old, inside, descends⟩ := descends_updateWhere mem
      exact onward old inside descends
    | key row' | attached event sessionId => exact onward row mem (.refl row)

theorem lasts_updateWhere {row middle : OperatorToken}
    (unrevoked : ∀ token, passes token = true → token.revokedAt = none) (mem : middle ∈ rows)
    (lasts : Lasts row middle) :
    ∃ later ∈ updateWhere passes ({ · with revokedAt := some time }) rows, Lasts row later := by
  refine ⟨_, mem_updateWhere.2 ⟨middle, mem, rfl⟩, ?_⟩
  split_ifs with passed
  · rcases lasts with rfl | ⟨-, time', rfl⟩
    · exact .inr ⟨unrevoked _ passed, time, rfl⟩
    · cases unrevoked _ passed
  · exact lasts

theorem after_lasts (writes : List Write) {row : OperatorToken} (held : row ∈ tables.tokens) :
    ∃ later ∈ (tables.after writes).tokens, Lasts row later := by
  induction writes using List.reverseRecOn with
  | nil => exact ⟨row, held, .inl rfl⟩
  | append_singleton writes write ih =>
    obtain ⟨middle, mem, lasts⟩ := ih
    rw [after_append]
    cases write with
    | token added => exact ⟨middle, mem_append_left _ mem, lasts⟩
    | superseded deviceId storeId time =>
      refine lasts_updateWhere (fun token passes => ?_) mem lasts
      simp only [OperatorToken.liveAt, and_eq_true, isNone_iff_eq_none] at passes
      exact passes.1.2
    | sessionRevoked sessionId userId time =>
      refine lasts_updateWhere (fun token passes => ?_) mem lasts
      simp only [OperatorToken.unrevokedOf, and_eq_true, isNone_iff_eq_none] at passes
      exact passes.2
    | key row' | attached event sessionId => exact ⟨middle, mem, lasts⟩

theorem none_live_of_check
    (ran : tables.exec identities now (.activeOperatorSessionExists deviceId storeId) = .ok (false, writes)) :
    ∀ row ∈ (tables.after writes).tokens, row.liveAt deviceId storeId now = false := by
  obtain ⟨unmatched, rfl⟩ := Prod.ext_iff.1 (Except.ok.inj ran)
  intro row mem
  simpa using any_eq_false.1 unmatched row mem

/-- **After the revocation of a takeover no session of the device and store is live.** -/
theorem none_live_after_revoke {gave : Option Uuid}
    (ran : tables.exec identities now (.revokeActiveOperatorSession deviceId storeId) = .ok (gave, writes)) :
    ∀ row ∈ (tables.after writes).tokens, row.liveAt deviceId storeId now = false := by
  obtain ⟨rfl, rfl⟩ := Prod.ext_iff.1 (Except.ok.inj ran)
  intro row mem
  cases found : tables.tokens.find? (OperatorToken.liveAt deviceId storeId now) with
  | none =>
    rw [found] at mem
    simpa using find?_eq_none.1 found row mem
  | some live =>
    rw [found] at mem
    obtain ⟨old, inside, rfl⟩ := mem_updateWhere.1 mem
    split_ifs with passes
    · simp [OperatorToken.liveAt]
    · simpa using passes

theorem revoke_none
    (ran : tables.exec identities now (.revokeActiveOperatorSession deviceId storeId) = .ok (none, writes)) :
    writes = [] := by
  simp only [exec, Except.ok.injEq, Prod.mk.injEq] at ran
  obtain ⟨gave, rfl⟩ := ran
  rw [gave]
  rfl

theorem mark_false {userId : Uuid}
    (ran : tables.exec identities now (.markSessionRevoked sessionId userId) = .ok (false, writes)) :
    writes = [] := by
  simp only [exec, Except.ok.injEq, Prod.mk.injEq] at ran
  obtain ⟨unmatched, rfl⟩ := ran
  rw [unmatched]
  rfl

/-! ### Takeover keys -/

theorem insertKey_false (ran : tables.exec identities now (.insertTakeoverKey row) = .ok (false, writes)) :
    writes = [] := by
  simp only [exec, insertKey] at ran
  split_ifs at ran with taken
  · cases ran
    rfl
  · cases ran

theorem insertKey_true (ran : tables.exec identities now (.insertTakeoverKey row) = .ok (true, writes)) :
    writes = [.key row] := by
  simp only [exec, insertKey] at ran
  split_ifs at ran with taken
  · cases ran
  · cases ran
    rfl

/-- The event has this session attached, reserved by this hash. -/
def Attached (tables : Tables) (event : EventKey) (sessionId : Uuid) (requestHash : Auth.Digest) : Prop :=
  ∃ row ∈ tables.keys, row.toEventKey = event ∧ row.sessionId = some sessionId ∧
    row.requestHash = requestHash

theorem after_keys (mem : row ∈ (tables.after writes).keys) :
    ∃ old, (old ∈ tables.keys ∨ .key old ∈ writes) ∧ row.toEventKey = old.toEventKey ∧
      row.requestHash = old.requestHash ∧
      (row.sessionId = old.sessionId ∨
        ∃ sessionId, .attached row.toEventKey sessionId ∈ writes ∧ row.sessionId = some sessionId) := by
  induction writes using List.reverseRecOn generalizing row with
  | nil => exact ⟨row, .inl mem, rfl, rfl, .inl rfl⟩
  | append_singleton writes write ih =>
    have onward : ∀ middle ∈ (tables.after writes).keys, row.toEventKey = middle.toEventKey →
        row.requestHash = middle.requestHash → row.sessionId = middle.sessionId →
        ∃ old, (old ∈ tables.keys ∨ .key old ∈ writes ++ [write]) ∧ row.toEventKey = old.toEventKey ∧
        row.requestHash = old.requestHash ∧ (row.sessionId = old.sessionId ∨ ∃ sessionId,
              .attached row.toEventKey sessionId ∈ writes ++ [write] ∧ row.sessionId = some sessionId) := by
      intro middle inside event hash session
      obtain ⟨old, origin, event', hash', session'⟩ := ih inside
      refine ⟨old, origin.imp_right (mem_append_left _), event.trans event', hash.trans hash', ?_⟩
      rcases session' with kept | ⟨sessionId, wrote, same⟩
      · exact .inl (session.trans kept)
      · refine .inr ⟨sessionId, ?_, session.trans same⟩
        rw [event]
        exact mem_append_left _ wrote
    rw [after_append] at mem
    cases write with
    | key added =>
      rcases mem_append.1 mem with old | new
      · exact onward row old rfl rfl rfl
      · rw [mem_singleton.1 new]
        exact ⟨added, .inr (by simp), rfl, rfl, .inl rfl⟩
    | attached event sessionId =>
      obtain ⟨middle, inside, rfl⟩ := mem_updateWhere.1 mem
      by_cases own : middle.toEventKey = event
      · obtain ⟨old, origin, event', hash', -⟩ := ih inside
        refine ⟨old, origin.imp_right (mem_append_left _), ?_, ?_, .inr ⟨sessionId, ?_, ?_⟩⟩
        · rw [if_pos (decide_eq_true own)]
          exact event'
        · rw [if_pos (decide_eq_true own)]
          exact hash'
        · rw [if_pos (decide_eq_true own), ← own]
          simp
        · rw [if_pos (decide_eq_true own)]
      · rw [if_neg (by simpa using own)] at onward ⊢
        exact onward middle inside rfl rfl rfl
    | token added | superseded deviceId storeId time | sessionRevoked sessionId userId time =>
      exact onward row mem rfl rfl rfl

theorem Attached.kept (attached : tables.Attached event sessionId requestHash)
    (alone : ∀ other, .attached event other ∈ writes → other = sessionId) :
    (tables.after writes).Attached event sessionId requestHash := by
  induction writes using List.reverseRecOn with
  | nil => exact attached
  | append_singleton writes write ih =>
    obtain ⟨row, mem, own, session, hash⟩ := ih fun other wrote => alone other (mem_append_left _ wrote)
    rw [after_append]
    cases write with
    | key added => exact ⟨row, mem_append_left _ mem, own, session, hash⟩
    | attached event' other =>
      refine ⟨_, mem_updateWhere.2 ⟨row, mem, rfl⟩, ?_⟩
      by_cases same : row.toEventKey = event'
      · rw [if_pos (decide_eq_true same)]
        have only := alone other (by rw [← own, same]; simp)
        exact ⟨own, congrArg some only, hash⟩
      · rw [if_neg (by simpa using same)]
        exact ⟨own, session, hash⟩
    | token added | superseded deviceId storeId time | sessionRevoked sessionId' userId time =>
      exact ⟨row, mem, own, session, hash⟩

def Held (tables : Tables) (event : EventKey) (requestHash : Auth.Digest) : Prop :=
  ∃ row ∈ tables.keys, row.toEventKey = event ∧ row.requestHash = requestHash

theorem Held.kept (held : tables.Held event requestHash) (writes : List Write) :
    (tables.after writes).Held event requestHash := by
  induction writes using List.reverseRecOn with
  | nil => exact held
  | append_singleton writes write ih =>
    obtain ⟨row, mem, own, hash⟩ := ih
    rw [after_append]
    cases write with
    | key added => exact ⟨row, mem_append_left _ mem, own, hash⟩
    | attached event' sessionId =>
      refine ⟨_, mem_updateWhere.2 ⟨row, mem, rfl⟩, ?_⟩
      split_ifs
      · exact ⟨own, hash⟩
      · exact ⟨own, hash⟩
    | token added | superseded deviceId storeId time | sessionRevoked sessionId userId time =>
      exact ⟨row, mem, own, hash⟩

theorem held_of_key (added : .key row ∈ writes) : (tables.after writes).Held row.toEventKey row.requestHash := by
  obtain ⟨first, second, rfl⟩ := append_of_mem added
  rw [← singleton_append, ← append_assoc, after_append, after_append]
  refine Held.kept ⟨row, ?_, rfl, rfl⟩ second
  exact mem_append_right _ (mem_singleton_self row)

/-- **A session that is attached to an event that is held is attached by its hash.** -/
theorem attached_of_held (held : tables.Held event requestHash)
    (ran : tables.exec identities now (.updateIdempotencyKeyWithSession event sessionId) = .ok ((), writes)) :
    (tables.after writes).Attached event sessionId requestHash := by
  obtain ⟨row, mem, own, hash⟩ := held
  have matched : (tables.keys.any fun row => row.toEventKey = event) = true :=
    List.any_eq_true.2 ⟨row, mem, decide_eq_true own⟩
  simp only [exec, matched, if_true, Except.ok.injEq, Prod.mk.injEq, true_and] at ran
  rw [← ran]
  refine ⟨_, mem_updateWhere.2 ⟨row, mem, rfl⟩, ?_⟩
  rw [if_pos (decide_eq_true own)]
  exact ⟨own, rfl, hash⟩

theorem insertToken_ok {token : AuthToken} {row : OperatorToken}
    (ran : tables.exec identities now (.insertOperatorSession token) = .ok (row, writes)) :
    writes = [.token row] ∧ row.toAuthToken = token := by
  simp only [exec, insertToken] at ran
  split_ifs at ran
  cases ran
  exact ⟨rfl, rfl⟩

theorem taken_of_insertKey (ran : tables.exec identities now (.insertTakeoverKey row) = .ok (false, writes)) :
    ∃ requestHash, tables.Held row.toEventKey requestHash := by
  simp only [exec, insertKey] at ran
  split_ifs at ran with taken
  · obtain ⟨key, mem, own⟩ := List.any_eq_true.1 taken
    exact ⟨key.requestHash, key, mem, of_decide_eq_true own, rfl⟩
  · cases ran

theorem insertKey_of_held (held : tables.Held row.toEventKey requestHash) {added : Bool}
    (ran : tables.exec identities now (.insertTakeoverKey row) = .ok (added, writes)) : added = false := by
  obtain ⟨key, mem, own, -⟩ := held
  have taken : (tables.keys.any fun key => key.toEventKey = row.toEventKey) = true :=
    List.any_eq_true.2 ⟨key, mem, decide_eq_true own⟩
  simp only [exec, insertKey, taken, if_true, Except.ok.injEq, Prod.mk.injEq] at ran
  exact ran.1.symm

theorem found_key {old : Option TakeoverKey}
    (ran : tables.exec identities now (.findTakeoverKey event) = .ok (old, writes)) :
    old = tables.keys.find? (fun row => row.toEventKey = event) ∧ writes = [] :=
  (Prod.ext_iff.1 (Except.ok.inj ran)).imp Eq.symm Eq.symm

theorem found_session {session : Option OperatorToken}
    (ran : tables.exec identities now (.findOperatorSession sessionId) = .ok (session, writes)) :
    session = tables.tokens.find? (fun token => token.id = sessionId) ∧ writes = [] :=
  (Prod.ext_iff.1 (Except.ok.inj ran)).imp Eq.symm Eq.symm

theorem Keyed.find_event (keyed : tables.Keyed) (mem : row ∈ tables.keys) :
    tables.keys.find? (fun other => other.toEventKey = row.toEventKey) = some row :=
  Auth.find?_unique keyed.events mem (by simp) fun _ _ passes => of_decide_eq_true passes

theorem Keyed.find_token (keyed : tables.Keyed) {row : OperatorToken} (mem : row ∈ tables.tokens) :
    tables.tokens.find? (fun other => other.id = row.id) = some row :=
  Auth.find?_unique keyed.ids mem (by simp) fun _ _ passes => of_decide_eq_true passes

end Tables

end DataPulse.Operators
