/-
**What the statements of the account service leave behind.**

* `exec_writes`, `apply_tokens`: tokens are inserted under fresh ids, revoked, and never revived, so a
  spent token stays spent (`Spent.stays`).
-/

import DataPulse.Auth.Accounts

namespace DataPulse.Auth

open Lib Platform

variable {primitives : Primitives}

variable {userId : Uuid}

variable {tables : Accounts} {writes : List Write}

namespace Accounts

variable {now : Int} {id : Uuid}
variable {statement : Stmt} {token : AuthToken} {reply : Reply statement}

def Known (tables : Accounts) (id : Uuid) : Prop := ∃ token ∈ tables.tokens, token.id = id

/-- The token with this id is revoked. -/
structure Spent (tables : Accounts) (id : Uuid) : Prop where
  known : tables.Known id
  revoked : ∀ token ∈ tables.tokens, token.id = id → token.revokedAt ≠ none

theorem after_append (first second : List Write) :
    tables.after (first ++ second) = (tables.after first).after second := foldl_append

theorem exec_writes (ran : exec primitives now tables statement = .ok (reply, writes)) :
    writes = [] ∨ ∃ write, writes = [write] ∧ ∀ row, write = .token row → ¬ tables.Known row.id := by
  have guarded :
      ∀ (matched : Bool) (write : Write), (∀ row, write ≠ .token row) → writesIf matched write = [] ∨
        ∃ write', writesIf matched write = [write'] ∧ ∀ row, write' = .token row → ¬ tables.Known row.id := by
    intro matched write other
    cases matched with
    | false => exact .inl rfl
    | true => exact .inr ⟨write, rfl, fun row same => absurd same (other row)⟩
  cases statement with
  | createSession id userId expires =>
    simp only [exec, insertSession] at ran
    split_ifs at ran
    cases ran
    exact .inr ⟨_, rfl, fun row same => by cases same⟩
  | issue token =>
    simp only [exec, insertToken] at ran
    split_ifs at ran with taken
    cases ran
    refine .inr ⟨_, rfl, fun row same known => taken ?_⟩
    cases same
    simpa [Known] using known
  | touchLastSeen id =>
    cases ran
    exact guarded _ (.touched id now) fun row other => by cases other
  | revokeSession id =>
    cases ran
    exact guarded _ (.sessionRevoked id now) fun row other => by cases other
  | revokeAllSessionsForUser userId =>
    cases ran
    exact guarded _ (.sessionsRevoked userId now) fun row other => by cases other
  | revoke id =>
    cases ran
    exact guarded _ (.tokenRevoked id now) fun row other => by cases other
  | updatePassword userId hash =>
    cases ran
    exact guarded _ (.password userId hash now) fun row other => by cases other
  | stampEmailVerified userId =>
    cases ran
    exact guarded _ (.emailVerified userId now) fun row other => by cases other
  | findActiveUserByEmail email | findActiveUserById id | findActiveById id | findActiveByTokenHash hash
  | enqueuePasswordReset email rawToken userId | enqueueEmailVerification email rawToken userId =>
    exact .inl (Prod.ext_iff.1 (Except.ok.inj ran)).2.symm

theorem exec_session (ran : exec primitives now tables statement = .ok (reply, writes)) {row : Session}
    (wrote : .session row ∈ writes) : ∃ expires, statement = .createSession row.id row.userId expires := by
  have guarded : ∀ (matched : Bool) (write : Write), write ≠ .session row →
      Write.session row ∉ writesIf matched write := by
    intro matched write other mem
    cases matched with
    | false => cases mem
    | true => exact other (mem_singleton.1 mem).symm
  cases statement with
  | createSession id userId expires =>
    simp only [exec, insertSession] at ran
    split_ifs at ran
    cases ran
    cases mem_singleton.1 wrote
    exact ⟨expires, rfl⟩
  | issue token =>
    simp only [exec, insertToken] at ran
    split_ifs at ran
    cases ran
    cases mem_singleton.1 wrote
  | touchLastSeen id =>
    cases ran
    exact absurd wrote (guarded _ (.touched id now) (by simp))
  | revokeSession id =>
    cases ran
    exact absurd wrote (guarded _ (.sessionRevoked id now) (by simp))
  | revokeAllSessionsForUser userId =>
    cases ran
    exact absurd wrote (guarded _ (.sessionsRevoked userId now) (by simp))
  | revoke id =>
    cases ran
    exact absurd wrote (guarded _ (.tokenRevoked id now) (by simp))
  | updatePassword userId hash =>
    cases ran
    exact absurd wrote (guarded _ (.password userId hash now) (by simp))
  | stampEmailVerified userId =>
    cases ran
    exact absurd wrote (guarded _ (.emailVerified userId now) (by simp))
  | findActiveUserByEmail email | findActiveUserById id | findActiveById id | findActiveByTokenHash hash
  | enqueuePasswordReset email rawToken userId | enqueueEmailVerification email rawToken userId =>
    cases ran; cases wrote

theorem apply_tokens (write : Write) (mem : token ∈ (tables.apply write).tokens) :
    write = .token token ∨
      ∃ old ∈ tables.tokens, old.id = token.id ∧ (old.revokedAt ≠ none → token.revokedAt ≠ none) := by
  cases write with
  | token row =>
    rcases mem_append.1 mem with old | new
    · exact .inr ⟨token, old, rfl, id⟩
    · rw [mem_singleton.1 new]
      exact .inl rfl
  | tokenRevoked id time =>
    obtain ⟨old, inside, rfl⟩ := mem_updateWhere.1 mem
    refine .inr ⟨old, inside, ?_⟩
    split_ifs
    · exact ⟨rfl, fun _ => some_ne_none _⟩
    · exact ⟨rfl, fun revoked => revoked⟩
  | session row | touched id time | sessionRevoked id time | sessionsRevoked userId time
  | password userId hash time | emailVerified userId time => exact .inr ⟨token, mem, rfl, fun revoked => revoked⟩

theorem apply_known (write : Write) (known : tables.Known id) : (tables.apply write).Known id := by
  obtain ⟨token, mem, same⟩ := known
  cases write with
  | token row => exact ⟨token, mem_append_left _ mem, same⟩
  | tokenRevoked id' time =>
    refine ⟨_, mem_updateWhere.2 ⟨token, mem, rfl⟩, ?_⟩
    split_ifs <;> exact same
  | session row | touched id time | sessionRevoked id time | sessionsRevoked userId time
  | password userId hash time | emailVerified userId time => exact ⟨token, mem, same⟩

theorem Known.stays (known : tables.Known id)
    (ran : exec primitives now tables statement = .ok (reply, writes)) : (tables.after writes).Known id := by
  rcases exec_writes ran with rfl | ⟨write, rfl, -⟩
  · exact known
  · exact apply_known write known

/-- **A revoked token stays revoked, and no other gets its id.** -/
theorem Spent.stays (spent : tables.Spent id)
    (ran : exec primitives now tables statement = .ok (reply, writes)) : (tables.after writes).Spent id := by
  rcases exec_writes ran with rfl | ⟨write, rfl, fresh⟩
  · exact spent
  refine ⟨apply_known write spent.known, ?_⟩
  intro token mem same
  rcases apply_tokens write mem with added | ⟨old, inside, same', kept⟩
  · have known := spent.known
    rw [← same] at known
    exact absurd known (fresh token added)
  · exact kept (spent.revoked old inside (same'.trans same))

theorem revoke_spent {revoked : Bool} (known : tables.Known id)
    (ran : exec primitives now tables (.revoke id) = .ok (revoked, writes)) :
    (tables.after writes).Spent id := by
  refine ⟨known.stays ran, ?_⟩
  intro token mem same
  cases ran
  cases matched : tables.tokens.any (usable id) with
  | false =>
    rw [matched] at mem
    have none := any_eq_false.1 matched token mem
    intro usable'
    exact none (by simp [usable, same, usable'])
  | true =>
    rw [matched] at mem
    obtain ⟨old, inside, rfl⟩ := mem_updateWhere.1 mem
    split_ifs at same ⊢ with passes
    · exact some_ne_none _
    · intro unrevoked
      exact passes (by simp [usable, same, unrevoked])

theorem find_unspent {hash : Digest}
    (ran : exec primitives now tables (.findActiveByTokenHash hash) = .ok (some token, writes)) :
    tables.Known token.id ∧ ¬ tables.Spent token.id := by
  have found : tables.tokens.find? (fun token => token.tokenHash = hash && token.active now) =
      some token := (Prod.ext_iff.1 (Except.ok.inj ran)).1
  have mem := mem_of_find?_eq_some found
  have active := find?_some found
  refine ⟨⟨token, mem, rfl⟩, fun spent => spent.revoked token mem rfl ?_⟩
  simp only [AuthToken.active, and_eq_true] at active
  exact isNone_iff_eq_none.1 active.2.1

/-- **A session in the tables was in them, revoked or not, or was inserted since.** -/
theorem after_sessions {session : Session} (mem : session ∈ (tables.after writes).sessions) :
    (∃ old ∈ tables.sessions, old.userId = session.userId ∧
        (session.revokedAt = none → old.revokedAt = none)) ∨
      ∃ row, .session row ∈ writes ∧ row.id = session.id ∧ row.userId = session.userId := by
  induction writes using List.reverseRecOn generalizing session with
  | nil => exact .inl ⟨session, mem, rfl, id⟩
  | append_singleton writes write ih =>
    have step : write = .session session ∨ ∃ old ∈ (tables.after writes).sessions, old.id = session.id ∧
          old.userId = session.userId ∧ (session.revokedAt = none → old.revokedAt = none) := by
      rw [after_append] at mem
      cases write with
      | session row =>
        rcases mem_append.1 mem with old | new
        · exact .inr ⟨session, old, rfl, rfl, id⟩
        · rw [mem_singleton.1 new]
          exact .inl rfl
      | touched id time =>
        obtain ⟨old, inside, rfl⟩ := mem_updateWhere.1 mem
        refine .inr ⟨old, inside, ?_⟩
        split_ifs <;> exact ⟨rfl, rfl, fun unrevoked => unrevoked⟩
      | sessionRevoked id time | sessionsRevoked userId time =>
        obtain ⟨old, inside, rfl⟩ := mem_updateWhere.1 mem
        refine .inr ⟨old, inside, ?_⟩
        split_ifs <;> exact ⟨rfl, rfl, by simp⟩
      | token row => exact .inr ⟨session, mem, rfl, rfl, id⟩
      | tokenRevoked id time => exact .inr ⟨session, mem, rfl, rfl, fun unrevoked => unrevoked⟩
      | password userId hash time | emailVerified userId time => exact .inr ⟨session, mem, rfl, rfl, id⟩
    rcases step with rfl | ⟨old, inside, sameId, sameUser, kept⟩
    · exact .inr ⟨session, by simp, rfl, rfl⟩
    · rcases ih inside with ⟨first, inside', same, kept'⟩ | ⟨row, written, same, same'⟩
      · exact .inl ⟨first, inside', same.trans sameUser, fun unrevoked => kept' (kept unrevoked)⟩
      · exact .inr ⟨row, mem_append_left _ written, same.trans sameId, same'.trans sameUser⟩

theorem sweep_revokes
    (ran : exec primitives now tables (.revokeAllSessionsForUser userId) = .ok ((), writes)) :
    ∀ session ∈ (tables.after writes).sessions, session.userId = userId → session.revokedAt ≠ none := by
  intro session mem own
  cases ran
  cases matched : tables.sessions.any (unrevokedOf userId) with
  | false =>
    rw [matched] at mem
    have none := any_eq_false.1 matched session mem
    intro unrevoked
    exact none (by simp [unrevokedOf, own, unrevoked])
  | true =>
    rw [matched] at mem
    obtain ⟨old, inside, rfl⟩ := mem_updateWhere.1 mem
    split_ifs at own ⊢ with passes
    · exact some_ne_none _
    · intro unrevoked
      exact passes (by simp [unrevokedOf, own, unrevoked])

end Accounts

def Write.hashOf (userId : Uuid) : Write → Option String
  | password id passwordHash _ => if id = userId then some passwordHash else none
  | _ => none

def hashesOf (userId : Uuid) (writes : List Write) : List String := writes.filterMap (Write.hashOf userId)

namespace Accounts

variable {user : Account}

theorem after_users (mem : user ∈ (tables.after writes).users) :
    ∃ old ∈ tables.users, old.id = user.id ∧ old.deletedAt = user.deletedAt ∧
      (user.passwordHash = old.passwordHash ∨
        ∃ hash ∈ hashesOf user.id writes, user.passwordHash = some hash) := by
  induction writes using List.reverseRecOn generalizing user with
  | nil => exact ⟨user, mem, rfl, rfl, .inl rfl⟩
  | append_singleton writes write ih =>
    have step : ∃ old ∈ (tables.after writes).users, old.id = user.id ∧
        old.deletedAt = user.deletedAt ∧ (user.passwordHash = old.passwordHash ∨
          ∃ hash, write.hashOf user.id = some hash ∧ user.passwordHash = some hash) := by
      rw [after_append] at mem
      cases write with
      | password userId hash time =>
        obtain ⟨old, inside, rfl⟩ := mem_updateWhere.1 mem
        refine ⟨old, inside, ?_⟩
        split_ifs with passes
        · simp only [active, and_eq_true, decide_eq_true_eq] at passes
          exact ⟨rfl, rfl, .inr ⟨hash, if_pos passes.1.symm, rfl⟩⟩
        · exact ⟨rfl, rfl, .inl rfl⟩
      | emailVerified userId time =>
        obtain ⟨old, inside, rfl⟩ := mem_updateWhere.1 mem
        refine ⟨old, inside, ?_⟩
        split_ifs <;> exact ⟨rfl, rfl, .inl rfl⟩
      | session row | touched id time | sessionRevoked id time | sessionsRevoked userId time | token row
      | tokenRevoked id time => exact ⟨user, mem, rfl, rfl, .inl rfl⟩
    obtain ⟨old, inside, sameId, deleted, password⟩ := step
    obtain ⟨first, inside', sameId', deleted', password'⟩ := ih inside
    refine ⟨first, inside', sameId'.trans sameId, deleted'.trans deleted, ?_⟩
    rw [sameId] at password'
    rcases password with same | ⟨hash, wrote, same⟩
    · rcases password' with same' | ⟨hash, among, same'⟩
      · exact .inl (same.trans same')
      · refine .inr ⟨hash, ?_, same.trans same'⟩
        rw [hashesOf, filterMap_append]
        exact mem_append_left _ among
    · refine .inr ⟨hash, ?_, same⟩
      rw [hashesOf, filterMap_append]
      exact mem_append_right _ (mem_filterMap.2 ⟨write, mem_singleton_self _, wrote⟩)

/-- **Once a password was updated, the one read is it or a later one.** -/
theorem updated_users {now : Int} {newHash : String} {later : List Write}
    (ran : exec primitives now tables (.updatePassword userId newHash) = .ok ((), writes))
    (mem : user ∈ (tables.after (writes ++ later)).users) (own : user.id = userId)
    (undeleted : user.deletedAt = none) :
    ∃ hash ∈ hashesOf userId (writes ++ later), user.passwordHash = some hash := by
  subst own
  rw [after_append] at mem
  obtain ⟨old, inside, same, deleted, password⟩ := after_users mem
  rw [hashesOf, filterMap_append]
  rcases password with kept | ⟨hash, among, stored⟩
  · cases ran
    obtain ⟨first, inside', same', deleted', -⟩ := after_users inside
    have matched : tables.users.any (active user.id) = true :=
      List.any_eq_true.2 ⟨first, inside', by
        simp [active, same'.trans same, (deleted'.trans deleted).trans undeleted]⟩
    rw [matched] at inside ⊢
    obtain ⟨row, inside, rfl⟩ := mem_updateWhere.1 inside
    refine ⟨newHash, ?_, ?_⟩
    · simp [writesIf, Write.hashOf]
    · rw [kept, if_pos]
      have rowId : row.id = user.id := by
        rw [← same]
        split_ifs <;> rfl
      have rowDeleted : row.deletedAt = none := by
        rw [← undeleted, ← deleted]
        split_ifs <;> rfl
      simp [active, rowId, rowDeleted]
  · exact ⟨hash, mem_append_right _ among, stored⟩

end Accounts

end DataPulse.Auth
