/-
**Pairing a terminal.**

`PairingService.pair` redeems a one-time code for a device token. It looks the code up, counts the attempt
in a transaction of its own, checks the code and the terminal, and in a second transaction burns the code
and provisions the device. Calls run side by side, a statement at a time: a row that a transaction has
updated is locked until it ends, an `INSERT` waits for one of the same key that has not ended, and a
transaction in which a statement failed rolls back at its `COMMIT`.

* `pairing_provisions`: so it holds over every run of such steps; `exhausted_provisions`: not over every
  run.
-/

import DataPulse.Auth.Identities
import DataPulse.Lib.Machine
import DataPulse.Lib.Slots

namespace DataPulse.Pairing

open Platform Lib
open Auth (Digest)

/-! ### Rows -/

/-- `pairing_codes.status`. -/
inductive CodeStatus where
  | pending
  | used
  | cancelled
  deriving DecidableEq

/-- What a code pins for its terminal. -/
structure Binding where
  terminalLabel : String
  branchName : String
  branchAddress : String
  tenantTaxRegistrationId : String
  printerVendorId : String
  printerProductId : String
  printerComPort : Option String

structure PairingCode where
  id : Uuid
  tenantId : Uuid
  storeId : Uuid
  terminalId : Uuid
  codeHash : Digest
  binding : Binding
  status : CodeStatus
  expiresAt : Int
  attemptCount : Nat
  deviceId : Option Uuid

structure Device where
  id : Uuid
  tenantId : Uuid
  storeId : Uuid
  label : String
  tokenHash : Digest
  revokedAt : Option Int

def MAX_ATTEMPTS_PER_CODE : Nat := 5

def RETRY_AFTER_SECONDS : Nat := 30

inductive PairResult where
  | ok (binding : Binding) (deviceToken : String)
  | invalid
  | expired
  | alreadyPaired
  | branchMismatch
  | rateLimited (retryAfterSeconds : Nat)

/-! ### A call -/

/-- Where a call is: what it does next. `seen` is the row its burn updated, `at` the time of that transaction. -/
inductive PairPhase where
  /-- `findByCode`. -/
  | begun (rawCode : String)
  /-- `recordAttempt`. -/
  | found (code : PairingCode)
  | counted (code : PairingCode) (attempts : Nat)
  /-- `findPairedBranch`. -/
  | redeemable (code : PairingCode)
  /-- The burn. -/
  | unpaired (code : PairingCode) (rawToken : String)
  /-- `INSERT INTO devices`. -/
  | burnt (code seen : PairingCode) (rawToken : String) (time : Int)
  /-- The link and the `COMMIT`. -/
  | inserted (code seen : PairingCode) (rawToken : String) (time : Int)
  /-- The `COMMIT` of a transaction that failed. -/
  | aborted (code : PairingCode)
  | done (result : PairResult)

/-- The code whose row the call's transaction has updated. -/
def PairPhase.holds : PairPhase → Option Uuid
  | burnt code .. | inserted code .. | aborted code => some code.id
  | _ => none

def deviceOf (hashToken : String → Digest) (code : PairingCode) (rawToken : String) : Device :=
  ⟨code.terminalId, code.tenantId, code.storeId, code.binding.terminalLabel, hashToken rawToken, none⟩

/-- A provisioning that was committed: by which call, of which code, as its burn saw it. A history. -/
structure Provision where
  call : Nat
  code : PairingCode
  seen : PairingCode
  rawToken : String
  time : Int

structure PairState where
  codes : List PairingCode
  devices : List Device
  calls : List PairPhase
  provisions : List Provision

/-- A call arrives, or executes its next statement at some time, with a token should it mint one. -/
inductive PairEvent where
  | pair (rawCode : String)
  | advance (call : Nat) (now : Int) (rawToken : String)

section Model

variable (hashToken : String → Digest)

namespace PairState

variable (state : PairState) (call : Nat)

def locked (codeId : Uuid) : Bool :=
  (state.calls.eraseIdx call).any fun phase => phase.holds = some codeId

/-- An `INSERT` of the same key has not ended. -/
def awaited (device : Device) : Bool :=
  (state.calls.eraseIdx call).any fun
    | .inserted code _ rawToken _ => code.terminalId = device.id || hashToken rawToken = device.tokenHash
    | _ => false

def goTo (phase : PairPhase) : PairState := { state with calls := state.calls.set call phase }

/-- The next statement of a call, unless it waits for another transaction or is over. -/
def advance (now : Int) (rawToken : String) : PairPhase → Option PairState
  | .begun rawCode =>
    if rawCode = "" then some (state.goTo call (.done .invalid))
    else match state.codes.find? fun code => code.codeHash = hashToken rawCode with
      | none => some (state.goTo call (.done .invalid))
      | some code => some (state.goTo call (.found code))
  | .found code =>
    if state.locked call code.id then none
    else
      let codes := state.codes.map fun row =>
        if row.id = code.id then { row with attemptCount := row.attemptCount + 1 } else row
      let attempts := ((codes.find? fun row => row.id = code.id).map PairingCode.attemptCount).getD 0
      some { state.goTo call (.counted code attempts) with codes := codes }
  | .counted code attempts =>
    if attempts > MAX_ATTEMPTS_PER_CODE then some (state.goTo call (.done (.rateLimited RETRY_AFTER_SECONDS)))
    else if code.status ≠ .pending ∨ code.expiresAt ≤ now then some (state.goTo call (.done .expired))
    else some (state.goTo call (.redeemable code))
  | .redeemable code =>
    match state.devices.find? fun device =>
      device.tenantId = code.tenantId && device.id = code.terminalId && device.revokedAt.isNone with
    | some device => some (state.goTo call (.done
        (if device.storeId = code.storeId then .alreadyPaired else .branchMismatch)))
    | none => some (state.goTo call (.unpaired code rawToken))
  | .unpaired code rawToken =>
    if state.locked call code.id then none
    else match state.codes.find? fun row => row.id = code.id && row.status = .pending && now < row.expiresAt with
      | none => some (state.goTo call (.done .expired))
      | some seen => some (state.goTo call (.burnt code seen rawToken now))
  | .burnt code seen rawToken time =>
    let device := deviceOf hashToken code rawToken
    if state.awaited hashToken call device then none
    else if state.devices.any fun row => row.id = device.id || row.tokenHash = device.tokenHash then
      -- the violation of a key: the statement fails, and with it the transaction
      some (state.goTo call (.aborted code))
    else some (state.goTo call (.inserted code seen rawToken time))
  | .inserted code seen rawToken time => some {
      codes := state.codes.map fun row =>
        if row.id = code.id then { row with status := .used, deviceId := some code.terminalId } else row
      devices := state.devices ++ [deviceOf hashToken code rawToken]
      calls := state.calls.set call (.done (.ok code.binding rawToken))
      provisions := state.provisions ++ [⟨call, code, seen, rawToken, time⟩] }
  | .aborted _ => some (state.goTo call (.done .alreadyPaired))
  | .done _ => none

end PairState

/-- The codes and devices before any call; a code has one row (`pairing_codes_pkey`). -/
structure Start where
  codes : List PairingCode
  devices : List Device
  ids : (codes.map PairingCode.id).Nodup

/-- The calls of `pair`. -/
def pairing (start : Start) : Machine PairState PairEvent where
  start := ⟨start.codes, start.devices, [], []⟩
  step state
    | .pair rawCode => some { state with calls := state.calls ++ [.begun rawCode] }
    | .advance call now rawToken => match state.calls[call]? with
        | none => none
        | some phase => state.advance hashToken call now rawToken phase

/-! ### The law -/

/-- **What is returned and what is committed.** -/
structure Provisioned (start : Start) (state : PairState) : Prop where
  /-- A code provisions at most one device. -/
  once : (state.provisions.map fun provision => provision.code.id).Nodup
  /-- A token is returned exactly by the calls that provisioned. -/
  returned : ∀ (call : Nat) rawToken, (∃ binding, state.calls[call]? = some (.done (.ok binding rawToken))) ↔
    ∃ provision ∈ state.provisions, provision.call = call ∧ provision.rawToken = rawToken
  /-- The device with the hash of the token is committed, and the code is marked used for it. -/
  committed : ∀ provision ∈ state.provisions,
    deviceOf hashToken provision.code provision.rawToken ∈ state.devices ∧
    ∃ row ∈ state.codes, row.id = provision.code.id ∧ row.status = .used ∧
      row.deviceId = some provision.code.terminalId
  /-- The code was neither used nor cancelled, neither expired nor beyond its attempts. -/
  redeemable : ∀ provision ∈ state.provisions, provision.seen.id = provision.code.id ∧
    provision.seen.status = .pending ∧ provision.time < provision.seen.expiresAt ∧
      provision.seen.attemptCount ≤ MAX_ATTEMPTS_PER_CODE
  /-- Nothing else changes the devices or the status of a code. -/
  devices : state.devices = start.devices ++ state.provisions.map fun provision =>
    deviceOf hashToken provision.code provision.rawToken
  unused : ∀ row ∈ state.codes, (∃ provision ∈ state.provisions, provision.code.id = row.id) ∨
    ∃ before ∈ start.codes, before.id = row.id ∧ before.status = row.status

def WithinAttempts (state : PairState) : PairEvent → Prop
  | .pair _ => True
  | .advance call _ _ => ∀ code rawToken, state.calls[call]? = some (.unpaired code rawToken) →
      ∀ row ∈ state.codes, row.id = code.id → row.attemptCount ≤ MAX_ATTEMPTS_PER_CODE

/-! ### One statement -/

/-- The call has burnt the code, and its transaction may still commit. -/
def PairPhase.Burns (phase : PairPhase) (code seen : PairingCode) (rawToken : String) (time : Int) : Prop :=
  phase = .burnt code seen rawToken time ∨ phase = .inserted code seen rawToken time

def PairPhase.Returns (phase : PairPhase) (rawToken : String) : Prop :=
  ∃ binding, phase = .done (.ok binding rawToken)

/-- What a burn saw of the code: the committed row, which stays as it is while the transaction lasts. -/
structure Seen (codes : List PairingCode) (code seen : PairingCode) (time : Int) : Prop where
  row : seen ∈ codes
  id : seen.id = code.id
  pending : seen.status = .pending
  current : time < seen.expiresAt
  within : seen.attemptCount ≤ MAX_ATTEMPTS_PER_CODE

/-- The law, and what it rests on: a row that was burnt is locked by one call. -/
structure Locked (start : Start) (state : PairState) : Prop extends Provisioned hashToken start state where
  ids : (state.codes.map PairingCode.id).Nodup
  exclusive : ∀ (first second : Nat) phase other codeId, state.calls[first]? = some phase →
    state.calls[second]? = some other → phase.holds = some codeId → other.holds = some codeId → first = second
  burns : ∀ (call : Nat) phase code seen rawToken time, state.calls[call]? = some phase →
    phase.Burns code seen rawToken time → Seen state.codes code seen time

section Steps

variable {hashToken} {start : Start} {state next : PairState} {call : Nat} {phase : PairPhase}
variable {code : PairingCode} {rawToken : String} {time : Int}
variable {seen : PairingCode} {change : PairingCode → PairingCode} {goal : PairPhase}
variable {codeId : Uuid} {now : Int}

theorem PairPhase.Burns.holds (burns : phase.Burns code seen rawToken time) : phase.holds = some code.id := by
  rcases burns with rfl | rfl <;> rfl

variable (locked : Locked hashToken start state)
include locked

theorem Locked.goTo (here : state.calls[call]? = some phase)
    (lock : goal.holds = none ∨ goal.holds = phase.holds)
    (burns : ∀ code seen rawToken time, goal.Burns code seen rawToken time →
        phase.Burns code seen rawToken time) (before : ∀ rawToken, ¬ phase.Returns rawToken)
    (after : ∀ rawToken, ¬ goal.Returns rawToken) : Locked hashToken start (state.goTo call goal) := by
  have holds : ∀ (other : Nat) found codeId, (state.calls.set call goal)[other]? = some found →
      found.holds = some codeId → ∃ old, state.calls[other]? = some old ∧ old.holds = some codeId := by
    intro other found codeId mem held
    obtain ⟨rfl, rfl⟩ | ⟨-, same⟩ := slot_set_cases mem
    · rcases lock with free | same
      · cases free.symm.trans held
      · exact ⟨phase, here, same.symm.trans held⟩
    · exact ⟨found, same, held⟩
  refine ⟨⟨locked.once, fun other rawToken => ?_, locked.committed, locked.redeemable, locked.devices,
    locked.unused⟩, locked.ids, fun first second one two codeId mem member' held held' => ?_,
    fun other found code seen rawToken time mem burn => ?_⟩
  · refine Iff.trans ?_ (locked.returned other rawToken)
    change (∃ binding, (state.calls.set call goal)[other]? = some (.done (.ok binding rawToken))) ↔ _
    by_cases this : other = call
    · subst this
      constructor
      · rintro ⟨binding, mem⟩
        exact absurd ⟨binding, Option.some.inj ((slot_set_self here).symm.trans mem)⟩ (after rawToken)
      · rintro ⟨binding, mem⟩
        exact absurd ⟨binding, mem_unique here mem⟩ (before rawToken)
    · rw [slot_set_other this]
  · obtain ⟨old, inside, kept⟩ := holds first one codeId mem held
    obtain ⟨old', inside', kept'⟩ := holds second two codeId member' held'
    exact locked.exclusive first second old old' codeId inside inside' kept kept'
  · obtain ⟨rfl, rfl⟩ | ⟨-, same⟩ := slot_set_cases mem
    · exact locked.burns other phase code seen rawToken time here (burns code seen rawToken time burn)
    · exact locked.burns other found code seen rawToken time same burn

theorem Locked.pass (here : state.calls[call]? = some phase) (free : goal.holds = none)
    (before : ∀ rawToken, ¬ phase.Returns rawToken) (after : ∀ rawToken, ¬ goal.Returns rawToken) :
    Locked hashToken start (state.goTo call goal) :=
  locked.goTo here (.inl free) (fun _ _ _ _ burn => by cases free.symm.trans burn.holds) before after

theorem Locked.row_eq {row : PairingCode} (burnt : Seen state.codes code seen time)
    (there : row ∈ state.codes) (same : row.id = code.id) : row = seen :=
  inj_on_of_nodup_map locked.ids there burnt.row (same.trans burnt.id.symm)

theorem Locked.seen_kept
    (others : ∀ (other : Nat) found, other ≠ call → state.calls[other]? = some found →
        found.holds ≠ some codeId) {other : Nat} {found : PairPhase} (apart : other ≠ call)
    (mem : state.calls[other]? = some found) (burn : found.Burns code seen rawToken time) :
    Seen (state.codes.map fun row => if row.id = codeId then change row else row) code seen time := by
  have burnt := locked.burns other found code seen rawToken time mem burn
  have unlike : seen.id ≠ codeId := fun same =>
    others other found apart mem (burn.holds.trans (congrArg some (burnt.id.symm.trans same)))
  exact ⟨mem_map.2 ⟨seen, burnt.row, if_neg unlike⟩, burnt.id, burnt.pending, burnt.current, burnt.within⟩

omit locked

theorem ids_kept {codes : List PairingCode} (same : ∀ row, (change row).id = row.id)
    (ids : (codes.map PairingCode.id).Nodup) :
    ((codes.map fun row => if row.id = codeId then change row else row).map PairingCode.id).Nodup := by
  rw [map_map]
  refine (map_congr_left fun row _ => ?_) ▸ ids
  dsimp only [Function.comp]
  split
  · exact (same row).symm
  · rfl

variable (locked : Locked hashToken start state)
include locked

theorem recordAttempt_locked {attempts : Nat}
    (here : state.calls[call]? = some (.found code)) (free : state.locked call code.id = false) :
    Locked hashToken start { state.goTo call (.counted code attempts) with
      codes := state.codes.map fun row =>
        if row.id = code.id then { row with attemptCount := row.attemptCount + 1 } else row } := by
  have passed : Locked hashToken start (state.goTo call (.counted code attempts)) :=
    locked.pass here rfl (by simp [PairPhase.Returns]) (by simp [PairPhase.Returns])
  have others : ∀ (other : Nat) found, other ≠ call → state.calls[other]? = some found →
      found.holds ≠ some code.id := fun other found apart mem => by
    simpa using mem_others free apart mem
  refine ⟨⟨passed.once, passed.returned, fun provision mem => ?_, passed.redeemable, passed.devices,
    fun row mem => ?_⟩, ids_kept (fun _ => rfl) locked.ids, passed.exclusive,
    fun other found seen_code seen rawToken time mem burn => ?_⟩
  · obtain ⟨device, row, there, same, used, linked⟩ := locked.committed provision mem
    refine ⟨device, _, mem_map_of_mem there, ?_⟩
    split <;> exact ⟨same, used, linked⟩
  · obtain ⟨old, there, rfl⟩ := mem_map.1 mem
    have kept := locked.unused old there
    split <;> exact kept
  · obtain ⟨rfl, rfl⟩ | ⟨apart, same⟩ := slot_set_cases mem
    · rcases burn with burn | burn <;> cases burn
    · exact locked.seen_kept others apart same burn

theorem burn_locked (here : state.calls[call]? = some (.unpaired code rawToken))
    (free : state.locked call code.id = false)
    (found : (state.codes.find? fun row => row.id = code.id && row.status = .pending && now < row.expiresAt) =
        some seen)
    (within : ∀ row ∈ state.codes, row.id = code.id → row.attemptCount ≤ MAX_ATTEMPTS_PER_CODE) :
    Locked hashToken start (state.goTo call (.burnt code seen rawToken now)) := by
  have row := mem_of_find?_eq_some found
  have matched := find?_some found
  simp only [and_eq_true, decide_eq_true_eq] at matched
  have others : ∀ (other : Nat) found, other ≠ call → state.calls[other]? = some found →
      found.holds ≠ some code.id := fun other found apart mem => by
    simpa using mem_others free apart mem
  refine ⟨⟨locked.once, fun other token => ?_, locked.committed, locked.redeemable, locked.devices,
    locked.unused⟩, locked.ids, fun first second one two codeId mem member' held held' => ?_,
    fun other found burnt_code burnt_seen token time mem burn => ?_⟩
  · refine Iff.trans ?_ (locked.returned other token)
    change (∃ binding, (state.calls.set call _)[other]? = some (.done (.ok binding token))) ↔ _
    by_cases this : other = call
    · subst this
      simp [slot_set_self here, here]
    · rw [slot_set_other this]
  · obtain ⟨rfl, rfl⟩ | ⟨apart, same⟩ := slot_set_cases mem
    · obtain ⟨rfl, -⟩ | ⟨apart', same'⟩ := slot_set_cases member'
      · rfl
      · exact absurd (held'.trans held.symm) (others second two apart' same')
    · obtain ⟨rfl, rfl⟩ | ⟨apart', same'⟩ := slot_set_cases member'
      · exact absurd (held.trans held'.symm) (others first one apart same)
      · exact locked.exclusive first second one two codeId same same' held held'
  · obtain ⟨rfl, rfl⟩ | ⟨apart, same⟩ := slot_set_cases mem
    · rcases burn with burn | burn <;> cases burn
      exact ⟨row, matched.1.1, matched.1.2, matched.2, within seen row matched.1.1⟩
    · exact locked.burns other found burnt_code burnt_seen token time same burn

theorem commit_locked
    (here : state.calls[call]? = some (.inserted code seen rawToken time)) : Locked hashToken start {
      codes := state.codes.map fun row =>
        if row.id = code.id then { row with status := .used, deviceId := some code.terminalId } else row
      devices := state.devices ++ [deviceOf hashToken code rawToken]
      calls := state.calls.set call (.done (.ok code.binding rawToken))
      provisions := state.provisions ++ [⟨call, code, seen, rawToken, time⟩] } := by
  have burnt := locked.burns call _ code seen rawToken time here (.inr rfl)
  have others : ∀ (other : Nat) found, other ≠ call → state.calls[other]? = some found →
      found.holds ≠ some code.id :=
    fun other found apart mem held => apart (locked.exclusive other call found _ code.id mem here held rfl)
  have first : ∀ provision ∈ state.provisions, provision.code.id ≠ code.id := by
    intro provision mem same
    obtain ⟨-, row, there, id, used, -⟩ := locked.committed provision mem
    have one := locked.row_eq burnt there (id.trans same)
    rw [one, burnt.pending] at used
    cases used
  have silent : ∀ provision ∈ state.provisions, provision.call ≠ call := by
    intro provision mem same
    obtain ⟨binding, gave⟩ := (locked.returned call provision.rawToken).2 ⟨provision, mem, same, rfl⟩
    cases here.symm.trans gave
  refine ⟨⟨?_, fun other token => ?_, fun provision mem => ?_, fun provision mem => ?_, ?_,
    fun row mem => ?_⟩, ids_kept (fun _ => rfl) locked.ids,
      fun one two phase other codeId mem member' held held' =>
    ?_, fun other found burnt_code burnt_seen token time mem burn => ?_⟩
  · rw [map_append, nodup_append]
    refine ⟨locked.once, nodup_singleton _, fun id mem other single => ?_⟩
    obtain ⟨provision, before, rfl⟩ := mem_map.1 mem
    rw [mem_singleton.1 single]
    exact first provision before
  · change (∃ binding, (state.calls.set call _)[other]? = some (.done (.ok binding token))) ↔ _
    by_cases this : other = call
    · subst this
      rw [slot_set_self here]
      constructor
      · rintro ⟨binding, same⟩
        cases same
        exact ⟨_, mem_append_right _ (mem_singleton_self _), rfl, rfl⟩
      · rintro ⟨provision, mem, same, rfl⟩
        rcases mem_append.1 mem with before | new
        · exact absurd same (silent provision before)
        · rw [mem_singleton.1 new]
          exact ⟨_, rfl⟩
    · rw [slot_set_other this, locked.returned other token]
      refine exists_congr fun provision => and_congr_left fun same => ?_
      rw [mem_append, mem_singleton]
      refine (or_iff_left fun new => this ?_).symm
      rw [← same.1, new]
  · rcases mem_append.1 mem with before | new
    · obtain ⟨device, row, there, id, used, linked⟩ := locked.committed provision before
      refine ⟨mem_append_left _ device, row, mem_map.2 ⟨row, there, ?_⟩, id, used, linked⟩
      exact if_neg fun same => first provision before (id.symm.trans same)
    · rw [mem_singleton.1 new]
      exact ⟨mem_append_right _ (mem_singleton_self _), _,
        mem_map.2 ⟨seen, burnt.row, if_pos burnt.id⟩, burnt.id, rfl, rfl⟩
  · rcases mem_append.1 mem with before | new
    · exact locked.redeemable provision before
    · rw [mem_singleton.1 new]
      exact ⟨burnt.id, burnt.pending, burnt.current, burnt.within⟩
  · rw [map_append, ← append_assoc, ← locked.devices]
    rfl
  · obtain ⟨old, there, rfl⟩ := mem_map.1 mem
    split
    · rename_i same
      exact .inl ⟨_, mem_append_right _ (mem_singleton_self _), same.symm⟩
    · rcases locked.unused old there with ⟨provision, mem, same⟩ | before
      · exact .inl ⟨provision, mem_append_left _ mem, same⟩
      · exact .inr before
  · obtain ⟨rfl, rfl⟩ | ⟨-, same⟩ := slot_set_cases mem
    · cases held
    · obtain ⟨rfl, rfl⟩ | ⟨-, same'⟩ := slot_set_cases member'
      · cases held'
      · exact locked.exclusive one two phase other codeId same same' held held'
  · obtain ⟨rfl, rfl⟩ | ⟨apart, same⟩ := slot_set_cases mem
    · rcases burn with burn | burn <;> cases burn
    · exact locked.seen_kept others apart same burn

theorem Locked.arrive (rawCode : String) :
    Locked hashToken start { state with calls := state.calls ++ [.begun rawCode] } := by
  refine ⟨⟨locked.once, fun other token => ?_, locked.committed, locked.redeemable, locked.devices,
    locked.unused⟩, locked.ids, fun one two phase other codeId mem member' held held' => ?_,
    fun other found code seen token time mem burn => ?_⟩
  · refine Iff.trans (exists_congr fun binding => ⟨fun mem => ?_, slot_append⟩) (locked.returned other token)
    rcases slot_append_cases mem with before | new
    · exact before
    · cases new
  · rcases slot_append_cases mem with before | rfl
    · rcases slot_append_cases member' with before' | rfl
      · exact locked.exclusive one two phase other codeId before before' held held'
      · cases held'
    · cases held
  · rcases slot_append_cases mem with before | rfl
    · exact locked.burns other found code seen token time before burn
    · rcases burn with burn | burn <;> cases burn

/-- **A statement keeps the law, where no code is burnt beyond its attempts.** -/
theorem advance_locked (here : state.calls[call]? = some phase)
    (within : ∀ code rawToken, phase = .unpaired code rawToken →
        ∀ row ∈ state.codes, row.id = code.id → row.attemptCount ≤ MAX_ATTEMPTS_PER_CODE)
    (step : state.advance hashToken call now rawToken phase = some next) : Locked hashToken start next := by
  have pass : ∀ goal : PairPhase, (∀ rawToken, ¬ phase.Returns rawToken) → goal.holds = none →
      (∀ rawToken, ¬ goal.Returns rawToken) → Locked hashToken start (state.goTo call goal) :=
    fun goal before free after => locked.pass here free before after
  cases phase with
  | begun rawCode | counted code attempts =>
    have pass := fun goal => pass goal (by simp [PairPhase.Returns])
    dsimp only [PairState.advance] at step
    split at step
    · cases step
      exact pass _ rfl (by simp [PairPhase.Returns])
    · split at step <;> cases step
      · exact pass _ rfl (by simp [PairPhase.Returns])
      · exact pass _ rfl (by simp [PairPhase.Returns])
  | found code =>
    dsimp only [PairState.advance] at step
    split at step <;> cases step
    rename_i free
    exact recordAttempt_locked locked here (by simpa using free)
  | redeemable code =>
    have pass := fun goal => pass goal (by simp [PairPhase.Returns])
    dsimp only [PairState.advance] at step
    split at step <;> cases step
    · refine pass _ rfl fun _ => ?_
      split <;> simp [PairPhase.Returns]
    · exact pass _ rfl (by simp [PairPhase.Returns])
  | unpaired code token =>
    dsimp only [PairState.advance] at step
    split at step
    · cases step
    rename_i free
    split at step <;> cases step
    · exact pass _ (by simp [PairPhase.Returns]) rfl (by simp [PairPhase.Returns])
    · rename_i seen found
      exact burn_locked locked here (by simpa using free) found (within code token rfl)
  | burnt code seen token time =>
    dsimp only [PairState.advance] at step
    split at step
    · cases step
    -- the lock of the row is kept whether or not the insert works
    split at step <;> cases step
    · refine locked.goTo here (.inr rfl) (fun _ _ _ _ burn => ?_) (by simp [PairPhase.Returns])
        (by simp [PairPhase.Returns])
      rcases burn with burn | burn <;> cases burn
    · refine locked.goTo here (.inr rfl) (fun _ _ _ _ burn => ?_) (by simp [PairPhase.Returns])
        (by simp [PairPhase.Returns])
      rcases burn with burn | burn <;> cases burn
      exact .inl rfl
  | inserted code seen token time =>
    cases step
    exact commit_locked locked here
  | aborted code =>
    cases step
    exact pass _ (by simp [PairPhase.Returns]) rfl (by simp [PairPhase.Returns])
  | done result => cases step

omit locked

end Steps

/-! ### Every run -/

theorem locked_start (start : Start) : Locked hashToken start (pairing hashToken start).start := by
  refine ⟨⟨nodup_nil, fun call rawToken => ?_, fun _ mem => ?_, fun _ mem => ?_, ?_, fun row mem => .inr
    ⟨row, mem, rfl, rfl⟩⟩, start.ids, fun _ _ _ _ _ mem => ?_, fun _ _ _ _ _ _ mem => ?_⟩
  · simp [pairing]
  · cases mem
  · cases mem
  · simp [pairing]
  · cases mem
  · cases mem

/-- **Over any run in which no code is burnt beyond its attempts, each code provisions at most one device,
and a token is returned exactly where its device is committed and the code is used for it.** -/
theorem pairing_provisions {hashToken : String → Digest} {start : Start} {state : PairState}
    (reaches : (pairing hashToken start).Reaches WithinAttempts (pairing hashToken start).start state) :
    Provisioned hashToken start state := by
  have locked : Locked hashToken start state := by
    refine @Machine.Reaches.invariant _ _ _ _ _ _ (Locked hashToken start) reaches (locked_start hashToken start)
      fun before event after locked within step => ?_
    cases event with
    | pair rawCode =>
      cases step
      exact locked.arrive rawCode
    | advance call now rawToken =>
      dsimp only [pairing] at step
      split at step
      · cases step
      · rename_i phase here
        exact advance_locked locked here (fun code token same => within code token (same ▸ here)) step
  exact locked.toProvisioned

end Model

/-! ### A code beyond its attempts -/

section Samples

def sampleStart (attemptCount : Nat) : Start where
  codes := [⟨.sample 0, .sample 1, .sample 2, .sample 3, [],
    ⟨"Till", "Branch", "Street", "1", "0x0000", "0x0000", none⟩, .pending, 100, attemptCount, none⟩]
  devices := []
  ids := nodup_singleton _

def sampleHash (text : String) : Digest := if text = "code" then [] else [1]

/-- The fifth attempt is checked, a sixth is turned away, and the fifth provisions the device. -/
theorem exhausted_provisions :
    ¬
      ∀ (hashToken : String → Digest) (start : Start) (state : PairState), (pairing hashToken start).Reachable
      state → Provisioned hashToken start state := by
  intro law
  have ran : ((pairing sampleHash (sampleStart 4)).run (pairing sampleHash (sampleStart 4)).start
      ([.pair "code"] ++ List.replicate 4 (.advance 0 1 "token") ++
        [.pair "code", .advance 1 1 "", .advance 1 1 "",
        .advance 1 1 ""] ++ List.replicate 3 (.advance 0 1 "token"))).any (fun state =>
      state.provisions.any fun provision => provision.seen.attemptCount > MAX_ATTEMPTS_PER_CODE) = true := by
    decide +kernel
  obtain ⟨state, reached, beyond⟩ := (any_eq_true _ _).1 ran
  obtain ⟨provision, mem, beyond⟩ := List.any_eq_true.1 beyond
  have within := ((law _ _ state (Machine.run_later reached)).redeemable provision mem).2.2.2
  exact absurd within (Nat.not_le.2 (of_decide_eq_true beyond))

theorem withinAttempts_iff {state : PairState} {call : Nat} {now : Int} {rawToken : String} :
    (match state.calls[call]? with
      | some (.unpaired code _) => ∀ row ∈ state.codes, row.id = code.id → row.attemptCount ≤
          MAX_ATTEMPTS_PER_CODE
      | _ => True) ↔ WithinAttempts state (.advance call now rawToken) := by
  change _ ↔ ∀ code rawToken, state.calls[call]? = some (.unpaired code rawToken) → _
  generalize state.calls[call]? = found
  cases found with
  | none => simp
  | some phase => cases phase <;> simp

instance (state : PairState) : (event : PairEvent) → Decidable (WithinAttempts state event)
  | .pair _ => .isTrue trivial
  | .advance call _ _ => by
      refine @decidable_of_iff _ _ withinAttempts_iff ?_
      split <;> infer_instance

theorem pairing_provisions_sample :
    ∃ state, (pairing sampleHash (sampleStart 0)).run (pairing sampleHash (sampleStart 0)).start
      ([.pair "code", .pair "code", .advance 0 1 "", .advance 1 1 ""] ++
        List.replicate 6 (.advance 0 1 "token")) = some state ∧ state.provisions.length = 1 ∧
      Provisioned sampleHash (sampleStart 0) state := by
  have ran : ((pairing sampleHash (sampleStart 0)).run (pairing sampleHash (sampleStart 0)).start
      ([.pair "code", .pair "code", .advance 0 1 "", .advance 1 1 ""] ++
        List.replicate 6 (.advance 0 1 "token"))).any (fun state => state.provisions.length = 1) = true := by
    decide +kernel
  obtain ⟨state, reached, one⟩ := (any_eq_true _ _).1 ran
  exact ⟨state, reached, of_decide_eq_true one,
    pairing_provisions (Machine.run_reaches reached (by decide +kernel))⟩

end Samples

end DataPulse.Pairing
