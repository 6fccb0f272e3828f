/-
**Linking external identities.**

The backfill of `0025_external_identity_links.sql`, `linkExternalIdentity` of
`ClerkIdentityProviderAdapter`, and the join of `findUserByExternalIdentity`, as steps of a machine over the
links. Each of them is one statement, so that calls that overlap run one after the other; a call whose
answer is lost runs like any other.

`links_agree`: while calls are made only where the pair's links are their user's, a pair resolves to at most
one user, and to the user of an accepted call from then on; `linked_maps_iff`: an accepted call maps its
pair so exactly there. `links_disagree`: two calls that are accepted all the same.
-/

import DataPulse.Auth.Identities
import DataPulse.Inventory.Ledger
import DataPulse.Lib.Machine

namespace DataPulse.Auth

open Lib Platform
open Inventory (require require_ok require_all)

/-! ### Rows -/

/-- `external_identity_links`; `active` is its `status`. -/
structure LinkRow where
  id : Uuid
  providerKey : String
  issuer : String
  subject : String
  userId : Uuid
  email : Option String
  active : Bool
  linkedAt : Int
  lastVerifiedAt : Option Int
  disabledAt : Option Int
  createdAt : Int
  updatedAt : Int

structure LinkExternalIdentityInput where
  providerKey : String
  issuer : String
  subject : String
  userId : Uuid
  email : Option String

/-- Equal keys in `external_identity_links_provider_subject_uidx`. -/
def LinkRow.sameKey (first second : LinkRow) : Bool :=
  first.providerKey = second.providerKey && first.issuer = second.issuer && first.subject = second.subject

/-- `length(btrim(text)) > 0`. -/
def nonBlank (text : String) : Bool := text.toList.any fun c => c ≠ ' '

/-! ### Statements -/

section Statements

variable (users : List User) (rows : List LinkRow)

def checkLink (row : LinkRow) : Except PgError Unit := do
  require (nonBlank row.providerKey) ⟨.check, some "external_identity_links_provider_key_non_empty"⟩
  require (nonBlank row.issuer) ⟨.check, some "external_identity_links_issuer_non_empty"⟩
  require (nonBlank row.subject) ⟨.check, some "external_identity_links_subject_non_empty"⟩
  require (row.email.all nonBlank) ⟨.check, some "external_identity_links_email_non_empty"⟩
  require (row.active = row.disabledAt.isNone) ⟨.check, some "external_identity_links_disabled_at_consistent"⟩

def checkActive (row : LinkRow) : Except PgError Unit :=
  require (rows.all fun other => !(row.active && other.active && other.userId = row.userId && other.id ≠ row.id))
    ⟨.unique, some "external_identity_links_one_active_per_user_uidx"⟩

def insertLink (row : LinkRow) : Except PgError (List LinkRow) := do
  require (rows.all fun other => other.id ≠ row.id) ⟨.unique, some "external_identity_links_pkey"⟩
  checkActive rows row
  require (users.any fun user => user.id = row.userId) ⟨.foreignKey, some "external_identity_links_user_id_fkey"⟩
  .ok (rows ++ [row])

def LinkExternalIdentityInput.row (input : LinkExternalIdentityInput) (id : Uuid) (now : Int) : LinkRow where
  id := id
  providerKey := input.providerKey
  issuer := input.issuer
  subject := input.subject
  userId := input.userId
  email := input.email
  active := true
  linkedAt := now
  lastVerifiedAt := none
  disabledAt := none
  createdAt := now
  updatedAt := now

/-- `DO UPDATE SET email = EXCLUDED.email, last_verified_at = now(), status = 'active', disabled_at = NULL`. -/
def LinkRow.relink (row : LinkRow) (input : LinkExternalIdentityInput) (now : Int) : LinkRow :=
  { row with
    email := input.email
    lastVerifiedAt := some now
    active := true
    disabledAt := none
    updatedAt := now }

/-- `INSERT INTO external_identity_links … ON CONFLICT (provider_key, issuer, subject) DO UPDATE … RETURNING id`:
`linkExternalIdentity(input)`. -/
def linkExternalIdentity (input : LinkExternalIdentityInput) (id : Uuid) (now : Int) :
    Except PgError (Uuid × List LinkRow) := do
  checkLink (input.row id now)
  match rows.find? fun row => row.sameKey (input.row id now) with
  | none => do
      let inserted ← insertLink users rows (input.row id now)
      .ok (id, inserted)
  | some row => do
      checkLink (row.relink input now)
      checkActive rows (row.relink input now)
      .ok (row.id, rows.map fun other => if other.id = row.id then row.relink input now else other)

def User.linkRow (user : User) (subject : String) (id : Uuid) (now : Int) : LinkRow :=
  LinkExternalIdentityInput.row ⟨"clerk", "https://clerk.dp2.local", subject, user.id, some user.email⟩ id now

/-- `INSERT … ON CONFLICT (provider_key, issuer, subject) DO NOTHING`, for a user. -/
def backfillUser (ids : User → Uuid) (now : Int) (user : User) : Except PgError (List LinkRow) :=
  match user.clerkUserId with
  | none => .ok rows
  | some subject => do
      let row := user.linkRow subject (ids user) now
      checkLink row
      if rows.any fun other => other.sameKey row then .ok rows else insertLink users rows row

/-- The backfill of `0025_external_identity_links.sql`, into the table it creates; `ids` are the column's
defaults. -/
def backfill (ids : User → Uuid) (now : Int) : Except PgError (List LinkRow) :=
  users.foldlM (fun rows user => backfillUser users rows ids now user) []

def disableLink (id : Uuid) (now : Int) : List LinkRow :=
  rows.map fun row => if row.id =
  id then { row with active := false, disabledAt := some now, updatedAt := now } else row

/-- The rows of the join of `findUserByExternalIdentity(providerKey, subject)`. -/
def joined (providerKey subject : String) : List User :=
  (rows.filter fun row => row.providerKey = providerKey && row.subject = subject &&
  row.active).filterMap fun row =>
    users.find? fun user => user.id = row.userId

/-- **What `findUserByExternalIdentity` may answer**: any row of the join, or nothing where there is none. -/
inductive Answers (providerKey subject : String) : Option User → Prop where
  | some {user : User} (member : user ∈ joined users rows providerKey subject) :
      Answers providerKey subject (.some user)
  | none (empty : joined users rows providerKey subject = []) : Answers providerKey subject .none

end Statements

/-- What happens next: a call runs, with the default of the `id` column, or a link is disabled. -/
inductive LinkEvent where
  | link (input : LinkExternalIdentityInput) (id : Uuid) (now : Int)
  | disable (id : Uuid) (now : Int)

/-- The links after an event; a call that throws changes nothing. -/
def LinkEvent.apply (users : List User) (rows : List LinkRow) : LinkEvent → List LinkRow
  | link input id now => ((linkExternalIdentity users rows input id now).toOption.map Prod.snd).getD rows
  | disable id now => disableLink rows id now

/-- **The calls on the links, one after the other.** -/
def linkMachine (users : List User) (start : List LinkRow) : Machine (List LinkRow) LinkEvent where
  start := start
  step rows event := some (event.apply users rows)

/-! ### The tables -/

/-- The users: `users_pkey` and `users_clerk_user_id_uidx`. -/
structure UserTable where
  users : List User
  ids : (users.map User.id).Nodup
  clerkIds : ∀ first ∈ users, ∀ second ∈ users, ∀ subject,
    first.clerkUserId = some subject → second.clerkUserId = some subject → first = second

/-- What the keys and the reference of the table enforce. -/
structure LinkTable (users : List User) (rows : List LinkRow) : Prop where
  ids : ∀ first ∈ rows, ∀ second ∈ rows, first.id = second.id → first = second
  keys : ∀ first ∈ rows, ∀ second ∈ rows, first.sameKey second = true → first = second
  owners : ∀ row ∈ rows, ∃ user ∈ users, user.id = row.userId

/-- The row is an active link of the pair. -/
structure LinkRow.Of (row : LinkRow) (providerKey subject : String) : Prop where
  providerKey : row.providerKey = providerKey
  subject : row.subject = subject
  active : row.active = true

def OneUser (rows : List LinkRow) : Prop :=
  ∀ providerKey subject, ∀ first ∈ rows, ∀ second ∈ rows, first.Of providerKey subject →
    second.Of providerKey subject → first.userId = second.userId

/-- The pair is linked to the user, and to no other. -/
structure Maps (rows : List LinkRow) (providerKey subject : String) (userId : Uuid) : Prop where
  linked : ∃ row ∈ rows, row.Of providerKey subject
  only : ∀ row ∈ rows, row.Of providerKey subject → row.userId = userId

/-- **The pair's links are the user's**: the one of the issuer, and every active one. -/
def LinkExternalIdentityInput.Unclaimed (input : LinkExternalIdentityInput) (rows : List LinkRow) : Prop :=
  ∀ row ∈ rows, row.providerKey = input.providerKey → row.subject = input.subject →
    row.issuer = input.issuer ∨ row.active = true → row.userId = input.userId

theorem sameKey_iff {first second : LinkRow} :
    first.sameKey second = true ↔
      first.providerKey = second.providerKey ∧ first.issuer = second.issuer ∧
      first.subject = second.subject := by
  simp [LinkRow.sameKey, and_assoc]

/-! ### The join -/

variable {userId : Uuid}

variable {table : UserTable} {rows : List LinkRow} {providerKey subject : String}
  {next : List LinkRow} {now : Int}

theorem mem_joined {user : User} :
    user ∈ joined table.users rows providerKey subject ↔
      user ∈ table.users ∧ ∃ row ∈ rows, row.Of providerKey subject ∧ row.userId = user.id := by
  have found : ∀ {row : LinkRow} {user : User}, user ∈ table.users → user.id = row.userId →
      table.users.find? (fun user => user.id = row.userId) = some user := by
    intro row user mem same
    exact find?_unique table.ids mem (decide_eq_true same) fun other _ passes =>
      (of_decide_eq_true passes).trans same.symm
  simp only [joined, mem_filterMap, mem_filter, and_eq_true, decide_eq_true_eq]
  constructor
  · rintro ⟨row, ⟨mem, ⟨key, subject⟩, active⟩, lookup⟩
    have same : user.id = row.userId := by simpa using find?_some lookup
    exact ⟨mem_of_find?_eq_some lookup, row, mem, ⟨key, subject, active⟩, same.symm⟩
  · rintro ⟨inside, row, mem, of, same⟩
    exact ⟨row, ⟨mem, ⟨of.providerKey, of.subject⟩, of.active⟩, found inside same.symm⟩

/-- **A linked pair is answered with its user.** -/
theorem answers_of_maps (links : LinkTable table.users rows) (maps : Maps rows providerKey subject userId)
    {answer : Option User} (answers : Answers table.users rows providerKey subject answer) :
    answer.map User.id = some userId := by
  cases answers with
  | @some user mem =>
    obtain ⟨-, row, inside, of, same⟩ := mem_joined.1 mem
    exact congrArg some (same.symm.trans (maps.only row inside of))
  | none empty =>
    obtain ⟨row, inside, of⟩ := maps.linked
    obtain ⟨user, there, same⟩ := links.owners row inside
    have mem := mem_joined.2 ⟨there, row, inside, of, same.symm⟩
    rw [empty] at mem
    cases mem

theorem answers_unique (one : OneUser rows) {first second : User}
    (answers : Answers table.users rows providerKey subject (some first))
    (answers' : Answers table.users rows providerKey subject (some second)) : first = second := by
  cases answers with
  | some mem =>
    cases answers' with
    | some member' =>
      obtain ⟨inside, row, there, of, same⟩ := mem_joined.1 mem
      obtain ⟨inside', row', there', of', same'⟩ := mem_joined.1 member'
      refine inj_on_of_nodup_map table.ids inside inside' ?_
      rw [← same, ← same', one _ _ row there row' there' of of']

/-! ### What the statements do -/

variable {row : LinkRow}

section Effects

variable {users : List User} {linkId id : Uuid}
variable {input : LinkExternalIdentityInput}

theorem insertLink_ok (added : insertLink users rows row = .ok next) :
    (∀ other ∈ rows, other.id ≠ row.id) ∧ (∃ user ∈ users, user.id = row.userId) ∧ next = rows ++ [row] := by
  obtain ⟨_, fresh, added⟩ := bind_ok added
  obtain ⟨-, -, added⟩ := bind_ok added
  obtain ⟨_, owner, added⟩ := bind_ok added
  cases added
  have owner := require_ok owner
  exact ⟨require_all fresh, by simpa [List.any_eq_true] using owner, rfl⟩

/-- **A link that the server accepts is a new row, or the row of its key with the user it had.** -/
theorem linkExternalIdentity_ok (linked : linkExternalIdentity users rows input id now = .ok (linkId, next)) :
    ((∀ row ∈ rows, row.sameKey (input.row id now) = false) ∧ (∀ row ∈ rows, row.id ≠ id) ∧
        (∃ user ∈ users, user.id = input.userId) ∧ next = rows ++ [input.row id now]) ∨
      ∃ row ∈ rows, row.sameKey (input.row id now) = true ∧
      next = rows.map fun other => if other.id = row.id then row.relink input now else other := by
  obtain ⟨-, -, linked⟩ := bind_ok linked
  split at linked
  · rename_i missing
    obtain ⟨put, went, linked⟩ := bind_ok linked
    cases linked
    obtain ⟨fresh, owner, added⟩ := insertLink_ok went
    refine .inl ⟨fun row mem => ?_, fresh, owner, added⟩
    simpa using find?_eq_none.1 missing row mem
  · rename_i row found
    obtain ⟨-, -, linked⟩ := bind_ok₂ linked
    cases linked
    have same : row.sameKey (input.row id now) = true := by simpa using find?_some found
    exact .inr ⟨row, mem_of_find?_eq_some found, same, rfl⟩

theorem LinkTable.update (links : LinkTable users rows) {change : LinkRow → LinkRow}
    (kept : ∀ row ∈ rows, (change row).id = row.id ∧ (change row).userId = row.userId ∧
      ∀ other : LinkRow, (change row).sameKey other = row.sameKey other ∧
      other.sameKey (change row) = other.sameKey row) : LinkTable users (rows.map change) := by
  refine ⟨?_, ?_, ?_⟩
  · rintro first inOne second inTwo same
    obtain ⟨one, there, rfl⟩ := mem_map.1 inOne
    obtain ⟨two, there', rfl⟩ := mem_map.1 inTwo
    rw [(kept one there).1, (kept two there').1] at same
    rw [links.ids one there two there' same]
  · rintro first inOne second inTwo same
    obtain ⟨one, there, rfl⟩ := mem_map.1 inOne
    obtain ⟨two, there', rfl⟩ := mem_map.1 inTwo
    rw [((kept one there).2.2 _).1, ((kept two there').2.2 _).2] at same
    rw [links.keys one there two there' same]
  · intro row mem
    obtain ⟨one, there, rfl⟩ := mem_map.1 mem
    rw [(kept one there).2.1]
    exact links.owners one there

theorem LinkTable.insert (links : LinkTable users rows) (apart : ∀ other ∈ rows, other.sameKey row = false)
    (fresh : ∀ other ∈ rows, other.id ≠ row.id) (owner : ∃ user ∈ users, user.id = row.userId) :
    LinkTable users (rows ++ [row]) := by
  have apart' : ∀ other ∈ rows, row.sameKey other = false := by
    intro other mem
    rw [← not_eq_true, sameKey_iff]
    rintro ⟨key, issuer, subject⟩
    have same := sameKey_iff.2 ⟨key.symm, issuer.symm, subject.symm⟩
    rw [apart other mem] at same
    cases same
  refine ⟨?_, ?_, ?_⟩
  · intro first inOne second inTwo same
    rcases mem_append.1 inOne with old | new <;> rcases mem_append.1 inTwo with old' | new'
    · exact links.ids first old second old' same
    · rw [mem_singleton.1 new'] at same
      exact absurd same (fresh first old)
    · rw [mem_singleton.1 new] at same
      exact absurd same.symm (fresh second old')
    · rw [mem_singleton.1 new, mem_singleton.1 new']
  · intro first inOne second inTwo same
    rcases mem_append.1 inOne with old | new <;> rcases mem_append.1 inTwo with old' | new'
    · exact links.keys first old second old' same
    · rw [mem_singleton.1 new', apart first old] at same
      cases same
    · rw [mem_singleton.1 new, apart' second old'] at same
      cases same
    · rw [mem_singleton.1 new, mem_singleton.1 new']
  · intro other mem
    rcases mem_append.1 mem with old | new
    · exact links.owners other old
    · rw [mem_singleton.1 new]
      exact owner

theorem relink_keeps (links : LinkTable users rows) (inside : row ∈ rows) (input : LinkExternalIdentityInput)
    (now : Int) {other : LinkRow} (mem : other ∈ rows) :
    (if other.id = row.id then row.relink input now else other).id = other.id ∧
      (if other.id = row.id then row.relink input now else other).userId = other.userId ∧
      ∀ third : LinkRow,
      (if other.id = row.id then row.relink input now else other).sameKey third = other.sameKey third ∧
      third.sameKey (if other.id = row.id then row.relink input now else other) = third.sameKey other := by
  split_ifs with same
  · rw [links.ids other mem row inside same]
    exact ⟨rfl, rfl, fun _ => ⟨rfl, rfl⟩⟩
  · exact ⟨rfl, rfl, fun _ => ⟨rfl, rfl⟩⟩

theorem disable_keeps (id : Uuid) (now : Int) (row : LinkRow) :
    (if row.id = id then { row with active := false, disabledAt := some now, updatedAt := now } else row).id =
      row.id ∧
      (if row.id = id then { row with active := false, disabledAt := some now, updatedAt := now } else
          row).userId = row.userId ∧
      ∀ other : LinkRow,
      (if row.id = id then { row with active := false, disabledAt := some now, updatedAt := now } else
        row).sameKey other = row.sameKey other ∧
      other.sameKey
      (if row.id = id then { row with active := false, disabledAt := some now, updatedAt := now } else row) =
      other.sameKey row := by
  split_ifs <;> exact ⟨rfl, rfl, fun _ => ⟨rfl, rfl⟩⟩

theorem LinkTable.link (links : LinkTable users rows)
    (linked : linkExternalIdentity users rows input id now = .ok (linkId, next)) : LinkTable users next := by
  rcases linkExternalIdentity_ok linked with ⟨apart, fresh, owner, rfl⟩ | ⟨row, inside, -, rfl⟩
  · exact links.insert apart fresh owner
  · exact links.update fun other mem => relink_keeps links inside input now mem

/-- **What is active after a link that the server accepts**: its row, and what was active before. -/
theorem of_linked (linked : linkExternalIdentity table.users rows input id now = .ok (linkId, next)) :
    (∃ row ∈ next, row.Of input.providerKey input.subject ∧ row.issuer = input.issuer) ∧
      ∀ row ∈ next, row.active = true →
      (row.providerKey = input.providerKey ∧ row.issuer = input.issuer ∧ row.subject = input.subject ∧
        ((∃ old ∈ rows, old.providerKey = input.providerKey ∧ old.issuer = input.issuer ∧
            old.subject = input.subject ∧ old.userId = row.userId) ∨
          (∀ old ∈ rows, old.sameKey (input.row id now) = false) ∧ row.userId = input.userId)) ∨
      row ∈ rows := by
  rcases linkExternalIdentity_ok linked with ⟨apart, -, -, rfl⟩ | ⟨row, inside, same, rfl⟩
  · refine ⟨⟨_, mem_append_right _ (mem_singleton_self _), ⟨rfl, rfl, rfl⟩, rfl⟩, fun row mem _ => ?_⟩
    rcases mem_append.1 mem with old | new
    · exact .inr old
    · rw [mem_singleton.1 new]
      exact .inl ⟨rfl, rfl, rfl, .inr ⟨apart, rfl⟩⟩
  · obtain ⟨key, issuer, subject⟩ := sameKey_iff.1 same
    refine ⟨⟨row.relink input now, mem_map.2 ⟨row, inside, if_pos rfl⟩, ⟨key, subject, rfl⟩, issuer⟩, ?_⟩
    intro other mem active
    obtain ⟨old, there, rfl⟩ := mem_map.1 mem
    split_ifs with here
    · exact .inl ⟨key, issuer, subject, .inl ⟨row, inside, key, issuer, subject, rfl⟩⟩
    · exact .inr there

theorem kept_linked (links : LinkTable table.users rows)
    (linked : linkExternalIdentity table.users rows input id now = .ok (linkId, next)) (mem : row ∈ rows) :
    ∃ row' ∈ next,
      row'.userId = row.userId ∧ row'.providerKey = row.providerKey ∧ row'.subject = row.subject ∧
      (row.active = true ∨ row.sameKey (input.row id now) = true → row'.active = true) := by
  rcases linkExternalIdentity_ok linked with ⟨apart, -, -, rfl⟩ | ⟨found, inside, same, rfl⟩
  · refine ⟨row, mem_append_left _ mem, rfl, rfl, rfl, fun either => either.resolve_right fun equal => ?_⟩
    rw [apart row mem] at equal
    cases equal
  · by_cases here : row.id = found.id
    · refine ⟨_, mem_map.2 ⟨row, mem, if_pos here⟩, ?_⟩
      rw [links.ids row mem found inside here]
      exact ⟨rfl, rfl, rfl, fun _ => rfl⟩
    · refine ⟨_, mem_map.2 ⟨row, mem, if_neg here⟩, rfl, rfl, rfl, fun either => either.resolve_right
        fun equal => ?_⟩
      obtain ⟨key, issuer, subject⟩ := sameKey_iff.1 same
      obtain ⟨key', issuer', subject'⟩ := sameKey_iff.1 equal
      refine here (congrArg LinkRow.id (links.keys row mem found inside (sameKey_iff.2 ⟨?_, ?_, ?_⟩)))
      · rw [key', key]
      · rw [issuer', issuer]
      · rw [subject', subject]

/-- **A link that the server accepts maps its pair to its user exactly where the pair's links were the
user's.** -/
theorem linked_maps_iff (links : LinkTable table.users rows)
    (linked : linkExternalIdentity table.users rows input id now = .ok (linkId, next)) :
    Maps next input.providerKey input.subject input.userId ↔ input.Unclaimed rows := by
  obtain ⟨⟨row, inside, of, -⟩, actives⟩ := of_linked linked
  constructor
  · intro maps old mem key subject either
    obtain ⟨row', inside', user, key', subject', active⟩ := kept_linked links linked mem
    rw [← user]
    refine maps.only row' inside' ⟨key'.trans key, subject'.trans subject, active ?_⟩
    exact either.symm.imp_right fun issuer => sameKey_iff.2 ⟨key, issuer, subject⟩
  · intro unclaimed
    refine ⟨⟨row, inside, of⟩, fun other mem of' => ?_⟩
    rcases actives other mem of'.active with ⟨-, -, -, ⟨old, there, key, issuer, subject, same⟩ | ⟨-, same⟩⟩ |
      old
    · rw [← same]
      exact unclaimed old there key subject (.inl issuer)
    · exact same
    · exact unclaimed other old of'.providerKey of'.subject (.inr of'.active)

end Effects

/-! ### Every run -/

section Runs

variable {ids : User → Uuid}

/-- The event is not a call on a pair that another user's link is in the way of. -/
def LinkEvent.Unclaimed (rows : List LinkRow) : LinkEvent → Prop
  | link input _ _ => input.Unclaimed rows
  | disable .. => True

def LinkEvent.Spares (rows : List LinkRow) (providerKey subject : String) : LinkEvent → Prop
  | link .. => True
  | disable id _ => ∀ row ∈ rows, row.id = id → ¬(row.providerKey = providerKey ∧ row.subject = subject)

/-- What holds of the table along a run. -/
structure Linked (users : List User) (rows : List LinkRow) : Prop where
  links : LinkTable users rows
  one : OneUser rows

theorem Linked.link (linked : Linked table.users rows) {input : LinkExternalIdentityInput} {id linkId : Uuid}
    (unclaimed : input.Unclaimed rows)
    (taken : linkExternalIdentity table.users rows input id now = .ok (linkId, next)) :
    Linked table.users next := by
  refine ⟨linked.links.link taken, fun providerKey subject first inOne second inTwo of of' => ?_⟩
  by_cases mine : providerKey = input.providerKey ∧ subject = input.subject
  · obtain ⟨rfl, rfl⟩ := mine
    have maps := (linked_maps_iff linked.links taken).2 unclaimed
    rw [maps.only first inOne of, maps.only second inTwo of']
  · have old : ∀ row ∈ next, row.Of providerKey subject → row ∈ rows := by
      intro row mem of
      rcases (of_linked taken).2 row mem of.active with ⟨key, -, subject, -⟩ | old
      · exact absurd ⟨of.providerKey.symm.trans key, of.subject.symm.trans subject⟩ mine
      · exact old
    exact linked.one _ _ first (old first inOne of) second (old second inTwo of') of of'

theorem of_disabled {id : Uuid} (mem : row ∈ disableLink rows id now) (of : row.Of providerKey subject) :
    row ∈ rows ∧ row.id ≠ id := by
  obtain ⟨old, there, rfl⟩ := mem_map.1 mem
  split_ifs at of with here
  · cases of.active
  · rw [if_neg here]
    exact ⟨there, here⟩

theorem Linked.disable (linked : Linked table.users rows) (id : Uuid) (now : Int) :
    Linked table.users (disableLink rows id now) where
  links :=
    linked.links.update fun row _ => disable_keeps id now row
  one := fun _ _ first inOne second inTwo of of' =>
    linked.one _ _ first (of_disabled inOne of).1 second (of_disabled inTwo of').1 of of'

variable {event : LinkEvent}

/-- **A step keeps a pair with one user.** -/
theorem Linked.step (linked : Linked table.users rows) (unclaimed : event.Unclaimed rows) :
    Linked table.users (event.apply table.users rows) := by
  cases event with
  | link input id now =>
    simp only [LinkEvent.apply]
    cases taken : linkExternalIdentity table.users rows input id now with
    | error error => exact linked
    | ok answer => exact linked.link unclaimed taken
  | disable id now => exact linked.disable id now

/-- **A step keeps the user of a pair**, unless it disables a link of the pair. -/
theorem Maps.step (maps : Maps rows providerKey subject userId) (linked : Linked table.users rows)
    (unclaimed : event.Unclaimed rows) (spares : event.Spares rows providerKey subject) :
    Maps (event.apply table.users rows) providerKey subject userId := by
  cases event with
  | link input id now =>
    simp only [LinkEvent.apply]
    cases taken : linkExternalIdentity table.users rows input id now with
    | error error => exact maps
    | ok answer =>
      show Maps answer.2 providerKey subject userId
      obtain ⟨row, mem, of⟩ := maps.linked
      by_cases mine : providerKey = input.providerKey ∧ subject = input.subject
      · -- the pair's active link is the call's user's, so the user stays
        obtain ⟨rfl, rfl⟩ := mine
        rw [← maps.only row mem of, unclaimed row mem of.providerKey of.subject (.inr of.active)]
        exact (linked_maps_iff linked.links taken).2 unclaimed
      · obtain ⟨row', inside, user, key, subject', active⟩ := kept_linked linked.links taken mem
        refine ⟨⟨row', inside, key.trans of.providerKey, subject'.trans of.subject, active (.inl of.active)⟩, ?_⟩
        intro other there of'
        rcases (of_linked taken).2 other there of'.active with ⟨key', -, subject'', -⟩ | old
        · exact absurd ⟨of'.providerKey.symm.trans key', of'.subject.symm.trans subject''⟩ mine
        · exact maps.only other old of'
  | disable id now =>
    obtain ⟨row, mem, of⟩ := maps.linked
    refine ⟨⟨row, mem_map.2 ⟨row, mem, if_neg fun same => ?_⟩, of⟩, fun other there of' => ?_⟩
    · exact spares row mem same ⟨of.providerKey, of.subject⟩
    · exact maps.only other (of_disabled there of').1 of'

/-! ### The backfill -/

def Seeded (users : List User) (rows : List LinkRow) : Prop :=
  ∀ row ∈ rows, row.providerKey = "clerk" ∧ ∃ user ∈ users, user.id = row.userId ∧ user.clerkUserId =
  some row.subject

theorem backfill_seeded {users : List User} {start : List LinkRow} {left : List User}
    (inside : ∀ user ∈ left, user ∈ users) (links : LinkTable users start) (seeded : Seeded users start)
    (filled : left.foldlM (fun rows user => backfillUser users rows ids now user) start = .ok rows) :
    LinkTable users rows ∧ Seeded users rows := by
  induction left generalizing start with
  | nil =>
    cases filled
    exact ⟨links, seeded⟩
  | cons user rest ih =>
    rw [foldlM_cons] at filled
    obtain ⟨middle, went, filled⟩ := bind_ok filled
    have mem := inside user mem_cons_self
    have rest' := fun other there => inside other (mem_cons_of_mem _ there)
    unfold backfillUser at went
    split at went
    · cases went
      exact ih rest' links seeded filled
    · rename_i subject clerk
      obtain ⟨-, -, went⟩ := bind_ok went
      split_ifs at went with taken
      · cases went
        exact ih rest' links seeded filled
      · obtain ⟨fresh, owner, rfl⟩ := insertLink_ok went
        have apart : ∀ other ∈ start, other.sameKey (user.linkRow subject (ids user) now) = false := by
          simpa [List.any_eq_true] using taken
        refine ih rest' (links.insert apart fresh owner) (fun row there => ?_) filled
        rcases mem_append.1 there with old | new
        · exact seeded row old
        · rw [mem_singleton.1 new]
          exact ⟨rfl, user, mem, rfl, clerk⟩

/-- **The backfill links every subject to one user.** -/
theorem backfill_linked (filled : backfill table.users ids now = .ok rows) : Linked table.users rows := by
  have empty : LinkTable table.users [] := ⟨fun _ => nofun, fun _ => nofun, fun _ => nofun⟩
  obtain ⟨links, seeded⟩ := backfill_seeded (fun _ mem => mem) empty (fun _ => nofun) filled
  refine ⟨links, fun providerKey subject first inOne second inTwo of of' => ?_⟩
  obtain ⟨-, user, there, same, clerk⟩ := seeded first inOne
  obtain ⟨-, user', there', same', clerk'⟩ := seeded second inTwo
  rw [of.subject] at clerk
  rw [of'.subject] at clerk'
  rw [← same, ← same', table.clerkIds user there user' there' subject clerk clerk']

/-- **A pair resolves to at most one user, and to the user of a call that was accepted from then on**, while
calls are made only where the pair's links are the user's. -/
theorem links_agree {ids : User → Uuid} {now : Int} {start : List LinkRow}
    (filled : backfill table.users ids now = .ok start)
    (reaches : (linkMachine table.users start).Reaches (fun rows event => event.Unclaimed rows) start rows) :
    (∀ providerKey subject first second, Answers table.users rows providerKey subject (some first) →
        Answers table.users rows providerKey subject (some second) → first = second) ∧
      ∀ (input : LinkExternalIdentityInput) (id : Uuid) (time : Int) (linkId : Uuid)
      (next later : List LinkRow),
      input.Unclaimed rows → linkExternalIdentity table.users rows input id time = .ok (linkId, next) →
      (linkMachine table.users start).Reaches
        (fun rows event => event.Unclaimed rows ∧ event.Spares rows input.providerKey input.subject) next
        later →
      ∀ answer, Answers table.users later input.providerKey input.subject answer →
      answer.map User.id = some input.userId := by
  have linked : Linked table.users rows := by
    refine reaches.invariant (backfill_linked filled) fun state event next before unclaimed step => ?_
    rw [← Option.some.inj step]
    exact before.step unclaimed
  refine ⟨fun providerKey subject first second => answers_unique linked.one, ?_⟩
  intro input id time linkId next later unclaimed taken onward answer
  have kept : Linked table.users later ∧ Maps later input.providerKey input.subject input.userId := by
    refine @Machine.Reaches.invariant _ _ _ _ _ _ (fun state => Linked table.users state ∧
      Maps state input.providerKey input.subject input.userId) onward
      ⟨linked.link unclaimed taken, (linked_maps_iff linked.links taken).2 unclaimed⟩ ?_
    rintro state event after ⟨before, maps⟩ ⟨unclaimed', spares⟩ step
    rw [← Option.some.inj step]
    exact ⟨before.step unclaimed', maps.step before unclaimed' spares⟩
  exact answers_of_maps kept.1.links kept.2

end Runs

/-! ### A subject that is another user's -/

def sampleOwner : User := ⟨sample 0, "a@dp2.local", none, some "user_a", none⟩

def sampleClaimant : User := ⟨sample 1, "b@dp2.local", none, none, none⟩

def sampleUsers : UserTable where
  users := [sampleOwner, sampleClaimant]
  ids := by decide
  clerkIds := by
    intro first inFirst second inSecond subject clerk clerk'
    simp only [mem_cons, not_mem_nil, or_false] at inFirst inSecond
    rcases inFirst with rfl | rfl <;> rcases inSecond with rfl | rfl
    · rfl
    · cases clerk'
    · cases clerk
    · rfl

def sampleLink (issuer subject : String) : LinkExternalIdentityInput :=
  ⟨"clerk", issuer, subject, sample 1, none⟩

def sampleLinked (issuer subject : String) : Option (List LinkRow × List LinkRow) :=
  match backfill sampleUsers.users (fun _ => sample 2) 1 with
  | .error _ => none
  | .ok start =>
    match linkExternalIdentity sampleUsers.users start (sampleLink issuer subject) (sample 3) 2 with
    | .error _ => none
    | .ok accepted => some (start, accepted.2)

theorem sampleLinked_some {issuer subject : String} {start next : List LinkRow}
    (linked : sampleLinked issuer subject = some (start, next)) :
    backfill sampleUsers.users (fun _ => sample 2) 1 = .ok start ∧
      ∃ linkId, linkExternalIdentity sampleUsers.users start (sampleLink issuer subject) (sample 3) 2 =
      .ok (linkId, next) := by
  unfold sampleLinked at linked
  split at linked
  · cases linked
  · rename_i rows filled
    split at linked
    · cases linked
    · rename_i answer taken
      cases linked
      exact ⟨filled, answer.1, taken⟩

/-- **A call for another user's subject succeeds and changes nothing, and under another issuer the subject
then has two users.** -/
theorem links_disagree :
    (∃ start linkId next, backfill sampleUsers.users (fun _ => sample 2) 1 = .ok start ∧
        linkExternalIdentity sampleUsers.users start (sampleLink "https://clerk.dp2.local" "user_a")
          (sample 3) 2 = .ok (linkId, next) ∧
        Answers sampleUsers.users next "clerk" "user_a" (some sampleOwner) ∧ sampleOwner.id ≠ sample 1) ∧
      ∃ start linkId next, backfill sampleUsers.users (fun _ => sample 2) 1 = .ok start ∧
      linkExternalIdentity sampleUsers.users start (sampleLink "https://clerk.example" "user_a") (sample 3)
        2 = .ok (linkId, next) ∧ Answers sampleUsers.users next "clerk" "user_a" (some sampleOwner) ∧
      Answers sampleUsers.users next "clerk" "user_a" (some sampleClaimant) := by
  have relinked : (sampleLinked "https://clerk.dp2.local" "user_a").any (fun linked =>
      joined sampleUsers.users linked.2 "clerk" "user_a" = [sampleOwner]) = true := by
    decide +kernel
  have reissued : (sampleLinked "https://clerk.example" "user_a").any (fun linked =>
      joined sampleUsers.users linked.2 "clerk" "user_a" = [sampleOwner, sampleClaimant]) = true := by
    decide +kernel
  constructor
  · obtain ⟨⟨start, next⟩, linked, shown⟩ := (any_eq_true _ _).1 relinked
    obtain ⟨filled, linkId, taken⟩ := sampleLinked_some linked
    have shown := of_decide_eq_true shown
    exact ⟨start, linkId, next, filled, taken, .some (shown ▸ mem_cons_self), by decide⟩
  · obtain ⟨⟨start, next⟩, linked, shown⟩ := (any_eq_true _ _).1 reissued
    obtain ⟨filled, linkId, taken⟩ := sampleLinked_some linked
    have shown := of_decide_eq_true shown
    exact ⟨start, linkId, next, filled, taken, .some (shown ▸ mem_cons_self),
      .some (shown ▸ mem_cons_of_mem _ mem_cons_self)⟩

theorem links_agree_sample :
    ∃ start linkId next, linkExternalIdentity sampleUsers.users start
      (sampleLink "https://clerk.dp2.local" "user_b") (sample 3) 2 = .ok (linkId, next) ∧
      ∀ answer, Answers sampleUsers.users next "clerk" "user_b" answer →
      answer.map User.id = some (sample 1) := by
  have linked : (sampleLinked "https://clerk.dp2.local" "user_b").any (fun linked =>
      linked.1.all fun row => row.subject = "user_a") = true := by
    decide +kernel
  obtain ⟨⟨start, next⟩, linked, others⟩ := (any_eq_true _ _).1 linked
  obtain ⟨filled, linkId, accepted⟩ := sampleLinked_some linked
  have unclaimed : (sampleLink "https://clerk.dp2.local" "user_b").Unclaimed start := by
    intro row mem _ subject _
    have other := of_decide_eq_true (all_eq_true.1 others row mem)
    rw [other] at subject
    exact absurd subject (by decide)
  exact ⟨start, linkId, next, accepted,
    (links_agree filled .refl).2 _ _ _ linkId next next unclaimed accepted .refl⟩

end DataPulse.Auth
