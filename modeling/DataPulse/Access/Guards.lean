/-
**The guards of a dashboard request.**

`DashboardAuthGuard` names the caller, `TenantContextGuard` the tenant the request runs in, and
`RolesGuard` whether the caller may do what the route does there. A route runs in the tenant of its
context or in one that its path names; the role is that of the user.

* `token_confined_iff`: what a token bound to a tenant may do stays in the tenant, except where its user
  could do it: as a platform admin, or with the role it has in the tenant that the path names.
-/

import DataPulse.Access.Directory
import DataPulse.Auth.Envelope

namespace DataPulse.Access

open Platform Lib
open Auth (AuthToken Credentials Digest GuardView Principal TokenScope BEARER_AUTH_SCOPES)

/-! ### Metadata of a route -/

inductive RoleCode where
  | owner
  | tenantAdmin
  | storeManager
  | storeStaff

/-- The text of a role in `roles.code`. -/
def RoleCode.text : RoleCode → String
  | .owner => "owner"
  | .tenantAdmin => "tenant_admin"
  | .storeManager => "store_manager"
  | .storeStaff => "store_staff"

/-- `TenantSource`: `"context"`, or `"param:<key>"`. -/
inductive TenantSource where
  | context
  | param (key : String)

inductive DenyAs where
  | forbidden
  | notFound

structure RolesMetadata where
  any : List RoleCode
  tenantFrom : TenantSource
  platformAdminOnly : Bool
  denyAs : DenyAs

def RolesFromParam (paramKey : String) (codes : List RoleCode) : RolesMetadata :=
  ⟨codes, .param paramKey, false, .notFound⟩

/-- The tenant a handler works in: that of the context, the one a parameter of its path names
(`ParseUUIDPipe`), or the platform as a whole. -/
inductive Target where
  | active
  | param (key : String)
  | platform
  deriving DecidableEq

/-- Where the roles of a gate are looked up is where its handler works. -/
def TenantSource.target : TenantSource → Target
  | .context => .active
  | .param key => .param key

/-- A route behind `DashboardAuthGuard` and `RolesGuard`. -/
structure Route where
  metadata : Option RolesMetadata
  /-- `TenantContextGuard` is mounted between the two. -/
  mountsContext : Bool
  target : Target
  /-- A parameter of a path has a name. -/
  named : target ≠ .param ""
  aligned : ∀ gate, metadata = some gate → gate.platformAdminOnly = false →
    target = gate.tenantFrom.target

/-- A request, with the parameters of its path. -/
structure Request where
  credentials : Credentials
  params : List (String × String)

/-- A route works in this tenant on behalf of the path alone. -/
def Target.Names (params : List (String × String)) (tenantId : Uuid) : Target → Prop
  | .active => False
  | .param key => ∃ value, params.lookup key = some value ∧ Uuid.ofText value = some tenantId
  | .platform => True

/-! ### The guards -/

inductive HttpError where
  | unauthorized
  | forbidden (message : String)
  | notFound
  | failed (code : SqlState)
  deriving DecidableEq

/-- `ResolvedContext.source`. -/
inductive ContextSource where
  | session
  | token
  deriving DecidableEq

structure ResolvedContext where
  userId : Option Uuid
  tenantId : Option Uuid
  storeId : Option Uuid
  isPlatformAdmin : Bool
  source : ContextSource
  deriving DecidableEq

structure Backend where
  view : GuardView
  directory : Directory
  /-- `active_tenant_id` and `active_store_id` of a live session. -/
  activeContext : String → Option (Option Uuid × Option Uuid)

namespace Backend

variable (backend : Backend) (hashToken : String → Digest) (now : Int)

/-- `DashboardAuthGuard.canActivate`: the principal it leaves on the request. -/
def dashboardAuthGuard (request : Request) : Except HttpError Principal :=
  match backend.view.authenticate hashToken now request.credentials with
  | none => .error .unauthorized
  | some (.session sessionId userId) => .ok (.session sessionId userId)
  | some (.token tokenId tenantId userId storeId scope) =>
    if scope = .dashboardApi then .ok (.token tokenId tenantId userId storeId scope)
    else .error .unauthorized

def resolveToken (tenantId userId storeId : Option Uuid) : ResolvedContext :=
  match tenantId with
  | none => ⟨userId, none, none, true, .token⟩
  | some tenantId => ⟨userId, some tenantId, storeId, false, .token⟩

def resolveSession (sessionId : String) (userId : Uuid) : Except HttpError ResolvedContext :=
  match backend.activeContext sessionId with
  | none | some (none, _) => .error .unauthorized
  | some (some tenantId, storeId) =>
    let admin := backend.directory.isPlatformAdmin userId
    let reaches (membershipId : Uuid) (kind : Auth.StoreAccessKind) : Bool :=
      match storeId with
      | none => true
      | some storeId =>
        backend.directory.canAccessStore .bootstrap membershipId tenantId storeId kind
    let resolved : ResolvedContext := ⟨some userId, some tenantId, storeId, admin, .session⟩
    if admin then
      -- no membership applies: the kind `'all'` checks only that the store is the tenant's
      if reaches (Uuid.sample 0) .all then .ok resolved else .error .notFound
    else
      match backend.directory.findActiveMembership .bootstrap userId tenantId with
      | none => .error .notFound
      | some membership =>
        if reaches membership.id membership.storeAccessKind then .ok resolved
        else .error .notFound

/-- `TenantContextGuard.resolve(principal)`. -/
def resolve : Principal → Except HttpError ResolvedContext
  | .token _ tenantId userId storeId _ => .ok (resolveToken tenantId userId storeId)
  | .session sessionId userId => backend.resolveSession sessionId userId

/-- `TenantContextGuard.canActivate`, on the routes that mount it: the context it leaves on the request. -/
def tenantContextGuard (route : Route) (principal : Principal) :
    Except HttpError (Option ResolvedContext) :=
  if route.mountsContext then (backend.resolve principal).map some else .ok none

/-- `principal.userId`. -/
def userIdOf : Principal → Option Uuid
  | .session _ userId => some userId
  | .token _ _ userId _ _ => userId

/-- `RolesGuard.isPlatformAdmin(principal, request)`. -/
def isPlatformAdmin (principal : Principal) (context : Option ResolvedContext) : Bool :=
  (context.map ResolvedContext.isPlatformAdmin).getD false ||
  (match principal with
    | .token _ none _ _ scope => decide (scope ∈ BEARER_AUTH_SCOPES)
    | _ => false) ||
  match userIdOf principal with
  | none => false
  | some userId => backend.directory.isPlatformAdmin userId

def resolveTenantId (gate : RolesMetadata) (context : Option ResolvedContext)
    (params : List (String × String)) : Option String :=
  match gate.tenantFrom with
  | .context => (context.bind ResolvedContext.tenantId).map Uuid.text
  | .param key => if key = "" then none else (params.lookup key).filter (· ≠ "")

def denied (gate : RolesMetadata) : HttpError :=
  match gate.denyAs with
  | .forbidden => .forbidden "Insufficient role."
  | .notFound => .notFound

/-- `RolesGuard.canActivate`. The server reads the tenant as a `uuid`. -/
def rolesGuard (metadata : Option RolesMetadata) (principal : Principal)
    (context : Option ResolvedContext) (params : List (String × String)) : Except HttpError Unit :=
  match metadata with
  | none => .error (.forbidden "Forbidden")
  | some gate =>
    if gate.platformAdminOnly then
      if backend.isPlatformAdmin principal context then .ok ()
      else .error (.forbidden "Platform admin role required.")
    else if backend.isPlatformAdmin principal context then .ok ()
    else match resolveTenantId gate context params with
      | none => .error (.forbidden (match gate.tenantFrom with
          | .context => "Active tenant required."
          | .param _ => "Tenant id missing from request path."))
      | some value =>
        match userIdOf principal with
        | none => .error (denied gate)
        | some userId =>
          match Uuid.ofText value with
          | none => .error (.failed .invalidText)
          | some tenantId =>
            match backend.directory.findRoleCodeForUserInTenant .bootstrap userId
                tenantId with
            | none => .error (denied gate)
            | some code =>
              if code ∈ gate.any.map RoleCode.text then .ok () else .error (denied gate)

/-- The guards of a route, in their order: the context that the handler runs with. -/
def canActivate (route : Route) (request : Request) : Except HttpError (Option ResolvedContext) := do
  let principal ← backend.dashboardAuthGuard hashToken now request
  let context ← backend.tenantContextGuard route principal
  backend.rolesGuard route.metadata principal context request.params
  .ok context

end Backend

def Route.ActsOn (route : Route) (request : Request) (context : Option ResolvedContext)
    (tenantId : Uuid) : Prop :=
  match route.target with
  | .active => context.bind ResolvedContext.tenantId = some tenantId
  | target => target.Names request.params tenantId

/-- A request that the guards let through works in this tenant only. -/
def Backend.Confines (backend : Backend) (hashToken : String → Digest) (now : Int) (route : Route)
    (request : Request) (tenantId : Uuid) : Prop :=
  ∀ context, backend.canActivate hashToken now route request = .ok context →
    ∀ other, route.ActsOn request context other → other = tenantId

/-- The path leads a dashboard token of this tenant and user to another tenant, in which the user is let
in: as a platform admin, or by the role it has there. -/
def Backend.Trespasses (backend : Backend) (route : Route) (request : Request) (tenantId : Uuid)
    (userId : Option Uuid) (scope : TokenScope) : Prop :=
  scope = .dashboardApi ∧ ∃ user gate other, userId = some user ∧ route.metadata = some gate ∧
    other ≠ tenantId ∧ route.target.Names request.params other ∧
    (backend.directory.isPlatformAdmin user = true ∨ gate.platformAdminOnly = false ∧
      ∃ code ∈ gate.any,
        backend.directory.findRoleCodeForUserInTenant .bootstrap user other = some code.text)

/-! ### A token bound to a tenant -/

section Token

variable {backend : Backend} {hashToken : String → Digest} {now : Int} {route : Route}
  {request : Request} {tokenId tenantId : Uuid} {userId storeId : Option Uuid} {scope : TokenScope}
variable {other : Uuid}
variable {context : Option ResolvedContext}

theorem resolve_token :
    backend.resolve (.token tokenId (some tenantId) userId storeId scope) =
      .ok ⟨userId, some tenantId, storeId, false, .token⟩ := rfl

theorem isPlatformAdmin_token (backend : Backend) (tokenId tenantId : Uuid) (userId storeId : Option Uuid)
    (scope : TokenScope) (plain : ∀ resolved, context = some resolved → resolved.isPlatformAdmin = false) :
    backend.isPlatformAdmin (.token tokenId (some tenantId) userId storeId scope) context = true ↔
      ∃ user, userId = some user ∧ backend.directory.isPlatformAdmin user = true := by
  cases context with
  | none => cases userId <;> simp [Backend.isPlatformAdmin, Backend.userIdOf]
  | some resolved =>
    have flag := plain resolved rfl
    cases userId <;> simp [Backend.isPlatformAdmin, Backend.userIdOf, flag]

/-- What the roles guard admits a bound token for: a platform admin, or a role of its user in the tenant
that the gate looks at. -/
theorem rolesGuard_token {metadata : Option RolesMetadata}
    (plain : ∀ resolved, context = some resolved → resolved.isPlatformAdmin = false) :
    backend.rolesGuard metadata (.token tokenId (some tenantId) userId storeId scope) context request.params =
      .ok () ↔
      ∃ gate user, metadata = some gate ∧ userId = some user ∧
      (backend.directory.isPlatformAdmin user = true ∨
        gate.platformAdminOnly = false ∧
        ∃ value other,
        Backend.resolveTenantId gate context request.params = some value ∧ Uuid.ofText value = some other ∧
        ∃ code ∈ gate.any, backend.directory.findRoleCodeForUserInTenant .bootstrap user other =
        some code.text) := by
  have admin := isPlatformAdmin_token backend tokenId tenantId userId storeId scope plain
  cases metadata with
  | none => simp [Backend.rolesGuard]
  | some gate =>
    simp only [Backend.rolesGuard, Option.some.injEq]
    by_cases privileged : backend.isPlatformAdmin (.token tokenId (some tenantId) userId storeId scope)
      context = true
    · obtain ⟨user, holder, platform⟩ := admin.1 privileged
      simp only [privileged, if_true, ite_self, true_iff]
      exact ⟨gate, user, rfl, holder, .inl platform⟩
    · have ordinary : ∀ user, userId = some user →
          backend.directory.isPlatformAdmin user = false := fun user holder => by
        simpa using fun platform => privileged (admin.2 ⟨user, holder, platform⟩)
      simp only [privileged, if_false, false_eq_true]
      constructor
      · intro admitted
        split_ifs at admitted with only
        split at admitted
        · cases admitted
        · rename_i value asked
          split at admitted
          · cases admitted
          · rename_i user holder
            split at admitted
            · cases admitted
            · rename_i other named
              split at admitted
              · cases admitted
              · rename_i code found
                split_ifs at admitted with taken
                obtain ⟨role, listed, rfl⟩ := mem_map.1 taken
                exact ⟨gate, user, rfl, holder, .inr ⟨by simpa using only, value, other, asked,
                  named, role, listed, found⟩⟩
      · rintro ⟨_, user, rfl, rfl, platform | ⟨only, value, other, asked, named, code, listed, found⟩⟩
        · rw [ordinary user rfl] at platform
          cases platform
        · simp only [only, false_eq_true, if_false, asked, Backend.userIdOf, named, found]
          rw [if_pos (mem_map.2 ⟨code, listed, rfl⟩)]

/-- The context that a bound token leaves on the request. -/
def tokenContext (route : Route) (tenantId : Uuid) (userId storeId : Option Uuid) :
    Option ResolvedContext :=
  if route.mountsContext then some ⟨userId, some tenantId, storeId, false, .token⟩ else none

theorem tokenContext_plain :
    ∀ resolved, tokenContext route tenantId userId storeId = some resolved →
      resolved.isPlatformAdmin = false := by
  intro resolved here
  unfold tokenContext at here
  split_ifs at here
  cases here
  rfl

theorem admit_token
    (bound : backend.view.authenticate hashToken now request.credentials =
      some (.token tokenId (some tenantId) userId storeId scope)) :
    backend.canActivate hashToken now route request = .ok context ↔
      scope = .dashboardApi ∧ context = tokenContext route tenantId userId storeId ∧
      backend.rolesGuard route.metadata (.token tokenId (some tenantId) userId storeId scope) context
      request.params = .ok () := by
  have resolved : backend.tenantContextGuard route (.token tokenId (some tenantId) userId storeId scope) =
        .ok (tokenContext route tenantId userId storeId) := by
    unfold Backend.tenantContextGuard tokenContext
    rw [resolve_token]
    split_ifs <;> rfl
  unfold Backend.canActivate Backend.dashboardAuthGuard
  rw [bound]
  by_cases dashboard : scope = .dashboardApi
  · simp only [dashboard, if_true, ok_bind, true_and]
    rw [← dashboard, resolved, ok_bind]
    constructor
    · intro admitted
      obtain ⟨_, judged, same⟩ := bind_ok admitted
      obtain rfl := Except.ok.inj same
      exact ⟨rfl, judged⟩
    · rintro ⟨rfl, judged⟩
      rw [judged]
      rfl
  · simp only [dashboard, if_false, false_and, iff_false]
    intro admitted
    cases admitted

theorem actsOn_token (acts : route.ActsOn request (tokenContext route tenantId userId storeId) other) :
    other = tenantId ∨ route.target.Names request.params other := by
  unfold Route.ActsOn at acts
  split at acts
  · unfold tokenContext at acts
    split_ifs at acts
    · exact .inl (Option.some.inj acts).symm
    · cases acts
  · exact .inr acts

theorem actsOn_of_names (named : route.target.Names request.params other) : route.ActsOn request context
    other := by
  unfold Route.ActsOn
  split
  · rename_i active
    rw [active] at named
    exact absurd named id
  · exact named

theorem resolves_of_names (context : Option ResolvedContext) {gate : RolesMetadata}
    (gated : route.metadata = some gate) (only : gate.platformAdminOnly = false)
    (named : route.target.Names request.params other) :
    ∃ value, Backend.resolveTenantId gate context request.params = some value ∧
      Uuid.ofText value = some other := by
  have aligned := route.aligned gate gated only
  unfold Backend.resolveTenantId
  cases source : gate.tenantFrom with
  | context =>
    rw [aligned, source] at named
    exact absurd named id
  | param key =>
    have target : route.target = .param key := by rw [aligned, source]; rfl
    rw [target] at named
    obtain ⟨value, listed, read⟩ := named
    have named : key ≠ "" := fun empty => route.named (by rw [target, empty])
    have present : value ≠ "" := by
      rintro rfl
      have unread : Uuid.ofText "" = none := by decide
      rw [unread] at read
      cases read
    exact ⟨value, by simp [named, listed, present], read⟩

/-- **What a token bound to a tenant may do stays in the tenant, except where its user could do it.** -/
theorem token_confined_iff
    (bound : backend.view.authenticate hashToken now request.credentials =
      some (.token tokenId (some tenantId) userId storeId scope)) :
    backend.Confines hashToken now route request tenantId ↔
      ¬ backend.Trespasses route request tenantId userId scope := by
  constructor
  · rintro confined ⟨dashboard, user, gate, other, holder, gated, foreign, named, entitled⟩
    refine foreign (confined _ ((admit_token bound).2 ⟨dashboard, rfl,
      (rolesGuard_token tokenContext_plain).2 ⟨gate, user, gated, holder, ?_⟩⟩) other (actsOn_of_names named))
    refine entitled.imp_right fun ⟨only, code, listed, found⟩ => ⟨only, ?_⟩
    obtain ⟨value, asked, read⟩ := resolves_of_names _ gated only named
    exact ⟨value, other, asked, read, code, listed, found⟩
  · intro stays context admitted other acts
    obtain ⟨dashboard, rfl, judged⟩ := (admit_token bound).1 admitted
    obtain ⟨gate, user, gated, holder, entitled⟩ := (rolesGuard_token tokenContext_plain).1 judged
    rcases actsOn_token acts with same | named
    · exact same
    · by_contra foreign
      refine stays ⟨dashboard, user, gate, other, holder, gated, foreign, named, ?_⟩
      refine entitled.imp_right fun ⟨only, value, looked, asked, read, code, listed, found⟩ => ⟨only, code,
        listed, ?_⟩
      obtain ⟨value', asked', read'⟩ :=
        resolves_of_names (tokenContext route tenantId userId storeId) gated only named
      obtain rfl := mem_unique asked asked'
      obtain rfl := mem_unique read read'
      exact found

end Token

/-! ### A member of two tenants -/

section Samples

/-- A guard that knows nobody, and what it finds of a session. -/
def nobodyView (found : String → Option Uuid) : GuardView :=
  ⟨⟨[], [], [], [], [], [], .nil, .nil, .nil, by simp⟩, [], found, .nil⟩

/-- A user who owns the second tenant, and a token of the user for the first. -/
def Backend.dual : Backend where
  view := ⟨⟨[], [], [], [], [], [], .nil, .nil, .nil, by simp⟩,
    [⟨.sample 4, [], some (.sample 1), some (.sample 0), none, none, .dashboardApi, 1, none⟩],
    fun _ => none, nodup_singleton _⟩
  directory := {
    users := [⟨.sample 0, "user@example.com", none, false, none⟩]
    tenants := [⟨.sample 1, "first", "First", none⟩, ⟨.sample 2, "second", "Second", none⟩]
    stores := []
    roles := [⟨.sample 5, some (.sample 2), "owner"⟩]
    memberships := [⟨.sample 6, .sample 2, .sample 0, .sample 5, .all, none, none⟩]
    storeAccess := []
    userIds := nodup_singleton _
    storeIds := .nil
    storeTenants := by simp
    storeCodes := by simp [CodesUnique] }
  activeContext _ := none

/-- `PATCH /api/v1/tenants/:id`. -/
def updateTenantRoute : Route where
  metadata := some (RolesFromParam "id" [.owner, .tenantAdmin])
  mountsContext := false
  target := .param "id"
  named := by decide
  aligned := by
    intro gate gated _
    cases gated
    rfl

def Request.astray : Request :=
  ⟨⟨none, some "Bearer t"⟩, [("id", (Uuid.sample 2).text)]⟩

/-- A token of one tenant updates another one that its user owns. -/
theorem token_unconfined :
    ¬
      ∀ (backend : Backend) (hashToken : String → Digest) (now : Int) (route : Route) (request : Request)
      (tokenId tenantId : Uuid) (userId storeId : Option Uuid) (scope : TokenScope), backend.view.authenticate
      hashToken now request.credentials = some (.token tokenId (some tenantId) userId storeId scope) →
      backend.Confines hashToken now route request tenantId := by
  intro confined
  have stays := confined .dual (fun _ => []) 0 updateTenantRoute .astray (.sample 4) (.sample 1)
    (some (.sample 0)) none .dashboardApi (by decide) none (by decide) (.sample 2)
    ⟨(Uuid.sample 2).text, rfl, by decide⟩
  exact absurd stays (by decide)

theorem token_confined_sample :
    Backend.dual.Confines (fun _ => []) 0 updateTenantRoute
      ⟨⟨none, some "Bearer t"⟩, [("id", (Uuid.sample 1).text)]⟩ (.sample 1) ↔
      ¬ Backend.dual.Trespasses updateTenantRoute ⟨⟨none, some "Bearer t"⟩, [("id", (Uuid.sample 1).text)]⟩
      (.sample 1) (some (.sample 0)) .dashboardApi :=
  @token_confined_iff _ _ _ _ _ (.sample 4) _ _ none _ (by decide)

end Samples

end DataPulse.Access
