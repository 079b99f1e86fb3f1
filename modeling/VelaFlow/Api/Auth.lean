import VelaFlow.Security.Rbac
import VelaFlow.Tenant.Manager
import VelaFlow.Tenant.UserManager

/-!
# The authentication routes

Google login, invites and the administration of users in `api/routes/auth.py`, with the permission
check of `api/dependencies.py`. A token stands for the claims it is signed over. Bans, the rate
limit and the verification of Google's token come before the login modelled here and can only
refuse it.
-/
namespace VelaFlow.Api

open Process Security Tenants

/-- `HTTPException`. -/
structure HttpError where
  /-- `status_code`. -/
  statusCode : Nat
  /-- `detail`. -/
  detail : String
  deriving DecidableEq, Repr

/-- What a route comes to, unless it raises: an answer, or an `HTTPException`. -/
abbrev Reply (α : Type) := Except HttpError α

/-- `TokenClaims`, without the times. -/
structure TokenClaims where
  /-- `tenant_id`. -/
  tenantId : String
  /-- `role`. -/
  role : String
  /-- `email`. -/
  email : String
  /-- `user_id`. -/
  userId : String := ""
  /-- `user_role`. -/
  userRole : String := ""
  deriving DecidableEq, Repr

/-- `RequirePermission`. -/
def requirePermission (policy : RBACPolicy) (claims : TokenClaims) (permission : Permission) :
    Reply Unit :=
  if policy.checkAccess claims.role claims.userRole permission = true then .ok ()
  else .error ⟨403, "Permission denied: " ++ permission.value⟩

/-- `get_current_tenant_id`. -/
def getCurrentTenantId (claims : TokenClaims) : Reply String :=
  if claims.tenantId = "" then .error ⟨401, "No tenant context"⟩ else .ok claims.tenantId

/-- `GoogleIdentity`, of a verified email. -/
structure GoogleIdentity where
  /-- `sub`. -/
  sub : String
  /-- `email`. -/
  email : String
  /-- `name`. -/
  name : String := ""
  /-- `picture`. -/
  picture : String := ""

/-- `GoogleAuthResponse`. -/
structure GoogleAuthResponse where
  /-- `access_token`. -/
  accessToken : TokenClaims
  /-- `tenant_id`. -/
  tenantId : String
  /-- `user_id`. -/
  userId : String
  /-- `user_role`. -/
  userRole : String
  /-- `is_new_user`. -/
  isNewUser : Bool := false

/-- Whether a character is one `token_hex` draws. -/
def isHexDigit (character : Char) : Bool :=
  ('0' ≤ character && character ≤ '9') || ('a' ≤ character && character ≤ 'f')

/-- What `secrets.token_hex(8)` draws. -/
structure HexToken where
  /-- The token. -/
  text : String
  /-- It has sixteen digits. -/
  length : text.length = 16
  /-- They are hexadecimal. -/
  digits : text.toList.all isHexDigit = true

/-- What a login draws: the token of a new user and the times. -/
structure LoginDraws where
  /-- `_generate_user_id`. -/
  userToken : HexToken
  /-- `created_at` of a new user. -/
  created : DateTime
  /-- `record_login`. -/
  loggedIn : DateTime
  /-- `redeem_invite`. -/
  redeemed : DateTime

/-- What the routes are configured with. -/
structure AuthService where
  /-- The tenant manager. -/
  manager : TenantManager
  /-- The user manager. -/
  users : UserManager
  /-- `_PLATFORM_OWNER_EMAIL`. -/
  platformOwnerEmail : String
  /-- `get_rbac`. -/
  policy : RBACPolicy := {}

namespace AuthService

variable (service : AuthService)

/-- Whether an email is the platform owner's. -/
def isPlatformOwner (email : String) : Bool :=
  decide (service.users.lower email = service.users.lower service.platformOwnerEmail)

section Login

variable (draws : LoginDraws) (identity : GoogleIdentity)

/-- `google_login` of a user that exists. -/
def loginExisting (existing : User) : Routine (Reply GoogleAuthResponse) :=
  if existing.isActive = false then pure (.error ⟨403, "Account deactivated"⟩)
  else do
    let user ← recordLogin draws.loggedIn existing
    match ← service.manager.getTenant user.tenantId with
    | none => pure (.error ⟨403, "Tenant deactivated"⟩)
    | some tenant =>
      if tenant.isActive = false then pure (.error ⟨403, "Tenant deactivated"⟩)
      else
        pure (.ok
          { accessToken :=
              { tenantId := tenant.tenantId, role := tenant.role, email := user.email,
                userId := user.userId, userRole := user.userRole.value }
            tenantId := tenant.tenantId, userId := user.userId
            userRole := user.userRole.value })

/-- The place an invite gives. -/
def placeInvited (inviteCode : String) : Routine (Reply (String × UserRole)) := do
  match ← service.users.redeemInvite draws.redeemed inviteCode identity.sub identity.email with
  | none => pure (.error ⟨400, "Invalid or expired invite code."⟩)
  | some invite =>
    let tenantId ← pureOf (field asStr invite "tenant_id")
    let value ← pureOf (fieldD asStr invite "role" "member")
    let role ← pureOf (readUserRole value)
    pure (.ok (tenantId, role))

/-- The place of the platform owner. -/
def placeOwner : Routine (String × UserRole) := do
  let tenants ← service.manager.listTenants
  match tenants.find? fun tenant => service.isPlatformOwner tenant.email with
  | some ownerTenant => pure (ownerTenant.tenantId, .owner)
  | none =>
    let tenant ← service.manager.createTenant "Platform Owner" identity.email .vip
    pure (tenant.tenantId, .owner)

/-- The tenant and the role of a new user. -/
def place (inviteCode : Option String) : Routine (Reply (String × UserRole)) :=
  if inviteCode.getD "" ≠ "" then service.placeInvited draws identity (inviteCode.getD "")
  else if service.isPlatformOwner identity.email = true then do
    let placed ← service.placeOwner identity
    pure (.ok placed)
  else
    pure (.error ⟨403, "No invite code provided. Ask the platform owner for an invite."⟩)

/-- The binding of the credential vault, which never blocks a login. -/
def pinOwner (tenantId : String) (userRole : UserRole) : Routine Unit :=
  if userRole.elevated = true then
    Program.tryCatch
      (do
        let _ ← service.manager.bindOwnerSub tenantId identity.sub
        pure ())
      fun _ => pure ()
  else pure ()

/-- `google_login` of a new user with a place. -/
def enroll (tenantId : String) (userRole : UserRole) : Routine GoogleAuthResponse := do
  let created ← createUser draws.userToken.text draws.created tenantId identity.sub identity.email
    identity.name identity.picture userRole
  let user ← recordLogin draws.loggedIn created
  service.pinOwner identity tenantId userRole
  let tenant ← service.manager.getTenant tenantId
  pure
    { accessToken :=
        { tenantId, role := (tenant.map Tenant.role).getD "free", email := user.email,
          userId := user.userId, userRole := user.userRole.value }
      tenantId, userId := user.userId, userRole := user.userRole.value, isNewUser := true }

/-- `google_login`, of a verified identity. -/
def googleLogin (inviteCode : Option String) : Routine (Reply GoogleAuthResponse) := do
  match ← getUserByGoogleSub identity.sub with
  | some existing => service.loginExisting draws existing
  | none =>
    match ← service.place draws identity inviteCode with
    | .error refusal => pure (.error refusal)
    | .ok (tenantId, userRole) =>
      let response ← service.enroll draws identity tenantId userRole
      pure (.ok response)

end Login

/-- The refusal of an unknown role. -/
def invalidRole : HttpError :=
  ⟨400, "Invalid role. Must be one of: owner, admin, member, viewer, demo"⟩

/-- `InviteResponse`. -/
structure InviteResponse where
  /-- `invite_code`. -/
  inviteCode : String
  /-- `email`. -/
  email : String
  /-- `role`. -/
  role : String

/-- `create_invite`, with the code it draws and its time. -/
def createInvite (inviteCode : String) (created : DateTime) (claims : TokenClaims)
    (email role : String) : Routine (Reply InviteResponse) :=
  match requirePermission service.policy claims .inviteUsers with
  | .error refusal => pure (.error refusal)
  | .ok () =>
    match getCurrentTenantId claims with
    | .error refusal => pure (.error refusal)
    | .ok tenantId =>
      match UserRole.ofValue? role with
      | none => pure (.error invalidRole)
      | some role => do
        -- The branch on owners and admins in the source only passes.
        let code ← service.users.createInvite inviteCode created tenantId email role
        pure (.ok ⟨code, email, role.value⟩)

/-- `update_user_role`. -/
def updateUserRole (claims : TokenClaims) (userId role : String) : Routine (Reply Dict) :=
  match requirePermission service.policy claims .manageUsers with
  | .error refusal => pure (.error refusal)
  | .ok () =>
    match UserRole.ofValue? role with
    | none => pure (.error invalidRole)
    | some newRole =>
      if claims.userId = userId then pure (.error ⟨400, "Cannot change your own role"⟩)
      else do
        match ← Tenants.updateUserRole userId newRole with
        | none => pure (.error ⟨404, "User not found"⟩)
        | some _ =>
          pure (.ok [("status", .str "updated"), ("user_id", .str userId),
            ("new_role", .str newRole.value)])

/-- `deactivate_user`. -/
def deactivateUser (claims : TokenClaims) (userId : String) : Routine (Reply Dict) :=
  match requirePermission service.policy claims .manageUsers with
  | .error refusal => pure (.error refusal)
  | .ok () =>
    if claims.userId = userId then pure (.error ⟨400, "Cannot deactivate yourself"⟩)
    else do
      if ← Tenants.deactivateUser userId then
        pure (.ok [("status", .str "deactivated"), ("user_id", .str userId)])
      else pure (.error ⟨404, "User not found"⟩)

end AuthService

end VelaFlow.Api
