import VelaFlow.Tenant.Records

/-!
# Users

`UserRole` and `User` of `tenant/models.py`, with the dictionaries in which `user_manager.py`
stores users. As for tenants, a stored value of another type than is written is a `TypeError`.
-/
namespace VelaFlow.Tenants

/-- `UserRole`. -/
inductive UserRole where
  /-- `"owner"`. -/
  | owner
  /-- `"admin"`. -/
  | admin
  /-- `"member"`. -/
  | member
  /-- `"viewer"`. -/
  | viewer
  /-- `"demo"`. -/
  | demo
  deriving DecidableEq, Repr

namespace UserRole

/-- `role.value`. -/
def value : UserRole → String
  | owner => "owner"
  | admin => "admin"
  | member => "member"
  | viewer => "viewer"
  | demo => "demo"

/-- `UserRole(value)`; `none` is a `ValueError`. -/
def ofValue? : String → Option UserRole
  | "owner" => some owner
  | "admin" => some admin
  | "member" => some member
  | "viewer" => some viewer
  | "demo" => some demo
  | _ => none

/-- A role is read back from its value. -/
@[simp] theorem ofValue?_value (role : UserRole) : ofValue? role.value = some role := by
  cases role <;> rfl

/-- Whether a role is one of `(UserRole.OWNER, UserRole.ADMIN)`. -/
def elevated (role : UserRole) : Bool := decide (role = owner) || decide (role = admin)

end UserRole

/-- `User`. -/
@[ext] structure User where
  /-- `user_id`. -/
  userId : String
  /-- `tenant_id`. -/
  tenantId : String
  /-- `google_sub`. -/
  googleSub : String
  /-- `email`. -/
  email : String
  /-- `name`. -/
  name : String := ""
  /-- `picture_url`. -/
  pictureUrl : String := ""
  /-- `user_role`. -/
  userRole : UserRole := .member
  /-- `is_active`. -/
  isActive : Bool := true
  /-- `created_at`. -/
  createdAt : DateTime
  /-- `last_login`. -/
  lastLogin : Option DateTime := none
  /-- `login_count`. -/
  loginCount : Int := 0

/-- `UserRole(value)`. -/
def readUserRole (value : String) : Except PyException UserRole :=
  match UserRole.ofValue? value with
  | some role => .ok role
  | none => .error (.valueError ("'" ++ value ++ "' is not a valid UserRole"))

/-- `datetime.fromisoformat(d[key])` when `d.get(key)` is filled. -/
def readTime? (dict : Dict) (key : String) : Except PyException (Option DateTime) :=
  match dict.get? key with
  | none => .ok none
  | some value => if value.truthy then (readTime key value).map some else .ok none

namespace User

/-- `_to_dict`. -/
def toDict (user : User) : Dict :=
  [("user_id", .str user.userId),
   ("tenant_id", .str user.tenantId),
   ("google_sub", .str user.googleSub),
   ("email", .str user.email),
   ("name", .str user.name),
   ("picture_url", .str user.pictureUrl),
   ("user_role", .str user.userRole.value),
   ("is_active", .bool user.isActive),
   ("created_at", .str user.createdAt.isoformat),
   ("last_login", ((user.lastLogin.map fun time => Json.str time.isoformat).getD .null)),
   ("login_count", .int user.loginCount)]

/-- `_from_dict`, at a given time. -/
def fromDict (now : DateTime) (dict : Dict) : Except PyException User := do
  let userId ← field asStr dict "user_id"
  let tenantId ← field asStr dict "tenant_id"
  let googleSub ← field asStr dict "google_sub"
  let email ← field asStr dict "email"
  let name ← fieldD asStr dict "name" ""
  let pictureUrl ← fieldD asStr dict "picture_url" ""
  let roleValue ← fieldD asStr dict "user_role" "member"
  let userRole ← readUserRole roleValue
  let isActive ← fieldD asBool dict "is_active" true
  let createdAt ← readTime? dict "created_at"
  let lastLogin ← readTime? dict "last_login"
  let loginCount ← fieldD asInt dict "login_count" 0
  return { userId, tenantId, googleSub, email, name, pictureUrl, userRole, isActive,
           createdAt := createdAt.getD now, lastLogin, loginCount }

variable (now : DateTime) (user : User)

/-- A stored time is read back. -/
theorem readTime?_isoformat {dict : Dict} {key : String} {time : DateTime}
    (stored : dict.get? key = some (.str time.isoformat)) :
    readTime? dict key = .ok (some time) := by
  have filled : (Json.str time.isoformat).truthy = true := by
    simp [Json.truthy, isoformat_ne_empty]
  unfold readTime?
  rw [stored]
  simp only [filled, if_true, readTime, typed, asStr, bind, Except.bind,
    DateTime.fromIsoformat_isoformat, Except.map]

/-- The last login is read back. -/
theorem readTime?_lastLogin : readTime? user.toDict "last_login" = .ok user.lastLogin := by
  cases login : user.lastLogin with
  | none =>
    have stored : user.toDict.get? "last_login" =
        some ((user.lastLogin.map fun time => Json.str time.isoformat).getD .null) := rfl
    unfold readTime?
    rw [stored, login]
    rfl
  | some time =>
    have stored : user.toDict.get? "last_login" =
        some ((user.lastLogin.map fun time => Json.str time.isoformat).getD .null) := rfl
    rw [login] at stored
    exact readTime?_isoformat stored

/-- `_from_dict` reads back what `_to_dict` writes. -/
@[simp] theorem fromDict_toDict : fromDict now user.toDict = .ok user := by
  have created : readTime? user.toDict "created_at" = .ok (some user.createdAt) :=
    readTime?_isoformat rfl
  have login := readTime?_lastLogin user
  have role : readUserRole user.userRole.value = .ok user.userRole := by simp [readUserRole]
  unfold fromDict
  simp only [created, login]
  rw [show field asStr user.toDict "user_id" = .ok user.userId from rfl,
    show field asStr user.toDict "tenant_id" = .ok user.tenantId from rfl,
    show field asStr user.toDict "google_sub" = .ok user.googleSub from rfl,
    show field asStr user.toDict "email" = .ok user.email from rfl,
    show fieldD asStr user.toDict "name" "" = .ok user.name from rfl,
    show fieldD asStr user.toDict "picture_url" "" = .ok user.pictureUrl from rfl,
    show fieldD asStr user.toDict "user_role" "member" = .ok user.userRole.value from rfl,
    show fieldD asBool user.toDict "is_active" true = .ok user.isActive from rfl,
    show fieldD asInt user.toDict "login_count" 0 = .ok user.loginCount from rfl]
  simp only [bind, Except.bind, role, pure, Except.pure, Option.getD_some]

/-- No two users are stored alike. -/
theorem toDict_injective {first second : User} (same : first.toDict = second.toDict) :
    first = second := by
  have read := fromDict_toDict first.createdAt first
  rw [same, fromDict_toDict] at read
  exact (Except.ok.inj read).symm

end User

end VelaFlow.Tenants
