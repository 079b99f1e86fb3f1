import VelaFlow.Process.Actions
import VelaFlow.Tenant.Users

/-!
# The user manager

`UserManager` of `tenant/user_manager.py`: each method as a routine over the storage. What a
method draws, its tokens and times, is an argument. `str.lower` is a parameter.
-/
namespace VelaFlow.Tenants

open Process

/-- The key of a user's record. -/
def userKey (userId : String) : String := "users/" ++ userId ++ ".json"

/-- `_INDEX_KEY`. -/
def indexKey : String := "users/_index.json"

/-- The key of an invite. -/
def inviteKey (inviteCode : String) : String := "invites/" ++ inviteCode ++ ".json"

/-- What a `UserManager` takes from the language. -/
structure UserManager where
  /-- `str.lower`. -/
  lower : String → String

/-- `get_user`. -/
def getUser (userId : String) : Routine (Option User) := do
  match ← readJson (userKey userId) with
  | none => pure none
  | some data =>
    let time ← now .record
    let user ← pureOf (User.fromDict time data)
    pure (some user)

/-- `_read_index`. -/
def readIndex : Routine Dict := do
  let data ← readJson indexKey
  pure (data.getD [])

/-- `get_user_by_google_sub`. -/
def getUserByGoogleSub (googleSub : String) : Routine (Option User) := do
  let index ← readIndex
  match index.getD googleSub .null with
  | .null => pure none
  | value =>
    let userId ← pureOf (typed asStr googleSub value)
    getUser userId

/-- `_save_user`. -/
def saveUser (user : User) : Routine Unit := writeJson (userKey user.userId) user.toDict

/-- `_update_index`. -/
def updateIndex (googleSub userId : String) : Routine Unit := do
  let index ← readIndex
  writeJson indexKey (index.set googleSub (.str userId))

/-- `create_user`, with the token of `_generate_user_id` and the time of creation. -/
def createUser (token : String) (created : DateTime)
    (tenantId googleSub email name pictureUrl : String) (userRole : UserRole) : Routine User := do
  let user : User :=
    { userId := "usr_" ++ token, tenantId, googleSub, email, name, pictureUrl, userRole,
      createdAt := created }
  saveUser user
  updateIndex googleSub user.userId
  pure user

/-- `update_user_role`. -/
def updateUserRole (userId : String) (newRole : UserRole) : Routine (Option User) := do
  match ← getUser userId with
  | none => pure none
  | some user =>
    let user := { user with userRole := newRole }
    saveUser user
    pure (some user)

/-- `deactivate_user`. -/
def deactivateUser (userId : String) : Routine Bool := do
  match ← getUser userId with
  | none => pure false
  | some user =>
    saveUser { user with isActive := false }
    pure true

/-- `record_login`, at a time. -/
def recordLogin (time : DateTime) (user : User) : Routine User := do
  let user := { user with lastLogin := some time, loginCount := user.loginCount + 1 }
  saveUser user
  pure user

namespace UserManager

variable (users : UserManager)

/-- The document of a new invite. -/
def inviteData (inviteCode : String) (created : DateTime) (tenantId invitedEmail : String)
    (role : UserRole) : Dict :=
  [("invite_code", .str inviteCode),
   ("tenant_id", .str tenantId),
   ("email", .str (users.lower invitedEmail)),
   ("role", .str role.value),
   ("created_at", .str created.isoformat),
   ("used", .bool false)]

/-- `create_invite`, with the code it draws and its time. -/
def createInvite (inviteCode : String) (created : DateTime) (tenantId invitedEmail : String)
    (role : UserRole) : Routine String := do
  writeJson (inviteKey inviteCode) (users.inviteData inviteCode created tenantId invitedEmail role)
  pure inviteCode

/-- An invite that is marked as used. -/
def markUsed (data : Dict) (googleSub : String) (time : DateTime) : Dict :=
  ((data.set "used" (.bool true)).set "redeemed_by" (.str googleSub)).set "redeemed_at"
    (.str time.isoformat)

/-- `redeem_invite`, at a time. -/
def redeemInvite (time : DateTime) (inviteCode googleSub email : String) :
    Routine (Option Dict) := do
  match ← readJson (inviteKey inviteCode) with
  | none => pure none
  | some data =>
    if (data.getD "used" .null).truthy then pure none
    else do
      let invited ← pureOf (fieldD asStr data "email" "")
      if users.lower invited ≠ users.lower email then pure none
      else do
        writeJson (inviteKey inviteCode) (markUsed data googleSub time)
        pure (some (markUsed data googleSub time))

end UserManager

end VelaFlow.Tenants
