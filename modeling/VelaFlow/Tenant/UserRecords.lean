import VelaFlow.Tenant.Footprints

/-!
# What the user manager leaves in the storage

Each method of the user manager, run on a world: what it reads, and which record it writes. A
saved user reads back as it was saved.
-/
namespace VelaFlow.Tenants

open Process Storage

/-- The user a world has stored under an identifier. -/
def storedUser (recorded : DateTime) (world : World) (userId : String) :
    Except PyException (Option User) :=
  match world.storage.readJson (userKey userId) with
  | .error exception => .error exception
  | .ok none => .ok none
  | .ok (some data) => (User.fromDict recorded data).map some

/-- The user a world has stored for a Google account. -/
def userOfSub (recorded : DateTime) (world : World) (googleSub : String) :
    Except PyException (Option User) :=
  match world.storage.readJson indexKey with
  | .error exception => .error exception
  | .ok index =>
    match (index.getD []).getD googleSub .null with
    | .null => .ok none
    | value =>
      match typed asStr googleSub value with
      | .error exception => .error exception
      | .ok userId => storedUser recorded world userId

/-- A document among the users that `_from_dict` reads as a user. -/
def UserAt (world : World) (path : Path) (user : User) : Prop :=
  InDirectory "users" path ∧ ∃ data recorded,
    world.storage.lookup path = some data ∧ User.fromDict recorded data = .ok user

/-- A user after a login. -/
def User.afterLogin (user : User) (time : DateTime) : User :=
  { user with lastLogin := some time, loginCount := user.loginCount + 1 }

/-- The storage once the user found under an identifier has been changed and saved. -/
def amended (recorded : DateTime) (world : World) (userId : String) (change : User → User) :
    LocalStorage :=
  match storedUser recorded world userId with
  | .ok (some user) =>
    match resolve (userKey user.userId) with
    | .ok path => world.storage.put path (change user).toDict
    | .error _ => world.storage
  | _ => world.storage

/-- A user that is found and whose own key resolves is changed there. -/
theorem amended_of_found {recorded : DateTime} {world : World} {userId : String} {user : User}
    {path : Path} (found : storedUser recorded world userId = .ok (some user))
    (resolved : resolve (userKey user.userId) = .ok path) (change : User → User) :
    amended recorded world userId change = world.storage.put path (change user).toDict := by
  unfold amended
  rw [found]
  dsimp only
  rw [resolved]

section Paths

/-- The key of a named document resolves when its name makes a file's. -/
theorem resolve_json {directory name : String} (part : IsPart directory.toList)
    (file : IsPart (name ++ ".json").toList) :
    ∃ path, resolve (directory ++ "/" ++ name ++ ".json") = .ok path ∧
      path.parts = [directory.toList, (name ++ ".json").toList] := by
  have areParts : ∀ one ∈ [directory.toList, (name ++ ".json").toList], IsPart one := by
    simp only [List.forall_mem_cons]
    exact ⟨part, file, fun _ inside => absurd inside List.not_mem_nil⟩
  refine ⟨⟨_, areParts⟩, resolve_eq_ok ?_, rfl⟩
  rw [String.append_assoc, keyParts_append_slash, keyParts_of_isPart part, keyParts_of_isPart file]
  rfl

/-- The path of the index. -/
theorem resolve_indexKey : ∃ path, resolve indexKey = .ok path ∧
    path.parts = ["users".toList, "_index.json".toList] := by
  have key : indexKey = "users" ++ "/" ++ "_index" ++ ".json" := by decide
  rw [key]
  exact resolve_json (by decide) (by decide)

/-- The record of a user with a plain identifier lies beside the index. -/
theorem resolve_userKey {userId : String} (file : IsPart (userId ++ ".json").toList) :
    ∃ path, resolve (userKey userId) = .ok path ∧
      path.parts = ["users".toList, (userId ++ ".json").toList] := by
  unfold userKey
  rw [show "users/" = "users" ++ "/" from by decide]
  exact resolve_json (by decide) file

/-- A user's record is not the index. -/
theorem path_ne_index {userId : String} (file : IsPart (userId ++ ".json").toList)
    (named : userId.toList.head? = some 'u') {path index : Path}
    (resolved : resolve (userKey userId) = .ok path) (indexed : resolve indexKey = .ok index) :
    path ≠ index := by
  rcases resolve_userKey file with ⟨own, ownResolved, parts⟩
  rcases resolve_indexKey with ⟨only, onlyIndexed, indexParts⟩
  intro same
  have ownPath := Except.ok.inj (ownResolved.symm.trans resolved)
  have onlyPath := Except.ok.inj (onlyIndexed.symm.trans indexed)
  rw [ownPath, same, ← onlyPath, indexParts] at parts
  have name : "_index.json".toList = (userId ++ ".json").toList :=
    (List.cons.inj (List.cons.inj parts).2).1
  have first := congrArg List.head? name
  rw [String.toList_append, List.head?_append, named] at first
  cases first

/-- Users with plain identifiers have records of their own. -/
theorem userKey_path_ne {first second : String} (one : IsPart (first ++ ".json").toList)
    (two : IsPart (second ++ ".json").toList) (apart : first ≠ second) {path other : Path}
    (resolved : resolve (userKey first) = .ok path)
    (otherResolved : resolve (userKey second) = .ok other) : path ≠ other := by
  rcases resolve_userKey one with ⟨own, ownResolved, parts⟩
  rcases resolve_userKey two with ⟨its, itsResolved, itsParts⟩
  intro same
  have ownPath := Except.ok.inj (ownResolved.symm.trans resolved)
  have itsPath := Except.ok.inj (itsResolved.symm.trans otherResolved)
  rw [ownPath, same, ← itsPath, itsParts] at parts
  have name : (second ++ ".json").toList = (first ++ ".json").toList :=
    (List.cons.inj (List.cons.inj parts).2).1
  rw [String.toList_append, String.toList_append] at name
  exact apart (String.toList_injective (List.append_cancel_right name)).symm

end Paths

section Run

variable (answers : Answers) (world : World)

/-- Looking a user up leaves the world alone. -/
@[simp] theorem run_getUser (userId : String) :
    (getUser userId).run answers world =
      (storedUser (answers.clock .record) world userId, world) := by
  unfold getUser storedUser
  rw [run_bind, run_readJson]
  cases world.storage.readJson (userKey userId) with
  | error exception => rfl
  | ok data =>
    cases data with
    | none => rfl
    | some data =>
      simp only [run_bind, run_now, run_lift]
      cases User.fromDict (answers.clock .record) data <;> rfl

/-- Looking up the user of a Google account leaves the world alone. -/
@[simp] theorem run_getUserByGoogleSub (googleSub : String) :
    (getUserByGoogleSub googleSub).run answers world =
      (userOfSub (answers.clock .record) world googleSub, world) := by
  unfold getUserByGoogleSub readIndex userOfSub
  simp only [run_bind, run_readJson]
  cases world.storage.readJson indexKey with
  | error exception => rfl
  | ok index =>
    simp only [run_pure]
    cases (index.getD []).getD googleSub .null with
    | null => rfl
    | str userId => exact run_getUser answers world userId
    | _ => rfl

variable {answers world}

/-- Saving a user whose key resolves writes the record. -/
theorem run_saveUser {user : User} {path : Path}
    (resolved : resolve (userKey user.userId) = .ok path) :
    ∃ left, (saveUser user).run answers world = (.ok (), left) ∧
      left.storage = world.storage.put path user.toDict := by
  unfold saveUser
  rw [run_writeJson, World.writeJson_of_resolve world resolved]
  exact ⟨_, rfl, rfl⟩

/-- Saving a user whose key does not resolve raises. -/
theorem run_saveUser_error {user : User} {exception : PyException}
    (fails : resolve (userKey user.userId) = .error exception) :
    (saveUser user).run answers world = (.error exception, world) := by
  unfold saveUser
  rw [run_writeJson, World.writeJson_of_error world fails]

/-- A login is recorded when the user's key resolves. -/
theorem run_recordLogin {user : User} {path : Path}
    (resolved : resolve (userKey user.userId) = .ok path) (time : DateTime) :
    ∃ left, (recordLogin time user).run answers world = (.ok (user.afterLogin time), left) ∧
      left.storage = world.storage.put path (user.afterLogin time).toDict := by
  have own : resolve (userKey (user.afterLogin time).userId) = .ok path := resolved
  rcases @run_saveUser answers world (user.afterLogin time) path own with ⟨left, saved, storage⟩
  refine ⟨left, ?_, storage⟩
  unfold recordLogin
  rw [run_bind, show (saveUser { user with
    lastLogin := some time, loginCount := user.loginCount + 1 }).run answers world = _ from saved]
  rfl

/-- A login is not recorded when the user's key does not resolve. -/
theorem run_recordLogin_error {user : User} {exception : PyException}
    (fails : resolve (userKey user.userId) = .error exception) (time : DateTime) :
    (recordLogin time user).run answers world = (.error exception, world) := by
  have own : resolve (userKey (user.afterLogin time).userId) = .error exception := fails
  unfold recordLogin
  rw [run_bind, show (saveUser { user with
    lastLogin := some time, loginCount := user.loginCount + 1 }).run answers world = _ from
      run_saveUser_error own]

/-- Looking a user up and saving it changed amends its record. -/
theorem storage_amend {α : Type} {userId : String} {change : User → User}
    {rest : Option User → Routine α} {missing : α} {done : User → α}
    (own : ∀ user, (change user).userId = user.userId) (absent : rest none = pure missing)
    (present : ∀ user, rest (some user) = saveUser (change user) >>= fun _ => pure (done user)) :
    ((getUser userId >>= rest).run answers world).2.storage =
      amended (answers.clock .record) world userId change := by
  unfold amended
  rw [run_bind, run_getUser]
  cases storedUser (answers.clock .record) world userId with
  | error exception => rfl
  | ok found =>
    cases found with
    | none =>
      dsimp only
      rw [absent, run_pure]
    | some user =>
      dsimp only
      rw [present, run_bind]
      cases resolved : resolve (userKey user.userId) with
      | error exception =>
        have fails : resolve (userKey (change user).userId) = .error exception := by
          rw [own, resolved]
        rw [run_saveUser_error fails]
      | ok path =>
        have saves : resolve (userKey (change user).userId) = .ok path := by
          rw [own, resolved]
        rcases @run_saveUser answers world (change user) path saves with ⟨left, saved, storage⟩
        rw [saved]
        exact storage

/-- `update_user_role` amends the role. -/
theorem storage_updateUserRole (userId : String) (newRole : UserRole) :
    ((Tenants.updateUserRole userId newRole).run answers world).2.storage =
      amended (answers.clock .record) world userId
        fun user => { user with userRole := newRole } := by
  unfold Tenants.updateUserRole
  exact storage_amend (fun _ => rfl) rfl fun _ => rfl

/-- `deactivate_user` amends the activity. -/
theorem storage_deactivateUser (userId : String) :
    ((Tenants.deactivateUser userId).run answers world).2.storage =
      amended (answers.clock .record) world userId fun user => { user with isActive := false } := by
  unfold Tenants.deactivateUser
  exact storage_amend (fun _ => rfl) rfl fun _ => rfl

/-- A user that lies at the path of an identifier is stored under it. -/
theorem storedUser_of_lookup {userId : String} {path : Path} {user : User} (recorded : DateTime)
    (resolved : resolve (userKey userId) = .ok path)
    (found : world.storage.lookup path = some user.toDict) :
    storedUser recorded world userId = .ok (some user) := by
  unfold storedUser LocalStorage.readJson
  rw [resolved]
  simp only [Except.map, found, User.fromDict_toDict]

/-- What is stored under an identifier depends on its document alone. -/
theorem storedUser_congr {before after : World} {userId : String}
    (same : ∀ path, resolve (userKey userId) = .ok path →
      after.storage.lookup path = before.storage.lookup path) (recorded : DateTime) :
    storedUser recorded after userId = storedUser recorded before userId := by
  unfold storedUser LocalStorage.readJson
  cases resolved : resolve (userKey userId) with
  | error exception => rfl
  | ok path =>
    simp only [Except.map]
    rw [same path resolved]

/-- The user that `create_user` makes. -/
def newUser (token : String) (created : DateTime)
    (tenantId googleSub email name pictureUrl : String) (userRole : UserRole) : User where
  userId := "usr_" ++ token
  tenantId := tenantId
  googleSub := googleSub
  email := email
  name := name
  pictureUrl := pictureUrl
  userRole := userRole
  createdAt := created

/-- A new user with a plain identifier is stored, and so is the index that names it. -/
theorem run_createUser {token : String} (file : IsPart ("usr_" ++ token ++ ".json").toList)
    (created : DateTime) (tenantId googleSub email name pictureUrl : String)
    (userRole : UserRole) :
    let user := newUser token created tenantId googleSub email name pictureUrl userRole
    ∃ left path index,
      (createUser token created tenantId googleSub email name pictureUrl userRole).run answers
        world = (.ok user, left) ∧
      resolve (userKey user.userId) = .ok path ∧ resolve indexKey = .ok index ∧ path ≠ index ∧
      left.storage = (world.storage.put path user.toDict).put index
        (((world.storage.lookup index).getD []).set googleSub (.str user.userId)) := by
  intro user
  rcases resolve_userKey file with ⟨path, resolved, -⟩
  rcases resolve_indexKey with ⟨index, indexed, -⟩
  have named : ("usr_" ++ token).toList.head? = some 'u' := by simp
  have apart := path_ne_index file named resolved indexed
  have read : (world.storage.put path user.toDict).lookup index = world.storage.lookup index :=
    world.storage.lookup_put_ne _ (Ne.symm apart)
  rcases @run_saveUser answers world user path resolved with ⟨middle, saved, storage⟩
  have steps : (createUser token created tenantId googleSub email name pictureUrl userRole) =
      (saveUser user >>= fun _ => updateIndex googleSub user.userId >>= fun _ => pure user) := rfl
  rw [steps, run_bind, saved]
  unfold updateIndex readIndex
  simp only [run_bind, run_readJson, run_writeJson, run_pure, LocalStorage.readJson, indexed,
    Except.map, World.writeJson_of_resolve _ indexed]
  refine ⟨_, path, index, rfl, resolved, rfl, apart, ?_⟩
  rw [storage, read]

end Run

end VelaFlow.Tenants
