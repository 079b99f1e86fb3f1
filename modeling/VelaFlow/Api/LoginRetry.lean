import VelaFlow.Api.RoleGrants
import VelaFlow.Foundation.Faults

/-!
# First logins that fail halfway

The first login of an invited user writes the invite, the user's record, the index and the record
again, and nothing is taken back when one of these writes fails. The invite comes first. Once it is
consumed the login can be repeated only if the index has the user, so a failure of the record or of
the index leaves an identity that is neither a user nor invited.
-/
namespace VelaFlow.Api

open Process Queue Storage Tenants
open Program (Only)

/-- A write to the storage. -/
def isWrite : Action → Bool
  | .writeJson _ _ => true
  | _ => false

/-- A world after a document has been written at a path. -/
def wrote (world : World) (key : String) (path : Path) (data : Dict) : World :=
  { world.log (.wrote key data) with storage := world.storage.put path data }

/-- A routine in a state that counts its writes, when one of them may fail: the one that comes after
so many others. -/
abbrev attempted {α : Type} (answers : Answers) (failure : PyException) (failing : Option Nat)
    (routine : Routine α) (state : World × Nat) : Except PyException α × (World × Nat) :=
  Program.run (Program.refusing (World.respond answers) failure isWrite failing) routine state

section Attempts

variable {answers : Answers} {failure : PyException} {failing : Option Nat} {world : World}
  {count : Nat}

/-- A quiet routine makes no write. -/
theorem unmarked_of_quiet {α : Type} {routine : Routine α} (quiet : Only Action.Quiet routine) :
    Only (fun action => isWrite action = false) routine := by
  apply quiet.weaken
  intro action still
  cases action with
  | writeJson key data => exact still.elim
  | _ => rfl

/-- A sequence runs its first part and, when that returns, the rest on what it left. -/
theorem attempted_seq {α β : Type} (routine : Routine α) (rest : α → Routine β)
    (state : World × Nat) :
    attempted answers failure failing (routine >>= rest) state =
      match attempted answers failure failing routine state with
      | (.ok value, left) => attempted answers failure failing (rest value) left
      | (.error exception, left) => (.error exception, left) := by
  unfold attempted
  rw [Program.run_bind]
  cases Program.run _ routine state with
  | mk outcome left => cases outcome <;> rfl

/-- What comes behind a quiet routine. -/
theorem attempted_bind {α β : Type} {routine : Routine α} (quiet : Only Action.Quiet routine)
    {value : α} {left : World} (returns : routine.run answers world = (.ok value, left))
    (rest : α → Routine β) :
    attempted answers failure failing (routine >>= rest) (world, count) =
      attempted answers failure failing (rest value) (left, count) :=
  Program.run_refusing_bind _ failure world rest (unmarked_of_quiet quiet) returns count

/-- A write is carried out unless it is the one that fails. -/
theorem attempted_writeJson {key : String} {path : Path} (resolved : resolve key = .ok path)
    (data : Dict) :
    attempted answers failure failing (writeJson key data) (world, count) =
      if failing = some count then (.error failure, (world, count + 1))
      else (.ok (), (wrote world key path data, count + 1)) := by
  have answered : World.respond answers (.writeJson key data) world =
      (.ok (), wrote world key path data) := World.writeJson_of_resolve world resolved data
  exact Program.run_refusing_act (World.respond answers) failure world rfl answered count

/-- A login is recorded unless its write fails. -/
theorem attempted_recordLogin {user : User} {path : Path}
    (resolved : resolve (userKey user.userId) = .ok path) (time : DateTime) :
    attempted answers failure failing (recordLogin time user) (world, count) =
      if failing = some count then (.error failure, (world, count + 1))
      else (.ok (user.afterLogin time),
        (wrote world (userKey user.userId) path (user.afterLogin time).toDict, count + 1)) := by
  have steps : recordLogin time user =
      (writeJson (userKey user.userId) (user.afterLogin time).toDict >>= fun _ =>
        pure (user.afterLogin time)) := rfl
  rw [steps, attempted_seq, attempted_writeJson resolved]
  by_cases fails : failing = some count
  · simp only [if_pos fails]
  · simp only [if_neg fails, Program.run_pure]

/-- A user is created unless the write of the record or of the index fails. -/
theorem attempted_createUser {token : String} {path index : Path}
    (resolved : resolve (userKey ("usr_" ++ token)) = .ok path)
    (indexed : resolve indexKey = .ok index) (apart : path ≠ index) (created : DateTime)
    (tenantId googleSub email name pictureUrl : String) (userRole : UserRole) :
    let user := newUser token created tenantId googleSub email name pictureUrl userRole
    let saved := wrote world (userKey user.userId) path user.toDict
    attempted answers failure failing
        (createUser token created tenantId googleSub email name pictureUrl userRole)
        (world, count) =
      if failing = some count then (.error failure, (world, count + 1))
      else if failing = some (count + 1) then (.error failure, (saved, count + 2))
      else (.ok user, (wrote saved indexKey index
        (((world.storage.lookup index).getD []).set googleSub (.str user.userId)), count + 2)) := by
  intro user saved
  have own : resolve (userKey user.userId) = .ok path := resolved
  have same : saved.storage.lookup index = world.storage.lookup index :=
    world.storage.lookup_put_ne _ (Ne.symm apart)
  have read : readIndex.run answers saved =
      (.ok ((world.storage.lookup index).getD []), saved) := by
    unfold readIndex
    simp only [run_bind, run_readJson, LocalStorage.readJson, indexed, Except.map, same, run_pure]
  have steps : createUser token created tenantId googleSub email name pictureUrl userRole =
      (writeJson (userKey user.userId) user.toDict >>= fun _ =>
        updateIndex googleSub user.userId >>= fun _ => pure user) := rfl
  have updates : attempted answers failure failing (updateIndex googleSub user.userId)
      (saved, count + 1) =
      if failing = some (count + 1) then (.error failure, (saved, count + 2))
      else (.ok (), (wrote saved indexKey index
        (((world.storage.lookup index).getD []).set googleSub (.str user.userId)), count + 2)) := by
    unfold updateIndex
    rw [attempted_bind quiet_readIndex read, attempted_writeJson indexed]
  rw [steps, attempted_seq, attempted_writeJson own]
  by_cases first : failing = some count
  · simp only [if_pos first]
  · simp only [if_neg first]
    rw [attempted_seq, updates]
    by_cases second : failing = some (count + 1)
    · simp only [if_pos second]
    · simp only [if_neg second, Program.run_pure]

/-- Where no write fails, a routine does what it does. -/
theorem run_of_attempted {α : Type} {routine : Routine α} {outcome : Except PyException α}
    {left : World} {later : Nat}
    (ran : attempted answers failure none routine (world, count) = (outcome, (left, later))) :
    routine.run answers world = (outcome, left) := by
  have past : ∀ index ∈ (none : Option Nat), index < count := by simp
  rcases @Program.run_refusing_of_past _ _ _ _ (World.respond answers) failure isWrite none _
    routine world count past with ⟨last, plain⟩
  have same := plain.symm.trans ran
  exact Prod.ext (Prod.mk.inj same).1 (Prod.mk.inj (Prod.mk.inj same).2).1

variable {service : AuthService} {draws : LoginDraws} {identity : GoogleIdentity}

/-- An invite that can be redeemed is redeemed unless its write fails. -/
theorem attempted_redeemInvite {inviteCode tenantId : String} {path : Path} {data : Dict}
    (resolved : resolve (inviteKey inviteCode) = .ok path)
    (found : world.storage.lookup path = some data)
    (redeemable : Redeemable service data identity.email tenantId) (time : DateTime) :
    let marked := UserManager.markUsed data identity.sub time
    attempted answers failure failing
        (service.users.redeemInvite time inviteCode identity.sub identity.email) (world, count) =
      if failing = some count then (.error failure, (world, count + 1))
      else (.ok (some marked), (wrote world (inviteKey inviteCode) path marked, count + 1)) := by
  intro marked
  rcases redeemable with ⟨unused, ⟨invited, email, same⟩, -⟩
  have read : (readJson (inviteKey inviteCode)).run answers world = (.ok (some data), world) := by
    simp only [run_readJson, LocalStorage.readJson, resolved, Except.map, found]
  have asked : (pureOf (fieldD asStr data "email" "")).run answers world = (.ok invited, world) := by
    rw [run_lift, email]
  have open' : ¬ (data.getD "used" .null).truthy = true := by simp [unused]
  have quiet : Only Action.Quiet (readJson (inviteKey inviteCode)) := Only.act trivial
  unfold UserManager.redeemInvite
  rw [attempted_bind quiet read]
  dsimp only
  rw [if_neg open', attempted_bind (Only.lift _) asked, if_neg (not_not.mpr same),
    attempted_seq, attempted_writeJson resolved]
  by_cases fails : failing = some count
  · simp only [if_pos fails]
  · simp only [if_neg fails]
    rfl

/-- The place that an invite gives is given unless the write of the invite fails. -/
theorem attempted_placeInvited {inviteCode tenantId : String} {role : UserRole} {path : Path}
    {data : Dict} (resolved : resolve (inviteKey inviteCode) = .ok path)
    (found : world.storage.lookup path = some data)
    (redeemable : Redeemable service data identity.email tenantId)
    (offered : fieldD asStr data "role" "member" = .ok role.value) :
    attempted answers failure failing (service.placeInvited draws identity inviteCode)
        (world, count) =
      if failing = some count then (.error failure, (world, count + 1))
      else (.ok (.ok (tenantId, role)), (wrote world (inviteKey inviteCode) path
        (UserManager.markUsed data identity.sub draws.redeemed), count + 1)) := by
  let marked := UserManager.markUsed data identity.sub draws.redeemed
  have tenant : field asStr marked "tenant_id" = .ok tenantId := by
    rw [← redeemable.2.2.1]
    unfold field
    rw [get?_markUsed data identity.sub draws.redeemed (by decide) (by decide) (by decide)]
  have value : fieldD asStr marked "role" "member" = .ok role.value :=
    (fieldD_role_markUsed data identity.sub draws.redeemed).trans offered
  have known : readUserRole role.value = .ok role := by
    unfold readUserRole
    rw [UserRole.ofValue?_value]
  unfold AuthService.placeInvited
  rw [attempted_seq, attempted_redeemInvite resolved found redeemable]
  by_cases fails : failing = some count
  · simp only [if_pos fails]
  · simp only [if_neg fails]
    let left := wrote world (inviteKey inviteCode) path marked
    have first : (pureOf (field asStr marked "tenant_id")).run answers left =
        (.ok tenantId, left) := by
      rw [run_lift, tenant]
    have second : (pureOf (fieldD asStr marked "role" "member")).run answers left =
        (.ok role.value, left) := by
      rw [run_lift, value]
    have third : (pureOf (readUserRole role.value)).run answers left = (.ok role, left) := by
      rw [run_lift, known]
    rw [attempted_bind (Only.lift _) first, attempted_bind (Only.lift _) second,
      attempted_bind (Only.lift _) third]
    rfl

end Attempts

section Atomic

variable {answers : Answers} {failure : PyException} {failing : Option Nat}

/-- A routine with one write at most: where the write may fail, the routine leaves the world as it
was or as it would be. -/
def Atomic {α : Type} (answers : Answers) (failure : PyException) (failing : Option Nat)
    (routine : Routine α) : Prop :=
  ∀ world count, ∃ outcome left later,
    attempted answers failure failing routine (world, count) = (outcome, (left, later)) ∧
    (left = world ∨ left = (routine.run answers world).2)

/-- A routine without actions writes nothing. -/
theorem atomic_lift {α : Type} (computation : Except PyException α) :
    Atomic answers failure failing (pureOf computation) := by
  intro world count
  refine ⟨computation, world, count, ?_, Or.inl rfl⟩
  cases computation <;> rfl

/-- A write is one write. -/
theorem atomic_writeJson (key : String) (data : Dict) :
    Atomic answers failure failing (writeJson key data) := by
  intro world count
  have mark : isWrite (.writeJson key data) = true := rfl
  have carried := Program.run_act (World.respond answers) (Action.writeJson key data) world
  unfold attempted writeJson
  rw [Program.run_act]
  by_cases fails : failing = some count
  · rw [fails, Program.refusing_refused _ failure mark]
    exact ⟨_, world, count + 1, rfl, Or.inl rfl⟩
  · rw [Program.refusing_carried _ failure mark world fails]
    exact ⟨_, _, count + 1, rfl, Or.inr (congrArg Prod.snd carried).symm⟩

/-- What comes behind a routine that leaves the world alone has the only write. -/
theorem atomic_bind {α β : Type} {routine : Routine α} {rest : α → Routine β}
    (quiet : Only Action.Quiet routine) (still : ∀ world, (routine.run answers world).2 = world)
    (atomic : ∀ value, Atomic answers failure failing (rest value)) :
    Atomic answers failure failing (routine >>= rest) := by
  intro world count
  have same := still world
  cases returns : routine.run answers world with
  | mk outcome left =>
    rw [returns] at same
    obtain rfl : left = world := same
    have first : attempted answers failure failing routine (left, count) =
        (outcome, (left, count)) := by
      have plain : attempted answers failure failing routine (left, count) = _ :=
        Program.run_refusing_of_only _ failure (unmarked_of_quiet quiet) left count
      rw [plain]
      exact congrArg (fun ended => (ended.1, (ended.2, count))) returns
    rw [attempted_seq, first, run_bind, returns]
    cases outcome with
    | ok value => exact atomic value left count
    | error exception => exact ⟨_, left, count, rfl, Or.inl rfl⟩

/-- A value behind a routine writes nothing. -/
theorem atomic_map {α β : Type} {routine : Routine α}
    (atomic : Atomic answers failure failing routine) (value : α → β) :
    Atomic answers failure failing (routine >>= fun result => pure (value result)) := by
  intro world count
  rcases atomic world count with ⟨outcome, left, later, ran, cases'⟩
  have same := Program.run_bind_pure (World.respond answers) routine value world
  rw [attempted_seq, ran]
  unfold Routine.run
  rw [same]
  cases outcome with
  | ok result => exact ⟨_, left, later, rfl, cases'⟩
  | error exception => exact ⟨_, left, later, rfl, cases'⟩

/-- Binding an owner writes one record at most. -/
theorem atomic_bindOwnerSub (manager : TenantManager) (tenantId googleSub : String) :
    Atomic answers failure failing (manager.bindOwnerSub tenantId googleSub) := by
  unfold TenantManager.bindOwnerSub
  by_cases empty : googleSub = ""
  · rw [if_pos empty]
    exact atomic_lift (.error (.valueError "google_sub is required"))
  · rw [if_neg empty]
    apply atomic_bind (quiet_getTenant manager tenantId)
    · intro world
      rw [run_getTenant]
    · intro found
      cases found with
      | none => exact atomic_lift (.ok none)
      | some tenant =>
        dsimp only
        by_cases other : tenant.ownerGoogleSub ≠ "" ∧ tenant.ownerGoogleSub ≠ googleSub
        · rw [if_pos other]
          exact atomic_lift (.error _)
        · rw [if_neg other]
          by_cases unbound : tenant.ownerGoogleSub = ""
          · rw [if_pos unbound]
            apply atomic_map
            unfold TenantManager.saveTenant
            refine atomic_bind (Only.act trivial) (fun world => ?_) fun nonce => ?_
            · rw [run_drawNonce]
            · exact atomic_writeJson _ _
          · rw [if_neg unbound]
            exact atomic_lift (.ok (some tenant))

/-- Pinning an owner returns whether or not its write fails, touches only tenants, and leaves the
tenant as active as it was. -/
theorem attempted_pinOwner (service : AuthService) (identity : GoogleIdentity) (world : World)
    (count : Nat) (tenantId : String) (userRole : UserRole) :
    ∃ left later, attempted answers failure failing (service.pinOwner identity tenantId userRole)
        (world, count) = (.ok (), (left, later)) ∧
      (∀ path, ¬ InDirectory "tenants" path →
        left.storage.lookup path = world.storage.lookup path) ∧
      activity service.manager (answers.clock .record) left tenantId =
        activity service.manager (answers.clock .record) world tenantId := by
  rcases @run_pinOwner service answers identity world tenantId userRole with
    ⟨pinned, ran, frame, same⟩
  unfold AuthService.pinOwner at ran ⊢
  by_cases elevated : userRole.elevated = true
  · rw [if_pos elevated] at ran ⊢
    have binds : Atomic answers failure failing
        (service.manager.bindOwnerSub tenantId identity.sub >>= fun _ => pure ()) :=
      atomic_map (atomic_bindOwnerSub service.manager tenantId identity.sub) fun _ => ()
    rcases binds world count with ⟨outcome, left, later, bound, kept⟩
    have plain := Program.run_tryCatch_pure (World.respond answers)
      (service.manager.bindOwnerSub tenantId identity.sub >>= fun _ => pure ()) (fun _ => ()) world
    have reached : left = world ∨ left = pinned := by
      apply kept.imp id
      intro is
      exact is.trans (plain.symm.trans (congrArg Prod.snd ran))
    refine ⟨left, later, ?_, ?_⟩
    · unfold attempted at bound ⊢
      rw [Program.run_tryCatch, bound]
      cases outcome <;> rfl
    · rcases reached with is | is
      · rw [is]
        exact ⟨fun _ _ => rfl, rfl⟩
      · rw [is]
        exact ⟨frame, same⟩
  · rw [if_neg elevated]
    exact ⟨world, count, rfl, fun _ _ => rfl, rfl⟩

end Atomic

/-- Where the documents of a first login are: the invite with what it says, the record of the new
user, and the index. -/
structure Sites (world : World) (inviteCode : String) (token : HexToken) where
  /-- The path of the invite. -/
  invite : Path
  /-- The invite. -/
  data : Dict
  /-- The path of the record. -/
  user : Path
  /-- The path of the index. -/
  index : Path
  /-- The invite is stored at its path. -/
  found : world.storage.lookup invite = some data
  /-- The path of the invite is that of its code. -/
  ofCode : resolve (inviteKey inviteCode) = .ok invite
  /-- The path of the record is that of the new user. -/
  ofUser : resolve (userKey (newUserId token)) = .ok user
  /-- The path of the index is that of its key. -/
  ofIndex : resolve indexKey = .ok index

section Stages

variable (draws : LoginDraws) (identity : GoogleIdentity) {world : World} {inviteCode : String}
  (tenantId : String) (role : UserRole) (sites : Sites world inviteCode draws.userToken)

/-- The user that a first login makes. -/
def newcomer : User :=
  newUser draws.userToken.text draws.created tenantId identity.sub identity.email identity.name
    identity.picture role

/-- The index with the new user in it. -/
def grownIndex : Dict :=
  ((world.storage.lookup sites.index).getD []).set identity.sub
    (.str (newcomer draws identity tenantId role).userId)

/-- The world with the invite consumed. -/
def consumed : World :=
  wrote world (inviteKey inviteCode) sites.invite
    (UserManager.markUsed sites.data identity.sub draws.redeemed)

/-- The world with the record of the new user. -/
def saved : World :=
  wrote (consumed draws identity sites) (userKey (newUserId draws.userToken)) sites.user
    (newcomer draws identity tenantId role).toDict

/-- The world with the new user in the index. -/
def indexed : World :=
  wrote (saved draws identity tenantId role sites) indexKey sites.index
    (grownIndex draws identity tenantId role sites)

/-- The world with the login of the new user recorded. -/
def logged : World :=
  wrote (indexed draws identity tenantId role sites) (userKey (newUserId draws.userToken))
    sites.user ((newcomer draws identity tenantId role).afterLogin draws.loggedIn).toDict

variable {draws identity tenantId role} {sites} {service : AuthService} {answers : Answers}
  {failure : PyException} {failing : Option Nat}

/-- The record of a new user is not the index. -/
theorem Sites.user_ne_index : sites.user ≠ sites.index := by
  have named : (newUserId draws.userToken).toList.head? = some 'u' := by simp [newUserId]
  exact path_ne_index (isPart_newUser draws.userToken) named sites.ofUser sites.ofIndex

/-- The invite lies outside the users. -/
theorem Sites.invite_ne {path : Path} (inside : InDirectory "users" path) :
    path ≠ sites.invite := by
  intro same
  have other := inDirectory_inviteKey sites.ofCode
  rw [← same] at other
  exact absurd (inside.eq other) (by decide)

/-- The record of a new user lies with the users. -/
theorem Sites.user_inside : InDirectory "users" sites.user := inDirectory_userKey sites.ofUser

/-- The index lies with the users. -/
theorem Sites.index_inside : InDirectory "users" sites.index := inDirectory_indexKey sites.ofIndex

/-- Consuming the invite touches no user. -/
theorem lookup_consumed {path : Path} (inside : InDirectory "users" path) :
    (consumed draws identity sites).storage.lookup path = world.storage.lookup path :=
  world.storage.lookup_put_ne _ (sites.invite_ne inside)

/-- Saving the new user writes its record. -/
theorem lookup_saved {path : Path} (inside : InDirectory "users" path)
    (other : path ≠ sites.user) :
    (saved draws identity tenantId role sites).storage.lookup path = world.storage.lookup path :=
  ((consumed draws identity sites).storage.lookup_put_ne _ other).trans (lookup_consumed inside)

/-- The index has the new user. -/
theorem lookup_indexed_index :
    (indexed draws identity tenantId role sites).storage.lookup sites.index =
      some (grownIndex draws identity tenantId role sites) :=
  (saved draws identity tenantId role sites).storage.lookup_put_self sites.index _

/-- The index is not written where the record is. -/
theorem lookup_indexed_user :
    (indexed draws identity tenantId role sites).storage.lookup sites.user =
      some (newcomer draws identity tenantId role).toDict :=
  ((saved draws identity tenantId role sites).storage.lookup_put_ne _ sites.user_ne_index).trans
    ((consumed draws identity sites).storage.lookup_put_self sites.user _)

/-- Among the users, the index and the record are all that is written. -/
theorem lookup_indexed {path : Path} (inside : InDirectory "users" path)
    (user : path ≠ sites.user) (index : path ≠ sites.index) :
    (indexed draws identity tenantId role sites).storage.lookup path =
      world.storage.lookup path :=
  ((saved draws identity tenantId role sites).storage.lookup_put_ne _ index).trans
    (lookup_saved inside user)

/-- None of the writes of a first login is in another directory than the invites and the users. -/
theorem lookup_indexed_elsewhere {path : Path} (users : ¬ InDirectory "users" path)
    (invites : ¬ InDirectory "invites" path) :
    (indexed draws identity tenantId role sites).storage.lookup path =
      world.storage.lookup path := by
  have user : path ≠ sites.user := fun same => users (same ▸ sites.user_inside)
  have index : path ≠ sites.index := fun same => users (same ▸ sites.index_inside)
  have invite : path ≠ sites.invite := fun same =>
    invites (same ▸ inDirectory_inviteKey sites.ofCode)
  calc
    _ = (saved draws identity tenantId role sites).storage.lookup path :=
      LocalStorage.lookup_put_ne _ _ index
    _ = (consumed draws identity sites).storage.lookup path := LocalStorage.lookup_put_ne _ _ user
    _ = world.storage.lookup path := LocalStorage.lookup_put_ne _ _ invite

/-- The tenants are as they were while the new user is indexed. -/
theorem activity_indexed (manager : TenantManager) (recorded : DateTime) :
    activity manager recorded (indexed draws identity tenantId role sites) tenantId =
      activity manager recorded world tenantId := by
  refine congrArg (Except.map _) (storedTenant_congr manager recorded fun path resolved => ?_)
  have inside := inDirectory_tenantKey resolved
  apply lookup_indexed_elsewhere
  · exact fun other => absurd (inside.eq other) (by decide)
  · exact fun other => absurd (inside.eq other) (by decide)

/-- And they are as they were when its login is recorded. -/
theorem activity_logged (manager : TenantManager) (recorded : DateTime) :
    activity manager recorded (logged draws identity tenantId role sites) tenantId =
      activity manager recorded world tenantId := by
  have before : activity manager recorded (indexed draws identity tenantId role sites) tenantId =
      activity manager recorded world tenantId := activity_indexed manager recorded
  rw [← before]
  refine congrArg (Except.map _) (storedTenant_congr manager recorded fun path resolved => ?_)
  have inside := inDirectory_tenantKey resolved
  have other : path ≠ sites.user := fun same =>
    absurd (inside.eq (same ▸ sites.user_inside)) (by decide)
  exact LocalStorage.lookup_put_ne _ _ other

/-- Creating the new user is the second write and the third. -/
theorem attempted_newcomer :
    attempted answers failure failing
        (createUser draws.userToken.text draws.created tenantId identity.sub identity.email
          identity.name identity.picture role) (consumed draws identity sites, 1) =
      if failing = some 1 then (.error failure, (consumed draws identity sites, 2))
      else if failing = some 2 then
        (.error failure, (saved draws identity tenantId role sites, 3))
      else (.ok (newcomer draws identity tenantId role),
        (indexed draws identity tenantId role sites, 3)) := by
  have index : (consumed draws identity sites).storage.lookup sites.index =
      world.storage.lookup sites.index :=
    world.storage.lookup_put_ne _ (sites.invite_ne (inDirectory_indexKey sites.ofIndex))
  have creates := @attempted_createUser answers failure failing
    (consumed draws identity sites) 1 draws.userToken.text sites.user sites.index
    sites.ofUser sites.ofIndex sites.user_ne_index draws.created tenantId identity.sub
    identity.email identity.name identity.picture role
  rw [index] at creates
  exact creates

/-- Recording the login of the new user is the fourth write. -/
theorem attempted_firstLogin :
    attempted answers failure failing
        (recordLogin draws.loggedIn (newcomer draws identity tenantId role))
        (indexed draws identity tenantId role sites, 3) =
      if failing = some 3 then (.error failure, (indexed draws identity tenantId role sites, 4))
      else (.ok ((newcomer draws identity tenantId role).afterLogin draws.loggedIn),
        (logged draws identity tenantId role sites, 4)) := by
  let user := newcomer draws identity tenantId role
  have own : resolve (userKey user.userId) = .ok sites.user := sites.ofUser
  have logs := @attempted_recordLogin answers failure failing
    (indexed draws identity tenantId role sites) 3 user sites.user own draws.loggedIn
  rw [logs]
  rfl

/-- Enrolling fails with the write of the record or of the index, or with that of the login. -/
theorem attempted_enroll_failed :
    (failing = some 1 →
      attempted answers failure failing (service.enroll draws identity tenantId role)
        (consumed draws identity sites, 1) =
          (.error failure, (consumed draws identity sites, 2))) ∧
    (failing = some 2 →
      attempted answers failure failing (service.enroll draws identity tenantId role)
        (consumed draws identity sites, 1) =
          (.error failure, (saved draws identity tenantId role sites, 3))) ∧
    (failing = some 3 →
      attempted answers failure failing (service.enroll draws identity tenantId role)
        (consumed draws identity sites, 1) =
          (.error failure, (indexed draws identity tenantId role sites, 4))) := by
  unfold AuthService.enroll
  rw [attempted_seq, attempted_newcomer]
  refine ⟨?_, ?_, ?_⟩
  · intro fails
    simp only [fails, if_true]
  · intro fails
    simp only [fails, Option.some.injEq, OfNat.ofNat_ne_one, if_false, if_true]
  · intro fails
    have first : failing ≠ some 1 := by simp [fails]
    have second : failing ≠ some 2 := by simp [fails]
    simp only [if_neg first, if_neg second]
    rw [attempted_seq, attempted_firstLogin]
    simp only [fails, if_true]

/-- Where none of these writes fails, enrolling returns if the tenant is there, and leaves the
documents outside the tenants as the recorded login does. -/
theorem attempted_enroll_ok (first : failing ≠ some 1) (second : failing ≠ some 2)
    (third : failing ≠ some 3)
    (known : activity service.manager (answers.clock .record) world tenantId = .ok (some true)) :
    ∃ response left later,
      attempted answers failure failing (service.enroll draws identity tenantId role)
        (consumed draws identity sites, 1) = (.ok response, (left, later)) ∧
      ∀ path, ¬ InDirectory "tenants" path → left.storage.lookup path =
        (logged draws identity tenantId role sites).storage.lookup path := by
  let last := logged draws identity tenantId role sites
  rcases @attempted_pinOwner answers failure failing service identity last 4 tenantId role with
    ⟨left, later, pinned, frame, same⟩
  have there : activity service.manager (answers.clock .record) left tenantId =
      .ok (some true) :=
    same.trans ((activity_logged service.manager _).trans known)
  obtain ⟨tenant, read⟩ : ∃ tenant, storedTenant service.manager (answers.clock .record) left
      tenantId = .ok tenant := by
    unfold activity at there
    cases read : storedTenant service.manager (answers.clock .record) left tenantId with
    | error exception =>
      rw [read] at there
      cases there
    | ok tenant => exact ⟨tenant, rfl⟩
  have looked : (service.manager.getTenant tenantId).run answers left = (.ok tenant, left) := by
    rw [run_getTenant, read]
  unfold AuthService.enroll
  rw [attempted_seq, attempted_newcomer]
  simp only [if_neg first, if_neg second]
  rw [attempted_seq, attempted_firstLogin]
  simp only [if_neg third]
  rw [attempted_seq, pinned]
  dsimp only
  rw [attempted_bind (quiet_getTenant service.manager tenantId) looked]
  exact ⟨_, left, later, rfl, frame⟩

end Stages

/-- A record among the users that is of a Google account. -/
def HasSub (world : World) (googleSub : String) (path : Path) : Prop :=
  InDirectory "users" path ∧ resolve indexKey ≠ .ok path ∧
    ∃ data, world.storage.lookup path = some data ∧
      data.get? "google_sub" = some (.str googleSub)

/-- There is one user of a Google account, and it has a tenant and a role. -/
def OnlyUser (world : World) (googleSub tenantId : String) (role : UserRole) : Prop :=
  ∃ path, ∃ user : User, user.tenantId = tenantId ∧ user.userRole = role ∧
    user.googleSub = googleSub ∧ world.storage.lookup path = some user.toDict ∧
    ∀ other, HasSub world googleSub other ↔ other = path

/-- A Google account that no user has, with an unused invite to an active tenant. -/
structure Invited (service : AuthService) (world : World) (identity : GoogleIdentity)
    (inviteCode tenantId : String) (role : UserRole) : Prop where
  /-- The index does not have the account. -/
  unindexed : ∃ index, world.storage.readJson indexKey = .ok index ∧
    (index.getD []).getD identity.sub .null = .null
  /-- No record has it. -/
  unknown : ∀ path, ¬ HasSub world identity.sub path
  /-- The code is not empty. -/
  given : inviteCode ≠ ""
  /-- The invite is stored, can be redeemed and offers the role. -/
  invite : ∃ data, world.storage.readJson (inviteKey inviteCode) = .ok (some data) ∧
    Redeemable service data identity.email tenantId ∧
    fieldD asStr data "role" "member" = .ok role.value
  /-- The tenant is active. -/
  active : ∀ recorded, activity service.manager recorded world tenantId = .ok (some true)

/-- A first login is completed, or a second one with the same invite is and leaves one user of the
account, in the tenant and the role of the invite. -/
def Retriable (service : AuthService) (world : World) (identity : GoogleIdentity)
    (inviteCode tenantId : String) (role : UserRole) (answers second : Answers)
    (draws again : LoginDraws) (failure : PyException) (failing : Option Nat) : Prop :=
  let first := attempted answers failure failing
    (service.googleLogin draws identity (some inviteCode)) (world, 0)
  let retried := (service.googleLogin again identity (some inviteCode)).run second first.2.1
  (∃ response, first.1 = .ok (.ok response)) ∨
    (∃ response, retried.1 = .ok (.ok response)) ∧
      OnlyUser retried.2 identity.sub tenantId role

section Retry

variable {service : AuthService} {answers : Answers} {failure : PyException}
  {failing : Option Nat} {draws : LoginDraws} {identity : GoogleIdentity} {world : World}
  {inviteCode tenantId : String} {role : UserRole}

/-- The documents of a first login have paths. -/
theorem Invited.sites (invited : Invited service world identity inviteCode tenantId role)
    (token : HexToken) : ∃ sites : Sites world inviteCode token,
      Redeemable service sites.data identity.email tenantId ∧
      fieldD asStr sites.data "role" "member" = .ok role.value := by
  rcases invited.invite with ⟨data, read, redeemable, offered⟩
  rcases resolve_userKey (isPart_newUser token) with ⟨user, ofUser, -⟩
  rcases resolve_indexKey with ⟨index, ofIndex, -⟩
  unfold LocalStorage.readJson at read
  cases ofCode : resolve (inviteKey inviteCode) with
  | error exception =>
    rw [ofCode] at read
    cases read
  | ok invite =>
    rw [ofCode] at read
    exact ⟨⟨invite, data, user, index, Except.ok.inj read, ofCode, ofUser, ofIndex⟩, redeemable,
      offered⟩

/-- An account that the index does not have is unknown wherever the index is the same. -/
theorem Invited.userOfSub (invited : Invited service world identity inviteCode tenantId role)
    {left : World} (same : ∀ path, resolve indexKey = .ok path →
      left.storage.lookup path = world.storage.lookup path) (recorded : DateTime) :
    userOfSub recorded left identity.sub = .ok none := by
  rcases invited.unindexed with ⟨index, read, absent⟩
  have reads : left.storage.readJson indexKey = .ok index := by
    rw [← read]
    unfold LocalStorage.readJson
    cases resolved : resolve indexKey with
    | error exception => rfl
    | ok path =>
      simp only [Except.map]
      rw [same path resolved]
  unfold Tenants.userOfSub
  rw [reads]
  dsimp only
  rw [absent]

/-- Where the record of the new user is the only change among the users but for the index, the new
user is alone with the account. -/
theorem Invited.onlyUser (invited : Invited service world identity inviteCode tenantId role)
    (sites : Sites world inviteCode draws.userToken) {left : World} {user : User}
    (tenant : user.tenantId = tenantId) (given : user.userRole = role)
    (sub : user.googleSub = identity.sub)
    (stored : left.storage.lookup sites.user = some user.toDict)
    (others : ∀ path, InDirectory "users" path → path ≠ sites.user → path ≠ sites.index →
      left.storage.lookup path = world.storage.lookup path) :
    OnlyUser left identity.sub tenantId role := by
  refine ⟨sites.user, user, tenant, given, sub, stored, fun other => ?_⟩
  constructor
  · rintro ⟨inside, named, data, found, is⟩
    by_contra apart
    have index : other ≠ sites.index := fun same => named (same ▸ sites.ofIndex)
    rw [others other inside apart index] at found
    exact invited.unknown other ⟨inside, named, data, found, is⟩
  · rintro rfl
    have named : resolve indexKey ≠ .ok sites.user := by
      intro same
      exact sites.user_ne_index (Except.ok.inj (same.symm.trans sites.ofIndex))
    have field : user.toDict.get? "google_sub" = some (.str user.googleSub) := rfl
    exact ⟨sites.user_inside, named, user.toDict, stored, sub ▸ field⟩

/-- The first login fails when the write of the invite does. -/
theorem attempted_login_first (invited : Invited service world identity inviteCode tenantId role) :
    attempted answers failure (some 0) (service.googleLogin draws identity (some inviteCode))
      (world, 0) = (.error failure, (world, 1)) := by
  rcases invited.sites draws.userToken with ⟨sites, redeemable, offered⟩
  have unknown : (getUserByGoogleSub identity.sub).run answers world = (.ok none, world) := by
    rw [run_getUserByGoogleSub, invited.userOfSub fun _ _ => rfl]
  have placed : attempted answers failure (some 0)
      (service.place draws identity (some inviteCode)) (world, 0) =
      (.error failure, (world, 1)) := by
    unfold AuthService.place
    rw [if_pos (show (some inviteCode).getD "" ≠ "" from invited.given)]
    exact (attempted_placeInvited sites.ofCode sites.found redeemable offered).trans (if_pos rfl)
  unfold AuthService.googleLogin
  rw [attempted_bind (quiet_getUserByGoogleSub identity.sub) unknown]
  dsimp only
  rw [attempted_seq, placed]

/-- Otherwise it goes as the new user is enrolled. -/
theorem attempted_login_later (invited : Invited service world identity inviteCode tenantId role)
    (later : failing ≠ some 0) :
    ∃ sites : Sites world inviteCode draws.userToken, ∀ outcome left,
      attempted answers failure failing (service.enroll draws identity tenantId role)
        (consumed draws identity sites, 1) = (outcome, left) →
      attempted answers failure failing (service.googleLogin draws identity (some inviteCode))
        (world, 0) = (outcome.map .ok, left) := by
  rcases invited.sites draws.userToken with ⟨sites, redeemable, offered⟩
  refine ⟨sites, ?_⟩
  intro outcome left ran
  have unknown : (getUserByGoogleSub identity.sub).run answers world = (.ok none, world) := by
    rw [run_getUserByGoogleSub, invited.userOfSub fun _ _ => rfl]
  have placed : attempted answers failure failing
      (service.place draws identity (some inviteCode)) (world, 0) =
      (.ok (.ok (tenantId, role)), (consumed draws identity sites, 1)) := by
    unfold AuthService.place
    rw [if_pos (show (some inviteCode).getD "" ≠ "" from invited.given)]
    exact (attempted_placeInvited sites.ofCode sites.found redeemable offered).trans (if_neg later)
  unfold AuthService.googleLogin
  rw [attempted_bind (quiet_getUserByGoogleSub identity.sub) unknown]
  dsimp only
  rw [attempted_seq, placed]
  dsimp only
  rw [attempted_seq, ran]
  cases outcome <;> rfl

/-- Recording the login writes the record of the new user. -/
theorem lookup_logged {sites : Sites world inviteCode draws.userToken} {path : Path}
    (other : path ≠ sites.user) :
    (logged draws identity tenantId role sites).storage.lookup path =
      (indexed draws identity tenantId role sites).storage.lookup path :=
  LocalStorage.lookup_put_ne _ _ other

/-- A login without a failure leaves the new user alone with the account. -/
theorem login_of_invited (invited : Invited service world identity inviteCode tenantId role)
    (first : failing ≠ some 0) (second : failing ≠ some 1) (third : failing ≠ some 2)
    (fourth : failing ≠ some 3) :
    ∃ response left later,
      attempted answers failure failing (service.googleLogin draws identity (some inviteCode))
        (world, 0) = (.ok (.ok response), (left, later)) ∧
      OnlyUser left identity.sub tenantId role := by
  rcases @attempted_login_later service answers failure failing draws identity world inviteCode
    tenantId role invited first with ⟨sites, goes⟩
  rcases @attempted_enroll_ok draws identity world inviteCode tenantId role sites service answers
    failure failing second third fourth (invited.active _) with ⟨response, left, later, ran, frame⟩
  have notTenant : ∀ {path : Path}, InDirectory "users" path → ¬ InDirectory "tenants" path :=
    fun inside other => absurd (inside.eq other) (by decide)
  have stored : (logged draws identity tenantId role sites).storage.lookup sites.user =
      some ((newcomer draws identity tenantId role).afterLogin draws.loggedIn).toDict :=
    LocalStorage.lookup_put_self _ sites.user _
  refine ⟨response, left, later, goes _ _ ran, ?_⟩
  refine invited.onlyUser sites rfl rfl rfl ((frame _ (notTenant sites.user_inside)).trans stored) ?_
  intro path inside user index
  rw [frame path (notTenant inside), lookup_logged user, lookup_indexed inside user index]

/-- A login whose record and index were written is repeated as that of a user. -/
theorem login_of_indexed (invited : Invited service world identity inviteCode tenantId role)
    (sites : Sites world inviteCode draws.userToken) (again : LoginDraws) :
    ∃ response left,
      (service.googleLogin again identity (some inviteCode)).run answers
        (indexed draws identity tenantId role sites) = (.ok (.ok response), left) ∧
      OnlyUser left identity.sub tenantId role := by
  let user := newcomer draws identity tenantId role
  let before := indexed draws identity tenantId role sites
  have own : resolve (userKey user.userId) = .ok sites.user := sites.ofUser
  have stored : storedUser (answers.clock .record) before user.userId = .ok (some user) :=
    storedUser_of_lookup _ own lookup_indexed_user
  have known : userOfSub (answers.clock .record) before identity.sub = .ok (some user) := by
    have named : (grownIndex draws identity tenantId role sites).getD identity.sub .null =
        .str user.userId := by
      unfold grownIndex Dict.getD
      rw [Dict.get?_set_self]
      rfl
    unfold Tenants.userOfSub LocalStorage.readJson
    rw [sites.ofIndex]
    simp only [Except.map, before, lookup_indexed_index, Option.getD_some, named]
    exact stored
  rcases @run_loginExisting service answers again before user rfl sites.user own with
    ⟨left, storage, -, ran⟩
  have active : activity service.manager (answers.clock .record) before tenantId =
      .ok (some true) := (activity_indexed service.manager _).trans (invited.active _)
  obtain ⟨tenant, read, live⟩ : ∃ tenant,
      storedTenant service.manager (answers.clock .record) before tenantId = .ok (some tenant) ∧
      tenant.isActive = true := by
    unfold activity at active
    cases read : storedTenant service.manager (answers.clock .record) before tenantId with
    | error exception =>
      rw [read] at active
      cases active
    | ok found =>
      rw [read] at active
      cases found with
      | none => cases active
      | some tenant => exact ⟨tenant, rfl, Option.some.inj (Except.ok.inj active)⟩
  refine ⟨sessionResponse (user.afterLogin again.loggedIn) tenant, left, ?_, ?_⟩
  · unfold AuthService.googleLogin
    rw [run_bind, run_getUserByGoogleSub, known]
    dsimp only
    rw [ran, show user.tenantId = tenantId from rfl, read]
    simp only [Except.map, sessionReply, live, Bool.true_eq_false, if_false]
  · have alone := @Invited.onlyUser service draws identity world inviteCode tenantId role invited
      sites left (user.afterLogin again.loggedIn) rfl rfl rfl
    apply alone
    · rw [storage]
      exact LocalStorage.lookup_put_self _ sites.user _
    · intro path inside other index
      rw [storage, LocalStorage.lookup_put_ne _ _ other]
      exact lookup_indexed inside other index

/-- A login that has consumed the invite without indexing the user is refused a second time. -/
theorem login_of_consumed (invited : Invited service world identity inviteCode tenantId role)
    (sites : Sites world inviteCode draws.userToken) (again : LoginDraws) {left : World}
    (index : left.storage.lookup sites.index = world.storage.lookup sites.index)
    (invite : left.storage.lookup sites.invite =
      some (UserManager.markUsed sites.data identity.sub draws.redeemed)) :
    (service.googleLogin again identity (some inviteCode)).run answers left =
      (.ok (.error ⟨400, "Invalid or expired invite code."⟩), left) := by
  have used : ((UserManager.markUsed sites.data identity.sub draws.redeemed).getD "used"
      .null).truthy = true := by
    unfold UserManager.markUsed Dict.getD
    rw [Dict.get?_set_ne _ _ (by decide), Dict.get?_set_ne _ _ (by decide), Dict.get?_set_self]
    rfl
  have unknown : userOfSub (answers.clock .record) left identity.sub = .ok none := by
    apply invited.userOfSub
    intro path resolved
    rw [← Except.ok.inj (sites.ofIndex.symm.trans resolved), index]
  unfold AuthService.googleLogin
  rw [run_bind, run_getUserByGoogleSub, unknown]
  dsimp only
  unfold AuthService.place
  rw [if_pos (show (some inviteCode).getD "" ≠ "" from invited.given)]
  unfold AuthService.placeInvited UserManager.redeemInvite
  simp only [run_bind, run_readJson, LocalStorage.readJson, Option.getD_some, sites.ofCode,
    Except.map, invite, used, if_true, run_pure]

/-- A first login that fails with the write of the record or of the index is refused a second
time. -/
theorem Invited.locked_out (invited : Invited service world identity inviteCode tenantId role)
    (second : Answers) (again : LoginDraws) (lost : failing = some 1 ∨ failing = some 2) :
    ¬ Retriable service world identity inviteCode tenantId role answers second draws again failure
      failing := by
  unfold Retriable
  dsimp only
  have later : failing ≠ some 0 := by
    rcases lost with is | is <;> simp [is]
  rcases @attempted_login_later service answers failure failing draws identity world inviteCode
    tenantId role invited later with ⟨sites, goes⟩
  have fails := @attempted_enroll_failed draws identity world inviteCode tenantId role sites
    service answers failure failing
  rcases lost with one | two
  · rw [goes _ _ (fails.1 one)]
    have refused := @login_of_consumed service second draws identity world inviteCode tenantId
      role invited sites again (consumed draws identity sites)
      (lookup_consumed sites.index_inside) (LocalStorage.lookup_put_self _ sites.invite _)
    rw [refused]
    rintro (⟨response, is⟩ | ⟨⟨response, is⟩, -⟩)
    · cases is
    · cases is
  · rw [goes _ _ (fails.2.1 two)]
    have invite : (saved draws identity tenantId role sites).storage.lookup sites.invite =
        some (UserManager.markUsed sites.data identity.sub draws.redeemed) := by
      have apart : sites.invite ≠ sites.user :=
        fun same => sites.invite_ne sites.user_inside same.symm
      exact (LocalStorage.lookup_put_ne _ _ apart).trans
        (LocalStorage.lookup_put_self _ sites.invite _)
    have refused := @login_of_consumed service second draws identity world inviteCode tenantId
      role invited sites again (saved draws identity tenantId role sites)
      (lookup_saved sites.index_inside sites.user_ne_index.symm) invite
    rw [refused]
    rintro (⟨response, is⟩ | ⟨⟨response, is⟩, -⟩)
    · cases is
    · cases is

/-- A first login of which one write may fail is completed or can be repeated exactly when it is
neither the write of the record nor that of the index that fails. -/
theorem login_retriable_iff (invited : Invited service world identity inviteCode tenantId role)
    (second : Answers) (again : LoginDraws) :
    Retriable service world identity inviteCode tenantId role answers second draws again failure
      failing ↔ failing ≠ some 1 ∧ failing ≠ some 2 := by
  by_cases lost : failing = some 1 ∨ failing = some 2
  · refine iff_of_false (invited.locked_out second again lost) fun other => ?_
    exact lost.elim other.1 other.2
  · refine iff_of_true ?_ (not_or.mp lost)
    rcases not_or.mp lost with ⟨one, two⟩
    unfold Retriable
    dsimp only
    by_cases zero : failing = some 0
    · rw [zero, attempted_login_first invited]
      rcases @login_of_invited service second failure none again identity world inviteCode tenantId
        role invited (by simp) (by simp) (by simp) (by simp) with
        ⟨response, left, later, ran, only⟩
      rw [run_of_attempted ran]
      exact Or.inr ⟨⟨response, rfl⟩, only⟩
    · by_cases three : failing = some 3
      · rcases @attempted_login_later service answers failure failing draws identity world
          inviteCode tenantId role invited zero with ⟨sites, goes⟩
        have fails := @attempted_enroll_failed draws identity world inviteCode tenantId role sites
          service answers failure failing
        rw [goes _ _ (fails.2.2 three)]
        rcases @login_of_indexed service second draws identity world inviteCode tenantId role
          invited sites again with ⟨response, left, ran, only⟩
        rw [ran]
        exact Or.inr ⟨⟨response, rfl⟩, only⟩
      · rcases @login_of_invited service answers failure failing draws identity world inviteCode
          tenantId role invited zero one two three with ⟨response, left, later, ran, only⟩
        rw [ran]
        exact Or.inl ⟨response, rfl⟩

end Retry

section Sample

/-- What an invite by the owner of an active tenant leaves. -/
def openWorld : World :=
  ((acmeService.createInvite "code" DateTime.newYear ownerClaims "guest@acme" "member").run
    acmeAnswers createdWorld).2

/-- The invited guest has no user yet, and its tenant is active. -/
theorem invited_openWorld :
    Invited acmeService openWorld guestIdentity "code" "tn_0" .member := by
  rcases storage_createInvite createdWorld with ⟨path, resolved, storage⟩
  rw [← openWorld] at storage
  have invites := inDirectory_inviteKey resolved
  have elsewhere : ∀ directory ∈ ["bronze", "silver", "gold", "runs", "tenants"],
      directory ≠ "users" := by decide
  have tenants : "tenants" ∈ ["bronze", "silver", "gold", "runs", "tenants"] := by decide
  have layers : ∀ layer : Layer,
      layer.name ∈ ["bronze", "silver", "gold", "runs", "tenants"] := by
    intro layer
    cases layer <;> decide
  have noUsers : ∀ other, InDirectory "users" other → openWorld.storage.lookup other = none := by
    intro other inside
    have apart : other ≠ path := fun same => absurd (inside.eq (same ▸ invites)) (by decide)
    rw [storage, LocalStorage.lookup_put_ne _ _ apart]
    apply lookup_none_of_addsIn
      (addsIn_of_writesIn (writesIn_createTenant acmeManager tenants _ _ _ layers))
    · exact fun directory known there => elsewhere directory known (there.eq inside)
    · rfl
  refine ⟨?_, ?_, by decide, ?_, ?_⟩
  · rcases resolve_indexKey with ⟨index, indexed, -⟩
    refine ⟨none, ?_, rfl⟩
    unfold LocalStorage.readJson
    rw [indexed]
    exact congrArg Except.ok (noUsers index (inDirectory_indexKey indexed))
  · rintro other ⟨inside, -, data, found, -⟩
    rw [noUsers other inside] at found
    cases found
  · refine ⟨acmeService.users.inviteData "code" DateTime.newYear "tn_0" "guest@acme" .member, ?_,
      ⟨rfl, ⟨"guest@acme", rfl, rfl⟩, rfl, "member", .member, rfl, rfl⟩, rfl⟩
    unfold LocalStorage.readJson
    rw [resolved, storage]
    exact congrArg Except.ok (LocalStorage.lookup_put_self _ path _)
  · intro recorded
    rcases run_createTenant_ok acmeManager_laws "Platform Owner" "owner@acme" .vip
      (show IsPart (newTenant "Platform Owner" "owner@acme" .vip acmeAnswers).tenantId.toList by
        decide) (by decide) { storage := .empty } with ⟨left, created, record⟩
    have start : createdWorld = left := by rw [createdWorld, created]
    rcases record.path with ⟨own, resolvedOwn, found⟩
    rw [← start] at found
    have apart : own ≠ path := fun same => absurd
      ((inDirectory_tenantKey resolvedOwn).eq (same ▸ invites)) (by decide)
    have kept : openWorld.storage.lookup own = createdWorld.storage.lookup own := by
      rw [storage, LocalStorage.lookup_put_ne _ _ apart]
    exact activity_of_lookup acmeManager recorded resolvedOwn (kept.trans found)

/-- What a write to a full disk raises. -/
def diskFull : PyException := .other "OSError" "No space left on device"

/-- The guest can repeat a login whose first write failed. -/
theorem guest_retries :
    Retriable acmeService openWorld guestIdentity "code" "tn_0" .member acmeAnswers acmeAnswers
      acmeDraws acmeDraws diskFull (some 0) :=
  (login_retriable_iff invited_openWorld acmeAnswers acmeDraws).mpr (by decide)

/-- A guest whose index could not be written is neither a user nor invited any more. -/
theorem guest_locked_out :
    Invited acmeService openWorld guestIdentity "code" "tn_0" .member ∧
      ¬ Retriable acmeService openWorld guestIdentity "code" "tn_0" .member acmeAnswers
        acmeAnswers acmeDraws acmeDraws diskFull (some 2) :=
  ⟨invited_openWorld, invited_openWorld.locked_out acmeAnswers acmeDraws (Or.inr rfl)⟩

end Sample

end VelaFlow.Api
