import VelaFlow.Api.Auth
import VelaFlow.Queue.WorkerRuns
import VelaFlow.Tenant.Erasure
import VelaFlow.Tenant.UserRecords

/-!
# What a login token vouches for

A token of `google_login` names a tenant and a user. For a user that exists, the route checks both
before it issues the token. For a new user it takes the tenant from an invite or from the record
of the platform owner and never looks whether that tenant is still there and active.
-/
namespace VelaFlow.Api

open Process Queue Storage Tenants
open Program (Only)

section Activity

variable (manager : TenantManager) (recorded : DateTime)

/-- Whether a stored tenant is active; none when there is no record. -/
def activity (world : World) (tenantId : String) : Except PyException (Option Bool) :=
  (storedTenant manager recorded world tenantId).map (Option.map Tenant.isActive)

/-- What is stored of a tenant depends on its document alone. -/
theorem storedTenant_congr {before after : World} {tenantId : String}
    (same : ∀ path, resolve (tenantKey tenantId) = .ok path →
      after.storage.lookup path = before.storage.lookup path) :
    storedTenant manager recorded after tenantId =
      storedTenant manager recorded before tenantId := by
  unfold storedTenant LocalStorage.readJson
  cases resolved : resolve (tenantKey tenantId) with
  | error exception => rfl
  | ok path =>
    simp only [Except.map]
    rw [same path resolved]

/-- What writes elsewhere leaves a tenant as it was. -/
theorem storedTenant_of_writesIn {α : Type} {routine : Routine α} {directories : List String}
    (writes : Only (Action.WritesIn directories) routine) (elsewhere : "tenants" ∉ directories)
    (answers : Answers) (world : World) (tenantId : String) :
    storedTenant manager recorded (routine.run answers world).2 tenantId =
      storedTenant manager recorded world tenantId := by
  apply storedTenant_congr
  intro path resolved
  apply lookup_of_writesIn writes
  intro directory known inside
  have same : directory = "tenants" := inside.eq (inDirectory_tenantKey resolved)
  exact elsewhere (same ▸ known)

/-- A saved tenant is as active as it was when it was saved. -/
theorem activity_of_lookup {world : World} {tenantId : String} {path : Path} {tenant : Tenant}
    {sha256 : String → String} {nonce : String}
    (resolved : resolve (tenantKey tenantId) = .ok path)
    (found : world.storage.lookup path = some (toDict manager.encryptor sha256 nonce tenant)) :
    activity manager recorded world tenantId = .ok (some tenant.isActive) := by
  have kept : ∀ one : Tenant, one.postInit.isActive = one.isActive := by
    intro one
    unfold Tenant.postInit
    split <;> rfl
  unfold activity storedTenant LocalStorage.readJson
  rw [resolved]
  simp only [Except.map, found, fromDict_toDict, Option.map_some, kept]

/-- Binding an owner writes at most the record it found. -/
theorem storage_bindOwnerSub (answers : Answers) (world : World) (tenantId googleSub : String) :
    let left := ((manager.bindOwnerSub tenantId googleSub).run answers world).2
    left.storage = world.storage ∨ ∃ tenant bound path,
      storedTenant manager (answers.clock .record) world tenantId = .ok (some tenant) ∧
      bound.isActive = tenant.isActive ∧
      left.storage = world.storage.put path
        (toDict manager.encryptor manager.sha256 (answers.nonce "api_key") bound) := by
  intro left
  have shape : left = ((manager.bindOwnerSub tenantId googleSub).run answers world).2 := rfl
  unfold TenantManager.bindOwnerSub at shape
  by_cases empty : googleSub = ""
  · rw [if_pos empty] at shape
    exact Or.inl (congrArg World.storage shape)
  · rw [if_neg empty, run_bind, run_getTenant] at shape
    cases read : storedTenant manager (answers.clock .record) world tenantId with
    | error exception =>
      rw [read] at shape
      exact Or.inl (congrArg World.storage shape)
    | ok found =>
      rw [read] at shape
      cases found with
      | none => exact Or.inl (congrArg World.storage shape)
      | some tenant =>
        dsimp only at shape
        by_cases other : tenant.ownerGoogleSub ≠ "" ∧ tenant.ownerGoogleSub ≠ googleSub
        · rw [if_pos other] at shape
          exact Or.inl (congrArg World.storage shape)
        · rw [if_neg other] at shape
          by_cases unbound : tenant.ownerGoogleSub = ""
          · rw [if_pos unbound, run_bind] at shape
            let bound : Tenant := { tenant with ownerGoogleSub := googleSub }
            cases resolved : resolve (tenantKey bound.tenantId) with
            | error exception =>
              have fails : (manager.saveTenant bound).run answers world =
                  (.error exception, world) := by
                unfold TenantManager.saveTenant
                simp only [run_bind, run_drawNonce, run_writeJson,
                  World.writeJson_of_error world resolved]
              rw [show (manager.saveTenant { tenant with ownerGoogleSub := googleSub }).run answers
                world = _ from fails] at shape
              exact Or.inl (congrArg World.storage shape)
            | ok path =>
              rcases @run_saveTenant manager answers bound path resolved world with
                ⟨written, saved, storage⟩
              rw [show (manager.saveTenant { tenant with ownerGoogleSub := googleSub }).run answers
                world = _ from saved] at shape
              have put := (congrArg World.storage shape).trans storage
              exact Or.inr ⟨tenant, bound, path, rfl, rfl, put⟩
          · rw [if_neg unbound] at shape
            exact Or.inl (congrArg World.storage shape)

/-- Binding an owner leaves a tenant as active as it was. -/
theorem activity_bindOwnerSub (answers : Answers) (world : World) (tenantId googleSub : String) :
    activity manager (answers.clock .record)
        ((manager.bindOwnerSub tenantId googleSub).run answers world).2 tenantId =
      activity manager (answers.clock .record) world tenantId := by
  rcases storage_bindOwnerSub manager answers world tenantId googleSub with
    same | ⟨tenant, bound, path, read, active, storage⟩
  · exact congrArg (Except.map _) (storedTenant_congr manager _ fun path _ => by rw [same])
  · by_cases here : resolve (tenantKey tenantId) = .ok path
    · have before : activity manager (answers.clock .record) world tenantId =
          .ok (some tenant.isActive) := by
        unfold activity
        rw [read]
        rfl
      rw [before, ← active]
      apply activity_of_lookup manager _ here
      rw [storage]
      exact world.storage.lookup_put_self path _
    · refine congrArg (Except.map _) (storedTenant_congr manager _ fun other found => ?_)
      have apart : other ≠ path := fun same => here (same ▸ found)
      rw [storage]
      exact world.storage.lookup_put_ne _ apart

end Activity

section Conditions

variable (service : AuthService) (recorded : DateTime) (world : World)

/-- What a token vouches for: its tenant exists and is active, and its user is active and belongs
to that tenant. -/
def Backed (claims : TokenClaims) : Prop :=
  (∃ tenant, storedTenant service.manager recorded world claims.tenantId = .ok (some tenant) ∧
    tenant.isActive = true) ∧
  ∃ user, storedUser recorded world claims.userId = .ok (some user) ∧ user.isActive = true ∧
    user.tenantId = claims.tenantId

/-- A tenant that is neither missing nor inactive. One whose record cannot be read is not refused
here: reading it raises. -/
def Hostable (tenantId : String) : Prop :=
  activity service.manager recorded world tenantId ≠ .ok none ∧
    activity service.manager recorded world tenantId ≠ .ok (some false)

/-- An unused invite of an email to a tenant. -/
def Redeemable (data : Dict) (email tenantId : String) : Prop :=
  (data.getD "used" .null).truthy = false ∧
  (∃ invited, fieldD asStr data "email" "" = .ok invited ∧
    service.users.lower invited = service.users.lower email) ∧
  field asStr data "tenant_id" = .ok tenantId ∧
  ∃ value role, fieldD asStr data "role" "member" = .ok value ∧ readUserRole value = .ok role

/-- A tenant that a new user is put in because the storage names it: in the invite that the login
gives, or else in the record of the platform owner. -/
def Places (answers : Answers) (identity : GoogleIdentity) (inviteCode : Option String)
    (tenantId : String) : Prop :=
  if inviteCode.getD "" ≠ "" then
    ∃ data, world.storage.readJson (inviteKey (inviteCode.getD "")) = .ok (some data) ∧
      Redeemable service data identity.email tenantId
  else
    service.isPlatformOwner identity.email = true ∧
      ∃ tenants tenant, (service.manager.listTenants.run answers world).1 = .ok tenants ∧
        tenants.find? (fun tenant => service.isPlatformOwner tenant.email) = some tenant ∧
        tenant.tenantId = tenantId

/-- What a login needs of the storage. An active user that can be saved has the identifier of its
tenant as the tenant's record has it, and a new user is put in no tenant that is missing or
inactive. -/
def SafeLogin (answers : Answers) (identity : GoogleIdentity) (inviteCode : Option String) :
    Prop :=
  (∀ user path tenant,
    userOfSub (answers.clock .record) world identity.sub = .ok (some user) →
    user.isActive = true → resolve (userKey user.userId) = .ok path →
    storedTenant service.manager (answers.clock .record) world user.tenantId = .ok (some tenant) →
    tenant.isActive = true → tenant.tenantId = user.tenantId) ∧
  (userOfSub (answers.clock .record) world identity.sub = .ok none →
    ∀ tenantId, Places service world answers identity inviteCode tenantId →
      Hostable service (answers.clock .record) world tenantId)

end Conditions

section Login

variable {service : AuthService} {answers : Answers} {draws : LoginDraws}
  {identity : GoogleIdentity}

/-- The file of a new user has a plain name. -/
theorem isPart_newUser (token : HexToken) :
    IsPart ("usr_" ++ token.text ++ ".json").toList := by
  have hex : ∀ character ∈ token.text.toList, isHexDigit character = true :=
    List.all_eq_true.mp token.digits
  have plain : ∀ mark, isHexDigit mark = false → mark ∉ "usr_".toList → mark ∉ ".json".toList →
      mark ∉ ("usr_" ++ token.text ++ ".json").toList := by
    intro mark other before after inside
    rw [String.toList_append, String.toList_append, List.mem_append, List.mem_append] at inside
    rcases inside with (inside | inside) | inside
    · exact before inside
    · have is := hex mark inside
      rw [other] at is
      cases is
    · exact after inside
  have first : ("usr_" ++ token.text ++ ".json").toList.head? = some 'u' := by simp
  refine ⟨?_, ?_, ?_, plain '/' (by decide) (by decide) (by decide),
    plain '\\' (by decide) (by decide) (by decide)⟩
  all_goals
    intro same
    rw [same] at first
    cases first

/-- Pinning an owner returns, touches only tenants, and leaves each as active as it was. -/
theorem run_pinOwner (world : World) (tenantId : String) (userRole : UserRole) :
    ∃ left, (service.pinOwner identity tenantId userRole).run answers world = (.ok (), left) ∧
      (∀ path, ¬ InDirectory "tenants" path →
        left.storage.lookup path = world.storage.lookup path) ∧
      activity service.manager (answers.clock .record) left tenantId =
        activity service.manager (answers.clock .record) world tenantId := by
  unfold AuthService.pinOwner
  by_cases elevated : userRole.elevated = true
  · rw [if_pos elevated, run_tryCatch, run_bind]
    have writes := writesIn_bindOwnerSub service.manager tenantId
      (show "tenants" ∈ ["tenants"] from List.mem_cons_self) identity.sub
    have frame : ∀ path, ¬ InDirectory "tenants" path →
        ((service.manager.bindOwnerSub tenantId identity.sub).run answers
          world).2.storage.lookup path = world.storage.lookup path := by
      intro path elsewhere
      apply lookup_of_writesIn writes
      intro directory known
      rw [List.mem_singleton.mp known]
      exact elsewhere
    have same := activity_bindOwnerSub service.manager answers world tenantId identity.sub
    cases done : (service.manager.bindOwnerSub tenantId identity.sub).run answers world with
    | mk outcome left =>
      rw [done] at frame same
      cases outcome with
      | ok bound => exact ⟨left, rfl, frame, same⟩
      | error exception => exact ⟨left, rfl, frame, same⟩
  · rw [if_neg elevated]
    exact ⟨world, rfl, fun _ _ => rfl, rfl⟩

/-- A token is backed exactly when its tenant is active, if its user is its own. -/
theorem backed_iff {recorded : DateTime} {world : World} {claims : TokenClaims} {user : User}
    (stored : storedUser recorded world claims.userId = .ok (some user))
    (active : user.isActive = true) (own : user.tenantId = claims.tenantId) :
    Backed service recorded world claims ↔
      activity service.manager recorded world claims.tenantId = .ok (some true) := by
  unfold Backed activity
  constructor
  · rintro ⟨⟨tenant, read, live⟩, -⟩
    rw [read, ← live]
    rfl
  · intro live
    refine ⟨?_, user, stored, active, own⟩
    cases read : storedTenant service.manager recorded world claims.tenantId with
    | error exception =>
      rw [read] at live
      cases live
    | ok found =>
      rw [read] at live
      cases found with
      | none => cases live
      | some tenant => exact ⟨tenant, rfl, Option.some.inj (Except.ok.inj live)⟩

/-- What a new user of a tenant is answered. -/
def newResponse (tenantId : String) (user : User) (tenant : Option Tenant) :
    GoogleAuthResponse where
  accessToken :=
    { tenantId, role := (tenant.map Tenant.role).getD "free", email := user.email,
      userId := user.userId, userRole := user.userRole.value }
  tenantId := tenantId
  userId := user.userId
  userRole := user.userRole.value
  isNewUser := true

/-- Enrolling stores an active user of the tenant, leaves the tenant as active as it was, and
answers unless the tenant's record cannot be read. -/
theorem run_enroll (world : World) (tenantId : String) (userRole : UserRole) :
    ∃ left user, user.isActive = true ∧ user.tenantId = tenantId ∧
      storedUser (answers.clock .record) left user.userId = .ok (some user) ∧
      activity service.manager (answers.clock .record) left tenantId =
        activity service.manager (answers.clock .record) world tenantId ∧
      (service.enroll draws identity tenantId userRole).run answers world =
        match storedTenant service.manager (answers.clock .record) left tenantId with
        | .error exception => (.error exception, left)
        | .ok tenant => (.ok (newResponse tenantId user tenant), left) := by
  let user := newUser draws.userToken.text draws.created tenantId identity.sub identity.email
    identity.name identity.picture userRole
  have created := @run_createUser answers world draws.userToken.text
    (isPart_newUser draws.userToken) draws.created tenantId identity.sub identity.email
    identity.name identity.picture userRole
  rcases created with ⟨one, path, index, created, resolved, indexed, apart, storedOne⟩
  rcases @run_recordLogin answers one user path resolved draws.loggedIn with
    ⟨two, logged, storedTwo⟩
  rcases @run_pinOwner service answers identity two tenantId userRole with
    ⟨three, pinned, frame, same⟩
  have inUsers : InDirectory "users" path := inDirectory_userKey resolved
  have notTenants : ¬ InDirectory "tenants" path := by
    intro inside
    exact absurd (inside.eq inUsers) (by decide)
  have found : three.storage.lookup path = some (user.afterLogin draws.loggedIn).toDict := by
    rw [frame path notTenants, storedTwo, LocalStorage.lookup_put_self]
  have stored := @storedUser_of_lookup three user.userId path (user.afterLogin draws.loggedIn)
    (answers.clock .record) resolved found
  refine ⟨three, user.afterLogin draws.loggedIn, rfl, rfl, stored, ?_, ?_⟩
  · rw [same]
    refine congrArg (Except.map _) (storedTenant_congr service.manager _ fun other at_ => ?_)
    have inTenants := inDirectory_tenantKey at_
    have notPath : other ≠ path := fun is => notTenants (is ▸ inTenants)
    have notIndex : other ≠ index := by
      intro is
      have inIndex : InDirectory "users" other := is ▸ inDirectory_indexKey indexed
      exact absurd (inIndex.eq inTenants) (by decide)
    rw [storedTwo, LocalStorage.lookup_put_ne _ _ notPath, storedOne,
      LocalStorage.lookup_put_ne _ _ notIndex, LocalStorage.lookup_put_ne _ _ notPath]
  · unfold AuthService.enroll
    rw [run_bind, created]
    dsimp only
    rw [run_bind, logged]
    dsimp only
    rw [run_bind, pinned]
    dsimp only
    rw [run_bind, run_getTenant]
    cases storedTenant service.manager (answers.clock .record) three tenantId <;> rfl

/-- A new user gets only backed tokens exactly when the tenant can host. -/
theorem enroll_backed_iff (world : World) (tenantId : String) (userRole : UserRole) :
    (∀ response, ((service.enroll draws identity tenantId userRole).run answers world).1 =
        .ok response →
      Backed service (answers.clock .record)
        ((service.enroll draws identity tenantId userRole).run answers world).2
        response.accessToken) ↔
      Hostable service (answers.clock .record) world tenantId := by
  rcases @run_enroll service answers draws identity world tenantId userRole with
    ⟨left, user, active, own, stored, same, ran⟩
  have backed : ∀ tenant, Backed service (answers.clock .record) left
      (newResponse tenantId user tenant).accessToken ↔
        activity service.manager (answers.clock .record) left tenantId = .ok (some true) :=
    fun tenant => backed_iff stored active own
  unfold Hostable
  rw [ran, ← same]
  cases read : storedTenant service.manager (answers.clock .record) left tenantId with
  | error exception =>
    have unread : activity service.manager (answers.clock .record) left tenantId =
        .error exception := by
      unfold activity
      rw [read]
      rfl
    simp [unread]
  | ok tenant =>
    have known : activity service.manager (answers.clock .record) left tenantId =
        .ok (tenant.map Tenant.isActive) := by
      unfold activity
      rw [read]
      rfl
    simp only [Except.ok.injEq, forall_eq', backed, known]
    cases tenant with
    | none => simp
    | some tenant => cases tenant.isActive <;> simp

/-- What a user that exists is answered. -/
def sessionResponse (user : User) (tenant : Tenant) : GoogleAuthResponse where
  accessToken :=
    { tenantId := tenant.tenantId, role := tenant.role, email := user.email,
      userId := user.userId, userRole := user.userRole.value }
  tenantId := tenant.tenantId
  userId := user.userId
  userRole := user.userRole.value

/-- The answer to a user that exists, by its tenant's record. -/
def sessionReply (user : User) : Option Tenant → Reply GoogleAuthResponse
  | none => .error ⟨403, "Tenant deactivated"⟩
  | some tenant =>
    if tenant.isActive = false then .error ⟨403, "Tenant deactivated"⟩
    else .ok (sessionResponse user tenant)

/-- The login of an active user that can be saved saves it, leaves every tenant as it was, and
answers by the tenant's record. -/
theorem run_loginExisting (world : World) {existing : User} (active : existing.isActive = true)
    {path : Path} (resolved : resolve (userKey existing.userId) = .ok path) :
    let user := existing.afterLogin draws.loggedIn
    ∃ left, left.storage = world.storage.put path user.toDict ∧
      (∀ tenantId, storedTenant service.manager (answers.clock .record) left tenantId =
        storedTenant service.manager (answers.clock .record) world tenantId) ∧
      (service.loginExisting draws existing).run answers world =
        ((storedTenant service.manager (answers.clock .record) world existing.tenantId).map
          (sessionReply user), left) := by
  intro user
  rcases @run_recordLogin answers world existing path resolved draws.loggedIn with
    ⟨left, logged, storage⟩
  have tenants : ∀ tenantId,
      storedTenant service.manager (answers.clock .record) left tenantId =
        storedTenant service.manager (answers.clock .record) world tenantId := by
    intro tenantId
    have same := storedTenant_of_writesIn service.manager (answers.clock .record)
      (writesIn_recordLogin draws.loggedIn existing) (by decide) answers world tenantId
    rw [logged] at same
    exact same
  have notOff : ¬ existing.isActive = false := by simp [active]
  refine ⟨left, storage, tenants, ?_⟩
  unfold AuthService.loginExisting
  rw [if_neg notOff, run_bind, logged]
  dsimp only
  rw [run_bind, run_getTenant, tenants]
  rw [show (existing.afterLogin draws.loggedIn).tenantId = existing.tenantId from rfl]
  cases storedTenant service.manager (answers.clock .record) world existing.tenantId with
  | error exception => rfl
  | ok tenant =>
    cases tenant with
    | none => rfl
    | some tenant => cases live : tenant.isActive <;> simp [live, Except.map, sessionReply,
        sessionResponse, user]

/-- A user that exists gets only backed tokens exactly when the tenant's record has the identifier
that the user has of it. -/
theorem loginExisting_backed_iff (world : World) (existing : User) :
    (∀ response, ((service.loginExisting draws existing).run answers world).1 =
        .ok (.ok response) →
      Backed service (answers.clock .record)
        ((service.loginExisting draws existing).run answers world).2 response.accessToken) ↔
      ∀ path tenant, existing.isActive = true → resolve (userKey existing.userId) = .ok path →
        storedTenant service.manager (answers.clock .record) world existing.tenantId =
          .ok (some tenant) →
        tenant.isActive = true → tenant.tenantId = existing.tenantId := by
  by_cases active : existing.isActive = true
  · cases resolved : resolve (userKey existing.userId) with
    | error exception =>
      have raises : (service.loginExisting draws existing).run answers world =
          (.error exception, world) := by
        unfold AuthService.loginExisting
        rw [if_neg (by simp [active]), run_bind, run_recordLogin_error resolved]
      rw [raises]
      simp
    | ok path =>
      rcases @run_loginExisting service answers draws world existing active path resolved with
        ⟨left, storage, tenants, ran⟩
      have found : left.storage.lookup path =
          some (existing.afterLogin draws.loggedIn).toDict := by
        rw [storage, LocalStorage.lookup_put_self]
      have stored := @storedUser_of_lookup left existing.userId path
        (existing.afterLogin draws.loggedIn) (answers.clock .record) resolved found
      have userTenant : (existing.afterLogin draws.loggedIn).tenantId = existing.tenantId := rfl
      rw [ran]
      cases read : storedTenant service.manager (answers.clock .record) world
          existing.tenantId with
      | error exception => simp [Except.map]
      | ok tenant =>
        cases tenant with
        | none => simp [Except.map, sessionReply]
        | some tenant =>
          by_cases live : tenant.isActive = true
          · have backed : Backed service (answers.clock .record) left
                (sessionResponse (existing.afterLogin draws.loggedIn) tenant).accessToken ↔
                  tenant.tenantId = existing.tenantId := by
              constructor
              · rintro ⟨-, again, found, -, own⟩
                have same : again = existing.afterLogin draws.loggedIn :=
                  Option.some.inj (Except.ok.inj (found.symm.trans stored))
                rw [same, userTenant] at own
                exact own.symm
              · intro same
                apply (@backed_iff service (answers.clock .record) left
                  (sessionResponse (existing.afterLogin draws.loggedIn) tenant).accessToken _ stored active
                  (userTenant.trans same.symm)).mpr
                have known : activity service.manager (answers.clock .record) left
                    existing.tenantId = .ok (some true) := by
                  unfold activity
                  rw [tenants, read, ← live]
                  rfl
                rw [← same] at known
                exact known
            simp only [Except.map, sessionReply, live, Bool.true_eq_false, if_false,
              Except.ok.injEq, forall_eq', backed, Option.some.injEq]
            constructor
            · rintro same _ _ - - rfl -
              exact same
            · intro all
              exact all path tenant active rfl rfl live
          · simp [Except.map, sessionReply, live]
  · simp [AuthService.loginExisting, active]

/-- Placing by an invite writes only invites. -/
theorem writesIn_placeInvited (inviteCode : String) :
    Only (Action.WritesIn ["invites"]) (service.placeInvited draws identity inviteCode) := by
  unfold AuthService.placeInvited
  refine Only.bind (writesIn_redeemInvite _ _ _ _ _) fun invite => ?_
  cases invite with
  | none => exact Only.pure _
  | some invite =>
    refine Only.bind (Only.lift _) fun tenantId => Only.bind (Only.lift _) fun value => ?_
    exact Only.bind (Only.lift _) fun role => Only.pure _

/-- An invite gives a place exactly when it is stored and can be redeemed. -/
theorem placeInvited_iff (world : World) (inviteCode tenantId : String) :
    (∃ role, ((service.placeInvited draws identity inviteCode).run answers world).1 =
        .ok (.ok (tenantId, role))) ↔
      ∃ data, world.storage.readJson (inviteKey inviteCode) = .ok (some data) ∧
        Redeemable service data identity.email tenantId := by
  unfold AuthService.placeInvited UserManager.redeemInvite
  simp only [run_bind, run_readJson]
  cases read : world.storage.readJson (inviteKey inviteCode) with
  | error exception => simp
  | ok found =>
    cases found with
    | none => simp
    | some data =>
      have resolved : ∃ path, resolve (inviteKey inviteCode) = .ok path := by
        unfold LocalStorage.readJson at read
        cases at_ : resolve (inviteKey inviteCode) with
        | error exception =>
          rw [at_] at read
          cases read
        | ok path => exact ⟨path, rfl⟩
      rcases resolved with ⟨path, resolved⟩
      have kept : ∀ key, key ≠ "used" → key ≠ "redeemed_by" → key ≠ "redeemed_at" →
          (UserManager.markUsed data identity.sub draws.redeemed).get? key = data.get? key := by
        intro key one two three
        unfold UserManager.markUsed
        rw [Dict.get?_set_ne _ _ three, Dict.get?_set_ne _ _ two, Dict.get?_set_ne _ _ one]
      have tenantField : field asStr (UserManager.markUsed data identity.sub draws.redeemed)
          "tenant_id" = field asStr data "tenant_id" := by
        unfold field
        rw [kept _ (by decide) (by decide) (by decide)]
      have roleField : fieldD asStr (UserManager.markUsed data identity.sub draws.redeemed)
          "role" "member" = fieldD asStr data "role" "member" := by
        unfold fieldD
        rw [kept _ (by decide) (by decide) (by decide)]
      simp only [Except.ok.injEq, Option.some.injEq, exists_eq_left']
      unfold Redeemable
      by_cases used : (data.getD "used" .null).truthy = true
      · simp [used]
      · simp only [used, Bool.false_eq_true, if_false, run_bind, run_lift, true_and]
        cases invited : fieldD asStr data "email" "" with
        | error exception => simp
        | ok email =>
          by_cases same : service.users.lower email = service.users.lower identity.email
          · simp only [same, ne_eq, not_true, if_false, run_bind, run_writeJson,
              World.writeJson_of_resolve world resolved, run_pure, run_lift, tenantField, roleField]
            cases field asStr data "tenant_id" with
            | error exception => simp
            | ok placed =>
              cases fieldD asStr data "role" "member" with
              | error exception => simp
              | ok value =>
                cases role : readUserRole value with
                | error exception => simp [role]
                | ok role => simp [role, same, eq_comm]
          · simp [same]

/-- A tenant that was just created is there and active. -/
theorem activity_createTenant {world left : World} {name email : String} {tier : TenantTier}
    {tenant : Tenant}
    (created : (service.manager.createTenant name email tier).run answers world =
      (.ok tenant, left)) :
    activity service.manager (answers.clock .record) left tenant.tenantId = .ok (some true) := by
  unfold TenantManager.createTenant at created
  simp only [run_bind, run_tokenHex, run_tokenUrlsafe, run_now] at created
  cases wrote : (TenantManager.writePartitions ("tn_" ++ answers.tokenHex)
      [.bronze, .silver, .gold, .runs]).run answers world with
  | mk outcome middle =>
    rw [wrote] at created
    cases outcome with
    | error exception => cases created
    | ok value =>
      dsimp only at created
      let record := newTenant name email tier answers
      cases resolved : resolve (tenantKey record.tenantId) with
      | error exception =>
        have fails : (service.manager.saveTenant record).run answers middle =
            (.error exception, middle) := by
          unfold TenantManager.saveTenant
          simp only [run_bind, run_drawNonce, run_writeJson,
            World.writeJson_of_error middle resolved]
        unfold record newTenant at fails
        rw [fails] at created
        cases created
      | ok path =>
        rcases @run_saveTenant service.manager answers record path resolved middle with
          ⟨written, saved, storage⟩
        have found : written.storage.lookup path = some (toDict service.manager.encryptor
            service.manager.sha256 (answers.nonce "api_key") record) := by
          rw [storage]
          exact middle.storage.lookup_put_self path _
        unfold record newTenant at saved
        rw [saved] at created
        rcases Prod.mk.inj created with ⟨same, rfl⟩
        have own : tenant = record := (Except.ok.inj same).symm
        rw [own]
        exact activity_of_lookup service.manager (answers.clock .record) resolved found

/-- Placing the platform owner leaves the storage alone when it lists an owner tenant, and gives an
active tenant when it creates one. -/
theorem run_placeOwner (world : World) :
    (∃ tenants tenant left, (service.manager.listTenants.run answers world).1 = .ok tenants ∧
      tenants.find? (fun tenant => service.isPlatformOwner tenant.email) = some tenant ∧
      left.storage = world.storage ∧
      (service.placeOwner identity).run answers world =
        (.ok (tenant.tenantId, .owner), left)) ∨
    (∀ tenants tenant, (service.manager.listTenants.run answers world).1 = .ok tenants →
      tenants.find? (fun tenant => service.isPlatformOwner tenant.email) ≠ some tenant) ∧
    ∀ tenantId role left, (service.placeOwner identity).run answers world =
      (.ok (tenantId, role), left) →
      activity service.manager (answers.clock .record) left tenantId = .ok (some true) := by
  unfold AuthService.placeOwner
  rw [run_bind]
  have quiet := storage_of_quiet (quiet_listTenants service.manager) answers world
  cases listed : service.manager.listTenants.run answers world with
  | mk outcome left =>
    rw [listed] at quiet
    cases outcome with
    | error exception =>
      exact Or.inr ⟨fun _ _ is => (nomatch is), fun _ _ _ is => (nomatch is)⟩
    | ok tenants =>
      dsimp only
      cases found : tenants.find? (fun tenant => service.isPlatformOwner tenant.email) with
      | some tenant => exact Or.inl ⟨tenants, tenant, left, rfl, found, quiet, rfl⟩
      | none =>
        refine Or.inr ⟨?_, ?_⟩
        · rintro others tenant same some
          obtain rfl := Except.ok.inj same
          rw [found] at some
          cases some
        · intro tenantId role final is
          dsimp only at is
          rw [run_bind] at is
          cases created : (service.manager.createTenant "Platform Owner" identity.email .vip).run
              answers left with
          | mk outcome last =>
            rw [created] at is
            cases outcome with
            | error exception => cases is
            | ok tenant =>
              rcases Prod.mk.inj is with ⟨same, rfl⟩
              rcases Prod.mk.inj (Except.ok.inj same) with ⟨rfl, -⟩
              exact activity_createTenant created

/-- The place of a new user is the one the storage names, with every tenant as it was; or the
storage names none, and the place is a tenant that was just created. -/
theorem run_place (world left : World) (inviteCode : Option String) (tenantId : String)
    (role : UserRole)
    (placed : (service.place draws identity inviteCode).run answers world =
      (.ok (.ok (tenantId, role)), left)) :
    (Places service world answers identity inviteCode tenantId ∧
      activity service.manager (answers.clock .record) left tenantId =
        activity service.manager (answers.clock .record) world tenantId) ∨
    (∀ other, ¬ Places service world answers identity inviteCode other) ∧
      activity service.manager (answers.clock .record) left tenantId = .ok (some true) := by
  unfold AuthService.place at placed
  unfold Places
  by_cases given : inviteCode.getD "" ≠ ""
  · rw [if_pos given] at placed
    simp only [if_pos given]
    refine Or.inl ⟨?_, ?_⟩
    · apply (@placeInvited_iff service answers draws identity world _ tenantId).mp
      exact ⟨role, congrArg Prod.fst placed⟩
    · have same := storedTenant_of_writesIn service.manager (answers.clock .record)
        (@writesIn_placeInvited service draws identity (inviteCode.getD "")) (by decide) answers
        world tenantId
      rw [placed] at same
      exact congrArg (Except.map _) same
  · rw [if_neg given] at placed
    simp only [if_neg given]
    by_cases owner : service.isPlatformOwner identity.email = true
    · rw [if_pos owner, run_bind] at placed
      have ran : (service.placeOwner identity).run answers world = (.ok (tenantId, role), left) := by
        cases done : (service.placeOwner identity).run answers world with
        | mk outcome last =>
          rw [done] at placed
          cases outcome with
          | error exception => cases placed
          | ok place =>
            rcases Prod.mk.inj placed with ⟨same, rfl⟩
            rw [Except.ok.inj (Except.ok.inj same)]
      rcases @run_placeOwner service answers identity world with
        ⟨tenants, tenant, last, listed, found, storage, same⟩ | ⟨none, live⟩
      · rcases Prod.mk.inj (same.symm.trans ran) with ⟨place, rfl⟩
        rcases Prod.mk.inj (Except.ok.inj place) with ⟨rfl, -⟩
        refine Or.inl ⟨⟨owner, tenants, tenant, listed, found, rfl⟩, ?_⟩
        exact congrArg (Except.map _) (storedTenant_congr service.manager _
          fun path _ => by rw [storage])
      · refine Or.inr ⟨?_, live tenantId role left ran⟩
        rintro other ⟨-, tenants, tenant, listed, found, -⟩
        exact none tenants tenant listed found
    · rw [if_neg owner] at placed
      cases placed

/-- A place the storage names is given. -/
theorem placed_of_places {world : World} {inviteCode : Option String} {tenantId : String}
    (places : Places service world answers identity inviteCode tenantId) :
    ∃ role, ((service.place draws identity inviteCode).run answers world).1 =
      .ok (.ok (tenantId, role)) := by
  unfold Places at places
  unfold AuthService.place
  by_cases given : inviteCode.getD "" ≠ ""
  · rw [if_pos given] at places ⊢
    exact (placeInvited_iff world _ tenantId).mpr places
  · rw [if_neg given] at places ⊢
    rcases places with ⟨owner, tenants, tenant, listed, found, rfl⟩
    rw [if_pos owner, run_bind]
    rcases @run_placeOwner service answers identity world with
      ⟨others, other, left, listed', found', -, ran⟩ | ⟨none, -⟩
    · obtain rfl := Except.ok.inj (listed.symm.trans listed')
      obtain rfl := Option.some.inj (found.symm.trans found')
      rw [ran]
      exact ⟨.owner, rfl⟩
    · exact absurd found (none tenants tenant listed)

/-- A new user that is put in an inactive tenant is issued a token that is not backed. -/
theorem unbacked_of_closed {world : World} {inviteCode : Option String} {tenantId : String}
    (unknown : userOfSub (answers.clock .record) world identity.sub = .ok none)
    (places : Places service world answers identity inviteCode tenantId)
    (closed : activity service.manager (answers.clock .record) world tenantId =
      .ok (some false)) :
    ∃ response, ((service.googleLogin draws identity inviteCode).run answers world).1 =
        .ok (.ok response) ∧
      ¬ Backed service (answers.clock .record)
        ((service.googleLogin draws identity inviteCode).run answers world).2
        response.accessToken := by
  rcases @placed_of_places service answers draws identity world inviteCode tenantId places with
    ⟨role, given⟩
  cases placed : (service.place draws identity inviteCode).run answers world with
  | mk outcome left =>
    rw [placed] at given
    obtain rfl : outcome = .ok (.ok (tenantId, role)) := given
    have hosts : ¬ Hostable service (answers.clock .record) left tenantId := by
      rcases run_place world left inviteCode tenantId role placed with ⟨-, same⟩ | ⟨none, -⟩
      · exact fun host => host.2 (same.trans closed)
      · exact absurd places (none tenantId)
    rw [← @enroll_backed_iff service answers draws identity left tenantId role] at hosts
    push Not at hosts
    rcases hosts with ⟨response, issued, unbacked⟩
    have ran : (service.googleLogin draws identity inviteCode).run answers world =
        (.ok (.ok response),
          ((service.enroll draws identity tenantId role).run answers left).2) := by
      unfold AuthService.googleLogin
      rw [run_bind, run_getUserByGoogleSub, unknown]
      dsimp only
      rw [run_bind, placed]
      dsimp only
      rw [run_bind]
      cases done : (service.enroll draws identity tenantId role).run answers left with
      | mk outcome last =>
        rw [done] at issued
        obtain rfl : outcome = .ok response := issued
        rfl
    rw [ran]
    dsimp only
    exact ⟨response, rfl, unbacked⟩

/-- A deactivated tenant is stored as inactive. -/
theorem activity_deactivateTenant {manager : TenantManager} {world : World} {tenantId : String}
    {data : Dict} {tenant : Tenant}
    (record : StoredRecord manager answers world tenantId data tenant) :
    activity manager (answers.clock .record)
      ((manager.deactivateTenant tenantId).run answers world).2 tenantId = .ok (some false) := by
  rcases record.path with ⟨path, resolved, found⟩
  have after := lookup_after record resolved found .deactivate
  have saves : RecordUpdate.saves tenant .deactivate = true := rfl
  rw [if_pos saves] at after
  exact activity_of_lookup manager _ resolved after

/-- Creating and deactivating tenants registers no user. -/
theorem noIndex_of_tenants {manager : TenantManager} {world : World} {index : Path}
    (indexed : resolve indexKey = .ok index) (absent : world.storage.lookup index = none)
    (name email tenantId : String) (tier : TenantTier) :
    ((manager.deactivateTenant tenantId).run answers
      ((manager.createTenant name email tier).run answers world).2).2.storage.lookup index =
      none := by
  have elsewhere : ∀ directory ∈ ["bronze", "silver", "gold", "runs", "tenants"],
      ¬ InDirectory directory index := by
    intro directory known inside
    rw [inside.eq (inDirectory_indexKey indexed)] at known
    exact absurd known (by decide)
  have tenants : "tenants" ∈ ["bronze", "silver", "gold", "runs", "tenants"] := by decide
  have layers : ∀ layer : Layer,
      layer.name ∈ ["bronze", "silver", "gold", "runs", "tenants"] := by
    intro layer
    cases layer <;> decide
  have creates := writesIn_createTenant manager tenants name email tier layers
  have deletes := addsIn_deactivateTenant manager tenantId tenants
  exact lookup_none_of_addsIn deletes elsewhere answers
    (lookup_none_of_addsIn (addsIn_of_writesIn creates) elsewhere answers absent)

end Login

section Tokens

variable (service : AuthService) (answers : Answers) (draws : LoginDraws)
  (identity : GoogleIdentity) (inviteCode : Option String) (world : World)

/-- Every token a login issues is backed exactly when the storage is safe for the login. -/
theorem login_backed_iff :
    (∀ response, ((service.googleLogin draws identity inviteCode).run answers world).1 =
        .ok (.ok response) →
      Backed service (answers.clock .record)
        ((service.googleLogin draws identity inviteCode).run answers world).2
        response.accessToken) ↔
      SafeLogin service world answers identity inviteCode := by
  unfold AuthService.googleLogin SafeLogin
  rw [run_bind, run_getUserByGoogleSub]
  cases known : userOfSub (answers.clock .record) world identity.sub with
  | error exception => simp
  | ok found =>
    cases found with
    | some existing =>
      dsimp only
      rw [loginExisting_backed_iff]
      simp only [Except.ok.injEq, Option.some.injEq, reduceCtorEq, false_imp_iff, and_true]
      constructor
      · rintro all user path tenant rfl
        exact all path tenant
      · intro all path tenant
        exact all existing path tenant rfl
    | none =>
      dsimp only
      rw [run_bind]
      simp only [Except.ok.injEq, reduceCtorEq, false_imp_iff, implies_true, true_and,
        true_imp_iff]
      cases placed : (service.place draws identity inviteCode).run answers world with
      | mk outcome left =>
        cases outcome with
        | error exception =>
          refine iff_of_true (fun _ is => nomatch is) fun tenantId places => ?_
          rcases @placed_of_places service answers draws identity world inviteCode tenantId places
            with ⟨role, is⟩
          rw [placed] at is
          cases is
        | ok reply =>
          cases reply with
          | error refusal =>
            refine iff_of_true (fun _ is => nomatch is) fun tenantId places => ?_
            rcases @placed_of_places service answers draws identity world inviteCode tenantId places
              with ⟨role, is⟩
            rw [placed] at is
            cases is
          | ok place =>
            rcases place with ⟨tenantId, role⟩
            have enrolled := @enroll_backed_iff service answers draws identity left tenantId role
            have hosts : Hostable service (answers.clock .record) left tenantId ↔
                ∀ other, Places service world answers identity inviteCode other →
                  Hostable service (answers.clock .record) world other := by
              rcases run_place world left inviteCode tenantId role placed with
                ⟨named, same⟩ | ⟨none, live⟩
              · unfold Hostable
                rw [same]
                constructor
                · intro open' other places
                  rcases @placed_of_places service answers draws identity world inviteCode other
                    places with ⟨role', is⟩
                  rw [placed] at is
                  rw [← (Prod.mk.inj (Except.ok.inj (Except.ok.inj is))).1]
                  exact open'
                · exact fun all => all tenantId named
              · refine iff_of_true ?_ fun other places => absurd places (none other)
                unfold Hostable
                rw [live]
                simp
            rw [← hosts, ← enrolled]
            dsimp only
            rw [run_bind]
            cases (service.enroll draws identity tenantId role).run answers left with
            | mk outcome last => cases outcome <;> simp

end Tokens

section Sample

/-- A service whose platform owner is `owner@acme`. Its emails are in lower case already. -/
def acmeService : AuthService where
  manager := acmeManager
  users := ⟨id⟩
  platformOwnerEmail := "owner@acme"

/-- A drawn token has sixteen digits. -/
theorem length_acmeToken : "0011223344556677".length = 16 := by decide

/-- The digits of a drawn token are hexadecimal. -/
theorem digits_acmeToken : "0011223344556677".toList.all isHexDigit = true := by decide

/-- What the login of a new user draws. -/
def acmeDraws : LoginDraws where
  userToken := ⟨"0011223344556677", length_acmeToken, digits_acmeToken⟩
  created := DateTime.newYear
  loggedIn := DateTime.newYear
  redeemed := DateTime.newYear

/-- The Google account of an invited guest. -/
def guestIdentity : GoogleIdentity where
  sub := "118"
  email := "guest@acme"

/-- The token of the platform owner. -/
def ownerClaims : TokenClaims where
  tenantId := "tn_0"
  role := "vip"
  email := "owner@acme"
  userId := "usr_8899aabbccddeeff"
  userRole := "owner"

/-- What the creation of the platform owner's tenant leaves. -/
def createdWorld : World :=
  ((acmeManager.createTenant "Platform Owner" "owner@acme" .vip).run acmeAnswers
    { storage := .empty }).2

/-- What its deactivation leaves. -/
def deactivatedWorld : World :=
  ((acmeManager.deactivateTenant "tn_0").run acmeAnswers createdWorld).2

/-- What an invite by the owner, whose token is still valid, leaves. -/
def invitedWorld : World :=
  ((acmeService.createInvite "code" DateTime.newYear ownerClaims "guest@acme" "member").run
    acmeAnswers deactivatedWorld).2

/-- The deactivated tenant is stored as inactive. -/
theorem activity_deactivatedWorld :
    activity acmeManager (acmeAnswers.clock .record) deactivatedWorld "tn_0" =
      .ok (some false) := by
  rcases run_createTenant_ok acmeManager_laws "Platform Owner" "owner@acme" .vip
    (show IsPart (newTenant "Platform Owner" "owner@acme" .vip acmeAnswers).tenantId.toList by
      decide) (by decide) { storage := .empty } with ⟨left, created, record⟩
  have start : createdWorld = left := by rw [createdWorld, created]
  rw [deactivatedWorld, start]
  exact activity_deactivateTenant record

/-- No user is registered by then. -/
theorem noIndex_deactivatedWorld {index : Path} (indexed : resolve indexKey = .ok index) :
    deactivatedWorld.storage.lookup index = none := by
  rw [deactivatedWorld, createdWorld]
  exact noIndex_of_tenants indexed rfl "Platform Owner" "owner@acme" "tn_0" .vip

/-- An invite by the owner is stored, and nothing else changed. -/
theorem storage_createInvite (world : World) : ∃ path, resolve (inviteKey "code") = .ok path ∧
    ((acmeService.createInvite "code" DateTime.newYear ownerClaims "guest@acme" "member").run
      acmeAnswers world).2.storage = world.storage.put path
        (acmeService.users.inviteData "code" DateTime.newYear "tn_0" "guest@acme" .member) := by
  have key : inviteKey "code" = "invites" ++ "/" ++ "code" ++ ".json" := by decide
  rcases resolve_json (show IsPart "invites".toList by decide)
    (show IsPart ("code" ++ ".json").toList by decide) with ⟨path, resolved, -⟩
  rw [← key] at resolved
  have permitted : requirePermission acmeService.policy ownerClaims .inviteUsers = .ok () := by
    decide
  have context : getCurrentTenantId ownerClaims = .ok "tn_0" := by decide
  have role : UserRole.ofValue? "member" = some .member := rfl
  refine ⟨path, resolved, ?_⟩
  unfold AuthService.createInvite UserManager.createInvite
  simp only [permitted, context, role, run_bind, run_writeJson,
    World.writeJson_of_resolve _ resolved, run_pure]

/-- The login of the invited guest issues a token for the deactivated tenant. -/
theorem guest_token_not_backed :
    ∃ response, ((acmeService.googleLogin acmeDraws guestIdentity (some "code")).run acmeAnswers
        invitedWorld).1 = .ok (.ok response) ∧
      ¬ Backed acmeService (acmeAnswers.clock .record)
        ((acmeService.googleLogin acmeDraws guestIdentity (some "code")).run acmeAnswers
          invitedWorld).2 response.accessToken := by
  rcases storage_createInvite deactivatedWorld with ⟨path, resolved, storage⟩
  rw [← invitedWorld] at storage
  have invites := inDirectory_inviteKey resolved
  have unknown : userOfSub (acmeAnswers.clock .record) invitedWorld guestIdentity.sub =
      .ok none := by
    rcases resolve_indexKey with ⟨index, indexed, -⟩
    have apart : index ≠ path := fun same => absurd
      ((inDirectory_indexKey indexed).eq (same ▸ invites)) (by decide)
    have absent : invitedWorld.storage.lookup index = none := by
      rw [storage, LocalStorage.lookup_put_ne _ _ apart]
      exact noIndex_deactivatedWorld indexed
    unfold userOfSub LocalStorage.readJson
    rw [indexed]
    simp only [Except.map, absent]
    rfl
  have closed : activity acmeManager (acmeAnswers.clock .record) invitedWorld "tn_0" =
      .ok (some false) := by
    rw [← activity_deactivatedWorld]
    refine congrArg (Except.map _) (storedTenant_congr acmeManager _ fun other found => ?_)
    have apart : other ≠ path := fun same => absurd
      ((inDirectory_tenantKey found).eq (same ▸ invites)) (by decide)
    rw [storage, LocalStorage.lookup_put_ne _ _ apart]
  have places : Places acmeService invitedWorld acmeAnswers guestIdentity (some "code") "tn_0" := by
    refine ⟨acmeService.users.inviteData "code" DateTime.newYear "tn_0" "guest@acme" .member, ?_,
      rfl, ⟨"guest@acme", rfl, rfl⟩, rfl, "member", .member, rfl, rfl⟩
    unfold LocalStorage.readJson
    rw [show inviteKey ((some "code").getD "") = inviteKey "code" from rfl, resolved, storage]
    exact congrArg Except.ok (LocalStorage.lookup_put_self _ path _)
  exact unbacked_of_closed unknown places closed

end Sample

end VelaFlow.Api
