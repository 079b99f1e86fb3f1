import VelaFlow.Api.Registry

/-!
# What the routes do to roles

A login gives a role to the user it creates and to nobody else: the role that an invite offers, or
the platform owner's. An invite is made for the role that is asked for, and a role is changed of
the user that is named. Nothing else of these routes touches a role.
-/
namespace VelaFlow.Api

open Process Security Storage Tenants
open Program (Only)

section Managers

variable {answers : Answers} {world : World} {gives makes : Path → UserRole → Prop}

/-- Saving a user gives it its role. -/
theorem grants_saveUser {user : User} {token : HexToken} (named : user.userId = newUserId token)
    (given : ∀ path, resolve (userKey user.userId) = .ok path → user.userRole.elevated = true →
      gives path user.userRole) :
    Grants world ((saveUser user).run answers world).2 gives makes := by
  cases resolved : resolve (userKey user.userId) with
  | error exception =>
    rw [run_saveUser_error resolved]
    exact Grants.refl world
  | ok path =>
    rcases @run_saveUser answers world user path resolved with ⟨left, saved, storage⟩
    rw [saved]
    exact Grants.of_user named resolved storage (given path resolved)

/-- Recording the login of a user gives it the role it has. -/
theorem grants_recordLogin {user : User} {token : HexToken} (time : DateTime)
    (named : user.userId = newUserId token)
    (given : ∀ path, resolve (userKey user.userId) = .ok path → user.userRole.elevated = true →
      gives path user.userRole) :
    Grants world ((recordLogin time user).run answers world).2 gives makes := by
  unfold recordLogin
  have own : (user.afterLogin time).userId = newUserId token := named
  have saves := @grants_saveUser answers world gives makes (user.afterLogin time) token own given
  exact Grants.bind saves fun _ left _ => Grants.refl left

/-- Creating a user gives it its role. -/
theorem grants_createUser (token : HexToken) (created : DateTime)
    (tenantId googleSub email name pictureUrl : String) (userRole : UserRole)
    (given : ∀ path, resolve (userKey (newUserId token)) = .ok path → userRole.elevated = true →
      gives path userRole) :
    Grants world ((createUser token.text created tenantId googleSub email name pictureUrl
      userRole).run answers world).2 gives makes := by
  let user := newUser token.text created tenantId googleSub email name pictureUrl userRole
  have ran := @run_createUser answers world token.text (isPart_newUser token) created tenantId
    googleSub email name pictureUrl userRole
  rcases ran with ⟨left, path, index, ran, resolved, indexed, apart, storage⟩
  rw [ran]
  let middle : World := { world with storage := world.storage.put path user.toDict }
  have saves : Grants world middle gives makes :=
    @Grants.of_user world middle gives makes user token path rfl resolved rfl (given path resolved)
  have read : middle.storage.lookup index = world.storage.lookup index :=
    world.storage.lookup_put_ne _ (Ne.symm apart)
  have names : Grants middle left gives makes := by
    apply @Grants.of_index middle left gives makes googleSub token index indexed
    rw [read]
    exact storage
  exact saves.trans names

/-- An invite that is marked as used keeps its other fields. -/
theorem get?_markUsed (data : Dict) (googleSub : String) (time : DateTime) {key : String}
    (one : key ≠ "used") (two : key ≠ "redeemed_by") (three : key ≠ "redeemed_at") :
    (UserManager.markUsed data googleSub time).get? key = data.get? key := by
  unfold UserManager.markUsed
  rw [Dict.get?_set_ne _ _ three, Dict.get?_set_ne _ _ two, Dict.get?_set_ne _ _ one]

/-- An invite that is marked as used offers what it offered. -/
theorem fieldD_role_markUsed (data : Dict) (googleSub : String) (time : DateTime) :
    fieldD asStr (UserManager.markUsed data googleSub time) "role" "member" =
      fieldD asStr data "role" "member" := by
  unfold fieldD
  rw [get?_markUsed data googleSub time (by decide) (by decide) (by decide)]

/-- Redeeming an invite finds none and changes nothing, or marks the one it finds. -/
theorem run_redeemInvite (users : UserManager) (time : DateTime)
    (inviteCode googleSub email : String) :
    (∃ outcome, (users.redeemInvite time inviteCode googleSub email).run answers world =
        (outcome, world) ∧ ∀ invite, outcome ≠ .ok (some invite)) ∨
    ∃ path data left, resolve (inviteKey inviteCode) = .ok path ∧
      world.storage.lookup path = some data ∧
      left.storage = world.storage.put path (UserManager.markUsed data googleSub time) ∧
      (users.redeemInvite time inviteCode googleSub email).run answers world =
        (.ok (some (UserManager.markUsed data googleSub time)), left) := by
  unfold UserManager.redeemInvite
  rw [run_bind, run_readJson]
  unfold LocalStorage.readJson
  cases resolved : resolve (inviteKey inviteCode) with
  | error exception => exact Or.inl ⟨_, rfl, by simp⟩
  | ok path =>
    simp only [Except.map]
    cases found : world.storage.lookup path with
    | none => exact Or.inl ⟨_, rfl, by simp⟩
    | some data =>
      dsimp only
      by_cases used : (data.getD "used" .null).truthy = true
      · rw [if_pos used]
        exact Or.inl ⟨_, rfl, by simp⟩
      · rw [if_neg used, run_bind, run_lift]
        cases fieldD asStr data "email" "" with
        | error exception => exact Or.inl ⟨_, rfl, by simp⟩
        | ok invited =>
          dsimp only
          by_cases other : users.lower invited ≠ users.lower email
          · rw [if_pos other]
            exact Or.inl ⟨_, rfl, by simp⟩
          · rw [if_neg other, run_bind, run_writeJson, World.writeJson_of_resolve _ resolved]
            exact Or.inr ⟨path, data, _, rfl, found, rfl, rfl⟩

end Managers

section Login

variable {service : AuthService} {answers : Answers} {draws : LoginDraws}
  {identity : GoogleIdentity} {world : World} {makes : Path → UserRole → Prop}

/-- The role a login gives to a new user: one that the invite offers, or, without an invite, the
platform owner's. -/
def EnrollsAs (service : AuthService) (world : World) (draws : LoginDraws)
    (identity : GoogleIdentity) (inviteCode : Option String) (path : Path) (role : UserRole) :
    Prop :=
  resolve (userKey (newUserId draws.userToken)) = .ok path ∧
    if inviteCode.getD "" ≠ "" then
      ∃ invite, resolve (inviteKey (inviteCode.getD "")) = .ok invite ∧ Offers world invite role
    else service.isPlatformOwner identity.email = true ∧ role = .owner

/-- Pinning an owner writes tenants. -/
theorem writesIn_pinOwner (tenantId : String) (userRole : UserRole) :
    Only (Action.WritesIn ["tenants"]) (service.pinOwner identity tenantId userRole) := by
  unfold AuthService.pinOwner
  by_cases elevated : userRole.elevated = true
  · rw [if_pos elevated]
    refine Only.tryCatch (Only.bind ?_ fun _ => Only.pure _) fun _ => Only.pure _
    exact writesIn_bindOwnerSub service.manager tenantId List.mem_cons_self identity.sub
  · rw [if_neg elevated]
    exact Only.pure _

/-- Enrolling gives the new user its role. -/
theorem grants_enroll {gives : Path → UserRole → Prop} (tenantId : String) (userRole : UserRole)
    (given : ∀ path, resolve (userKey (newUserId draws.userToken)) = .ok path →
      userRole.elevated = true → gives path userRole) :
    Grants world ((service.enroll draws identity tenantId userRole).run answers world).2
      gives makes := by
  unfold AuthService.enroll
  have creates := @grants_createUser answers world gives makes draws.userToken draws.created
    tenantId identity.sub identity.email identity.name identity.picture userRole given
  refine Grants.bind creates fun created left ran => ?_
  have made := @run_createUser answers world draws.userToken.text (isPart_newUser draws.userToken)
    draws.created tenantId identity.sub identity.email identity.name identity.picture userRole
  rcases made with ⟨last, path, index, ran', resolved, -, -, -⟩
  obtain rfl := Except.ok.inj (Prod.mk.inj (ran'.symm.trans ran)).1
  have logs := @grants_recordLogin answers left gives makes (newUser draws.userToken.text
    draws.created tenantId identity.sub identity.email identity.name identity.picture userRole)
    draws.userToken draws.loggedIn rfl given
  refine Grants.bind logs fun user left _ => ?_
  have pins := @writesIn_pinOwner service identity tenantId userRole
  refine Grants.bind (Grants.of_writesIn pins (by decide) (by decide) answers left) ?_
  intro _ left _
  have looks := writesIn_of_quiet (quiet_getTenant service.manager tenantId) []
  refine Grants.bind (Grants.of_writesIn looks (by decide) (by decide) answers left) ?_
  exact fun tenant left _ => Grants.refl left

/-- A place by an invite marks at most the invite, and has the role that the invite offers. -/
theorem grants_placeInvited {gives : Path → UserRole → Prop} (inviteCode : String) :
    Grants world ((service.placeInvited draws identity inviteCode).run answers world).2
        gives makes ∧
      ∀ tenantId role left, (service.placeInvited draws identity inviteCode).run answers world =
        (.ok (.ok (tenantId, role)), left) →
        ∃ invite, resolve (inviteKey inviteCode) = .ok invite ∧ Offers world invite role := by
  unfold AuthService.placeInvited
  rw [run_bind]
  rcases @run_redeemInvite answers world service.users draws.redeemed inviteCode identity.sub
    identity.email with ⟨outcome, ran, none⟩ | ⟨path, data, left, resolved, found, storage, ran⟩
  · rw [ran]
    cases outcome with
    | error exception => exact ⟨Grants.refl world, fun _ _ _ is => (nomatch is)⟩
    | ok found =>
      cases found with
      | none => exact ⟨Grants.refl world, fun _ _ _ is => (nomatch is)⟩
      | some invite => exact absurd rfl (none invite)
  · rw [ran]
    dsimp only
    have inside := inDirectory_inviteKey resolved
    have marks : Grants world left gives makes := by
      apply Grants.of_invite inside storage
      intro role _ offered
      rw [fieldD_role_markUsed] at offered
      exact Or.inl ⟨inside, data, found, offered⟩
    refine ⟨?_, ?_⟩
    · refine marks.trans ?_
      refine Grants.bind ?_ fun tenantId left _ => ?_
      · rw [run_lift]
        exact Grants.refl left
      · refine Grants.bind ?_ fun value left _ => ?_
        · rw [run_lift]
          exact Grants.refl left
        · refine Grants.bind ?_ fun role left _ => Grants.refl left
          rw [run_lift]
          exact Grants.refl left
    · intro tenantId role last is
      simp only [run_bind, run_lift, run_pure, fieldD_role_markUsed] at is
      cases placed : field asStr (UserManager.markUsed data identity.sub draws.redeemed)
          "tenant_id" with
      | error exception =>
        rw [placed] at is
        cases is
      | ok name =>
        rw [placed] at is
        dsimp only at is
        cases offered : fieldD asStr data "role" "member" with
        | error exception =>
          rw [offered] at is
          cases is
        | ok value =>
          rw [offered] at is
          dsimp only at is
          cases read : readUserRole value with
          | error exception =>
            rw [read] at is
            cases is
          | ok one =>
            rw [read] at is
            rcases Prod.mk.inj (Except.ok.inj (Except.ok.inj (Prod.mk.inj is).1)) with ⟨-, rfl⟩
            rw [readUserRole_eq read] at offered
            exact ⟨path, resolved, inside, data, found, offered⟩

/-- Placing the platform owner touches neither users nor invites, and gives the owner's place. -/
theorem grants_placeOwner {gives : Path → UserRole → Prop} :
    Grants world ((service.placeOwner identity).run answers world).2 gives makes ∧
      ∀ tenantId role left, (service.placeOwner identity).run answers world =
        (.ok (tenantId, role), left) → role = .owner := by
  have tenants : "tenants" ∈ ["bronze", "silver", "gold", "runs", "tenants"] := by decide
  have layers : ∀ layer : Layer,
      layer.name ∈ ["bronze", "silver", "gold", "runs", "tenants"] := by
    intro layer
    cases layer <;> decide
  have creates := writesIn_createTenant service.manager tenants "Platform Owner" identity.email
    .vip layers
  have lists := writesIn_of_quiet (quiet_listTenants service.manager)
    ["bronze", "silver", "gold", "runs", "tenants"]
  unfold AuthService.placeOwner
  constructor
  · refine Grants.bind (Grants.of_writesIn lists (by decide) (by decide) answers world) ?_
    intro found left _
    cases found.find? fun tenant => service.isPlatformOwner tenant.email with
    | some tenant => exact Grants.refl left
    | none =>
      refine Grants.bind (Grants.of_writesIn creates (by decide) (by decide) answers left) ?_
      exact fun tenant left _ => Grants.refl left
  · intro tenantId role left is
    rw [run_bind] at is
    cases listed : service.manager.listTenants.run answers world with
    | mk outcome middle =>
      rw [listed] at is
      cases outcome with
      | error exception => cases is
      | ok found =>
        dsimp only at is
        cases chosen : found.find? fun tenant => service.isPlatformOwner tenant.email with
        | some tenant =>
          rw [chosen] at is
          rcases Prod.mk.inj (Except.ok.inj (Prod.mk.inj is).1) with ⟨-, rfl⟩
          rfl
        | none =>
          rw [chosen] at is
          dsimp only at is
          rw [run_bind] at is
          cases created : (service.manager.createTenant "Platform Owner" identity.email .vip).run
              answers middle with
          | mk outcome last =>
            rw [created] at is
            cases outcome with
            | error exception => cases is
            | ok tenant =>
              rcases Prod.mk.inj (Except.ok.inj (Prod.mk.inj is).1) with ⟨-, rfl⟩
              rfl

/-- The place of a new user touches no user, and has the role that the login gives. -/
theorem grants_place {gives : Path → UserRole → Prop} (inviteCode : Option String) :
    Grants world ((service.place draws identity inviteCode).run answers world).2 gives makes ∧
      ∀ tenantId role left path, (service.place draws identity inviteCode).run answers world =
        (.ok (.ok (tenantId, role)), left) →
        resolve (userKey (newUserId draws.userToken)) = .ok path →
        EnrollsAs service world draws identity inviteCode path role := by
  unfold AuthService.place EnrollsAs
  by_cases given : inviteCode.getD "" ≠ ""
  · rw [if_pos given]
    have invited := @grants_placeInvited service answers draws identity world makes gives
      (inviteCode.getD "")
    simp only [if_pos given]
    exact ⟨invited.1, fun tenantId role left path is resolved =>
      ⟨resolved, invited.2 tenantId role left is⟩⟩
  · rw [if_neg given]
    simp only [if_neg given]
    by_cases owner : service.isPlatformOwner identity.email = true
    · rw [if_pos owner]
      have owned := @grants_placeOwner service answers identity world makes gives
      refine ⟨Grants.bind owned.1 fun placed left _ => Grants.refl left, ?_⟩
      intro tenantId role left path is resolved
      refine ⟨resolved, owner, ?_⟩
      rw [run_bind] at is
      cases placed : (service.placeOwner identity).run answers world with
      | mk outcome last =>
        rw [placed] at is
        cases outcome with
        | error exception => cases is
        | ok place =>
          have same := Except.ok.inj (Except.ok.inj (Prod.mk.inj is).1)
          rw [same] at placed
          exact owned.2 tenantId role last placed
    · rw [if_neg owner]
      exact ⟨Grants.refl world, fun _ _ _ _ is => (nomatch is)⟩

/-- The login of a user that exists raises nobody. -/
theorem grants_loginExisting {gives : Path → UserRole → Prop} {existing : User}
    (registry : Registry world) {recorded : DateTime} {userId : String}
    (stored : storedUser recorded world userId = .ok (some existing)) :
    Grants world ((service.loginExisting draws existing).run answers world).2
      (fun path role => Holds world path role ∨ gives path role) makes := by
  rcases Registry.userAt_of_storedUser stored with ⟨path, -, at_⟩
  rcases registry.token_of_userAt at_ with ⟨token, named⟩
  unfold AuthService.loginExisting
  by_cases off : existing.isActive = false
  · rw [if_pos off]
    exact Grants.refl world
  · rw [if_neg off]
    refine Grants.bind (grants_recordLogin draws.loggedIn named ?_) fun user left _ => ?_
    · intro own resolved elevated
      have record := registry.record_of_userAt at_ elevated
      have same := Except.ok.inj (record.1.symm.trans resolved)
      exact Or.inl ⟨existing, same ▸ at_, rfl⟩
    · have looks := writesIn_of_quiet (quiet_getTenant service.manager user.tenantId) []
      refine Grants.bind (Grants.of_writesIn looks (by decide) (by decide) answers left) ?_
      intro tenant left _
      cases tenant with
      | none => exact Grants.refl left
      | some tenant =>
        dsimp only
        split <;> exact Grants.refl left

/-- A user of a Google account is stored under the identifier that the index names. -/
theorem storedUser_of_userOfSub {recorded : DateTime} {googleSub : String} {user : User}
    (found : userOfSub recorded world googleSub = .ok (some user)) :
    ∃ userId, storedUser recorded world userId = .ok (some user) := by
  unfold userOfSub at found
  split at found
  · cases found
  · split at found
    · cases found
    · split at found
      · cases found
      · exact ⟨_, found⟩

/-- A login gives a role to the user it creates, and makes no invite. -/
theorem grants_googleLogin (registry : Registry world) (inviteCode : Option String) :
    Grants world ((service.googleLogin draws identity inviteCode).run answers world).2
      (EnrollsAs service world draws identity inviteCode) makes := by
  unfold AuthService.googleLogin
  rw [run_bind, run_getUserByGoogleSub]
  cases known : userOfSub (answers.clock .record) world identity.sub with
  | error exception => exact Grants.refl world
  | ok found =>
    cases found with
    | some existing =>
      rcases storedUser_of_userOfSub known with ⟨userId, stored⟩
      exact (grants_loginExisting registry stored).absorb
    | none =>
      dsimp only
      have placing := @grants_place service answers draws identity world makes
        (EnrollsAs service world draws identity inviteCode) inviteCode
      refine Grants.bind placing.1 fun reply left placed => ?_
      cases reply with
      | error refusal => exact Grants.refl left
      | ok place =>
        rcases place with ⟨tenantId, role⟩
        refine Grants.bind (grants_enroll tenantId role ?_) fun _ left _ => Grants.refl left
        exact fun path resolved _ => placing.2 tenantId role left path placed resolved

end Login

section Administration

variable {service : AuthService} {answers : Answers} {world : World}
  {gives makes : Path → UserRole → Prop}

/-- An invite that is made: its caller may invite, for the tenant of its token. -/
def Invites (service : AuthService) (claims : TokenClaims) (role : String) : Prop :=
  service.policy.checkAccess claims.role claims.userRole .inviteUsers = true ∧
    claims.tenantId ≠ "" ∧ (UserRole.ofValue? role).isSome = true

/-- A role is read from its own value only. -/
theorem ofValue?_eq {value : String} {role : UserRole}
    (known : UserRole.ofValue? value = some role) : value = role.value := by
  apply readUserRole_eq
  unfold readUserRole
  rw [known]

/-- Creating an invite makes it offer the role it is asked for. -/
theorem grants_createInvite (inviteCode : String) (created : DateTime) (claims : TokenClaims)
    (email role : String)
    (made : Invites service claims role → ∀ path one, resolve (inviteKey inviteCode) = .ok path →
      role = one.value → makes path one) :
    Grants world ((service.createInvite inviteCode created claims email role).run answers world).2
      gives makes := by
  unfold AuthService.createInvite requirePermission getCurrentTenantId
  by_cases access : service.policy.checkAccess claims.role claims.userRole .inviteUsers = true
  · rw [if_pos access]
    dsimp only
    by_cases anonymous : claims.tenantId = ""
    · rw [if_pos anonymous]
      exact Grants.refl world
    · rw [if_neg anonymous]
      dsimp only
      cases known : UserRole.ofValue? role with
      | none => exact Grants.refl world
      | some one =>
        have may : Invites service claims role := ⟨access, anonymous, by rw [known]; rfl⟩
        refine Grants.bind ?_ fun _ left _ => Grants.refl left
        refine Grants.bind ?_ fun _ left _ => Grants.refl left
        rw [run_writeJson]
        cases resolved : resolve (inviteKey inviteCode) with
        | error exception =>
          rw [World.writeJson_of_error world resolved]
          exact Grants.refl world
        | ok path =>
          rw [World.writeJson_of_resolve world resolved]
          refine Grants.of_invite (inDirectory_inviteKey resolved) rfl fun other _ offered => ?_
          have same : one.value = other.value := Except.ok.inj offered
          exact Or.inr (made may path other resolved ((ofValue?_eq known).trans same))
  · rw [if_neg access]
    exact Grants.refl world

/-- The role a request gives to its target. -/
def Promotes (service : AuthService) (recorded : DateTime) (world : World) (claims : TokenClaims)
    (request : UserRequest) (path : Path) (role : UserRole) : Prop :=
  (∃ change, Admits service claims request change) ∧
    ∃ userId target, request = .updateRole userId role.value ∧
      storedUser recorded world userId = .ok (some target) ∧
      resolve (userKey target.userId) = .ok path

/-- A request gives its target the role it asks for, and makes no invite. -/
theorem grants_administer (registry : Registry world) (claims : TokenClaims)
    (request : UserRequest) :
    Grants world ((service.administer claims request).run answers world).2
      (Promotes service (answers.clock .record) world claims request) makes := by
  by_cases refused : ∀ change, ¬ Admits service claims request change
  · have same := @storage_administer_refused service answers world claims request refused
    exact Grants.of_elsewhere (fun path _ => by rw [same]) fun path _ => by rw [same]
  · push Not at refused
    rcases refused with ⟨change, admits⟩
    have storage := @storage_administer service answers world claims request change admits
    unfold amended at storage
    have still : ((service.administer claims request).run answers world).2.storage =
        world.storage → Grants world ((service.administer claims request).run answers world).2
          (Promotes service (answers.clock .record) world claims request) makes :=
      fun same => Grants.of_elsewhere (fun path _ => by rw [same]) fun path _ => by rw [same]
    cases found : storedUser (answers.clock .record) world request.target with
    | error exception =>
      rw [found] at storage
      exact still storage
    | ok stored =>
      rw [found] at storage
      cases stored with
      | none => exact still storage
      | some target =>
        dsimp only at storage
        cases resolved : resolve (userKey target.userId) with
        | error exception =>
          rw [resolved] at storage
          exact still storage
        | ok path =>
          rw [resolved] at storage
          rcases Registry.userAt_of_storedUser found with ⟨at_, -, user⟩
          rcases registry.token_of_userAt user with ⟨token, named⟩
          cases request with
          | updateRole userId role =>
            have asked := admits.2.2
            cases known : UserRole.ofValue? role with
            | none => simp [UserRequest.change?, known] at asked
            | some newRole =>
              simp only [UserRequest.change?, known, Option.map_some, Option.some.injEq] at asked
              subst asked
              refine @Grants.of_user world _ _ makes { target with userRole := newRole } token path
                named resolved storage fun _ => ⟨⟨_, admits⟩, userId, target, ?_, found, resolved⟩
              rw [ofValue?_eq known]
          | deactivate userId =>
            have asked := admits.2.2
            simp only [UserRequest.change?, Option.some.injEq] at asked
            subst asked
            apply Grants.absorb
            refine @Grants.of_user world _ _ makes { target with isActive := false } token path
              named resolved storage fun elevated => Or.inl ⟨target, ?_, rfl⟩
            have record := registry.record_of_userAt user elevated
            exact Except.ok.inj (record.1.symm.trans resolved) ▸ user

end Administration

end VelaFlow.Api
