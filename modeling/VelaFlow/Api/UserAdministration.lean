import VelaFlow.Api.LoginTokens

/-!
# The administration of users

The routes that change the role of a user and that deactivate one. Both take the user from the
path of the request, and users of all tenants lie side by side. Neither compares the tenant of the
user with the tenant of the caller.
-/
namespace VelaFlow.Api

open Process Security Storage Tenants

/-- A request to one of the routes that change a user. -/
inductive UserRequest where
  /-- `PATCH /auth/users/{user_id}/role`, with the role of its body. -/
  | updateRole (userId role : String)
  /-- `DELETE /auth/users/{user_id}`. -/
  | deactivate (userId : String)

namespace UserRequest

/-- The user in the path. -/
def target : UserRequest → String
  | updateRole userId _ => userId
  | deactivate userId => userId

/-- What is asked for of a user; none when the role is not one. -/
def change? : UserRequest → Option (User → User)
  | updateRole _ role =>
    (UserRole.ofValue? role).map fun newRole user => { user with userRole := newRole }
  | deactivate _ => some fun user => { user with isActive := false }

end UserRequest

/-- The route of a request. -/
def AuthService.administer (service : AuthService) (claims : TokenClaims) :
    UserRequest → Routine (Reply Dict)
  | .updateRole userId role => service.updateUserRole claims userId role
  | .deactivate userId => service.deactivateUser claims userId

/-- A request that is carried out: its caller may manage users, is not its target, and asks for
something that can be done. -/
def Admits (service : AuthService) (claims : TokenClaims) (request : UserRequest)
    (change : User → User) : Prop :=
  service.policy.checkAccess claims.role claims.userRole .manageUsers = true ∧
    claims.userId ≠ request.target ∧ request.change? = some change

/-- What keeps a request within the tenant of its caller: the record that it overwrites is of that
tenant, or says already what is written. -/
def Contained (service : AuthService) (recorded : DateTime) (world : World)
    (claims : TokenClaims) (request : UserRequest) : Prop :=
  ∀ change target path, Admits service claims request change →
    storedUser recorded world request.target = .ok (some target) →
    resolve (userKey target.userId) = .ok path →
    ∀ user, UserAt world path user → user.tenantId = claims.tenantId ∨
      world.storage.lookup path = some (change target).toDict

section Administration

variable {service : AuthService} {answers : Answers} {world : World} {claims : TokenClaims}
  {request : UserRequest}

/-- A request that is carried out amends its target. -/
theorem storage_administer {change : User → User} (admits : Admits service claims request change) :
    ((service.administer claims request).run answers world).2.storage =
      amended (answers.clock .record) world request.target change := by
  rcases admits with ⟨access, other, asked⟩
  have permitted : requirePermission service.policy claims .manageUsers = .ok () := if_pos access
  cases request with
  | updateRole userId role =>
    have apart : ¬ claims.userId = userId := other
    cases known : UserRole.ofValue? role with
    | none => simp [UserRequest.change?, known] at asked
    | some newRole =>
      simp only [UserRequest.change?, known, Option.map_some, Option.some.injEq] at asked
      rw [← asked]
      have ran := @storage_updateUserRole answers world userId newRole
      unfold AuthService.administer AuthService.updateUserRole
      simp only [permitted, known, if_neg apart]
      rw [run_bind]
      cases done : (Tenants.updateUserRole userId newRole).run answers world with
      | mk outcome left =>
        rw [done] at ran
        cases outcome with
        | error exception => exact ran
        | ok found => cases found <;> exact ran
  | deactivate userId =>
    have apart : ¬ claims.userId = userId := other
    simp only [UserRequest.change?, Option.some.injEq] at asked
    rw [← asked]
    have ran := @storage_deactivateUser answers world userId
    unfold AuthService.administer AuthService.deactivateUser
    simp only [permitted, if_neg apart]
    rw [run_bind]
    cases done : (Tenants.deactivateUser userId).run answers world with
    | mk outcome left =>
      rw [done] at ran
      cases outcome with
      | error exception => exact ran
      | ok found => cases found <;> exact ran

/-- A request that is refused leaves the storage alone. -/
theorem storage_administer_refused (refused : ∀ change, ¬ Admits service claims request change) :
    ((service.administer claims request).run answers world).2.storage = world.storage := by
  by_cases access : service.policy.checkAccess claims.role claims.userRole .manageUsers = true
  · have permitted : requirePermission service.policy claims .manageUsers = .ok () := if_pos access
    cases request with
    | updateRole userId role =>
      unfold AuthService.administer AuthService.updateUserRole
      cases known : UserRole.ofValue? role with
      | none =>
        simp only [permitted, known]
        rfl
      | some newRole =>
        by_cases own : claims.userId = userId
        · simp only [permitted, known, if_pos own]
          rfl
        · have asked : (UserRequest.updateRole userId role).change? =
              some fun user => { user with userRole := newRole } := by
            simp [UserRequest.change?, known]
          exact absurd ⟨access, own, asked⟩ (refused _)
    | deactivate userId =>
      unfold AuthService.administer AuthService.deactivateUser
      by_cases own : claims.userId = userId
      · simp only [permitted, if_pos own]
        rfl
      · exact absurd ⟨access, own, rfl⟩ (refused _)
  · have forbidden : requirePermission service.policy claims .manageUsers =
        .error ⟨403, "Permission denied: " ++ Permission.manageUsers.value⟩ := if_neg access
    cases request with
    | updateRole userId role =>
      unfold AuthService.administer AuthService.updateUserRole
      simp only [forbidden]
      rfl
    | deactivate userId =>
      unfold AuthService.administer AuthService.deactivateUser
      simp only [forbidden]
      rfl

end Administration

section Isolation

variable (service : AuthService) (answers : Answers) (world : World) (claims : TokenClaims)
  (request : UserRequest)

/-- A request leaves the users of every other tenant as they are exactly when it is contained. -/
theorem administration_isolated_iff :
    (∀ path user, UserAt world path user → user.tenantId ≠ claims.tenantId →
      ((service.administer claims request).run answers world).2.storage.lookup path =
        world.storage.lookup path) ↔
      Contained service (answers.clock .record) world claims request := by
  unfold Contained
  by_cases refused : ∀ change, ¬ Admits service claims request change
  · rw [storage_administer_refused refused]
    exact iff_of_true (fun _ _ _ _ => rfl) fun change _ _ admits => absurd admits (refused change)
  · push Not at refused
    rcases refused with ⟨change, admits⟩
    have only : ∀ other, Admits service claims request other → other = change :=
      fun other same => Option.some.inj (same.2.2.symm.trans admits.2.2)
    rw [storage_administer admits]
    unfold amended
    constructor
    · intro kept other target path same found resolved user at_
      rw [only other same]
      by_cases own : user.tenantId = claims.tenantId
      · exact Or.inl own
      · have still := kept path user at_ own
        simp only [found, resolved, LocalStorage.lookup_put_self] at still
        exact Or.inr still.symm
    · intro contained path user at_ foreign
      cases found : storedUser (answers.clock .record) world request.target with
      | error exception => rfl
      | ok stored =>
        cases stored with
        | none => rfl
        | some target =>
          dsimp only
          cases resolved : resolve (userKey target.userId) with
          | error exception => rfl
          | ok written =>
            dsimp only
            by_cases here : path = written
            · have same := contained change target written admits found resolved user (here ▸ at_)
              rw [here, LocalStorage.lookup_put_self]
              exact (same.resolve_left foreign).symm
            · exact LocalStorage.lookup_put_ne _ _ here

/-- A target that lies under its own identifier may be of the caller's tenant. -/
theorem contained_of_own_tenant (own : ∀ target path,
    storedUser (answers.clock .record) world request.target = .ok (some target) →
    resolve (userKey target.userId) = .ok path →
    world.storage.lookup path = some target.toDict ∧ target.tenantId = claims.tenantId) :
    Contained service (answers.clock .record) world claims request := by
  intro change target path admits found resolved user at_
  rcases own target path found resolved with ⟨stored, same⟩
  rcases at_ with ⟨-, data, recorded, held, read⟩
  rw [stored] at held
  rw [← Option.some.inj held, User.fromDict_toDict] at read
  exact Or.inl (Except.ok.inj read ▸ same)

end Isolation

section Sample

/-- A member of another tenant than the platform owner's. -/
def outsider : User :=
  newUser "0011223344556677" DateTime.newYear "tn_1" "119" "member@other" "" "" .member

/-- What the creation of the platform owner and of the outsider leaves. -/
def sharedWorld : World :=
  ((do
    let _ ← createUser "8899aabbccddeeff" DateTime.newYear "tn_0" "117" "owner@acme" "" "" .owner
    createUser "0011223344556677" DateTime.newYear "tn_1" "119" "member@other" "" "" .member :
      Routine User).run acmeAnswers { storage := .empty }).2

/-- The outsider is stored. -/
theorem storage_sharedWorld : ∃ path, resolve (userKey outsider.userId) = .ok path ∧
    sharedWorld.storage.lookup path = some outsider.toDict := by
  rcases @run_createUser acmeAnswers { storage := .empty } "8899aabbccddeeff" (by decide)
    DateTime.newYear "tn_0" "117" "owner@acme" "" "" .owner with
    ⟨left, -, -, created, -, -, -, -⟩
  rcases @run_createUser acmeAnswers left "0011223344556677" (by decide) DateTime.newYear "tn_1"
    "119" "member@other" "" "" .member with ⟨final, path, index, ran, resolved, -, apart, storage⟩
  refine ⟨path, resolved, ?_⟩
  unfold sharedWorld
  rw [run_bind, created]
  dsimp only
  rw [ran]
  dsimp only
  rw [storage, LocalStorage.lookup_put_ne _ _ apart]
  exact LocalStorage.lookup_put_self _ path _

/-- The owner of one tenant deactivates the member of another. -/
theorem outsider_deactivated : ¬ ∀ path user, UserAt sharedWorld path user →
    user.tenantId ≠ ownerClaims.tenantId →
    ((acmeService.administer ownerClaims (.deactivate outsider.userId)).run acmeAnswers
      sharedWorld).2.storage.lookup path = sharedWorld.storage.lookup path := by
  rcases storage_sharedWorld with ⟨path, resolved, stored⟩
  have at_ : UserAt sharedWorld path outsider := ⟨inDirectory_userKey resolved, outsider.toDict,
    DateTime.newYear, stored, User.fromDict_toDict _ outsider⟩
  have foreign : outsider.tenantId ≠ ownerClaims.tenantId := by decide
  have admits : Admits acmeService ownerClaims (.deactivate outsider.userId)
      fun user => { user with isActive := false } := ⟨by decide, by decide, rfl⟩
  have found := storedUser_of_lookup (acmeAnswers.clock .record) resolved stored
  intro kept
  have still := kept path outsider at_ foreign
  have written := amended_of_found found resolved fun user => { user with isActive := false }
  rw [storage_administer admits, stored] at still
  rw [show (UserRequest.deactivate outsider.userId).target = outsider.userId from rfl, written,
    LocalStorage.lookup_put_self, Option.some.injEq] at still
  have same := congrArg User.isActive (User.toDict_injective still)
  cases same

end Sample

end VelaFlow.Api
