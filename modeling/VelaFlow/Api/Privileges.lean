import VelaFlow.Api.RoleGrants

/-!
# Where privileges come from

Owners and admins are made by logins, which redeem invites or provision the platform owner, and by
changes of roles. The machine here takes requests in any order and remembers them, so that a role
can be traced to the request it came from. Roles flow from owners to others only as long as every
invite and every change of a role for an owner or an admin is asked for by an owner: the routes
ask for a permission instead, which admins have, and which a token has by its tier alone when it
names no user.
-/
namespace VelaFlow.Api

open Process Queue Security Storage Tenants

/-- A request, with what its handling draws and reads of the clock. -/
inductive Request where
  /-- `POST /auth/google`. -/
  | login (answers : Answers) (draws : LoginDraws) (identity : GoogleIdentity)
    (inviteCode : Option String)
  /-- `POST /auth/invite`. -/
  | invite (answers : Answers) (claims : TokenClaims) (inviteCode : String) (created : DateTime)
    (email role : String)
  /-- A change of a role or a deactivation. -/
  | administer (answers : Answers) (claims : TokenClaims) (request : UserRequest)

/-- A request that was handled, with the world it found. -/
structure Moment where
  /-- The world before. -/
  before : World
  /-- The request. -/
  request : Request

/-- The platform as its users see it. -/
structure Platform where
  /-- The world. -/
  world : World
  /-- The tokens that were issued. -/
  tokens : List TokenClaims
  /-- The requests that were handled, the last one first. -/
  past : List Moment

/-- The token of an answer. -/
def issued : Except PyException (Reply GoogleAuthResponse) → List TokenClaims
  | .ok (.ok response) => [response.accessToken]
  | _ => []

/-- The handling of a request; one with a token that was never issued is refused. -/
def step (service : AuthService) (state : Platform) (request : Request) : Option Platform :=
  match request with
  | .login answers draws identity inviteCode =>
    let (outcome, left) := (service.googleLogin draws identity inviteCode).run answers state.world
    some ⟨left, issued outcome ++ state.tokens, ⟨state.world, request⟩ :: state.past⟩
  | .invite answers claims inviteCode created email role =>
    if state.tokens.contains claims then
      some ⟨((service.createInvite inviteCode created claims email role).run answers
        state.world).2, state.tokens, ⟨state.world, request⟩ :: state.past⟩
    else none
  | .administer answers claims change =>
    if state.tokens.contains claims then
      some ⟨((service.administer claims change).run answers state.world).2, state.tokens,
        ⟨state.world, request⟩ :: state.past⟩
    else none

/-- The user of a token is stored as an owner. -/
def IsOwner (recorded : DateTime) (world : World) (claims : TokenClaims) : Prop :=
  ∃ user, storedUser recorded world claims.userId = .ok (some user) ∧ user.userRole = .owner

section Provenance

variable (service : AuthService)

/-- An owner made an invite for a role. -/
def Moment.Invites (moment : Moment) (path : Path) (role : UserRole) : Prop :=
  match moment.request with
  | .invite answers claims inviteCode _ _ value =>
    resolve (inviteKey inviteCode) = .ok path ∧ value = role.value ∧
      IsOwner (answers.clock .record) moment.before claims
  | _ => False

/-- A request gave a role: a login redeemed an invite that an owner had made for it, or provisioned
the platform owner; or an owner changed the role. -/
def Moment.Gives (earlier : List Moment) (moment : Moment) (path : Path) (role : UserRole) :
    Prop :=
  match moment.request with
  | .login _ draws identity inviteCode =>
    resolve (userKey (newUserId draws.userToken)) = .ok path ∧
      if inviteCode.getD "" ≠ "" then
        ∃ invite, resolve (inviteKey (inviteCode.getD "")) = .ok invite ∧
          ∃ made ∈ earlier, made.Invites invite role
      else service.isPlatformOwner identity.email = true ∧ role = .owner
  | .invite .. => False
  | .administer answers claims request =>
    Promotes service (answers.clock .record) moment.before claims request path role ∧
      IsOwner (answers.clock .record) moment.before claims

/-- How a record came to its role: a request gave it, or it was held before the last request and
came to it then, or it is an owner's that was provisioned before the first. -/
inductive Obtained : List Moment → Path → UserRole → Prop where
  /-- The platform provisioned the owners there are at the start. -/
  | provisioned (path : Path) : Obtained [] path .owner
  /-- The last request gave the role. -/
  | given {moment : Moment} {earlier : List Moment} {path : Path} {role : UserRole}
    (gives : moment.Gives service earlier path role) : Obtained (moment :: earlier) path role
  /-- The last request left the role. -/
  | kept {moment : Moment} {earlier : List Moment} {path : Path} {role : UserRole}
    (held : Holds moment.before path role) (obtained : Obtained earlier path role) :
    Obtained (moment :: earlier) path role

/-- A state in which the platform has provisioned owners, and nothing else was handled that could
give a role. -/
structure Provisioned (state : Platform) : Prop where
  /-- No request was handled. -/
  past : state.past = []
  /-- The users are registered. -/
  registry : Registry state.world
  /-- Nobody is an admin. -/
  owners : ∀ path role, role.elevated = true → Holds state.world path role → role = .owner
  /-- No invite offers to make one, or an owner. -/
  offers : ∀ path role, role.elevated = true → ¬ Offers state.world path role

/-- What keeps privileges with the owners: whoever makes an invite for an owner or an admin, or
makes a user one, is stored as an owner. -/
def Sanctioned (state : Platform) : Request → Prop
  | .login .. => True
  | .invite answers claims _ _ _ value =>
    Invites service claims value → ∀ role, UserRole.ofValue? value = some role →
      role.elevated = true → IsOwner (answers.clock .record) state.world claims
  | .administer answers claims request =>
    ∀ path role, Promotes service (answers.clock .record) state.world claims request path role →
      role.elevated = true → IsOwner (answers.clock .record) state.world claims

/-- What the trace of a run accounts for: every elevated role that is held, and every one that is
offered. -/
structure Accounted (state : Platform) : Prop where
  /-- The users are registered. -/
  registry : Registry state.world
  /-- Roles that are held were obtained. -/
  held : ∀ path role, role.elevated = true → Holds state.world path role →
    Obtained service state.past path role
  /-- Roles that are offered are offered by owners. -/
  offered : ∀ path role, role.elevated = true → Offers state.world path role →
    ∃ moment ∈ state.past, moment.Invites path role

variable {service} {state next : Platform}

/-- A provisioned platform is accounted for. -/
theorem Provisioned.accounted (start : Provisioned state) : Accounted service state where
  registry := start.registry
  held := by
    intro path role elevated holds
    rw [start.past, start.owners path role elevated holds]
    exact Obtained.provisioned path
  offered := fun path role elevated offer => absurd offer (start.offers path role elevated)

/-- A step that gives and makes only what its request accounts for is accounted for. -/
theorem Accounted.grants {request : Request} {after : World} {tokens : List TokenClaims}
    (accounted : Accounted service state)
    (grants : Grants state.world after
      (fun path role => (Moment.mk state.world request).Gives service state.past path role)
      (fun path role => (Moment.mk state.world request).Invites path role)) :
    Accounted service ⟨after, tokens, ⟨state.world, request⟩ :: state.past⟩ where
  registry := grants.registry accounted.registry
  held := by
    intro path role elevated holds
    rcases grants.holders accounted.registry path role elevated holds with held | gives
    · exact Obtained.kept held (accounted.held path role elevated held)
    · exact Obtained.given gives
  offered := by
    intro path role elevated offer
    rcases grants.offers path role elevated offer with offered | makes
    · rcases accounted.offered path role elevated offered with ⟨moment, before, invites⟩
      exact ⟨moment, List.mem_cons_of_mem _ before, invites⟩
    · exact ⟨_, List.mem_cons_self, makes⟩

/-- A sanctioned request is accounted for. -/
theorem accounted_step {request : Request} (accounted : Accounted service state)
    (sanctioned : Sanctioned service state request) (moved : step service state request = some next) :
    Accounted service next := by
  cases request with
  | login answers draws identity inviteCode =>
    obtain rfl := Option.some.inj moved
    apply accounted.grants
    have logs := @grants_googleLogin service answers draws identity state.world
      (fun path role => (Moment.mk state.world
        (.login answers draws identity inviteCode)).Invites path role) accounted.registry inviteCode
    refine logs.mono (fun path role elevated enrolls => ?_) fun _ _ _ makes => makes
    rcases enrolls with ⟨resolved, place⟩
    refine ⟨resolved, ?_⟩
    by_cases given : inviteCode.getD "" ≠ ""
    · rw [if_pos given] at place ⊢
      rcases place with ⟨invite, found, offers⟩
      exact ⟨invite, found, accounted.offered invite role elevated offers⟩
    · rw [if_neg given] at place ⊢
      exact place
  | invite answers claims inviteCode created email value =>
    unfold step at moved
    dsimp only at moved
    by_cases issued : state.tokens.contains claims = true
    · rw [if_pos issued] at moved
      obtain rfl := Option.some.inj moved
      apply accounted.grants
      have makes := @grants_createInvite service answers state.world
        (fun path role => (Moment.mk state.world
          (.invite answers claims inviteCode created email value)).Gives service state.past path
            role)
        (fun path role => Invites service claims value ∧
          resolve (inviteKey inviteCode) = .ok path ∧ value = role.value)
        inviteCode created claims email value
        (fun may path role resolved same => ⟨may, resolved, same⟩)
      refine makes.mono (fun _ _ _ gives => gives) fun path role elevated made => ?_
      rcases made with ⟨may, resolved, same⟩
      have known : UserRole.ofValue? value = some role := by rw [same, UserRole.ofValue?_value]
      exact ⟨resolved, same, sanctioned may role known elevated⟩
    · rw [if_neg issued] at moved
      cases moved
  | administer answers claims change =>
    unfold step at moved
    dsimp only at moved
    by_cases issued : state.tokens.contains claims = true
    · rw [if_pos issued] at moved
      obtain rfl := Option.some.inj moved
      apply accounted.grants
      have gives := @grants_administer service answers state.world
        (fun path role => (Moment.mk state.world
          (.administer answers claims change)).Invites path role) accounted.registry claims change
      refine gives.mono (fun path role elevated promotes => ?_) fun _ _ _ makes => makes
      exact ⟨promotes, sanctioned path role promotes elevated⟩
    · rw [if_neg issued] at moved
      cases moved

end Provenance

section Sample

/-- The token drawn for the owner has sixteen digits. -/
theorem length_ownerToken : "8899aabbccddeeff".length = 16 := by decide

/-- Its digits are hexadecimal. -/
theorem digits_ownerToken : "8899aabbccddeeff".toList.all isHexDigit = true := by decide

/-- The token drawn for the second member has sixteen digits. -/
theorem length_secondToken : "1122334455667788".length = 16 := by decide

/-- Its digits are hexadecimal. -/
theorem digits_secondToken : "1122334455667788".toList.all isHexDigit = true := by decide

/-- The owner's token. -/
def ownerToken : HexToken := ⟨"8899aabbccddeeff", length_ownerToken, digits_ownerToken⟩

/-- The first member's token. -/
def firstToken : HexToken := ⟨"0011223344556677", length_acmeToken, digits_acmeToken⟩

/-- The second member's token. -/
def secondToken : HexToken := ⟨"1122334455667788", length_secondToken, digits_secondToken⟩

/-- The owner that the platform provisioned. -/
def provisionedOwner : User :=
  newUser ownerToken.text DateTime.newYear "tn_0" "117" "owner@acme" "" "" .owner

/-- Another member. -/
def secondMember : User :=
  newUser secondToken.text DateTime.newYear "tn_0" "119" "second@acme" "" "" .member

/-- What is stored of the staff: each record at its own path, and the index. -/
structure Staffed (world : World) (zero one two index : Path) (first : User) : Prop where
  /-- The owner's path. -/
  atZero : resolve (userKey (newUserId ownerToken)) = .ok zero
  /-- The first member's path. -/
  atOne : resolve (userKey (newUserId firstToken)) = .ok one
  /-- The second member's path. -/
  atTwo : resolve (userKey (newUserId secondToken)) = .ok two
  /-- The path of the index. -/
  indexed : resolve indexKey = .ok index
  /-- The owner is stored. -/
  owner : world.storage.lookup zero = some provisionedOwner.toDict
  /-- The first member is stored. -/
  first : world.storage.lookup one = some first.toDict
  /-- The second member is stored. -/
  second : world.storage.lookup two = some secondMember.toDict
  /-- The index names the first member. -/
  names : ∃ data, world.storage.lookup index = some data ∧
    data.getD "118" .null = .str (newUserId firstToken)

/-- Saving the first member changes its record only. -/
theorem Staffed.put {world after : World} {zero one two index : Path} {first changed : User}
    (staffed : Staffed world zero one two index first)
    (saved : after.storage = world.storage.put one changed.toDict) :
    Staffed after zero one two index changed where
  atZero := staffed.atZero
  atOne := staffed.atOne
  atTwo := staffed.atTwo
  indexed := staffed.indexed
  owner := by
    have apart := @newUser_path_ne ownerToken firstToken (by decide) _ _ staffed.atZero staffed.atOne
    rw [saved, LocalStorage.lookup_put_ne _ _ apart]
    exact staffed.owner
  first := by
    rw [saved]
    exact LocalStorage.lookup_put_self _ one _
  second := by
    have apart := @newUser_path_ne secondToken firstToken (by decide) _ _ staffed.atTwo staffed.atOne
    rw [saved, LocalStorage.lookup_put_ne _ _ apart]
    exact staffed.second
  names := by
    have apart := newUser_path_ne_index staffed.atOne staffed.indexed
    rw [saved, LocalStorage.lookup_put_ne _ _ (Ne.symm apart)]
    exact staffed.names

end Sample

end VelaFlow.Api
