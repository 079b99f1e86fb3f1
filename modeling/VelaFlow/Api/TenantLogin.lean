import VelaFlow.Api.Auth
import VelaFlow.Queue.WorkerRuns

/-!
# The login with an API key

`login_tenant` takes three texts from anyone. The id goes into a storage key, what is stored there
is decoded as a tenant's record, the e-mail is compared as bytes and the API key as a text. Each of
these raises on some texts, and what raises is told apart from the refusal: the route refuses like
any other body exactly those whose id it can look up, whose record decodes, and whose key it can
compare when it comes to that.
-/
namespace VelaFlow.Api

open Process Queue Storage Tenants

/-- `TenantLoginRequest`. -/
structure TenantLoginRequest where
  /-- `tenant_id`. -/
  tenantId : String
  /-- `email`. -/
  email : String
  /-- `api_key`. -/
  apiKey : String

/-- `TokenResponse`. -/
structure TokenResponse where
  /-- `access_token`. -/
  accessToken : TokenClaims
  /-- `tenant_id`. -/
  tenantId : String

/-- A text is in ASCII. -/
def isAscii (text : String) : Bool := text.toList.all fun character => decide (character.toNat < 128)

/-- `hmac.compare_digest` of two texts. -/
def compareDigest (first second : String) : Except PyException Bool :=
  if isAscii first && isAscii second then .ok (decide (first = second))
  else .error (.typeError "comparing strings with non-ASCII characters is not supported")

/-- What the refusal of a login answers. -/
def invalidCredentials : HttpError := ⟨401, "Invalid credentials"⟩

/-- What the login route works on. -/
structure LoginService where
  /-- The tenant manager. -/
  manager : TenantManager
  /-- What looking at a path raises when the operating system does not take the path: one with a
  NUL in it, or one that is too long. -/
  look : Path → Except PyException Unit
  /-- The clock of `_from_dict`, for a record without a creation time. -/
  recorded : DateTime

namespace LoginService

variable (service : LoginService) (storage : LocalStorage)

/-- `read_json` of a key that anyone may have chosen. -/
def readJson (key : String) : Except PyException (Option Dict) := do
  let path ← resolve key
  service.look path
  return storage.lookup path

/-- `get_tenant`. -/
def getTenant (tenantId : String) : Except PyException (Option Tenant) := do
  match ← service.readJson storage (tenantKey tenantId) with
  | none => return none
  | some data =>
    let tenant ← fromDict service.manager.encryptor service.recorded data
    return some tenant

/-- `login_tenant`, when `_login_limiter` allows the client or not. -/
def loginTenant (allowed : Bool) (body : TenantLoginRequest) :
    Except PyException (Reply TokenResponse) :=
  if allowed = false then .ok (.error ⟨429, "Too many login attempts. Try again later."⟩)
  else do
    let tenant ← service.getTenant storage body.tenantId
    let emailOk := decide ((tenant.map Tenant.email).getD "x" = body.email)
    let active := (tenant.map Tenant.isActive).getD false
    match tenant with
    | none => return .error invalidCredentials
    | some tenant =>
      if emailOk = false ∨ active = false then return .error invalidCredentials
      else if tenant.apiKey = "" then return .error invalidCredentials
      else do
        let same ← compareDigest tenant.apiKey body.apiKey
        if same = false then return .error invalidCredentials
        else
          return .ok
            { accessToken :=
                { tenantId := tenant.tenantId, role := tenant.role, email := tenant.email }
              tenantId := tenant.tenantId }

/-- A body is the id, the e-mail and the API key of an active tenant. -/
def IsCredentials (body : TenantLoginRequest) : Prop :=
  ∃ path data tenant, resolve (tenantKey body.tenantId) = .ok path ∧
    storage.lookup path = some data ∧
    fromDict service.manager.encryptor service.recorded data = .ok tenant ∧
    tenant.tenantId = body.tenantId ∧ tenant.email = body.email ∧ tenant.apiKey = body.apiKey ∧
    tenant.isActive = true

/-- When it comes to the key of a body, it can be compared with that of the tenant, and the tenant
whose key it is goes by the id of the body. -/
def Comparable (body : TenantLoginRequest) (tenant : Tenant) : Prop :=
  tenant.email = body.email → tenant.isActive = true → tenant.apiKey ≠ "" →
    isAscii tenant.apiKey = true ∧ isAscii body.apiKey = true ∧
      (tenant.apiKey = body.apiKey → tenant.tenantId = body.tenantId)

/-- The id of a body can be looked up, and what is stored there, if anything, is the record of a
tenant whose key can be compared with the body's. -/
def Regular (body : TenantLoginRequest) : Prop :=
  ∃ path, resolve (tenantKey body.tenantId) = .ok path ∧ service.look path = .ok () ∧
    ∀ data, storage.lookup path = some data →
      ∃ tenant, fromDict service.manager.encryptor service.recorded data = .ok tenant ∧
        Comparable body tenant

/-- Where the operating system takes every path, this is the lookup of the tenant manager. -/
theorem getTenant_eq_storedTenant {world : World} (looks : ∀ path, service.look path = .ok ())
    (tenantId : String) :
    service.getTenant world.storage tenantId =
      storedTenant service.manager service.recorded world tenantId := by
  have reads : service.readJson world.storage (tenantKey tenantId) =
      world.storage.readJson (tenantKey tenantId) := by
    unfold readJson LocalStorage.readJson
    cases resolve (tenantKey tenantId) with
    | error exception => rfl
    | ok path =>
      show service.look path >>= _ = _
      rw [looks]
      rfl
  unfold getTenant storedTenant
  rw [reads]
  cases world.storage.readJson (tenantKey tenantId) with
  | error exception => rfl
  | ok document =>
    cases document with
    | none => rfl
    | some data =>
      show fromDict service.manager.encryptor service.recorded data >>= _ =
        (fromDict service.manager.encryptor service.recorded data).map some
      cases fromDict service.manager.encryptor service.recorded data with
      | error exception => rfl
      | ok tenant => rfl

section Answers

variable {service : LoginService} {storage : LocalStorage} {body : TenantLoginRequest}

/-- What is looked up: a path that cannot be looked at raises, and a document that is no record. -/
theorem getTenant_ok_iff {found : Option Tenant} :
    service.getTenant storage body.tenantId = .ok found ↔
      ∃ path, resolve (tenantKey body.tenantId) = .ok path ∧ service.look path = .ok () ∧
        (storage.lookup path = none ∧ found = none ∨
          ∃ data tenant, storage.lookup path = some data ∧
            fromDict service.manager.encryptor service.recorded data = .ok tenant ∧
            found = some tenant) := by
  unfold getTenant
  rw [bind_ok_iff]
  constructor
  · rintro ⟨document, read, rest⟩
    obtain ⟨path, resolved, read⟩ := bind_ok_iff.mp read
    obtain ⟨_, looks, same⟩ := bind_ok_iff.mp read
    cases same
    refine ⟨path, resolved, looks, ?_⟩
    cases held : storage.lookup path with
    | none =>
      rw [held] at rest
      cases rest
      exact .inl ⟨rfl, rfl⟩
    | some data =>
      rw [held] at rest
      obtain ⟨tenant, decoded, same⟩ := bind_ok_iff.mp rest
      cases same
      exact .inr ⟨data, tenant, rfl, decoded, rfl⟩
  · rintro ⟨path, resolved, looks, is⟩
    refine ⟨storage.lookup path, ?_, ?_⟩
    · exact bind_ok_iff.mpr ⟨path, resolved, bind_ok_iff.mpr ⟨(), looks, rfl⟩⟩
    · obtain ⟨held, rfl⟩ | ⟨data, tenant, held, decoded, rfl⟩ := is
      · rw [held]
        rfl
      · rw [held]
        exact bind_ok_iff.mpr ⟨tenant, decoded, rfl⟩

/-- A comparison of texts comes out unequal when both are in ASCII and differ. -/
theorem compareDigest_false_iff {first second : String} :
    compareDigest first second = .ok false ↔
      isAscii first = true ∧ isAscii second = true ∧ first ≠ second := by
  unfold compareDigest
  cases isAscii first with
  | false => exact iff_of_false (fun same => by cases same) fun all => by cases all.1
  | true =>
    cases isAscii second with
    | false => exact iff_of_false (fun same => by cases same) fun all => by cases all.2.1
    | true =>
      show Except.ok (decide (first = second)) = .ok false ↔ _
      by_cases same : first = second
      · simp [same]
      · simp [same]

/-- What the route answers about a tenant it found. -/
def answer (body : TenantLoginRequest) (tenant : Tenant) :
    Except PyException (Reply TokenResponse) :=
  if decide (tenant.email = body.email) = false ∨ tenant.isActive = false then
    .ok (.error invalidCredentials)
  else if tenant.apiKey = "" then .ok (.error invalidCredentials)
  else do
    let same ← compareDigest tenant.apiKey body.apiKey
    if same = false then return .error invalidCredentials
    else
      return .ok
        { accessToken := { tenantId := tenant.tenantId, role := tenant.role, email := tenant.email }
          tenantId := tenant.tenantId }

/-- The route answers about what it finds. -/
theorem loginTenant_of_found {found : Option Tenant}
    (is : service.getTenant storage body.tenantId = .ok found) :
    service.loginTenant storage true body =
      found.elim (.ok (.error invalidCredentials)) (answer body) := by
  unfold loginTenant
  rw [if_neg (by decide), is]
  cases found with
  | none => rfl
  | some tenant => rfl

/-- A tenant that the body is not the credentials of is refused exactly when it is comparable. -/
theorem answer_refused_iff {tenant : Tenant}
    (wrong : tenant.email = body.email → tenant.isActive = true →
      tenant.tenantId = body.tenantId → tenant.apiKey ≠ body.apiKey) :
    answer body tenant = .ok (.error invalidCredentials) ↔ Comparable body tenant := by
  unfold answer Comparable
  by_cases closed : decide (tenant.email = body.email) = false ∨ tenant.isActive = false
  · rw [if_pos closed]
    refine iff_of_true rfl fun email active => ?_
    obtain other | inactive := closed
    · exact absurd email (of_decide_eq_false other)
    · rw [active] at inactive
      cases inactive
  · rw [if_neg closed]
    rw [not_or, Bool.not_eq_false, Bool.not_eq_false, decide_eq_true_iff] at closed
    obtain ⟨email, active⟩ := closed
    by_cases keyless : tenant.apiKey = ""
    · rw [if_pos keyless]
      exact iff_of_true rfl fun _ _ key => absurd keyless key
    · rw [if_neg keyless]
      have compares : compareDigest tenant.apiKey body.apiKey = .ok false ↔
          (tenant.email = body.email → tenant.isActive = true → tenant.apiKey ≠ "" →
            isAscii tenant.apiKey = true ∧ isAscii body.apiKey = true ∧
              (tenant.apiKey = body.apiKey → tenant.tenantId = body.tenantId)) := by
        rw [compareDigest_false_iff]
        constructor
        · rintro ⟨one, two, other⟩ _ _ _
          exact ⟨one, two, fun same => absurd same other⟩
        · intro all
          obtain ⟨one, two, own⟩ := all email active keyless
          exact ⟨one, two, fun same => wrong email active (own same) same⟩
      rw [← compares]
      cases compared : compareDigest tenant.apiKey body.apiKey with
      | error exception => exact iff_of_false (fun same => by cases same) fun same => by cases same
      | ok same =>
        cases same with
        | false => exact iff_of_true rfl rfl
        | true => exact iff_of_false (fun same => by cases same) fun same => by cases same

end Answers

end LoginService

/-- A body that is not the credentials of an active tenant is refused exactly when it is regular. -/
theorem login_refused_iff (service : LoginService) (storage : LocalStorage)
    (body : TenantLoginRequest) (wrong : ¬service.IsCredentials storage body) :
    service.loginTenant storage true body = .ok (.error invalidCredentials) ↔
      service.Regular storage body := by
  have apart : ∀ path data tenant, resolve (tenantKey body.tenantId) = .ok path →
      storage.lookup path = some data →
      fromDict service.manager.encryptor service.recorded data = .ok tenant →
      tenant.email = body.email → tenant.isActive = true → tenant.tenantId = body.tenantId →
        tenant.apiKey ≠ body.apiKey :=
    fun path data tenant resolved held decoded email active id key =>
      wrong ⟨path, data, tenant, resolved, held, decoded, id, email, key, active⟩
  constructor
  · intro refused
    cases looked : service.getTenant storage body.tenantId with
    | error exception =>
      rw [LoginService.loginTenant, if_neg (by decide), looked] at refused
      cases refused
    | ok found =>
      rw [LoginService.loginTenant_of_found looked] at refused
      obtain ⟨path, resolved, looks, is⟩ := LoginService.getTenant_ok_iff.mp looked
      refine ⟨path, resolved, looks, fun data held => ?_⟩
      obtain ⟨none, -⟩ | ⟨other, tenant, holds, decoded, rfl⟩ := is
      · rw [none] at held
        cases held
      · rw [holds] at held
        cases held
        exact ⟨tenant, decoded, (LoginService.answer_refused_iff
          (apart path _ tenant resolved holds decoded)).mp refused⟩
  · rintro ⟨path, resolved, looks, all⟩
    cases held : storage.lookup path with
    | none =>
      exact LoginService.loginTenant_of_found
        (LoginService.getTenant_ok_iff.mpr ⟨path, resolved, looks, .inl ⟨held, rfl⟩⟩)
    | some data =>
      obtain ⟨tenant, decoded, comparable⟩ := all data held
      exact (LoginService.loginTenant_of_found (LoginService.getTenant_ok_iff.mpr
        ⟨path, resolved, looks, .inr ⟨data, tenant, held, decoded, rfl⟩⟩)).trans
          ((LoginService.answer_refused_iff
            (apart path data tenant resolved held decoded)).mpr comparable)

section Sample

/-- A login over sample ciphers, on a system that takes every path. -/
def sampleLogin : LoginService := ⟨sampleWorker.tenantMgr, fun _ => .ok (), dayOne⟩

/-- A storage with the record of one active tenant. -/
def oneTenant : LocalStorage := (storedWorld sampleTenant).storage

/-- The tenant's id and e-mail with some key. -/
def bodyWith (apiKey : String) : TenantLoginRequest := ⟨"tn_a", "a@a", apiKey⟩

/-- The tenant is found under its id. -/
theorem getTenant_oneTenant (apiKey : String) :
    sampleLogin.getTenant oneTenant (bodyWith apiKey).tenantId = .ok (some sampleTenant) :=
  (sampleLogin.getTenant_eq_storedTenant (fun _ => rfl) "tn_a").trans
    (storedTenant_storedWorld sampleTenant rfl rfl dayOne)

/-- Another key than the tenant's is not its credentials. -/
theorem not_isCredentials_oneTenant {apiKey : String} (other : "key" ≠ apiKey) :
    ¬sampleLogin.IsCredentials oneTenant (bodyWith apiKey) := by
  rintro ⟨path, data, tenant, resolved, held, decoded, -, -, key, -⟩
  have found := LoginService.getTenant_ok_iff.mpr
    ⟨path, resolved, rfl, .inr ⟨data, tenant, held, decoded, rfl⟩⟩
  rw [getTenant_oneTenant] at found
  cases found
  exact other key

/-- A wrong key in ASCII is refused. -/
theorem wrong_key_refused :
    sampleLogin.loginTenant oneTenant true (bodyWith "other") = .ok (.error invalidCredentials) := by
  refine (login_refused_iff sampleLogin oneTenant (bodyWith "other")
    (not_isCredentials_oneTenant (by decide))).mpr ?_
  obtain ⟨path, resolved, looks, is⟩ :=
    LoginService.getTenant_ok_iff.mp (getTenant_oneTenant "other")
  refine ⟨path, resolved, looks, fun data held => ?_⟩
  obtain ⟨none, -⟩ | ⟨_, _, holds, decoded, same⟩ := is
  · rw [none] at held
    cases held
  · rw [holds] at held
    cases held
    cases same
    exact ⟨sampleTenant, decoded, fun _ _ _ => ⟨by decide, by decide, fun key => by
      exact absurd key (by decide)⟩⟩

/-- A wrong key that is not in ASCII tells whether the id and the e-mail are those of a tenant. -/
theorem key_tells_tenant :
    ¬sampleLogin.IsCredentials oneTenant (bodyWith "clé") ∧
      sampleLogin.loginTenant oneTenant true (bodyWith "clé") =
        .error (.typeError "comparing strings with non-ASCII characters is not supported") ∧
      sampleLogin.loginTenant .empty true (bodyWith "clé") = .ok (.error invalidCredentials) := by
  refine ⟨not_isCredentials_oneTenant (by decide), ?_, ?_⟩
  · rw [LoginService.loginTenant_of_found (getTenant_oneTenant "clé")]
    have raises : compareDigest sampleTenant.apiKey "clé" =
      .error (.typeError "comparing strings with non-ASCII characters is not supported") := rfl
    show LoginService.answer (bodyWith "clé") sampleTenant = _
    rw [LoginService.answer, if_neg (by decide), if_neg (by decide)]
    show compareDigest sampleTenant.apiKey "clé" >>= _ = _
    rw [raises]
    rfl
  · have nobody : sampleLogin.getTenant .empty (bodyWith "clé").tenantId = .ok none :=
      LoginService.getTenant_ok_iff.mpr ⟨samplePath, resolve_sample, rfl, .inl ⟨rfl, rfl⟩⟩
    rw [LoginService.loginTenant_of_found nobody]
    rfl

end Sample

end VelaFlow.Api
