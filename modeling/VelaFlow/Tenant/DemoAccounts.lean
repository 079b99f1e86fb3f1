import VelaFlow.Foundation.Calendar
import VelaFlow.Planner.Scoring
import VelaFlow.Process.Directories
import VelaFlow.Security.LogSurvival
import VelaFlow.Tenant.Erasure

/-!
# Demo accounts

`DemoManager` of `tenant/demo_manager.py`: it creates a demo over a VIP tenant, expires it, and
logs what it does in the demo's own text. Every other writer of a tenant's record decodes it and
writes it back whole. However a creation ends, it leaves an active VIP tenant, which is a demo only
when its expiry is a date of the calendar.
-/
namespace VelaFlow.Tenants

open Process Security Storage

/-- What a `DemoManager` is built from, besides its storage. -/
structure DemoManager where
  /-- `_tenant_mgr`. -/
  manager : TenantManager
  /-- `_encryptor`, with the text of floats. -/
  library : AuditLibrary

/-- The storage of a demo manager: its documents, and its texts. -/
structure DemoStore where
  /-- The documents. -/
  world : World
  /-- The texts. -/
  texts : Texts := fun _ => []

/-- What a call of `_log_event` finds. -/
structure Stamp where
  /-- `datetime.now(timezone.utc)`. -/
  time : DateTime
  /-- It is a time of UTC. -/
  utc : time.offset = some 0
  /-- The nonce of the encryption. -/
  nonce : String := ""
  /-- `read_text` raises. -/
  readFails : Bool := false
  /-- What `write_text` raises, if it does. -/
  writeFails : Option PyException := none

/-- A method of the demo manager; what it wrote stays when it raises. -/
abbrev DemoCall (α : Type) := ExceptT PyException (StateM DemoStore) α

/-- Runs a method of the demo manager. -/
def DemoCall.on {α : Type} (call : DemoCall α) (store : DemoStore) :
    Except PyException α × DemoStore := call store

/-- A method of the tenant manager. -/
def manage {α : Type} (answers : Answers) (routine : Routine α) : DemoCall α := fun store =>
  ((routine.run answers store.world).1,
    { store with world := (routine.run answers store.world).2 })

/-- `_load_tenant_data`: a read that raises counts as no record. -/
def loadTenantData (tenantId : String) : DemoCall (Option Dict) := fun store =>
  (.ok ((store.world.storage.readJson (tenantKey tenantId)).toOption.getD none), store)

/-- `_save_tenant_data`. -/
def saveTenantData (tenantId : String) (data : Dict) : DemoCall Unit := fun store =>
  ((store.world.writeJson (tenantKey tenantId) data).1,
    { store with world := (store.world.writeJson (tenantKey tenantId) data).2 })

/-- `time + timedelta(days=days)`. -/
def plusDays (time : DateTime) (days : Int) : Except PyException DateTime :=
  if days < -2147483648 ∨ 2147483647 < days then
    .error (.other "OverflowError" "Python int too large to convert to C int")
  else if 999999999 < days.natAbs then
    .error (.other "OverflowError"
      ("days=" ++ toString days ++ "; must have magnitude <= 999999999"))
  else match time.date.shiftDays days with
    | some date => .ok { time with date }
    | none => .error (.other "OverflowError" "date value out of range")

/-- The arguments of `create_demo`. -/
structure DemoRequest where
  /-- `name`. -/
  name : String
  /-- `email`. -/
  email : String
  /-- `created_by`. -/
  createdBy : String
  /-- `duration_days`. -/
  durationDays : Int := 7
  /-- `cost_cap_pipeline`. -/
  costCapPipeline : Int := 50
  /-- `cost_cap_llm`. -/
  costCapLlm : Int := 100
  /-- `litellm_token`. -/
  litellmToken : String := ""

/-- What `create_demo` finds. -/
structure DemoCreation where
  /-- The answers to `create_tenant`. -/
  create : Answers
  /-- `datetime.now(timezone.utc)`. -/
  time : DateTime
  /-- The answers to `bind_owner_sub`. -/
  bind : Answers
  /-- The answers to `update_config`. -/
  config : Answers
  /-- What `_log_event` finds. -/
  stamp : Stamp

/-- The record of a tenant with the fields of a demo set. -/
def DemoRequest.mark (request : DemoRequest) (expires : DateTime) (data : Dict) : Dict :=
  let data := data.set "is_demo" (.bool true)
  let data := data.set "demo_expires_at" (.str expires.isoformat)
  let data := data.set "demo_cost_cap_pipeline" (.int request.costCapPipeline)
  let data := data.set "demo_cost_cap_llm" (.int request.costCapLlm)
  data.set "demo_created_by" (.str request.createdBy)

/-- What is logged of a creation. -/
def DemoRequest.event (request : DemoRequest) (expiresAt : Json) : Dict :=
  [("created_by", .str request.createdBy), ("duration_days", .int request.durationDays),
   ("cost_cap_pipeline", .int request.costCapPipeline), ("cost_cap_llm", .int request.costCapLlm),
   ("expires_at", expiresAt)]

/-- What an expiry check finds. -/
structure ExpiryCheck where
  /-- `datetime.now(timezone.utc)`. -/
  time : DateTime
  /-- What `_log_event` finds. -/
  stamp : Stamp
  /-- The answers to `deactivate_tenant`. -/
  answers : Answers

namespace DemoManager

variable (demos : DemoManager)

/-- `_log_event`. -/
def logEvent (tenantId eventType : String) (data : Dict) (stamp : Stamp) : DemoCall Unit :=
  fun store =>
    let path := demoEventsKey tenantId
    match stamp.writeFails with
    | some exception => (.error exception, store)
    | none =>
      (.ok (),
        { store with
          texts := Function.update store.texts path
            (lengthened stamp.readFails (store.texts path)
              (demoLine demos.library stamp.nonce tenantId eventType stamp.time data)) })

/-- The part of `create_demo` that marks the record; the expiry that is logged. -/
def markRecord (request : DemoRequest) (time : DateTime) (tenantId : String) : DemoCall Json := do
  match ← loadTenantData tenantId with
  | none => pure (.str "")
  | some data =>
    if data.truthy then
      match plusDays time request.durationDays with
      | .error exception => throw exception
      | .ok expires =>
        saveTenantData tenantId (request.mark expires data)
        pure (.str expires.isoformat)
    else pure (.str "")

/-- The part of `create_demo` that stores the token of a proxy. -/
def storeToken (request : DemoRequest) (bind config : Answers) (tenantId : String) :
    DemoCall Unit :=
  if request.litellmToken = "" then pure ()
  else do
    let _ ← manage bind (demos.manager.bindOwnerSub tenantId ("demo:" ++ tenantId))
    let _ ← manage config (demos.manager.updateConfig tenantId
      { litellmProxyToken := some request.litellmToken })
    pure ()

/-- `create_demo`. -/
def createDemo (request : DemoRequest) (found : DemoCreation) : DemoCall Tenant := do
  let tenant ← manage found.create (demos.manager.createTenant request.name request.email .vip)
  let expiresAt ← markRecord request found.time tenant.tenantId
  demos.storeToken request found.bind found.config tenant.tenantId
  demos.logEvent tenant.tenantId "demo_created" (request.event expiresAt) found.stamp
  pure tenant

/-- `_expire_demo`. -/
def expireDemo (tenantId : String) (data : Dict) (check : ExpiryCheck) : DemoCall Unit := do
  demos.logEvent tenantId "demo_expired"
    [("expires_at", data.getD "demo_expires_at" (.str ""))] check.stamp
  let _ ← manage check.answers (demos.manager.deactivateTenant tenantId)
  pure ()

/-- `check_expiry`. An expiry without an offset counts as UTC. -/
def checkExpiry (tenantId : String) (check : ExpiryCheck) : DemoCall Bool := do
  match ← loadTenantData tenantId with
  | none => pure false
  | some data =>
    if !data.truthy then pure false
    else if !(data.getD "is_demo" .null).truthy then pure true
    else if !(data.getD "demo_expires_at" (.str "")).truthy then pure true
    else
      match readTime "demo_expires_at" (data.getD "demo_expires_at" (.str "")) with
      | .error exception => throw exception
      | .ok expires =>
        if expires.instant ≤ check.time.instant then do
          demos.expireDemo tenantId data check
          pure false
        else pure true

/-- The cap of `check_demo_cost_cap`; other usage has none. -/
def capOf (usageType : String) (data : Dict) : Option Json :=
  if usageType = "pipeline_run" then some (data.getD "demo_cost_cap_pipeline" (.int 50))
  else if usageType = "llm_call" then some (data.getD "demo_cost_cap_llm" (.int 100))
  else none

/-- `check_demo_cost_cap`. -/
def checkDemoCostCap (tenantId usageType : String) (currentCount : Int) (stamp : Stamp) :
    DemoCall Bool := do
  match ← loadTenantData tenantId with
  | none => pure true
  | some data =>
    if !data.truthy || !(data.getD "is_demo" .null).truthy then pure true
    else
      match capOf usageType data with
      | none => pure true
      | some cap =>
        match cap.number? with
        | none =>
          throw (.typeError ("'>=' not supported between instances of 'int' and '" ++
            Planner.typeName cap ++ "'"))
        | some number =>
          if number ≤ currentCount then do
            demos.logEvent tenantId "demo_cost_cap_reached"
              [("usage_type", .str usageType), ("count", .int currentCount), ("cap", cap)] stamp
            pure false
          else pure true

/-- `log_demo_error`. -/
def logDemoError (tenantId errorType errorDetail : String) (context : Dict) (stamp : Stamp) :
    DemoCall Unit :=
  demos.logEvent tenantId "error"
    [("error_type", .str errorType),
     ("error_detail", .str (String.ofList (errorDetail.toList.take 1000))),
     ("context", .obj context)] stamp

/-- `_load_events`: a text that cannot be read counts as empty. -/
def loadDemoEvents (tenantId : String) : DemoCall (List Json) := fun store =>
  (.ok (loadEvents demos.library tenantId (store.texts (demoEventsKey tenantId))), store)

/-- What `get_usage_analytics` returns. -/
structure Analytics where
  /-- `tenant_id`. -/
  tenantId : String
  /-- `is_demo`. -/
  isDemo : Json
  /-- `created_by`. -/
  createdBy : Json
  /-- `expires_at`. -/
  expiresAt : Json
  /-- `total_events`. -/
  totalEvents : Nat
  /-- `event_types`. -/
  eventTypes : Dict := []
  /-- `errors`. -/
  errors : List Json := []
  /-- `last_activity`. -/
  lastActivity : Option String := none

/-- One pass of the loop of `get_usage_analytics`. -/
def noteEvent (analytics : Analytics) (event : Json) : Except PyException Analytics :=
  match event with
  | .obj members => do
    let eventType ← fieldD asStr members "event_type" "unknown"
    let timestamp ← fieldD asStr members "timestamp" ""
    let counted := (analytics.eventTypes.getD eventType (.int 0)).increment
    let later := decide (timestamp ≠ "") &&
      analytics.lastActivity.all fun last => decide (last < timestamp)
    return { analytics with
      eventTypes := analytics.eventTypes.set eventType counted
      errors := if eventType = "error" then analytics.errors ++ [event] else analytics.errors
      lastActivity := if later then some timestamp else analytics.lastActivity }
  | value => .error (Planner.noAttribute value "get")

/-- `get_usage_analytics`. Event types and timestamps that are no texts are type errors. -/
def getUsageAnalytics (tenantId : String) : DemoCall Analytics := do
  let events ← demos.loadDemoEvents tenantId
  let data := (← loadTenantData tenantId).getD []
  match events.foldlM noteEvent
      { tenantId
        isDemo := if data.truthy then data.getD "is_demo" (.bool false) else .bool false
        createdBy := if data.truthy then data.getD "demo_created_by" (.str "") else .str ""
        expiresAt := if data.truthy then data.getD "demo_expires_at" (.str "") else .str ""
        totalEvents := events.length } with
  | .error exception => throw exception
  | .ok analytics => pure analytics

end DemoManager

section Calls

variable {α β : Type}

/-- A sequence goes on with what its first part returns, on the storage it left. -/
theorem on_bind (call : DemoCall α) (rest : α → DemoCall β) (store : DemoStore) :
    (call >>= rest).on store =
      match call.on store with
      | (.ok value, left) => (rest value).on left
      | (.error exception, left) => (.error exception, left) := by
  unfold DemoCall.on
  cases ran : call store with
  | mk outcome left =>
    show (ExceptT.bindCont rest (call store).1) (call store).2 = _
    rw [ran]
    cases outcome <;> rfl

/-- A value is returned on the storage that is there. -/
@[simp] theorem on_pure (value : α) (store : DemoStore) :
    (pure value : DemoCall α).on store = (.ok value, store) := rfl

/-- An exception leaves the storage that is there. -/
@[simp] theorem on_throw (exception : PyException) (store : DemoStore) :
    (throw exception : DemoCall α).on store = (.error exception, store) := rfl

/-- A method of the tenant manager ends as it does, on the documents it leaves. -/
theorem on_manage {answers : Answers} {routine : Routine α} {store : DemoStore}
    {outcome : Except PyException α} {left : World}
    (ran : routine.run answers store.world = (outcome, left)) :
    (manage answers routine).on store = (outcome, { store with world := left }) := by
  unfold manage DemoCall.on
  dsimp only
  rw [ran]

end Calls

/-- The tenant with the fields of a demo. -/
def DemoRequest.demo (request : DemoRequest) (expires : DateTime) (tenant : Tenant) : Tenant :=
  { tenant with
    isDemo := true
    demoExpiresAt := some expires
    demoCostCapPipeline := request.costCapPipeline
    demoCostCapLlm := request.costCapLlm
    demoCreatedBy := request.createdBy }

/-- A record that is marked is that of the demo. -/
theorem mark_toDict (request : DemoRequest) (expires : DateTime) (encryptor : FieldEncryptor)
    (sha256 : String → String) (nonce : String) (tenant : Tenant) :
    request.mark expires (toDict encryptor sha256 nonce tenant) =
      toDict encryptor sha256 nonce (request.demo expires tenant) := rfl

/-- Two states of one account differ in what the writers of its record change. -/
def SameAccount (origin current : Tenant) : Prop :=
  current =
    { origin with
      tier := current.tier
      role := current.role
      config := current.config
      isActive := current.isActive
      ownerGoogleSub := current.ownerGoogleSub
      stripeCustomerId := current.stripeCustomerId
      stripeSubscriptionId := current.stripeSubscriptionId }

/-- A tenant is stored that is of an account, and is active or not. -/
structure Account (manager : TenantManager) (origin : Tenant) (isActive : Bool)
    (world : World) (current : Tenant) : Prop where
  /-- Its record is stored under the id of the account. -/
  stored : ∃ nonce, world.storage.readJson (tenantKey origin.tenantId) =
    .ok (some (toDict manager.encryptor manager.sha256 nonce current))
  /-- Its role is aligned. -/
  aligned : Aligned current
  /-- It is of the account. -/
  same : SameAccount origin current
  /-- Whether it is active. -/
  active : current.isActive = isActive

section Accounts

variable {manager : TenantManager} {origin current : Tenant} {isActive : Bool} {world : World}
  {answers : Answers}

/-- The states of an account have its id. -/
theorem SameAccount.tenantId (same : SameAccount origin current) :
    current.tenantId = origin.tenantId := by
  unfold SameAccount at same
  rw [same]

/-- What an update writes is of the account. -/
theorem SameAccount.result (same : SameAccount origin current) (update : RecordUpdate) :
    SameAccount origin (update.result manager answers current) := by
  unfold SameAccount at same
  rw [same]
  cases update <;> rfl

/-- The account's record is stored, and decodes to its tenant. -/
theorem Account.record (account : Account manager origin isActive world current)
    (laws : CipherLaws manager.encryptor) (answers : Answers) :
    ∃ data, StoredRecord manager answers world origin.tenantId data current := by
  have ⟨nonce, stored⟩ := account.stored
  exact ⟨_, stored, fromDict_toDict_aligned laws nonce account.aligned _, account.same.tenantId⟩

/-- The key of an account's record resolves. -/
theorem Account.path (account : Account manager origin isActive world current) :
    ∃ path, resolve (tenantKey origin.tenantId) = .ok path := by
  have ⟨nonce, stored⟩ := account.stored
  unfold LocalStorage.readJson at stored
  cases resolved : resolve (tenantKey origin.tenantId) with
  | error exception =>
    rw [resolved] at stored
    cases stored
  | ok path => exact ⟨path, rfl⟩

/-- A world that stores a tenant of an account at its path. -/
theorem account_of_lookup {path : Path} (resolved : resolve (tenantKey origin.tenantId) = .ok path)
    {nonce : String}
    (found : world.storage.lookup path =
      some (toDict manager.encryptor manager.sha256 nonce current))
    (aligned : Aligned current) (same : SameAccount origin current) :
    Account manager origin current.isActive world current := by
  refine ⟨⟨nonce, ?_⟩, aligned, same, rfl⟩
  unfold LocalStorage.readJson
  rw [resolved]
  exact congrArg Except.ok found

/-- Saving a tenant of an account stores it. -/
theorem Account.save {changed : Tenant} (account : Account manager origin isActive world current)
    (laws : CipherLaws manager.encryptor) (aligned : Aligned changed)
    (same : SameAccount origin changed) :
    ∃ left, (manager.saveTenant changed).run answers world = (.ok (), left) ∧
      Account manager origin changed.isActive left changed := by
  have ⟨data, record⟩ := account.record laws answers
  have ⟨path, resolved, _⟩ := record.path
  have own : resolve (tenantKey changed.tenantId) = .ok path := by
    rw [same.tenantId]
    exact resolved
  have ⟨left, saved, storage⟩ := @run_saveTenant manager answers changed path own world
  have found := LocalStorage.lookup_put_self world.storage path
    (toDict manager.encryptor manager.sha256 (answers.nonce "api_key") changed)
  rw [← storage] at found
  exact ⟨left, saved, account_of_lookup resolved found aligned same⟩

/-- Whether an update ends an account. -/
def RecordUpdate.ends : RecordUpdate → Bool
  | deactivate => true
  | _ => false

/-- Only an update that ends an account changes whether it is active. -/
theorem isActive_result (update : RecordUpdate) (tenant : Tenant) :
    (update.result manager answers tenant).isActive = (tenant.isActive && !update.ends) := by
  cases update with
  | deactivate => exact (Bool.and_false _).symm
  | _ => exact (Bool.and_true _).symm

/-- An update keeps an account, and ends it if it is a deactivation. -/
theorem Account.update (account : Account manager origin isActive world current)
    (laws : CipherLaws manager.encryptor) (update : RecordUpdate) (answers : Answers) :
    ∃ next, Account manager origin (isActive && !update.ends)
      (update.after manager origin.tenantId answers world) next := by
  have ⟨nonce, stored⟩ := account.stored
  have ⟨data, record⟩ := account.record laws answers
  have ⟨path, resolved, found⟩ := record.path
  have left := lookup_after record resolved found update
  by_cases saves : update.saves current = true
  · rw [if_pos saves] at left
    have next := account_of_lookup resolved left (aligned_result account.aligned update)
      (account.same.result update)
    rw [isActive_result, account.active] at next
    exact ⟨_, next⟩
  · rw [if_neg saves] at left
    have stays : update.ends = false := by
      cases update with
      | deactivate => exact absurd rfl saves
      | _ => rfl
    rw [stays, Bool.not_false, Bool.and_true]
    refine ⟨current, ⟨nonce, ?_⟩, account.aligned, account.same, account.active⟩
    have data' : data = toDict manager.encryptor manager.sha256 nonce current :=
      Option.some.inj (Except.ok.inj (record.stored.symm.trans stored))
    unfold LocalStorage.readJson
    rw [resolved, ← data']
    exact congrArg Except.ok left

/-- Changing the tier of an account returns it. -/
theorem Account.tier (account : Account manager origin isActive world current)
    (laws : CipherLaws manager.encryptor) (newTier : TenantTier) (answers : Answers) :
    ∃ left, (manager.updateTier origin.tenantId newTier).run answers world =
        (.ok (some ((RecordUpdate.tier newTier).result manager answers current)), left) ∧
      Account manager origin isActive left
        ((RecordUpdate.tier newTier).result manager answers current) := by
  have ⟨data, record⟩ := account.record laws answers
  let changed := (RecordUpdate.tier newTier).result manager answers current
  have same : SameAccount origin changed := account.same.result (.tier newTier)
  have aligned : Aligned changed := aligned_result account.aligned (.tier newTier)
  have ⟨left, saved, stands⟩ := @Account.save manager origin current isActive world answers changed
    account laws aligned same
  rw [show changed.isActive = isActive from account.active] at stands
  refine ⟨left, ?_, stands⟩
  simp only [changed, RecordUpdate.result] at saved ⊢
  unfold TenantManager.updateTier
  rw [run_bind, run_getTenant_stored record]
  dsimp only
  rw [run_bind, saved]
  rfl

/-- Binding an account that has no owner returns. -/
theorem Account.bind (account : Account manager origin isActive world current)
    (laws : CipherLaws manager.encryptor) {googleSub : String} (filled : googleSub ≠ "")
    (unbound : current.ownerGoogleSub = "") (answers : Answers) :
    ∃ left, (manager.bindOwnerSub origin.tenantId googleSub).run answers world =
        (.ok (some { current with ownerGoogleSub := googleSub }), left) ∧
      Account manager origin isActive left { current with ownerGoogleSub := googleSub } := by
  have ⟨data, record⟩ := account.record laws answers
  let bound : Tenant := { current with ownerGoogleSub := googleSub }
  have same : SameAccount origin bound :=
    @SameAccount.result manager origin current answers account.same (.bind googleSub)
  have aligned : Aligned bound := account.aligned
  have ⟨left, saved, stands⟩ := @Account.save manager origin current isActive world answers bound
    account laws aligned same
  rw [show bound.isActive = isActive from account.active] at stands
  refine ⟨left, ?_, stands⟩
  have free : ¬(current.ownerGoogleSub ≠ "" ∧ current.ownerGoogleSub ≠ googleSub) :=
    fun both => both.1 unbound
  unfold TenantManager.bindOwnerSub
  rw [if_neg filled, run_bind, run_getTenant_stored record]
  dsimp only
  rw [if_neg free, if_pos unbound, run_bind, saved]
  rfl

/-- Giving credentials to an account that has an owner returns. -/
theorem Account.config (account : Account manager origin isActive world current)
    (laws : CipherLaws manager.encryptor) (bound : current.ownerGoogleSub ≠ "")
    (update : ConfigUpdate) (answers : Answers) :
    ∃ left, (manager.updateConfig origin.tenantId update).run answers world =
        (.ok (some ((RecordUpdate.config update).result manager answers current)), left) ∧
      Account manager origin isActive left
        ((RecordUpdate.config update).result manager answers current) := by
  have ⟨data, record⟩ := account.record laws answers
  let changed := (RecordUpdate.config update).result manager answers current
  have same : SameAccount origin changed := account.same.result (.config update)
  have aligned : Aligned changed := account.aligned
  have ⟨left, saved, stands⟩ := @Account.save manager origin current isActive world answers changed
    account laws aligned same
  rw [show changed.isActive = isActive from account.active] at stands
  refine ⟨left, ?_, stands⟩
  have allowed : ¬(update.hasSecret && decide (current.ownerGoogleSub = "")) = true := by
    simp [bound]
  simp only [changed, RecordUpdate.result, ConfigUpdate.secrets, account.same.tenantId] at saved ⊢
  unfold TenantManager.updateConfig
  rw [run_bind, run_getTenant_stored record]
  dsimp only
  rw [if_neg allowed]
  simp only [run_bind, run_encryptSecret, account.same.tenantId, saved, run_pure]

end Accounts

section Creation

variable {demos : DemoManager}

/-- What is logged leaves the documents. -/
theorem world_logEvent (tenantId eventType : String) (data : Dict) (stamp : Stamp)
    (store : DemoStore) :
    ((demos.logEvent tenantId eventType data stamp).on store).2.world = store.world := by
  unfold DemoManager.logEvent DemoCall.on
  cases stamp.writeFails <;> rfl

/-- What is logged is written unless writing fails. -/
theorem outcome_logEvent (tenantId eventType : String) (data : Dict) (stamp : Stamp)
    (store : DemoStore) :
    ((demos.logEvent tenantId eventType data stamp).on store).1 =
      match stamp.writeFails with
      | some exception => .error exception
      | none => .ok () := by
  unfold DemoManager.logEvent DemoCall.on
  cases stamp.writeFails <;> rfl

/-- The record of an account is loaded. -/
theorem Account.load {origin current : Tenant} {isActive : Bool} {store : DemoStore}
    (account : Account demos.manager origin isActive store.world current) :
    ∃ nonce, (loadTenantData origin.tenantId).on store =
      (.ok (some (toDict demos.manager.encryptor demos.manager.sha256 nonce current)), store) := by
  have ⟨nonce, stored⟩ := account.stored
  refine ⟨nonce, ?_⟩
  unfold loadTenantData DemoCall.on
  dsimp only
  rw [stored]
  rfl

/-- Days can be added within the calendar. -/
theorem plusDays_ok_iff (time : DateTime) (days : Int) :
    (∃ later, plusDays time days = .ok later) ↔
      1 ≤ time.date.ordinal + days ∧ time.date.ordinal + days ≤ Date.lastOrdinal := by
  have first := time.date.ordinal_pos
  have last := time.date.ordinal_le_last
  have bound : Date.lastOrdinal = 3652059 := rfl
  rw [← Date.exists_shiftDays_iff]
  unfold plusDays
  constructor
  · intro ⟨later, added⟩
    by_cases wide : days < -2147483648 ∨ 2147483647 < days
    · rw [if_pos wide] at added
      cases added
    · rw [if_neg wide] at added
      by_cases large : 999999999 < days.natAbs
      · rw [if_pos large] at added
        cases added
      · rw [if_neg large] at added
        cases shifted : time.date.shiftDays days with
        | none =>
          rw [shifted] at added
          cases added
        | some date => exact ⟨date, rfl⟩
  · intro ⟨date, shifted⟩
    have within := (Date.exists_shiftDays_iff _ _).mp ⟨date, shifted⟩
    rw [if_neg (by omega), if_neg (by omega), shifted]
    exact ⟨_, rfl⟩

/-- Days that are added count. -/
theorem instant_plusDays {time later : DateTime} {days : Int}
    (added : plusDays time days = .ok later) :
    later.instant = time.instant + days * 86400000000 := by
  unfold plusDays at added
  by_cases wide : days < -2147483648 ∨ 2147483647 < days
  · rw [if_pos wide] at added
    cases added
  · rw [if_neg wide] at added
    by_cases large : 999999999 < days.natAbs
    · rw [if_pos large] at added
      cases added
    · rw [if_neg large] at added
      cases shifted : time.date.shiftDays days with
      | none =>
        rw [shifted] at added
        cases added
      | some date =>
        rw [shifted] at added
        have counted := Date.ordinal_shiftDays shifted
        rw [← Except.ok.inj added]
        unfold DateTime.instant
        dsimp only
        rw [counted]
        ring


/-- `secrets.token_hex` writes hexadecimal digits. -/
def IsHex (token : String) : Prop :=
  ∀ character ∈ token.toList, character ∈ "0123456789abcdef".toList

/-- A tenant's id is a name, and so is that of the file of its record. -/
theorem isPart_of_isHex {token : String} (hex : IsHex token) :
    IsPart ("tn_" ++ token).toList ∧ IsPart ("tn_" ++ token ++ ".json").toList := by
  have slash : '/' ∉ token.toList := fun inside => absurd (hex _ inside) (by decide)
  have backslash : '\\' ∉ token.toList := fun inside => absurd (hex _ inside) (by decide)
  have front : "tn_".toList = ['t', 'n', '_'] := by decide
  have back : ".json".toList = ['.', 'j', 's', 'o', 'n'] := by decide
  constructor <;> simp [IsPart, front, back, slash, backslash]

/-- An account as it was created is of itself. -/
theorem sameAccount_self (origin : Tenant) : SameAccount origin origin := rfl

/-- A record is saved at the path of its key. -/
theorem on_saveTenantData (store : DemoStore) {tenantId : String} {path : Path}
    (resolved : resolve (tenantKey tenantId) = .ok path) (data : Dict) :
    ∃ left, (saveTenantData tenantId data).on store = (.ok (), { store with world := left }) ∧
      left.storage = store.world.storage.put path data := by
  refine ⟨(store.world.writeJson (tenantKey tenantId) data).2, ?_, ?_⟩
  · unfold saveTenantData DemoCall.on
    dsimp only
    rw [World.writeJson_of_resolve store.world resolved]
  · rw [World.writeJson_of_resolve store.world resolved]

/-- The record of an account is marked as a demo's when the expiry is in the calendar. -/
theorem on_markRecord {origin : Tenant} {store : DemoStore} (request : DemoRequest)
    (account : Account demos.manager origin true store.world origin) {time expires : DateTime}
    (added : plusDays time request.durationDays = .ok expires) :
    ∃ left, (DemoManager.markRecord request time origin.tenantId).on store =
        (.ok (.str expires.isoformat), left) ∧ left.texts = store.texts ∧
      Account demos.manager (request.demo expires origin) true left.world
        (request.demo expires origin) := by
  have ⟨nonce, loaded⟩ := account.load
  have ⟨path, resolved⟩ := account.path
  have filled : (toDict demos.manager.encryptor demos.manager.sha256 nonce origin).truthy = true :=
    rfl
  let demo := request.demo expires origin
  have ⟨left, saved, storage⟩ := on_saveTenantData store resolved
    (toDict demos.manager.encryptor demos.manager.sha256 nonce demo)
  have found := LocalStorage.lookup_put_self store.world.storage path
    (toDict demos.manager.encryptor demos.manager.sha256 nonce demo)
  rw [← storage] at found
  have aligned : Aligned demo := account.aligned
  have stands : Account demos.manager demo demo.isActive left demo :=
    account_of_lookup resolved found aligned (sameAccount_self demo)
  rw [show demo.isActive = true from account.active] at stands
  refine ⟨{ store with world := left }, ?_, rfl, stands⟩
  unfold DemoManager.markRecord
  rw [on_bind, loaded]
  dsimp only
  rw [if_pos filled, added]
  dsimp only
  rw [on_bind, mark_toDict, saved]
  rfl

/-- The record of an account is left when the expiry is not in the calendar. -/
theorem on_markRecord_error {origin : Tenant} {store : DemoStore} (request : DemoRequest)
    (account : Account demos.manager origin true store.world origin) {time : DateTime}
    {exception : PyException} (fails : plusDays time request.durationDays = .error exception) :
    (DemoManager.markRecord request time origin.tenantId).on store = (.error exception, store) := by
  have ⟨nonce, loaded⟩ := account.load
  have filled : (toDict demos.manager.encryptor demos.manager.sha256 nonce origin).truthy = true :=
    rfl
  unfold DemoManager.markRecord
  rw [on_bind, loaded]
  dsimp only
  rw [if_pos filled, fails]
  rfl

/-- The token of a proxy is stored, under an owner that stands for the demo. -/
theorem on_storeToken (laws : CipherLaws demos.manager.encryptor) {origin : Tenant}
    {store : DemoStore} (request : DemoRequest) (bind config : Answers)
    (account : Account demos.manager origin true store.world origin)
    (unbound : origin.ownerGoogleSub = "") :
    ∃ left current, (demos.storeToken request bind config origin.tenantId).on store =
        (.ok (), left) ∧ left.texts = store.texts ∧
      Account demos.manager origin true left.world current ∧ current.tier = origin.tier := by
  unfold DemoManager.storeToken
  by_cases none : request.litellmToken = ""
  · rw [if_pos none]
    exact ⟨store, origin, rfl, rfl, account, rfl⟩
  · have filled : "demo:" ++ origin.tenantId ≠ "" := by
      intro empty
      have characters := congrArg String.toList empty
      simp at characters
    have ⟨middle, bound, owned⟩ := account.bind laws filled unbound bind
    have ⟨left, changed, stands⟩ := owned.config laws filled
      { litellmProxyToken := some request.litellmToken } config
    rw [if_neg none]
    refine ⟨{ store with world := left }, _, ?_, rfl, stands, rfl⟩
    rw [on_bind, on_manage bound]
    dsimp only
    have second := @on_manage _ config _ { store with world := middle } _ _ changed
    rw [on_bind, second]
    rfl

/-- `create_tenant` stores an account. -/
theorem on_createTenant (laws : CipherLaws demos.manager.encryptor) (request : DemoRequest)
    (answers : Answers) (hex : IsHex answers.tokenHex) (store : DemoStore) :
    let made := newTenant request.name request.email .vip answers
    ∃ left, (manage answers (demos.manager.createTenant request.name request.email .vip)).on store =
        (.ok made, { store with world := left }) ∧ Account demos.manager made true left made := by
  intro made
  have ⟨named, file⟩ := isPart_of_isHex hex
  have ⟨left, created, record⟩ := run_createTenant_ok laws request.name request.email .vip named
    file store.world
  exact ⟨left, on_manage created, ⟨_, record.stored⟩, (of_decodes record.decodes).1, rfl, rfl⟩

/-- The expiry of a demo that is requested at a time is a date of the calendar. -/
def DemoRequest.InCalendar (request : DemoRequest) (time : DateTime) : Prop :=
  1 ≤ time.date.ordinal + request.durationDays ∧
    time.date.ordinal + request.durationDays ≤ Date.lastOrdinal

/-- What `create_demo` leaves of a demo: the account on the terms of the request. -/
structure OnTerms (request : DemoRequest) (time : DateTime) (current : Tenant) : Prop where
  /-- It is a demo. -/
  isDemo : current.isDemo = true
  /-- It expires when the days are over. -/
  expires : ∃ expires, current.demoExpiresAt = some expires ∧
    expires.instant = time.instant + request.durationDays * 86400000000
  /-- Its cap on pipeline runs. -/
  pipeline : current.demoCostCapPipeline = request.costCapPipeline
  /-- Its cap on calls of language models. -/
  llm : current.demoCostCapLlm = request.costCapLlm
  /-- Who created it. -/
  creator : current.demoCreatedBy = request.createdBy

/-- A state of a demo's account is on its terms. -/
theorem onTerms_of_account {request : DemoRequest} {time expires : DateTime} {made current : Tenant}
    (added : plusDays time request.durationDays = .ok expires)
    (same : SameAccount (request.demo expires made) current) : OnTerms request time current := by
  unfold SameAccount at same
  rw [same]
  exact ⟨rfl, ⟨expires, rfl, instant_plusDays added⟩, rfl, rfl, rfl⟩

/-- An account is found by any later call. -/
theorem Account.found {manager : TenantManager} {origin current : Tenant} {isActive : Bool}
    {world : World} (account : Account manager origin isActive world current)
    (laws : CipherLaws manager.encryptor) (answers : Answers) :
    (manager.getTenant origin.tenantId).run answers world = (.ok (some current), world) := by
  have ⟨data, record⟩ := account.record laws answers
  exact run_getTenant_stored record

/-- A demo whose expiry is in the calendar is created on its terms, even if the creation is not
logged. -/
theorem on_createDemo (laws : CipherLaws demos.manager.encryptor) (request : DemoRequest)
    (found : DemoCreation) (hex : IsHex found.create.tokenHex) (store : DemoStore)
    {expires : DateTime} (added : plusDays found.time request.durationDays = .ok expires) :
    let made := newTenant request.name request.email .vip found.create
    ∃ middle current, middle.texts = store.texts ∧
      (demos.createDemo request found).on store =
        (match found.stamp.writeFails with
          | some exception => .error exception
          | none => .ok made,
        ((demos.logEvent made.tenantId "demo_created"
          (request.event (.str expires.isoformat)) found.stamp).on middle).2) ∧
      Account demos.manager (request.demo expires made) true middle.world current ∧
      current.tier = .vip := by
  intro made
  have ⟨world, created, account⟩ := on_createTenant laws request found.create hex store
  have ⟨marked, isMarked, markedTexts, demo⟩ :=
    @on_markRecord demos made { store with world } request account _ _ added
  have ⟨middle, current, kept, storedTexts, stands, tier⟩ :=
    on_storeToken laws request found.bind found.config demo rfl
  have stored : (demos.storeToken request found.bind found.config made.tenantId).on marked =
      (.ok (), middle) := kept
  have outcome := @outcome_logEvent demos made.tenantId "demo_created"
    (request.event (.str expires.isoformat)) found.stamp middle
  refine ⟨middle, current, storedTexts.trans markedTexts, ?_, stands, tier⟩
  unfold DemoManager.createDemo
  rw [on_bind, created]
  dsimp only
  rw [on_bind, isMarked]
  dsimp only
  rw [on_bind, stored]
  dsimp only
  rw [on_bind]
  cases logged : (demos.logEvent made.tenantId "demo_created"
      (request.event (.str expires.isoformat)) found.stamp).on middle with
  | mk result left =>
    rw [logged] at outcome
    dsimp only at outcome
    rw [outcome]
    cases found.stamp.writeFails <;> rfl

/-- A demo whose expiry is not in the calendar is left as a tenant that is no demo. -/
theorem on_createDemo_error (laws : CipherLaws demos.manager.encryptor) (request : DemoRequest)
    (found : DemoCreation) (hex : IsHex found.create.tokenHex) (store : DemoStore)
    {exception : PyException}
    (fails : plusDays found.time request.durationDays = .error exception) :
    let made := newTenant request.name request.email .vip found.create
    ∃ left, (demos.createDemo request found).on store =
        (.error exception, { store with world := left }) ∧
      Account demos.manager made true left made := by
  intro made
  have ⟨left, created, account⟩ := on_createTenant laws request found.create hex store
  have stops := @on_markRecord_error demos made { store with world := left } request account _ _
    fails
  refine ⟨left, ?_, account⟩
  unfold DemoManager.createDemo
  rw [on_bind, created]
  dsimp only
  rw [on_bind, stops]

/-- An expiry that is not in the calendar overflows. -/
theorem plusDays_overflows {time : DateTime} {days : Int}
    (outside : ¬ ∃ later, plusDays time days = .ok later) :
    ∃ message, plusDays time days = .error (.other "OverflowError" message) := by
  unfold plusDays at outside ⊢
  by_cases wide : days < -2147483648 ∨ 2147483647 < days
  · rw [if_pos wide]
    exact ⟨_, rfl⟩
  · rw [if_neg wide] at outside ⊢
    by_cases large : 999999999 < days.natAbs
    · rw [if_pos large]
      exact ⟨_, rfl⟩
    · rw [if_neg large] at outside ⊢
      cases shifted : time.date.shiftDays days with
      | none => exact ⟨_, rfl⟩
      | some date =>
        rw [shifted] at outside
        exact absurd ⟨_, rfl⟩ outside

/-- However `create_demo` ends, it leaves an active VIP tenant. That is a demo on the terms of the
request exactly when its expiry is a date of the calendar; else the call raises, and the tenant
never counts as expired. -/
theorem createDemo_leaves (laws : CipherLaws demos.manager.encryptor) (request : DemoRequest)
    (found : DemoCreation) (hex : IsHex found.create.tokenHex) (store : DemoStore) :
    let made := newTenant request.name request.email .vip found.create
    let ended := (demos.createDemo request found).on store
    ∃ current,
      (∀ answers, (demos.manager.getTenant made.tenantId).run answers ended.2.world =
        (.ok (some current), ended.2.world)) ∧
      current.apiKey = made.apiKey ∧ current.tier = .vip ∧ current.isActive = true ∧
      (current.isDemo = true ↔ request.InCalendar found.time) ∧
      (request.InCalendar found.time → OnTerms request found.time current ∧
        ended.1 = match found.stamp.writeFails with
          | some exception => .error exception
          | none => .ok made) ∧
      (¬ request.InCalendar found.time →
        (∃ message, ended.1 = .error (.other "OverflowError" message)) ∧
          ∀ now, current.demoExpired now = false) := by
  intro made ended
  have calendar : request.InCalendar found.time ↔
      ∃ expires, plusDays found.time request.durationDays = .ok expires :=
    (plusDays_ok_iff _ _).symm
  by_cases inside : request.InCalendar found.time
  · have ⟨expires, added⟩ := calendar.mp inside
    have ⟨middle, current, _, ends, account, tier⟩ :=
      on_createDemo laws request found hex store added
    have terms := onTerms_of_account added account.same
    have world : ended.2.world = middle.world := by
      rw [show ended = _ from ends]
      exact world_logEvent _ _ _ _ _
    have key : current.apiKey = made.apiKey := by
      have same := account.same
      unfold SameAccount at same
      rw [same]
      rfl
    refine ⟨current, fun answers => ?_, key, tier, account.active, iff_of_true terms.isDemo inside,
      fun _ => ⟨terms, congrArg Prod.fst ends⟩, fun outside => absurd inside outside⟩
    rw [world]
    exact account.found laws answers
  · have ⟨message, fails⟩ := plusDays_overflows fun added => inside (calendar.mpr added)
    have ⟨left, ends, account⟩ := on_createDemo_error laws request found hex store fails
    have world : ended.2.world = left := by rw [show ended = _ from ends]
    refine ⟨made, fun answers => ?_, rfl, rfl, rfl, iff_of_false Bool.false_ne_true inside,
      fun within => absurd within inside, fun _ => ?_⟩
    · rw [world]
      exact account.found laws answers
    · exact ⟨⟨message, congrArg Prod.fst ends⟩, fun _ => rfl⟩

end Creation

section Sample

/-- A demo manager whose ciphers hide nothing. -/
def acmeDemos : DemoManager := ⟨acmeManager, sampleAudit⟩

/-- A demo that is to last for longer than the calendar. -/
def endlessRequest : DemoRequest :=
  { name := "Acme", email := "owner@acme", createdBy := "admin", durationDays := 3000000 }

/-- What its creation finds. -/
def acmeCreation : DemoCreation :=
  ⟨acmeAnswers, acmeNoon, acmeAnswers, acmeAnswers, { time := acmeNoon, utc := rfl }⟩

/-- A storage without documents. -/
def emptyStore : DemoStore := { world := { storage := .empty } }

/-- Its token is of one digit. -/
theorem isHex_acme : IsHex acmeCreation.create.tokenHex := by
  have digits : ("0".toList.all fun digit => "0123456789abcdef".toList.contains digit) = true := by
    decide
  intro character inside
  exact List.contains_iff_mem.mp (List.all_eq_true.mp digits character inside)

/-- The rule for that demo. -/
theorem createDemo_leaves_endless :
    ∃ current,
      (∀ answers, (acmeDemos.manager.getTenant
          (newTenant endlessRequest.name endlessRequest.email .vip
            acmeCreation.create).tenantId).run answers
          ((acmeDemos.createDemo endlessRequest acmeCreation).on emptyStore).2.world =
        (.ok (some current),
          ((acmeDemos.createDemo endlessRequest acmeCreation).on emptyStore).2.world)) ∧
      current.tier = .vip ∧ current.isActive = true ∧ current.isDemo = false ∧
      ∀ now, current.demoExpired now = false := by
  have ⟨current, found, _, tier, active, isDemo, _, outside⟩ := @createDemo_leaves acmeDemos
    acmeManager_laws endlessRequest acmeCreation isHex_acme emptyStore
  have day : acmeCreation.time.date.ordinal = 739252 := by decide +kernel
  have long : endlessRequest.durationDays = 3000000 := rfl
  have late : ¬ endlessRequest.InCalendar acmeCreation.time := by
    unfold DemoRequest.InCalendar Date.lastOrdinal
    rw [day, long]
    omega
  have plain : current.isDemo = false := Bool.eq_false_iff.mpr fun is => late (isDemo.mp is)
  exact ⟨current, found, tier, active, plain, (outside late).2⟩

end Sample

end VelaFlow.Tenants
