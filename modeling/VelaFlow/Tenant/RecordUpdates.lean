import VelaFlow.Tenant.Deactivation

/-!
# What updates keep of a tenant record

`update_tier`, `update_config`, `bind_owner_sub` and `deactivate_tenant` each read a whole record,
change some fields of it and write it back. What a record means is what it decodes to at any later
time, the API key behind its ciphertext, and the hash of that key. An update that writes keeps all
that it does not name exactly when the key can be decrypted.
-/
namespace VelaFlow.Tenants

open Process Security Storage

/-- An update of a tenant record. -/
inductive RecordUpdate where
  /-- `update_tier`. -/
  | tier (newTier : TenantTier)
  /-- `update_config`. -/
  | config (update : ConfigUpdate)
  /-- `bind_owner_sub`. -/
  | bind (googleSub : String)
  /-- `deactivate_tenant`. -/
  | deactivate

/-- The world an update leaves. -/
def RecordUpdate.after (manager : TenantManager) (tenantId : String) (answers : Answers)
    (world : World) : RecordUpdate → World
  | tier newTier => ((manager.updateTier tenantId newTier).run answers world).2
  | config update => ((manager.updateConfig tenantId update).run answers world).2
  | bind googleSub => ((manager.bindOwnerSub tenantId googleSub).run answers world).2
  | deactivate => ((manager.deactivateTenant tenantId).run answers world).2

section Meaning

/-- What a record holds of an API key. -/
inductive StoredKey where
  /-- No key. -/
  | none
  /-- A key. -/
  | key (value : String)
  /-- A ciphertext that the master key does not open. -/
  | locked (ciphertext : Json)

/-- A key, or none when it is empty. -/
def StoredKey.ofText (text : String) : StoredKey := if text = "" then none else key text

/-- The key, when it can be had. -/
def StoredKey.text : StoredKey → String
  | key value => value
  | none | locked _ => ""

/-- Opens a stored ciphertext. -/
def openKey (encryptor : FieldEncryptor) (data : Dict) (stored : Json) :
    Except PyException String := do
  let encrypted ← typed asStr "api_key_encrypted" stored
  let tenantId ← field asStr data "tenant_id"
  encryptor.decrypt encrypted tenantId "api_key"

/-- The API key of a record: behind its ciphertext, or else in plaintext. -/
def storedKey (encryptor : FieldEncryptor) (data : Dict) : StoredKey :=
  let stored := data.getD "api_key_encrypted" .null
  if stored.truthy then
    match openKey encryptor data stored with
    | .ok key => .ofText key
    | .error _ => .locked stored
  else .ofText ((asStr (data.getD "api_key" .null)).getD "")

/-- The hash of the API key that a record holds, empty when there is none. -/
def storedHash (data : Dict) : Json := data.getD "api_key_hash" (.str "")

/-- The new value of what is named, and the old one of what is not. -/
def pick {α β : Type} (named : Option α) (before after : β) : β :=
  if named.isSome then after else before

/-- An update of the configuration changes what it names. -/
def ConfigUpdate.Frame (update : ConfigUpdate) (before after : TenantConfig) : Prop :=
  after =
    { todoistApiTokenEncrypted := pick update.todoistToken before.todoistApiTokenEncrypted
        after.todoistApiTokenEncrypted
      notionApiTokenEncrypted := pick update.notionToken before.notionApiTokenEncrypted
        after.notionApiTokenEncrypted
      googleOauthTokenEncrypted := pick update.googleOauthToken before.googleOauthTokenEncrypted
        after.googleOauthTokenEncrypted
      gmailImapPasswordEncrypted := pick update.gmailImapPassword
        before.gmailImapPasswordEncrypted after.gmailImapPasswordEncrypted
      litellmProxyTokenEncrypted := pick update.litellmProxyToken
        before.litellmProxyTokenEncrypted after.litellmProxyTokenEncrypted
      geminiApiKeyEncrypted := pick update.geminiApiKey before.geminiApiKeyEncrypted
        after.geminiApiKeyEncrypted
      timezone := pick update.timezone before.timezone after.timezone
      dailyTopTaskLimit := pick update.dailyTopTaskLimit before.dailyTopTaskLimit
        after.dailyTopTaskLimit
      workdayStartHour := pick update.workdayStartHour before.workdayStartHour
        after.workdayStartHour
      workdayEndHour := pick update.workdayEndHour before.workdayEndHour after.workdayEndHour
      dailyDigestTime := pick update.dailyDigestTime before.dailyDigestTime after.dailyDigestTime
      dailyDigestDays := pick update.dailyDigestDays before.dailyDigestDays after.dailyDigestDays
      overdueAlertEnabled := pick update.overdueAlertEnabled before.overdueAlertEnabled
        after.overdueAlertEnabled
      overdueAlertIntervalHours := pick update.overdueAlertIntervalHours
        before.overdueAlertIntervalHours after.overdueAlertIntervalHours
      weekendPlannerEnabled := pick update.weekendPlannerEnabled before.weekendPlannerEnabled
        after.weekendPlannerEnabled
      weeklyReviewEnabled := pick update.weeklyReviewEnabled before.weeklyReviewEnabled
        after.weeklyReviewEnabled
      deliveryEmail := pick update.deliveryEmail before.deliveryEmail after.deliveryEmail
      deliveryWhatsapp := pick update.deliveryWhatsapp before.deliveryWhatsapp
        after.deliveryWhatsapp
      deliveryNotion := pick update.deliveryNotion before.deliveryNotion after.deliveryNotion
      whatsappPhone := pick update.whatsappPhone before.whatsappPhone after.whatsappPhone
      sourceTodoist := pick update.sourceTodoist before.sourceTodoist after.sourceTodoist
      sourceGoogleCalendar := pick update.sourceGoogleCalendar before.sourceGoogleCalendar
        after.sourceGoogleCalendar
      sourceGmail := pick update.sourceGmail before.sourceGmail after.sourceGmail
      useLocalLlm := pick update.useLocalLlm before.useLocalLlm after.useLocalLlm
      ragEnabled := pick update.ragEnabled before.ragEnabled after.ragEnabled
      ragCollection := before.ragCollection }

/-- The configurations before and after the credentials are wiped differ in those. -/
def WipeFrame (before after : TenantConfig) : Prop :=
  after =
    { before with
      todoistApiTokenEncrypted := after.todoistApiTokenEncrypted
      notionApiTokenEncrypted := after.notionApiTokenEncrypted
      googleOauthTokenEncrypted := after.googleOauthTokenEncrypted
      gmailImapPasswordEncrypted := after.gmailImapPasswordEncrypted
      litellmProxyTokenEncrypted := after.litellmProxyTokenEncrypted
      geminiApiKeyEncrypted := after.geminiApiKeyEncrypted }

/-- The tenants before and after an update differ in what it names. -/
def RecordUpdate.Frame (before after : Tenant) : RecordUpdate → Prop
  | tier _ => after = { before with tier := after.tier, role := after.role }
  | config update =>
    after = { before with config := after.config } ∧ update.Frame before.config after.config
  | bind _ => after = { before with ownerGoogleSub := after.ownerGoogleSub }
  | deactivate =>
    after = { before with isActive := after.isActive, config := after.config } ∧
      WipeFrame before.config after.config

/-- A record keeps the meaning of all that an update does not name. -/
structure Preserved (encryptor : FieldEncryptor) (update : RecordUpdate) (before after : Dict) :
    Prop where
  /-- The fields, whenever they are read. -/
  fields : ∀ later, ∃ one two, fromDict encryptor later before = .ok one ∧
    fromDict encryptor later after = .ok two ∧ update.Frame one two
  /-- The API key. -/
  apiKey : storedKey encryptor after = storedKey encryptor before
  /-- The hash of the API key, where there is one. -/
  hash : storedHash before ≠ .str "" → storedHash after = storedHash before

/-- Whether an update writes the record of a tenant. -/
def RecordUpdate.saves (tenant : Tenant) : RecordUpdate → Bool
  | tier _ | deactivate => true
  | config update => !(update.hasSecret && decide (tenant.ownerGoogleSub = ""))
  | bind googleSub => decide (googleSub ≠ "") && decide (tenant.ownerGoogleSub = "")

/-- A record whose API key can be had, with its hash, and that has a creation time. -/
structure Legible (manager : TenantManager) (data : Dict) : Prop where
  /-- The ciphertext opens, if there is one. -/
  opens : ∀ ciphertext, storedKey manager.encryptor data ≠ .locked ciphertext
  /-- The hash is that of the key, if there is one. -/
  hash : storedHash data = .str "" ∨ ∃ key, storedKey manager.encryptor data = .key key ∧
    storedHash data = .str (manager.sha256 key)
  /-- There is a creation time. -/
  created : data.get? "created_at" ≠ none

end Meaning

section Decoding

/-- A creation time that is stored reads the same at any time. -/
theorem readCreatedAt_later {now created : DateTime} {data : Dict}
    (read : readCreatedAt now data = .ok created) (later : DateTime) :
    readCreatedAt later data =
      .ok (if data.get? "created_at" = none then later else created) := by
  unfold readCreatedAt at read ⊢
  cases stored : data.get? "created_at" with
  | none => rfl
  | some value =>
    rw [stored] at read
    simpa using read

/-- A tenant with another creation time. -/
def Tenant.createdOn (tenant : Tenant) (created : DateTime) : Tenant :=
  { tenant with createdAt := created }

/-- Aligning the role keeps the creation time. -/
theorem postInit_createdAt (tenant : Tenant) : tenant.postInit.createdAt = tenant.createdAt := by
  unfold Tenant.postInit
  split <;> rfl

/-- Aligning the role does not depend on the creation time. -/
theorem postInit_createdOn (tenant : Tenant) (created : DateTime) :
    (tenant.createdOn created).postInit = tenant.postInit.createdOn created := by
  unfold Tenant.postInit Tenant.createdOn
  by_cases default : tenant.role = "free" ∧ tenant.tier ≠ .free
  · rw [if_pos default, if_pos default]
  · rw [if_neg default, if_neg default]

/-- What a record decodes to depends on the time by its creation time only. -/
theorem fromDict_later {encryptor : FieldEncryptor} {now : DateTime} {data : Dict}
    {tenant : Tenant} (decodes : fromDict encryptor now data = .ok tenant) (later : DateTime) :
    fromDict encryptor later data =
      .ok (tenant.createdOn
        (if data.get? "created_at" = none then later else tenant.createdAt)) := by
  unfold fromDict at decodes ⊢
  simp only [bind_ok_iff] at decodes ⊢
  obtain ⟨stored, hasStored, tenantId, hasId, name, hasName, email, hasEmail, tierValue, hasValue,
    tier, hasTier, role, hasRole, isActive, hasActive, created, hasCreated, rest⟩ := decodes
  refine ⟨stored, hasStored, tenantId, hasId, name, hasName, email, hasEmail, tierValue, hasValue,
    tier, hasTier, role, hasRole, isActive, hasActive, _, readCreatedAt_later hasCreated later, ?_⟩
  obtain ⟨customer, hasCustomer, subscription, hasSubscription, owner, hasOwner, version,
    hasVersion, isDemo, hasDemo, expiry, hasExpiry, pipeline, hasPipeline, llm, hasLlm, creator,
    hasCreator, config, hasConfig, built⟩ := rest
  refine ⟨customer, hasCustomer, subscription, hasSubscription, owner, hasOwner, version,
    hasVersion, isDemo, hasDemo, expiry, hasExpiry, pipeline, hasPipeline, llm, hasLlm, creator,
    hasCreator, config, hasConfig, ?_⟩
  obtain rfl := Except.ok.inj built
  rw [postInit_createdAt, ← postInit_createdOn]
  rfl

/-- Reading the API key decrypts only. -/
theorem readApiKey_of_decrypt {encryptor other : FieldEncryptor}
    (same : encryptor.decrypt = other.decrypt) (data : Dict) :
    readApiKey encryptor data = readApiKey other data := by
  simp only [readApiKey, decryptApiKey, same]

/-- What a record decodes to depends on the encryptor by the API key only. -/
theorem fromDict_of_readApiKey {encryptor other : FieldEncryptor} {now : DateTime} {data : Dict}
    (same : readApiKey encryptor data = readApiKey other data) :
    fromDict encryptor now data = fromDict other now data := by
  unfold fromDict
  rw [same]

/-- A tenant whose role is aligned with its tier. -/
def Aligned (tenant : Tenant) : Prop := ¬(tenant.role = "free" ∧ tenant.tier ≠ .free)

/-- Aligning the role aligns it. -/
theorem aligned_postInit (tenant : Tenant) : Aligned tenant.postInit := by
  unfold Tenant.postInit Aligned
  by_cases default : tenant.role = "free" ∧ tenant.tier ≠ .free
  · rw [if_pos default]
    rintro ⟨free, paid⟩
    cases tier : tenant.tier with
    | free => exact paid tier
    | standard => simp [tier, TenantTier.value] at free
    | premium => simp [tier, TenantTier.value] at free
    | vip => simp [tier, TenantTier.value] at free
  · rw [if_neg default]
    exact default

/-- An aligned role stays. -/
theorem postInit_of_aligned {tenant : Tenant} (aligned : Aligned tenant) :
    tenant.postInit = tenant := if_neg aligned

/-- What a record decodes to is aligned, under the tenant's id, and with the key that is stored. -/
theorem of_decodes {encryptor : FieldEncryptor} {now : DateTime} {data : Dict} {tenant : Tenant}
    (decodes : fromDict encryptor now data = .ok tenant) :
    Aligned tenant ∧ tenant.apiKey = readApiKey encryptor data := by
  unfold fromDict at decodes
  simp only [bind_ok_iff] at decodes
  obtain ⟨stored, -, tenantId, -, name, -, email, -, tierValue, -, tier, -, role, -, isActive, -,
    created, -, customer, -, subscription, -, owner, -, version, -, isDemo, -, expiry, -,
    pipeline, -, llm, -, creator, -, config, -, built⟩ := decodes
  obtain rfl := Except.ok.inj built
  refine ⟨aligned_postInit _, ?_⟩
  unfold Tenant.postInit
  split <;> rfl

end Decoding

section Runs

/-- The ciphertext of a credential that is given, or the one the tenant has. -/
def encryptedSecret (manager : TenantManager) (answers : Answers)
    (tenantId ownerSub fieldName stored : String) : Option String → String
  | none => stored
  | some value =>
    manager.cred.encrypt (answers.nonce fieldName) value tenantId ownerSub fieldName

/-- The configuration with the credentials that are given. -/
def ConfigUpdate.secrets (update : ConfigUpdate) (manager : TenantManager) (answers : Answers)
    (tenantId ownerSub : String) (config : TenantConfig) : TenantConfig :=
  let encrypted := encryptedSecret manager answers tenantId ownerSub
  { config with
    todoistApiTokenEncrypted := encrypted "todoist_api_token" config.todoistApiTokenEncrypted
      update.todoistToken
    notionApiTokenEncrypted := encrypted "notion_api_token" config.notionApiTokenEncrypted
      update.notionToken
    litellmProxyTokenEncrypted := encrypted "litellm_proxy_token"
      config.litellmProxyTokenEncrypted update.litellmProxyToken
    gmailImapPasswordEncrypted := encrypted "gmail_imap_password"
      config.gmailImapPasswordEncrypted update.gmailImapPassword
    googleOauthTokenEncrypted := encrypted "google_oauth_token"
      config.googleOauthTokenEncrypted update.googleOauthToken
    geminiApiKeyEncrypted := encrypted "gemini_api_key" config.geminiApiKeyEncrypted
      update.geminiApiKey }

/-- The tenant that an update writes. -/
def RecordUpdate.result (manager : TenantManager) (answers : Answers) (tenant : Tenant) :
    RecordUpdate → Tenant
  | tier newTier => { tenant with tier := newTier, role := newTier.value }
  | config update =>
    { tenant with
      config := update.preferences
        (update.secrets manager answers tenant.tenantId tenant.ownerGoogleSub tenant.config) }
  | bind googleSub => { tenant with ownerGoogleSub := googleSub }
  | deactivate => { tenant with isActive := false, config := wipeCredentials tenant.config }

/-- A record as it is stored under the id of its tenant. -/
structure StoredRecord (manager : TenantManager) (answers : Answers) (world : World)
    (tenantId : String) (data : Dict) (tenant : Tenant) : Prop where
  /-- It is stored. -/
  stored : world.storage.readJson (tenantKey tenantId) = .ok (some data)
  /-- It decodes. -/
  decodes : fromDict manager.encryptor (answers.clock .record) data = .ok tenant
  /-- It is the tenant's. -/
  own : tenant.tenantId = tenantId

variable {manager : TenantManager} {answers : Answers} {world : World} {tenantId : String}
  {data : Dict} {tenant : Tenant}

/-- A stored record lies at the path of its key. -/
theorem StoredRecord.path (record : StoredRecord manager answers world tenantId data tenant) :
    ∃ path, resolve (tenantKey tenantId) = .ok path ∧ world.storage.lookup path = some data := by
  have stored := record.stored
  unfold LocalStorage.readJson at stored
  cases resolved : resolve (tenantKey tenantId) with
  | error exception =>
    rw [resolved] at stored
    cases stored
  | ok path =>
    rw [resolved] at stored
    exact ⟨path, rfl, Except.ok.inj stored⟩

/-- Looking up a stored record gives its tenant. -/
theorem run_getTenant_stored
    (record : StoredRecord manager answers world tenantId data tenant) :
    (manager.getTenant tenantId).run answers world = (.ok (some tenant), world) := by
  unfold TenantManager.getTenant
  rw [run_bind, run_readJson, record.stored]
  simp only [run_bind, run_now, run_lift, record.decodes, run_pure]

/-- Saving a tenant writes its record. -/
theorem run_saveTenant {path : Path} (resolved : resolve (tenantKey tenant.tenantId) = .ok path)
    (world : World) :
    let record := toDict manager.encryptor manager.sha256 (answers.nonce "api_key") tenant
    ∃ left, (manager.saveTenant tenant).run answers world = (.ok (), left) ∧
      left.storage = world.storage.put path record := by
  intro record
  unfold TenantManager.saveTenant
  simp only [run_bind, run_drawNonce, run_writeJson, World.writeJson, LocalStorage.writeJson,
    resolved, Except.map]
  exact ⟨_, rfl, rfl⟩

/-- Encrypting a credential leaves the world alone. -/
theorem run_encryptSecret (ownerSub fieldName stored : String) (given : Option String)
    (world : World) :
    (manager.encryptSecret tenantId ownerSub fieldName stored given).run answers world =
      (.ok (encryptedSecret manager answers tenantId ownerSub fieldName stored given), world) := by
  cases given with
  | none => rfl
  | some value =>
    unfold TenantManager.encryptSecret encryptedSecret
    simp only [run_bind, run_drawNonce, run_pure]

/-- The key of a tenant's record begins as no cleaned directory does. -/
theorem spared_tenantKey {path : Path} (resolved : resolve (tenantKey tenantId) = .ok path) :
    Spared path := by
  have key : tenantKey tenantId = "tenants" ++ "/" ++ (tenantId ++ ".json") := by
    unfold tenantKey
    rw [show "tenants/" = "tenants" ++ "/" from by decide, String.append_assoc]
  have parts : path.parts = "tenants".toList :: keyParts (tenantId ++ ".json") := by
    rw [parts_of_resolve resolved, key, keyParts_directory (by decide)]
  refine Or.inr fun directory inside same => ?_
  rw [head?_toKey parts] at same
  have apart : ∀ name ∈ cleanedDirectories, "tenants".toList.head? ≠ name.toList.head? := by decide
  exact apart directory inside same

/-- What is stored after an update that writes, and after one that does not. -/
theorem lookup_after (record : StoredRecord manager answers world tenantId data tenant)
    {path : Path} (resolved : resolve (tenantKey tenantId) = .ok path)
    (found : world.storage.lookup path = some data) (update : RecordUpdate) :
    (update.after manager tenantId answers world).storage.lookup path =
      some (if update.saves tenant then
        toDict manager.encryptor manager.sha256 (answers.nonce "api_key")
          (update.result manager answers tenant)
      else data) := by
  have read := run_getTenant_stored record
  have save : ∀ {changed : Tenant}, changed.tenantId = tenantId →
      ∃ left, (manager.saveTenant changed).run answers world = (.ok (), left) ∧
        left.storage = world.storage.put path
          (toDict manager.encryptor manager.sha256 (answers.nonce "api_key") changed) := by
    intro changed own
    exact run_saveTenant (own.symm ▸ resolved) world
  have own : (update.result manager answers tenant).tenantId = tenantId := by
    rw [← record.own]
    cases update <;> rfl
  obtain ⟨left, saved, storage⟩ := save own
  cases update with
  | tier newTier =>
    simp only [RecordUpdate.result] at saved
    simp only [RecordUpdate.after, TenantManager.updateTier, run_bind, read, saved, run_pure,
      storage, LocalStorage.lookup_put_self, RecordUpdate.saves, if_true, RecordUpdate.result]
  | config update =>
    simp only [RecordUpdate.after, TenantManager.updateConfig, run_bind, read, RecordUpdate.saves]
    by_cases refused : update.hasSecret && decide (tenant.ownerGoogleSub = "")
    · simp only [refused, if_true, run_raise, found, Bool.not_true, Bool.false_eq_true, if_false]
    · simp only [RecordUpdate.result, ConfigUpdate.secrets, record.own] at saved storage
      simp only [refused, Bool.false_eq_true, if_false, run_bind, run_encryptSecret, saved,
        run_pure, storage, LocalStorage.lookup_put_self, Bool.not_false, if_true,
        RecordUpdate.result, ConfigUpdate.secrets, record.own]
  | bind googleSub =>
    simp only [RecordUpdate.after, TenantManager.bindOwnerSub, RecordUpdate.saves]
    by_cases empty : googleSub = ""
    · simp only [empty, if_true, run_raise, found, ne_eq, not_true_eq_false, decide_false,
        Bool.false_and, Bool.false_eq_true, if_false]
    · simp only [empty, if_false, run_bind, read]
      by_cases unbound : tenant.ownerGoogleSub = ""
      · simp only [RecordUpdate.result] at saved
        simp [unbound, empty, run_bind, saved, storage, RecordUpdate.result]
      · by_cases other : tenant.ownerGoogleSub ≠ googleSub
        · simp [unbound, other, found]
        · simp [unbound, other, found]
  | deactivate =>
    simp only [RecordUpdate.result] at saved
    have cleaned := lookup_deleteDirectories answers tenantId (spared_tenantKey resolved)
      (fun directory inside => inside) left
    unfold cleanedDirectories at cleaned
    simp only [RecordUpdate.after, TenantManager.deactivateTenant, run_bind, read, saved,
      RecordUpdate.saves, if_true, RecordUpdate.result]
    rw [storage, LocalStorage.lookup_put_self] at cleaned
    cases done : (TenantManager.deleteDirectories tenantId cleanedDirectories).run answers left with
    | mk outcome final =>
      unfold cleanedDirectories at done
      rw [done] at cleaned ⊢
      cases outcome with
      | error exception => exact cleaned
      | ok value => exact cleaned

end Runs

section Keeping

variable {manager : TenantManager} {answers : Answers} {world : World} {tenantId : String}
  {data : Dict} {tenant : Tenant}

/-- The key that is read is the one that is stored, when it can be had. -/
theorem readApiKey_eq (encryptor : FieldEncryptor) (data : Dict) :
    readApiKey encryptor data = (storedKey encryptor data).text := by
  have text : ∀ key, (StoredKey.ofText key).text = key := by
    intro key
    unfold StoredKey.ofText
    by_cases empty : key = ""
    · rw [if_pos empty, empty]
      rfl
    · rw [if_neg empty]
      rfl
  unfold readApiKey storedKey
  by_cases filled : (data.getD "api_key_encrypted" .null).truthy
  · simp only [filled, if_true]
    unfold decryptApiKey
    rw [show (do
      let encrypted ← typed asStr "api_key_encrypted" (data.getD "api_key_encrypted" .null)
      let tenantId ← field asStr data "tenant_id"
      encryptor.decrypt encrypted tenantId "api_key") =
        openKey encryptor data (data.getD "api_key_encrypted" .null) from rfl]
    cases openKey encryptor data (data.getD "api_key_encrypted" .null) with
    | error exception => rfl
    | ok key => exact (text key).symm
  · simp only [filled, Bool.false_eq_true, if_false]
    exact (text _).symm

/-- A key that can be had is known by its text. -/
theorem storedKey_eq_ofText {encryptor : FieldEncryptor} {data : Dict}
    (opens : ∀ ciphertext, storedKey encryptor data ≠ .locked ciphertext) :
    storedKey encryptor data = .ofText (readApiKey encryptor data) := by
  have of : ∀ key : String, StoredKey.ofText (StoredKey.ofText key).text = .ofText key := by
    intro key
    unfold StoredKey.ofText
    by_cases empty : key = ""
    · simp [empty, StoredKey.text]
    · simp [empty, StoredKey.text]
  rw [readApiKey_eq]
  unfold storedKey at opens ⊢
  by_cases filled : (data.getD "api_key_encrypted" .null).truthy
  · simp only [filled, if_true] at opens ⊢
    cases opened : openKey encryptor data (data.getD "api_key_encrypted" .null) with
    | error exception =>
      rw [opened] at opens
      exact absurd rfl (opens _)
    | ok key => exact (of key).symm
  · simp only [filled, Bool.false_eq_true, if_false]
    exact (of _).symm

/-- A record that is written holds the key of its tenant. -/
theorem storedKey_toDict (laws : CipherLaws manager.encryptor) (nonce : String)
    (tenant : Tenant) :
    storedKey manager.encryptor (toDict manager.encryptor manager.sha256 nonce tenant) =
      .ofText tenant.apiKey := by
  have stored : (toDict manager.encryptor manager.sha256 nonce tenant).getD "api_key_encrypted"
      .null = .str (if tenant.apiKey = "" then ""
        else manager.encryptor.encrypt nonce tenant.apiKey tenant.tenantId "api_key") := rfl
  unfold storedKey
  rw [stored]
  by_cases empty : tenant.apiKey = ""
  · rw [if_pos empty, empty]
    rfl
  · have filled := laws.filled nonce tenant.apiKey tenant.tenantId "api_key"
    have opened : openKey manager.encryptor
        (toDict manager.encryptor manager.sha256 nonce tenant)
        (.str (manager.encryptor.encrypt nonce tenant.apiKey tenant.tenantId "api_key")) =
          .ok tenant.apiKey := laws.decrypts nonce tenant.apiKey tenant.tenantId "api_key"
    rw [if_neg empty]
    simp only [Json.truthy, filled, ne_eq, not_false_eq_true, decide_true, if_true, opened]

/-- A record that is written decodes to its tenant, when the role is aligned. -/
theorem fromDict_toDict_aligned (laws : CipherLaws manager.encryptor) (nonce : String)
    (aligned : Aligned tenant) (later : DateTime) :
    fromDict manager.encryptor later (toDict manager.encryptor manager.sha256 nonce tenant) =
      .ok tenant := by
  have key : readApiKey manager.encryptor
      (toDict manager.encryptor manager.sha256 nonce tenant) = tenant.apiKey := by
    rw [readApiKey_eq, storedKey_toDict laws]
    unfold StoredKey.ofText
    by_cases empty : tenant.apiKey = ""
    · rw [if_pos empty, empty]
      rfl
    · rw [if_neg empty]
      rfl
  rw [fromDict_toDict, key]
  exact congrArg Except.ok (postInit_of_aligned aligned)

/-- What an update writes is aligned when what it read is. -/
theorem aligned_result (aligned : Aligned tenant) (update : RecordUpdate) :
    Aligned (update.result manager answers tenant) := by
  cases update with
  | tier newTier =>
    rintro ⟨free, paid⟩
    cases newTier with
    | free => exact paid rfl
    | standard => simp [RecordUpdate.result, TenantTier.value] at free
    | premium => simp [RecordUpdate.result, TenantTier.value] at free
    | vip => simp [RecordUpdate.result, TenantTier.value] at free
  | config update => exact aligned
  | bind googleSub => exact aligned
  | deactivate => exact aligned

/-- What is not named stays, what is named is new. -/
theorem pick_getD {α : Type} (named : Option α) (before : α) :
    pick named before (named.getD before) = named.getD before := by
  cases named <;> rfl

/-- A credential that is not given stays. -/
theorem pick_encryptedSecret (ownerSub fieldName stored : String) (given : Option String) :
    pick given stored (encryptedSecret manager answers tenantId ownerSub fieldName stored given) =
      encryptedSecret manager answers tenantId ownerSub fieldName stored given := by
  cases given <;> rfl

/-- What an update writes differs from what it read in what it names. -/
theorem frame_result (update : RecordUpdate) (tenant : Tenant) :
    update.Frame tenant (update.result manager answers tenant) := by
  cases update with
  | tier newTier => rfl
  | config update =>
    refine ⟨rfl, ?_⟩
    unfold ConfigUpdate.Frame
    simp only [RecordUpdate.result, ConfigUpdate.preferences, ConfigUpdate.secrets, pick_getD,
      pick_encryptedSecret]
  | bind googleSub => rfl
  | deactivate => exact ⟨rfl, rfl⟩

/-- Nothing differs from itself. -/
theorem frame_self (update : RecordUpdate) (tenant : Tenant) : update.Frame tenant tenant := by
  have same : ∀ {α β : Type} (named : Option α) (value : β), pick named value value = value := by
    intro α β named value
    cases named <;> rfl
  cases update with
  | tier newTier => rfl
  | config update =>
    refine ⟨rfl, ?_⟩
    unfold ConfigUpdate.Frame
    simp only [same]
  | bind googleSub => rfl
  | deactivate => exact ⟨rfl, rfl⟩

/-- The creation time is not named. -/
theorem frame_createdAt {update : RecordUpdate} {before after : Tenant}
    (frame : update.Frame before after) : after.createdAt = before.createdAt := by
  cases update with
  | tier newTier => rw [show after = _ from frame]
  | config update => rw [frame.1]
  | bind googleSub => rw [show after = _ from frame]
  | deactivate => rw [frame.1]

/-- There is another time. -/
theorem exists_time_ne (time : DateTime) : ∃ later : DateTime, later ≠ time := by
  let first : DateTime := ⟨⟨2025, 1, 1, Date.valid_january (by decide)⟩, 12, 0, 0, 0, some 0,
    DateTime.valid_noon⟩
  let second : DateTime := ⟨⟨2025, 1, 2, Date.valid_january (by decide)⟩, 12, 0, 0, 0, some 0,
    DateTime.valid_noon⟩
  have apart : first ≠ second := by simp [first, second]
  by_cases same : first = time
  · exact ⟨second, fun is => apart (same.trans is.symm)⟩
  · exact ⟨first, same⟩

/-- The key that is written is the key that was read. -/
theorem apiKey_result (update : RecordUpdate) :
    (update.result manager answers tenant).apiKey = tenant.apiKey := by
  cases update <;> rfl

/-- The hash that is written. -/
theorem storedHash_toDict (nonce : String) (tenant : Tenant) :
    storedHash (toDict manager.encryptor manager.sha256 nonce tenant) =
      .str (if tenant.apiKey = "" then "" else manager.sha256 tenant.apiKey) := rfl

/-- A record that was rewritten keeps its meaning exactly when it was legible. -/
theorem preserved_result_iff (laws : CipherLaws manager.encryptor)
    (record : StoredRecord manager answers world tenantId data tenant) (update : RecordUpdate) :
    Preserved manager.encryptor update data
        (toDict manager.encryptor manager.sha256 (answers.nonce "api_key")
          (update.result manager answers tenant)) ↔ Legible manager data := by
  obtain ⟨aligned, apiKey⟩ := of_decodes record.decodes
  have written := fromDict_toDict_aligned laws (answers.nonce "api_key")
    (@aligned_result manager answers _ aligned update)
  have before := fromDict_later record.decodes
  have key := storedKey_toDict laws (answers.nonce "api_key")
    (update.result manager answers tenant)
  rw [apiKey_result] at key
  have hash := @storedHash_toDict manager (answers.nonce "api_key")
    (update.result manager answers tenant)
  rw [apiKey_result] at hash
  constructor
  · intro kept
    have opens : ∀ ciphertext, storedKey manager.encryptor data ≠ .locked ciphertext := by
      intro ciphertext is
      rw [← kept.apiKey, key] at is
      unfold StoredKey.ofText at is
      split at is <;> cases is
    refine ⟨opens, ?_, ?_⟩
    · by_cases none : storedHash data = .str ""
      · exact Or.inl none
      · have same := kept.hash none
        rw [hash] at same
        by_cases empty : tenant.apiKey = ""
        · rw [if_pos empty] at same
          exact absurd same.symm none
        · rw [if_neg empty] at same
          refine Or.inr ⟨tenant.apiKey, ?_, same.symm⟩
          rw [storedKey_eq_ofText opens, ← apiKey]
          exact if_neg empty
    · intro missing
      obtain ⟨later, apart⟩ := exists_time_ne (answers.clock .record)
      obtain ⟨one, two, first, second, frame⟩ := kept.fields later
      have old := before later
      have now := before (answers.clock .record)
      rw [if_pos missing] at old now
      obtain rfl := Except.ok.inj (old.symm.trans first)
      obtain rfl := Except.ok.inj ((written later).symm.trans second)
      have recorded := congrArg Tenant.createdAt (Except.ok.inj (record.decodes.symm.trans now))
      have same := frame_createdAt frame
      have kept := frame_createdAt (@frame_result manager answers update tenant)
      exact apart (same.symm.trans (kept.trans recorded))
  · intro legible
    have old : ∀ later, fromDict manager.encryptor later data = .ok tenant := by
      intro later
      rw [before later, if_neg legible.created]
      rfl
    have frame := @frame_result manager answers update tenant
    refine ⟨fun later => ⟨_, _, old later, written later, frame⟩, ?_, ?_⟩
    · rw [key, storedKey_eq_ofText legible.opens, apiKey]
    · intro some
      rcases legible.hash with none | ⟨value, holds, same⟩
      · exact absurd none some
      · have is := storedKey_eq_ofText legible.opens
        rw [← apiKey, holds] at is
        rw [hash, same]
        by_cases empty : tenant.apiKey = ""
        · rw [StoredKey.ofText, if_pos empty] at is
          cases is
        · rw [StoredKey.ofText, if_neg empty] at is
          rw [if_neg empty, StoredKey.key.inj is]

/-- An update of a stored record keeps the meaning of all it does not name exactly when it does not
write the record or the record is legible. -/
theorem preserved_after_iff (laws : CipherLaws manager.encryptor)
    (record : StoredRecord manager answers world tenantId data tenant) (update : RecordUpdate) :
    (∃ after, (update.after manager tenantId answers world).storage.readJson
        (tenantKey tenantId) = .ok (some after) ∧
        Preserved manager.encryptor update data after) ↔
      (update.saves tenant = true → Legible manager data) := by
  obtain ⟨path, resolved, found⟩ := record.path
  have stored := lookup_after record resolved found update
  unfold LocalStorage.readJson
  rw [resolved]
  simp only [Except.map, stored, Except.ok.injEq, Option.some.injEq, exists_eq_left']
  by_cases saved : update.saves tenant = true
  · rw [if_pos saved, preserved_result_iff laws record update]
    exact ⟨fun legible _ => legible, fun all => all saved⟩
  · rw [if_neg saved]
    refine iff_of_true ⟨fun later => ?_, rfl, fun _ => rfl⟩ fun is => absurd is saved
    have read := fromDict_later record.decodes later
    exact ⟨_, _, read, read, frame_self update _⟩

end Keeping

section Sample

/-- A manager whose ciphers hide nothing. -/
def acmeManager : TenantManager where
  encryptor := sampleEncryptor
  cred := ⟨fun _ plaintext _ _ _ => plaintext, fun encrypted _ _ _ => .ok encrypted⟩
  sha256 key := "sha256:" ++ key

/-- The encryptor under a former master key, whose ciphertexts the current one does not open. -/
def formerEncryptor : FieldEncryptor :=
  ⟨fun _ plaintext _ _ => "former:" ++ plaintext, sampleEncryptor.decrypt⟩

/-- The first day of a January is one of its days. -/
theorem valid_acmeDay :
    1 ≤ 2025 ∧ 2025 ≤ 9999 ∧ 1 ≤ 1 ∧ 1 ≤ 12 ∧ 1 ≤ 1 ∧ 1 ≤ daysInMonth 2025 1 :=
  Date.valid_january (by decide)

/-- Noon of that day. -/
def acmeNoon : DateTime := ⟨⟨2025, 1, 1, valid_acmeDay⟩, 12, 0, 0, 0, some 0, DateTime.valid_noon⟩

/-- A tenant. -/
def acmeTenant : Tenant where
  tenantId := "acme"
  name := "Acme"
  email := "owner@acme"
  tier := .standard
  role := "standard"
  apiKey := "key"
  createdAt := acmeNoon

/-- Its record, as it was stored under the former master key. -/
def acmeRecord : Dict := toDict formerEncryptor acmeManager.sha256 "" acmeTenant

/-- Answers of the clock and of the ciphers. -/
def acmeAnswers : Answers where
  clock _ := acmeNoon
  started := acmeNoon
  tokenHex := "0"
  tokenUrlsafe := "key"
  nonce _ := ""
  execute := ⟨[], .ok ⟨"run_1", "completed", 0⟩⟩
  augmentPrompt _ := .ok ""
  ragIngest chunks := (.ok 0, chunks)
  ragQuery _ := .ok []
  ragDelete chunks := (.ok 0, chunks)
  localClient := .ok ()
  localAvailable := .ok false
  localChat := .ok none
  callLlm := .ok none

/-- The path of the record has two parts. -/
theorem areParts_acme : ∀ part ∈ ["tenants".toList, "acme.json".toList], IsPart part := by decide

/-- The path of the record. -/
def acmePath : Path := ⟨["tenants".toList, "acme.json".toList], areParts_acme⟩

/-- The key of the record resolves. -/
theorem resolve_acme : resolve (tenantKey "acme") = .ok acmePath :=
  resolve_eq_ok (by decide +kernel)

/-- A world that has the record stored. -/
def acmeWorld : World := { storage := LocalStorage.empty.put acmePath acmeRecord }

/-- The record is found. -/
theorem lookup_acmeRecord : acmeWorld.storage.lookup acmePath = some acmeRecord :=
  LocalStorage.lookup_put_self LocalStorage.empty acmePath acmeRecord

/-- The encryptor of the manager has the laws. -/
theorem acmeManager_laws : CipherLaws acmeManager.encryptor := sampleEncryptor_laws

/-- The current master key does not open the stored ciphertext. -/
theorem storedKey_acmeRecord :
    storedKey acmeManager.encryptor acmeRecord = .locked (.str "former:key") := by
  have stored : acmeRecord.getD "api_key_encrypted" .null = .str "former:key" := by
    simp [acmeRecord, acmeTenant, toDict, Dict.getD, formerEncryptor]
  have fails : openKey acmeManager.encryptor acmeRecord (.str "former:key") =
      .error (.other "InvalidTag" "") := by
    have decrypted : acmeManager.encryptor.decrypt "former:key" "acme" "api_key" =
        .error (.other "InvalidTag" "") := by
      simp [acmeManager, sampleEncryptor, sampleLabel]
    exact decrypted
  unfold storedKey
  rw [stored]
  simp only [Json.truthy, ne_eq, String.reduceEq, not_false_eq_true, decide_true, if_true, fails]

/-- The record is stored, and decodes to the tenant without its key. -/
theorem stored_acmeRecord :
    StoredRecord acmeManager acmeAnswers acmeWorld "acme" acmeRecord
      { acmeTenant with apiKey := "" } where
  stored := by
    unfold LocalStorage.readJson
    rw [resolve_acme]
    simp only [Except.map, lookup_acmeRecord]
  decodes := by
    have key : readApiKey acmeManager.encryptor acmeRecord = "" := by
      rw [readApiKey_eq, storedKey_acmeRecord]
      rfl
    have same := readApiKey_of_decrypt
      (show formerEncryptor.decrypt = acmeManager.encryptor.decrypt from rfl) acmeRecord
    have aligned : Aligned { acmeTenant with apiKey := "" } := fun both =>
      absurd both.1 (by decide)
    rw [← fromDict_of_readApiKey same, acmeRecord, fromDict_toDict, ← acmeRecord, same, key]
    exact congrArg Except.ok (postInit_of_aligned aligned)
  own := rfl

/-- A change of the tier loses an API key that the current master key does not open. -/
theorem updateTier_loses_apiKey :
    StoredRecord acmeManager acmeAnswers acmeWorld "acme" acmeRecord
        { acmeTenant with apiKey := "" } ∧
      ¬ ∃ after,
        ((RecordUpdate.tier .premium).after acmeManager "acme" acmeAnswers
          acmeWorld).storage.readJson (tenantKey "acme") = .ok (some after) ∧
        Preserved acmeManager.encryptor (.tier .premium) acmeRecord after := by
  refine ⟨stored_acmeRecord, ?_⟩
  rintro ⟨after, read, kept⟩
  have written := lookup_after stored_acmeRecord resolve_acme lookup_acmeRecord (.tier .premium)
  unfold LocalStorage.readJson at read
  rw [resolve_acme] at read
  obtain rfl := Option.some.inj ((written.symm.trans (Except.ok.inj read)))
  have legible := (preserved_result_iff acmeManager_laws stored_acmeRecord _).mp kept
  exact legible.opens _ storedKey_acmeRecord

/-- The rule for a change of the tier of that record. -/
theorem preserved_after_iff_acme :
    (∃ after,
        ((RecordUpdate.tier .premium).after acmeManager "acme" acmeAnswers
          acmeWorld).storage.readJson (tenantKey "acme") = .ok (some after) ∧
        Preserved acmeManager.encryptor (.tier .premium) acmeRecord after) ↔
      (RecordUpdate.saves { acmeTenant with apiKey := "" } (.tier .premium) = true →
        Legible acmeManager acmeRecord) :=
  preserved_after_iff acmeManager_laws stored_acmeRecord (.tier .premium)

end Sample

end VelaFlow.Tenants
