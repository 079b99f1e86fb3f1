import VelaFlow.Process.Actions
import VelaFlow.Tenant.Records

/-!
# The tenant manager

`TenantManager` of `tenant/manager.py`: each method as a routine over the storage.
-/
namespace VelaFlow.Tenants

open Process Security

/-- What a `TenantManager` is built from, besides its storage. -/
structure TenantManager where
  /-- `_encryptor`. -/
  encryptor : FieldEncryptor
  /-- `_cred`. -/
  cred : CredentialEncryptor
  /-- `hashlib.sha256(...).hexdigest()`. -/
  sha256 : String → String

/-- The key of a tenant's record. -/
def tenantKey (tenantId : String) : String := "tenants/" ++ tenantId ++ ".json"

/-- The arguments of `update_config`: a credential or a preference that is not given stays. -/
structure ConfigUpdate where
  /-- `todoist_token`. -/
  todoistToken : Option String := none
  /-- `notion_token`. -/
  notionToken : Option String := none
  /-- `litellm_proxy_token`. -/
  litellmProxyToken : Option String := none
  /-- `gmail_imap_password`. -/
  gmailImapPassword : Option String := none
  /-- `google_oauth_token`. -/
  googleOauthToken : Option String := none
  /-- `gemini_api_key`. -/
  geminiApiKey : Option String := none
  /-- `timezone`. -/
  timezone : Option String := none
  /-- `daily_top_task_limit`. -/
  dailyTopTaskLimit : Option Int := none
  /-- `workday_start_hour`. -/
  workdayStartHour : Option Int := none
  /-- `workday_end_hour`. -/
  workdayEndHour : Option Int := none
  /-- `daily_digest_time`. -/
  dailyDigestTime : Option String := none
  /-- `daily_digest_days`. -/
  dailyDigestDays : Option String := none
  /-- `overdue_alert_enabled`. -/
  overdueAlertEnabled : Option Bool := none
  /-- `overdue_alert_interval_hours`. -/
  overdueAlertIntervalHours : Option Int := none
  /-- `weekend_planner_enabled`. -/
  weekendPlannerEnabled : Option Bool := none
  /-- `weekly_review_enabled`. -/
  weeklyReviewEnabled : Option Bool := none
  /-- `delivery_email`. -/
  deliveryEmail : Option Bool := none
  /-- `delivery_whatsapp`. -/
  deliveryWhatsapp : Option Bool := none
  /-- `delivery_notion`. -/
  deliveryNotion : Option Bool := none
  /-- `whatsapp_phone`. -/
  whatsappPhone : Option String := none
  /-- `source_todoist`. -/
  sourceTodoist : Option Bool := none
  /-- `source_google_calendar`. -/
  sourceGoogleCalendar : Option Bool := none
  /-- `source_gmail`. -/
  sourceGmail : Option Bool := none
  /-- `use_local_llm`. -/
  useLocalLlm : Option Bool := none
  /-- `rag_enabled`. -/
  ragEnabled : Option Bool := none

/-- Whether any credential is given. -/
def ConfigUpdate.hasSecret (update : ConfigUpdate) : Bool :=
  update.todoistToken.isSome || update.notionToken.isSome || update.litellmProxyToken.isSome ||
    update.gmailImapPassword.isSome || update.googleOauthToken.isSome ||
    update.geminiApiKey.isSome

/-- The configuration with the preferences that are given. -/
def ConfigUpdate.preferences (update : ConfigUpdate) (config : TenantConfig) : TenantConfig :=
  { config with
    timezone := update.timezone.getD config.timezone
    dailyTopTaskLimit := update.dailyTopTaskLimit.getD config.dailyTopTaskLimit
    workdayStartHour := update.workdayStartHour.getD config.workdayStartHour
    workdayEndHour := update.workdayEndHour.getD config.workdayEndHour
    dailyDigestTime := update.dailyDigestTime.getD config.dailyDigestTime
    dailyDigestDays := update.dailyDigestDays.getD config.dailyDigestDays
    overdueAlertEnabled := update.overdueAlertEnabled.getD config.overdueAlertEnabled
    overdueAlertIntervalHours :=
      update.overdueAlertIntervalHours.getD config.overdueAlertIntervalHours
    weekendPlannerEnabled := update.weekendPlannerEnabled.getD config.weekendPlannerEnabled
    weeklyReviewEnabled := update.weeklyReviewEnabled.getD config.weeklyReviewEnabled
    deliveryEmail := update.deliveryEmail.getD config.deliveryEmail
    deliveryWhatsapp := update.deliveryWhatsapp.getD config.deliveryWhatsapp
    deliveryNotion := update.deliveryNotion.getD config.deliveryNotion
    whatsappPhone := update.whatsappPhone.getD config.whatsappPhone
    sourceTodoist := update.sourceTodoist.getD config.sourceTodoist
    sourceGoogleCalendar := update.sourceGoogleCalendar.getD config.sourceGoogleCalendar
    sourceGmail := update.sourceGmail.getD config.sourceGmail
    useLocalLlm := update.useLocalLlm.getD config.useLocalLlm
    ragEnabled := update.ragEnabled.getD config.ragEnabled }

/-- The configuration with its credentials wiped. -/
def wipeCredentials (config : TenantConfig) : TenantConfig :=
  { config with
    todoistApiTokenEncrypted := ""
    notionApiTokenEncrypted := ""
    googleOauthTokenEncrypted := ""
    gmailImapPasswordEncrypted := ""
    litellmProxyTokenEncrypted := ""
    geminiApiKeyEncrypted := "" }

namespace TenantManager

variable (manager : TenantManager)

/-- `_save_tenant`. -/
def saveTenant (tenant : Tenant) : Routine Unit := do
  let nonce ← drawNonce "api_key"
  writeJson (tenantKey tenant.tenantId) (toDict manager.encryptor manager.sha256 nonce tenant)

/-- `get_tenant`. -/
def getTenant (tenantId : String) : Routine (Option Tenant) := do
  match ← readJson (tenantKey tenantId) with
  | none => pure none
  | some data =>
    let time ← now .record
    let tenant ← pureOf (fromDict manager.encryptor time data)
    pure (some tenant)

/-- The loop of `create_tenant` over the storage partitions. -/
def writePartitions (tenantId : String) : List Layer → Routine Unit
  | [] => pure ()
  | layer :: rest => do
    let created ← now .creation
    writeJson (layer.name ++ "/" ++ tenantId ++ "/.partition")
      [("tenant_id", .str tenantId), ("layer", .str layer.name),
       ("created_at", .str created.isoformat)]
    writePartitions tenantId rest

/-- `create_tenant`. -/
def createTenant (name email : String) (tier : TenantTier) : Routine Tenant := do
  let token ← tokenHex
  let apiKey ← tokenUrlsafe
  let created ← now .creation
  let tenant : Tenant :=
    { tenantId := "tn_" ++ token, name, email, tier, role := tier.value, apiKey,
      createdAt := created }
  writePartitions tenant.tenantId [.bronze, .silver, .gold, .runs]
  manager.saveTenant tenant
  pure tenant

/-- The loop of `list_tenants` over the listed keys. -/
def readTenants : List String → Routine (List Tenant)
  | [] => pure []
  | key :: rest =>
    if ".partition".toList.isSuffixOf key.toList then readTenants rest
    else do
      let data ← readJson key
      match data with
      | none => readTenants rest
      | some data =>
        if data.truthy then do
          let time ← now .record
          let tenant ← pureOf (fromDict manager.encryptor time data)
          let others ← readTenants rest
          pure (tenant :: others)
        else readTenants rest

/-- `list_tenants`. -/
def listTenants : Routine (List Tenant) := do
  let keys ← listKeys "tenants/"
  manager.readTenants keys

/-- `update_tier`. -/
def updateTier (tenantId : String) (newTier : TenantTier) : Routine (Option Tenant) := do
  match ← manager.getTenant tenantId with
  | none => pure none
  | some tenant =>
    let tenant := { tenant with tier := newTier, role := newTier.value }
    manager.saveTenant tenant
    pure (some tenant)

/-- The ciphertext of a credential that is given, or the one the tenant has. -/
def encryptSecret (tenantId ownerSub fieldName stored : String) :
    Option String → Routine String
  | none => pure stored
  | some value => do
    let nonce ← drawNonce fieldName
    pure (manager.cred.encrypt nonce value tenantId ownerSub fieldName)

/-- `update_config`. -/
def updateConfig (tenantId : String) (update : ConfigUpdate) : Routine (Option Tenant) := do
  match ← manager.getTenant tenantId with
  | none => pure none
  | some tenant =>
    if update.hasSecret && decide (tenant.ownerGoogleSub = "") then
      Program.raise (.runtimeError
        ("Tenant has not completed Google OAuth yet; refusing " ++
          "to write encrypted credentials without owner_google_sub."))
    else do
      let config := tenant.config
      let ownerSub := tenant.ownerGoogleSub
      let todoist ← manager.encryptSecret tenantId ownerSub "todoist_api_token"
        config.todoistApiTokenEncrypted update.todoistToken
      let notion ← manager.encryptSecret tenantId ownerSub "notion_api_token"
        config.notionApiTokenEncrypted update.notionToken
      let litellm ← manager.encryptSecret tenantId ownerSub "litellm_proxy_token"
        config.litellmProxyTokenEncrypted update.litellmProxyToken
      let gmail ← manager.encryptSecret tenantId ownerSub "gmail_imap_password"
        config.gmailImapPasswordEncrypted update.gmailImapPassword
      let google ← manager.encryptSecret tenantId ownerSub "google_oauth_token"
        config.googleOauthTokenEncrypted update.googleOauthToken
      let gemini ← manager.encryptSecret tenantId ownerSub "gemini_api_key"
        config.geminiApiKeyEncrypted update.geminiApiKey
      let config := { config with
        todoistApiTokenEncrypted := todoist
        notionApiTokenEncrypted := notion
        litellmProxyTokenEncrypted := litellm
        gmailImapPasswordEncrypted := gmail
        googleOauthTokenEncrypted := google
        geminiApiKeyEncrypted := gemini }
      let tenant := { tenant with config := update.preferences config }
      manager.saveTenant tenant
      pure (some tenant)

/-- The inner loop of `deactivate_tenant`: deletes the listed keys. -/
def deleteAll : List String → Routine Unit
  | [] => pure ()
  | key :: rest => do
    let _ ← delete key
    deleteAll rest

/-- The loop of `deactivate_tenant` over the tenant's directories. -/
def deleteDirectories (tenantId : String) : List String → Routine Unit
  | [] => pure ()
  | directory :: rest => do
    let keys ← listKeys (directory ++ "/" ++ tenantId ++ "/")
    deleteAll keys
    deleteDirectories tenantId rest

/-- `deactivate_tenant`. -/
def deactivateTenant (tenantId : String) : Routine Bool := do
  match ← manager.getTenant tenantId with
  | none => pure false
  | some tenant =>
    manager.saveTenant { tenant with isActive := false, config := wipeCredentials tenant.config }
    deleteDirectories tenantId ["bronze", "silver", "gold", "runs", "vault", "users", "invites"]
    pure true

/-- `decrypt_credential`. -/
def decryptCredential (tenant : Tenant) (encrypted fieldName : String) :
    Except PyException String :=
  if encrypted = "" then .ok ""
  else if tenant.ownerGoogleSub = "" then
    .error (.credentialNotDecryptable
      ("tenant " ++ tenant.tenantId ++ " has no owner_google_sub bound"))
  else manager.cred.decrypt encrypted tenant.tenantId tenant.ownerGoogleSub fieldName

/-- `bind_owner_sub`. -/
def bindOwnerSub (tenantId googleSub : String) : Routine (Option Tenant) :=
  if googleSub = "" then Program.raise (.valueError "google_sub is required")
  else do
    match ← manager.getTenant tenantId with
    | none => pure none
    | some tenant =>
      if tenant.ownerGoogleSub ≠ "" ∧ tenant.ownerGoogleSub ≠ googleSub then
        Program.raise (.runtimeError
          ("tenant " ++ tenantId ++ " already bound to a different owner_sub; " ++
            "refusing to rebind. Run the credential rotation procedure."))
      else if tenant.ownerGoogleSub = "" then do
        let tenant := { tenant with ownerGoogleSub := googleSub }
        manager.saveTenant tenant
        pure (some tenant)
      else pure (some tenant)

end TenantManager

end VelaFlow.Tenants
