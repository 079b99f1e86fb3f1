import VelaFlow.Foundation.Json
import VelaFlow.Security.Encryption
import VelaFlow.Tenant.Models

/-!
# Stored tenant records

`_to_dict` and `_from_dict` of `tenant/manager.py`. Python keeps whatever type a stored value
has; here a value of another type than `_to_dict` writes is a `TypeError`.
-/
namespace VelaFlow.Tenants

open Security

/-- Reads a string. -/
def asStr : Json → Option String
  | .str value => some value
  | _ => none

/-- Reads a boolean. -/
def asBool : Json → Option Bool
  | .bool value => some value
  | _ => none

/-- Reads an integer. -/
def asInt : Json → Option Int
  | .int value => some value
  | _ => none

/-- Reads a dictionary. -/
def asDict : Json → Option Dict
  | .obj members => some members
  | _ => none

/-- The value of a key that is present. -/
def typed {α : Type} (read : Json → Option α) (key : String) (value : Json) :
    Except PyException α :=
  match read value with
  | some result => .ok result
  | none => .error (.typeError key)

/-- `d[key]`. -/
def field {α : Type} (read : Json → Option α) (dict : Dict) (key : String) :
    Except PyException α :=
  match dict.get? key with
  | some value => typed read key value
  | none => .error (.keyError key)

/-- `d.get(key, default)`. -/
def fieldD {α : Type} (read : Json → Option α) (dict : Dict) (key : String) (default : α) :
    Except PyException α :=
  match dict.get? key with
  | some value => typed read key value
  | none => .ok default

/-- The dictionary of a configuration. -/
def configToDict (config : TenantConfig) : Dict :=
  [("todoist_api_token_encrypted", .str config.todoistApiTokenEncrypted),
   ("notion_api_token_encrypted", .str config.notionApiTokenEncrypted),
   ("google_oauth_token_encrypted", .str config.googleOauthTokenEncrypted),
   ("gmail_imap_password_encrypted", .str config.gmailImapPasswordEncrypted),
   ("litellm_proxy_token_encrypted", .str config.litellmProxyTokenEncrypted),
   ("gemini_api_key_encrypted", .str config.geminiApiKeyEncrypted),
   ("timezone", .str config.timezone),
   ("daily_top_task_limit", .int config.dailyTopTaskLimit),
   ("workday_start_hour", .int config.workdayStartHour),
   ("workday_end_hour", .int config.workdayEndHour),
   ("daily_digest_time", .str config.dailyDigestTime),
   ("daily_digest_days", .str config.dailyDigestDays),
   ("overdue_alert_enabled", .bool config.overdueAlertEnabled),
   ("overdue_alert_interval_hours", .int config.overdueAlertIntervalHours),
   ("weekend_planner_enabled", .bool config.weekendPlannerEnabled),
   ("weekly_review_enabled", .bool config.weeklyReviewEnabled),
   ("delivery_email", .bool config.deliveryEmail),
   ("delivery_whatsapp", .bool config.deliveryWhatsapp),
   ("delivery_notion", .bool config.deliveryNotion),
   ("whatsapp_phone", .str config.whatsappPhone),
   ("source_todoist", .bool config.sourceTodoist),
   ("source_google_calendar", .bool config.sourceGoogleCalendar),
   ("source_gmail", .bool config.sourceGmail),
   ("use_local_llm", .bool config.useLocalLlm),
   ("rag_enabled", .bool config.ragEnabled),
   ("rag_collection", .str config.ragCollection)]

/-- The configuration in a dictionary. -/
def configFromDict (dict : Dict) : Except PyException TenantConfig := do
  let todoistApiTokenEncrypted ← fieldD asStr dict "todoist_api_token_encrypted" ""
  let notionApiTokenEncrypted ← fieldD asStr dict "notion_api_token_encrypted" ""
  let googleOauthTokenEncrypted ← fieldD asStr dict "google_oauth_token_encrypted" ""
  let gmailImapPasswordEncrypted ← fieldD asStr dict "gmail_imap_password_encrypted" ""
  let litellmProxyTokenEncrypted ← fieldD asStr dict "litellm_proxy_token_encrypted" ""
  let geminiApiKeyEncrypted ← fieldD asStr dict "gemini_api_key_encrypted" ""
  let timezone ← fieldD asStr dict "timezone" "Europe/Lisbon"
  let dailyTopTaskLimit ← fieldD asInt dict "daily_top_task_limit" 5
  let workdayStartHour ← fieldD asInt dict "workday_start_hour" 9
  let workdayEndHour ← fieldD asInt dict "workday_end_hour" 18
  let dailyDigestTime ← fieldD asStr dict "daily_digest_time" "07:00"
  let dailyDigestDays ← fieldD asStr dict "daily_digest_days" "mon,tue,wed,thu,fri"
  let overdueAlertEnabled ← fieldD asBool dict "overdue_alert_enabled" false
  let overdueAlertIntervalHours ← fieldD asInt dict "overdue_alert_interval_hours" 4
  let weekendPlannerEnabled ← fieldD asBool dict "weekend_planner_enabled" false
  let weeklyReviewEnabled ← fieldD asBool dict "weekly_review_enabled" false
  let deliveryEmail ← fieldD asBool dict "delivery_email" true
  let deliveryWhatsapp ← fieldD asBool dict "delivery_whatsapp" false
  let deliveryNotion ← fieldD asBool dict "delivery_notion" false
  let whatsappPhone ← fieldD asStr dict "whatsapp_phone" ""
  let sourceTodoist ← fieldD asBool dict "source_todoist" true
  let sourceGoogleCalendar ← fieldD asBool dict "source_google_calendar" false
  let sourceGmail ← fieldD asBool dict "source_gmail" false
  let useLocalLlm ← fieldD asBool dict "use_local_llm" false
  let ragEnabled ← fieldD asBool dict "rag_enabled" false
  let ragCollection ← fieldD asStr dict "rag_collection" ""
  return { todoistApiTokenEncrypted, notionApiTokenEncrypted, googleOauthTokenEncrypted,
           gmailImapPasswordEncrypted, litellmProxyTokenEncrypted, geminiApiKeyEncrypted,
           timezone, dailyTopTaskLimit, workdayStartHour, workdayEndHour, dailyDigestTime,
           dailyDigestDays, overdueAlertEnabled, overdueAlertIntervalHours,
           weekendPlannerEnabled, weeklyReviewEnabled, deliveryEmail, deliveryWhatsapp,
           deliveryNotion, whatsappPhone, sourceTodoist, sourceGoogleCalendar, sourceGmail,
           useLocalLlm, ragEnabled, ragCollection }

/-- A configuration is read back from its dictionary. -/
theorem configFromDict_configToDict (config : TenantConfig) :
    configFromDict (configToDict config) = .ok config := by
  rfl

/-- `datetime.fromisoformat` of a stored value. -/
def readTime (key : String) (value : Json) : Except PyException DateTime := do
  let text ← typed asStr key value
  match DateTime.fromIsoformat text with
  | some time => .ok time
  | none => .error (.valueError ("Invalid isoformat string: '" ++ text ++ "'"))

/-- `datetime.fromisoformat(d["created_at"])`, or the current time when the key is missing. -/
def readCreatedAt (now : DateTime) (dict : Dict) : Except PyException DateTime :=
  match dict.get? "created_at" with
  | some value => readTime "created_at" value
  | none => .ok now

/-- The expiry of a demo: none when the value is missing or empty. -/
def readExpiry (dict : Dict) : Except PyException (Option DateTime) :=
  match dict.get? "demo_expires_at" with
  | none => .ok none
  | some value =>
    if value.truthy then (readTime "demo_expires_at" value).map some else .ok none

/-- Decrypts a stored API key; empty when anything fails. -/
def decryptApiKey (encryptor : FieldEncryptor) (dict : Dict) (stored : Json) : String :=
  match (do
    let encrypted ← typed asStr "api_key_encrypted" stored
    let tenantId ← field asStr dict "tenant_id"
    encryptor.decrypt encrypted tenantId "api_key") with
  | .ok key => key
  | .error _ => ""

/-- The API key of a record: decrypted, or else the plaintext key of an older record. -/
def readApiKey (encryptor : FieldEncryptor) (dict : Dict) : String :=
  let stored := dict.getD "api_key_encrypted" .null
  if stored.truthy then decryptApiKey encryptor dict stored
  else (asStr (dict.getD "api_key" .null)).getD ""

/-- `_to_dict`, with the nonce of the API key's encryption. -/
def toDict (encryptor : FieldEncryptor) (sha256 : String → String) (nonce : String)
    (tenant : Tenant) : Dict :=
  [("tenant_id", .str tenant.tenantId),
   ("name", .str tenant.name),
   ("email", .str tenant.email),
   ("tier", .str tenant.tier.value),
   ("role", .str tenant.role),
   ("api_key_encrypted",
    .str (if tenant.apiKey = "" then ""
      else encryptor.encrypt nonce tenant.apiKey tenant.tenantId "api_key")),
   ("api_key_hash", .str (if tenant.apiKey = "" then "" else sha256 tenant.apiKey)),
   ("is_active", .bool tenant.isActive),
   ("created_at", .str tenant.createdAt.isoformat),
   ("config", .obj (configToDict tenant.config)),
   ("stripe_customer_id", .str tenant.stripeCustomerId),
   ("stripe_subscription_id", .str tenant.stripeSubscriptionId),
   ("owner_google_sub", .str tenant.ownerGoogleSub),
   ("credential_schema_version", .int tenant.credentialSchemaVersion),
   ("is_demo", .bool tenant.isDemo),
   ("demo_expires_at", .str ((tenant.demoExpiresAt.map DateTime.isoformat).getD "")),
   ("demo_cost_cap_pipeline", .int tenant.demoCostCapPipeline),
   ("demo_cost_cap_llm", .int tenant.demoCostCapLlm),
   ("demo_created_by", .str tenant.demoCreatedBy)]

/-- `TenantTier(value)`. -/
def readTier (value : String) : Except PyException TenantTier :=
  match TenantTier.ofValue? value with
  | some tier => .ok tier
  | none => .error (.valueError ("'" ++ value ++ "' is not a valid TenantTier"))

/-- `_from_dict`, at a given time. -/
def fromDict (encryptor : FieldEncryptor) (now : DateTime) (dict : Dict) :
    Except PyException Tenant := do
  let stored ← fieldD asDict dict "config" []
  let tenantId ← field asStr dict "tenant_id"
  let name ← field asStr dict "name"
  let email ← field asStr dict "email"
  let tierValue ← fieldD asStr dict "tier" "free"
  let tier ← readTier tierValue
  let role ← fieldD asStr dict "role" "free"
  let isActive ← fieldD asBool dict "is_active" true
  let createdAt ← readCreatedAt now dict
  let stripeCustomerId ← fieldD asStr dict "stripe_customer_id" ""
  let stripeSubscriptionId ← fieldD asStr dict "stripe_subscription_id" ""
  let ownerGoogleSub ← fieldD asStr dict "owner_google_sub" ""
  let credentialSchemaVersion ← fieldD asInt dict "credential_schema_version" 2
  let isDemo ← fieldD asBool dict "is_demo" false
  let demoExpiresAt ← readExpiry dict
  let demoCostCapPipeline ← fieldD asInt dict "demo_cost_cap_pipeline" 50
  let demoCostCapLlm ← fieldD asInt dict "demo_cost_cap_llm" 100
  let demoCreatedBy ← fieldD asStr dict "demo_created_by" ""
  let config ← configFromDict stored
  let tenant : Tenant :=
    { tenantId, name, email, tier, role, apiKey := readApiKey encryptor dict, config, createdAt,
      isActive, stripeCustomerId, stripeSubscriptionId, ownerGoogleSub,
      credentialSchemaVersion, isDemo, demoExpiresAt, demoCostCapPipeline, demoCostCapLlm,
      demoCreatedBy }
  return tenant.postInit

/-- A text that `isoformat` writes is not empty. -/
theorem isoformat_ne_empty (time : DateTime) : time.isoformat ≠ "" := by
  intro empty
  have characters := congrArg String.toList empty
  simp [DateTime.isoformat, Date.isoChars] at characters

section RoundTrip

variable (encryptor : FieldEncryptor) (sha256 : String → String) (nonce : String) (now : DateTime)
  (tenant : Tenant)

/-- The creation time is read back. -/
theorem readCreatedAt_toDict :
    readCreatedAt now (toDict encryptor sha256 nonce tenant) = .ok tenant.createdAt := by
  have stored : (toDict encryptor sha256 nonce tenant).get? "created_at" =
      some (.str tenant.createdAt.isoformat) := rfl
  simp only [readCreatedAt, stored, readTime, typed, asStr, bind, Except.bind,
    DateTime.fromIsoformat_isoformat]

/-- The expiry is read back. -/
theorem readExpiry_toDict :
    readExpiry (toDict encryptor sha256 nonce tenant) = .ok tenant.demoExpiresAt := by
  have stored : (toDict encryptor sha256 nonce tenant).get? "demo_expires_at" =
      some (.str ((tenant.demoExpiresAt.map DateTime.isoformat).getD "")) := rfl
  unfold readExpiry
  rw [stored]
  cases expiry : tenant.demoExpiresAt with
  | none => rfl
  | some time =>
    have written : (Json.str time.isoformat).truthy = true := by
      simp [Json.truthy, isoformat_ne_empty]
    simp only [Option.map_some, Option.getD_some, written, if_true, readTime, typed, asStr, bind,
      Except.bind, DateTime.fromIsoformat_isoformat, Except.map]

/-- `_from_dict` reads back what `_to_dict` writes: all but the API key, which depends on the
encryptor, and a role that is aligned with the tier. -/
theorem fromDict_toDict :
    fromDict encryptor now (toDict encryptor sha256 nonce tenant) =
      .ok ({ tenant with apiKey := readApiKey encryptor (toDict encryptor sha256 nonce tenant) } :
        Tenant).postInit := by
  have created := readCreatedAt_toDict encryptor sha256 nonce now tenant
  have expiry := readExpiry_toDict encryptor sha256 nonce tenant
  have config := configFromDict_configToDict tenant.config
  have tier : readTier tenant.tier.value = .ok tenant.tier := by simp [readTier]
  generalize key : readApiKey encryptor (toDict encryptor sha256 nonce tenant) = apiKey
  unfold fromDict
  simp only [key, created, expiry]
  rw [show fieldD asDict (toDict encryptor sha256 nonce tenant) "config" [] =
      .ok (configToDict tenant.config) from rfl,
    show field asStr (toDict encryptor sha256 nonce tenant) "tenant_id" =
      .ok tenant.tenantId from rfl,
    show field asStr (toDict encryptor sha256 nonce tenant) "name" = .ok tenant.name from rfl,
    show field asStr (toDict encryptor sha256 nonce tenant) "email" = .ok tenant.email from rfl,
    show fieldD asStr (toDict encryptor sha256 nonce tenant) "tier" "free" =
      .ok tenant.tier.value from rfl,
    show fieldD asStr (toDict encryptor sha256 nonce tenant) "role" "free" =
      .ok tenant.role from rfl,
    show fieldD asBool (toDict encryptor sha256 nonce tenant) "is_active" true =
      .ok tenant.isActive from rfl,
    show fieldD asStr (toDict encryptor sha256 nonce tenant) "stripe_customer_id" "" =
      .ok tenant.stripeCustomerId from rfl,
    show fieldD asStr (toDict encryptor sha256 nonce tenant) "stripe_subscription_id" "" =
      .ok tenant.stripeSubscriptionId from rfl,
    show fieldD asStr (toDict encryptor sha256 nonce tenant) "owner_google_sub" "" =
      .ok tenant.ownerGoogleSub from rfl,
    show fieldD asInt (toDict encryptor sha256 nonce tenant) "credential_schema_version" 2 =
      .ok tenant.credentialSchemaVersion from rfl,
    show fieldD asBool (toDict encryptor sha256 nonce tenant) "is_demo" false =
      .ok tenant.isDemo from rfl,
    show fieldD asInt (toDict encryptor sha256 nonce tenant) "demo_cost_cap_pipeline" 50 =
      .ok tenant.demoCostCapPipeline from rfl,
    show fieldD asInt (toDict encryptor sha256 nonce tenant) "demo_cost_cap_llm" 100 =
      .ok tenant.demoCostCapLlm from rfl,
    show fieldD asStr (toDict encryptor sha256 nonce tenant) "demo_created_by" "" =
      .ok tenant.demoCreatedBy from rfl]
  simp only [bind, Except.bind, tier, config, pure, Except.pure]

/-- A stored record is the record of its tenant. -/
theorem fromDict_toDict_tenantId :
    ∃ read, fromDict encryptor now (toDict encryptor sha256 nonce tenant) = .ok read ∧
      read.tenantId = tenant.tenantId := by
  refine ⟨_, fromDict_toDict encryptor sha256 nonce now tenant, ?_⟩
  rw [Tenant.postInit_tenantId]

end RoundTrip

end VelaFlow.Tenants
