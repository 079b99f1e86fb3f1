import VelaFlow.Foundation.DateTime

/-!
# Tenants

The records of `tenant/models.py`. The quota of a tenant is a function of its tier: the
constructor always derives it.
-/
namespace VelaFlow.Tenants

/-- `TenantTier`. -/
inductive TenantTier where
  /-- `"free"`. -/
  | free
  /-- `"standard"`. -/
  | standard
  /-- `"premium"`. -/
  | premium
  /-- `"vip"`. -/
  | vip
  deriving DecidableEq, Repr

namespace TenantTier

/-- `tier.value`. -/
def value : TenantTier → String
  | free => "free"
  | standard => "standard"
  | premium => "premium"
  | vip => "vip"

/-- `TenantTier(value)`; `none` is a `ValueError`. -/
def ofValue? : String → Option TenantTier
  | "free" => some free
  | "standard" => some standard
  | "premium" => some premium
  | "vip" => some vip
  | _ => none

/-- A tier is read back from its value. -/
@[simp] theorem ofValue?_value (tier : TenantTier) : ofValue? tier.value = some tier := by
  cases tier <;> rfl

end TenantTier

/-- `TenantQuota`. -/
structure TenantQuota where
  /-- `max_pipeline_runs_per_day`. -/
  maxPipelineRunsPerDay : Nat
  /-- `max_tasks`. -/
  maxTasks : Nat
  /-- `max_llm_calls_per_day`. -/
  maxLlmCallsPerDay : Nat
  /-- `max_storage_mb`. -/
  maxStorageMb : Nat
  /-- `premium_llm_enabled`. -/
  premiumLlmEnabled : Bool
  /-- `rag_enabled`. -/
  ragEnabled : Bool
  /-- `local_llm_enabled`. -/
  localLlmEnabled : Bool
  /-- `max_rag_documents`. -/
  maxRagDocuments : Nat
  /-- `max_rag_queries_per_day`. -/
  maxRagQueriesPerDay : Nat
  deriving DecidableEq, Repr

/-- `TenantQuota.for_tier`. -/
def TenantQuota.forTier : TenantTier → TenantQuota
  | .free => ⟨3, 100, 5, 50, false, false, false, 0, 0⟩
  | .standard => ⟨20, 1000, 50, 500, false, false, false, 0, 0⟩
  | .premium => ⟨100, 10000, 200, 5000, true, true, true, 500, 50⟩
  | .vip => ⟨999, 50000, 999, 10000, true, true, true, 5000, 500⟩

/-- `TenantConfig`. -/
structure TenantConfig where
  /-- `todoist_api_token_encrypted`. -/
  todoistApiTokenEncrypted : String := ""
  /-- `notion_api_token_encrypted`. -/
  notionApiTokenEncrypted : String := ""
  /-- `google_oauth_token_encrypted`. -/
  googleOauthTokenEncrypted : String := ""
  /-- `gmail_imap_password_encrypted`. -/
  gmailImapPasswordEncrypted : String := ""
  /-- `litellm_proxy_token_encrypted`. -/
  litellmProxyTokenEncrypted : String := ""
  /-- `gemini_api_key_encrypted`. -/
  geminiApiKeyEncrypted : String := ""
  /-- `timezone`. -/
  timezone : String := "Europe/Lisbon"
  /-- `daily_top_task_limit`. -/
  dailyTopTaskLimit : Int := 5
  /-- `workday_start_hour`. -/
  workdayStartHour : Int := 9
  /-- `workday_end_hour`. -/
  workdayEndHour : Int := 18
  /-- `daily_digest_time`. -/
  dailyDigestTime : String := "07:00"
  /-- `daily_digest_days`. -/
  dailyDigestDays : String := "mon,tue,wed,thu,fri"
  /-- `overdue_alert_enabled`. -/
  overdueAlertEnabled : Bool := false
  /-- `overdue_alert_interval_hours`. -/
  overdueAlertIntervalHours : Int := 4
  /-- `weekend_planner_enabled`. -/
  weekendPlannerEnabled : Bool := false
  /-- `weekly_review_enabled`. -/
  weeklyReviewEnabled : Bool := false
  /-- `delivery_email`. -/
  deliveryEmail : Bool := true
  /-- `delivery_whatsapp`. -/
  deliveryWhatsapp : Bool := false
  /-- `delivery_notion`. -/
  deliveryNotion : Bool := false
  /-- `whatsapp_phone`. -/
  whatsappPhone : String := ""
  /-- `source_todoist`. -/
  sourceTodoist : Bool := true
  /-- `source_google_calendar`. -/
  sourceGoogleCalendar : Bool := false
  /-- `source_gmail`. -/
  sourceGmail : Bool := false
  /-- `use_local_llm`. -/
  useLocalLlm : Bool := false
  /-- `rag_enabled`. -/
  ragEnabled : Bool := false
  /-- `rag_collection`. -/
  ragCollection : String := ""
  deriving DecidableEq, Repr

/-- `Tenant`. -/
structure Tenant where
  /-- `tenant_id`. -/
  tenantId : String
  /-- `name`. -/
  name : String
  /-- `email`. -/
  email : String
  /-- `tier`. -/
  tier : TenantTier := .free
  /-- `role`. -/
  role : String := "free"
  /-- `api_key`. -/
  apiKey : String
  /-- `config`. -/
  config : TenantConfig := {}
  /-- `created_at`. -/
  createdAt : DateTime
  /-- `is_active`. -/
  isActive : Bool := true
  /-- `stripe_customer_id`. -/
  stripeCustomerId : String := ""
  /-- `stripe_subscription_id`. -/
  stripeSubscriptionId : String := ""
  /-- `owner_google_sub`. -/
  ownerGoogleSub : String := ""
  /-- `credential_schema_version`. -/
  credentialSchemaVersion : Int := 2
  /-- `is_demo`. -/
  isDemo : Bool := false
  /-- `demo_expires_at`. -/
  demoExpiresAt : Option DateTime := none
  /-- `demo_cost_cap_pipeline`. -/
  demoCostCapPipeline : Int := 50
  /-- `demo_cost_cap_llm`. -/
  demoCostCapLlm : Int := 100
  /-- `demo_created_by`. -/
  demoCreatedBy : String := ""
  deriving DecidableEq

namespace Tenant

/-- `quota`, which `__post_init__` and `update_tier` derive from the tier. -/
def quota (tenant : Tenant) : TenantQuota := TenantQuota.forTier tenant.tier

/-- `__post_init__`: aligns a default role with the tier. -/
def postInit (tenant : Tenant) : Tenant :=
  if tenant.role = "free" ∧ tenant.tier ≠ .free then { tenant with role := tenant.tier.value }
  else tenant

/-- `_is_demo_expired` of the worker, at a given time. -/
def demoExpired (tenant : Tenant) (now : DateTime) : Bool :=
  tenant.isDemo &&
    match tenant.demoExpiresAt with
    | none => false
    | some expires => decide (expires.instant ≤ now.instant)

/-- Aligning the role keeps the identity of the tenant. -/
@[simp] theorem postInit_tenantId (tenant : Tenant) : tenant.postInit.tenantId = tenant.tenantId := by
  unfold postInit
  split <;> rfl

end Tenant

end VelaFlow.Tenants
