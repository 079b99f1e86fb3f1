import VelaFlow.Foundation.Python

/-!
# Role-based access control

`security/rbac.py`: what the tier of a tenant grants, what the role of a user allows within that,
and the check that asks for both. A token without a user role is checked by its tier alone.
-/
namespace VelaFlow.Security

/-- `Permission`. -/
inductive Permission where
  /-- `READ_BRONZE`. -/
  | readBronze
  /-- `READ_SILVER`. -/
  | readSilver
  /-- `READ_GOLD`. -/
  | readGold
  /-- `WRITE_BRONZE`. -/
  | writeBronze
  /-- `RUN_PIPELINE`. -/
  | runPipeline
  /-- `VIEW_PIPELINE_RUNS`. -/
  | viewPipelineRuns
  /-- `MANAGE_TENANT`. -/
  | manageTenant
  /-- `VIEW_TENANT`. -/
  | viewTenant
  /-- `MANAGE_USERS`. -/
  | manageUsers
  /-- `INVITE_USERS`. -/
  | inviteUsers
  /-- `GENERATE_DIGEST`. -/
  | generateDigest
  /-- `USE_LLM`. -/
  | useLlm
  /-- `USE_PREMIUM_LLM`. -/
  | usePremiumLlm
  /-- `USE_RAG`. -/
  | useRag
  /-- `USE_LOCAL_LLM`. -/
  | useLocalLlm
  /-- `MANAGE_API_KEYS`. -/
  | manageApiKeys
  /-- `ADMIN_ALL`. -/
  | adminAll
  deriving DecidableEq, Repr

namespace Permission

/-- `permission.value`. -/
def value : Permission → String
  | readBronze => "read:bronze"
  | readSilver => "read:silver"
  | readGold => "read:gold"
  | writeBronze => "write:bronze"
  | runPipeline => "run:pipeline"
  | viewPipelineRuns => "view:pipeline_runs"
  | manageTenant => "manage:tenant"
  | viewTenant => "view:tenant"
  | manageUsers => "manage:users"
  | inviteUsers => "invite:users"
  | generateDigest => "generate:digest"
  | useLlm => "use:llm"
  | usePremiumLlm => "use:premium_llm"
  | useRag => "use:rag"
  | useLocalLlm => "use:local_llm"
  | manageApiKeys => "manage:api_keys"
  | adminAll => "admin:all"

/-- `{p for p in Permission}`. -/
def all : List Permission :=
  [readBronze, readSilver, readGold, writeBronze, runPipeline, viewPipelineRuns, manageTenant,
   viewTenant, manageUsers, inviteUsers, generateDigest, useLlm, usePremiumLlm, useRag,
   useLocalLlm, manageApiKeys, adminAll]

end Permission

open Permission

/-- `_TIER_ROLES.get(role, set())`. -/
def tierRoles : String → List Permission
  | "free" =>
    [readGold, viewTenant, runPipeline, viewPipelineRuns, generateDigest, manageApiKeys]
  | "standard" =>
    [readBronze, readSilver, readGold, writeBronze, viewTenant, runPipeline, viewPipelineRuns,
     generateDigest, useLlm, manageApiKeys]
  | "premium" =>
    [readBronze, readSilver, readGold, writeBronze, viewTenant, manageTenant, runPipeline,
     viewPipelineRuns, generateDigest, useLlm, usePremiumLlm, useLocalLlm, manageApiKeys,
     manageUsers, inviteUsers]
  | "vip" => Permission.all
  | "demo" =>
    [readBronze, readSilver, readGold, writeBronze, viewTenant, runPipeline, viewPipelineRuns,
     generateDigest, useLlm, usePremiumLlm, useRag, useLocalLlm, manageApiKeys]
  | "admin" => Permission.all
  | _ => []

/-- `_USER_ROLE_PERMS.get(user_role, set())`. -/
def userRolePerms : String → List Permission
  | "owner" => Permission.all
  | "admin" =>
    [readBronze, readSilver, readGold, writeBronze, runPipeline, viewPipelineRuns, manageTenant,
     viewTenant, manageUsers, inviteUsers, generateDigest, useLlm, usePremiumLlm, manageApiKeys]
  | "member" =>
    [readBronze, readSilver, readGold, writeBronze, runPipeline, viewPipelineRuns, viewTenant,
     generateDigest, useLlm, manageApiKeys]
  | "viewer" => [readGold, viewTenant, viewPipelineRuns, generateDigest]
  | "demo" => [readGold, viewTenant, viewPipelineRuns]
  | _ => []

/-- `RBACPolicy`. -/
structure RBACPolicy where
  /-- `custom_roles`. -/
  customRoles : List (String × List Permission) := []

namespace RBACPolicy

variable (policy : RBACPolicy)

/-- `get_permissions`. -/
def getPermissions (role : String) : List Permission :=
  match policy.customRoles.lookup role with
  | some permissions => permissions
  | none => tierRoles role

/-- `has_permission`. -/
def hasPermission (role : String) (permission : Permission) : Bool :=
  (policy.getPermissions role).contains adminAll ||
    (policy.getPermissions role).contains permission

/-- `has_user_permission`. -/
def hasUserPermission (userRole : String) (permission : Permission) : Bool :=
  (userRolePerms userRole).contains adminAll || (userRolePerms userRole).contains permission

/-- `check_access`. -/
def checkAccess (tierRole userRole : String) (permission : Permission) : Bool :=
  if policy.hasPermission tierRole permission = false then false
  else if userRole = "" then true
  else hasUserPermission userRole permission

/-- Access needs the grant of the tier, and of the user's role when there is one. -/
theorem checkAccess_iff (tierRole userRole : String) (permission : Permission) :
    policy.checkAccess tierRole userRole permission = true ↔
      policy.hasPermission tierRole permission = true ∧
        (userRole = "" ∨ hasUserPermission userRole permission = true) := by
  unfold checkAccess
  by_cases granted : policy.hasPermission tierRole permission = true
  · by_cases legacy : userRole = ""
    · simp [granted, legacy]
    · simp [granted, legacy]
  · simp [granted]

end RBACPolicy

end VelaFlow.Security
