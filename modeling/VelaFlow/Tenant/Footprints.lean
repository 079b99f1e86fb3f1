import VelaFlow.Process.Directories
import VelaFlow.Tenant.Manager
import VelaFlow.Tenant.UserManager

/-!
# Where the managers write

The tenant manager writes tenants' records and, for a new tenant, partition markers; the user
manager writes users, their index and invites. Nothing else of theirs touches the storage, but for
the deletions of `deactivate_tenant`.
-/
namespace VelaFlow.Tenants

open Process Storage Program

section Keys

/-- The key of a named document lies in its directory. -/
theorem inDirectory_json {directory name : String} (part : IsPart directory.toList) {path : Path}
    (resolved : resolve (directory ++ "/" ++ name ++ ".json") = .ok path) :
    InDirectory directory path := by
  rw [String.append_assoc] at resolved
  exact inDirectory_of_resolve part resolved

/-- The key of a tenant's record lies in its directory. -/
theorem inDirectory_tenantKey {tenantId : String} {path : Path}
    (resolved : resolve (tenantKey tenantId) = .ok path) : InDirectory "tenants" path := by
  unfold tenantKey at resolved
  rw [show "tenants/" = "tenants" ++ "/" from by decide] at resolved
  exact inDirectory_json (by decide) resolved

/-- The key of a user's record lies in its directory. -/
theorem inDirectory_userKey {userId : String} {path : Path}
    (resolved : resolve (userKey userId) = .ok path) : InDirectory "users" path := by
  unfold userKey at resolved
  rw [show "users/" = "users" ++ "/" from by decide] at resolved
  exact inDirectory_json (by decide) resolved

/-- The key of the index lies with the users. -/
theorem inDirectory_indexKey {path : Path} (resolved : resolve indexKey = .ok path) :
    InDirectory "users" path := by
  have key : indexKey = "users" ++ "/" ++ "_index.json" := by decide
  rw [key] at resolved
  exact inDirectory_of_resolve (by decide) resolved

/-- The key of an invite lies in its directory. -/
theorem inDirectory_inviteKey {inviteCode : String} {path : Path}
    (resolved : resolve (inviteKey inviteCode) = .ok path) : InDirectory "invites" path := by
  unfold inviteKey at resolved
  rw [show "invites/" = "invites" ++ "/" from by decide] at resolved
  exact inDirectory_json (by decide) resolved

/-- The key of a marker lies in its layer. -/
theorem inDirectory_marker {layer : Layer} {tenantId : String} {path : Path}
    (resolved : resolve (layer.name ++ "/" ++ tenantId ++ "/.partition") = .ok path) :
    InDirectory layer.name path := by
  have part : IsPart layer.name.toList := by cases layer <;> decide
  rw [String.append_assoc] at resolved
  exact inDirectory_of_resolve part resolved

end Keys

section Tenants

variable (manager : TenantManager) (tenantId : String)

/-- `get_tenant` is quiet. -/
theorem quiet_getTenant : Only Action.Quiet (manager.getTenant tenantId) := by
  unfold TenantManager.getTenant
  refine Only.bind (Only.act trivial) fun data => ?_
  cases data with
  | none => exact Only.pure _
  | some data =>
    refine Only.bind (Only.act trivial) fun time => ?_
    exact Only.bind (Only.lift _) fun tenant => Only.pure _

/-- Reading listed tenants is quiet. -/
theorem quiet_readTenants (keys : List String) : Only Action.Quiet (manager.readTenants keys) := by
  induction keys with
  | nil => exact Only.pure _
  | cons key rest ih =>
    unfold TenantManager.readTenants
    by_cases marker : ".partition".toList.isSuffixOf key.toList = true
    · rw [if_pos marker]
      exact ih
    · rw [if_neg marker]
      refine Only.bind (Only.act trivial) fun data => ?_
      cases data with
      | none => exact ih
      | some data =>
        by_cases filled : data.truthy = true
        · simp only [filled, if_true]
          refine Only.bind (Only.act trivial) fun time => ?_
          refine Only.bind (Only.lift _) fun tenant => ?_
          exact Only.bind ih fun others => Only.pure _
        · simp only [filled, Bool.false_eq_true, if_false]
          exact ih

/-- `list_tenants` is quiet. -/
theorem quiet_listTenants : Only Action.Quiet manager.listTenants := by
  unfold TenantManager.listTenants
  exact Only.bind (Only.act trivial) fun keys => quiet_readTenants manager keys

/-- What is quiet writes nowhere. -/
theorem writesIn_of_quiet {α : Type} {routine : Routine α} (quiet : Only Action.Quiet routine)
    (directories : List String) : Only (Action.WritesIn directories) routine :=
  quiet.weaken fun _ still => still.writesIn directories

/-- What writes only in some directories adds only there. -/
theorem addsIn_of_writesIn {α : Type} {routine : Routine α} {directories : List String}
    (writes : Only (Action.WritesIn directories) routine) :
    Only (Action.AddsIn directories) routine :=
  writes.weaken fun _ still => still.addsIn

variable {directories : List String} (tenants : "tenants" ∈ directories)
include tenants

/-- `_save_tenant` writes a tenant's record. -/
theorem writesIn_saveTenant (tenant : Tenant) :
    Only (Action.WritesIn directories) (manager.saveTenant tenant) := by
  unfold TenantManager.saveTenant
  refine Only.bind (Only.act trivial) fun nonce => Only.act ?_
  exact fun path resolved => ⟨"tenants", tenants, inDirectory_tenantKey resolved⟩

/-- `update_tier` writes a tenant's record. -/
theorem writesIn_updateTier (newTier : TenantTier) :
    Only (Action.WritesIn directories) (manager.updateTier tenantId newTier) := by
  unfold TenantManager.updateTier
  refine Only.bind (writesIn_of_quiet (quiet_getTenant manager tenantId) _) fun found => ?_
  cases found with
  | none => exact Only.pure _
  | some tenant => exact Only.bind (writesIn_saveTenant manager tenants _) fun _ => Only.pure _

/-- `update_config` writes a tenant's record. -/
theorem writesIn_updateConfig (update : ConfigUpdate) :
    Only (Action.WritesIn directories) (manager.updateConfig tenantId update) := by
  have secret : ∀ ownerSub fieldName stored given,
      Only (Action.WritesIn directories)
        (manager.encryptSecret tenantId ownerSub fieldName stored given) := by
    intro ownerSub fieldName stored given
    cases given with
    | none => exact Only.pure _
    | some value => exact Only.bind (Only.act trivial) fun nonce => Only.pure _
  unfold TenantManager.updateConfig
  refine Only.bind (writesIn_of_quiet (quiet_getTenant manager tenantId) _) fun found => ?_
  cases found with
  | none => exact Only.pure _
  | some tenant =>
    by_cases refused : update.hasSecret && decide (tenant.ownerGoogleSub = "")
    · simp only [refused, if_true]
      exact Only.raise _
    · simp only [refused, Bool.false_eq_true, if_false]
      refine Only.bind (secret _ _ _ _) fun todoist => ?_
      refine Only.bind (secret _ _ _ _) fun notion => ?_
      refine Only.bind (secret _ _ _ _) fun litellm => ?_
      refine Only.bind (secret _ _ _ _) fun gmail => ?_
      refine Only.bind (secret _ _ _ _) fun google => ?_
      refine Only.bind (secret _ _ _ _) fun gemini => ?_
      exact Only.bind (writesIn_saveTenant manager tenants _) fun _ => Only.pure _

/-- `bind_owner_sub` writes a tenant's record. -/
theorem writesIn_bindOwnerSub (googleSub : String) :
    Only (Action.WritesIn directories) (manager.bindOwnerSub tenantId googleSub) := by
  unfold TenantManager.bindOwnerSub
  by_cases empty : googleSub = ""
  · simp only [empty, if_true]
    exact Only.raise _
  · simp only [empty, if_false]
    refine Only.bind (writesIn_of_quiet (quiet_getTenant manager tenantId) _) fun found => ?_
    cases found with
    | none => exact Only.pure _
    | some tenant =>
      dsimp only
      by_cases other : tenant.ownerGoogleSub ≠ "" ∧ tenant.ownerGoogleSub ≠ googleSub
      · rw [if_pos other]
        exact Only.raise _
      · rw [if_neg other]
        by_cases unbound : tenant.ownerGoogleSub = ""
        · rw [if_pos unbound]
          exact Only.bind (writesIn_saveTenant manager tenants _) fun _ => Only.pure _
        · rw [if_neg unbound]
          exact Only.pure _

/-- `deactivate_tenant` writes a tenant's record, and deletes. -/
theorem addsIn_deactivateTenant :
    Only (Action.AddsIn directories) (manager.deactivateTenant tenantId) := by
  have cleaned : ∀ keys, Only (Action.AddsIn directories) (TenantManager.deleteAll keys) := by
    intro keys
    induction keys with
    | nil => exact Only.pure _
    | cons key rest ih => exact Only.bind (Only.act trivial) fun _ => ih
  have swept : ∀ names,
      Only (Action.AddsIn directories) (TenantManager.deleteDirectories tenantId names) := by
    intro names
    induction names with
    | nil => exact Only.pure _
    | cons name rest ih =>
      exact Only.bind (Only.act trivial) fun keys => Only.bind (cleaned keys) fun _ => ih
  have looked := writesIn_of_quiet (quiet_getTenant manager tenantId) directories
  unfold TenantManager.deactivateTenant
  refine Only.bind (addsIn_of_writesIn looked) fun found => ?_
  cases found with
  | none => exact Only.pure _
  | some tenant =>
    refine Only.bind (addsIn_of_writesIn (writesIn_saveTenant manager tenants _)) fun _ => ?_
    exact Only.bind (swept _) fun _ => Only.pure _

/-- `create_tenant` writes markers and a tenant's record. -/
theorem writesIn_createTenant (name email : String) (tier : TenantTier)
    (layers : ∀ layer : Layer, layer.name ∈ directories) :
    Only (Action.WritesIn directories) (manager.createTenant name email tier) := by
  have partitions : ∀ tenantId written,
      Only (Action.WritesIn directories) (TenantManager.writePartitions tenantId written) := by
    intro tenantId written
    induction written with
    | nil => exact Only.pure _
    | cons layer rest ih =>
      unfold TenantManager.writePartitions
      refine Only.bind (Only.act trivial) fun created => ?_
      refine Only.bind (Only.act fun path resolved => ?_) fun _ => ih
      exact ⟨layer.name, layers layer, inDirectory_marker resolved⟩
  unfold TenantManager.createTenant
  refine Only.bind (Only.act trivial) fun token => ?_
  refine Only.bind (Only.act trivial) fun apiKey => ?_
  refine Only.bind (Only.act trivial) fun created => ?_
  refine Only.bind (partitions _ _) fun _ => ?_
  exact Only.bind (writesIn_saveTenant manager tenants _) fun _ => Only.pure _

end Tenants

section Users

/-- `get_user` is quiet. -/
theorem quiet_getUser (userId : String) : Only Action.Quiet (getUser userId) := by
  unfold getUser
  refine Only.bind (Only.act trivial) fun data => ?_
  cases data with
  | none => exact Only.pure _
  | some data =>
    refine Only.bind (Only.act trivial) fun time => ?_
    exact Only.bind (Only.lift _) fun user => Only.pure _

/-- `_read_index` is quiet. -/
theorem quiet_readIndex : Only Action.Quiet readIndex :=
  Only.bind (Only.act trivial) fun _ => Only.pure _

/-- `get_user_by_google_sub` is quiet. -/
theorem quiet_getUserByGoogleSub (googleSub : String) :
    Only Action.Quiet (getUserByGoogleSub googleSub) := by
  unfold getUserByGoogleSub
  refine Only.bind quiet_readIndex fun index => ?_
  split
  · exact Only.pure _
  · exact Only.bind (Only.lift _) fun userId => quiet_getUser userId

/-- `_save_user` writes with the users. -/
theorem writesIn_saveUser (user : User) : Only (Action.WritesIn ["users"]) (saveUser user) :=
  Only.act fun _ resolved => ⟨"users", List.mem_cons_self, inDirectory_userKey resolved⟩

/-- `record_login` writes with the users. -/
theorem writesIn_recordLogin (time : DateTime) (user : User) :
    Only (Action.WritesIn ["users"]) (recordLogin time user) := by
  unfold recordLogin
  exact Only.bind (writesIn_saveUser _) fun _ => Only.pure _

/-- `redeem_invite` writes with the invites. -/
theorem writesIn_redeemInvite (users : UserManager) (time : DateTime)
    (inviteCode googleSub email : String) :
    Only (Action.WritesIn ["invites"]) (users.redeemInvite time inviteCode googleSub email) := by
  unfold UserManager.redeemInvite
  refine Only.bind (Only.act trivial) fun data => ?_
  cases data with
  | none => exact Only.pure _
  | some data =>
    dsimp only
    by_cases used : (data.getD "used" .null).truthy = true
    · rw [if_pos used]
      exact Only.pure _
    · rw [if_neg used]
      refine Only.bind (Only.lift _) fun invited => ?_
      by_cases other : users.lower invited ≠ users.lower email
      · rw [if_pos other]
        exact Only.pure _
      · rw [if_neg other]
        refine Only.bind (Only.act fun path resolved => ?_) fun _ => Only.pure _
        exact ⟨"invites", List.mem_cons_self, inDirectory_inviteKey resolved⟩

end Users

end VelaFlow.Tenants
