import VelaFlow.Foundation.Machine
import VelaFlow.Tenant.RecordUpdates

/-!
# What a deactivation leaves behind

Runs of everything that writes and deletes documents: the methods of the tenant manager, and the
writes of the other components, which may be of any document. Besides a deactivation only the
vault deletes. The partition markers that a tenant is created with are no JSON documents by their
name, so no deactivation ever deletes them.
-/
namespace VelaFlow.Tenants

open Process Storage

/-- Something that happens to the storage. -/
inductive StorageEvent where
  /-- `create_tenant`. -/
  | create (name email : String) (tier : TenantTier) (answers : Answers)
  /-- A method that updates a tenant's record; `deactivate_tenant` is one of them. -/
  | update (tenantId : String) (update : RecordUpdate) (answers : Answers)
  /-- A document that another component writes. -/
  | write (key : String) (data : Dict)
  /-- `delete_vault_key`, by what stands behind the directory of the vault. -/
  | deleteVaultKey (rest : String)

/-- The storage, and the tenants that were created. -/
structure StorageState where
  /-- The world with the storage. -/
  world : World
  /-- The ids of the tenants. -/
  created : List String := []

/-- One event. -/
def storageStep (manager : TenantManager) (state : StorageState) :
    StorageEvent → Option StorageState
  | .create name email tier answers =>
    match (manager.createTenant name email tier).run answers state.world with
    | (.ok tenant, world) => some ⟨world, state.created ++ [tenant.tenantId]⟩
    | (.error _, world) => some ⟨world, state.created⟩
  | .update tenantId update answers =>
    some { state with world := update.after manager tenantId answers state.world }
  | .write key data => some { state with world := (state.world.writeJson key data).2 }
  | .deleteVaultKey rest => some { state with world := (state.world.deleteKey ("vault/" ++ rest)).2 }

/-- The directories that documents of tenants lie in, by the name of the tenant. -/
def dataDirectories : List String := ["bronze", "silver", "gold", "runs", "vault", "tenants"]

/-- A document holds data of a tenant: it lies in a directory of the tenant, or names the tenant. -/
def HoldsData (tenantId : String) (path : Path) (data : Dict) : Prop :=
  (∃ directory ∈ dataDirectories, ∃ rest, rest ≠ [] ∧
    path.parts = directory.toList :: keyParts tenantId ++ rest) ∨
    data.get? "tenant_id" = some (.str tenantId)

/-- No document holds data of a tenant, but for its record. -/
def Erased (tenantId : String) (storage : LocalStorage) : Prop :=
  ∀ path data, storage.lookup path = some data → HoldsData tenantId path data →
    resolve (tenantKey tenantId) = .ok path

section Lasting

/-- There is a document at a path. -/
def Present (path : Path) (world : World) : Prop := (world.storage.lookup path).isSome = true

/-- A discipline of routines that delete nothing. -/
def lasting : Program.Discipline Action Action.Answer PyException Unit where
  allowed _ action := ∀ key, action ≠ .delete key
  advance _ _ _ := ()

/-- A routine that deletes nothing. -/
def Lasts {α : Type} (routine : Routine α) : Prop :=
  Program.Safe lasting (fun _ _ => True) routine ()

/-- A sequence deletes nothing when its parts do not. -/
theorem lasts_bind {α β : Type} {routine : Routine α} {rest : α → Routine β}
    (first : Lasts routine) (later : ∀ value, Lasts (rest value)) : Lasts (routine >>= rest) :=
  Program.Safe.seq (fun _ _ => True) first (fun _ value _ => later value) fun _ _ _ => trivial

/-- An action that is no deletion deletes nothing. -/
theorem lasts_act {action : Action} (other : ∀ key, action ≠ .delete key) :
    Lasts (Program.act action) :=
  Program.Safe.act other fun _ _ => trivial

/-- A computation without actions deletes nothing. -/
theorem lasts_lift {α : Type} (computation : Except PyException α) :
    Lasts (Program.lift computation) :=
  Program.Safe.lift trivial

/-- A routine that returns deletes nothing. -/
theorem lasts_pure {α : Type} (value : α) : Lasts (pure value : Routine α) := trivial

/-- A routine that raises deletes nothing. -/
theorem lasts_raise {α : Type} (exception : PyException) :
    Lasts (Program.raise exception : Routine α) := trivial

/-- Writing a document keeps every document. -/
theorem present_put {storage : LocalStorage} {path other : Path} (data : Dict)
    (present : (storage.lookup path).isSome = true) :
    ((storage.put other data).lookup path).isSome = true := by
  by_cases same : path = other
  · rw [same, LocalStorage.lookup_put_self]
    rfl
  · rw [LocalStorage.lookup_put_ne storage data same]
    exact present

/-- Writing a document keeps every document, whether its key resolves or not. -/
theorem present_writeJson {world : World} {path : Path} (present : Present path world)
    (key : String) (data : Dict) : Present path (world.writeJson key data).2 := by
  unfold World.writeJson LocalStorage.writeJson
  cases resolve key with
  | error exception => exact present
  | ok other => exact present_put data present

/-- The documents of an execution keep every document. -/
theorem present_writeLayers {storage : LocalStorage} {path : Path} (tenantId : String)
    {written : List (Layer × String × Dict)} (present : (storage.lookup path).isSome = true) :
    ((World.writeLayers storage tenantId written).lookup path).isSome = true := by
  induction written generalizing storage with
  | nil => exact present
  | cons document rest ih =>
    obtain ⟨layer, name, data⟩ := document
    unfold World.writeLayers LocalStorage.writeJson
    cases resolve (layer.name ++ "/" ++ tenantId ++ "/" ++ name) with
    | error exception => exact ih present
    | ok other => exact ih (present_put data present)

/-- An action that is no deletion keeps every document. -/
theorem present_respond {world : World} {path : Path} (present : Present path world)
    (answers : Answers) {action : Action} (other : ∀ key, action ≠ .delete key) :
    Present path (world.respond answers action).2 := by
  cases action with
  | delete key => exact absurd rfl (other key)
  | writeJson key data => exact present_writeJson present key data
  | checkQuota tenantId usageType limit today =>
    obtain ⟨dailyUsage, same⟩ := world.checkQuota_frame tenantId usageType limit today
    unfold World.respond
    rw [same]
    exact present
  | execute tenant inputs => exact present_writeLayers tenant.tenantId present
  | _ => exact present

/-- A routine that deletes nothing keeps every document. -/
theorem present_run {α : Type} {routine : Routine α} (lasts : Lasts routine) {world : World}
    {path : Path} (present : Present path world) (answers : Answers) :
    Present path (routine.run answers world).2 := by
  have keeps : ∀ (known : Unit) (action : Action) (left : World), Present path left →
      lasting.allowed known action →
        lasting.possible known action (left.respond answers action).1 ∧
          Present path (left.respond answers action).2 :=
    fun _ _ _ kept allowed => ⟨trivial, present_respond kept answers allowed⟩
  have safe : Program.Safe lasting (fun _ _ => True) routine () := lasts
  have ends := Program.Safe.run (fun (_ : Unit) (left : World) => Present path left) keeps present
    safe
  exact ends.choose_spec.1

end Lasting

section Methods

variable (manager : TenantManager) (tenantId : String)

/-- Looking a tenant up deletes nothing. -/
theorem lasts_getTenant : Lasts (manager.getTenant tenantId) := by
  unfold TenantManager.getTenant
  refine lasts_bind (lasts_act fun _ => nofun) fun data => ?_
  cases data with
  | none => exact lasts_pure _
  | some data =>
    refine lasts_bind (lasts_act fun _ => nofun) fun time => ?_
    exact lasts_bind (lasts_lift _) fun tenant => lasts_pure _

/-- Saving a tenant deletes nothing. -/
theorem lasts_saveTenant (tenant : Tenant) : Lasts (manager.saveTenant tenant) := by
  unfold TenantManager.saveTenant
  exact lasts_bind (lasts_act fun _ => nofun) fun nonce => lasts_act fun _ => nofun

/-- Encrypting a credential deletes nothing. -/
theorem lasts_encryptSecret (ownerSub fieldName stored : String) (given : Option String) :
    Lasts (manager.encryptSecret tenantId ownerSub fieldName stored given) := by
  cases given with
  | none => exact lasts_pure _
  | some value => exact lasts_bind (lasts_act fun _ => nofun) fun nonce => lasts_pure _

/-- `update_tier` deletes nothing. -/
theorem lasts_updateTier (newTier : TenantTier) :
    Lasts (manager.updateTier tenantId newTier) := by
  unfold TenantManager.updateTier
  refine lasts_bind (lasts_getTenant manager tenantId) fun found => ?_
  cases found with
  | none => exact lasts_pure _
  | some tenant => exact lasts_bind (lasts_saveTenant manager _) fun _ => lasts_pure _

/-- `update_config` deletes nothing. -/
theorem lasts_updateConfig (update : ConfigUpdate) :
    Lasts (manager.updateConfig tenantId update) := by
  have secret := lasts_encryptSecret manager tenantId
  unfold TenantManager.updateConfig
  refine lasts_bind (lasts_getTenant manager tenantId) fun found => ?_
  cases found with
  | none => exact lasts_pure _
  | some tenant =>
    by_cases refused : update.hasSecret && decide (tenant.ownerGoogleSub = "")
    · simp only [refused, if_true]
      exact lasts_raise _
    · simp only [refused, Bool.false_eq_true, if_false]
      refine lasts_bind (secret _ _ _ _) fun todoist => ?_
      refine lasts_bind (secret _ _ _ _) fun notion => ?_
      refine lasts_bind (secret _ _ _ _) fun litellm => ?_
      refine lasts_bind (secret _ _ _ _) fun gmail => ?_
      refine lasts_bind (secret _ _ _ _) fun google => ?_
      refine lasts_bind (secret _ _ _ _) fun gemini => ?_
      exact lasts_bind (lasts_saveTenant manager _) fun _ => lasts_pure _

/-- `bind_owner_sub` deletes nothing. -/
theorem lasts_bindOwnerSub (googleSub : String) :
    Lasts (manager.bindOwnerSub tenantId googleSub) := by
  unfold TenantManager.bindOwnerSub
  by_cases empty : googleSub = ""
  · simp only [empty, if_true]
    exact lasts_raise _
  · simp only [empty, if_false]
    refine lasts_bind (lasts_getTenant manager tenantId) fun found => ?_
    cases found with
    | none => exact lasts_pure _
    | some tenant =>
      dsimp only
      by_cases other : tenant.ownerGoogleSub ≠ "" ∧ tenant.ownerGoogleSub ≠ googleSub
      · rw [if_pos other]
        exact lasts_raise _
      · rw [if_neg other]
        by_cases unbound : tenant.ownerGoogleSub = ""
        · rw [if_pos unbound]
          exact lasts_bind (lasts_saveTenant manager _) fun _ => lasts_pure _
        · rw [if_neg unbound]
          exact lasts_pure _

/-- Creating partitions deletes nothing. -/
theorem lasts_writePartitions (layers : List Layer) :
    Lasts (TenantManager.writePartitions tenantId layers) := by
  induction layers with
  | nil => exact lasts_pure _
  | cons layer rest ih =>
    unfold TenantManager.writePartitions
    refine lasts_bind (lasts_act fun _ => nofun) fun created => ?_
    exact lasts_bind (lasts_act fun _ => nofun) fun _ => ih

/-- `create_tenant` deletes nothing. -/
theorem lasts_createTenant (name email : String) (tier : TenantTier) :
    Lasts (manager.createTenant name email tier) := by
  unfold TenantManager.createTenant
  refine lasts_bind (lasts_act fun _ => nofun) fun token => ?_
  refine lasts_bind (lasts_act fun _ => nofun) fun apiKey => ?_
  refine lasts_bind (lasts_act fun _ => nofun) fun created => ?_
  refine lasts_bind (lasts_writePartitions _ _) fun _ => ?_
  exact lasts_bind (lasts_saveTenant manager _) fun _ => lasts_pure _

variable {manager} {tenantId}

/-- A sequence keeps a document when its parts do. -/
theorem present_bind {α β : Type} {routine : Routine α} {rest : α → Routine β} {path : Path}
    {answers : Answers}
    (first : ∀ world, Present path world → Present path (routine.run answers world).2)
    (later : ∀ value world, Present path world →
      Present path ((rest value).run answers world).2) {world : World}
    (present : Present path world) :
    Present path (Routine.run (routine >>= rest) answers world).2 := by
  have middle := first world present
  rw [run_bind]
  cases done : routine.run answers world with
  | mk outcome left =>
    rw [done] at middle
    cases outcome with
    | error exception => exact middle
    | ok value => exact later value left middle

/-- A deactivation keeps the documents that the cleanup spares. -/
theorem present_deactivate {world : World} {path : Path} (present : Present path world)
    (spared : Spared path) (answers : Answers) :
    Present path ((manager.deactivateTenant tenantId).run answers world).2 := by
  have looked := lasts_getTenant manager tenantId
  unfold TenantManager.deactivateTenant
  refine present_bind (fun _ present => present_run looked present answers) ?_ present
  intro found world present
  cases found with
  | none => exact present
  | some tenant =>
    have saved := lasts_saveTenant manager
      { tenant with isActive := false, config := wipeCredentials tenant.config }
    refine present_bind (fun _ present => present_run saved present answers) ?_ present
    intro _ world present
    refine present_bind ?_ ?_ present
    · intro world present
      have cleaned := lookup_deleteDirectories answers tenantId spared
        (fun directory inside => inside) world
      unfold Present
      rw [show ["bronze", "silver", "gold", "runs", "vault", "users", "invites"] =
        cleanedDirectories from rfl, cleaned]
      exact present
    · exact fun _ world present => present

/-- An update keeps the documents that the cleanup spares. -/
theorem present_after {world : World} {path : Path} (present : Present path world)
    (spared : Spared path) (update : RecordUpdate) (answers : Answers) :
    Present path (update.after manager tenantId answers world) := by
  cases update with
  | tier newTier => exact present_run (lasts_updateTier manager tenantId newTier) present answers
  | config update => exact present_run (lasts_updateConfig manager tenantId update) present answers
  | bind googleSub =>
    exact present_run (lasts_bindOwnerSub manager tenantId googleSub) present answers
  | deactivate => exact present_deactivate present spared answers

end Methods

section Markers

/-- The key of a partition marker. -/
def markerKey (layer : Layer) (tenantId : String) : String :=
  layer.name ++ "/" ++ tenantId ++ "/.partition"

/-- The parts of the key of a marker. -/
theorem keyParts_markerKey (layer : Layer) (tenantId : String) :
    keyParts (markerKey layer tenantId) =
      layer.name.toList :: keyParts tenantId ++ [".partition".toList] := by
  have key : markerKey layer tenantId = layer.name ++ "/" ++ tenantId ++ "/" ++ ".partition" := by
    unfold markerKey
    rw [show "/.partition" = "/" ++ ".partition" from by decide, ← String.append_assoc]
  have name : keyParts ".partition" = [".partition".toList] := keyParts_of_isPart (by decide)
  have directory : keyParts layer.name = [layer.name.toList] := by
    cases layer <;> exact keyParts_of_isPart (by decide)
  rw [key, keyParts_append_slash, keyParts_append_slash, directory, name, List.singleton_append]

/-- A marker is spared by the cleanup. -/
theorem spared_marker {layer : Layer} {tenantId : String} {path : Path}
    (resolved : resolve (markerKey layer tenantId) = .ok path) : Spared path := by
  have parts : path.parts = layer.name.toList :: keyParts tenantId ++ [".partition".toList] := by
    rw [parts_of_resolve resolved, keyParts_markerKey]
  have last : path.parts.getLast? = some ".partition".toList := by
    rw [parts, List.getLast?_concat]
  refine Or.inl ?_
  unfold LocalStorage.isJson
  rw [last]
  decide

/-- The markers of a tenant are there. -/
def Marked (tenantId : String) (world : World) : Prop :=
  ∃ path, resolve (markerKey .bronze tenantId) = .ok path ∧ Present path world

/-- What keeps the documents that the cleanup spares keeps the markers. -/
theorem Marked.keep {tenantId : String} {world next : World} (marked : Marked tenantId world)
    (keeps : ∀ path, Spared path → Present path world → Present path next) :
    Marked tenantId next := by
  obtain ⟨path, resolved, present⟩ := marked
  exact ⟨path, resolved, keeps path (spared_marker resolved) present⟩

/-- A document that was written is there. -/
theorem present_of_writeJson {world next : World} {key : String} {data : Dict}
    (wrote : world.writeJson key data = (.ok (), next)) :
    ∃ path, resolve key = .ok path ∧ Present path next := by
  unfold World.writeJson LocalStorage.writeJson at wrote
  cases resolved : resolve key with
  | error exception =>
    rw [resolved] at wrote
    cases wrote
  | ok path =>
    rw [resolved] at wrote
    obtain rfl := (Prod.mk.inj wrote).2
    refine ⟨path, rfl, ?_⟩
    unfold Present
    rw [LocalStorage.lookup_put_self]
    rfl

/-- Writing the partitions leaves the marker of the first layer. -/
theorem marked_writePartitions {tenantId : String} {layers : List Layer} {answers : Answers}
    {world left : World}
    (wrote : (TenantManager.writePartitions tenantId (.bronze :: layers)).run answers world =
      (.ok (), left)) : Marked tenantId left := by
  have key : Layer.bronze.name ++ "/" ++ tenantId ++ "/.partition" = markerKey .bronze tenantId :=
    rfl
  unfold TenantManager.writePartitions at wrote
  simp only [run_bind, run_now, run_writeJson, key] at wrote
  cases done : world.writeJson (markerKey .bronze tenantId)
      [("tenant_id", .str tenantId), ("layer", .str Layer.bronze.name),
       ("created_at", .str (answers.clock .creation).isoformat)] with
  | mk outcome middle =>
    rw [done] at wrote
    cases outcome with
    | error exception => cases wrote
    | ok value =>
      obtain ⟨path, resolved, present⟩ := present_of_writeJson done
      have kept := present_run (lasts_writePartitions tenantId layers) present answers
      rw [show (TenantManager.writePartitions tenantId layers).run answers middle = _ from wrote]
        at kept
      exact ⟨path, resolved, kept⟩

/-- A tenant that is created is marked. -/
theorem marked_createTenant {manager : TenantManager} {name email : String} {tier : TenantTier}
    {answers : Answers} {world left : World} {tenant : Tenant}
    (created : (manager.createTenant name email tier).run answers world = (.ok tenant, left)) :
    Marked tenant.tenantId left := by
  unfold TenantManager.createTenant at created
  simp only [run_bind, run_tokenHex, run_tokenUrlsafe, run_now] at created
  cases wrote : (TenantManager.writePartitions ("tn_" ++ answers.tokenHex)
      [.bronze, .silver, .gold, .runs]).run answers world with
  | mk outcome middle =>
    rw [wrote] at created
    cases outcome with
    | error exception => cases created
    | ok value =>
      have marked := marked_writePartitions wrote
      dsimp only at created
      let record : Tenant :=
        { tenantId := "tn_" ++ answers.tokenHex, name, email, tier, role := tier.value,
          apiKey := answers.tokenUrlsafe, createdAt := answers.clock .creation }
      cases saved : (manager.saveTenant record).run answers middle with
      | mk outcome final =>
        rw [saved] at created
        cases outcome with
        | error exception => cases created
        | ok value =>
          obtain ⟨same, rfl⟩ := Prod.mk.inj created
          obtain rfl := Except.ok.inj same
          refine marked.keep fun path _ present => ?_
          have kept := present_run (lasts_saveTenant manager record) present answers
          rw [saved] at kept
          exact kept

end Markers

section Runs

variable {manager : TenantManager}

/-- What another component deletes in the vault is spared by no cleanup, or is another document. -/
theorem present_deleteVaultKey {tenantId : String} {world : World}
    (marked : Marked tenantId world) (rest : String) :
    Marked tenantId (world.deleteKey ("vault/" ++ rest)).2 := by
  obtain ⟨path, resolved, present⟩ := marked
  have parts : path.parts = "bronze".toList :: (keyParts tenantId ++ [".partition".toList]) := by
    rw [parts_of_resolve resolved, keyParts_markerKey]
    rfl
  have other : resolve ("vault/" ++ rest) ≠ .ok path := by
    intro same
    have directory := parts_of_resolve same
    rw [show "vault/" = "vault" ++ "/" from by decide, keyParts_directory (by decide), parts]
      at directory
    exact absurd (List.cons.inj directory).1 (by decide)
  refine ⟨path, resolved, ?_⟩
  unfold Present
  rw [lookup_deleteKey world other]
  exact present

/-- Every tenant that was created is marked. -/
def AllMarked (state : StorageState) : Prop :=
  ∀ tenantId ∈ state.created, Marked tenantId state.world

/-- One event keeps the tenants marked. -/
theorem allMarked_step {state next : StorageState} {event : StorageEvent}
    (marked : AllMarked state) (moved : storageStep manager state event = some next) :
    AllMarked next := by
  cases event with
  | create name email tier answers =>
    have kept : ∀ tenantId ∈ state.created,
        Marked tenantId ((manager.createTenant name email tier).run answers state.world).2 :=
      fun tenantId inside => (marked tenantId inside).keep fun path _ present =>
        present_run (lasts_createTenant manager name email tier) present answers
    unfold storageStep at moved
    dsimp only at moved
    cases done : (manager.createTenant name email tier).run answers state.world with
    | mk outcome left =>
      rw [done] at moved kept
      cases outcome with
      | error exception =>
        obtain rfl := Option.some.inj moved
        exact kept
      | ok tenant =>
        obtain rfl := Option.some.inj moved
        intro tenantId inside
        rcases List.mem_append.mp inside with old | new
        · exact kept tenantId old
        · rw [List.mem_singleton.mp new]
          exact marked_createTenant done
  | update target update answers =>
    obtain rfl := Option.some.inj moved
    exact fun tenantId inside => (marked tenantId inside).keep fun path spared present =>
      present_after present spared update answers
  | write key data =>
    obtain rfl := Option.some.inj moved
    exact fun tenantId inside => (marked tenantId inside).keep fun path _ present =>
      present_writeJson present key data
  | deleteVaultKey rest =>
    obtain rfl := Option.some.inj moved
    exact fun tenantId inside => present_deleteVaultKey (marked tenantId inside) rest

/-- A marker holds data of its tenant and is not its record. -/
theorem not_erased_of_marked {tenantId : String} {world : World} (marked : Marked tenantId world) :
    ¬ Erased tenantId world.storage := by
  intro erased
  obtain ⟨path, resolved, present⟩ := marked
  obtain ⟨data, found⟩ := Option.isSome_iff_exists.mp present
  have parts : path.parts = "bronze".toList :: keyParts tenantId ++ [".partition".toList] := by
    rw [parts_of_resolve resolved, keyParts_markerKey]
    rfl
  have holds : HoldsData tenantId path data :=
    Or.inl ⟨"bronze", List.mem_cons_self, [".partition".toList], List.cons_ne_nil _ _, parts⟩
  have record := parts_of_resolve (erased path data found holds)
  have key : tenantKey tenantId = "tenants" ++ "/" ++ (tenantId ++ ".json") := by
    unfold tenantKey
    rw [show "tenants/" = "tenants" ++ "/" from by decide, String.append_assoc]
  rw [key, keyParts_directory (by decide), parts, List.cons_append] at record
  exact absurd (List.cons.inj record).1 (by decide)

/-- In every state that is reached, deactivating a tenant that was created does not erase its data,
whatever `deactivate_tenant` returns. -/
theorem deactivation_never_erases {world : World} {events : List StorageEvent}
    {final : StorageState}
    (ran : Machine.run (storageStep manager) ⟨world, []⟩ events = some final) {tenantId : String}
    (created : tenantId ∈ final.created) (answers : Answers) :
    ¬ Erased tenantId ((manager.deactivateTenant tenantId).run answers final.world).2.storage := by
  have marked : AllMarked final :=
    Machine.run_invariant AllMarked (fun _ _ _ marked moved => allMarked_step marked moved)
      (fun tenantId inside => absurd inside List.not_mem_nil) ran
  apply not_erased_of_marked
  exact (marked tenantId created).keep fun path spared present =>
    present_deactivate present spared answers

end Runs

section Returning

variable {manager : TenantManager} {answers : Answers} {tenantId : String}

/-- A key whose parts can be parts resolves. -/
theorem exists_resolve {key : String} (parts : ∀ part ∈ keyParts key, IsPart part) :
    ∃ path, resolve key = .ok path := ⟨⟨keyParts key, parts⟩, resolve_eq_ok rfl⟩

/-- Deleting listed keys returns. -/
theorem run_deleteAll_ok {keys : List String} (resolved : ∀ key ∈ keys, ∃ path, resolve key = .ok path)
    (world : World) : ((TenantManager.deleteAll keys).run answers world).1 = .ok () := by
  induction keys generalizing world with
  | nil => rfl
  | cons key rest ih =>
    obtain ⟨path, is⟩ := resolved key List.mem_cons_self
    unfold TenantManager.deleteAll
    simp only [run_bind, run_delete, World.deleteKey, LocalStorage.delete, is, Except.map]
    exact ih (fun other inside => resolved other (List.mem_cons_of_mem _ inside)) _

/-- The cleanup of a tenant whose id is a name returns. -/
theorem run_deleteDirectories_ok (named : IsPart tenantId.toList) {directories : List String}
    (cleaned : ∀ directory ∈ directories, directory ∈ cleanedDirectories) (world : World) :
    ((TenantManager.deleteDirectories tenantId directories).run answers world).1 = .ok () := by
  induction directories generalizing world with
  | nil => rfl
  | cons directory rest ih =>
    have here := cleaned directory List.mem_cons_self
    have later := ih fun other inside => cleaned other (List.mem_cons_of_mem _ inside)
    have part : IsPart directory.toList := by
      have all : ∀ name ∈ cleanedDirectories, IsPart name.toList := by decide
      exact all directory here
    have below : keyParts (tenantId ++ "/") = [tenantId.toList] := by
      have whole := keyParts_append_slash tenantId ""
      rw [String.append_empty] at whole
      rw [whole, keyParts_of_isPart named]
      rfl
    have parts : keyParts (directory ++ "/" ++ (tenantId ++ "/")) =
        [directory.toList, tenantId.toList] := by
      rw [keyParts_directory part, below]
    have all : ∀ name ∈ keyParts (directory ++ "/" ++ (tenantId ++ "/")), IsPart name := by
      rw [parts]
      simp [part, named]
    obtain ⟨base, resolved⟩ := exists_resolve all
    have found : ∃ keys, world.storage.listKeys (directory ++ "/" ++ (tenantId ++ "/")) =
        .ok keys := by
      unfold LocalStorage.listKeys
      rw [resolved]
      exact ⟨_, rfl⟩
    obtain ⟨keys, listed⟩ := found
    have each : ∀ key ∈ keys, ∃ path, resolve key = .ok path := by
      intro key inside
      obtain ⟨path, is, -⟩ := listed_key part listed inside
      exact ⟨path, is⟩
    unfold TenantManager.deleteDirectories
    rw [← String.append_assoc] at listed
    simp only [run_bind, run_listKeys, listed]
    have first := @run_deleteAll_ok answers keys each world
    cases done : (TenantManager.deleteAll keys).run answers world with
    | mk outcome left =>
      rw [done] at first
      obtain rfl : outcome = .ok () := first
      exact later left

/-- Deactivating a tenant whose id is a name returns `True` when its record decodes. -/
theorem deactivateTenant_returns {world : World} {data : Dict} {tenant : Tenant}
    (named : IsPart tenantId.toList)
    (record : StoredRecord manager answers world tenantId data tenant) :
    ((manager.deactivateTenant tenantId).run answers world).1 = .ok true := by
  obtain ⟨path, resolved, -⟩ := record.path
  let wiped : Tenant := { tenant with isActive := false, config := wipeCredentials tenant.config }
  have own : resolve (tenantKey wiped.tenantId) = .ok path := by
    rw [show wiped.tenantId = tenantId from record.own]
    exact resolved
  obtain ⟨left, saved, -⟩ := @run_saveTenant manager answers wiped path own world
  have cleaned := @run_deleteDirectories_ok answers tenantId named cleanedDirectories
    (fun directory inside => inside) left
  unfold TenantManager.deactivateTenant
  simp only [run_bind, run_getTenant_stored record]
  rw [show (manager.saveTenant { tenant with
    isActive := false, config := wipeCredentials tenant.config }).run answers world = _ from saved]
  rw [show ["bronze", "silver", "gold", "runs", "vault", "users", "invites"] =
    cleanedDirectories from rfl]
  dsimp only
  cases done : (TenantManager.deleteDirectories tenantId cleanedDirectories).run answers left with
  | mk outcome final =>
    rw [done] at cleaned
    obtain rfl : outcome = .ok () := cleaned
    rfl

/-- Creating the partitions of a tenant whose id is a name returns. -/
theorem run_writePartitions_ok (named : IsPart tenantId.toList) (layers : List Layer)
    (world : World) :
    ((TenantManager.writePartitions tenantId layers).run answers world).1 = .ok () := by
  induction layers generalizing world with
  | nil => rfl
  | cons layer rest ih =>
    have all : ∀ part ∈ keyParts (markerKey layer tenantId), IsPart part := by
      rw [keyParts_markerKey, keyParts_of_isPart named]
      cases layer <;> simp [named, Layer.name] <;> decide
    obtain ⟨path, resolved⟩ := exists_resolve all
    have key : layer.name ++ "/" ++ tenantId ++ "/.partition" = markerKey layer tenantId := rfl
    unfold TenantManager.writePartitions
    simp only [run_bind, run_now, run_writeJson, World.writeJson, LocalStorage.writeJson, key,
      resolved, Except.map]
    exact ih _

/-- The tenant that `create_tenant` makes. -/
def newTenant (name email : String) (tier : TenantTier) (answers : Answers) : Tenant where
  tenantId := "tn_" ++ answers.tokenHex
  name := name
  email := email
  tier := tier
  role := tier.value
  apiKey := answers.tokenUrlsafe
  createdAt := answers.clock .creation

/-- Creating a tenant whose id is a name returns it, and stores its record. -/
theorem run_createTenant_ok (laws : Security.CipherLaws manager.encryptor) (name email : String)
    (tier : TenantTier) (named : IsPart (newTenant name email tier answers).tenantId.toList)
    (file : IsPart ((newTenant name email tier answers).tenantId ++ ".json").toList)
    (world : World) :
    ∃ left, (manager.createTenant name email tier).run answers world =
        (.ok (newTenant name email tier answers), left) ∧
      StoredRecord manager answers left (newTenant name email tier answers).tenantId
        (toDict manager.encryptor manager.sha256 (answers.nonce "api_key")
          (newTenant name email tier answers)) (newTenant name email tier answers) := by
  have wrote := @run_writePartitions_ok answers _ named [.bronze, .silver, .gold, .runs] world
  have key : tenantKey (newTenant name email tier answers).tenantId =
      "tenants" ++ "/" ++ ((newTenant name email tier answers).tenantId ++ ".json") := by
    unfold tenantKey
    rw [show "tenants/" = "tenants" ++ "/" from by decide, String.append_assoc]
  have all : ∀ part ∈ keyParts (tenantKey (newTenant name email tier answers).tenantId),
      IsPart part := by
    rw [key, keyParts_directory (by decide), keyParts_of_isPart file]
    simp only [List.forall_mem_cons]
    exact ⟨by decide, file, fun _ inside => absurd inside List.not_mem_nil⟩
  obtain ⟨path, resolved⟩ := exists_resolve all
  unfold TenantManager.createTenant
  simp only [run_bind, run_tokenHex, run_tokenUrlsafe, run_now]
  cases done : (TenantManager.writePartitions ("tn_" ++ answers.tokenHex)
      [.bronze, .silver, .gold, .runs]).run answers world with
  | mk outcome middle =>
    have same : outcome = .ok () := (congrArg Prod.fst done).symm.trans wrote
    obtain ⟨left, saved, storage⟩ :=
      @run_saveTenant manager answers (newTenant name email tier answers) path resolved middle
    subst same
    dsimp only
    unfold newTenant at saved
    rw [saved]
    refine ⟨left, rfl, ?_, ?_, rfl⟩
    · unfold LocalStorage.readJson
      rw [resolved, storage]
      simp only [Except.map, LocalStorage.lookup_put_self]
    · apply fromDict_toDict_aligned laws
      rintro ⟨free, paid⟩
      cases tier with
      | free => exact paid rfl
      | standard => simp [newTenant, TenantTier.value] at free
      | premium => simp [newTenant, TenantTier.value] at free
      | vip => simp [newTenant, TenantTier.value] at free

end Returning

section Sample

/-- The creation of one tenant. -/
def acmeCreated : StorageEvent := .create "Acme" "owner@acme" .free acmeAnswers

/-- What the creation leaves. -/
def acmeState : StorageState :=
  (storageStep acmeManager ⟨{ storage := .empty }, []⟩ acmeCreated).getD ⟨{ storage := .empty }, []⟩

/-- The creation is a run that creates the tenant and stores its record. -/
theorem run_acmeCreated :
    Machine.run (storageStep acmeManager) ⟨{ storage := .empty }, []⟩ [acmeCreated] =
        some acmeState ∧ acmeState.created = ["tn_0"] ∧
      ∃ data tenant, StoredRecord acmeManager acmeAnswers acmeState.world "tn_0" data tenant := by
  obtain ⟨left, created, record⟩ := run_createTenant_ok acmeManager_laws "Acme" "owner@acme" .free
    (show IsPart (newTenant "Acme" "owner@acme" .free acmeAnswers).tenantId.toList by decide)
    (by decide) { storage := .empty }
  have stepped : storageStep acmeManager ⟨{ storage := .empty }, []⟩ acmeCreated =
      some ⟨left, ["tn_0"]⟩ := by
    unfold storageStep acmeCreated
    simp only [created]
    rfl
  have state : acmeState = ⟨left, ["tn_0"]⟩ := by
    unfold acmeState
    rw [stepped]
    rfl
  rw [Machine.run_singleton, stepped, state]
  exact ⟨rfl, rfl, _, _, record⟩

/-- After `deactivate_tenant` has returned `True`, data of the tenant is still stored. -/
theorem acme_not_erased :
    ((acmeManager.deactivateTenant "tn_0").run acmeAnswers acmeState.world).1 = .ok true ∧
      ¬ Erased "tn_0"
        ((acmeManager.deactivateTenant "tn_0").run acmeAnswers acmeState.world).2.storage := by
  obtain ⟨ran, created, data, tenant, record⟩ := run_acmeCreated
  refine ⟨deactivateTenant_returns (by decide) record, ?_⟩
  have marked : AllMarked acmeState :=
    Machine.run_invariant AllMarked (fun _ _ _ marked moved => allMarked_step marked moved)
      (fun tenantId inside => absurd inside List.not_mem_nil) ran
  apply not_erased_of_marked
  have here := marked "tn_0" (by rw [created]; exact List.mem_cons_self)
  exact here.keep fun path spared present => present_deactivate present spared acmeAnswers

/-- The rule for that tenant. -/
theorem deactivation_never_erases_acme :
    ¬ Erased "tn_0"
      ((acmeManager.deactivateTenant "tn_0").run acmeAnswers acmeState.world).2.storage :=
  deactivation_never_erases run_acmeCreated.1
    (by rw [run_acmeCreated.2.1]; exact List.mem_cons_self) acmeAnswers

end Sample

end VelaFlow.Tenants
