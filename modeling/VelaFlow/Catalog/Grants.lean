import VelaFlow.Catalog.Store
import VelaFlow.Foundation.Machine
import VelaFlow.Security.Rbac

/-!
# The grants of the catalog

`grant_access`, `check_access`, `list_grants`, `revoke_access` and the grants of
`bootstrap_velaflow` in `catalog/store.py`. A grant is a row with its level as text; inserting one
that is there is ignored. Over any run a grant stands when it was given and not revoked since, and
`ALL` stands in for every level. The default grants say what `security/rbac.py` says about reading
and writing for some tiers and not for others.
-/
namespace VelaFlow.Catalog

open Security

/-- `GrantLevel`. -/
inductive GrantLevel where
  /-- `SELECT`. -/
  | select
  /-- `INSERT`. -/
  | insert
  /-- `UPDATE`. -/
  | update
  /-- `DELETE`. -/
  | delete
  /-- `ALL`. -/
  | all
  deriving DecidableEq, Repr

namespace GrantLevel

/-- `level.value`. -/
def value : GrantLevel → String
  | select => "SELECT"
  | insert => "INSERT"
  | update => "UPDATE"
  | delete => "DELETE"
  | all => "ALL"

/-- `GrantLevel(value)`; `none` is a `ValueError`. -/
def ofValue? : String → Option GrantLevel
  | "SELECT" => some select
  | "INSERT" => some insert
  | "UPDATE" => some update
  | "DELETE" => some delete
  | "ALL" => some all
  | _ => none

/-- A level is read back from its value. -/
@[simp] theorem ofValue?_value (level : GrantLevel) : ofValue? level.value = some level := by
  cases level <;> rfl

/-- Levels are known by their values. -/
theorem value_inj {first second : GrantLevel} : first.value = second.value ↔ first = second := by
  constructor
  · intro same
    have read := ofValue?_value first
    rw [same, ofValue?_value] at read
    exact (Option.some.inj read).symm
  · exact congrArg value

end GrantLevel

/-- What is granted. -/
@[ext] structure GrantKey where
  /-- `role`. -/
  role : String
  /-- `namespace`. -/
  namespaceName : String
  /-- `schema_name`. -/
  schemaName : String
  /-- `grant_level`. -/
  level : GrantLevel
  deriving DecidableEq

/-- `CatalogGrant`. -/
structure CatalogGrant where
  /-- What is granted. -/
  key : GrantKey
  /-- `granted_at`. -/
  grantedAt : DateTime

/-- A row of `grants`. -/
structure GrantRow where
  /-- `role`. -/
  role : String
  /-- `namespace`. -/
  namespaceName : String
  /-- `schema_name`. -/
  schemaName : String
  /-- `grant_level`. -/
  grantLevel : String
  /-- `granted_at`. -/
  grantedAt : String

/-- The row that is inserted for a grant. -/
def grantRow (key : GrantKey) (now : DateTime) : GrantRow where
  role := key.role
  namespaceName := key.namespaceName
  schemaName := key.schemaName
  grantLevel := key.level.value
  grantedAt := now.isoformat

namespace GrantRow

variable (row : GrantRow)

/-- Whether a row is of a schema. -/
def inSchema (namespaceName schemaName : String) : Bool :=
  row.namespaceName == namespaceName && row.schemaName == schemaName

/-- Whether a row has a primary key. -/
def isOf (key : GrantKey) : Bool :=
  row.role == key.role && row.inSchema key.namespaceName key.schemaName &&
    row.grantLevel == key.level.value

/-- A row as `list_grants` reads it. -/
def read : Except PyException CatalogGrant := do
  let level ←
    match GrantLevel.ofValue? row.grantLevel with
    | some level => .ok level
    | none => .error (.valueError ("'" ++ row.grantLevel ++ "' is not a valid GrantLevel"))
  let grantedAt ← readIsoformat row.grantedAt
  pure ⟨⟨row.role, row.namespaceName, row.schemaName, level⟩, grantedAt⟩

end GrantRow

/-- `grant_access`: the grant that it returns and the table. -/
def grantAccess (rows : List GrantRow) (key : GrantKey) (now : DateTime) :
    CatalogGrant × List GrantRow :=
  (⟨key, now⟩, if rows.any (·.isOf key) then rows else rows ++ [grantRow key now])

/-- `check_access`. -/
def checkAccess (rows : List GrantRow) (key : GrantKey) : Bool :=
  rows.any fun row =>
    row.role == key.role && row.inSchema key.namespaceName key.schemaName &&
      (row.grantLevel == key.level.value || row.grantLevel == "ALL")

/-- `list_grants`. -/
def listGrants (rows : List GrantRow) (namespaceName schemaName : String) :
    Except PyException (List CatalogGrant) :=
  (sortBy GrantRow.role (rows.filter fun row => row.inSchema namespaceName schemaName)).mapM
    GrantRow.read

/-- `revoke_access`: whether a grant was removed, and the table. -/
def revokeAccess (rows : List GrantRow) (key : GrantKey) : Bool × List GrantRow :=
  (rows.any (·.isOf key), rows.filter fun row => !row.isOf key)

/-- The schemas of the default catalog. -/
def layerSchemas : List String := ["bronze", "silver", "gold"]

/-- The grants of `bootstrap_velaflow`, in its order. -/
def defaultGrants : List GrantKey :=
  [⟨"free", "velaflow", "gold", .select⟩] ++
  (layerSchemas.map fun schema => ⟨"standard", "velaflow", schema, .select⟩) ++
  [⟨"standard", "velaflow", "bronze", .insert⟩] ++
  (layerSchemas.map fun schema => ⟨"premium", "velaflow", schema, .all⟩) ++
  (layerSchemas.map fun schema => ⟨"admin", "velaflow", schema, .all⟩)

/-- The grants part of `bootstrap_velaflow`, with the times of its statements. -/
def bootstrapGrants (clock : Nat → DateTime) (rows : List GrantRow) : List GrantRow :=
  defaultGrants.zipIdx.foldl (fun rows grant => (grantAccess rows grant.1 (clock grant.2)).2) rows

/-- A call that changes the grants. -/
inductive GrantCall where
  /-- `grant_access`. -/
  | grant (key : GrantKey) (now : DateTime)
  /-- `revoke_access`. -/
  | revoke (key : GrantKey)
  /-- `bootstrap_velaflow`. -/
  | bootstrap (clock : Nat → DateTime)

namespace GrantCall

/-- The table after a call. -/
def apply (rows : List GrantRow) : GrantCall → List GrantRow
  | grant key now => (grantAccess rows key now).2
  | revoke key => (revokeAccess rows key).2
  | bootstrap clock => bootstrapGrants clock rows

/-- Whether a call gives a grant. -/
def Gives (key : GrantKey) : GrantCall → Prop
  | grant other _ => other = key
  | revoke _ => False
  | bootstrap _ => key ∈ defaultGrants

/-- Whether a call takes a grant back. -/
def Takes (key : GrantKey) : GrantCall → Prop
  | revoke other => other = key
  | _ => False

end GrantCall

/-- The table after calls on an empty one. -/
def grantsAfter (calls : List GrantCall) : List GrantRow := calls.foldl GrantCall.apply []

/-- A grant was given in a run and not taken back since. -/
def Standing (calls : List GrantCall) (key : GrantKey) : Prop :=
  ∃ before call after, calls = before ++ call :: after ∧ call.Gives key ∧
    ∀ later ∈ after, ¬later.Takes key

section Rows

variable {rows : List GrantRow} {key other : GrantKey}

/-- A row has one key at most. -/
theorem GrantRow.isOf_unique {row : GrantRow} (one : row.isOf key = true)
    (two : row.isOf other = true) : key = other := by
  simp only [isOf, inSchema, Bool.and_eq_true, beq_iff_eq] at one two
  have ⟨⟨role, names, schema⟩, level⟩ := one
  have ⟨⟨role', names', schema'⟩, level'⟩ := two
  exact GrantKey.ext (role.symm.trans role') (names.symm.trans names')
    (schema.symm.trans schema') (GrantLevel.value_inj.mp (level.symm.trans level'))

/-- The row of a grant has its key. -/
theorem isOf_grantRow (key : GrantKey) (now : DateTime) : (grantRow key now).isOf key = true := by
  simp [GrantRow.isOf, GrantRow.inSchema, grantRow]

/-- After granting, a grant is there that was there or is the one. -/
theorem any_grantAccess (now : DateTime) :
    (grantAccess rows key now).2.any (·.isOf other) = true ↔
      key = other ∨ rows.any (·.isOf other) = true := by
  unfold grantAccess
  dsimp only
  by_cases there : rows.any (·.isOf key) = true
  · rw [if_pos there]
    constructor
    · exact .inr
    · intro either
      cases either with
      | inl same => exact same ▸ there
      | inr held => exact held
  · rw [if_neg there, List.any_append, Bool.or_eq_true, List.any_cons, List.any_nil, Bool.or_false]
    constructor
    · intro either
      cases either with
      | inl held => exact .inr held
      | inr new => exact .inl (GrantRow.isOf_unique (isOf_grantRow key now) new)
    · intro either
      cases either with
      | inl same => exact .inr (same ▸ isOf_grantRow key now)
      | inr held => exact .inl held

/-- After revoking, the other grants are there. -/
theorem any_revokeAccess :
    (revokeAccess rows key).2.any (·.isOf other) = true ↔
      key ≠ other ∧ rows.any (·.isOf other) = true := by
  unfold revokeAccess
  simp only [List.any_eq_true, List.mem_filter, Bool.not_eq_true']
  constructor
  · intro ⟨row, ⟨inside, kept⟩, is⟩
    refine ⟨?_, row, inside, is⟩
    intro same
    rw [same, is] at kept
    cases kept
  · intro ⟨apart, row, inside, is⟩
    refine ⟨row, ⟨inside, ?_⟩, is⟩
    cases also : row.isOf key with
    | false => rfl
    | true => exact absurd (GrantRow.isOf_unique also is) apart

/-- After several grants, a grant is there that was there or is one of them. -/
theorem any_foldl_grantAccess (grants : List (GrantKey × DateTime)) :
    (grants.foldl (fun rows grant => (grantAccess rows grant.1 grant.2).2) rows).any
        (·.isOf other) = true ↔
      other ∈ grants.map Prod.fst ∨ rows.any (·.isOf other) = true := by
  induction grants generalizing rows with
  | nil => simp
  | cons grant rest ih =>
    rw [List.foldl_cons, ih, any_grantAccess, List.map_cons, List.mem_cons]
    constructor
    · intro either
      cases either with
      | inl later => exact .inl (.inr later)
      | inr now => exact now.imp_left fun same => .inl same.symm
    · intro either
      cases either with
      | inl among => exact among.elim (fun same => .inr (.inl same.symm)) .inl
      | inr held => exact .inr (.inr held)

/-- Access at a level is a grant of the level or of `ALL`. -/
theorem checkAccess_eq (rows : List GrantRow) (key : GrantKey) :
    checkAccess rows key =
      (rows.any (·.isOf key) || rows.any (·.isOf { key with level := .all })) := by
  induction rows with
  | nil => rfl
  | cons row rest ih =>
    have here : (row.role == key.role && row.inSchema key.namespaceName key.schemaName &&
        (row.grantLevel == key.level.value || row.grantLevel == "ALL")) =
        (row.isOf key || row.isOf { key with level := .all }) := by
      rw [GrantRow.isOf, GrantRow.isOf, ← Bool.and_or_distrib_left]
      rfl
    rw [checkAccess] at ih ⊢
    rw [List.any_cons, List.any_cons, List.any_cons, ih, here]
    simp only [Bool.or_assoc, Bool.or_left_comm]

end Rows

section Runs

/-- One more call. -/
theorem grantsAfter_concat (calls : List GrantCall) (call : GrantCall) :
    grantsAfter (calls ++ [call]) = call.apply (grantsAfter calls) := by
  rw [grantsAfter, List.foldl_append]
  rfl

/-- After bootstrapping, a grant is there that was there or is a default one. -/
theorem any_bootstrapGrants (clock : Nat → DateTime) (rows : List GrantRow) (key : GrantKey) :
    (bootstrapGrants clock rows).any (·.isOf key) = true ↔
      key ∈ defaultGrants ∨ rows.any (·.isOf key) = true := by
  have timed : bootstrapGrants clock rows = (defaultGrants.zipIdx.map fun grant =>
      (grant.1, clock grant.2)).foldl (fun rows grant => (grantAccess rows grant.1 grant.2).2)
        rows := by
    rw [List.foldl_map]
    rfl
  have names : (defaultGrants.zipIdx.map fun grant => (grant.1, clock grant.2)).map Prod.fst =
      defaultGrants := by
    rw [List.map_map]
    exact List.zipIdx_map_fst 0 defaultGrants
  rw [timed, any_foldl_grantAccess, names]

/-- A grant is there after one more call when the call gives it, or it was there and is not taken
back. -/
theorem any_apply (rows : List GrantRow) (call : GrantCall) (key : GrantKey) :
    (call.apply rows).any (·.isOf key) = true ↔
      call.Gives key ∨ rows.any (·.isOf key) = true ∧ ¬call.Takes key := by
  cases call with
  | grant other now =>
    have step := @any_grantAccess rows other key now
    simpa [GrantCall.apply, GrantCall.Gives, GrantCall.Takes] using step
  | revoke other =>
    have step := @any_revokeAccess rows other key
    rw [and_comm] at step
    simpa [GrantCall.apply, GrantCall.Gives, GrantCall.Takes] using step
  | bootstrap clock =>
    have step := any_bootstrapGrants clock rows key
    simpa [GrantCall.apply, GrantCall.Gives, GrantCall.Takes] using step

/-- A grant is in the table exactly when it stands. -/
theorem any_grantsAfter (calls : List GrantCall) (key : GrantKey) :
    (grantsAfter calls).any (·.isOf key) = true ↔ Standing calls key :=
  @Machine.holds_iff_set_since _ (fun calls => (grantsAfter calls).any (·.isOf key) = true)
    (fun _ call => call.Gives key) (GrantCall.Takes key) Bool.false_ne_true
    (fun before call => by rw [grantsAfter_concat, any_apply]) calls

/-- The rows of grants with different keys. -/
def Stores (rows : List GrantRow) (grants : List CatalogGrant) : Prop :=
  rows = grants.map (fun grant => grantRow grant.key grant.grantedAt) ∧
    (grants.map CatalogGrant.key).Nodup

/-- A row with a key is that of a grant of it. -/
theorem any_isOf_iff {rows : List GrantRow} {grants : List CatalogGrant}
    (stores : Stores rows grants) (key : GrantKey) :
    rows.any (·.isOf key) = true ↔ key ∈ grants.map CatalogGrant.key := by
  rw [stores.1, List.any_map, List.any_eq_true, List.mem_map]
  constructor
  · intro ⟨grant, inside, is⟩
    exact ⟨grant, inside, GrantRow.isOf_unique (isOf_grantRow _ _) is⟩
  · intro ⟨grant, inside, same⟩
    exact ⟨grant, inside, same ▸ isOf_grantRow grant.key grant.grantedAt⟩

/-- Granting keeps that the rows are those of grants. -/
theorem stores_grantAccess {rows : List GrantRow} {grants : List CatalogGrant}
    (stores : Stores rows grants) (key : GrantKey) (now : DateTime) :
    ∃ more, Stores (grantAccess rows key now).2 more := by
  unfold grantAccess
  dsimp only
  by_cases there : rows.any (·.isOf key) = true
  · rw [if_pos there]
    exact ⟨grants, stores⟩
  · rw [if_neg there]
    rw [any_isOf_iff stores] at there
    refine ⟨grants ++ [⟨key, now⟩], ?_, ?_⟩
    · rw [stores.1, List.map_append]
      rfl
    · rw [List.map_append, List.nodup_append]
      refine ⟨stores.2, List.nodup_singleton _, ?_⟩
      intro one inside two last same
      rw [List.map_singleton, List.mem_singleton] at last
      rw [same, last] at inside
      exact there inside

/-- The rows are always those of grants with different keys. -/
theorem stores_grantsAfter (calls : List GrantCall) :
    ∃ grants, Stores (grantsAfter calls) grants := by
  induction calls using List.reverseRecOn with
  | nil => exact ⟨[], rfl, List.nodup_nil⟩
  | append_singleton calls call ih =>
    have ⟨grants, stores⟩ := ih
    rw [grantsAfter_concat]
    cases call with
    | grant key now => exact stores_grantAccess stores key now
    | revoke key =>
      refine ⟨grants.filter fun grant => !(grantRow grant.key grant.grantedAt).isOf key, ?_, ?_⟩
      · rw [GrantCall.apply, revokeAccess, stores.1, List.filter_map]
        rfl
      · exact stores.2.sublist (List.filter_sublist.map _)
    | bootstrap clock =>
      rw [GrantCall.apply, bootstrapGrants]
      generalize defaultGrants.zipIdx = defaults
      generalize grantsAfter calls = rows at stores
      induction defaults generalizing rows grants with
      | nil => exact ⟨grants, stores⟩
      | cons grant rest inner =>
        have ⟨more, next⟩ := stores_grantAccess stores grant.1 (clock grant.2)
        exact inner more _ next

/-- The row of a grant reads back. -/
theorem read_grantRow (grant : CatalogGrant) :
    (grantRow grant.key grant.grantedAt).read = .ok grant := by
  have time : readIsoformat grant.grantedAt.isoformat = .ok grant.grantedAt := by
    rw [readIsoformat, DateTime.fromIsoformat_isoformat]
  have level : GrantLevel.ofValue? grant.key.level.value = some grant.key.level :=
    GrantLevel.ofValue?_value _
  rw [GrantRow.read, grantRow]
  dsimp only
  rw [level, time]
  rfl

/-- A schema lists its grants by role. -/
theorem listGrants_of_stores {rows : List GrantRow} {grants : List CatalogGrant}
    (stores : Stores rows grants) (namespaceName schemaName : String) :
    ∃ listed, listGrants rows namespaceName schemaName = .ok listed ∧
      listed.Perm (grants.filter fun grant =>
        grant.key.namespaceName == namespaceName && grant.key.schemaName == schemaName) ∧
      listed.Pairwise fun first second => first.key.role ≤ second.key.role := by
  let rowOf : CatalogGrant → GrantRow := fun grant => grantRow grant.key grant.grantedAt
  let chosen := grants.filter fun grant =>
    grant.key.namespaceName == namespaceName && grant.key.schemaName == schemaName
  have filtered : (rows.filter fun row => row.inSchema namespaceName schemaName) =
      chosen.map rowOf := by
    rw [stores.1, List.filter_map]
    rfl
  have sorted := stablySorted_sortBy (fun grant : CatalogGrant => grant.key.role) chosen
  have rowsSorted : sortBy GrantRow.role (chosen.map rowOf) =
      (sortBy (fun grant : CatalogGrant => grant.key.role) chosen).map rowOf :=
    (@List.map_mergeSort _ _ (fun first second : CatalogGrant =>
      decide (first.key.role ≤ second.key.role)) (fun first second : GrantRow =>
        decide (first.role ≤ second.role)) rowOf chosen fun _ _ _ _ => rfl).symm
  refine ⟨sortBy (fun grant : CatalogGrant => grant.key.role) chosen, ?_, sorted.perm,
    sorted.ordered⟩
  rw [listGrants, filtered, rowsSorted, List.mapM_map]
  have each := mapM_eq_map (fun grant (_ : grant ∈ sortBy (fun grant : CatalogGrant =>
    grant.key.role) chosen) => read_grantRow grant)
  rw [List.map_id'] at each
  exact each

/-- In every run of grants, revocations and bootstraps, a role has access exactly when the level or
`ALL` was given to it and not taken back since; a revocation says whether there was something to take
back; and a schema lists exactly its standing grants, each once and by role. -/
theorem access_iff_standing (calls : List GrantCall) (key : GrantKey) :
    (checkAccess (grantsAfter calls) key = true ↔
      Standing calls key ∨ Standing calls { key with level := .all }) ∧
    ((revokeAccess (grantsAfter calls) key).1 = true ↔ Standing calls key) ∧
    ∃ grants, listGrants (grantsAfter calls) key.namespaceName key.schemaName = .ok grants ∧
      (grants.map CatalogGrant.key).Nodup ∧
      grants.Pairwise (fun first second => first.key.role ≤ second.key.role) ∧
      ∀ other, other ∈ grants.map CatalogGrant.key ↔
        other.namespaceName = key.namespaceName ∧ other.schemaName = key.schemaName ∧
          Standing calls other := by
  refine ⟨?_, any_grantsAfter calls key, ?_⟩
  · rw [checkAccess_eq, Bool.or_eq_true, any_grantsAfter, any_grantsAfter]
  · have ⟨grants, stores⟩ := stores_grantsAfter calls
    have ⟨listed, made, perm, ordered⟩ :=
      listGrants_of_stores stores key.namespaceName key.schemaName
    refine ⟨listed, made, ?_, ordered, ?_⟩
    · exact (perm.map CatalogGrant.key).nodup_iff.mpr
        (stores.2.sublist (List.filter_sublist.map _))
    · intro other
      rw [← any_grantsAfter, any_isOf_iff stores, (perm.map CatalogGrant.key).mem_iff]
      simp only [List.mem_map, List.mem_filter, Bool.and_eq_true, beq_iff_eq]
      constructor
      · intro ⟨grant, ⟨inside, names, schema⟩, is⟩
        exact ⟨is ▸ names, is ▸ schema, grant, inside, is⟩
      · intro ⟨names, schema, grant, inside, is⟩
        exact ⟨grant, ⟨inside, is ▸ names, is ▸ schema⟩, is⟩

end Runs

/-- The permissions to read the layers. -/
def layerPermissions : List (String × Permission) :=
  [("bronze", .readBronze), ("silver", .readSilver), ("gold", .readGold)]

/-- A catalog and the permissions of tiers agree on a role. -/
def Mirrors (rows : List GrantRow) (role : String) : Prop :=
  (∀ layer ∈ layerPermissions, checkAccess rows ⟨role, "velaflow", layer.1, .select⟩ =
    ({} : RBACPolicy).hasPermission role layer.2) ∧
  checkAccess rows ⟨role, "velaflow", "bronze", .insert⟩ =
    ({} : RBACPolicy).hasPermission role .writeBronze

/-- However often it is bootstrapped, the catalog mirrors the permissions of every tier but `vip` and
`demo`, which have no grants. -/
theorem mirrors_iff (clock : Nat → DateTime) (more : List (Nat → DateTime)) (role : String) :
    Mirrors (grantsAfter ((clock :: more).map GrantCall.bootstrap)) role ↔
      role ≠ "vip" ∧ role ≠ "demo" := by
  have held : ∀ key : GrantKey, (grantsAfter ((clock :: more).map GrantCall.bootstrap)).any
      (·.isOf key) = true ↔ key ∈ defaultGrants := by
    intro key
    rw [List.map_cons, any_grantsAfter]
    constructor
    · intro ⟨before, call, after, split, gives, _⟩
      have inside : call ∈ (clock :: more).map GrantCall.bootstrap := by
        rw [List.map_cons, split]
        exact List.mem_append_right before List.mem_cons_self
      have ⟨_, _, is⟩ := List.mem_map.mp inside
      rw [← is] at gives
      exact gives
    · intro default
      refine ⟨[], .bootstrap clock, more.map GrantCall.bootstrap, rfl, default, ?_⟩
      intro later inside
      have ⟨_, _, is⟩ := List.mem_map.mp inside
      rw [← is]
      exact id
  have access : ∀ key : GrantKey,
      checkAccess (grantsAfter ((clock :: more).map GrantCall.bootstrap)) key =
        (defaultGrants.contains key || defaultGrants.contains { key with level := .all }) := by
    intro key
    rw [checkAccess_eq, Bool.eq_iff_iff, Bool.or_eq_true, Bool.or_eq_true, held, held,
      List.contains_iff_mem, List.contains_iff_mem]
  simp only [Mirrors, access]
  by_cases known : role ∈ ["free", "standard", "premium", "vip", "demo", "admin"]
  · simp only [List.mem_cons, List.not_mem_nil, or_false] at known
    rcases known with rfl | rfl | rfl | rfl | rfl | rfl <;> decide +kernel
  · have roles : ∀ key ∈ defaultGrants,
        key.role ∈ ["free", "standard", "premium", "vip", "demo", "admin"] := by decide +kernel
    have never : ∀ key : GrantKey, key.role = role → defaultGrants.contains key = false := by
      intro key same
      rw [← Bool.not_eq_true, List.contains_iff_mem]
      exact fun inside => known (same ▸ roles key inside)
    have tier : tierRoles role = [] := by
      unfold tierRoles
      split <;> first | rfl | exact absurd (by decide) known
    have refused : ∀ permission, ({} : RBACPolicy).hasPermission role permission = false := by
      intro permission
      have none : ({} : RBACPolicy).getPermissions role = [] := tier
      rw [RBACPolicy.hasPermission, none]
      rfl
    refine iff_of_true ⟨fun layer _ => ?_, ?_⟩ ⟨?_, ?_⟩
    · rw [never _ rfl, never _ rfl, refused]
      rfl
    · rw [never _ rfl, never _ rfl, refused]
      rfl
    · intro is
      rw [is] at known
      exact known (by decide)
    · intro is
      rw [is] at known
      exact known (by decide)

end VelaFlow.Catalog
