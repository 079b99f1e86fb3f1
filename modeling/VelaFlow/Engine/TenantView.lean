import VelaFlow.Engine.Truthfulness
import VelaFlow.Foundation.Machine

/-!
# What a tenant sees of the warehouse

All tenants share the three tables and the `lineage` table of the catalog. The queries of the
processor select the rows of one tenant. The order that a query asks for may leave the database a
choice among rows of one rank, which is a parameter of the query.
-/
namespace VelaFlow.Engine

open Catalog Machine Pipeline

/-- `LineageRecord`, with its time as the column has it. -/
structure LineageRecord where
  /-- `source_table`. -/
  sourceTable : String
  /-- `target_table`. -/
  targetTable : String
  /-- `pipeline_stage`. -/
  pipelineStage : String
  /-- `tenant_id`. -/
  tenantId : String
  /-- `transformed_at`. -/
  transformedAt : String
  /-- `record_count`. -/
  recordCount : Nat
  deriving DecidableEq

/-- The stage of a layer in the lineage. -/
def Layer.stage : Layer → String
  | .bronze => "bronze"
  | .silver => "silver"
  | .gold => "gold"

/-- The name of a table in the lineage. -/
def Layer.fullName (namespaceName : String) (layer : Layer) : String :=
  let key := layer.key namespaceName
  key.namespaceName ++ "." ++ key.schemaName ++ "." ++ key.name

/-- The warehouse, and the `lineage` table of its catalog. -/
structure Chronicle where
  /-- The database and the tables of the catalog. -/
  warehouse : Warehouse
  /-- `lineage`, in the order of its identifiers. -/
  lineage : List LineageRecord

namespace Deployment

variable (deployment : Deployment)

/-- The end of a stage: `update_table_stats`, and unless that raises `record_lineage`. -/
def recorded (layer : Layer) (sourceTable tenantId : String) (total count : Nat) (now : DateTime)
    (catalog : CatalogStore) : List LineageRecord :=
  match catalog.updateTableStats (layer.key deployment.namespaceName) total 0 now with
  | .ok _ => [{
      sourceTable
      targetTable := layer.fullName deployment.namespaceName
      pipelineStage := layer.stage
      tenantId
      transformedAt := now.isoformat
      recordCount := count }]
  | .error _ => []

/-- The lineage that a call records. A stage that raises records none. -/
def records (warehouse : Warehouse) : MedallionCall → List LineageRecord
  | .initializeTables _ => []
  | .bronzeIngest tenantId source records batchId now =>
    if !warehouse.created || records.isEmpty then []
    else
      let left := deployment.processor.bronzeLeft deployment.keepsEarlier tenantId source records
        batchId now warehouse.tables.bronze
      match left.1 with
      | .ok inserted =>
        deployment.recorded .bronze ("external." ++ source) tenantId
          (left.2.filter fun row => decide (row.tenantId = tenantId)).length inserted now
          warehouse.catalog
      | .error _ => []
  | .silverTransform window tenantId now =>
    if !warehouse.created then []
    else
      let left := deployment.processor.silverTransform window tenantId now warehouse.tables
      deployment.recorded .silver (Layer.bronze.fullName deployment.namespaceName) tenantId left.1
        left.1 now warehouse.catalog
  | .goldEnrich tenantId tasks now =>
    if !warehouse.created then []
    else
      match (deployment.processor.goldEnrich deployment.keepsEarlier tenantId tasks now
          warehouse.gold).1 with
      | .ok inserted =>
        deployment.recorded .gold (Layer.silver.fullName deployment.namespaceName) tenantId
          inserted inserted now warehouse.catalog
      | .error _ => []

/-- What a call leaves, with the lineage. -/
def follow (chronicle : Chronicle) (call : MedallionCall) : Chronicle where
  warehouse := deployment.after chronicle.warehouse call
  lineage := chronicle.lineage ++ deployment.records chronicle.warehouse call

/-- A bootstrapped catalog without lineage, and a database without tables. -/
def inception : Chronicle := ⟨deployment.bootstrapped, []⟩

end Deployment

/-- What `tenant_stats` returns. -/
structure TenantStats where
  /-- `tenant_id`. -/
  tenantId : String
  /-- `bronze_records`. -/
  bronzeRecords : Nat
  /-- `silver_records`. -/
  silverRecords : Nat
  /-- `gold_records`. -/
  goldRecords : Nat
  /-- `top_score`. -/
  topScore : Int
  deriving DecidableEq

section Queries

variable (tenantId : String) (chronicle : Chronicle)

/-- The raw rows of a tenant. -/
def bronzeRowsOf : List BronzeRow :=
  chronicle.warehouse.tables.bronze.filter fun row => decide (row.tenantId = tenantId)

/-- The clean rows of a tenant. -/
def silverRowsOf : List SilverRow :=
  chronicle.warehouse.tables.silver.filter fun row => decide (row.tenantId = tenantId)

/-- The lineage of a tenant. -/
def lineageOf : List LineageRecord :=
  chronicle.lineage.filter fun record => decide (record.tenantId = tenantId)

/-- `bronze_query`. -/
def bronzeQuery (window : Window BronzeRow.ingestedAt) (source : Option String) :
    List BronzeRow :=
  match source with
  | some name =>
    if name = "" then window.arrange (bronzeRowsOf tenantId chronicle)
    else window.arrange ((bronzeRowsOf tenantId chronicle).filter fun row =>
      decide (row.source = name))
  | none => window.arrange (bronzeRowsOf tenantId chronicle)

/-- `silver_query`. -/
def silverQuery (window : Window fun row : SilverRow => OrderDual.toDual row.id) :
    List SilverRow :=
  window.arrange (silverRowsOf tenantId chronicle)

/-- `gold_query`. -/
def goldQuery (window : Window GoldRow.score) (topN : Nat) : List GoldRow :=
  (window.arrange (goldRowsOf tenantId chronicle.warehouse.gold)).take topN

/-- `get_full_lineage`. -/
def fullLineage (window : Window fun record : LineageRecord =>
    OrderDual.toDual record.transformedAt) : List LineageRecord :=
  window.arrange (lineageOf tenantId chronicle)

/-- `tenant_stats`. -/
def tenantStats : TenantStats where
  tenantId
  bronzeRecords := (bronzeRowsOf tenantId chronicle).length
  silverRecords := (silverRowsOf tenantId chronicle).length
  goldRecords := (goldRowsOf tenantId chronicle.warehouse.gold).length
  topScore := ((goldRowsOf tenantId chronicle.warehouse.gold).map GoldRow.score).max?.getD 0

end Queries

/-- A query for a tenant. -/
inductive Question where
  /-- `bronze_query`. -/
  | bronze (window : Window BronzeRow.ingestedAt) (source : Option String)
  /-- `silver_query`. -/
  | silver (window : Window fun row : SilverRow => OrderDual.toDual row.id)
  /-- `gold_query`. -/
  | gold (window : Window GoldRow.score) (topN : Nat)
  /-- `tenant_stats`. -/
  | stats
  /-- `get_full_lineage`. -/
  | lineage (window : Window fun record : LineageRecord => OrderDual.toDual record.transformedAt)

/-- What a query comes to. -/
inductive Answer where
  /-- Raw rows. -/
  | bronze (rows : List BronzeRow)
  /-- Clean rows. -/
  | silver (rows : List SilverRow)
  /-- Scored rows. -/
  | gold (rows : List GoldRow)
  /-- Statistics. -/
  | stats (stats : TenantStats)
  /-- Lineage. -/
  | lineage (records : List LineageRecord)
  /-- The tables are not created. -/
  | raised

/-- The answer to a query for a tenant. -/
def ask (tenantId : String) (chronicle : Chronicle) : Question → Answer
  | .bronze window source =>
    if chronicle.warehouse.created then .bronze (bronzeQuery tenantId chronicle window source)
    else .raised
  | .silver window =>
    if chronicle.warehouse.created then .silver (silverQuery tenantId chronicle window)
    else .raised
  | .gold window topN =>
    if chronicle.warehouse.created then .gold (goldQuery tenantId chronicle window topN)
    else .raised
  | .stats =>
    if chronicle.warehouse.created then .stats (tenantStats tenantId chronicle) else .raised
  | .lineage window => .lineage (fullLineage tenantId chronicle window)

/-- Whether a call is an initialization or one for the tenant. -/
def MedallionCall.concerns (tenantId : String) : MedallionCall → Bool
  | .initializeTables _ => true
  | .bronzeIngest other _ _ _ _ => decide (other = tenantId)
  | .silverTransform _ other _ => decide (other = tenantId)
  | .goldEnrich other _ _ => decide (other = tenantId)

/-- All that queries for a tenant depend on. -/
structure TenantRows where
  /-- Whether the tables are created. -/
  created : Bool
  /-- Its raw rows. -/
  bronze : List BronzeRow
  /-- Its clean rows. -/
  silver : List SilverRow
  /-- Its scored rows. -/
  gold : List GoldRow
  /-- Its lineage. -/
  lineage : List LineageRecord

/-- What there is of a tenant. -/
def rowsFor (tenantId : String) (chronicle : Chronicle) : TenantRows where
  created := chronicle.warehouse.created
  bronze := bronzeRowsOf tenantId chronicle
  silver := silverRowsOf tenantId chronicle
  gold := goldRowsOf tenantId chronicle.warehouse.gold
  lineage := lineageOf tenantId chronicle

/-- Queries see what there is of the tenant. -/
theorem ask_congr {tenantId : String} {one other : Chronicle}
    (same : rowsFor tenantId one = rowsFor tenantId other) (question : Question) :
    ask tenantId one question = ask tenantId other question := by
  have created : one.warehouse.created = other.warehouse.created :=
    congrArg TenantRows.created same
  have bronze : bronzeRowsOf tenantId one = bronzeRowsOf tenantId other :=
    congrArg TenantRows.bronze same
  have silver : silverRowsOf tenantId one = silverRowsOf tenantId other :=
    congrArg TenantRows.silver same
  have gold : goldRowsOf tenantId one.warehouse.gold = goldRowsOf tenantId other.warehouse.gold :=
    congrArg TenantRows.gold same
  have lineage : lineageOf tenantId one = lineageOf tenantId other :=
    congrArg TenantRows.lineage same
  cases question with
  | bronze window source => simp only [ask, bronzeQuery, created, bronze]
  | silver window => simp only [ask, silverQuery, created, silver]
  | gold window topN => simp only [ask, goldQuery, created, gold]
  | stats => simp only [ask, tenantStats, created, bronze, silver, gold]
  | lineage window => simp only [ask, fullLineage, lineage]

section Rows

variable {ρ : Type} {tenant : ρ → String} {tenantId other : String} {table rows : List ρ}

/-- Rows of a tenant are added to what it has. -/
theorem filter_append_own (owned : ∀ row ∈ rows, tenant row = tenantId) :
    (table ++ rows).filter (fun row => decide (tenant row = tenantId)) =
      table.filter (fun row => decide (tenant row = tenantId)) ++ rows := by
  have all := List.filter_eq_self.mpr fun row inside => decide_eq_true (owned row inside)
  rw [List.filter_append, all]

/-- Rows of a tenant are not seen by another. -/
theorem filter_append_other (owned : ∀ row ∈ rows, tenant row = tenantId)
    (apart : tenantId ≠ other) :
    (table ++ rows).filter (fun row => decide (tenant row = other)) =
      table.filter fun row => decide (tenant row = other) := by
  have nothing : rows.filter (fun row => decide (tenant row = other)) = [] := by
    rw [List.filter_eq_nil_iff]
    intro row inside
    simp [owned row inside, apart]
  rw [List.filter_append, nothing, List.append_nil]

/-- Rows that replace those of a tenant are not seen by another. -/
theorem filter_replaced_other (owned : ∀ row ∈ rows, tenant row = tenantId)
    (apart : tenantId ≠ other) :
    ((table.filter fun row => decide (tenant row ≠ tenantId)) ++ rows).filter
        (fun row => decide (tenant row = other)) =
      table.filter fun row => decide (tenant row = other) := by
  rw [filter_append_other owned apart, List.filter_filter]
  refine List.filter_congr fun row _ => ?_
  by_cases its : tenant row = other
  · simp [its, apart.symm]
  · simp [its]

end Rows

section Stages

variable (processor : MedallionProcessor) (keepsEarlier : Bool) (tenantId : String)

/-- What a raw batch comes to and adds does not depend on the rows that are there. -/
theorem bronzeLeft_spec (source : String) (records : List Dict) (batchId : String)
    (now : DateTime) :
    ∃ outcome added, (∀ row ∈ added, row.tenantId = tenantId) ∧
      (∀ inserted, outcome = .ok inserted → added.length = inserted) ∧
      (keepsEarlier = false → ∀ exception, outcome = .error exception → added = []) ∧
      ∀ bronze, processor.bronzeLeft keepsEarlier tenantId source records batchId now bronze =
        (outcome, bronze ++ added) := by
  by_cases empty : records = []
  · subst empty
    refine ⟨.ok 0, [], by simp, ?_, by simp, fun bronze => by rw [List.append_nil]; rfl⟩
    intro inserted same
    cases same
    rfl
  · cases made : records.mapM (processor.bronzeRow tenantId source
        (batchName source tenantId batchId now) now) with
    | error exception =>
      have filled : records.isEmpty = false := List.isEmpty_eq_false_iff.mpr empty
      refine ⟨.error exception, [], by simp, fun _ same => (by cases same), by simp, ?_⟩
      intro bronze
      unfold MedallionProcessor.bronzeLeft
      rw [filled, if_neg (by decide), made, List.append_nil]
    | ok rows =>
      have owned := Deployment.tenantId_of_bronzeRows made
      cases refused : rows.findSome? processor.bronzeRefusal with
      | none =>
        have fits := Deployment.findSome?_bronzeRefusal_iff.mp refused
        refine ⟨.ok rows.length, rows, owned, ?_, fun _ _ same => (by cases same), fun bronze =>
          (Deployment.bronzeLeft_of_made empty made).1 fits⟩
        intro inserted same
        exact Except.ok.inj same
      | some exception =>
        have filled : records.isEmpty = false := List.isEmpty_eq_false_iff.mpr empty
        refine ⟨.error exception,
          if keepsEarlier then rows.takeWhile fun row => (processor.bronzeRefusal row).isNone
          else [], ?_, fun _ same => (by cases same), fun keeps _ _ => by rw [keeps]; rfl, ?_⟩
        · intro row inside
          cases keepsEarlier with
          | false => cases inside
          | true => exact owned row (List.takeWhile_subset _ inside)
        · intro bronze
          unfold MedallionProcessor.bronzeLeft
          rw [filled, if_neg (by decide), made]
          dsimp only
          rw [executemany_error refused]
          rfl

/-- What scored tasks come to and add does not depend on the rows that are there. -/
theorem goldEnrich_spec (tasks : List Dict) (now : DateTime) :
    ∃ outcome added, (∀ row ∈ added, row.tenantId = tenantId) ∧
      (∀ inserted, outcome = .ok inserted → added.length = inserted) ∧
      ∀ table, processor.goldEnrich keepsEarlier tenantId tasks now table =
        (outcome, goldRowsBut tenantId table ++ added) := by
  cases made : tasks.mapM (processor.goldRow tenantId now) with
  | error exception =>
    refine ⟨.error exception, [], by simp, fun _ same => (by cases same), fun table => ?_⟩
    unfold MedallionProcessor.goldEnrich
    rw [made, List.append_nil]
  | ok rows =>
    have owned := tenantId_of_mapM made
    cases refused : rows.findSome? processor.goldRefusal with
    | none =>
      refine ⟨.ok rows.length, rows, owned, ?_, fun table =>
        goldEnrich_of_storable made (findSome?_goldRefusal_iff.mp refused)⟩
      intro inserted same
      exact Except.ok.inj same
    | some exception =>
      refine ⟨.error exception,
        if keepsEarlier then rows.takeWhile fun row => (processor.goldRefusal row).isNone else [],
        ?_, fun _ same => (by cases same), fun table => ?_⟩
      · intro row inside
        cases keepsEarlier with
        | false => cases inside
        | true => exact owned row (List.takeWhile_subset _ inside)
      · unfold MedallionProcessor.goldEnrich
        rw [made]
        dsimp only
        rw [executemany_error refused]
        rfl

end Stages

namespace Deployment

variable (deployment : Deployment)

/-- What is recorded does not depend on the catalog. -/
theorem recorded_congr (layer : Layer) (sourceTable tenantId : String) (total count : Nat)
    (now : DateTime) (one other : CatalogStore) :
    deployment.recorded layer sourceTable tenantId total count now one =
      deployment.recorded layer sourceTable tenantId total count now other := by
  unfold recorded CatalogStore.updateTableStats
  by_cases large : (!fitsSqlite (total : Int) || !fitsSqlite 0) = true
  · rw [if_pos large, if_pos large]
  · rw [if_neg large, if_neg large]

/-- What is recorded is the tenant's. -/
theorem tenantId_of_recorded {layer : Layer} {sourceTable tenantId : String} {total count : Nat}
    {now : DateTime} {catalog : CatalogStore} :
    ∀ record ∈ deployment.recorded layer sourceTable tenantId total count now catalog,
      record.tenantId = tenantId := by
  intro record inside
  unfold recorded at inside
  cases updated : catalog.updateTableStats (layer.key deployment.namespaceName) total 0 now with
  | error exception =>
    rw [updated] at inside
    cases inside
  | ok later =>
    rw [updated] at inside
    rw [List.mem_singleton.mp inside]

/-- What a stage records when it returns, and nothing when it raises. -/
def recordedOf (layer : Layer) (sourceTable tenantId : String) (total : Nat)
    (outcome : Except PyException Nat) (now : DateTime) : List LineageRecord :=
  match outcome with
  | .ok count =>
    deployment.recorded layer sourceTable tenantId total count now
      deployment.bootstrapped.catalog
  | .error _ => []

/-- What a stage records is the tenant's. -/
theorem tenantId_of_recordedOf {layer : Layer} {sourceTable tenantId : String} {total : Nat}
    {outcome : Except PyException Nat} {now : DateTime} :
    ∀ record ∈ deployment.recordedOf layer sourceTable tenantId total outcome now,
      record.tenantId = tenantId := by
  cases outcome with
  | error exception => exact fun record inside => by cases inside
  | ok count => exact deployment.tenantId_of_recorded

/-- The clean rows that the query makes of a tenant's raw rows. -/
def cleanRows (window : Window BronzeRow.ingestedAt) (now : DateTime) (rows : List BronzeRow) :
    List SilverRow :=
  (window.ones (fun row => (row.tenantId, row.id)) (rows.filter fun row =>
    decide (row.id ≠ "") && decide (row.content ≠ ""))).map (deployment.processor.silverRow now)

/-- How many raw rows a lineage says were ingested. -/
def ingestedOf (lineage : List LineageRecord) : Nat :=
  ((lineage.filter fun record => decide (record.pipelineStage = Layer.bronze.stage)).map
    LineageRecord.recordCount).sum

/-- Lineage adds up. -/
theorem ingestedOf_append (first second : List LineageRecord) :
    ingestedOf (first ++ second) = ingestedOf first + ingestedOf second := by
  unfold ingestedOf
  rw [List.filter_append, List.map_append, List.sum_append]

/-- The lineage of the other stages ingests nothing. -/
theorem ingestedOf_recordedOf_other {layer : Layer} (other : layer ≠ .bronze)
    (sourceTable tenantId : String) (total : Nat) (outcome : Except PyException Nat)
    (now : DateTime) :
    ingestedOf (deployment.recordedOf layer sourceTable tenantId total outcome now) = 0 := by
  have stage : layer.stage ≠ Layer.bronze.stage := by
    cases layer with
    | bronze => exact absurd rfl other
    | silver => decide
    | gold => decide
  cases outcome with
  | error exception => rfl
  | ok count =>
    unfold recordedOf recorded CatalogStore.updateTableStats
    by_cases large : (!fitsSqlite (total : Int) || !fitsSqlite 0) = true
    · simp only [large, if_true]
      rfl
    · simp only [large]
      simp [ingestedOf, stage]

/-- The lineage of a raw batch has the number of its rows, unless the stage raised or the catalog
cannot hold the number of all rows. -/
theorem ingestedOf_recordedOf_bronze (sourceTable tenantId : String) (total : Nat)
    (outcome : Except PyException Nat) (now : DateTime) :
    ingestedOf (deployment.recordedOf .bronze sourceTable tenantId total outcome now) =
      match outcome with
      | .ok count => if fitsSqlite (total : Int) then count else 0
      | .error _ => 0 := by
  cases outcome with
  | error exception => rfl
  | ok count =>
    unfold recordedOf recorded CatalogStore.updateTableStats
    have zero : fitsSqlite 0 = true := by decide
    cases fits : fitsSqlite (total : Int) with
    | false => rfl
    | true =>
      simp only [zero]
      simp [ingestedOf]

/-- What there is of a tenant adds up. -/
structure Accounted (tenantId : String) (rows : TenantRows) : Prop where
  /-- The raw rows are its own. -/
  owned : ∀ row ∈ rows.bronze, row.tenantId = tenantId
  /-- The lineage has no more raw rows than there are. -/
  listed : ingestedOf rows.lineage ≤ rows.bronze.length
  /-- It has all of them, when refused batches leave nothing and the catalog can hold their
  number. -/
  whole : deployment.keepsEarlier = false → fitsSqlite rows.bronze.length = true →
    ingestedOf rows.lineage = rows.bronze.length
  /-- Clean rows have different identifiers. -/
  distinct : (rows.silver.map SilverRow.id).Nodup
  /-- Each clean row is made of a raw row with an identifier and content. -/
  derived : ∀ row ∈ rows.silver, ∃ raw ∈ rows.bronze, ∃ now,
    raw.id ≠ "" ∧ raw.content ≠ "" ∧ row = deployment.processor.silverRow now raw

/-- What a call makes of all that a tenant has: a function of that, which changes nothing when the
call is for another, and by which what the tenant has still adds up. -/
structure Moves (call : MedallionCall) (tenantId : String) (move : TenantRows → TenantRows) :
    Prop where
  /-- What the tenant has afterwards. -/
  does : ∀ chronicle, rowsFor tenantId (deployment.follow chronicle call) =
    move (rowsFor tenantId chronicle)
  /-- Calls for others change nothing. -/
  idle : call.concerns tenantId = false → ∀ rows, move rows = rows
  /-- What adds up before adds up afterwards. -/
  keeps : ∀ rows, deployment.Accounted tenantId rows → deployment.Accounted tenantId (move rows)

section Accounted

variable {deployment} {tenantId : String} {rows : TenantRows}

/-- A raw batch adds up. -/
theorem Accounted.ingest (accounted : deployment.Accounted tenantId rows)
    {added : List BronzeRow} {outcome : Except PyException Nat}
    (owned : ∀ row ∈ added, row.tenantId = tenantId)
    (counted : ∀ inserted, outcome = .ok inserted → added.length = inserted)
    (refused : deployment.keepsEarlier = false → ∀ exception, outcome = .error exception →
      added = []) (sourceTable : String) (now : DateTime) :
    deployment.Accounted tenantId { rows with
      bronze := rows.bronze ++ added,
      lineage := rows.lineage ++ deployment.recordedOf .bronze sourceTable tenantId
        (rows.bronze ++ added).length outcome now } where
  owned row inside := (List.mem_append.mp inside).elim (accounted.owned row) (owned row)
  listed := by
    have before := accounted.listed
    rw [ingestedOf_append, ingestedOf_recordedOf_bronze, List.length_append]
    cases outcome with
    | error exception =>
      dsimp only
      omega
    | ok inserted =>
      have level := counted inserted rfl
      dsimp only
      split
      · omega
      · omega
  whole keeps fits := by
    have before := accounted.whole keeps (fitsSqlite_of_le (by simp) fits)
    rw [ingestedOf_append, ingestedOf_recordedOf_bronze, before]
    cases outcome with
    | error exception =>
      rw [refused keeps exception rfl]
      simp
    | ok inserted =>
      dsimp only at fits ⊢
      rw [if_pos fits, List.length_append, counted inserted rfl]
  distinct := accounted.distinct
  derived row inside := by
    obtain ⟨raw, there, is⟩ := accounted.derived row inside
    exact ⟨raw, List.mem_append_left added there, is⟩

/-- Clean rows that replace others add up. -/
theorem Accounted.clean (accounted : deployment.Accounted tenantId rows)
    (window : Window BronzeRow.ingestedAt) {lineage : List LineageRecord}
    (level : ingestedOf lineage = ingestedOf rows.lineage) (now : DateTime) :
    deployment.Accounted tenantId { rows with
      silver := deployment.cleanRows window now rows.bronze, lineage } where
  owned := accounted.owned
  listed := level ▸ accounted.listed
  whole keeps fits := level ▸ accounted.whole keeps fits
  distinct := by
    have pairs := window.nodup_map_ones (fun row => (row.tenantId, row.id))
      (rows.bronze.filter fun row => decide (row.id ≠ "") && decide (row.content ≠ ""))
    have ids : (deployment.cleanRows window now rows.bronze).map SilverRow.id =
        (window.ones (fun row => (row.tenantId, row.id)) (rows.bronze.filter fun row =>
          decide (row.id ≠ "") && decide (row.content ≠ ""))).map BronzeRow.id := by
      unfold cleanRows
      rw [List.map_map]
      rfl
    have own : (window.ones (fun row => (row.tenantId, row.id)) (rows.bronze.filter fun row =>
        decide (row.id ≠ "") && decide (row.content ≠ ""))).map
          (fun row => (row.tenantId, row.id)) =
        ((deployment.cleanRows window now rows.bronze).map SilverRow.id).map
          fun id => (tenantId, id) := by
      rw [ids, List.map_map]
      refine List.map_congr_left fun row one => ?_
      have there := List.mem_of_mem_filter (window.mem_of_mem_ones _ one)
      rw [accounted.owned row there]
      rfl
    rw [own] at pairs
    exact pairs.of_map
  derived row inside := by
    obtain ⟨raw, one, is⟩ := List.mem_map.mp inside
    have ⟨there, valid⟩ := List.mem_filter.mp (window.mem_of_mem_ones _ one)
    rw [Bool.and_eq_true, decide_eq_true_iff, decide_eq_true_iff] at valid
    exact ⟨raw, there, now, valid.1, valid.2, is.symm⟩

/-- Scored rows add up. -/
theorem Accounted.score (accounted : deployment.Accounted tenantId rows)
    {lineage : List LineageRecord} (level : ingestedOf lineage = ingestedOf rows.lineage)
    (gold : List GoldRow) :
    deployment.Accounted tenantId { rows with gold, lineage } where
  owned := accounted.owned
  listed := level ▸ accounted.listed
  whole keeps fits := level ▸ accounted.whole keeps fits
  distinct := accounted.distinct
  derived := accounted.derived

end Accounted

/-- An initialization creates the tables. -/
theorem moves_initializeTables (now : DateTime) (tenantId : String) :
    deployment.Moves (.initializeTables now) tenantId
      fun rows => { rows with created := true } where
  does chronicle := by
    simp only [rowsFor, lineageOf, follow, records, List.append_nil]
    rfl
  idle hidden := by cases hidden
  keeps rows accounted := ⟨accounted.owned, accounted.listed, accounted.whole, accounted.distinct,
    accounted.derived⟩

/-- A raw batch adds rows and lineage to its tenant. -/
theorem moves_bronzeIngest (source : String) (batch : List Dict) (batchId : String) (now : DateTime)
    (own tenantId : String) :
    ∃ move, deployment.Moves (.bronzeIngest own source batch batchId now) tenantId move := by
  obtain ⟨outcome, added, owned, counted, refused, left⟩ := bronzeLeft_spec deployment.processor
    deployment.keepsEarlier own source batch batchId now
  have does : ∀ chronicle : Chronicle,
      deployment.follow chronicle (.bronzeIngest own source batch batchId now) =
        if !chronicle.warehouse.created || batch.isEmpty then chronicle
        else ⟨{ chronicle.warehouse with
            tables := { chronicle.warehouse.tables with
              bronze := chronicle.warehouse.tables.bronze ++ added },
            catalog := (deployment.after chronicle.warehouse
              (.bronzeIngest own source batch batchId now)).catalog },
          chronicle.lineage ++ deployment.recordedOf .bronze ("external." ++ source) own
            (bronzeRowsOf own chronicle ++ added).length outcome now⟩ := by
    intro chronicle
    unfold follow
    by_cases stops : (!chronicle.warehouse.created || batch.isEmpty) = true
    · simp only [records, after, stops, if_true, List.append_nil]
    · simp only [records, after, stops, left]
      rw [filter_append_own owned]
      cases outcome with
      | error exception => rfl
      | ok inserted =>
        rw [recordedOf, deployment.recorded_congr _ _ _ _ _ _ deployment.bootstrapped.catalog
          chronicle.warehouse.catalog]
        rfl
  by_cases its : own = tenantId
  · subst its
    refine ⟨fun rows => if !rows.created || batch.isEmpty then rows else { rows with
      bronze := rows.bronze ++ added,
      lineage := rows.lineage ++ deployment.recordedOf .bronze ("external." ++ source) own
        (rows.bronze ++ added).length outcome now }, ?_, fun hidden => ?_,
      fun rows accounted => ?_⟩
    · intro chronicle
      rw [does]
      by_cases stops : (!chronicle.warehouse.created || batch.isEmpty) = true
      · rw [if_pos stops, if_pos (show (!(rowsFor own chronicle).created || _) = true from stops)]
      · rw [if_neg stops, if_neg (show ¬(!(rowsFor own chronicle).created || _) = true from stops)]
        simp only [rowsFor, bronzeRowsOf, silverRowsOf, lineageOf]
        rw [filter_append_own owned, filter_append_own deployment.tenantId_of_recordedOf]
    · exact absurd hidden (by simp [MedallionCall.concerns])
    · split
      · exact accounted
      · exact accounted.ingest owned counted refused ("external." ++ source) now
  · refine ⟨id, fun chronicle => ?_, fun _ _ => rfl, fun _ accounted => accounted⟩
    rw [does]
    by_cases stops : (!chronicle.warehouse.created || batch.isEmpty) = true
    · rw [if_pos stops]
      rfl
    · rw [if_neg stops]
      simp only [rowsFor, bronzeRowsOf, silverRowsOf, lineageOf, id]
      rw [filter_append_other owned its, filter_append_other deployment.tenantId_of_recordedOf its]

/-- Clean rows are of the tenant whose raw rows they are made of. -/
theorem tenantId_of_cleanRows {window : Window BronzeRow.ingestedAt} {now : DateTime}
    {own : String} {chronicle : Chronicle} :
    ∀ row ∈ deployment.cleanRows window now (bronzeRowsOf own chronicle), row.tenantId = own := by
  intro row inside
  have ⟨raw, one, is⟩ := List.mem_map.mp inside
  have valid := List.mem_of_mem_filter (window.mem_of_mem_ones _ one)
  rw [← is]
  exact of_decide_eq_true (List.mem_filter.mp valid).2

/-- The query replaces the clean rows of a tenant. -/
theorem silverTransform_eq (window : Window BronzeRow.ingestedAt) (now : DateTime) (own : String)
    (chronicle : Chronicle) :
    deployment.processor.silverTransform window own now chronicle.warehouse.tables =
      ((deployment.cleanRows window now (bronzeRowsOf own chronicle)).length,
        { chronicle.warehouse.tables with
          silver := (chronicle.warehouse.tables.silver.filter fun row =>
            decide (row.tenantId ≠ own)) ++
              deployment.cleanRows window now (bronzeRowsOf own chronicle) }) := by
  have valid : MedallionProcessor.validRows own chronicle.warehouse.tables =
      (bronzeRowsOf own chronicle).filter fun row =>
        decide (row.id ≠ "") && decide (row.content ≠ "") := by
    unfold MedallionProcessor.validRows bronzeRowsOf
    rw [List.filter_filter]
    refine List.filter_congr fun row _ => ?_
    rw [Bool.and_assoc, Bool.and_comm]
  have made := @filter_replaced _ SilverRow.tenantId own chronicle.warehouse.tables.silver _
    (@tenantId_of_cleanRows deployment window now own chronicle)
  unfold MedallionProcessor.silverTransform
  rw [valid]
  exact Prod.ext (congrArg List.length made) rfl

/-- The query gives its tenant clean rows and lineage. -/
theorem moves_silverTransform (window : Window BronzeRow.ingestedAt) (now : DateTime)
    (own tenantId : String) :
    ∃ move, deployment.Moves (.silverTransform window own now) tenantId move := by
  have does : ∀ chronicle : Chronicle,
      deployment.follow chronicle (.silverTransform window own now) =
        if !chronicle.warehouse.created then chronicle
        else ⟨{ chronicle.warehouse with
            tables := { chronicle.warehouse.tables with
              silver := (chronicle.warehouse.tables.silver.filter fun row =>
                decide (row.tenantId ≠ own)) ++
                  deployment.cleanRows window now (bronzeRowsOf own chronicle) },
            catalog := (deployment.after chronicle.warehouse
              (.silverTransform window own now)).catalog },
          chronicle.lineage ++ deployment.recordedOf .silver
            (Layer.bronze.fullName deployment.namespaceName) own
            (deployment.cleanRows window now (bronzeRowsOf own chronicle)).length
            (.ok (deployment.cleanRows window now (bronzeRowsOf own chronicle)).length) now⟩ := by
    intro chronicle
    unfold follow
    by_cases stops : (!chronicle.warehouse.created) = true
    · simp only [records, after, stops, if_true, List.append_nil]
    · simp only [records, after, stops, silverTransform_eq]
      rw [recordedOf, deployment.recorded_congr _ _ _ _ _ _ deployment.bootstrapped.catalog
        chronicle.warehouse.catalog]
      rfl
  by_cases its : own = tenantId
  · subst its
    refine ⟨fun rows => if !rows.created then rows else { rows with
      silver := deployment.cleanRows window now rows.bronze,
      lineage := rows.lineage ++ deployment.recordedOf .silver
        (Layer.bronze.fullName deployment.namespaceName) own
        (deployment.cleanRows window now rows.bronze).length
        (.ok (deployment.cleanRows window now rows.bronze).length) now }, ?_, fun hidden => ?_,
      fun rows accounted => ?_⟩
    · intro chronicle
      rw [does]
      by_cases stops : (!chronicle.warehouse.created) = true
      · rw [if_pos stops, if_pos (show (!(rowsFor own chronicle).created) = true from stops)]
      · rw [if_neg stops, if_neg (show ¬(!(rowsFor own chronicle).created) = true from stops)]
        have made := @filter_replaced _ SilverRow.tenantId own chronicle.warehouse.tables.silver _
          (@tenantId_of_cleanRows deployment window now own chronicle)
        simp only [rowsFor, silverRowsOf, lineageOf]
        rw [made, filter_append_own deployment.tenantId_of_recordedOf]
        rfl
    · exact absurd hidden (by simp [MedallionCall.concerns])
    · split
      · exact accounted
      · refine accounted.clean window ?_ now
        rw [ingestedOf_append, deployment.ingestedOf_recordedOf_other (by decide), Nat.add_zero]
  · refine ⟨id, fun chronicle => ?_, fun _ _ => rfl, fun _ accounted => accounted⟩
    rw [does]
    by_cases stops : (!chronicle.warehouse.created) = true
    · rw [if_pos stops]
      rfl
    · rw [if_neg stops]
      simp only [rowsFor, silverRowsOf, lineageOf, id]
      rw [filter_replaced_other deployment.tenantId_of_cleanRows its,
        filter_append_other deployment.tenantId_of_recordedOf its]
      rfl

/-- Scored tasks give their tenant rows and lineage. -/
theorem moves_goldEnrich (tasks : List Dict) (now : DateTime) (own tenantId : String) :
    ∃ move, deployment.Moves (.goldEnrich own tasks now) tenantId move := by
  obtain ⟨outcome, added, owned, counted, left⟩ := goldEnrich_spec deployment.processor
    deployment.keepsEarlier own tasks now
  have does : ∀ chronicle : Chronicle,
      deployment.follow chronicle (.goldEnrich own tasks now) =
        if !chronicle.warehouse.created then chronicle
        else ⟨{ chronicle.warehouse with
            gold := goldRowsBut own chronicle.warehouse.gold ++ added,
            catalog := (deployment.after chronicle.warehouse (.goldEnrich own tasks now)).catalog },
          chronicle.lineage ++ deployment.recordedOf .gold
            (Layer.silver.fullName deployment.namespaceName) own added.length outcome now⟩ := by
    intro chronicle
    unfold follow
    by_cases stops : (!chronicle.warehouse.created) = true
    · simp only [records, after, stops, if_true, List.append_nil]
    · simp only [records, after, stops, left]
      cases outcome with
      | error exception => rfl
      | ok inserted =>
        rw [recordedOf, counted inserted rfl, deployment.recorded_congr _ _ _ _ _ _
          deployment.bootstrapped.catalog chronicle.warehouse.catalog]
        rfl
  by_cases its : own = tenantId
  · subst its
    refine ⟨fun rows => if !rows.created then rows else { rows with
      gold := added,
      lineage := rows.lineage ++ deployment.recordedOf .gold
        (Layer.silver.fullName deployment.namespaceName) own added.length outcome now }, ?_,
      fun hidden => ?_, fun rows accounted => ?_⟩
    · intro chronicle
      rw [does]
      by_cases stops : (!chronicle.warehouse.created) = true
      · rw [if_pos stops, if_pos (show (!(rowsFor own chronicle).created) = true from stops)]
      · rw [if_neg stops, if_neg (show ¬(!(rowsFor own chronicle).created) = true from stops)]
        simp only [rowsFor, lineageOf]
        rw [goldRowsOf_append owned, filter_append_own deployment.tenantId_of_recordedOf]
        rfl
    · exact absurd hidden (by simp [MedallionCall.concerns])
    · split
      · exact accounted
      · refine accounted.score ?_ added
        rw [ingestedOf_append, deployment.ingestedOf_recordedOf_other (by decide), Nat.add_zero]
  · refine ⟨id, fun chronicle => ?_, fun _ _ => rfl, fun _ accounted => accounted⟩
    rw [does]
    by_cases stops : (!chronicle.warehouse.created) = true
    · rw [if_pos stops]
      rfl
    · rw [if_neg stops]
      simp only [rowsFor, lineageOf, goldRowsOf, goldRowsBut, id]
      rw [filter_replaced_other owned its,
        filter_append_other deployment.tenantId_of_recordedOf its]
      rfl

/-- Each call makes of what a tenant has something that depends on that alone. -/
theorem exists_moves (call : MedallionCall) (tenantId : String) :
    ∃ move, deployment.Moves call tenantId move := by
  cases call with
  | initializeTables now => exact ⟨_, deployment.moves_initializeTables now tenantId⟩
  | bronzeIngest own source records batchId now =>
    exact deployment.moves_bronzeIngest source records batchId now own tenantId
  | silverTransform window own now => exact deployment.moves_silverTransform window now own tenantId
  | goldEnrich own tasks now => exact deployment.moves_goldEnrich tasks now own tenantId

end Deployment

/-- Whatever the tenants call in whatever order, and whichever calls raise, every query for a tenant
is answered as if only the initializations and its own calls had been made. -/
theorem ask_own_calls (deployment : Deployment) (tenantId : String) (calls : List MedallionCall)
    (question : Question) :
    ask tenantId (calls.foldl deployment.follow deployment.inception) question =
      ask tenantId ((calls.filter (MedallionCall.concerns tenantId)).foldl deployment.follow
        deployment.inception) question := by
  refine ask_congr (foldl_filter_of_unwinding ?_ ?_ calls rfl) question
  · intro chronicle call hidden
    have ⟨move, moves⟩ := deployment.exists_moves call tenantId
    rw [moves.does, moves.idle hidden]
  · intro one other call _ same
    have ⟨move, moves⟩ := deployment.exists_moves call tenantId
    rw [moves.does, moves.does, same]

/-- Of clean rows with different identifiers that are made of raw rows there are no more than of
these. -/
theorem Deployment.Accounted.length_le {deployment : Deployment} {tenantId : String}
    {rows : TenantRows} (accounted : deployment.Accounted tenantId rows) :
    rows.silver.length ≤ rows.bronze.length := by
  have among : rows.silver.map SilverRow.id ⊆ rows.bronze.map BronzeRow.id := by
    intro id inside
    obtain ⟨row, there, is⟩ := List.mem_map.mp inside
    obtain ⟨raw, rawThere, now, -, -, made⟩ := accounted.derived row there
    rw [← is, made]
    exact List.mem_map.mpr ⟨raw, rawThere, rfl⟩
  have fewer := (List.subperm_of_subset accounted.distinct among).length_le
  rwa [List.length_map, List.length_map] at fewer

/-- After every run of calls of all tenants what there is of a tenant adds up: its clean rows have
different identifiers and are made of its raw rows, its lineage accounts for its raw rows, and its
statistics count no more clean rows than raw ones. -/
theorem accounted_after_run (deployment : Deployment) (calls : List MedallionCall)
    (tenantId : String) :
    deployment.Accounted tenantId
        (rowsFor tenantId (calls.foldl deployment.follow deployment.inception)) ∧
      (tenantStats tenantId (calls.foldl deployment.follow deployment.inception)).silverRecords ≤
        (tenantStats tenantId
          (calls.foldl deployment.follow deployment.inception)).bronzeRecords := by
  have always : deployment.Accounted tenantId
      (rowsFor tenantId (calls.foldl deployment.follow deployment.inception)) := by
    induction calls using List.reverseRecOn with
    | nil =>
      exact {
        owned := fun row inside => absurd inside List.not_mem_nil
        listed := Nat.le_refl 0
        whole := fun _ _ => rfl
        distinct := List.nodup_nil
        derived := fun row inside => absurd inside List.not_mem_nil }
    | append_singleton earlier call ih =>
      have ⟨move, moves⟩ := deployment.exists_moves call tenantId
      rw [List.foldl_concat, moves.does]
      exact moves.keeps _ ih
  exact ⟨always, always.length_le⟩

end VelaFlow.Engine
