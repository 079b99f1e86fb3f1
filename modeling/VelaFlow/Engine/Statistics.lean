import VelaFlow.Catalog.ReadBack
import VelaFlow.Engine.Gold
import VelaFlow.Foundation.Machine

/-!
# The statistics of `engine/processor.py`

The processor keeps a row count of each of its tables in the catalog. A stage sets the count to the
number of rows of one tenant, a failing stage sets nothing, and a new initialization sets zero. So
the counts stay truthful exactly when none of this makes a difference to what the tables hold.
-/
namespace VelaFlow.Engine

open Catalog Pipeline

/-- `_BRONZE_TASKS_COLUMNS`. -/
def bronzeTasksColumns : List ColumnDef :=
  [⟨"id", "TEXT", false, "Task ID from source"⟩,
    ⟨"tenant_id", "TEXT", false, "Tenant partition key"⟩,
    ⟨"source", "TEXT", false, "Data source (todoist, calendar, gmail)"⟩,
    ⟨"content", "TEXT", true, "Task content"⟩,
    ⟨"priority", "INTEGER", true, "Priority 1-4"⟩,
    ⟨"due_date", "TEXT", true, "ISO due date"⟩,
    ⟨"labels", "TEXT", true, "JSON array of labels"⟩,
    ⟨"project_name", "TEXT", true, "Project name"⟩,
    ⟨"ingested_at", "TIMESTAMP", false, "Ingestion timestamp"⟩,
    ⟨"batch_id", "TEXT", false, "Batch identifier"⟩]

/-- `_SILVER_TASKS_COLUMNS`. -/
def silverTasksColumns : List ColumnDef :=
  [⟨"id", "TEXT", false, "Deduplicated task ID"⟩,
    ⟨"tenant_id", "TEXT", false, "Tenant partition key"⟩,
    ⟨"content", "TEXT", true, "PII-masked content"⟩,
    ⟨"priority", "INTEGER", true, "Validated priority"⟩,
    ⟨"due_date", "TEXT", true, "Validated due date"⟩,
    ⟨"labels", "TEXT", true, "JSON array of labels"⟩,
    ⟨"project_name", "TEXT", true, "Project name"⟩,
    ⟨"data_hash", "TEXT", true, "SHA-256 data quality hash"⟩,
    ⟨"processed_at", "TIMESTAMP", false, "Processing timestamp"⟩]

/-- `_GOLD_SCORED_COLUMNS`. -/
def goldScoredColumns : List ColumnDef :=
  [⟨"id", "TEXT", false, "Task ID"⟩,
    ⟨"tenant_id", "TEXT", false, "Tenant partition key"⟩,
    ⟨"content", "TEXT", true, "Task content"⟩,
    ⟨"score", "INTEGER", false, "Computed priority score"⟩,
    ⟨"reasons", "TEXT", true, "JSON array of scoring reasons"⟩,
    ⟨"priority", "INTEGER", true, "Original priority"⟩,
    ⟨"due_date", "TEXT", true, "Due date"⟩,
    ⟨"project_name", "TEXT", true, "Project name"⟩,
    ⟨"scored_at", "TIMESTAMP", false, "Scoring timestamp"⟩]

/-- The three tables. -/
inductive Layer where
  /-- `bronze_tasks`. -/
  | bronze
  /-- `silver_tasks`. -/
  | silver
  /-- `gold_scored_tasks`. -/
  | gold
  deriving DecidableEq

/-- The key of a table in the catalog. -/
def Layer.key (namespaceName : String) : Layer → TableKey
  | .bronze => ⟨namespaceName, "bronze", "raw_tasks"⟩
  | .silver => ⟨namespaceName, "silver", "clean_tasks"⟩
  | .gold => ⟨namespaceName, "gold", "scored_tasks"⟩

/-- The database and the catalog of its tables. -/
structure Warehouse where
  /-- Whether the tables are created. -/
  created : Bool
  /-- The tables of the first two layers. -/
  tables : Tables
  /-- `gold_scored_tasks`. -/
  gold : List GoldRow
  /-- `_catalog`. -/
  catalog : CatalogStore

/-- The number of rows of a table. -/
def Warehouse.count (warehouse : Warehouse) : Layer → Nat
  | .bronze => warehouse.tables.bronze.length
  | .silver => warehouse.tables.silver.length
  | .gold => warehouse.gold.length

/-- The row count of a table in the catalog, when the table is registered. -/
def rowCountOf (catalog : CatalogStore) (key : TableKey) : Option Int :=
  (catalog.tables.find? fun row => decide (row.key = key)).map TableRow.rowCount

/-- The row counts in the catalog are the numbers of rows. -/
def Truthful (namespaceName : String) (warehouse : Warehouse) : Prop :=
  ∀ (layer : Layer) (listed : Int),
    rowCountOf warehouse.catalog (layer.key namespaceName) = some listed →
      listed = warehouse.count layer

/-- A call of the processor. -/
inductive MedallionCall where
  /-- `initialize`. -/
  | initializeTables (now : DateTime)
  /-- `bronze_ingest`. -/
  | bronzeIngest (tenantId source : String) (records : List Dict) (batchId : String) (now : DateTime)
  /-- `silver_transform`, with the order in which the database takes its rows. -/
  | silverTransform (window : Window BronzeRow.ingestedAt) (tenantId : String) (now : DateTime)
  /-- `gold_enrich`. -/
  | goldEnrich (tenantId : String) (tasks : List Dict) (now : DateTime)

/-- A processor with its catalog. Whether the database keeps the rows before one that it refuses is
a parameter. -/
structure Deployment where
  /-- The processor. -/
  processor : MedallionProcessor
  /-- `NAMESPACE`. -/
  namespaceName : String
  /-- How floats are written in the catalog. -/
  floats : JsonText.FloatText
  /-- Whether the rows before a refused one stay. -/
  keepsEarlier : Bool

/-- The batch that records are ingested in. -/
def batchName (source tenantId batchId : String) (now : DateTime) : String :=
  if batchId = "" then source ++ "_" ++ tenantId ++ "_" ++ now.isoformat else batchId

namespace MedallionProcessor

variable (processor : MedallionProcessor)

/-- The exception for a raw row with a value that is no `INTEGER`. -/
def bronzeRefusal (row : BronzeRow) : Option PyException :=
  if !isInteger row.priority then some (processor.outOfRange row.priority) else none

/-- `bronze_ingest`, with the table it leaves also when it raises. -/
def bronzeLeft (keepsEarlier : Bool) (tenantId source : String) (records : List Dict)
    (batchId : String) (now : DateTime) (bronze : List BronzeRow) :
    Except PyException Nat × List BronzeRow :=
  if records.isEmpty then (.ok 0, bronze)
  else
    match records.mapM (processor.bronzeRow tenantId source
        (batchName source tenantId batchId now) now) with
    | .error exception => (.error exception, bronze)
    | .ok rows =>
      let inserted := executemany keepsEarlier processor.bronzeRefusal bronze rows
      (inserted.1.map fun _ => rows.length, inserted.2)

end MedallionProcessor

namespace Deployment

variable (deployment : Deployment)

/-- The registrations of `_register_catalog`. -/
def tableRegistrations : List Registration :=
  [{ key := Layer.bronze.key deployment.namespaceName, columns := some bronzeTasksColumns,
      description := "Raw ingested tasks" },
    { key := Layer.silver.key deployment.namespaceName, columns := some silverTasksColumns,
      description := "Cleaned, deduplicated tasks" },
    { key := Layer.gold.key deployment.namespaceName, columns := some goldScoredColumns,
      description := "Scored and ranked tasks" }]

/-- Registrations one after the other, until one raises. -/
def registerAll (now : DateTime) : List Registration → CatalogStore → CatalogStore
  | [], catalog => catalog
  | call :: rest, catalog =>
    match catalog.registerTable deployment.floats call now with
    | .ok (_, later) => registerAll now rest later
    | .error _ => catalog

/-- `update_table_stats` of a table; when it raises the catalog stays as it is. -/
def withCount (layer : Layer) (count : Nat) (now : DateTime) (catalog : CatalogStore) :
    CatalogStore :=
  match catalog.updateTableStats (layer.key deployment.namespaceName) count 0 now with
  | .ok later => later
  | .error _ => catalog

/-- What a call leaves. A stage raises when the tables are not created, and leaves everything as it
is. -/
def after (warehouse : Warehouse) : MedallionCall → Warehouse
  | .initializeTables now => { warehouse with
      created := true,
      catalog := deployment.registerAll now deployment.tableRegistrations warehouse.catalog }
  | .bronzeIngest tenantId source records batchId now =>
    if !warehouse.created || records.isEmpty then warehouse
    else
      let left := deployment.processor.bronzeLeft deployment.keepsEarlier tenantId source records
        batchId now warehouse.tables.bronze
      let count := (left.2.filter fun row => decide (row.tenantId = tenantId)).length
      { warehouse with
        tables := { warehouse.tables with bronze := left.2 },
        catalog :=
          match left.1 with
          | .ok _ => deployment.withCount .bronze count now warehouse.catalog
          | .error _ => warehouse.catalog }
  | .silverTransform window tenantId now =>
    if !warehouse.created then warehouse
    else
      let left := deployment.processor.silverTransform window tenantId now warehouse.tables
      { warehouse with
        tables := left.2, catalog := deployment.withCount .silver left.1 now warehouse.catalog }
  | .goldEnrich tenantId tasks now =>
    if !warehouse.created then warehouse
    else
      let left := deployment.processor.goldEnrich deployment.keepsEarlier tenantId tasks now
        warehouse.gold
      { warehouse with
        gold := left.2,
        catalog :=
          match left.1 with
          | .ok inserted => deployment.withCount .gold inserted now warehouse.catalog
          | .error _ => warehouse.catalog }

end Deployment

end VelaFlow.Engine
