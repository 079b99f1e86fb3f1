import VelaFlow.Foundation.DateTime
import VelaFlow.Foundation.Windows
import VelaFlow.Pipeline.Silver

/-!
# The medallion tables of `engine/processor.py`

Raw records become rows of one table, and a query makes of the rows of a tenant those of another:
it drops rows without an identifier or content and takes of each identifier a row that is numbered
one. Which row the database numbers one among those of one time is a parameter of the query. The
catalog that the processor keeps of its tables is left out.
-/
namespace VelaFlow.Engine

open Pipeline

/-- A row of `bronze_tasks`. -/
structure BronzeRow where
  /-- `id`. -/
  id : String
  /-- `tenant_id`. -/
  tenantId : String
  /-- `source`. -/
  source : String
  /-- `content`. -/
  content : String
  /-- `priority`. -/
  priority : Int
  /-- `due_date`. -/
  dueDate : String
  /-- `labels`. -/
  labels : String
  /-- `project_name`. -/
  projectName : String
  /-- `ingested_at`, in microseconds. -/
  ingestedAt : Int
  /-- `batch_id`. -/
  batchId : String
  deriving DecidableEq

/-- A row of `silver_tasks`. -/
structure SilverRow where
  /-- `id`. -/
  id : String
  /-- `tenant_id`. -/
  tenantId : String
  /-- `content`. -/
  content : String
  /-- `priority`. -/
  priority : Int
  /-- `due_date`. -/
  dueDate : String
  /-- `labels`. -/
  labels : String
  /-- `project_name`. -/
  projectName : String
  /-- `data_hash`. -/
  dataHash : String
  /-- `processed_at`, in microseconds. -/
  processedAt : Int
  deriving DecidableEq

/-- The tables of the two layers. -/
structure Tables where
  /-- `bronze_tasks`. -/
  bronze : List BronzeRow
  /-- `silver_tasks`. -/
  silver : List SilverRow

/-- The values of a column `INTEGER`. -/
def isInteger (value : Int) : Bool := decide (-2147483648 ≤ value) && decide (value ≤ 2147483647)

/-- `MedallionProcessor`, by what it calls. -/
structure MedallionProcessor where
  /-- `str` and `int`, as the silver layer calls them. -/
  builtins : SilverLayer
  /-- `json.dumps`. -/
  dumps : Json → String
  /-- `md5` of the database. -/
  md5 : String → String
  /-- The exception of the database for a value that is no `INTEGER`. -/
  outOfRange : Int → PyException

namespace MedallionProcessor

variable (processor : MedallionProcessor)

/-- The row of a raw record. -/
def bronzeRow (tenantId source batch : String) (now : DateTime) (record : Dict) :
    Except PyException BronzeRow := do
  let text := processor.builtins.text
  let priority ← processor.builtins.toInt (record.getD "priority" (.int 1))
  let dueDate := record.getD "due_date" (.str "")
  pure {
    id := text (record.getD "id" (.str ""))
    tenantId
    source
    content := text (record.getD "content" (.str ""))
    priority
    dueDate := if dueDate.truthy then text dueDate else ""
    labels := processor.dumps (record.getD "labels" (.arr []))
    projectName := text (record.getD "project_name" (.str ""))
    ingestedAt := now.instant
    batchId := batch }

/-- `INSERT INTO bronze_tasks`. -/
def insert (tables : Tables) (rows : List BronzeRow) : Except PyException Tables :=
  match rows.find? fun row => !isInteger row.priority with
  | some row => .error (processor.outOfRange row.priority)
  | none => .ok { tables with bronze := tables.bronze ++ rows }

/-- `bronze_ingest`. -/
def bronzeIngest (tenantId source : String) (records : List Dict) (batchId : String)
    (now : DateTime) (tables : Tables) : Except PyException (Nat × Tables) :=
  if records.isEmpty then .ok (0, tables)
  else do
    let batch :=
      if batchId = "" then source ++ "_" ++ tenantId ++ "_" ++ now.isoformat else batchId
    let rows ← records.mapM (processor.bronzeRow tenantId source batch now)
    let tables ← processor.insert tables rows
    pure (rows.length, tables)

/-- The row that the query makes of another. -/
def silverRow (now : DateTime) (row : BronzeRow) : SilverRow where
  id := row.id
  tenantId := row.tenantId
  content := row.content
  priority := row.priority
  dueDate := row.dueDate
  labels := row.labels
  projectName := row.projectName
  dataHash := processor.md5
    (row.id ++ "|" ++ row.content ++ "|" ++ toString row.priority ++ "|" ++ row.dueDate)
  processedAt := now.instant

/-- The rows that the query reads. -/
def validRows (tenantId : String) (tables : Tables) : List BronzeRow :=
  tables.bronze.filter fun row =>
    decide (row.tenantId = tenantId) && decide (row.id ≠ "") && decide (row.content ≠ "")

/-- `silver_transform`. -/
def silverTransform (window : Window BronzeRow.ingestedAt) (tenantId : String) (now : DateTime)
    (tables : Tables) : Nat × Tables :=
  let others := tables.silver.filter fun row => decide (row.tenantId ≠ tenantId)
  let ones := window.ones (fun row => (row.tenantId, row.id)) (validRows tenantId tables)
  let silver := others ++ ones.map (processor.silverRow now)
  ((silver.filter fun row => decide (row.tenantId = tenantId)).length, { tables with silver })

end MedallionProcessor

end VelaFlow.Engine
