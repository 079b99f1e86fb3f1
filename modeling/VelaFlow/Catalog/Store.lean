import VelaFlow.Foundation.DateTime
import VelaFlow.Foundation.JsonCodec
import VelaFlow.Foundation.Sorting
import VelaFlow.Tenant.Records

/-!
# The table catalog of `catalog/store.py`

A table is registered under its namespace, schema and name. Registering it again updates only the
columns that the conflict clause names. One reader looks a table up, the other lists the tables of a
schema; each decodes a row in its own way. Namespaces, grants and lineage are left out, and the
schemas are fixed.
-/
namespace VelaFlow.Catalog

open Tenants

/-- `ColumnDef`. -/
structure ColumnDef where
  /-- `name`. -/
  name : String
  /-- `dtype`. -/
  dtype : String
  /-- `nullable`. -/
  nullable : Bool := true
  /-- `description`. -/
  description : String := ""
  deriving DecidableEq

/-- The primary key of a table. -/
@[ext] structure TableKey where
  /-- `namespace`. -/
  namespaceName : String
  /-- `schema_name`. -/
  schemaName : String
  /-- `name`. -/
  name : String
  deriving DecidableEq

/-- `CatalogTable`. -/
structure CatalogTable where
  /-- `namespace`, `schema_name` and `name`. -/
  key : TableKey
  /-- `columns`. -/
  columns : List ColumnDef
  /-- `row_count`. -/
  rowCount : Int
  /-- `size_bytes`. -/
  sizeBytes : Int
  /-- `format`. -/
  format : String
  /-- `description`. -/
  description : String
  /-- `created_at`. -/
  createdAt : DateTime
  /-- `updated_at`. -/
  updatedAt : DateTime

/-- A row of `tables`. -/
structure TableRow where
  /-- The primary key. -/
  key : TableKey
  /-- `columns_json`. -/
  columnsJson : String
  /-- `row_count`. -/
  rowCount : Int
  /-- `size_bytes`. -/
  sizeBytes : Int
  /-- `format`. -/
  format : String
  /-- `description`. -/
  description : String
  /-- `created_at`. -/
  createdAt : String
  /-- `updated_at`. -/
  updatedAt : String

/-- Rows with one key each, inserted one by one. -/
def upsert (row : TableRow) (update : TableRow → TableRow) : List TableRow → List TableRow
  | [] => [row]
  | other :: rest =>
    if other.key = row.key then update other :: rest else other :: upsert row update rest

/-- `CatalogStore`, with its schemas and tables. -/
structure CatalogStore where
  /-- The keys of `schemas`. -/
  schemas : List (String × String)
  /-- `tables`. -/
  tables : List TableRow

/-- The arguments of `register_table`. -/
structure Registration where
  /-- The key. -/
  key : TableKey
  /-- `columns`. -/
  columns : Option (List ColumnDef) := none
  /-- `row_count`. -/
  rowCount : Int := 0
  /-- `size_bytes`. -/
  sizeBytes : Int := 0
  /-- `fmt`. -/
  fmt : String := "json"
  /-- `description`. -/
  description : String := ""

/-- A column as a dictionary. -/
def columnDict (column : ColumnDef) : Dict :=
  [("name", .str column.name), ("dtype", .str column.dtype), ("nullable", .bool column.nullable),
    ("description", .str column.description)]

/-- A column of `get_table`. -/
def describedColumn (value : Json) : Except PyException ColumnDef := do
  let dict ← typed asDict "column" value
  let name ← field asStr dict "name"
  let dtype ← field asStr dict "dtype"
  let nullable ← fieldD asBool dict "nullable" true
  let description ← fieldD asStr dict "description" ""
  pure { name, dtype, nullable, description }

/-- A column of `list_tables`. -/
def plainColumn (value : Json) : Except PyException ColumnDef := do
  let dict ← typed asDict "column" value
  let name ← field asStr dict "name"
  let dtype ← field asStr dict "dtype"
  let nullable ← fieldD asBool dict "nullable" true
  pure { name, dtype, nullable }

/-- `datetime.fromisoformat`. -/
def readIsoformat (text : String) : Except PyException DateTime :=
  match DateTime.fromIsoformat text with
  | some time => .ok time
  | none => .error (.valueError ("Invalid isoformat string: '" ++ text ++ "'"))

/-- The numbers SQLite can hold. -/
def fitsSqlite (value : Int) : Bool :=
  decide (-9223372036854775808 ≤ value) && decide (value ≤ 9223372036854775807)

/-- The exception for a number that it cannot hold. -/
def sqliteOverflow : PyException :=
  .other "OverflowError" "Python int too large to convert to SQLite INTEGER"

section Texts

variable (floats : JsonText.FloatText)

/-- `json.dumps` of the columns. -/
def columnsText (columns : List ColumnDef) : String :=
  String.ofList (JsonText.dumps floats (.arr (columns.map fun column => .obj (columnDict column))))

/-- The columns in a text, read one by one. -/
def readColumns (read : Json → Except PyException ColumnDef) (text : String) :
    Except PyException (List ColumnDef) :=
  match JsonText.loads floats text.toList with
  | some (.arr items) => items.mapM read
  | some _ => .error (.typeError "columns")
  | none => .error (.valueError "Expecting value")

/-- The table of a row. -/
def readRow (read : Json → Except PyException ColumnDef) (row : TableRow) :
    Except PyException CatalogTable := do
  let columns ← readColumns floats read row.columnsJson
  let createdAt ← readIsoformat row.createdAt
  let updatedAt ← readIsoformat row.updatedAt
  pure {
    key := row.key, columns, rowCount := row.rowCount, sizeBytes := row.sizeBytes,
    format := row.format, description := row.description, createdAt, updatedAt }

namespace CatalogStore

variable (store : CatalogStore)

/-- `register_table`. -/
def registerTable (call : Registration) (now : DateTime) :
    Except PyException (CatalogTable × CatalogStore) :=
  let columns := call.columns.getD []
  let row := {
    key := call.key, columnsJson := columnsText floats columns, rowCount := call.rowCount,
    sizeBytes := call.sizeBytes, format := call.fmt, description := call.description,
    createdAt := now.isoformat, updatedAt := now.isoformat }
  let conflict := fun other : TableRow => { other with
    columnsJson := row.columnsJson, rowCount := row.rowCount, sizeBytes := row.sizeBytes,
    updatedAt := row.updatedAt }
  if !fitsSqlite call.rowCount || !fitsSqlite call.sizeBytes then .error sqliteOverflow
  else if (call.key.namespaceName, call.key.schemaName) ∉ store.schemas then
    .error (.other "IntegrityError" "FOREIGN KEY constraint failed")
  else
    .ok ({
      key := call.key, columns, rowCount := call.rowCount, sizeBytes := call.sizeBytes,
      format := call.fmt, description := call.description, createdAt := now, updatedAt := now },
      { store with tables := upsert row conflict store.tables })

/-- `get_table`. -/
def getTable (key : TableKey) : Except PyException (Option CatalogTable) :=
  match store.tables.find? fun row => decide (row.key = key) with
  | none => .ok none
  | some row => do
    let table ← readRow floats describedColumn row
    pure (some table)

/-- `list_tables`. -/
def listTables (namespaceName schemaName : String) : Except PyException (List CatalogTable) :=
  let rows := store.tables.filter fun row =>
    decide (row.key.namespaceName = namespaceName) && decide (row.key.schemaName = schemaName)
  (sortBy (fun row => row.key.name) rows).mapM (readRow floats plainColumn)

/-- `update_table_stats`. -/
def updateTableStats (key : TableKey) (rowCount sizeBytes : Int) (now : DateTime) :
    Except PyException CatalogStore :=
  if !fitsSqlite rowCount || !fitsSqlite sizeBytes then .error sqliteOverflow
  else .ok { store with tables := store.tables.map fun row =>
    if row.key = key then { row with rowCount, sizeBytes, updatedAt := now.isoformat } else row }

end CatalogStore

end Texts

end VelaFlow.Catalog
