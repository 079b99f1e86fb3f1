import Mathlib.Data.List.Induction
import VelaFlow.Catalog.Store
import VelaFlow.Foundation.KeyValue

/-!
# Reading the catalog back

After any history of calls, a row of the catalog has the columns and the statistics of the last call
that set them, but the format and the description of the first registration. The reader that looks a
table up shows the row; the one that lists tables shows it without the descriptions of its columns.
-/
namespace VelaFlow.Catalog

/-- A call that writes to the catalog. -/
inductive CatalogCall where
  /-- `register_table`. -/
  | registerTable (call : Registration) (now : DateTime)
  /-- `update_table_stats`. -/
  | updateTableStats (key : TableKey) (rowCount sizeBytes : Int) (now : DateTime)

/-- What is read of a table. -/
structure TableFacts where
  /-- `columns`. -/
  columns : List ColumnDef
  /-- `row_count`. -/
  rowCount : Int
  /-- `size_bytes`. -/
  sizeBytes : Int
  /-- `format`. -/
  format : String
  /-- `description`. -/
  description : String
  deriving DecidableEq

/-- What is read of a table that a call returns. -/
def CatalogTable.facts (table : CatalogTable) : TableFacts where
  columns := table.columns
  rowCount := table.rowCount
  sizeBytes := table.sizeBytes
  format := table.format
  description := table.description

/-- A catalog, and what is to be read of its tables. -/
structure Session where
  /-- The catalog. -/
  store : CatalogStore
  /-- What the last registration of each table returned, with later statistics. -/
  known : KeyMap TableKey TableFacts

/-- A registration that is accepted: the catalog can hold its numbers, and its schema exists. -/
def Registration.accepted (schemas : List (String × String)) (call : Registration) : Bool :=
  fitsSqlite call.rowCount && fitsSqlite call.sizeBytes &&
    schemas.contains (call.key.namespaceName, call.key.schemaName)

/-- The accepted registration of a table that a call is. -/
def registrationOf (schemas : List (String × String)) (key : TableKey) :
    CatalogCall → Option Registration
  | .registerTable call _ =>
    if call.key = key ∧ call.accepted schemas = true then some call else none
  | .updateTableStats .. => none

/-- The accepted registrations of a table. -/
def registrations (schemas : List (String × String)) (key : TableKey) (calls : List CatalogCall) :
    List Registration := calls.filterMap (registrationOf schemas key)

/-- The last registration of a table repeats the format and the description of the first, and does
not describe its columns. -/
def Repeats (schemas : List (String × String)) (key : TableKey) (calls : List CatalogCall) : Prop :=
  ∀ first last, (registrations schemas key calls).head? = some first →
    (registrations schemas key calls).getLast? = some last →
      last.fmt = first.fmt ∧ last.description = first.description ∧
        ∀ column ∈ last.columns.getD [], column.description = ""

section Calls

variable (floats : JsonText.FloatText)

/-- A call on a session. A call that raises leaves everything as it is. -/
def Session.after (session : Session) : CatalogCall → Session
  | .registerTable call now =>
    match session.store.registerTable floats call now with
    | .ok (table, store) => ⟨store, session.known.put call.key table.facts⟩
    | .error _ => session
  | .updateTableStats key rowCount sizeBytes now =>
    match session.store.updateTableStats key rowCount sizeBytes now with
    | .ok store => ⟨store, fun other =>
        if other = key then (session.known key).map fun facts => { facts with rowCount, sizeBytes }
        else session.known other⟩
    | .error _ => session

/-- The calls on a catalog that has no tables yet. -/
def sessionOf (schemas : List (String × String)) (calls : List CatalogCall) : Session :=
  calls.foldl (Session.after floats) ⟨⟨schemas, []⟩, .empty⟩

/-- Both readers show what is to be read of a table. -/
structure ReadsBack (session : Session) (key : TableKey) : Prop where
  /-- The table is looked up. -/
  looked : ∃ table, session.store.getTable floats key = .ok table ∧
    table.map CatalogTable.facts = session.known key
  /-- The table is listed. -/
  listed : ∃ tables, session.store.listTables floats key.namespaceName key.schemaName = .ok tables ∧
    (tables.find? fun table => decide (table.key.name = key.name)).map CatalogTable.facts =
      session.known key

/-- The row of a table of which something is to be read. -/
def rowWith (key : TableKey) (facts : TableFacts) (createdAt updatedAt : DateTime) : TableRow where
  key
  columnsJson := columnsText floats facts.columns
  rowCount := facts.rowCount
  sizeBytes := facts.sizeBytes
  format := facts.format
  description := facts.description
  createdAt := createdAt.isoformat
  updatedAt := updatedAt.isoformat

/-- What is to be read of a table as it was last registered, with later statistics. -/
def Registration.facts (call : Registration) (rowCount sizeBytes : Int) : TableFacts where
  columns := call.columns.getD []
  rowCount
  sizeBytes
  format := call.fmt
  description := call.description

/-- A row, the accepted registrations of its table and what is to be read of it belong together. -/
inductive Tracks (key : TableKey) : Option TableRow → List Registration → Option TableFacts → Prop
  /-- The table is not registered. -/
  | unregistered : Tracks key none [] none
  /-- The table is registered. -/
  | registered {registered : List Registration} {first last : Registration}
      (rowCount sizeBytes : Int) (createdAt updatedAt : DateTime)
      (head : registered.head? = some first) (tail : registered.getLast? = some last) :
      Tracks key
        (some (rowWith floats key { last.facts rowCount sizeBytes with
          format := first.fmt, description := first.description } createdAt updatedAt))
        registered (some (last.facts rowCount sizeBytes))

/-- What is kept by the calls of a session. -/
structure Kept (schemas : List (String × String)) (calls : List CatalogCall) (session : Session) :
    Prop where
  /-- The schemas stay. -/
  same : session.store.schemas = schemas
  /-- No key is repeated. -/
  distinct : (session.store.tables.map TableRow.key).Nodup
  /-- The rows belong to the registrations. -/
  tracks : ∀ key, Tracks floats key
    (session.store.tables.find? fun row => decide (row.key = key))
    (registrations schemas key calls) (session.known key)

end Calls

section Rows

variable {row : TableRow} {update : TableRow → TableRow}

/-- The row of a table after an insertion. -/
theorem find?_upsert (same : ∀ other, (update other).key = other.key) (rows : List TableRow)
    (key : TableKey) : ((upsert row update rows).find? fun other => decide (other.key = key)) =
      if row.key = key then
        some ((rows.find? fun other => decide (other.key = row.key)).elim row update)
      else rows.find? fun other => decide (other.key = key) := by
  induction rows with
  | nil =>
    by_cases mine : row.key = key
    · simp [upsert, mine]
    · simp [upsert, mine]
  | cons other rest ih =>
    unfold upsert
    by_cases conflict : other.key = row.key
    · rw [if_pos conflict]
      by_cases mine : row.key = key
      · simp [same, conflict, mine]
      · simp [same, conflict, mine]
    · rw [if_neg conflict, List.find?_cons, List.find?_cons, List.find?_cons, ih]
      by_cases mine : row.key = key
      · have apart : ¬other.key = key := mine ▸ conflict
        simp [mine, apart]
      · simp [mine]

/-- The keys of rows after an insertion. -/
theorem mem_keys_upsert (same : ∀ other, (update other).key = other.key) {rows : List TableRow}
    {key : TableKey} (inside : key ∈ (upsert row update rows).map TableRow.key) :
    key = row.key ∨ key ∈ rows.map TableRow.key := by
  induction rows with
  | nil => exact Or.inl (List.mem_singleton.mp inside)
  | cons other rest ih =>
    unfold upsert at inside
    split at inside
    · rw [List.map_cons, same] at inside
      exact Or.inr inside
    · rw [List.map_cons] at inside
      cases List.mem_cons.mp inside with
      | inl is => exact Or.inr (is ▸ List.mem_cons_self)
      | inr later => exact (ih later).imp_right (List.mem_cons_of_mem _)

/-- An insertion repeats no key. -/
theorem nodup_upsert (same : ∀ other, (update other).key = other.key) {rows : List TableRow}
    (distinct : (rows.map TableRow.key).Nodup) :
    ((upsert row update rows).map TableRow.key).Nodup := by
  induction rows with
  | nil => exact List.nodup_singleton _
  | cons other rest ih =>
    have parts := List.nodup_cons.mp distinct
    unfold upsert
    split
    · rw [List.map_cons, same]
      exact distinct
    case isFalse apart =>
      refine List.nodup_cons.mpr ⟨fun inside => ?_, ih parts.2⟩
      exact (mem_keys_upsert same inside).elim apart parts.1

/-- The row of a table after rows are changed. -/
theorem find?_map_update (same : ∀ other, (update other).key = other.key) (rows : List TableRow)
    (key : TableKey) : ((rows.map update).find? fun other => decide (other.key = key)) =
      (rows.find? fun other => decide (other.key = key)).map update := by
  have level : ((fun row : TableRow => decide (row.key = key)) ∘ update) =
      fun row => decide (row.key = key) := funext fun row => by
    show decide ((update row).key = key) = _
    rw [same]
  rw [List.find?_map, level]

end Rows

section Reading

variable {floats : JsonText.FloatText}

/-- A text that is written of columns is read back as columns by each reader of columns. -/
theorem readColumns_columnsText {read : Json → Except PyException ColumnDef}
    {shown : ColumnDef → ColumnDef}
    (each : ∀ column, read (.obj (columnDict column)) = .ok (shown column))
    (columns : List ColumnDef) :
    readColumns floats read (columnsText floats columns) = .ok (columns.map shown) := by
  have item : ∀ column : ColumnDef,
      (Json.obj (columnDict column)).held = .obj (columnDict column) := by
    intro column
    rw [Json.held_obj_iff]
    refine ⟨(by decide : ["name", "dtype", "nullable", "description"].Nodup), fun pair inside => ?_⟩
    unfold columnDict at inside
    simp only [List.mem_cons, List.not_mem_nil, or_false] at inside
    rcases inside with rfl | rfl | rfl | rfl
    · rfl
    · rfl
    · rfl
    · rfl
  have held : (Json.arr (columns.map fun column => .obj (columnDict column))).held =
      .arr (columns.map fun column => .obj (columnDict column)) := by
    rw [Json.held_arr_iff]
    intro value inside
    obtain ⟨column, -, rfl⟩ := List.mem_map.mp inside
    exact item column
  unfold readColumns columnsText JsonText.dumps
  rw [String.toList_ofList, JsonText.loads_write, held]
  dsimp only
  rw [List.mapM_map]
  exact mapM_eq_map fun column _ => each column

/-- A time that is written is read back. -/
theorem readIsoformat_isoformat (time : DateTime) : readIsoformat time.isoformat = .ok time := by
  unfold readIsoformat
  rw [DateTime.fromIsoformat_isoformat]

/-- The column that is listed. -/
def undescribed (column : ColumnDef) : ColumnDef := { column with description := "" }

/-- A column is looked up as it was written. -/
theorem describedColumn_columnDict (column : ColumnDef) :
    describedColumn (.obj (columnDict column)) = .ok (id column) := rfl

/-- A column is listed without its description. -/
theorem plainColumn_columnDict (column : ColumnDef) :
    plainColumn (.obj (columnDict column)) = .ok (undescribed column) := rfl

/-- The row of a table is read by each reader of columns. -/
theorem readRow_rowWith {read : Json → Except PyException ColumnDef} {shown : ColumnDef → ColumnDef}
    (each : ∀ column, read (.obj (columnDict column)) = .ok (shown column)) (key : TableKey)
    (facts : TableFacts) (createdAt updatedAt : DateTime) :
    readRow floats read (rowWith floats key facts createdAt updatedAt) = .ok {
      key, columns := facts.columns.map shown, rowCount := facts.rowCount,
      sizeBytes := facts.sizeBytes, format := facts.format, description := facts.description,
      createdAt, updatedAt } := by
  have columns := @readColumns_columnsText floats read shown each facts.columns
  unfold readRow rowWith
  dsimp only
  rw [columns, readIsoformat_isoformat, readIsoformat_isoformat]
  rfl

end Reading

section Writing

variable {floats : JsonText.FloatText} {schemas : List (String × String)}

/-- One more call is registered last. -/
theorem registrations_append (key : TableKey) (calls : List CatalogCall) (call : CatalogCall) :
    registrations schemas key (calls ++ [call]) =
      registrations schemas key calls ++ (registrationOf schemas key call).toList := by
  have one : [call].filterMap (registrationOf schemas key) =
      (registrationOf schemas key call).toList := by
    cases is : registrationOf schemas key call with
    | none => exact List.filterMap_cons_none is
    | some registered => exact List.filterMap_cons_some is
  unfold registrations
  rw [List.filterMap_append, one]

/-- The accepted registration that a registration is. -/
theorem registrationOf_registerTable (key : TableKey) (call : Registration) (now : DateTime) :
    registrationOf schemas key (.registerTable call now) =
      if call.key = key ∧ call.accepted schemas = true then some call else none := rfl

/-- What a registration changes in the row of a table that is registered already. -/
def refreshed (floats : JsonText.FloatText) (call : Registration) (now : DateTime)
    (row : TableRow) : TableRow :=
  { row with
    columnsJson := columnsText floats (call.columns.getD []), rowCount := call.rowCount,
    sizeBytes := call.sizeBytes, updatedAt := now.isoformat }

/-- An accepted registration inserts a row and returns its table. -/
theorem registerTable_accepted {store : CatalogStore} {call : Registration}
    (accepted : call.accepted store.schemas = true) (now : DateTime) :
    ∃ table, table.facts = call.facts call.rowCount call.sizeBytes ∧
      store.registerTable floats call now = .ok (table, { store with
        tables := upsert
          (rowWith floats call.key (call.facts call.rowCount call.sizeBytes) now now)
          (refreshed floats call now) store.tables }) := by
  unfold Registration.accepted at accepted
  simp only [Bool.and_eq_true, List.contains_iff_mem] at accepted
  obtain ⟨⟨rows, bytes⟩, known⟩ := accepted
  refine ⟨⟨call.key, call.columns.getD [], call.rowCount, call.sizeBytes, call.fmt,
    call.description, now, now⟩, rfl, ?_⟩
  unfold CatalogStore.registerTable
  dsimp only
  rw [rows, bytes, if_neg (by decide), if_neg (fun unknown => unknown known)]
  rfl

/-- An accepted registration of a session. -/
theorem after_accepted {session : Session} {call : Registration}
    (accepted : call.accepted session.store.schemas = true) (now : DateTime) :
    session.after floats (.registerTable call now) =
      ⟨{ session.store with
          tables := upsert
            (rowWith floats call.key (call.facts call.rowCount call.sizeBytes) now now)
            (refreshed floats call now) session.store.tables },
        session.known.put call.key (call.facts call.rowCount call.sizeBytes)⟩ := by
  obtain ⟨table, facts, does⟩ := @registerTable_accepted floats session.store call accepted now
  unfold Session.after
  dsimp only
  rw [does, ← facts]

/-- A registration that is not accepted raises. -/
theorem after_refused {session : Session} {call : Registration}
    (refused : call.accepted session.store.schemas ≠ true) (now : DateTime) :
    session.after floats (.registerTable call now) = session := by
  unfold Session.after CatalogStore.registerTable
  dsimp only
  by_cases large : (!fitsSqlite call.rowCount || !fitsSqlite call.sizeBytes) = true
  · rw [if_pos large]
  · rw [if_neg large]
    by_cases unknown : (call.key.namespaceName, call.key.schemaName) ∉ session.store.schemas
    · rw [if_pos unknown]
    · unfold Registration.accepted at refused
      rw [Bool.or_eq_true, not_or, Bool.not_eq_true', Bool.not_eq_true', Bool.not_eq_false,
        Bool.not_eq_false] at large
      rw [large.1, large.2, List.contains_iff_mem.mpr (not_not.mp unknown)] at refused
      exact absurd rfl refused

/-- An accepted registration keeps what is kept. -/
theorem kept_after_accepted {calls : List CatalogCall} {session : Session}
    (kept : Kept floats schemas calls session) {call : Registration}
    (accepted : call.accepted schemas = true) (now : DateTime) :
    Kept floats schemas (calls ++ [.registerTable call now])
      (session.after floats (.registerTable call now)) := by
  have sameKey : ∀ row, (refreshed floats call now row).key = row.key := fun _ => rfl
  have ownKey : (rowWith floats call.key (call.facts call.rowCount call.sizeBytes) now now).key =
      call.key := rfl
  rw [after_accepted (kept.same ▸ accepted)]
  refine ⟨kept.same, nodup_upsert sameKey kept.distinct, fun key => ?_⟩
  have before := kept.tracks key
  dsimp only
  rw [find?_upsert sameKey, registrations_append, registrationOf_registerTable, ownKey]
  unfold KeyMap.put
  by_cases mine : call.key = key
  · subst mine
    rw [if_pos rfl, if_pos ⟨rfl, accepted⟩, if_pos rfl]
    generalize (session.store.tables.find? fun row => decide (row.key = call.key)) = found at before
    generalize registrations schemas call.key calls = seen at before
    generalize session.known call.key = known at before
    cases before with
    | unregistered => exact .registered call.rowCount call.sizeBytes now now rfl rfl
    | registered rowCount sizeBytes createdAt updatedAt head tail =>
      refine .registered call.rowCount call.sizeBytes createdAt now ?_ ?_
      · rw [List.head?_append, head]
        rfl
      · exact List.getLast?_concat
  · rw [if_neg mine, if_neg (fun both => mine both.1), if_neg (fun same => mine same.symm)]
    rw [Option.toList_none, List.append_nil]
    exact before

/-- What new statistics of a table change in a row. -/
def restated (key : TableKey) (rowCount sizeBytes : Int) (now : DateTime) (row : TableRow) :
    TableRow :=
  if row.key = key then { row with rowCount, sizeBytes, updatedAt := now.isoformat } else row

/-- New statistics that the catalog can hold. -/
theorem after_update {session : Session} {rowCount sizeBytes : Int}
    (fits : fitsSqlite rowCount = true ∧ fitsSqlite sizeBytes = true) (key : TableKey)
    (now : DateTime) : session.after floats (.updateTableStats key rowCount sizeBytes now) =
      ⟨{ session.store with
          tables := session.store.tables.map (restated key rowCount sizeBytes now) },
        fun other =>
          if other = key then
            (session.known key).map fun facts => { facts with rowCount, sizeBytes }
          else session.known other⟩ := by
  unfold Session.after CatalogStore.updateTableStats
  dsimp only
  rw [fits.1, fits.2, if_neg (by decide)]
  rfl

/-- New statistics that the catalog cannot hold raise. -/
theorem after_update_refused {session : Session} {rowCount sizeBytes : Int}
    (large : ¬(fitsSqlite rowCount = true ∧ fitsSqlite sizeBytes = true)) (key : TableKey)
    (now : DateTime) :
    session.after floats (.updateTableStats key rowCount sizeBytes now) = session := by
  have refused : (!fitsSqlite rowCount || !fitsSqlite sizeBytes) = true := by
    rw [← Bool.not_and, Bool.not_eq_true', ← Bool.not_eq_true, Bool.and_eq_true]
    exact large
  unfold Session.after CatalogStore.updateTableStats
  dsimp only
  rw [if_pos refused]

/-- A row with new statistics belongs to what is to be read with them. -/
theorem tracks_restated {key : TableKey} {row : Option TableRow} {seen : List Registration}
    {known : Option TableFacts} (tracks : Tracks floats key row seen known)
    (rowCount sizeBytes : Int) (now : DateTime) :
    Tracks floats key (row.map (restated key rowCount sizeBytes now)) seen
      (known.map fun facts => { facts with rowCount, sizeBytes }) := by
  cases tracks with
  | unregistered => exact .unregistered
  | registered _ _ createdAt updatedAt head tail =>
    have own : ∀ facts, (rowWith floats key facts createdAt updatedAt).key = key := fun _ => rfl
    rw [Option.map_some, Option.map_some, restated, if_pos (own _)]
    exact .registered rowCount sizeBytes createdAt now head tail

/-- New statistics of a table keep what is kept. -/
theorem kept_after_update {calls : List CatalogCall} {session : Session}
    (kept : Kept floats schemas calls session) (key : TableKey) (rowCount sizeBytes : Int)
    (now : DateTime) : Kept floats schemas (calls ++ [.updateTableStats key rowCount sizeBytes now])
      (session.after floats (.updateTableStats key rowCount sizeBytes now)) := by
  have seen : ∀ other, registrations schemas other
      (calls ++ [.updateTableStats key rowCount sizeBytes now]) =
        registrations schemas other calls := by
    intro other
    rw [registrations_append]
    exact List.append_nil _
  by_cases fits : fitsSqlite rowCount = true ∧ fitsSqlite sizeBytes = true
  · rw [after_update fits]
    have sameKey : ∀ row, (restated key rowCount sizeBytes now row).key = row.key := by
      intro row
      unfold restated
      split
      · rfl
      · rfl
    have keys : (session.store.tables.map (restated key rowCount sizeBytes now)).map TableRow.key =
        session.store.tables.map TableRow.key := by
      rw [List.map_map]
      exact List.map_congr_left fun row _ => sameKey row
    refine ⟨kept.same, keys ▸ kept.distinct, fun other => ?_⟩
    have before := kept.tracks other
    dsimp only
    rw [seen, find?_map_update sameKey]
    by_cases mine : other = key
    · rw [if_pos mine]
      subst mine
      exact tracks_restated before rowCount sizeBytes now
    · rw [if_neg mine]
      have same : ∀ row,
          (session.store.tables.find? fun row => decide (row.key = other)) = some row →
            restated key rowCount sizeBytes now row = row := by
        intro row found
        have selected := List.find?_some found
        have apart : row.key ≠ key := fun is => mine (is ▸ (of_decide_eq_true selected).symm)
        exact if_neg apart
      rw [Option.map_congr same, Option.map_id']
      exact before
  · rw [after_update_refused fits]
    refine ⟨kept.same, kept.distinct, fun other => ?_⟩
    rw [seen]
    exact kept.tracks other

/-- A call keeps what is kept. -/
theorem kept_after {calls : List CatalogCall} {session : Session}
    (kept : Kept floats schemas calls session) (call : CatalogCall) :
    Kept floats schemas (calls ++ [call]) (session.after floats call) := by
  cases call with
  | registerTable call now =>
    by_cases accepted : call.accepted schemas = true
    · exact kept_after_accepted kept accepted now
    · rw [after_refused (kept.same ▸ accepted)]
      refine ⟨kept.same, kept.distinct, fun key => ?_⟩
      rw [registrations_append, registrationOf_registerTable, if_neg (fun both => accepted both.2),
        Option.toList_none, List.append_nil]
      exact kept.tracks key
  | updateTableStats key rowCount sizeBytes now =>
    exact kept_after_update kept key rowCount sizeBytes now

/-- The calls on a catalog keep what is kept. -/
theorem kept_sessionOf (calls : List CatalogCall) :
    Kept floats schemas calls (sessionOf floats schemas calls) := by
  induction calls using List.reverseRecOn with
  | nil => exact ⟨rfl, List.nodup_nil, fun _ => .unregistered⟩
  | append_singleton calls call ih =>
    unfold sessionOf at ih ⊢
    rw [List.foldl_concat]
    exact kept_after ih call

/-- The row that is listed under a name is the row of the key. -/
theorem find?_listed {rows : List TableRow} (distinct : (rows.map TableRow.key).Nodup)
    (key : TableKey) :
    ((sortBy (fun row => row.key.name) (rows.filter fun row =>
        decide (row.key.namespaceName = key.namespaceName) &&
          decide (row.key.schemaName = key.schemaName))).find?
        fun row => decide (row.key.name = key.name)) =
      rows.find? fun row => decide (row.key = key) := by
  have names : ∀ row ∈ rows.filter fun row =>
      decide (row.key.namespaceName = key.namespaceName) &&
        decide (row.key.schemaName = key.schemaName),
      row ∈ rows ∧ row.key.namespaceName = key.namespaceName ∧
        row.key.schemaName = key.schemaName := by
    intro row inside
    have parts := List.mem_filter.mp inside
    rw [Bool.and_eq_true, decide_eq_true_iff, decide_eq_true_iff] at parts
    exact parts
  have perm := (stablySorted_sortBy (fun row : TableRow => row.key.name) (rows.filter fun row =>
    decide (row.key.namespaceName = key.namespaceName) &&
      decide (row.key.schemaName = key.schemaName))).perm
  have apart : ((rows.filter fun row => decide (row.key.namespaceName = key.namespaceName) &&
      decide (row.key.schemaName = key.schemaName)).map fun row => row.key.name).Nodup := by
    refine List.Nodup.map_on ?_ ((List.Nodup.of_map _ distinct).filter _)
    intro one first other second same
    have firstIs := names one first
    have secondIs := names other second
    refine List.inj_on_of_nodup_map distinct firstIs.1 secondIs.1 ?_
    have spaces := firstIs.2.1.trans secondIs.2.1.symm
    have schemas := firstIs.2.2.trans secondIs.2.2.symm
    exact TableKey.ext spaces schemas same
  have sorted := (perm.map fun row => row.key.name).nodup_iff.mpr apart
  refine Option.ext fun row => ?_
  rw [find?_key_iff sorted, find?_key_iff distinct, perm.mem_iff]
  constructor
  · rintro ⟨inside, name⟩
    have is := names row inside
    exact ⟨is.1, TableKey.ext is.2.1 is.2.2 name⟩
  · rintro ⟨inside, rfl⟩
    refine ⟨List.mem_filter.mpr ⟨inside, ?_⟩, rfl⟩
    rw [decide_eq_true rfl, decide_eq_true rfl]
    rfl

/-- What belongs to a row. -/
theorem tracks_some {key : TableKey} {row : TableRow} {seen : List Registration}
    {known : Option TableFacts} (tracks : Tracks floats key (some row) seen known) :
    ∃ first last rowCount sizeBytes createdAt updatedAt,
      row = rowWith floats key { last.facts rowCount sizeBytes with
        format := first.fmt, description := first.description } createdAt updatedAt ∧
      seen.head? = some first ∧ seen.getLast? = some last ∧
      known = some (last.facts rowCount sizeBytes) := by
  generalize is : some row = found at tracks
  cases tracks with
  | unregistered => cases is
  | registered rowCount sizeBytes createdAt updatedAt head tail =>
    exact ⟨_, _, rowCount, sizeBytes, createdAt, updatedAt, Option.some.inj is, head, tail, rfl⟩

/-- What belongs to no row. -/
theorem tracks_none {key : TableKey} {seen : List Registration} {known : Option TableFacts}
    (tracks : Tracks floats key none seen known) : seen = [] ∧ known = none := by
  generalize is : none = found at tracks
  cases tracks with
  | unregistered => exact ⟨rfl, rfl⟩
  | registered => cases is

/-- The tables of a schema are listed, each under its name as its row is read. -/
theorem listTables_of_kept {calls : List CatalogCall} {session : Session}
    (kept : Kept floats schemas calls session) (key : TableKey) :
    ∃ tables,
      session.store.listTables floats key.namespaceName key.schemaName = .ok tables ∧
      ((session.store.tables.find? fun row => decide (row.key = key)) = none →
        (tables.find? fun table => decide (table.key.name = key.name)) = none) ∧
      ∀ row, (session.store.tables.find? fun row => decide (row.key = key)) = some row →
        ∃ table, readRow floats plainColumn row = .ok table ∧
          (tables.find? fun table => decide (table.key.name = key.name)) = some table := by
  have perm := (stablySorted_sortBy (fun row : TableRow => row.key.name)
    (session.store.tables.filter fun row =>
      decide (row.key.namespaceName = key.namespaceName) &&
        decide (row.key.schemaName = key.schemaName))).perm
  obtain ⟨tables, listed⟩ := mapM_ok_exists_iff.mpr fun row inside => by
    have among := (List.mem_filter.mp (perm.mem_iff.mp inside)).1
    have tracks := kept.tracks row.key
    rw [(find?_key_iff kept.distinct).mpr ⟨among, rfl⟩] at tracks
    obtain ⟨first, last, rowCount, sizeBytes, createdAt, updatedAt, is, -⟩ := tracks_some tracks
    rw [is]
    exact ⟨_, readRow_rowWith plainColumn_columnDict _ _ _ _⟩
  have named : ∀ row table, readRow floats plainColumn row = .ok table →
      decide (table.key.name = key.name) = decide (row.key.name = key.name) := by
    intro row table read
    obtain ⟨columns, -, next⟩ := bind_ok_iff.mp read
    obtain ⟨createdAt, -, next⟩ := bind_ok_iff.mp next
    obtain ⟨updatedAt, -, last⟩ := bind_ok_iff.mp next
    cases last
    rfl
  have found := find?_of_mapM listed named
  rw [find?_listed kept.distinct] at found
  exact ⟨tables, listed, found⟩

/-- A row is looked up as it is read. -/
theorem getTable_of_found {store : CatalogStore} {key : TableKey} {row : TableRow}
    {table : CatalogTable}
    (found : (store.tables.find? fun row => decide (row.key = key)) = some row)
    (read : readRow floats describedColumn row = .ok table) :
    store.getTable floats key = .ok (some table) := by
  unfold CatalogStore.getTable
  rw [found]
  dsimp only
  rw [read]
  rfl

/-- No column is changed by leaving descriptions out when none is described. -/
theorem map_undescribed_iff {columns : List ColumnDef} :
    columns.map undescribed = columns ↔ ∀ column ∈ columns, column.description = "" := by
  constructor
  · intro same column inside
    have stays := List.map_inj_left.mp (same.trans (List.map_id columns).symm) column inside
    exact (congrArg ColumnDef.description stays).symm
  · intro none
    have each : ∀ column ∈ columns, undescribed column = id column := by
      intro column inside
      unfold undescribed
      rw [← none column inside]
      rfl
    exact (List.map_congr_left each).trans (List.map_id columns)

/-- Both readers show what is to be read of a table exactly when its row holds it and no column is
described. -/
theorem readsBack_of_row {calls : List CatalogCall} {session : Session}
    (kept : Kept floats schemas calls session) {key : TableKey} {facts : TableFacts}
    {createdAt updatedAt : DateTime}
    (found : (session.store.tables.find? fun row => decide (row.key = key)) =
      some (rowWith floats key facts createdAt updatedAt)) :
    ReadsBack floats session key ↔
      session.known key = some facts ∧ ∀ column ∈ facts.columns, column.description = "" := by
  obtain ⟨tables, listed, -, present⟩ := listTables_of_kept kept key
  have looked := @readRow_rowWith floats describedColumn id describedColumn_columnDict key facts
    createdAt updatedAt
  have plain := @readRow_rowWith floats plainColumn undescribed plainColumn_columnDict key facts
    createdAt updatedAt
  have got := getTable_of_found found looked
  obtain ⟨table, isPlain, shown⟩ := present _ found
  cases plain.symm.trans isPlain
  have same : { facts with columns := facts.columns.map id } = facts := by rw [List.map_id]
  constructor
  · rintro ⟨⟨one, isOne, reads⟩, others, areOthers, lists⟩
    cases got.symm.trans isOne
    cases listed.symm.trans areOthers
    rw [shown, ← reads] at lists
    have columns := (TableFacts.mk.inj (Option.some.inj lists)).1
    rw [List.map_id] at columns
    exact ⟨reads.symm.trans (congrArg some same), map_undescribed_iff.mp columns⟩
  · rintro ⟨known, none⟩
    have stay := map_undescribed_iff.mpr none
    refine ⟨⟨_, got, ?_⟩, tables, listed, ?_⟩
    · rw [known]
      exact congrArg some same
    · rw [shown, known]
      have bare : { facts with columns := facts.columns.map undescribed } = facts := by rw [stay]
      exact congrArg some bare

end Writing

/-- After any calls on a catalog without tables, both readers show of a table what its last
registration returned, with later statistics, exactly when this registration repeats the format and
the description of the first and does not describe its columns. -/
theorem readsBack_iff (floats : JsonText.FloatText) (schemas : List (String × String))
    (calls : List CatalogCall) (key : TableKey) :
    ReadsBack floats (sessionOf floats schemas calls) key ↔ Repeats schemas key calls := by
  have kept := @kept_sessionOf floats schemas calls
  have tracks := kept.tracks key
  cases found : (sessionOf floats schemas calls).store.tables.find? fun row =>
      decide (row.key = key) with
  | none =>
    rw [found] at tracks
    obtain ⟨nothing, unknown⟩ := tracks_none tracks
    obtain ⟨tables, listed, absent, -⟩ := listTables_of_kept kept key
    refine iff_of_true ⟨⟨none, ?_, unknown.symm⟩, ⟨tables, listed, ?_⟩⟩ ?_
    · unfold CatalogStore.getTable
      rw [found]
    · rw [absent found, unknown]
      rfl
    · intro first last head
      rw [nothing] at head
      cases head
  | some row =>
    rw [found] at tracks
    obtain ⟨first, last, rowCount, sizeBytes, createdAt, updatedAt, rfl, head, tail, known⟩ :=
      tracks_some tracks
    rw [readsBack_of_row kept found, known]
    constructor
    · rintro ⟨same, none⟩ first' last' head' tail'
      cases head.symm.trans head'
      cases tail.symm.trans tail'
      have facts := TableFacts.mk.inj (Option.some.inj same)
      exact ⟨facts.2.2.2.1, facts.2.2.2.2, none⟩
    · intro repeats
      obtain ⟨format, description, none⟩ := repeats first last head tail
      refine ⟨?_, none⟩
      rw [← format, ← description]
      rfl

section Sample

/-- The registration of a table with a described column. -/
def describedTable : Registration where
  key := ⟨"velaflow", "bronze", "raw_tasks"⟩
  columns := some [⟨"id", "TEXT", false, "Task ID from source"⟩]

/-- The description of a column is not listed. -/
theorem description_not_listed :
    ¬ReadsBack .fractions (sessionOf .fractions [("velaflow", "bronze")]
      [.registerTable describedTable .newYear]) describedTable.key := by
  have kept := @kept_sessionOf .fractions [("velaflow", "bronze")]
    [.registerTable describedTable .newYear]
  have accepted : describedTable.accepted [("velaflow", "bronze")] = true := by decide
  have does := @after_accepted .fractions ⟨⟨[("velaflow", "bronze")], []⟩, .empty⟩ describedTable
    accepted .newYear
  have found : ((sessionOf .fractions [("velaflow", "bronze")]
      [.registerTable describedTable .newYear]).store.tables.find? fun row =>
        decide (row.key = describedTable.key)) =
      some (rowWith .fractions describedTable.key (describedTable.facts 0 0) .newYear
        .newYear) := by
    unfold sessionOf
    rw [List.foldl_cons, does]
    rfl
  rw [readsBack_of_row kept found]
  rintro ⟨-, none⟩
  exact absurd (none _ List.mem_cons_self) (by decide)

end Sample

end VelaFlow.Catalog
