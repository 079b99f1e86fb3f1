import VelaFlow.Engine.Statistics

/-!
# When the statistics are truthful

One lemma says what a stage does to the counts when it sets the count of its own table and when it
does not. Each kind of call is a case of it, and the runs follow from the calls.
-/
namespace VelaFlow.Engine

open Catalog Pipeline

section Counts

variable {floats : JsonText.FloatText}

/-- The row count of a table after a registration. -/
theorem rowCountOf_registerTable {store : CatalogStore} {call : Registration}
    (accepted : call.accepted store.schemas = true) (now : DateTime) :
    ∃ table later, store.registerTable floats call now = .ok (table, later) ∧
      later.schemas = store.schemas ∧
      ∀ key, rowCountOf later key =
        if call.key = key then some call.rowCount else rowCountOf store key := by
  obtain ⟨table, -, does⟩ := @registerTable_accepted floats store call accepted now
  refine ⟨table, _, does, rfl, fun key => ?_⟩
  have sameKey : ∀ row, (refreshed floats call now row).key = row.key := fun _ => rfl
  have ownKey : (rowWith floats call.key (call.facts call.rowCount call.sizeBytes) now now).key =
      call.key := rfl
  unfold rowCountOf
  dsimp only
  rw [find?_upsert sameKey, ownKey]
  by_cases mine : call.key = key
  · rw [if_pos mine, if_pos mine]
    cases store.tables.find? fun row => decide (row.key = call.key) with
    | none => rfl
    | some row => rfl
  · rw [if_neg mine, if_neg mine]

/-- The row count of a table after new statistics of a table. -/
theorem rowCountOf_restated (catalog : CatalogStore) (changed key : TableKey) (count : Int)
    (now : DateTime) :
    rowCountOf { catalog with tables := catalog.tables.map (restated changed count 0 now) } key =
      if changed = key then (rowCountOf catalog key).map fun _ => count
      else rowCountOf catalog key := by
  have sameKey : ∀ row, (restated changed count 0 now row).key = row.key := by
    intro row
    unfold restated
    split
    · rfl
    · rfl
  unfold rowCountOf
  dsimp only
  rw [find?_map_update sameKey]
  cases found : catalog.tables.find? fun row => decide (row.key = key) with
  | none =>
    rw [Option.map_none, Option.map_none, Option.map_none, ite_self]
  | some row =>
    have selected := List.find?_some found
    have own : row.key = key := of_decide_eq_true selected
    simp only [Option.map_some]
    unfold restated
    rw [own]
    by_cases mine : changed = key
    · rw [if_pos mine, if_pos mine.symm]
    · rw [if_neg mine, if_neg (fun same => mine same.symm)]

end Counts

/-- The keys of the tables are different. -/
theorem Layer.key_inj {namespaceName : String} {one other : Layer} :
    one.key namespaceName = other.key namespaceName ↔ one = other := by
  cases one with
  | bronze => cases other <;> simp [Layer.key]
  | silver => cases other <;> simp [Layer.key]
  | gold => cases other <;> simp [Layer.key]

namespace Deployment

variable {deployment : Deployment}

/-- The row count of a table when the catalog can hold the new count. -/
theorem rowCountOf_withCount {count : Nat} (fits : fitsSqlite count = true) (layer other : Layer)
    (now : DateTime) (catalog : CatalogStore) :
    rowCountOf (deployment.withCount layer count now catalog)
        (other.key deployment.namespaceName) =
      if layer = other then
        (rowCountOf catalog (other.key deployment.namespaceName)).map fun _ => (count : Int)
      else rowCountOf catalog (other.key deployment.namespaceName) := by
  have does : deployment.withCount layer count now catalog = { catalog with
      tables := catalog.tables.map
        (restated (layer.key deployment.namespaceName) count 0 now) } := by
    unfold withCount CatalogStore.updateTableStats
    rw [fits, if_neg (by decide)]
    rfl
  rw [does, rowCountOf_restated]
  exact if_congr Layer.key_inj rfl rfl

/-- When the catalog cannot hold the new count it stays as it is. -/
theorem withCount_large {count : Nat} (large : fitsSqlite count ≠ true) (layer : Layer)
    (now : DateTime) (catalog : CatalogStore) :
    deployment.withCount layer count now catalog = catalog := by
  unfold withCount CatalogStore.updateTableStats
  rw [Bool.eq_false_iff.mpr large]
  rfl

/-- The schemas stay when a count is set. -/
theorem schemas_withCount (layer : Layer) (count : Nat) (now : DateTime) (catalog : CatalogStore) :
    (deployment.withCount layer count now catalog).schemas = catalog.schemas := by
  unfold withCount CatalogStore.updateTableStats
  split
  case h_1 later is =>
    split at is
    · cases is
    · cases is
      rfl
  case h_2 => rfl

/-- The priorities of raw rows fit. -/
def RawFits (rows : List BronzeRow) : Prop := ∀ row ∈ rows, isInteger row.priority = true

/-- What a call finds lets the counts be truthful. -/
def Steady (deployment : Deployment) (warehouse : Warehouse) : MedallionCall → Prop
  | .initializeTables _ => ∀ layer, warehouse.count layer = 0
  | .bronzeIngest tenantId source records batchId now => warehouse.created = true →
      ∀ rows, records.mapM (deployment.processor.bronzeRow tenantId source
        (batchName source tenantId batchId now) now) = .ok rows → rows ≠ [] →
      (RawFits rows → (∀ row ∈ warehouse.tables.bronze, row.tenantId = tenantId) ∧
        fitsSqlite (warehouse.tables.bronze.length + rows.length) = true) ∧
      (¬RawFits rows → deployment.keepsEarlier = true →
        ∀ row ∈ rows.head?, isInteger row.priority = false)
  | .silverTransform _ tenantId _ => warehouse.created = true →
      (∀ row ∈ warehouse.tables.silver, row.tenantId = tenantId) ∧
      fitsSqlite ((MedallionProcessor.validRows tenantId warehouse.tables).map fun row =>
        (row.tenantId, row.id)).dedup.length = true
  | .goldEnrich tenantId tasks now => warehouse.created = true →
      (Storable deployment.processor tenantId tasks now →
        (∀ row ∈ warehouse.gold, row.tenantId = tenantId) ∧ fitsSqlite tasks.length = true) ∧
      (¬Storable deployment.processor tenantId tasks now →
        (goldRowsOf tenantId warehouse.gold).length =
          (stranded deployment.processor deployment.keepsEarlier tenantId tasks now).length)

/-- What the calls keep, apart from the truth of the counts. -/
structure Sound (deployment : Deployment) (warehouse : Warehouse) : Prop where
  /-- The catalog is bootstrapped. -/
  schemas : ∀ layer : Layer,
    (deployment.namespaceName, (layer.key deployment.namespaceName).schemaName) ∈
      warehouse.catalog.schemas
  /-- The counts are numbers that the catalog can hold. -/
  fits : ∀ (layer : Layer) (listed : Int),
    rowCountOf warehouse.catalog (layer.key deployment.namespaceName) = some listed →
      fitsSqlite listed = true
  /-- Created tables are registered. -/
  registered : warehouse.created = true → ∀ layer : Layer,
    (rowCountOf warehouse.catalog (layer.key deployment.namespaceName)).isSome = true

/-- A number up to one that fits. -/
theorem fitsSqlite_of_le {small large : Nat} (less : small ≤ large)
    (fits : fitsSqlite large = true) : fitsSqlite small = true := by
  unfold fitsSqlite at fits ⊢
  rw [Bool.and_eq_true, decide_eq_true_iff, decide_eq_true_iff] at fits ⊢
  omega

/-- The count of a registered table. -/
theorem Sound.count_eq {warehouse : Warehouse} (sound : deployment.Sound warehouse)
    (created : warehouse.created = true) (truthful : Truthful deployment.namespaceName warehouse)
    (layer : Layer) :
    rowCountOf warehouse.catalog (layer.key deployment.namespaceName) =
      some (warehouse.count layer : Int) := by
  obtain ⟨listed, is⟩ := Option.isSome_iff_exists.mp (sound.registered created layer)
  rw [is, truthful layer listed is]

/-- A stage that changes the rows of one table, and does not set its count, is truthful exactly when
their number stays. -/
theorem truthful_of_failure {warehouse later : Warehouse} {layer : Layer}
    (sound : deployment.Sound warehouse) (created : warehouse.created = true)
    (truthful : Truthful deployment.namespaceName warehouse)
    (others : ∀ other, other ≠ layer → later.count other = warehouse.count other)
    (catalog : later.catalog = warehouse.catalog) :
    deployment.Sound later ∧ (Truthful deployment.namespaceName later ↔
      later.count layer = warehouse.count layer) := by
  refine ⟨⟨?_, ?_, ?_⟩, ?_⟩
  · rw [catalog]
    exact sound.schemas
  · rw [catalog]
    exact sound.fits
  · rw [catalog]
    exact fun _ => sound.registered created
  · have listed := sound.count_eq created truthful
    constructor
    · intro truth
      have level := truth layer _ (catalog ▸ listed layer)
      exact_mod_cast level.symm
    · intro same other count is
      rw [catalog, listed other] at is
      cases is
      by_cases mine : other = layer
      · rw [mine, same]
      · rw [others other mine]

/-- A stage that changes the rows of one table and sets its count to a part of their number is
truthful exactly when the part is the whole and the catalog can hold it. -/
theorem truthful_of_success {warehouse later : Warehouse} {layer : Layer} {count : Nat}
    {now : DateTime} (sound : deployment.Sound warehouse) (created : warehouse.created = true)
    (truthful : Truthful deployment.namespaceName warehouse)
    (others : ∀ other, other ≠ layer → later.count other = warehouse.count other)
    (catalog : later.catalog = deployment.withCount layer count now warehouse.catalog)
    (part : count ≤ later.count layer) :
    deployment.Sound later ∧ (Truthful deployment.namespaceName later ↔
      later.count layer = count ∧ fitsSqlite count = true) := by
  by_cases fits : fitsSqlite count = true
  · have listed := sound.count_eq created truthful
    have counts : ∀ other : Layer,
        rowCountOf later.catalog (other.key deployment.namespaceName) =
          some (if layer = other then (count : Int) else warehouse.count other) := by
      intro other
      rw [catalog, rowCountOf_withCount fits, listed other]
      split
      · rfl
      · rfl
    refine ⟨⟨?_, ?_, ?_⟩, ?_⟩
    · rw [catalog, schemas_withCount]
      exact sound.schemas
    · intro other number is
      rw [counts other] at is
      cases is
      split
      · exact fits
      · exact sound.fits other _ (listed other)
    · intro _ other
      rw [counts other]
      rfl
    · rw [and_iff_left fits]
      constructor
      · intro truth
        have level := truth layer _ (counts layer)
        rw [if_pos rfl] at level
        exact_mod_cast level.symm
      · intro same other number is
        rw [counts other] at is
        cases is
        by_cases mine : layer = other
        · rw [if_pos mine, ← mine, same]
        · rw [if_neg mine, others other (Ne.symm mine)]
  · rw [withCount_large fits] at catalog
    obtain ⟨kept, level⟩ := truthful_of_failure sound created truthful others catalog
    refine ⟨kept, level.trans (iff_of_false ?_ fun both => fits both.2)⟩
    intro same
    have held := sound.fits layer _ (sound.count_eq created truthful layer)
    rw [← same] at held
    exact fits (fitsSqlite_of_le part held)

/-- A call keeps the counts truthful exactly when it is steady. -/
def KeepsTruth (deployment : Deployment) (warehouse : Warehouse) (call : MedallionCall) : Prop :=
  deployment.Sound (deployment.after warehouse call) ∧
    (Truthful deployment.namespaceName (deployment.after warehouse call) ↔
      deployment.Steady warehouse call)

section Stages

variable {warehouse : Warehouse}

/-- The rows of a table are those of a tenant and those of others. -/
theorem length_goldRows (tenantId : String) (table : List GoldRow) :
    table.length = (goldRowsOf tenantId table).length + (goldRowsBut tenantId table).length := by
  have split := List.length_eq_length_filter_add
    (fun row : GoldRow => decide (row.tenantId = tenantId)) (l := table)
  have flipped : (fun row : GoldRow => !decide (row.tenantId = tenantId)) =
      fun row => decide (row.tenantId ≠ tenantId) := funext fun row => decide_not.symm
  rw [flipped] at split
  exact split

/-- A call of `gold_enrich` on a truthful warehouse. -/
theorem truthful_goldEnrich (sound : deployment.Sound warehouse)
    (truthful : Truthful deployment.namespaceName warehouse) (created : warehouse.created = true)
    (tenantId : String) (tasks : List Dict) (now : DateTime) :
    deployment.KeepsTruth warehouse (.goldEnrich tenantId tasks now) := by
  have others : ∀ later : Warehouse, later.tables = warehouse.tables →
      ∀ other, other ≠ Layer.gold → later.count other = warehouse.count other := by
    intro later same other apart
    cases other with
    | bronze => exact congrArg (fun tables => tables.bronze.length) same
    | silver => exact congrArg (fun tables => tables.silver.length) same
    | gold => exact absurd rfl apart
  unfold KeepsTruth
  by_cases storable : Storable deployment.processor tenantId tasks now
  · obtain ⟨rows, made, fit⟩ := storable
    have does := @goldEnrich_of_storable deployment.processor deployment.keepsEarlier tenantId
      tasks now warehouse.gold rows made fit
    have left : deployment.after warehouse (.goldEnrich tenantId tasks now) = { warehouse with
        gold := goldRowsBut tenantId warehouse.gold ++ rows,
        catalog := deployment.withCount .gold rows.length now warehouse.catalog } := by
      show (if !warehouse.created then warehouse else _) = _
      rw [created, if_neg (by decide), does]
    have catalog := congrArg Warehouse.catalog left
    have tables : (deployment.after warehouse (.goldEnrich tenantId tasks now)).tables =
        warehouse.tables := by rw [left]
    have many : (deployment.after warehouse (.goldEnrich tenantId tasks now)).count .gold =
        (goldRowsBut tenantId warehouse.gold).length + rows.length := by
      rw [left]
      exact List.length_append
    have stage := truthful_of_success sound created truthful (others _ tables) catalog
      (by omega)
    refine ⟨stage.1, stage.2.trans ?_⟩
    rw [many, length_mapM made]
    have alone : (goldRowsBut tenantId warehouse.gold).length + tasks.length = tasks.length ↔
        ∀ row ∈ warehouse.gold, row.tenantId = tenantId := by
      have none : (goldRowsBut tenantId warehouse.gold).length = 0 ↔ _ := length_others_eq_zero_iff
      rw [← none]
      omega
    rw [alone]
    constructor
    · intro both _
      exact ⟨fun _ => both, fun not => absurd ⟨rows, made, fit⟩ not⟩
    · intro steady
      exact (steady created).1 ⟨rows, made, fit⟩
  · obtain ⟨exception, does⟩ := @goldEnrich_of_not_storable deployment.processor
      deployment.keepsEarlier tenantId tasks now warehouse.gold storable
    have left : deployment.after warehouse (.goldEnrich tenantId tasks now) = { warehouse with
        gold := goldRowsBut tenantId warehouse.gold ++
          stranded deployment.processor deployment.keepsEarlier tenantId tasks now } := by
      show (if !warehouse.created then warehouse else _) = _
      rw [created, if_neg (by decide), does]
    have many : (deployment.after warehouse (.goldEnrich tenantId tasks now)).count .gold =
        (goldRowsBut tenantId warehouse.gold).length +
          (stranded deployment.processor deployment.keepsEarlier tenantId tasks now).length := by
      rw [left]
      exact List.length_append
    have before : warehouse.count .gold = _ := length_goldRows tenantId warehouse.gold
    have tables : (deployment.after warehouse (.goldEnrich tenantId tasks now)).tables =
        warehouse.tables := by rw [left]
    have catalog : (deployment.after warehouse (.goldEnrich tenantId tasks now)).catalog =
        warehouse.catalog := by rw [left]
    have stage := truthful_of_failure sound created truthful (others _ tables) catalog
    refine ⟨stage.1, stage.2.trans ?_⟩
    rw [many, before]
    constructor
    · intro level _
      exact ⟨fun is => absurd is storable, fun _ => by omega⟩
    · intro steady
      have level := (steady created).2 storable
      omega

/-- A raw row is refused when its priority does not fit. -/
theorem bronzeRefusal_isNone (processor : MedallionProcessor) (row : BronzeRow) :
    (processor.bronzeRefusal row).isNone = isInteger row.priority := by
  unfold MedallionProcessor.bronzeRefusal
  cases isInteger row.priority with
  | false => rfl
  | true => rfl

/-- No raw row is refused when all fit. -/
theorem findSome?_bronzeRefusal_iff {processor : MedallionProcessor} {rows : List BronzeRow} :
    rows.findSome? processor.bronzeRefusal = none ↔ RawFits rows := by
  rw [List.findSome?_eq_none_iff]
  refine forall₂_congr fun row _ => ?_
  rw [← Option.isNone_iff_eq_none, bronzeRefusal_isNone]

/-- The rows of raw records are their tenant's. -/
theorem tenantId_of_bronzeRows {processor : MedallionProcessor} {tenantId source batch : String}
    {records : List Dict} {now : DateTime} {rows : List BronzeRow}
    (made : records.mapM (processor.bronzeRow tenantId source batch now) = .ok rows) :
    ∀ row ∈ rows, row.tenantId = tenantId := by
  have owned : rows.map BronzeRow.tenantId = records.map fun _ => tenantId := by
    refine map_of_mapM made fun record row converted => ?_
    obtain ⟨priority, -, last⟩ := bind_ok_iff.mp converted
    cases last
    rfl
  intro row inside
  have among : row.tenantId ∈ records.map fun _ => tenantId := owned ▸ List.mem_map_of_mem inside
  obtain ⟨record, -, same⟩ := List.mem_map.mp among
  exact same.symm

/-- What a raw batch leaves when its records are converted. -/
theorem bronzeLeft_of_made {processor : MedallionProcessor} {keepsEarlier : Bool}
    {tenantId source batchId : String} {records : List Dict} {now : DateTime}
    {rows bronze : List BronzeRow} (some' : records ≠ [])
    (made : records.mapM (processor.bronzeRow tenantId source
      (batchName source tenantId batchId now) now) = .ok rows) :
    (RawFits rows → processor.bronzeLeft keepsEarlier tenantId source records batchId now bronze =
      (.ok rows.length, bronze ++ rows)) ∧
    (¬RawFits rows → ∃ exception,
      processor.bronzeLeft keepsEarlier tenantId source records batchId now bronze =
        (.error exception, bronze ++
          if keepsEarlier then rows.takeWhile fun row => isInteger row.priority else [])) := by
  have filled : records.isEmpty = false := List.isEmpty_eq_false_iff.mpr some'
  unfold MedallionProcessor.bronzeLeft
  rw [filled, if_neg (by decide), made]
  constructor
  · intro fits
    dsimp only
    rw [executemany_ok (findSome?_bronzeRefusal_iff.mpr fits)]
    rfl
  · intro not
    cases refused : rows.findSome? processor.bronzeRefusal with
    | none => exact absurd (findSome?_bronzeRefusal_iff.mp refused) not
    | some exception =>
      have fits : (fun row => (processor.bronzeRefusal row).isNone) =
          fun row : BronzeRow => isInteger row.priority :=
        funext fun row => bronzeRefusal_isNone processor row
      refine ⟨exception, ?_⟩
      dsimp only
      rw [executemany_error refused, fits]
      rfl

section Raw

variable {tenantId source batchId : String} {records : List Dict} {now : DateTime}
  {bronze : List BronzeRow}

/-- What a raw batch leaves of a warehouse when it returns. -/
theorem after_bronzeIngest_ok (created : warehouse.created = true) (filled : records ≠ [])
    {count : Nat} (left : deployment.processor.bronzeLeft deployment.keepsEarlier tenantId source
      records batchId now warehouse.tables.bronze = (.ok count, bronze)) :
    deployment.after warehouse (.bronzeIngest tenantId source records batchId now) =
      { warehouse with
        tables := { warehouse.tables with bronze },
        catalog := deployment.withCount .bronze (bronze.filter fun row =>
          decide (row.tenantId = tenantId)).length now warehouse.catalog } := by
  show (if !warehouse.created || records.isEmpty then warehouse else _) = _
  rw [created, List.isEmpty_eq_false_iff.mpr filled, if_neg (by decide), left]

/-- What a raw batch leaves of a warehouse when it raises. -/
theorem after_bronzeIngest_error (created : warehouse.created = true) (filled : records ≠ [])
    {exception : PyException} (left : deployment.processor.bronzeLeft deployment.keepsEarlier
      tenantId source records batchId now warehouse.tables.bronze = (.error exception, bronze)) :
    deployment.after warehouse (.bronzeIngest tenantId source records batchId now) =
      { warehouse with tables := { warehouse.tables with bronze } } := by
  show (if !warehouse.created || records.isEmpty then warehouse else _) = _
  rw [created, List.isEmpty_eq_false_iff.mpr filled, if_neg (by decide), left]

/-- A raw batch of no records leaves everything as it is. -/
theorem after_bronzeIngest_nil :
    deployment.after warehouse (.bronzeIngest tenantId source [] batchId now) = warehouse := by
  show (if !warehouse.created || true then warehouse else _) = warehouse
  rw [Bool.or_true, if_pos rfl]

/-- The rows before the first that does not fit. -/
theorem takeWhile_eq_nil_iff_head {rows : List BronzeRow} :
    (rows.takeWhile fun row => isInteger row.priority) = [] ↔
      ∀ row ∈ rows.head?, isInteger row.priority = false := by
  cases rows with
  | nil => simp
  | cons row rest => simp

/-- All rows of a table with new rows of a tenant are the tenant's when those before are. -/
theorem all_bronze_iff {rows : List BronzeRow} (owned : ∀ row ∈ rows, row.tenantId = tenantId) :
    (bronze ++ rows).length = ((bronze ++ rows).filter fun row =>
        decide (row.tenantId = tenantId)).length ↔
      ∀ row ∈ bronze, row.tenantId = tenantId := by
  rw [eq_comm, List.length_filter_eq_length_iff]
  constructor
  · intro all row inside
    exact of_decide_eq_true (all row (List.mem_append_left _ inside))
  · intro all row inside
    cases List.mem_append.mp inside with
    | inl before => exact decide_eq_true (all row before)
    | inr new => exact decide_eq_true (owned row new)

end Raw

/-- A call of `bronze_ingest` on a truthful warehouse. -/
theorem truthful_bronzeIngest (sound : deployment.Sound warehouse)
    (truthful : Truthful deployment.namespaceName warehouse) (created : warehouse.created = true)
    (tenantId source : String) (records : List Dict) (batchId : String) (now : DateTime) :
    deployment.KeepsTruth warehouse (.bronzeIngest tenantId source records batchId now) := by
  have others : ∀ later : Warehouse, later.gold = warehouse.gold →
      later.tables.silver = warehouse.tables.silver →
        ∀ other, other ≠ Layer.bronze → later.count other = warehouse.count other := by
    intro later gold silver other apart
    cases other with
    | bronze => exact absurd rfl apart
    | silver => exact congrArg List.length silver
    | gold => exact congrArg List.length gold
  unfold KeepsTruth
  by_cases empty : records = []
  · rw [empty, after_bronzeIngest_nil]
    refine ⟨sound, iff_of_true truthful fun _ rows made filled => absurd ?_ filled⟩
    cases made
    rfl
  · cases made : records.mapM (deployment.processor.bronzeRow tenantId source
        (batchName source tenantId batchId now) now) with
    | error exception =>
      have left : deployment.processor.bronzeLeft deployment.keepsEarlier tenantId source records
          batchId now warehouse.tables.bronze = (.error exception, warehouse.tables.bronze) := by
        unfold MedallionProcessor.bronzeLeft
        rw [List.isEmpty_eq_false_iff.mpr empty, if_neg (by decide), made]
      rw [after_bronzeIngest_error created empty left]
      refine ⟨sound, iff_of_true truthful fun _ rows others => ?_⟩
      cases made.symm.trans others
    | ok rows =>
      have some' : rows ≠ [] := by
        intro none
        have many := length_mapM made
        rw [none] at many
        exact empty (List.length_eq_zero_iff.mp many.symm)
      have lefts := @bronzeLeft_of_made deployment.processor deployment.keepsEarlier tenantId source
        batchId records now rows warehouse.tables.bronze empty made
      by_cases fits : RawFits rows
      · have does := after_bronzeIngest_ok created empty (lefts.1 fits)
        have gold : (deployment.after warehouse
            (.bronzeIngest tenantId source records batchId now)).gold = warehouse.gold := by
          rw [does]
        have silver : (deployment.after warehouse (.bronzeIngest tenantId source records batchId
            now)).tables.silver = warehouse.tables.silver := by rw [does]
        have many : (deployment.after warehouse (.bronzeIngest tenantId source records batchId
            now)).count .bronze = (warehouse.tables.bronze ++ rows).length := by
          rw [does]
          rfl
        have part := List.length_filter_le (fun row : BronzeRow => decide (row.tenantId = tenantId))
          (warehouse.tables.bronze ++ rows)
        have stage := truthful_of_success sound created truthful (others _ gold silver)
          (congrArg Warehouse.catalog does) (many.symm ▸ part)
        refine ⟨stage.1, stage.2.trans ?_⟩
        rw [many, all_bronze_iff (tenantId_of_bronzeRows made)]
        have whole := (@all_bronze_iff tenantId warehouse.tables.bronze rows
          (tenantId_of_bronzeRows made)).mpr
        constructor
        · intro both _ converted again _
          cases made.symm.trans again
          refine ⟨fun _ => ⟨both.1, ?_⟩, fun not => absurd fits not⟩
          have held := both.2
          rw [← whole both.1, List.length_append, Nat.cast_add] at held
          exact held
        · intro steady
          have both := (steady created rows made some').1 fits
          refine ⟨both.1, ?_⟩
          rw [← whole both.1, List.length_append, Nat.cast_add]
          exact both.2
      · obtain ⟨exception, left⟩ := lefts.2 fits
        have does := after_bronzeIngest_error created empty left
        have gold : (deployment.after warehouse
            (.bronzeIngest tenantId source records batchId now)).gold = warehouse.gold := by
          rw [does]
        have silver : (deployment.after warehouse (.bronzeIngest tenantId source records batchId
            now)).tables.silver = warehouse.tables.silver := by rw [does]
        have catalog : (deployment.after warehouse (.bronzeIngest tenantId source records batchId
            now)).catalog = warehouse.catalog := by rw [does]
        have many : (deployment.after warehouse (.bronzeIngest tenantId source records batchId
            now)).count .bronze = warehouse.tables.bronze.length +
              (if deployment.keepsEarlier then rows.takeWhile fun row => isInteger row.priority
                else []).length := by
          rw [does]
          exact List.length_append
        have stage := truthful_of_failure sound created truthful (others _ gold silver) catalog
        refine ⟨stage.1, stage.2.trans ?_⟩
        have before : warehouse.count .bronze = warehouse.tables.bronze.length := rfl
        rw [many, before]
        constructor
        · intro level _ converted again _
          cases made.symm.trans again
          refine ⟨fun is => absurd is fits, fun _ keeps => takeWhile_eq_nil_iff_head.mp ?_⟩
          rw [if_pos keeps] at level
          exact List.length_eq_zero_iff.mp (by omega)
        · intro steady
          have head := (steady created rows made some').2 fits
          cases keeps : deployment.keepsEarlier with
          | false => rfl
          | true =>
            rw [if_pos rfl, takeWhile_eq_nil_iff_head.mpr (head keeps)]
            rfl

/-- A call of `silver_transform` on a truthful warehouse. -/
theorem truthful_silverTransform (sound : deployment.Sound warehouse)
    (truthful : Truthful deployment.namespaceName warehouse) (created : warehouse.created = true)
    (window : Window BronzeRow.ingestedAt) (tenantId : String) (now : DateTime) :
    deployment.KeepsTruth warehouse (.silverTransform window tenantId now) := by
  have does : deployment.after warehouse (.silverTransform window tenantId now) = { warehouse with
      tables := (deployment.processor.silverTransform window tenantId now warehouse.tables).2,
      catalog := deployment.withCount .silver
        (deployment.processor.silverTransform window tenantId now warehouse.tables).1 now
        warehouse.catalog } := by
    show (if !warehouse.created then warehouse else _) = _
    rw [created, if_neg (by decide)]
  let others := warehouse.tables.silver.filter fun row => decide (row.tenantId ≠ tenantId)
  let made := (window.ones (fun row => (row.tenantId, row.id))
    (MedallionProcessor.validRows tenantId warehouse.tables)).map
      (deployment.processor.silverRow now)
  have many : (deployment.after warehouse (.silverTransform window tenantId now)).count .silver =
      (others ++ made).length := by
    rw [does]
    rfl
  have rest : ∀ other, other ≠ Layer.silver →
      (deployment.after warehouse (.silverTransform window tenantId now)).count other =
        warehouse.count other := by
    intro other apart
    rw [does]
    cases other with
    | bronze => rfl
    | silver => exact absurd rfl apart
    | gold => rfl
  have owned : ∀ row ∈ made, row.tenantId = tenantId := by
    intro row inside
    obtain ⟨raw, one, rfl⟩ := List.mem_map.mp inside
    have valid := (List.mem_filter.mp (window.mem_of_mem_ones _ one)).2
    rw [Bool.and_eq_true, Bool.and_eq_true] at valid
    exact of_decide_eq_true valid.1.1
  have part : (deployment.processor.silverTransform window tenantId now warehouse.tables).1 ≤
      (others ++ made).length := List.length_filter_le _ _
  have stage := truthful_of_success sound created truthful rest
    (congrArg Warehouse.catalog does) (many.symm ▸ part)
  refine ⟨stage.1, stage.2.trans ?_⟩
  have mine : (deployment.processor.silverTransform window tenantId now warehouse.tables).1 =
      made.length := congrArg List.length (filter_replaced owned)
  have distinct : made.length = ((MedallionProcessor.validRows tenantId warehouse.tables).map
      fun row => (row.tenantId, row.id)).dedup.length := by
    rw [List.length_map, window.length_ones]
  have alone : (others ++ made).length = made.length ↔
      ∀ row ∈ warehouse.tables.silver, row.tenantId = tenantId := by
    have none : others.length = 0 ↔ _ := length_others_eq_zero_iff
    rw [← none, List.length_append]
    omega
  rw [many, mine, alone, distinct]
  constructor
  · exact fun both _ => both
  · exact fun steady => steady created

/-- Registrations without rows, one after the other, set the row counts to zero. -/
theorem rowCountOf_registerAll {now : DateTime} {calls : List Registration} {catalog : CatalogStore}
    (accepted : ∀ call ∈ calls, call.accepted catalog.schemas = true ∧ call.rowCount = 0) :
    (deployment.registerAll now calls catalog).schemas = catalog.schemas ∧
      ∀ key, rowCountOf catalog key = some 0 ∨ key ∈ calls.map Registration.key →
        rowCountOf (deployment.registerAll now calls catalog) key = some 0 := by
  induction calls generalizing catalog with
  | nil => exact ⟨rfl, fun key either => either.resolve_right List.not_mem_nil⟩
  | cons call rest ih =>
    have first := accepted call List.mem_cons_self
    obtain ⟨table, later, does, schemas, counts⟩ :=
      @rowCountOf_registerTable deployment.floats catalog call first.1 now
    have again := @ih later fun other inside => by
      rw [schemas]
      exact accepted other (List.mem_cons_of_mem _ inside)
    unfold registerAll
    rw [does]
    refine ⟨again.1.trans schemas, fun key either => again.2 key ?_⟩
    rw [counts key, first.2]
    by_cases mine : call.key = key
    · exact Or.inl (if_pos mine)
    · rw [if_neg mine]
      refine either.imp_right fun inside => ?_
      rw [List.map_cons] at inside
      exact (List.mem_cons.mp inside).resolve_left fun same => mine same.symm

/-- A call of `initialize`. -/
theorem truthful_initializeTables (sound : deployment.Sound warehouse) (now : DateTime) :
    deployment.KeepsTruth warehouse (.initializeTables now) := by
  have known := sound.schemas
  have accepted : ∀ call ∈ deployment.tableRegistrations,
      call.accepted warehouse.catalog.schemas = true ∧ call.rowCount = 0 := by
    intro call inside
    unfold tableRegistrations at inside
    simp only [List.mem_cons, List.not_mem_nil, or_false] at inside
    rcases inside with rfl | rfl | rfl
    · exact ⟨List.contains_iff_mem.mpr (known .bronze), rfl⟩
    · exact ⟨List.contains_iff_mem.mpr (known .silver), rfl⟩
    · exact ⟨List.contains_iff_mem.mpr (known .gold), rfl⟩
  obtain ⟨schemas, counts⟩ := @rowCountOf_registerAll deployment now deployment.tableRegistrations
    warehouse.catalog accepted
  have zero : ∀ layer : Layer,
      rowCountOf (deployment.after warehouse (.initializeTables now)).catalog
        (layer.key deployment.namespaceName) = some 0 := by
    intro layer
    refine counts _ (Or.inr ?_)
    cases layer with
    | bronze => exact List.mem_cons_self
    | silver => exact List.mem_cons_of_mem _ List.mem_cons_self
    | gold => exact List.mem_cons_of_mem _ (List.mem_cons_of_mem _ List.mem_cons_self)
  have same : ∀ layer, (deployment.after warehouse (.initializeTables now)).count layer =
      warehouse.count layer := by
    intro layer
    cases layer with
    | bronze => rfl
    | silver => rfl
    | gold => rfl
  refine ⟨⟨?_, ?_, ?_⟩, ?_⟩
  · intro layer
    exact schemas.symm ▸ known layer
  · intro layer listed is
    cases (zero layer).symm.trans is
    decide
  · intro _ layer
    rw [zero layer]
    rfl
  · constructor
    · intro truth layer
      have level := truth layer 0 (zero layer)
      rw [same layer] at level
      exact_mod_cast level.symm
    · intro empty layer listed is
      cases (zero layer).symm.trans is
      rw [same layer, empty layer]
      rfl

end Stages

/-- A call on a truthful warehouse keeps the counts truthful exactly when it is steady. -/
theorem keepsTruth {warehouse : Warehouse} (sound : deployment.Sound warehouse)
    (truthful : Truthful deployment.namespaceName warehouse) (call : MedallionCall) :
    deployment.KeepsTruth warehouse call := by
  cases created : warehouse.created with
  | true =>
    cases call with
    | initializeTables now => exact truthful_initializeTables sound now
    | bronzeIngest tenantId source records batchId now =>
      exact truthful_bronzeIngest sound truthful created tenantId source records batchId now
    | silverTransform window tenantId now =>
      exact truthful_silverTransform sound truthful created window tenantId now
    | goldEnrich tenantId tasks now =>
      exact truthful_goldEnrich sound truthful created tenantId tasks now
  | false =>
    have never : ∀ condition : Prop, warehouse.created = true → condition := fun condition is => by
      rw [created] at is
      cases is
    cases call with
    | initializeTables now => exact truthful_initializeTables sound now
    | bronzeIngest tenantId source records batchId now =>
      have idle : deployment.after warehouse
          (.bronzeIngest tenantId source records batchId now) = warehouse := by
        show (if !warehouse.created || records.isEmpty then warehouse else _) = warehouse
        rw [created]
        rfl
      exact ⟨idle.symm ▸ sound, idle.symm ▸ iff_of_true truthful (never _)⟩
    | silverTransform window tenantId now =>
      have idle : deployment.after warehouse (.silverTransform window tenantId now) =
          warehouse := by
        show (if !warehouse.created then warehouse else _) = warehouse
        rw [created]
        rfl
      exact ⟨idle.symm ▸ sound, idle.symm ▸ iff_of_true truthful (never _)⟩
    | goldEnrich tenantId tasks now =>
      have idle : deployment.after warehouse (.goldEnrich tenantId tasks now) = warehouse := by
        show (if !warehouse.created then warehouse else _) = warehouse
        rw [created]
        rfl
      exact ⟨idle.symm ▸ sound, idle.symm ▸ iff_of_true truthful (never _)⟩

/-- A catalog as `bootstrap_velaflow` leaves it, and a database without tables. -/
def bootstrapped (deployment : Deployment) : Warehouse where
  created := false
  tables := ⟨[], []⟩
  gold := []
  catalog := {
    schemas := [(deployment.namespaceName, "bronze"), (deployment.namespaceName, "silver"),
      (deployment.namespaceName, "gold")]
    tables := [] }

/-- Nothing is counted yet. -/
theorem sound_bootstrapped : deployment.Sound deployment.bootstrapped where
  schemas layer := by
    cases layer with
    | bronze => exact List.mem_cons_self
    | silver => exact List.mem_cons_of_mem _ List.mem_cons_self
    | gold => exact List.mem_cons_of_mem _ (List.mem_cons_of_mem _ List.mem_cons_self)
  fits _ _ is := by cases is
  registered is := by cases is

end Deployment

/-- The first raw row that is refused is the first whose priority does not fit. -/
theorem findSome?_bronzeRefusal (processor : MedallionProcessor) (rows : List BronzeRow) :
    rows.findSome? processor.bronzeRefusal =
      (rows.find? fun row => !isInteger row.priority).map fun row =>
        processor.outOfRange row.priority := by
  induction rows with
  | nil => rfl
  | cons row rest ih =>
    rw [List.findSome?_cons, List.find?_cons]
    unfold MedallionProcessor.bronzeRefusal at ih ⊢
    cases isInteger row.priority with
    | false => rfl
    | true => exact ih

/-- The raw stage of the processor is the one that leaves the table also when it raises. -/
theorem bronzeIngest_eq_bronzeLeft (processor : MedallionProcessor) (keepsEarlier : Bool)
    (tenantId source : String) (records : List Dict) (batchId : String) (now : DateTime)
    (tables : Tables) :
    processor.bronzeIngest tenantId source records batchId now tables =
      (processor.bronzeLeft keepsEarlier tenantId source records batchId now tables.bronze).1.map
        fun count => (count, { tables with bronze :=
          (processor.bronzeLeft keepsEarlier tenantId source records batchId now
            tables.bronze).2 }) := by
  unfold MedallionProcessor.bronzeIngest MedallionProcessor.bronzeLeft
  by_cases empty : records.isEmpty = true
  · rw [if_pos empty, if_pos empty]
    rfl
  · rw [if_neg empty, if_neg empty]
    show (records.mapM (processor.bronzeRow tenantId source
      (batchName source tenantId batchId now) now) >>= _) = _
    cases records.mapM (processor.bronzeRow tenantId source
        (batchName source tenantId batchId now) now) with
    | error exception => rfl
    | ok rows =>
      show (processor.insert tables rows >>= _) = _
      unfold MedallionProcessor.insert
      cases refused : rows.find? fun row => !isInteger row.priority with
      | none =>
        have none' : rows.findSome? processor.bronzeRefusal = none := by
          rw [findSome?_bronzeRefusal, refused]
          rfl
        dsimp only
        rw [executemany_ok none']
        rfl
      | some row =>
        have some' : rows.findSome? processor.bronzeRefusal =
            some (processor.outOfRange row.priority) := by
          rw [findSome?_bronzeRefusal, refused]
          rfl
        dsimp only
        rw [executemany_error some']
        rfl

/-- After every call on a bootstrapped catalog the statistics are truthful exactly when every call
is steady. -/
theorem truthful_throughout_iff (deployment : Deployment) (calls : List MedallionCall) :
    (∀ front, front <+: calls → Truthful deployment.namespaceName
        (front.foldl deployment.after deployment.bootstrapped)) ↔
      ∀ front call, front ++ [call] <+: calls →
        deployment.Steady (front.foldl deployment.after deployment.bootstrapped) call :=
  Machine.foldl_always_iff deployment.Sound (Truthful deployment.namespaceName)
    (fun _ call sound truthful => Deployment.keepsTruth sound truthful call)
    Deployment.sound_bootstrapped (fun _ _ is => by cases is) calls

section Sample

/-- A deployment of the processor that reads no number in a text. -/
def plainDeployment : Deployment where
  processor := plainProcessor
  namespaceName := "velaflow"
  floats := .fractions
  keepsEarlier := true

/-- An initialization and one raw record for each of two tenants. -/
def twoTenants : List MedallionCall :=
  [.initializeTables .newYear,
    .bronzeIngest "tn_a" "todoist" [[("id", .str "1"), ("content", .str "Write")]] "" .newYear,
    .bronzeIngest "tn_b" "todoist" [[("id", .str "1"), ("content", .str "Read")]] "" .newYear]

/-- With two tenants the catalog counts one of two rows. -/
theorem twoTenants_miscounted : ¬∀ front, front <+: twoTenants →
    Truthful "velaflow" (front.foldl plainDeployment.after plainDeployment.bootstrapped) := by
  intro always
  have final := always twoTenants List.prefix_rfl .bronze 1 (by decide +kernel)
  exact absurd final (by decide +kernel)

end Sample

end VelaFlow.Engine
