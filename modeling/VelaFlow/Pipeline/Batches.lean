import VelaFlow.Pipeline.Bronze

/-!
# Batches that are kept

A batch is landed beside those of earlier calls as long as its key is new, and its key is new when
no earlier call for its tenant and source came in the same second. The second of two such calls
replaces the batch of the first.
-/
namespace VelaFlow.Pipeline

open Storage

/-- A call adds a batch under a new key and leaves every document as it was. -/
structure Appends (storage : LocalStorage) (call : Ingest) (written : LocalStorage) : Prop where
  /-- The key has not been used. -/
  unused : storage.readJson call.key = .ok none
  /-- No document is changed. -/
  unchanged : ∀ key data, storage.readJson key = .ok (some data) →
    written.readJson key = .ok (some data)
  /-- The batches of the tenant and source are one more. -/
  grows : ∃ old new, listBatches storage call.tenantId call.batch.source = .ok old ∧
    listBatches written call.tenantId call.batch.source = .ok new ∧ new.length = old.length + 1

/-- Each of the calls makes a batch and leaves those before it. -/
def AppendOnly (start : LocalStorage) (calls : List Ingest) : Prop :=
  ∀ before call after, calls = before ++ call :: after →
    ∀ storage, ingestAll start before = .ok storage →
      ∃ written, ingest storage call = .ok (call.batchId, written) ∧ Appends storage call written

/-- Two calls make batches of one tenant and source in one second. -/
def Collide (first second : Ingest) : Prop :=
  first.tenantId = second.tenantId ∧ first.batch.source = second.batch.source ∧
    first.now.secondIndex = second.now.secondIndex

namespace Ingest

/-- The parts of the directory of a batch can be some. -/
theorem directoryParts (call : Ingest) : ∀ part ∈ ["bronze".toList, call.tenantId.toList,
    call.batch.source.name.toList], IsPart part := by
  intro part member
  apply call.areParts
  simp only [List.mem_cons, List.not_mem_nil, or_false] at member ⊢
  rcases member with is | is | is
  · exact Or.inl is
  · exact Or.inr (Or.inl is)
  · exact Or.inr (Or.inr (Or.inl is))

/-- The directory of the batches of a call's tenant and source. -/
def directory (call : Ingest) : Path :=
  ⟨["bronze".toList, call.tenantId.toList, call.batch.source.name.toList], call.directoryParts⟩

/-- The prefix of the batches resolves to their directory. -/
theorem resolve_batchPrefix (call : Ingest) :
    resolve (batchPrefix call.tenantId call.batch.source) = .ok call.directory := by
  apply resolve_eq_ok
  have key : batchPrefix call.tenantId call.batch.source =
      "bronze" ++ "/" ++ call.tenantId ++ "/" ++ call.batch.source.name ++ "/" ++ "" := by
    unfold batchPrefix
    simp only [String.append_assoc, String.append_empty]
    rfl
  have bronze : keyParts "bronze" = ["bronze".toList] := keyParts_of_isPart (by decide)
  have empty : keyParts "" = [] := by decide
  rw [key, keyParts_append_slash, keyParts_append_slash, keyParts_append_slash, bronze, empty,
    keyParts_of_isPart call.named, keyParts_of_isPart (isPart_source _)]
  rfl

/-- A batch is listed below its directory. -/
theorem listed (call : Ingest) :
    (LocalStorage.below call.directory call.path && LocalStorage.isJson call.path) = true := by
  rw [Bool.and_eq_true]
  constructor
  · simp [LocalStorage.below, directory, path]
  · simp [LocalStorage.isJson, path]

/-- The paths after a new file is put. -/
theorem paths_put {storage : LocalStorage} {path : Path} (new : storage.lookup path = none)
    (data : Dict) : (storage.put path data).paths = path :: storage.paths := by
  have kept : storage.files.filter (fun file => decide (file.1 ≠ path)) = storage.files := by
    rw [List.filter_eq_self]
    intro file member
    apply decide_eq_true
    rintro rfl
    have held := LocalStorage.lookup_eq_some_iff.mpr member
    rw [new] at held
    cases held
  show path :: (storage.files.filter fun file => decide (file.1 ≠ path)).map Prod.fst =
    path :: storage.files.map Prod.fst
  rw [kept]

/-- The number of batches listed. -/
theorem listBatches_length {storage : LocalStorage} {call : Ingest}
    (apart : storage.lookup call.directory = none) :
    ∃ batches, listBatches storage call.tenantId call.batch.source = .ok batches ∧
      batches.length = (storage.paths.filter fun path =>
        LocalStorage.below call.directory path && LocalStorage.isJson path).length := by
  unfold listBatches
  rw [LocalStorage.listKeys_directory call.resolve_batchPrefix apart]
  refine ⟨_, rfl, ?_⟩
  unfold sortedKeys
  rw [List.length_mergeSort, List.length_map]
  exact (storage.rglob_perm call.directory).length_eq

/-- A call appends when there is nothing at its path. -/
theorem appends_iff {storage : LocalStorage} {call : Ingest}
    (apart : storage.lookup call.directory = none) :
    Appends storage call (storage.put call.path call.payload) ↔
      storage.lookup call.path = none := by
  have read : storage.readJson call.key = .ok (storage.lookup call.path) := by
    unfold LocalStorage.readJson
    rw [call.resolve_key]
    rfl
  constructor
  · intro appends
    have unused := appends.unused
    rw [read] at unused
    exact Except.ok.inj unused
  · intro new
    refine ⟨by rw [read, new], ?_, ?_⟩
    · intro key data held
      unfold LocalStorage.readJson at held ⊢
      cases resolved : resolve key with
      | error exception =>
        rw [resolved] at held
        cases held
      | ok path =>
        rw [resolved] at held
        have found : storage.lookup path = some data := Except.ok.inj held
        have other : path ≠ call.path := by
          rintro rfl
          rw [new] at found
          cases found
        exact congrArg Except.ok ((storage.lookup_put_ne call.payload other).trans found)
    · have lower : call.directory ≠ call.path := by
        intro same
        have lengths := congrArg (fun path => path.parts.length) same
        simp [directory, path] at lengths
      have apartAfter : (storage.put call.path call.payload).lookup call.directory = none :=
        (storage.lookup_put_ne call.payload lower).trans apart
      obtain ⟨old, isOld, oldLength⟩ := listBatches_length apart
      obtain ⟨added, isNew, newLength⟩ := listBatches_length apartAfter
      refine ⟨old, added, isOld, isNew, ?_⟩
      rw [newLength, oldLength, paths_put new, List.filter_cons, if_pos call.listed,
        List.length_cons]

end Ingest

/-- What holds of every element and those before it holds of the pairs in order. -/
theorem pairwise_iff_splits {α : Type} {related : α → α → Prop} {items : List α} :
    items.Pairwise related ↔ ∀ before item after, items = before ++ item :: after →
      ∀ earlier ∈ before, related earlier item := by
  constructor
  · rintro pairs before item after rfl earlier member
    exact (List.pairwise_append.mp pairs).2.2 earlier member item List.mem_cons_self
  · intro splits
    rw [List.pairwise_iff_forall_sublist]
    intro first second inOrder
    obtain ⟨front, back, whole, early, late⟩ := List.cons_sublist_iff.mp inOrder
    obtain ⟨middle, rest, split⟩ := List.append_of_mem (List.singleton_sublist.mp late)
    subst split
    exact splits (front ++ middle) second rest (by rw [whole, List.append_assoc]) first
      (List.mem_append_left _ early)

/-- Calls only append when none comes in the second of an earlier one for its tenant and source, nor
in that of a batch that was there at the start. -/
theorem append_only_iff {start : LocalStorage} {calls : List Ingest}
    (directories : ∀ call ∈ calls, start.lookup call.directory = none) :
    AppendOnly start calls ↔ calls.Pairwise (fun first second => ¬ Collide first second) ∧
      ∀ call ∈ calls, start.lookup call.path = none := by
  have step : ∀ before call after, calls = before ++ call :: after →
      ((∀ storage, ingestAll start before = .ok storage →
        ∃ written, ingest storage call = .ok (call.batchId, written) ∧
          Appends storage call written) ↔
        start.lookup call.path = none ∧ ∀ earlier ∈ before, ¬ Collide earlier call) := by
    intro before call after split
    obtain ⟨storage, reached, found⟩ := Ingest.lookup_ingestAll start before
    have member : call ∈ calls := by
      rw [split]
      exact List.mem_append_right _ List.mem_cons_self
    have apart : storage.lookup call.directory = none := by
      rw [← Option.not_isSome_iff_eq_none, found, directories call member]
      rintro (absent | ⟨earlier, -, same⟩)
      · cases absent
      · have lengths := congrArg (fun path => path.parts.length) same
        simp [Ingest.directory, Ingest.path] at lengths
    have new : storage.lookup call.path = none ↔
        start.lookup call.path = none ∧ ∀ earlier ∈ before, ¬ Collide earlier call := by
      rw [← Option.not_isSome_iff_eq_none, found, not_or, Option.not_isSome_iff_eq_none]
      apply and_congr_right
      intro _
      simp only [Ingest.path_inj, Collide, not_exists, not_and]
    rw [← new, ← Ingest.appends_iff apart, reached]
    constructor
    · intro all
      obtain ⟨written, done, appends⟩ := all storage rfl
      rw [Ingest.ingest_eq] at done
      cases done
      exact appends
    · intro appends other same
      cases same
      exact ⟨_, Ingest.ingest_eq storage call, appends⟩
  rw [pairwise_iff_splits]
  constructor
  · intro all
    constructor
    · intro before call after split
      exact ((step before call after split).mp (all before call after split)).2
    · intro call member
      obtain ⟨before, after, split⟩ := List.append_of_mem member
      exact ((step before call after split).mp (all before call after split)).1
  · rintro ⟨apart, fresh⟩ before call after split
    have member : call ∈ calls := by
      rw [split]
      exact List.mem_append_right _ List.mem_cons_self
    exact (step before call after split).mpr ⟨fresh call member, apart before call after split⟩

section Sample

/-- A tenant's identifier is a name. -/
theorem isPart_tenant : IsPart "tn_a".toList := by decide

/-- Half past noon, and ten seconds, are times of the day. -/
theorem valid_ten : 12 < 24 ∧ 30 < 60 ∧ 10 < 60 ∧ 0 < 1000000 ∧
    ∀ minutes ∈ some (0 : Int), minutes.natAbs < 1440 := by
  simp

/-- Ten seconds past half past noon of a new year's day. -/
def tenPast : DateTime := ⟨⟨2025, 1, 1, DateTime.valid_newYear⟩, 12, 30, 10, 0, some 0, valid_ten⟩

/-- A call that lands the mails of a tenant. -/
def landing (emails : List Json) (now : DateTime) (utc : now.offset = some 0) : Ingest :=
  ⟨"tn_a", isPart_tenant, .gmail emails, now, utc, now⟩

/-- Two calls at noon and later append. -/
theorem append_two :
    AppendOnly .empty [landing [.null] .newYear rfl, landing [] tenPast rfl] := by
  have apart : ∀ call ∈ [landing [.null] .newYear rfl, landing [] tenPast rfl],
      LocalStorage.empty.lookup call.directory = none := fun _ _ => rfl
  have seconds : DateTime.newYear.secondIndex ≠ tenPast.secondIndex := by decide +kernel
  refine (append_only_iff apart).mpr ⟨?_, fun _ _ => rfl⟩
  rw [List.pairwise_pair]
  exact fun same => seconds same.2.2

/-- The second of two calls in a second replaces the batch of the first. -/
theorem batch_replaced :
    ¬ AppendOnly .empty [landing [.null] .newYear rfl, landing [] .newYear rfl] := by
  intro all
  obtain ⟨written, -, appends⟩ := all [landing [.null] .newYear rfl] (landing [] .newYear rfl) [] rfl
    _ ((Ingest.ingestAll_cons _ _ _).trans rfl)
  have unused := appends.unused
  unfold LocalStorage.readJson at unused
  rw [Ingest.resolve_key] at unused
  have held := LocalStorage.lookup_put_self .empty (landing [.null] .newYear rfl).path
    (landing [.null] .newYear rfl).payload
  have nothing := Except.ok.inj unused
  exact Option.some_ne_none _ (held.symm.trans nothing)

end Sample

end VelaFlow.Pipeline
