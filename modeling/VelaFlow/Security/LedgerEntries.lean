import VelaFlow.Foundation.HashChain
import VelaFlow.Security.ActionLedger

/-!
# Entries of the action ledger

What every entry of the ledger is, whatever it was called with: it names the hash it found in
memory, carries its own, and reads back from its line as it was. A file of such lines verifies
exactly when its entries are a hash chain.
-/
namespace VelaFlow.Security

open JsonText

variable (library : LedgerLibrary)

section Redaction

/-- Redaction keeps the keys of a dictionary. -/
theorem keys_redactDict (members : Dict) :
    Dict.keys (library.redactDict members) = members.keys := by
  induction members with
  | nil => rfl
  | cons pair rest ih =>
    obtain ⟨key, value⟩ := pair
    unfold Dict.keys at ih ⊢
    rw [LedgerLibrary.redactDict, List.map_cons, ih, List.map_cons]

mutual
/-- Redaction makes no repeated keys in a value. -/
theorem held_redactValue (value : Json) (held : value.held = value) :
    (library.redactValue value).held = library.redactValue value := by
  cases value with
  | arr items =>
    have each := Json.held_arr_iff.mp held
    apply Json.held_arr_iff.mpr
    intro item inside
    obtain ⟨old, within, rfl⟩ := List.mem_map.mp inside
    cases old with
    | str text => rfl
    | _ => exact each _ within
  | obj members =>
    obtain ⟨distinct, each⟩ := Json.held_obj_iff.mp held
    apply Json.held_obj_iff.mpr
    rw [keys_redactDict]
    exact ⟨distinct, held_redactDict members each⟩
  | null => rfl
  | bool value => rfl
  | int value => rfl
  | float value => rfl
  | str value => rfl
/-- Redaction makes no repeated keys in the values of a dictionary. -/
theorem held_redactDict (members : List (String × Json))
    (each : ∀ pair ∈ members, pair.2.held = pair.2) :
    ∀ pair ∈ library.redactDict members, pair.2.held = pair.2 := by
  match members with
  | [] => exact fun pair inside => absurd inside List.not_mem_nil
  | (key, value) :: rest =>
    have first := held_redactValue value (each (key, value) List.mem_cons_self)
    have later := held_redactDict rest fun pair inside => each pair (List.mem_cons_of_mem _ inside)
    intro pair inside
    rw [LedgerLibrary.redactDict] at inside
    rcases List.mem_cons.mp inside with rfl | within
    · by_cases hidden : library.sensitive key = true
      · simp [hidden, Json.held]
      · simp [hidden, first]
    · exact later pair within
end

end Redaction

/-- The hash an entry names. -/
def entryLink (entry : Dict) : String :=
  match entry.get? "prev" with
  | some (.str text) => text
  | _ => ""

/-- What every entry of the ledger is. -/
structure IsEntry (entry : Dict) : Prop where
  /-- It repeats no key and holds values as Python does. -/
  held : (Json.obj entry).held = .obj entry
  /-- It names a hash. -/
  prev : entry.get? "prev" = some (.str (entryLink entry))
  /-- It carries its own. -/
  hash : entry.get? "hash" = some (.str (library.computeHash entry))

variable {library}

/-- The fields of an entry are held values under different keys. -/
theorem held_entryFields (call : LogCall) (ts : DateTime) (lastHash : String) :
    Dict.keys (entryFields library call ts lastHash) =
        ["ts", "cat", "act", "tid", "uid", "status", "dur_ms", "detail", "err", "prev", "hash"] ∧
      ∀ pair ∈ entryFields library call ts lastHash, pair.2.held = pair.2 := by
  have detail : (redactedDetail library call.detail).held = redactedDetail library call.detail := by
    unfold redactedDetail
    split
    case h_1 members given =>
      split
      · exact held_redactValue library (.obj members) (call.distinct members given)
      · rfl
    case h_2 => rfl
  have error : (redactedError library call.error).held = redactedError library call.error := by
    unfold redactedError
    split <;> rfl
  have duration : ((call.durationMs.map Json.float).getD .null).held =
      (call.durationMs.map Json.float).getD .null := by
    cases call.durationMs <;> rfl
  refine ⟨rfl, ?_⟩
  simp only [entryFields, List.forall_mem_cons, List.not_mem_nil, false_implies, implies_true,
    detail, error, duration, Json.held, and_self]

/-- What `log` makes is an entry, which names the hash it was given. -/
theorem isEntry_makeEntry (call : LogCall) (ts : DateTime) (lastHash : String) :
    IsEntry library (makeEntry library call ts lastHash) ∧
      entryLink (makeEntry library call ts lastHash) = lastHash := by
  obtain ⟨keys, values⟩ := @held_entryFields library call ts lastHash
  let filled : Dict := (entryFields library call ts lastHash).filter fun pair => !isNone pair.2
  have made : makeEntry library call ts lastHash =
      filled.set "hash" (.str (library.computeHash filled)) := rfl
  have sub : filled.Sublist (entryFields library call ts lastHash) := List.filter_sublist
  have distinct : filled.keys.Nodup := by
    apply (sub.map Prod.fst).nodup
    rw [show List.map Prod.fst (entryFields library call ts lastHash) = _ from keys]
    decide
  have prev : filled.get? "prev" = some (.str lastHash) := by
    apply Dict.get?_of_mem distinct
    apply List.mem_filter.mpr
    exact ⟨by simp [entryFields], rfl⟩
  have named : (makeEntry library call ts lastHash).get? "prev" = some (.str lastHash) := by
    rw [made, Dict.get?_set_ne _ _ (by decide)]
    exact prev
  have hash : library.computeHash (makeEntry library call ts lastHash) =
      library.computeHash filled := by
    unfold LedgerLibrary.computeHash
    rw [made, Dict.erase_set]
  have link : entryLink (makeEntry library call ts lastHash) = lastHash := by
    simp [entryLink, named]
  refine ⟨⟨?_, by rw [link]; exact named, ?_⟩, link⟩
  · apply Json.held_obj_iff.mpr
    rw [made]
    refine ⟨Dict.nodup_set distinct _ _, ?_⟩
    intro pair inside
    rcases Dict.mem_set inside with is | within
    · rw [is]
      rfl
    · exact values pair (sub.subset within)
  · rw [hash, made]
    exact Dict.get?_set_self _ _ _

/-- A text between characters that are no space has nothing to strip. -/
theorem strip_of_ends {first last : Char} {middle : List Char} (opens : isSpace first = false)
    (closes : isSpace last = false) :
    strip (first :: (middle ++ [last])) = first :: (middle ++ [last]) := by
  apply strip_eq_self
  · intro character is
    cases is
    exact opens
  · intro character is
    rw [← List.cons_append, List.getLast?_concat] at is
    cases is
    exact closes

/-- The line of an entry. -/
def entryLine (library : LedgerLibrary) (entry : Dict) : List Char :=
  dumps library.floats (.obj entry)

/-- A line of an entry has nothing to strip and is not blank. -/
theorem strip_entryLine (entry : Dict) :
    strip (entryLine library entry) = entryLine library entry ∧
      entryLine library entry ≠ [] := by
  constructor
  · exact strip_of_ends rfl rfl
  · exact List.cons_ne_nil _ _

/-- An entry reads back from its line. -/
theorem loads_entryLine {entry : Dict} (is : IsEntry library entry) :
    loads library.floats (entryLine library entry) = some (.obj entry) := by
  unfold entryLine dumps
  rw [loads_write, is.held]

/-- What the verifier asks of an entry by itself: that it names a hash, if any, and carries its
own. -/
structure SelfHashed (library : LedgerLibrary) (entry : Dict) : Prop where
  /-- It names a hash, or none. -/
  prev : entry.getD "prev" (.str "") = .str (entryLink entry)
  /-- It carries its own. -/
  hash : entry.getD "hash" (.str "") = .str (library.computeHash entry)

/-- An entry of the ledger is what the verifier asks for. -/
theorem IsEntry.selfHashed {entry : Dict} (is : IsEntry library entry) :
    SelfHashed library entry where
  prev := by simp [Dict.getD, is.prev]
  hash := by simp [Dict.getD, is.hash]

/-- A text that is equal to a value is its text. -/
theorem equalsStr_iff {value : Json} {text : String} :
    equalsStr value text = true ↔ value = .str text := by
  cases value <;> simp [equalsStr]

/-- The verifier rejects nothing as verified. -/
theorem reject_ne (name : String) (value : Json) : reject name value ≠ .ok true := by
  unfold reject
  split <;> simp

/-- Without a text under `prev` an entry names no hash. -/
theorem entryLink_eq {entry : Dict} {text : String}
    (named : entry.getD "prev" (.str "") = .str text) : entryLink entry = text := by
  unfold Dict.getD at named
  unfold entryLink
  cases found : entry.get? "prev" with
  | none =>
    rw [found] at named
    exact Json.str.inj named
  | some value =>
    rw [found] at named
    rw [show value = .str text from named]

/-- Lines of entries verify exactly when each entry is what the verifier asks for, and they are a
hash chain. -/
theorem verifyLines_iff {lines : List (List Char)} {entries : List Dict}
    (parsed : lines.map (fun line => loads library.floats (strip line)) =
      entries.map (fun entry => some (.obj entry))) (prevHash : String) :
    verifyLines library prevHash lines = .ok true ↔
      (∀ entry ∈ entries, SelfHashed library entry) ∧
        HashChain.Linked entryLink library.computeHash prevHash entries := by
  induction lines generalizing entries prevHash with
  | nil =>
    cases entries with
    | nil => simp [verifyLines, HashChain.Linked]
    | cons entry rest => cases parsed
  | cons line more ih =>
    cases entries with
    | nil => cases parsed
    | cons entry rest =>
      obtain ⟨first, parsed⟩ := List.cons.inj parsed
      have read : loads library.floats (strip line) = some (.obj entry) := first
      have filled : strip line ≠ [] := by
        intro blank
        rw [blank] at read
        cases read
      rw [verifyLines]
      simp only [filled, if_false, read]
      by_cases linked : entry.getD "prev" (.str "") = .str prevHash
      · have link := entryLink_eq linked
        by_cases hashed : entry.getD "hash" (.str "") = .str (library.computeHash entry)
        · simp only [equalsStr_iff.mpr linked, equalsStr_iff.mpr hashed, Bool.not_true,
            Bool.false_eq_true, if_false]
          rw [ih parsed]
          have self : SelfHashed library entry := ⟨by rw [link]; exact linked, hashed⟩
          simp [HashChain.Linked, link, self]
        · have unequal : equalsStr (entry.getD "hash" (.str "")) (library.computeHash entry) =
              false := by
            simpa using mt equalsStr_iff.mp hashed
          simp only [equalsStr_iff.mpr linked, unequal, Bool.not_true, Bool.not_false,
            Bool.false_eq_true, if_false, if_true]
          exact iff_of_false (reject_ne _ _) fun all =>
            hashed (all.1 entry List.mem_cons_self).hash
      · have unequal : equalsStr (entry.getD "prev" (.str "")) prevHash = false := by
          simpa using mt equalsStr_iff.mp linked
        simp only [unequal, Bool.not_false, if_true]
        refine iff_of_false (reject_ne _ _) fun all => linked ?_
        rw [(all.1 entry List.mem_cons_self).prev, all.2.1]

/-- The lines of entries of the ledger verify exactly when they are a hash chain. -/
theorem verifyLines_entries {entries : List Dict} (are : ∀ entry ∈ entries, IsEntry library entry)
    (prevHash : String) :
    verifyLines library prevHash (entries.map (entryLine library)) = .ok true ↔
      HashChain.Linked entryLink library.computeHash prevHash entries := by
  have parsed : (entries.map (entryLine library)).map
      (fun line => loads library.floats (strip line)) =
        entries.map (fun entry => some (.obj entry)) := by
    rw [List.map_map]
    apply List.map_inj_left.mpr
    intro entry inside
    rw [Function.comp_apply, (strip_entryLine entry).1, loads_entryLine (are entry inside)]
  rw [verifyLines_iff parsed]
  exact and_iff_right fun entry inside => (are entry inside).selfHashed

section Sample

/-- A library that redacts nothing and hashes everything to zeros. -/
def sampleLibrary : LedgerLibrary where
  redact := id
  lower := id
  floats := .fractions
  hmac _ := Vector.replicate 32 0

/-- The first day of the samples. -/
def sampleDay : Date := ⟨2025, 1, 1, by simp [daysInMonth]⟩

/-- A time of that day. -/
def sampleTime : DateTime := ⟨sampleDay, 12, 0, 0, 0, some 0, by simp⟩

/-- A call of `log`. -/
def sampleCall : LogCall where
  category := .system
  action := "started"

end Sample

end VelaFlow.Security
