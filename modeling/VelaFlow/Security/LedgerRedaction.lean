import VelaFlow.Security.LedgerEntries

/-!
# How deep redaction of the ledger goes

Redaction follows a detail from dictionary to dictionary. Of a list it redacts the texts and takes
the dictionaries and lists in it as they are. So it reaches every depth exactly when none of those
has anything to redact.
-/
namespace VelaFlow.Security

open JsonText

/-- What is written for the value of a sensitive key. -/
def redacted : Json := .str "***REDACTED***"

namespace LedgerLibrary

variable (library : LedgerLibrary)

mutual
/-- What is written for a value is redacted at every depth: of what is stored under a sensitive
key there is nothing, and every text has been redacted. -/
def Scrubbed : Json → Json → Prop
  | .str text, written => written = .str (library.redact text)
  | .obj members, written => ∃ others, written = .obj others ∧ ScrubbedMembers members others
  | .arr items, written => ∃ others, written = .arr others ∧ ScrubbedItems items others
  | .null, written => written = .null
  | .bool value, written => written = .bool value
  | .int value, written => written = .int value
  | .float value, written => written = .float value
/-- What is written for the members of a dictionary is. -/
def ScrubbedMembers : List (String × Json) → List (String × Json) → Prop
  | [], others => others = []
  | (key, value) :: rest, others => ∃ other more, others = (key, other) :: more ∧
      (if library.sensitive key = true then other = redacted else Scrubbed value other) ∧
      ScrubbedMembers rest more
/-- What is written for the items of a list is. -/
def ScrubbedItems : List Json → List Json → Prop
  | [], others => others = []
  | value :: rest, others => ∃ other more, others = other :: more ∧ Scrubbed value other ∧
      ScrubbedItems rest more
end

mutual
/-- A value has nothing to redact: no text that would be changed and, under a sensitive key,
nothing but what redaction leaves there. -/
def Harmless : Json → Prop
  | .str text => library.redact text = text
  | .obj members => HarmlessMembers members
  | .arr items => HarmlessItems items
  | .null | .bool _ | .int _ | .float _ => True
/-- The members of a dictionary have nothing to redact. -/
def HarmlessMembers : List (String × Json) → Prop
  | [] => True
  | (key, value) :: rest =>
    (if library.sensitive key = true then value = redacted else Harmless value) ∧
      HarmlessMembers rest
/-- The items of a list have nothing to redact. -/
def HarmlessItems : List Json → Prop
  | [] => True
  | value :: rest => Harmless value ∧ HarmlessItems rest
end

/-- An item of a list is a text, or it has nothing to redact. -/
def ItemReached : Json → Prop
  | .str _ => True
  | item => library.Harmless item

mutual
/-- Redaction reaches what is in a value: the dictionaries and lists that are items of a list have
nothing to redact, unless they are below a sensitive key. -/
def Reached : Json → Prop
  | .obj members => ReachedMembers members
  | .arr items => ∀ item ∈ items, library.ItemReached item
  | .str _ | .null | .bool _ | .int _ | .float _ => True
/-- Redaction reaches what is in the members of a dictionary. -/
def ReachedMembers : List (String × Json) → Prop
  | [] => True
  | (key, value) :: rest => (library.sensitive key = true ∨ Reached value) ∧ ReachedMembers rest
end

variable {library}

/-- What is written for a first member and for the others. -/
theorem scrubbedMembers_cons_iff {key : String} {value other : Json}
    {rest more : List (String × Json)} :
    library.ScrubbedMembers ((key, value) :: rest) ((key, other) :: more) ↔
      (if library.sensitive key = true then other = redacted else library.Scrubbed value other) ∧
        library.ScrubbedMembers rest more := by
  rw [ScrubbedMembers]
  constructor
  · rintro ⟨_, _, same, first, later⟩
    cases same
    exact ⟨first, later⟩
  · rintro ⟨first, later⟩
    exact ⟨other, more, rfl, first, later⟩

/-- What is written for a first item and for the others. -/
theorem scrubbedItems_cons_iff {value other : Json} {rest more : List Json} :
    library.ScrubbedItems (value :: rest) (other :: more) ↔
      library.Scrubbed value other ∧ library.ScrubbedItems rest more := by
  rw [ScrubbedItems]
  constructor
  · rintro ⟨_, _, same, first, later⟩
    cases same
    exact ⟨first, later⟩
  · rintro ⟨first, later⟩
    exact ⟨other, more, rfl, first, later⟩

variable (library)

mutual
/-- A value may be written as it is exactly when it has nothing to redact. -/
theorem scrubbed_self_iff (value : Json) : library.Scrubbed value value ↔ library.Harmless value := by
  cases value with
  | str text =>
    simp only [Scrubbed, Harmless, Json.str.injEq]
    exact eq_comm
  | obj members =>
    have inside := scrubbedMembers_self_iff members
    simp only [Scrubbed, Harmless, Json.obj.injEq, exists_eq_left', inside]
  | arr items =>
    have inside := scrubbedItems_self_iff items
    simp only [Scrubbed, Harmless, Json.arr.injEq, exists_eq_left', inside]
  | null => simp only [Scrubbed, Harmless]
  | bool value => simp only [Scrubbed, Harmless]
  | int value => simp only [Scrubbed, Harmless]
  | float value => simp only [Scrubbed, Harmless]
/-- Members may be written as they are exactly when they have nothing to redact. -/
theorem scrubbedMembers_self_iff (members : List (String × Json)) :
    library.ScrubbedMembers members members ↔ library.HarmlessMembers members := by
  match members with
  | [] => simp only [ScrubbedMembers, HarmlessMembers]
  | (key, value) :: rest =>
    have first := scrubbed_self_iff value
    have later := scrubbedMembers_self_iff rest
    rw [scrubbedMembers_cons_iff, HarmlessMembers, first, later]
/-- Items may be written as they are exactly when they have nothing to redact. -/
theorem scrubbedItems_self_iff (items : List Json) :
    library.ScrubbedItems items items ↔ library.HarmlessItems items := by
  match items with
  | [] => simp only [ScrubbedItems, HarmlessItems]
  | value :: rest =>
    have first := scrubbed_self_iff value
    have later := scrubbedItems_self_iff rest
    rw [scrubbedItems_cons_iff, HarmlessItems, first, later]
end

/-- Items are written redacted at every depth exactly when each is a text or has nothing to
redact. -/
theorem scrubbedItems_redactItem_iff (items : List Json) :
    library.ScrubbedItems items (items.map library.redactItem) ↔
      ∀ item ∈ items, library.ItemReached item := by
  induction items with
  | nil => simp only [List.map_nil, ScrubbedItems, List.not_mem_nil, false_implies, implies_true]
  | cons item rest ih =>
    have first : library.Scrubbed item (library.redactItem item) ↔ library.ItemReached item := by
      cases item with
      | str text => simp only [redactItem, Scrubbed, ItemReached]
      | _ => exact scrubbed_self_iff library _
    rw [List.map_cons, scrubbedItems_cons_iff, first, ih, List.forall_mem_cons]

mutual
/-- A value is written redacted at every depth exactly when redaction reaches what is in it. -/
theorem scrubbed_redactValue_iff (value : Json) :
    library.Scrubbed value (library.redactValue value) ↔ library.Reached value := by
  cases value with
  | str text => simp only [Scrubbed, redactValue, Reached]
  | obj members =>
    have inside := scrubbedMembers_redactDict_iff members
    simp only [Scrubbed, redactValue, Reached, Json.obj.injEq, exists_eq_left', inside]
  | arr items =>
    have inside := scrubbedItems_redactItem_iff library items
    simp only [Scrubbed, redactValue, Reached, Json.arr.injEq, exists_eq_left', inside]
  | null => simp only [Scrubbed, redactValue, Reached]
  | bool value => simp only [Scrubbed, redactValue, Reached]
  | int value => simp only [Scrubbed, redactValue, Reached]
  | float value => simp only [Scrubbed, redactValue, Reached]
/-- A dictionary is written redacted at every depth exactly when redaction reaches what is in it. -/
theorem scrubbedMembers_redactDict_iff (members : List (String × Json)) :
    library.ScrubbedMembers members (library.redactDict members) ↔
      library.ReachedMembers members := by
  match members with
  | [] => simp only [ScrubbedMembers, redactDict, ReachedMembers]
  | (key, value) :: rest =>
    have first := scrubbed_redactValue_iff value
    have later := scrubbedMembers_redactDict_iff rest
    rw [redactDict, scrubbedMembers_cons_iff, ReachedMembers, later]
    by_cases hidden : library.sensitive key = true
    · simp only [hidden, if_true, redacted, true_or]
    · simp only [hidden, Bool.false_eq_true, if_false, false_or, first]
end

end LedgerLibrary

/-- A lookup passes over a field of another key, whether it is kept or not. -/
theorem get?_filter_cons {keeps : String × Json → Bool} {other key : String} (apart : other ≠ key)
    (value : Json) (rest : Dict) :
    Dict.get? (List.filter keeps ((other, value) :: rest)) key =
      Dict.get? (List.filter keeps rest) key := by
  rw [List.filter_cons]
  split
  · rw [Dict.get?_cons, if_neg apart]
  · rfl

/-- The detail that an entry is written with. -/
theorem get?_detail (library : LedgerLibrary) (call : LogCall) (ts : DateTime) (lastHash : String) :
    (makeEntry library call ts lastHash).get? "detail" =
      if isNone (redactedDetail library call.detail) = true then none
      else some (redactedDetail library call.detail) := by
  unfold makeEntry entryFields
  rw [Dict.get?_set_ne _ _ (by decide)]
  iterate 7 rw [get?_filter_cons (by decide)]
  rw [List.filter_cons]
  cases isNone (redactedDetail library call.detail) with
  | true =>
    simp only [Bool.not_true, Bool.false_eq_true, if_false, if_true]
    iterate 3 rw [get?_filter_cons (by decide)]
    rfl
  | false =>
    simp only [Bool.not_false, Bool.false_eq_true, if_false, if_true]
    rw [Dict.get?_cons, if_pos rfl]

/-- The detail in the entry of a call is redacted at every depth exactly when it has nothing to
redact in the dictionaries and lists that are items of its lists. -/
theorem detail_scrubbed_iff (library : LedgerLibrary) (call : LogCall) (ts : DateTime)
    (lastHash : String) :
    (∀ members ∈ call.detail, ∀ written,
      (makeEntry library call ts lastHash).get? "detail" = some written →
        library.Scrubbed (.obj members) written) ↔
      ∀ members ∈ call.detail, library.ReachedMembers members := by
  have each : ∀ members ∈ call.detail, (∀ written,
      (makeEntry library call ts lastHash).get? "detail" = some written →
        library.Scrubbed (.obj members) written) ↔ library.ReachedMembers members := by
    intro members given
    rw [get?_detail, given]
    cases members with
    | nil =>
      have nothing : isNone (redactedDetail library (some [])) = true := rfl
      simp only [nothing, if_true, reduceCtorEq, false_implies, implies_true,
        LedgerLibrary.ReachedMembers]
    | cons first rest =>
      have detail : redactedDetail library (some (first :: rest)) =
          .obj (library.redactDict (first :: rest)) := rfl
      have inside := LedgerLibrary.scrubbedMembers_redactDict_iff library (first :: rest)
      simp only [detail, isNone, Bool.false_eq_true, if_false, Option.some.injEq, forall_eq',
        LedgerLibrary.Scrubbed, Json.obj.injEq, exists_eq_left', inside]
  exact forall₂_congr each

section Sample

/-- A detail with a password in a dictionary in a list. -/
def nestedDetail : Dict := [("attempts", .arr [.obj [("password", .str "hunter2")]])]

/-- It repeats no key. -/
theorem held_nestedDetail : ∀ members ∈ some nestedDetail, (Json.obj members).held = .obj members := by
  intro members given
  cases given
  rfl

/-- A call with that detail. -/
def nestedCall : LogCall where
  category := .security
  action := "login"
  detail := some nestedDetail
  distinct := held_nestedDetail

/-- The password is written to the ledger. -/
theorem password_written :
    (makeEntry sampleLibrary nestedCall sampleTime "").get? "detail" = some (.obj nestedDetail) ∧
      ¬ ∀ members ∈ nestedCall.detail, ∀ written,
        (makeEntry sampleLibrary nestedCall sampleTime "").get? "detail" = some written →
          sampleLibrary.Scrubbed (.obj members) written := by
  have plain : sampleLibrary.sensitive "attempts" = false := by decide +kernel
  have hidden : sampleLibrary.sensitive "password" = true := by decide +kernel
  have detail : (makeEntry sampleLibrary nestedCall sampleTime "").get? "detail" =
      some (.obj nestedDetail) := by
    rw [get?_detail]
    have same : redactedDetail sampleLibrary nestedCall.detail = .obj nestedDetail := by
      simp [redactedDetail, nestedCall, nestedDetail, Dict.truthy, LedgerLibrary.redactDict, plain,
        LedgerLibrary.redactValue, LedgerLibrary.redactItem]
    rw [same]
    rfl
  refine ⟨detail, fun scrubbed => ?_⟩
  have done := scrubbed nestedDetail rfl _ detail
  have harmful : ¬ sampleLibrary.Scrubbed (.obj nestedDetail) (.obj nestedDetail) := by
    rw [LedgerLibrary.scrubbed_self_iff]
    simp [nestedDetail, LedgerLibrary.Harmless, LedgerLibrary.HarmlessMembers,
      LedgerLibrary.HarmlessItems, plain, hidden, redacted]
  exact harmful done

end Sample

end VelaFlow.Security
