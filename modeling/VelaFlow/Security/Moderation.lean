import VelaFlow.Foundation.Json

/-!
# Content moderation

`security/moderation.py`: the check of one text, and of chosen fields of many items. The compiled
patterns are a parameter: each category is known by what the `search` of its pattern finds.
-/
namespace VelaFlow.Security

/-- `_MAX_SCAN_LENGTH` of the moderation. -/
def moderationScanLength : Nat := 50000

/-- `_ILLEGAL_PATTERNS`: each category with the `search` of its pattern. -/
structure Moderation where
  /-- The categories, in order. -/
  illegalPatterns : List (String × (String → Bool))

/-- `ModerationResult`. -/
structure ModerationResult where
  /-- `is_allowed`. -/
  isAllowed : Bool
  /-- `category`. -/
  category : String := ""
  /-- `reason`. -/
  reason : String := ""
  deriving DecidableEq, Repr

namespace Moderation

variable (moderation : Moderation)

/-- `check_content`. -/
def checkContent (text : String) : ModerationResult :=
  if text = "" then { isAllowed := true }
  else
    let scanText := String.ofList (text.toList.take moderationScanLength)
    match moderation.illegalPatterns.find? fun pattern => pattern.2 scanText with
    | some (category, _) =>
      { isAllowed := false
        category
        reason := "Content violates acceptable use policy (" ++ category ++ ")." }
    | none => { isAllowed := true }

/-- The check of one field of an item, when it is a text that is blocked. -/
def blocked? (item : Dict) (field : String) : Option ModerationResult :=
  match item.get? field with
  | some (.str value) =>
    if (moderation.checkContent value).isAllowed = true then none
    else some (moderation.checkContent value)
  | _ => none

/-- `check_bulk_content`. -/
def checkBulkContent (items : List Dict) (textFields : List String) : ModerationResult :=
  match items.findSome? fun item => textFields.findSome? (moderation.blocked? item) with
  | some result => result
  | none => { isAllowed := true }

/-- Items are allowed when no field of them that is looked at is blocked. -/
theorem checkBulkContent_isAllowed_iff {items : List Dict} {textFields : List String} :
    (moderation.checkBulkContent items textFields).isAllowed = true ↔
      ∀ item ∈ items, ∀ field ∈ textFields, moderation.blocked? item field = none := by
  unfold checkBulkContent
  cases found : items.findSome? fun item => textFields.findSome? (moderation.blocked? item) with
  | none =>
    have clear := List.findSome?_eq_none_iff.mp found
    refine ⟨fun _ item member => ?_, fun _ => rfl⟩
    exact List.findSome?_eq_none_iff.mp (clear item member)
  | some result =>
    rcases List.exists_of_findSome?_eq_some found with ⟨item, member, inItem⟩
    rcases List.exists_of_findSome?_eq_some inItem with ⟨field, inFields, blocked⟩
    have refused : result.isAllowed = false := by
      unfold blocked? at blocked
      split at blocked
      · split at blocked
        · cases blocked
        · have is := Option.some.inj blocked
          rw [← is]
          simpa using ‹¬ _ = true›
      · cases blocked
    constructor
    · intro allowed
      rw [refused] at allowed
      cases allowed
    · intro clear
      rw [clear item member field inFields] at blocked
      cases blocked

/-- Fewer fields block fewer items. -/
theorem checkBulkContent_mono {items : List Dict} {fewer more : List String}
    (subset : fewer ⊆ more)
    (allowed : (moderation.checkBulkContent items more).isAllowed = true) :
    (moderation.checkBulkContent items fewer).isAllowed = true := by
  rw [checkBulkContent_isAllowed_iff] at allowed ⊢
  exact fun item member field inFewer => allowed item member field (subset inFewer)

end Moderation

end VelaFlow.Security
