import VelaFlow.Process.Quota

/-!
# Effects of actions

What each action enters in the list of effects, and what it leaves alone. Effects are never taken
back, so how often something was done is the number of its effects.
-/
namespace VelaFlow.Process

/-- The effects of an action on a world. -/
def emitted (answers : Answers) (world : World) : Action → List Effect
  | .writeJson key data => if (world.storage.writeJson key data).isOk then [.wrote key data] else []
  | .delete key => if (world.storage.delete key).isOk then [.deleted key] else []
  | .execute tenant _ => [.executed tenant.tenantId answers.started]
  | .augmentPrompt tenantId _ _ | .ragIngest tenantId _ _ _ _ | .ragQuery tenantId _ _
  | .ragDelete tenantId _ => [.calledRag tenantId]
  | .localChat tenantId _ _ | .callLlm tenantId _ _ => [.calledLlm tenantId answers.started]
  | _ => []

namespace World

/-- How many effects of a kind there were. -/
def tally (world : World) (kind : Effect → Bool) : Nat := world.effects.countP kind

/-- Only the quota check changes the memory. -/
theorem dailyUsage_respond (answers : Answers) (world : World) {action : Action}
    (other : ∀ tenantId usageType limit today, action ≠ .checkQuota tenantId usageType limit today) :
    (world.respond answers action).2.dailyUsage = world.dailyUsage := by
  cases action with
  | checkQuota tenantId usageType limit today => exact absurd rfl (other _ _ _ _)
  | writeJson key data =>
    simp only [World.respond, World.writeJson]
    cases world.storage.writeJson key data <;> rfl
  | delete key =>
    simp only [World.respond, World.deleteKey]
    cases world.storage.delete key <;> rfl
  | _ => rfl

/-- An action appends its effects. -/
theorem effects_respond (answers : Answers) (world : World) (action : Action) :
    (world.respond answers action).2.effects = world.effects ++ emitted answers world action := by
  cases action with
  | writeJson key data =>
    simp only [respond, writeJson, emitted]
    cases world.storage.writeJson key data with
    | error exception => simp [Except.isOk, Except.toBool]
    | ok storage => rfl
  | delete key =>
    simp only [respond, deleteKey, emitted]
    cases world.storage.delete key with
    | error exception => simp [Except.isOk, Except.toBool]
    | ok removed => rfl
  | checkQuota tenantId usageType limit today =>
    obtain ⟨dailyUsage, same⟩ := world.checkQuota_frame tenantId usageType limit today
    simp [respond, same, emitted]
  | execute tenant inputs => rfl
  | augmentPrompt tenantId prompt systemPrompt => rfl
  | ragIngest tenantId text documentId metadata maxDocuments => rfl
  | ragQuery tenantId query topK => rfl
  | ragDelete tenantId documentId => rfl
  | localChat tenantId prompt systemPrompt => rfl
  | callLlm tenantId prompt systemPrompt => rfl
  | _ => exact (List.append_nil _).symm

/-- An action adds its effects to a tally. -/
theorem tally_respond (answers : Answers) (world : World) (action : Action)
    (kind : Effect → Bool) :
    (world.respond answers action).2.tally kind =
      world.tally kind + (emitted answers world action).countP kind := by
  unfold tally
  rw [effects_respond, List.countP_append]

/-- No routine takes back an effect. -/
theorem effects_run {α : Type} (answers : Answers) (routine : Routine α) (world : World) :
    ∃ more, (routine.run answers world).2.effects = world.effects ++ more := by
  induction routine generalizing world with
  | done value => exact ⟨[], by simp [Routine.run, Program.run]⟩
  | raise exception => exact ⟨[], by simp [Routine.run, Program.run]⟩
  | perform action next ih =>
    obtain ⟨more, later⟩ := ih (world.respond answers action).1 (world.respond answers action).2
    refine ⟨emitted answers world action ++ more, ?_⟩
    rw [← List.append_assoc, ← effects_respond]
    exact later

/-- No routine lowers a tally. -/
theorem tally_le_run {α : Type} (answers : Answers) (routine : Routine α) (world : World)
    (kind : Effect → Bool) : world.tally kind ≤ (routine.run answers world).2.tally kind := by
  obtain ⟨more, grown⟩ := effects_run answers routine world
  unfold tally
  rw [grown, List.countP_append]
  exact Nat.le_add_right _ _

end World

end VelaFlow.Process
