import VelaFlow.Llm.Fallback

/-!
# Whether a demo stays with the proxy

In demo mode the proxy is required and real keys are to be ignored. The test of the mode stands
inside the branch that a configured proxy takes, so a demo without a proxy uses whatever keys there
are.
-/
namespace VelaFlow.Llm

open Security

variable {settings : Settings} {text systemPrompt : String}

/-- Whatever is answered, a program makes no direct request. -/
def Isolated {α : Type} (program : Chat α) : Prop :=
  Program.Only (fun action => ¬ Action.Direct action) program

/-- No text is sent to Gemini or Groq directly. -/
def DemoIsolated (settings : Settings) : Prop :=
  (∀ patterns rawText systemPrompt,
    Isolated (polishDigest settings systemPrompt patterns rawText)) ∧
  ∀ patterns userText systemPrompt preferQuality,
    Isolated (callLlm settings userText systemPrompt patterns preferQuality)

/-- There is no key to call Gemini or Groq with, or no Gemini model. -/
def Settings.Keyless (settings : Settings) : Prop :=
  (settings.googleAiApiKey = "" ∨ geminiModelChain settings = []) ∧ settings.groqApiKey = ""

/-- A request to the proxy is not a direct one. -/
theorem isolated_send {request : Post} (proxy : request.provider = .proxy)
    (givesNothing : List Nat) (read : Json → Except PyException Json) :
    Isolated (send request givesNothing read) := by
  unfold Isolated send
  apply Program.Only.tryCatch
  · apply Program.Only.bind
    · exact Program.Only.act fun direct => direct proxy
    · intro response
      split
      · exact Program.Only.pure _
      · apply (Program.Only.lift _).bind
        intro _
        apply (Program.Only.lift _).bind
        intro data
        exact Program.Only.lift _
  · intro exception
    split
    · exact Program.Only.pure _
    · exact Program.Only.raise _

/-- Looking an address up is not a request. -/
theorem isolated_resolvesToPrivateIp (url : String) : Isolated (resolvesToPrivateIp url) := by
  unfold Isolated resolvesToPrivateIp
  apply Program.Only.tryCatch
  · apply Program.Only.bind
    · exact Program.Only.act fun direct => direct
    · intro hostname
      split
      · exact Program.Only.pure _
      · exact Program.Only.pure _
      · apply Program.Only.bind
        · exact Program.Only.act fun direct => direct
        · exact fun addresses => Program.Only.pure _
  · intro exception
    split
    · exact Program.Only.pure _
    · exact Program.Only.raise _

/-- A call of the proxy makes no direct request. -/
theorem isolated_callProxy : Isolated (callProxy settings text systemPrompt) := by
  unfold Isolated callProxy
  dsimp only
  split
  · apply Program.Only.bind (isolated_resolvesToPrivateIp _)
    intro isPrivate
    split
    · exact Program.Only.pure _
    · exact isolated_send rfl _ _
  · exact Program.Only.pure _

/-- A direct call makes a direct request. -/
theorem not_isolated_send {request : Post} (direct : request.provider ≠ .proxy)
    (givesNothing : List Nat) (read : Json → Except PyException Json) :
    ¬ Isolated (send request givesNothing read) := by
  intro isolated
  have guarded := Program.Only.of_tryCatch isolated
  have request := Program.Only.of_bind guarded
  exact request.1 direct

/-- The loop over the models makes a direct request for the first of them. -/
theorem isolated_firstResult_iff {models : List String} :
    Isolated (firstResult settings text systemPrompt models) ↔ models = [] := by
  cases models with
  | nil => exact iff_of_true (Program.Only.pure _) rfl
  | cons model rest =>
    refine iff_of_false (fun isolated => ?_) (List.cons_ne_nil _ _)
    unfold firstResult at isolated
    have direct : Provider.gemini ≠ .proxy := by decide
    exact not_isolated_send direct _ _ (Program.Only.of_bind isolated)

/-- The Gemini models are tried when there is a key and a model. -/
theorem isolated_tryGemini_iff {models : List String} :
    Isolated (tryGemini settings text systemPrompt models) ↔
      settings.googleAiApiKey = "" ∨ models = [] := by
  unfold tryGemini
  by_cases key : settings.googleAiApiKey = ""
  · rw [if_neg (not_not.mpr key)]
    exact iff_of_true (Program.Only.pure _) (Or.inl key)
  · rw [if_pos key, isolated_firstResult_iff]
    exact (or_iff_right key).symm

/-- With nothing to try there is no result of the Gemini models. -/
theorem tryGemini_eq_pure {models : List String}
    (nothing : settings.googleAiApiKey = "" ∨ models = []) :
    tryGemini settings text systemPrompt models = pure .null := by
  unfold tryGemini
  cases nothing with
  | inl key => rw [if_neg (not_not.mpr key)]
  | inr empty =>
    subst empty
    split
    · rfl
    · rfl

/-- Groq is tried when there is a key. -/
theorem isolated_tryGroq_iff :
    Isolated (tryGroq settings text systemPrompt) ↔ settings.groqApiKey = "" := by
  unfold tryGroq
  by_cases key : settings.groqApiKey = ""
  · rw [if_neg (not_not.mpr key)]
    exact iff_of_true (Program.Only.pure _) key
  · rw [if_pos key]
    have direct : Provider.groq ≠ .proxy := by decide
    exact iff_of_false (not_isolated_send direct _ _) key

/-- Without a proxy a digest makes no direct request when there is nothing to make it with. -/
theorem isolated_polishDirectly_iff {rawText : String} :
    Isolated (polishDirectly settings text systemPrompt rawText) ↔ settings.Keyless := by
  unfold polishDirectly Settings.Keyless
  by_cases nothing : settings.googleAiApiKey = "" ∨ geminiModelChain settings = []
  · rw [tryGemini_eq_pure nothing, and_iff_right nothing]
    show Isolated (tryGroq settings text systemPrompt >>= _) ↔ _
    constructor
    · exact fun isolated => isolated_tryGroq_iff.mp (Program.Only.of_bind isolated)
    · intro key
      apply (isolated_tryGroq_iff.mpr key).bind
      intro result
      split
      · exact Program.Only.pure _
      · exact Program.Only.pure _
  · exact iff_of_false
      (fun isolated => nothing (isolated_tryGemini_iff.mp (Program.Only.of_bind isolated)))
      fun keyless => nothing keyless.1

/-- There is a model left when the best one is passed over. -/
theorem chosenModels_eq_nil {preferQuality : Bool} :
    chosenModels settings preferQuality = [] ↔ geminiModelChain settings = [] := by
  unfold chosenModels
  dsimp only
  split
  · next passed =>
    rw [List.drop_eq_nil_iff]
    constructor
    · intro short
      omega
    · intro empty
      rw [empty]
      exact Nat.zero_le _
  · rfl

/-- Without a proxy a prompt makes no direct request when there is nothing to make it with. -/
theorem isolated_callDirectly_iff {preferQuality : Bool} :
    Isolated (callDirectly settings text systemPrompt preferQuality) ↔ settings.Keyless := by
  unfold callDirectly Settings.Keyless
  rw [← @chosenModels_eq_nil settings preferQuality]
  by_cases nothing : settings.googleAiApiKey = "" ∨ chosenModels settings preferQuality = []
  · rw [tryGemini_eq_pure nothing, and_iff_right nothing]
    exact isolated_tryGroq_iff
  · exact iff_of_false
      (fun isolated => nothing (isolated_tryGemini_iff.mp (Program.Only.of_bind isolated)))
      fun keyless => nothing keyless.1

/-- Patterns that find nothing. -/
def noPatterns : Patterns := ⟨id, id, id, []⟩

/-- In demo mode no text is sent to Gemini or Groq directly exactly when a proxy is configured, or
there is nothing to call them with. -/
theorem demo_isolated_iff (demo : settings.demoMode = true) :
    DemoIsolated settings ↔ settings.proxied = true ∨ settings.Keyless := by
  unfold DemoIsolated
  by_cases proxied : settings.proxied = true
  · refine iff_of_true ⟨?_, ?_⟩ (Or.inl proxied)
    · intro patterns rawText systemPrompt
      unfold polishDigest
      dsimp only
      rw [if_pos proxied]
      apply isolated_callProxy.bind
      intro result
      rw [if_pos demo]
      split
      · exact Program.Only.pure _
      · exact Program.Only.pure _
    · intro patterns userText systemPrompt preferQuality
      unfold callLlm
      dsimp only
      rw [if_pos proxied]
      apply isolated_callProxy.bind
      intro result
      rw [if_pos demo]
      split
      · exact Program.Only.pure _
      · exact Program.Only.pure _
  · have digest : ∀ patterns rawText systemPrompt,
        Isolated (polishDigest settings systemPrompt patterns rawText) ↔ settings.Keyless := by
      intro patterns rawText systemPrompt
      unfold polishDigest
      dsimp only
      rw [if_neg proxied]
      exact isolated_polishDirectly_iff
    have prompt : ∀ patterns userText systemPrompt preferQuality,
        Isolated (callLlm settings userText systemPrompt patterns preferQuality) ↔
          settings.Keyless := by
      intro patterns userText systemPrompt preferQuality
      unfold callLlm
      dsimp only
      rw [if_neg proxied]
      exact isolated_callDirectly_iff
    constructor
    · intro isolated
      exact Or.inr ((digest noPatterns "" "").mp (isolated.1 noPatterns "" ""))
    · intro either
      have keyless := either.resolve_left proxied
      exact ⟨fun patterns rawText systemPrompt =>
          (digest patterns rawText systemPrompt).mpr keyless,
        fun patterns userText systemPrompt preferQuality =>
          (prompt patterns userText systemPrompt preferQuality).mpr keyless⟩

section Sample

/-- A demo with keys but without a proxy. -/
def demoWithKeys : Settings := { demoMode := true, groqApiKey := "gsk", googleAiApiKey := "AIza" }

/-- In demo mode without a proxy the digest goes to Gemini. -/
theorem demo_calls_gemini : ¬ DemoIsolated demoWithKeys := by
  intro isolated
  have direct : ¬ demoWithKeys.Keyless := by
    intro keyless
    have empty := keyless.2
    revert empty
    decide
  have digest := isolated.1 noPatterns "digest" "prompt"
  have without : demoWithKeys.proxied ≠ true := by decide
  unfold polishDigest at digest
  dsimp only at digest
  rw [if_neg without] at digest
  exact direct (isolated_polishDirectly_iff.mp digest)

/-- A demo with a proxy and keys keeps to the proxy. -/
theorem demo_isolated_proxied :
    DemoIsolated { demoWithKeys with litellmProxyUrl := "https://p", litellmProxyToken := "t" } :=
  (demo_isolated_iff rfl).mpr (Or.inl (by decide))

end Sample

end VelaFlow.Llm
