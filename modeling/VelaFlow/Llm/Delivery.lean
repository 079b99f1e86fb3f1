import VelaFlow.Llm.DemoIsolation

/-!
# What the fallback chain delivers

A digest is polished by the first provider that gives a text, and else comes back as it was. A
call takes its own failures for no result, but only those it expects: a body of another shape
raises, and a value that is not a text is handed on as one. Which shapes do is said here of the
bodies themselves.
-/
namespace VelaFlow.Llm

open Security

/-- What comes back from a provider. -/
inductive Delivery where
  /-- An exception of `requests`. -/
  | transportError (message : String)
  /-- A response, with its body if that is JSON. -/
  | response (statusCode : Nat) (body : Option Json)

/-- What `requests.post` gives for it. -/
def Delivery.answer : Delivery → Except PyException Response
  | transportError message => .error (requestException message)
  | response statusCode (some body) => .ok ⟨statusCode, .ok body⟩
  | response statusCode none => .ok ⟨statusCode, .error (requestException "JSONDecodeError")⟩

/-- The network of one call of `polish_digest`. -/
structure Network where
  /-- `urlparse(url).hostname`, or its `ValueError`. -/
  hostname : String → Except String (Option String)
  /-- `socket.getaddrinfo`, or its `OSError`. -/
  addresses : String → Except String (List Address)
  /-- What comes back from the requests, by their number. -/
  deliveries : Nat → Delivery
  /-- The number of requests so far. -/
  asked : Nat := 0

/-- How the network answers. -/
def Network.respond : (action : Action) → Network → Except PyException action.Answer × Network
  | .hostname url, network => ((network.hostname url).mapError .valueError, network)
  | .addresses name, network => ((network.addresses name).mapError (.other "OSError"), network)
  | .post _, network =>
    ((network.deliveries network.asked).answer, { network with asked := network.asked + 1 })

/-- The statuses for which a call gives nothing. -/
def Provider.givesNothing : Provider → List Nat
  | proxy => [429, 401]
  | gemini => [429, 503, 404]
  | groq => [429]

/-- What a call reads from a body. -/
def Provider.read : Provider → Json → Except PyException Json
  | proxy | groq => chatContent
  | gemini => candidateText

/-- What a call gives for what comes back. -/
def Provider.result (provider : Provider) : Delivery → Except PyException Json
  | .transportError _ => .ok .null
  | .response statusCode body =>
    if provider.givesNothing.contains statusCode ∨ 400 ≤ statusCode ∧ statusCode < 600 then
      .ok .null
    else
      match body with
      | none => .ok .null
      | some json =>
        match provider.read json with
        | .ok value => .ok value
        | .error exception => if isCallFailure exception then .ok .null else .error exception

section Shapes

/-- A value that a call may give: a text, or one that counts as none. -/
def isTextual : Json → Bool
  | .str _ => true
  | value => !value.truthy

/-- The first choice, when its message or the content of that is not what it should be. -/
def choiceMalformed : Json → Bool
  | .obj choice =>
    match Dict.get? choice "message" with
    | none => false
    | some (.obj message) =>
      match Dict.get? message "content" with
      | none => false
      | some content => !isTextual content
    | some _ => true
  | _ => true

/-- A body of an endpoint that follows OpenAI: not a dictionary, or its choices are neither a list
nor a dictionary nor an empty text, or the first of them is malformed. -/
def chatMalformed : Json → Bool
  | .obj body =>
    match Dict.get? body "choices" with
    | none => false
    | some (.arr []) => false
    | some (.arr (choice :: _)) => choiceMalformed choice
    | some (.obj _) => false
    | some (.str text) => decide (text ≠ "")
    | some _ => true
  | _ => true

/-- A value that counts as something: neither a dictionary nor a list with a first element that is
as it should be. -/
def firstMalformed (ofFirst : Json → Bool) (value : Json) : Bool :=
  value.truthy &&
    match value with
    | .arr (one :: _) => ofFirst one
    | .obj _ => false
    | _ => true

/-- A part: not a dictionary, or its text is none. -/
def partMalformed : Json → Bool
  | .obj part => !isTextual (Dict.getD part "text" (.str ""))
  | _ => true

/-- A candidate: it or its content is not a dictionary, or the first part is malformed. -/
def candidateMalformed : Json → Bool
  | .obj candidate =>
    match Dict.getD candidate "content" (.obj []) with
    | .obj content => firstMalformed partMalformed (Dict.getD content "parts" (.arr []))
    | _ => true
  | _ => true

/-- A body of Google AI Studio: not a dictionary, or the first candidate is malformed. -/
def geminiMalformed : Json → Bool
  | .obj body => firstMalformed candidateMalformed (Dict.getD body "candidates" (.arr []))
  | _ => true

/-- A body that its call does not expect. -/
def Provider.bodyMalformed : Provider → Json → Bool
  | proxy | groq => chatMalformed
  | gemini => geminiMalformed

/-- A response whose body is read and is not expected. -/
def Provider.Malformed (provider : Provider) : Delivery → Prop
  | .transportError _ => False
  | .response statusCode body =>
    ¬ (provider.givesNothing.contains statusCode ∨ 400 ≤ statusCode ∧ statusCode < 600) ∧
      ∃ json, body = some json ∧ provider.bodyMalformed json = true

/-- What a reading gives that the chain can go on with. -/
def passes : Except PyException Json → Bool
  | .ok value => isTextual value
  | .error exception => isCallFailure exception

/-- The first choice is malformed exactly when the reading of its content does not pass. -/
theorem choiceMalformed_eq (choice : Json) :
    choiceMalformed choice =
      !passes (item "message" choice >>= fun message => item "content" message) := by
  cases choice with
  | obj members =>
    cases found : Dict.get? members "message" with
    | none =>
      simp only [choiceMalformed, item, found]
      rfl
    | some message =>
      have looked : item "message" (.obj members) = .ok message := by
        simp only [item, found]
      rw [looked]
      show _ = !passes (item "content" message)
      cases message with
      | obj inner =>
        cases content : Dict.get? inner "content" with
        | none => simp only [choiceMalformed, item, found, content, passes, isCallFailure, Bool.not_true]
        | some value => simp only [choiceMalformed, item, found, content, passes]
      | _ =>
        simp only [choiceMalformed, item, found]
        rfl
  | _ => rfl

/-- A chat body is malformed exactly when its reading does not pass. -/
theorem chatMalformed_eq (body : Json) : chatMalformed body = !passes (chatContent body) := by
  have reads : chatContent body = (item "choices" body >>= fun choices =>
      first choices >>= fun choice =>
        item "message" choice >>= fun message => item "content" message) := rfl
  rw [reads]
  cases body with
  | obj members =>
    cases found : Dict.get? members "choices" with
    | none =>
      simp only [chatMalformed, item, found]
      rfl
    | some choices =>
      have looked : item "choices" (.obj members) = .ok choices := by
        simp only [item, found]
      rw [looked]
      show _ = !passes (first choices >>= _)
      cases choices with
      | arr items =>
        cases items with
        | nil =>
          simp only [chatMalformed, found]
          rfl
        | cons choice rest =>
          simp only [chatMalformed, found]
          exact choiceMalformed_eq choice
      | str text =>
        simp only [chatMalformed, found]
        cases characters : text.toList with
        | nil =>
          rw [String.toList_eq_nil_iff.mp characters]
          rfl
        | cons character rest =>
          have filled : text ≠ "" := fun empty => by
            rw [empty] at characters
            cases characters
          have opens : first (.str text) = .ok (.str (String.singleton character)) := by
            simp only [first, characters]
          rw [decide_eq_true filled, opens]
          rfl
      | _ =>
        simp only [chatMalformed, found]
        rfl
  | _ => rfl

/-- Where the first element of what counts as something is read, it is malformed exactly when the
reading does not pass. -/
theorem firstMalformed_eq {ofFirst : Json → Bool} {read : Json → Except PyException Json}
    (agrees : ∀ value, ofFirst value = !passes (read value)) (value : Json)
    (texts : ∀ text, passes (read (.str text)) = false) :
    firstMalformed ofFirst value =
      !passes (if value.truthy = true then first value >>= read else .ok .null) := by
  unfold firstMalformed
  cases counts : value.truthy with
  | false => rfl
  | true =>
    rw [if_pos rfl, Bool.true_and]
    cases value with
    | arr items =>
      cases items with
      | nil => cases counts
      | cons one rest => exact agrees one
    | str text =>
      cases characters : text.toList with
      | nil =>
        rw [String.toList_eq_nil_iff.mp characters] at counts
        cases counts
      | cons character rest =>
        have opens : first (.str text) = .ok (.str (String.singleton character)) := by
          simp only [first, characters]
        rw [opens]
        show true = !passes (read _)
        rw [texts]
        rfl
    | _ => rfl

/-- What `candidateText` reads from a part. -/
def partText (part : Json) : Except PyException Json := get "text" (.str "") part

/-- What `candidateText` reads from a candidate. -/
def contentText (candidate : Json) : Except PyException Json := do
  let content ← get "content" (.obj []) candidate
  let parts ← get "parts" (.arr []) content
  if parts.truthy = true then first parts >>= partText else pure .null

/-- A candidate is malformed exactly when its reading does not pass. -/
theorem candidateMalformed_eq (candidate : Json) :
    candidateMalformed candidate = !passes (contentText candidate) := by
  cases candidate with
  | obj members =>
    cases found : Dict.getD members "content" (.obj []) with
    | obj inner =>
      simp only [candidateMalformed, contentText, get, found]
      apply firstMalformed_eq
      · intro part
        cases part with
        | obj texts => rfl
        | _ => rfl
      · exact fun text => rfl
    | _ =>
      simp only [candidateMalformed, contentText, get, found]
      rfl
  | _ => rfl

/-- A body of Google AI Studio is malformed exactly when its reading does not pass. -/
theorem geminiMalformed_eq (body : Json) : geminiMalformed body = !passes (candidateText body) := by
  have reads : candidateText body = (get "candidates" (.arr []) body >>= fun candidates =>
      if candidates.truthy = true then first candidates >>= contentText else pure .null) := rfl
  rw [reads]
  cases body with
  | obj members => exact firstMalformed_eq candidateMalformed_eq _ fun text => rfl
  | _ => rfl

end Shapes

section Runs

variable {settings : Settings} {text systemPrompt : String}

/-- The network after one more request. -/
def Network.next (network : Network) : Network := { network with asked := network.asked + 1 }

/-- A call sends one request and gives what its result is. -/
theorem run_send (request : Post) (provider : Provider) (network : Network) :
    Program.run Network.respond (send request provider.givesNothing provider.read) network =
      (provider.result (network.deliveries network.asked), network.next) := by
  have answered : Program.run Network.respond (postRequest request) network =
      ((network.deliveries network.asked).answer, network.next) :=
    Program.run_act Network.respond (Action.post request) network
  unfold send
  rw [Program.run_tryCatch, Program.run_bind, answered]
  cases network.deliveries network.asked with
  | transportError message => rfl
  | response statusCode body =>
    by_cases skipped : statusCode ∈ provider.givesNothing
    · cases body with
      | none => simp [Delivery.answer, Provider.result, skipped]
      | some json => simp [Delivery.answer, Provider.result, skipped]
    · by_cases refused : 400 ≤ statusCode ∧ statusCode < 600
      · cases body with
        | none =>
          simp [Delivery.answer, Provider.result, skipped, refused, Program.run_bind,
            Response.raiseForStatus, requestException, isCallFailure]
        | some json =>
          simp [Delivery.answer, Provider.result, skipped, refused, Program.run_bind,
            Response.raiseForStatus, requestException, isCallFailure]
      · cases body with
        | none =>
          simp [Delivery.answer, Provider.result, skipped, refused, Program.run_bind,
            Response.raiseForStatus, requestException, isCallFailure]
        | some json =>
          cases body : provider.read json with
          | ok value =>
            simp [Delivery.answer, Provider.result, skipped, refused, Program.run_bind,
              Response.raiseForStatus, body]
          | error exception =>
            by_cases expected : isCallFailure exception = true
            · simp [Delivery.answer, Provider.result, skipped, refused, Program.run_bind,
                Response.raiseForStatus, body, expected]
            · simp [Delivery.answer, Provider.result, skipped, refused, Program.run_bind,
                Response.raiseForStatus, body, expected]

/-- What `_resolves_to_private_ip` returns. -/
def Network.isPrivate (network : Network) (url : String) : Bool :=
  match network.hostname url with
  | .error _ | .ok none | .ok (some "") => true
  | .ok (some name) =>
    match network.addresses name with
    | .error _ => true
    | .ok addresses => addresses.any fun address =>
      address.isPrivate || address.isLoopback || address.isLinkLocal || address.isReserved

/-- Whether the proxy is sent a request. -/
def reachesProxy (settings : Settings) (network : Network) : Bool :=
  settings.proxied && "https://".toList.isPrefixOf (strip settings.litellmProxyUrl.toList) &&
    !network.isPrivate (String.ofList (strip settings.litellmProxyUrl.toList))

/-- The providers that are asked directly. -/
def directProviders (settings : Settings) : List Provider :=
  (if settings.googleAiApiKey ≠ "" then
    (geminiModelChain settings).map (Function.const String Provider.gemini) else []) ++
  if settings.groqApiKey ≠ "" then [.groq] else []

/-- The providers that are asked as long as none gives a result. -/
def providers (settings : Settings) (network : Network) : List Provider :=
  (if reachesProxy settings network then [.proxy] else []) ++
    if settings.proxied && settings.demoMode then [] else directProviders settings

/-- The result of providers that are asked one after the other, from some request on. -/
def deliver (rawText : String) : List Provider → (Nat → Delivery) → Nat → Except PyException Json
  | [], _, _ => .ok (.str rawText)
  | provider :: rest, deliveries, asked =>
    match provider.result (deliveries asked) with
    | .error exception => .error exception
    | .ok value => if value.truthy then .ok value else deliver rawText rest deliveries (asked + 1)

/-- Looking an address up is no request, and never fails. -/
theorem run_resolvesToPrivateIp (url : String) (network : Network) :
    Program.run Network.respond (resolvesToPrivateIp url) network =
      (.ok (network.isPrivate url), network) := by
  have named : ∀ url, Program.run Network.respond (hostnameOf url) network =
      ((network.hostname url).mapError .valueError, network) :=
    fun url => Program.run_act Network.respond (Action.hostname url) network
  have found : ∀ name, Program.run Network.respond (addressesOf name) network =
      ((network.addresses name).mapError (.other "OSError"), network) :=
    fun name => Program.run_act Network.respond (Action.addresses name) network
  unfold resolvesToPrivateIp Network.isPrivate
  rw [Program.run_tryCatch, Program.run_bind, named]
  cases network.hostname url with
  | error message => simp [Except.mapError, isLookupFailure]
  | ok hostname =>
    cases hostname with
    | none => rfl
    | some name =>
      by_cases empty : name = ""
      · subst empty
        rfl
      · have looked := found name
        cases answered : network.addresses name with
        | error message =>
          rw [answered] at looked
          simp [Except.mapError, Program.run_bind, looked, isLookupFailure, answered]
        | ok addresses =>
          rw [answered] at looked
          simp [Except.mapError, Program.run_bind, looked, answered]

/-- A provider that is asked, and then the rest, when it gives no result. -/
theorem run_then {rawText : String} {call rest : Chat Json} {provider : Provider}
    {others : List Provider} {network : Network}
    (asks : Program.run Network.respond call network =
      (provider.result (network.deliveries network.asked), network.next))
    (later : (Program.run Network.respond rest network.next).1 =
      deliver rawText others network.next.deliveries network.next.asked) :
    (Program.run Network.respond
        (call >>= fun result => if result.truthy = true then pure result else rest) network).1 =
      deliver rawText (provider :: others) network.deliveries network.asked := by
  rw [Program.run_bind, asks]
  unfold deliver
  cases provider.result (network.deliveries network.asked) with
  | error exception => rfl
  | ok value =>
    by_cases result : value.truthy = true
    · simp [result]
    · simp only [result]
      exact later

/-- The direct part of `polish_digest` asks the direct providers. -/
theorem run_polishDirectly (rawText : String) (network : Network) :
    (Program.run Network.respond (polishDirectly settings text systemPrompt rawText) network).1 =
      deliver rawText (directProviders settings) network.deliveries network.asked := by
  have last : ∀ network : Network, (Program.run Network.respond (do
      let result ← tryGroq settings text systemPrompt
      if result.truthy = true then pure result else pure (.str rawText)) network).1 =
        deliver rawText (if settings.groqApiKey ≠ "" then [.groq] else []) network.deliveries
          network.asked := by
    intro network
    unfold tryGroq
    by_cases key : settings.groqApiKey ≠ ""
    · rw [if_pos key, if_pos key]
      exact run_then (run_send _ .groq network) rfl
    · rw [if_neg key, if_neg key]
      rfl
  have models : ∀ (models : List String) (network : Network),
      (Program.run Network.respond (do
        let result ← firstResult settings text systemPrompt models
        if result.truthy = true then pure result else
          let result ← tryGroq settings text systemPrompt
          if result.truthy = true then pure result else pure (.str rawText)) network).1 =
        deliver rawText (models.map (Function.const String Provider.gemini) ++
          if settings.groqApiKey ≠ "" then [.groq] else []) network.deliveries network.asked := by
    intro models
    induction models with
    | nil => exact last
    | cons model rest ih =>
      intro network
      have asks : Program.run Network.respond (callGoogleAi settings text systemPrompt model)
          network = (Provider.gemini.result (network.deliveries network.asked), network.next) :=
        run_send _ .gemini network
      have later := ih network.next
      rw [Program.run_bind] at later
      rw [List.map_cons, List.cons_append, Function.const_apply, Program.run_bind, firstResult, Program.run_bind, asks]
      unfold deliver
      cases Provider.gemini.result (network.deliveries network.asked) with
      | error exception => rfl
      | ok value =>
        by_cases result : value.truthy = true
        · simp [result]
        · simp only [result]
          exact later
  unfold polishDirectly tryGemini directProviders
  by_cases key : settings.googleAiApiKey ≠ ""
  · rw [if_pos key, if_pos key]
    exact models (geminiModelChain settings) network
  · rw [if_neg key, if_neg key]
    exact models [] network

/-- `_call_proxy` asks the proxy, or gives nothing. -/
theorem run_callProxy (network : Network) (proxied : settings.proxied = true) :
    Program.run Network.respond (callProxy settings text systemPrompt) network =
      if reachesProxy settings network = true then
        (Provider.proxy.result (network.deliveries network.asked), network.next)
      else (.ok .null, network) := by
  unfold callProxy reachesProxy
  rw [proxied, Bool.true_and]
  by_cases secure :
      "https://".toList.isPrefixOf (strip settings.litellmProxyUrl.toList) = true
  · show Program.run Network.respond (ite _ _ _) network = _
    rw [if_pos secure, secure, Bool.true_and, Program.run_bind, run_resolvesToPrivateIp]
    cases network.isPrivate (String.ofList (strip settings.litellmProxyUrl.toList)) with
    | true => rfl
    | false => exact run_send _ .proxy network
  · show Program.run Network.respond (ite _ _ _) network = _
    rw [if_neg secure, Bool.eq_false_iff.mpr secure, Bool.false_and]
    rfl

/-- `polish_digest` asks the providers one after the other. -/
theorem run_polishDigest (patterns : Patterns) (rawText : String) (network : Network) :
    (Program.run Network.respond (polishDigest settings systemPrompt patterns rawText) network).1 =
      deliver rawText (providers settings network) network.deliveries network.asked := by
  have direct : ∀ {text : String} (network : Network),
      (Program.run Network.respond (polishDirectly settings text systemPrompt rawText) network).1 =
        deliver rawText (directProviders settings) network.deliveries network.asked :=
    run_polishDirectly rawText
  unfold polishDigest providers
  by_cases proxied : settings.proxied = true
  · have rest : ∀ {text : String} (network : Network), (Program.run Network.respond
        (if settings.demoMode = true then pure (.str rawText)
          else polishDirectly settings text systemPrompt rawText) network).1 =
        deliver rawText (if settings.demoMode = true then []
          else directProviders settings) network.deliveries network.asked := by
      intro text network
      by_cases demo : settings.demoMode = true
      · rw [if_pos demo, if_pos demo]
        rfl
      · rw [if_neg demo, if_neg demo]
        exact direct network
    have asks := @run_callProxy settings (sanitizeForLlm patterns rawText) systemPrompt network proxied
    show (Program.run Network.respond (ite _ _ _) network).1 = _
    rw [if_pos proxied, proxied, Bool.true_and]
    by_cases reaches : reachesProxy settings network = true
    · rw [if_pos reaches] at asks
      rw [if_pos reaches]
      exact run_then asks (rest network.next)
    · rw [if_neg reaches] at asks
      rw [if_neg reaches, Program.run_bind, asks]
      exact rest network
  · have unreached : reachesProxy settings network = false := by
      unfold reachesProxy
      simp [proxied]
    show (Program.run Network.respond (ite _ _ _) network).1 = _
    rw [if_neg proxied, unreached, Bool.eq_false_iff.mpr proxied, Bool.false_and]
    exact direct network

end Runs

section Delivering

/-- The text that a provider yields. -/
def Provider.text? (provider : Provider) (delivery : Delivery) : Option String :=
  match provider.result delivery with
  | .ok (.str text) => if text = "" then none else some text
  | _ => none

/-- Providers with what comes back from them when each is asked in turn, from some request on. -/
def inTurn : List Provider → (Nat → Delivery) → Nat → List (Provider × Delivery)
  | [], _, _ => []
  | provider :: rest, deliveries, asked =>
    (provider, deliveries asked) :: inTurn rest deliveries (asked + 1)

/-- An outcome is a text, not an empty one for a text that is not, and the raw text when no
provider yields one. -/
def Delivers (rawText : String) (turns : List (Provider × Delivery))
    (outcome : Except PyException Json) : Prop :=
  ∃ text, outcome = .ok (.str text) ∧ (rawText ≠ "" → text ≠ "") ∧
    ((∀ turn ∈ turns, turn.1.text? turn.2 = none) → text = rawText)

/-- No response is malformed before a provider yields a text. -/
def Undisturbed (turns : List (Provider × Delivery)) : Prop :=
  ∀ before turn after, turns = before ++ turn :: after →
    (∀ earlier ∈ before, earlier.1.text? earlier.2 = none) → ¬ turn.1.Malformed turn.2

/-- A response is malformed exactly when it gives no value that is textual. -/
theorem malformed_iff (provider : Provider) (delivery : Delivery) :
    provider.Malformed delivery ↔
      ¬ ∃ value, provider.result delivery = .ok value ∧ isTextual value = true := by
  have shape : ∀ body, provider.bodyMalformed body = !passes (provider.read body) := by
    intro body
    cases provider with
    | proxy => exact chatMalformed_eq body
    | groq => exact chatMalformed_eq body
    | gemini => exact geminiMalformed_eq body
  cases delivery with
  | transportError message =>
    exact iff_of_false id fun nothing => nothing ⟨.null, rfl, rfl⟩
  | response statusCode body =>
    simp only [Provider.Malformed, Provider.result]
    by_cases unread : provider.givesNothing.contains statusCode = true ∨
        400 ≤ statusCode ∧ statusCode < 600
    · rw [if_pos unread]
      exact iff_of_false (fun both => both.1 unread) fun nothing => nothing ⟨.null, rfl, rfl⟩
    · rw [if_neg unread, and_iff_right unread]
      cases body with
      | none =>
        refine iff_of_false ?_ fun nothing => nothing ⟨.null, rfl, rfl⟩
        rintro ⟨json, none, -⟩
        cases none
      | some json =>
        have one : (∃ other, some json = some other ∧ provider.bodyMalformed other = true) ↔
            passes (provider.read json) = false := by
          simp [shape]
        rw [one]
        cases read : provider.read json with
        | ok value => simp [passes, read]
        | error exception =>
          by_cases expected : isCallFailure exception = true
          · refine iff_of_false (by simp [passes, expected]) fun nothing => nothing ⟨.null, ?_, rfl⟩
            simp [read, expected]
          · simp [passes, read, expected]

/-- A value that is textual and counts as something is a text. -/
theorem eq_str_of_isTextual {value : Json} (textual : isTextual value = true)
    (counts : value.truthy = true) : ∃ text, value = .str text ∧ text ≠ "" := by
  cases value with
  | str text => exact ⟨text, rfl, of_decide_eq_true counts⟩
  | _ =>
    simp only [isTextual, counts] at textual
    cases textual

/-- A value that is not textual counts as something. -/
theorem truthy_of_not_isTextual {value : Json} (other : ¬ isTextual value = true) :
    value.truthy = true ∧ ∀ text, value ≠ .str text := by
  cases value with
  | str text => exact absurd rfl other
  | _ => exact ⟨by simpa [isTextual] using other, fun text same => by cases same⟩

/-- Nothing is disturbed by a first turn that yields a text as it should. -/
theorem undisturbed_of_text {turn : Provider × Delivery} {rest : List (Provider × Delivery)}
    (formed : ¬ turn.1.Malformed turn.2) (yields : turn.1.text? turn.2 ≠ none) :
    Undisturbed (turn :: rest) := by
  intro before other after split silent
  cases before with
  | nil =>
    obtain ⟨rfl, -⟩ := List.cons.inj split
    exact formed
  | cons first more =>
    obtain ⟨rfl, -⟩ := List.cons.inj split
    exact absurd (silent turn List.mem_cons_self) yields

/-- A first turn that yields no text, as it may, leaves it to the rest. -/
theorem undisturbed_cons_iff {turn : Provider × Delivery} {rest : List (Provider × Delivery)}
    (formed : ¬ turn.1.Malformed turn.2) (yields : turn.1.text? turn.2 = none) :
    Undisturbed (turn :: rest) ↔ Undisturbed rest := by
  constructor
  · intro undisturbed before other after split silent
    apply undisturbed (turn :: before) other after (by rw [split, List.cons_append])
    intro earlier inside
    cases List.mem_cons.mp inside with
    | inl same => rw [same, yields]
    | inr later => exact silent earlier later
  · intro undisturbed before other after split silent
    cases before with
    | nil =>
      obtain ⟨rfl, -⟩ := List.cons.inj split
      exact formed
    | cons first more =>
      obtain ⟨-, rests⟩ := List.cons.inj split
      exact undisturbed more other after rests fun earlier inside =>
        silent earlier (List.mem_cons_of_mem _ inside)

/-- The providers deliver exactly when they are undisturbed. -/
theorem delivers_iff (rawText : String) (providers : List Provider) (deliveries : Nat → Delivery)
    (asked : Nat) :
    Delivers rawText (inTurn providers deliveries asked)
        (deliver rawText providers deliveries asked) ↔
      Undisturbed (inTurn providers deliveries asked) := by
  induction providers generalizing asked with
  | nil =>
    refine iff_of_true ⟨rawText, rfl, id, fun _ => rfl⟩ ?_
    intro before turn after split
    exact absurd split.symm (List.append_ne_nil_of_right_ne_nil _ (List.cons_ne_nil _ _))
  | cons provider rest ih =>
    rw [inTurn, deliver]
    by_cases malformed : provider.Malformed (deliveries asked)
    · refine iff_of_false ?_ fun undisturbed =>
        undisturbed [] _ _ rfl (fun _ inside => absurd inside List.not_mem_nil) malformed
      rintro ⟨text, outcome, -⟩
      have none := (malformed_iff _ _).mp malformed
      cases result : provider.result (deliveries asked) with
      | error exception =>
        rw [result] at outcome
        cases outcome
      | ok value =>
        rw [result] at outcome
        obtain ⟨counts, other⟩ := truthy_of_not_isTextual fun textual =>
          none ⟨value, result, textual⟩
        simp only [counts, if_true] at outcome
        exact other text (Except.ok.inj outcome)
    · obtain ⟨value, result, textual⟩ := not_not.mp (mt (malformed_iff _ _).mpr malformed)
      rw [result]
      by_cases counts : value.truthy = true
      · obtain ⟨text, rfl, filled⟩ := eq_str_of_isTextual textual counts
        have yields : provider.text? (deliveries asked) = some text := by
          unfold Provider.text?
          rw [result]
          exact if_neg filled
        have yielded : provider.text? (deliveries asked) ≠ none := by
          rw [yields]
          exact Option.some_ne_none text
        simp only [counts, if_true]
        refine iff_of_true ⟨text, rfl, fun _ => filled, fun silent => ?_⟩
          (undisturbed_of_text malformed yielded)
        exact absurd (silent (provider, deliveries asked) List.mem_cons_self) yielded
      · have silent : provider.text? (deliveries asked) = none := by
          unfold Provider.text?
          rw [result]
          cases value with
          | str text => exact if_pos (by simpa [Json.truthy] using counts)
          | _ => rfl
        simp only [counts, Bool.false_eq_true, if_false]
        rw [undisturbed_cons_iff malformed silent, ← ih]
        have all : (∀ turn ∈ (provider, deliveries asked) :: inTurn rest deliveries (asked + 1),
            turn.1.text? turn.2 = none) ↔
              ∀ turn ∈ inTurn rest deliveries (asked + 1), turn.1.text? turn.2 = none := by
          rw [List.forall_mem_cons]
          exact and_iff_right silent
        unfold Delivers
        rw [all]

/-- Whatever the settings and the network: `polish_digest` delivers exactly when no response of the
providers it asks is malformed before one of them yields a text. -/
theorem polishDigest_delivers_iff (settings : Settings) (patterns : Patterns)
    (rawText systemPrompt : String) (network : Network) :
    Delivers rawText (inTurn (providers settings network) network.deliveries network.asked)
        (Program.run Network.respond (polishDigest settings systemPrompt patterns rawText)
          network).1 ↔
      Undisturbed (inTurn (providers settings network) network.deliveries network.asked) := by
  rw [run_polishDigest]
  exact delivers_iff rawText _ _ _

/-- Settings with a key for Gemini and one for Groq. -/
def bothKeys : Settings := { googleAiApiKey := "gemini-key", groqApiKey := "groq-key" }

/-- A network in which the first body is a list. -/
def listFirst : Network where
  hostname _ := .ok none
  addresses _ := .ok []
  deliveries
    | 0 => .response 200 (some (.arr []))
    | _ => .transportError "timeout"

/-- A body that is a list ends the digest, though other providers are left. -/
theorem list_body_not_delivered :
    ¬ Delivers "digest" (inTurn (providers bothKeys listFirst) listFirst.deliveries listFirst.asked)
      (Program.run Network.respond (polishDigest bothKeys "prompt" noPatterns "digest")
        listFirst).1 := by
  rw [run_polishDigest, delivers_iff]
  intro undisturbed
  apply undisturbed [] (.gemini, .response 200 (some (.arr []))) _ rfl
  · exact fun _ inside => absurd inside List.not_mem_nil
  · exact ⟨by decide, .arr [], rfl, rfl⟩

end Delivering

end VelaFlow.Llm
