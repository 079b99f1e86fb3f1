import Mathlib.Data.List.DropRight
import VelaFlow.Foundation.Json
import VelaFlow.Foundation.Program
import VelaFlow.Security.Sanitization

/-!
# The fallback chain of `llm.py`

A digest or a prompt goes to the LiteLLM proxy when one is configured, then to the Gemini models one
after the other and last to Groq. The requests are actions and whatever comes back is an answer, so
a property of a program holds for every order of failures.
-/
namespace VelaFlow.Llm

open Security

/-- `Settings`, the fields `llm.py` reads. -/
structure Settings where
  /-- `groq_api_key`. -/
  groqApiKey : String := ""
  /-- `groq_model`. -/
  groqModel : String := "llama-3.3-70b-versatile"
  /-- `google_ai_api_key`. -/
  googleAiApiKey : String := ""
  /-- `google_ai_model`. -/
  googleAiModel : String := "gemini-2.5-pro"
  /-- `google_ai_fallback_model`. -/
  googleAiFallbackModel : String := "gemini-2.5-flash"
  /-- `google_ai_lite_model`. -/
  googleAiLiteModel : String := "gemini-2.5-flash-lite"
  /-- `litellm_proxy_url`. -/
  litellmProxyUrl : String := ""
  /-- `litellm_proxy_token`. -/
  litellmProxyToken : String := ""
  /-- `litellm_proxy_model`. -/
  litellmProxyModel : String := "gemini/gemini-2.5-flash"
  /-- `demo_mode`. -/
  demoMode : Bool := false

/-- Who a request is for. -/
inductive Provider where
  /-- The LiteLLM proxy. -/
  | proxy
  /-- Google AI Studio. -/
  | gemini
  /-- Groq. -/
  | groq
  deriving DecidableEq, Repr

/-- A call of `requests.post`. -/
structure Post where
  /-- Whom it is for. -/
  provider : Provider
  /-- `url`. -/
  url : String
  /-- `headers`. -/
  headers : List (String × String)
  /-- `params`. -/
  params : List (String × String)
  /-- `json`. -/
  payload : Dict
  /-- `timeout`. -/
  timeout : Nat

/-- What comes back. -/
structure Response where
  /-- `status_code`. -/
  statusCode : Nat
  /-- `json()`. -/
  json : Except PyException Json

/-- An address, as `ipaddress` sees it. -/
structure Address where
  /-- `is_private`. -/
  isPrivate : Bool
  /-- `is_loopback`. -/
  isLoopback : Bool
  /-- `is_link_local`. -/
  isLinkLocal : Bool
  /-- `is_reserved`. -/
  isReserved : Bool

/-- What `llm.py` does outside. -/
inductive Action where
  /-- `urlparse(url).hostname`. -/
  | hostname (url : String)
  /-- `socket.getaddrinfo`, with the addresses read. -/
  | addresses (hostname : String)
  /-- `requests.post`. -/
  | post (request : Post)

/-- What an action gives back. -/
def Action.Answer : Action → Type
  | hostname _ => Option String
  | addresses _ => List Address
  | post _ => Response

/-- A program of `llm.py`. -/
abbrev Chat := Program Action Action.Answer PyException

/-- `urlparse(url).hostname`. -/
def hostnameOf (url : String) : Chat (Option String) := Program.act (Action.hostname url)

/-- `socket.getaddrinfo`. -/
def addressesOf (hostname : String) : Chat (List Address) := Program.act (Action.addresses hostname)

/-- `requests.post`. -/
def postRequest (request : Post) : Chat Response := Program.act (Action.post request)

/-- A request straight to Gemini or Groq. -/
def Action.Direct : Action → Prop
  | post request => request.provider ≠ .proxy
  | _ => False

/-- An exception of `requests`. -/
def requestException (message : String) : PyException := .other "RequestException" message

/-- The exceptions that a call takes for a failure: those of `requests`, `KeyError` and
`IndexError`. -/
def isCallFailure : PyException → Bool
  | .keyError _ => true
  | .other className _ => className == "RequestException" || className == "IndexError"
  | _ => false

/-- The exceptions that a lookup takes for a private address: `gaierror`, `ValueError` and
`OSError`. -/
def isLookupFailure : PyException → Bool
  | .valueError _ => true
  | .permissionError _ => true
  | .other className _ => className == "OSError"
  | _ => false

/-- `raise_for_status()`. -/
def Response.raiseForStatus (response : Response) : Except PyException Unit :=
  if 400 ≤ response.statusCode ∧ response.statusCode < 600 then
    .error (requestException (toString response.statusCode))
  else .ok ()

/-- `value[key]`. -/
def item (key : String) : Json → Except PyException Json
  | .obj members =>
    match Dict.get? members key with
    | some value => .ok value
    | none => .error (.keyError key)
  | _ => .error (.typeError "not a dictionary")

/-- `value[0]`. -/
def first : Json → Except PyException Json
  | .arr [] => .error (.other "IndexError" "list index out of range")
  | .arr (value :: _) => .ok value
  | .str text =>
    match text.toList with
    | [] => .error (.other "IndexError" "string index out of range")
    | character :: _ => .ok (.str (String.singleton character))
  | .obj _ => .error (.keyError "0")
  | _ => .error (.typeError "not subscriptable")

/-- `value.get(key, default)`. -/
def get (key : String) (default : Json) : Json → Except PyException Json
  | .obj members => .ok (Dict.getD members key default)
  | _ => .error (.other "AttributeError" "get")

/-- `data["choices"][0]["message"]["content"]`. -/
def chatContent (data : Json) : Except PyException Json := do
  let choices ← item "choices" data
  let choice ← first choices
  let message ← item "message" choice
  item "content" message

/-- The text of the first part of the first candidate, none when there is none. -/
def candidateText (data : Json) : Except PyException Json := do
  let candidates ← get "candidates" (.arr []) data
  if candidates.truthy then
    let candidate ← first candidates
    let content ← get "content" (.obj []) candidate
    let parts ← get "parts" (.arr []) content
    if parts.truthy then
      let part ← first parts
      get "text" (.str "") part
    else pure .null
  else pure .null

/-- `_resolves_to_private_ip`. -/
def resolvesToPrivateIp (url : String) : Chat Bool :=
  (do
    let hostname ← hostnameOf url
    match hostname with
    | none | some "" => pure true
    | some name =>
      let addresses ← addressesOf name
      pure (addresses.any fun address =>
        address.isPrivate || address.isLoopback || address.isLinkLocal || address.isReserved)
    : Chat Bool).tryCatch fun exception =>
      if isLookupFailure exception then pure true else .raise exception

/-- The part of a call under `try`: the request, the statuses that give nothing, and what is read
from the data. -/
def send (request : Post) (givesNothing : List Nat) (read : Json → Except PyException Json) :
    Chat Json :=
  (do
    let response ← postRequest request
    if givesNothing.contains response.statusCode then pure .null
    else
      Program.lift response.raiseForStatus
      let data ← Program.lift response.json
      Program.lift (read data)
    : Chat Json).tryCatch fun exception =>
      if isCallFailure exception then pure .null else .raise exception

/-- The payload of the endpoints that follow OpenAI. -/
def chatPayload (model text systemPrompt : String) : Dict :=
  [("model", .str model),
    ("messages", .arr [.obj [("role", .str "system"), ("content", .str systemPrompt)],
      .obj [("role", .str "user"), ("content", .str text)]]),
    ("temperature", .float (2 / 5)), ("max_tokens", .int 2500)]

/-- `GROQ_URL`. -/
def groqUrl : String := "https://api.groq.com/openai/v1/chat/completions"

/-- `GOOGLE_AI_URL`, for a model. -/
def googleAiUrl (model : String) : String :=
  "https://generativelanguage.googleapis.com/v1beta/models/" ++ model ++ ":generateContent"

section Calls

variable (settings : Settings) (text systemPrompt : String)

/-- `_call_proxy`. -/
def callProxy : Chat Json := do
  let proxyUrl := strip settings.litellmProxyUrl.toList
  if "https://".toList.isPrefixOf proxyUrl then
    if ← resolvesToPrivateIp (String.ofList proxyUrl) then pure .null
    else
      send {
        provider := .proxy
        url := String.ofList (proxyUrl.rdropWhile (· = '/') ++ "/v1/chat/completions".toList)
        headers := [("Authorization", "Bearer " ++ settings.litellmProxyToken),
          ("Content-Type", "application/json")]
        params := []
        payload := chatPayload settings.litellmProxyModel text systemPrompt
        timeout := 90 } [429, 401] chatContent
  else pure .null

/-- `_call_groq`. -/
def callGroq : Chat Json :=
  send {
    provider := .groq
    url := groqUrl
    headers := [("Authorization", "Bearer " ++ settings.groqApiKey),
      ("Content-Type", "application/json")]
    params := []
    payload := chatPayload settings.groqModel text systemPrompt
    timeout := 60 } [429] chatContent

/-- `_call_google_ai`. -/
def callGoogleAi (model : String) : Chat Json :=
  send {
    provider := .gemini
    url := googleAiUrl model
    headers := []
    params := [("key", settings.googleAiApiKey)]
    payload := [("system_instruction", .obj [("parts", .arr [.obj [("text", .str systemPrompt)]])]),
      ("contents", .arr [.obj [("role", .str "user"),
        ("parts", .arr [.obj [("text", .str text)]])]]),
      ("generationConfig", .obj [("temperature", .float (2 / 5)), ("maxOutputTokens", .int 2500)])]
    timeout := 90 } [429, 503, 404] candidateText

/-- `_gemini_model_chain`. -/
def geminiModelChain : List String :=
  [settings.googleAiModel, settings.googleAiFallbackModel, settings.googleAiLiteModel].filter
    fun model => decide (model ≠ "")

/-- The loop over the models: the first result there is. -/
def firstResult : List String → Chat Json
  | [] => pure .null
  | model :: rest => do
    let result ← callGoogleAi settings text systemPrompt model
    if result.truthy then pure result else firstResult rest

/-- The Gemini part of both functions: nothing without a key. -/
def tryGemini (models : List String) : Chat Json :=
  if settings.googleAiApiKey ≠ "" then firstResult settings text systemPrompt models
  else pure .null

/-- The Groq part of both functions: nothing without a key. -/
def tryGroq : Chat Json :=
  if settings.groqApiKey ≠ "" then callGroq settings text systemPrompt else pure .null

/-- Whether a proxy is configured. -/
def Settings.proxied (settings : Settings) : Bool :=
  decide (settings.litellmProxyUrl ≠ "") && decide (settings.litellmProxyToken ≠ "")

/-- The direct part of `polish_digest`. -/
def polishDirectly (rawText : String) : Chat Json := do
  let result ← tryGemini settings text systemPrompt (geminiModelChain settings)
  if result.truthy then pure result
  else
    let result ← tryGroq settings text systemPrompt
    if result.truthy then pure result else pure (.str rawText)

/-- `polish_digest`. -/
def polishDigest (patterns : Patterns) (rawText : String) : Chat Json := do
  let sanitizedText := sanitizeForLlm patterns rawText
  if settings.proxied then
    let result ← callProxy settings sanitizedText systemPrompt
    if result.truthy then pure result
    else if settings.demoMode then pure (.str rawText)
    else polishDirectly settings sanitizedText systemPrompt rawText
  else polishDirectly settings sanitizedText systemPrompt rawText

/-- The models `call_llm` tries: the best one is passed over unless quality is preferred or there is
no other. -/
def chosenModels (preferQuality : Bool) : List String :=
  let models := geminiModelChain settings
  if preferQuality = false ∧ 1 < models.length then models.drop 1 else models

/-- The direct part of `call_llm`. -/
def callDirectly (preferQuality : Bool) : Chat Json := do
  let result ← tryGemini settings text systemPrompt (chosenModels settings preferQuality)
  if result.truthy then pure result else tryGroq settings text systemPrompt

/-- `call_llm`. -/
def callLlm (patterns : Patterns) (preferQuality : Bool) : Chat Json := do
  let userText := sanitizeForLlm patterns text
  if settings.proxied then
    let result ← callProxy settings userText systemPrompt
    if result.truthy then pure result
    else if settings.demoMode then pure .null
    else callDirectly settings userText systemPrompt preferQuality
  else callDirectly settings userText systemPrompt preferQuality

end Calls

end VelaFlow.Llm
