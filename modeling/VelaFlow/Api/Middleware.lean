import VelaFlow.Api.AccessTokens
import VelaFlow.Api.Auth

/-!
# The middleware of the API

A request passes five layers on its way to the routes: `HTTPSOnlyMiddleware`,
`TenantContextMiddleware`, the CORS layer of the framework, `SecurityHeadersMiddleware` and
`ActionLedgerMiddleware`, in this order, and its answer passes them on its way back. A run mixes
tokens that are issued with requests, and keeps which requests came to the routes. Only the routes
and the CORS layer are parameters.
-/
namespace VelaFlow.Api

open Security

/-- A request as the layers read it. -/
structure HttpRequest where
  /-- `request.method`. -/
  method : String
  /-- `request.url.path`. -/
  path : String
  /-- `request.url.scheme`. -/
  scheme : String
  /-- `str(request.url.replace(scheme="https"))`. -/
  httpsUrl : String
  /-- `request.client.host`. -/
  clientHost : Option String
  /-- `X-Forwarded-Proto`. -/
  forwardedProto : Option String
  /-- `Authorization`. -/
  authorization : Option String
  /-- `request.state`, as `TenantContextMiddleware` fills it. -/
  state : Option VerifiedClaims := none

/-- An answer. -/
structure HttpResponse where
  /-- `status_code`. -/
  statusCode : Nat
  /-- `headers`, with their names in lower case. -/
  headers : List (String × String)
  /-- `content`. -/
  content : Json

/-- `response.headers[name] = value`. -/
def setHeader (name value : String) : List (String × String) → List (String × String)
  | [] => [(name, value)]
  | (other, old) :: rest =>
    if other = name then (name, value) :: rest.filter fun header => header.1 ≠ name
    else (other, old) :: setHeader name value rest

/-- `CORSMiddleware`, as it is documented. -/
structure Cors where
  /-- The answer to a preflight request. -/
  preflight : HttpRequest → Option HttpResponse
  /-- What is added to the answer to any other request. -/
  decorate : HttpRequest → HttpResponse → HttpResponse
  /-- A preflight request is an `OPTIONS` request. -/
  options_of_preflight : ∀ request, (preflight request).isSome = true → request.method = "OPTIONS"
  /-- Headers are added to an answer, nothing else is changed. -/
  decorate_adds : ∀ request response, ∃ added,
    decorate request response = { response with headers := response.headers ++ added }

/-- An entry of `log_api_request`. -/
structure LoggedRequest where
  /-- `method`. -/
  method : String
  /-- `path`. -/
  path : String
  /-- `status_code`. -/
  statusCode : Nat
  /-- `tenant_id`. -/
  tenantId : Json
  /-- `user_id`. -/
  userId : Json

/-- What the layers keep: the counters of `metrics.py` that they move and what they log, with what
the routes keep. -/
structure ServerState (Routes : Type) where
  /-- `http_requests_total`. -/
  requestsTotal : Nat
  /-- `http_requests_error_total`. -/
  errorsTotal : Nat
  /-- The entries of the action ledger for requests. -/
  ledger : List LoggedRequest
  /-- What the routes keep. -/
  routes : Routes

/-- `call_next`: an answer or an exception. -/
abbrev Handler (State : Type) := HttpRequest → State → Except PyException HttpResponse × State

/-- `_PUBLIC_PATHS`. -/
def publicPaths : List String :=
  ["/health", "/health/ready", "/health/live", "/metrics", "/status", "/api/v1/auth/google",
    "/api/v1/tenants", "/api/v1/tenants/login", "/api/v1/webhooks/stripe"]

/-- `_DOCS_PATHS`. -/
def docsPaths : List String := ["/docs", "/redoc", "/openapi.json"]

/-- `_LOOPBACK_HEALTH_PATHS`. -/
def loopbackHealthPaths : List String := ["/health", "/health/live", "/health/ready"]

/-- The paths that are not logged. -/
def unloggedPaths : List String :=
  ["/health", "/health/live", "/health/ready", "/metrics", "/status"]

/-- `path.rstrip("/") or "/"`. -/
def normalizePath (path : String) : String :=
  let stripped := String.ofList (path.toList.rdropWhile fun character => character == '/')
  if stripped ≠ "" then stripped else "/"

/-- A refusal of `TenantContextMiddleware`. -/
def unauthorized (detail : String) : HttpResponse where
  statusCode := 401
  headers := []
  content := .obj [("detail", .str detail)]

/-- The redirection of `HTTPSOnlyMiddleware`. -/
def redirectToHttps (request : HttpRequest) : HttpResponse where
  statusCode := 308
  headers := [("location", request.httpsUrl)]
  content := .null

/-- The answer of the framework when an exception comes through. -/
def internalServerError : HttpResponse where
  statusCode := 500
  headers := []
  content := .str "Internal Server Error"

/-- The headers of `SecurityHeadersMiddleware`. -/
def securityHeaders : List (String × String) :=
  [("strict-transport-security", "max-age=63072000; includeSubDomains; preload"),
   ("x-content-type-options", "nosniff"), ("x-frame-options", "DENY"),
   ("referrer-policy", "strict-origin-when-cross-origin"),
   ("permissions-policy", "camera=(), microphone=(), geolocation=(), payment=()"),
   ("content-security-policy", "default-src 'none'; frame-ancestors 'none'"),
   ("x-xss-protection", "1; mode=block"), ("cache-control", "no-store")]

/-- What the layers are configured with. -/
structure Middleware where
  /-- `str.lower`. -/
  lower : String → String
  /-- `_IS_PRODUCTION`. -/
  production : Bool
  /-- The tokens. -/
  auth : TokenAuth
  /-- The CORS layer. -/
  cors : Cors

namespace Middleware

variable {State Routes : Type} (middleware : Middleware)

/-- Whether `HTTPSOnlyMiddleware` lets a request through. -/
def isSecure (request : HttpRequest) : Bool :=
  let forwardedProto := middleware.lower (request.forwardedProto.getD "")
  let scheme := if forwardedProto ≠ "" then forwardedProto else request.scheme
  let clientHost := request.clientHost.getD ""
  let isLoopback := ["127.0.0.1", "::1", "localhost"].contains clientHost
  scheme == "https" ||
    (isLoopback && forwardedProto == "" && loopbackHealthPaths.contains request.path)

/-- `HTTPSOnlyMiddleware`. -/
def httpsOnly (callNext : Handler State) : Handler State := fun request state =>
  if middleware.isSecure request then callNext request state
  else (.ok (redirectToHttps request), state)

/-- Whether `TenantContextMiddleware` asks for no token. -/
def isOpen (request : HttpRequest) : Bool :=
  request.method == "OPTIONS" || publicPaths.contains (normalizePath request.path) ||
    (!middleware.production && docsPaths.contains (normalizePath request.path))

/-- `TenantContextMiddleware`, at a time. -/
def tenantContext (now : ℚ) (callNext : Handler State) : Handler State := fun request state =>
  if middleware.isOpen request then callNext request state
  else
    let authHeader := (request.authorization.getD "").toList
    if "Bearer ".toList.isPrefixOf authHeader then
      match middleware.auth.verifyToken (String.ofList (authHeader.drop 7)) now with
      | .error exception => (.error exception, state)
      | .ok none => (.ok (unauthorized "Invalid or expired token"), state)
      | .ok (some claims) => callNext { request with state := some claims } state
    else (.ok (unauthorized "Missing or invalid Authorization header"), state)

/-- `CORSMiddleware`. -/
def corsLayer (callNext : Handler State) : Handler State := fun request state =>
  match middleware.cors.preflight request with
  | some response => (.ok response, state)
  | none =>
    let (result, state) := callNext request state
    (result.map (middleware.cors.decorate request), state)

end Middleware

/-- An answer with the headers of `SecurityHeadersMiddleware`. -/
def secured (response : HttpResponse) : HttpResponse :=
  { response with
    headers := securityHeaders.foldl (fun headers header => setHeader header.1 header.2 headers)
      response.headers }

section Headers

end Headers

section Layers

variable {State Routes : Type}

/-- `SecurityHeadersMiddleware`. -/
def securityHeadersLayer (callNext : Handler State) : Handler State := fun request state =>
  let (result, state) := callNext request state
  (result.map secured, state)

/-- The entry for a request. -/
def loggedRequest (request : HttpRequest) (response : HttpResponse) : LoggedRequest where
  method := request.method
  path := normalizePath request.path
  statusCode := response.statusCode
  tenantId := (request.state.map VerifiedClaims.tenantId).getD (.str "")
  userId := (request.state.map VerifiedClaims.userId).getD (.str "")

/-- What `ActionLedgerMiddleware` keeps of an answer. A log that fails is passed over. -/
def noteAnswer (ledgerWorks : Bool) (request : HttpRequest) (response : HttpResponse)
    (state : ServerState Routes) : ServerState Routes :=
  { state with
    requestsTotal := state.requestsTotal + 1
    errorsTotal := if 400 ≤ response.statusCode then state.errorsTotal + 1 else state.errorsTotal
    ledger :=
      if !unloggedPaths.contains (normalizePath request.path) && ledgerWorks then
        state.ledger ++ [loggedRequest request response]
      else state.ledger }

/-- `ActionLedgerMiddleware`. -/
def actionLedgerLayer (ledgerWorks : Bool) (router : Handler Routes) :
    Handler (ServerState Routes) := fun request state =>
  match router request state.routes with
  | (.error exception, routes) => (.error exception, { state with routes })
  | (.ok response, routes) => (.ok response, noteAnswer ledgerWorks request response
      { state with routes })

end Layers

/-- The claims of a request's context, as the dependencies of the routes read them; `none` when a
claim is no text. -/
def contextClaims (request : HttpRequest) : Option TokenClaims :=
  match request.state with
  | none => some { tenantId := "", role := "free", email := "" }
  | some { tenantId := .str tenantId, role := .str role, email := .str email,
           userId := .str userId, userRole := .str userRole, .. } =>
    some { tenantId, role, email, userId, userRole }
  | some _ => none

/-- `RequirePermission` and `get_current_tenant_id`, which stand before a protected route. -/
def authorize (policy : RBACPolicy) (permission : Permission) (request : HttpRequest) :
    Reply String :=
  match contextClaims request with
  | none => .error ⟨500, "Internal Server Error"⟩
  | some claims => do
    requirePermission policy claims permission
    getCurrentTenantId claims

/-- A request that came to the routes, and what they made of it. -/
structure RouteCall where
  /-- The request, with its context. -/
  request : HttpRequest
  /-- The time. -/
  now : ℚ
  /-- Whether the ledger could be written. -/
  ledgerWorks : Bool
  /-- The answer or the exception. -/
  result : Except PyException HttpResponse

namespace RouteCall

variable (call : RouteCall)

/-- Whether the routes gave an answer. -/
def answered : Bool :=
  match call.result with
  | .ok _ => true
  | .error _ => false

/-- Whether the answer was of an error. -/
def failed : Bool :=
  match call.result with
  | .ok response => decide (400 ≤ response.statusCode)
  | .error _ => false

/-- The entry of the ledger. -/
def entry : Option LoggedRequest :=
  match call.result with
  | .ok response =>
    if !unloggedPaths.contains (normalizePath call.request.path) && call.ledgerWorks then
      some (loggedRequest call.request response)
    else none
  | .error _ => none

end RouteCall

/-- Routes with what came to them. -/
def traced {Routes : Type} (router : Handler Routes) (now : ℚ) (ledgerWorks : Bool) :
    Handler (Routes × List RouteCall) := fun request state =>
  let (result, routes) := router request state.1
  (result, routes, state.2 ++ [{ request, now, ledgerWorks, result }])

/-- What happens to a server. -/
inductive ServerEvent where
  /-- A token is issued. -/
  | issue (call : TokenIssue)
  /-- A request arrives, at a time, while the ledger can be written or not. -/
  | request (request : HttpRequest) (now : ℚ) (ledgerWorks : Bool)

/-- A server with the tokens that were issued. -/
structure Server (Routes : Type) where
  /-- The tokens. -/
  issued : List TokenIssue
  /-- What the layers keep. -/
  state : ServerState (Routes × List RouteCall)

/-- The requests that came to the routes. -/
def Server.calls {Routes : Type} (server : Server Routes) : List RouteCall :=
  server.state.routes.2

namespace Middleware

variable {Routes : Type} (middleware : Middleware)

/-- The way of a request through all layers, at a time, with a ledger that works or not. -/
def serve {State : Type} (router : Handler State) (now : ℚ) (ledgerWorks : Bool)
    (request : HttpRequest) (state : ServerState State) : HttpResponse × ServerState State :=
  match middleware.httpsOnly (middleware.tenantContext now (middleware.corsLayer
      (securityHeadersLayer (actionLedgerLayer ledgerWorks router))))
      { request with state := none } state with
  | (.ok response, state) => (response, state)
  | (.error _, state) => (internalServerError, state)

/-- One event. -/
def step (router : Handler Routes) (server : Server Routes) : ServerEvent → Server Routes
  | .issue call =>
    match middleware.auth.createAccessToken call with
    | .ok _ => { server with issued := server.issued ++ [call] }
    | .error _ => server
  | .request request now ledgerWorks =>
    { server with state :=
        (middleware.serve (traced router now ledgerWorks) now ledgerWorks request server.state).2 }

/-- A server that has just started. -/
def start (routes : Routes) : Server Routes where
  issued := []
  state := { requestsTotal := 0, errorsTotal := 0, ledger := [], routes := (routes, []) }

/-- A run. -/
def run (router : Handler Routes) (server : Server Routes) (events : List ServerEvent) :
    Server Routes :=
  events.foldl (middleware.step router) server

/-- The token of a request. -/
def bearer (request : HttpRequest) : String :=
  String.ofList ((request.authorization.getD "").toList.drop 7)

/-- The token of a request is what stands behind the scheme. -/
theorem bearer_of_authorization {request : HttpRequest} {token : String}
    (given : request.authorization = some ("Bearer " ++ token)) : bearer request = token := by
  have scheme : ("Bearer ".toList ++ token.toList).drop 7 = token.toList :=
    List.drop_left' (by decide)
  rw [bearer, given, Option.getD_some, String.toList_append, scheme, String.ofList_toList]

/-- No request of a run brings the code of a message that was not signed before. -/
def Ideal (router : Handler Routes) : Server Routes → List ServerEvent → Prop
  | _, [] => True
  | server, .issue call :: rest => Ideal router (middleware.step router server (.issue call)) rest
  | server, .request request now ledgerWorks :: rest =>
    middleware.auth.Unforged server.issued (bearer request) ∧
      Ideal router (middleware.step router server (.request request now ledgerWorks)) rest

/-- How a request comes to the routes: as it is where no token is asked for, and with the claims of
a token that is verified elsewhere. -/
def Admits (now : ℚ) (request admitted : HttpRequest) : Prop :=
  middleware.isSecure request = true ∧
    (middleware.isOpen request = true ∧ admitted = { request with state := none } ∨
      middleware.isOpen request = false ∧ ∃ claims,
        middleware.auth.verifyToken (bearer request) now = .ok (some claims) ∧
        admitted = { request with state := some claims })

/-- What the layers make of a request that the routes get. -/
def passOn {State : Type} (router : Handler State) (ledgerWorks : Bool) (admitted : HttpRequest)
    (state : ServerState State) : HttpResponse × ServerState State :=
  match router admitted state.routes with
  | (.error _, routes) => (internalServerError, { state with routes })
  | (.ok response, routes) =>
    (middleware.cors.decorate admitted (secured response),
      noteAnswer ledgerWorks admitted response { state with routes })

/-- The answers of the layers themselves. -/
def Refusal (request : HttpRequest) (response : HttpResponse) : Prop :=
  response = redirectToHttps { request with state := none } ∨
    response = unauthorized "Invalid or expired token" ∨
    response = unauthorized "Missing or invalid Authorization header" ∨
    response = internalServerError

section Step

variable {State : Type} (router : Handler State) (now : ℚ) (ledgerWorks : Bool)
  (request : HttpRequest) (state : ServerState State)

/-- The end of the way: an answer, or that of the framework to an exception. -/
def finish : Except PyException HttpResponse × ServerState State → HttpResponse × ServerState State
  | (.ok response, state) => (response, state)
  | (.error _, state) => (internalServerError, state)

/-- What is behind the token check: the answer to a preflight, or the routes. -/
theorem corsLayer_cases (admitted : HttpRequest) :
    (∃ response, middleware.cors.preflight admitted = some response ∧
      finish (middleware.corsLayer (securityHeadersLayer (actionLedgerLayer ledgerWorks router))
        admitted state) = (response, state)) ∨
    middleware.cors.preflight admitted = none ∧
      finish (middleware.corsLayer (securityHeadersLayer (actionLedgerLayer ledgerWorks router))
        admitted state) = middleware.passOn router ledgerWorks admitted state := by
  unfold corsLayer securityHeadersLayer actionLedgerLayer passOn
  cases middleware.cors.preflight admitted with
  | some response => exact .inl ⟨response, rfl, rfl⟩
  | none =>
    refine .inr ⟨rfl, ?_⟩
    dsimp only
    cases router admitted state.routes with
    | mk result routes =>
      cases result with
      | error exception => rfl
      | ok response => rfl

/-- What a request comes to: a refusal that leaves everything as it was, the answer to a preflight,
or what the routes make of it. -/
theorem serve_cases :
    (∃ response, Refusal request response ∧
      middleware.serve router now ledgerWorks request state = (response, state)) ∨
    ∃ admitted, middleware.Admits now request admitted ∧
      ((∃ response, middleware.cors.preflight admitted = some response ∧
          middleware.serve router now ledgerWorks request state = (response, state)) ∨
        middleware.cors.preflight admitted = none ∧
          middleware.serve router now ledgerWorks request state =
            middleware.passOn router ledgerWorks admitted state) := by
  have served : middleware.serve router now ledgerWorks request state =
      finish (middleware.httpsOnly (middleware.tenantContext now (middleware.corsLayer
        (securityHeadersLayer (actionLedgerLayer ledgerWorks router))))
        { request with state := none } state) := rfl
  rw [served, httpsOnly]
  by_cases secure : middleware.isSecure request = true
  · have same : middleware.isSecure { request with state := none } = true := secure
    rw [if_pos same, tenantContext]
    by_cases free : middleware.isOpen request = true
    · have same : middleware.isOpen { request with state := none } = true := free
      rw [if_pos same]
      exact .inr ⟨_, ⟨secure, .inl ⟨free, rfl⟩⟩, corsLayer_cases ..⟩
    · have same : ¬middleware.isOpen { request with state := none } = true := free
      rw [if_neg same]
      dsimp only
      by_cases given : "Bearer ".toList.isPrefixOf (request.authorization.getD "").toList = true
      · have text : String.ofList ((request.authorization.getD "").toList.drop 7) =
            bearer request := rfl
        rw [if_pos given, text]
        cases verified : middleware.auth.verifyToken (bearer request) now with
        | error exception => exact .inl ⟨_, .inr (.inr (.inr rfl)), rfl⟩
        | ok claims =>
          cases claims with
          | none => exact .inl ⟨_, .inr (.inl rfl), rfl⟩
          | some claims =>
            have closed : middleware.isOpen request = false := Bool.eq_false_of_not_eq_true free
            exact .inr ⟨_, ⟨secure, .inr ⟨closed, claims, verified, rfl⟩⟩, corsLayer_cases ..⟩
      · rw [if_neg given]
        exact .inl ⟨_, .inr (.inr (.inl rfl)), rfl⟩
  · have same : ¬middleware.isSecure { request with state := none } = true := secure
    rw [if_neg same]
    exact .inl ⟨_, .inl rfl, rfl⟩

/-- What an answer of the routes adds to the counters and to the ledger. -/
theorem note_answer (now : ℚ) (ledgerWorks : Bool) (request : HttpRequest)
    (response : HttpResponse) (state : ServerState State) :
    let call : RouteCall := ⟨request, now, ledgerWorks, .ok response⟩
    let noted := noteAnswer ledgerWorks request response state
    noted.errorsTotal = state.errorsTotal + (if call.failed then 1 else 0) ∧
      noted.ledger = state.ledger ++ call.entry.toList := by
  constructor
  · unfold noteAnswer RouteCall.failed
    by_cases error : 400 ≤ response.statusCode <;> simp [error]
  · unfold noteAnswer RouteCall.entry
    by_cases logged : (!unloggedPaths.contains (normalizePath request.path) && ledgerWorks) = true
    · simp only [if_pos logged, Option.toList_some]
    · simp only [if_neg logged, Option.toList_none, List.append_nil]

/-- What a call that came to the routes adds to what the layers keep. -/
theorem passOn_traced (router : Handler Routes) (now : ℚ) (ledgerWorks : Bool)
    (admitted : HttpRequest) (state : ServerState (Routes × List RouteCall)) :
    ∃ call, call.request = admitted ∧ call.now = now ∧
      let passed := middleware.passOn (traced router now ledgerWorks) ledgerWorks admitted state
      passed.2.routes.2 = state.routes.2 ++ [call] ∧
      passed.2.requestsTotal = state.requestsTotal + (if call.answered then 1 else 0) ∧
      passed.2.errorsTotal = state.errorsTotal + (if call.failed then 1 else 0) ∧
      passed.2.ledger = state.ledger ++ call.entry.toList ∧
      (call.answered = true → ∃ response, passed.1 =
        middleware.cors.decorate admitted (secured response)) ∧
      (call.answered = false → passed.1 = internalServerError) := by
  unfold passOn traced
  cases router admitted state.routes.1 with
  | mk result routes =>
    refine ⟨⟨admitted, now, ledgerWorks, result⟩, rfl, rfl, ?_⟩
    cases result with
    | error exception => simp [RouteCall.answered, RouteCall.failed, RouteCall.entry]
    | ok response =>
      have ⟨failed, logged⟩ := note_answer now ledgerWorks admitted response
        { state with routes := (routes, state.routes.2 ++
          [⟨admitted, now, ledgerWorks, .ok response⟩]) }
      exact ⟨rfl, rfl, failed, logged, fun _ => ⟨response, rfl⟩, fun absurd => by cases absurd⟩

end Step

section Runs

variable (router : Handler Routes)

/-- What a request does to a server. -/
theorem request_cases (server : Server Routes) (request : HttpRequest) (now : ℚ)
    (ledgerWorks : Bool) :
    let served := middleware.serve (traced router now ledgerWorks) now ledgerWorks request
      server.state
    (∃ call, middleware.Admits now request call.request ∧ call.now = now ∧
      served.2.routes.2 = server.calls ++ [call] ∧
      served.2.requestsTotal = server.state.requestsTotal + (if call.answered then 1 else 0) ∧
      served.2.errorsTotal = server.state.errorsTotal + (if call.failed then 1 else 0) ∧
      served.2.ledger = server.state.ledger ++ call.entry.toList ∧
      (call.answered = true → ∃ response, served.1 =
        middleware.cors.decorate call.request (secured response)) ∧
      (call.answered = false → served.1 = internalServerError)) ∨
    served.2 = server.state ∧ (Refusal request served.1 ∨ ∃ admitted,
      middleware.Admits now request admitted ∧
        middleware.cors.preflight admitted = some served.1) := by
  intro served
  cases middleware.serve_cases (traced router now ledgerWorks) now ledgerWorks request
      server.state with
  | inl refused =>
    have ⟨response, refusal, done⟩ := refused
    have is : served = (response, server.state) := done
    rw [is]
    exact .inr ⟨rfl, .inl refusal⟩
  | inr admitted =>
    have ⟨admitted, admits, either⟩ := admitted
    cases either with
    | inl preflight =>
      have ⟨response, answered, done⟩ := preflight
      have is : served = (response, server.state) := done
      rw [is]
      exact .inr ⟨rfl, .inr ⟨admitted, admits, answered⟩⟩
    | inr passed =>
      have is : served = middleware.passOn (traced router now ledgerWorks) ledgerWorks admitted
        server.state := passed.2
      have ⟨call, same, time, rest⟩ := middleware.passOn_traced router now ledgerWorks admitted
        server.state
      rw [is]
      refine .inl ⟨call, same ▸ admits, time, ?_⟩
      rw [same]
      exact rest

/-- What is kept of the calls that came to the routes. -/
def Recorded (state : ServerState (Routes × List RouteCall)) : Prop :=
  state.requestsTotal = state.routes.2.countP RouteCall.answered ∧
  state.errorsTotal = state.routes.2.countP RouteCall.failed ∧
  state.ledger = state.routes.2.filterMap RouteCall.entry

/-- Issuing a token changes nothing that the layers keep. -/
theorem state_issue (server : Server Routes) (call : TokenIssue) :
    (middleware.step router server (.issue call)).state = server.state := by
  rw [step]
  cases middleware.auth.createAccessToken call with
  | ok token => rfl
  | error exception => rfl

/-- One event keeps the record. -/
theorem recorded_step {server : Server Routes} (recorded : Recorded server.state)
    (event : ServerEvent) : Recorded (middleware.step router server event).state := by
  cases event with
  | issue call =>
    rw [state_issue]
    exact recorded
  | request request now ledgerWorks =>
    have ⟨requests, errors, ledger⟩ := recorded
    rw [step]
    cases middleware.request_cases router server request now ledgerWorks with
    | inl passed =>
      have ⟨call, _, _, calls, counted, failed, logged, _⟩ := passed
      refine ⟨?_, ?_, ?_⟩
      · rw [counted, requests, calls, List.countP_append, List.countP_singleton]
        rfl
      · rw [failed, errors, calls, List.countP_append, List.countP_singleton]
        rfl
      · rw [logged, ledger, calls, List.filterMap_append]
        cases made : call.entry <;> simp [made, Server.calls]
    | inr refused =>
      rw [refused.1]
      exact recorded

/-- A call is made over a connection that is let through, and on an open path or with the claims of
an issued token that has not expired. -/
def Authorised (issued : List TokenIssue) (call : RouteCall) : Prop :=
  middleware.isSecure call.request = true ∧
    (middleware.isOpen call.request = true ∧ call.request.state = none ∨
      ∃ issue ∈ issued, call.request.state = some issue.claims ∧ call.now ≤ issue.exp)

/-- A call stays authorised when more tokens are issued. -/
theorem Authorised.mono {fewer more : List TokenIssue} {call : RouteCall}
    (authorised : middleware.Authorised fewer call) (within : ∀ issue ∈ fewer, issue ∈ more) :
    middleware.Authorised more call :=
  ⟨authorised.1, authorised.2.imp_right fun ⟨issue, inside, rest⟩ =>
    ⟨issue, within issue inside, rest⟩⟩

/-- A request that is admitted makes an authorised call. -/
theorem authorised_of_admits {issued : List TokenIssue} {request : HttpRequest} {call : RouteCall}
    (unforged : middleware.auth.Unforged issued (bearer request))
    (admits : middleware.Admits call.now request call.request) :
    middleware.Authorised issued call := by
  have ⟨secure, either⟩ := admits
  cases either with
  | inl free =>
    refine ⟨?_, .inl ⟨?_, ?_⟩⟩
    · rw [free.2]
      exact secure
    · rw [free.2]
      exact free.1
    · rw [free.2]
  | inr checked =>
    have ⟨_, claims, verified, same⟩ := checked
    have ⟨issue, inside, is, before⟩ := issued_of_verifyToken unforged verified
    refine ⟨?_, .inr ⟨issue, inside, ?_, before⟩⟩
    · rw [same]
      exact secure
    · rw [same, is]

/-- The tokens of a server after one more event. -/
theorem issued_step (server : Server Routes) (event : ServerEvent) :
    ∀ issue ∈ server.issued, issue ∈ (middleware.step router server event).issued := by
  intro issue inside
  cases event with
  | issue call =>
    rw [step]
    cases middleware.auth.createAccessToken call with
    | ok token => exact List.mem_append_left _ inside
    | error exception => exact inside
  | request request now ledgerWorks => exact inside

/-- Every call of a run is authorised, when no request forges the code of a token. -/
theorem authorised_run (server : Server Routes) (events : List ServerEvent)
    (ideal : middleware.Ideal router server events)
    (authorised : ∀ call ∈ server.calls, middleware.Authorised server.issued call) :
    ∀ call ∈ (middleware.run router server events).calls,
      middleware.Authorised (middleware.run router server events).issued call := by
  induction events generalizing server with
  | nil => exact authorised
  | cons event rest ih =>
    have more := middleware.issued_step router server event
    cases event with
    | issue call =>
      refine ih _ ideal ?_
      intro call inside
      rw [Server.calls, state_issue] at inside
      exact (authorised call inside).mono middleware more
    | request request now ledgerWorks =>
      have ⟨unforged, later⟩ := ideal
      refine ih _ later ?_
      intro call inside
      rw [Server.calls, step] at inside
      cases middleware.request_cases router server request now ledgerWorks with
      | inl passed =>
        have ⟨made, admits, time, calls, _⟩ := passed
        rw [calls] at inside
        cases List.mem_append.mp inside with
        | inl old => exact authorised call old
        | inr new =>
          rw [List.mem_singleton.mp new]
          exact middleware.authorised_of_admits unforged (time ▸ admits)
      | inr refused =>
        rw [refused.1] at inside
        exact authorised call inside

/-- A protected route is run only for the tenant of an issued token, with what its roles grant. -/
theorem issue_of_authorize {issued : List TokenIssue} {call : RouteCall}
    (authorised : middleware.Authorised issued call) {policy : RBACPolicy}
    {permission : Permission} {tenantId : String}
    (granted : authorize policy permission call.request = .ok tenantId) :
    ∃ issue ∈ issued, tenantId = issue.tenantId ∧
      policy.checkAccess issue.role issue.userRole permission = true ∧ call.now ≤ issue.exp := by
  rw [authorize] at granted
  cases authorised.2 with
  | inl free =>
    have context : contextClaims call.request =
        some { tenantId := "", role := "free", email := "" } := by
      rw [contextClaims, free.2]
    rw [context] at granted
    have ⟨_, _, missing⟩ := bind_ok_iff.mp granted
    cases missing
  | inr issued =>
    have ⟨issue, inside, state, before⟩ := issued
    have context : contextClaims call.request = some
        { tenantId := issue.tenantId, role := issue.role, email := issue.email,
          userId := issue.userId, userRole := issue.userRole } := by
      rw [contextClaims, state]
      rfl
    rw [context] at granted
    have ⟨_, permitted, tenant⟩ := bind_ok_iff.mp granted
    refine ⟨issue, inside, ?_, ?_, before⟩
    · rw [getCurrentTenantId] at tenant
      by_cases unnamed : issue.tenantId = ""
      · rw [if_pos unnamed] at tenant
        cases tenant
      · rw [if_neg unnamed] at tenant
        exact (Except.ok.inj tenant).symm
    · rw [requirePermission] at permitted
      by_cases allowed : policy.checkAccess issue.role issue.userRole permission = true
      · exact allowed
      · rw [if_neg allowed] at permitted
        cases permitted

/-- In every run in which no request forges the code of a token, the routes get a request only over
HTTPS or as a probe of the own host, and only on an open path or with the claims of an issued token
that has not expired; and a protected route is run only for the tenant of such a token whose roles
grant the permission. -/
theorem routes_authorised (policy : RBACPolicy) (routes : Routes) (events : List ServerEvent)
    (ideal : middleware.Ideal router (start routes) events) :
    let server := middleware.run router (start routes) events
    ∀ call ∈ server.calls, middleware.Authorised server.issued call ∧
      ∀ permission tenantId, authorize policy permission call.request = .ok tenantId →
        ∃ issue ∈ server.issued, tenantId = issue.tenantId ∧
          policy.checkAccess issue.role issue.userRole permission = true ∧
            call.now ≤ issue.exp := by
  intro server call inside
  have authorised := middleware.authorised_run router (start routes) events ideal
    (fun _ none => by cases none) call inside
  exact ⟨authorised, fun _ _ granted => middleware.issue_of_authorize authorised granted⟩

end Runs

/-- A service with the sample token and a CORS layer that allows every origin. -/
def sampleMiddleware : Middleware where
  lower := id
  production := true
  auth := sampleAuth
  cors := {
    preflight := fun _ => none
    decorate := fun _ response => response
    options_of_preflight := fun _ absurd => by cases absurd
    decorate_adds := fun _ response => ⟨[], by rw [List.append_nil]⟩ }

/-- A login and a request with its token. -/
def sampleEvents : List ServerEvent :=
  [.issue sampleIssue,
   .request
     { method := "GET", path := "/api/v1/tenants/me", scheme := "https", httpsUrl := ""
       clientHost := none, forwardedProto := none
       authorization := some ("Bearer " ++ sampleToken) } 1700000001 true]

/-- The request of the sample comes to the routes, with the claims of the login. -/
theorem routes_authorised_sample :
    let router : Handler Unit := fun _ routes => (.ok ⟨200, [], .null⟩, routes)
    let server := sampleMiddleware.run router (start ()) sampleEvents
    ∀ call ∈ server.calls, sampleMiddleware.Authorised server.issued call ∧
      ∀ permission tenantId, authorize {} permission call.request = .ok tenantId →
        ∃ issue ∈ server.issued, tenantId = issue.tenantId ∧
          ({} : RBACPolicy).checkAccess issue.role issue.userRole permission = true ∧
            call.now ≤ issue.exp := by
  intro router
  have issued : (sampleMiddleware.step router (start ()) (.issue sampleIssue)).issued =
      [sampleIssue] := by
    have made : sampleMiddleware.auth.createAccessToken sampleIssue = .ok sampleToken :=
      created_sampleToken
    rw [Middleware.step, made]
    rfl
  refine sampleMiddleware.routes_authorised router {} () sampleEvents ⟨?_, trivial⟩
  rw [issued, Middleware.bearer_of_authorization rfl]
  exact unforged_sampleToken

end Middleware

end VelaFlow.Api
