import Rieko.Api.Handlers
import Rieko.Lib.Observation
import Rieko.Simulation.FutureDated

namespace Rieko

open Identity (utf8)

namespace Api

structure Waiting where
  request : HttpRequest
  webhook : WebhookRequest
  handler : WebhookHandler

/-- The server: its storage, its rate limit and the webhooks between their duplicate check and their answer. -/
structure Server (σ : Type) where
  store : σ
  rate : AppState := {}
  waiting : List Waiting := []

def declaredLength (request : HttpRequest) : Option Nat :=
  ((request.header "content-length").bind headerText).bind fun value => DecimalText.parseU64 (.ofList value)

def declaresTooMuch (request : HttpRequest) : Bool := (declaredLength request).any (maxBodyBytes < ·)

def tooLarge : Response := ⟨413, [], .tooLarge⟩

def requestTimedOut : Response := ⟨408, [], .text "request timed out"⟩

def securityHeaders (path : String) : List (String × String) :=
  (if "/assets".toList.isPrefixOf path.toList then [] else [("cache-control", "no-store, max-age=0")]) ++ [
    ("cross-origin-resource-policy", "same-origin"),
    ("cross-origin-opener-policy", "same-origin"),
    ("x-content-type-options", "nosniff"),
    ("x-frame-options", "DENY"),
    ("referrer-policy", "no-referrer"),
    ("content-security-policy", "default-src 'none'; img-src 'self' data:; style-src 'self' 'unsafe-inline'; " ++
      "script-src 'self'; frame-ancestors 'none'; base-uri 'none'; form-action 'self'")]

def secured (request : HttpRequest) (reply : Reply) : Response :=
  ⟨reply.status, securityHeaders request.path, reply.body⟩

def headed (request : HttpRequest) (reply : Reply) : Reply :=
  if request.method = .head then { reply with body := .empty } else reply

def webhookRequest (ext : ApiExternal) (config : ApiConfig) (request : HttpRequest) : WebhookRequest where
  signature := config.btcpayWebhookSecret.map fun secret =>
    verifyBtcpaySig ext.signature (utf8 secret) request.body
      (.ofList (((request.header "btcpay-sig").bind headerText).getD []))
  body := ext.webhookBody request.body

def webhookReply (answer : WebhookAnswer) : Reply :=
  match answer with
  | .alreadyProcessed _ | .accepted _ => ⟨200, .webhook answer⟩
  | .refused status _ _ => ⟨status, .webhook answer⟩

section Serve

variable {σ : Type} [ApiStorage σ] (ext : ApiExternal) (config : ApiConfig) (draws : RequestDraws)
    (request : HttpRequest)

def ran (result : EStateM.Result Reply σ Body) : Reply × σ :=
  match result with
  | .ok body s => (⟨200, body⟩, s)
  | .error reply s => (reply, s)

/-- What a handler answers at once: nothing where it leaves the storage to others before it enqueues an event. -/
def handle (endpoint : Endpoint) (parameters : List String) (server : Server σ) : Option Reply × Server σ :=
  match endpoint with
  | .query query =>
    let (reply, store) := ran (reply ext config draws request parameters query server.store)
    (some reply, { server with store })
  | .createSimulationV2 =>
    let (reply, rate, store) := createSimulationV2 ext draws request server.rate server.store
    (some reply, { server with store, rate })
  | .btcpayWebhook =>
    if maxBodyBytes < request.body.length then (some ⟨413, .text ext.overlongBody⟩, server)
    else
      let webhook := webhookRequest ext config request
      match WebhookHandler.ready.receive webhook server.store with
      | (.answered answer, store) => (some (webhookReply answer), { server with store })
      | (handler, store) => (none, { server with store, waiting := server.waiting ++ [⟨request, webhook, handler⟩] })

def routes : List Route := if config.simulate then coreRoutes ++ simulateRoutes else coreRoutes

def dispatch (server : Server σ) : Option Reply × Server σ :=
  match routed (routes config) request.method request.path with
  | .notFound => (some ⟨404, .empty⟩, server)
  | .methodNotAllowed => (some ⟨405, .empty⟩, server)
  | .handled endpoint parameters =>
    if requireAuth config.authToken request then
      let (reply, server) := handle ext config draws request endpoint parameters server
      (reply.map (headed request), server)
    else (some (headed request ⟨401, .text "unauthorized"⟩), server)

def arrive (server : Server σ) : Option Response × Server σ :=
  if declaresTooMuch request then (some tooLarge, server)
  else
    let (reply, server) := dispatch ext config draws request server
    (reply.map (secured request), server)

/-- The creation of a simulation is not timed out once it has begun. -/
def untimed : Bool := request.method = .post && request.path = "/api/v2/simulations"

def timed (before : Server σ) (result : Option Response × Server σ) : Option Response × Server σ :=
  if untimed request then result
  else
    match draws.lateness with
    | .inTime => result
    | .dropped => (some requestTimedOut, before)
    | .detached => (some requestTimedOut, { result.2 with waiting := before.waiting })

def resume (waiting : Waiting) (server : Server σ) : Option Response × Server σ :=
  let (handler, store) := waiting.handler.accept ext.simulation.toExternal waiting.webhook (draws.clock 0)
    (draws.clock 1) draws.busy server.store
  match handler with
  | .answered answer => (some (secured waiting.request (webhookReply answer)), { server with store })
  | _ => (none, { server with store })

end Serve

/-- What happens at the server: a request comes, a waiting webhook goes on, others use the storage. -/
inductive ServerEvent (σ : Type) where
  | arrives (request : HttpRequest) (draws : RequestDraws)
  | resumes (index : Nat) (draws : RequestDraws)
  | meanwhile (change : σ → σ)

def serve {σ : Type} [ApiStorage σ] (ext : ApiExternal) (config : ApiConfig) (event : ServerEvent σ)
    (server : Server σ) : Option Response × Server σ :=
  match event with
  | .arrives request draws => timed draws request server (arrive ext config draws request server)
  | .resumes index draws =>
    match server.waiting[index]? with
    | none => (none, server)
    | some waiting =>
      let rest := { server with waiting := server.waiting.eraseIdx index }
      timed draws waiting.request rest (resume ext draws waiting rest)
  | .meanwhile change => (none, { server with store := change server.store })

end Api

namespace Rebalance

def createBody : List UInt8 :=
  utf8 ("\x7b\"recommendation_id\":\"action\",\"model_id\":\"liquidity-redistribution\",\"source_channel\":\"full\"," ++
    "\"destination_channel\":\"drained\",\"amount_sats\":400\x7d")

def api : ApiExternal where
  simulation := service "full" "drained"
  signature := ⟨fun _ => none, fun _ _ => .replicate 32 0⟩
  pathParameter := .ok
  limitQuery _ := .ok ⟨some 50, none⟩
  snapshotQuery _ := .ok ⟨some 50, none, none⟩
  createCommand body :=
    if body = createBody then .ok (call "full" "drained" late "first").command else .error "invalid type"
  compareCommand _ := .error (415, "Expected request with \x60Content-Type: application/json\x60")
  webhookBody _ := ⟨.error "", .error "", .error "", .error ""⟩
  overlongBody := "length limit exceeded"

def apiConfig : ApiConfig := ⟨"0.1.0", some "secret", none, true, false⟩

def draws : RequestDraws := ⟨fun _ => late, 0, false, false, .inTime, (call "full" "drained" late "first").draws, ""⟩

def createRequest : HttpRequest where
  method := .post
  path := "/api/v2/simulations"
  query := ""
  headers := [("authorization", utf8 "Bearer secret"), ("content-type", utf8 "application/json")]
  body := createBody

end Rebalance

end Rieko
