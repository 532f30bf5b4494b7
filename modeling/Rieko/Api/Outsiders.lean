import Rieko.Api.Server

namespace Rieko

open Observation
open Identity (utf8)

namespace Api

/-- A request of somebody who has neither the token nor, on the webhook route, the secret. -/
def outsider (ext : ApiExternal) (config : ApiConfig) (request : HttpRequest) : Bool :=
  if request.path = webhookPath then (webhookRequest ext config request).signature ≠ some true
  else !requireAuth config.authToken request

namespace ServerEvent

def inside {σ : Type} (ext : ApiExternal) (config : ApiConfig) : ServerEvent σ → Bool
  | .arrives request _ => !outsider ext config request
  | _ => true

end ServerEvent

section Silence

variable {σ : Type} [ApiStorage σ] {ext : ApiExternal} {config : ApiConfig} {request : HttpRequest}

theorem routed_webhook (method : HttpMethod) :
    routed (routes config) method webhookPath =
      if method = .post then .handled .btcpayWebhook [] else .methodNotAllowed := by
  have only : ((routes config).filter fun route => (matched route webhookPath).isSome) =
      [⟨webhookPath, .post, .btcpayWebhook⟩] := by
    unfold routes
    cases config.simulate <;> decide
  have named : (routes config).filter (fun route => route.path = webhookPath) =
      [⟨webhookPath, .post, .btcpayWebhook⟩] := by
    unfold routes
    cases config.simulate <;> decide
  unfold routed
  rw [only]
  show pick (routes config) method webhookPath ⟨webhookPath, .post, .btcpayWebhook⟩ = _
  unfold pick
  have picked := congrArg (List.find? (answers method)) named
  rw [List.find?_filter] at picked
  simp only [Bool.decide_and, decide_eq_true_eq, Bool.decide_eq_true] at picked
  rw [picked]
  by_cases post : method = .post
  · subst post
    decide
  · have other : answers method ⟨webhookPath, .post, .btcpayWebhook⟩ = false := by
      cases method with
      | post => exact absurd rfl post
      | get | head | other name => rfl
    rw [if_neg post, List.find?_cons, other]
    rfl

theorem receive_unsigned {webhook : WebhookRequest} (unsigned : webhook.signature ≠ some true) :
    ∃ answer, ∀ s : σ, WebhookHandler.ready.receive webhook s = (.answered answer, s) := by
  have refused : ∃ answer, webhook.identify = .error answer := by
    unfold WebhookRequest.identify
    cases signature : webhook.signature with
    | none => exact ⟨_, rfl⟩
    | some verdict =>
      cases verdict with
      | false => exact ⟨_, rfl⟩
      | true => exact absurd signature unsigned
  obtain ⟨answer, identified⟩ := refused
  refine ⟨answer, fun s => ?_⟩
  unfold WebhookHandler.receive
  rw [identified]

theorem dispatch_outside (outside : outsider ext config request = true) (draws : RequestDraws) :
    ∃ reply, ∀ server : Server σ, dispatch ext config draws request server = (some reply, server) := by
  unfold dispatch
  by_cases path : request.path = webhookPath
  · have unsigned : (webhookRequest ext config request).signature ≠ some true := by
      simpa [outsider, path] using outside
    have admitted : requireAuth config.authToken request = true := by simp [requireAuth, path]
    rw [path, routed_webhook]
    by_cases post : request.method = .post
    · rw [if_pos post]
      simp only [admitted, if_true]
      unfold handle
      by_cases overlong : maxBodyBytes < request.body.length
      · simp only [if_pos overlong]
        exact ⟨_, fun _ => rfl⟩
      · obtain ⟨answer, answers⟩ := receive_unsigned (σ := σ) unsigned
        refine ⟨headed request (webhookReply answer), fun server => ?_⟩
        simp only [if_neg overlong, answers server.store, Option.map_some]
    · rw [if_neg post]
      exact ⟨_, fun _ => rfl⟩
  · have refused : requireAuth config.authToken request = false := by
      simpa [outsider, path] using outside
    cases routed (routes config) request.method request.path with
    | notFound | methodNotAllowed => exact ⟨_, fun _ => rfl⟩
    | handled endpoint parameters =>
      simp only [refused, Bool.false_eq_true, if_false]
      exact ⟨_, fun _ => rfl⟩

theorem outsider_silent (outside : outsider ext config request = true) (draws : RequestDraws) :
    ∃ response, ∀ server : Server σ, serve ext config (.arrives request draws) server = (some response, server) := by
  have arrives : ∃ response, ∀ server : Server σ, arrive ext config draws request server = (some response, server) := by
    unfold arrive
    cases declaresTooMuch request with
    | true => exact ⟨_, fun _ => rfl⟩
    | false =>
      obtain ⟨reply, replies⟩ := dispatch_outside (σ := σ) outside draws
      refine ⟨secured request reply, fun server => ?_⟩
      simp only [Bool.false_eq_true, if_false, replies server, Option.map_some]
  obtain ⟨response, arrives⟩ := arrives
  show ∃ _, ∀ server : Server σ, timed draws request server (arrive ext config draws request server) = _
  unfold timed
  cases untimed request with
  | true => exact ⟨response, fun server => arrives server⟩
  | false =>
    cases draws.lateness with
    | inTime => exact ⟨response, fun server => arrives server⟩
    | dropped => exact ⟨_, fun _ => rfl⟩
    | detached => exact ⟨requestTimedOut, fun server => by rw [arrives server]; rfl⟩

end Silence

end Api

open Api

/-- Whoever has neither the token of a started agent nor the secret of its webhooks learns nothing of its state and
    changes nothing in it: in every run, between whatever else happens, such requests can be left out. -/
theorem outsiders_unnoticed {σ : Type} [ApiStorage σ] {ext : ApiExternal} {config : ApiConfig} {addr : SocketAddr}
    {allowExternal : Bool} {file : Option SecretFile} {env : EnvToken} {token : String}
    (started : Agent.authToken addr allowExternal file env = .ok (some token))
    (configured : config.authToken = some token) :
    (∀ request, outsider ext config request = true ↔
      request.path = webhookPath ∧ (webhookRequest ext config request).signature ≠ some true ∨
        request.path ≠ webhookPath ∧ ¬Presents token request) ∧
    (∀ request draws, outsider ext config request = true → ∃ response, ∀ server : Server σ,
      serve ext config (.arrives request draws) server = (some response, server)) ∧
    ∀ (events : List (ServerEvent σ)) (server : Server σ),
      let insiders := events.filter (·.inside ext config)
      after (serve ext config) insiders server = after (serve ext config) events server ∧
      insiders.zip (answers (serve ext config) insiders server) =
        (events.zip (answers (serve ext config) events server)).filter fun answered =>
          answered.1.inside ext config := by
  obtain ⟨loads, -⟩ := Agent.authToken_ok started
  have loaded : Loaded token := loadTokenFor_loaded loads
  refine ⟨fun request => ?_, fun request draws outside => outsider_silent outside draws, fun events server => ?_⟩
  · have admitted : requireAuth config.authToken request = true ↔ _ := configured ▸ requireAuth_iff loaded
    unfold outsider
    by_cases path : request.path = webhookPath
    · simp [path]
    · rw [if_neg path, Bool.not_eq_true', ← Bool.not_eq_true, admitted]
      simp [path]
  · refine run_filter (fun event member outside => ?_) server
    cases event with
    | arrives request draws =>
      obtain ⟨response, still⟩ := outsider_silent (σ := σ) (by simpa [ServerEvent.inside] using outside) draws
      exact ⟨some response, still⟩
    | resumes index draws => cases outside
    | meanwhile change => cases outside

/-- A client of an agent asks for the findings with the token of another one. -/
theorem outsiders_unnoticed_findings :
    let addr : SocketAddr := ⟨.v4 #v[0, 0, 0, 0], 8080, "0.0.0.0:8080"⟩
    let file : SecretFile := ⟨"token", .ok "secret\n"⟩
    let request : HttpRequest := ⟨.get, "/findings", "limit=50", [("authorization", utf8 "Bearer secrets")], []⟩
    Agent.authToken addr true (some file) .notPresent = .ok (some "secret") ∧
      ∃ response, ∀ server : Server MemoryStorage,
        serve Rebalance.api Rebalance.apiConfig (.arrives request Rebalance.draws) server =
        (some response, server) := by
  intro addr file request
  have started : Agent.authToken addr true (some file) .notPresent = .ok (some "secret") := by decide
  exact ⟨started, (outsiders_unnoticed started rfl).2.1 request Rebalance.draws (by decide)⟩

end Rieko
