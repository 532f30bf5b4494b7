import Rieko.IngestBtcpay.Webhook
import Rieko.Storage.WebhookQueue

namespace Rieko

open StatefulResult

inductive WebhookAnswer where
  | alreadyProcessed (deliveryId : String)
  | accepted (deliveryId : String)
  | refused (status : Nat) (code message : String)
deriving DecidableEq, Repr

def WebhookAnswer.acknowledged : WebhookAnswer → Option String
  | .alreadyProcessed deliveryId | .accepted deliveryId => some deliveryId
  | .refused .. => none

structure WebhookRequest where
  signature : Option Bool
  body : WebhookBody

def BtcPayWebhookEvent.canonicalDeliveryId (envelope : BtcPayWebhookEvent) : Option String :=
  (envelope.originalDeliveryId.filter (· ≠ "")).or
    (if envelope.deliveryId = "" then none else some envelope.deliveryId)

def WebhookRequest.identify (request : WebhookRequest) : Except WebhookAnswer (String × BtcPayWebhookEvent) :=
  match request.signature with
  | none => .error (.refused 503 "integration_not_configured" "BTCPay webhook ingestion is not configured")
  | some false => .error (.refused 401 "invalid_signature" "BTCPay-Sig HMAC-SHA256 signature verification failed")
  | some true =>
    match request.body.envelope with
    | .error message => .error (.refused 400 "invalid_payload" message)
    | .ok envelope =>
      match envelope.canonicalDeliveryId with
      | none => .error (.refused 400 "invalid_payload" "deliveryId or originalDeliveryId is required")
      | some deliveryId => .ok (deliveryId, envelope)

inductive WebhookHandler where
  | ready
  | checked (deliveryId : String) (envelope : BtcPayWebhookEvent)
  | answered (answer : WebhookAnswer)
  | lost

namespace WebhookHandler

variable {σ : Type} [Storage σ]

/-- Up to the duplicate check. A check that fails counts as not processed. -/
def receive (request : WebhookRequest) (handler : WebhookHandler) (s : σ) : WebhookHandler × σ :=
  match handler with
  | .ready =>
    match request.identify with
    | .error answer => (.answered answer, s)
    | .ok (deliveryId, envelope) =>
      match Storage.isWebhookDeliveryProcessed deliveryId s with
      | .ok true s => (.answered (.alreadyProcessed deliveryId), s)
      | .ok false s | .error _ s => (.checked deliveryId envelope, s)
  | handler => (handler, s)

/-- From the duplicate check to the answer. A `busy` storage lets nobody in before the request times out. -/
def accept (ext : External) (request : WebhookRequest) (now acceptedAt : DateTime) (busy : Bool)
    (handler : WebhookHandler) (s : σ) : WebhookHandler × σ :=
  match handler with
  | .checked deliveryId envelope =>
    match normalizeWebhookPayload ext now request.body with
    | .error e => (.answered (.refused 400 "normalization_failed" e.toString), s)
    | .ok event =>
      if busy then (.answered (.refused 500 "persistence_failed" "storage is busy"), s)
      else
        match Storage.enqueueWebhookEvent deliveryId (some envelope.webhookId) (some envelope.eventType) event
          acceptedAt s with
        | .ok _ s => (.answered (.accepted deliveryId), s)
        | .error e s => (.answered (.refused 500 "persistence_failed" e.toString), s)
  | handler => (handler, s)

def acknowledged : WebhookHandler → Option String
  | .answered answer => answer.acknowledged
  | _ => none

/-- The handler of a request once its process has died. Only an answer that was given before outlives it. -/
def afterDeath (before after : WebhookHandler) : WebhookHandler :=
  match before, after with
  | .answered answer, _ => .answered answer
  | .ready, .ready => .ready
  | _, _ => .lost

def Sound (request : WebhookRequest) (queue : WebhookQueue) : WebhookHandler → Prop
  | .ready | .lost => True
  | .checked deliveryId envelope => request.identify = .ok (deliveryId, envelope)
  | .answered answer => ∀ deliveryId, answer.acknowledged = some deliveryId →
      (∃ envelope, request.identify = .ok (deliveryId, envelope)) ∧ deliveryId ∈ queue.ids

variable {request : WebhookRequest} {queue queue' : WebhookQueue} {handler : WebhookHandler}

theorem Sound.mono (sound : handler.Sound request queue) (grows : ∀ id ∈ queue.ids, id ∈ queue'.ids) :
    handler.Sound request queue' := by
  cases handler with
  | ready | lost => trivial
  | checked deliveryId envelope => exact sound
  | answered answer =>
    intro deliveryId success
    obtain ⟨named, stored⟩ := sound deliveryId success
    exact ⟨named, grows deliveryId stored⟩

theorem Sound.afterDeath {after : WebhookHandler} (sound : handler.Sound request queue) :
    (handler.afterDeath after).Sound request queue := by
  cases handler with
  | answered answer => exact sound
  | ready => cases after <;> trivial
  | checked | lost => cases after <;> trivial

theorem identify_refuses {answer : WebhookAnswer} (refused : request.identify = .error answer) :
    answer.acknowledged = none := by
  unfold WebhookRequest.identify at refused
  repeat' split at refused
  all_goals
    cases refused
    try rfl

section Lawful

variable [Durable σ] {view : σ → WebhookQueue} {idle : σ → Prop} {begun : WebhookQueue → σ → Prop}
  {markable : WebhookEventRecord → Prop} {s : σ}

theorem receive_spec (lawful : LawfulQueue view idle begun markable) (held : idle s)
    (recorded : ∀ id, id ∈ (view s).ledger ↔ id ∈ (view s).ids) (sound : handler.Sound request (view s)) :
    idle (receive request handler s).2 ∧ view (receive request handler s).2 = view s ∧
      (receive request handler s).1.Sound request (view s) := by
  cases handler with
  | checked | answered | lost => exact ⟨held, rfl, sound⟩
  | ready =>
    unfold receive
    cases identified : request.identify with
    | error answer =>
      refine ⟨held, rfl, fun deliveryId success => ?_⟩
      rw [identify_refuses identified] at success
      cases success
    | ok named =>
      obtain ⟨deliveryId, envelope⟩ := named
      have checks := lawful.checks deliveryId s held
      dsimp only
      cases result : Storage.isWebhookDeliveryProcessed deliveryId s with
      | error e s' =>
        obtain ⟨ended, same⟩ := checks.error result
        exact ⟨ended, same, identified⟩
      | ok known s' =>
        obtain ⟨ended, same, verdict⟩ := checks.ok result
        cases known with
        | false => exact ⟨ended, same, identified⟩
        | true =>
          refine ⟨ended, same, fun also success => ?_⟩
          cases success
          exact ⟨⟨envelope, identified⟩, (recorded deliveryId).mp (of_decide_eq_true verdict.symm)⟩

theorem accept_spec (lawful : LawfulQueue view idle begun markable) (ext : External) (now acceptedAt : DateTime)
    (busy : Bool) (held : idle s) (sound : handler.Sound request (view s)) :
    let after := accept ext request now acceptedAt busy handler s
    idle after.2 ∧ (view after.2 = view s ∧ after.1.Sound request (view s) ∨
      ∃ deliveryId envelope event, request.identify = .ok (deliveryId, envelope) ∧
        normalizeWebhookPayload ext now request.body = .ok event ∧
        view after.2 = (view s).accept ⟨deliveryId, event, acceptedAt, none⟩ ∧
        after.1 = .answered (.accepted deliveryId)) := by
  have refuses (status : Nat) (code message : String) :
      (WebhookHandler.answered (.refused status code message)).Sound request (view s) :=
    fun _ success => nomatch success
  cases handler with
  | ready | answered | lost => exact ⟨held, .inl ⟨rfl, sound⟩⟩
  | checked deliveryId envelope =>
    unfold accept
    cases normalized : normalizeWebhookPayload ext now request.body with
    | error e => exact ⟨held, .inl ⟨rfl, refuses _ _ _⟩⟩
    | ok event =>
      dsimp only
      cases busy with
      | true => exact ⟨held, .inl ⟨rfl, refuses _ _ _⟩⟩
      | false =>
        have enqueues := lawful.enqueues deliveryId (some envelope.webhookId) (some envelope.eventType) event
          acceptedAt s held
        cases result : Storage.enqueueWebhookEvent deliveryId (some envelope.webhookId) (some envelope.eventType)
            event acceptedAt s with
        | error e s' =>
          obtain ⟨ended, same⟩ := enqueues.error result
          exact ⟨ended, .inl ⟨same, refuses _ _ _⟩⟩
        | ok u s' =>
          obtain ⟨ended, taken⟩ := enqueues.ok result
          exact ⟨ended, .inr ⟨deliveryId, envelope, event, sound, rfl, taken, rfl⟩⟩

end Lawful

end WebhookHandler

end Rieko
