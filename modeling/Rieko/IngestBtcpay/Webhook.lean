import Rieko.Domain.Events
import Rieko.Findings.Identity
import Rieko.Lib.DecimalText

namespace Rieko

/-- The envelope of a webhook, without the fields that nobody reads. -/
structure BtcPayWebhookEvent where
  deliveryId : String
  webhookId : String
  originalDeliveryId : Option String := none
  eventType : String
  timestamp : Int
deriving DecidableEq, Repr

/-- Seconds since the epoch that lie outside the calendar read as the current time. -/
def BtcPayWebhookEvent.timestampUtc (event : BtcPayWebhookEvent) (now : DateTime) : DateTime :=
  let instant := event.timestamp * nanosPerSecond
  if DateTime.minUtc ≤ instant ∧ instant ≤ DateTime.maxUtc then instant else now

structure InvoicePaymentData where
  value : Option String := none
  fee : Option String := none
  paymentHash : Option String := none
deriving DecidableEq, Repr

structure InvoiceSettledPayload where
  storeId : String
  invoiceId : String
  paymentMethod : Option String := none
  paymentMethodId : Option String := none
  metadata : Option Json := none
  payment : Option InvoicePaymentData := none

structure InvoicePaymentReceivedPayload where
  storeId : String
  invoiceId : String
  paymentMethod : Option String := none
  payment : Option InvoicePaymentData := none
deriving DecidableEq, Repr

structure InvoiceExpiredPayload where
  storeId : String
  invoiceId : String
deriving DecidableEq, Repr

/-- The bytes of a webhook, as far as the program reads them: what decoding them as each shape gives. -/
structure WebhookBody where
  envelope : Except String BtcPayWebhookEvent
  settled : Except String InvoiceSettledPayload
  received : Except String InvoicePaymentReceivedPayload
  expired : Except String InvoiceExpiredPayload

inductive BtcPayError where
  | json (message : String)
  | malformedPayload (message : String)
deriving DecidableEq, Repr

def BtcPayError.toString : BtcPayError → String
  | .json message => s!"JSON serialization/deserialization error: {message}"
  | .malformedPayload message => s!"malformed payload: {message}"

/-- A whole number counts millisatoshi, any other number bitcoin. -/
def parseMsats (text : String) : Option Nat :=
  match DecimalText.parseU64 text with
  | some msat => some msat
  | none => (DecimalText.parseF64 text).map fun btc =>
    ((btc.mul (.ofNat 100000000)).mul (.ofNat 1000)).toU64

def InvoicePaymentData.msats (field : InvoicePaymentData → Option String) (payment : Option InvoicePaymentData) : Nat :=
  ((payment.bind field).bind parseMsats).getD 0

def metadataPairs (ext : External) : Option Json → List (String × String)
  | some (.object pairs) => pairs.map fun (key, value) => (key, value.asStr.getD (ext.jsonText value))
  | _ => []

namespace WebhookBody

def settledEvent (ext : External) (timestamp : DateTime) (payload : InvoiceSettledPayload) : NodeEvent :=
  .invoiceSettled
    { id := payload.invoiceId
      storeId := some payload.storeId
      paymentMethod := payload.paymentMethod.or payload.paymentMethodId
      amountMsat := InvoicePaymentData.msats (·.value) payload.payment
      feeMsat := InvoicePaymentData.msats (·.fee) payload.payment
      timestamp
      paymentHash := payload.payment.bind (·.paymentHash)
      metadata := metadataPairs ext payload.metadata }

def receivedEvent (timestamp : DateTime) (payload : InvoicePaymentReceivedPayload) : NodeEvent :=
  .invoicePaymentReceived
    { id := payload.invoiceId
      storeId := some payload.storeId
      paymentMethod := payload.paymentMethod
      amountMsat := InvoicePaymentData.msats (·.value) payload.payment
      feeMsat := InvoicePaymentData.msats (·.fee) payload.payment
      timestamp }

def expiredEvent (timestamp : DateTime) (payload : InvoiceExpiredPayload) : NodeEvent :=
  .invoiceExpired { id := payload.invoiceId, storeId := some payload.storeId, amountMsat := none, timestamp }

end WebhookBody

def normalizeWebhookPayload (ext : External) (now : DateTime) (body : WebhookBody) : Except BtcPayError NodeEvent :=
  match body.envelope with
  | .error message => .error (.malformedPayload message)
  | .ok envelope =>
    let timestamp := envelope.timestampUtc now
    if envelope.eventType = "InvoiceSettled" ∨ envelope.eventType = "InvoiceProcessing" then
      (body.settled.mapError .json).map (WebhookBody.settledEvent ext timestamp)
    else if envelope.eventType = "InvoiceReceivedPayment" then
      (body.received.mapError .json).map (WebhookBody.receivedEvent timestamp)
    else if envelope.eventType = "InvoiceExpired" ∨ envelope.eventType = "InvoiceInvalid" then
      (body.expired.mapError .json).map (WebhookBody.expiredEvent timestamp)
    else .error (.malformedPayload s!"unsupported or non-telemetry webhook event type: {envelope.eventType}")

def NodeEvent.isSettlement : NodeEvent → Bool
  | .invoiceSettled _ | .invoiceExpired _ | .invoicePaymentReceived _ => true
  | _ => false

theorem isSettlement_of_map {α : Type} {payload : Except String α} {build : α → NodeEvent} {event : NodeEvent}
    (builds : ∀ a, (build a).isSettlement = true) (mapped : (payload.mapError BtcPayError.json).map build = .ok event) :
    event.isSettlement = true := by
  cases payload with
  | error message => cases mapped
  | ok a =>
    cases mapped
    exact builds a

theorem normalizeWebhookPayload_isSettlement {ext : External} {now : DateTime} {body : WebhookBody}
    {event : NodeEvent} (normalized : normalizeWebhookPayload ext now body = .ok event) :
    event.isSettlement = true := by
  unfold normalizeWebhookPayload at normalized
  split at normalized
  · cases normalized
  · dsimp only at normalized
    split at normalized
    · exact isSettlement_of_map (fun _ => rfl) normalized
    split at normalized
    · exact isSettlement_of_map (fun _ => rfl) normalized
    split at normalized
    · exact isSettlement_of_map (fun _ => rfl) normalized
    · cases normalized

end Rieko
