import Rieko.Domain.Channel

namespace Rieko

inductive PaymentStatus where
  | inFlight | succeeded | failed
deriving DecidableEq, Repr

structure InvoiceSettledEvent where
  id : String
  storeId : Option String
  paymentMethod : Option String
  amountMsat : Nat
  feeMsat : Nat
  timestamp : DateTime
  paymentHash : Option String
  metadata : List (String × String)
deriving DecidableEq, Repr

structure InvoiceExpiredEvent where
  id : String
  storeId : Option String
  amountMsat : Option Nat
  timestamp : DateTime
deriving DecidableEq, Repr

structure InvoicePaymentReceivedEvent where
  id : String
  storeId : Option String
  paymentMethod : Option String
  amountMsat : Nat
  feeMsat : Nat
  timestamp : DateTime
deriving DecidableEq, Repr

/-- Telemetry events. Of the kinds that no webhook produces only what detectors read is kept. -/
inductive NodeEvent where
  | invoiceSettled (event : InvoiceSettledEvent)
  | invoiceExpired (event : InvoiceExpiredEvent)
  | invoicePaymentReceived (event : InvoicePaymentReceivedEvent)
  | forwardRouted (timestamp : DateTime)
  | paymentAttempt (status : PaymentStatus) (timestamp : DateTime)
  | paymentMetric (status : PaymentStatus) (timestamp : DateTime)
  | channelStateChanged (timestamp : DateTime)
  | peerStatusChanged (timestamp : DateTime)
  | snapshotUpdated (capturedAt : DateTime)
deriving DecidableEq, Repr

end Rieko
