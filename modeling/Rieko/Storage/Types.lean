import Rieko.Domain.Events
import Rieko.Findings.Action
import Rieko.Lib.StatefulResult
import Rieko.Status.State
import Mathlib.Data.List.AList
import Mathlib.Data.String.Basic

namespace Rieko

/-- A map keyed by text. Nothing the program computes depends on the order of its entries. -/
abbrev HashMap (α : Type) := AList fun _ : String => α

inductive StorageError where
  | backend (message : String)
  | corrupt (message : String)
  | unsupported (message : String)
deriving DecidableEq, Repr

def StorageError.toString : StorageError → String
  | .backend message => s!"storage backend failure: {message}"
  | .corrupt message => s!"corrupt record: {message}"
  | .unsupported message => s!"unsupported database: {message}"

inductive OperationalStateError where
  | store (message : String)
deriving DecidableEq, Repr

def OperationalStateError.toString : OperationalStateError → String
  | .store message => s!"operational state storage failure: {message}"

structure SimulationRecord where
  id : String
  actionId : String
  findingId : String
  actionType : String
  status : String
  modelId : String
  modelVersion : String
  inputHash : String
  confidence : String
  assumptions : Json
  warnings : Json
  explanation : String
  canonicalInput : Json
  projection : Json
  sourceObservedAt : Option String
  requestedAt : String
  completedAt : Option String
  errorCode : Option String
  createdAt : String
deriving BEq

structure SimulationEvent where
  id : String
  simulationId : String
  status : String
  errorCode : Option String
  timestamp : String
deriving DecidableEq, Repr

inductive DeliveryStatus where
  | success | failed | skipped | none
deriving DecidableEq, Repr

structure AlertState where
  lastSentAt : Option DateTime
  lastSeverity : Option Severity
  lastStatus : DeliveryStatus
deriving DecidableEq, Repr

structure WebhookDeliveryRecord where
  webhookId : Option String
  eventType : Option String
  processedAt : DateTime
deriving DecidableEq, Repr

structure WebhookEventRecord where
  deliveryId : String
  event : NodeEvent
  acceptedAt : DateTime
  processedAt : Option DateTime
deriving DecidableEq, Repr

def WebhookEventRecord.acceptedBefore (a b : WebhookEventRecord) : Prop :=
  a.acceptedAt < b.acceptedAt ∨ a.acceptedAt = b.acceptedAt ∧ a.deliveryId ≤ b.deliveryId

instance : DecidableRel WebhookEventRecord.acceptedBefore := fun _ _ =>
  inferInstanceAs (Decidable (_ ∨ _))

structure RetentionPolicy where
  snapshotMaxAge : StdDuration := 30 * 24 * 3600 * 1000000000
  closedChannelMaxAge : StdDuration := 3 * 24 * 3600 * 1000000000
  maxSnapshotsPerChannel : Option Nat := none
  maxTotalSnapshots : Option Nat := none
deriving DecidableEq, Repr

structure PruneSummary where
  deletedSnapshots : Nat
  complete : Bool
deriving DecidableEq, Repr

def currentSchemaVersion : Int := 17

def webhookLimit (limit : Nat) : Nat := max 1 (min limit 1000)

def validateFindingSchema (schemaVersion : Nat) : Except StorageError Unit :=
  if 1 ≤ schemaVersion ∧ schemaVersion ≤ findingSchemaVersion then .ok ()
  else .error (.corrupt s!"unsupported finding schema version {schemaVersion}")

/-- The operations of a storage that the detector cycles and the agent use, over a state `σ`. -/
class Storage (σ : Type) where
  beginTransaction : EStateM StorageError σ Unit
  commitTransaction : EStateM StorageError σ Unit
  rollbackTransaction : EStateM StorageError σ Unit
  saveFinding (finding : Finding) : EStateM StorageError σ Unit
  resolveFindingsForScope (scope : FindingCycleScope) : EStateM StorageError σ Unit
  saveRecommendation (rec : Recommendation) : EStateM StorageError σ Unit
  recommendationForAction (actionId : String) : EStateM StorageError σ (Option Recommendation)
  syncRecommendationLifecycles (now : DateTime) : EStateM StorageError σ Unit
  appendAudit (entry : AuditEntry) : EStateM StorageError σ Unit
  saveChannelSnapshot (snapshot : ChannelSnapshot) : EStateM StorageError σ Unit
  isWebhookDeliveryProcessed (deliveryId : String) : EStateM StorageError σ Bool
  enqueueWebhookEvent (deliveryId : String) (webhookId eventType : Option String) (event : NodeEvent)
    (acceptedAt : DateTime) : EStateM StorageError σ Unit
  pendingWebhookEvents (limit : Nat) : EStateM StorageError σ (List WebhookEventRecord)
  recentProcessedWebhookEvents (limit : Nat) : EStateM StorageError σ (List WebhookEventRecord)
  markWebhookEventProcessed (deliveryId : String) (processedAt : DateTime) : EStateM StorageError σ Unit
  updateOperationalState (f : OperationalState → OperationalState) :
    EStateM OperationalStateError σ Unit

open StatefulResult in
structure WritesKeep {σ : Type} [Storage σ] (property : σ → Prop) : Prop where
  saveFinding : ∀ finding, Preserves property (Storage.saveFinding finding)
  resolveFindingsForScope : ∀ scope, Preserves property (Storage.resolveFindingsForScope scope)
  saveRecommendation : ∀ recommendation, Preserves property (Storage.saveRecommendation recommendation)
  recommendationForAction : ∀ actionId, Preserves property (Storage.recommendationForAction actionId)
  syncRecommendationLifecycles : ∀ now, Preserves property (Storage.syncRecommendationLifecycles now)
  appendAudit : ∀ entry, Preserves property (Storage.appendAudit entry)
  saveChannelSnapshot : ∀ snapshot, Preserves property (Storage.saveChannelSnapshot snapshot)
  updateOperationalState : ∀ f, Preserves property (Storage.updateOperationalState f)

end Rieko
