import Rieko.Findings.Identity
import Rieko.Lib.Text

namespace Rieko

open Identity

def defaultFreshness : TimeDelta := 15 * 60 * nanosPerSecond

inductive SimulationStatus where
  | requested | completed | unsupported | invalidInput | stale | failed
deriving DecidableEq, Repr

def SimulationStatus.asStr : SimulationStatus → String
  | .requested => "requested"
  | .completed => "completed"
  | .unsupported => "unsupported"
  | .invalidInput => "invalid_input"
  | .stale => "stale"
  | .failed => "failed"

inductive SimulationConfidence where
  | high | medium | low | unknown
deriving DecidableEq, Repr

def SimulationConfidence.asStr : SimulationConfidence → String
  | .high => "high"
  | .medium => "medium"
  | .low => "low"
  | .unknown => "unknown"

inductive SimulationNoticeSeverity where
  | info | warning | critical
deriving DecidableEq, Repr

structure Assumption where
  code : String
  description : String
  severity : SimulationNoticeSeverity := .info
deriving DecidableEq, Repr

structure SimulationWarning where
  code : String
  description : String
  severity : SimulationNoticeSeverity := .warning
deriving DecidableEq, Repr

structure ProjectedState where
  localRatio : Binary64
  localBalanceMsat : Nat
  remoteBalanceMsat : Nat
  capacityMsat : Nat
deriving DecidableEq, Repr

structure ProjectedDelta where
  channelId : String
  localBeforeMsat : Nat
  localAfterMsat : Nat
  remoteBeforeMsat : Nat
  remoteAfterMsat : Nat
  deltaMsat : Nat
  clearsFinding : Bool
deriving DecidableEq, Repr

structure LiquidityRedistributionParameters where
  sourceChannel : String
  destinationChannel : String
  amountMsat : Nat
deriving DecidableEq, Repr

inductive FindingDirection where
  | outbound | inbound
deriving DecidableEq, Repr

structure SimulationInput where
  recommendationId : String
  recommendationTarget : String
  findingId : String
  findingChannel : String
  findingDirection : Option FindingDirection
  nodeId : String
  network : Option BitcoinNetwork
  provenance : FindingProvenance
  actionType : ActionType
  modelId : String
  modelVersion : String
  parameters : LiquidityRedistributionParameters
  sourceSnapshot : ChannelSnapshot
  destinationSnapshot : ChannelSnapshot
deriving DecidableEq, Repr

namespace SimulationInput

def findingSnapshot (input : SimulationInput) : ChannelSnapshot :=
  if input.destinationSnapshot.channelId = input.findingChannel then input.destinationSnapshot
  else input.sourceSnapshot

def observedAt (input : SimulationInput) : DateTime := input.findingSnapshot.ts

def isStaleAt (input : SimulationInput) (now : DateTime) (freshness : TimeDelta) : Bool :=
  freshness < now - input.observedAt

def isFutureAt (input : SimulationInput) (now : DateTime) : Bool := now < input.observedAt

end SimulationInput

structure SimulationResult where
  modelId : String
  modelVersion : String
  inputHash : String
  baseline : ProjectedState
  projected : ProjectedState
  deltas : List ProjectedDelta
  assumptions : List Assumption
  warnings : List SimulationWarning
  confidence : SimulationConfidence
deriving DecidableEq, Repr

inductive ModelError where
  | unsupported (modelId : String)
  | invalidInput (message : String)
  | calculationFailed (message : String)
  | serialization (message : String)
deriving DecidableEq, Repr

def ModelError.toString : ModelError → String
  | .unsupported modelId => s!"unsupported recommendation type for model {modelId}"
  | .invalidInput message => s!"invalid parameters: {message}"
  | .calculationFailed message => s!"calculation failed: {message}"
  | .serialization message => s!"canonical input serialization failed: {message}"

/-- The derived JSON encodings of the types of a simulation, and the decodings of those that are read back. -/
structure SimulationCodec where
  input : SimulationInput → Json
  result : SimulationResult → Json
  assumptions : List Assumption → Json
  warnings : List SimulationWarning → Json
  decodeInput : Json → Except String SimulationInput
  decodeResult : Json → Except String SimulationResult

def computeInputHash (ext : External) (codec : SimulationCodec) (input : SimulationInput) : String :=
  let canonical := utf8 (ext.jsonText (codec.input input))
  ext.sha256 (utf8 "rieko-simulation-input-v3" ++ beBytes 8 canonical.length ++ canonical)

/-- Addition and subtraction of unsigned 64-bit integers, with nothing where the result is none. -/
def checkedAdd (a b : Nat) : Option Nat := if a + b < 2^64 then some (a + b) else none

def checkedSub (a b : Nat) : Option Nat := if b ≤ a then some (a - b) else none

namespace LiquidityRedistributionModel

def modelId : String := "liquidity-redistribution"

def modelVersion : String := "3"

def supports (recommendation : Recommendation) : Bool := recommendation.action.actionType = .rebalanceChannel

def ensure (condition : Bool) (message : String) : Except ModelError Unit :=
  if condition then .ok () else .error (.invalidInput message)

def require {α : Type} (value : Option α) (message : String) : Except ModelError α :=
  match value with
  | some a => .ok a
  | none => .error (.invalidInput message)

def liquidityImbalance (snapshot : ChannelSnapshot) : LiquidityImbalance :=
  (LiquidityProfile.compute snapshot.capacityMsat snapshot.localBalanceMsat snapshot.remoteBalanceMsat).imbalance

def validateSnapshot (label : String) (snapshot : ChannelSnapshot) : Except ModelError Unit := do
  ensure (snapshot.status = .active) s!"{label} channel {snapshot.channelId} is not active"
  ensure (snapshot.capacityMsat ≠ 0) s!"{label} channel {snapshot.channelId} has zero capacity"
  ensure (snapshot.localBalanceMsat ≤ snapshot.capacityMsat && snapshot.remoteBalanceMsat ≤ snapshot.capacityMsat &&
      (checkedAdd snapshot.localBalanceMsat snapshot.remoteBalanceMsat).any (· ≤ snapshot.capacityMsat))
    s!"{label} channel {snapshot.channelId} has incoherent balances"
  ensure (snapshot.localRatio.isFinite && (Binary64.ofNat 0).le snapshot.localRatio &&
      snapshot.localRatio.le (.ofNat 1))
    s!"{label} channel {snapshot.channelId} has an invalid local ratio"
  let expectedRatio := (Binary64.ofNat snapshot.localBalanceMsat).div (.ofNat snapshot.capacityMsat)
  ensure (!((Binary64.ofRat (1/2^52)).mul (.ofNat 4)).lt (snapshot.localRatio.sub expectedRatio).abs)
    s!"{label} channel {snapshot.channelId} has an inconsistent local ratio"

def validateOrigin (ext : External) (network : BitcoinNetwork) (label : String) (snapshot : ChannelSnapshot) :
    Except ModelError Unit := do
  ensure (snapshot.network = some network) s!"{label} snapshot network does not match simulation network"
  let storedDigest ← require snapshot.stateDigest s!"{label} snapshot has no state digest"
  ensure (storedDigest = channelSnapshotStateDigest ext snapshot) s!"{label} snapshot state digest is invalid"

def directionMatches (direction : FindingDirection) (imbalance : LiquidityImbalance) (belowHalf : Bool) : Bool :=
  match direction, imbalance, belowHalf with
  | .outbound, .outboundDrained, _ => true
  | .outbound, .severelyDrained, true => true
  | .inbound, .inboundDrained, _ => true
  | .inbound, .severelyDrained, false => true
  | _, _, _ => false

def validateContext (input : SimulationInput) : Except ModelError BitcoinNetwork := do
  if input.actionType ≠ .rebalanceChannel then throw (.unsupported modelId)
  ensure (!Text.isBlank input.nodeId) "node identity is required"
  let network ← require input.network "network identity is required"
  ensure (input.provenance.network = some network) "finding provenance network does not match simulation network"
  match input.provenance.source with
  | .lnd _ configuredNode =>
    ensure (configuredNode = input.nodeId) "source provenance does not match node identity"
  | _ => pure ()
  ensure (input.modelId = modelId ∧ input.modelVersion = modelVersion)
    (s!"request declares model {input.modelId} v{input.modelVersion}, expected {modelId} v{modelVersion}")
  return network

def validateObservation (ext : External) (network : BitcoinNetwork) (input : SimulationInput) :
    Except ModelError FindingDirection := do
  let provenanceSnapshot ← require input.provenance.observation.newest
    "finding provenance has an empty observation window"
  ensure (input.recommendationTarget = input.findingChannel ∧
    input.provenance.observation.channelId = input.findingChannel)
    "recommendation and provenance must identify the finding channel"
  ensure (provenanceSnapshot.network = some network) "snapshot reference network does not match simulation network"
  let direction ← require input.findingDirection "finding liquidity direction is required"
  match direction with
  | .outbound =>
    ensure (input.findingChannel = input.parameters.destinationChannel)
      "outbound-drained finding channel must be the destination"
  | .inbound =>
    ensure (input.findingChannel = input.parameters.sourceChannel) "inbound-drained finding channel must be the source"
  ensure (provenanceSnapshot.observedAt = input.findingSnapshot.ts) "finding snapshot is not the finding's observed state"
  ensure (provenanceSnapshot.stateDigest = channelSnapshotStateDigest ext input.findingSnapshot)
    "finding snapshot digest does not match provenance"
  return direction

def validateSnapshots (ext : External) (network : BitcoinNetwork) (input : SimulationInput) :
    Except ModelError Unit := do
  let parameters := input.parameters
  let source := input.sourceSnapshot
  let destination := input.destinationSnapshot
  ensure (parameters.sourceChannel ≠ parameters.destinationChannel) "source and destination must differ"
  ensure (parameters.amountMsat ≠ 0) "amount must be > 0"
  ensure (source.channelId = parameters.sourceChannel ∧ destination.channelId = parameters.destinationChannel)
    "snapshot identity does not match request parameters"
  ensure (source.nodeId = some input.nodeId ∧ destination.nodeId = some input.nodeId)
    "snapshot node identity does not match finding provenance"
  validateOrigin ext network "source" source
  validateOrigin ext network "destination" destination
  ensure (source.ts = destination.ts) "source and destination snapshots must come from the same observation"
  validateSnapshot "source" source
  validateSnapshot "destination" destination

def validateAmount (input : SimulationInput) : Except ModelError Unit := do
  let amount := input.parameters.amountMsat
  let source := input.sourceSnapshot
  let destination := input.destinationSnapshot
  ensure (amount ≤ source.spendableOutboundMsat)
    (s!"amount {amount} msat exceeds source spendable outbound liquidity {source.spendableOutboundMsat} msat")
  ensure (amount ≤ destination.spendableInboundMsat)
    (s!"amount {amount} msat exceeds destination spendable inbound liquidity {destination.spendableInboundMsat} msat")
  ensure (amount ≤ source.localBalanceMsat ∧ amount ≤ destination.remoteBalanceMsat)
    "amount exceeds recorded channel-side balance"
  ensure ((checkedAdd destination.localBalanceMsat amount).any (· ≤ destination.capacityMsat))
    "amount would overflow destination capacity"

def validate (ext : External) (input : SimulationInput) : Except ModelError Unit := do
  let network ← validateContext input
  let direction ← validateObservation ext network input
  validateSnapshots ext network input
  ensure (directionMatches direction (liquidityImbalance input.findingSnapshot)
      (input.findingSnapshot.localRatio.lt (.ofRat (1/2))))
    "finding direction does not match the recorded channel state"
  validateAmount input

/-- The sum of the destination wraps around in a release build. -/
def buildWarnings (source destination : ChannelSnapshot) (amountMsat : Nat) : List SimulationWarning :=
  (if source.capacityMsat / 2 < amountMsat ∨ destination.capacityMsat / 2 < amountMsat then
    [{ code := "amount_exceeds_half_capacity"
       description := "The rebalance amount exceeds half of the capacity of at least one channel." }] else []) ++
  (if source.localBalanceMsat - amountMsat < source.capacityMsat / 100 then
    [{ code := "source_balance_near_reserve"
       description := "After rebalance, source local balance is close to the channel reserve limit." }] else []) ++
  (if destination.capacityMsat - destination.capacityMsat / 100 <
      (destination.localBalanceMsat + amountMsat) % 2^64 then
    [{ code := "destination_balance_near_capacity"
       description := "After rebalance, destination local balance is close to channel capacity." }] else [])

def state (local_ remote capacity : Nat) : ProjectedState where
  localRatio := (Binary64.ofNat local_).div (.ofNat capacity)
  localBalanceMsat := local_
  remoteBalanceMsat := remote
  capacityMsat := capacity

def calculate (value : Option Nat) (message : String) : Except ModelError Nat :=
  match value with
  | some n => .ok n
  | none => .error (.calculationFailed message)

def delta (input : SimulationInput) (snapshot : ChannelSnapshot) (localAfter remoteAfter : Nat) : ProjectedDelta where
  channelId := snapshot.channelId
  localBeforeMsat := snapshot.localBalanceMsat
  localAfterMsat := localAfter
  remoteBeforeMsat := snapshot.remoteBalanceMsat
  remoteAfterMsat := remoteAfter
  deltaMsat := input.parameters.amountMsat
  clearsFinding := input.findingChannel = snapshot.channelId ∧
    (LiquidityProfile.compute snapshot.capacityMsat localAfter remoteAfter).imbalance = .balanced

def assumptions : List Assumption :=
  [{ code := "fees_not_estimated", description := "Routing fees are not estimated; actual cost may vary" },
    { code := "external_network_state_unmodelled", description := "Only recorded local channel state is modelled" }]

def simulate (ext : External) (codec : SimulationCodec) (input : SimulationInput) :
    Except ModelError SimulationResult := do
  validate ext input
  let amount := input.parameters.amountMsat
  let source := input.sourceSnapshot
  let destination := input.destinationSnapshot
  let sourceLocalAfter ← calculate (checkedSub source.localBalanceMsat amount) "source local underflow"
  let sourceRemoteAfter ← calculate (checkedAdd source.remoteBalanceMsat amount) "source remote overflow"
  let destinationLocalAfter ← calculate (checkedAdd destination.localBalanceMsat amount) "destination local overflow"
  let destinationRemoteAfter ← calculate (checkedSub destination.remoteBalanceMsat amount)
    "destination remote underflow"
  let (baseline, projected) :=
    if input.findingChannel = source.channelId then
      (state source.localBalanceMsat source.remoteBalanceMsat source.capacityMsat,
        state sourceLocalAfter sourceRemoteAfter source.capacityMsat)
    else
      (state destination.localBalanceMsat destination.remoteBalanceMsat destination.capacityMsat,
        state destinationLocalAfter destinationRemoteAfter destination.capacityMsat)
  return {
    modelId, modelVersion, baseline, projected, assumptions
    inputHash := computeInputHash ext codec input
    deltas :=
      [delta input source sourceLocalAfter sourceRemoteAfter,
        delta input destination destinationLocalAfter destinationRemoteAfter]
    warnings := buildWarnings source destination amount
    confidence := .medium }

end LiquidityRedistributionModel

end Rieko
