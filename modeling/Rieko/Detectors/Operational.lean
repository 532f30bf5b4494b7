import Rieko.Detectors.Registry
import Rieko.Status.State

namespace Rieko

namespace OperationalState

def lastBtcPayObservation (state : OperationalState) : Option DateTime :=
  state.lastIngestionAttempt.or state.lastIngestionSuccess

def completeCore (state : OperationalState) : Option (BitcoinCoreState × BitcoinCoreSnapshot) :=
  state.bitcoinCore.bind fun core => if core.connected then core.snapshot.map (core, ·) else none

def completeLightning (state : OperationalState) : Option (LightningState × LightningSnapshot) :=
  state.lightning.bind fun lightning =>
    if lightning.connected then lightning.snapshot.map (lightning, ·) else none

end OperationalState

def unixEpoch : DateTime := 0

def latest (observations : List (Option DateTime)) : DateTime :=
  (observations.filterMap fun observation => observation).max?.getD unixEpoch

namespace OperationalEvidence

def instant (ext : External) : Option DateTime → Json
  | some instant => .string (ext.jsonInstant instant)
  | none => .null

def count (n : Nat) : Json := .number (.posInt n)

def btcPay (ext : External) (state : OperationalState) (attempt success : String) : Json :=
  .ofPairs [("source", .string state.source.asStr), ("connected", .bool state.source.connected),
    (attempt, instant ext state.lastIngestionAttempt), (success, instant ext state.lastIngestionSuccess)]

def core (ext : External) (core : BitcoinCoreState) (snapshot : BitcoinCoreSnapshot) : Json :=
  .ofPairs [("connected", .bool core.connected), ("last_attempt", instant ext core.lastAttempt),
    ("last_success", instant ext core.lastSuccess), ("network", .string snapshot.network.toString),
    ("block_height", count snapshot.blockHeight), ("header_height", count snapshot.headerHeight),
    ("synchronized", .bool snapshot.synchronized), ("observed_at", instant ext snapshot.observedAt)]

def lightning (ext : External) (lightning : LightningState) (snapshot : LightningSnapshot) : Json :=
  .ofPairs [("connected", .bool lightning.connected), ("last_attempt", instant ext lightning.lastAttempt),
    ("last_success", instant ext lightning.lastSuccess), ("node_id", .string snapshot.nodeId),
    ("synced_to_chain", .bool snapshot.syncedToChain), ("active_channels", count snapshot.activeChannels),
    ("inactive_channels", count snapshot.inactiveChannels), ("observed_at", instant ext snapshot.observedAt)]

end OperationalEvidence

/-- The warning that an operational detector raises about a store. It carries no provenance. -/
def operationalFinding (ext : External) (id version node : String) (evidence : List Evidence)
    (explanation : String) (observedAt : DateTime) : Finding where
  id := findingIdentity ext id version none (some node) none
  detector := id
  detectorVersion := version
  schemaVersion := findingSchemaVersion
  severity := .warning
  node := some node
  channel := none
  evidence
  provenance := none
  explanation := some explanation
  timestamp := observedAt
  firstSeenAt := observedAt
  lastSeenAt := observedAt
  lifecycle := .active

namespace BtcPayBackendHealthDetector

def id : String := "btcpay_backend_health"

def version : String := "1"

def observedAt (state : OperationalState) : DateTime := state.lastBtcPayObservation.getD unixEpoch

def run (ext : External) (state : OperationalState) (_ : GraphView) (ctx : DetectorContext) : List Finding :=
  match state.source, ctx.node with
  | .btcPayGreenfield false, some node =>
    [operationalFinding ext id version node
      [⟨"operational_state",
        OperationalEvidence.btcPay ext state "last_ingestion_attempt" "last_ingestion_success"⟩]
      ("The persisted BTCPay Greenfield source is unreachable; the agent will retry on its next " ++
        "configured polling cycle.")
      (observedAt state)]
  | _, _ => []

def isComplete (state : OperationalState) : Bool :=
  match state.source with
  | .btcPayGreenfield _ => true
  | _ => false

def detector (ext : External) (state : OperationalState) : Detector where
  id := id
  version := version
  run := run ext state
  isComplete _ _ := isComplete state
  networkScope _ := none

end BtcPayBackendHealthDetector

namespace BitcoinCoreSyncCorrelationDetector

def id : String := "bitcoin_core_sync_correlation"

def version : String := "1"

def observedAt (state : OperationalState) : DateTime :=
  latest [state.lastBtcPayObservation, state.bitcoinCore.map (·.lastAttempt)]

def completeState (state : OperationalState) : Option (BitcoinCoreState × BitcoinCoreSnapshot) :=
  match state.source with
  | .btcPayGreenfield true => state.completeCore
  | _ => none

def run (ext : External) (state : OperationalState) (_ : GraphView) (ctx : DetectorContext) : List Finding :=
  match completeState state, ctx.node with
  | some (core, snapshot), some node =>
    if snapshot.synchronized then []
    else
      [operationalFinding ext id version node
        [⟨"btcpay_state", OperationalEvidence.btcPay ext state "last_attempt" "last_success"⟩,
          ⟨"bitcoin_core_state", OperationalEvidence.core ext core snapshot⟩]
        ("BTCPay Greenfield is reachable, but the directly observed Bitcoin Core node is not " ++
          "synchronized.")
        (observedAt state)]
  | _, _ => []

def detector (ext : External) (state : OperationalState) : Detector where
  id := id
  version := version
  run := run ext state
  isComplete _ _ := (completeState state).isSome
  networkScope _ := none

end BitcoinCoreSyncCorrelationDetector

namespace LightningChainSyncCorrelationDetector

def id : String := "lightning_chain_sync_correlation"

def version : String := "1"

def observedAt (state : OperationalState) : DateTime :=
  latest [state.lastBtcPayObservation, state.bitcoinCore.map (·.lastAttempt),
    state.lightning.map (·.lastAttempt)]

def completeState (state : OperationalState) :
    Option ((BitcoinCoreState × BitcoinCoreSnapshot) × LightningState × LightningSnapshot) :=
  match state.source with
  | .btcPayGreenfield true =>
    state.completeCore.bind fun core => state.completeLightning.map fun lightning => (core, lightning)
  | _ => none

def run (ext : External) (state : OperationalState) (_ : GraphView) (ctx : DetectorContext) : List Finding :=
  match completeState state, ctx.node with
  | some ((core, coreSnapshot), lightning, lightningSnapshot), some node =>
    if !coreSnapshot.synchronized || lightningSnapshot.syncedToChain then []
    else
      [operationalFinding ext id version node
        [⟨"btcpay_state", OperationalEvidence.btcPay ext state "last_attempt" "last_success"⟩,
          ⟨"bitcoin_core_state", OperationalEvidence.core ext core coreSnapshot⟩,
          ⟨"lightning_state", OperationalEvidence.lightning ext lightning lightningSnapshot⟩]
        ("BTCPay and Bitcoin Core are healthy and synchronized, but the connected LND node is not " ++
          "synchronized to chain.")
        (observedAt state)]
  | _, _ => []

def detector (ext : External) (state : OperationalState) : Detector where
  id := id
  version := version
  run := run ext state
  isComplete _ _ := (completeState state).isSome
  networkScope _ := none

end LightningChainSyncCorrelationDetector

end Rieko
