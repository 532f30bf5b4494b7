import Rieko.Api.Access
import Rieko.Api.Webhook
import Rieko.Simulation.Comparison
import Rieko.Status.Health
import Rieko.Storage.Operations

namespace Rieko

class ApiStorage (σ : Type) extends ReplayStorage σ where
  schemaVersion : EStateM StorageError σ Int
  integrityCheck : EStateM StorageError σ Unit
  counts : EStateM StorageError σ StorageCounts
  latestFindingsByLifecycle (limit : Nat) (lifecycle : FindingLifecycleFilter) : EStateM StorageError σ (List Finding)
  findingsForChannelByLifecycle (channelId : String) (limit : Nat) (lifecycle : FindingLifecycleFilter) :
    EStateM StorageError σ (List Finding)
  latestRecommendations (limit : Nat) : EStateM StorageError σ (List Recommendation)
  latestActiveRecommendations (limit : Nat) : EStateM StorageError σ (List Recommendation)
  recentAudit (limit : Nat) : EStateM StorageError σ (List AuditEntry)
  recentSnapshotsAll (limit : Nat) : EStateM StorageError σ (List ChannelSnapshot)
  recentChannelSnapshots (channelId : String) (limit : Nat) : EStateM StorageError σ (List ChannelSnapshot)
  recentChannelSnapshotsForNetwork (network : BitcoinNetwork) (nodeId : Option String) (channelId : String)
    (limit : Nat) : EStateM StorageError σ (List ChannelSnapshot)
  recentSimulations (limit : Nat) : EStateM StorageError σ (List Simulation)
  recentSimulationsV2 (limit : Nat) : EStateM StorageError σ (List SimulationRecord)
  simulationV2ById (simulationId : String) : EStateM StorageError σ (Option SimulationRecord)
  readOperationalState : EStateM OperationalStateError σ (Option OperationalState)

instance : ApiStorage MemoryStorage where
  schemaVersion := MemoryStorage.schemaVersion
  integrityCheck := MemoryStorage.integrityCheck
  counts := MemoryStorage.counts
  latestFindingsByLifecycle := MemoryStorage.latestFindingsByLifecycle
  findingsForChannelByLifecycle := MemoryStorage.findingsForChannelByLifecycle
  latestRecommendations := MemoryStorage.latestRecommendations
  latestActiveRecommendations := MemoryStorage.latestActiveRecommendations
  recentAudit := MemoryStorage.recentAudit
  recentSnapshotsAll := MemoryStorage.recentSnapshotsAll
  recentChannelSnapshots := MemoryStorage.recentChannelSnapshots
  recentChannelSnapshotsForNetwork := MemoryStorage.recentChannelSnapshotsForNetwork
  recentSimulations := MemoryStorage.recentSimulations
  recentSimulationsV2 := MemoryStorage.recentSimulationsV2
  simulationV2ById := MemoryStorage.simulationV2ById
  readOperationalState := MemoryStorage.readOperationalState

namespace Api

structure OperationTimes where
  attempt : Option String
  success : Option String
deriving DecidableEq, Repr

structure StatusCounts where
  findings : Nat
  recommendations : Nat
  simulations : Nat
  audit : Nat
  channelSnapshots : Nat
  simulationCompleted : Nat
  simulationFailed : Nat
  simulationStale : Nat
deriving DecidableEq, Repr

structure Status where
  engine : String
  version : String
  schemaVersion : Int
  readOnly : Bool
  integrity : String
  overall : String
  source : Option String
  sourceDataAt : Option String
  lastIngestion : Option OperationTimes
  lastCycle : Option OperationTimes
  llm : String
  alertSink : String
  cleanup : String
  lastCleanup : Option OperationTimes
  counts : StatusCounts
deriving DecidableEq, Repr

structure BtcPayInspectionState where
  source : SourceState
  lastAttempt : Option DateTime
  lastSuccess : Option DateTime
  sourceDataAt : Option DateTime
deriving DecidableEq, Repr

structure SimulationErrorBody where
  code : SimulationAppErrorKind
  message : String
  simulation : Option SimulationView
deriving DecidableEq, Repr

inductive Body where
  | empty
  | text (text : String)
  | tooLarge
  | status (status : Status)
  | lightning (state : Option LightningState)
  | bitcoin (state : Option BitcoinCoreState)
  | btcpay (state : Option BtcPayInspectionState)
  | findings (findings : List Finding)
  | finding (finding : Finding)
  | recommendations (recommendations : List Recommendation)
  | audit (entries : List AuditEntry)
  | snapshots (snapshots : List ChannelSnapshot)
  | simulations (simulations : List Simulation)
  | simulationRecords (records : List SimulationRecord)
  | simulationRecord (record : SimulationRecord)
  | simulationViews (views : List SimulationView)
  | simulationView (view : SimulationView)
  | report (report : SimulationReport)
  | created (outcome : CreateSimulationOutcome SimulationView)
  | comparison (comparison : SimulationComparison)
  | simulationError (error : SimulationErrorBody)
  | webhook (answer : WebhookAnswer)

structure Reply where
  status : Nat
  body : Body

structure Response where
  status : Nat
  headers : List (String × String)
  body : Body

structure LimitQuery where
  limit : Option Nat
  lifecycle : Option String
deriving DecidableEq, Repr

structure SnapshotQuery where
  limit : Option Nat
  network : Option BitcoinNetwork
  nodeId : Option String
deriving DecidableEq, Repr

def clampLimit (limit : Option Nat) : Nat := max 1 (min 500 (limit.getD 50))

def LimitQuery.rows (q : LimitQuery) : Nat := clampLimit q.limit

def lifecycle (q : LimitQuery) : Except Reply FindingLifecycleFilter :=
  match q.lifecycle.getD "active" with
  | "active" => .ok .active
  | "resolved" => .ok .resolved
  | "all" => .ok .all
  | _ => .error ⟨400, .text "lifecycle must be active, resolved, or all"⟩

def recommendationHistory (q : LimitQuery) : Bool := q.lifecycle = some "all"

inductive Query where
  | status | inspectLightning | inspectBitcoin | inspectBtcpay
  | findings | findingsForChannel | findingById
  | recommendations | audit | allSnapshots | channelSnapshots
  | recentSimulations | recentSimulationsV2 | simulationV2ById
  | simulationViews | simulationViewById | simulationReportById | compareSimulationsV2
deriving DecidableEq, Repr

inductive Endpoint where
  | query (query : Query)
  | createSimulationV2
  | btcpayWebhook
deriving DecidableEq, Repr

structure Route where
  path : String
  method : HttpMethod
  endpoint : Endpoint
deriving DecidableEq, Repr

def coreRoutes : List Route := [
  ⟨"/status", .get, .query .status⟩,
  ⟨"/inspect/lightning", .get, .query .inspectLightning⟩,
  ⟨"/inspect/bitcoin", .get, .query .inspectBitcoin⟩,
  ⟨"/inspect/btcpay", .get, .query .inspectBtcpay⟩,
  ⟨"/findings", .get, .query .findings⟩,
  ⟨"/findings/channel/:channel_id", .get, .query .findingsForChannel⟩,
  ⟨"/findings/:finding_id", .get, .query .findingById⟩,
  ⟨"/recommendations", .get, .query .recommendations⟩,
  ⟨"/audit", .get, .query .audit⟩,
  ⟨"/snapshots", .get, .query .allSnapshots⟩,
  ⟨"/snapshots/channel/:channel_id", .get, .query .channelSnapshots⟩,
  ⟨"/api/v1/integrations/btcpay/webhook", .post, .btcpayWebhook⟩]

def simulateRoutes : List Route := [
  ⟨"/simulations", .get, .query .recentSimulations⟩,
  ⟨"/simulations/v2", .get, .query .recentSimulationsV2⟩,
  ⟨"/simulations/:simulation_id", .get, .query .simulationV2ById⟩,
  ⟨"/api/v2/simulations", .get, .query .simulationViews⟩,
  ⟨"/api/v2/simulations", .post, .createSimulationV2⟩,
  ⟨"/api/v2/simulations/:simulation_id", .get, .query .simulationViewById⟩,
  ⟨"/api/v2/simulations/:simulation_id/report", .get, .query .simulationReportById⟩,
  ⟨"/api/v2/simulations/compare", .post, .query .compareSimulationsV2⟩]

def segments (path : String) : List (List Char) := path.toList.splitOn '/'

def isParameter (segment : List Char) : Bool := segment.head? = some ':'

/-- What the parameters of a pattern match in a path, nothing where the two do not match. A parameter matches a
    segment that is not empty. -/
def matchSegments : List (List Char) → List (List Char) → Option (List String)
  | [], [] => some []
  | pattern :: patterns, segment :: segments =>
    if isParameter pattern then
      if segment.isEmpty then none else (matchSegments patterns segments).map (.ofList segment :: ·)
    else if pattern = segment then matchSegments patterns segments else none
  | _, _ => none

/-- Of two patterns that match one path the one with a fixed segment where the other first has a parameter is
    preferred. -/
def prefers : List (List Char) → List (List Char) → Bool
  | pattern :: patterns, other :: others =>
    if isParameter pattern = isParameter other then prefers patterns others else isParameter other
  | _, _ => false

def preferred (route best : Route) : Route :=
  if prefers (segments route.path) (segments best.path) then route else best

inductive Routed where
  | notFound
  | methodNotAllowed
  | handled (endpoint : Endpoint) (parameters : List String)
deriving DecidableEq, Repr

def answers (method : HttpMethod) (route : Route) : Bool :=
  route.method = if method = .head then .get else method

def matched (route : Route) (path : String) : Option (List String) :=
  matchSegments (segments route.path) (segments path)

def pick (routes : List Route) (method : HttpMethod) (path : String) (best : Route) : Routed :=
  match routes.find? fun route => route.path = best.path && answers method route with
  | none => .methodNotAllowed
  | some route => .handled route.endpoint ((matched route path).getD [])

def routed (routes : List Route) (method : HttpMethod) (path : String) : Routed :=
  match routes.filter fun route => (matched route path).isSome with
  | [] => .notFound
  | route :: others => pick routes method path (others.foldr preferred route)

example : routed (coreRoutes ++ simulateRoutes) .head "/findings/channel" =
    .handled (.query .findingById) ["channel"] := by
  decide

example : routed (coreRoutes ++ simulateRoutes) .get "/api/v2/simulations/compare" = .methodNotAllowed := by
  decide +kernel

example : routed (coreRoutes ++ simulateRoutes) .get "/api/v2/simulations/compare/report" =
    .handled (.query .simulationReportById) ["compare"] := by
  decide +kernel

end Api

end Rieko
