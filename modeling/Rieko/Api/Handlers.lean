import Rieko.Api.Routes
import Rieko.Api.SimulationRate
import Rieko.Api.Simulations
import Rieko.IngestBtcpay.Signature

namespace Rieko

open SimulationService StatefulResult

/-- The libraries behind the handlers: what they make of the parts of a request. A parser that refuses says why. -/
structure ApiExternal where
  simulation : SimulationExternal
  signature : SignatureExternal
  pathParameter : String → Except String String
  limitQuery : String → Except String Api.LimitQuery
  snapshotQuery : String → Except String Api.SnapshotQuery
  createCommand : List UInt8 → Except String CreateSimulationCommand
  compareCommand : HttpRequest → Except (Nat × String) CompareSimulationsCommand
  webhookBody : List UInt8 → WebhookBody
  overlongBody : String

structure ApiConfig where
  version : String
  authToken : Option String
  btcpayWebhookSecret : Option String
  simulate : Bool
  execute : Bool
deriving DecidableEq, Repr

/-- How a request ends: in time, timed out before its storage task started, or timed out with the task going on. -/
inductive Lateness where
  | inTime | dropped | detached
deriving DecidableEq, Repr

/-- What a request meets: the clocks, a storage that lets nobody in, a body that does not arrive, the ids of a
    simulation and what is said of a task that panics. -/
structure RequestDraws where
  clock : Nat → DateTime
  instant : Instant
  busy : Bool
  bodyLate : Bool
  lateness : Lateness
  simulation : SimulationDraws
  panic : String

namespace Api

variable {σ ε α : Type}

section Storage

def blockStorage (message : ε → String) (busy : Bool) (f : EStateM ε σ α) : EStateM (Nat × String) σ α :=
  if busy then throw (408, "storage is busy") else f.adaptExcept fun e => (500, message e)

def textReply (refusal : Nat × String) : Reply := ⟨refusal.1, .text refusal.2⟩

def asking (busy : Bool) (f : EStateM StorageError σ α) : EStateM Reply σ α :=
  (blockStorage StorageError.toString busy f).adaptExcept textReply

def extract (parsed : Except String α) : EStateM Reply σ α :=
  ofExcept (parsed.mapError fun message => ⟨400, .text message⟩)

end Storage

section Simulations

def simulationErrorStatus : SimulationAppErrorKind → Nat
  | .recommendationNotFound | .findingNotFound | .simulationNotFound | .snapshotNotFound => 404
  | .findingInactive | .staleInput => 409
  | .storage | .modelFailure => 500
  | .incompatibleSimulations => 409
  | _ => 400

def simulationErrorResponse (status : Nat) (error : SimulationAppError SimulationView) : Reply :=
  ⟨status, .simulationError ⟨error.kind, error.message, error.simulation⟩⟩

def blockingSimulationError (refusal : Nat × String) : Reply :=
  simulationErrorResponse refusal.1 (.new .storage refusal.2)

def transportSimulationError (status : Nat) (message : String) : Reply :=
  simulationErrorResponse status (.new .invalidRequest message)

def simulationQuery (busy : Bool) (f : EStateM PlainError σ α) : EStateM Reply σ α :=
  if busy then throw (blockingSimulationError (408, "storage is busy"))
  else f.adaptExcept fun error => simulationErrorResponse (simulationErrorStatus error.kind) error.widen

def isJson (request : HttpRequest) : Bool :=
  ((request.header "content-type").bind headerText).any fun value =>
    let mediaType := Text.trim ((value.splitOn ';').headD [])
    mediaType.map Char.toLower = "application/json".toList

def readSimulationJson (ext : ApiExternal) (draws : RequestDraws) (request : HttpRequest) :
    Except Reply CreateSimulationCommand :=
  if !isJson request then .error (transportSimulationError 415 "content type must be application/json")
  else if draws.bodyLate then .error (transportSimulationError 408 "request body timed out")
  else if maxBodyBytes < request.body.length then .error (transportSimulationError 413 "length limit exceeded")
  else (ext.createCommand request.body).mapError (transportSimulationError 400)

def createSimulationV2 [SimulationStorage σ] (ext : ApiExternal) (draws : RequestDraws) (request : HttpRequest)
    (rate : AppState) (s : σ) : Reply × AppState × σ :=
  match AppState.checkSimulationRate draws.instant rate with
  | (.refused status message, rate) => (transportSimulationError status message, rate, s)
  | (.passed, rate) =>
    match readSimulationJson ext draws request with
    | .error reply => (reply, rate, s)
    | .ok command =>
      if draws.busy then (blockingSimulationError (408, "storage is busy"), rate, s)
      else
        match SimulationCall.run ext.simulation ⟨command, draws.simulation⟩ s with
        | .ok outcome s => (⟨if outcome.reused then 200 else 201, .created outcome⟩, rate, s)
        | .error (.failed error) s => (simulationErrorResponse (simulationErrorStatus error.kind) error, rate, s)
        | .error .panicked s =>
          (blockingSimulationError (500, s!"blocking storage task failed: {draws.panic}"), rate, s)

end Simulations

section Reads

variable [ApiStorage σ] (ext : ApiExternal) (config : ApiConfig) (draws : RequestDraws)

def sourceLabel (state : OperationalState) : String :=
  match state.source with
  | .fixture => "fixture"
  | .lndRest connected => s!"lnd-rest ({connection connected})"
  | .btcPayGreenfield connected => s!"btcpay-greenfield ({connection connected})"
where
  connection (connected : Bool) : String := if connected then "connected" else "disconnected"

def operationTimes (attempt success : Option DateTime) : OperationTimes :=
  ⟨attempt.map ext.simulation.rfc3339, success.map ext.simulation.rfc3339⟩

def statusBody (schemaVersion : Int) (integrityOk : Bool) (counts : StorageCounts)
    (operational : Option OperationalState) : Status :=
  let state := operational.getD {}
  { engine := "rieko"
    version := config.version
    schemaVersion
    readOnly := !config.execute
    integrity := if integrityOk then "ok" else "failed"
    overall := (assess state {} (draws.clock 0) integrityOk).asStr
    source := operational.map sourceLabel
    sourceDataAt := state.sourceDataAt.map ext.simulation.rfc3339
    lastIngestion :=
      operational.map fun state => operationTimes ext state.lastIngestionAttempt state.lastIngestionSuccess
    lastCycle := operational.map fun state => operationTimes ext state.lastCycleAttempt state.lastCycleSuccess
    llm := state.llm.asStr
    alertSink := state.alertSink.asStr
    cleanup := state.cleanup.asStr
    lastCleanup := operational.map fun state => operationTimes ext state.lastCleanupAttempt state.lastCleanupSuccess
    counts := {
      findings := counts.findings
      recommendations := counts.recommendations
      simulations := counts.simulations
      audit := counts.audit
      channelSnapshots := counts.channelSnapshots
      simulationCompleted := counts.simulationCounts.completed
      simulationFailed := counts.simulationCounts.failed
      simulationStale := counts.simulationCounts.stale } }

/-- The integrity check is the only query whose failure is part of the answer. -/
def status : EStateM Reply σ Status := do
  let schemaVersion ← asking draws.busy ApiStorage.schemaVersion
  let integrity ← asking draws.busy (attempt ApiStorage.integrityCheck)
  let counts ← asking draws.busy ApiStorage.counts
  let operational ← operationalState
  return statusBody ext config draws schemaVersion integrity.toBool counts operational
where
  operationalState : EStateM Reply σ (Option OperationalState) :=
    (blockStorage OperationalStateError.toString draws.busy ApiStorage.readOperationalState).adaptExcept textReply

def inspectBtcpay : EStateM Reply σ (Option BtcPayInspectionState) := do
  let state ← status.operationalState draws
  return state.map fun state =>
    { source := state.source
      lastAttempt := state.lastIngestionAttempt
      lastSuccess := state.lastIngestionSuccess
      sourceDataAt := state.sourceDataAt }

def inspectBitcoin : EStateM Reply σ (Option BitcoinCoreState) := do
  let state ← status.operationalState draws
  return state.bind (·.bitcoinCore)

def inspectLightning : EStateM Reply σ (Option LightningState) := do
  let state ← status.operationalState draws
  return state.bind (·.lightning)

def findings (q : LimitQuery) : EStateM Reply σ (List Finding) := do
  let lifecycle ← ofExcept (lifecycle q)
  asking draws.busy (ApiStorage.latestFindingsByLifecycle q.rows lifecycle)

def findingById (findingId : String) : EStateM Reply σ Finding := do
  let finding ← asking draws.busy (SimulationStorage.findingById findingId)
  ofExcept (okOr finding ⟨404, .text s!"finding {findingId} not found"⟩)

def findingsForChannel (channelId : String) (q : LimitQuery) : EStateM Reply σ (List Finding) := do
  let lifecycle ← ofExcept (lifecycle q)
  asking draws.busy (ApiStorage.findingsForChannelByLifecycle channelId q.rows lifecycle)

def recommendations (q : LimitQuery) : EStateM Reply σ (List Recommendation) :=
  asking draws.busy
    (if recommendationHistory q then ApiStorage.latestRecommendations q.rows
    else ApiStorage.latestActiveRecommendations q.rows)

def audit (q : LimitQuery) : EStateM Reply σ (List AuditEntry) := asking draws.busy (ApiStorage.recentAudit q.rows)

def allSnapshots (q : LimitQuery) : EStateM Reply σ (List ChannelSnapshot) :=
  asking draws.busy (ApiStorage.recentSnapshotsAll q.rows)

def channelSnapshots (channelId : String) (q : SnapshotQuery) : EStateM Reply σ (List ChannelSnapshot) :=
  if q.nodeId.isSome && q.network.isNone then throw ⟨400, .text "node_id requires a network filter"⟩
  else
    asking draws.busy <|
      match q.network with
      | some network =>
        ApiStorage.recentChannelSnapshotsForNetwork network q.nodeId channelId (clampLimit q.limit)
      | none => ApiStorage.recentChannelSnapshots channelId (clampLimit q.limit)

def recentSimulations (q : LimitQuery) : EStateM Reply σ (List Simulation) :=
  asking draws.busy (ApiStorage.recentSimulations q.rows)

def recentSimulationsV2 (q : LimitQuery) : EStateM Reply σ (List SimulationRecord) := do
  let rows ← asking draws.busy (ApiStorage.recentSimulationsV2 q.rows)
  return rows.mapIdx fun reading record => simulationValue ext.simulation record (draws.clock reading)

def simulationV2ById (simulationId : String) : EStateM Reply σ SimulationRecord := do
  let found ← asking draws.busy (ApiStorage.simulationV2ById simulationId)
  let record ← ofExcept (okOr found ⟨404, .text "simulation not found"⟩)
  return simulationValue ext.simulation record (draws.clock 0)

def simulationViews (q : LimitQuery) : EStateM Reply σ (List SimulationView) :=
  simulationQuery draws.busy (listSimulations ext.simulation q.rows draws.clock)

def simulationViewById (simulationId : String) : EStateM Reply σ SimulationView := do
  let simulation ← simulationQuery draws.busy
    (getSimulation ext.simulation simulationId (draws.clock 0))
  ofExcept (okOr simulation (simulationErrorResponse 404
    (.new .simulationNotFound s!"no simulation with id {simulationId}")))

def simulationReportById (simulationId : String) : EStateM Reply σ SimulationReport := do
  let simulation ← simulationViewById ext draws simulationId
  return simulationReport simulation config.version (draws.clock 1)

def compareSimulationsV2 (request : HttpRequest) : EStateM Reply σ SimulationComparison := do
  let command ← ofExcept ((ext.compareCommand request).mapError fun (status, message) =>
    transportSimulationError status message)
  simulationQuery draws.busy
    (compareSimulations ext.simulation command (draws.clock 0) (draws.clock 1))

def reply (request : HttpRequest) (parameters : List String) (query : Query) : EStateM Reply σ Body :=
  match query with
  | .status => .status <$> status ext config draws
  | .inspectLightning => .lightning <$> inspectLightning draws
  | .inspectBitcoin => .bitcoin <$> inspectBitcoin draws
  | .inspectBtcpay => .btcpay <$> inspectBtcpay draws
  | .findings => do
    let q ← limitQuery
    .findings <$> findings draws q
  | .findingsForChannel => do
    let channelId ← parameter
    let q ← limitQuery
    .findings <$> findingsForChannel draws channelId q
  | .findingById => do
    let findingId ← parameter
    .finding <$> findingById draws findingId
  | .recommendations => do
    let q ← limitQuery
    .recommendations <$> recommendations draws q
  | .audit => do
    let q ← limitQuery
    .audit <$> audit draws q
  | .allSnapshots => do
    let q ← limitQuery
    .snapshots <$> allSnapshots draws q
  | .channelSnapshots => do
    let channelId ← parameter
    let q ← extract (ext.snapshotQuery request.query)
    .snapshots <$> channelSnapshots draws channelId q
  | .recentSimulations => do
    let q ← limitQuery
    .simulations <$> recentSimulations draws q
  | .recentSimulationsV2 => do
    let q ← limitQuery
    .simulationRecords <$> recentSimulationsV2 ext draws q
  | .simulationV2ById => do
    let simulationId ← parameter
    .simulationRecord <$> simulationV2ById ext draws simulationId
  | .simulationViews => do
    let q ← limitQuery
    .simulationViews <$> simulationViews ext draws q
  | .simulationViewById => do
    let simulationId ← parameter
    .simulationView <$> simulationViewById ext draws simulationId
  | .simulationReportById => do
    let simulationId ← parameter
    .report <$> simulationReportById ext config draws simulationId
  | .compareSimulationsV2 => .comparison <$> compareSimulationsV2 ext draws request
where
  parameter : EStateM Reply σ String := extract (ext.pathParameter (parameters.headD ""))
  limitQuery : EStateM Reply σ LimitQuery := extract (ext.limitQuery request.query)

end Reads

end Api

end Rieko
