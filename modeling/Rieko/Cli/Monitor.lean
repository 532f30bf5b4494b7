import Rieko.Cli.GraphSource
import Rieko.Cli.PersistCycle
import Rieko.Detectors.Drift
import Rieko.Detectors.Liquidity
import Rieko.Detectors.Settlement
import Rieko.Graph.History
import Rieko.Storage.Snapshots

namespace Rieko

open StatefulResult CycleM

structure CycleSettings where
  env : CycleEnv
  source : GraphSource
  normalizerVersion : String

structure DetectorClocks where
  liquidity : Nat → DateTime
  drift : Nat → DateTime
  settlement : Nat → DateTime

/-- What one cycle meets outside: one attempt after the other at building the graph, the file that provenance is
    read from, the clocks of its detectors and the client that explains its findings. -/
structure CycleOutside where
  attempts : List Outside
  provenance : Outside
  clocks : DetectorClocks
  llm : Option LlmClient := none

section Operational

variable {σ : Type} [Storage σ]

def sourceState (source : GraphSource) (connected : Bool) : SourceState :=
  if source.lndRest.isSome then .lndRest connected else .fixture

def recordIngestionAttempt (env : CycleEnv) (source : GraphSource) : CycleM σ Unit := do
  let now ← now env
  operational (Storage.updateOperationalState fun state =>
    { state with
      source := sourceState source (state.source = .lndRest true)
      lastIngestionAttempt := some now })

def recordIngestionSuccess (env : CycleEnv) (source : GraphSource) (sourceDataAt : Option DateTime) :
    CycleM σ Unit := do
  let now ← now env
  operational (Storage.updateOperationalState fun state =>
    { state with
      source := sourceState source true
      lastIngestionSuccess := some now
      sourceDataAt := sourceDataAt.or state.sourceDataAt })

def recordIngestionFailure (source : GraphSource) : CycleM σ Unit :=
  operational (Storage.updateOperationalState fun state => { state with source := sourceState source false })

def recordCycleAttempt (env : CycleEnv) : CycleM σ Unit := do
  let now ← now env
  operational (Storage.updateOperationalState fun state => { state with lastCycleAttempt := some now })

end Operational

def newestSourceDataAt (graph : InMemoryGraph) (outside : Outside) : Option DateTime :=
  (graph.storedChannels.map (·.lastSeen) ++ outside.forwardedAt).max?

def cycleSnapshots (ext : External) (network : BitcoinNetwork) (graph : InMemoryGraph) : List ChannelSnapshot :=
  graph.storedChannels.map fun channel =>
    let snapshot := ChannelSnapshot.fromChannel channel channel.lastSeen network
    { snapshot with stateDigest := some (channelSnapshotStateDigest ext snapshot) }

def cycleDetectors (ext : External) (clocks : DetectorClocks) (node : String) : List Detector :=
  [LiquidityDetector.detector ext clocks.liquidity { localNode := node },
    DriftDetector.detector ext clocks.drift { localNode := node },
    SettlementReliabilityDetector.detector ext clocks.settlement { localNode := node }]

def cycleContext (settings : CycleSettings) (source : ObservationSource) (history : Option InMemoryHistory) :
    DetectorContext where
  network := settings.source.network
  history := history.map InMemoryHistory.view
  source := some source
  normalizer := some (GraphSource.normalizer settings.normalizerVersion)
  node := some settings.source.node

def detectorCycles (settings : CycleSettings) (outside : CycleOutside) (graph : InMemoryGraph)
    (history : Option InMemoryHistory) : Except CycleFailure (List DetectorCycle) :=
  match settings.source.observationSource settings.env.ext outside.provenance with
  | .error e => .error (.ingestion e)
  | .ok source =>
    ((cycleDetectors settings.env.ext outside.clocks settings.source.node).mapM fun detector : Detector =>
      detector.evaluate settings.env.ext graph.view (cycleContext settings source history)).mapError .detector

section Cycles

variable {σ : Type} [Storage σ]

def ingestWithRetry (settings : CycleSettings) : List Outside → CycleM σ (Option InMemoryGraph)
  | [] => return none
  | outside :: later => do
    recordIngestionAttempt settings.env settings.source
    match settings.source.build outside with
    | .ok graph =>
      recordIngestionSuccess settings.env settings.source (newestSourceDataAt graph outside)
      return some graph
    | .error e =>
      mapError (addContext s!"recording ingestion failure after: {e}") (recordIngestionFailure settings.source)
      if settings.source.lndRest.isNone then throw ⟨[], .ingestion e⟩
      ingestWithRetry settings later

def persistDetected (settings : CycleSettings) (llm : Option LlmClient) (graph : InMemoryGraph)
    (cycles : List DetectorCycle) : CycleM σ (List Recommendation) :=
  persistCycle settings.env llm settings.source.node
    (cycleSnapshots settings.env.ext settings.source.network graph) (cycles.map (·.scope))
    (bySeverity (cycles.flatMap (·.findings)))

def detectAndPersist (settings : CycleSettings) (outside : CycleOutside) (graph : InMemoryGraph)
    (history : Option InMemoryHistory) : CycleM σ Unit :=
  match detectorCycles settings outside graph history with
  | .error failure => throw ⟨[], failure⟩
  | .ok cycles => discard (persistDetected settings outside.llm graph cycles)

def warmHistory [SnapshotQueries σ] (settings : CycleSettings) :
    List Channel → InMemoryHistory → CycleM σ InMemoryHistory
  | [], history => return history
  | channel :: channels, history => do
    let persisted ← attempt (storage (SnapshotQueries.recentChannelSnapshotsForNetwork settings.source.network
      (some settings.source.node) channel.id 200))
    warmHistory settings channels (history.warmFromSnapshots (match persisted with
      | .ok snapshots => snapshots
      | .error _ => []))

/-- One cycle of the monitor up to its alerts and its cleanup, from its history to that of the next one. -/
def monitorCycle [SnapshotQueries σ] (settings : CycleSettings) (outside : CycleOutside) (first : Bool)
    (history : InMemoryHistory) : CycleM σ InMemoryHistory := do
  match ← ingestWithRetry settings outside.attempts with
  | none => return history
  | some graph =>
    recordCycleAttempt settings.env
    let pushed := (cycleSnapshots settings.env.ext settings.source.network graph).foldl .push history
    let history ← if first then warmHistory settings graph.storedChannels pushed else pure pushed
    detectAndPersist settings outside graph (some history)
    return history

/-- The one cycle of a scan up to its alerts and its cleanup. It does not retry and has no history. -/
def scanCycle (settings : CycleSettings) (outside : CycleOutside) (attempt : Outside) : CycleM σ Unit := do
  recordIngestionAttempt settings.env settings.source
  match settings.source.build attempt with
  | .error e =>
    mapError (addContext s!"recording ingestion failure after: {e}") (recordIngestionFailure settings.source)
    throw ⟨[], .ingestion e⟩
  | .ok graph =>
    recordIngestionSuccess settings.env settings.source (newestSourceDataAt graph attempt)
    recordCycleAttempt settings.env
    detectAndPersist settings outside graph none

end Cycles

structure Monitor (σ : Type) where
  world : World σ
  history : InMemoryHistory
  first : Bool

namespace Monitor

def start {σ : Type} (world : World σ) : Monitor σ := ⟨world, { maxPerChannel := 200 }, true⟩

/-- A cycle that fails ends the command, which is then started again over the same storage. -/
def next {σ : Type} [Storage σ] [SnapshotQueries σ] (settings : CycleSettings) (m : Monitor σ)
    (outside : CycleOutside) : Monitor σ :=
  match monitorCycle settings outside m.first m.history m.world with
  | .ok history world => ⟨world, history, false⟩
  | .error _ world => start world

end Monitor

end Rieko
