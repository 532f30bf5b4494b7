import Rieko.Cli.Cycle
import Rieko.Detectors.Registry
import Rieko.Recommendations.Engine

namespace Rieko

open StatefulResult CycleM

def maxLlmExplanationsPerCycle : Nat := 3

abbrev LlmClient := Nat → Finding → String → Except String (Option String)

variable {σ : Type} [Storage σ]

def explained (llm : LlmClient) (node : String) : Nat → List Finding → List Finding × Bool
  | _, [] => ([], false)
  | call, finding :: findings =>
    if maxLlmExplanationsPerCycle ≤ call then (finding :: findings, false)
    else
      let rest := explained llm node (call + 1) findings
      match llm call finding s!"local node id {node}" with
      | .ok (some text) => ({ finding with explanation := some text } :: rest.1, rest.2)
      | .ok none => (finding :: rest.1, rest.2)
      | .error _ => (finding :: rest.1, true)

inductive ComponentKind where
  | llm | alertSink
deriving DecidableEq, Repr

def recordComponent (kind : ComponentKind) (state : ComponentState) : CycleM σ Unit :=
  operational (Storage.updateOperationalState fun op => match kind with
    | .llm => { op with llm := state }
    | .alertSink => { op with alertSink := state })

def explainFindings (llm : Option LlmClient) (node : String) (findings : List Finding) :
    CycleM σ (List Finding) :=
  match llm with
  | none => return findings
  | some llm =>
    if findings.isEmpty then return findings
    else do
      let (findings, failed) := explained llm node 0 findings
      recordComponent .llm (if failed then .failing else .healthy)
      return findings

def recordCycleSuccess (env : CycleEnv) : CycleM σ Unit := do
  let now ← now env
  operational (Storage.updateOperationalState fun state =>
    { state with lastCycleSuccess := some now, lastPersistSuccess := some now })

/-- Stores a recommendation and its first audit entry, unless its action is stored already. -/
def persistRecommendation (env : CycleEnv) (recommendation : Recommendation) : CycleM σ Unit := do
  let isNew := (← storage (Storage.recommendationForAction recommendation.action.id)).isNone
  if isNew then
    storage (Storage.saveRecommendation recommendation)
  if isNew then
    let id ← freshId env
    let now ← now env
    storage (Storage.appendAudit (.fromAction id now recommendation.action "system"
      (.ofPairs [("finding_id", .string recommendation.findingId)])))

def recommend (env : CycleEnv) (finding : Finding) : CycleM σ (List Recommendation) := fun w =>
  match RecommendationEngine.recommend env.ext (fun n => env.clock (w.ticks + n)) finding with
  | .ok recommendations => .ok recommendations { w with ticks := w.ticks + recommendations.length }
  | .error e => .error ⟨[], .recommendation e⟩ w

def persistFinding (env : CycleEnv) (finding : Finding) : CycleM σ (List Recommendation) := do
  storage (Storage.saveFinding finding)
  let recommendations ← mapError (addContext
    s!"recommending for finding {finding.id} from detector {finding.detector} version {finding.detectorVersion}")
    (recommend env finding)
  recommendations.forM (persistRecommendation env)
  return recommendations

def persistCycleLocked (env : CycleEnv) : List Finding → CycleM σ (List Recommendation)
  | [] => return []
  | finding :: findings => do
    let first ← persistFinding env finding
    let rest ← persistCycleLocked env findings
    return first ++ rest

def syncLifecycles (env : CycleEnv) : CycleM σ Unit := do
  let now ← now env
  storage (Storage.syncRecommendationLifecycles now)

def persistCycleInside (env : CycleEnv) (snapshots : List ChannelSnapshot) (scopes : List FindingCycleScope)
    (findings : List Finding) : CycleM σ (List Recommendation) := do
  snapshots.forM fun snapshot => storage (Storage.saveChannelSnapshot snapshot)
  scopes.forM fun scope => storage (Storage.resolveFindingsForScope scope)
  mapError (addContext "syncing recommendation lifecycles") (syncLifecycles env)
  let recommendations ← persistCycleLocked env findings
  recordCycleSuccess env
  return recommendations

def persistCycle (env : CycleEnv) (llm : Option LlmClient) (node : String) (snapshots : List ChannelSnapshot)
    (scopes : List FindingCycleScope) (findings : List Finding) : CycleM σ (List Recommendation) := do
  let findings ← explainFindings llm node findings
  transacted (addContext "beginning persistence transaction") (addContext "committing persistence transaction")
    (persistCycleInside env snapshots scopes findings)

def persistDetectorCycle (env : CycleEnv) (cycle : DetectorCycle) : CycleM σ Unit := do
  storage (Storage.resolveFindingsForScope cycle.scope)
  syncLifecycles env
  cycle.findings.forM fun finding => storage (Storage.saveFinding finding)

def persistFindingCycle (env : CycleEnv) (cycle : DetectorCycle) (deliveryId : String) : CycleM σ Unit :=
  transacted id id do
    persistDetectorCycle env cycle
    let now ← now env
    storage (Storage.markWebhookEventProcessed deliveryId now)

def persistOperationalCycleInside (env : CycleEnv) (cycle : DetectorCycle) : CycleM σ Nat := do
  persistDetectorCycle env cycle
  let completedAt ← now env
  operationalAsBackend (Storage.updateOperationalState fun state =>
    { state with
      lastCycleAttempt := some completedAt
      lastCycleSuccess := some completedAt
      lastPersistSuccess := some completedAt })
  return cycle.findings.length

def persistOperationalDetectorCycle (env : CycleEnv) (cycle : DetectorCycle) : CycleM σ Nat :=
  transacted id id (persistOperationalCycleInside env cycle)

def persistGreenfieldSnapshotInside (env : CycleEnv) (snapshot : NodeSnapshot) : CycleM σ Unit := do
  snapshot.channels.forM fun channel => storage (Storage.saveChannelSnapshot
    { channel with stateDigest := some (channelSnapshotStateDigest env.ext channel) })
  let completedAt ← now env
  operationalAsBackend (Storage.updateOperationalState fun state =>
    { state with
      source := .btcPayGreenfield true
      lastIngestionSuccess := some completedAt
      lastPersistSuccess := some completedAt
      sourceDataAt := some snapshot.capturedAt })

/-- Stores a polled snapshot. Its ladder returns what the commit returns and leaves a failed commit open. -/
def persistGreenfieldSnapshot (env : CycleEnv) (snapshot : NodeSnapshot) : CycleM σ Unit := do
  storage (Storage.beginTransaction (σ := σ))
  match ← attempt (persistGreenfieldSnapshotInside env snapshot) with
  | .ok () => storage Storage.commitTransaction
  | .error e =>
    discard (attempt (storage (σ := σ) Storage.rollbackTransaction))
    throw e

end Rieko
