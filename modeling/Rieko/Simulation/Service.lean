import Rieko.Simulation.App
import Rieko.Simulation.Model
import Rieko.Storage.MemoryRecords

namespace Rieko

open StatefulResult

/-- What the service calls outside the repository: the encodings of a simulation, the texts of an instant
    and of a quoted string, and the reading of an RFC 3339 text. -/
structure SimulationExternal extends External where
  codec : SimulationCodec
  displayInstant : DateTime → String
  debugText : String → String
  parseRfc3339 : String → Except String DateTime

structure SimulationView where
  id : String
  recommendationId : String
  findingId : String
  actionType : String
  status : SimulationStatus
  modelId : String
  modelVersion : String
  inputHash : String
  parameters : LiquidityRedistributionParameters
  sourceObservedAt : DateTime
  stale : Bool
  confidence : SimulationConfidence
  result : Option SimulationResult
  explanation : String
  errorCode : Option String
  requestedAt : DateTime
  completedAt : Option DateTime
  noActionExecuted : Bool
deriving DecidableEq, Repr

abbrev PlainError := SimulationAppError Empty

namespace SimulationAppError

variable {V : Type}

def withSimulation (kind : SimulationAppErrorKind) (message : String) (simulation : V) : SimulationAppError V :=
  ⟨kind, message, some simulation⟩

def widen (error : PlainError) : SimulationAppError V := new error.kind error.message

end SimulationAppError

class SimulationStorage (σ : Type) extends Storage σ where
  findingById (findingId : String) : EStateM StorageError σ (Option Finding)
  channelSnapshotAt (network : BitcoinNetwork) (nodeId channelId : String) (observedAt : DateTime) :
    EStateM StorageError σ (Option ChannelSnapshot)
  simulationV2ByInputHash (inputHash : String) : EStateM StorageError σ (Option SimulationRecord)
  saveSimulationV2 (record : SimulationRecord) : EStateM StorageError σ Unit
  appendSimulationEvent (event : SimulationEvent) : EStateM StorageError σ Unit

instance : SimulationStorage MemoryStorage where
  findingById := MemoryStorage.findingById
  channelSnapshotAt := MemoryStorage.channelSnapshotAt
  simulationV2ByInputHash := MemoryStorage.simulationV2ByInputHash
  saveSimulationV2 := MemoryStorage.saveSimulationV2
  appendSimulationEvent := MemoryStorage.appendSimulationEvent

/-- What one call draws from the clock and from the generator of ids. -/
structure SimulationDraws where
  lookedUpAt : DateTime
  requestedAt : DateTime
  completedAt : DateTime
  id : String
  requestedEventId : String
  terminalEventId : String
  requestedLater : lookedUpAt ≤ requestedAt
  completedLater : requestedAt ≤ completedAt

namespace SimulationService

section Context

def okOr {ε α : Type} (value : Option α) (error : ε) : Except ε α :=
  match value with
  | some a => .ok a
  | none => .error error

def required (value : Option String) (message : String) : Except PlainError String :=
  okOr (value.filter fun text => !Text.isBlank text) (.new .missingContext message)

def contextOrUnsupported (supported : Bool) (contextError : PlainError) : PlainError :=
  if supported || contextError.kind = .storage then contextError
  else .new .unsupportedRecommendation "recommendation type is unsupported by this model"

def referencedObservation (provenance : FindingProvenance) : Except PlainError (BitcoinNetwork × DateTime) := do
  let network ← okOr provenance.network (.new .missingContext "finding provenance has no network identity")
  let reference ← okOr provenance.observation.newest
    (.new .missingContext "finding provenance has an empty observation window")
  if reference.network ≠ some network then
    throw (.new .missingContext "snapshot reference network does not match finding provenance")
  return (network, reference.observedAt)

def parseFindingDirection (finding : Finding) : Except PlainError FindingDirection :=
  if finding.detector ≠ "channel_liquidity" then
    .error (.new .unsupportedRecommendation s!"finding detector {finding.detector} is unsupported by this model")
  else
    match finding.evidence.filter (·.key = "direction") with
    | [evidence] => match evidence.value.asStr with
      | some "outbound" => .ok .outbound
      | some "inbound" => .ok .inbound
      | some _ => .error (.new .invalidInput "finding direction must be outbound or inbound")
      | none => .error (.new .invalidInput "finding must contain one string direction evidence value")
    | _ => .error (.new .invalidInput "finding must contain one string direction evidence value")

structure SimulationContext where
  findingDirection : Option FindingDirection
  nodeId : String
  provenance : FindingProvenance
  network : BitcoinNetwork
  observedAt : DateTime
  findingChannel : String
  recommendationTarget : String

def simulationContext (supported : Bool) (recommendation : Recommendation) (finding : Finding) :
    Except PlainError SimulationContext := do
  let inContext {α : Type} (value : Except PlainError α) := value.mapError (contextOrUnsupported supported)
  let findingDirection ← if supported then some <$> parseFindingDirection finding else pure none
  let nodeId ← inContext (required finding.node "finding has no node identity")
  let provenance ← inContext (okOr finding.provenance
    (.new .missingContext "finding has no observation provenance"))
  let (network, observedAt) ← inContext (referencedObservation provenance)
  let findingChannel ← inContext (required finding.channel "finding has no channel identity")
  let recommendationTarget ← inContext (required recommendation.action.target
    "recommendation has no channel target")
  return { findingDirection, nodeId, provenance, network, observedAt, findingChannel, recommendationTarget }

end Context

section View

variable (ext : SimulationExternal)

def parseStatus (status : String) : Except PlainError SimulationStatus :=
  match status with
  | "requested" => .ok .requested
  | "completed" => .ok .completed
  | "unsupported" => .ok .unsupported
  | "invalid_input" => .ok .invalidInput
  | "stale" => .ok .stale
  | "failed" => .ok .failed
  | _ => .error (.new .storage s!"invalid persisted simulation status {ext.debugText status}")

def parseTime (label value : String) : Except PlainError DateTime :=
  (ext.parseRfc3339 value).mapError fun error =>
    .new .storage s!"invalid simulation {label} {ext.debugText value}: {error}"

def decodeProjection (record : SimulationRecord) : Except PlainError (Option SimulationResult) :=
  if record.projection.isNull then .ok none else
    ((ext.codec.decodeResult record.projection).map some).mapError fun error =>
      .new .storage s!"invalid deterministic simulation result: {error}"

def parseCompletion (record : SimulationRecord) : Except PlainError (Option DateTime) :=
  match record.completedAt with
  | some timestamp => (parseTime ext "completed_at" timestamp).map some
  | none => .ok none

def simulationView (record : SimulationRecord) (now : DateTime) : Except PlainError SimulationView := do
  let input ← (ext.codec.decodeInput record.canonicalInput).mapError fun error =>
    .new .storage s!"invalid canonical simulation input: {error}"
  let result ← decodeProjection ext record
  let persistedStatus ← parseStatus ext record.status
  let stale := input.isStaleAt now defaultFreshness
  let requestedAt ← parseTime ext "requested_at" record.requestedAt
  let completedAt ← parseCompletion ext record
  return {
    id := record.id
    recommendationId := record.actionId
    findingId := record.findingId
    actionType := record.actionType
    status := if persistedStatus = .completed && stale then .stale else persistedStatus
    modelId := record.modelId
    modelVersion := record.modelVersion
    inputHash := record.inputHash
    parameters := input.parameters
    sourceObservedAt := input.observedAt
    stale
    confidence := (result.map (·.confidence)).getD .unknown
    result
    explanation := record.explanation
    errorCode := record.errorCode
    requestedAt, completedAt
    noActionExecuted := true }

def errorKindForView (view : SimulationView) : SimulationAppErrorKind :=
  if view.errorCode = some "future_dated_input" then .futureDatedInput
  else match view.status with
    | .unsupported => .unsupportedRecommendation
    | .invalidInput => .invalidInput
    | .stale => .staleInput
    | .failed => .modelFailure
    | _ => .invalidInput

/-- The explanation of a result. Nothing where eight bytes of a channel id end inside a character, on
    which the source panics. -/
def generateSummary (input : SimulationInput) : Option SimulationResult → Option String
  | none => some ""
  | some result => do
    let source ← Text.leadingBytes 8 input.parameters.sourceChannel.toList
    let destination ← Text.leadingBytes 8 input.parameters.destinationChannel.toList
    let baselineLocal := result.baseline.localBalanceMsat
    let projectedLocal := result.projected.localBalanceMsat
    let delta : Int := projectedLocal - baselineLocal
    let notices (heading : String) (texts : List String) :=
      if texts.isEmpty then "" else heading ++ String.join texts
    return s!"Simulated a rebalance of {input.parameters.amountMsat / 1000} sats from channel " ++
      s!"{String.ofList source} to {String.ofList destination}. " ++
      s!"Baseline local balance: {baselineLocal} msat. Projected local balance: {projectedLocal} msat. " ++
      (if 0 < delta then s!"Net increase: +{delta} msat. "
        else if delta < 0 then s!"Net decrease: {delta} msat. "
        else "No net change. ") ++
      notices "Assumptions: " (result.assumptions.map fun a => s!"[{a.code}] {a.description}; ") ++
      notices "Warnings: " (result.warnings.map fun w => s!"[{w.code}] {w.description}; ") ++
      s!"Confidence: {result.confidence.asStr}. " ++
      "This is a deterministic projection. Rieko did not execute any action."

end View

section Outcome

structure Settlement where
  status : SimulationStatus
  projection : Option SimulationResult
  errorCode : Option String
  message : Option String
  kind : Option SimulationAppErrorKind
deriving DecidableEq, Repr

variable (ext : SimulationExternal) (recommendation : Recommendation) (input : SimulationInput)
  (requestedAt : DateTime) (allowStale : Bool)

def staleRefused : Bool := input.isStaleAt requestedAt defaultFreshness && !allowStale

def evaluate : Except ModelError SimulationResult :=
  if !LiquidityRedistributionModel.supports recommendation then
    .error (.unsupported LiquidityRedistributionModel.modelId)
  else if input.isFutureAt requestedAt then
    .error (.invalidInput "source snapshots are dated after the simulation request")
  else if staleRefused input requestedAt allowStale then
    .error (.invalidInput "source snapshots are stale; inspect them before allowing stale input")
  else LiquidityRedistributionModel.simulate ext.toExternal ext.codec input

def settle : Except ModelError SimulationResult → Settlement
  | .ok result =>
    ⟨if input.isStaleAt requestedAt defaultFreshness then .stale else .completed, some result, none, none, none⟩
  | .error (.unsupported _) =>
    ⟨.unsupported, none, some "unsupported_recommendation",
      some "recommendation type is unsupported by this model", some .unsupportedRecommendation⟩
  | .error (.invalidInput message) =>
    if staleRefused input requestedAt allowStale then
      ⟨.stale, none, some "stale_input", some message, some .staleInput⟩
    else if input.isFutureAt requestedAt then
      ⟨.invalidInput, none, some "future_dated_input", some message, some .futureDatedInput⟩
    else ⟨.invalidInput, none, some "invalid_input", some message, some .invalidInput⟩
  | .error error => ⟨.failed, none, some "model_failure", some error.toString, some .modelFailure⟩

def simulationRecord (draws : SimulationDraws) (inputHash : String) (settlement : Settlement) :
    Option SimulationRecord :=
  (generateSummary input settlement.projection).map fun explanation => {
    id := draws.id
    actionId := recommendation.action.id
    findingId := recommendation.findingId
    actionType := recommendation.action.actionType.asStr
    status := settlement.status.asStr
    modelId := input.modelId
    modelVersion := input.modelVersion
    inputHash
    confidence := (settlement.projection.map (·.confidence.asStr)).getD "unknown"
    assumptions := (settlement.projection.map (ext.codec.assumptions ·.assumptions)).getD (.array [])
    warnings := (settlement.projection.map (ext.codec.warnings ·.warnings)).getD (.array [])
    explanation
    canonicalInput := ext.codec.input input
    projection := (settlement.projection.map ext.codec.result).getD .null
    sourceObservedAt := some (ext.rfc3339 input.observedAt)
    requestedAt := ext.rfc3339 draws.requestedAt
    completedAt := some (ext.rfc3339 draws.completedAt)
    errorCode := settlement.errorCode
    createdAt := ext.rfc3339 draws.requestedAt }

end Outcome

section Transaction

variable {σ : Type} [SimulationStorage σ] (ext : SimulationExternal)

def stored {α : Type} (program : EStateM StorageError σ α) : EStateM PlainError σ α := program.adaptExcept .ofStorage

def snapshotAt (network : BitcoinNetwork) (nodeId channelId : String) (observedAt : DateTime) (role : String) :
    EStateM PlainError σ ChannelSnapshot := do
  let snapshot ← stored (SimulationStorage.channelSnapshotAt network nodeId channelId observedAt)
  ofExcept (okOr snapshot (.new .snapshotNotFound (s!"no {network.toString} snapshot for {role} channel " ++
    s!"{channelId} at {ext.displayInstant observedAt}")))

def simulationInput (command : CreateSimulationCommand) (amountMsat : Nat) :
    EStateM PlainError σ (Recommendation × SimulationInput) := do
  let recommendation ← ofExcept (okOr (← stored (Storage.recommendationForAction command.recommendationId))
    (.new .recommendationNotFound s!"no recommendation with id {command.recommendationId}"))
  let supported := LiquidityRedistributionModel.supports recommendation
  let finding ← ofExcept (okOr (← stored (SimulationStorage.findingById recommendation.findingId))
    (contextOrUnsupported supported (.new .findingNotFound s!"no finding with id {recommendation.findingId}")))
  ofExcept (if finding.lifecycle = .active then .ok () else
    .error (contextOrUnsupported supported (.new .findingInactive s!"finding {finding.id} is not active")))
  let context ← ofExcept (simulationContext supported recommendation finding)
  let sourceSnapshot ← (snapshotAt ext context.network context.nodeId command.sourceChannel context.observedAt
    "source").adaptExcept (contextOrUnsupported supported)
  let destinationSnapshot ← (snapshotAt ext context.network context.nodeId command.destinationChannel
    context.observedAt "destination").adaptExcept (contextOrUnsupported supported)
  return (recommendation, {
    recommendationId := recommendation.action.id
    recommendationTarget := context.recommendationTarget
    findingId := recommendation.findingId
    findingChannel := context.findingChannel
    findingDirection := context.findingDirection
    nodeId := context.nodeId
    network := some context.network
    provenance := context.provenance
    actionType := recommendation.action.actionType
    modelId := LiquidityRedistributionModel.modelId
    modelVersion := LiquidityRedistributionModel.modelVersion
    parameters := ⟨command.sourceChannel, command.destinationChannel, amountMsat⟩
    sourceSnapshot, destinationSnapshot })

def persistOutcome (draws : SimulationDraws) (record : SimulationRecord) (errorCode : Option String) :
    EStateM PlainError σ Unit := do
  stored (SimulationStorage.saveSimulationV2 record)
  let status ← ofExcept (parseStatus ext record.status)
  stored (SimulationStorage.appendSimulationEvent
    ⟨draws.requestedEventId, record.id, SimulationStatus.requested.asStr, none, record.requestedAt⟩)
  stored (SimulationStorage.appendSimulationEvent
    ⟨draws.terminalEventId, record.id, status.asStr, errorCode, record.completedAt.getD record.requestedAt⟩)

/-- How a body ends without an outcome. A panic unwinds past the handling of errors. -/
inductive Stopped (V : Type) where
  | failed (error : SimulationAppError V)
  | panicked

def Stopped.isPanic {V : Type} : Stopped V → Bool
  | .failed _ => false
  | .panicked => true

def Stopped.failure {V : Type} : Stopped V → Option (SimulationAppError V)
  | .failed error => some error
  | .panicked => none

abbrev Answer := CreateSimulationOutcome SimulationView

def plainly {α : Type} (program : EStateM PlainError σ α) : EStateM (Stopped SimulationView) σ α :=
  program.adaptExcept fun error => .failed error.widen

def conclude (settlement : Settlement) (view : SimulationView) : Except (Stopped SimulationView) (Answer × Bool) :=
  match settlement.kind, settlement.message with
  | some kind, some message => .error (.failed (.withSimulation kind message view))
  | _, _ => .ok (⟨view, false⟩, true)

def evaluateAndPersist (draws : SimulationDraws) (recommendation : Recommendation) (input : SimulationInput)
    (inputHash : String) (allowStale : Bool) : EStateM (Stopped SimulationView) σ (Answer × Bool) := do
  let settlement := settle input draws.requestedAt allowStale
    (evaluate ext recommendation input draws.requestedAt allowStale)
  let record ← ofExcept (okOr (simulationRecord ext recommendation input draws inputHash settlement) .panicked)
  plainly (persistOutcome ext draws record settlement.errorCode)
  let view ← plainly (ofExcept (simulationView ext record draws.completedAt))
  ofExcept (conclude settlement view)

/-- What the newest record of an identical input answers; nothing where the input is evaluated again. -/
def answerOfExisting (now : DateTime) (allowStale : Bool) (existing : SimulationRecord) :
    Except (SimulationAppError SimulationView) (Option SimulationView) :=
  if !existing.projection.isNull then do
    let view ← (simulationView ext existing now).mapError .widen
    if view.stale && !allowStale then
      throw (.withSimulation .staleInput
        "identical simulation result is stale; inspect it before allowing stale input" view)
    else return some view
  else if !(allowStale && existing.status = SimulationStatus.stale.asStr) then do
    let view ← (simulationView ext existing now).mapError .widen
    throw (.withSimulation (errorKindForView view)
      s!"identical simulation request {existing.id} already ended with status {view.status.asStr}" view)
  else return none

def createInTransaction (draws : SimulationDraws) (command : CreateSimulationCommand) (amountMsat : Nat) :
    EStateM (Stopped SimulationView) σ (Answer × Bool) := do
  let (recommendation, input) ← plainly (simulationInput ext command amountMsat)
  let inputHash := computeInputHash ext.toExternal ext.codec input
  let existing ← plainly (stored (SimulationStorage.simulationV2ByInputHash inputHash))
  let answer ← ofExcept ((match existing with
    | some record => answerOfExisting ext draws.lookedUpAt command.allowStale record
    | none => .ok none).mapError .failed)
  match answer with
  | some view => return (⟨view, true⟩, false)
  | none => evaluateAndPersist ext draws recommendation input inputHash command.allowStale

end Transaction

section Views

variable {ext : SimulationExternal} {record : SimulationRecord} {now : DateTime} {view : SimulationView}

theorem simulationView_elsewhen (viewed : simulationView ext record now = .ok view) (later : DateTime) :
    ∃ status stale, simulationView ext record later = .ok { view with status, stale } := by
  unfold simulationView at viewed ⊢
  obtain ⟨input, decoded, viewed⟩ := except_bind_ok.mp viewed
  obtain ⟨result, projected, viewed⟩ := except_bind_ok.mp viewed
  obtain ⟨persisted, parsed, viewed⟩ := except_bind_ok.mp viewed
  obtain ⟨requestedAt, requested, viewed⟩ := except_bind_ok.mp viewed
  obtain ⟨completedAt, completed, viewed⟩ := except_bind_ok.mp viewed
  rw [decoded, projected, parsed, requested, completed]
  cases viewed
  exact ⟨_, _, rfl⟩

end Views

section Create

variable {V σ : Type} [Storage σ]
  (body : CreateSimulationCommand → Nat → EStateM (Stopped V) σ (CreateSimulationOutcome V × Bool))

def calm (command : CreateSimulationCommand) (amountMsat : Nat) :
    EStateM (SimulationAppError V) σ (CreateSimulationOutcome V × Bool) :=
  (body command amountMsat).adaptExcept fun
    | .failed error => error
    | .panicked => .new .modelFailure "panicked"

/-- The state in which the body panics, inside the transaction that was begun for it. -/
def unwound (command : CreateSimulationCommand) (s : σ) : Option σ :=
  match (command.amountMsat : Except (SimulationAppError V) Nat), Storage.beginTransaction s with
  | .ok amountMsat, .ok _ begun => match body command amountMsat begun with
    | .error .panicked left => some left
    | _ => none
  | _, _ => none

def create (command : CreateSimulationCommand) : EStateM (Stopped V) σ (CreateSimulationOutcome V) := fun s =>
  match unwound body command s with
  | some left => .error .panicked left
  | none => (createSimulation (calm body) command).adaptExcept .failed s

theorem unwound_some {command : CreateSimulationCommand} {s left : σ} : unwound body command s = some left ↔
    ∃ amountMsat begun, (command.amountMsat : Except (SimulationAppError V) Nat) = .ok amountMsat ∧
      Storage.beginTransaction s = .ok () begun ∧ body command amountMsat begun = .error .panicked left := by
  simp only [unwound]
  cases (command.amountMsat : Except (SimulationAppError V) Nat) with
  | error e => simp
  | ok amountMsat =>
    cases Storage.beginTransaction s with
    | error e begun => simp
    | ok u begun =>
      dsimp only
      cases ran : body command amountMsat begun with
      | ok pair m => simp [ran]
      | error stopped m => cases stopped <;> simp [ran]

end Create

end SimulationService

structure SimulationCall where
  command : CreateSimulationCommand
  draws : SimulationDraws

def SimulationCall.run {σ : Type} [SimulationStorage σ] (ext : SimulationExternal) (call : SimulationCall) :
    EStateM (SimulationService.Stopped SimulationView) σ SimulationService.Answer :=
  SimulationService.create (SimulationService.createInTransaction ext call.draws) call.command

end Rieko
