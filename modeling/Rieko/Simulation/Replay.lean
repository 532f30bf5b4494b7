import Rieko.Simulation.Conservation
import Rieko.Simulation.Encoding
import Rieko.Simulation.Exits
import Rieko.Storage.SimulationRecords

namespace Rieko

open Json StatefulResult SimulationService

/-- The codec is the one that is derived from the declarations of the types. -/
structure SimulationCodec.Derived (codec : SimulationCodec) (instants : InstantText) : Prop where
  input : codec.input = SimulationInput.encode instants
  result : codec.result = SimulationResult.encode
  assumptions : codec.assumptions = encodeAssumptions
  warnings : codec.warnings = encodeWarnings
  decodeInput : ∀ value input, SimulationInput.decode instants value = some input → codec.decodeInput value = .ok input

def External.HexDigests (ext : External) : Prop :=
  ∀ bytes, (ext.sha256 bytes).utf8ByteSize = 64 ∧ (Identity.utf8 (ext.sha256 bytes)).all isAsciiHexdigit = true

/-- The texts of the instant are read as the instant; those of the years 0 to 9999 are. -/
def SimulationExternal.Dates (ext : SimulationExternal) (t : DateTime) : Prop :=
  ext.parseRfc3339 (ext.rfc3339 t) = .ok t ∧ ext.parseRfc3339 (ext.jsonInstant t) = .ok t

/-- A snapshot that is looked up at an instant was taken at it. -/
def SnapshotsExact (σ : Type) [SimulationStorage σ] : Prop :=
  ∀ (network : BitcoinNetwork) (nodeId channelId : String) (observedAt : DateTime) (s s' : σ)
    (snapshot : ChannelSnapshot),
    SimulationStorage.channelSnapshotAt network nodeId channelId observedAt s = .ok (some snapshot) s' →
      snapshot.ts = observedAt

theorem MemoryStorage.snapshotsExact : SnapshotsExact MemoryStorage := by
  intro network nodeId channelId observedAt s s' snapshot found
  have looked : s.channelSnapshots.find? (fun snapshot => snapshot.network = some network ∧
      snapshot.nodeId = some nodeId ∧ snapshot.channelId = channelId ∧ snapshot.ts = observedAt) = some snapshot := by
    injection found
  have matched := List.find?_some looked
  exact (of_decide_eq_true matched).2.2.2

namespace LiquidityRedistributionModel

variable {ext : External} {codec : SimulationCodec} {input : SimulationInput} {result : SimulationResult}

theorem validateSnapshot_finite {label : String} {snapshot : ChannelSnapshot} {u : Unit}
    (valid : validateSnapshot label snapshot = .ok u) : snapshot.localRatio.isFinite = true := by
  unfold validateSnapshot at valid
  simp only [bind_ok, ensure_ok] at valid
  obtain ⟨-, -, -, -, -, -, _, ratio, -⟩ := valid
  rw [Bool.and_eq_true, Bool.and_eq_true] at ratio
  exact ratio.1.1

theorem validate_finite {u : Unit} (valid : validate ext input = .ok u) :
    input.sourceSnapshot.localRatio.isFinite = true ∧ input.destinationSnapshot.localRatio.isFinite = true := by
  unfold validate at valid
  simp only [bind_ok, ensure_ok] at valid
  obtain ⟨network, -, direction, -, _, snapshots, -⟩ := valid
  unfold validateSnapshots at snapshots
  simp only [bind_ok, ensure_ok] at snapshots
  obtain ⟨-, -, -, -, -, -, -, -, -, -, -, -, -, -, _, source, destination⟩ := snapshots
  exact ⟨validateSnapshot_finite source, validateSnapshot_finite destination⟩

structure Labelled (ext : External) (codec : SimulationCodec) (input : SimulationInput) (result : SimulationResult) :
    Prop where
  model : result.modelId = modelId
  version : result.modelVersion = modelVersion
  hash : result.inputHash = computeInputHash ext codec input
  source : input.sourceSnapshot.localRatio.isFinite = true
  destination : input.destinationSnapshot.localRatio.isFinite = true

theorem simulate_labelled (simulated : simulate ext codec input = .ok result) : Labelled ext codec input result := by
  unfold simulate at simulated
  simp only [bind_ok] at simulated
  obtain ⟨_, valid, _, -, _, -, _, -, _, -, returned⟩ := simulated
  obtain ⟨source, destination⟩ := validate_finite valid
  cases returned
  exact ⟨rfl, rfl, rfl, source, destination⟩

end LiquidityRedistributionModel

namespace SimulationService

section Inputs

variable {σ : Type} [SimulationStorage σ] {ext : SimulationExternal} {command : CreateSimulationCommand}
  {amountMsat : Nat} {recommendation : Recommendation} {input : SimulationInput} {s s' : σ}

structure Fits (recommendation : Recommendation) (input : SimulationInput) : Prop where
  action : input.recommendationId = recommendation.action.id
  finding : input.findingId = recommendation.findingId
  kind : input.actionType = recommendation.action.actionType
  model : input.modelId = LiquidityRedistributionModel.modelId
  version : input.modelVersion = LiquidityRedistributionModel.modelVersion
  observed : input.sourceSnapshot.ts = input.observedAt

theorem snapshotAt_ts (faithful : SnapshotsExact σ) {network : BitcoinNetwork} {nodeId channelId role : String}
    {observedAt : DateTime} {snapshot : ChannelSnapshot}
    (found : snapshotAt ext network nodeId channelId observedAt role s = .ok snapshot s') :
    snapshot.ts = observedAt := by
  obtain ⟨looked, m, stored, answered⟩ := bind_ok.mp found
  obtain ⟨present, rfl⟩ := ofExcept_ok.mp answered
  cases looked with
  | none => cases present
  | some held =>
    cases present
    exact faithful network nodeId channelId observedAt s _ _ (adapt_ok.mp stored)

theorem simulationInput_fits (faithful : SnapshotsExact σ)
    (ran : simulationInput ext command amountMsat s = .ok (recommendation, input) s') : Fits recommendation input := by
  obtain ⟨_, _, -, ran⟩ := bind_ok.mp ran
  obtain ⟨_, _, -, ran⟩ := bind_ok.mp ran
  obtain ⟨_, _, -, ran⟩ := bind_ok.mp ran
  obtain ⟨_, _, -, ran⟩ := bind_ok.mp ran
  obtain ⟨_, _, -, ran⟩ := bind_ok.mp ran
  obtain ⟨context, _, -, ran⟩ := bind_ok.mp ran
  obtain ⟨source, _, fromSource, ran⟩ := bind_ok.mp ran
  obtain ⟨destination, _, fromDestination, ran⟩ := bind_ok.mp ran
  cases ran
  have sourceAt := snapshotAt_ts faithful (adapt_ok.mp fromSource)
  have destinationAt := snapshotAt_ts faithful (adapt_ok.mp fromDestination)
  refine ⟨rfl, rfl, rfl, rfl, rfl, ?_⟩
  unfold SimulationInput.observedAt SimulationInput.findingSnapshot
  dsimp only
  split
  · rw [sourceAt, destinationAt]
  · rfl

end Inputs

section Settlements

variable {ext : SimulationExternal} {recommendation : Recommendation} {input : SimulationInput}
  {requestedAt : DateTime} {allowStale : Bool} {result : SimulationResult}
  {outcome : Except ModelError SimulationResult}

theorem settle_projection (projected : (settle input requestedAt allowStale outcome).projection = some result) :
    outcome = .ok result := by
  cases outcome with
  | ok found => exact congrArg Except.ok (Option.some.inj projected)
  | error e =>
    cases e with
    | unsupported modelId => cases projected
    | calculationFailed message => cases projected
    | serialization message => cases projected
    | invalidInput message =>
      unfold settle at projected
      dsimp only at projected
      split at projected
      · cases projected
      split at projected <;> cases projected

theorem settle_ending (input : SimulationInput) (requestedAt : DateTime) (allowStale : Bool)
    (outcome : Except ModelError SimulationResult) :
    let settlement := settle input requestedAt allowStale outcome
    (settlement.projection ≠ none ∧ (settlement.status = .completed ∨ settlement.status = .stale)) ∨
      (settlement.projection = none ∧ settlement.status ≠ .completed) := by
  intro settlement
  cases outcome with
  | ok result =>
    refine .inl ⟨by simp [settlement, settle], ?_⟩
    by_cases stale : input.isStaleAt requestedAt defaultFreshness
    · exact .inr (if_pos stale)
    · exact .inl (if_neg stale)
  | error e =>
    refine .inr ?_
    cases e with
    | unsupported modelId => exact ⟨rfl, by simp [settlement, settle]⟩
    | calculationFailed message => exact ⟨rfl, by simp [settlement, settle]⟩
    | serialization message => exact ⟨rfl, by simp [settlement, settle]⟩
    | invalidInput message =>
      show (settle input requestedAt allowStale (.error (.invalidInput message))).projection = none ∧
        (settle input requestedAt allowStale (.error (.invalidInput message))).status ≠ .completed
      unfold settle
      dsimp only
      split
      · exact ⟨rfl, by simp⟩
      split <;> exact ⟨rfl, by simp⟩

theorem evaluate_ok (evaluated : evaluate ext recommendation input requestedAt allowStale = .ok result) :
    LiquidityRedistributionModel.simulate ext.toExternal ext.codec input = .ok result := by
  obtain ⟨-, -, -, simulated⟩ := evaluate_eq_ok.mp evaluated
  exact simulated

end Settlements

section Validation

variable {ext : SimulationExternal} {displayRead : String → String} {instants : InstantText}

theorem uncorrupted_of {condition : Bool} (held : condition = true) (message : String) :
    uncorrupted condition message = .ok () := by
  rw [held]
  rfl

theorem validateRfc3339_of {label timestamp : String} {t : DateTime} (read : ext.parseRfc3339 timestamp = .ok t) :
    validateRfc3339 ext label timestamp = .ok () := by
  unfold validateRfc3339
  rw [read]

theorem validateFields_of {value : Json} {complaint : String → String} {fields : List (String × String)}
    (agree : ∀ pair ∈ fields, value.field pair.1 asStr = some pair.2) :
    validateFields value complaint fields = .ok () := by
  induction fields with
  | nil => rfl
  | cons pair fields ih =>
    have first : uncorrupted (value.field pair.1 asStr = some pair.2) (complaint pair.1) = .ok () :=
      uncorrupted_of (decide_eq_true (agree pair (by simp))) _
    unfold validateFields
    rw [first]
    exact ih fun later member => agree later (by simp [member])

theorem canonicalActionType_of {value : Json} {actionType : ActionType}
    (encoded : value.field "action_type" some = some actionType.encode) :
    canonicalActionType value = .ok actionType.asStr := by
  have text : value.field "action_type" asStr = actionType.encode.asStr := by
    unfold Json.field at encoded ⊢
    cases found : value.get "action_type" with
    | none => rw [found] at encoded; cases encoded
    | some held =>
      rw [found] at encoded
      cases encoded
      rfl
  unfold canonicalActionType
  rw [text]
  cases actionType <;> rfl

theorem encode_fields (instants : InstantText) (input : SimulationInput) :
    let value := input.encode instants
    value.field "recommendation_id" asStr = some input.recommendationId ∧
      value.field "finding_id" asStr = some input.findingId ∧ value.field "model_id" asStr = some input.modelId ∧
      value.field "model_version" asStr = some input.modelVersion ∧
      value.field "action_type" some = some input.actionType.encode ∧
      (value.get "source_snapshot").bind (·.field "ts" asStr) = some (instants.write input.sourceSnapshot.ts) := by
  have source : (input.encode instants).get "source_snapshot" = some (input.sourceSnapshot.encode instants) :=
    (get_ofPairs input.fields_nodup).trans rfl
  have text {key value : String} (found : (input.fields instants).lookup key = some (.string value)) :
      (input.encode instants).field key asStr = some value := by
    unfold SimulationInput.encode
    rw [field_ofPairs input.fields_nodup, found]
    rfl
  have taken : (input.sourceSnapshot.encode instants).field "ts" asStr =
      some (instants.write input.sourceSnapshot.ts) :=
    (field_ofPairs input.sourceSnapshot.fields_nodup).trans rfl
  have actionType : (input.encode instants).field "action_type" some = some input.actionType.encode :=
    (field_ofPairs input.fields_nodup).trans rfl
  have timed : ((input.encode instants).get "source_snapshot").bind (·.field "ts" asStr) =
      some (instants.write input.sourceSnapshot.ts) := by
    simp only [source, Option.bind_some, taken]
  exact ⟨text rfl, text rfl, text rfl, text rfl, actionType, timed⟩

theorem encodeResult_fields (result : SimulationResult) :
    let value := result.encode
    value.field "model_id" asStr = some result.modelId ∧ value.field "model_version" asStr = some result.modelVersion ∧
      value.field "input_hash" asStr = some result.inputHash ∧
      value.get "assumptions" = some (encodeAssumptions result.assumptions) ∧
      value.get "warnings" = some (encodeWarnings result.warnings) ∧
      value.field "confidence" asStr = some result.confidence.asStr := by
  dsimp only
  unfold SimulationResult.encode
  simp (disch := simp) only [field_ofPairs, get_ofPairs]
  exact ⟨rfl, rfl, rfl, rfl, rfl, rfl⟩

theorem encodeAssumptions_self (assumptions : List Assumption) :
    (encodeAssumptions assumptions == encodeAssumptions assumptions) = true := by
  refine Json.beq_self _ (finiteItems_iff.mpr fun item member => ?_)
  obtain ⟨assumption, -, rfl⟩ := List.mem_map.mp member
  refine finite_ofPairs ?_
  cases severity : assumption.severity <;> simp [SimulationNoticeSeverity.encode, finite]

theorem encodeWarnings_self (warnings : List SimulationWarning) :
    (encodeWarnings warnings == encodeWarnings warnings) = true := by
  refine Json.beq_self _ (finiteItems_iff.mpr fun item member => ?_)
  obtain ⟨warning, -, rfl⟩ := List.mem_map.mp member
  refine finite_ofPairs ?_
  cases severity : warning.severity <;> simp [SimulationNoticeSeverity.encode, finite]

end Validation

section Records

variable {ext : SimulationExternal} {displayRead : String → String} {readInstant : String → Option DateTime}
  {recommendation : Recommendation} {input : SimulationInput} {draws : SimulationDraws} {settlement : Settlement}
  {record : SimulationRecord}

structure Records (ext : SimulationExternal) (recommendation : Recommendation) (input : SimulationInput)
    (draws : SimulationDraws) (settlement : Settlement) (record : SimulationRecord) : Prop where
  actionId : record.actionId = recommendation.action.id
  findingId : record.findingId = recommendation.findingId
  actionType : record.actionType = recommendation.action.actionType.asStr
  status : record.status = settlement.status.asStr
  modelId : record.modelId = input.modelId
  modelVersion : record.modelVersion = input.modelVersion
  hash : record.inputHash = inputHash ext input
  confidence : record.confidence = (settlement.projection.map (·.confidence.asStr)).getD "unknown"
  assumptions : record.assumptions = (settlement.projection.map (ext.codec.assumptions ·.assumptions)).getD (.array [])
  warnings : record.warnings = (settlement.projection.map (ext.codec.warnings ·.warnings)).getD (.array [])
  canonicalInput : record.canonicalInput = ext.codec.input input
  projection : record.projection = (settlement.projection.map ext.codec.result).getD .null
  sourceObservedAt : record.sourceObservedAt = some (ext.rfc3339 input.observedAt)
  requestedAt : record.requestedAt = ext.rfc3339 draws.requestedAt
  completedAt : record.completedAt = some (ext.rfc3339 draws.completedAt)
  createdAt : record.createdAt = ext.rfc3339 draws.requestedAt

theorem simulationRecord_records (built : simulationRecord ext recommendation input draws (inputHash ext input)
    settlement = some record) : Records ext recommendation input draws settlement record := by
  obtain ⟨explanation, -, rfl⟩ := Option.map_eq_some_iff.mp built
  exact ⟨rfl, rfl, rfl, rfl, rfl, rfl, rfl, rfl, rfl, rfl, rfl, rfl, rfl, rfl, rfl, rfl⟩

namespace Records

theorem status_valid (records : Records ext recommendation input draws settlement record) :
    validateSimulationStatus ext record.status = .ok () := by
  rw [records.status]
  cases settlement.status <;> rfl

theorem confidence_valid (records : Records ext recommendation input draws settlement record) :
    (["high", "medium", "low", "unknown"].contains record.confidence) = true := by
  rw [records.confidence]
  cases settlement.projection with
  | none => rfl
  | some result =>
    show (["high", "medium", "low", "unknown"].contains result.confidence.asStr) = true
    cases result.confidence <;> rfl

theorem hash_valid (records : Records ext recommendation input draws settlement record)
    (digests : ext.toExternal.HexDigests) :
    (record.inputHash = "" || (record.inputHash.utf8ByteSize = 64 &&
      (Identity.utf8 record.inputHash).all isAsciiHexdigit)) = true := by
  rw [records.hash]
  unfold inputHash computeInputHash
  obtain ⟨long, hexadecimal⟩ := digests (Identity.utf8 "rieko-simulation-input-v3" ++
    Identity.beBytes 8 (Identity.utf8 (ext.jsonText (ext.codec.input input))).length ++
    Identity.utf8 (ext.jsonText (ext.codec.input input)))
  rw [long, hexadecimal]
  simp

theorem sourceTimestamp_valid (records : Records ext recommendation input draws settlement record)
    (derived : ext.codec.Derived ⟨ext.jsonInstant, readInstant⟩) (fits : Fits recommendation input)
    (observed : ext.Dates input.observedAt) : validateSourceTimestamp ext displayRead record = .ok () := by
  obtain ⟨-, -, -, -, -, taken⟩ := encode_fields ⟨ext.jsonInstant, readInstant⟩ input
  unfold validateSourceTimestamp
  rw [records.canonicalInput, derived.input, taken, records.sourceObservedAt, fits.observed]
  show (do
    let canonicalSource ← readTimestamp ext "canonical" (ext.jsonInstant input.observedAt)
    let recordedSource ← readTimestamp ext "recorded" (ext.rfc3339 input.observedAt)
    uncorrupted (canonicalSource = recordedSource) _) = _
  unfold readTimestamp
  rw [observed.1, observed.2]
  exact uncorrupted_of (decide_eq_true rfl) _

theorem canonicalInput_valid (records : Records ext recommendation input draws settlement record)
    (derived : ext.codec.Derived ⟨ext.jsonInstant, readInstant⟩) (fits : Fits recommendation input)
    (observed : ext.Dates input.observedAt) : validateCanonicalInput ext displayRead record = .ok () := by
  obtain ⟨action, finding, model, version, kind, -⟩ :=
    encode_fields ⟨ext.jsonInstant, readInstant⟩ input
  have hashed : record.inputHash = canonicalHash ext record.canonicalInput := by
    rw [records.hash, records.canonicalInput]
    rfl
  have agree : validateFields record.canonicalInput
      (fun field => s!"canonical simulation input {field} disagrees with record")
      [("recommendation_id", record.actionId), ("finding_id", record.findingId), ("model_id", record.modelId),
        ("model_version", record.modelVersion)] = .ok () := by
    refine validateFields_of fun pair member => ?_
    rw [records.canonicalInput, derived.input]
    rcases List.mem_cons.mp member with rfl | member
    · rw [action, records.actionId, fits.action]
    rcases List.mem_cons.mp member with rfl | member
    · rw [finding, records.findingId, fits.finding]
    rcases List.mem_cons.mp member with rfl | member
    · rw [model, records.modelId]
    · rw [List.mem_singleton.mp member, version, records.modelVersion]
  have typed : canonicalActionType record.canonicalInput = .ok record.actionType := by
    rw [records.canonicalInput, derived.input, canonicalActionType_of kind, records.actionType, fits.kind]
  unfold validateCanonicalInput
  rw [uncorrupted_of (decide_eq_true hashed), agree, typed]
  show (do
    uncorrupted (record.actionType = record.actionType) _
    validateSourceTimestamp ext displayRead record) = _
  rw [uncorrupted_of (decide_eq_true rfl)]
  exact records.sourceTimestamp_valid derived fits observed

theorem projection_valid (records : Records ext recommendation input draws settlement record)
    (derived : ext.codec.Derived ⟨ext.jsonInstant, readInstant⟩) (fits : Fits recommendation input)
    {result : SimulationResult} (projected : settlement.projection = some result)
    (labelled : LiquidityRedistributionModel.Labelled ext.toExternal ext.codec input result) :
    validateProjection record = .ok () := by
  obtain ⟨model, version, hash, assumptions, warnings, confidence⟩ := encodeResult_fields result
  have encoded : record.projection = result.encode := by
    rw [records.projection, projected, Option.map_some, Option.getD_some, derived.result]
  have agree : validateFields record.projection (fun field => s!"simulation projection {field} disagrees with record")
      [("model_id", record.modelId), ("model_version", record.modelVersion), ("input_hash", record.inputHash)] =
        .ok () := by
    refine validateFields_of fun pair member => ?_
    rw [encoded]
    rcases List.mem_cons.mp member with rfl | member
    · rw [model, records.modelId, labelled.model, fits.model]
    rcases List.mem_cons.mp member with rfl | member
    · rw [version, records.modelVersion, labelled.version, fits.version]
    · rw [List.mem_singleton.mp member, hash, records.hash, labelled.hash]
  have noted : ((record.projection.get "assumptions").getD .null == record.assumptions &&
      (record.projection.get "warnings").getD .null == record.warnings &&
      record.projection.field "confidence" asStr = some record.confidence) = true := by
    rw [encoded, assumptions, warnings, confidence, records.assumptions, records.warnings, records.confidence,
      projected, derived.assumptions, derived.warnings]
    simp [encodeAssumptions_self, encodeWarnings_self]
  unfold validateProjection
  rw [agree]
  exact uncorrupted_of noted _

theorem ending_valid (records : Records ext recommendation input draws settlement record)
    (derived : ext.codec.Derived ⟨ext.jsonInstant, readInstant⟩)
    (ending : (settlement.projection ≠ none ∧ (settlement.status = .completed ∨ settlement.status = .stale)) ∨
      (settlement.projection = none ∧ settlement.status ≠ .completed)) : validateEnding record = .ok () := by
  unfold validateEnding
  rw [records.status, records.projection]
  rcases ending with ⟨projected, ended⟩ | ⟨missing, ended⟩
  · obtain ⟨result, found⟩ := Option.ne_none_iff_exists'.mp projected
    have filled : ((settlement.projection.map ext.codec.result).getD .null).isNull = false := by
      rw [found, derived.result]
      rfl
    rcases ended with ended | ended
    · rw [ended, filled]; rfl
    · rw [ended]; rfl
  · rw [missing]
    cases status : settlement.status with
    | completed => exact absurd status ended
    | requested | unsupported | invalidInput | stale | failed => rfl

end Records

theorem simulationRecord_valid (derived : ext.codec.Derived ⟨ext.jsonInstant, readInstant⟩)
    (digests : ext.toExternal.HexDigests) (fits : Fits recommendation input) (observed : ext.Dates input.observedAt)
    (requested : ext.Dates draws.requestedAt) (completed : ext.Dates draws.completedAt) {allowStale : Bool}
    (built : simulationRecord ext recommendation input draws (inputHash ext input)
      (settle input draws.requestedAt allowStale
        (evaluate ext recommendation input draws.requestedAt allowStale)) = some record) :
    validateSimulationRecord ext displayRead record = .ok () := by
  have ending := settle_ending input draws.requestedAt allowStale
    (evaluate ext recommendation input draws.requestedAt allowStale)
  have labelled (result : SimulationResult) (projected : (settle input draws.requestedAt allowStale
      (evaluate ext recommendation input draws.requestedAt allowStale)).projection = some result) :=
    LiquidityRedistributionModel.simulate_labelled (evaluate_ok (settle_projection projected))
  generalize settle input draws.requestedAt allowStale
    (evaluate ext recommendation input draws.requestedAt allowStale) = settlement at ending labelled built
  have records := simulationRecord_records built
  have canonical : record.canonicalInput.isNull = false := by
    rw [records.canonicalInput, derived.input]
    rfl
  have created : validateRfc3339 ext "simulation created_at" record.createdAt = .ok () :=
    validateRfc3339_of (records.createdAt ▸ requested.1)
  have asked : validateRfc3339 ext "simulation requested_at" record.requestedAt = .ok () :=
    validateRfc3339_of (records.requestedAt ▸ requested.1)
  have taken : validateRfc3339 ext "simulation source_observed_at" (ext.rfc3339 input.observedAt) = .ok () :=
    validateRfc3339_of observed.1
  have ended : validateRfc3339 ext "simulation completed_at" (ext.rfc3339 draws.completedAt) = .ok () :=
    validateRfc3339_of completed.1
  have projection (filled : record.projection.isNull = false) : validateProjection record = .ok () := by
    cases projected : settlement.projection with
    | none =>
      rw [records.projection, projected] at filled
      cases filled
    | some result => exact records.projection_valid derived fits projected (labelled result projected)
  have valid := records.ending_valid derived ending
  unfold validateSimulationRecord
  rw [records.status_valid, uncorrupted_of records.confidence_valid, uncorrupted_of (records.hash_valid digests),
    created, asked, records.sourceObservedAt, records.completedAt]
  simp only [bind, Except.bind, taken, ended, canonical, Bool.not_false, if_true,
    records.canonicalInput_valid derived fits observed]
  cases filled : record.projection.isNull with
  | true => exact valid
  | false =>
    rw [projection filled]
    exact valid

/-- Decoding the input of a record and running the model on it again yields its projection and its hash. -/
def Replays (ext : SimulationExternal) (record : SimulationRecord) : Prop :=
  ∃ input result, ext.codec.decodeInput record.canonicalInput = .ok input ∧
    LiquidityRedistributionModel.simulate ext.toExternal ext.codec input = .ok result ∧
    ext.codec.result result = record.projection ∧ result.inputHash = record.inputHash

theorem simulationRecord_replays (derived : ext.codec.Derived ⟨ext.jsonInstant, readInstant⟩)
    (reads : InstantText.ReadsBack ⟨ext.jsonInstant, readInstant⟩) {allowStale : Bool}
    (built : simulationRecord ext recommendation input draws (inputHash ext input)
      (settle input draws.requestedAt allowStale
        (evaluate ext recommendation input draws.requestedAt allowStale)) = some record)
    (filled : record.projection.isNull = false) : Replays ext record := by
  have records := simulationRecord_records built
  cases projected : (settle input draws.requestedAt allowStale
      (evaluate ext recommendation input draws.requestedAt allowStale)).projection with
  | none =>
    rw [records.projection, projected] at filled
    cases filled
  | some result =>
    have simulated := evaluate_ok (settle_projection projected)
    have labelled := LiquidityRedistributionModel.simulate_labelled simulated
    have decoded : ext.codec.decodeInput (ext.codec.input input) = .ok input := by
      rw [derived.input]
      exact derived.decodeInput _ _ (SimulationInput.decode_encode reads input labelled.source labelled.destination)
    refine ⟨input, result, records.canonicalInput ▸ decoded, simulated, ?_, ?_⟩
    · rw [records.projection, projected]
      rfl
    · rw [labelled.hash, records.hash]

end Records

section Stores

variable {σ : Type} [SimulationStorage σ] {ext : SimulationExternal} {property : σ → Prop}

/-- A property of stores that the statements of a call keep, where the saved record is good. -/
structure StatementsKeep (good : SimulationRecord → Prop) (property : σ → Prop) : Prop where
  recommendationForAction : ∀ actionId, Preserves property (Storage.recommendationForAction actionId)
  findingById : ∀ findingId, Preserves property (SimulationStorage.findingById findingId)
  channelSnapshotAt : ∀ network nodeId channelId observedAt,
    Preserves property (SimulationStorage.channelSnapshotAt network nodeId channelId observedAt)
  simulationV2ByInputHash : ∀ hash, Preserves property (SimulationStorage.simulationV2ByInputHash hash)
  saveSimulationV2 : ∀ record, good record → Preserves property (SimulationStorage.saveSimulationV2 record)
  appendSimulationEvent : ∀ event, Preserves property (SimulationStorage.appendSimulationEvent event)

structure SimulationsKeep (good : SimulationRecord → Prop) (property : σ → Prop) : Prop
    extends StatementsKeep good property where
  beginTransaction : Preserves property Storage.beginTransaction
  commitTransaction : Preserves property Storage.commitTransaction
  rollbackTransaction : Preserves property Storage.rollbackTransaction

def ReplaysProjection (ext : SimulationExternal) (record : SimulationRecord) : Prop :=
  record.projection.isNull = false → Replays ext record

theorem simulationInput_preserves {good : SimulationRecord → Prop} (keeps : StatementsKeep good property)
    (command : CreateSimulationCommand) (amountMsat : Nat) :
    Preserves property (simulationInput ext command amountMsat) := by
  have looks (network : BitcoinNetwork) (nodeId channelId : String) (observedAt : DateTime) (role : String) :
      Preserves property (snapshotAt ext network nodeId channelId observedAt role) :=
    ((keeps.channelSnapshotAt network nodeId channelId observedAt).adapt _).bind fun _ => Preserves.ofExcept _
  refine ((keeps.recommendationForAction _).adapt _).bind fun _ => (Preserves.ofExcept _).bind fun _ => ?_
  refine ((keeps.findingById _).adapt _).bind fun _ => (Preserves.ofExcept _).bind fun _ => ?_
  refine (Preserves.ofExcept _).bind fun _ => (Preserves.ofExcept _).bind fun _ => ?_
  exact ((looks _ _ _ _ _).adapt _).bind fun _ => ((looks _ _ _ _ _).adapt _).bind fun _ => Preserves.pure _

theorem persistOutcome_preserves {good : SimulationRecord → Prop} (keeps : StatementsKeep good property)
    (draws : SimulationDraws) {record : SimulationRecord} (fits : good record) (errorCode : Option String) :
    Preserves property (persistOutcome ext draws record errorCode) := by
  refine ((keeps.saveSimulationV2 record fits).adapt _).bind fun _ => (Preserves.ofExcept _).bind fun _ => ?_
  exact ((keeps.appendSimulationEvent _).adapt _).bind fun _ => (keeps.appendSimulationEvent _).adapt _

theorem createInTransaction_preserves {readInstant : String → Option DateTime}
    (derived : ext.codec.Derived ⟨ext.jsonInstant, readInstant⟩)
    (reads : InstantText.ReadsBack ⟨ext.jsonInstant, readInstant⟩)
    (keeps : StatementsKeep (ReplaysProjection ext) property) (draws : SimulationDraws)
    (command : CreateSimulationCommand) (amountMsat : Nat) :
    Preserves property (createInTransaction ext draws command amountMsat) := by
  refine ((simulationInput_preserves keeps command amountMsat).adapt _).bind fun (recommendation, input) => ?_
  refine (((keeps.simulationV2ByInputHash _).adapt _).adapt _).bind fun existing => ?_
  refine (Preserves.ofExcept _).bind fun answer => ?_
  cases answer with
  | some view => exact Preserves.pure _
  | none =>
    show Preserves property (evaluateAndPersist ext draws recommendation input (inputHash ext input) command.allowStale)
    unfold evaluateAndPersist
    refine Preserves.ofExcept_bind fun record answered => ?_
    have built : simulationRecord ext recommendation input draws (inputHash ext input)
        (settle input draws.requestedAt command.allowStale
          (evaluate ext recommendation input draws.requestedAt command.allowStale)) = some record := by
      unfold okOr at answered
      split at answered
      next found => cases answered; exact found
      next => cases answered
    have good : ReplaysProjection ext record := fun filled => simulationRecord_replays derived reads built filled
    refine ((persistOutcome_preserves keeps draws good _).adapt _).bind fun _ => ?_
    exact ((Preserves.ofExcept _).adapt _).bind fun view => Preserves.ofExcept _

theorem createSimulation_preserves (keeps : SimulationsKeep (ReplaysProjection ext) property)
    {body : CreateSimulationCommand → Nat →
      EStateM (SimulationAppError SimulationView) σ (CreateSimulationOutcome SimulationView × Bool)}
    (kept : ∀ command amountMsat, Preserves property (body command amountMsat)) (command : CreateSimulationCommand) :
    Preserves property (createSimulation body command) := by
  have commits : Preserves property (createSimulation.commit (V := SimulationView)) := keeps.commitTransaction.adapt _
  have undoes : Preserves property (createSimulation.undo (V := SimulationView)) := keeps.rollbackTransaction.adapt _
  unfold createSimulation
  cases command.amountMsat (V := SimulationView) with
  | error e => exact Preserves.throw e
  | ok amountMsat =>
    refine Preserves.bind (keeps.beginTransaction.adapt _) fun _ =>
      (kept command amountMsat).attempt.bind fun result => ?_
    cases result with
    | ok pair =>
      refine Preserves.bind (Preserves.closeOrUndo ?_ undoes) fun _ => Preserves.pure _
      split
      · exact commits
      · exact undoes
    | error e =>
      refine Preserves.bind ?_ fun _ => Preserves.throw e
      split
      · exact commits.closeOrUndo undoes
      · exact undoes

theorem run_preserves {readInstant : String → Option DateTime}
    (derived : ext.codec.Derived ⟨ext.jsonInstant, readInstant⟩)
    (reads : InstantText.ReadsBack ⟨ext.jsonInstant, readInstant⟩)
    (keeps : SimulationsKeep (ReplaysProjection ext) property) (call : SimulationCall) :
    Preserves property (call.run ext) := by
  have kept := createInTransaction_preserves derived reads keeps.toStatementsKeep call.draws
  intro s held
  unfold final SimulationCall.run create
  cases panics : unwound (createInTransaction ext call.draws) call.command s with
  | none =>
    exact (createSimulation_preserves keeps (fun command amountMsat => (kept command amountMsat).adapt _)
      call.command).adapt Stopped.failed s held
  | some left =>
    obtain ⟨amountMsat, begun, -, begins, ran⟩ := (unwound_some _).mp panics
    have opened := keeps.beginTransaction s held
    unfold final at opened
    rw [begins] at opened
    have stopped := kept call.command amountMsat begun opened
    unfold final at stopped
    rw [ran] at stopped
    exact stopped

end Stores

end SimulationService

namespace MemoryStorage

/-- The simulation records of a store, those that a rollback would restore included. -/
def heldSimulations (s : MemoryStorage) : List SimulationRecord :=
  s.simulationRecords ++ (s.transactionSnapshot.map (·.simulationRecords)).getD []

theorem beginTransaction_held (s : MemoryStorage) : (final beginTransaction s).heldSimulations ⊆ s.heldSimulations := by
  unfold final beginTransaction
  cases begun : s.transactionSnapshot with
  | some saved => exact List.Subset.refl _
  | none =>
    intro record member
    rcases List.mem_append.mp member with stored | saved
    · exact List.mem_append_left _ stored
    · exact List.mem_append_left _ saved

theorem commitTransaction_held (s : MemoryStorage) :
    (final commitTransaction s).heldSimulations ⊆ s.heldSimulations := by
  unfold final commitTransaction
  cases begun : s.transactionSnapshot with
  | none => exact List.Subset.refl _
  | some saved =>
    intro record member
    rcases List.mem_append.mp member with stored | none
    · exact List.mem_append_left _ stored
    · cases none

theorem rollbackTransaction_held (s : MemoryStorage) :
    (final rollbackTransaction s).heldSimulations ⊆ s.heldSimulations := by
  unfold final rollbackTransaction
  cases begun : s.transactionSnapshot with
  | none => exact List.Subset.refl _
  | some saved =>
    intro record member
    rcases List.mem_append.mp member with stored | none
    · refine List.mem_append_right _ ?_
      rw [begun]
      exact stored
    · cases none

theorem saveSimulationV2_held {record : SimulationRecord} (s : MemoryStorage) :
    (final (saveSimulationV2 record) s).heldSimulations ⊆ record :: s.heldSimulations := by
  have kept : s.heldSimulations ⊆ record :: s.heldSimulations := List.subset_cons_self _ _
  unfold final
  cases ended : saveSimulationV2 record s with
  | error e s' =>
    rw [saveSimulationV2_error ended]
    exact kept
  | ok u s' =>
    unfold saveSimulationV2 at ended
    split at ended <;> split at ended <;> cases ended
    · exact kept
    · intro other member
      rcases List.mem_append.mp member with stored | saved
      · rcases List.mem_append.mp stored with stored | last
        · exact kept (List.mem_append_left _ stored)
        · rw [List.mem_singleton.mp last]
          exact List.mem_cons_self
      · exact kept (List.mem_append_right _ saved)

theorem held_simulationsKeep (good : SimulationRecord → Prop) :
    SimulationsKeep good fun s : MemoryStorage => ∀ record ∈ s.heldSimulations, good record where
  beginTransaction s held := fun record member => held record (beginTransaction_held s member)
  commitTransaction s held := fun record member => held record (commitTransaction_held s member)
  rollbackTransaction s held := fun record member => held record (rollbackTransaction_held s member)
  recommendationForAction _ := fun _ held => held
  findingById _ := fun _ held => held
  channelSnapshotAt _ _ _ _ := fun _ held => held
  simulationV2ByInputHash _ := fun _ held => held
  saveSimulationV2 record fits := fun s held other member => by
    rcases List.mem_cons.mp (saveSimulationV2_held s member) with rfl | member
    · exact fits
    · exact held other member
  appendSimulationEvent event := fun s held => by
    show ∀ record ∈ (final (appendSimulationEvent event) s).heldSimulations, good record
    unfold final appendSimulationEvent
    by_cases duplicate : s.simulationEvents.any (·.id = event.id)
    · rw [if_pos duplicate]; exact held
    · rw [if_neg duplicate]; exact held

/-- The stores that calls make of one without simulations, among steps that add no simulation of their own. -/
inductive Simulated (ext : SimulationExternal) : MemoryStorage → Prop where
  | blank {s : MemoryStorage} (empty : s.heldSimulations = []) : Simulated ext s
  | call {s : MemoryStorage} (call : SimulationCall) (before : Simulated ext s) : Simulated ext (final (call.run ext) s)
  | other {s s' : MemoryStorage} (before : Simulated ext s) (held : s'.heldSimulations ⊆ s.heldSimulations) :
    Simulated ext s'

theorem Simulated.replays {ext : SimulationExternal} {readInstant : String → Option DateTime}
    (derived : ext.codec.Derived ⟨ext.jsonInstant, readInstant⟩)
    (reads : InstantText.ReadsBack ⟨ext.jsonInstant, readInstant⟩) {s : MemoryStorage} (simulated : Simulated ext s) :
    ∀ record ∈ s.heldSimulations, ReplaysProjection ext record := by
  induction simulated with
  | blank empty => simp [empty]
  | call call _ ih => exact run_preserves derived reads (held_simulationsKeep _) call _ ih
  | other _ held ih => exact fun record member => ih record (held member)

end MemoryStorage

def SimulationCall.builds (ext : SimulationExternal) (call : SimulationCall) (recommendation : Recommendation)
    (input : SimulationInput) : Option SimulationRecord :=
  simulationRecord ext recommendation input call.draws (inputHash ext input)
    (settle input call.draws.requestedAt call.command.allowStale
      (evaluate ext recommendation input call.draws.requestedAt call.command.allowStale))

/-- In every store each record that is built passes its validation, and each stored projection is obtained again
    from the stored input. -/
theorem stored_simulations_replay {ext : SimulationExternal} {readInstant : String → Option DateTime}
    (derived : ext.codec.Derived ⟨ext.jsonInstant, readInstant⟩)
    (reads : InstantText.ReadsBack ⟨ext.jsonInstant, readInstant⟩) (digests : ext.toExternal.HexDigests) :
    (∀ (σ : Type) [SimulationStorage σ], SnapshotsExact σ → ∀ (call : SimulationCall) (amountMsat : Nat) (s s' : σ)
      (recommendation : Recommendation) (input : SimulationInput) (record : SimulationRecord),
      simulationInput ext call.command amountMsat s = .ok (recommendation, input) s' →
      ext.Dates input.observedAt → ext.Dates call.draws.requestedAt → ext.Dates call.draws.completedAt →
      call.builds ext recommendation input = some record →
      (∀ displayRead, validateSimulationRecord ext displayRead record = .ok ()) ∧ ReplaysProjection ext record) ∧
    ∀ s : MemoryStorage, s.Simulated ext → ∀ record ∈ s.simulationRecords, ReplaysProjection ext record := by
  refine ⟨fun σ _ faithful call amountMsat s s' recommendation input record ran observed requested completed built => ?_,
    fun s simulated record member => simulated.replays derived reads record (List.mem_append_left _ member)⟩
  have fits := simulationInput_fits faithful ran
  exact ⟨fun displayRead => simulationRecord_valid derived digests fits observed requested completed built,
    fun filled => simulationRecord_replays derived reads built filled⟩

/-- A rebalance simulated a minute after its observation. Only the instants at hand have calendar texts. -/
theorem stored_simulations_replay_rebalance :
    let observed : DateTime := 1767225600000000000
    let minute : DateTime := 1767225660000000000
    let digest := "e3b0c44298fc1c149afbf4c8996fb92427ae41e4649b934ca495991b7852b855"
    let unary (t : Int) := String.ofList (if t < 0 then '-' :: List.replicate t.natAbs 'n'
      else List.replicate t.natAbs 'n')
    let readUnary (text : String) : Int := match text.toList with
      | '-' :: digits => -digits.length
      | digits => digits.length
    let instants : InstantText := {
      write := fun t => if t = observed then "2026-01-01T00:00:00Z"
        else if t = minute then "2026-01-01T00:01:00Z" else unary t
      read := fun text => some (if text = "2026-01-01T00:00:00Z" then observed
        else if text = "2026-01-01T00:01:00Z" then minute else readUnary text) }
    let ext : External := {
      sha256 := fun _ => digest
      jsonText := fun _ => "\x7b\x7d"
      rfc3339 := fun t => if t = minute then "2026-01-01T00:01:00+00:00" else "2026-01-01T00:00:00+00:00"
      jsonInstant := instants.write }
    let service : SimulationExternal := {
      ext with
      codec := {
        input := SimulationInput.encode instants, result := SimulationResult.encode
        assumptions := encodeAssumptions, warnings := encodeWarnings
        decodeInput := fun value => okOr (SimulationInput.decode instants value) "invalid type"
        decodeResult := fun _ => .error "not decoded" }
      displayInstant := fun _ => "2026-01-01 00:00:00 UTC"
      debugText := fun text => "\"" ++ text ++ "\""
      parseRfc3339 := fun text => if text = "2026-01-01T00:01:00+00:00" then .ok minute
        else if text = "2026-01-01T00:00:00+00:00" then .ok observed
        else if text = "2026-01-01T00:00:00Z" then .ok observed
        else if text = "2026-01-01T00:01:00Z" then .ok minute else .error "premature end of input" }
    let snapshot (channel : String) (local_ remote : Nat) : ChannelSnapshot := {
      nodeId := some "node", network := some .mainnet, stateDigest := some digest, channelId := channel
      localRatio := (Binary64.ofNat local_).div (.ofNat 1000000)
      localBalanceMsat := local_, remoteBalanceMsat := remote, capacityMsat := 1000000, status := .active
      ts := observed, spendableOutboundMsat := local_, spendableInboundMsat := remote }
    let finding : Finding := { Finding.bare "finding" "channel_liquidity" observed with
      node := some "node", channel := some "drained", evidence := [.string "direction" "outbound"]
      provenance := some {
        network := some .mainnet, source := .lnd "node" "node", producers := []
        observation := .channelState "drained" ⟨some .mainnet, observed, digest⟩ } }
    let recommendation : Recommendation := {
      findingId := "finding", lifecycle := none
      action := { id := "action", actionType := .rebalanceChannel, stage := .recommended, target := some "drained"
                  params := .null, summary := "", createdAt := 0, updatedAt := 0 }
      rationale := ⟨[], [], "", [], [], .operatorActionable⟩ }
    let s : MemoryStorage := { findings := [finding], recommendations := [recommendation]
                               channelSnapshots := [snapshot "full" 900000 100000, snapshot "drained" 50000 950000] }
    let call : SimulationCall := ⟨⟨"action", simulationModelId, "full", "drained", 400, false⟩,
      ⟨minute, minute, minute, "simulation", "requested", "completed", Int.le_refl _, Int.le_refl _⟩⟩
    ∃ found input record next, simulationInput service call.command 400000 s = .ok (found, input) next ∧
      call.builds service found input = some record ∧ record.projection.isNull = false ∧
      validateSimulationRecord service id record = .ok () ∧ Replays service record := by
  intro observed minute digest unary readUnary instants ext service snapshot finding recommendation s call
  have first (t : Int) : (unary t).toList.head? ≠ some '2' := by
    simp only [unary, String.toList_ofList]
    split
    · simp
    · cases t.natAbs <;> simp [List.replicate_succ]
  have read (t : Int) : readUnary (unary t) = t := by
    simp only [readUnary, unary, String.toList_ofList]
    split
    next digits shape =>
      split at shape
      · cases shape
        rw [List.length_replicate]
        omega
      · cases count : t.natAbs <;> rw [count] at shape <;> simp [List.replicate_succ] at shape
    next shape =>
      split
      next negative => rw [if_pos negative] at shape; exact absurd rfl (shape _)
      · simp
        omega
  have reads : instants.ReadsBack := by
    intro t
    by_cases start : t = observed
    · simp [instants, start]
    by_cases later : t = minute
    · simp [instants, later]
      decide
    · have other (text : String) (headed : text.toList.head? = some '2') : unary t ≠ text := by
        rintro rfl
        exact first t headed
      simp only [instants]
      rw [if_neg start, if_neg later, if_neg (other _ rfl), if_neg (other _ rfl), read t]
  have derived : service.codec.Derived ⟨service.jsonInstant, instants.read⟩ :=
    ⟨rfl, rfl, rfl, rfl, fun value input decoded => by
      show okOr (SimulationInput.decode instants value) _ = _
      rw [show SimulationInput.decode instants value = some input from decoded]
      rfl⟩
  have long : digest.utf8ByteSize = 64 ∧ (Identity.utf8 digest).all isAsciiHexdigit = true := by decide
  have digests : service.toExternal.HexDigests := fun _ => long
  have observedDates : service.Dates observed := by
    constructor <;> decide
  have minuteDates : service.Dates minute := by
    constructor <;> decide
  have evaluated : returns (fun asked _ => (call.builds service asked.1 asked.2).any fun record =>
      !record.projection.isNull && asked.2.observedAt = observed)
      (simulationInput service call.command 400000) s = true := by decide +kernel
  obtain ⟨⟨found, input⟩, next, ran, built⟩ := exists_of_returns evaluated
  obtain ⟨record, built, made⟩ := (Option.any_eq_true _ _).mp built
  simp only [Bool.and_eq_true, Bool.not_eq_true', decide_eq_true_eq] at made
  obtain ⟨projected, taken⟩ := made
  have dates : service.Dates input.observedAt := taken ▸ observedDates
  obtain ⟨valid, replays⟩ := (stored_simulations_replay derived reads digests).1 MemoryStorage
    MemoryStorage.snapshotsExact call 400000 s next found input record ran dates minuteDates minuteDates built
  exact ⟨found, input, record, next, ran, built, projected, valid id, replays projected⟩

end Rieko
