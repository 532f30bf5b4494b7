import Rieko.Lib.SqlRow
import Rieko.Simulation.Encoding
import Rieko.Storage.TextTimes

/-! The records of the tables, in the columns that hold them. -/

namespace Rieko

open SqlValue StatefulResult

structure TextForm (α : Type) where
  write : α → String
  read : String → Except String α

def TextForm.ReadsBack {α : Type} (form : TextForm α) (a : α) : Prop := form.read (form.write a) = .ok a

/-- What libraries make of the texts in columns, with the errors that they give. `extractNetwork` is the
    `json_extract` of `$.network`. -/
structure RowText where
  readInstant : String → Except String DateTime
  debugText : String → String
  unknownNetwork : String → String
  evidence : TextForm (List Evidence)
  provenance : TextForm FindingProvenance
  json : TextForm Json
  rationale : TextForm Rationale
  event : TextForm NodeEvent
  bitcoinCore : TextForm BitcoinCoreState
  lightning : TextForm LightningState
  extractNetwork : SqlValue → Except String SqlValue
  columnError : ColumnError → String

/-- Instants with years of four digits are read back, and a provenance that can be read has its network extracted. -/
structure RowText.Documented (text : RowText) : Prop where
  instants : ∀ t : DateTime, t.FourDigitYear → text.readInstant t.toRfc3339 = .ok t
  networkOfNull : text.extractNetwork .null = .ok .null
  network : ∀ s provenance, text.provenance.read s = .ok provenance →
    text.extractNetwork (.text s) = .ok (ofOption (fun network => .text network.toString) provenance.network)

section Names

def ActionStage.debugName : ActionStage → String
  | .recommended => "Recommended"
  | .simulated => "Simulated"
  | .approved => "Approved"
  | .executed => "Executed"
  | .rejected => "Rejected"
  | .failed => "Failed"

def FindingLifecycle.columnText : FindingLifecycle → String
  | .active => "active"
  | .resolved => "resolved"

def severityOf (label : String) : Int → Except String Severity :=
  decodeBy (fun severity => severity.rank) [.info, .warning, .critical] fun value => s!"invalid {label} {value}"

def statusFromI64 : Nat → Except String ChannelStatus :=
  decodeBy Tables.statusInt [.opening, .active, .inactive, .closing, .closed, .pendingOpen, .waitingClose,
    .forceClosing, .unknown]
    fun value => s!"invalid channel status {value}"

def findingSchema (stored : Int) : Except String Nat :=
  if 0 ≤ stored ∧ stored < 256 then
    match validateFindingSchema stored.toNat with
    | .ok () => .ok stored.toNat
    | .error e => .error e.toString
  else .error s!"invalid schema version {stored}"

theorem severityOf_ok {label : String} {stored : Int} {severity : Severity} :
    severityOf label stored = .ok severity ↔ stored = severity.rank :=
  decodeBy_ok (fun severity => by cases severity <;> simp) fun a b => by cases a <;> cases b <;> simp [Severity.rank]

theorem statusFromI64_ok {stored : Nat} {status : ChannelStatus} :
    statusFromI64 stored = .ok status ↔ stored = Tables.statusInt status :=
  decodeBy_ok (fun status => by cases status <;> simp) fun a b => by cases a <;> cases b <;> simp [Tables.statusInt]

theorem findingSchema_ok {stored : Int} {version : Nat} :
    findingSchema stored = .ok version ↔ stored = version ∧ validateFindingSchema version = .ok () := by
  unfold findingSchema
  by_cases small : 0 ≤ stored ∧ stored < 256
  · rw [if_pos small]
    obtain ⟨n, rfl⟩ := Int.eq_ofNat_of_zero_le small.1
    rw [Int.toNat_natCast]
    cases valid : validateFindingSchema n with
    | ok u =>
      simp only [Except.ok.injEq, Nat.cast_inj]
      exact ⟨fun same => ⟨same, same ▸ valid⟩, And.left⟩
    | error e =>
      simp only [reduceCtorEq, Nat.cast_inj, false_iff]
      rintro ⟨rfl, accepted⟩
      rw [valid] at accepted
      cases accepted
  · rw [if_neg small]
    simp only [reduceCtorEq, false_iff]
    rintro ⟨rfl, accepted⟩
    unfold validateFindingSchema findingSchemaVersion at accepted
    split at accepted
    next bounds => omega
    next => cases accepted

end Names

namespace RowText

variable (text : RowText)

def readTime (label s : String) : Except String DateTime :=
  (text.readInstant s).mapError fun e => s!"invalid {label} {text.debugText s}: {e}"

def parseActionType : String → Except String ActionType :=
  decodeBy ActionType.asStr [.rebalanceChannel, .updateFeePolicy, .restartService, .custom]
    fun value => s!"invalid action type {text.debugText value}"

def parseActionStage : String → Except String ActionStage :=
  decodeBy ActionStage.debugName [.recommended, .simulated, .approved, .executed, .rejected, .failed]
    fun value => s!"invalid action stage {text.debugText value}"

def findingLifecycle : String → Except String FindingLifecycle :=
  decodeBy FindingLifecycle.columnText [.active, .resolved] fun value => s!"invalid lifecycle {text.debugText value}"

def snapshotNetwork : String → Except String BitcoinNetwork :=
  decodeBy BitcoinNetwork.toString [.mainnet, .testnet, .signet, .regtest]
    fun value => s!"invalid snapshot network_id {text.debugText value}: {text.unknownNetwork value}"

def findingProvenance (json : String) : Except String FindingProvenance :=
  (text.provenance.read json).mapError fun e => s!"invalid provenance {text.debugText json}: {e}"

def recommendationParams (raw : String) : Except String Json :=
  (text.json.read raw).mapError fun e => s!"invalid recommendation params: {e}"

def recommendationRationale (raw : String) : Except String Rationale :=
  (text.rationale.read raw).mapError fun e => s!"invalid recommendation rationale: {e}"

def auditDetails (raw : String) : Except String Json :=
  (text.json.read raw).mapError fun e => s!"invalid audit details: {e}"

def webhookEvent (raw : String) : Except String NodeEvent :=
  (text.event.read raw).mapError fun e => s!"invalid webhook event: {e}"

def findingColumns : List String := ["id", "detector", "severity", "node_id", "channel_id", "evidence", "explanation",
  "ts", "detector_version", "schema_version", "first_seen_at", "last_seen_at", "lifecycle", "provenance"]

def rowToFinding (row : List SqlValue) : Except ColumnError Finding := do
  let severity ← parsed row 2 i64 (severityOf "severity")
  let evidence ← parsed row 5 string text.evidence.read
  let timestamp ← parsed row 7 string (text.readTime "timestamp")
  let detectorVersion ← column row 8 (optional string)
  let schemaVersion ← parsed row 9 i64 findingSchema
  let firstSeenAt ← parsed row 10 string (text.readTime "first_seen_at")
  let lastSeenAt ← parsed row 11 string (text.readTime "last_seen_at")
  let lifecycle ← parsed row 12 string text.findingLifecycle
  let provenance ← optionalParsed row 13 text.findingProvenance
  let id ← column row 0 string
  let detector ← column row 1 string
  let node ← column row 3 (optional string)
  let channel ← column row 4 (optional string)
  let explanation ← column row 6 (optional string)
  return { id, detector, detectorVersion := detectorVersion.getD "1", schemaVersion, severity, node, channel, evidence,
           provenance, explanation, timestamp, firstSeenAt, lastSeenAt, lifecycle }

def recommendationColumns : List String := ["finding_id", "action_id", "action_type", "stage", "target", "params",
  "summary", "rationale", "created_at", "updated_at", "lifecycle"]

/-- A lifecycle that is not a text is read as a missing one. -/
def recommendationLifecycle : SqlValue → Option String
  | .text s => some s
  | _ => none

def rowToRecommendation (row : List SqlValue) : Except ColumnError Recommendation := do
  let actionType ← parsed row 2 string text.parseActionType
  let stage ← parsed row 3 string text.parseActionStage
  let params ← parsed row 5 string text.recommendationParams
  let rationale ← parsed row 7 string text.recommendationRationale
  let createdAt ← parsed row 8 string (text.readTime "recommendation created_at")
  let updatedAt ← parsed row 9 string (text.readTime "recommendation updated_at")
  let findingId ← column row 0 string
  let id ← column row 1 string
  let target ← column row 4 (optional string)
  let summary ← column row 6 string
  let lifecycle := row[10]?.bind recommendationLifecycle
  return { findingId, action := { id, actionType, stage, target, params, summary, createdAt, updatedAt }, rationale,
           lifecycle }

def auditColumns : List String :=
  ["id", "action_id", "action_type", "previous_stage", "stage", "actor", "details", "ts"]

def rowToAudit (row : List SqlValue) : Except ColumnError AuditEntry := do
  let actionType ← parsed row 2 string text.parseActionType
  let previousStage ← optionalParsed row 3 text.parseActionStage
  let stage ← parsed row 4 string text.parseActionStage
  let details ← parsed row 6 string text.auditDetails
  let timestamp ← parsed row 7 string (text.readTime "audit timestamp")
  let id ← column row 0 string
  let actionId ← column row 1 string
  let actor ← column row 5 string
  return { id, actionId, actionType, previousStage, stage, actor, details, timestamp }

def snapshotColumns : List String := ["channel_id", "ts", "local_ratio", "local_balance_msat", "remote_balance_msat",
  "capacity_msat", "status_int", "spendable_outbound_msat", "spendable_inbound_msat", "node_id", "network_id",
  "state_digest"]

def rowToSnapshot (row : List SqlValue) : Except ColumnError ChannelSnapshot := do
  let statusNumber ← column row 6 (unsigned 32)
  let ts ← parsed row 1 string (text.readTime "snapshot timestamp")
  let network ← optionalParsed row 10 text.snapshotNetwork
  let nodeId ← column row 9 (optional string)
  let channelId ← column row 0 string
  let localRatio ← column row 2 f64
  let localBalanceMsat ← column row 3 (unsigned 64)
  let remoteBalanceMsat ← column row 4 (unsigned 64)
  let capacityMsat ← column row 5 (unsigned 64)
  let status ← convert 6 (statusFromI64 statusNumber)
  let spendableOutboundMsat ← column row 7 (unsigned 64)
  let spendableInboundMsat ← column row 8 (unsigned 64)
  let stateDigest ← column row 11 (optional string)
  return { nodeId, network, stateDigest, channelId, localRatio, localBalanceMsat, remoteBalanceMsat, capacityMsat,
           status, ts, spendableOutboundMsat, spendableInboundMsat }

def eventColumns : List String := ["delivery_id", "event_json", "accepted_at", "processed_at"]

def rowToEvent (row : List SqlValue) : Except ColumnError WebhookEventRecord := do
  let event ← parsed row 1 string text.webhookEvent
  let acceptedAt ← parsed row 2 string (text.readTime "webhook accepted_at")
  let processedAt ← optionalParsed row 3 (text.readTime "webhook processed_at")
  let deliveryId ← column row 0 string
  return { deliveryId, event, acceptedAt, processedAt }

def parseSource (s : String) (connected : Option Int) : Except String SourceState :=
  match s with
  | "lnd_rest" =>
    match connected with
    | some 0 => .ok (.lndRest false)
    | some 1 => .ok (.lndRest true)
    | _ => .error "lnd_rest source must have a boolean connection state"
  | "btcpay_greenfield" =>
    match connected with
    | some 0 => .ok (.btcPayGreenfield false)
    | some 1 => .ok (.btcPayGreenfield true)
    | _ => .error "btcpay_greenfield source must have a boolean connection state"
  | "fixture" => if connected.isNone then .ok .fixture else .error "fixture source cannot have a connection state"
  | _ => .error s!"invalid operational source {text.debugText s}"

def parseComponent : String → Except String ComponentState :=
  decodeBy ComponentState.asStr [.notConfigured, .configured, .healthy, .failing]
    fun value => s!"invalid component state {text.debugText value}"

def coreState (value : String) : Except String BitcoinCoreState :=
  (text.bitcoinCore.read value).mapError fun e => s!"bitcoin_core state: {e}"

def lightningState (value : String) : Except String LightningState :=
  (text.lightning.read value).mapError fun e => s!"lightning state: {e}"

def operationalColumns : List String := ["source", "source_connected", "last_ingestion_attempt",
  "last_ingestion_success", "last_cycle_attempt", "last_cycle_success", "last_persist_success", "source_data_at",
  "bitcoin_core", "lightning", "llm", "alert_sink", "cleanup", "last_cleanup_attempt", "last_cleanup_success"]

def present {α : Type} (parse : String → Except String α) : Option String → Except String (Option α)
  | none => .ok none
  | some s => (parse s).map some

/-- The types of all columns are checked before any text is read. -/
def rowToOperationalState (row : List SqlValue) : Except String OperationalState := do
  let get {α : Type} (index : Nat) (type : FromSql α) : Except String α :=
    (column row index type).mapError text.columnError
  let source ← get 0 string
  let connected ← get 1 (optional i64)
  let ingestAttempt ← get 2 (optional string)
  let ingestSuccess ← get 3 (optional string)
  let cycleAttempt ← get 4 (optional string)
  let cycleSuccess ← get 5 (optional string)
  let persistSuccess ← get 6 (optional string)
  let dataAt ← get 7 (optional string)
  let bitcoinCore ← get 8 (optional string)
  let lightning ← get 9 (optional string)
  let llm ← get 10 string
  let alert ← get 11 string
  let cleanup ← get 12 string
  let cleanupAttempt ← get 13 (optional string)
  let cleanupSuccess ← get 14 (optional string)
  return {
    source := ← text.parseSource source connected
    lastIngestionAttempt := ← present (text.readTime "last_ingestion_attempt") ingestAttempt
    lastIngestionSuccess := ← present (text.readTime "last_ingestion_success") ingestSuccess
    lastCycleAttempt := ← present (text.readTime "last_cycle_attempt") cycleAttempt
    lastCycleSuccess := ← present (text.readTime "last_cycle_success") cycleSuccess
    lastPersistSuccess := ← present (text.readTime "last_persist_success") persistSuccess
    sourceDataAt := ← present (text.readTime "source_data_at") dataAt
    bitcoinCore := ← present text.coreState bitcoinCore
    lightning := ← present text.lightningState lightning
    llm := ← text.parseComponent llm
    alertSink := ← text.parseComponent alert
    cleanup := ← text.parseComponent cleanup
    lastCleanupAttempt := ← present (text.readTime "last_cleanup_attempt") cleanupAttempt
    lastCleanupSuccess := ← present (text.readTime "last_cleanup_success") cleanupSuccess }

end RowText

def SourceState.connectedColumn : SourceState → Option Int
  | .fixture => none
  | .lndRest connected => some (if connected then 1 else 0)
  | .btcPayGreenfield connected => some (if connected then 1 else 0)

section Columns

-- What a column holds for an instant, of which the label names it in errors.
variable (text : RowText) (time : String → SqlValue → DateTime → Prop)

def OptionalTime (label : String) (value : SqlValue) : Option DateTime → Prop
  | none => value = .null
  | some t => time label value t

structure FindingColumns (row : SqlRow) (finding : Finding) : Prop where
  id : row "id" = .text finding.id
  detector : row "detector" = .text finding.detector
  detectorVersion : ∃ version, row "detector_version" = ofOption .text version ∧ version.getD "1" = finding.detectorVersion
  schemaVersion : row "schema_version" = .integer finding.schemaVersion
  supported : validateFindingSchema finding.schemaVersion = .ok ()
  severity : row "severity" = .integer finding.severity.rank
  node : row "node_id" = ofOption .text finding.node
  channel : row "channel_id" = ofOption .text finding.channel
  evidence : (row "evidence").Reads text.evidence.read finding.evidence
  provenance : (row "provenance").ReadsOptional text.provenance.read finding.provenance
  explanation : row "explanation" = ofOption .text finding.explanation
  timestamp : time "timestamp" (row "ts") finding.timestamp
  firstSeenAt : time "first_seen_at" (row "first_seen_at") finding.firstSeenAt
  lastSeenAt : time "last_seen_at" (row "last_seen_at") finding.lastSeenAt
  lifecycle : row "lifecycle" = .text finding.lifecycle.columnText

structure RecommendationColumns (row : SqlRow) (recommendation : Recommendation) : Prop where
  findingId : row "finding_id" = .text recommendation.findingId
  actionId : row "action_id" = .text recommendation.action.id
  actionType : row "action_type" = .text recommendation.action.actionType.asStr
  stage : row "stage" = .text recommendation.action.stage.debugName
  target : row "target" = ofOption .text recommendation.action.target
  params : (row "params").Reads text.json.read recommendation.action.params
  summary : row "summary" = .text recommendation.action.summary
  rationale : (row "rationale").Reads text.rationale.read recommendation.rationale
  createdAt : time "recommendation created_at" (row "created_at") recommendation.action.createdAt
  updatedAt : time "recommendation updated_at" (row "updated_at") recommendation.action.updatedAt
  lifecycle : RowText.recommendationLifecycle (row "lifecycle") = recommendation.lifecycle

structure AuditColumns (row : SqlRow) (entry : AuditEntry) : Prop where
  id : row "id" = .text entry.id
  actionId : row "action_id" = .text entry.actionId
  actionType : row "action_type" = .text entry.actionType.asStr
  previousStage : row "previous_stage" = ofOption (fun stage => .text stage.debugName) entry.previousStage
  stage : row "stage" = .text entry.stage.debugName
  actor : row "actor" = .text entry.actor
  details : (row "details").Reads text.json.read entry.details
  timestamp : time "audit timestamp" (row "ts") entry.timestamp

/-- Amounts beyond 64 bits have no column. -/
structure SnapshotColumns (row : SqlRow) (snapshot : ChannelSnapshot) : Prop where
  nodeId : row "node_id" = ofOption .text snapshot.nodeId
  network : row "network_id" = ofOption (fun network => .text network.toString) snapshot.network
  stateDigest : row "state_digest" = ofOption .text snapshot.stateDigest
  channelId : row "channel_id" = .text snapshot.channelId
  localRatio : f64 (row "local_ratio") = .ok snapshot.localRatio
  localBalanceMsat : row "local_balance_msat" = .integer snapshot.localBalanceMsat ∧ snapshot.localBalanceMsat < 2^64
  remoteBalanceMsat : row "remote_balance_msat" = .integer snapshot.remoteBalanceMsat ∧ snapshot.remoteBalanceMsat < 2^64
  capacityMsat : row "capacity_msat" = .integer snapshot.capacityMsat ∧ snapshot.capacityMsat < 2^64
  status : row "status_int" = .integer (Tables.statusInt snapshot.status)
  ts : time "snapshot timestamp" (row "ts") snapshot.ts
  spendableOutboundMsat :
    row "spendable_outbound_msat" = .integer snapshot.spendableOutboundMsat ∧ snapshot.spendableOutboundMsat < 2^64
  spendableInboundMsat :
    row "spendable_inbound_msat" = .integer snapshot.spendableInboundMsat ∧ snapshot.spendableInboundMsat < 2^64

structure EventColumns (row : SqlRow) (record : WebhookEventRecord) : Prop where
  deliveryId : row "delivery_id" = .text record.deliveryId
  event : (row "event_json").Reads text.event.read record.event
  acceptedAt : time "webhook accepted_at" (row "accepted_at") record.acceptedAt
  processedAt : OptionalTime time "webhook processed_at" (row "processed_at") record.processedAt

structure OperationalColumns (row : SqlRow) (state : OperationalState) : Prop where
  source : row "source" = .text state.source.asStr
  connected : row "source_connected" = ofOption .integer state.source.connectedColumn
  ingestAttempt : OptionalTime time "last_ingestion_attempt" (row "last_ingestion_attempt") state.lastIngestionAttempt
  ingestSuccess : OptionalTime time "last_ingestion_success" (row "last_ingestion_success") state.lastIngestionSuccess
  cycleAttempt : OptionalTime time "last_cycle_attempt" (row "last_cycle_attempt") state.lastCycleAttempt
  cycleSuccess : OptionalTime time "last_cycle_success" (row "last_cycle_success") state.lastCycleSuccess
  persistSuccess : OptionalTime time "last_persist_success" (row "last_persist_success") state.lastPersistSuccess
  dataAt : OptionalTime time "source_data_at" (row "source_data_at") state.sourceDataAt
  bitcoinCore : (row "bitcoin_core").ReadsOptional text.bitcoinCore.read state.bitcoinCore
  lightning : (row "lightning").ReadsOptional text.lightning.read state.lightning
  llm : row "llm" = .text state.llm.asStr
  alertSink : row "alert_sink" = .text state.alertSink.asStr
  cleanup : row "cleanup" = .text state.cleanup.asStr
  cleanupAttempt : OptionalTime time "last_cleanup_attempt" (row "last_cleanup_attempt") state.lastCleanupAttempt
  cleanupSuccess : OptionalTime time "last_cleanup_success" (row "last_cleanup_success") state.lastCleanupSuccess

end Columns

section Imp

variable {text : RowText} {time time' : String → SqlValue → DateTime → Prop}
  (weaker : ∀ label value t, time label value t → time' label value t) {row : SqlRow}

include weaker

theorem OptionalTime.imp {label : String} {value : SqlValue} {t : Option DateTime}
    (held : OptionalTime time label value t) :
    OptionalTime time' label value t := by
  cases t with
  | none => exact held
  | some t => exact weaker label value t held

theorem FindingColumns.imp {finding : Finding} (held : FindingColumns text time row finding) :
    FindingColumns text time' row finding :=
  { held with
    timestamp := weaker _ _ _ held.timestamp, firstSeenAt := weaker _ _ _ held.firstSeenAt
    lastSeenAt := weaker _ _ _ held.lastSeenAt }

theorem RecommendationColumns.imp {recommendation : Recommendation}
    (held : RecommendationColumns text time row recommendation) : RecommendationColumns text time' row recommendation :=
  { held with createdAt := weaker _ _ _ held.createdAt, updatedAt := weaker _ _ _ held.updatedAt }

theorem AuditColumns.imp {entry : AuditEntry} (held : AuditColumns text time row entry) :
    AuditColumns text time' row entry := { held with timestamp := weaker _ _ _ held.timestamp }

theorem SnapshotColumns.imp {snapshot : ChannelSnapshot} (held : SnapshotColumns time row snapshot) :
    SnapshotColumns time' row snapshot := { held with ts := weaker _ _ _ held.ts }

theorem EventColumns.imp {record : WebhookEventRecord} (held : EventColumns text time row record) :
    EventColumns text time' row record :=
  { held with acceptedAt := weaker _ _ _ held.acceptedAt, processedAt := held.processedAt.imp weaker }

theorem OperationalColumns.imp {state : OperationalState} (held : OperationalColumns text time row state) :
    OperationalColumns text time' row state :=
  { held with
    ingestAttempt := held.ingestAttempt.imp weaker, ingestSuccess := held.ingestSuccess.imp weaker
    cycleAttempt := held.cycleAttempt.imp weaker, cycleSuccess := held.cycleSuccess.imp weaker
    persistSuccess := held.persistSuccess.imp weaker, dataAt := held.dataAt.imp weaker
    cleanupAttempt := held.cleanupAttempt.imp weaker, cleanupSuccess := held.cleanupSuccess.imp weaker }

end Imp

namespace RowText

variable {text : RowText} {row : SqlRow}

def reading (text : RowText) (label : String) (value : SqlValue) (t : DateTime) : Prop :=
  value.Reads (text.readTime label) t

theorem reads_lifecycle {value : SqlValue} {lifecycle : FindingLifecycle} :
    value.Reads text.findingLifecycle lifecycle ↔ value = .text lifecycle.columnText :=
  reads_decodeBy (fun lifecycle => by cases lifecycle <;> simp)
    fun a b => by cases a <;> cases b <;> simp [FindingLifecycle.columnText]

theorem rowToFinding_ok {finding : Finding} :
    text.rowToFinding (row.select findingColumns) = .ok finding ↔ FindingColumns text text.reading row finding := by
  unfold rowToFinding findingColumns SqlRow.select
  simp only [except_bind_ok, parsed_string_ok, parsed_i64_ok, optionalParsed_ok, column_ok, List.map_cons,
    List.getElem?_cons_succ, List.getElem?_cons_zero, Option.some.injEq, exists_eq_left', string_ok,
    optional_string_ok, severityOf_ok, findingSchema_ok, reads_lifecycle]
  constructor
  · rintro ⟨severity, ⟨_, severityHeld, rfl⟩, evidence, evidenceHeld, timestamp, timestampHeld, version, versionHeld,
      schemaVersion, ⟨_, schemaHeld, rfl, supported⟩, firstSeenAt, firstHeld, lastSeenAt, lastHeld, lifecycle,
        lifecycleHeld,
      provenance, provenanceHeld, id, idHeld, detector, detectorHeld, node, nodeHeld, channel, channelHeld, explanation,
      explanationHeld, done⟩
    cases done
    exact {
      id := idHeld, detector := detectorHeld, detectorVersion := ⟨version, versionHeld, rfl⟩, 
      schemaVersion := schemaHeld
      supported, severity := severityHeld, node := nodeHeld, channel := channelHeld, evidence := evidenceHeld
      provenance := readsOptional_mapError.mp provenanceHeld, explanation := explanationHeld, timestamp := timestampHeld
      firstSeenAt := firstHeld, lastSeenAt := lastHeld, lifecycle := lifecycleHeld }
  · intro held
    obtain ⟨version, versionHeld, versioned⟩ := held.detectorVersion
    exact ⟨_, ⟨_, held.severity, rfl⟩, _, held.evidence, _, held.timestamp, version, versionHeld, _,
      ⟨_, held.schemaVersion, rfl, held.supported⟩, _, held.firstSeenAt, _, held.lastSeenAt, _, held.lifecycle, _,
      readsOptional_mapError.mpr held.provenance, _, held.id, _, held.detector, _, held.node, _, held.channel, _,
      held.explanation, by rw [versioned]; rfl⟩

theorem reads_actionType {value : SqlValue} {actionType : ActionType} :
    value.Reads text.parseActionType actionType ↔ value = .text actionType.asStr :=
  reads_decodeBy (fun actionType => by cases actionType <;> simp)
    fun a b => by cases a <;> cases b <;> simp [ActionType.asStr]

theorem mem_stages (stage : ActionStage) :
    stage ∈ [ActionStage.recommended, .simulated, .approved, .executed, .rejected, .failed] := by
  cases stage <;> simp

theorem debugName_injective (a b : ActionStage) (same : a.debugName = b.debugName) : a = b := by
  cases a <;> cases b <;> simp [ActionStage.debugName] at same ⊢

theorem reads_stage {value : SqlValue} {stage : ActionStage} :
    value.Reads text.parseActionStage stage ↔ value = .text stage.debugName :=
  reads_decodeBy mem_stages debugName_injective

theorem readsOptional_stage {value : SqlValue} {stage : Option ActionStage} :
    value.ReadsOptional text.parseActionStage stage ↔ value = ofOption (fun stage => .text stage.debugName) stage :=
  readsOptional_decodeBy mem_stages debugName_injective

theorem readsOptional_network {value : SqlValue} {network : Option BitcoinNetwork} :
    value.ReadsOptional text.snapshotNetwork network ↔
      value = ofOption (fun network => .text network.toString) network :=
  readsOptional_decodeBy (fun network => by cases network <;> simp)
    fun a b => by cases a <;> cases b <;> simp [BitcoinNetwork.toString]

theorem rowToRecommendation_ok {recommendation : Recommendation} :
    text.rowToRecommendation (row.select recommendationColumns) = .ok recommendation ↔
      RecommendationColumns text text.reading row recommendation := by
  unfold rowToRecommendation recommendationColumns SqlRow.select
  simp only [except_bind_ok, parsed_string_ok, column_ok, List.map_cons, List.getElem?_cons_succ,
    List.getElem?_cons_zero, Option.some.injEq, exists_eq_left', string_ok, optional_string_ok, reads_actionType,
    reads_stage, Option.bind_some]
  constructor
  · rintro ⟨actionType, typeHeld, stage, stageHeld, params, paramsHeld, rationale, rationaleHeld, createdAt,
      createdHeld,
      updatedAt, updatedHeld, findingId, findingHeld, id, idHeld, target, targetHeld, summary, summaryHeld, done⟩
    cases done
    exact {
      findingId := findingHeld, actionId := idHeld, actionType := typeHeld, stage := stageHeld, target := targetHeld
      params := reads_mapError.mp paramsHeld, summary := summaryHeld, rationale := reads_mapError.mp rationaleHeld
      createdAt := createdHeld, updatedAt := updatedHeld, lifecycle := rfl }
  · intro held
    exact ⟨_, held.actionType, _, held.stage, _, reads_mapError.mpr held.params, _,
      reads_mapError.mpr held.rationale, _,
      held.createdAt, _, held.updatedAt, _, held.findingId, _, held.actionId, _, held.target, _, held.summary,
      by rw [held.lifecycle]; rfl⟩

theorem rowToAudit_ok {entry : AuditEntry} :
    text.rowToAudit (row.select auditColumns) = .ok entry ↔ AuditColumns text text.reading row entry := by
  unfold rowToAudit auditColumns SqlRow.select
  simp only [except_bind_ok, parsed_string_ok, optionalParsed_ok, column_ok, List.map_cons, List.getElem?_cons_succ,
    List.getElem?_cons_zero, Option.some.injEq, exists_eq_left', string_ok, reads_actionType, reads_stage,
    readsOptional_stage]
  constructor
  · rintro ⟨actionType, typeHeld, previousStage, previousHeld, stage, stageHeld, details, detailsHeld, timestamp,
      timestampHeld, id, idHeld, actionId, actionHeld, actor, actorHeld, done⟩
    cases done
    exact {
      id := idHeld, actionId := actionHeld, actionType := typeHeld, previousStage := previousHeld, stage := stageHeld
      actor := actorHeld, details := reads_mapError.mp detailsHeld, timestamp := timestampHeld }
  · intro held
    exact ⟨_, held.actionType, _, held.previousStage, _, held.stage, _, reads_mapError.mpr held.details, _,
      held.timestamp, _, held.id, _, held.actionId, _, held.actor, rfl⟩

theorem rowToSnapshot_ok {snapshot : ChannelSnapshot} :
    text.rowToSnapshot (row.select snapshotColumns) = .ok snapshot ↔
      SnapshotColumns text.reading row snapshot := by
  unfold rowToSnapshot snapshotColumns SqlRow.select
  simp only [except_bind_ok, parsed_string_ok, optionalParsed_ok, column_ok, List.map_cons, List.getElem?_cons_succ,
    List.getElem?_cons_zero, Option.some.injEq, exists_eq_left', string_ok, optional_string_ok, unsigned_ok,
    readsOptional_network, convert_ok, statusFromI64_ok]
  constructor
  · rintro ⟨statusNumber, ⟨numberHeld, -⟩, ts, tsHeld, network, networkHeld, nodeId, nodeHeld, channelId, channelHeld,
      localRatio, ratioHeld, localBalance, localHeld, remoteBalance, remoteHeld, capacity, capacityHeld, status, rfl,
      outbound, outboundHeld, inbound, inboundHeld, digest, digestHeld, done⟩
    cases done
    exact {
      nodeId := nodeHeld, network := networkHeld, stateDigest := digestHeld, channelId := channelHeld
      localRatio := ratioHeld, localBalanceMsat := localHeld, remoteBalanceMsat := remoteHeld
      capacityMsat := capacityHeld, status := numberHeld, ts := tsHeld, spendableOutboundMsat := outboundHeld
      spendableInboundMsat := inboundHeld }
  · intro held
    have small : Tables.statusInt snapshot.status < 2^32 := by cases snapshot.status <;> decide
    exact ⟨_, ⟨held.status, small⟩, _, held.ts, _, held.network, _, held.nodeId, _, held.channelId, _,
      held.localRatio, _,
      held.localBalanceMsat, _, held.remoteBalanceMsat, _, held.capacityMsat, _, rfl, _, held.spendableOutboundMsat, _,
      held.spendableInboundMsat, _, held.stateDigest, rfl⟩

theorem readsOptional_time {label : String} {value : SqlValue} {instant : Option DateTime} :
    value.ReadsOptional (text.readTime label) instant ↔ OptionalTime text.reading label value instant := by
  cases instant <;> exact Iff.rfl

theorem rowToEvent_ok {record : WebhookEventRecord} :
    text.rowToEvent (row.select eventColumns) = .ok record ↔ EventColumns text text.reading row record := by
  unfold rowToEvent eventColumns SqlRow.select
  simp only [except_bind_ok, parsed_string_ok, optionalParsed_ok, column_ok, List.map_cons, List.getElem?_cons_succ,
    List.getElem?_cons_zero, Option.some.injEq, exists_eq_left', string_ok, readsOptional_time]
  constructor
  · rintro ⟨event, eventHeld, acceptedAt, acceptedHeld, processedAt, processedHeld, deliveryId, idHeld, done⟩
    cases done
    exact ⟨idHeld, reads_mapError.mp eventHeld, acceptedHeld, processedHeld⟩
  · intro held
    exact ⟨_, reads_mapError.mpr held.event, _, held.acceptedAt, _, held.processedAt, _, held.deliveryId, rfl⟩

theorem parseSource_ok {s : String} {connected : Option Int} {source : SourceState} :
    text.parseSource s connected = .ok source ↔ s = source.asStr ∧ connected = source.connectedColumn := by
  constructor
  · intro parsed
    unfold parseSource at parsed
    split at parsed
    · split at parsed <;> cases parsed <;> exact ⟨rfl, rfl⟩
    · split at parsed <;> cases parsed <;> exact ⟨rfl, rfl⟩
    · split at parsed
      next missing =>
        cases parsed
        exact ⟨rfl, Option.isNone_iff_eq_none.mp missing⟩
      next => cases parsed
    · cases parsed
  · rintro ⟨rfl, rfl⟩
    cases source with
    | fixture => rfl
    | lndRest connected => cases connected <;> rfl
    | btcPayGreenfield connected => cases connected <;> rfl

theorem parseComponent_ok {s : String} {component : ComponentState} :
    text.parseComponent s = .ok component ↔ s = component.asStr :=
  decodeBy_ok (fun component => by cases component <;> simp)
    fun a b => by cases a <;> cases b <;> simp [ComponentState.asStr]

theorem present_ok {α : Type} {parse : String → Except String α} {stored : Option String} {found : Option α} :
    present parse stored = .ok found ↔ (ofOption .text stored).ReadsOptional parse found := by
  cases stored with
  | none =>
    show Except.ok none = .ok found ↔ _
    cases found <;> simp [ReadsOptional, Reads, ofOption]
  | some s =>
    show (parse s).map some = .ok found ↔ _
    cases found <;> cases read : parse s <;> simp [ReadsOptional, Reads, ofOption, Except.map, read]

theorem readsOptional_iff {α : Type} {parse : String → Except String α} {value : SqlValue} {found : Option α} :
    value.ReadsOptional parse found ↔
      ∃ stored, value = ofOption .text stored ∧ (ofOption .text stored).ReadsOptional parse found := by
  constructor
  · intro reads
    cases found with
    | none => exact ⟨none, reads, rfl⟩
    | some a =>
      obtain ⟨s, rfl, parsed⟩ := reads
      exact ⟨some s, rfl, s, rfl, parsed⟩
  · rintro ⟨stored, rfl, reads⟩
    exact reads

theorem optionalTime_iff {label : String} {value : SqlValue} {instant : Option DateTime} :
    OptionalTime text.reading label value instant ↔
      ∃ stored, value = ofOption .text stored ∧ (ofOption .text stored).ReadsOptional (text.readTime label) instant :=
  readsOptional_time.symm.trans readsOptional_iff

theorem rowToOperationalState_ok {state : OperationalState} :
    text.rowToOperationalState (row.select operationalColumns) = .ok state ↔
      OperationalColumns text text.reading row state := by
  unfold rowToOperationalState operationalColumns SqlRow.select
  simp only [except_bind_ok, except_mapError_ok, column_ok, List.map_cons, List.getElem?_cons_succ,
    List.getElem?_cons_zero, Option.some.injEq, exists_eq_left', string_ok, optional_string_ok, optional_i64_ok,
    parseSource_ok, parseComponent_ok, present_ok]
  constructor
  · rintro ⟨source, sourceHeld, connected, connectedHeld, ingestAttempt, ingestAttemptHeld, ingestSuccess,
      ingestSuccessHeld, cycleAttempt, cycleAttemptHeld, cycleSuccess, cycleSuccessHeld, persistSuccess,
      persistSuccessHeld, dataAt, dataAtHeld, bitcoinCore, coreHeld, lightning, lightningHeld, llm, llmHeld, alert,
      alertHeld, cleanup, cleanupHeld, cleanupAttempt, cleanupAttemptHeld, cleanupSuccess, cleanupSuccessHeld, read⟩
    obtain ⟨_, ⟨rfl, rfl⟩, _, first, _, second, _, third, _, fourth, _, fifth, _, sixth, _, core, _, light, read⟩ :=
      read
    obtain ⟨_, rfl, _, rfl, _, rfl, _, seventh, _, eighth, done⟩ := read
    cases done
    exact {
      source := sourceHeld, connected := connectedHeld
      ingestAttempt := optionalTime_iff.mpr ⟨_, ingestAttemptHeld, first⟩
      ingestSuccess := optionalTime_iff.mpr ⟨_, ingestSuccessHeld, second⟩
      cycleAttempt := optionalTime_iff.mpr ⟨_, cycleAttemptHeld, third⟩
      cycleSuccess := optionalTime_iff.mpr ⟨_, cycleSuccessHeld, fourth⟩
      persistSuccess := optionalTime_iff.mpr ⟨_, persistSuccessHeld, fifth⟩
      dataAt := optionalTime_iff.mpr ⟨_, dataAtHeld, sixth⟩
      bitcoinCore := readsOptional_iff.mpr ⟨_, coreHeld, readsOptional_mapError.mp core⟩
      lightning := readsOptional_iff.mpr ⟨_, lightningHeld, readsOptional_mapError.mp light⟩
      llm := llmHeld, alertSink := alertHeld, cleanup := cleanupHeld
      cleanupAttempt := optionalTime_iff.mpr ⟨_, cleanupAttemptHeld, seventh⟩
      cleanupSuccess := optionalTime_iff.mpr ⟨_, cleanupSuccessHeld, eighth⟩ }
  · intro held
    obtain ⟨_, ingestAttemptHeld, first⟩ := optionalTime_iff.mp held.ingestAttempt
    obtain ⟨_, ingestSuccessHeld, second⟩ := optionalTime_iff.mp held.ingestSuccess
    obtain ⟨_, cycleAttemptHeld, third⟩ := optionalTime_iff.mp held.cycleAttempt
    obtain ⟨_, cycleSuccessHeld, fourth⟩ := optionalTime_iff.mp held.cycleSuccess
    obtain ⟨_, persistSuccessHeld, fifth⟩ := optionalTime_iff.mp held.persistSuccess
    obtain ⟨_, dataAtHeld, sixth⟩ := optionalTime_iff.mp held.dataAt
    obtain ⟨_, coreHeld, core⟩ := readsOptional_iff.mp held.bitcoinCore
    obtain ⟨_, lightningHeld, light⟩ := readsOptional_iff.mp held.lightning
    obtain ⟨_, cleanupAttemptHeld, seventh⟩ := optionalTime_iff.mp held.cleanupAttempt
    obtain ⟨_, cleanupSuccessHeld, eighth⟩ := optionalTime_iff.mp held.cleanupSuccess
    exact ⟨_, held.source, _, held.connected, _, ingestAttemptHeld, _, ingestSuccessHeld, _, cycleAttemptHeld, _,
      cycleSuccessHeld, _, persistSuccessHeld, _, dataAtHeld, _, coreHeld, _, lightningHeld, _, held.llm, _,
      held.alertSink, _, held.cleanup, _, cleanupAttemptHeld, _, cleanupSuccessHeld, _, ⟨rfl, rfl⟩, _, first, _,
        second, _,
      third, _, fourth, _, fifth, _, sixth, _, readsOptional_mapError.mpr core, _,
        readsOptional_mapError.mpr light, _, rfl,
      _, rfl, _, rfl, _, seventh, _, eighth, rfl⟩

end RowText

end Rieko
