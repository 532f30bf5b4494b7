import Rieko.Lib.Coupling
import Rieko.Storage.Listings
import Rieko.Storage.SimulationRows
import Rieko.Storage.SqliteSimulations
import Rieko.Storage.TextTables

namespace Rieko

open SqlValue TextTables

section Instants

variable {a b : DateTime} (four : a.FourDigitYear) (four' : b.FourDigitYear)

theorem DateTime.FourDigitYear.min {a b : DateTime} (four : a.FourDigitYear) (four' : b.FourDigitYear) :
    DateTime.FourDigitYear (min a b) := by
  rcases min_choice a b with least | least <;> rw [least] <;> assumption

theorem DateTime.FourDigitYear.max {a b : DateTime} (four : a.FourDigitYear) (four' : b.FourDigitYear) :
    DateTime.FourDigitYear (max a b) := by
  rcases max_choice a b with most | most <;> rw [most] <;> assumption

include four four'

theorem toRfc3339_min : (min a b).toRfc3339 = if a.toRfc3339 ≤ b.toRfc3339 then a.toRfc3339 else b.toRfc3339 := by
  simp only [toRfc3339_le four four', min_def, apply_ite DateTime.toRfc3339]

theorem instantText_le : (instantText a).le (instantText b) = decide (a ≤ b) :=
  decide_eq_decide.mpr (toRfc3339_le four four')

theorem instantText_is : (instantText a).is (instantText b) = decide (a = b) := by
  unfold is
  rw [instantText_le four four', instantText_le four' four, Bool.eq_iff_iff]
  simp only [Bool.and_eq_true, decide_eq_true_eq]
  exact le_antisymm_iff.symm

theorem instantText_atLeast : (instantText a).atLeast (instantText b) = decide (b ≤ a) :=
  atLeast_text.trans (decide_eq_decide.mpr (toRfc3339_le four' four))

theorem instantText_equals : (instantText a).equals (instantText b) = decide (a = b) :=
  instantText_is four four'

theorem instantText_least : (instantText a).least (instantText b) = instantText (min a b) := by
  unfold instantText
  rw [least_text, toRfc3339_min four four']
  split <;> rfl

theorem instantText_greatest : (instantText a).greatest (instantText b) = instantText (max a b) := by
  unfold instantText
  rw [greatest_text, max_comm, max_def, apply_ite DateTime.toRfc3339]
  simp only [toRfc3339_le four' four]
  split <;> rfl

end Instants

def written (_ : String) (value : SqlValue) (t : DateTime) : Prop := value = instantText t ∧ t.FourDigitYear

theorem RowText.Documented.reads {text : RowText} (documented : text.Documented) {label : String} {value : SqlValue}
    {t : DateTime} (held : written label value t) : text.reading label value t := by
  obtain ⟨rfl, four⟩ := held
  refine ⟨_, rfl, ?_⟩
  unfold RowText.readTime
  rw [documented.instants t four]
  rfl

theorem network_toString_injective (a b : BitcoinNetwork) (same : a.toString = b.toString) : a = b := by
  cases a <;> cases b <;> simp [BitcoinNetwork.toString] at same ⊢

theorem networkText_is (a b : Option BitcoinNetwork) : (networkText a).is (networkText b) = decide (a = b) :=
  is_ofOption network_toString_injective

section Findings

variable {text : RowText}

structure FindingStands (text : RowText) (row : SqlRow) (stored : FindingRow) : Prop where
  columns : FindingColumns text written row stored.finding
  version : row "detector_version" = .text stored.finding.detectorVersion
  absent : row "consecutive_absent" = .integer stored.consecutiveAbsent

structure RowText.StorableFinding (text : RowText) (finding : Finding) : Prop where
  timestamp : finding.timestamp.FourDigitYear
  firstSeenAt : finding.firstSeenAt.FourDigitYear
  lastSeenAt : finding.lastSeenAt.FourDigitYear
  evidence : text.evidence.ReadsBack finding.evidence
  provenance : ∀ provenance ∈ finding.provenance, text.provenance.ReadsBack provenance

theorem RowText.StorableFinding.readsProvenance {finding : Finding} (storable : text.StorableFinding finding) :
    (provenanceText text finding.provenance).ReadsOptional text.provenance.read finding.provenance := by
  have reads := storable.provenance
  cases stored : finding.provenance with
  | none => exact rfl
  | some provenance => exact ⟨_, rfl, reads provenance stored⟩

theorem RowText.Documented.networkOf (documented : text.Documented) {value : SqlValue}
    {provenance : Option FindingProvenance}
    (reads : value.ReadsOptional text.provenance.read provenance) :
    text.extractNetwork value = .ok (networkText (provenance.bind (·.network))) := by
  cases provenance with
  | none =>
    rw [show value = .null from reads]
    exact documented.networkOfNull
  | some provenance =>
    obtain ⟨s, rfl, read⟩ := reads
    exact documented.network s provenance read

variable {row : SqlRow} {stored : FindingRow}

theorem FindingStands.network (documented : text.Documented) (stands : FindingStands text row stored) :
    text.extractNetwork (row "provenance") = .ok (networkText stored.finding.network) :=
  documented.networkOf stands.columns.provenance

theorem sameSubject_eq (documented : text.Documented) {finding : Finding} (storable : text.StorableFinding finding)
    (stands : FindingStands text row stored) : sameSubject text finding row = .ok (decide (
      stored.finding.detector = finding.detector ∧ stored.finding.detectorVersion = finding.detectorVersion ∧
      stored.finding.node = finding.node ∧ stored.finding.channel = finding.channel ∧
      stored.finding.network = finding.network)) := by
  unfold sameSubject
  rw [stands.columns.detector, stands.version, stands.columns.node, stands.columns.channel, stands.network documented,
    documented.networkOf storable.readsProvenance, equals_text, equals_text, is_optionText, is_optionText]
  show (if _ then Except.ok ((networkText _).is (networkText _)) else Except.ok false) = _
  rw [networkText_is, ← apply_ite Except.ok]
  refine congrArg Except.ok ?_
  rw [Bool.eq_iff_iff]
  simp only [Bool.and_eq_true, decide_eq_true_eq, and_assoc]
  split
  next met =>
    rw [decide_eq_true_eq]
    exact ⟨fun same => ⟨met.1, met.2.1, met.2.2.1, met.2.2.2, same⟩, fun all => all.2.2.2.2⟩
  next unmet =>
    simp only [Bool.false_eq_true, false_iff]
    exact fun all => unmet ⟨all.1, all.2.1, all.2.2.1, all.2.2.2.1⟩

theorem inScope_eq (documented : text.Documented) (scope : FindingCycleScope) (stands : FindingStands text row stored) :
    TextTables.inScope text scope row = .ok (stored.inScope scope) := by
  have lifecycle : ((row "lifecycle").equals (.text "active")) = decide (stored.finding.lifecycle = .active) := by
    rw [stands.columns.lifecycle, equals_text]
    cases stored.finding.lifecycle <;> decide
  unfold TextTables.inScope FindingRow.inScope
  rw [stands.columns.detector, stands.columns.node, stands.network documented, lifecycle, equals_text, is_optionText]
  show (if _ then Except.ok ((networkText _).is (networkText _) && _) else Except.ok false) = _
  rw [networkText_is, ← apply_ite Except.ok]
  refine congrArg Except.ok ?_
  rw [Bool.eq_iff_iff]
  simp only [Bool.and_eq_true, decide_eq_true_eq]
  split
  next met => simp [met]
  next unmet =>
    simp only [Bool.false_eq_true, false_iff]
    exact fun all => unmet ⟨all.1, all.2.1⟩

theorem inScope_atLeastTwo (documented : text.Documented) (scope : FindingCycleScope)
    (stands : FindingStands text row stored) :
    (do return (← TextTables.inScope text scope row) && (row "consecutive_absent").atLeast (.integer 2)) =
      Except.ok (stored.inScope scope && decide (2 ≤ stored.consecutiveAbsent)) := by
  rw [inScope_eq documented scope stands, stands.absent, atLeast_integer]
  show Except.ok (_ && decide (2 ≤ (stored.consecutiveAbsent : Int))) = _
  rw [decide_eq_decide.mpr (show 2 ≤ (stored.consecutiveAbsent : Int) ↔ 2 ≤ stored.consecutiveAbsent by omega)]

theorem inScope_belowTwo (documented : text.Documented) (scope : FindingCycleScope)
    (stands : FindingStands text row stored) :
    (do return (← TextTables.inScope text scope row) && (row "consecutive_absent").below (.integer 2)) =
      Except.ok (stored.inScope scope && decide (stored.consecutiveAbsent < 2)) := by
  rw [inScope_eq documented scope stands, stands.absent, below_integer]
  show Except.ok (_ && decide ((stored.consecutiveAbsent : Int) < 2)) = _
  rw [decide_eq_decide.mpr (show (stored.consecutiveAbsent : Int) < 2 ↔ stored.consecutiveAbsent < 2 by omega)]

theorem FindingStands.resolved (stands : FindingStands text row stored) :
    FindingStands text (row.set [("lifecycle", .text "resolved"), ("consecutive_absent", .integer 0)])
      ⟨{ stored.finding with lifecycle := .resolved }, 0⟩ where
  columns := { stands.columns with lifecycle := rfl }
  version := stands.version
  absent := rfl

theorem FindingStands.counted (stands : FindingStands text row stored) :
    FindingStands text (row.set [("consecutive_absent", (row "consecutive_absent").plusOne)])
      { stored with consecutiveAbsent := stored.consecutiveAbsent + 1 } where
  columns := { stands.columns with }
  version := stands.version
  absent := by
    show (row "consecutive_absent").plusOne = _
    rw [stands.absent]
    rfl

theorem FindingStands.inserted {finding : Finding} (storable : text.StorableFinding finding)
    (supported : validateFindingSchema finding.schemaVersion = .ok ()) {first : DateTime} (four : first.FourDigitYear) :
    FindingStands text (findingDefaults.set (findingValues text finding (instantText first)))
      ⟨{ finding with firstSeenAt := first, lifecycle := .active }, 0⟩ where
  columns := {
    id := rfl, detector := rfl, detectorVersion := ⟨some finding.detectorVersion, rfl, rfl⟩
    schemaVersion := rfl, supported
    severity := rfl, node := rfl, channel := rfl, evidence := ⟨_, rfl, storable.evidence⟩
    provenance := storable.readsProvenance, explanation := rfl, timestamp := ⟨rfl, storable.timestamp⟩
    firstSeenAt := ⟨rfl, four⟩, lastSeenAt := ⟨rfl, storable.lastSeenAt⟩, lifecycle := rfl }
  version := rfl
  absent := rfl

theorem FindingStands.conflict {newRow : SqlRow} {excluded : FindingRow} (stands : FindingStands text row stored)
    (new : FindingStands text newRow excluded) :
    FindingStands text (TextTables.onConflict row newRow) (stored.onConflict excluded) := by
  have newer : (newRow "last_seen_at").atLeast (row "last_seen_at") =
      decide (stored.finding.lastSeenAt ≤ excluded.finding.lastSeenAt) := by
    rw [new.columns.lastSeenAt.1, stands.columns.lastSeenAt.1]
    exact instantText_atLeast new.columns.lastSeenAt.2 stands.columns.lastSeenAt.2
  have first : written "first_seen_at" ((row "first_seen_at").least (newRow "first_seen_at"))
      (min stored.finding.firstSeenAt excluded.finding.firstSeenAt) := by
    rw [stands.columns.firstSeenAt.1, new.columns.firstSeenAt.1]
    exact ⟨instantText_least stands.columns.firstSeenAt.2 new.columns.firstSeenAt.2,
      stands.columns.firstSeenAt.2.min new.columns.firstSeenAt.2⟩
  have last : written "last_seen_at" ((row "last_seen_at").greatest (newRow "last_seen_at"))
      (max stored.finding.lastSeenAt excluded.finding.lastSeenAt) := by
    rw [stands.columns.lastSeenAt.1, new.columns.lastSeenAt.1]
    exact ⟨instantText_greatest stands.columns.lastSeenAt.2 new.columns.lastSeenAt.2,
      stands.columns.lastSeenAt.2.max new.columns.lastSeenAt.2⟩
  unfold TextTables.onConflict FindingRow.onConflict
  rw [newer]
  by_cases fresh : stored.finding.lastSeenAt ≤ excluded.finding.lastSeenAt
  · simp only [fresh, decide_true, if_true]
    exact {
      columns := {
        stands.columns with
        schemaVersion := new.columns.schemaVersion, supported := new.columns.supported
        severity := new.columns.severity, evidence := new.columns.evidence, provenance := new.columns.provenance
        explanation := new.columns.explanation, timestamp := new.columns.timestamp, firstSeenAt := first
        lastSeenAt := last, lifecycle := rfl }
      version := stands.version, absent := rfl }
  · simp only [fresh, decide_false, Bool.false_eq_true, if_false]
    exact {
      columns := { stands.columns with firstSeenAt := first, lastSeenAt := last }
      version := stands.version, absent := stands.absent }

variable {rows : List SqlRow} {findings : List FindingRow}

theorem minimum_firstSeenAt (related : List.Forall₂ (FindingStands text) rows findings) (t : DateTime)
    (four : t.FourDigitYear) :
    ∃ first,
      (instantText t).least (coalesce (minimum (rows.map (· "first_seen_at"))) (instantText t)) = instantText first ∧
      first = min t ((findings.map (·.finding.firstSeenAt)).min?.getD t) ∧ first.FourDigitYear := by
  have texts : rows.map (· "first_seen_at") = (findings.map (·.finding.firstSeenAt)).map instantText := by
    induction related with
    | nil => rfl
    | cons stands rest ih => rw [List.map_cons, stands.columns.firstSeenAt.1, ih]; rfl
  have fours : ∀ instant ∈ findings.map (·.finding.firstSeenAt), instant.FourDigitYear := by
    clear texts
    induction related with
    | nil => simp
    | cons stands rest ih => simpa using ⟨stands.columns.firstSeenAt.2, by simpa using ih⟩
  rw [texts]
  generalize findings.map (·.finding.firstSeenAt) = instants at fours
  cases instants with
  | nil => exact ⟨_, instantText_least four four, rfl, four.min four⟩
  | cons a instants =>
    have found : minimum ((a :: instants).map instantText) = instantText (instants.foldl min a) ∧
        (instants.foldl min a).FourDigitYear :=
      minimum_texts DateTime.toRfc3339 DateTime.FourDigitYear (fun a b => DateTime.FourDigitYear.min)
        (fun a b => toRfc3339_min) fours
    rw [found.1, show coalesce (instantText _) _ = instantText _ from coalesce_text]
    exact ⟨_, instantText_least four found.2, rfl, four.min found.2⟩

end Findings

structure RecommendationStands (text : RowText) (row : SqlRow) (recommendation : Recommendation) : Prop where
  columns : RecommendationColumns text written row recommendation
  lifecycle : row "lifecycle" = ofOption .text recommendation.lifecycle

structure DeliveryStands (row : SqlRow) (delivery : WebhookDeliveryRow) : Prop where
  deliveryId : row "delivery_id" = .text delivery.deliveryId
  webhookId : row "webhook_id" = ofOption .text delivery.webhookId
  eventType : row "event_type" = ofOption .text delivery.eventType
  processedAt : written "processed_at" (row "processed_at") delivery.processedAt

def OperationalState.times (state : OperationalState) : List (Option DateTime) :=
  [state.lastIngestionAttempt, state.lastIngestionSuccess, state.lastCycleAttempt, state.lastCycleSuccess,
    state.lastPersistSuccess, state.sourceDataAt, state.lastCleanupAttempt, state.lastCleanupSuccess]

structure RowText.StorableState (text : RowText) (state : OperationalState) : Prop where
  times : ∀ time ∈ state.times, ∀ t ∈ time, t.FourDigitYear
  bitcoinCore : ∀ core ∈ state.bitcoinCore, text.bitcoinCore.ReadsBack core
  lightning : ∀ lightning ∈ state.lightning, text.lightning.ReadsBack lightning

structure OperationalStands (text : RowText) (row : SqlRow) (state : OperationalState) : Prop where
  id : row "id" = .text "current"
  columns : OperationalColumns text written row state
  storable : text.StorableState state

/-- A row of a simulation, with what the unique index sees of it. -/
structure SimulationStands (text : RowText) (row : SqlRow) (record : SimulationRecord) : Prop where
  columns : SimulationColumns text row record
  indexed : simulationIndexed row = (decide (record.inputHash ≠ "") && record.replayable)

/-- Each stored row stands for the record at its place. -/
structure TextTables.Stands (text : RowText) (stored : TextTables) (tables : Tables) : Prop where
  findings : List.Forall₂ (FindingStands text) stored.findings tables.findings
  recommendations : List.Forall₂ (RecommendationStands text) stored.recommendations tables.recommendations
  audit : List.Forall₂ (AuditColumns text written) stored.audit tables.audit
  channelSnapshots : List.Forall₂ (SnapshotColumns written) stored.channelSnapshots tables.channelSnapshots
  webhookDeliveries : List.Forall₂ DeliveryStands stored.webhookDeliveries tables.webhookDeliveries
  webhookEvents : List.Forall₂ (EventColumns text written) stored.webhookEvents tables.webhookEvents
  operationalState : List.Forall₂ (OperationalStands text) stored.operationalState tables.operationalState.toList
  simulations : List.Forall₂ (SimulationStands text) stored.simulations tables.simulations

/-- A recommendation that is read back as it was written, but for its lifecycle, which is not written. -/
structure RowText.StorableRecommendation (text : RowText) (recommendation : Recommendation) : Prop where
  params : text.json.ReadsBack recommendation.action.params
  rationale : text.rationale.ReadsBack recommendation.rationale
  createdAt : recommendation.action.createdAt.FourDigitYear
  updatedAt : recommendation.action.updatedAt.FourDigitYear

structure RowText.StorableAudit (text : RowText) (entry : AuditEntry) : Prop where
  details : text.json.ReadsBack entry.details
  timestamp : entry.timestamp.FourDigitYear

structure ChannelSnapshot.Storable (snapshot : ChannelSnapshot) : Prop where
  ts : snapshot.ts.FourDigitYear
  localRatio : f64Value snapshot.localRatio = .real snapshot.localRatio
  localBalanceMsat : snapshot.localBalanceMsat < 2^63
  remoteBalanceMsat : snapshot.remoteBalanceMsat < 2^63
  capacityMsat : snapshot.capacityMsat < 2^63
  spendableOutboundMsat : snapshot.spendableOutboundMsat < 2^63
  spendableInboundMsat : snapshot.spendableInboundMsat < 2^63

structure RowText.WritesNull (text : RowText) : Prop where
  write : text.json.write .null = "null"
  back : text.json.ReadsBack .null

/-- A simulation that is read back as it was written. A missing input is not written. -/
structure RowText.StorableSimulation (text : RowText) (record : SimulationRecord) : Prop where
  assumptions : text.json.ReadsBack record.assumptions
  warnings : text.json.ReadsBack record.warnings
  projection : text.json.ReadsBack record.projection
  canonicalInput : record.canonicalInput.isNull = false → text.json.ReadsBack record.canonicalInput

theorem RowText.WritesNull.write_iff {text : RowText} (writes : text.WritesNull) {value : Json}
    (back : text.json.ReadsBack value) :
    text.json.write value = "null" ↔ value.isNull = true := by
  constructor
  · intro same
    have read : text.json.read "null" = .ok value := same ▸ back
    have null : text.json.read "null" = .ok .null := writes.write ▸ writes.back
    rw [read, Except.ok.injEq] at null
    rw [null]
    rfl
  · intro null
    rw [Json.isNull_iff.mp null]
    exact writes.write

namespace TextTables

variable {text : RowText} {stored : TextTables} {tables : Tables}

def Succeeds (text : RowText) (ran : Except String (TextTables × Unit)) (tables : Tables) : Prop :=
  ∃ stored, ran = .ok (stored, ()) ∧ Stands text stored tables

section Findings

theorem Stands.insertFinding (documented : text.Documented) {finding : Finding}
    (storable : text.StorableFinding finding)
    (supported : validateFindingSchema finding.schemaVersion = .ok ()) (stands : Stands text stored tables) :
    Succeeds text (stored.insertFinding text finding) (tables.insertFinding finding) := by
  obtain ⟨same, found, related⟩ := Rows.related_filterM
    (fun _ _ stands => sameSubject_eq documented storable stands) stands.findings
  obtain ⟨first, least, earliest, four⟩ := minimum_firstSeenAt related finding.firstSeenAt storable.firstSeenAt
  have new := FindingStands.inserted storable supported four
  unfold TextTables.insertFinding
  rw [found]
  refine ⟨_, rfl, { stands with findings := ?_ }⟩
  show List.Forall₂ _ (Rows.upsert _ (findingDefaults.set (findingValues text finding
    ((instantText finding.firstSeenAt).least (coalesce (minimum _) (instantText finding.firstSeenAt))))) _ _) _
  rw [least]
  subst earliest
  refine Rows.related_upsert (fun row stored stands => ?_) new (fun _ _ stands => stands.conflict new) stands.findings
  rw [stands.columns.id, new.columns.id, SqlValue.text.injEq]
  rfl

theorem Stands.resolveAbsentFindings (documented : text.Documented) (scope : FindingCycleScope)
    (stands : Stands text stored tables) :
    Succeeds text (stored.resolveAbsentFindings text scope) (tables.resolveAbsentFindings scope) := by
  obtain ⟨findings, updated, related⟩ := Rows.related_updateWhereM
    (fun _ _ stands => inScope_atLeastTwo documented scope stands)
    (fun _ _ stands _ => stands.resolved) stands.findings
  unfold TextTables.resolveAbsentFindings
  rw [updated]
  exact ⟨_, rfl, { stands with findings := related }⟩

theorem Stands.countAbsentFindings (documented : text.Documented) (scope : FindingCycleScope)
    (stands : Stands text stored tables) :
    Succeeds text (stored.countAbsentFindings text scope) (tables.countAbsentFindings scope) := by
  obtain ⟨findings, updated, related⟩ := Rows.related_updateWhereM
    (fun _ _ stands => inScope_belowTwo documented scope stands)
    (fun _ _ stands _ => stands.counted) stands.findings
  unfold TextTables.countAbsentFindings
  rw [updated]
  exact ⟨_, rfl, { stands with findings := related }⟩

end Findings

section Recommendations

theorem Stands.replaceRecommendation {recommendation : Recommendation}
    (storable : text.StorableRecommendation recommendation) (stands : Stands text stored tables) :
    Stands text (stored.replaceRecommendation text recommendation) (tables.replaceRecommendation recommendation) := by
  refine { stands with recommendations := ?_ }
  refine List.rel_append (Rows.related_filter (fun row other stands => ?_) stands.recommendations) (.cons ?_ .nil)
  · rw [stands.columns.actionId, equals_text, decide_not]
  · exact {
      columns := {
        findingId := rfl, actionId := rfl, actionType := rfl, stage := rfl, target := rfl
        params := ⟨_, rfl, storable.params⟩, summary := rfl, rationale := ⟨_, rfl, storable.rationale⟩
        createdAt := ⟨rfl, storable.createdAt⟩, updatedAt := ⟨rfl, storable.updatedAt⟩, lifecycle := rfl }
      lifecycle := rfl }

theorem isActive_eq {row : SqlRow} {recommendation : Recommendation}
    (stands : RecommendationStands text row recommendation) : TextTables.isActive row = recommendation.isActive := by
  unfold TextTables.isActive Recommendation.isActive
  rw [stands.lifecycle]
  cases recommendation.lifecycle with
  | none => rfl
  | some lifecycle => exact equals_text

theorem Stands.resolveForFinding (findingId : String) {now : DateTime} (four : now.FourDigitYear)
    (stands : Stands text stored tables) :
    Stands text (stored.resolveForFinding findingId now) (tables.resolveForFinding findingId now) := by
  refine { stands with recommendations := ?_ }
  refine Rows.related_updateWhere (fun row other stands => ?_) (fun row other stands => ?_) stands.recommendations
  · rw [stands.columns.findingId, equals_text]
  · exact { columns := { stands.columns with updatedAt := ⟨rfl, four⟩, lifecycle := rfl }, lifecycle := rfl }

theorem Stands.setStage (actionId : String) (stage : ActionStage) {now : DateTime} (four : now.FourDigitYear)
    (stands : Stands text stored tables) :
    Stands text (stored.setStage actionId stage now) (tables.setStage actionId stage now) := by
  refine { stands with recommendations := ?_ }
  refine Rows.related_updateWhere (fun row other stands => ?_) (fun row other stands => ?_) stands.recommendations
  · rw [stands.columns.actionId, equals_text]
  · exact { columns := { stands.columns with stage := rfl, updatedAt := ⟨rfl, four⟩ }, lifecycle := stands.lifecycle }

theorem Stands.resolveRecommendations {now : DateTime} (four : now.FourDigitYear) (stands : Stands text stored tables) :
    Stands text (stored.resolveRecommendations now) (tables.resolveRecommendations now) := by
  have resolved : List.Forall₂ (FindingStands text)
      (stored.findings.filter fun row => (row "lifecycle").equals (.text "resolved"))
      (tables.findings.filter (·.finding.lifecycle = .resolved)) := by
    refine Rows.related_filter (fun row found stands => ?_) stands.findings
    rw [stands.columns.lifecycle, equals_text]
    cases found.finding.lifecycle <;> decide
  refine { stands with recommendations := ?_ }
  refine Rows.related_updateWhere (fun row other stands => ?_) (fun row other stands => ?_) stands.recommendations
  · have named (findingRow : SqlRow) (found : FindingRow) (stands' : FindingStands text findingRow found) :
        (row "finding_id").equals (findingRow "id") = decide (found.id = other.findingId) := by
      rw [stands.columns.findingId, stands'.columns.id, equals_text]
      exact decide_eq_decide.mpr eq_comm
    rw [isActive_eq stands, List.any_map, Function.comp_def, Rows.related_any named resolved, Bool.eq_iff_iff]
    simp [and_assoc]
  · exact { columns := { stands.columns with updatedAt := ⟨rfl, four⟩, lifecycle := rfl }, lifecycle := rfl }

theorem Stands.insertAudit {entry : AuditEntry} (storable : text.StorableAudit entry)
    (stands : Stands text stored tables) :
    StatefulResult.Alike (fun p p' => Stands text p.1 p'.1 ∧ True) (stored.insertAudit text entry)
      (tables.insertAudit entry) := by
  have same : (stored.audit.any fun row => (row "id").equals (.text entry.id)) = tables.audit.any (·.id = entry.id) :=
    Rows.related_any (fun row other stands => by rw [stands.id, equals_text]) stands.audit
  unfold TextTables.insertAudit Tables.insertAudit
  rw [same]
  split
  · trivial
  · refine ⟨{ stands with audit := List.rel_append stands.audit (.cons ?_ .nil) }, trivial⟩
    exact {
      id := rfl, actionId := rfl, actionType := rfl, previousStage := rfl, stage := rfl, actor := rfl
      details := ⟨_, rfl, storable.details⟩, timestamp := ⟨rfl, storable.timestamp⟩ }

end Recommendations

section Snapshots

theorem u64Value_ok {n : Nat} (small : n < 2^63) : u64Value n = .ok (.integer n) := if_pos small

theorem Stands.replaceChannelSnapshot {snapshot : ChannelSnapshot} (storable : snapshot.Storable)
    (stands : Stands text stored tables) :
    Succeeds text (stored.replaceChannelSnapshot snapshot) (tables.replaceChannelSnapshot snapshot) := by
  unfold TextTables.replaceChannelSnapshot
  rw [u64Value_ok storable.localBalanceMsat, u64Value_ok storable.remoteBalanceMsat, u64Value_ok storable.capacityMsat,
    u64Value_ok storable.spendableOutboundMsat, u64Value_ok storable.spendableInboundMsat, storable.localRatio]
  refine ⟨_, rfl, { stands with channelSnapshots := ?_ }⟩
  refine List.rel_append (Rows.related_filter (fun row other stands => ?_) stands.channelSnapshots) (.cons ?_ .nil)
  · have network : (row "network_id").equals (networkText snapshot.network) =
        decide (other.network.isSome ∧ other.network = snapshot.network) := by
      rw [stands.network]
      exact equals_ofOption network_toString_injective
    have node : (row "node_id").equals (ofOption .text snapshot.nodeId) =
        decide (other.nodeId.isSome ∧ other.nodeId = snapshot.nodeId) := by
      rw [stands.nodeId]
      exact equals_optionText
    have channel : (row "channel_id").equals (.text snapshot.channelId) =
        decide (other.channelId = snapshot.channelId) := by
      rw [stands.channelId, equals_text]
    have instant : (row "ts").equals (instantText snapshot.ts) = decide (other.ts = snapshot.ts) := by
      rw [stands.ts.1]
      exact instantText_equals stands.ts.2 storable.ts
    show (!((row "network_id").equals (networkText snapshot.network) &&
      ((row "node_id").equals (ofOption .text snapshot.nodeId) &&
        ((row "channel_id").equals (.text snapshot.channelId) &&
          ((row "ts").equals (instantText snapshot.ts) && true))))) = _
    rw [network, node, channel, instant]
    unfold Tables.sameSnapshotKey
    rw [Bool.eq_iff_iff]
    simp only [Bool.not_eq_true', Bool.and_true, Bool.and_eq_false_iff, decide_eq_false_iff_not]
    tauto
  · exact {
      nodeId := rfl, network := rfl, stateDigest := rfl, channelId := rfl, localRatio := rfl
      localBalanceMsat := ⟨rfl, storable.localBalanceMsat.trans (by decide)⟩
      remoteBalanceMsat := ⟨rfl, storable.remoteBalanceMsat.trans (by decide)⟩
      capacityMsat := ⟨rfl, storable.capacityMsat.trans (by decide)⟩, status := rfl, ts := ⟨rfl, storable.ts⟩
      spendableOutboundMsat := ⟨rfl, storable.spendableOutboundMsat.trans (by decide)⟩
      spendableInboundMsat := ⟨rfl, storable.spendableInboundMsat.trans (by decide)⟩ }

theorem networkText_equals (found : Option BitcoinNetwork) (network : BitcoinNetwork) :
    (networkText found).equals (.text network.toString) = decide (found = some network) := by
  refine (@equals_ofOption _ _ _ (some network) _ network_toString_injective).trans (decide_eq_decide.mpr ?_)
  cases found <;> simp

theorem optionText_equals (found : Option String) (s : String) :
    (ofOption .text found).equals (.text s) = decide (found = some s) := by
  cases found with
  | none => rfl
  | some t =>
    refine equals_text.trans (decide_eq_decide.mpr ?_)
    simp

theorem related_descending {α : Type} {R : SqlRow → α → Prop} {column : String} {instant : α → DateTime}
    {rows : List SqlRow} {records : List α} (timed : ∀ row record, R row record → written "" (row column) (instant record))
    (related : List.Forall₂ R rows records) :
    List.Forall₂ R (descending column rows) (Ranking.latestFirst instant records) := by
  refine Rows.related_insertionSort (fun row record row' record' stands stands' => ?_) related
  rw [(timed row record stands).1, (timed row' record' stands').1,
    instantText_le (timed row' record' stands').2 (timed row record stands).2, decide_eq_true_eq]

theorem Stands.recentSnapshotsForNetwork (network : BitcoinNetwork) (nodeId : Option String) (channelId : String)
    (limit : Nat) (stands : Stands text stored tables) :
    List.Forall₂ (SnapshotColumns written) (stored.recentSnapshotsForNetwork network nodeId channelId limit)
      (tables.recentSnapshotsForNetwork network nodeId channelId limit) := by
  refine List.forall₂_take limit (related_descending (fun row record stands => stands.ts) ?_)
  refine Rows.related_filter (fun row other stands => ?_) stands.channelSnapshots
  have node : (nodeId.isNone || (row "node_id").equals (ofOption .text nodeId)) =
      decide (∀ node ∈ nodeId, other.nodeId = some node) := by
    rw [stands.nodeId]
    cases nodeId with
    | none => simp
    | some nodeId => simpa [ofOption] using optionText_equals other.nodeId nodeId
  rw [stands.network, stands.channelId, node, equals_text, show (ofOption _ _).equals _ = _ from networkText_equals _ _,
    Bool.eq_iff_iff]
  simp only [Bool.and_eq_true, decide_eq_true_eq, and_assoc]

theorem Stands.recentSnapshots (channelId : String) (limit : Nat) (stands : Stands text stored tables) :
    List.Forall₂ (SnapshotColumns written) (stored.recentSnapshots channelId limit)
      ((Ranking.latestFirst (·.ts) (tables.channelSnapshots.filter fun row =>
        row.channelId = channelId)).take limit) := by
  refine List.forall₂_take limit (related_descending (fun row record stands => stands.ts) ?_)
  refine Rows.related_filter (fun row other stands => ?_) stands.channelSnapshots
  rw [stands.channelId, equals_text]

theorem Stands.recentSnapshotsForNode (nodeId channelId : String) (limit : Nat) (stands : Stands text stored tables) :
    List.Forall₂ (SnapshotColumns written) (stored.recentSnapshotsForNode nodeId channelId limit)
      ((Ranking.latestFirst (·.ts) (tables.channelSnapshots.filter fun row =>
        row.nodeId = some nodeId ∧ row.channelId = channelId)).take limit) := by
  refine List.forall₂_take limit (related_descending (fun row record stands => stands.ts) ?_)
  refine Rows.related_filter (fun row other stands => ?_) stands.channelSnapshots
  rw [stands.nodeId, stands.channelId, equals_text, optionText_equals, ← Bool.decide_and]

theorem Stands.snapshotAt (network : BitcoinNetwork) (nodeId channelId : String) (observedAt : DateTime)
    (stands : Stands text stored tables) :
    List.Forall₂ (SnapshotColumns written) (stored.snapshotAt network nodeId channelId observedAt).toList
      (tables.snapshotAt network nodeId channelId observedAt).toList := by
  refine Rows.related_find? (fun row other stands => ?_) stands.channelSnapshots
  have instant : (instantText other.ts).equals (instantText observedAt) = decide (other.ts = observedAt) :=
    equals_text.trans (decide_eq_decide.mpr (toRfc3339_inj stands.ts.2))
  rw [stands.network, stands.nodeId, stands.channelId, stands.ts.1, equals_text, optionText_equals, instant,
    show (ofOption _ _).equals _ = _ from networkText_equals _ _, Bool.eq_iff_iff]
  simp only [Bool.and_eq_true, decide_eq_true_eq, and_assoc]

end Snapshots

section Queue

theorem Stands.insertNewDelivery (deliveryId : String) (webhookId eventType : Option String) {processedAt : DateTime}
    (four : processedAt.FourDigitYear) (stands : Stands text stored tables) :
    Stands text (stored.insertNewDelivery deliveryId webhookId eventType processedAt)
      (tables.insertNewDelivery ⟨deliveryId, webhookId, eventType, processedAt⟩) := by
  refine { stands with webhookDeliveries := ?_ }
  refine Rows.related_upsert (fun row other stands => ?_) ⟨rfl, rfl, rfl, rfl, four⟩ (fun _ _ stands => stands)
    stands.webhookDeliveries
  rw [stands.deliveryId]
  exact Iff.of_eq (SqlValue.text.injEq _ _)

theorem Stands.insertNewEvent (deliveryId : String) {event : NodeEvent} {acceptedAt : DateTime}
    (storable : text.event.ReadsBack event) (four : acceptedAt.FourDigitYear) (stands : Stands text stored tables) :
    Stands text (stored.insertNewEvent text deliveryId event acceptedAt)
      (tables.insertNewEvent ⟨deliveryId, event, acceptedAt, none⟩) := by
  refine { stands with webhookEvents := ?_ }
  refine Rows.related_upsert (fun row other stands => ?_) ⟨rfl, ⟨_, rfl, storable⟩, ⟨rfl, four⟩, rfl⟩
    (fun _ _ stands => stands) stands.webhookEvents
  rw [stands.deliveryId]
  exact Iff.of_eq (SqlValue.text.injEq _ _)

variable {row : SqlRow} {record : WebhookEventRecord}

theorem processedAt_null (stands : EventColumns text written row record) :
    decide (row "processed_at" = .null) = record.processedAt.isNone := by
  have held := stands.processedAt
  cases stored : record.processedAt with
  | none =>
    rw [stored] at held
    exact decide_eq_true held
  | some instant =>
    rw [stored] at held
    rw [show row "processed_at" = instantText instant from held.1]
    rfl

theorem Stands.markProcessed (deliveryId : String) {processedAt : DateTime} (four : processedAt.FourDigitYear)
    (stands : Stands text stored tables) :
    Stands text (stored.markProcessed deliveryId processedAt).1 (tables.markProcessed deliveryId processedAt).1 ∧
      (stored.markProcessed deliveryId processedAt).2 = (tables.markProcessed deliveryId processedAt).2 := by
  have pending (row : SqlRow) (record : WebhookEventRecord) (stands : EventColumns text written row record) :
      ((row "delivery_id").equals (.text deliveryId) && row "processed_at" = .null) =
        (decide (record.deliveryId = deliveryId) && record.processedAt.isNone) := by
    rw [stands.deliveryId, equals_text, processedAt_null stands]
  refine ⟨{ stands with webhookEvents := ?_ }, Rows.related_countP pending stands.webhookEvents⟩
  refine Rows.related_updateWhere pending (fun row record stands => ?_) stands.webhookEvents
  exact { stands with processedAt := ⟨rfl, four⟩ }

theorem Stands.acceptedEvents {condition : SqlRow → Bool} {condition' : WebhookEventRecord → Bool}
    (same : ∀ row record, EventColumns text written row record → condition row = condition' record)
    (stands : Stands text stored tables) :
    List.Forall₂ (EventColumns text written) (stored.acceptedEvents condition) (tables.acceptedEvents condition') := by
  refine Rows.related_insertionSort (fun row record row' record' stands stands' => ?_)
    (Rows.related_filter same stands.webhookEvents)
  unfold acceptedBefore WebhookEventRecord.acceptedBefore
  rw [stands.acceptedAt.1, stands'.acceptedAt.1, stands.deliveryId, stands'.deliveryId, le_text,
    instantText_le stands'.acceptedAt.2 stands.acceptedAt.2, instantText_is stands.acceptedAt.2 stands'.acceptedAt.2]
  simp

theorem optionalTime_written {label : String} {time : Option DateTime} (four : ∀ t ∈ time, t.FourDigitYear) :
    OptionalTime written label (ofOption instantText time) time := by
  cases time with
  | none => exact rfl
  | some t => exact ⟨rfl, four t rfl⟩

theorem readsOptional_written {α : Type} {form : TextForm α} {found : Option α} (back : ∀ a ∈ found, form.ReadsBack a) :
    (ofOption (fun a => .text (form.write a)) found).ReadsOptional form.read found := by
  cases found with
  | none => exact rfl
  | some a => exact ⟨_, rfl, back a rfl⟩

theorem operationalColumns_set {state : OperationalState} (storable : text.StorableState state) (row : SqlRow) :
    OperationalColumns text written (row.set (operationalValues text state)) state := by
  have times (time : Option DateTime) (member : time ∈ state.times) (label : String) :
      OptionalTime written label (ofOption instantText time) time := optionalTime_written (storable.times time member)
  unfold OperationalState.times at times
  exact {
    source := rfl, connected := rfl, ingestAttempt := times _ (by simp) _, ingestSuccess := times _ (by simp) _
    cycleAttempt := times _ (by simp) _, cycleSuccess := times _ (by simp) _, persistSuccess := times _ (by simp) _
    dataAt := times _ (by simp) _, bitcoinCore := readsOptional_written storable.bitcoinCore
    lightning := readsOptional_written storable.lightning, llm := rfl, alertSink := rfl, cleanup := rfl
    cleanupAttempt := times _ (by simp) _, cleanupSuccess := times _ (by simp) _ }

theorem Stands.writeOperationalState {state : OperationalState} (storable : text.StorableState state)
    (stands : Stands text stored tables) :
    Stands text (stored.writeOperationalState text state) { tables with operationalState := some state } := by
  refine { stands with operationalState := ?_ }
  have rows := stands.operationalState
  show List.Forall₂ _ (Rows.upsert _ _ _ stored.operationalState) [state]
  cases known : tables.operationalState with
  | none =>
    rw [known, Option.toList_none, List.forall₂_nil_right_iff] at rows
    rw [rows]
    exact .cons ⟨rfl, operationalColumns_set storable _, storable⟩ .nil
  | some existing =>
    rw [known, Option.toList_some, List.forall₂_cons_right_iff] at rows
    obtain ⟨row, rest, held, none, rows⟩ := rows
    rw [List.forall₂_nil_right_iff.mp none] at rows
    have conflict : row "id" = (newState.set (operationalValues text state)) "id" := held.id
    rw [rows]
    unfold Rows.upsert
    rw [if_pos conflict]
    exact .cons ⟨held.id, operationalColumns_set storable _, storable⟩ .nil

theorem Stands.currentState (stands : Stands text stored tables) :
    List.Forall₂ (OperationalStands text) stored.currentState.toList tables.operationalState.toList := by
  have current (row : SqlRow) (state : OperationalState) (held : OperationalStands text row state) :
      (row "id").equals (.text "current") = (fun _ => true) state := by
    rw [held.id]
    exact equals_text.trans (decide_eq_true rfl)
  have found := Rows.related_find? current stands.operationalState
  cases known : tables.operationalState <;> rwa [known] at found

end Queue

section Simulations

variable {record : SimulationRecord}

theorem simulationColumns_written (storable : text.StorableSimulation record) :
    SimulationColumns text (nullRow.set (simulationValues text record)) record where
  id := rfl
  actionId := rfl
  findingId := rfl
  actionType := rfl
  status := rfl
  modelId := rfl
  modelVersion := rfl
  inputHash := rfl
  confidence := rfl
  assumptions := ⟨_, rfl, storable.assumptions⟩
  warnings := ⟨_, rfl, storable.warnings⟩
  explanation := rfl
  projection := ⟨_, rfl, storable.projection⟩
  createdAt := rfl
  canonicalInput := by
    show ∃ input, (if record.canonicalInput.isNull then SqlValue.null else _).ReadsOptional text.json.read input ∧ _
    cases missing : record.canonicalInput.isNull with
    | true => exact ⟨none, rfl, (Json.isNull_iff.mp missing).symm⟩
    | false => exact ⟨some record.canonicalInput, ⟨_, rfl, storable.canonicalInput missing⟩, rfl⟩
  sourceObservedAt := rfl
  requestedAt := rfl
  completedAt := rfl
  errorCode := rfl

theorem simulationStands_written (writes : text.WritesNull) (storable : text.StorableSimulation record) :
    SimulationStands text (nullRow.set (simulationValues text record)) record where
  columns := simulationColumns_written storable
  indexed := by
    have projected : (SqlValue.text (text.json.write record.projection)).equals (.text "null") =
        record.projection.isNull := by
      rw [equals_text, Bool.eq_iff_iff, decide_eq_true_eq]
      exact writes.write_iff storable.projection
    have hashed : (SqlValue.text record.inputHash).equals (.text "") = decide (record.inputHash = "") := equals_text
    show (decide (SqlValue.text record.inputHash ≠ .null) && !(SqlValue.text record.inputHash).equals (.text "") &&
      decide ((if record.canonicalInput.isNull then SqlValue.null else .text (text.json.write record.canonicalInput)) ≠
        .null) &&
      decide (SqlValue.text (text.json.write record.projection) ≠ .null) &&
        !(SqlValue.text (text.json.write record.projection)).equals (.text "null")) = _
    rw [projected, hashed]
    unfold SimulationRecord.replayable
    cases record.canonicalInput.isNull <;> simp

theorem Stands.insertSimulation (writes : text.WritesNull) (storable : text.StorableSimulation record)
    (stands : Stands text stored tables) :
    StatefulResult.Alike (fun p p' => Stands text p.1 p'.1 ∧ True) (stored.insertSimulation text record)
      (tables.insertSimulation record) := by
  have new := simulationStands_written writes storable
  have known : (stored.simulations.any fun row => (row "id").equals (.text record.id)) =
      tables.simulations.any (·.id = record.id) :=
    Rows.related_any (fun row other stands => by rw [stands.columns.id, equals_text]) stands.simulations
  have taken : (stored.simulations.any fun row =>
      simulationIndexed row && (row "input_hash").equals (.text record.inputHash)) =
        tables.simulations.any fun row =>
          decide (row.inputHash ≠ "") && row.replayable && decide (row.inputHash = record.inputHash) :=
    Rows.related_any (fun row other stands => by rw [stands.indexed, stands.columns.inputHash, equals_text])
      stands.simulations
  have filled (hashed : record.inputHash ≠ "") : (tables.simulations.any fun row =>
      decide (row.inputHash ≠ "") && row.replayable && decide (row.inputHash = record.inputHash)) =
        tables.simulations.any fun row => row.inputHash = record.inputHash ∧ row.replayable := by
    refine List.any_congr rfl fun row => ?_
    rw [Bool.eq_iff_iff]
    simp only [Bool.and_eq_true, decide_eq_true_eq]
    exact ⟨fun held => ⟨held.2, held.1.2⟩, fun held => ⟨⟨held.1 ▸ hashed, held.2⟩, held.1⟩⟩
  have blocked : (decide (record.inputHash ≠ "") && record.replayable && tables.simulations.any fun row =>
      decide (row.inputHash ≠ "") && row.replayable && decide (row.inputHash = record.inputHash)) =
        decide (record.inputHash ≠ "" ∧ record.replayable ∧ tables.simulations.any fun row =>
          row.inputHash = record.inputHash ∧ row.replayable) := by
    by_cases hashed : record.inputHash = ""
    · simp [hashed]
    · rw [filled hashed, Bool.eq_iff_iff]
      simp only [Bool.and_eq_true, decide_eq_true_eq, and_assoc]
  unfold TextTables.insertSimulation Tables.insertSimulation
  dsimp only
  rw [new.columns.id, new.columns.inputHash, new.indexed, known, taken, blocked]
  simp only [decide_eq_true_eq]
  split
  · trivial
  split
  · trivial
  · exact ⟨{ stands with simulations := List.rel_append stands.simulations (.cons new .nil) }, trivial⟩

end Simulations

end TextTables

end Rieko
