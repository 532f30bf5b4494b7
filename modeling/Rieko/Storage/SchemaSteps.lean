import Rieko.Lib.SqlSchema
import Rieko.Storage.Migrations

/-! What the batches of the upgrade steps do with the tables of a database file. -/

namespace Rieko

open SqlStatement StatefulResult

namespace SchemaSteps

section Declarations

def column (name : String) : SqlColumn := { name }

def required (name : String) : SqlColumn := { name, notNull := true }

def defaulted (name : String) (default : SqlValue) : SqlColumn := { name, notNull := true, default }

def table (columns : List SqlColumn) (key : List String) : SqlTable := ⟨columns, key⟩

def index (table : String) (columns : List String) : SqlIndex := { table, columns }

def appendOnly (table : String) (before : SqlEvent) (message : String) : SqlTrigger := ⟨table, before, message⟩

def coalesced (a b : String) : SqlExpr := .coalesce (.column a) (.column b)

end Declarations

section Tables

def findings : SqlTable :=
  table [column "id", required "detector", required "severity", column "node_id", column "channel_id",
    required "evidence", column "explanation", required "ts", column "last_seen"] ["id"]

def recommendations : SqlTable :=
  table [required "finding_id", column "action_id", required "action_type", required "stage", column "target",
    required "params", required "summary", required "created_at", required "updated_at"] ["action_id"]

def audit : SqlTable :=
  table [column "id", required "action_id", required "action_type", required "stage", required "actor",
    required "details", required "ts"] ["id"]

def balanceColumns : List SqlColumn :=
  [required "channel_id", required "ts", required "local_ratio", column "local_balance_msat",
    column "remote_balance_msat", column "capacity_msat", required "status_int"]

def spendableColumns : List SqlColumn :=
  [defaulted "spendable_outbound_msat" (.integer 0), defaulted "spendable_inbound_msat" (.integer 0)]

def channelSnapshots : SqlTable := table balanceColumns ["channel_id", "ts"]

def simulations : SqlTable :=
  table [column "id", required "action_id", required "finding_id", required "action_type", required "projection",
    required "created_at"] ["id"]

def alertState : SqlTable :=
  table [column "dedup_key", column "last_sent_at", column "last_severity", required "last_status"] ["dedup_key"]

def operationalState : SqlTable :=
  table [column "id", required "source", column "source_connected", column "last_ingestion_attempt",
    column "last_ingestion_success", column "last_cycle_attempt", column "last_cycle_success",
    column "last_persist_success", column "source_data_at", required "llm", required "alert_sink"] ["id"]

def simulationEvents : SqlTable :=
  table [column "id", required "simulation_id", required "status", column "error_code", required "ts"] ["id"]

def webhookDeliveries : SqlTable :=
  table [column "delivery_id", column "webhook_id", column "event_type", required "processed_at"] ["delivery_id"]

def webhookEvents : SqlTable :=
  table [column "delivery_id", required "event_json", required "accepted_at", column "processed_at"] ["delivery_id"]

end Tables

section Steps

def v1Schema : List SqlStatement := [
  createTable true "findings" findings,
  createIndex true "idx_findings_ts" (index "findings" ["ts"]),
  createIndex true "idx_findings_channel" (index "findings" ["channel_id"]),
  createTable true "recommendations" recommendations,
  createTable true "audit" audit,
  createIndex true "idx_audit_ts" (index "audit" ["ts"]),
  createTable true "channel_snapshots" channelSnapshots,
  createIndex true "idx_snapshots_channel_ts" (index "channel_snapshots" ["channel_id", "ts"]),
  createTable true "simulations" simulations,
  createIndex true "idx_simulations_action" (index "simulations" ["action_id"]),
  createIndex true "idx_simulations_ts" (index "simulations" ["created_at"]),
  createTable true "alert_state" alertState,
  createTable true "operational_state" operationalState]

def v2FindingMetadata : List SqlStatement := [
  addColumn "findings" (column "last_seen_at"),
  addColumn "findings" (column "first_seen_at"),
  addColumn "findings" (defaulted "detector_version" (.text "1")),
  addColumn "findings" (defaulted "schema_version" (.integer 1)),
  addColumn "findings" (defaulted "lifecycle" (.text "active")),
  update "findings" [("last_seen_at", coalesced "last_seen_at" "ts")] (.isNull (.column "last_seen_at")),
  update "findings" [("first_seen_at", coalesced "first_seen_at" "ts")] (.isNull (.column "first_seen_at"))]

def v3AuditTransitions : List SqlStatement := [
  addColumn "audit" (column "previous_stage"),
  createTrigger true "audit_append_only_update" (appendOnly "audit" .update "audit rows are append-only"),
  createTrigger true "audit_append_only_delete" (appendOnly "audit" .delete "audit rows are append-only")]

def v4OperationalState : List SqlStatement := [createTable true "operational_state" operationalState]

def v5RecommendationRationale : List SqlStatement :=
  [addColumn "recommendations" (defaulted "rationale" (.text "\x7b\x7d"))]

def v6CleanupState : List SqlStatement := [
  addColumn "operational_state" (defaulted "cleanup" (.text "not_configured")),
  addColumn "operational_state" (column "last_cleanup_attempt"),
  addColumn "operational_state" (column "last_cleanup_success")]

def v7SnapshotSpendable : List SqlStatement :=
  createTable true "channel_snapshots" channelSnapshots :: spendableColumns.map (addColumn "channel_snapshots")

def v8SimulationV2 : List SqlStatement := [
  addColumn "simulations" (defaulted "status" (.text "completed")),
  addColumn "simulations" (defaulted "model_id" (.text "legacy")),
  addColumn "simulations" (defaulted "model_version" (.text "0")),
  addColumn "simulations" (defaulted "input_hash" (.text "")),
  addColumn "simulations" (defaulted "confidence" (.text "unknown")),
  addColumn "simulations" (defaulted "assumptions" (.text "[]")),
  addColumn "simulations" (defaulted "warnings" (.text "[]")),
  addColumn "simulations" (defaulted "explanation" (.text ""))]

def v9FindingProvenance : List SqlStatement := [
  addColumn "findings" (column "provenance"),
  createIndex true "idx_findings_scope_lifecycle" (index "findings" ["detector", "node_id", "lifecycle"])]

def copied (given : List (String × SqlValue)) (columns : List SqlColumn) : List (String × SqlExpr) :=
  given.map (fun (name, value) => (name, .value value)) ++ columns.map fun column => (column.name, .column column.name)

def replayable : SqlCondition :=
  .and (.differs (.column "input_hash") (.value (.text "")))
    (.and (.isNotNull (.column "canonical_input")) (.differs (.column "projection") (.value (.text "null"))))

def v10SimulationIntegrity : List SqlStatement :=
  [createTable true "channel_snapshots" (table (balanceColumns ++ spendableColumns) ["channel_id", "ts"])] ++
  rebuild "channel_snapshots" "channel_snapshots_v9"
    (table (column "node_id" :: balanceColumns ++ spendableColumns) ["node_id", "channel_id", "ts"])
    (copied [("node_id", .null)] (balanceColumns ++ spendableColumns)) ++
  [createIndex false "idx_snapshots_channel_ts" (index "channel_snapshots" ["channel_id", "ts"]),
    createIndex false "idx_snapshots_node_channel_ts" (index "channel_snapshots" ["node_id", "channel_id", "ts"]),
    addColumn "simulations" (column "canonical_input"),
    addColumn "simulations" (column "source_observed_at"),
    addColumn "simulations" (column "requested_at"),
    addColumn "simulations" (column "completed_at"),
    addColumn "simulations" (column "error_code"),
    update "simulations" [("requested_at", .column "created_at")] (.isNull (.column "requested_at")),
    update "simulations" [("completed_at", .column "created_at")]
      (.and (.isNull (.column "completed_at"))
        (.or (.equals (.column "status") (.value (.text "completed")))
          (.equals (.column "status") (.value (.text "stale"))))),
    createIndex true "idx_simulations_input_hash_unique"
      { table := "simulations", columns := ["input_hash"], unique := some replayable },
    createTable false "simulation_events" simulationEvents,
    createIndex false "idx_simulation_events_simulation_ts" (index "simulation_events" ["simulation_id", "ts"]),
    createTrigger false "simulation_events_append_only_update"
      (appendOnly "simulation_events" .update "simulation events are append-only"),
    createTrigger false "simulation_events_append_only_delete"
      (appendOnly "simulation_events" .delete "simulation events are append-only")]

def withoutNetwork (extractNetwork : SqlValue → Except String SqlValue) : SqlCondition :=
  .and (.equals (.column "lifecycle") (.value (.text "active")))
    (.or (.isNull (.column "provenance")) (.isNull (.call extractNetwork (.column "provenance"))))

def v11SnapshotIdentity (extractNetwork : SqlValue → Except String SqlValue) : List SqlStatement :=
  [update "findings" [("lifecycle", .value (.text "resolved"))] (withoutNetwork extractNetwork),
    dropIndexIfExists "idx_snapshots_channel_ts",
    dropIndexIfExists "idx_snapshots_node_channel_ts"] ++
  rebuild "channel_snapshots" "channel_snapshots_v10"
    (table (column "network_id" :: column "node_id" :: balanceColumns ++ spendableColumns ++ [column "state_digest"])
      ["network_id", "node_id", "channel_id", "ts"])
    (copied [("network_id", .null), ("state_digest", .null)]
      (column "node_id" :: balanceColumns ++ spendableColumns)) ++
  [createIndex false "idx_snapshots_channel_ts" (index "channel_snapshots" ["channel_id", "ts"]),
    createIndex false "idx_snapshots_node_channel_ts" (index "channel_snapshots" ["node_id", "channel_id", "ts"]),
    createIndex false "idx_snapshots_network_channel_ts"
      (index "channel_snapshots" ["network_id", "node_id", "channel_id", "ts"])]

def v12ConsecutiveAbsent : List SqlStatement := [addColumn "findings" (defaulted "consecutive_absent" (.integer 0))]

def v13WebhookDeliveries : List SqlStatement := [
  createTable true "webhook_deliveries" webhookDeliveries,
  createIndex true "idx_webhook_deliveries_processed_at" (index "webhook_deliveries" ["processed_at"])]

def v14RecommendationLifecycle : List SqlStatement := [
  createTable true "recommendations" recommendations,
  addColumn "recommendations" (defaulted "lifecycle" (.text "active")),
  createIndex true "idx_recommendations_lifecycle" (index "recommendations" ["lifecycle"])]

def v15DurableWebhookEvents : List SqlStatement := [
  createTable true "webhook_events" webhookEvents,
  createIndex true "idx_webhook_events_pending" (index "webhook_events" ["processed_at", "accepted_at", "delivery_id"])]

def v16BitcoinCoreState : List SqlStatement := [addColumn "operational_state" (column "bitcoin_core")]

def v17LightningState : List SqlStatement := [addColumn "operational_state" (column "lightning")]

end Steps

end SchemaSteps

open SchemaSteps

/-- The steps, with the statements of their batches. `extractNetwork` is the `json_extract` of `$.network`. -/
def schemaSteps (texts : MigrationTexts) (extractNetwork : SqlValue → Except String SqlValue) :
    List (Migration × List SqlStatement) :=
  (migrations texts).zip [v1Schema, v2FindingMetadata, v3AuditTransitions, v4OperationalState,
    v5RecommendationRationale, v6CleanupState, v7SnapshotSpendable, v8SimulationV2, v9FindingProvenance,
    v10SimulationIntegrity, v11SnapshotIdentity extractNetwork, v12ConsecutiveAbsent, v13WebhookDeliveries,
    v14RecommendationLifecycle, v15DurableWebhookEvents, v16BitcoinCoreState, v17LightningState]

/-- The database runs the texts of the batches as their statements. -/
structure SqlBatches.Runs (sql : SqlBatches SqlFile) (texts : MigrationTexts)
    (extractNetwork : SqlValue → Except String SqlValue) : Prop where
  execute : ∀ step ∈ schemaSteps texts extractNetwork, sql.execute step.1.sql = runAll step.2
  operational : ∀ file, sql.hasOperationalState file = (file.schema.tables "operational_state").isSome

/-- The columns whose values an upgrade from a version keeps. Those that it does not, programs of that version did
    not have. -/
def KeptColumn (since : Int) (name column : String) : Prop :=
  (name = "findings" → since < 2 → column ≠ "first_seen_at" ∧ column ≠ "last_seen_at") ∧
  (name = "simulations" → since < 10 → column ≠ "requested_at" ∧ column ≠ "completed_at") ∧
  (name = "channel_snapshots" → since < 11 →
    column ∈ (balanceColumns ++ spendableColumns).map (·.name) ∨ 10 ≤ since ∧ column = "node_id")

/-- A value is kept, but for the lifecycle of findings that were active before version 11. -/
def MayChange (since : Int) (name column : String) (value after : SqlValue) : Prop :=
  after = value ∨
    since < 11 ∧ name = "findings" ∧ column = "lifecycle" ∧ value = .text "active" ∧ after = .text "resolved"

section Careful

variable {since : Int}

theorem mayChange_same (name column : String) (value : SqlValue) : MayChange since name column value value := .inl rfl

theorem mayChange_chain (name column : String) (a b c : SqlValue) (first : MayChange since name column a b)
    (second : MayChange since name column b c) : MayChange since name column a c := by
  rcases first with rfl | ⟨_, _, _, _, rfl⟩
  · exact second
  · rcases second with rfl | ⟨_, _, _, never, _⟩
    · exact .inr ⟨‹_›, ‹_›, ‹_›, ‹_›, rfl⟩
    · simp at never

theorem careful_of_adds {promised : String → String → Prop} {may : String → String → SqlValue → SqlValue → Prop}
    (statements : List SqlStatement) {rest : List SqlStatement} (adds : statements.all adds = true)
    (careful : Careful promised may rest) : Careful promised may (statements ++ rest) := by
  induction statements with
  | nil => exact careful
  | cons statement statements ih =>
    rw [List.all_cons, Bool.and_eq_true] at adds
    exact .add adds.1 (ih adds.2)

theorem updates_one {promised : String → String → Prop} {may : String → String → SqlValue → SqlValue → Prop}
    {name column : String} {expr : SqlExpr} {condition : SqlCondition}
    (same : ∀ name column value, may name column value value)
    (changed : ∀ row value, condition.holds row = .ok true → expr.eval row = .ok value → promised name column →
      may name column (row column) value) :
    UpdatesAsMay promised may name [(column, expr)] condition := by
  intro row set other holds valued kept
  obtain ⟨value, evaluated, rfl⟩ : ∃ value, expr.eval row = .ok value ∧ set = [(column, value)] := by
    obtain ⟨pair, first, rest⟩ := except_bind_ok.mp valued
    obtain ⟨value, evaluated, named⟩ := except_bind_ok.mp first
    cases named
    cases rest
    exact ⟨value, evaluated, rfl⟩
  rw [SqlRow.set_cons]
  split
  next named => exact named ▸ changed row value holds evaluated (named ▸ kept)
  next apart => exact same _ _ _

theorem evalAll_copied (given : List (String × SqlValue)) (columns : List SqlColumn) (row : SqlRow) :
    evalAll row (copied given columns) = .ok (given ++ columns.map fun column => (column.name, row column.name)) := by
  have copies : evalAll row (columns.map fun column => (column.name, .column column.name)) =
      .ok (columns.map fun column => (column.name, row column.name)) := by
    unfold evalAll
    induction columns with
    | nil => rfl
    | cons column columns ih =>
      rw [List.map_cons, List.mapM_cons, ih]
      rfl
  unfold copied
  induction given with
  | nil => exact copies
  | cons pair given ih =>
    unfold evalAll at ih ⊢
    rw [List.map_cons, List.cons_append, List.mapM_cons, ih]
    rfl

theorem lookup_copied {given : List (String × SqlValue)} {columns : List SqlColumn} {row : SqlRow} {column : String}
    (apart : ∀ pair ∈ given, pair.1 ≠ column) (member : column ∈ columns.map (·.name)) :
    (given ++ columns.map fun column => (column.name, row column.name)).lookup column = some (row column) := by
  induction given with
  | nil =>
    rw [List.nil_append]
    induction columns with
    | nil => cases member
    | cons first columns ih =>
      rw [List.map_cons, List.lookup_cons]
      by_cases here : column = first.name
      · simp [here]
      · rw [beq_false_of_ne here]
        exact ih (by simpa [here] using member)
  | cons pair given ih =>
    have different : column ≠ pair.1 := (apart pair List.mem_cons_self).symm
    rw [List.cons_append, List.lookup_cons, beq_false_of_ne different]
    exact ih fun other later => apart other (List.mem_cons_of_mem _ later)

theorem copies_copied {name : String} {rebuilt : SqlTable} {given : List (String × SqlValue)} {columns : List SqlColumn}
    (inTable : ∀ column ∈ columns, column.name ∈ rebuilt.names)
    (kept : ∀ column, KeptColumn since name column → column ∈ columns.map (·.name) ∧ ∀ pair ∈ given, pair.1 ≠ column) :
    Copies (KeptColumn since) (MayChange since) name rebuilt (copied given columns) where
  columns column held := by
    obtain ⟨found, member, rfl⟩ := List.mem_map.mp (kept column held).1
    exact inTable found member
  values row set column valued held := by
    obtain ⟨member, apart⟩ := kept column held
    rw [evalAll_copied] at valued
    cases valued
    unfold inserted SqlRow.set
    rw [lookup_copied apart member]
    exact .inl rfl

theorem v2_careful (older : since < 2) : Careful (KeptColumn since) (MayChange since) v2FindingMetadata :=
  careful_of_adds (v2FindingMetadata.take 5) rfl <|
    .update (updates_one mayChange_same fun _ _ _ _ kept => absurd rfl (kept.1 rfl older).2) <|
    .update (updates_one mayChange_same fun _ _ _ _ kept => absurd rfl (kept.1 rfl older).1) .nil

theorem v10_careful (older : since < 10) : Careful (KeptColumn since) (MayChange since) v10SimulationIntegrity := by
  have copies : ∀ column, KeptColumn since "channel_snapshots" column →
      column ∈ (balanceColumns ++ spendableColumns).map (·.name) ∧
        ∀ pair ∈ [("node_id", SqlValue.null)], pair.1 ≠ column := by
    intro column kept
    rcases kept.2.2 rfl (by omega) with member | ⟨newer, _⟩
    · refine ⟨member, fun pair only same => ?_⟩
      rw [List.mem_singleton.mp only] at same
      rw [← same] at member
      exact absurd member (by decide)
    · omega
  refine .add rfl (.rebuild (copies_copied (by decide) copies) ?_)
  refine careful_of_adds ((v10SimulationIntegrity.drop 5).take 7) rfl ?_
  refine .update (updates_one mayChange_same fun _ _ _ _ kept => absurd rfl (kept.2.1 rfl older).1) ?_
  refine .update (updates_one mayChange_same fun _ _ _ _ kept => absurd rfl (kept.2.1 rfl older).2) ?_
  exact careful_of_adds (v10SimulationIntegrity.drop 14) rfl .nil

theorem v11_careful (extractNetwork : SqlValue → Except String SqlValue) (older : since < 11) :
    Careful (KeptColumn since) (MayChange since) (v11SnapshotIdentity extractNetwork) := by
  have copies : ∀ other, KeptColumn since "channel_snapshots" other →
      other ∈ (column "node_id" :: balanceColumns ++ spendableColumns).map (·.name) ∧
        ∀ pair ∈ [("network_id", SqlValue.null), ("state_digest", SqlValue.null)], pair.1 ≠ other := by
    intro other kept
    have member : other ∈ (column "node_id" :: balanceColumns ++ spendableColumns).map (·.name) := by
      rcases kept.2.2 rfl older with member | ⟨-, rfl⟩
      · exact List.mem_cons_of_mem _ member
      · exact List.mem_cons_self
    refine ⟨member, fun pair given same => ?_⟩
    rw [← same] at member
    rcases List.mem_cons.mp given with rfl | given
    · exact absurd member (by decide)
    · rw [List.mem_singleton.mp given] at member
      exact absurd member (by decide)
  refine .update (updates_one mayChange_same fun row value holds evaluated _ => ?_) ?_
  · obtain ⟨active, first, rest⟩ := except_bind_ok.mp holds
    cases active with
    | true =>
      exact .inr ⟨older, rfl, rfl, SqlValue.equals_text_iff.mp (Except.ok.inj first), (Except.ok.inj evaluated).symm⟩
    | false => cases rest
  · exact .add rfl (.add rfl (.rebuild (copies_copied (by decide) copies) (.add rfl (.add rfl (.add rfl .nil)))))

theorem steps_careful (texts : MigrationTexts) (extractNetwork : SqlValue → Except String SqlValue) :
    ∀ step ∈ schemaSteps texts extractNetwork, since < step.1.version →
      Careful (KeptColumn since) (MayChange since) step.2 := by
  have adding {statements : List SqlStatement} (adds : statements.all adds = true) :
      Careful (KeptColumn since) (MayChange since) statements := by
    simpa using careful_of_adds statements adds (.nil : Careful (KeptColumn since) (MayChange since) [])
  unfold schemaSteps migrations
  simp only [List.zip_cons_cons, List.zip_nil_left, List.forall_mem_cons]
  exact ⟨fun _ => adding rfl, v2_careful, fun _ => adding rfl, fun _ => adding rfl, fun _ => adding rfl,
    fun _ => adding rfl, fun _ => adding rfl, fun _ => adding rfl, fun _ => adding rfl, v10_careful,
    v11_careful extractNetwork, fun _ => adding rfl, fun _ => adding rfl, fun _ => adding rfl, fun _ => adding rfl,
    fun _ => adding rfl, fun _ => adding rfl, fun _ member => nomatch member⟩

end Careful

end Rieko
