import Rieko.Storage.FindingRefinement
import Rieko.Storage.MemoryQueue
import Rieko.Storage.Pruning
import Rieko.Storage.Snapshots
import Rieko.Storage.SqliteQueue
import Rieko.Storage.SqliteSimulations

namespace Rieko

open StatefulResult SqlConnection

/-- Whether the database can hold a snapshot: amounts are signed 64-bit integers there, and a ratio that is no number
    counts as a missing one. -/
def bindChannelSnapshot (snapshot : ChannelSnapshot) : Except String Unit :=
  let amounts := [snapshot.localBalanceMsat, snapshot.remoteBalanceMsat, snapshot.capacityMsat,
    snapshot.spendableOutboundMsat, snapshot.spendableInboundMsat]
  if amounts.any (2^63 ≤ ·) then .error "out of range integral type conversion attempted"
  else if snapshot.localRatio.isNaN then .error "NOT NULL constraint failed: channel_snapshots.local_ratio"
  else .ok ()

section Operations

variable (ext : SimulationExternal) (displayRead : String → String)

namespace SqliteStorage

def bindAndSaveChannelSnapshot (snapshot : ChannelSnapshot) : SqliteM Unit :=
  sql .backend (statement fun tables => do
    bindChannelSnapshot snapshot
    return (tables.replaceChannelSnapshot snapshot, ()))

end SqliteStorage

inductive KeyedWrite where
  | channelSnapshot (snapshot : ChannelSnapshot)
  | recommendation (rec : Recommendation)
  | actionStage (actionId : String) (stage : ActionStage) (memoryNow sqliteNow : DateTime)
  | simulationV2 (record : SimulationRecord)
  | enqueue (deliveryId : String) (webhookId eventType : Option String) (event : NodeEvent) (acceptedAt : DateTime)
  | markProcessed (deliveryId : String) (processedAt : DateTime)

namespace KeyedWrite

def runMemory : KeyedWrite → StorageM Unit
  | channelSnapshot snapshot => MemoryStorage.saveChannelSnapshot snapshot
  | recommendation rec => MemoryStorage.saveRecommendation rec
  | actionStage actionId stage memoryNow _ => MemoryStorage.setActionStage actionId stage memoryNow
  | simulationV2 record => MemoryStorage.saveSimulationV2 record
  | enqueue deliveryId webhookId eventType event acceptedAt =>
    MemoryStorage.enqueueWebhookEvent deliveryId webhookId eventType event acceptedAt
  | markProcessed deliveryId processedAt => MemoryStorage.markWebhookEventProcessed deliveryId processedAt

def runSqlite : KeyedWrite → SqliteStorage.SqliteM Unit
  | channelSnapshot snapshot => SqliteStorage.bindAndSaveChannelSnapshot snapshot
  | recommendation rec => SqliteStorage.saveRecommendation rec
  | actionStage actionId stage _ sqliteNow => SqliteStorage.setActionStage actionId stage sqliteNow
  | simulationV2 record => SqliteStorage.saveSimulationV2 ext displayRead record
  | enqueue deliveryId webhookId eventType event acceptedAt =>
    SqliteStorage.enqueueWebhookEvent deliveryId webhookId eventType event acceptedAt
  | markProcessed deliveryId processedAt => SqliteStorage.markWebhookEventProcessed deliveryId processedAt

/-- The calls the backends are compared on: simulations pass validation. -/
def Compared : KeyedWrite → Prop
  | simulationV2 record => validateSimulationRecord ext displayRead record = .ok ()
  | _ => True

end KeyedWrite

def Recommendation.content (rec : Recommendation) : Recommendation :=
  { rec with action := { rec.action with updatedAt := 0 }, lifecycle := none }

/-- A recommendation as it is compared: without its time of change, and active where nothing else is said. -/
def Recommendation.answer (rec : Recommendation) : Recommendation :=
  { rec.content with lifecycle := some (rec.lifecycle.getD "active") }

/-- A recommendation repeats the stored one, or is a new one that is active. -/
def Recommendation.AgreesWith (rec : Recommendation) : Option Recommendation → Prop
  | some stored => stored.content = rec.content
  | none => rec.isActive

structure SameAnswers (s : MemoryStorage) (t : SqliteStorage) : Prop where
  snapshots : ∀ network nodeId channelId observedAt,
    value (MemoryStorage.channelSnapshotAt network nodeId channelId observedAt) s =
      value (SqliteStorage.channelSnapshotAt network nodeId channelId observedAt) t
  recommendations : ∀ actionId,
    (value (MemoryStorage.recommendationForAction actionId) s).map (·.map Recommendation.answer) =
      (value (SqliteStorage.recommendationForAction actionId) t).map (·.map Recommendation.answer)
  simulations : ∀ simulationId, value (MemoryStorage.simulationV2ById simulationId) s =
    value (SqliteStorage.simulationV2ById ext displayRead simulationId) t
  events : ∀ limit, value (MemoryStorage.pendingWebhookEvents limit) s =
    value (SqliteStorage.pendingWebhookEvents limit) t

/-- A write agrees with what is stored under its key. -/
def KeyedWrite.Agrees (s : MemoryStorage) : KeyedWrite → Prop
  | channelSnapshot snapshot => bindChannelSnapshot snapshot = .ok () ∧
      ∀ stored, s.channelSnapshots.find? (Tables.sameSnapshotKey · snapshot) = some stored → stored = snapshot
  | recommendation rec => rec.AgreesWith (Rows.lookup (·.action.id) s.recommendations rec.action.id)
  | simulationV2 record =>
    ∀ stored, Rows.lookup SimulationRecord.id s.simulationRecords record.id = some stored → (stored == record) = false
  | markProcessed deliveryId _ =>
    ∀ stored, s.webhookEvents.lookup deliveryId = some stored → stored.processedAt = none
  | _ => True

/-- The representation of the one backend by the other. -/
structure Together (s : MemoryStorage) (t : SqliteStorage) : Prop where
  healthy : t.Healthy
  idle : t.Idle
  memoryIdle : s.Idle
  snapshots : ∀ network nodeId channelId observedAt,
    value (MemoryStorage.channelSnapshotAt network nodeId channelId observedAt) s =
      .ok (t.conn.tables.snapshotAt network nodeId channelId observedAt)
  recommendations : ∀ actionId,
    (Rows.lookup (·.action.id) s.recommendations actionId).map Recommendation.answer =
      (Rows.lookup (·.action.id) t.conn.tables.recommendations actionId).map Recommendation.answer
  active : ∀ row ∈ t.conn.tables.recommendations, row.lifecycle = some "active"
  simulations : s.simulationRecords = t.conn.tables.simulations
  validated : ∀ record ∈ s.simulationRecords, validateSimulationRecord ext displayRead record = .ok ()
  queue : s.webhookQueue = t.webhookQueue
  consistent : s.webhookQueue.Consistent

end Operations

namespace SqliteStorage

variable {ε α : Type} {t : SqliteStorage}

def advance (t : SqliteStorage) (tables : Tables) : SqliteStorage := { t with conn := { t.conn.next with tables } }

theorem sql_statement_healthy (healthy : t.Healthy) (failure : String → ε)
    (effect : Tables → Except String (Tables × α)) :
    sql failure (statement effect) t = match effect t.conn.tables with
      | .ok (tables, a) => .ok a (t.advance tables)
      | .error message => .error (failure message) (t.advance t.conn.tables) := by
  unfold sql statement
  rw [healthy t.conn.executed]
  cases effect t.conn.tables <;> rfl

theorem sql_execute_healthy (healthy : t.Healthy) (failure : String → ε) (effect : Tables → Tables) :
    sql failure (execute effect) t = .ok () (t.advance (effect t.conn.tables)) :=
  sql_execute healthy failure effect

theorem Healthy.advance (healthy : t.Healthy) (tables : Tables) : (t.advance tables).Healthy := healthy

theorem value_query (healthy : t.Healthy) (failure : String → ε) (read : Tables → α) :
    value (sql failure (query read)) t = .ok (read t.conn.tables) := by
  unfold value
  rw [sql_query healthy]

theorem enqueue_healthy (healthy : t.Healthy) (idle : t.Idle) (deliveryId : String)
    (webhookId eventType : Option String)
    (event : NodeEvent) (acceptedAt : DateTime) :
    ∃ t', enqueueWebhookEvent deliveryId webhookId eventType event acceptedAt t = .ok () t' ∧ t'.Healthy ∧ t'.Idle ∧
      t'.conn.tables = (t.conn.tables.insertNewDelivery ⟨deliveryId, webhookId, eventType, acceptedAt⟩).insertNewEvent
        ⟨deliveryId, event, acceptedAt, none⟩ := by
  let begun : SqliteStorage := ⟨{ t.conn.next with saved := some t.conn.tables }, true⟩
  have healthyBegun : begun.Healthy := healthy
  have begins : beginTransaction t = .ok () begun := by
    have step := begin_idle idle
    cases result : beginTransaction t with
    | ok u m =>
      rw [result] at step
      rw [step.1]
    | error e m =>
      rw [result, healthy] at step
      simp at step
  have recorded := sql_execute_healthy healthyBegun (fun e => StorageError.backend s!"recording webhook delivery: {e}")
    (Tables.insertNewDelivery ⟨deliveryId, webhookId, eventType, acceptedAt⟩)
  let noted := begun.advance (t.conn.tables.insertNewDelivery ⟨deliveryId, webhookId, eventType, acceptedAt⟩)
  have healthyNoted : noted.Healthy := healthy
  have queued := sql_execute_healthy healthyNoted (fun e => StorageError.backend s!"enqueueing webhook event: {e}")
    (Tables.insertNewEvent ⟨deliveryId, event, acceptedAt, none⟩)
  let filled := noted.advance (noted.conn.tables.insertNewEvent ⟨deliveryId, event, acceptedAt, none⟩)
  have body : insertWebhookEvent deliveryId webhookId eventType event acceptedAt begun = .ok () filled := by
    unfold insertWebhookEvent
    rw [bind_of_ok recorded]
    exact queued
  have pending : filled.Begun := ⟨rfl, rfl⟩
  have commits : commitTransaction filled = .ok () ⟨{ filled.conn.next with saved := none }, false⟩ := by
    have step := commit_begun pending
    cases result : commitTransaction filled with
    | ok u m =>
      rw [result] at step
      rw [step.1]
    | error e m =>
      rw [result] at step
      have works : filled.conn.fails filled.conn.executed = none := healthy _
      simp [works] at step
  refine ⟨⟨{ filled.conn.next with saved := none }, false⟩, ?_, healthy, ⟨rfl, rfl⟩, rfl⟩
  unfold enqueueWebhookEvent
  rw [ladder_eq, begins]
  dsimp only
  rw [body]
  dsimp only
  rw [commits]

theorem mark_healthy (healthy : t.Healthy) (deliveryId : String) (processedAt : DateTime) :
    ∃ e t', t'.Healthy ∧ t'.conn.saved = t.conn.saved ∧ t'.inTransaction = t.inTransaction ∧
      t'.conn.tables = (t.conn.tables.markProcessed deliveryId processedAt).1 ∧
      markWebhookEventProcessed deliveryId processedAt t =
        if (t.conn.tables.markProcessed deliveryId processedAt).2 = 0 then .error e t' else .ok () t' := by
  let t' := t.advance (t.conn.tables.markProcessed deliveryId processedAt).1
  have marked : sql (fun e => StorageError.backend s!"marking webhook event processed: {e}")
      (statement fun tables => .ok (tables.markProcessed deliveryId processedAt)) t =
        .ok (t.conn.tables.markProcessed deliveryId processedAt).2 t' := sql_statement_healthy healthy _ _
  refine ⟨.backend s!"unknown or already processed webhook event {deliveryId}", t', healthy, rfl, rfl, rfl, ?_⟩
  unfold markWebhookEventProcessed
  rw [bind_of_ok marked]
  generalize (t.conn.tables.markProcessed deliveryId processedAt).2 = changed
  by_cases unmarked : changed = 0
  · rw [if_pos unmarked, if_pos unmarked]
    rfl
  · rw [if_neg unmarked, if_neg unmarked]
    rfl

end SqliteStorage

namespace Recommendation

theorem answer_eq {rec stored : Recommendation} : rec.answer = stored.answer ↔
    rec.content = stored.content ∧ rec.lifecycle.getD "active" = stored.lifecycle.getD "active" := by
  simp [answer, content]
  tauto

end Recommendation

section Steps

variable {ext : SimulationExternal} {displayRead : String → String} {s : MemoryStorage} {t : SqliteStorage}

theorem Tables.lookup_replaceRecommendation (rec : Recommendation) (tables : Tables) (actionId : String) :
    Rows.lookup (·.action.id) (tables.replaceRecommendation rec).recommendations actionId =
      if rec.action.id = actionId then some { rec with lifecycle := some "active" }
      else Rows.lookup (·.action.id) tables.recommendations actionId := by
  unfold Tables.replaceRecommendation
  rw [Rows.lookup_append]
  by_cases same : rec.action.id = actionId
  · subst same
    rw [Rows.lookup_filter_ne, if_pos rfl, if_pos rfl]
    rfl
  · rw [Rows.lookup_filter_of_ne (Ne.symm same), if_neg same, if_neg same, Option.or_none]

theorem Together.sameAnswers (together : Together ext displayRead s t) : SameAnswers ext displayRead s t where
  snapshots network nodeId channelId observedAt := by
    rw [together.snapshots]
    exact (SqliteStorage.value_query together.healthy _ _).symm
  recommendations actionId := by
    have read : value (SqliteStorage.recommendationForAction actionId) t =
        .ok (Rows.lookup (·.action.id) t.conn.tables.recommendations actionId) :=
      SqliteStorage.value_query together.healthy _ _
    rw [read]
    exact congrArg Except.ok (together.recommendations actionId)
  simulations simulationId := by
    have read := SqliteStorage.sql_statement_healthy together.healthy StorageError.backend
      fun tables => .ok (tables, Rows.lookup SimulationRecord.id tables.simulations simulationId)
    have kept := together.simulations
    unfold value SqliteStorage.simulationV2ById query
    rw [bind_of_ok read]
    cases found : Rows.lookup SimulationRecord.id t.conn.tables.simulations simulationId with
    | none =>
      have same : MemoryStorage.simulationV2ById simulationId s = .ok none s := by
        unfold MemoryStorage.simulationV2ById
        rw [kept, found]
      rw [same]
      rfl
    | some record =>
      have same : MemoryStorage.simulationV2ById simulationId s = .ok (some record) s := by
        unfold MemoryStorage.simulationV2ById
        rw [kept, found]
      have valid := together.validated record (kept ▸ Rows.mem_of_lookup found)
      rw [same]
      dsimp only
      unfold SqliteStorage.rowToSimulationV2
      rw [valid]
      rfl
  events limit := by
    have memory : s.webhookQueue.Listing (·.processedAt.isNone) (s.acceptedEvents (·.processedAt.isNone)) :=
      .of_perm (List.reverse_perm _).symm
    have sqlite : s.webhookQueue.Listing (·.processedAt.isNone)
        (t.conn.tables.acceptedEvents (·.processedAt.isNone)) := together.queue ▸ .of_perm (.refl _)
    have read : value (SqliteStorage.pendingWebhookEvents limit) t =
        .ok ((t.conn.tables.acceptedEvents (·.processedAt.isNone)).take (webhookLimit limit)) :=
      SqliteStorage.value_query together.healthy _ _
    rw [read, ← memory.unique together.consistent.keyed sqlite]
    rfl

def EndsAlike (ext : SimulationExternal) (displayRead : String → String) (s : MemoryStorage) (t : SqliteStorage)
    (call : KeyedWrite) : Prop :=
  succeeds call.runMemory s = succeeds (call.runSqlite ext displayRead) t ∧
    Together ext displayRead (final call.runMemory s) (final (call.runSqlite ext displayRead) t)

variable {call : KeyedWrite} {s' : MemoryStorage} {t' : SqliteStorage}

theorem EndsAlike.of_ok (memory : call.runMemory s = .ok () s') (sqlite : call.runSqlite ext displayRead t = .ok () t')
    (together : Together ext displayRead s' t') : EndsAlike ext displayRead s t call := by
  unfold EndsAlike StatefulResult.succeeds final
  rw [memory, sqlite]
  exact ⟨rfl, together⟩

theorem EndsAlike.of_error {e e' : StorageError} (memory : call.runMemory s = .error e s')
    (sqlite : call.runSqlite ext displayRead t = .error e' t') (together : Together ext displayRead s' t') :
    EndsAlike ext displayRead s t call := by
  unfold EndsAlike StatefulResult.succeeds final
  rw [memory, sqlite]
  exact ⟨rfl, together⟩

theorem sameSnapshotKey_eq {snapshot : ChannelSnapshot} {network : BitcoinNetwork} {nodeId : String}
    (net : snapshot.network = some network) (node : snapshot.nodeId = some nodeId) :
    (Tables.sameSnapshotKey · snapshot) = fun row : ChannelSnapshot => row.network = some network ∧
      row.nodeId = some nodeId ∧ row.channelId = snapshot.channelId ∧ row.ts = snapshot.ts := by
  funext row
  unfold Tables.sameSnapshotKey
  rw [net, node]
  refine decide_eq_decide.mpr ⟨fun same => ⟨same.2.2.1, same.2.2.2.1, same.2.2.2.2⟩, fun same => ?_⟩
  exact ⟨by rw [same.1]; rfl, by rw [same.2.1]; rfl, same⟩

theorem snapshotAt_save (snapshot : ChannelSnapshot) (s : MemoryStorage) (network : BitcoinNetwork)
    (nodeId channelId : String) (observedAt : DateTime) :
    value (MemoryStorage.channelSnapshotAt network nodeId channelId observedAt)
        { s with channelSnapshots := s.channelSnapshots ++ [snapshot] } =
      .ok ((s.channelSnapshots.find? fun row => row.network = some network ∧ row.nodeId = some nodeId ∧
        row.channelId = channelId ∧ row.ts = observedAt).or
        (if snapshot.network = some network ∧ snapshot.nodeId = some nodeId ∧ snapshot.channelId = channelId ∧
          snapshot.ts = observedAt then some snapshot else none)) := by
  unfold value MemoryStorage.channelSnapshotAt
  dsimp only
  rw [List.find?_append, List.find?_singleton]
  simp only [decide_eq_true_eq]

theorem Together.save_channelSnapshot (together : Together ext displayRead s t) {snapshot : ChannelSnapshot}
    (agrees : (KeyedWrite.channelSnapshot snapshot).Agrees s) :
    Together ext displayRead { s with channelSnapshots := s.channelSnapshots ++ [snapshot] }
      (t.advance (t.conn.tables.replaceChannelSnapshot snapshot)) := by
  refine { together with
    healthy := together.healthy
    idle := together.idle
    snapshots := fun network nodeId channelId observedAt => ?_ }
  rw [snapshotAt_save]
  show _ = Except.ok ((t.conn.tables.replaceChannelSnapshot snapshot).snapshotAt network nodeId channelId observedAt)
  have stored := Except.ok.inj (together.snapshots network nodeId channelId observedAt)
  rw [Tables.snapshotAt_replace, ← stored]
  by_cases asked : snapshot.network = some network ∧ snapshot.nodeId = some nodeId ∧ snapshot.channelId = channelId ∧
      snapshot.ts = observedAt
  · rcases asked with ⟨net, node, rfl, rfl⟩
    rw [if_pos ⟨net, node, rfl, rfl⟩, if_pos ⟨net, node, rfl, rfl⟩]
    have kept := agrees.2
    rw [sameSnapshotKey_eq net node] at kept
    cases found : s.channelSnapshots.find? _ with
    | none => rfl
    | some other => rw [kept other found, Option.some_or]
  · rw [if_neg asked, if_neg asked, Option.or_none]

theorem alike_channelSnapshot (together : Together ext displayRead s t) {snapshot : ChannelSnapshot}
    (agrees : (KeyedWrite.channelSnapshot snapshot).Agrees s) :
    EndsAlike ext displayRead s t (.channelSnapshot snapshot) := by
  have saved : SqliteStorage.bindAndSaveChannelSnapshot snapshot t =
      .ok () (t.advance (t.conn.tables.replaceChannelSnapshot snapshot)) := by
    unfold SqliteStorage.bindAndSaveChannelSnapshot
    rw [agrees.1]
    exact SqliteStorage.sql_execute_healthy together.healthy _ _
  exact .of_ok rfl saved (together.save_channelSnapshot agrees)

theorem alike_recommendation (together : Together ext displayRead s t) {rec : Recommendation}
    (agrees : (KeyedWrite.recommendation rec).Agrees s) : EndsAlike ext displayRead s t (.recommendation rec) := by
  have saved : SqliteStorage.saveRecommendation rec t = .ok () (t.advance (t.conn.tables.replaceRecommendation rec)) :=
    SqliteStorage.sql_execute_healthy together.healthy _ _
  refine .of_ok rfl saved { together with
    healthy := together.healthy
    idle := together.idle
    recommendations := fun actionId => ?_
    active := fun row member => ?_ }
  · have merged : Rows.lookup (fun row : Recommendation => row.action.id)
        (Rows.upsert (·.action.id) rec (fun existing =>
          { existing with action := { existing.action with updatedAt := rec.action.updatedAt } }) s.recommendations)
        actionId = _ := Rows.lookup_upsert fun _ => rfl
    have replaced := t.conn.tables.lookup_replaceRecommendation rec actionId
    refine (congrArg (·.map Recommendation.answer) merged).trans
      (Eq.trans ?_ (congrArg (·.map Recommendation.answer) replaced.symm))
    dsimp only
    by_cases same : rec.action.id = actionId
    · subst same
      rw [if_pos rfl, if_pos rfl, Option.map_some, Option.map_some]
      have agrees : rec.AgreesWith (Rows.lookup (·.action.id) s.recommendations rec.action.id) := agrees
      have before := together.recommendations rec.action.id
      cases found : Rows.lookup (fun row : Recommendation => row.action.id) s.recommendations rec.action.id with
      | none =>
        rw [found] at agrees
        exact congrArg some (Recommendation.answer_eq.mpr ⟨rfl, of_decide_eq_true agrees⟩)
      | some stored =>
        rw [found] at agrees before
        have lifecycle : stored.lifecycle.getD "active" = "active" := by
          cases kept : Rows.lookup (fun row : Recommendation => row.action.id) t.conn.tables.recommendations
              rec.action.id with
          | none => rw [kept] at before; cases before
          | some row =>
            rw [kept] at before
            have same := (Recommendation.answer_eq.mp (Option.some.inj before)).2
            rw [same, together.active row (Rows.mem_of_lookup kept)]
            rfl
        exact congrArg some (Recommendation.answer_eq.mpr ⟨agrees, lifecycle⟩)
    · rw [if_neg same, if_neg same]
      exact together.recommendations actionId
  · rcases List.mem_append.mp member with old | new
    · exact together.active row (List.mem_of_mem_filter old)
    · rw [List.mem_singleton.mp new]

theorem alike_actionStage (together : Together ext displayRead s t) (actionId : String) (stage : ActionStage)
    (memoryNow sqliteNow : DateTime) :
    EndsAlike ext displayRead s t (.actionStage actionId stage memoryNow sqliteNow) := by
  have staged : SqliteStorage.setActionStage actionId stage sqliteNow t =
      .ok () (t.advance (t.conn.tables.setStage actionId stage sqliteNow)) :=
    SqliteStorage.sql_execute_healthy together.healthy _ _
  refine .of_ok rfl staged { together with
    healthy := together.healthy
    idle := together.idle
    recommendations := fun other => ?_
    active := fun row member => ?_ }
  · let restage (row : Recommendation) : Recommendation :=
      { row with action := { row.action with stage, updatedAt := memoryNow } }
    have first : Rows.lookup (fun row : Recommendation => row.action.id)
        (Rows.updateFirst (·.action.id = actionId) restage s.recommendations) other = _ :=
      Rows.lookup_updateFirst (f := restage) fun _ => rfl
    have all : Rows.lookup (fun row : Recommendation => row.action.id)
        (t.conn.tables.setStage actionId stage sqliteNow).recommendations other = _ :=
      Rows.lookup_updateWhere fun _ => rfl
    refine (congrArg (·.map Recommendation.answer) first).trans
      (Eq.trans ?_ (congrArg (·.map Recommendation.answer) all.symm))
    dsimp only
    have before := together.recommendations other
    cases found : Rows.lookup (fun row : Recommendation => row.action.id) s.recommendations other with
    | none =>
      rw [found] at before
      rw [Option.map_eq_none_iff.mp before.symm]
      rfl
    | some stored =>
      rw [found] at before
      rcases Option.map_eq_some_iff.mp before.symm with ⟨row, kept, same⟩
      have contents := Recommendation.answer_eq.mp same
      have ids : row.action.id = stored.action.id := congrArg (·.action.id) contents.1
      rw [kept]
      simp only [Option.map_some, decide_eq_true_eq]
      refine congrArg some ?_
      by_cases here : stored.action.id = actionId
      · rw [if_pos here, if_pos (ids.trans here)]
        refine Recommendation.answer_eq.mpr ⟨?_, contents.2.symm⟩
        have changed := congrArg (fun content : Recommendation =>
          { content with action := { content.action with stage } }) contents.1
        exact changed.symm
      · rw [if_neg here, if_neg fun also => here (ids.symm.trans also)]
        exact same.symm
  · rcases List.mem_map.mp member with ⟨before, stored, rfl⟩
    split
    · exact together.active before stored
    · exact together.active before stored

theorem alike_simulationV2 (together : Together ext displayRead s t) {record : SimulationRecord}
    (valid : validateSimulationRecord ext displayRead record = .ok ())
    (agrees : (KeyedWrite.simulationV2 record).Agrees s) : EndsAlike ext displayRead s t (.simulationV2 record) := by
  have inserts : SqliteStorage.saveSimulationV2 ext displayRead record t =
      SqliteStorage.sql StorageError.backend (statement (Tables.insertSimulation record)) t := by
    unfold SqliteStorage.saveSimulationV2
    rw [valid]
  have ran := inserts.trans (SqliteStorage.sql_statement_healthy together.healthy _ _)
  have still : Together ext displayRead s (t.advance t.conn.tables) :=
    { together with healthy := together.healthy, idle := together.idle }
  have kept := together.simulations
  unfold Tables.insertSimulation at ran
  cases found : Rows.lookup SimulationRecord.id s.simulationRecords record.id with
  | some stored =>
    have differs := agrees stored found
    have named : t.conn.tables.simulations.any (·.id = record.id) = true := by
      rw [← kept]
      exact List.any_eq_true.mpr ⟨stored, Rows.mem_of_lookup found, decide_eq_true (Rows.key_of_lookup found)⟩
    rw [if_pos named] at ran
    have refused : MemoryStorage.saveSimulationV2 record s =
        .error (.backend s!"simulation {record.id} is immutable") s := by
      unfold MemoryStorage.saveSimulationV2
      rw [found]
      dsimp only
      rw [differs]
      rfl
    exact .of_error refused ran still
  | none =>
    have fresh : ¬t.conn.tables.simulations.any (·.id = record.id) = true := by
      rw [← kept, List.any_eq_true]
      rintro ⟨row, stored, named⟩
      exact Rows.lookup_eq_none.mp found row stored (of_decide_eq_true named)
    rw [if_neg fresh] at ran
    by_cases taken : record.inputHash ≠ "" ∧ record.replayable ∧ s.simulationRecords.any fun existing =>
        existing.inputHash = record.inputHash ∧ existing.replayable
    · have refused : MemoryStorage.saveSimulationV2 record s =
          .error (.backend s!"simulation input {record.inputHash} already exists") s := by
        unfold MemoryStorage.saveSimulationV2
        rw [found]
        exact if_pos taken
      rw [if_pos (kept ▸ taken)] at ran
      exact .of_error refused ran still
    · have stored : MemoryStorage.saveSimulationV2 record s =
          .ok () { s with simulationRecords := s.simulationRecords ++ [record] } := by
        unfold MemoryStorage.saveSimulationV2
        rw [found]
        exact if_neg taken
      rw [if_neg (kept ▸ taken)] at ran
      refine .of_ok stored ran { together with
        healthy := together.healthy
        idle := together.idle
        simulations := congrArg (· ++ [record]) kept
        validated := fun row member => ?_ }
      rcases List.mem_append.mp member with old | new
      · exact together.validated row old
      · rw [List.mem_singleton.mp new]
        exact valid

theorem Together.of_queue (together : Together ext displayRead s t) (healthy : t'.Healthy) (idle : t'.Idle)
    (memoryIdle : s'.Idle) (snapshots : s'.channelSnapshots = s.channelSnapshots)
    (recommendations : s'.recommendations = s.recommendations) (records : s'.simulationRecords = s.simulationRecords)
    (tables : { t'.conn.tables with
      webhookDeliveries := t.conn.tables.webhookDeliveries, webhookEvents := t.conn.tables.webhookEvents } =
        t.conn.tables)
    (queue : s'.webhookQueue = t'.webhookQueue) (consistent : s'.webhookQueue.Consistent) :
    Together ext displayRead s' t' where
  healthy := healthy
  idle := idle
  memoryIdle := memoryIdle
  snapshots network nodeId channelId observedAt := by
    rw [Tables.snapshotAt_congr (congrArg (·.channelSnapshots) tables : t'.conn.tables.channelSnapshots = _),
      ← together.snapshots]
    unfold value MemoryStorage.channelSnapshotAt
    rw [snapshots]
  recommendations actionId := by
    rw [recommendations, (congrArg (·.recommendations) tables : t'.conn.tables.recommendations = _)]
    exact together.recommendations actionId
  active row member := together.active row (by
    rwa [(congrArg (·.recommendations) tables : t'.conn.tables.recommendations = _)] at member)
  simulations := by
    rw [records, together.simulations, ← (congrArg (·.simulations) tables : t'.conn.tables.simulations = _)]
  validated record member := together.validated record (records ▸ member)
  queue := queue
  consistent := consistent

theorem alike_enqueue (together : Together ext displayRead s t) (deliveryId : String)
    (webhookId eventType : Option String) (event : NodeEvent) (acceptedAt : DateTime) :
    EndsAlike ext displayRead s t (.enqueue deliveryId webhookId eventType event acceptedAt) := by
  rcases SqliteStorage.enqueue_healthy together.healthy together.idle deliveryId webhookId eventType event acceptedAt with
    ⟨t', ran, healthy, idle, tables⟩
  rcases MemoryStorage.enqueueWebhookEvent_accepts deliveryId webhookId eventType event acceptedAt
    together.memoryIdle with ⟨memoryIdle, queue⟩
  have sqliteQueue : t'.webhookQueue = t.webhookQueue.accept ⟨deliveryId, event, acceptedAt, none⟩ := by
    unfold SqliteStorage.webhookQueue
    rw [tables, SqliteStorage.webhookQueue_insertNew]
  refine .of_ok rfl ran (together.of_queue healthy idle memoryIdle rfl rfl rfl (by rw [tables]; rfl) ?_ ?_)
  · rw [sqliteQueue, ← together.queue]
    exact queue
  · rw [show MemoryStorage.webhookQueue _ = _ from queue]
    exact together.consistent.accept _

theorem mem_webhookEvents (together : Together ext displayRead s t) {deliveryId : String} :
    deliveryId ∈ s.webhookEvents ↔ ∃ record ∈ t.conn.tables.webhookEvents, record.deliveryId = deliveryId := by
  have ids : deliveryId ∈ s.webhookQueue.ids ↔ deliveryId ∈ s.webhookEvents := by
    unfold MemoryStorage.webhookQueue
    rw [together.memoryIdle.2.ids]
    exact List.mem_reverse
  rw [← ids, together.queue]
  exact List.mem_map

theorem stored_webhookEvent (together : Together ext displayRead s t) {deliveryId : String}
    {record : WebhookEventRecord}
    (found : s.webhookEvents.lookup deliveryId = some record) :
    record ∈ t.conn.tables.webhookEvents ∧ record.deliveryId = deliveryId := by
  have entry : ⟨deliveryId, record⟩ ∈ s.webhookEvents.entries := AList.mem_lookup_iff.mp found
  have queued : record ∈ s.webhookQueue.events := List.mem_reverse.mpr (List.mem_map_of_mem entry)
  rw [together.queue] at queued
  exact ⟨queued, together.memoryIdle.2 _ entry⟩

theorem alike_markProcessed (together : Together ext displayRead s t) {deliveryId : String} {processedAt : DateTime}
    (agrees : (KeyedWrite.markProcessed deliveryId processedAt).Agrees s) :
    EndsAlike ext displayRead s t (.markProcessed deliveryId processedAt) := by
  rcases SqliteStorage.mark_healthy together.healthy deliveryId processedAt with
    ⟨e, t', healthy, saved, inTransaction, tables, ran⟩
  have idle : t'.Idle := by
    unfold SqliteStorage.Idle SqlConnection.inTransaction
    rw [saved, inTransaction]
    exact together.idle
  have others : { t'.conn.tables with
      webhookDeliveries := t.conn.tables.webhookDeliveries, webhookEvents := t.conn.tables.webhookEvents } =
        t.conn.tables := by
    rw [tables]
    rfl
  cases found : s.webhookEvents.lookup deliveryId with
  | none =>
    have absent (record : WebhookEventRecord) (stored : record ∈ t.conn.tables.webhookEvents) :
        record.deliveryId ≠ deliveryId := fun named =>
      AList.lookup_eq_none.mp found ((mem_webhookEvents together).mpr ⟨record, stored, named⟩)
    have refused : MemoryStorage.markWebhookEventProcessed deliveryId processedAt s =
        .error (.backend s!"unknown webhook event {deliveryId}") s := by
      unfold MemoryStorage.markWebhookEventProcessed
      rw [found]
    have unmarked : (t.conn.tables.markProcessed deliveryId processedAt).2 = 0 :=
      List.countP_eq_zero.mpr fun record stored => by simp [absent record stored]
    have untouched : t'.webhookQueue = t.webhookQueue := by
      unfold SqliteStorage.webhookQueue Tables.webhookQueue
      rw [tables]
      unfold Tables.markProcessed Rows.updateWhere
      dsimp only
      rw [List.map_congr_left (g := id) fun record stored => by simp [absent record stored], List.map_id]
    rw [if_pos unmarked] at ran
    exact .of_error refused ran (together.of_queue healthy idle together.memoryIdle rfl rfl rfl others
      (together.queue.trans untouched.symm) together.consistent)
  | some stored =>
    have pending := agrees stored found
    rcases stored_webhookEvent together found with ⟨queued, named⟩
    have keyed : Rows.Keyed WebhookEventRecord.deliveryId t.conn.tables.webhookEvents := by
      have consistent := together.consistent.keyed
      rwa [together.queue] at consistent
    have marked : MemoryStorage.markWebhookEventProcessed deliveryId processedAt s =
        .ok () { s with
          webhookEvents := s.webhookEvents.replace deliveryId { stored with processedAt := some processedAt } } := by
      unfold MemoryStorage.markWebhookEventProcessed
      rw [found]
    have marks : (t.conn.tables.markProcessed deliveryId processedAt).2 ≠ 0 :=
      Nat.pos_iff_ne_zero.mp (List.countP_pos_iff.mpr ⟨stored, queued, by simp [named, pending]⟩)
    have settled := (MemoryStorage.markWebhookEventProcessed_settles together.memoryIdle.2 marked).1
    have settledRows : t'.webhookQueue = t.webhookQueue.settle deliveryId processedAt := by
      unfold SqliteStorage.webhookQueue
      rw [tables]
      exact (SqliteStorage.markProcessed_settles processedAt keyed marks).1
    have filed := MemoryStorage.filed_markWebhookEventProcessed together.memoryIdle.2 deliveryId processedAt
    unfold final at filed
    rw [marked] at filed
    rw [if_neg marks] at ran
    refine .of_ok marked ran (together.of_queue healthy idle ⟨together.memoryIdle.1, filed⟩ rfl rfl rfl others ?_ ?_)
    · rw [settled, settledRows, together.queue]
    · rw [settled]
      exact together.consistent.settle deliveryId processedAt

theorem Together.alike (together : Together ext displayRead s t) (compared : call.Compared ext displayRead)
    (agrees : call.Agrees s) : EndsAlike ext displayRead s t call := by
  cases call with
  | channelSnapshot snapshot => exact alike_channelSnapshot together agrees
  | recommendation rec => exact alike_recommendation together agrees
  | actionStage actionId stage memoryNow sqliteNow =>
    exact alike_actionStage together actionId stage memoryNow sqliteNow
  | simulationV2 record => exact alike_simulationV2 together compared agrees
  | enqueue deliveryId webhookId eventType event acceptedAt =>
    exact alike_enqueue together deliveryId webhookId eventType event acceptedAt
  | markProcessed deliveryId processedAt => exact alike_markProcessed together agrees

/-- Both backends succeed or both fail in a step, and answer alike after it. -/
def LooksAlike (ext : SimulationExternal) (displayRead : String → String) (s : MemoryStorage) (t : SqliteStorage)
    (call : KeyedWrite) : Prop :=
  succeeds call.runMemory s = succeeds (call.runSqlite ext displayRead) t ∧
    SameAnswers ext displayRead (final call.runMemory s) (final (call.runSqlite ext displayRead) t)

theorem LooksAlike.answers_of_ok (looks : LooksAlike ext displayRead s t call) (memory : call.runMemory s = .ok () s')
    (sqlite : call.runSqlite ext displayRead t = .ok () t') : SameAnswers ext displayRead s' t' := by
  have answers := looks.2
  unfold final at answers
  rwa [memory, sqlite] at answers

theorem LooksAlike.not_apart {e : StorageError} (looks : LooksAlike ext displayRead s t call)
    (memory : call.runMemory s = .ok () s') (sqlite : call.runSqlite ext displayRead t = .error e t') : False := by
  have outcome := looks.1
  unfold StatefulResult.succeeds at outcome
  rw [memory, sqlite] at outcome
  cases outcome

theorem agrees_channelSnapshot (together : Together ext displayRead s t) {snapshot : ChannelSnapshot}
    (looks : LooksAlike ext displayRead s t (.channelSnapshot snapshot)) :
    (KeyedWrite.channelSnapshot snapshot).Agrees s := by
  cases bound : bindChannelSnapshot snapshot with
  | error e =>
    have refused : SqliteStorage.bindAndSaveChannelSnapshot snapshot t =
        .error (.backend e) (t.advance t.conn.tables) := by
      unfold SqliteStorage.bindAndSaveChannelSnapshot
      rw [bound]
      exact SqliteStorage.sql_statement_healthy together.healthy _ _
    exact (looks.not_apart rfl refused).elim
  | ok u =>
    refine ⟨bound, fun stored found => ?_⟩
    have saved : SqliteStorage.bindAndSaveChannelSnapshot snapshot t =
        .ok () (t.advance (t.conn.tables.replaceChannelSnapshot snapshot)) := by
      unfold SqliteStorage.bindAndSaveChannelSnapshot
      rw [bound]
      exact SqliteStorage.sql_execute_healthy together.healthy _ _
    have key := List.find?_some found
    unfold Tables.sameSnapshotKey at key
    rcases of_decide_eq_true key with ⟨hasNetwork, hasNode, network, node, -, -⟩
    rcases Option.isSome_iff_exists.mp (network ▸ hasNetwork) with ⟨net, isNet⟩
    rcases Option.isSome_iff_exists.mp (node ▸ hasNode) with ⟨nodeId, isNode⟩
    have asked := (looks.answers_of_ok rfl saved).snapshots net nodeId snapshot.channelId snapshot.ts
    have read : value (SqliteStorage.channelSnapshotAt net nodeId snapshot.channelId snapshot.ts)
        (t.advance (t.conn.tables.replaceChannelSnapshot snapshot)) = .ok (some snapshot) := by
      have answered : value (SqliteStorage.channelSnapshotAt net nodeId snapshot.channelId snapshot.ts)
          (t.advance (t.conn.tables.replaceChannelSnapshot snapshot)) =
            .ok ((t.conn.tables.replaceChannelSnapshot snapshot).snapshotAt net nodeId snapshot.channelId snapshot.ts) :=
        SqliteStorage.value_query (together.healthy.advance _) _ _
      rw [answered, Tables.snapshotAt_replace, if_pos ⟨isNet, isNode, rfl, rfl⟩]
    rw [sameSnapshotKey_eq isNet isNode] at found
    rw [snapshotAt_save, read, found, Option.some_or] at asked
    exact Option.some.inj (Except.ok.inj asked)

theorem agrees_recommendation (together : Together ext displayRead s t) {rec : Recommendation}
    (looks : LooksAlike ext displayRead s t (.recommendation rec)) : (KeyedWrite.recommendation rec).Agrees s := by
  have saved : SqliteStorage.saveRecommendation rec t = .ok () (t.advance (t.conn.tables.replaceRecommendation rec)) :=
    SqliteStorage.sql_execute_healthy together.healthy _ _
  have asked := (looks.answers_of_ok rfl saved).recommendations rec.action.id
  have read : value (SqliteStorage.recommendationForAction rec.action.id)
      (t.advance (t.conn.tables.replaceRecommendation rec)) = .ok (some { rec with lifecycle := some "active" }) := by
    have answered : value (SqliteStorage.recommendationForAction rec.action.id)
        (t.advance (t.conn.tables.replaceRecommendation rec)) =
          .ok (Rows.lookup (·.action.id) (t.conn.tables.replaceRecommendation rec).recommendations rec.action.id) :=
      SqliteStorage.value_query (together.healthy.advance _) _ _
    rw [answered, Tables.lookup_replaceRecommendation, if_pos rfl]
  rw [read] at asked
  let merge (existing : Recommendation) : Recommendation :=
    { existing with action := { existing.action with updatedAt := rec.action.updatedAt } }
  have merged : Rows.lookup (fun row : Recommendation => row.action.id)
      (Rows.upsert (·.action.id) rec merge s.recommendations) rec.action.id = _ :=
    Rows.lookup_upsert fun _ => rfl
  rw [if_pos rfl] at merged
  have same := Except.ok.inj ((congrArg (fun found : Option Recommendation =>
    (Except.ok (found.map Recommendation.answer) : Except StorageError _)) merged).symm.trans asked)
  show rec.AgreesWith (Rows.lookup (·.action.id) s.recommendations rec.action.id)
  cases found : Rows.lookup (fun row : Recommendation => row.action.id) s.recommendations rec.action.id with
  | none =>
    rw [found] at same
    exact decide_eq_true (Recommendation.answer_eq.mp (Option.some.inj same)).2
  | some stored =>
    rw [found] at same
    exact (Recommendation.answer_eq.mp (Option.some.inj same)).1

theorem agrees_simulationV2 (together : Together ext displayRead s t) {record : SimulationRecord}
    (valid : validateSimulationRecord ext displayRead record = .ok ())
    (looks : LooksAlike ext displayRead s t (.simulationV2 record)) : (KeyedWrite.simulationV2 record).Agrees s := by
  intro stored found
  by_contra repeated
  have kept : MemoryStorage.saveSimulationV2 record s = .ok () s := by
    unfold MemoryStorage.saveSimulationV2
    rw [found]
    exact if_pos (by simpa using repeated)
  have named : t.conn.tables.simulations.any (·.id = record.id) = true := by
    rw [← together.simulations]
    exact List.any_eq_true.mpr ⟨stored, Rows.mem_of_lookup found, decide_eq_true (Rows.key_of_lookup found)⟩
  have inserts : SqliteStorage.saveSimulationV2 ext displayRead record t =
      SqliteStorage.sql StorageError.backend (statement (Tables.insertSimulation record)) t := by
    unfold SqliteStorage.saveSimulationV2
    rw [valid]
  have ran := inserts.trans (SqliteStorage.sql_statement_healthy together.healthy _ _)
  unfold Tables.insertSimulation at ran
  rw [if_pos named] at ran
  exact looks.not_apart kept ran

theorem agrees_markProcessed (together : Together ext displayRead s t) {deliveryId : String} {processedAt : DateTime}
    (looks : LooksAlike ext displayRead s t (.markProcessed deliveryId processedAt)) :
    (KeyedWrite.markProcessed deliveryId processedAt).Agrees s := by
  intro stored found
  by_contra processed
  have marked : MemoryStorage.markWebhookEventProcessed deliveryId processedAt s =
      .ok () { s with
        webhookEvents := s.webhookEvents.replace deliveryId { stored with processedAt := some processedAt } } := by
    unfold MemoryStorage.markWebhookEventProcessed
    rw [found]
  rcases stored_webhookEvent together found with ⟨queued, named⟩
  have keyed : Rows.Keyed WebhookEventRecord.deliveryId t.conn.tables.webhookEvents := by
    have consistent := together.consistent.keyed
    rwa [together.queue] at consistent
  have unmarked : (t.conn.tables.markProcessed deliveryId processedAt).2 = 0 := by
    refine List.countP_eq_zero.mpr fun record member => ?_
    simp only [Bool.and_eq_true, decide_eq_true_eq, Option.isNone_iff_eq_none, not_and]
    intro also
    have only : record = stored := List.inj_on_of_nodup_map keyed member queued (also.trans named.symm)
    rwa [only]
  rcases SqliteStorage.mark_healthy together.healthy deliveryId processedAt with ⟨e, t', -, -, -, -, ran⟩
  rw [if_pos unmarked] at ran
  exact looks.not_apart marked ran

theorem Together.agrees (together : Together ext displayRead s t) (compared : call.Compared ext displayRead)
    (looks : LooksAlike ext displayRead s t call) : call.Agrees s := by
  cases call with
  | channelSnapshot snapshot => exact agrees_channelSnapshot together looks
  | recommendation rec => exact agrees_recommendation together looks
  | actionStage actionId stage memoryNow sqliteNow => exact trivial
  | simulationV2 record => exact agrees_simulationV2 together compared looks
  | enqueue deliveryId webhookId eventType event acceptedAt => exact trivial
  | markProcessed deliveryId processedAt => exact agrees_markProcessed together looks

end Steps

namespace KeyedWrite

def afterMemory (calls : List KeyedWrite) : MemoryStorage :=
  calls.foldl (fun s call => final call.runMemory s) MemoryStorage.new

def afterSqlite (ext : SimulationExternal) (displayRead : String → String) (calls : List KeyedWrite) : SqliteStorage :=
  calls.foldl (fun t call => final (call.runSqlite ext displayRead) t) SqliteStorage.empty

end KeyedWrite

open KeyedWrite

section Runs

variable {ext : SimulationExternal} {displayRead : String → String} {calls : List KeyedWrite}

theorem Together.new : Together ext displayRead MemoryStorage.new SqliteStorage.empty where
  healthy _ := rfl
  idle := ⟨rfl, rfl⟩
  memoryIdle := ⟨rfl, List.forall_mem_nil _⟩
  snapshots _ _ _ _ := rfl
  recommendations _ := rfl
  active := List.forall_mem_nil _
  simulations := rfl
  validated := List.forall_mem_nil _
  queue := rfl
  consistent := ⟨List.nodup_nil, fun _ => Iff.rfl⟩

theorem together_after (compared : ∀ call ∈ calls, call.Compared ext displayRead)
    (agrees : ∀ past call future, calls = past ++ call :: future →
      Together ext displayRead (afterMemory past) (afterSqlite ext displayRead past) → call.Agrees (afterMemory past))
    (past future : List KeyedWrite) (split : calls = past ++ future) :
    Together ext displayRead (afterMemory past) (afterSqlite ext displayRead past) := by
  induction past using List.reverseRecOn generalizing future with
  | nil => exact .new
  | append_singleton past call ih =>
    rw [List.append_assoc] at split
    have before := ih (call :: future) split
    have member : call ∈ calls := split ▸ List.mem_append_right _ List.mem_cons_self
    have next := (before.alike (compared call member) (agrees past call future split before)).2
    unfold afterMemory afterSqlite
    rw [List.foldl_append, List.foldl_append]
    exact next

theorem looksAlike_runs_iff (compared : ∀ call ∈ calls, call.Compared ext displayRead) :
    (∀ past call future, calls = past ++ call :: future →
      LooksAlike ext displayRead (afterMemory past) (afterSqlite ext displayRead past) call) ↔
      ∀ past call future, calls = past ++ call :: future → call.Agrees (afterMemory past) := by
  have inside {past : List KeyedWrite} {call : KeyedWrite} {future : List KeyedWrite}
      (split : calls = past ++ call :: future) : call.Compared ext displayRead :=
    compared call (split ▸ List.mem_append_right _ List.mem_cons_self)
  constructor
  · intro looks past call future split
    refine Together.agrees (together_after compared (fun past call future split together => ?_) past _ split)
      (inside split) (looks past call future split)
    exact together.agrees (inside split) (looks past call future split)
  · intro agrees past call future split
    have together :=
      together_after compared (fun past call future split _ => agrees past call future split) past _ split
    have alike := together.alike (inside split) (agrees past call future split)
    exact ⟨alike.1, alike.2.sameAnswers⟩

end Runs

end Rieko
