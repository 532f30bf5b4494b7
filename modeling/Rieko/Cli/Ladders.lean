import Rieko.Cli.InsideTransaction
import Rieko.Lib.Transition
import Rieko.Simulation.Database
import Rieko.Storage.TextRefinement

namespace Rieko

open StatefulResult CycleM SqlConnection SqliteStorage Transition

inductive TransactionOp where
  | persistGreenfieldSnapshot (snapshot : NodeSnapshot)
  | persistFindingCycle (cycle : DetectorCycle) (deliveryId : String)
  | persistOperationalDetectorCycle (cycle : DetectorCycle)
  | persistCycle (llm : Option LlmClient) (node : String) (snapshots : List ChannelSnapshot)
      (scopes : List FindingCycleScope) (findings : List Finding)
  | createSimulation (call : SimulationCall)
  | updateOperationalState (f : OperationalState → OperationalState)
  | enqueueWebhookEvent (deliveryId : String) (webhookId eventType : Option String) (event : NodeEvent)
      (acceptedAt : DateTime)

namespace TransactionOp

section Effects

variable (text : RowText) (ext : SimulationExternal) (displayRead : String → String)

/-- The world an operation leaves, whatever it returns and where it panics. -/
def after (env : CycleEnv) (w : World SqliteStorage) : TransactionOp → World SqliteStorage
  | .persistGreenfieldSnapshot snapshot => final (Rieko.persistGreenfieldSnapshot env snapshot) w
  | .persistFindingCycle cycle deliveryId => final (Rieko.persistFindingCycle env cycle deliveryId) w
  | .persistOperationalDetectorCycle cycle => final (Rieko.persistOperationalDetectorCycle env cycle) w
  | .persistCycle llm node snapshots scopes findings =>
    final (Rieko.persistCycle env llm node snapshots scopes findings) w
  | .createSimulation call => { w with storage := final (call.runSqlite text ext displayRead) w.storage }
  | .updateOperationalState f => { w with storage := final (SqliteStorage.updateOperationalState f) w.storage }
  | .enqueueWebhookEvent deliveryId webhookId eventType event acceptedAt =>
    { w with
      storage := final (SqliteStorage.enqueueWebhookEvent deliveryId webhookId eventType event acceptedAt) w.storage }

/-- The first statement of the operation to fail is a commit after which it does not roll back: that of a
    polled snapshot, or that of an update in a transaction of its own. A cycle makes one such update, when it
    has findings to explain. A simulation strands its transaction where it panics. -/
def Strands (s : SqliteStorage) : TransactionOp → Prop
  | .persistGreenfieldSnapshot snapshot => s.conn.FailsFirstAt (snapshot.channels.length + 3)
  | .persistCycle llm _ _ _ findings => llm.isSome = true ∧ findings ≠ [] ∧ s.conn.FailsFirstAt 3
  | .createSimulation call => call.Unwinds text ext displayRead s
  | .updateOperationalState _ => s.conn.FailsFirstAt 3
  | _ => False

end Effects

end TransactionOp

theorem sqlite_writesKeep : WritesKeep Begun :=
  SqliteStorage.writesKeep (fun s s' same => Begun.stable s s' same.transaction) fun _ begun => begun

theorem markWebhookEventProcessed_keeps (deliveryId : String) (processedAt : DateTime) :
    Preserves Begun (SqliteStorage.markWebhookEventProcessed deliveryId processedAt) := by
  unfold SqliteStorage.markWebhookEventProcessed
  refine (sql_statement_keeps Begun.stable _ _).bind fun changed => ?_
  split
  · exact .throw _
  · exact .pure _

namespace TransactionOp

variable {env : CycleEnv} {w : World SqliteStorage}

theorem transacted_idle {α : Type} {opening closing : CycleError → CycleError}
    {body : CycleM SqliteStorage α} (keeps : Preserves (fun w => w.storage.Begun) body)
    (idle : w.storage.Idle) : (final (transacted opening closing body) w).storage.Idle :=
  (world_brackets opening closing SqliteStorage.brackets).ladder_idle keeps w idle

theorem persistFindingCycle_idle (cycle : DetectorCycle) (deliveryId : String) (idle : w.storage.Idle) :
    (final (Rieko.persistFindingCycle env cycle deliveryId) w).storage.Idle := by
  refine transacted_idle ?_ idle
  refine (sqlite_writesKeep.persistDetectorCycle env cycle).bind fun _ => now_preserves.bind fun now => ?_
  exact lift_preserves (markWebhookEventProcessed_keeps deliveryId now)

theorem persistOperationalDetectorCycle_idle (cycle : DetectorCycle) (idle : w.storage.Idle) :
    (final (Rieko.persistOperationalDetectorCycle env cycle) w).storage.Idle :=
  transacted_idle (sqlite_writesKeep.persistOperationalCycleInside env cycle) idle

theorem enqueueWebhookEvent_idle {s : SqliteStorage} (deliveryId : String) (webhookId eventType : Option String)
    (event : NodeEvent) (acceptedAt : DateTime) (idle : s.Idle) :
    (final (SqliteStorage.enqueueWebhookEvent deliveryId webhookId eventType event acceptedAt) s).Idle :=
  SqliteStorage.brackets.ladder_idle
    ((sql_statement_keeps Begun.stable _ _).bind fun _ => sql_statement_keeps Begun.stable _ _) s idle

theorem lift_runs {ε α : Type} {failure : ε → CycleError} {program : EStateM ε SqliteStorage α}
    {property : SqliteStorage → Prop} {k : Nat} (runs : Runs conn property k program) :
    Runs (fun w : World SqliteStorage => w.storage.conn) (fun w => property w.storage) k (lift failure program) := by
  intro w held
  have ran := runs w.storage held
  unfold lift
  cases result : program w.storage <;> rw [result] at ran <;> exact ran

theorem updateOperationalState_runs (f : OperationalState → OperationalState) :
    Runs conn Begun 2 (SqliteStorage.updateOperationalState f) := by
  intro s begun
  rw [updateOperationalState_begun f begun]
  exact rewriteOperationalState_runs Begun.stable f s begun

theorem persistGreenfieldSnapshotInside_runs (env : CycleEnv) (snapshot : NodeSnapshot) :
    Runs (fun w : World SqliteStorage => w.storage.conn) (fun w => w.storage.Begun)
      (snapshot.channels.length + 2) (persistGreenfieldSnapshotInside env snapshot) := by
  have saves : Runs (fun w : World SqliteStorage => w.storage.conn) (fun w => w.storage.Begun)
      snapshot.channels.length (snapshot.channels.forM fun channel => storage (Storage.saveChannelSnapshot
        { channel with stateDigest := some (channelSnapshotStateDigest env.ext channel) })) :=
    Runs.forM fun channel _ => lift_runs (sql_statement_runs Begun.stable _ fun _ => ⟨_, rfl⟩)
  have clock : Runs (fun w : World SqliteStorage => w.storage.conn) (fun w => w.storage.Begun) 0
      (CycleM.now env) :=
    fun _ begun => ⟨begun, rfl, rfl, fun _ below => absurd below (Nat.not_lt_zero _)⟩
  refine saves.bind fun _ => ?_
  show Runs _ _ (0 + 2) _
  exact clock.bind fun completedAt => lift_runs (updateOperationalState_runs _)

/-- An operation leaves its transaction open under a condition, and the storage idle otherwise. -/
def Leaves (stranded : Prop) (s : SqliteStorage) : Prop :=
  stranded ∧ s.conn.inTransaction = true ∨ ¬stranded ∧ s.Idle

theorem persistGreenfieldSnapshot_leaves (snapshot : NodeSnapshot) (idle : w.storage.Idle) :
    Leaves (w.storage.conn.FailsFirstAt (snapshot.channels.length + 3))
      (final (Rieko.persistGreenfieldSnapshot env snapshot) w).storage := by
  have opened := begin_idle idle
  unfold Rieko.persistGreenfieldSnapshot
  rw [final_bind]
  cases first : beginTransaction w.storage with
  | error e s =>
    rw [first] at opened
    obtain ⟨same, failed⟩ := opened
    have ran : storage (Storage.beginTransaction (σ := SqliteStorage)) w =
      .error ⟨[], .storage e⟩ { w with storage := s } :=
      lift_error.mpr ⟨e, s, first, rfl, rfl⟩
    rw [ran]
    refine .inr ⟨fun strands => ?_, by rw [same]; exact idle⟩
    have quiet := strands.1 0 (by omega)
    rw [Nat.add_zero] at quiet
    simp [quiet] at failed
  | ok u s =>
    rw [first] at opened
    obtain ⟨same, quiet⟩ := opened
    have begun : s.Begun := by rw [same]; exact ⟨rfl, rfl⟩
    have executed : s.conn.executed = w.storage.conn.executed + 1 := by rw [same]; rfl
    have fails : s.conn.fails = w.storage.conn.fails := by rw [same]; rfl
    have ran : storage (Storage.beginTransaction (σ := SqliteStorage)) w = .ok u { w with storage := s } :=
      lift_ok.mpr ⟨s, first, rfl⟩
    rw [ran]
    dsimp only
    rw [final_bind]
    have body := persistGreenfieldSnapshotInside_runs env snapshot { w with storage := s } begun
    dsimp only at body
    rw [fails, executed] at body
    cases inside : persistGreenfieldSnapshotInside (σ := SqliteStorage) env snapshot { w with storage := s } with
    | error e m =>
      rw [inside] at body
      obtain ⟨kept, i, below, failed⟩ := body
      rw [attempt_of_error inside]
      dsimp only
      rw [final_bind_of_stays fun _ _ => rfl]
      have undone := (world_brackets id id SqliteStorage.brackets).undoes m kept
      refine .inr ⟨fun strands => ?_, ?_⟩
      · have calm := strands.1 (1 + i) (by omega)
        rw [← Nat.add_assoc] at calm
        simp [calm] at failed
      · unfold final at undone ⊢
        rw [discard_attempt]
        exact undone
    | ok u m =>
      rw [inside] at body
      obtain ⟨kept, executed', fails', calm⟩ := body
      rw [attempt_of_ok inside]
      dsimp only
      have closes := commit_begun kept
      rw [executed', fails'] at closes
      have last : w.storage.conn.executed + 1 + (snapshot.channels.length + 2) =
          w.storage.conn.executed + (snapshot.channels.length + 3) := by omega
      rw [last] at closes
      cases closed : commitTransaction m.storage with
      | ok u s' =>
        rw [closed] at closes
        have committed : storage (Storage.commitTransaction (σ := SqliteStorage)) m = .ok u { m with storage := s' } :=
          lift_ok.mpr ⟨s', closed, rfl⟩
        rw [final, committed]
        refine .inr ⟨fun strands => ?_, by rw [closes.1]; exact ⟨rfl, rfl⟩⟩
        have failed := strands.2
        simp [closes.2] at failed
      | error e s' =>
        rw [closed] at closes
        have failed : storage (Storage.commitTransaction (σ := SqliteStorage)) m =
            .error ⟨[], .storage e⟩ { m with storage := s' } :=
          lift_error.mpr ⟨e, s', closed, rfl, rfl⟩
        rw [final, failed]
        refine .inl ⟨⟨fun i below => ?_, closes.2⟩, by rw [closes.1]; exact kept.1⟩
        rcases Nat.eq_zero_or_pos i with rfl | later
        · exact quiet
        · have earlier := calm (i - 1) (by omega)
          rwa [show w.storage.conn.executed + 1 + (i - 1) = w.storage.conn.executed + i by omega] at earlier

theorem updateOperationalState_leaves {s : SqliteStorage} (f : OperationalState → OperationalState)
    (idle : s.Idle) : Leaves (s.conn.FailsFirstAt 3) (final (SqliteStorage.updateOperationalState f) s) := by
  have outcome := updateOperationalState_idle f idle
  unfold final
  cases result : SqliteStorage.updateOperationalState f s with
  | ok u m =>
    rw [result] at outcome
    exact .inr ⟨outcome.2, outcome.1⟩
  | error e m =>
    rw [result] at outcome
    rcases outcome with ⟨strands, open'⟩ | ⟨calm, closed⟩
    · exact .inl ⟨strands, open'.1⟩
    · exact .inr ⟨calm, closed⟩

theorem persistCycle_leaves (llm : Option LlmClient) (node : String) (snapshots : List ChannelSnapshot)
    (scopes : List FindingCycleScope) (findings : List Finding) (idle : w.storage.Idle) :
    Leaves (llm.isSome = true ∧ findings ≠ [] ∧ w.storage.conn.FailsFirstAt 3)
      (final (Rieko.persistCycle env llm node snapshots scopes findings) w).storage := by
  have cycle (findings : List Finding) (w : World SqliteStorage) (idle : w.storage.Idle) :
      (final (transacted (addContext "beginning persistence transaction")
        (addContext "committing persistence transaction")
        (persistCycleInside env snapshots scopes findings)) w).storage.Idle :=
    transacted_idle (sqlite_writesKeep.persistCycleInside env snapshots scopes findings) idle
  cases llm with
  | none => exact .inr ⟨fun strands => (nomatch strands.1), cycle findings w idle⟩
  | some llm =>
    cases findings with
    | nil => exact .inr ⟨fun strands => strands.2.1 rfl, cycle [] w idle⟩
    | cons finding findings =>
      let results := explained llm node 0 (finding :: findings)
      let record (state : OperationalState) := { state with llm := if results.2 then .failing else .healthy }
      have outcome := updateOperationalState_idle record idle
      unfold Rieko.persistCycle
      rw [final_bind]
      cases result : SqliteStorage.updateOperationalState record w.storage with
      | ok u s =>
        rw [result] at outcome
        have ran : explainFindings (some llm) node (finding :: findings) w = .ok results.1 { w with storage := s } :=
          bind_of_ok (lift_ok.mpr ⟨s, result, rfl⟩) _
        rw [ran]
        exact .inr ⟨fun strands => outcome.2 strands.2.2, cycle results.1 { w with storage := s } outcome.1⟩
      | error e s =>
        rw [result] at outcome
        have failed : explainFindings (some llm) node (finding :: findings) w =
            .error ⟨[], .operational e⟩ { w with storage := s } :=
          bind_of_error (lift_error.mpr ⟨e, s, result, rfl, rfl⟩) _
        rw [failed]
        rcases outcome with ⟨strands, stuck⟩ | ⟨calm, closed⟩
        · exact .inl ⟨⟨rfl, List.cons_ne_nil _ _, strands⟩, stuck.1⟩
        · exact .inr ⟨fun strands => calm strands.2.2, closed⟩

theorem createSimulation_leaves (text : RowText) (ext : SimulationExternal) (displayRead : String → String)
    (call : SimulationCall) {s : SqliteStorage} (idle : s.Idle) :
    Leaves (call.Unwinds text ext displayRead s) (final (call.runSqlite text ext displayRead) s) := by
  by_cases unwinds : call.Unwinds text ext displayRead s
  · exact .inl ⟨unwinds, (runSqlite_unwinds unwinds).1⟩
  · exact .inr ⟨unwinds, runSqlite_idle unwinds idle⟩

theorem after_leaves (text : RowText) (ext : SimulationExternal) (displayRead : String → String) (env : CycleEnv)
    (op : TransactionOp) (idle : w.storage.Idle) :
    Leaves (op.Strands text ext displayRead w.storage) (op.after text ext displayRead env w).storage := by
  cases op with
  | persistGreenfieldSnapshot snapshot => exact persistGreenfieldSnapshot_leaves snapshot idle
  | persistFindingCycle cycle deliveryId => exact .inr ⟨id, persistFindingCycle_idle cycle deliveryId idle⟩
  | persistOperationalDetectorCycle cycle => exact .inr ⟨id, persistOperationalDetectorCycle_idle cycle idle⟩
  | persistCycle llm node snapshots scopes findings => exact persistCycle_leaves llm node snapshots scopes findings idle
  | createSimulation call => exact createSimulation_leaves text ext displayRead call idle
  | updateOperationalState f => exact updateOperationalState_leaves f idle
  | enqueueWebhookEvent deliveryId webhookId eventType event acceptedAt =>
    exact .inr ⟨id, enqueueWebhookEvent_idle deliveryId webhookId eventType event acceptedAt idle⟩

end TransactionOp

def SqliteStorage.Usable (s : SqliteStorage) : Prop :=
  s.conn.inTransaction = false ∧
    (StatefulResult.succeeds beginTransaction s = true ↔ s.conn.fails s.conn.executed = none)

theorem SqliteStorage.Idle.usable {s : SqliteStorage} (idle : s.Idle) : s.Usable := by
  refine ⟨idle.1, ?_⟩
  have opened := begin_idle idle
  unfold StatefulResult.succeeds
  cases result : beginTransaction s with
  | ok u s' =>
    rw [result] at opened
    simp [opened.2]
  | error e s' =>
    rw [result] at opened
    obtain ⟨message, failed⟩ := Option.isSome_iff_exists.mp opened.2
    simp [failed]

/-- Over any run of operations, from a connection without an open transaction and under any pattern of
    failing statements, each operation leaves the connection usable exactly when none strands its
    transaction. -/
theorem operations_leave_usable_iff (text : RowText) (ext : SimulationExternal) (displayRead : String → String)
    (env : CycleEnv) (w : World SqliteStorage) (idle : w.storage.Idle) (ops : List TransactionOp) :
    EachStep (TransactionOp.after text ext displayRead env)
        (fun w (op : TransactionOp) => (op.after text ext displayRead env w).storage.Usable) w ops ↔
      EachStep (TransactionOp.after text ext displayRead env)
        (fun w (op : TransactionOp) => ¬op.Strands text ext displayRead w.storage) w ops := by
  have agree (w : World SqliteStorage) (op : TransactionOp) (idle : w.storage.Idle) :
      (op.after text ext displayRead env w).storage.Usable ↔ ¬op.Strands text ext displayRead w.storage := by
    rcases op.after_leaves text ext displayRead env idle with ⟨strands, stuck⟩ | ⟨calm, closed⟩
    · constructor
      · intro usable
        rw [usable.1] at stuck
        cases stuck
      · exact fun calm => absurd strands calm
    · exact ⟨fun _ => calm, fun _ => closed.usable⟩
  have step (w : World SqliteStorage) (op : TransactionOp) (idle : w.storage.Idle)
      (calm : ¬op.Strands text ext displayRead w.storage) : (op.after text ext displayRead env w).storage.Idle := by
    rcases op.after_leaves text ext displayRead env idle with ⟨strands, -⟩ | ⟨-, closed⟩
    · exact absurd strands calm
    · exact closed
  exact eachStep_iff agree step idle

/-- The snapshot is not written; the simulation and the delivery after it find the connection usable. -/
theorem operations_leave_usable_snapshot :
    let env : CycleEnv := ⟨⟨fun _ => "digest", fun _ => "null", fun _ => "instant", fun _ => "instant"⟩,
      fun tick => tick, fun _ => "uuid"⟩
    let ext := Rebalance.service "full" "drained"
    let fails (n : Nat) : Option String := if n = 2 then some "disk I/O error" else none
    let w : World SqliteStorage := ⟨⟨{ tables := {}, fails }, false⟩, 0, 0⟩
    let ops : List TransactionOp := [.persistGreenfieldSnapshot ⟨[], 7⟩,
      .createSimulation (Rebalance.call "full" "drained" Rebalance.late "first"),
      .enqueueWebhookEvent "delivery" none none (.invoiceExpired ⟨"i", none, none, 0⟩) 8]
    EachStep (TransactionOp.after .bare ext id env)
      (fun w (op : TransactionOp) => (op.after .bare ext id env w).storage.Usable) w ops := by
  intro env ext fails w ops
  have calm : ¬TransactionOp.Strands .bare ext id w.storage (.persistGreenfieldSnapshot ⟨[], 7⟩) := by
    intro strands
    have quiet : fails 2 = none := strands.1 2 (by decide)
    cases quiet
  have sliceable : (Rebalance.call "full" "drained" Rebalance.late "first").command.Sliceable :=
    ⟨(Text.leadingBytes_isSome _ _).mp (by decide), (Text.leadingBytes_isSome _ _).mp (by decide)⟩
  exact (operations_leave_usable_iff .bare ext id env w ⟨rfl, rfl⟩ ops).mpr
    ⟨calm, fun unwinds => unwinds.1 sliceable, not_false, trivial⟩

/-- The commit of a polled snapshot fails once: its transaction stays open, and the delivery that comes next
    cannot begin its own. -/
theorem snapshot_commit_strands_transaction :
    let env : CycleEnv := ⟨⟨fun _ => "digest", fun _ => "null", fun _ => "instant", fun _ => "instant"⟩,
      fun tick => tick, fun _ => "uuid"⟩
    let ext := Rebalance.service "full" "drained"
    let fails (n : Nat) : Option String := if n = 3 then some "disk I/O error" else none
    let w : World SqliteStorage := ⟨⟨{ tables := {}, fails }, false⟩, 0, 0⟩
    let s := ((TransactionOp.persistGreenfieldSnapshot ⟨[], 7⟩).after .bare ext id env w).storage
    w.storage.Idle ∧ s.conn.inTransaction = true ∧
      (value (enqueueWebhookEvent "delivery" none none (.invoiceExpired ⟨"i", none, none, 0⟩) 8) s).toBool = false := by
  intro env ext fails w s
  exact ⟨⟨rfl, rfl⟩, by decide, by decide⟩

end Rieko
