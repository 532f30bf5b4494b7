import Rieko.Storage.SqliteTransactions
import Rieko.Storage.WebhookQueue

namespace Rieko

open StatefulResult SqlConnection

def Tables.webhookQueue (tables : Tables) : WebhookQueue where
  ledger := tables.webhookDeliveries.map (·.deliveryId)
  events := tables.webhookEvents

instance : Durable SqliteStorage where
  dying statement s := { s with conn := s.conn.dying statement }
  reopened opened left := { conn := opened.conn.reopened left.conn, inTransaction := false }

namespace SqliteStorage

variable {ε α : Type} {s s' : SqliteStorage}

def webhookQueue (s : SqliteStorage) : WebhookQueue := s.conn.tables.webhookQueue

def BegunWith (saved : WebhookQueue) (s : SqliteStorage) : Prop :=
  s.Begun ∧ s.conn.saved.map Tables.webhookQueue = some saved

theorem webhookQueue_of_undisturbed (same : Undisturbed s s') : s'.webhookQueue = s.webhookQueue := by
  unfold webhookQueue Tables.webhookQueue
  rw [same.deliveries, same.events]

theorem BegunWith.stable {saved : WebhookQueue} (s s' : SqliteStorage) (same : SameTransaction s s')
    (begun : s.BegunWith saved) : s'.BegunWith saved :=
  ⟨begun.1.stable s s' same, by rw [same.1]; exact begun.2⟩

theorem sqlite_atomic :
    AtomicBrackets webhookQueue Idle BegunWith beginTransaction commitTransaction rollbackTransaction where
  opens s idle := by
    have step := begin_idle idle
    refine .intro (fun u s' ran => ?_) (fun e s' ran => ?_) <;> rw [ran] at step <;> rw [step.1]
    · exact ⟨⟨⟨rfl, rfl⟩, rfl⟩, rfl⟩
    · exact ⟨idle, rfl⟩
  closes saved s begun := by
    have step := commit_begun begun.1
    refine .intro (fun u s' ran => ?_) (fun e s' ran => ?_) <;> rw [ran] at step <;> rw [step.1]
    · exact ⟨⟨rfl, rfl⟩, rfl⟩
    · exact begun
  undoes saved s begun := by
    obtain ⟨tables, kept, ran⟩ := rollback_begun begun.1
    have before := begun.2
    rw [kept] at before
    cases before
    rw [final, ran]
    exact ⟨⟨rfl, rfl⟩, rfl⟩

theorem sql_query_idle (failure : String → ε) {read : Tables → α} {property : α → Prop} (idle : s.Idle)
    (reads : property (read s.conn.tables)) :
    Ends (fun a s' => s'.Idle ∧ s'.webhookQueue = s.webhookQueue ∧ property a)
      (fun s' => s'.Idle ∧ s'.webhookQueue = s.webhookQueue) (sql failure (query read)) s := by
  unfold Ends sql query statement
  cases s.conn.fails s.conn.executed with
  | some message => exact ⟨idle, rfl⟩
  | none => exact ⟨idle, rfl, reads⟩

theorem sql_statement_ok {failure : String → ε} {effect : Tables → Except String (Tables × α)} {a : α}
    (ran : sql failure (statement effect) s = .ok a s') : effect s.conn.tables = .ok (s'.conn.tables, a) := by
  obtain ⟨conn, executed, rfl⟩ := sql_ok.mp ran
  unfold statement at executed
  cases fails : s.conn.fails s.conn.executed with
  | some message => simp [fails] at executed
  | none =>
    cases works : effect s.conn.tables with
    | error message => simp [fails, works] at executed
    | ok after =>
      simp only [fails, works] at executed
      cases executed
      rfl

theorem sql_execute_ok {failure : String → ε} {effect : Tables → Tables} {u : Unit}
    (ran : sql failure (execute effect) s = .ok u s') : s'.conn.tables = effect s.conn.tables := by
  have worked := sql_statement_ok ran
  exact (congrArg Prod.fst (Except.ok.inj worked)).symm

theorem webhookQueue_insertNew (tables : Tables) (deliveryId : String) (webhookId eventType : Option String)
    (event : NodeEvent) (acceptedAt : DateTime) :
    ((tables.insertNewDelivery ⟨deliveryId, webhookId, eventType, acceptedAt⟩).insertNewEvent
        ⟨deliveryId, event, acceptedAt, none⟩).webhookQueue =
      tables.webhookQueue.accept ⟨deliveryId, event, acceptedAt, none⟩ := by
  unfold Tables.webhookQueue Tables.insertNewEvent Tables.insertNewDelivery WebhookQueue.accept WebhookQueue.ids
  dsimp only
  rw [Rows.upsert_keeping, Rows.upsert_keeping]
  congr 1
  split <;> simp

theorem markProcessed_settles {tables : Tables} {deliveryId : String} (processedAt : DateTime)
    (unique : Rows.Keyed WebhookEventRecord.deliveryId tables.webhookEvents)
    (changed : (tables.markProcessed deliveryId processedAt).2 ≠ 0) :
    (tables.markProcessed deliveryId processedAt).1.webhookQueue =
        tables.webhookQueue.settle deliveryId processedAt ∧
      ∃ record ∈ tables.webhookEvents, record.deliveryId = deliveryId ∧ record.processedAt = none := by
  unfold Tables.markProcessed at *
  dsimp only at *
  obtain ⟨record, stored, pending⟩ := List.countP_pos_iff.mp (Nat.pos_of_ne_zero changed)
  simp only [Bool.and_eq_true, decide_eq_true_eq, Option.isNone_iff_eq_none] at pending
  refine ⟨?_, record, stored, pending⟩
  unfold Tables.webhookQueue WebhookQueue.settle Rows.updateWhere
  congr 1
  refine List.map_congr_left fun other also => ?_
  by_cases named : other.deliveryId = deliveryId
  · have same : other = record := by
      have found := Rows.lookup_of_mem unique stored
      rw [pending.1, ← named, Rows.lookup_of_mem unique also] at found
      exact Option.some.inj found
    simp [same, pending]
  · simp [named]

theorem enqueueWebhookEvent_accepts (deliveryId : String) (webhookId eventType : Option String)
    (event : NodeEvent) (acceptedAt : DateTime) (idle : s.Idle) :
    Ends (fun _ s' => s'.Idle ∧ s'.webhookQueue = s.webhookQueue.accept ⟨deliveryId, event, acceptedAt, none⟩)
      (fun s' => s'.Idle ∧ s'.webhookQueue = s.webhookQueue)
      (enqueueWebhookEvent deliveryId webhookId eventType event acceptedAt) s := by
  have keeps (saved : WebhookQueue) :
      Preserves (BegunWith saved) (insertWebhookEvent deliveryId webhookId eventType event acceptedAt) :=
    (sql_statement_keeps BegunWith.stable _ _).bind fun _ => sql_statement_keeps BegunWith.stable _ _
  refine (sqlite_atomic.ladder keeps idle).mono (fun u s' ended => ?_) fun _ undone => undone
  obtain ⟨closed, m, m', -, before, inserted, after⟩ := ended
  obtain ⟨_, m₁, recorded, enqueued⟩ := bind_ok.mp inserted
  refine ⟨closed, ?_⟩
  rw [after, ← before]
  unfold webhookQueue
  rw [sql_execute_ok enqueued, sql_execute_ok recorded, webhookQueue_insertNew]

theorem sqlite_lawful :
    LawfulQueue webhookQueue Idle BegunWith fun record => record.processedAt = none where
  brackets := sqlite_atomic
  writes saved queue := writesKeep
    (fun s s' same held =>
      ⟨held.1.stable s s' same.transaction, (webhookQueue_of_undisturbed same).trans held.2⟩)
    fun _ held => held.1.1
  checks deliveryId s idle := by
    refine sql_query_idle _ idle ?_
    rw [Bool.eq_iff_iff]
    simp [webhookQueue, Tables.webhookQueue]
  enqueues deliveryId webhookId eventType event acceptedAt s idle :=
    enqueueWebhookEvent_accepts deliveryId webhookId eventType event acceptedAt idle
  lists limit s idle := sql_query_idle _ idle ⟨_, .of_perm (.refl _), rfl⟩
  recalls limit s idle := sql_query_idle _ idle ⟨_, .of_perm (.refl _), rfl⟩
  marksKeep saved deliveryId processedAt := by
    show Preserves (BegunWith saved) (markWebhookEventProcessed deliveryId processedAt)
    unfold markWebhookEventProcessed
    refine (sql_statement_keeps BegunWith.stable _ _).bind fun changed => ?_
    split
    · exact .throw _
    · exact .pure _
  marks saved deliveryId processedAt s s' begun unique ran := by
    change markWebhookEventProcessed deliveryId processedAt s = _ at ran
    unfold markWebhookEventProcessed at ran
    obtain ⟨changed, m, marked, checked⟩ := bind_ok.mp ran
    split at checked
    · cases checked
    next enough =>
      cases checked
      have effect := Except.ok.inj (sql_statement_ok marked)
      have settled := @markProcessed_settles s.conn.tables deliveryId processedAt unique
      rw [effect] at settled
      exact settled enough
  dies statement s idle := ⟨idle, rfl⟩
  reopens opened left idle := by
    refine ⟨⟨rfl, rfl⟩, ?_⟩
    show ((left.conn.saved.getD left.conn.tables).webhookQueue) = _
    rw [idle.saved]
    rfl

end SqliteStorage

end Rieko
