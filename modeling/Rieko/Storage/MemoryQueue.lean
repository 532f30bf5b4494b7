import Rieko.Storage.MemoryRecords
import Rieko.Storage.WebhookQueue

namespace Rieko

open StatefulResult

namespace MemoryStorageState

/-- The maps grow at the front. -/
def webhookQueue (s : MemoryStorageState) : WebhookQueue where
  ledger := s.webhookDeliveries.keys.reverse
  events := (s.webhookEvents.entries.map (·.2)).reverse

def Filed (s : MemoryStorageState) : Prop := ∀ entry ∈ s.webhookEvents.entries, entry.2.deliveryId = entry.1

theorem Filed.ids {s : MemoryStorageState} (filed : s.Filed) : s.webhookQueue.ids = s.webhookEvents.keys.reverse := by
  unfold webhookQueue WebhookQueue.ids AList.keys List.keys
  rw [List.map_reverse, List.map_map]
  exact congrArg List.reverse (List.map_congr_left fun entry stored => filed entry stored)

end MemoryStorageState

/-- A store in memory ends with its process. What stops over it and starts again is the agent alone. -/
instance : Durable MemoryStorage where
  dying _ s := s
  reopened _ left := left

theorem map_kreplace {f : WebhookEventRecord → WebhookEventRecord} {deliveryId : String}
    {record : WebhookEventRecord} {entries : List (Sigma fun _ : String => WebhookEventRecord)}
    (distinct : entries.NodupKeys) (filed : ∀ entry ∈ entries, entry.2.deliveryId = entry.1)
    (found : entries.dlookup deliveryId = some record) :
    (entries.kreplace deliveryId (f record)).map (·.2) =
      entries.map fun entry => if entry.2.deliveryId = deliveryId then f entry.2 else entry.2 := by
  induction entries with
  | nil => simp at found
  | cons entry entries ih =>
    obtain ⟨key, value⟩ := entry
    rw [List.nodupKeys_cons] at distinct
    have named : value.deliveryId = key := filed ⟨key, value⟩ (List.mem_cons_self ..)
    unfold List.kreplace at *
    by_cases same : deliveryId = key
    · subst same
      rw [List.dlookup_cons_eq] at found
      cases found
      simp only [List.lookmap_cons, if_true]
      rw [List.map_cons, List.map_cons, if_pos named]
      refine congrArg _ (List.map_congr_left fun other stored => ?_)
      have differs : other.2.deliveryId ≠ deliveryId := by
        rw [filed other (List.mem_cons_of_mem _ stored)]
        intro also
        have member := List.mem_keys_of_mem stored
        rw [also] at member
        exact distinct.1 member
      rw [if_neg differs]
    · rw [List.dlookup_cons_ne _ _ same] at found
      have later := ih distinct.2 (fun other stored => filed other (List.mem_cons_of_mem _ stored)) found
      have differs : value.deliveryId ≠ deliveryId := fun also => same (also.symm.trans named)
      simp only [List.lookmap_cons, if_neg same]
      rw [List.map_cons, List.map_cons, later, if_neg differs]

namespace MemoryStorage

variable {s s' : MemoryStorage}

def webhookQueue (s : MemoryStorage) : WebhookQueue := s.snapshot.webhookQueue

def Idle (s : MemoryStorage) : Prop := s.transactionSnapshot = none ∧ s.snapshot.Filed

def BegunWith (saved : WebhookQueue) (s : MemoryStorage) : Prop :=
  (∃ before, s.transactionSnapshot = some before ∧ before.Filed ∧ before.webhookQueue = saved) ∧ s.snapshot.Filed

theorem memory_atomic :
    AtomicBrackets webhookQueue Idle BegunWith beginTransaction commitTransaction rollbackTransaction where
  opens s idle := by
    refine .intro (fun u s' ran => ?_) fun e s' failed => ?_
    · obtain ⟨-, rfl⟩ := beginTransaction_ok.mp ran
      exact ⟨⟨⟨s.snapshot, rfl, idle.2, rfl⟩, idle.2⟩, rfl⟩
    · unfold beginTransaction at failed
      rw [idle.1] at failed
      cases failed
  closes saved s begun := by
    refine .intro (fun u s' ran => ?_) fun e s' failed => ?_
    · obtain ⟨-, rfl⟩ := commitTransaction_ok.mp ran
      exact ⟨⟨rfl, begun.2⟩, rfl⟩
    · obtain ⟨before, kept, -⟩ := begun.1
      unfold commitTransaction at failed
      rw [kept] at failed
      cases failed
  undoes saved s begun := by
    obtain ⟨⟨before, kept, filed, rfl⟩, -⟩ := begun
    unfold final rollbackTransaction
    rw [kept]
    exact ⟨⟨rfl, filed⟩, rfl⟩

theorem enqueueWebhookEvent_accepts (deliveryId : String) (webhookId eventType : Option String)
    (event : NodeEvent) (acceptedAt : DateTime) (idle : s.Idle) :
    Ends (fun _ s' => s'.Idle ∧ s'.webhookQueue = s.webhookQueue.accept ⟨deliveryId, event, acceptedAt, none⟩)
      (fun s' => s'.Idle ∧ s'.webhookQueue = s.webhookQueue)
      (enqueueWebhookEvent deliveryId webhookId eventType event acceptedAt) s := by
  have known : deliveryId ∈ s.webhookQueue.ledger ↔ deliveryId ∈ s.webhookDeliveries := List.mem_reverse
  have queued : deliveryId ∈ s.webhookQueue.ids ↔ deliveryId ∈ s.webhookEvents := by
    unfold webhookQueue
    rw [idle.2.ids]
    exact List.mem_reverse
  refine ⟨⟨idle.1, fun entry stored => ?_⟩, ?_⟩
  · change entry ∈ (if deliveryId ∈ s.webhookEvents then s.webhookEvents
      else s.webhookEvents.insert deliveryId ⟨deliveryId, event, acceptedAt, none⟩).entries at stored
    split at stored
    · exact idle.2 entry stored
    next new =>
      rw [AList.entries_insert_of_notMem new] at stored
      rcases List.mem_cons.mp stored with rfl | earlier
      · rfl
      · exact idle.2 entry earlier
  · unfold WebhookQueue.accept
    simp only [known, queued]
    unfold webhookQueue MemoryStorageState.webhookQueue MemoryStorage.snapshot
    dsimp only
    congr 1
    · split
      · rfl
      next new => rw [AList.keys_insert, List.erase_of_not_mem new, List.reverse_cons]
    · split
      · rfl
      next new => rw [AList.entries_insert_of_notMem new, List.map_cons, List.reverse_cons]

theorem markWebhookEventProcessed_settles {deliveryId : String} {processedAt : DateTime} {u : Unit}
    (filed : s.snapshot.Filed) (marked : markWebhookEventProcessed deliveryId processedAt s = .ok u s') :
    s'.webhookQueue = s.webhookQueue.settle deliveryId processedAt ∧
      ∃ record ∈ s.webhookQueue.events, record.deliveryId = deliveryId := by
  unfold markWebhookEventProcessed at marked
  cases found : s.webhookEvents.lookup deliveryId with
  | none =>
    rw [found] at marked
    cases marked
  | some record =>
    rw [found] at marked
    cases marked
    have stored : ⟨deliveryId, record⟩ ∈ s.webhookEvents.entries := AList.mem_lookup_iff.mp found
    refine ⟨?_, record, List.mem_reverse.mpr (List.mem_map_of_mem stored), filed _ stored⟩
    unfold webhookQueue MemoryStorageState.webhookQueue WebhookQueue.settle Rows.updateWhere
    have replaced := map_kreplace (f := fun record => { record with processedAt := some processedAt })
      s.webhookEvents.nodupKeys filed found
    congr 1
    simp only [decide_eq_true_eq, List.map_reverse, List.map_map]
    exact congrArg List.reverse replaced

theorem filed_markWebhookEventProcessed (filed : s.snapshot.Filed) (deliveryId : String) (processedAt : DateTime) :
    (final (markWebhookEventProcessed deliveryId processedAt) s).snapshot.Filed := by
  unfold final markWebhookEventProcessed
  cases found : s.webhookEvents.lookup deliveryId with
  | none => exact filed
  | some record =>
    refine List.map_inj_left.mp ?_
    have replaced := map_kreplace (f := fun record => { record with processedAt := some processedAt })
      s.webhookEvents.nodupKeys filed found
    have keys := AList.keys_replace deliveryId { record with processedAt := some processedAt } s.webhookEvents
    have values := congrArg (List.map WebhookEventRecord.deliveryId) replaced
    rw [List.map_map, List.map_map] at values
    refine values.trans (Eq.trans ?_ keys.symm)
    refine List.map_congr_left fun entry stored => Eq.trans ?_ (filed entry stored)
    dsimp only [Function.comp]
    split <;> rfl

theorem memory_lawful : LawfulQueue webhookQueue Idle BegunWith fun _ => True where
  brackets := memory_atomic
  writes saved queue := by
    refine writesKeep_of_stable fun s s' same held => ?_
    obtain ⟨⟨⟨before, kept, started⟩, filed⟩, seen⟩ := held
    have snapshot : s'.webhookQueue = s.webhookQueue := by
      unfold webhookQueue MemoryStorageState.webhookQueue MemoryStorage.snapshot
      rw [same.deliveries, same.events]
    refine ⟨⟨⟨before, same.transaction.trans kept, started⟩, ?_⟩, snapshot.trans seen⟩
    unfold MemoryStorageState.Filed MemoryStorage.snapshot
    rw [same.events]
    exact filed
  checks deliveryId s idle := by
    refine ⟨idle, rfl, ?_⟩
    rw [Bool.eq_iff_iff, AList.lookup_isSome, decide_eq_true_eq]
    exact List.mem_reverse.symm
  enqueues deliveryId webhookId eventType event acceptedAt s idle :=
    enqueueWebhookEvent_accepts deliveryId webhookId eventType event acceptedAt idle
  lists limit s idle := ⟨idle, rfl, _, .of_perm (List.reverse_perm _).symm, rfl⟩
  recalls limit s idle := ⟨idle, rfl, _, .of_perm (List.reverse_perm _).symm, rfl⟩
  marksKeep saved deliveryId processedAt s begun := by
    refine ⟨?_, filed_markWebhookEventProcessed begun.2 deliveryId processedAt⟩
    show ∃ before, (final (markWebhookEventProcessed deliveryId processedAt) s).transactionSnapshot = _ ∧ _
    unfold final markWebhookEventProcessed
    cases s.webhookEvents.lookup deliveryId <;> exact begun.1
  marks saved deliveryId processedAt s s' begun unique ran := by
    obtain ⟨settled, record, stored, named⟩ := markWebhookEventProcessed_settles begun.2 ran
    exact ⟨settled, record, stored, named, trivial⟩
  dies statement s idle := ⟨idle, rfl⟩
  reopens opened left idle := ⟨idle, rfl⟩

end MemoryStorage

end Rieko
