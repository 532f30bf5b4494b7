import Rieko.Lib.Ladder
import Rieko.Lib.Rows
import Rieko.Storage.Types
import Mathlib.Data.List.Sort

namespace Rieko

open StatefulResult

/-- What the webhook operations of a storage work on: the ids of the delivery ledger and the queued events. -/
structure WebhookQueue where
  ledger : List String := []
  events : List WebhookEventRecord := []

namespace WebhookQueue

def ids (queue : WebhookQueue) : List String := queue.events.map (·.deliveryId)

def accept (record : WebhookEventRecord) (queue : WebhookQueue) : WebhookQueue where
  ledger := if record.deliveryId ∈ queue.ledger then queue.ledger else queue.ledger ++ [record.deliveryId]
  events := if record.deliveryId ∈ queue.ids then queue.events else queue.events ++ [record]

def settle (deliveryId : String) (processedAt : DateTime) (queue : WebhookQueue) : WebhookQueue :=
  { queue with
    events := Rows.updateWhere (·.deliveryId = deliveryId)
      (fun record => { record with processedAt := some processedAt }) queue.events }

def find (queue : WebhookQueue) (deliveryId : String) : Option WebhookEventRecord :=
  Rows.lookup (·.deliveryId) queue.events deliveryId

def processedAt (queue : WebhookQueue) (deliveryId : String) : Option DateTime :=
  (queue.find deliveryId).bind (·.processedAt)

structure Consistent (queue : WebhookQueue) : Prop where
  keyed : Rows.Keyed WebhookEventRecord.deliveryId queue.events
  recorded : ∀ deliveryId, deliveryId ∈ queue.ledger ↔ deliveryId ∈ queue.ids

structure Listing (queue : WebhookQueue) (condition : WebhookEventRecord → Bool)
    (records : List WebhookEventRecord) : Prop where
  perm : records.Perm (queue.events.filter condition)
  sorted : records.Pairwise WebhookEventRecord.acceptedBefore

instance : IsTrans WebhookEventRecord WebhookEventRecord.acceptedBefore where
  trans a b c first second := by
    unfold WebhookEventRecord.acceptedBefore at *
    rcases first with earlier | ⟨same, below⟩
    · rcases second with later | ⟨also, -⟩
      · exact .inl (lt_trans earlier later)
      · exact .inl (also ▸ earlier)
    · rcases second with later | ⟨also, above⟩
      · exact .inl (same ▸ later)
      · exact .inr ⟨same.trans also, le_trans below above⟩

instance : Std.Total WebhookEventRecord.acceptedBefore where
  total a b := by
    unfold WebhookEventRecord.acceptedBefore
    rcases lt_trichotomy a.acceptedAt b.acceptedAt with earlier | same | later
    · exact .inl (.inl earlier)
    · rcases le_total a.deliveryId b.deliveryId with below | above
      · exact .inl (.inr ⟨same, below⟩)
      · exact .inr (.inr ⟨same.symm, above⟩)
    · exact .inr (.inl later)

variable {queue : WebhookQueue} {record : WebhookEventRecord} {deliveryId : String} {processedAt : DateTime}

theorem Listing.of_perm {condition : WebhookEventRecord → Bool} {rows : List WebhookEventRecord}
    (same : rows.Perm queue.events) :
    queue.Listing condition ((rows.filter condition).insertionSort WebhookEventRecord.acceptedBefore) where
  perm := (List.perm_insertionSort _ _).trans (same.filter condition)
  sorted := List.pairwise_insertionSort _ _

theorem Listing.unique {condition : WebhookEventRecord → Bool} {records records' : List WebhookEventRecord}
    (keyed : Rows.Keyed WebhookEventRecord.deliveryId queue.events) (first : queue.Listing condition records)
    (second : queue.Listing condition records') : records = records' := by
  refine List.Perm.eq_of_pairwise (fun a b left right before after => ?_) first.sorted second.sorted
    (first.perm.trans second.perm.symm)
  have stored : a ∈ queue.events := List.mem_of_mem_filter (first.perm.mem_iff.mp left)
  refine List.inj_on_of_nodup_map keyed stored (List.mem_of_mem_filter (second.perm.mem_iff.mp right)) ?_
  unfold WebhookEventRecord.acceptedBefore at before after
  rcases before with earlier | ⟨same, below⟩
  · rcases after with later | ⟨same, -⟩
    · exact absurd (lt_trans earlier later) (lt_irrefl _)
    · exact absurd earlier (same ▸ lt_irrefl _)
  · rcases after with later | ⟨-, above⟩
    · exact absurd later (same ▸ lt_irrefl _)
    · exact le_antisymm below above

theorem ids_settle : (queue.settle deliveryId processedAt).ids = queue.ids := by
  unfold ids settle Rows.updateWhere
  rw [List.map_map]
  refine List.map_congr_left fun record _ => ?_
  dsimp only [Function.comp]
  split <;> rfl

theorem mem_ledger_accept {other : String} :
    other ∈ (queue.accept record).ledger ↔ other = record.deliveryId ∨ other ∈ queue.ledger := by
  unfold accept
  dsimp only
  split
  next known =>
    refine ⟨.inr, ?_⟩
    rintro (rfl | held)
    · exact known
    · exact held
  · rw [List.mem_append, List.mem_singleton, or_comm]

theorem mem_ids_accept {other : String} :
    other ∈ (queue.accept record).ids ↔ other = record.deliveryId ∨ other ∈ queue.ids := by
  unfold accept ids
  dsimp only
  split
  next known =>
    refine ⟨.inr, ?_⟩
    rintro (rfl | held)
    · exact known
    · exact held
  · rw [List.map_append, List.mem_append, List.map_singleton, List.mem_singleton, or_comm]

theorem find_isSome {id : String} : (queue.find id).isSome = true ↔ id ∈ queue.ids := by
  unfold find ids Rows.lookup
  rw [List.find?_isSome, List.mem_map]
  simp

theorem find_accept {id : String} :
    (queue.accept record).find id = (queue.find id).or (if record.deliveryId = id then some record else none) := by
  unfold accept find
  dsimp only
  split
  next known =>
    by_cases same : record.deliveryId = id
    · obtain ⟨stored, found⟩ := Option.isSome_iff_exists.mp (find_isSome.mpr (same ▸ known))
      unfold find at found
      rw [found]
      rfl
    · rw [if_neg same, Option.or_none]
  · exact Rows.lookup_append

theorem find_settle {id : String} : (queue.settle deliveryId processedAt).find id =
    (queue.find id).map fun record =>
      if record.deliveryId = deliveryId then { record with processedAt := some processedAt } else record := by
  have found : Rows.lookup WebhookEventRecord.deliveryId (Rows.updateWhere (·.deliveryId = deliveryId)
      (fun record => { record with processedAt := some processedAt }) queue.events) id = _ :=
    Rows.lookup_updateWhere fun _ => rfl
  simp only [decide_eq_true_eq] at found
  exact found

theorem processedAt_accept {id : String} (pending : record.processedAt = none) :
    (queue.accept record).processedAt id = queue.processedAt id := by
  unfold WebhookQueue.processedAt
  rw [find_accept]
  cases queue.find id with
  | some stored => rfl
  | none =>
    rw [Option.none_or]
    split
    · exact pending
    · rfl

theorem processedAt_settle_self (stored : deliveryId ∈ queue.ids) :
    (queue.settle deliveryId processedAt).processedAt deliveryId = some processedAt := by
  obtain ⟨record, found⟩ := Option.isSome_iff_exists.mp (find_isSome.mpr stored)
  have named : record.deliveryId = deliveryId := Rows.key_of_lookup found
  unfold WebhookQueue.processedAt
  rw [find_settle, found, Option.map_some, if_pos named]
  rfl

theorem processedAt_settle_of_ne {id : String} (other : id ≠ deliveryId) :
    (queue.settle deliveryId processedAt).processedAt id = queue.processedAt id := by
  unfold WebhookQueue.processedAt
  rw [find_settle]
  cases found : queue.find id with
  | none => rfl
  | some record =>
    have named : record.deliveryId = id := Rows.key_of_lookup found
    rw [Option.map_some, if_neg (named ▸ other)]

theorem Consistent.accept (consistent : queue.Consistent) (record : WebhookEventRecord) :
    (queue.accept record).Consistent where
  keyed := by
    unfold WebhookQueue.accept
    dsimp only
    split
    · exact consistent.keyed
    next new =>
      unfold Rows.Keyed
      rw [List.map_append, List.map_singleton]
      exact List.Nodup.append consistent.keyed (List.nodup_singleton _)
        (List.disjoint_singleton.mpr new)
  recorded other := by
    rw [mem_ledger_accept, mem_ids_accept, consistent.recorded]

theorem Consistent.settle (consistent : queue.Consistent) (deliveryId : String) (processedAt : DateTime) :
    (queue.settle deliveryId processedAt).Consistent where
  keyed := Rows.keyed_updateWhere (fun _ => rfl) consistent.keyed
  recorded other := by
    rw [ids_settle]
    exact consistent.recorded other

end WebhookQueue

class Durable (σ : Type) where
  /-- The storage of a process that dies at the statement with this number, counted from here: it executes
      none from there on. -/
  dying (statement : Nat) : σ → σ
  /-- What the next process opens, where the dead one had opened `opened` and left `left`. -/
  reopened (opened left : σ) : σ

/-- A storage whose webhook operations do to a view of it what they do to the queue. `markable` events are
    those that it lets be marked as processed. -/
structure LawfulQueue {σ : Type} [Storage σ] [Durable σ] (view : σ → WebhookQueue) (idle : σ → Prop)
    (begun : WebhookQueue → σ → Prop) (markable : WebhookEventRecord → Prop) : Prop where
  brackets : AtomicBrackets view idle begun (Storage.beginTransaction (σ := σ)) Storage.commitTransaction
    Storage.rollbackTransaction
  writes : ∀ saved queue, WritesKeep fun s => begun saved s ∧ view s = queue
  checks : ∀ deliveryId s, idle s → Ends
    (fun known s' => idle s' ∧ view s' = view s ∧ known = decide (deliveryId ∈ (view s).ledger))
    (fun s' => idle s' ∧ view s' = view s) (Storage.isWebhookDeliveryProcessed deliveryId) s
  enqueues : ∀ deliveryId webhookId eventType event acceptedAt s, idle s → Ends
    (fun _ s' => idle s' ∧ view s' = (view s).accept ⟨deliveryId, event, acceptedAt, none⟩)
    (fun s' => idle s' ∧ view s' = view s)
    (Storage.enqueueWebhookEvent deliveryId webhookId eventType event acceptedAt) s
  lists : ∀ limit s, idle s → Ends
    (fun records s' => idle s' ∧ view s' = view s ∧
      ∃ all, (view s).Listing (·.processedAt.isNone) all ∧ records = all.take (webhookLimit limit))
    (fun s' => idle s' ∧ view s' = view s) (Storage.pendingWebhookEvents limit) s
  recalls : ∀ limit s, idle s → Ends
    (fun records s' => idle s' ∧ view s' = view s ∧
      ∃ all, (view s).Listing (·.processedAt.isSome) all ∧
        records = all.drop (all.length - webhookLimit limit))
    (fun s' => idle s' ∧ view s' = view s) (Storage.recentProcessedWebhookEvents limit) s
  marksKeep : ∀ saved deliveryId processedAt,
    Preserves (begun saved) (Storage.markWebhookEventProcessed deliveryId processedAt)
  marks : ∀ saved deliveryId processedAt s s', begun saved s →
    Rows.Keyed WebhookEventRecord.deliveryId (view s).events →
    Storage.markWebhookEventProcessed deliveryId processedAt s = .ok () s' →
      view s' = (view s).settle deliveryId processedAt ∧
        ∃ record ∈ (view s).events, record.deliveryId = deliveryId ∧ markable record
  dies : ∀ statement s, idle s → idle (Durable.dying statement s) ∧ view (Durable.dying statement s) = view s
  reopens : ∀ opened left, idle left →
    idle (Durable.reopened opened left) ∧ view (Durable.reopened opened left) = view left

end Rieko
