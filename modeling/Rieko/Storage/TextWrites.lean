import Rieko.Lib.Transition
import Rieko.Storage.RepeatedWrites
import Rieko.Storage.TextRefinement

/-! Repeated writes of one key, in memory and over the rows of the database file. -/

namespace Rieko

open StatefulResult SqlConnection

section Operations

variable (text : RowText) (ext : SimulationExternal) (displayRead : String → String)

namespace KeyedWrite

def runText : KeyedWrite → EStateM StorageError TextStorage Unit
  | channelSnapshot snapshot => TextStorage.saveChannelSnapshot snapshot
  | recommendation rec => TextStorage.saveRecommendation text rec
  | actionStage actionId stage _ sqliteNow => TextStorage.setActionStage actionId stage sqliteNow
  | simulationV2 record => TextStorage.saveSimulationV2 text ext displayRead record
  | enqueue deliveryId webhookId eventType event acceptedAt =>
    TextStorage.enqueueWebhookEvent text deliveryId webhookId eventType event acceptedAt
  | markProcessed deliveryId processedAt => TextStorage.markWebhookEventProcessed deliveryId processedAt

/-- What a call writes, if it is written, is read back as it was written. -/
def ReadsBack : KeyedWrite → Prop
  | channelSnapshot snapshot => snapshot.ts.FourDigitYear ∧
      (snapshot.localRatio.isNaN = false → f64Value snapshot.localRatio = .real snapshot.localRatio)
  | recommendation rec => text.StorableRecommendation rec
  | actionStage _ _ _ sqliteNow => sqliteNow.FourDigitYear
  | simulationV2 record => text.StorableSimulation record
  | enqueue _ _ _ event acceptedAt => text.event.ReadsBack event ∧ acceptedAt.FourDigitYear
  | markProcessed _ processedAt => processedAt.FourDigitYear

def afterText (calls : List KeyedWrite) : TextStorage :=
  calls.foldl (fun t call => final (call.runText text ext displayRead) t) .empty

end KeyedWrite

structure SameRowAnswers (s : MemoryStorage) (t : TextStorage) : Prop where
  snapshots : ∀ network nodeId channelId observedAt,
    value (MemoryStorage.channelSnapshotAt network nodeId channelId observedAt) s =
      value (TextStorage.channelSnapshotAt text network nodeId channelId observedAt) t
  recommendations : ∀ actionId,
    (value (MemoryStorage.recommendationForAction actionId) s).map (·.map Recommendation.answer) =
      (value (TextStorage.recommendationForAction text actionId) t).map (·.map Recommendation.answer)
  simulations : ∀ simulationId, value (MemoryStorage.simulationV2ById simulationId) s =
    value (TextStorage.simulationV2ById text ext displayRead simulationId) t
  events : ∀ limit, value (MemoryStorage.pendingWebhookEvents limit) s =
    value (TextStorage.pendingWebhookEvents text limit) t

def RowsLookAlike (s : MemoryStorage) (t : TextStorage) (call : KeyedWrite) : Prop :=
  succeeds call.runMemory s = succeeds (call.runText text ext displayRead) t ∧
    SameRowAnswers text ext displayRead (final call.runMemory s) (final (call.runText text ext displayRead) t)

end Operations

section Snapshots

variable {snapshot : ChannelSnapshot}

theorem u64Value_below {n : Nat} {held : SqlValue} (bound : u64Value n = .ok held) : n < 2^63 := by
  unfold u64Value at bound
  split at bound
  · assumption
  · cases bound

theorem bindChannelSnapshot_ok : bindChannelSnapshot snapshot = .ok () ↔
    (snapshot.localBalanceMsat < 2^63 ∧ snapshot.remoteBalanceMsat < 2^63 ∧ snapshot.capacityMsat < 2^63 ∧
      snapshot.spendableOutboundMsat < 2^63 ∧ snapshot.spendableInboundMsat < 2^63) ∧
    snapshot.localRatio.isNaN = false := by
  unfold bindChannelSnapshot
  dsimp only
  split
  next large =>
    simp only [List.any_cons, List.any_nil, Bool.or_false, Bool.or_eq_true, decide_eq_true_eq] at large
    refine iff_of_false (fun same => nomatch same) ?_
    omega
  next small =>
    simp only [List.any_cons, List.any_nil, Bool.or_false, Bool.or_eq_true, decide_eq_true_eq] at small
    split
    next missing => simp [missing]
    next number =>
      refine iff_of_true rfl ⟨?_, by simpa using number⟩
      omega

theorem bound_of_replaced {stored : TextTables} {after : TextTables × Unit}
    (replaced : stored.replaceChannelSnapshot snapshot = .ok after) : bindChannelSnapshot snapshot = .ok () := by
  unfold TextTables.replaceChannelSnapshot at replaced
  obtain ⟨_, localBalance, replaced⟩ := except_bind_ok.mp replaced
  obtain ⟨_, remoteBalance, replaced⟩ := except_bind_ok.mp replaced
  obtain ⟨_, capacity, replaced⟩ := except_bind_ok.mp replaced
  obtain ⟨_, outbound, replaced⟩ := except_bind_ok.mp replaced
  obtain ⟨_, inbound, replaced⟩ := except_bind_ok.mp replaced
  refine bindChannelSnapshot_ok.mpr ⟨⟨u64Value_below localBalance, u64Value_below remoteBalance,
    u64Value_below capacity, u64Value_below outbound, u64Value_below inbound⟩, ?_⟩
  by_contra missing
  rw [Bool.not_eq_false] at missing
  have null : f64Value snapshot.localRatio = .null := by
    unfold f64Value
    rw [if_pos missing]
  dsimp only at replaced
  split at replaced
  next => cases replaced
  next filled => exact filled null

theorem refines_bindAndSaveChannelSnapshot {text : RowText} (four : snapshot.ts.FourDigitYear)
    (kept : snapshot.localRatio.isNaN = false → f64Value snapshot.localRatio = .real snapshot.localRatio) :
    TextStorage.Refines text (fun _ _ => True) (TextStorage.saveChannelSnapshot snapshot)
      (SqliteStorage.bindAndSaveChannelSnapshot snapshot) := by
  refine TextStorage.refines_sql _ _ (coupled_statement fun stored tables stands => ?_)
  cases bound : bindChannelSnapshot snapshot with
  | error e =>
    cases replaced : stored.replaceChannelSnapshot snapshot with
    | error e' => exact trivial
    | ok after =>
      rw [bound_of_replaced replaced] at bound
      cases bound
  | ok u =>
    obtain ⟨⟨localBalance, remoteBalance, capacity, outbound, inbound⟩, number⟩ := bindChannelSnapshot_ok.mp bound
    have storable : snapshot.Storable := ⟨four, kept number, localBalance, remoteBalance, capacity, outbound, inbound⟩
    obtain ⟨after, ran, held⟩ := stands.replaceChannelSnapshot storable
    rw [ran]
    exact ⟨held, trivial⟩

end Snapshots

section Runs

variable {text : RowText} {ext : SimulationExternal} {displayRead : String → String} {calls : List KeyedWrite}
  {call : KeyedWrite} {s : MemoryStorage} {rows : TextStorage} {t : SqliteStorage}

section Writes

variable (writes : text.WritesNull)

include writes

theorem KeyedWrite.runText_refines (back : call.ReadsBack text) :
    TextStorage.Refines text (fun _ _ => True) (call.runText text ext displayRead)
      (call.runSqlite ext displayRead) := by
  cases call with
  | channelSnapshot snapshot => exact refines_bindAndSaveChannelSnapshot back.1 back.2
  | recommendation rec => exact TextStorage.refines_saveRecommendation back
  | actionStage actionId stage memoryNow sqliteNow => exact TextStorage.refines_setActionStage actionId stage back
  | simulationV2 record => exact TextStorage.refines_saveSimulationV2 ext displayRead writes back
  | enqueue deliveryId webhookId eventType event acceptedAt =>
    exact TextStorage.refines_enqueueWebhookEvent deliveryId webhookId eventType back.1 back.2
  | markProcessed deliveryId processedAt => exact TextStorage.refines_markWebhookEventProcessed deliveryId back

theorem KeyedWrite.afterText_related (back : ∀ call ∈ calls, call.ReadsBack text) :
    TextStorage.Related text (afterText text ext displayRead calls) (afterSqlite ext displayRead calls) := by
  induction calls using List.reverseRecOn with
  | nil => exact TextStorage.related_empty text
  | append_singleton calls call ih =>
    unfold afterText afterSqlite
    rw [List.foldl_append, List.foldl_append]
    have before := ih fun call member => back call (List.mem_append_left _ member)
    exact (runText_refines writes (back call (by simp)) _ _ before).2

end Writes

theorem sameRowAnswers_iff (documented : text.Documented) (related : TextStorage.Related text rows t) :
    SameRowAnswers text ext displayRead s rows ↔ SameAnswers ext displayRead s t := by
  have snapshots (network : BitcoinNetwork) (nodeId channelId : String) (observedAt : DateTime) :
      value (MemoryStorage.channelSnapshotAt network nodeId channelId observedAt) s =
          value (TextStorage.channelSnapshotAt text network nodeId channelId observedAt) rows ↔
        value (MemoryStorage.channelSnapshotAt network nodeId channelId observedAt) s =
          value (SqliteStorage.channelSnapshotAt network nodeId channelId observedAt) t :=
    (TextStorage.refines_channelSnapshotAt documented network nodeId channelId observedAt).ok_eq_iff related
  have recommendations (actionId : String) :
      (value (MemoryStorage.recommendationForAction actionId) s).map (·.map Recommendation.answer) =
          (value (TextStorage.recommendationForAction text actionId) rows).map (·.map Recommendation.answer) ↔
        (value (MemoryStorage.recommendationForAction actionId) s).map (·.map Recommendation.answer) =
          (value (SqliteStorage.recommendationForAction actionId) t).map (·.map Recommendation.answer) :=
    (TextStorage.refines_recommendationForAction documented actionId).ok_eq_map_iff related
  have simulations (simulationId : String) :
      value (MemoryStorage.simulationV2ById simulationId) s =
          value (TextStorage.simulationV2ById text ext displayRead simulationId) rows ↔
        value (MemoryStorage.simulationV2ById simulationId) s =
          value (SqliteStorage.simulationV2ById ext displayRead simulationId) t :=
    (TextStorage.refines_simulationV2ById ext displayRead simulationId).ok_eq_iff related
  have events (limit : Nat) :
      value (MemoryStorage.pendingWebhookEvents limit) s = value (TextStorage.pendingWebhookEvents text limit) rows ↔
        value (MemoryStorage.pendingWebhookEvents limit) s = value (SqliteStorage.pendingWebhookEvents limit) t :=
    (TextStorage.refines_pendingWebhookEvents documented limit).ok_eq_iff related
  constructor
  · intro same
    exact {
      snapshots := fun _ _ _ _ => (snapshots _ _ _ _).mp (same.snapshots _ _ _ _)
      recommendations := fun _ => (recommendations _).mp (same.recommendations _)
      simulations := fun _ => (simulations _).mp (same.simulations _)
      events := fun _ => (events _).mp (same.events _) }
  · intro same
    exact {
      snapshots := fun _ _ _ _ => (snapshots _ _ _ _).mpr (same.snapshots _ _ _ _)
      recommendations := fun _ => (recommendations _).mpr (same.recommendations _)
      simulations := fun _ => (simulations _).mpr (same.simulations _)
      events := fun _ => (events _).mpr (same.events _) }

theorem rowsLookAlike_iff (documented : text.Documented) (writes : text.WritesNull) (back : call.ReadsBack text)
    (related : TextStorage.Related text rows t) :
    RowsLookAlike text ext displayRead s rows call ↔ LooksAlike ext displayRead s t call := by
  have refines : TextStorage.Refines text (fun _ _ => True) (call.runText text ext displayRead)
      (call.runSqlite ext displayRead) := KeyedWrite.runText_refines writes back
  unfold RowsLookAlike LooksAlike
  rw [refines.succeeds_eq related, sameRowAnswers_iff documented (refines rows t related).2]

/-- In a run whose writes are read back as they were written, the backends succeed and fail in the same steps and
    answer alike after each, exactly if each call agrees with what the run has stored under its key. -/
theorem keyed_writes_alike_iff (documented : text.Documented) (writes : text.WritesNull)
    (compared : ∀ call ∈ calls, call.Compared ext displayRead) (back : ∀ call ∈ calls, call.ReadsBack text) :
    (∀ past call future, calls = past ++ call :: future →
      RowsLookAlike text ext displayRead (KeyedWrite.afterMemory past) (KeyedWrite.afterText text ext displayRead past)
        call) ↔
      ∀ past call future, calls = past ++ call :: future → call.Agrees (KeyedWrite.afterMemory past) := by
  refine Iff.trans ?_ (looksAlike_runs_iff compared)
  refine forall_congr' fun past => forall_congr' fun call => forall_congr' fun future => forall_congr' fun split => ?_
  refine rowsLookAlike_iff documented writes (back call (by simp [split])) (KeyedWrite.afterText_related writes ?_)
  exact fun call member => back call (split ▸ List.mem_append_left _ member)

end Runs

open KeyedWrite

def SimulationExternal.bare : SimulationExternal where
  sha256 _ := ""
  jsonText _ := "null"
  rfc3339 _ := ""
  jsonInstant _ := ""
  codec := {
    input := fun _ => .null, result := fun _ => .null, assumptions := fun _ => .null, warnings := fun _ => .null
    decodeInput := fun _ => .error "not decoded", decodeResult := fun _ => .error "not decoded" }
  displayInstant _ := ""
  debugText text := text
  parseRfc3339 _ := .error "premature end of input"

theorem prunedChannel_readsBack (amount : Nat) :
    (KeyedWrite.channelSnapshot { prunedChannel with capacityMsat := amount }).ReadsBack .bare :=
  ⟨show DateTime.FourDigitYear 0 by decide, fun _ => show f64Value ⟨0x3FE0000000000000⟩ =
    .real ⟨0x3FE0000000000000⟩ by decide⟩

/-- A snapshot saved twice, and between a recommendation that is saved again and approved. -/
theorem repeated_snapshot_alike :
    let advice (updatedAt : DateTime) : Recommendation :=
      ⟨"f", ⟨"a", .rebalanceChannel, .recommended, some "channel", .null, "summary", 0, updatedAt⟩, .blank, some "active"⟩
    let past : List KeyedWrite := [.channelSnapshot prunedChannel, .recommendation (advice 0),
      .recommendation (advice 1), .actionStage "a" .approved 2 3]
    RowsLookAlike .bare .bare id (afterMemory past) (afterText .bare .bare id past)
      (.channelSnapshot prunedChannel) := by
  intro advice past
  let calls := past ++ [.channelSnapshot prunedChannel]
  have compared : ∀ call ∈ calls, call.Compared .bare id := by simp [calls, past, KeyedWrite.Compared]
  have back : ∀ call ∈ calls, call.ReadsBack .bare := by
    have saved := prunedChannel_readsBack 2
    have advised (updatedAt : DateTime) (four : updatedAt.FourDigitYear) :
        (KeyedWrite.recommendation (advice updatedAt)).ReadsBack .bare :=
      ⟨rfl, RowText.bare_readsBlank, show DateTime.FourDigitYear 0 by decide, four⟩
    have staged : (KeyedWrite.actionStage "a" .approved 2 3).ReadsBack .bare := show DateTime.FourDigitYear 3 by decide
    have first := advised 0 (by decide)
    have second := advised 1 (by decide)
    simp only [calls, past, List.cons_append, List.nil_append, List.forall_mem_cons]
    exact ⟨saved, first, second, staged, saved, fun _ member => absurd member List.not_mem_nil⟩
  have agrees : ∀ k < calls.length, ∀ call ∈ calls[k]?, call.Agrees (afterMemory (calls.take k)) := by
    intro k inside call member
    rcases k with - | - | - | - | - | k
    · obtain rfl : KeyedWrite.channelSnapshot prunedChannel = call := Option.some.inj member
      exact ⟨by decide, fun stored found => by cases found⟩
    · obtain rfl : KeyedWrite.recommendation (advice 0) = call := Option.some.inj member
      exact show (advice 0).isActive from rfl
    · obtain rfl : KeyedWrite.recommendation (advice 1) = call := Option.some.inj member
      exact show (advice 0).content = (advice 1).content from rfl
    · obtain rfl : KeyedWrite.actionStage "a" .approved 2 3 = call := Option.some.inj member
      trivial
    · obtain rfl : KeyedWrite.channelSnapshot prunedChannel = call := Option.some.inj member
      exact ⟨by decide, fun stored found => List.mem_singleton.mp (List.mem_of_find?_eq_some found)⟩
    · cases member
  exact (keyed_writes_alike_iff RowText.bare_documented RowText.bare_writesNull compared back).mpr
    (Transition.fronts_of_take agrees) past _ [] rfl

/-- Of two contents under one key the memory keeps the first and the database the second. -/
theorem repeated_snapshot_splits_backends :
    let second : KeyedWrite := .channelSnapshot { prunedChannel with capacityMsat := 3 }
    (∀ call ∈ [.channelSnapshot prunedChannel, second], call.ReadsBack .bare) ∧
      ¬RowsLookAlike .bare .bare id (afterMemory [.channelSnapshot prunedChannel])
        (afterText .bare .bare id [.channelSnapshot prunedChannel]) second := by
  intro second
  have back : ∀ call ∈ [KeyedWrite.channelSnapshot prunedChannel, second], call.ReadsBack .bare := by
    rw [List.forall_mem_cons, List.forall_mem_singleton]
    exact ⟨prunedChannel_readsBack 2, prunedChannel_readsBack 3⟩
  refine ⟨back, fun looks => ?_⟩
  have related : TextStorage.Related .bare (afterText .bare .bare id [.channelSnapshot prunedChannel])
      (afterSqlite .bare id [.channelSnapshot prunedChannel]) := by
    refine afterText_related RowText.bare_writesNull ?_
    exact List.forall_mem_singleton.mpr (prunedChannel_readsBack 2)
  have records :=
    (rowsLookAlike_iff RowText.bare_documented RowText.bare_writesNull (back second (by simp)) related).mp looks
  have answers := records.2.snapshots .mainnet "node" "channel" 0
  have kept : value (MemoryStorage.channelSnapshotAt .mainnet "node" "channel" 0)
      (final second.runMemory (afterMemory [.channelSnapshot prunedChannel])) = .ok (some prunedChannel) := rfl
  have replaced : value (SqliteStorage.channelSnapshotAt .mainnet "node" "channel" 0)
      (final (second.runSqlite .bare id) (afterSqlite .bare id [.channelSnapshot prunedChannel])) =
        .ok (some { prunedChannel with capacityMsat := 3 }) := rfl
  rw [kept, replaced] at answers
  have capacities := congrArg ChannelSnapshot.capacityMsat (Option.some.inj (Except.ok.inj answers))
  exact absurd capacities (by decide)

end Rieko
