import Rieko.Cli.Monitor
import Rieko.Cli.RecommendationLifecycle

namespace Rieko

open StatefulResult CycleM MemoryStorage

def firstBuilt (source : GraphSource) : List Outside → Option (Outside × InMemoryGraph)
  | [] => none
  | outside :: later =>
    match source.build outside with
    | .ok graph => some (outside, graph)
    | .error _ => firstBuilt source later

theorem firstBuilt_some {source : GraphSource} {attempts : List Outside} {outside : Outside} {graph : InMemoryGraph}
    (built : firstBuilt source attempts = some (outside, graph)) :
    outside ∈ attempts ∧ source.build outside = .ok graph := by
  induction attempts with
  | nil => cases built
  | cons first later ih =>
    unfold firstBuilt at built
    split at built
    next builds =>
      cases built
      exact ⟨List.mem_cons_self, builds⟩
    · obtain ⟨member, builds⟩ := ih built
      exact ⟨List.mem_cons_of_mem _ member, builds⟩

/-- Only the operational state, the clock and the ids may have moved. -/
def SameStore (w w' : World MemoryStorage) : Prop :=
  ∃ operationalState, w'.storage = { w.storage with operationalState }

theorem SameStore.refl (w : World MemoryStorage) : SameStore w w := ⟨w.storage.operationalState, rfl⟩

theorem SameStore.trans {w m w' : World MemoryStorage} (first : SameStore w m) (second : SameStore m w') :
    SameStore w w' := by
  obtain ⟨before, start⟩ := first
  obtain ⟨after, last⟩ := second
  exact ⟨after, by rw [last, start]⟩

section Ingestion

variable (env : CycleEnv) (source : GraphSource) {settings : CycleSettings}

theorem recordIngestionAttempt_memory (w : World MemoryStorage) :
    ∃ w', recordIngestionAttempt env source w = .ok () w' ∧ SameStore w w' :=
  ⟨_, rfl, _, rfl⟩

theorem recordIngestionSuccess_memory (at_ : Option DateTime) (w : World MemoryStorage) :
    ∃ w', recordIngestionSuccess env source at_ w = .ok () w' ∧ SameStore w w' :=
  ⟨_, rfl, _, rfl⟩

theorem recordIngestionFailure_memory (f : CycleError → CycleError) (w : World MemoryStorage) :
    ∃ w', mapError f (recordIngestionFailure source) w = .ok () w' ∧ SameStore w w' :=
  ⟨_, rfl, _, rfl⟩

theorem recordCycleAttempt_memory (w : World MemoryStorage) :
    ∃ w', recordCycleAttempt env w = .ok () w' ∧ SameStore w w' :=
  ⟨_, rfl, _, rfl⟩

theorem ingestWithRetry_memory (live : settings.source.lndRest.isSome = true) (attempts : List Outside)
    (w : World MemoryStorage) : ∃ w',
      ingestWithRetry settings attempts w = .ok ((firstBuilt settings.source attempts).map (·.2)) w' ∧
        SameStore w w' := by
  induction attempts generalizing w with
  | nil => exact ⟨w, rfl, .refl w⟩
  | cons outside later ih =>
    obtain ⟨w₁, attempted, first⟩ := recordIngestionAttempt_memory settings.env settings.source w
    unfold ingestWithRetry firstBuilt
    rw [bind_of_ok attempted]
    cases settings.source.build outside with
    | ok graph =>
      obtain ⟨w₂, succeeded, second⟩ := recordIngestionSuccess_memory settings.env settings.source
        (newestSourceDataAt graph outside) w₁
      dsimp only
      rw [bind_of_ok succeeded]
      exact ⟨w₂, rfl, first.trans second⟩
    | error e =>
      obtain ⟨w₂, failed, second⟩ := recordIngestionFailure_memory settings.source
        (addContext s!"recording ingestion failure after: {e}") w₁
      have reachable : settings.source.lndRest.isNone = false := Option.isNone_eq_false_iff.mpr live
      obtain ⟨w₃, retried, third⟩ := ih w₂
      dsimp only
      rw [bind_of_ok failed, reachable, if_neg (by decide)]
      exact ⟨w₃, retried, (first.trans second).trans third⟩

end Ingestion

namespace Monitor

variable {settings : CycleSettings}

def warmed (settings : CycleSettings) (s : MemoryStorage) (channels : List Channel) (history : InMemoryHistory) :
    InMemoryHistory :=
  channels.foldl (fun history channel => history.warmFromSnapshots
    ((s.channelSnapshots.reverse.filter fun snapshot => snapshot.network = some settings.source.network ∧
      (∀ node ∈ some settings.source.node, snapshot.nodeId = some node) ∧ snapshot.channelId = channel.id).take 200))
    history

def detectionHistory (settings : CycleSettings) (m : Monitor MemoryStorage) (graph : InMemoryGraph) : InMemoryHistory :=
  let pushed := (cycleSnapshots settings.env.ext settings.source.network graph).foldl .push m.history
  if m.first then warmed settings m.world.storage graph.storedChannels pushed else pushed

def evaluated (settings : CycleSettings) (m : Monitor MemoryStorage) (outside : CycleOutside) :
    Option (InMemoryGraph × List DetectorCycle) :=
  match firstBuilt settings.source outside.attempts with
  | none => none
  | some (_, graph) =>
    match detectorCycles settings outside graph (some (m.detectionHistory settings graph)) with
    | .error _ => none
    | .ok cycles => some (graph, cycles)

theorem warmHistory_memory (settings : CycleSettings) (channels : List Channel) (history : InMemoryHistory)
    (w : World MemoryStorage) :
    warmHistory settings channels history w = .ok (warmed settings w.storage channels history) w := by
  induction channels generalizing history with
  | nil => rfl
  | cons channel rest ih => exact ih _

theorem warmed_sameStore {w w' : World MemoryStorage} (same : SameStore w w') (channels : List Channel)
    (history : InMemoryHistory) :
    warmed settings w'.storage channels history = warmed settings w.storage channels history := by
  obtain ⟨operationalState, stored⟩ := same
  rw [stored]
  rfl

theorem next_memory (m : Monitor MemoryStorage) (outside : CycleOutside)
    (live : settings.source.lndRest.isSome = true) :
    match m.evaluated settings outside with
    | none => SameStore m.world (m.next settings outside).world
    | some (graph, cycles) => ∃ start, SameStore m.world start ∧
        (m.next settings outside).world = final (persistDetected settings outside.llm graph cycles) start := by
  obtain ⟨w₁, ingested, first⟩ := ingestWithRetry_memory live outside.attempts m.world
  unfold evaluated
  cases built : firstBuilt settings.source outside.attempts with
  | none =>
    have ended : monitorCycle settings outside m.first m.history m.world = .ok m.history w₁ := by
      unfold monitorCycle
      rw [bind_of_ok ingested, built]
      rfl
    dsimp only
    unfold next
    rw [ended]
    exact first
  | some found =>
    obtain ⟨attempt, graph⟩ := found
    obtain ⟨w₂, recorded, second⟩ := recordCycleAttempt_memory settings.env w₁
    have same := first.trans second
    have reached : monitorCycle settings outside m.first m.history m.world = (do
        detectAndPersist settings outside graph (some (m.detectionHistory settings graph))
        return m.detectionHistory settings graph) w₂ := by
      unfold monitorCycle
      rw [bind_of_ok ingested, built]
      dsimp only [Option.map_some]
      rw [bind_of_ok recorded]
      unfold detectionHistory
      cases m.first with
      | true =>
        have warm := warmHistory_memory settings graph.storedChannels
          ((cycleSnapshots settings.env.ext settings.source.network graph).foldl .push m.history) w₂
        rw [warmed_sameStore same] at warm
        exact bind_of_ok warm _
      | false => rfl
    dsimp only
    unfold next
    rw [reached]
    unfold detectAndPersist
    cases detectorCycles settings outside graph (some (m.detectionHistory settings graph)) with
    | error failure =>
      have failed : (throw ⟨[], failure⟩ : CycleM MemoryStorage Unit) w₂ = .error ⟨[], failure⟩ w₂ := rfl
      dsimp only
      rw [bind_of_error failed]
      exact same
    | ok cycles =>
      refine ⟨w₂, same, ?_⟩
      dsimp only
      unfold final
      cases persisted : persistDetected settings outside.llm graph cycles w₂ with
      | ok recommendations w' =>
        have discarded : discard (persistDetected settings outside.llm graph cycles) w₂ = .ok ⟨⟩ w' := by
          show EStateM.map _ _ w₂ = _
          unfold EStateM.map
          rw [persisted]
        rw [bind_of_ok discarded]
        rfl
      | error e w' =>
        have discarded : discard (persistDetected settings outside.llm graph cycles) w₂ = .error e w' := by
          show EStateM.map _ _ w₂ = _
          unfold EStateM.map
          rw [persisted]
        rw [bind_of_error discarded]
        rfl

end Monitor

end Rieko
