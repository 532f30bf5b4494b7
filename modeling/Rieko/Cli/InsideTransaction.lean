import Rieko.Cli.PersistCycle

namespace Rieko

open StatefulResult CycleM

/-- The writes that persist the findings of a cycle keep a property of the states of a storage. -/
structure RecordWritesKeep {σ : Type} [Storage σ] (property : σ → Prop) : Prop where
  saveFinding : ∀ finding, Preserves property (Storage.saveFinding finding)
  saveRecommendation : ∀ recommendation, Preserves property (Storage.saveRecommendation recommendation)
  recommendationForAction : ∀ actionId, Preserves property (Storage.recommendationForAction actionId)
  syncRecommendationLifecycles : ∀ now, Preserves property (Storage.syncRecommendationLifecycles now)
  appendAudit : ∀ entry, Preserves property (Storage.appendAudit entry)
  updateOperationalState : ∀ f, Preserves property (Storage.updateOperationalState f)

namespace RecordWritesKeep

variable {σ : Type} [Storage σ] {property : σ → Prop}

theorem syncLifecycles (keeps : RecordWritesKeep property) (env : CycleEnv) :
    Preserves (property ·.storage) (syncLifecycles (σ := σ) env) :=
  now_preserves.bind fun now => lift_preserves (keeps.syncRecommendationLifecycles now)

theorem recordCycleSuccess (keeps : RecordWritesKeep property) (env : CycleEnv) :
    Preserves (property ·.storage) (recordCycleSuccess (σ := σ) env) :=
  now_preserves.bind fun _ => lift_preserves (keeps.updateOperationalState _)

theorem persistRecommendation (keeps : RecordWritesKeep property) (env : CycleEnv) (recommendation : Recommendation) :
    Preserves (property ·.storage) (persistRecommendation (σ := σ) env recommendation) := by
  unfold Rieko.persistRecommendation
  refine (lift_preserves (keeps.recommendationForAction _)).bind fun stored => ?_
  cases stored with
  | some _ => exact .pure _
  | none =>
    refine (lift_preserves (keeps.saveRecommendation _)).bind fun _ => ?_
    refine freshId_preserves.bind fun id => now_preserves.bind fun now => ?_
    exact lift_preserves (keeps.appendAudit _)

omit [Storage σ] in
theorem recommend (env : CycleEnv) (finding : Finding) :
    Preserves (property ·.storage) (recommend (σ := σ) env finding) := by
  intro w held
  unfold final Rieko.recommend
  cases RecommendationEngine.recommend env.ext (fun n => env.clock (w.ticks + n)) finding <;> exact held

theorem persistFinding (keeps : RecordWritesKeep property) (env : CycleEnv) (finding : Finding) :
    Preserves (property ·.storage) (persistFinding (σ := σ) env finding) := by
  unfold Rieko.persistFinding
  refine (lift_preserves (keeps.saveFinding finding)).bind fun _ => ?_
  refine (mapError_preserves (recommend env finding)).bind fun recommendations => ?_
  have each := Preserves.forM fun recommendation (_ : recommendation ∈ recommendations) =>
    keeps.persistRecommendation env recommendation
  exact each.bind fun _ => .pure _

theorem persistCycleLocked (keeps : RecordWritesKeep property) (env : CycleEnv) (findings : List Finding) :
    Preserves (property ·.storage) (persistCycleLocked (σ := σ) env findings) := by
  induction findings with
  | nil => exact .pure _
  | cons finding findings ih => exact (keeps.persistFinding env finding).bind fun _ => ih.bind fun _ => .pure _

theorem persistCycleInside (keeps : RecordWritesKeep property) (env : CycleEnv) {snapshots : List ChannelSnapshot}
    {scopes : List FindingCycleScope} (findings : List Finding)
    (saves : ∀ snapshot ∈ snapshots, Preserves property (Storage.saveChannelSnapshot snapshot))
    (resolves : ∀ scope ∈ scopes, Preserves property (Storage.resolveFindingsForScope scope)) :
    Preserves (property ·.storage) (persistCycleInside (σ := σ) env snapshots scopes findings) := by
  unfold Rieko.persistCycleInside
  refine (Preserves.forM fun snapshot member => lift_preserves (saves snapshot member)).bind fun _ => ?_
  refine (Preserves.forM fun scope member => lift_preserves (resolves scope member)).bind fun _ => ?_
  refine (mapError_preserves (keeps.syncLifecycles env)).bind fun _ => ?_
  refine (keeps.persistCycleLocked env findings).bind fun _ => ?_
  exact (keeps.recordCycleSuccess env).bind fun _ => .pure _

end RecordWritesKeep

namespace WritesKeep

variable {σ : Type} [Storage σ] {property : σ → Prop}

theorem records (keeps : WritesKeep property) : RecordWritesKeep property where
  saveFinding := keeps.saveFinding
  saveRecommendation := keeps.saveRecommendation
  recommendationForAction := keeps.recommendationForAction
  syncRecommendationLifecycles := keeps.syncRecommendationLifecycles
  appendAudit := keeps.appendAudit
  updateOperationalState := keeps.updateOperationalState

theorem persistCycleInside (keeps : WritesKeep property) (env : CycleEnv) (snapshots : List ChannelSnapshot)
    (scopes : List FindingCycleScope) (findings : List Finding) :
    Preserves (property ·.storage) (persistCycleInside (σ := σ) env snapshots scopes findings) :=
  keeps.records.persistCycleInside env findings (fun snapshot _ => keeps.saveChannelSnapshot snapshot)
    fun scope _ => keeps.resolveFindingsForScope scope

theorem persistDetectorCycle (keeps : WritesKeep property) (env : CycleEnv) (cycle : DetectorCycle) :
    Preserves (property ·.storage) (persistDetectorCycle (σ := σ) env cycle) := by
  unfold Rieko.persistDetectorCycle
  refine (lift_preserves (keeps.resolveFindingsForScope cycle.scope)).bind fun _ => ?_
  refine (keeps.records.syncLifecycles env).bind fun _ => ?_
  exact Preserves.forM fun finding _ => lift_preserves (keeps.saveFinding finding)

theorem persistOperationalCycleInside (keeps : WritesKeep property) (env : CycleEnv) (cycle : DetectorCycle) :
    Preserves (property ·.storage) (persistOperationalCycleInside (σ := σ) env cycle) := by
  unfold Rieko.persistOperationalCycleInside
  refine (keeps.persistDetectorCycle env cycle).bind fun _ => now_preserves.bind fun now => ?_
  exact (lift_preserves (keeps.updateOperationalState _)).bind fun _ => .pure _

end WritesKeep

end Rieko
