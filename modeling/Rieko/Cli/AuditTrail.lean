import Rieko.Cli.RecommendationLifecycle

namespace Rieko

open StatefulResult CycleM MemoryStorage Transition

def recorded (trail ids : List String) : List String := ids.foldl (fun trail id => trail.insert id) trail

section Trail

variable {trail ids : List String}

theorem mem_recorded {id : String} : id ∈ recorded trail ids ↔ id ∈ trail ∨ id ∈ ids := by
  induction ids generalizing trail with
  | nil => simp [recorded]
  | cons first ids ih =>
    show id ∈ recorded (trail.insert first) ids ↔ _
    rw [ih, List.mem_insert_iff, List.mem_cons]
    tauto

theorem recorded_known (known : ∀ id ∈ ids, id ∈ trail) : recorded trail ids = trail := by
  induction ids with
  | nil => rfl
  | cons first ids ih =>
    show recorded (trail.insert first) ids = trail
    rw [List.insert_of_mem (known first (by simp))]
    exact ih fun id member => known id (List.mem_cons_of_mem _ member)

theorem recorded_append (more : List String) : recorded trail (ids ++ more) = recorded (recorded trail ids) more :=
  List.foldl_append

end Trail

def Recommendation.withoutLifecycle (recommendation : Recommendation) : Recommendation :=
  { recommendation with lifecycle := none }

namespace MemoryStorage

/-- The recommendations and the creation entries of a store are those of the same action ids. -/
structure Audited (s : MemoryStorage) (trail : List String) : Prop where
  recommendations : s.recommendations.map (·.action.id) = trail.reverse
  entries : s.audit.map (·.actionId) = trail.reverse
  creations : ∀ entry ∈ s.audit, entry.previousStage = none
  unique : trail.Nodup

structure Records (ids : List String) (s s' : MemoryStorage) : Prop where
  audited : ∀ trail, s.Audited trail → s'.Audited (recorded trail ids)
  recommendations : s.recommendations.map (·.withoutLifecycle) <+: s'.recommendations.map (·.withoutLifecycle)
  audit : s.audit <+: s'.audit

variable {s t u : MemoryStorage} {ids more trail : List String}

theorem Records.refl (s : MemoryStorage) : Records [] s s where
  audited _ held := held
  recommendations := List.prefix_refl _
  audit := List.prefix_refl _

theorem Records.trans (first : Records ids s t) (second : Records more t u) : Records (ids ++ more) s u where
  audited trail held := by
    rw [recorded_append]
    exact second.audited _ (first.audited trail held)
  recommendations := first.recommendations.trans second.recommendations
  audit := first.audit.trans second.audit

theorem Records.of_same (recommendations :
      t.recommendations.map (·.withoutLifecycle) = s.recommendations.map (·.withoutLifecycle))
    (audit : t.audit = s.audit) : Records [] s t where
  audited trail held := by
    have ids : t.recommendations.map (·.action.id) = s.recommendations.map (·.action.id) := by
      have same := congrArg (List.map (·.action.id)) recommendations
      rwa [List.map_map, List.map_map] at same
    exact ⟨ids.trans held.recommendations, audit ▸ held.entries, audit ▸ held.creations, held.unique⟩
  recommendations := recommendations ▸ List.prefix_refl _
  audit := audit ▸ List.prefix_refl _

theorem Records.known (records : Records ids s t) (held : s.Audited trail) (known : ∀ id ∈ ids, id ∈ trail) :
    t.recommendations.map (·.withoutLifecycle) = s.recommendations.map (·.withoutLifecycle) ∧ t.audit = s.audit := by
  have after := records.audited trail held
  rw [recorded_known known] at after
  have length : t.recommendations.length = s.recommendations.length := by
    rw [← List.length_map, after.recommendations, ← held.recommendations, List.length_map]
  have entries : t.audit.length = s.audit.length := by
    rw [← List.length_map, after.entries, ← held.entries, List.length_map]
  refine ⟨(records.recommendations.eq_of_length ?_).symm, (records.audit.eq_of_length entries.symm).symm⟩
  rw [List.length_map, List.length_map, length]

end MemoryStorage

section Cycles

variable {env : CycleEnv} {w w' : World MemoryStorage}

theorem recordNew_records (w : World MemoryStorage) (recommendation : Recommendation) :
    Records [recommendation.action.id] w.storage (recordNew env w recommendation).storage := by
  unfold recordNew
  split
  next known =>
    refine ⟨fun trail held => ?_, List.prefix_refl _, List.prefix_refl _⟩
    have onRecord : recommendation.action.id ∈ trail := by
      rw [held.recommendations] at known
      exact List.mem_reverse.mp known
    rw [recorded_known (by simpa using onRecord)]
    exact held
  next unknown =>
    refine ⟨fun trail held => ?_, ?_, List.prefix_append _ _⟩
    · have new : recommendation.action.id ∉ trail := by
        rw [held.recommendations] at unknown
        exact fun member => unknown (List.mem_reverse.mpr member)
      have inserted : recorded trail [recommendation.action.id] = recommendation.action.id :: trail :=
        List.insert_of_not_mem new
      rw [inserted]
      constructor
      · rw [List.map_append, held.recommendations, List.reverse_cons]
        rfl
      · rw [List.map_append, held.entries, List.reverse_cons]
        rfl
      · intro entry member
        rcases List.mem_append.mp member with old | created
        · exact held.creations entry old
        · cases List.mem_singleton.mp created
          rfl
      · exact List.nodup_cons.mpr ⟨new, held.unique⟩
    · rw [List.map_append]
      exact List.prefix_append _ _

theorem recordNews_records (w : World MemoryStorage) (recommendations : List Recommendation) :
    Records (recommendations.map (·.action.id)) w.storage (recommendations.foldl (recordNew env) w).storage := by
  induction recommendations generalizing w with
  | nil => exact .refl _
  | cons recommendation recommendations ih =>
    exact (recordNew_records w recommendation).trans (ih (recordNew env w recommendation))

theorem persistFinding_records {finding : Finding} {recommendations : List Recommendation}
    (ran : persistFinding env finding w = .ok recommendations w') :
    Records (recommendedIds env.ext finding) w.storage w'.storage := by
  rw [persistFinding_eq] at ran
  split at ran
  next => cases ran
  next => cases ran
  next valid engine =>
    cases ran
    rw [recommendedIds_of_ok engine]
    have saved : Records [] w.storage (w.storage.putFinding finding) := .of_same rfl rfl
    exact saved.trans (recordNews_records
      { w with storage := w.storage.putFinding finding, ticks := w.ticks + recommendations.length } recommendations)

theorem persistCycleLocked_records {findings : List Finding} {recommendations : List Recommendation}
    (ran : persistCycleLocked env findings w = .ok recommendations w') :
    Records (findings.flatMap (recommendedIds env.ext)) w.storage w'.storage := by
  induction findings generalizing w recommendations with
  | nil =>
    cases ran
    exact .refl _
  | cons finding findings ih =>
    obtain ⟨first, middle, persisted, rest⟩ := bind_ok.mp ran
    obtain ⟨later, last, persistedLater, returned⟩ := bind_ok.mp rest
    cases returned
    exact (persistFinding_records persisted).trans (ih persistedLater)

theorem syncLifecycles_records (s : MemoryStorage) : Records [] s s.syncLifecycles := by
  refine .of_same ?_ rfl
  refine List.map_map.trans (List.map_congr_left fun recommendation _ => ?_)
  dsimp only [Function.comp_apply]
  split <;> rfl

theorem prepared_records (snapshots : List ChannelSnapshot) (scopes : List FindingCycleScope)
    (w : World MemoryStorage) : Records [] w.storage (prepared snapshots scopes w).storage := by
  let observed : MemoryStorage := { w.storage with channelSnapshots := w.storage.channelSnapshots ++ snapshots }
  have resolved : Records [] w.storage (observed.resolveAll scopes) := by
    obtain ⟨findings, findingAbsent, same⟩ := resolveAll_frame observed scopes
    rw [same]
    exact .of_same rfl rfl
  exact resolved.trans (syncLifecycles_records _)

theorem recommendedIds_explained {ext : External} {findings results : List Finding}
    (explained : List.Forall₂ SameButExplanation findings results) :
    results.flatMap (recommendedIds ext) = findings.flatMap (recommendedIds ext) := by
  induction explained with
  | nil => rfl
  | cons same _ ih =>
    obtain ⟨explanation, rfl⟩ := same
    rw [List.flatMap_cons, List.flatMap_cons, ih]
    rfl

theorem persist_records (env : CycleEnv) (cycle : CycleInput) (idle : w.storage.transactionSnapshot = none) :
    (final (cycle.persist env) w).storage.transactionSnapshot = none ∧
      Records (if StatefulResult.succeeds (cycle.persist env) w then cycle.findings.flatMap (recommendedIds env.ext)
        else []) w.storage (final (cycle.persist env) w).storage := by
  obtain ⟨results, operationalState, explains, -, ran⟩ := persist_eq env cycle idle
  let start := w.withStorage { w.storage with operationalState }
  unfold StatefulResult.succeeds final
  rw [ran, persistCycleInside_eq]
  cases persisted : persistCycleLocked env results (prepared cycle.snapshots cycle.scopes start.begun) with
  | ok recommendations m =>
    have began : Records [] w.storage start.begun.storage := .of_same rfl rfl
    have inside := (began.trans (prepared_records _ _ _)).trans (persistCycleLocked_records persisted)
    have ended : Records [] m.storage (succeeded env m).committed.storage := .of_same rfl rfl
    have whole := inside.trans ended
    rw [recommendedIds_explained explains, List.append_nil] at whole
    exact ⟨rfl, whole⟩
  | error e m => exact ⟨rfl, .of_same rfl rfl⟩

theorem runCycles_records (env : CycleEnv) {ids trail : List String} (idle : w.storage.transactionSnapshot = none)
    (held : w.storage.Audited trail) (known : ∀ id ∈ ids, id ∈ trail) (history : List CycleInput) :
    (runCycles env w history).storage.transactionSnapshot = none ∧
      ∃ trail, (runCycles env w history).storage.Audited trail ∧ ∀ id ∈ ids, id ∈ trail := by
  let onRecord (w : World MemoryStorage) : Prop :=
    w.storage.transactionSnapshot = none ∧ ∃ trail, w.storage.Audited trail ∧ ∀ id ∈ ids, id ∈ trail
  have step (w : World MemoryStorage) (cycle : CycleInput) (held : onRecord w) : onRecord (afterCycle env w cycle) := by
    obtain ⟨idle, trail, held, known⟩ := held
    obtain ⟨still, records⟩ := persist_records env cycle idle
    exact ⟨still, _, records.audited trail held, fun id member => mem_recorded.mpr (.inl (known id member))⟩
  have start : onRecord w := ⟨idle, trail, held, known⟩
  have ended : onRecord (runCycles env w history) := run_invariant step start history
  exact ended

theorem recommendedIds_subset {ext : External} {findings replayed : List Finding}
    (same : ∀ finding ∈ replayed, ∃ earlier ∈ findings, SameButExplanation earlier finding) :
    ∀ id ∈ replayed.flatMap (recommendedIds ext), id ∈ findings.flatMap (recommendedIds ext) := by
  intro id member
  obtain ⟨finding, origin, recommended⟩ := List.mem_flatMap.mp member
  obtain ⟨earlier, before, explanation, rfl⟩ := same finding origin
  exact List.mem_flatMap.mpr ⟨earlier, before, recommended⟩

theorem replay_known {before later : List CycleInput} {cycle : CycleInput} {trail : List String}
    (idle : w.storage.transactionSnapshot = none) (held : w.storage.Audited trail)
    (committed : StatefulResult.succeeds (cycle.persist env) (runCycles env w before) = true) :
    (runCycles env w (before ++ cycle :: later)).storage.transactionSnapshot = none ∧
      ∃ trail, (runCycles env w (before ++ cycle :: later)).storage.Audited trail ∧
        ∀ id ∈ cycle.findings.flatMap (recommendedIds env.ext), id ∈ trail := by
  have nothing : ∀ id ∈ ([] : List String), id ∈ trail := fun _ member => by cases member
  obtain ⟨reached, earlier, audited, -⟩ := runCycles_records env idle held nothing before
  obtain ⟨still, records⟩ := persist_records env cycle reached
  rw [if_pos committed] at records
  have known : ∀ id ∈ cycle.findings.flatMap (recommendedIds env.ext),
      id ∈ recorded earlier (cycle.findings.flatMap (recommendedIds env.ext)) :=
    fun id member => mem_recorded.mpr (.inr member)
  have split : runCycles env w (before ++ cycle :: later) =
      runCycles env (afterCycle env (runCycles env w before) cycle) later := run_append w before (cycle :: later)
  rw [split]
  exact runCycles_records env still (records.audited earlier audited) known later

end Cycles

/-- From an empty store, over any run of cycles, the stored recommendations have one creation entry each and there is
    no other. A cycle that committed can be replayed, also with other explanations, without a trace on record. -/
theorem audit_complete (env : CycleEnv) (history : List CycleInput) :
    let w := runCycles env ⟨MemoryStorage.new, 0, 0⟩ history
    (w.storage.recommendations.map (·.action.id)).Nodup ∧
    (∀ recommendation ∈ w.storage.recommendations, (w.storage.audit.filter fun entry =>
      entry.previousStage = none ∧ entry.actionId = recommendation.action.id).length = 1) ∧
    (∀ entry ∈ w.storage.audit, entry.previousStage = none →
      ∃ recommendation ∈ w.storage.recommendations, recommendation.action.id = entry.actionId) ∧
    ∀ before cycle later replay, history = before ++ cycle :: later →
      StatefulResult.succeeds (cycle.persist env) (runCycles env ⟨MemoryStorage.new, 0, 0⟩ before) = true →
        (∀ finding ∈ replay.findings, ∃ earlier ∈ cycle.findings, SameButExplanation earlier finding) →
          (afterCycle env w replay).storage.recommendations.map (·.withoutLifecycle) =
              w.storage.recommendations.map (·.withoutLifecycle) ∧
            (afterCycle env w replay).storage.audit = w.storage.audit := by
  have empty : MemoryStorage.new.Audited [] := ⟨rfl, rfl, fun _ member => (by cases member), List.nodup_nil⟩
  intro w
  have nothing : ∀ id ∈ ([] : List String), id ∈ ([] : List String) := fun _ member => member
  obtain ⟨idle, trail, held, -⟩ :=
    runCycles_records env (w := ⟨MemoryStorage.new, 0, 0⟩) rfl empty nothing history
  refine ⟨?_, fun recommendation member => ?_, fun entry member _ => ?_, ?_⟩
  · rw [held.recommendations]
    exact List.nodup_reverse.mpr held.unique
  · have entries : w.storage.audit.map (·.actionId) = w.storage.recommendations.map (·.action.id) :=
      held.entries.trans held.recommendations.symm
    have unique : (w.storage.audit.map (·.actionId)).Nodup := by
      rw [held.entries]
      exact List.nodup_reverse.mpr held.unique
    have stored : recommendation.action.id ∈ w.storage.audit.map (·.actionId) := by
      rw [entries]
      exact List.mem_map_of_mem member
    rw [← List.count_eq_one_of_mem unique stored, List.count, List.countP_map, ← List.countP_eq_length_filter]
    refine List.countP_congr fun entry member => ?_
    simp [held.creations entry member]
  · have named : entry.actionId ∈ w.storage.audit.map (·.actionId) := List.mem_map_of_mem member
    rw [held.entries, ← held.recommendations] at named
    exact List.mem_map.mp named
  · rintro before cycle later replay rfl committed same
    obtain ⟨idle, trail, held, known⟩ := replay_known (w := ⟨MemoryStorage.new, 0, 0⟩) rfl empty committed
    obtain ⟨-, records⟩ := persist_records env replay idle
    refine records.known held fun id member => ?_
    split at member
    · exact known id (recommendedIds_subset same id member)
    · cases member

/-- A cycle that recommends, one without findings, and the first again with another explanation. -/
theorem audit_complete_replayed :
    let env : CycleEnv := ⟨⟨fun _ => "digest", fun _ => "null", fun _ => "instant", fun _ => "instant"⟩,
      fun tick => tick, fun _ => "uuid"⟩
    let history := [liquidityCycle [drainedChannel 10], liquidityCycle []]
    let replay := liquidityCycle [{ drainedChannel 10 with explanation := "again" }]
    (runCycles env ⟨MemoryStorage.new, 0, 0⟩ history).storage.audit.length = 1 ∧
      (afterCycle env (runCycles env ⟨MemoryStorage.new, 0, 0⟩ history) replay).storage.audit =
        (runCycles env ⟨MemoryStorage.new, 0, 0⟩ history).storage.audit := by
  intro env history replay
  have committed : StatefulResult.succeeds ((liquidityCycle [drainedChannel 10]).persist env)
      (runCycles env ⟨MemoryStorage.new, 0, 0⟩ []) = true := by decide +kernel
  have same : ∀ finding ∈ replay.findings, ∃ earlier ∈ (liquidityCycle [drainedChannel 10]).findings,
      SameButExplanation earlier finding := by
    intro finding member
    rw [List.mem_singleton.mp member]
    exact ⟨_, List.mem_singleton_self _, "again", rfl⟩
  obtain ⟨-, -, -, replayed⟩ := audit_complete env history
  exact ⟨by decide +kernel, (replayed [] _ [liquidityCycle []] replay rfl committed same).2⟩

end Rieko
