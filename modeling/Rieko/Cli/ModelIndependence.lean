import Rieko.Cli.RecommendationLifecycle

namespace Rieko

open StatefulResult CycleM MemoryStorage RecommendationEngine

section Erasure

def Finding.unexplained (finding : Finding) : Finding := { finding with explanation := none }

def Recommendation.timeless (recommendation : Recommendation) : Recommendation :=
  { recommendation with action := { recommendation.action with createdAt := 0, updatedAt := 0 } }

def AuditEntry.anonymous (entry : AuditEntry) : AuditEntry := { entry with id := "", timestamp := 0 }

/-- The state without its language model, with the instants that a cycle writes reduced to their presence. -/
def OperationalState.unmodelled (state : OperationalState) : OperationalState :=
  { state with
    llm := .notConfigured
    lastCycleSuccess := state.lastCycleSuccess.map fun _ => 0
    lastPersistSuccess := state.lastPersistSuccess.map fun _ => 0 }

/-- What two runs with different language models are to have in common. A store without an operational state counts
    as one with the default state. -/
def MemoryStorage.core (s : MemoryStorage) : MemoryStorage :=
  { s with
    findings := s.findings.map (·.unexplained)
    recommendations := s.recommendations.map (·.timeless)
    audit := s.audit.map (·.anonymous)
    operationalState := some (s.operationalState.getD {}).unmodelled
    transactionSnapshot := none }

end Erasure

namespace MemoryStorage

theorem earliestFirstSeen_unexplained (findings : List Finding) (finding : Finding) :
    earliestFirstSeen (findings.map (·.unexplained)) finding.unexplained = earliestFirstSeen findings finding := by
  unfold earliestFirstSeen
  rw [List.filter_map, List.map_map]
  rfl

theorem reobserve_unexplained (existing finding : Finding) (firstSeenAt : DateTime) :
    (existing.reobserve finding firstSeenAt).unexplained =
      existing.unexplained.reobserve finding.unexplained firstSeenAt := by
  unfold Finding.reobserve
  split
  next current => exact (if_pos current).symm
  next outdated => exact (if_neg outdated).symm

theorem core_putFinding (s : MemoryStorage) (finding : Finding) :
    (s.putFinding finding).core = s.core.putFinding finding.unexplained := by
  have findings : (s.putFinding finding).findings.map (·.unexplained) =
      (s.core.putFinding finding.unexplained).findings := by
    show (Rows.upsert _ _ _ _).map _ = Rows.upsert _ _ _ (s.findings.map (·.unexplained))
    rw [show earliestFirstSeen s.core.findings finding.unexplained = earliestFirstSeen s.findings finding from
      earliestFirstSeen_unexplained s.findings finding]
    exact Rows.map_upsert (fun _ => rfl) fun existing => reobserve_unexplained existing finding _
  have absent : (s.putFinding finding).findingAbsent = (s.core.putFinding finding.unexplained).findingAbsent := by
    have ids : s.core.findings.map Finding.id = s.findings.map Finding.id := List.map_map
    show (if _ then _ else _) = if _ then _ else _
    rw [ids]
    rfl
  unfold core
  rw [findings, absent]
  rfl

theorem resolveFinding_unexplained (scope : FindingCycleScope) (absent : HashMap Nat) (finding : Finding) :
    resolveFinding scope absent finding.unexplained =
      ((resolveFinding scope absent finding).1.unexplained, (resolveFinding scope absent finding).2) := by
  by_cases counts : scope.covers finding ∧ finding.lifecycle = .active
  · have also : scope.covers finding.unexplained ∧ finding.unexplained.lifecycle = .active := counts
    by_cases settled : 3 ≤ (absent.lookup finding.id).getD 0 + 1
    · have same : 3 ≤ (absent.lookup finding.unexplained.id).getD 0 + 1 := settled
      simp only [resolveFinding, if_pos counts, if_pos also, if_pos settled, if_pos same]
      rfl
    · have same : ¬3 ≤ (absent.lookup finding.unexplained.id).getD 0 + 1 := settled
      simp only [resolveFinding, if_pos counts, if_pos also, if_neg settled, if_neg same]
      rfl
  · have also : ¬(scope.covers finding.unexplained ∧ finding.unexplained.lifecycle = .active) := counts
    simp only [resolveFinding, if_neg counts, if_neg also]

theorem resolveFindings_unexplained (scope : FindingCycleScope) (findings : List Finding) (absent : HashMap Nat) :
    resolveFindings scope (findings.map (·.unexplained)) absent =
      ((resolveFindings scope findings absent).1.map (·.unexplained), (resolveFindings scope findings absent).2) := by
  induction findings generalizing absent with
  | nil => rfl
  | cons finding findings ih =>
    rw [List.map_cons]
    unfold resolveFindings
    dsimp only
    rw [resolveFinding_unexplained, ih]
    rfl

theorem core_resolveScope (s : MemoryStorage) (scope : FindingCycleScope) :
    (s.resolveScope scope).core = s.core.resolveScope scope := by
  unfold resolveScope
  split
  · show core _ = _
    dsimp only
    rw [show s.core.findings = s.findings.map (·.unexplained) from rfl, resolveFindings_unexplained]
    rfl
  · rfl

theorem core_resolveAll (s : MemoryStorage) (scopes : List FindingCycleScope) :
    (s.resolveAll scopes).core = s.core.resolveAll scopes := by
  induction scopes generalizing s with
  | nil => rfl
  | cons scope scopes ih =>
    have first := core_resolveScope s scope
    exact (ih (s.resolveScope scope)).trans (congrArg (resolveAll · scopes) first)

theorem core_syncLifecycles (s : MemoryStorage) : s.syncLifecycles.core = s.core.syncLifecycles := by
  have resolved : s.core.resolvedIds = s.resolvedIds := by
    show ((s.findings.map (·.unexplained)).filter _).map _ = _
    rw [List.filter_map, List.map_map]
    rfl
  have recommendations : s.syncLifecycles.core.recommendations = s.core.syncLifecycles.recommendations := by
    show (List.map _ s.recommendations).map _ = List.map _ (s.recommendations.map (·.timeless))
    rw [List.map_map, List.map_map, resolved]
    refine List.map_congr_left fun recommendation _ => ?_
    dsimp only [Function.comp_apply]
    by_cases link : recommendation.findingId ∈ s.resolvedIds
    · have also : recommendation.timeless.findingId ∈ s.resolvedIds := link
      rw [if_pos (decide_eq_true link), if_pos (decide_eq_true also)]
      rfl
    · have also : recommendation.timeless.findingId ∉ s.resolvedIds := link
      rw [if_neg (by simpa using link), if_neg (by simpa using also)]
  exact congrArg (fun recommendations => { s.core with recommendations }) recommendations

end MemoryStorage

theorem recommend_timeless (ext : External) (clock other : Nat → DateTime) (finding : Finding) :
    (RecommendationEngine.recommend ext clock finding).map (List.map (·.timeless)) =
      (RecommendationEngine.recommend ext other finding).map (List.map (·.timeless)) := by
  unfold RecommendationEngine.recommend
  split
  · cases ChannelLiquidityInput.parse finding with
    | error e => rfl
    | ok input => cases direction : input.direction <;>
        simp only [Except.map, recommendLiquidity, direction, List.map_cons, List.map_nil] <;> rfl
  · cases LiquidityTrendInput.parse finding <;> rfl
  · cases SettlementReliabilityInput.parse finding <;> rfl
  · rfl

theorem recommend_unexplained (ext : External) {finding result : Finding} (clock other : Nat → DateTime)
    (same : finding.unexplained = result.unexplained) :
    (RecommendationEngine.recommend ext clock finding).map (List.map (·.timeless)) =
      (RecommendationEngine.recommend ext other result).map (List.map (·.timeless)) := by
  rw [← recommend_explanation ext clock finding none, ← recommend_explanation ext other result none]
  show (RecommendationEngine.recommend ext clock finding.unexplained).map _ = _
  rw [same]
  exact recommend_timeless ext clock other result.unexplained

section Runs

variable {env env' : CycleEnv} {w v : World MemoryStorage}

theorem core_recordNew {recommendation twin : Recommendation} (same : w.storage.core = v.storage.core)
    (twins : recommendation.timeless = twin.timeless) :
    (recordNew env w recommendation).storage.core = (recordNew env' v twin).storage.core := by
  have ids : w.storage.recommendations.map (·.action.id) = v.storage.recommendations.map (·.action.id) := by
    have recommendations := congrArg (fun s => s.recommendations.map (·.action.id)) same
    dsimp only [core] at recommendations
    rwa [List.map_map, List.map_map] at recommendations
  have id : recommendation.action.id = twin.action.id := congrArg (·.action.id) twins
  have added (env : CycleEnv) (w : World MemoryStorage) (recommendation : Recommendation)
      (new : recommendation.action.id ∉ w.storage.recommendations.map (·.action.id)) :
      (recordNew env w recommendation).storage.core =
        { w.storage.core with
          recommendations := w.storage.core.recommendations ++ [recommendation.timeless]
          audit := w.storage.core.audit ++ [.fromAction "" 0 recommendation.timeless.action "system"
            (.ofPairs [("finding_id", .string recommendation.timeless.findingId)])] } := by
    unfold recordNew
    rw [if_neg new]
    unfold core
    rw [List.map_append, List.map_append]
    rfl
  by_cases known : recommendation.action.id ∈ w.storage.recommendations.map (·.action.id)
  · have also : twin.action.id ∈ v.storage.recommendations.map (·.action.id) := id ▸ ids ▸ known
    unfold recordNew
    rw [if_pos known, if_pos also]
    exact same
  · have also : twin.action.id ∉ v.storage.recommendations.map (·.action.id) := id ▸ ids ▸ known
    rw [added env w recommendation known, added env' v twin also, same, twins]

theorem core_recordNews {recommendations twins : List Recommendation} (same : w.storage.core = v.storage.core)
    (alike : recommendations.map (·.timeless) = twins.map (·.timeless)) :
    (recommendations.foldl (recordNew env) w).storage.core = (twins.foldl (recordNew env') v).storage.core := by
  induction recommendations generalizing w v twins with
  | nil =>
    rw [List.map_nil, eq_comm, List.map_eq_nil_iff] at alike
    rw [alike]
    exact same
  | cons recommendation recommendations ih =>
    cases twins with
    | nil => cases alike
    | cons twin twins =>
      rw [List.map_cons, List.map_cons, List.cons.injEq] at alike
      rw [List.foldl_cons, List.foldl_cons]
      exact ih (core_recordNew same alike.1) alike.2

def Alike {α β : Type} : EStateM.Result CycleError (World MemoryStorage) α →
    EStateM.Result CycleError (World MemoryStorage) β → Prop
  | .ok _ w, .ok _ v => w.storage.core = v.storage.core
  | .error _ w, .error _ v => w.storage.core = v.storage.core
  | _, _ => False

theorem Alike.cases {α β : Type} {left : EStateM.Result CycleError (World MemoryStorage) α}
    {right : EStateM.Result CycleError (World MemoryStorage) β} (alike : Alike left right) :
    (∃ a w b v, left = .ok a w ∧ right = .ok b v ∧ w.storage.core = v.storage.core) ∨
      ∃ e w e' v, left = .error e w ∧ right = .error e' v ∧ w.storage.core = v.storage.core := by
  cases left with
  | ok a w =>
    cases right with
    | ok b v => exact .inl ⟨a, w, b, v, rfl, rfl, alike⟩
    | error e v => cases alike
  | error e w =>
    cases right with
    | ok b v => cases alike
    | error e' v => exact .inr ⟨e, w, e', v, rfl, rfl, alike⟩

theorem persistFinding_alike (library : env.ext = env'.ext) {finding result : Finding}
    (explained : finding.unexplained = result.unexplained) (same : w.storage.core = v.storage.core) :
    Alike (persistFinding env finding w) (persistFinding env' result v) := by
  have schema : finding.schemaVersion = result.schemaVersion := congrArg (·.schemaVersion) explained
  have saved : (w.storage.putFinding finding).core = (v.storage.putFinding result).core := by
    rw [core_putFinding, core_putFinding, same, explained]
  have engine := recommend_unexplained env.ext (fun n => env.clock (w.ticks + n)) (fun n => env'.clock (v.ticks + n))
    explained
  rw [persistFinding_eq, persistFinding_eq, schema, ← library]
  cases validateFindingSchema result.schemaVersion with
  | error e => exact same
  | ok _ =>
    cases made : RecommendationEngine.recommend env.ext (fun n => env.clock (w.ticks + n)) finding with
    | error e =>
      cases twins : RecommendationEngine.recommend env.ext (fun n => env'.clock (v.ticks + n)) result with
      | error e => exact saved
      | ok twins' => rw [made, twins] at engine; cases engine
    | ok recommendations =>
      cases twins : RecommendationEngine.recommend env.ext (fun n => env'.clock (v.ticks + n)) result with
      | error e => rw [made, twins] at engine; cases engine
      | ok twins' =>
        rw [made, twins] at engine
        exact core_recordNews saved (Except.ok.inj engine)

theorem persistCycleLocked_alike (library : env.ext = env'.ext) {findings results : List Finding}
    (explained : findings.map (·.unexplained) = results.map (·.unexplained)) (same : w.storage.core = v.storage.core) :
    Alike (persistCycleLocked env findings w) (persistCycleLocked env' results v) := by
  induction findings generalizing w v results with
  | nil =>
    rw [List.map_nil, eq_comm, List.map_eq_nil_iff] at explained
    rw [explained]
    exact same
  | cons finding findings ih =>
    cases results with
    | nil => cases explained
    | cons result results =>
      rw [List.map_cons, List.map_cons, List.cons.injEq] at explained
      unfold persistCycleLocked
      rcases (persistFinding_alike library explained.1 same).cases with
        ⟨_, m, _, m', left, right, first⟩ | ⟨_, m, _, m', left, right, first⟩
      · rw [bind_of_ok left, bind_of_ok right]
        rcases (ih explained.2 first).cases with ⟨_, n, _, n', later, other, rest⟩ | ⟨_, n, _, n', later, other, rest⟩
        · rw [bind_of_ok later, bind_of_ok other]
          exact rest
        · rw [bind_of_error later, bind_of_error other]
          exact rest
      · rw [bind_of_error left, bind_of_error right]
        exact first

theorem core_prepared (snapshots : List ChannelSnapshot) (scopes : List FindingCycleScope)
    (same : w.storage.core = v.storage.core) :
    (prepared snapshots scopes w).storage.core = (prepared snapshots scopes v).storage.core := by
  have observed (s : MemoryStorage) :
      MemoryStorage.core { s with channelSnapshots := s.channelSnapshots ++ snapshots } =
    { s.core with channelSnapshots := s.core.channelSnapshots ++ snapshots } := rfl
  unfold prepared
  rw [core_syncLifecycles, core_syncLifecycles, core_resolveAll, core_resolveAll, observed, observed, same]

theorem core_succeeded (same : w.storage.core = v.storage.core) :
    (succeeded env w).storage.core = (succeeded env' v).storage.core := by
  have recorded (env : CycleEnv) (w : World MemoryStorage) : (succeeded env w).storage.core = { w.storage.core with
      operationalState := some { w.storage.core.operationalState.getD {} with
        lastCycleSuccess := some 0, lastPersistSuccess := some 0 } } := rfl
  rw [recorded, recorded, same]

theorem persistCycleInside_alike (library : env.ext = env'.ext) {findings results : List Finding}
    (snapshots : List ChannelSnapshot) (scopes : List FindingCycleScope)
    (explained : findings.map (·.unexplained) = results.map (·.unexplained)) (same : w.storage.core = v.storage.core) :
    Alike (persistCycleInside env snapshots scopes findings w)
      (persistCycleInside env' snapshots scopes results v) := by
  rw [persistCycleInside_eq, persistCycleInside_eq]
  rcases (persistCycleLocked_alike library explained (core_prepared snapshots scopes same)).cases with
    ⟨_, m, _, m', left, right, saved⟩ | ⟨_, m, _, m', left, right, saved⟩
  · rw [left, right]
    exact core_succeeded saved
  · rw [left, right]
    exact saved

theorem closed_alike {s t : MemoryStorage} {α β : Type} {left : EStateM.Result CycleError (World MemoryStorage) α}
    {right : EStateM.Result CycleError (World MemoryStorage) β} (start : s.core = t.core) (alike : Alike left right) :
    Alike (closed s.snapshot left) (closed t.snapshot right) := by
  rcases alike.cases with ⟨a, w, b, v, rfl, rfl, same⟩ | ⟨e, w, e', v, rfl, rfl, same⟩
  · exact same
  · have restored (s : MemoryStorage) (w : World MemoryStorage) : (w.rolledBack s.snapshot).storage.core =
      { s.core with findingAbsent := w.storage.core.findingAbsent } := rfl
    show (w.rolledBack s.snapshot).storage.core = (v.rolledBack t.snapshot).storage.core
    rw [restored, restored, start, same]

theorem unexplained_of_explained {findings results : List Finding}
    (explained : List.Forall₂ SameButExplanation findings results) :
    results.map (·.unexplained) = findings.map (·.unexplained) := by
  induction explained with
  | nil => rfl
  | cons same _ ih =>
    obtain ⟨explanation, rfl⟩ := same
    rw [List.map_cons, List.map_cons, ih]
    rfl

theorem core_recorded {s : MemoryStorage} {operationalState : Option OperationalState}
    (model : OnlyModelRecorded s.operationalState operationalState) :
    MemoryStorage.core { s with operationalState } = s.core := by
  rcases model with rfl | ⟨llm, rfl⟩ <;> rfl

theorem persist_busy (env : CycleEnv) (cycle : CycleInput) (busy : w.storage.transactionSnapshot ≠ none) :
    ∃ e operationalState, OnlyModelRecorded w.storage.operationalState operationalState ∧
      cycle.persist env w = .error e (w.withStorage { w.storage with operationalState }) := by
  obtain ⟨results, operationalState, ran, model, -⟩ := explainFindings_ok cycle.llm cycle.node cycle.findings w
  let refusal : CycleError := ⟨[], .storage (.backend "nested transaction attempted")⟩
  refine ⟨addContext "beginning persistence transaction" refusal, operationalState, model, ?_⟩
  unfold CycleInput.persist persistCycle
  rw [bind_of_ok ran]
  exact transacted_busy busy

theorem persist_alike (env env' : CycleEnv) (cycle twin : CycleInput) (w v : World MemoryStorage)
    (library : env.ext = env'.ext) (same : w.storage = v.storage) (snapshots : cycle.snapshots = twin.snapshots)
    (scopes : cycle.scopes = twin.scopes) (findings : cycle.findings = twin.findings) :
    Alike (cycle.persist env w) (twin.persist env' v) := by
  have start {op op' : Option OperationalState} (model : OnlyModelRecorded w.storage.operationalState op)
      (model' : OnlyModelRecorded v.storage.operationalState op') :
      MemoryStorage.core { w.storage with operationalState := op } =
        MemoryStorage.core { v.storage with operationalState := op' } := by
    rw [core_recorded model, core_recorded model', same]
  by_cases idle : w.storage.transactionSnapshot = none
  · obtain ⟨results, op, explained, model, ran⟩ := persist_eq env cycle idle
    obtain ⟨others, op', explained', model', ran'⟩ := persist_eq env' twin (same ▸ idle)
    have unexplained : results.map (·.unexplained) = others.map (·.unexplained) := by
      rw [unexplained_of_explained explained, unexplained_of_explained explained', findings]
    rw [ran, ran', snapshots, scopes]
    exact closed_alike (start model model') (persistCycleInside_alike library _ _ unexplained (start model model'))
  · obtain ⟨e, op, model, ran⟩ := persist_busy env cycle idle
    obtain ⟨e', op', model', ran'⟩ := persist_busy env' twin (same ▸ idle)
    rw [ran, ran']
    exact start model model'

theorem persist_leaves (env : CycleEnv) (cycle : CycleInput) (w : World MemoryStorage) :
    (final (cycle.persist env) w).storage.transactionSnapshot = w.storage.transactionSnapshot ∧
      (w.storage.operationalState ≠ none ∨ StatefulResult.succeeds (cycle.persist env) w = true →
        (final (cycle.persist env) w).storage.operationalState ≠ none) := by
  have recorded {before after : Option OperationalState} (model : OnlyModelRecorded before after)
      (present : before ≠ none) : after ≠ none := by
    rcases model with rfl | ⟨llm, rfl⟩
    · exact present
    · exact Option.some_ne_none _
  by_cases idle : w.storage.transactionSnapshot = none
  · obtain ⟨results, op, -, model, ran⟩ := persist_eq env cycle idle
    unfold StatefulResult.succeeds final
    rw [ran, persistCycleInside_eq]
    cases persistCycleLocked env results (prepared cycle.snapshots cycle.scopes
        (w.withStorage { w.storage with operationalState := op }).begun) with
    | ok made m => exact ⟨idle.symm, fun _ => Option.some_ne_none _⟩
    | error e m => exact ⟨idle.symm, fun present => recorded model (present.resolve_right Bool.false_ne_true)⟩
  · obtain ⟨e, op, model, ran⟩ := persist_busy env cycle idle
    unfold StatefulResult.succeeds final
    rw [ran]
    exact ⟨rfl, fun present => recorded model (present.resolve_right Bool.false_ne_true)⟩

end Runs

/-- The same stores, except for explanations, generated ids, wall-clock times and the state of the language model. -/
structure SameButModel (s t : MemoryStorage) : Prop where
  findings : s.findings.map (·.unexplained) = t.findings.map (·.unexplained)
  recommendations : s.recommendations.map (·.timeless) = t.recommendations.map (·.timeless)
  audit : s.audit.map (·.anonymous) = t.audit.map (·.anonymous)
  channelSnapshots : s.channelSnapshots = t.channelSnapshots
  operationalState : (s.operationalState.getD {}).unmodelled = (t.operationalState.getD {}).unmodelled
  simulations : s.simulations = t.simulations
  simulationRecords : s.simulationRecords = t.simulationRecords
  simulationEvents : s.simulationEvents = t.simulationEvents
  alertState : s.alertState = t.alertState
  transactionSnapshot : s.transactionSnapshot = t.transactionSnapshot
  findingAbsent : s.findingAbsent = t.findingAbsent
  webhookDeliveries : s.webhookDeliveries = t.webhookDeliveries
  webhookEvents : s.webhookEvents = t.webhookEvents

theorem SameButModel.of_core {s t : MemoryStorage} (same : s.core = t.core)
    (transaction : s.transactionSnapshot = t.transactionSnapshot) : SameButModel s t where
  findings := congrArg (·.findings) same
  recommendations := congrArg (·.recommendations) same
  audit := congrArg (·.audit) same
  channelSnapshots := congrArg (·.channelSnapshots) same
  operationalState := Option.some.inj (congrArg (·.operationalState) same)
  simulations := congrArg (·.simulations) same
  simulationRecords := congrArg (·.simulationRecords) same
  simulationEvents := congrArg (·.simulationEvents) same
  alertState := congrArg (·.alertState) same
  transactionSnapshot := transaction
  findingAbsent := congrArg (·.findingAbsent) same
  webhookDeliveries := congrArg (·.webhookDeliveries) same
  webhookEvents := congrArg (·.webhookEvents) same

/-- Whatever two language models answer, and whatever the clocks and the fresh ids are: both cycles succeed or both
    fail, and leave the same store but for what the models are asked for. The presence of the operational state is
    the same too, unless a cycle fails on a store that had none. -/
theorem persistCycle_model_independent (ext : External) (clock clock' : Nat → DateTime) (uuid uuid' : Nat → String)
    (llm llm' : Option LlmClient) (node : String) (snapshots : List ChannelSnapshot) (scopes : List FindingCycleScope)
    (findings : List Finding) (s : MemoryStorage) (ticks ticks' ids ids' : Nat) :
    let cycle : CycleM MemoryStorage (List Recommendation) :=
      persistCycle ⟨ext, clock, uuid⟩ llm node snapshots scopes findings
    let twin : CycleM MemoryStorage (List Recommendation) :=
      persistCycle ⟨ext, clock', uuid'⟩ llm' node snapshots scopes findings
    let ended := (final cycle ⟨s, ticks, ids⟩).storage
    let ended' := (final twin ⟨s, ticks', ids'⟩).storage
    StatefulResult.succeeds cycle ⟨s, ticks, ids⟩ = StatefulResult.succeeds twin ⟨s, ticks', ids'⟩ ∧
      SameButModel ended ended' ∧
      (s.operationalState ≠ none ∨ StatefulResult.succeeds cycle ⟨s, ticks, ids⟩ = true →
        ended.operationalState.map (·.unmodelled) = ended'.operationalState.map (·.unmodelled)) := by
  intro cycle twin ended ended'
  let input : CycleInput := ⟨llm, node, snapshots, scopes, findings⟩
  let input' : CycleInput := ⟨llm', node, snapshots, scopes, findings⟩
  have alike : Alike (cycle ⟨s, ticks, ids⟩) (twin ⟨s, ticks', ids'⟩) :=
    persist_alike ⟨ext, clock, uuid⟩ ⟨ext, clock', uuid'⟩ input input' ⟨s, ticks, ids⟩ ⟨s, ticks', ids'⟩
      rfl rfl rfl rfl rfl
  have succeeds : StatefulResult.succeeds cycle ⟨s, ticks, ids⟩ = StatefulResult.succeeds twin ⟨s, ticks', ids'⟩ := by
    unfold StatefulResult.succeeds
    rcases alike.cases with ⟨_, _, _, _, left, right, -⟩ | ⟨_, _, _, _, left, right, -⟩ <;> rw [left, right]
  have core : ended.core = ended'.core := by
    show (final cycle _).storage.core = (final twin _).storage.core
    unfold final
    rcases alike.cases with ⟨_, _, _, _, left, right, same⟩ | ⟨_, _, _, _, left, right, same⟩ <;>
      rw [left, right] <;> exact same
  obtain ⟨transaction, present⟩ := persist_leaves ⟨ext, clock, uuid⟩ input ⟨s, ticks, ids⟩
  obtain ⟨transaction', present'⟩ := persist_leaves ⟨ext, clock', uuid'⟩ input' ⟨s, ticks', ids'⟩
  have same : SameButModel ended ended' := .of_core core (transaction.trans transaction'.symm)
  refine ⟨succeeds, same, fun either => ?_⟩
  obtain ⟨state, recorded⟩ := Option.ne_none_iff_exists'.mp (present either)
  obtain ⟨state', recorded'⟩ := Option.ne_none_iff_exists'.mp (present' (succeeds ▸ either))
  have states := same.operationalState
  rw [show ended.operationalState = some state from recorded,
    show ended'.operationalState = some state' from recorded'] at states ⊢
  exact congrArg some states

/-- A cycle that fails on an empty store leaves an operational state there only if it has a language model. -/
theorem failed_cycle_records_model :
    let env : CycleEnv := ⟨⟨fun _ => "digest", fun _ => "null", fun _ => "instant", fun _ => "instant"⟩,
      fun tick => tick, fun _ => "uuid"⟩
    let cycle (llm : Option LlmClient) : CycleM MemoryStorage (List Recommendation) :=
      persistCycle env llm "node" [] [] [.bare "f" "unknown_detector" 10]
    let ended (llm : Option LlmClient) : MemoryStorage := (final (cycle llm) ⟨MemoryStorage.new, 0, 0⟩).storage
    StatefulResult.succeeds (cycle none) ⟨MemoryStorage.new, 0, 0⟩ = false ∧
      (ended none).operationalState.map (·.unmodelled) ≠
        (ended (some fun _ _ _ => .ok none)).operationalState.map (·.unmodelled) := by
  intro env cycle ended
  have absent : (ended none).operationalState = none := by decide
  have recorded : (ended (some fun _ _ _ => .ok none)).operationalState = some { llm := .healthy } := by decide
  refine ⟨by decide, ?_⟩
  rw [absent, recorded]
  intro same
  cases same

end Rieko
