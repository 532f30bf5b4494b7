import Rieko.Cli.MemoryCycle
import Rieko.Lib.Transition
import Rieko.Storage.Reconciled

namespace Rieko

open StatefulResult CycleM MemoryStorage Transition

def recommendedIds (ext : External) (finding : Finding) : List String :=
  match RecommendationEngine.recommend ext (fun _ => 0) finding with
  | .ok recommendations => recommendations.map (·.action.id)
  | .error _ => []

/-- An observation of a resolved finding that changes neither side of the link: it is current and nothing is
    recommended for the finding yet, or it is outdated and recommends nothing new. -/
def MemoryStorage.keepsLinks (ext : External) (s : MemoryStorage) (finding existing : Finding) : Prop :=
  (existing.lastSeenAt ≤ finding.lastSeenAt ∧
      ∀ recommendation ∈ s.recommendations, recommendation.findingId ≠ finding.id) ∨
    (finding.lastSeenAt < existing.lastSeenAt ∧
      ∀ id ∈ recommendedIds ext finding, id ∈ s.recommendations.map (·.action.id))

structure CycleInput where
  llm : Option LlmClient
  node : String
  snapshots : List ChannelSnapshot
  scopes : List FindingCycleScope
  findings : List Finding

namespace CycleInput

def persist (env : CycleEnv) (cycle : CycleInput) : CycleM MemoryStorage (List Recommendation) :=
  persistCycle env cycle.llm cycle.node cycle.snapshots cycle.scopes cycle.findings

/-- A cycle reopens no finding that has recommendations, and adds none to a finding it leaves resolved. -/
def Clean (ext : External) (s : MemoryStorage) (cycle : CycleInput) : Prop :=
  ∀ finding ∈ cycle.findings, ∀ existing, s.stored finding.id = some existing →
    s.endsResolved cycle.scopes existing → s.keepsLinks ext finding existing

end CycleInput

def afterCycle (env : CycleEnv) (w : World MemoryStorage) (cycle : CycleInput) : World MemoryStorage :=
  final (cycle.persist env) w

def runCycles (env : CycleEnv) (w : World MemoryStorage) (history : List CycleInput) : World MemoryStorage :=
  run (afterCycle env) w history

def CleanRun (env : CycleEnv) (w : World MemoryStorage) (history : List CycleInput) : Prop :=
  EachStep (afterCycle env) (fun w (cycle : CycleInput) =>
    StatefulResult.succeeds (cycle.persist env) w = true → cycle.Clean env.ext w.storage) w history

namespace MemoryStorage

variable {ext : External} {s s' : MemoryStorage} {finding : Finding}

/-- Saving the finding would keep the links of its recommendations, should it be stored as resolved. -/
def Admits (ext : External) (s : MemoryStorage) (finding : Finding) : Prop :=
  ∀ existing, s.stored finding.id = some existing → existing.lifecycle = .resolved →
    s.keepsLinks ext finding existing

structure Persisted (ext : External) (s : MemoryStorage) (finding : Finding) (s' : MemoryStorage) : Prop where
  findings : s'.findings = (s.putFinding finding).findings
  recommendations : ∃ added, s'.recommendations = s.recommendations ++ added ∧
    ∀ recommendation ∈ added, recommendation.findingId = finding.id ∧ recommendation.lifecycle = none ∧
      recommendation.action.id ∉ s.recommendations.map (·.action.id) ∧
      recommendation.action.id ∈ recommendedIds ext finding

theorem Persisted.isResolved (persisted : Persisted ext s finding s') (id : String) :
    s'.isResolved id = (s.putFinding finding).isResolved id := by
  unfold MemoryStorage.isResolved stored
  rw [persisted.findings]

theorem Persisted.nothing_added (persisted : Persisted ext s finding s') (admits : s.Admits ext finding)
    (resolved : s'.isResolved finding.id = true) : s'.recommendations = s.recommendations := by
  rw [persisted.isResolved, isResolved_putFinding] at resolved
  obtain ⟨before, outdated⟩ := resolved
  obtain ⟨existing, found, lifecycle⟩ := isResolved_iff.mp before
  have older := outdated rfl existing found
  obtain ⟨added, appended, fresh⟩ := persisted.recommendations
  rcases admits existing found lifecycle with ⟨current, -⟩ | ⟨-, known⟩
  · exact absurd older (not_lt.mpr current)
  · have none : added = [] := List.eq_nil_iff_forall_not_mem.mpr fun recommendation member => by
      obtain ⟨-, -, new, recommended⟩ := fresh recommendation member
      exact new (known _ recommended)
    rw [appended, none, List.append_nil]

theorem Persisted.reconciled (persisted : Persisted ext s finding s') (held : s.Reconciled)
    (admits : s.Admits ext finding) : s'.Reconciled where
  unique := persisted.findings ▸ keyed_putFinding held.unique finding
  linked := by
    intro recommendation member
    obtain ⟨added, appended, fresh⟩ := persisted.recommendations
    have after := persisted.isResolved recommendation.findingId
    have effect := isResolved_putFinding s finding recommendation.findingId
    rw [← after] at effect
    by_cases known : recommendation ∈ s.recommendations
    · have linked := held.linked recommendation known
      by_cases resolved : s.isResolved recommendation.findingId = true
      · have stays : s'.isResolved recommendation.findingId = true := by
          refine effect.mpr ⟨resolved, fun same existing found => ?_⟩
          obtain ⟨present, inStore, lifecycle⟩ := isResolved_iff.mp resolved
          rw [inStore] at found
          cases found
          rcases admits existing (same ▸ inStore) lifecycle with ⟨-, unlinked⟩ | ⟨older, -⟩
          · exact absurd same.symm (unlinked recommendation known)
          · exact older
        rw [linked, if_pos resolved, if_pos stays]
      · have stays : ¬s'.isResolved recommendation.findingId = true := fun also => resolved (effect.mp also).1
        rw [linked, if_neg resolved, if_neg stays]
    · have new : recommendation ∈ added := by
        rw [appended, List.mem_append] at member
        exact member.resolve_left known
      obtain ⟨link, lifecycle, -, -⟩ := fresh recommendation new
      have open' : ¬s'.isResolved recommendation.findingId = true := by
        intro resolved
        rw [link] at resolved
        have same := persisted.nothing_added admits resolved
        exact known (same ▸ member)
      rw [lifecycle, if_neg open']

theorem Persisted.admits {other : Finding} (persisted : Persisted ext s finding s')
    (admits : s.Admits ext finding) (also : s.Admits ext other) : s'.Admits ext other := by
  intro existing found lifecycle
  have resolved : s'.isResolved other.id = true := isResolved_iff.mpr ⟨existing, found, lifecycle⟩
  have effect := isResolved_putFinding s finding other.id
  rw [← persisted.isResolved] at effect
  obtain ⟨before, outdated⟩ := effect.mp resolved
  obtain ⟨earlier, inStore, settled⟩ := isResolved_iff.mp before
  obtain ⟨added, appended, fresh⟩ := persisted.recommendations
  have seen : existing.lastSeenAt = earlier.lastSeenAt := by
    have saved : s'.stored other.id = (s.putFinding finding).stored other.id := by
      unfold stored
      rw [persisted.findings]
    rw [found, stored_putFinding, inStore] at saved
    by_cases same : finding.id = other.id
    · rw [if_pos same] at saved
      have older := not_le.mpr (outdated same earlier inStore)
      cases saved
      rw [Option.map_some, Option.getD_some, Finding.reobserve_stale _ older]
    · rw [if_neg same] at saved
      cases saved
      rfl
  unfold keepsLinks
  rw [seen]
  rcases also earlier inStore settled with ⟨current, unlinked⟩ | ⟨older, known⟩
  · refine .inl ⟨current, fun recommendation member => ?_⟩
    rw [appended, List.mem_append] at member
    rcases member with old | new
    · exact unlinked recommendation old
    · intro link
      have same : finding.id = other.id := (fresh recommendation new).1.symm.trans link
      have unchanged := persisted.nothing_added admits (same ▸ resolved)
      have none : added = [] := by simpa [appended] using unchanged
      rw [none] at new
      cases new
  · refine .inr ⟨older, fun id recommended => ?_⟩
    rw [appended, List.map_append]
    exact List.mem_append_left _ (known id recommended)

end MemoryStorage

section Cycles

variable {env : CycleEnv} {w w' : World MemoryStorage}

def SameButExplanation (finding result : Finding) : Prop := ∃ explanation, result = { finding with explanation }

theorem SameButExplanation.refl (finding : Finding) : SameButExplanation finding finding :=
  ⟨finding.explanation, rfl⟩

theorem explained_findings (llm : LlmClient) (node : String) (call : Nat) (findings : List Finding) :
    List.Forall₂ SameButExplanation findings (explained llm node call findings).1 := by
  induction findings generalizing call with
  | nil => exact .nil
  | cons finding findings ih =>
    unfold explained
    split
    · exact List.forall₂_same.mpr fun finding _ => .refl finding
    · split
      · exact .cons ⟨_, rfl⟩ (ih (call + 1))
      · exact .cons (.refl finding) (ih (call + 1))
      · exact .cons (.refl finding) (ih (call + 1))

def OnlyModelRecorded (before after : Option OperationalState) : Prop :=
  after = before ∨ ∃ llm, after = some { before.getD {} with llm }

theorem explainFindings_ok (llm : Option LlmClient) (node : String) (findings : List Finding)
    (w : World MemoryStorage) :
    ∃ results operationalState, explainFindings llm node findings w =
        .ok results (w.withStorage { w.storage with operationalState }) ∧
      OnlyModelRecorded w.storage.operationalState operationalState ∧
      List.Forall₂ SameButExplanation findings results := by
  have unchanged : List.Forall₂ SameButExplanation findings findings :=
    List.forall₂_same.mpr fun finding _ => .refl finding
  unfold explainFindings
  cases llm with
  | none => exact ⟨findings, w.storage.operationalState, rfl, .inl rfl, unchanged⟩
  | some llm =>
    dsimp only
    split
    · exact ⟨findings, w.storage.operationalState, rfl, .inl rfl, unchanged⟩
    · exact ⟨_, _, rfl, .inr ⟨_, rfl⟩, explained_findings llm node 0 findings⟩

theorem exists_of_explained {findings results : List Finding} {result : Finding}
    (explained : List.Forall₂ SameButExplanation findings results) (member : result ∈ results) :
    ∃ finding ∈ findings, SameButExplanation finding result := by
  induction explained with
  | nil => cases member
  | cons same _ ih =>
    rcases List.mem_cons.mp member with rfl | later
    · exact ⟨_, List.mem_cons_self, same⟩
    · obtain ⟨finding, origin, also⟩ := ih later
      exact ⟨finding, List.mem_cons_of_mem _ origin, also⟩

theorem recommend_explanation (ext : External) (clock : Nat → DateTime) (finding : Finding)
    (explanation : Option String) :
    RecommendationEngine.recommend ext clock { finding with explanation } =
      RecommendationEngine.recommend ext clock finding := rfl

theorem recommendedIds_of_ok {clock : Nat → DateTime} {finding : Finding} {recommendations : List Recommendation}
    (made : RecommendationEngine.recommend env.ext clock finding = .ok recommendations) :
    recommendedIds env.ext finding = recommendations.map (·.action.id) := by
  have same := RecommendationEngine.recommend_ids_of_clock env.ext clock (fun _ => 0) finding
  rw [made] at same
  unfold recommendedIds
  cases other : RecommendationEngine.recommend env.ext (fun _ => 0) finding with
  | error e =>
    rw [other] at same
    cases same
  | ok others =>
    rw [other] at same
    injection same with same
    exact same.symm

def recordNew (env : CycleEnv) (w : World MemoryStorage) (recommendation : Recommendation) : World MemoryStorage :=
  if recommendation.action.id ∈ w.storage.recommendations.map (·.action.id) then w
  else {
    storage := { w.storage with
      recommendations := w.storage.recommendations ++ [recommendation]
      audit := w.storage.audit ++ [.fromAction (env.uuid w.ids) (env.clock w.ticks) recommendation.action "system"
        (.ofPairs [("finding_id", .string recommendation.findingId)])] }
    ticks := w.ticks + 1
    ids := w.ids + 1 }

theorem persistRecommendation_eq (recommendation : Recommendation) (w : World MemoryStorage) :
    persistRecommendation env recommendation w = .ok () (recordNew env w recommendation) := by
  unfold persistRecommendation recordNew
  have looked : storage (Storage.recommendationForAction recommendation.action.id) w =
    .ok (Rows.lookup (·.action.id) w.storage.recommendations recommendation.action.id) w := rfl
  rw [bind_of_ok looked]
  cases present : Rows.lookup (fun known : Recommendation => known.action.id) w.storage.recommendations
      recommendation.action.id with
  | some known =>
    rw [if_pos (List.mem_map.mpr ⟨known, Rows.mem_of_lookup present, Rows.key_of_lookup present⟩)]
    rfl
  | none =>
    have new : recommendation.action.id ∉ w.storage.recommendations.map (·.action.id) := by
      intro member
      obtain ⟨known, stored, same⟩ := List.mem_map.mp member
      exact Rows.lookup_eq_none.mp present known stored same
    have saved : storage (Storage.saveRecommendation recommendation) w =
        .ok () (w.withStorage { w.storage with
          recommendations := w.storage.recommendations ++ [recommendation] }) := by
      refine lift_ok.mpr ⟨_, modify_ok.mpr rfl, ?_⟩
      rw [Rows.upsert_of_new new]
      rfl
    rw [if_neg new]
    show (storage (Storage.saveRecommendation recommendation) >>= fun _ => _) w = _
    rw [bind_of_ok saved]
    rfl

theorem persistRecommendations_eq (recommendations : List Recommendation) (w : World MemoryStorage) :
    recommendations.forM (persistRecommendation env) w = .ok () (recommendations.foldl (recordNew env) w) := by
  induction recommendations generalizing w with
  | nil => rfl
  | cons recommendation recommendations ih =>
    show (persistRecommendation env recommendation >>= fun _ => recommendations.forM (persistRecommendation env)) w = _
    rw [bind_of_ok (persistRecommendation_eq recommendation w)]
    exact ih _

theorem recordNew_added (w : World MemoryStorage) (recommendations : List Recommendation) :
    (recommendations.foldl (recordNew env) w).storage.findings = w.storage.findings ∧
      ∃ added, (recommendations.foldl (recordNew env) w).storage.recommendations = w.storage.recommendations ++ added ∧
        ∀ new ∈ added, new ∈ recommendations ∧ new.action.id ∉ w.storage.recommendations.map (·.action.id) := by
  induction recommendations generalizing w with
  | nil => exact ⟨rfl, [], (List.append_nil _).symm, fun _ member => nomatch member⟩
  | cons recommendation recommendations ih =>
    obtain ⟨findings, later, appended, fresh⟩ := ih (recordNew env w recommendation)
    rw [List.foldl_cons]
    unfold recordNew at findings appended fresh ⊢
    split at findings
    next known =>
      rw [if_pos known] at appended fresh ⊢
      exact ⟨findings, later, appended, fun new member =>
        ⟨List.mem_cons_of_mem _ (fresh new member).1, (fresh new member).2⟩⟩
    next unknown =>
      rw [if_neg unknown] at appended fresh ⊢
      refine ⟨findings, recommendation :: later, ?_, fun new member => ?_⟩
      · rw [appended, List.append_assoc]
        rfl
      · rcases List.mem_cons.mp member with rfl | member
        · exact ⟨by simp, unknown⟩
        · obtain ⟨made, other⟩ := fresh new member
          rw [List.map_append, List.mem_append, not_or] at other
          exact ⟨List.mem_cons_of_mem _ made, other.1⟩

theorem persistFinding_eq (finding : Finding) (w : World MemoryStorage) :
    persistFinding env finding w =
      match validateFindingSchema finding.schemaVersion,
        RecommendationEngine.recommend env.ext (fun n => env.clock (w.ticks + n)) finding with
      | .error e, _ => .error ⟨[], .storage e⟩ w
      | .ok _, .error e => .error ⟨
          [s!"recommending for finding {finding.id} from detector {finding.detector} version {finding.detectorVersion}"],
          .recommendation e⟩ (w.withStorage (w.storage.putFinding finding))
      | .ok _, .ok made => .ok made (made.foldl (recordNew env)
          { w with storage := w.storage.putFinding finding, ticks := w.ticks + made.length }) := by
  unfold persistFinding
  cases valid : validateFindingSchema finding.schemaVersion with
  | error e =>
    have failed : storage (Storage.saveFinding finding) w = .error ⟨[], .storage e⟩ w := by
      refine lift_error.mpr ⟨e, w.storage, ?_, rfl, rfl⟩
      show MemoryStorage.saveFinding finding w.storage = _
      rw [MemoryStorage.saveFinding, valid]
    rw [bind_of_error failed]
  | ok _ =>
    have saved : storage (Storage.saveFinding finding) w = .ok () (w.withStorage (w.storage.putFinding finding)) :=
      lift_ok.mpr ⟨_, saveFinding_ok.mpr ⟨valid, rfl⟩, rfl⟩
    rw [bind_of_ok saved]
    cases engine : RecommendationEngine.recommend env.ext (fun n => env.clock (w.ticks + n)) finding with
    | error e =>
      refine bind_of_error (mapError_error.mpr ⟨⟨[], .recommendation e⟩, ?_, rfl⟩) _
      show (match RecommendationEngine.recommend env.ext (fun n => env.clock (w.ticks + n)) finding with
        | .ok _ => _ | .error _ => _) = _
      rw [engine]
    | ok made =>
      have recommended : recommend env finding (w.withStorage (w.storage.putFinding finding)) =
          .ok made { w with storage := w.storage.putFinding finding, ticks := w.ticks + made.length } := by
        unfold recommend
        show (match RecommendationEngine.recommend env.ext (fun n => env.clock (w.ticks + n)) finding with
          | .ok _ => _ | .error _ => _) = _
        rw [engine]
        rfl
      rw [bind_of_ok (mapError_ok.mpr recommended), bind_of_ok (persistRecommendations_eq made _)]
      rfl

theorem persistFinding_ok {finding : Finding} {recommendations : List Recommendation}
    (ran : persistFinding env finding w = .ok recommendations w') :
    w.storage.Persisted env.ext finding w'.storage := by
  rw [persistFinding_eq] at ran
  split at ran
  next => cases ran
  next => cases ran
  next valid engine =>
    cases ran
    obtain ⟨findings, added, appended, fresh⟩ := recordNew_added
      { w with storage := w.storage.putFinding finding, ticks := w.ticks + recommendations.length } recommendations
    refine ⟨findings, added, appended, fun new member => ?_⟩
    obtain ⟨origin, unknown⟩ := fresh new member
    obtain ⟨link, lifecycle⟩ := RecommendationEngine.recommend_linked engine new origin
    have known : new.action.id ∈ recommendedIds env.ext finding := by
      rw [recommendedIds_of_ok engine]
      exact List.mem_map_of_mem origin
    exact ⟨link, lifecycle, unknown, known⟩

theorem persistCycleLocked_ok {findings : List Finding} {recommendations : List Recommendation}
    (held : w.storage.Reconciled) (admitted : ∀ finding ∈ findings, w.storage.Admits env.ext finding)
    (ran : persistCycleLocked env findings w = .ok recommendations w') : w'.storage.Reconciled := by
  induction findings generalizing w recommendations with
  | nil =>
    cases ran
    exact held
  | cons finding findings ih =>
    obtain ⟨first, middle, persisted, rest⟩ := bind_ok.mp ran
    obtain ⟨later, last, persistedLater, returned⟩ := bind_ok.mp rest
    cases returned
    have admits := admitted finding (by simp)
    have step := persistFinding_ok persisted
    exact ih (step.reconciled held admits)
      (fun other member => step.admits admits (admitted other (List.mem_cons_of_mem _ member))) persistedLater

structure SameLinks (s t : MemoryStorage) : Prop where
  findings : t.findings = s.findings
  findingAbsent : t.findingAbsent = s.findingAbsent
  recommendations : t.recommendations = s.recommendations

theorem saveChannelSnapshots_eq (snapshots : List ChannelSnapshot) (w : World MemoryStorage) :
    (snapshots.forM fun snapshot => storage (Storage.saveChannelSnapshot snapshot)) w =
      .ok () (w.withStorage { w.storage with channelSnapshots := w.storage.channelSnapshots ++ snapshots }) := by
  induction snapshots generalizing w with
  | nil =>
    rw [List.append_nil]
    rfl
  | cons snapshot snapshots ih =>
    have next := ih (w.withStorage { w.storage with channelSnapshots := w.storage.channelSnapshots ++ [snapshot] })
    dsimp only [World.withStorage] at next
    rw [List.append_assoc] at next
    exact next

theorem resolveScopes_eq (scopes : List FindingCycleScope) (w : World MemoryStorage) :
    (scopes.forM fun scope => storage (Storage.resolveFindingsForScope scope)) w =
      .ok () (w.withStorage (w.storage.resolveAll scopes)) := by
  induction scopes generalizing w with
  | nil => rfl
  | cons scope scopes ih => exact ih (w.withStorage (w.storage.resolveScope scope))

def prepared (snapshots : List ChannelSnapshot) (scopes : List FindingCycleScope) (w : World MemoryStorage) :
    World MemoryStorage where
  storage := ({ w.storage with
    channelSnapshots := w.storage.channelSnapshots ++ snapshots }.resolveAll scopes).syncLifecycles
  ticks := w.ticks + 1
  ids := w.ids

def succeeded (env : CycleEnv) (w : World MemoryStorage) : World MemoryStorage where
  storage := { w.storage with
    operationalState := some { w.storage.operationalState.getD {} with
      lastCycleSuccess := some (env.clock w.ticks), lastPersistSuccess := some (env.clock w.ticks) } }
  ticks := w.ticks + 1
  ids := w.ids

theorem persistCycleInside_eq (snapshots : List ChannelSnapshot) (scopes : List FindingCycleScope)
    (results : List Finding) (w : World MemoryStorage) :
    persistCycleInside env snapshots scopes results w =
      match persistCycleLocked env results (prepared snapshots scopes w) with
      | .ok recommendations m => .ok recommendations (succeeded env m)
      | .error e m => .error e m := by
  unfold persistCycleInside
  rw [bind_of_ok (saveChannelSnapshots_eq snapshots w), bind_of_ok (resolveScopes_eq scopes _)]
  have synced (w : World MemoryStorage) : mapError (addContext "syncing recommendation lifecycles")
      (syncLifecycles env) w = .ok () { w with storage := w.storage.syncLifecycles, ticks := w.ticks + 1 } := rfl
  rw [bind_of_ok (synced _)]
  show (persistCycleLocked env results >>= _) (prepared snapshots scopes w) = _
  cases ran : persistCycleLocked env results (prepared snapshots scopes w) with
  | ok recommendations m => rw [bind_of_ok ran]; rfl
  | error e m => rw [bind_of_error ran]

theorem resolveAll_recommendations (s : MemoryStorage) (scopes : List FindingCycleScope) :
    (s.resolveAll scopes).recommendations = s.recommendations := by
  obtain ⟨findings, findingAbsent, same⟩ := resolveAll_frame s scopes
  rw [same]

theorem admits_resolveAll {cycle : CycleInput} {ext : External} {s t m : MemoryStorage} {finding result : Finding}
    (unique : Rows.Keyed Finding.id t.findings) (clean : cycle.Clean ext s) (links : SameLinks s t)
    (synced : m = (t.resolveAll cycle.scopes).syncLifecycles) (member : finding ∈ cycle.findings)
    (explained : SameButExplanation finding result) : m.Admits ext result := by
  obtain ⟨explanation, rfl⟩ := explained
  intro later found lifecycle
  rw [synced] at found
  obtain ⟨existing, changed, stored, rfl, ends⟩ := stored_resolveAll unique found
  have inStart : s.stored finding.id = some existing := by
    unfold MemoryStorage.stored at stored ⊢
    rwa [links.findings] at stored
  have endsResolved : s.endsResolved cycle.scopes existing := by
    have reached := ends lifecycle
    unfold endsResolved MemoryStorage.absence at reached ⊢
    rwa [links.findingAbsent] at reached
  have linkedIds : m.recommendations.map (·.action.id) = s.recommendations.map (·.action.id) ∧
      m.recommendations.map (·.findingId) = s.recommendations.map (·.findingId) := by
    rw [synced, ← links.recommendations, ← resolveAll_recommendations t cycle.scopes]
    constructor <;>
    · refine List.map_map.trans (List.map_congr_left fun recommendation _ => ?_)
      dsimp only [Function.comp_apply]
      split <;> rfl
  rcases clean finding member existing inStart endsResolved with ⟨current, unlinked⟩ | ⟨older, known⟩
  · refine .inl ⟨current, fun recommendation inStore link => ?_⟩
    have named : finding.id ∈ m.recommendations.map (·.findingId) :=
      List.mem_map.mpr ⟨recommendation, inStore, link⟩
    rw [linkedIds.2] at named
    obtain ⟨before, wasThere, same⟩ := List.mem_map.mp named
    exact unlinked before wasThere same
  · refine .inr ⟨older, fun id recommended => ?_⟩
    rw [linkedIds.1]
    exact known id recommended

theorem persistCycleInside_ok {cycle : CycleInput} {s : MemoryStorage} {results : List Finding}
    {recommendations : List Recommendation} (held : s.Reconciled) (links : SameLinks s w.storage)
    (explained : List.Forall₂ SameButExplanation cycle.findings results) (clean : cycle.Clean env.ext s)
    (ran : persistCycleInside env cycle.snapshots cycle.scopes results w = .ok recommendations w') :
    w'.storage.Reconciled := by
  let recorded : MemoryStorage := { w.storage with channelSnapshots := w.storage.channelSnapshots ++ cycle.snapshots }
  have start : SameLinks s recorded := ⟨links.findings, links.findingAbsent, links.recommendations⟩
  have begun : recorded.Reconciled := held.congr start.findings start.recommendations
  have settled : (prepared cycle.snapshots cycle.scopes w).storage =
      (recorded.resolveAll cycle.scopes).syncLifecycles :=
    rfl
  have reconciled : (prepared cycle.snapshots cycle.scopes w).storage.Reconciled := by
    rw [settled]
    exact reconciled_sync begun (keyed_resolveAll begun.unique cycle.scopes)
      (resolveAll_recommendations recorded cycle.scopes)
      fun _ before => isResolved_resolveAll begun.unique cycle.scopes before
  have admitted : ∀ result ∈ results, (prepared cycle.snapshots cycle.scopes w).storage.Admits env.ext result := by
    intro result member
    obtain ⟨finding, origin, explains⟩ := exists_of_explained explained member
    exact admits_resolveAll begun.unique clean start settled origin explains
  rw [persistCycleInside_eq] at ran
  cases persisted : persistCycleLocked env results (prepared cycle.snapshots cycle.scopes w) with
  | ok recommendations m =>
    rw [persisted] at ran
    cases ran
    exact (persistCycleLocked_ok reconciled admitted persisted).congr rfl rfl
  | error e m =>
    rw [persisted] at ran
    cases ran

theorem persist_eq (env : CycleEnv) (cycle : CycleInput) (idle : w.storage.transactionSnapshot = none) :
    ∃ results operationalState, List.Forall₂ SameButExplanation cycle.findings results ∧
      OnlyModelRecorded w.storage.operationalState operationalState ∧
      let start := w.withStorage { w.storage with operationalState }
      cycle.persist env w =
        closed start.storage.snapshot (persistCycleInside env cycle.snapshots cycle.scopes results start.begun) := by
  obtain ⟨results, operationalState, ran, model, explains⟩ := explainFindings_ok cycle.llm cycle.node cycle.findings w
  refine ⟨results, operationalState, explains, model, ?_⟩
  unfold CycleInput.persist persistCycle
  rw [bind_of_ok ran]
  have still : (w.withStorage { w.storage with operationalState }).storage.transactionSnapshot = none := idle
  exact transacted_memory still fun saved =>
    (writesKeep saved).persistCycleInside env _ _ results

theorem persist_keeps {cycle : CycleInput} (held : w.storage.Reconciled)
    (idle : w.storage.transactionSnapshot = none)
    (clean : StatefulResult.succeeds (cycle.persist env) w = true → cycle.Clean env.ext w.storage) :
    (final (cycle.persist env) w).storage.Reconciled ∧
      (final (cycle.persist env) w).storage.transactionSnapshot = none := by
  obtain ⟨results, operationalState, explains, -, ran⟩ := persist_eq env cycle idle
  let start := w.withStorage { w.storage with operationalState }
  unfold StatefulResult.succeeds at clean
  unfold final
  rw [ran] at clean ⊢
  cases inside : persistCycleInside env cycle.snapshots cycle.scopes results start.begun with
  | ok recommendations m =>
    rw [inside] at clean
    have links : SameLinks w.storage start.begun.storage := ⟨rfl, rfl, rfl⟩
    have reconciled := persistCycleInside_ok held links explains (clean rfl) inside
    exact ⟨reconciled.congr rfl rfl, rfl⟩
  | error e m => exact ⟨held.congr rfl rfl, rfl⟩

theorem runCycles_keeps {history : List CycleInput} (held : w.storage.Reconciled)
    (idle : w.storage.transactionSnapshot = none) (clean : CleanRun env w history) :
    (runCycles env w history).storage.Reconciled := by
  have step (w : World MemoryStorage) (cycle : CycleInput)
      (start : w.storage.Reconciled ∧ w.storage.transactionSnapshot = none)
      (clean : StatefulResult.succeeds (cycle.persist env) w = true → cycle.Clean env.ext w.storage) :
      (afterCycle env w cycle).storage.Reconciled ∧ (afterCycle env w cycle).storage.transactionSnapshot = none :=
    persist_keeps start.1 start.2 clean
  exact (EachStep.invariant step ⟨held, idle⟩ clean).1

end Cycles

/-- From an empty store, over any run whose successful cycles are clean, a recommendation is resolved exactly
    when its finding is stored as resolved, and those of the other findings are listed as active. -/
theorem recommendations_follow_findings (env : CycleEnv) (history : List CycleInput)
    (clean : CleanRun env ⟨MemoryStorage.new, 0, 0⟩ history) :
    let s := (runCycles env ⟨MemoryStorage.new, 0, 0⟩ history).storage
    (∀ recommendation ∈ s.recommendations, recommendation.lifecycle = some "resolved" ↔
      ∃ finding, s.stored recommendation.findingId = some finding ∧ finding.lifecycle = .resolved) ∧
    ∀ limit, latestActiveRecommendations limit s =
      .ok ((s.recommendations.filter fun recommendation =>
        !s.isResolved recommendation.findingId).reverse.take limit) s := by
  intro s
  have held : s.Reconciled := runCycles_keeps Reconciled.new rfl clean
  refine ⟨fun recommendation member => ?_, held.latestActive⟩
  rw [held.linked recommendation member, ← isResolved_iff]
  split <;> simp_all

def drainedChannel (seenAt : DateTime) : Finding :=
  { Finding.bare "f" "channel_liquidity" seenAt with
    channel := some "chan"
    evidence :=
      [.string "direction" "outbound", .number "local_ratio" (.ofNat 0), .number "local_balance_msat" (.ofNat 0),
        .number "remote_balance_msat" (.ofNat 100), .number "capacity_msat" (.ofNat 100), .string "peer" "peer"] }

def liquidityCycle (findings : List Finding) : CycleInput :=
  ⟨none, "node", [], [⟨"channel_liquidity", none, none, true⟩], findings⟩

theorem recommendations_follow_findings_absent :
    let env : CycleEnv := ⟨⟨fun _ => "digest", fun _ => "null", fun _ => "instant", fun _ => "instant"⟩,
      fun tick => tick, fun _ => "uuid"⟩
    let history := [liquidityCycle [drainedChannel 10], liquidityCycle [], liquidityCycle [], liquidityCycle []]
    let s := (runCycles env ⟨MemoryStorage.new, 0, 0⟩ history).storage
    s.recommendations.map (·.lifecycle) = [some "resolved"] ∧
      (∀ recommendation ∈ s.recommendations, recommendation.lifecycle = some "resolved" ↔
        ∃ finding, s.stored recommendation.findingId = some finding ∧ finding.lifecycle = .resolved) ∧
      ∀ limit, latestActiveRecommendations limit s =
        .ok ((s.recommendations.filter fun recommendation =>
          !s.isResolved recommendation.findingId).reverse.take limit) s := by
  intro env history s
  have first : (liquidityCycle [drainedChannel 10]).Clean env.ext MemoryStorage.new :=
    fun _ _ _ found => nomatch found
  have absent (s : MemoryStorage) : (liquidityCycle []).Clean env.ext s := fun _ member => nomatch member
  have clean : CleanRun env ⟨MemoryStorage.new, 0, 0⟩ history :=
    ⟨fun _ => first, fun _ => absent _, fun _ => absent _, fun _ => absent _, trivial⟩
  exact ⟨by decide +kernel, recommendations_follow_findings env history clean⟩

/-- A finding that returns after three absences is active again, its recommendation stays resolved and is
    not listed. -/
theorem returning_finding_keeps_resolved_recommendation :
    let env : CycleEnv := ⟨⟨fun _ => "digest", fun _ => "null", fun _ => "instant", fun _ => "instant"⟩,
      fun tick => tick, fun _ => "uuid"⟩
    let history := [liquidityCycle [drainedChannel 10], liquidityCycle [], liquidityCycle [], liquidityCycle []]
    let w := runCycles env ⟨MemoryStorage.new, 0, 0⟩ history
    let s := (final ((liquidityCycle [drainedChannel 20]).persist env) w).storage
    StatefulResult.succeeds ((liquidityCycle [drainedChannel 20]).persist env) w = true ∧
      (s.stored "f").map (·.lifecycle) = some .active ∧
      s.recommendations.map (fun recommendation => (recommendation.findingId, recommendation.lifecycle)) =
        [("f", some "resolved")] ∧
      (value (latestActiveRecommendations 10) s).toOption.map List.length = some 0 := by
  intro env history w s
  refine ⟨by decide +kernel, by decide +kernel, by decide +kernel, by decide +kernel⟩

end Rieko
