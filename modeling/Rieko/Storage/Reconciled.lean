import Rieko.Storage.ResolveCycles

namespace Rieko

open Hysteresis

/-- A finding stored before a cycle that the scopes of the cycle leave resolved. -/
def MemoryStorage.endsResolved (s : MemoryStorage) (scopes : List FindingCycleScope) (existing : Finding) : Prop :=
  existing.lifecycle = .resolved ∨ 3 ≤ s.absence existing.id + scopes.countP (·.countsAgainst existing)

namespace MemoryStorage

def isResolved (s : MemoryStorage) (id : String) : Bool := (s.stored id).any (·.lifecycle = .resolved)

/-- Recommendations are resolved along with the findings they are linked to. -/
structure Reconciled (s : MemoryStorage) : Prop where
  unique : Rows.Keyed Finding.id s.findings
  linked : ∀ recommendation ∈ s.recommendations,
    recommendation.lifecycle = if s.isResolved recommendation.findingId then some "resolved" else none

theorem isResolved_iff {s : MemoryStorage} {id : String} :
    s.isResolved id = true ↔ ∃ finding, s.stored id = some finding ∧ finding.lifecycle = .resolved := by
  simp [isResolved, Option.any_eq_true]

theorem Reconciled.new : Reconciled MemoryStorage.new where
  unique := List.nodup_nil
  linked _ member := nomatch member

theorem Reconciled.congr {s t : MemoryStorage} (held : s.Reconciled) (findings : t.findings = s.findings)
    (recommendations : t.recommendations = s.recommendations) : t.Reconciled where
  unique := findings ▸ held.unique
  linked := by
    unfold isResolved stored
    rw [findings, recommendations]
    exact held.linked

theorem Reconciled.isActive_iff {s : MemoryStorage} (held : s.Reconciled) {recommendation : Recommendation}
    (member : recommendation ∈ s.recommendations) :
    recommendation.isActive = true ↔ s.isResolved recommendation.findingId = false := by
  rw [Recommendation.isActive, held.linked recommendation member]
  cases s.isResolved recommendation.findingId <;> decide

theorem Reconciled.latestActive {s : MemoryStorage} (held : s.Reconciled) (limit : Nat) :
    latestActiveRecommendations limit s =
      .ok ((s.recommendations.filter fun recommendation =>
        !s.isResolved recommendation.findingId).reverse.take limit) s := by
  have same : s.recommendations.filter (·.isActive) =
      s.recommendations.filter fun recommendation => !s.isResolved recommendation.findingId := by
    refine List.filter_congr fun recommendation member => ?_
    rw [Bool.eq_iff_iff, held.isActive_iff member, Bool.not_eq_true']
  rw [latestActiveRecommendations, same]

theorem mem_resolvedIds {s : MemoryStorage} (unique : Rows.Keyed Finding.id s.findings) {id : String} :
    id ∈ s.resolvedIds ↔ s.isResolved id = true := by
  rw [isResolved_iff, resolvedIds, List.mem_map]
  constructor
  · rintro ⟨finding, member, rfl⟩
    obtain ⟨inStore, resolved⟩ := List.mem_filter.mp member
    exact ⟨finding, Rows.lookup_of_mem unique inStore, of_decide_eq_true resolved⟩
  · rintro ⟨finding, found, resolved⟩
    exact ⟨finding, List.mem_filter.mpr ⟨Rows.mem_of_lookup found, decide_eq_true resolved⟩, stored_id found⟩

theorem isResolved_resolveAll {s : MemoryStorage} (unique : Rows.Keyed Finding.id s.findings)
    (scopes : List FindingCycleScope) {id : String} (resolved : s.isResolved id = true) :
    (s.resolveAll scopes).isResolved id = true := by
  obtain ⟨finding, found, lifecycle⟩ := isResolved_iff.mp resolved
  have run := tracked_resolveAll unique scopes id
  rw [tracked, tracked, found, Option.map_some, Option.map_some] at run
  obtain ⟨later, present, same⟩ := Option.map_eq_some_iff.mp run
  have settled : (⟨finding, s.absence id⟩ : Tracked).phase = .settled := Tracked.phase_settled.mpr lifecycle
  have phase := Tracked.phase_resolveAll scopes ⟨finding, s.absence id⟩
  rw [settled, misses_settled, Tracked.phase_settled, ← same] at phase
  exact isResolved_iff.mpr ⟨later, present, phase⟩

theorem stored_resolveAll {s : MemoryStorage} (unique : Rows.Keyed Finding.id s.findings)
    {scopes : List FindingCycleScope} {id : String} {later : Finding}
    (found : (s.resolveAll scopes).stored id = some later) :
    ∃ existing lifecycle, s.stored id = some existing ∧ later = { existing with lifecycle } ∧
      (later.lifecycle = .resolved → s.endsResolved scopes existing) := by
  have run := tracked_resolveAll unique scopes id
  rw [tracked, found, Option.map_some] at run
  obtain ⟨before, present, same⟩ := Option.map_eq_some_iff.mp run.symm
  obtain ⟨existing, stored, rfl⟩ := Option.map_eq_some_iff.mp present
  obtain ⟨lifecycle, changed⟩ := Tracked.resolveAll_finding scopes ⟨existing, s.absence id⟩
  refine ⟨existing, lifecycle, stored, ?_, fun resolved => ?_⟩
  · rw [same] at changed
    exact changed
  · have phase := Tracked.phase_resolveAll scopes ⟨existing, s.absence id⟩
    rw [same, Tracked.phase_settled.mpr resolved] at phase
    unfold endsResolved
    rw [stored_id stored]
    cases before : existing.lifecycle with
    | resolved => exact .inl rfl
    | active =>
      have counting : (⟨existing, s.absence id⟩ : Tracked).phase = .counting (s.absence id) := by
        simp [Tracked.phase, before]
      rw [counting] at phase
      exact .inr (reached_of_settled phase.symm)

theorem reconciled_sync {s m : MemoryStorage} (held : s.Reconciled) (unique : Rows.Keyed Finding.id m.findings)
    (same : m.recommendations = s.recommendations)
    (grows : ∀ id, s.isResolved id = true → m.isResolved id = true) : m.syncLifecycles.Reconciled where
  unique := unique
  linked := by
    intro recommendation member
    obtain ⟨before, stored, rfl⟩ := List.mem_map.mp member
    rw [same] at stored
    have linked := held.linked before stored
    change _ = if m.isResolved _ then _ else _
    have listed : before.findingId ∈ m.resolvedIds ↔ m.isResolved before.findingId = true := mem_resolvedIds unique
    by_cases resolved : m.isResolved before.findingId = true
    · simp [listed, resolved]
    · have notBefore : ¬s.isResolved before.findingId = true := fun also => resolved (grows _ also)
      rw [if_neg notBefore] at linked
      simp [listed, resolved, linked]

theorem isResolved_putFinding (s : MemoryStorage) (finding : Finding) (id : String) :
    (s.putFinding finding).isResolved id = true ↔
      s.isResolved id = true ∧ (finding.id = id →
        ∀ existing, s.stored id = some existing → finding.lastSeenAt < existing.lastSeenAt) := by
  rw [isResolved_iff, isResolved_iff, stored_putFinding]
  by_cases same : finding.id = id
  · rw [if_pos same]
    cases found : s.stored id with
    | none => simp
    | some existing =>
      by_cases fresh : existing.lastSeenAt ≤ finding.lastSeenAt
      · have active := (Finding.reobserve_fresh (earliestFirstSeen s.findings finding) fresh).1
        have notOlder : ¬finding.lastSeenAt < existing.lastSeenAt := not_lt.mpr fresh
        simp [active, same, notOlder]
      · have older : finding.lastSeenAt < existing.lastSeenAt := not_le.mp fresh
        simp [Finding.reobserve_stale _ fresh, older]
  · simp [same]

end MemoryStorage

end Rieko
