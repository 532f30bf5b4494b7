import Rieko.Storage.MemoryFindings

namespace Rieko

open Hysteresis

def Finding.ownScope (finding : Finding) : FindingCycleScope :=
  ⟨finding.detector, finding.network, finding.node, true⟩

theorem Finding.ownScope_covers (finding : Finding) : finding.ownScope.covers finding = true := by
  simp [Finding.ownScope, FindingCycleScope.covers]

/-- A complete cycle of the finding's own scope, which counts as an absence of a finding it does not observe. -/
def FindingCycleScope.countsAgainst (scope : FindingCycleScope) (finding : Finding) : Bool :=
  scope.complete ∧ scope.covers finding

namespace Tracked

theorem phase_settled {tracked : Tracked} : tracked.phase = .settled ↔ tracked.finding.lifecycle = .resolved := by
  unfold Tracked.phase
  cases tracked.finding.lifecycle <;> simp

def resolveAll (scopes : List FindingCycleScope) (tracked : Tracked) : Tracked :=
  scopes.foldl (fun tracked scope => if scope.complete then tracked.resolve scope else tracked) tracked

theorem resolveAll_finding (scopes : List FindingCycleScope) (tracked : Tracked) :
    ∃ lifecycle, (tracked.resolveAll scopes).finding = { tracked.finding with lifecycle } := by
  induction scopes generalizing tracked with
  | nil => exact ⟨tracked.finding.lifecycle, rfl⟩
  | cons scope scopes ih =>
    have rest := ih (if scope.complete then tracked.resolve scope else tracked)
    by_cases complete : scope.complete = true
    · obtain ⟨first, same⟩ := tracked.resolve_finding scope
      rw [if_pos complete, same] at rest
      simpa only [resolveAll, List.foldl_cons, if_pos complete] using rest
    · rw [if_neg complete] at rest
      simpa only [resolveAll, List.foldl_cons, if_neg complete] using rest

theorem phase_resolveAll (scopes : List FindingCycleScope) (tracked : Tracked) :
    (tracked.resolveAll scopes).phase =
      (Phase.miss 3)^[scopes.countP (·.countsAgainst tracked.finding)] tracked.phase := by
  induction scopes generalizing tracked with
  | nil => rfl
  | cons scope scopes ih =>
    have rest := ih (if scope.complete then tracked.resolve scope else tracked)
    rw [List.countP_cons]
    by_cases complete : scope.complete = true
    · have same : scopes.countP (·.countsAgainst (tracked.resolve scope).finding) =
          scopes.countP (·.countsAgainst tracked.finding) := by
        unfold FindingCycleScope.countsAgainst
        simp only [resolve_covers]
      rw [if_pos complete, same, phase_resolve] at rest
      rw [resolveAll, List.foldl_cons, if_pos complete, ← resolveAll, rest]
      by_cases covered : scope.covers tracked.finding = true
      · simp [FindingCycleScope.countsAgainst, complete, covered, Function.iterate_succ_apply]
      · simp [FindingCycleScope.countsAgainst, covered]
    · rw [if_neg complete] at rest
      rw [resolveAll, List.foldl_cons, if_neg complete, ← resolveAll, rest]
      simp [FindingCycleScope.countsAgainst, complete]

end Tracked

namespace MemoryStorage

def resolveAll (s : MemoryStorage) (scopes : List FindingCycleScope) : MemoryStorage :=
  scopes.foldl resolveScope s

/-- A resolution changes findings and their absences alone. -/
theorem resolveAll_frame (s : MemoryStorage) (scopes : List FindingCycleScope) :
    ∃ findings findingAbsent, s.resolveAll scopes = { s with findings, findingAbsent } := by
  induction scopes generalizing s with
  | nil => exact ⟨s.findings, s.findingAbsent, rfl⟩
  | cons scope scopes ih =>
    have first : ∃ findings findingAbsent, s.resolveScope scope = { s with findings, findingAbsent } := by
      unfold resolveScope
      split
      · exact ⟨_, _, rfl⟩
      · exact ⟨s.findings, s.findingAbsent, rfl⟩
    obtain ⟨findings, findingAbsent, same⟩ := first
    obtain ⟨findings', findingAbsent', rest⟩ := ih (s.resolveScope scope)
    exact ⟨findings', findingAbsent', rest.trans (by rw [same])⟩

theorem keyed_resolveAll {s : MemoryStorage} (unique : Rows.Keyed Finding.id s.findings)
    (scopes : List FindingCycleScope) : Rows.Keyed Finding.id (s.resolveAll scopes).findings := by
  induction scopes generalizing s with
  | nil => exact unique
  | cons scope scopes ih => exact ih (keyed_resolveScope unique scope)

theorem tracked_resolveAll {s : MemoryStorage} (unique : Rows.Keyed Finding.id s.findings)
    (scopes : List FindingCycleScope) (id : String) :
    (s.resolveAll scopes).tracked id = (s.tracked id).map (Tracked.resolveAll scopes) := by
  induction scopes generalizing s with
  | nil => exact Option.map_id.symm ▸ rfl
  | cons scope scopes ih =>
    have rest := ih (keyed_resolveScope unique scope)
    rw [tracked_resolveScope unique] at rest
    refine rest.trans ?_
    by_cases complete : scope.complete = true
    · rw [if_pos complete, Option.map_map]
      congr 1
      funext tracked
      simp only [Function.comp_apply, Tracked.resolveAll, List.foldl_cons, if_pos complete]
    · rw [if_neg complete]
      congr 1
      funext tracked
      simp only [Tracked.resolveAll, List.foldl_cons, if_neg complete]

theorem resolved_after_cycles {s : MemoryStorage} (unique : Rows.Keyed Finding.id s.findings) {id : String}
    {finding : Finding} (stored : s.stored id = some finding) (active : finding.lifecycle = .active)
    (bound : s.absence id ≤ 2) (k : Nat) :
    ∃ later, (s.resolveAll (List.replicate k finding.ownScope)).stored id = some later ∧
      (later.lifecycle = .resolved ↔ 3 ≤ s.absence id + k) := by
  have tracked : s.tracked id = some ⟨finding, s.absence id⟩ := by rw [MemoryStorage.tracked, stored]; rfl
  have run := tracked_resolveAll unique (List.replicate k finding.ownScope) id
  rw [tracked, Option.map_some] at run
  obtain ⟨later, present, same⟩ := Option.map_eq_some_iff.mp run
  have start : (⟨finding, s.absence id⟩ : Tracked).phase = Phase.after 3 (s.absence id) := by
    unfold Tracked.phase Phase.after
    rw [active, if_neg (by omega)]
  have misses : (List.replicate k finding.ownScope).countP (·.countsAgainst finding) = k := by
    have counts : finding.ownScope.countsAgainst finding = true := decide_eq_true ⟨rfl, finding.ownScope_covers⟩
    rw [List.countP_replicate, if_pos counts]
  have phase := Tracked.phase_resolveAll (List.replicate k finding.ownScope) ⟨finding, s.absence id⟩
  rw [start, misses, misses_after] at phase
  refine ⟨later, present, ?_⟩
  rw [← after_settled, ← phase, Tracked.phase_settled, ← same]

end MemoryStorage

end Rieko
