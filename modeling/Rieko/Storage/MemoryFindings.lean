import Rieko.Lib.Hysteresis
import Rieko.Storage.Memory

namespace Rieko

structure Tracked where
  finding : Finding
  absent : Nat

namespace Tracked

def resolve (scope : FindingCycleScope) (tracked : Tracked) : Tracked :=
  if scope.covers tracked.finding ∧ tracked.finding.lifecycle = .active then
    if 3 ≤ tracked.absent + 1 then ⟨{ tracked.finding with lifecycle := .resolved }, 0⟩
    else { tracked with absent := tracked.absent + 1 }
  else tracked

def phase (tracked : Tracked) : Hysteresis.Phase :=
  match tracked.finding.lifecycle with
  | .active => .counting tracked.absent
  | .resolved => .settled

@[simp] theorem resolve_id (scope : FindingCycleScope) (tracked : Tracked) :
    (tracked.resolve scope).finding.id = tracked.finding.id := by
  unfold resolve
  split
  · split <;> rfl
  · rfl

theorem resolve_finding (scope : FindingCycleScope) (tracked : Tracked) :
    ∃ lifecycle, (tracked.resolve scope).finding = { tracked.finding with lifecycle } := by
  unfold resolve
  split
  · split
    · exact ⟨.resolved, rfl⟩
    · exact ⟨tracked.finding.lifecycle, rfl⟩
  · exact ⟨tracked.finding.lifecycle, rfl⟩

@[simp] theorem resolve_covers (scope other : FindingCycleScope) (tracked : Tracked) :
    other.covers (tracked.resolve scope).finding = other.covers tracked.finding := by
  obtain ⟨lifecycle, same⟩ := resolve_finding scope tracked
  rw [same]
  rfl

theorem phase_resolve (scope : FindingCycleScope) (tracked : Tracked) :
    (tracked.resolve scope).phase =
      if scope.covers tracked.finding then tracked.phase.miss 3 else tracked.phase := by
  by_cases covered : scope.covers tracked.finding
  · rw [if_pos covered]
    unfold resolve phase
    cases lifecycle : tracked.finding.lifecycle
    · by_cases settles : 3 ≤ tracked.absent + 1
      · simp [covered, settles, Hysteresis.Phase.miss]
      · simp [covered, settles, Hysteresis.Phase.miss, lifecycle]
    · simp [Hysteresis.Phase.miss, lifecycle]
  · simp [resolve, covered]

theorem resolve_absent_le {scope : FindingCycleScope} {tracked : Tracked} (bound : tracked.absent ≤ 2) :
    (tracked.resolve scope).absent ≤ 2 := by
  unfold resolve
  split
  · split
    · exact Nat.zero_le 2
    · show tracked.absent + 1 ≤ 2
      omega
  · exact bound

end Tracked

@[simp] theorem Finding.reobserve_id (existing finding : Finding) (firstSeenAt : DateTime) :
    (existing.reobserve finding firstSeenAt).id = existing.id := by
  unfold Finding.reobserve
  split <;> rfl

theorem Finding.reobserve_fresh {existing finding : Finding} (firstSeenAt : DateTime)
    (fresh : existing.lastSeenAt ≤ finding.lastSeenAt) :
    (existing.reobserve finding firstSeenAt).lifecycle = .active ∧
      (existing.reobserve finding firstSeenAt).lastSeenAt = finding.lastSeenAt ∧
      (existing.reobserve finding firstSeenAt).provenance = finding.provenance := by
  unfold Finding.reobserve
  rw [if_pos fresh]
  exact ⟨rfl, rfl, rfl⟩

theorem Finding.reobserve_stale {existing finding : Finding} (firstSeenAt : DateTime)
    (stale : ¬existing.lastSeenAt ≤ finding.lastSeenAt) :
    existing.reobserve finding firstSeenAt =
      { existing with firstSeenAt := min existing.firstSeenAt firstSeenAt } := by
  unfold Finding.reobserve
  rw [if_neg stale]

theorem Finding.reobserve_origin (existing finding : Finding) (firstSeenAt : DateTime) :
    (existing.reobserve finding firstSeenAt).detector = existing.detector ∧
      (existing.reobserve finding firstSeenAt).node = existing.node := by
  unfold Finding.reobserve
  split <;> exact ⟨rfl, rfl⟩

theorem validateFindingSchema_ok {version : Nat} :
    validateFindingSchema version = .ok () ↔ 1 ≤ version ∧ version ≤ findingSchemaVersion := by
  unfold validateFindingSchema
  split <;> simp_all

def absentCount (absent : HashMap Nat) (id : String) : Nat := (absent.lookup id).getD 0

theorem resolveFinding_finding (scope : FindingCycleScope) (absent : HashMap Nat) (finding : Finding) :
    (resolveFinding scope absent finding).1 =
      (Tracked.resolve scope ⟨finding, absentCount absent finding.id⟩).finding := by
  unfold resolveFinding Tracked.resolve absentCount
  by_cases touched : scope.covers finding = true ∧ finding.lifecycle = .active
  · by_cases settles : 3 ≤ (absent.lookup finding.id).getD 0 + 1
    · simp only [if_pos touched, if_pos settles]
    · simp only [if_pos touched, if_neg settles]
  · simp only [if_neg touched]

theorem absentCount_resolveFinding (scope : FindingCycleScope) (absent : HashMap Nat) (finding : Finding)
    (id : String) :
    absentCount (resolveFinding scope absent finding).2 id =
      if finding.id = id then (Tracked.resolve scope ⟨finding, absentCount absent id⟩).absent
      else absentCount absent id := by
  unfold resolveFinding Tracked.resolve absentCount
  by_cases touched : scope.covers finding = true ∧ finding.lifecycle = .active
  · by_cases same : finding.id = id
    · subst same
      by_cases settles : 3 ≤ (absent.lookup finding.id).getD 0 + 1
      · simp only [if_pos touched, if_pos settles, AList.lookup_erase, Option.getD_none, if_true]
      · simp only [if_pos touched, if_neg settles, AList.lookup_insert, Option.getD_some, if_true]
    · simp only [if_neg same, if_pos touched]
      split
      · rw [AList.lookup_erase_ne (Ne.symm same)]
      · rw [AList.lookup_insert_ne (Ne.symm same)]
  · simp only [if_neg touched, ite_self]

@[simp] theorem resolveFinding_id (scope : FindingCycleScope) (absent : HashMap Nat) (finding : Finding) :
    (resolveFinding scope absent finding).1.id = finding.id := by
  rw [resolveFinding_finding]
  exact Tracked.resolve_id scope _

theorem resolveFindings_ids (scope : FindingCycleScope) (findings : List Finding) (absent : HashMap Nat) :
    (resolveFindings scope findings absent).1.map Finding.id = findings.map Finding.id := by
  induction findings generalizing absent with
  | nil => rfl
  | cons finding findings ih => simp [resolveFindings, ih]

theorem resolveFindings_lookup {findings : List Finding} (unique : Rows.Keyed Finding.id findings)
    (scope : FindingCycleScope) (absent : HashMap Nat) (id : String) :
    Rows.lookup Finding.id (resolveFindings scope findings absent).1 id =
        (Rows.lookup Finding.id findings id).map
          (fun finding => (Tracked.resolve scope ⟨finding, absentCount absent id⟩).finding) ∧
      absentCount (resolveFindings scope findings absent).2 id =
        match Rows.lookup Finding.id findings id with
        | some finding => (Tracked.resolve scope ⟨finding, absentCount absent id⟩).absent
        | none => absentCount absent id := by
  induction findings generalizing absent with
  | nil => exact ⟨rfl, rfl⟩
  | cons finding findings ih =>
    unfold Rows.Keyed at unique
    rw [List.map_cons, List.nodup_cons] at unique
    obtain ⟨tailFound, tailCount⟩ := ih unique.2 (resolveFinding scope absent finding).2
    have headCount := absentCount_resolveFinding scope absent finding id
    simp only [resolveFindings, Rows.lookup_cons, resolveFinding_id]
    by_cases same : finding.id = id
    · have gone : Rows.lookup Finding.id findings id = none :=
        Rows.lookup_eq_none.mpr fun later stored also =>
          unique.1 (same.trans also.symm ▸ List.mem_map_of_mem stored)
      rw [gone] at tailFound tailCount
      rw [if_pos same] at headCount
      refine ⟨?_, ?_⟩
      · rw [if_pos same, if_pos same, resolveFinding_finding, same]
        rfl
      · rw [if_pos same]
        exact tailCount.trans headCount
    · rw [if_neg same] at headCount
      rw [if_neg same, if_neg same, tailFound, tailCount, headCount]
      exact ⟨rfl, rfl⟩

namespace MemoryStorage

def stored (s : MemoryStorage) (id : String) : Option Finding := Rows.lookup Finding.id s.findings id

def absence (s : MemoryStorage) (id : String) : Nat := absentCount s.findingAbsent id

def tracked (s : MemoryStorage) (id : String) : Option Tracked :=
  (s.stored id).map fun finding => ⟨finding, s.absence id⟩

theorem stored_id {s : MemoryStorage} {id : String} {finding : Finding}
    (found : s.stored id = some finding) : finding.id = id :=
  Rows.key_of_lookup found

theorem stored_resolveScope {s : MemoryStorage} (unique : Rows.Keyed Finding.id s.findings)
    {scope : FindingCycleScope} (complete : scope.complete = true) (id : String) :
    (s.resolveScope scope).stored id =
      (s.stored id).map fun finding => (Tracked.resolve scope ⟨finding, s.absence id⟩).finding := by
  unfold resolveScope
  rw [if_pos complete]
  exact (resolveFindings_lookup unique scope s.findingAbsent id).1

theorem absence_resolveScope {s : MemoryStorage} (unique : Rows.Keyed Finding.id s.findings)
    {scope : FindingCycleScope} (complete : scope.complete = true) (id : String) :
    (s.resolveScope scope).absence id =
      match s.stored id with
      | some finding => (Tracked.resolve scope ⟨finding, s.absence id⟩).absent
      | none => s.absence id := by
  unfold resolveScope
  rw [if_pos complete]
  exact (resolveFindings_lookup unique scope s.findingAbsent id).2

theorem tracked_resolveScope {s : MemoryStorage} (unique : Rows.Keyed Finding.id s.findings)
    (scope : FindingCycleScope) (id : String) :
    (s.resolveScope scope).tracked id =
      if scope.complete then (s.tracked id).map (Tracked.resolve scope) else s.tracked id := by
  by_cases complete : scope.complete = true
  · rw [if_pos complete]
    unfold tracked
    rw [stored_resolveScope unique complete, absence_resolveScope unique complete]
    cases s.stored id <;> rfl
  · rw [if_neg complete, resolveScope, if_neg complete]

theorem keyed_resolveScope {s : MemoryStorage} (unique : Rows.Keyed Finding.id s.findings)
    (scope : FindingCycleScope) : Rows.Keyed Finding.id (s.resolveScope scope).findings := by
  unfold resolveScope
  split
  · unfold Rows.Keyed
    rw [resolveFindings_ids]
    exact unique
  · exact unique

theorem mem_ids {s : MemoryStorage} {id : String} :
    id ∈ s.findings.map Finding.id ↔ (s.stored id).isSome = true := by
  cases found : s.stored id with
  | none =>
    have missing := Rows.lookup_eq_none.mp found
    simp only [List.mem_map, Option.isSome_none, Bool.false_eq_true, iff_false, not_exists, not_and]
    exact missing
  | some finding =>
    simp only [List.mem_map, Option.isSome_some, iff_true]
    exact ⟨finding, Rows.mem_of_lookup found, stored_id found⟩

theorem stored_putFinding (s : MemoryStorage) (finding : Finding) (id : String) :
    (s.putFinding finding).stored id =
      if finding.id = id then
        some (((s.stored id).map
          fun existing => existing.reobserve finding (earliestFirstSeen s.findings finding)).getD
            { finding with firstSeenAt := earliestFirstSeen s.findings finding, lifecycle := .active })
      else s.stored id :=
  Rows.lookup_upsert fun existing => existing.reobserve_id finding _

theorem absence_putFinding (s : MemoryStorage) (finding : Finding) (id : String) :
    (s.putFinding finding).absence id =
      if finding.id = id ∧ (s.stored id).isSome then 0 else s.absence id := by
  show absentCount (if finding.id ∈ s.findings.map Finding.id then _ else _) id = _
  by_cases present : finding.id ∈ s.findings.map Finding.id
  · rw [if_pos present]
    by_cases same : finding.id = id
    · subst same
      simp [absentCount, mem_ids.mp present]
    · simp [absentCount, AList.lookup_erase_ne (Ne.symm same), same, absence]
  · rw [if_neg present]
    by_cases same : finding.id = id
    · subst same
      rw [mem_ids] at present
      simp [present, absence]
    · simp [same, absence]

theorem keyed_putFinding {s : MemoryStorage} (unique : Rows.Keyed Finding.id s.findings)
    (finding : Finding) : Rows.Keyed Finding.id (s.putFinding finding).findings :=
  Rows.keyed_upsert (fun existing => existing.reobserve_id finding _) unique

theorem saveFinding_ok {s s' : MemoryStorage} {finding : Finding} {u : Unit} :
    saveFinding finding s = .ok u s' ↔
      validateFindingSchema finding.schemaVersion = .ok () ∧ s' = s.putFinding finding := by
  unfold saveFinding
  cases validateFindingSchema finding.schemaVersion with
  | error e => simp
  | ok _ => simp [eq_comm]

end MemoryStorage

end Rieko
