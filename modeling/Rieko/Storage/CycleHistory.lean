import Rieko.Lib.StatefulResult
import Rieko.Storage.ResolveCycles

namespace Rieko

open StatefulResult

structure FindingCycle where
  scope : FindingCycleScope
  findings : List Finding

namespace FindingCycle

def commit (cycle : FindingCycle) : StorageM Unit := do
  MemoryStorage.beginTransaction
  MemoryStorage.resolveFindingsForScope cycle.scope
  cycle.findings.forM MemoryStorage.saveFinding
  MemoryStorage.commitTransaction

def observes (cycle : FindingCycle) (id : String) : Bool := cycle.findings.any (·.id = id)

def countsAgainst (cycle : FindingCycle) (finding : Finding) : Bool := cycle.scope.countsAgainst finding

end FindingCycle

def commitAll (history : List FindingCycle) : StorageM Unit := history.forM FindingCycle.commit

/-- Complete cycles of the finding's scope after the last cycle that observed it. -/
def absencesSinceObserved (history : List FindingCycle) (finding : Finding) : Nat :=
  (history.reverse.takeWhile fun cycle => !cycle.observes finding.id).countP (·.countsAgainst finding)

def ObservedInOrder (history : List FindingCycle) : Prop :=
  (history.flatMap (·.findings)).Pairwise fun a b => a.id = b.id → a.lastSeenAt ≤ b.lastSeenAt

theorem absences_snoc (history : List FindingCycle) (cycle : FindingCycle) (finding : Finding) :
    absencesSinceObserved (history ++ [cycle]) finding =
      if cycle.observes finding.id then 0
      else absencesSinceObserved history finding + if cycle.countsAgainst finding then 1 else 0 := by
  unfold absencesSinceObserved
  rw [List.reverse_append, List.reverse_singleton, List.singleton_append, List.takeWhile_cons]
  by_cases observed : cycle.observes finding.id = true
  · simp [observed]
  · simp [observed, List.countP_cons]

theorem absences_congr {finding other : Finding} (history : List FindingCycle) (sameId : finding.id = other.id)
    (sameScope : ∀ scope : FindingCycleScope, scope.covers finding = scope.covers other) :
    absencesSinceObserved history finding = absencesSinceObserved history other := by
  unfold absencesSinceObserved FindingCycle.countsAgainst FindingCycleScope.countsAgainst
  simp only [sameId, sameScope]

namespace MemoryStorage

def putFindings (s : MemoryStorage) (findings : List Finding) : MemoryStorage :=
  findings.foldl putFinding s

theorem saveFindings_ok {findings : List Finding} {s s' : MemoryStorage} {u : Unit} :
    findings.forM saveFinding s = .ok u s' ↔
      (∀ finding ∈ findings, validateFindingSchema finding.schemaVersion = .ok ()) ∧
        s' = s.putFindings findings := by
  induction findings generalizing s with
  | nil =>
    show EStateM.Result.ok () s = _ ↔ _
    simp [putFindings, eq_comm]
  | cons finding findings ih =>
    show (saveFinding finding >>= fun _ => findings.forM saveFinding) s = _ ↔ _
    simp only [bind_ok, saveFinding_ok, ih, List.forall_mem_cons]
    constructor
    · rintro ⟨_, _, ⟨valid, rfl⟩, validLater, rfl⟩
      exact ⟨⟨valid, validLater⟩, rfl⟩
    · rintro ⟨⟨valid, validLater⟩, rfl⟩
      exact ⟨(), _, ⟨valid, rfl⟩, validLater, rfl⟩

theorem resolveScope_in_transaction (s : MemoryStorage) (scope : FindingCycleScope)
    (snapshot : Option MemoryStorageState) :
    ({ s with transactionSnapshot := snapshot } : MemoryStorage).resolveScope scope =
      { s.resolveScope scope with transactionSnapshot := snapshot } := by
  unfold resolveScope
  split <;> rfl

theorem putFindings_in_transaction (s : MemoryStorage) (findings : List Finding)
    (snapshot : Option MemoryStorageState) :
    ({ s with transactionSnapshot := snapshot } : MemoryStorage).putFindings findings =
      { s.putFindings findings with transactionSnapshot := snapshot } := by
  induction findings generalizing s with
  | nil => rfl
  | cons finding findings ih => exact ih (s.putFinding finding)

@[simp] theorem resolveScope_transaction (s : MemoryStorage) (scope : FindingCycleScope) :
    (s.resolveScope scope).transactionSnapshot = s.transactionSnapshot := by
  unfold resolveScope
  split <;> rfl

@[simp] theorem putFindings_transaction (s : MemoryStorage) (findings : List Finding) :
    (s.putFindings findings).transactionSnapshot = s.transactionSnapshot := by
  induction findings generalizing s with
  | nil => rfl
  | cons finding findings ih => exact ih (s.putFinding finding)

theorem commit_ok {cycle : FindingCycle} {s s' : MemoryStorage} (committed : cycle.commit s = .ok () s') :
    s.transactionSnapshot = none ∧
      (∀ finding ∈ cycle.findings, validateFindingSchema finding.schemaVersion = .ok ()) ∧
      s' = (s.resolveScope cycle.scope).putFindings cycle.findings := by
  unfold FindingCycle.commit resolveFindingsForScope at committed
  simp only [bind_ok, beginTransaction_ok, modify_ok, saveFindings_ok, commitTransaction_ok] at committed
  obtain ⟨_, _, ⟨idle, rfl⟩, _, _, rfl, _, _, ⟨valid, rfl⟩, _, rfl⟩ := committed
  refine ⟨idle, valid, ?_⟩
  rw [resolveScope_in_transaction, putFindings_in_transaction]
  have closed : ((s.resolveScope cycle.scope).putFindings cycle.findings).transactionSnapshot = none := by
    rw [putFindings_transaction, resolveScope_transaction, idle]
  rw [← closed]

theorem putFindings_other {s : MemoryStorage} {findings : List Finding} {id : String}
    (others : ∀ finding ∈ findings, finding.id ≠ id) :
    (s.putFindings findings).stored id = s.stored id ∧ (s.putFindings findings).absence id = s.absence id := by
  induction findings generalizing s with
  | nil => exact ⟨rfl, rfl⟩
  | cons finding findings ih =>
    have other := others finding (by simp)
    have later := ih (s := s.putFinding finding) fun f member => others f (List.mem_cons_of_mem _ member)
    rw [stored_putFinding, if_neg other, absence_putFinding, if_neg (by simp [other])] at later
    exact later

theorem tracked_putFindings_other {s : MemoryStorage} {findings : List Finding} {id : String}
    (others : ∀ finding ∈ findings, finding.id ≠ id) :
    (s.putFindings findings).tracked id = s.tracked id := by
  obtain ⟨stored, absence⟩ := putFindings_other (s := s) others
  rw [tracked, stored, absence, tracked]

theorem keyed_putFindings {s : MemoryStorage} {findings : List Finding}
    (unique : Rows.Keyed Finding.id s.findings) : Rows.Keyed Finding.id (s.putFindings findings).findings := by
  induction findings generalizing s with
  | nil => exact unique
  | cons finding findings ih => exact ih (keyed_putFinding unique finding)

theorem tracked_commit_unobserved {cycle : FindingCycle} {s s' : MemoryStorage}
    (unique : Rows.Keyed Finding.id s.findings) {id : String} (unobserved : cycle.observes id = false)
    (committed : cycle.commit s = .ok () s') :
    Rows.Keyed Finding.id s'.findings ∧ s'.tracked id =
      if cycle.scope.complete then (s.tracked id).map (Tracked.resolve cycle.scope) else s.tracked id := by
  obtain ⟨-, -, rfl⟩ := commit_ok committed
  refine ⟨keyed_putFindings (keyed_resolveScope unique cycle.scope), ?_⟩
  rw [tracked_putFindings_other (by simpa [FindingCycle.observes] using unobserved), tracked_resolveScope unique]

theorem phase_commitAll_unobserved {later : List FindingCycle} {s s' : MemoryStorage}
    (unique : Rows.Keyed Finding.id s.findings) {id : String} {tracked : Tracked}
    (found : s.tracked id = some tracked) (unobserved : ∀ cycle ∈ later, cycle.observes id = false)
    (ran : commitAll later s = .ok () s') :
    ∃ after, s'.tracked id = some after ∧ after.phase =
      (Hysteresis.Phase.miss 3)^[later.countP (·.countsAgainst tracked.finding)] tracked.phase := by
  suffices s'.tracked id = some (tracked.resolveAll (later.map (·.scope))) by
    refine ⟨_, this, ?_⟩
    rw [Tracked.phase_resolveAll, List.countP_map]
    rfl
  induction later generalizing s tracked with
  | nil =>
    cases ran
    exact found
  | cons cycle later ih =>
    obtain ⟨_, middle, committed, rest⟩ := bind_ok.mp ran
    obtain ⟨keyed, step⟩ := tracked_commit_unobserved unique (unobserved cycle (by simp)) committed
    rw [found] at step
    have others : ∀ next ∈ later, next.observes id = false := fun next member =>
      unobserved next (List.mem_cons_of_mem _ member)
    by_cases complete : cycle.scope.complete = true
    · rw [if_pos complete, Option.map_some] at step
      have last := ih keyed step others rest
      simpa only [Tracked.resolveAll, List.map_cons, List.foldl_cons, if_pos complete] using last
    · rw [if_neg complete] at step
      have last := ih keyed step others rest
      simpa only [Tracked.resolveAll, List.map_cons, List.foldl_cons, if_neg complete] using last

end MemoryStorage

end Rieko
