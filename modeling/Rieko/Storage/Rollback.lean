import Rieko.Storage.HiddenCounts

namespace Rieko

open Observation StatefulResult

def StorageOp.endsTransaction : StorageOp → Bool
  | .commitTransaction | .rollbackTransaction => true
  | _ => false

namespace MemoryStorage

theorem after_resolves (scope : FindingCycleScope) (k : Nat) (s : MemoryStorage) :
    after StorageOp.apply (List.replicate k (.resolveFindingsForScope scope)) s =
      s.resolveAll (List.replicate k scope) := by
  induction k generalizing s with
  | zero => rfl
  | succ k ih => exact ih (s.resolveScope scope)

theorem findingById_answer {s t : MemoryStorage} (same : Equivalent StorageOp.apply s t) (id : String) :
    s.stored id = t.stored id := by
  have answer := same.answer (.findingById id)
  injection answer with value
  injection value

theorem absence_le_of_equivalent {s t : MemoryStorage} (wellS : WellFormed s) (wellT : WellFormed t)
    (same : Equivalent StorageOp.apply s t) {id : String} {finding : Finding}
    (stored : s.stored id = some finding) (active : finding.lifecycle = .active) :
    t.absence id ≤ s.absence id := by
  by_contra more
  have inT := (findingById_answer same id).symm.trans stored
  obtain ⟨laterS, foundS, resolvedS⟩ :=
    resolved_after_cycles wellS.unique stored active (wellS.bounded id) (3 - t.absence id)
  obtain ⟨laterT, foundT, resolvedT⟩ :=
    resolved_after_cycles wellT.unique inT active (wellT.bounded id) (3 - t.absence id)
  have alike := findingById_answer
    (same.next (List.replicate (3 - t.absence id) (.resolveFindingsForScope finding.ownScope))) id
  rw [after_resolves, after_resolves, foundS, foundT] at alike
  cases alike
  have settled := resolvedS.mp (resolvedT.mpr (by omega))
  have bound := wellT.bounded id
  omega

theorem absence_eq_of_equivalent {s t : MemoryStorage} (wellS : WellFormed s) (wellT : WellFormed t)
    (same : Equivalent StorageOp.apply s t) {id : String} {finding : Finding}
    (stored : s.stored id = some finding) (active : finding.lifecycle = .active) :
    s.absence id = t.absence id :=
  le_antisymm
    (absence_le_of_equivalent wellT wellS (fun ops => (same ops).symm)
      ((findingById_answer same id).symm.trans stored) active)
    (absence_le_of_equivalent wellS wellT same stored active)

theorem leftover_eq_of_equivalent {s t : MemoryStorage} (wellS : WellFormed s) (wellT : WellFormed t)
    (same : Equivalent StorageOp.apply s t) {id : String} (missing : s.stored id = none) :
    s.absence id = t.absence id := by
  have missingT := (findingById_answer same id).symm.trans missing
  have saved (u : MemoryStorage) (gone : u.stored id = none) :
      (u.putFinding (.bare id "" 0)).absence id = u.absence id := by
    rw [absence_putFinding, if_neg fun also => by simp [gone] at also]
  have stored : (s.putFinding (.bare id "" 0)).stored id =
      some { Finding.bare id "" 0 with firstSeenAt := earliestFirstSeen s.findings (.bare id "" 0) } := by
    rw [stored_putFinding, if_pos (show (Finding.bare id "" 0).id = id from rfl), missing]
    rfl
  have next : (s.putFinding (.bare id "" 0)).absence id = (t.putFinding (.bare id "" 0)).absence id :=
    absence_eq_of_equivalent (wellS.apply (.saveFinding (.bare id "" 0)))
      (wellT.apply (.saveFinding (.bare id "" 0))) (same.next [.saveFinding (.bare id "" 0)]) stored rfl
  exact (saved s missing).symm.trans (next.trans (saved t missingT))

theorem keeps_transaction {op : StorageOp} (stays : op.endsTransaction = false) {s : MemoryStorage}
    {saved : MemoryStorageState} (begun : s.transactionSnapshot = some saved) :
    (op.apply s).2.transactionSnapshot = some saved := by
  by_cases leaves : op.leavesFindings = true
  · rw [(StorageOp.apply_frame leaves s).2.2, begun]
  cases op with
  | beginTransaction => simp only [StorageOp.apply, answering, beginTransaction, begun]
  | commitTransaction | rollbackTransaction => cases stays
  | saveFinding finding =>
    cases valid : validateFindingSchema finding.schemaVersion <;>
      simp only [StorageOp.apply, answering, saveFinding, valid] <;> exact begun
  | resolveFindingsForScope scope =>
    refine Eq.trans ?_ begun
    show (s.resolveScope scope).transactionSnapshot = _
    unfold resolveScope
    split <;> rfl
  | _ => exact absurd rfl leaves

theorem body_keeps_transaction {body : List StorageOp} (stays : ∀ op ∈ body, op.endsTransaction = false)
    {s : MemoryStorage} {saved : MemoryStorageState} (begun : s.transactionSnapshot = some saved) :
    (after StorageOp.apply body s).transactionSnapshot = some saved := by
  induction body generalizing s with
  | nil => exact begun
  | cons op body ih =>
    exact ih (fun later member => stays later (List.mem_cons_of_mem _ member))
      (keeps_transaction (stays op (by simp)) begun)

theorem rolledBack_eq {body : List StorageOp} (stays : ∀ op ∈ body, op.endsTransaction = false)
    {s : MemoryStorage} (idle : s.transactionSnapshot = none) :
    after StorageOp.apply (.beginTransaction :: body ++ [.rollbackTransaction]) s =
      { s with findingAbsent := (after StorageOp.apply (.beginTransaction :: body) s).findingAbsent } := by
  rw [after_append]
  have begun : (StorageOp.beginTransaction.apply s).2 = { s with transactionSnapshot := some s.snapshot } := by
    simp only [StorageOp.apply, answering, beginTransaction, idle]
  have held : (after StorageOp.apply (.beginTransaction :: body) s).transactionSnapshot = some s.snapshot := by
    show (after StorageOp.apply body (StorageOp.beginTransaction.apply s).2).transactionSnapshot = _
    rw [begun]
    exact body_keeps_transaction stays rfl
  show (StorageOp.rollbackTransaction.apply _).2 = _
  simp only [StorageOp.apply, answering, rollbackTransaction, held]
  simp only [restore, snapshot, ← idle]

/-- A transaction that is rolled back leaves no trace exactly when the absence count of every finding that
    is active or not stored is, at the rollback, what it was at the beginning. -/
theorem rollback_equivalent_iff {s : MemoryStorage} (reached : Reachable StorageOp.apply MemoryStorage.new s)
    (idle : s.transactionSnapshot = none) (body : List StorageOp)
    (stays : ∀ op ∈ body, op.endsTransaction = false) :
    Equivalent StorageOp.apply s
        (after StorageOp.apply (.beginTransaction :: body ++ [.rollbackTransaction]) s) ↔
      ∀ id, (∀ finding, s.stored id = some finding → finding.lifecycle = .active) →
        (after StorageOp.apply (.beginTransaction :: body) s).absence id = s.absence id := by
  have wellS := wellFormed_of_reachable reached
  have wellT := wellFormed_of_reachable
    (reached.after (.beginTransaction :: body ++ [.rollbackTransaction]))
  rw [rolledBack_eq stays idle] at wellT ⊢
  constructor
  · intro same id active
    cases found : s.stored id with
    | none => exact (leftover_eq_of_equivalent wellS wellT same found).symm
    | some finding => exact (absence_eq_of_equivalent wellS wellT same found (active finding found)).symm
  · intro counts
    refine SameButHiddenCounts.equivalent wellS ⟨⟨_, rfl⟩, fun id visible => ?_⟩
    refine (counts id fun finding found => ?_).symm
    rcases visible with current | ⟨saved, begun, -⟩
    · cases lifecycle : finding.lifecycle with
      | active => rfl
      | resolved => exact absurd ⟨finding, found, lifecycle⟩ current
    · rw [idle] at begun
      cases begun

/-- A finding that was missing from one cycle, and a transaction with another finding and a cycle of another detector
    that is rolled back unnoticed. -/
theorem rollback_equivalent_iff_saved :
    let s := after StorageOp.apply [.saveFinding (.bare "f" "liquidity" 10),
      .resolveFindingsForScope ⟨"liquidity", none, none, true⟩] MemoryStorage.new
    s.absence "f" = 1 ∧ Equivalent StorageOp.apply s (after StorageOp.apply [.beginTransaction,
      .saveFinding (.bare "g" "liquidity" 20), .resolveFindingsForScope ⟨"drift", none, none, true⟩,
      .rollbackTransaction] s) := by
  intro s
  let body : List StorageOp := [.saveFinding (.bare "g" "liquidity" 20),
    .resolveFindingsForScope ⟨"drift", none, none, true⟩]
  have kept : (after StorageOp.apply (.beginTransaction :: body) s).findingAbsent = s.findingAbsent := rfl
  have unnoticed := rollback_equivalent_iff (s := s) ⟨_, rfl⟩ rfl body (by simp [body, StorageOp.endsTransaction])
  exact ⟨by decide, unnoticed.mpr fun id _ => congrArg (absentCount · id) kept⟩

/-- A rolled back resolving cycle counts as an absence: two later cycles resolve the finding. -/
theorem rollback_keeps_absence :
    let scope : FindingCycleScope := ⟨"liquidity", none, none, true⟩
    let s := after StorageOp.apply [.saveFinding (.bare "f" "liquidity" 10)] MemoryStorage.new
    s.transactionSnapshot = none ∧
      ¬Equivalent StorageOp.apply s (after StorageOp.apply
        [.beginTransaction, .resolveFindingsForScope scope, .rollbackTransaction] s) := by
  intro scope s
  refine ⟨rfl, fun same => ?_⟩
  have later := same.next [.resolveFindingsForScope scope, .resolveFindingsForScope scope]
  have stored := congrArg (Option.map (·.lifecycle)) (findingById_answer later "f")
  exact absurd stored (by decide)

end MemoryStorage

end Rieko
