import Rieko.Storage.Operations
import Rieko.Storage.ResolveCycles

namespace Rieko

open Observation StatefulResult

namespace MemoryStorage

def ResolvedIn (findings : List Finding) (id : String) : Prop :=
  ∃ finding, Rows.lookup Finding.id findings id = some finding ∧ finding.lifecycle = .resolved

/-- An absence count that a later operation can still make visible: of a finding that is not resolved, now
    or after the open transaction is rolled back. -/
def CountVisible (s : MemoryStorage) (id : String) : Prop :=
  ¬ResolvedIn s.findings id ∨ ∃ saved, s.transactionSnapshot = some saved ∧ ¬ResolvedIn saved.findings id

structure WellFormed (s : MemoryStorage) : Prop where
  unique : Rows.Keyed Finding.id s.findings
  savedUnique : ∀ saved, s.transactionSnapshot = some saved → Rows.Keyed Finding.id saved.findings
  bounded : ∀ id, s.absence id ≤ 2

structure SameButHiddenCounts (s t : MemoryStorage) : Prop where
  rest : ∃ absent, t = { s with findingAbsent := absent }
  counts : ∀ id, s.CountVisible id → s.absence id = t.absence id

theorem absence_resolveScope_le {s : MemoryStorage} (unique : Rows.Keyed Finding.id s.findings)
    (bounded : ∀ id, s.absence id ≤ 2) (scope : FindingCycleScope) (id : String) :
    (s.resolveScope scope).absence id ≤ 2 := by
  by_cases complete : scope.complete = true
  · rw [absence_resolveScope unique complete]
    cases s.stored id with
    | none => exact bounded id
    | some finding => exact Tracked.resolve_absent_le (bounded id)
  · rw [resolveScope, if_neg complete]
    exact bounded id

theorem WellFormed.new : WellFormed MemoryStorage.new where
  unique := List.nodup_nil
  savedUnique _ opened := nomatch opened
  bounded _ := Nat.zero_le 2

theorem WellFormed.apply {s : MemoryStorage} (wellFormed : WellFormed s) (op : StorageOp) :
    WellFormed (op.apply s).2 := by
  obtain ⟨unique, savedUnique, bounded⟩ := wellFormed
  by_cases leaves : op.leavesFindings = true
  · obtain ⟨findings, absent, snapshot⟩ := StorageOp.apply_frame leaves s
    refine ⟨findings ▸ unique, snapshot ▸ savedUnique, fun id => ?_⟩
    show absentCount (op.apply s).2.findingAbsent id ≤ 2
    rw [absent]
    exact bounded id
  cases op with
  | beginTransaction =>
    cases idle : s.transactionSnapshot with
    | some saved =>
      simp only [StorageOp.apply, answering, beginTransaction, idle]
      exact ⟨unique, savedUnique, bounded⟩
    | none =>
      simp only [StorageOp.apply, answering, beginTransaction, idle]
      refine ⟨unique, fun saved same => ?_, bounded⟩
      cases same
      exact unique
  | commitTransaction =>
    cases idle : s.transactionSnapshot with
    | none =>
      simp only [StorageOp.apply, answering, commitTransaction, idle]
      exact ⟨unique, savedUnique, bounded⟩
    | some saved =>
      simp only [StorageOp.apply, answering, commitTransaction, idle]
      refine ⟨unique, fun saved same => ?_, bounded⟩
      cases same
  | rollbackTransaction =>
    cases idle : s.transactionSnapshot with
    | none =>
      simp only [StorageOp.apply, answering, rollbackTransaction, idle]
      exact ⟨unique, savedUnique, bounded⟩
    | some saved =>
      simp only [StorageOp.apply, answering, rollbackTransaction, idle]
      refine ⟨savedUnique saved idle, fun saved same => ?_, bounded⟩
      cases same
  | saveFinding finding =>
    cases valid : validateFindingSchema finding.schemaVersion with
    | error e =>
      simp only [StorageOp.apply, answering, saveFinding, valid]
      exact ⟨unique, savedUnique, bounded⟩
    | ok _ =>
      simp only [StorageOp.apply, answering, saveFinding, valid]
      refine ⟨keyed_putFinding unique finding, savedUnique, fun id => ?_⟩
      rw [absence_putFinding]
      split
      · exact Nat.zero_le 2
      · exact bounded id
  | resolveFindingsForScope scope =>
    refine ⟨keyed_resolveScope unique scope, fun saved same => savedUnique saved ?_,
      absence_resolveScope_le unique bounded scope⟩
    rw [← same]
    show _ = (s.resolveScope scope).transactionSnapshot
    unfold resolveScope
    split <;> rfl
  | _ => exact absurd rfl leaves

theorem wellFormed_of_reachable {s : MemoryStorage} (reached : Reachable StorageOp.apply MemoryStorage.new s) :
    WellFormed s :=
  reached.invariant WellFormed.new fun op _ wellFormed => wellFormed.apply op

theorem resolvedIn_iff {s : MemoryStorage} {id : String} :
    ResolvedIn s.findings id ↔ ∃ finding, s.stored id = some finding ∧ finding.lifecycle = .resolved := Iff.rfl

theorem countVisible_of_missing {s : MemoryStorage} {id : String} (missing : s.stored id = none) :
    s.CountVisible id := by
  refine .inl fun ⟨finding, found, _⟩ => ?_
  rw [show Rows.lookup Finding.id s.findings id = none from missing] at found
  cases found

theorem countVisible_of_active {s : MemoryStorage} {id : String} {finding : Finding}
    (stored : s.stored id = some finding) (active : finding.lifecycle = .active) : s.CountVisible id := by
  refine .inl fun ⟨other, found, resolved⟩ => ?_
  rw [show Rows.lookup Finding.id s.findings id = some finding from stored] at found
  cases found
  rw [active] at resolved
  cases resolved

namespace SameButHiddenCounts

variable {s t : MemoryStorage}

theorem leaves (same : SameButHiddenCounts s t) {op : StorageOp} (leaves : op.leavesFindings = true) :
    (op.apply s).1 = (op.apply t).1 ∧ SameButHiddenCounts (op.apply s).2 (op.apply t).2 := by
  obtain ⟨⟨absent, rfl⟩, counts⟩ := same
  obtain ⟨findings, kept, snapshot⟩ := StorageOp.apply_frame leaves s
  rw [StorageOp.apply_absent leaves s absent]
  refine ⟨rfl, ⟨absent, rfl⟩, fun id visible => ?_⟩
  show absentCount (op.apply s).2.findingAbsent id = absentCount absent id
  rw [kept]
  refine counts id ?_
  unfold CountVisible at visible ⊢
  rwa [findings, snapshot] at visible

theorem save (same : SameButHiddenCounts s t) (finding : Finding) :
    SameButHiddenCounts (s.putFinding finding) (t.putFinding finding) := by
  obtain ⟨⟨absent, rfl⟩, counts⟩ := same
  refine ⟨⟨_, rfl⟩, fun id visible => ?_⟩
  rw [absence_putFinding, absence_putFinding]
  show _ = if finding.id = id ∧ (s.stored id).isSome = true then 0 else _
  by_cases cleared : finding.id = id ∧ (s.stored id).isSome = true
  · rw [if_pos cleared, if_pos cleared]
  · rw [if_neg cleared, if_neg cleared]
    refine counts id ?_
    by_cases here : finding.id = id
    · refine countVisible_of_missing ?_
      cases found : s.stored id with
      | none => rfl
      | some _ => exact absurd ⟨here, by rw [found]; rfl⟩ cleared
    · rcases visible with current | saved
      · refine .inl fun resolved => current ?_
        rw [resolvedIn_iff] at resolved ⊢
        rwa [stored_putFinding, if_neg here]
      · exact .inr saved

theorem visible_before {scope : FindingCycleScope} (unique : Rows.Keyed Finding.id s.findings)
    (complete : scope.complete = true) {id : String} (visible : (s.resolveScope scope).CountVisible id) :
    s.CountVisible id := by
  cases found : s.stored id with
  | none => exact countVisible_of_missing found
  | some finding =>
    cases lifecycle : finding.lifecycle with
    | active => exact countVisible_of_active found lifecycle
    | resolved =>
      rcases visible with current | ⟨saved, kept, hidden⟩
      · refine absurd ?_ current
        rw [resolvedIn_iff, stored_resolveScope unique complete, found]
        exact ⟨_, rfl, by simp [Tracked.resolve, lifecycle]⟩
      · refine .inr ⟨saved, ?_, hidden⟩
        rw [← kept]
        unfold resolveScope
        split <;> rfl

theorem resolve (same : SameButHiddenCounts s t) (unique : Rows.Keyed Finding.id s.findings)
    (scope : FindingCycleScope) : SameButHiddenCounts (s.resolveScope scope) (t.resolveScope scope) := by
  by_cases complete : scope.complete = true
  · obtain ⟨⟨absent, rfl⟩, counts⟩ := same
    have findings : (resolveScope { s with findingAbsent := absent } scope).findings =
        (s.resolveScope scope).findings := by
      have ids (u : MemoryStorage) : (u.resolveScope scope).findings.map Finding.id =
          u.findings.map Finding.id := by
        rw [resolveScope, if_pos complete, resolveFindings_ids]
      refine Rows.ext_lookup (keyed_resolveScope (by exact unique) scope) ((ids _).trans (ids s).symm) fun id => ?_
      have left := stored_resolveScope (s := { s with findingAbsent := absent }) unique complete id
      refine left.trans (Eq.trans ?_ (stored_resolveScope unique complete id).symm)
      show Option.map _ (s.stored id) = _
      cases found : s.stored id with
      | none => rfl
      | some finding =>
        cases lifecycle : finding.lifecycle with
        | active => rw [counts id (countVisible_of_active found lifecycle)]
        | resolved => simp [Tracked.resolve, lifecycle]
    have shape (u : MemoryStorage) : u.resolveScope scope = { u with
        findings := (u.resolveScope scope).findings
        findingAbsent := (u.resolveScope scope).findingAbsent } := by
      unfold resolveScope
      split <;> rfl
    refine ⟨⟨(resolveScope { s with findingAbsent := absent } scope).findingAbsent, ?_⟩, fun id visible => ?_⟩
    · rw [shape { s with findingAbsent := absent }, findings]
      conv_rhs => rw [shape s]
    · rw [absence_resolveScope unique complete, absence_resolveScope (by exact unique) complete,
        counts id (visible_before unique complete visible)]
      rfl
  · rwa [resolveScope, if_neg complete, resolveScope, if_neg complete]

theorem step (op : StorageOp) (s t : MemoryStorage) (same : WellFormed s ∧ SameButHiddenCounts s t) :
    (op.apply s).1 = (op.apply t).1 ∧
      WellFormed (op.apply s).2 ∧ SameButHiddenCounts (op.apply s).2 (op.apply t).2 := by
  obtain ⟨wellFormed, same⟩ := same
  suffices (op.apply s).1 = (op.apply t).1 ∧ SameButHiddenCounts (op.apply s).2 (op.apply t).2 from
    ⟨this.1, wellFormed.apply op, this.2⟩
  by_cases leaves : op.leavesFindings = true
  · exact same.leaves leaves
  cases op with
  | beginTransaction =>
    obtain ⟨⟨absent, rfl⟩, counts⟩ := same
    cases idle : s.transactionSnapshot with
    | some saved =>
      simp only [StorageOp.apply, answering, beginTransaction, idle]
      exact ⟨trivial, ⟨absent, by rw [idle]⟩, counts⟩
    | none =>
      simp only [StorageOp.apply, answering, beginTransaction, idle]
      refine ⟨trivial, ⟨absent, rfl⟩, fun id visible => counts id ?_⟩
      rcases visible with current | ⟨saved, same, hidden⟩
      · exact .inl current
      · cases same
        exact .inl hidden
  | commitTransaction =>
    obtain ⟨⟨absent, rfl⟩, counts⟩ := same
    cases idle : s.transactionSnapshot with
    | none =>
      simp only [StorageOp.apply, answering, commitTransaction, idle]
      exact ⟨trivial, ⟨absent, by rw [idle]⟩, counts⟩
    | some saved =>
      simp only [StorageOp.apply, answering, commitTransaction, idle]
      refine ⟨trivial, ⟨absent, rfl⟩, fun id visible => counts id ?_⟩
      rcases visible with current | ⟨saved, same, -⟩
      · exact .inl current
      · cases same
  | rollbackTransaction =>
    obtain ⟨⟨absent, rfl⟩, counts⟩ := same
    cases idle : s.transactionSnapshot with
    | none =>
      simp only [StorageOp.apply, answering, rollbackTransaction, idle]
      exact ⟨trivial, ⟨absent, by rw [idle]⟩, counts⟩
    | some saved =>
      simp only [StorageOp.apply, answering, rollbackTransaction, idle]
      refine ⟨trivial, ⟨absent, rfl⟩, fun id visible => counts id ?_⟩
      rcases visible with restored | ⟨saved, same, -⟩
      · exact .inr ⟨saved, idle, restored⟩
      · cases same
  | saveFinding finding =>
    cases valid : validateFindingSchema finding.schemaVersion with
    | error e =>
      simp only [StorageOp.apply, answering, saveFinding, valid]
      exact ⟨trivial, same⟩
    | ok _ =>
      simp only [StorageOp.apply, answering, saveFinding, valid]
      exact ⟨trivial, same.save finding⟩
  | resolveFindingsForScope scope => exact ⟨rfl, same.resolve wellFormed.unique scope⟩
  | _ => exact absurd rfl leaves

theorem equivalent (wellFormed : WellFormed s) (same : SameButHiddenCounts s t) :
    Equivalent StorageOp.apply s t :=
  equivalent_of_bisimulation (fun s t => WellFormed s ∧ SameButHiddenCounts s t) step ⟨wellFormed, same⟩

end SameButHiddenCounts

end MemoryStorage

end Rieko
