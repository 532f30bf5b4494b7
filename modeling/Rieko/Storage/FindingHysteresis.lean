import Rieko.Storage.CycleHistory
import Rieko.Storage.ResolveCycles

namespace Rieko

open StatefulResult Hysteresis

namespace MemoryStorage

theorem tracked_eq_none {s : MemoryStorage} {id : String} : s.tracked id = none ↔ s.stored id = none := by
  simp [tracked]

theorem tracked_id {s : MemoryStorage} {id : String} {tracked : Tracked}
    (found : s.tracked id = some tracked) : tracked.finding.id = id := by
  obtain ⟨finding, stored, rfl⟩ := Option.map_eq_some_iff.mp found
  exact stored_id stored

theorem tracked_putFinding_fresh {s : MemoryStorage} {finding : Finding}
    (unused : s.stored finding.id = none → s.absence finding.id = 0)
    (fresh : ∀ existing, s.stored finding.id = some existing → existing.lastSeenAt ≤ finding.lastSeenAt) :
    ∃ tracked, (s.putFinding finding).tracked finding.id = some tracked ∧
      tracked.phase = .counting 0 ∧ tracked.finding.lastSeenAt = finding.lastSeenAt := by
  unfold tracked
  rw [stored_putFinding, absence_putFinding, if_pos rfl]
  cases present : s.stored finding.id with
  | none => exact ⟨_, rfl, by simp [Tracked.phase, unused present], rfl⟩
  | some existing =>
    obtain ⟨active, seen, -⟩ :=
      Finding.reobserve_fresh (earliestFirstSeen s.findings finding) (fresh existing present)
    exact ⟨_, rfl, by simp [Tracked.phase, active], seen⟩

theorem tracked_putFindings_observed {s : MemoryStorage} {findings : List Finding} {id : String}
    (observed : ∃ finding ∈ findings, finding.id = id)
    (ordered : findings.Pairwise fun a b => a.id = b.id → a.lastSeenAt ≤ b.lastSeenAt)
    (unused : s.stored id = none → s.absence id = 0)
    (fresh : ∀ existing, s.stored id = some existing →
      ∀ finding ∈ findings, finding.id = id → existing.lastSeenAt ≤ finding.lastSeenAt) :
    ∃ tracked, (s.putFindings findings).tracked id = some tracked ∧ tracked.phase = .counting 0 ∧
      ∃ finding ∈ findings, finding.id = id ∧ tracked.finding.lastSeenAt = finding.lastSeenAt := by
  induction findings generalizing s with
  | nil => simp at observed
  | cons finding findings ih =>
    obtain ⟨before, ordered⟩ := List.pairwise_cons.mp ordered
    by_cases later : ∃ next ∈ findings, next.id = id
    · have step : ((s.putFinding finding).stored id = none → (s.putFinding finding).absence id = 0) ∧
          ∀ existing, (s.putFinding finding).stored id = some existing →
            ∀ next ∈ findings, next.id = id → existing.lastSeenAt ≤ next.lastSeenAt := by
        by_cases same : finding.id = id
        · subst same
          obtain ⟨tracked, found, -, seen⟩ := tracked_putFinding_fresh unused
            fun existing stored => fresh existing stored finding (by simp) rfl
          obtain ⟨existing, stored, rfl⟩ := Option.map_eq_some_iff.mp found
          refine ⟨fun missing => by simp [missing] at stored, fun other also next member named => ?_⟩
          rw [stored] at also
          cases also
          exact seen.le.trans (before next member named.symm)
        · rw [stored_putFinding, absence_putFinding, if_neg same, if_neg (by simp [same])]
          exact ⟨unused, fun existing stored next member => fresh existing stored next (by simp [member])⟩
      obtain ⟨tracked, found, phase, next, member, named, seen⟩ := ih later ordered step.1 step.2
      exact ⟨tracked, found, phase, next, by simp [member], named, seen⟩
    · obtain ⟨named, member, same⟩ := observed
      have here : named = finding := by
        rcases List.mem_cons.mp member with rfl | elsewhere
        · rfl
        · exact absurd ⟨named, elsewhere, same⟩ later
      subst here
      subst same
      obtain ⟨tracked, found, phase, seen⟩ := tracked_putFinding_fresh unused
        fun existing stored => fresh existing stored named (by simp) rfl
      refine ⟨tracked, ?_, phase, named, by simp, rfl, seen⟩
      have rest : ((s.putFinding named).putFindings findings).tracked named.id =
          (s.putFinding named).tracked named.id :=
        tracked_putFindings_other fun next member also => later ⟨next, member, also⟩
      exact rest.trans found

/-- The counters of a store agree with the history of committed cycles that produced it. -/
structure FollowsHistory (history : List FindingCycle) (s : MemoryStorage) : Prop where
  unique : Rows.Keyed Finding.id s.findings
  unused : ∀ id, s.stored id = none → s.absence id = 0
  phase : ∀ id tracked, s.tracked id = some tracked →
    tracked.phase = Phase.after 3 (absencesSinceObserved history tracked.finding)
  seen : ∀ id finding, s.stored id = some finding →
    ∃ cycle ∈ history, ∃ observed ∈ cycle.findings,
      observed.id = id ∧ finding.lastSeenAt = observed.lastSeenAt

theorem FollowsHistory.new : FollowsHistory [] MemoryStorage.new where
  unique := List.nodup_nil
  unused _ _ := rfl
  phase _ _ found := nomatch found
  seen _ _ found := nomatch found

theorem phase_unobserved {history : List FindingCycle} {s : MemoryStorage} {cycle : FindingCycle} {id : String}
    {tracked : Tracked} (follows : FollowsHistory history s) (unobserved : cycle.observes id = false)
    (found : (s.resolveScope cycle.scope).tracked id = some tracked) :
    tracked.phase = Phase.after 3 (absencesSinceObserved (history ++ [cycle]) tracked.finding) := by
  have named := tracked_id found
  rw [absences_snoc, named, unobserved, if_neg (by simp)]
  rw [tracked_resolveScope follows.unique] at found
  by_cases complete : cycle.scope.complete = true
  · rw [if_pos complete] at found
    obtain ⟨before, stored, rfl⟩ := Option.map_eq_some_iff.mp found
    have same : absencesSinceObserved history (before.resolve cycle.scope).finding =
        absencesSinceObserved history before.finding :=
      absences_congr history (by simp) fun scope => by simp
    have counts : cycle.countsAgainst (before.resolve cycle.scope).finding =
        cycle.scope.covers before.finding := by
      simp [FindingCycle.countsAgainst, FindingCycleScope.countsAgainst, complete]
    rw [Tracked.phase_resolve, same, counts, follows.phase id before stored]
    by_cases covered : cycle.scope.covers before.finding = true
    · rw [if_pos covered, if_pos covered, miss_after]
    · rw [if_neg covered, if_neg covered, Nat.add_zero]
  · rw [if_neg complete] at found
    have uncounted : cycle.countsAgainst tracked.finding = false := by
      simp [FindingCycle.countsAgainst, FindingCycleScope.countsAgainst, complete]
    rw [uncounted, if_neg (by simp), Nat.add_zero]
    exact follows.phase id tracked found

theorem stored_resolveScope_none {s : MemoryStorage} (unique : Rows.Keyed Finding.id s.findings)
    {scope : FindingCycleScope} {id : String} (missing : (s.resolveScope scope).stored id = none) :
    s.stored id = none := by
  rw [← tracked_eq_none, tracked_resolveScope unique] at missing
  rw [← tracked_eq_none]
  split at missing
  · simpa using missing
  · exact missing

theorem absence_resolveScope_none {s : MemoryStorage} (unique : Rows.Keyed Finding.id s.findings)
    {scope : FindingCycleScope} {id : String} (missing : s.stored id = none) :
    (s.resolveScope scope).absence id = s.absence id := by
  by_cases complete : scope.complete = true
  · rw [absence_resolveScope unique complete, missing]
  · rw [resolveScope, if_neg complete]

theorem stored_resolveScope_some {s : MemoryStorage} (unique : Rows.Keyed Finding.id s.findings)
    {scope : FindingCycleScope} {id : String} {finding : Finding}
    (found : (s.resolveScope scope).stored id = some finding) :
    ∃ before lifecycle, s.stored id = some before ∧ finding = { before with lifecycle } := by
  by_cases complete : scope.complete = true
  · rw [stored_resolveScope unique complete] at found
    obtain ⟨before, stored, rfl⟩ := Option.map_eq_some_iff.mp found
    obtain ⟨lifecycle, same⟩ := Tracked.resolve_finding scope ⟨before, s.absence id⟩
    exact ⟨before, lifecycle, stored, same⟩
  · rw [resolveScope, if_neg complete] at found
    exact ⟨finding, finding.lifecycle, found, rfl⟩

theorem FollowsHistory.unused_resolved {history : List FindingCycle} {s : MemoryStorage}
    (follows : FollowsHistory history s) (scope : FindingCycleScope) {id : String}
    (missing : (s.resolveScope scope).stored id = none) : (s.resolveScope scope).absence id = 0 := by
  have absent := stored_resolveScope_none follows.unique missing
  rw [absence_resolveScope_none follows.unique absent, follows.unused id absent]

theorem FollowsHistory.observed {history : List FindingCycle} {cycle : FindingCycle} {s : MemoryStorage}
    (follows : FollowsHistory history s) (ordered : ObservedInOrder (history ++ [cycle])) {id : String}
    (observed : cycle.observes id = true) :
    ∃ tracked, ((s.resolveScope cycle.scope).putFindings cycle.findings).tracked id = some tracked ∧
      tracked.phase = .counting 0 ∧ ∃ finding ∈ cycle.findings, finding.id = id ∧
        tracked.finding.lastSeenAt = finding.lastSeenAt := by
  unfold ObservedInOrder at ordered
  rw [List.flatMap_append, List.pairwise_append, List.flatMap_singleton] at ordered
  obtain ⟨-, within, across⟩ := ordered
  refine tracked_putFindings_observed (by simpa [FindingCycle.observes] using observed) within
    (follows.unused_resolved cycle.scope) fun existing found finding member named => ?_
  obtain ⟨before, lifecycle, stored, rfl⟩ := stored_resolveScope_some follows.unique found
  obtain ⟨earlier, past, observed, sighting, same, seen⟩ := follows.seen id before stored
  have inOrder := across observed (List.mem_flatMap.mpr ⟨earlier, past, sighting⟩) finding member
  exact seen.le.trans (inOrder (same.trans named.symm))

theorem FollowsHistory.commit {history : List FindingCycle} {cycle : FindingCycle} {s s' : MemoryStorage}
    (follows : FollowsHistory history s) (ordered : ObservedInOrder (history ++ [cycle]))
    (committed : cycle.commit s = .ok () s') : FollowsHistory (history ++ [cycle]) s' := by
  obtain ⟨-, -, rfl⟩ := commit_ok committed
  have unobservedCase : ∀ id, cycle.observes id = false → ∀ finding ∈ cycle.findings, finding.id ≠ id :=
    fun id unobserved => by simpa [FindingCycle.observes] using unobserved
  refine ⟨keyed_putFindings (keyed_resolveScope follows.unique cycle.scope), ?_, ?_, ?_⟩
  · intro id missing
    cases observed : cycle.observes id with
    | true =>
      obtain ⟨tracked, found, -⟩ := follows.observed ordered observed
      rw [tracked_eq_none.mpr missing] at found
      cases found
    | false =>
      obtain ⟨stored, absence⟩ := putFindings_other (s := s.resolveScope cycle.scope) (unobservedCase id observed)
      rw [absence]
      exact follows.unused_resolved cycle.scope (stored.symm.trans missing)
  · intro id tracked found
    cases observed : cycle.observes id with
    | true =>
      obtain ⟨also, present, phase, -⟩ := follows.observed ordered observed
      rw [found] at present
      cases present
      rw [absences_snoc, tracked_id found, observed, if_pos rfl, phase, after_zero (by omega)]
    | false =>
      rw [tracked_putFindings_other (unobservedCase id observed)] at found
      exact phase_unobserved follows observed found
  · intro id finding found
    cases observed : cycle.observes id with
    | true =>
      obtain ⟨tracked, present, -, sighting, member, named, seen⟩ := follows.observed ordered observed
      obtain ⟨also, stored, rfl⟩ := Option.map_eq_some_iff.mp present
      rw [found] at stored
      cases stored
      exact ⟨cycle, by simp, sighting, member, named, seen⟩
    | false =>
      rw [(putFindings_other (unobservedCase id observed)).1] at found
      obtain ⟨before, lifecycle, stored, rfl⟩ := stored_resolveScope_some follows.unique found
      obtain ⟨earlier, past, sighting⟩ := follows.seen id before stored
      exact ⟨earlier, by simp [past], sighting⟩

theorem followsHistory_commitAll {history : List FindingCycle} {s : MemoryStorage}
    (ordered : ObservedInOrder history) (ran : commitAll history MemoryStorage.new = .ok () s) :
    FollowsHistory history s := by
  suffices ∀ past future (s s' : MemoryStorage), FollowsHistory past s → ObservedInOrder (past ++ future) →
      commitAll future s = .ok () s' → FollowsHistory (past ++ future) s' by
    simpa using this [] history MemoryStorage.new s FollowsHistory.new ordered ran
  intro past future
  induction future generalizing past with
  | nil =>
    intro s s' follows _ ran
    cases ran
    simpa using follows
  | cons cycle future ih =>
    intro s s' follows ordered ran
    obtain ⟨_, middle, committed, rest⟩ := bind_ok.mp ran
    have together : past ++ cycle :: future = past ++ [cycle] ++ future := by simp
    rw [together] at ordered ⊢
    have upToHere : ObservedInOrder (past ++ [cycle]) := by
      unfold ObservedInOrder at ordered ⊢
      rw [List.flatMap_append] at ordered
      exact (List.pairwise_append.mp ordered).1
    exact ih (past ++ [cycle]) middle s' (follows.commit upToHere committed) ordered rest

/-- After any committed cycles a stored finding is resolved exactly when three complete cycles of its own
    scope have missed it since its last observation; a cycle leaves what it observes active, and a cycle
    that is incomplete or of another scope leaves the count of what it does not observe as it was. -/
theorem hysteresis_law (history : List FindingCycle) (s : MemoryStorage) (ordered : ObservedInOrder history)
    (ran : commitAll history MemoryStorage.new = .ok () s) :
    (∀ id finding, s.stored id = some finding →
      (finding.lifecycle = .resolved ↔ 3 ≤ absencesSinceObserved history finding)) ∧
    (∀ cycle s', ObservedInOrder (history ++ [cycle]) → cycle.commit s = .ok () s' →
      (∀ finding ∈ cycle.findings, ∃ kept, s'.stored finding.id = some kept ∧ kept.lifecycle = .active) ∧
      (∀ id finding, s.stored id = some finding → cycle.observes id = false →
        (cycle.scope.complete = false ∨ cycle.scope.covers finding = false) →
        s'.tracked id = s.tracked id)) := by
  have follows := followsHistory_commitAll ordered ran
  refine ⟨fun id finding stored => ?_, fun cycle s' orderedNext committed => ⟨fun finding member => ?_, ?_⟩⟩
  · have phase := follows.phase id ⟨finding, s.absence id⟩ (by rw [tracked, stored]; rfl)
    rw [← after_settled, ← phase, Tracked.phase_settled]
  · have observed : cycle.observes finding.id = true := List.any_eq_true.mpr ⟨finding, member, by simp⟩
    obtain ⟨-, -, rfl⟩ := commit_ok committed
    obtain ⟨tracked, present, phase, -⟩ := follows.observed orderedNext observed
    obtain ⟨kept, stored, rfl⟩ := Option.map_eq_some_iff.mp present
    refine ⟨kept, stored, ?_⟩
    cases lifecycle : kept.lifecycle with
    | active => rfl
    | resolved => simp [Tracked.phase, lifecycle] at phase
  · intro id finding stored unobserved outside
    obtain ⟨-, -, rfl⟩ := commit_ok committed
    rw [tracked_putFindings_other (by simpa [FindingCycle.observes] using unobserved),
      tracked_resolveScope follows.unique]
    rcases outside with incomplete | other
    · rw [incomplete, if_neg (by simp)]
    · have present : s.tracked id = some ⟨finding, s.absence id⟩ := by rw [tracked, stored]; rfl
      rw [present]
      simp [Tracked.resolve, other]

theorem hysteresis_law_three_absences :
    let scope : FindingCycleScope := ⟨"liquidity", none, none, true⟩
    let history : List FindingCycle :=
      [⟨scope, [.bare "f" "liquidity" 10]⟩, ⟨scope, []⟩, ⟨{ scope with complete := false }, []⟩, ⟨scope, []⟩,
        ⟨{ scope with detector := "drift" }, []⟩, ⟨scope, []⟩]
    let s := final (commitAll history) MemoryStorage.new
    let s' := final (FindingCycle.commit ⟨scope, [.bare "f" "liquidity" 11]⟩) s
    (s.stored "f").map (·.lifecycle) = some .resolved ∧
      (s'.stored "f").map (·.lifecycle) = some .active := by
  intro scope history s s'
  obtain ⟨resolvedIff, next⟩ := hysteresis_law history s
    (by simp [ObservedInOrder, history, Finding.bare]) (ok_of_succeeds (by decide +kernel))
  obtain ⟨reactivated, -⟩ := next ⟨scope, [.bare "f" "liquidity" 11]⟩ s'
    (by simp [ObservedInOrder, history, Finding.bare]) (ok_of_succeeds (by decide +kernel))
  obtain ⟨kept, stored, active⟩ := reactivated _ (List.mem_singleton_self _)
  have settled := resolvedIff "f" ((s.stored "f").getD (.bare "f" "liquidity" 10))
  have present : (s.stored "f").isSome = true := by decide +kernel
  obtain ⟨finding, found⟩ := Option.isSome_iff_exists.mp present
  rw [found] at settled ⊢
  have absent : 3 ≤ absencesSinceObserved history ((s.stored "f").getD (.bare "f" "liquidity" 10)) := by
    decide +kernel
  rw [found] at absent
  exact ⟨congrArg some ((settled rfl).mpr absent), Option.map_eq_some_iff.mpr ⟨kept, stored, active⟩⟩

end MemoryStorage

end Rieko
