import Rieko.Lib.Transition
import Rieko.Storage.MemoryFindings

namespace Rieko

open StatefulResult

/-- Observations of one condition: what its id is derived from is the same. -/
def Finding.SameCondition (a b : Finding) : Prop := a.id = b.id ∧ a.sameIdentity b = true

instance (a b : Finding) : Decidable (a.SameCondition b) := inferInstanceAs (Decidable (_ ∧ _))

def Finding.supported (finding : Finding) : Bool := (validateFindingSchema finding.schemaVersion).isOk

theorem Finding.sameIdentity_iff {a b : Finding} : a.sameIdentity b = true ↔ a.detector = b.detector ∧
    a.detectorVersion = b.detectorVersion ∧ a.network = b.network ∧ a.node = b.node ∧ a.channel = b.channel := by
  simp [Finding.sameIdentity]

theorem Finding.reobserve_newer {existing finding : Finding} (same : existing.SameCondition finding)
    (fresh : existing.lastSeenAt ≤ finding.lastSeenAt) (firstSeenAt : DateTime) :
    existing.reobserve finding firstSeenAt =
      { finding with firstSeenAt := min existing.firstSeenAt firstSeenAt, lifecycle := .active } := by
  obtain ⟨id, identity⟩ := same
  obtain ⟨detector, version, -, node, channel⟩ := Finding.sameIdentity_iff.mp identity
  simp only [Finding.reobserve, if_pos fresh]
  rw [id, detector, version, node, channel]

/-- A stored finding that shows the newest of the observations, since the earliest first sighting of them all. -/
structure Merges (observations : List Finding) (stored : Finding) : Prop where
  newest : ∃ latest ∈ observations, (∀ other ∈ observations, other.lastSeenAt ≤ latest.lastSeenAt) ∧
    stored = { latest with firstSeenAt := stored.firstSeenAt, lifecycle := .active }
  earliest : ∃ first ∈ observations, stored.firstSeenAt = first.firstSeenAt
  least : ∀ other ∈ observations, stored.firstSeenAt ≤ other.firstSeenAt

def Merged (observations findings : List Finding) : Prop :=
  (observations = [] ∧ findings = []) ∨ ∃ stored, findings = [stored] ∧ Merges observations stored

namespace Merges

variable {observations observations' : List Finding} {stored stored' finding : Finding}

theorem single (finding : Finding) (firstSeenAt : DateTime) (same : firstSeenAt = finding.firstSeenAt) :
    Merges [finding] { finding with firstSeenAt, lifecycle := .active } where
  newest := ⟨finding, by simp, by simp, rfl⟩
  earliest := ⟨finding, by simp, same⟩
  least := by simp [same]

theorem unique (merges : Merges observations stored) (merges' : Merges observations' stored')
    (same : observations.Perm observations') (distinct : (observations.map (·.lastSeenAt)).Nodup) :
      stored = stored' := by
  obtain ⟨latest, member, newest, shown⟩ := merges.newest
  obtain ⟨latest', member', newest', shown'⟩ := merges'.newest
  obtain ⟨first, listed, started⟩ := merges.earliest
  obtain ⟨first', listed', started'⟩ := merges'.earliest
  have one : latest = latest' := List.inj_on_of_nodup_map distinct member (same.mem_iff.mpr member')
    (le_antisymm (newest' latest (same.mem_iff.mp member)) (newest latest' (same.mem_iff.mpr member')))
  have since : stored.firstSeenAt = stored'.firstSeenAt :=
    le_antisymm (started' ▸ merges.least first' (same.mem_iff.mpr listed'))
      (started ▸ merges'.least first (same.mem_iff.mp listed))
  rw [shown, shown', one, since]

theorem sameCondition (merges : Merges observations stored)
    (same : ∀ other ∈ observations, other.SameCondition finding) : stored.SameCondition finding := by
  obtain ⟨latest, member, -, shown⟩ := merges.newest
  rw [shown]
  exact same latest member

theorem reobserve_firstSeenAt (stored finding : Finding) :
    (stored.reobserve finding (min finding.firstSeenAt stored.firstSeenAt)).firstSeenAt =
      min stored.firstSeenAt finding.firstSeenAt := by
  simp only [Finding.reobserve]
  split <;> simp [min_comm]

theorem reobserve (merges : Merges observations stored) (same : ∀ other ∈ observations, other.SameCondition finding) :
    Merges (observations ++ [finding])
      (stored.reobserve finding (min finding.firstSeenAt stored.firstSeenAt)) := by
  have since := reobserve_firstSeenAt stored finding
  have condition := merges.sameCondition same
  obtain ⟨latest, member, newest, shown⟩ := merges.newest
  obtain ⟨first, listed, started⟩ := merges.earliest
  have seen : stored.lastSeenAt = latest.lastSeenAt := by rw [shown]
  constructor
  · by_cases fresh : stored.lastSeenAt ≤ finding.lastSeenAt
    · have newer (other : Finding) (prior : other ∈ observations) : other.lastSeenAt ≤ finding.lastSeenAt :=
        (newest other prior).trans (seen ▸ fresh)
      refine ⟨finding, by simp, List.forall_mem_append.mpr ⟨newer, by simp⟩, ?_⟩
      rw [since, Finding.reobserve_newer condition fresh]
      simp [min_comm]
    · have older : finding.lastSeenAt ≤ latest.lastSeenAt := by
        rw [← seen]
        exact (lt_of_not_ge fresh).le
      refine ⟨latest, by simp [member], List.forall_mem_append.mpr ⟨newest, by simpa using older⟩, ?_⟩
      rw [since, Finding.reobserve_stale _ fresh, shown]
      simp [min_comm]
  · rcases min_choice stored.firstSeenAt finding.firstSeenAt with kept | moved
    · exact ⟨first, by simp [listed], by rw [since, kept, started]⟩
    · exact ⟨finding, by simp, by rw [since, moved]⟩
  · rw [since, List.forall_mem_append]
    constructor
    · intro other prior
      exact (min_le_left _ _).trans (merges.least other prior)
    · simp

theorem again (merges : Merges observations stored) (distinct : (observations.map (·.lastSeenAt)).Nodup)
    (member : finding ∈ observations) (same : ∀ other ∈ observations, other.SameCondition finding) :
    stored.reobserve finding (min finding.firstSeenAt stored.firstSeenAt) = stored := by
  have kept : min stored.firstSeenAt (min finding.firstSeenAt stored.firstSeenAt) = stored.firstSeenAt := by
    simp [merges.least finding member]
  by_cases fresh : stored.lastSeenAt ≤ finding.lastSeenAt
  · rw [Finding.reobserve_newer (merges.sameCondition same) fresh, kept]
    obtain ⟨latest, listed, newest, shown⟩ := merges.newest
    have seen : stored.lastSeenAt = latest.lastSeenAt := by rw [shown]
    have itself : latest = finding := List.inj_on_of_nodup_map distinct listed member
      (le_antisymm (seen ▸ fresh) (newest finding member))
    rw [← itself]
    exact shown.symm
  · rw [Finding.reobserve_stale _ fresh, kept]

end Merges

theorem Merged.unique {observations observations' findings findings' : List Finding}
    (merged : Merged observations findings) (merged' : Merged observations' findings')
    (same : observations.Perm observations') (distinct : (observations.map (·.lastSeenAt)).Nodup) :
    findings = findings' := by
  rcases merged with ⟨rfl, rfl⟩ | ⟨stored, rfl, merges⟩
  · rcases merged' with ⟨-, rfl⟩ | ⟨stored, rfl, merges⟩
    · rfl
    · obtain ⟨first, listed, -⟩ := merges.earliest
      simp [List.nil_perm.mp same] at listed
  · rcases merged' with ⟨rfl, -⟩ | ⟨stored', rfl, merges'⟩
    · obtain ⟨first, listed, -⟩ := merges.earliest
      simp [List.perm_nil.mp same] at listed
    · rw [merges.unique merges' same distinct]

namespace MemoryStorage

variable {s : MemoryStorage} {observations : List Finding} {stored finding : Finding}

theorem final_saveFinding (s : MemoryStorage) (finding : Finding) :
    final (saveFinding finding) s = if finding.supported then s.putFinding finding else s := by
  unfold final saveFinding Finding.supported
  cases validateFindingSchema finding.schemaVersion <;> rfl

theorem findings_putFinding_empty (empty : s.findings = []) :
    (s.putFinding finding).findings = [{ finding with lifecycle := .active }] := by
  simp [putFinding, empty, earliestFirstSeen, Rows.upsert]

theorem findings_putFinding_single (held : s.findings = [stored]) (same : stored.SameCondition finding) :
    (s.putFinding finding).findings =
      [stored.reobserve finding (min finding.firstSeenAt stored.firstSeenAt)] := by
  simp [putFinding, held, earliestFirstSeen, Rows.upsert, same.1, same.2]

theorem merged_putFinding (merged : Merged observations s.findings)
    (same : ∀ other ∈ observations, other.SameCondition finding) :
    Merged (observations ++ [finding]) (s.putFinding finding).findings := by
  rcases merged with ⟨rfl, empty⟩ | ⟨stored, held, merges⟩
  · exact .inr ⟨_, findings_putFinding_empty empty, .single finding _ rfl⟩
  · exact .inr ⟨_, findings_putFinding_single held (merges.sameCondition same), merges.reobserve same⟩

theorem putFinding_again (merged : Merged observations s.findings)
    (distinct : (observations.map (·.lastSeenAt)).Nodup) (member : finding ∈ observations)
    (same : ∀ other ∈ observations, other.SameCondition finding) : (s.putFinding finding).findings = s.findings := by
  rcases merged with ⟨rfl, -⟩ | ⟨stored, held, merges⟩
  · cases member
  · rw [findings_putFinding_single held (merges.sameCondition same), merges.again distinct member same, held]

def saveAll (s : MemoryStorage) (observations : List Finding) : MemoryStorage :=
  Transition.run (fun s finding => final (saveFinding finding) s) s observations

theorem merged_saveAll (empty : s.findings = [])
    (same : ∀ a ∈ observations, ∀ b ∈ observations, a.SameCondition b) :
    Merged (observations.filter Finding.supported) (s.saveAll observations).findings := by
  induction observations using List.reverseRecOn with
  | nil => exact .inl ⟨rfl, empty⟩
  | append_singleton past finding ih =>
    have before := ih fun a prior b also => same a (by simp [prior]) b (by simp [also])
    have step : s.saveAll (past ++ [finding]) = final (saveFinding finding) (s.saveAll past) :=
      Transition.run_append s past [finding]
    rw [step, final_saveFinding, List.filter_append]
    by_cases supported : finding.supported = true
    · have merged := merged_putFinding before fun other prior =>
        same other (by simp [List.mem_of_mem_filter prior]) finding (by simp)
      simpa [supported] using merged
    · simpa [supported] using before

end MemoryStorage

/-- Whatever the order in which observations of one condition arrive, and whichever of them arrives again, the
    store ends up with the same finding. An observation of an unsupported schema version is not saved. -/
theorem save_finding_merges_in_any_order (s : MemoryStorage) (observations : List Finding) (empty : s.findings = [])
    (same : ∀ a ∈ observations, ∀ b ∈ observations, a.SameCondition b)
    (distinct : (observations.map (·.lastSeenAt)).Nodup) :
    ∃ findings, Merged (observations.filter Finding.supported) findings ∧
      ∀ order : List Finding, order.Perm observations → (s.saveAll order).findings = findings ∧
        ∀ again ∈ observations, (final (MemoryStorage.saveFinding again) (s.saveAll order)).findings = findings := by
  have merged := MemoryStorage.merged_saveAll empty same
  have unrepeated : ((observations.filter Finding.supported).map (·.lastSeenAt)).Nodup :=
    distinct.sublist (List.filter_sublist.map _)
  refine ⟨(s.saveAll observations).findings, merged, fun order shuffled => ?_⟩
  have sameShuffled : ∀ a ∈ order, ∀ b ∈ order, a.SameCondition b := fun a first b second =>
    same a (shuffled.mem_iff.mp first) b (shuffled.mem_iff.mp second)
  have ended : (s.saveAll order).findings = (s.saveAll observations).findings :=
    ((merged.unique (MemoryStorage.merged_saveAll empty sameShuffled)
      (shuffled.symm.filter _) unrepeated)).symm
  refine ⟨ended, fun again member => ?_⟩
  rw [MemoryStorage.final_saveFinding]
  split
  next supported =>
    have resaved := MemoryStorage.putFinding_again (ended ▸ merged) unrepeated
      (List.mem_filter.mpr ⟨member, supported⟩) fun other prior =>
        same other (List.mem_of_mem_filter prior) again member
    rw [resaved, ended]
  next => exact ended

theorem save_finding_merges_in_any_order_late :
    let late := { Finding.bare "finding" "channel_liquidity" 20 with explanation := some "drained" }
    let early := { Finding.bare "finding" "channel_liquidity" 10 with explanation := some "low" }
    (MemoryStorage.new.saveAll [late, early]).findings = [{ late with firstSeenAt := 10 }] := by
  intro late early
  obtain ⟨findings, -, orders⟩ := save_finding_merges_in_any_order .new [early, late] rfl (by decide) (by decide)
  have inOrder : (MemoryStorage.new.saveAll [early, late]).findings = [{ late with firstSeenAt := 10 }] := rfl
  exact (orders [late, early] (.swap early late [])).1.trans ((orders _ (.refl _)).1.symm.trans inOrder)

end Rieko
