import Rieko.Recommendations.Evidence

namespace Rieko

namespace RecommendationEngine

variable {finding : Finding} {key : String}

theorem validateEvidenceKeys_ok {findingId : String} {index : Nat} {keys : List String} {evidence : List Evidence}
    (named : ∀ entry ∈ evidence, Text.isBlank entry.key = false) (fresh : ∀ entry ∈ evidence, entry.key ∉ keys)
    (distinct : (evidence.map Evidence.key).Nodup) :
    validateEvidenceKeys findingId index keys evidence = .ok () := by
  induction evidence generalizing index keys with
  | nil => rfl
  | cons entry rest ih =>
    have visible := named entry List.mem_cons_self
    have unseen := fresh entry List.mem_cons_self
    have once := List.nodup_cons.mp distinct
    have later : ∀ other ∈ rest, other.key ∉ entry.key :: keys := by
      intro other member seen
      rcases List.mem_cons.mp seen with same | earlier
      · exact once.1 (same ▸ List.mem_map_of_mem member)
      · exact fresh other (List.mem_cons_of_mem _ member) earlier
    unfold validateEvidenceKeys
    rw [visible, if_neg (by decide), if_neg unseen]
    exact ih (fun other member => named other (List.mem_cons_of_mem _ member)) later once.2

/-- What is asked of every finding, whatever its detector. -/
structure WellFormed (finding : Finding) (version : Nat) : Prop where
  versioned : finding.detectorVersion = "1" ∧ version = 1 ∨ finding.detectorVersion = "2" ∧ version = 2
  schema : finding.schemaVersion = findingSchemaVersion
  active : finding.lifecycle = .active
  severe : finding.severity ≠ .info
  named : ∀ entry ∈ finding.evidence, Text.isBlank entry.key = false
  distinct : (finding.evidence.map Evidence.key).Nodup

theorem validateCommon_ok {version : Nat} (wellFormed : WellFormed finding version) :
    validateCommon finding = .ok version := by
  have keys : validateEvidenceKeys finding.id 0 [] finding.evidence = .ok () :=
    validateEvidenceKeys_ok wellFormed.named (by simp) wellFormed.distinct
  unfold validateCommon
  rcases wellFormed.versioned with ⟨text, rfl⟩ | ⟨text, rfl⟩ <;>
    simp [text, wellFormed.schema, wellFormed.active, wellFormed.severe, keys, findingSchemaVersion]

theorem requiredText_ok {text : String} (found : finding.evidenceValue key = some (.string text)) :
    requiredText finding key = .ok text := by
  unfold requiredText requiredValue
  rw [found]
  rfl

variable (finding key) in
theorem requiredNonemptyText_eq (text : String) (found : finding.evidenceValue key = some (.string text)) :
    requiredNonemptyText finding key =
      if Text.isBlank text then .error (.invalidEvidence finding.id key "a non-empty string") else .ok text := by
  unfold requiredNonemptyText
  rw [requiredText_ok found]
  rfl

variable (finding key) in
theorem requiredNonemptyText_ok (text : String) (found : finding.evidenceValue key = some (.string text))
    (visible : Text.isBlank text = false) : requiredNonemptyText finding key = .ok text := by
  rw [requiredNonemptyText_eq _ _ _ found, visible, if_neg (by decide)]

theorem requiredNumberIn_eq {x : Binary64} {expected : String} {range : Binary64 → Bool}
    (found : finding.evidenceValue key = some (.ofF64 x)) (finite : x.isFinite = true) :
    requiredNumberIn finding key expected range =
      if range x then .ok x else .error (.invalidEvidence finding.id key expected) := by
  have number : requiredNumber finding key expected = .ok x := by
    unfold requiredNumber requiredValue
    rw [found]
    unfold Json.ofF64
    rw [if_pos finite]
    show (if !x.isFinite then _ else _) = _
    rw [finite]
    rfl
  unfold requiredNumberIn
  rw [number]
  cases held : range x <;> simp [held, bind, Except.bind] <;> rfl

end RecommendationEngine

end Rieko
