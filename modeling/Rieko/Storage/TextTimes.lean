import Rieko.Domain.Rfc3339
import Rieko.Storage.Pruning

/-! The comparisons of persisted times, which the statements make between texts. -/

namespace Rieko

open DateTime

theorem toRfc3339_le {a b : DateTime} (four : a.FourDigitYear) (four' : b.FourDigitYear) :
    a.toRfc3339 ≤ b.toRfc3339 ↔ a ≤ b := by
  have ordered {a b : DateTime} (four : a.FourDigitYear) (four' : b.FourDigitYear) (less : a < b) :
      a.toRfc3339 < b.toRfc3339 := by
    rw [String.lt_iff_toList_lt]
    unfold toRfc3339
    rw [String.toList_ofList, String.toList_ofList]
    exact text_lt four four' less
  constructor
  · intro atMost
    by_contra after
    exact not_lt.mpr atMost (ordered four' four (not_le.mp after))
  · intro atMost
    rcases atMost.lt_or_eq with before | same
    · exact (ordered four four' before).le
    · rw [same]

theorem toRfc3339_inj {a b : DateTime} (four : a.FourDigitYear) : a.toRfc3339 = b.toRfc3339 ↔ a = b := by
  refine ⟨fun same => ?_, congrArg _⟩
  by_cases four' : b.FourDigitYear
  · exact le_antisymm ((toRfc3339_le four four').mp same.le) ((toRfc3339_le four' four).mp same.ge)
  · exact absurd same (toRfc3339_lt_of_signed four' four).ne'

theorem toRfc3339_lt_cutoff {cutoff t : DateTime} (ended : cutoff.date.year ≤ 9999) (four : t.FourDigitYear) :
    t.toRfc3339 < cutoff.toRfc3339 ↔ t < cutoff := by
  by_cases negative : cutoff.date.year < 0
  · have before : cutoff < t := by
      by_contra after
      have year := (year_nonneg_iff cutoff).mpr (((year_nonneg_iff t).mp four.1).trans (not_lt.mp after))
      omega
    exact iff_of_false (lt_asymm (toRfc3339_lt_of_signed (fun known => absurd known.1 (not_le.mpr negative)) four))
      (lt_asymm before)
  · rw [← not_le, toRfc3339_le ⟨not_lt.mp negative, ended⟩ four, not_le]

theorem createdAt_le_of_latestCreated {records : List SimulationRecord} {best : SimulationRecord}
    (latest : latestCreated records = some best) : ∀ record ∈ records, record.createdAt ≤ best.createdAt := by
  induction records using List.reverseRecOn generalizing best with
  | nil => exact fun record member => absurd member List.not_mem_nil
  | append_singleton records last ih =>
    unfold latestCreated at latest ih
    rw [List.foldl_append, List.foldl_cons, List.foldl_nil] at latest
    intro record member
    cases held : records.foldl _ none with
    | none =>
      rw [held] at latest
      cases latest
      rcases List.mem_append.mp member with earlier | final
      · cases records using List.reverseRecOn with
        | nil => exact absurd earlier List.not_mem_nil
        | append_singleton records last' =>
          rw [List.foldl_append, List.foldl_cons, List.foldl_nil] at held
          split at held
          · split at held <;> cases held
          · cases held
      · rw [List.mem_singleton.mp final]
    | some best' =>
      rw [held] at latest
      dsimp only at latest
      have earlierLe := ih held
      split at latest
      next newer =>
        cases latest
        rcases List.mem_append.mp member with earlier | final
        · exact (earlierLe record earlier).trans newer
        · rw [List.mem_singleton.mp final]
      next older =>
        cases latest
        rcases List.mem_append.mp member with earlier | final
        · exact earlierLe record earlier
        · rw [List.mem_singleton.mp final]
          exact (not_le.mp older).le

/-- The record that memory takes for an input was created last. -/
theorem latestCreated_latest {records : List SimulationRecord} {best : SimulationRecord}
    {instant : SimulationRecord → DateTime} (four : ∀ record ∈ records, (instant record).FourDigitYear)
    (written : ∀ record ∈ records, record.createdAt = (instant record).toRfc3339)
    (latest : latestCreated records = some best) : ∀ record ∈ records, instant record ≤ instant best := by
  intro record member
  have listed := mem_of_latestCreated latest
  have atMost := createdAt_le_of_latestCreated latest record member
  rw [written record member, written best listed] at atMost
  exact (toRfc3339_le (four record member) (four best listed)).mp atMost

end Rieko
