import Mathlib.Algebra.Order.Ring.Nat

/-! Calls that are retried a bounded number of times, and delays that grow between them. -/

namespace Backoff

section Delays

variable {width limit delay cap shift shift' factor factor' : Nat}

/-- One shifted to the left in a word, or nothing where the shift leaves the word. -/
def checkedShl (width shift : Nat) : Option Nat := if shift < width then some (2^shift) else none

def checkedMul (limit delay factor : Nat) : Option Nat :=
  if delay * factor < limit then some (delay * factor) else none

theorem checkedShl_mono (later : shift ≤ shift') :
    (checkedShl width shift).getD (2^width - 1) ≤ (checkedShl width shift').getD (2^width - 1) := by
  have powers : 2^shift ≤ 2^shift' := Nat.pow_le_pow_right (by decide) later
  have largest : shift < width → 2^shift ≤ 2^width - 1 := by
    intro within
    have below : 2^shift < 2^width := Nat.pow_lt_pow_right (by decide) within
    omega
  unfold checkedShl
  by_cases within : shift < width
  · rw [if_pos within]
    split
    · exact powers
    · exact largest within
  · rw [if_neg within, if_neg (by omega)]

theorem capped_le : min ((checkedMul limit delay factor).getD cap) cap ≤ cap := Nat.min_le_right _ _

theorem capped_mono (larger : factor ≤ factor') : min ((checkedMul limit delay factor).getD cap) cap ≤
    min ((checkedMul limit delay factor').getD cap) cap := by
  have products : delay * factor ≤ delay * factor' := Nat.mul_le_mul_left delay larger
  unfold checkedMul
  by_cases fits : delay * factor' < limit
  · have fits' : delay * factor < limit := Nat.lt_of_le_of_lt products fits
    rw [if_pos fits, if_pos fits']
    exact min_le_min_right cap products
  · rw [if_neg fits]
    exact Nat.le_min.mpr ⟨Nat.min_le_right _ _, Nat.min_le_right _ _⟩

end Delays

section Calls

variable {retries : Nat → Bool} {bound k : Nat}

/-- How many of the first calls are retried, when at most `bound` of them may be. -/
def retried (retries : Nat → Bool) (bound : Nat) : Nat := ((List.range bound).takeWhile retries).length

theorem retried_le (retries : Nat → Bool) (bound : Nat) : retried retries bound ≤ bound := by
  have front := (List.takeWhile_prefix retries (l := List.range bound)).length_le
  rwa [List.length_range] at front

theorem le_retried (within : k ≤ bound) (before : ∀ i < k, retries i = true) : k ≤ retried retries bound := by
  obtain ⟨rest, rfl⟩ := Nat.exists_eq_add_of_le within
  unfold retried
  rw [List.range_add, List.takeWhile_append_of_pos fun i member => before i (List.mem_range.mp member),
    List.length_append, List.length_range]
  exact Nat.le_add_right k _

theorem retried_eq (within : k ≤ bound) (before : ∀ i < k, retries i = true)
    (last : k < bound → retries k = false) : retried retries bound = k := by
  obtain ⟨rest, rfl⟩ := Nat.exists_eq_add_of_le within
  unfold retried
  rw [List.range_add, List.takeWhile_append_of_pos fun i member => before i (List.mem_range.mp member)]
  cases rest with
  | zero => simp
  | succ rest =>
    have stops : ¬ retries (k + 0) = true := by simpa using last (by omega)
    rw [List.range_succ_eq_map, List.map_cons, List.takeWhile_cons_of_neg stops]
    simp

end Calls

end Backoff
