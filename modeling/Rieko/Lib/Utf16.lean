import Mathlib.Algebra.GroupWithZero.Nat

/-! Lengths of texts in UTF-16 code units, and the longest front of a text that fits a number of them. -/

namespace Utf16

/-- Characters beyond the basic plane take two code units. -/
def units (c : Char) : Nat := if c.toNat ≤ 0xFFFF then 1 else 2

def length (text : List Char) : Nat := (text.map units).sum

/-- Whole characters from the front, up to the first that no longer fits. -/
def takeUnits : Nat → List Char → List Char
  | _, [] => []
  | budget, c :: text => if units c ≤ budget then c :: takeUnits (budget - units c) text else []

variable {budget : Nat} {front text : List Char} {c : Char}

@[simp] theorem length_nil : length [] = 0 := rfl

@[simp] theorem length_cons : length (c :: text) = units c + length text := by simp [length]

@[simp] theorem length_append (front text : List Char) : length (front ++ text) = length front + length text := by
  simp [length]

theorem length_takeUnits_le (budget : Nat) (text : List Char) : length (takeUnits budget text) ≤ budget := by
  induction text generalizing budget with
  | nil => simp [takeUnits]
  | cons c text ih =>
    simp only [takeUnits]
    split
    next fits =>
      have rest := ih (budget - units c)
      simp only [length_cons]
      omega
    next => simp

theorem takeUnits_prefix (budget : Nat) (text : List Char) : takeUnits budget text <+: text := by
  induction text generalizing budget with
  | nil => simp [takeUnits]
  | cons c text ih =>
    simp only [takeUnits]
    split
    · exact (List.prefix_cons_inj c).mpr (ih _)
    · exact List.nil_prefix

theorem takeUnits_append (fits : length front ≤ budget) :
    takeUnits budget (front ++ text) = front ++ takeUnits (budget - length front) text := by
  induction front generalizing budget with
  | nil => simp
  | cons c front ih =>
    simp only [length_cons] at fits
    have first : units c ≤ budget := by omega
    have rest : length front ≤ budget - units c := by omega
    simp only [List.cons_append, takeUnits, if_pos first, ih rest, length_cons, Nat.sub_sub]

theorem takeUnits_of_lt (wide : budget < length front + units c) :
    takeUnits budget (front ++ c :: text) = takeUnits budget front := by
  induction front generalizing budget with
  | nil =>
    have short : ¬ units c ≤ budget := by
      simp only [length_nil] at wide
      omega
    simp only [List.nil_append, takeUnits, if_neg short]
  | cons d front ih =>
    simp only [List.cons_append, takeUnits]
    split
    next fits =>
      rw [ih]
      simp only [length_cons] at wide
      omega
    next => rfl

end Utf16
