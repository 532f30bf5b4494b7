import Mathlib.Algebra.Order.Ring.Int

/-! The proleptic Gregorian calendar. Days count from the first of January of year 0. -/

namespace Calendar

def isLeap (year : Int) : Bool := year % 4 = 0 && (year % 100 ≠ 0 || year % 400 = 0)

def yearStart (year : Int) : Int := 365 * year + (year + 3) / 4 - (year + 99) / 100 + (year + 399) / 400

theorem yearStart_succ (year : Int) : yearStart (year + 1) = yearStart year + if isLeap year then 366 else 365 := by
  unfold yearStart isLeap
  by_cases fourth : year % 4 = 0
  · by_cases hundredth : year % 100 = 0
    · by_cases cycle : year % 400 = 0
      · simp only [fourth, hundredth, cycle, decide_true, ne_eq, not_true_eq_false, decide_false, Bool.or_true,
          Bool.and_self, ↓reduceIte]
        omega
      · simp only [fourth, hundredth, cycle, decide_true, ne_eq, not_true_eq_false, decide_false, Bool.or_false,
          Bool.and_false, Bool.false_eq_true, ↓reduceIte]
        omega
    · simp only [fourth, hundredth, decide_true, ne_eq, not_false_eq_true, Bool.true_or, Bool.and_self, ↓reduceIte]
      omega
  · simp only [fourth, decide_false, Bool.false_and, Bool.false_eq_true, ↓reduceIte]
    omega

theorem yearStart_le {a b : Int} (atMost : a ≤ b) : yearStart a ≤ yearStart b := by
  unfold yearStart
  omega

/-- The nearest whole number of mean years, or one less. -/
def yearOf (day : Int) : Int :=
  let nearest := (400 * day + 73048) / 146097
  if yearStart nearest ≤ day then nearest else nearest - 1

theorem yearOf_spec (day : Int) : yearStart (yearOf day) ≤ day ∧ day < yearStart (yearOf day + 1) := by
  unfold yearOf
  dsimp only
  generalize near : (400 * day + 73048) / 146097 = nearest
  split
  next started =>
    refine ⟨started, ?_⟩
    unfold yearStart
    omega
  next later =>
    rw [sub_add_cancel]
    refine ⟨?_, not_le.mp later⟩
    unfold yearStart
    omega

theorem le_yearOf_iff (year day : Int) : year ≤ yearOf day ↔ yearStart year ≤ day := by
  have spec := yearOf_spec day
  constructor
  · intro reached
    exact (yearStart_le reached).trans spec.1
  · intro started
    by_contra later
    have next : yearStart (yearOf day + 1) ≤ yearStart year := yearStart_le (by omega)
    omega

theorem yearOf_le {a b : Int} (less : a ≤ b) : yearOf a ≤ yearOf b :=
  (le_yearOf_iff _ _).mpr ((yearOf_spec a).1.trans less)

def monthLengths (leap : Bool) : List Nat := [31, if leap then 29 else 28, 31, 30, 31, 30, 31, 31, 30, 31, 30, 31]

theorem monthLengths_le : ∀ leap, ∀ length ∈ monthLengths leap, length ≤ 31 := by decide

def locate : List Nat → Nat → Nat × Nat
  | [], offset => (0, offset)
  | length :: lengths, offset =>
    if offset < length then (0, offset) else
      let rest := locate lengths (offset - length)
      (rest.1 + 1, rest.2)

theorem locate_lt {lengths : List Nat} {a b : Nat} (less : a < b) :
    (locate lengths a).1 < (locate lengths b).1 ∨
      (locate lengths a).1 = (locate lengths b).1 ∧ (locate lengths a).2 < (locate lengths b).2 := by
  induction lengths generalizing a b with
  | nil => exact .inr ⟨rfl, less⟩
  | cons length lengths ih =>
    unfold locate
    by_cases first : b < length
    · rw [if_pos first, if_pos (less.trans first)]
      exact .inr ⟨rfl, less⟩
    · rw [if_neg first]
      by_cases start : a < length
      · rw [if_pos start]
        exact .inl (Nat.succ_pos _)
      · rw [if_neg start]
        have rest := ih (a := a - length) (b := b - length) (by omega)
        dsimp only
        omega

theorem locate_within {lengths : List Nat} {offset : Nat} (within : offset < lengths.sum) :
    (locate lengths offset).1 < lengths.length ∧ ∃ length ∈ lengths, (locate lengths offset).2 < length := by
  induction lengths generalizing offset with
  | nil => exact absurd within (Nat.not_lt_zero _)
  | cons length lengths ih =>
    unfold locate
    by_cases first : offset < length
    · rw [if_pos first]
      exact ⟨Nat.succ_pos _, length, List.mem_cons_self, first⟩
    · rw [if_neg first]
      rw [List.sum_cons] at within
      have rest : offset - length < lengths.sum := by omega
      rcases ih rest with ⟨place, long, member, short⟩
      exact ⟨Nat.succ_lt_succ place, long, List.mem_cons_of_mem _ member, short⟩

structure Date where
  year : Int
  month : Nat
  day : Nat
deriving DecidableEq, Repr

namespace Date

def ofDay (day : Int) : Date :=
  let year := yearOf day
  let part := locate (monthLengths (isLeap year)) (day - yearStart year).toNat
  ⟨year, part.1 + 1, part.2 + 1⟩

def Before (a b : Date) : Prop :=
  a.year < b.year ∨ a.year = b.year ∧ (a.month < b.month ∨ a.month = b.month ∧ a.day < b.day)

theorem ofDay_before {a b : Int} (less : a < b) : (ofDay a).Before (ofDay b) := by
  rcases (yearOf_le less.le).lt_or_eq with before | same
  · exact .inl before
  · refine .inr ⟨same, ?_⟩
    have started := (yearOf_spec a).1
    have offsets : (a - yearStart (yearOf a)).toNat < (b - yearStart (yearOf b)).toNat := by
      rw [← same]
      omega
    unfold ofDay
    rw [same] at offsets ⊢
    dsimp only
    rcases locate_lt offsets with month | ⟨month, offset⟩
    · exact .inl (Nat.succ_lt_succ month)
    · exact .inr ⟨congrArg Nat.succ month, Nat.succ_lt_succ offset⟩

theorem ofDay_bounds (day : Int) : (ofDay day).month ≤ 12 ∧ (ofDay day).day ≤ 31 := by
  have spec := yearOf_spec day
  rw [yearStart_succ] at spec
  have within : (day - yearStart (yearOf day)).toNat < (monthLengths (isLeap (yearOf day))).sum := by
    cases leap : isLeap (yearOf day) with
    | false =>
      rw [leap] at spec
      have sum : (monthLengths false).sum = 365 := rfl
      rw [sum]
      simp only [Bool.false_eq_true, ↓reduceIte] at spec
      omega
    | true =>
      rw [leap] at spec
      have sum : (monthLengths true).sum = 366 := rfl
      rw [sum]
      simp only [↓reduceIte] at spec
      omega
  rcases locate_within within with ⟨place, length, member, short⟩
  exact ⟨place, (Nat.succ_le_of_lt short).trans (monthLengths_le _ _ member)⟩

end Date

end Calendar
