import Mathlib.Data.Nat.Bitwise
import Mathlib.Data.Set.Basic

/-! 64-bit words as sets of bits. -/

namespace BitMask

def bits (x : UInt64) : Set Nat := {i | x.toNat.testBit i = true}

variable {x y : UInt64} {i : Nat}

theorem mem_bits : i ∈ bits x ↔ x.toNat.testBit i = true := Iff.rfl

theorem mem_bits_ofNat {n : Nat} (fits : n < 2^64) : i ∈ bits (.ofNat n) ↔ n.testBit i = true := by
  rw [mem_bits, UInt64.toNat_ofNat', Nat.mod_eq_of_lt fits]

theorem lt_of_mem (member : i ∈ bits x) : i < 64 := by
  apply Nat.lt_of_not_ge
  intro large
  have wide : x.toNat < 2^i := Nat.lt_of_lt_of_le x.toNat_lt (Nat.pow_le_pow_right (by decide) large)
  rw [mem_bits, Nat.testBit_lt_two_pow wide] at member
  cases member

theorem mem_or : i ∈ bits (x ||| y) ↔ i ∈ bits x ∨ i ∈ bits y := by
  simp only [mem_bits, UInt64.toNat_or, Nat.testBit_or, Bool.or_eq_true]

theorem mem_and : i ∈ bits (x &&& y) ↔ i ∈ bits x ∧ i ∈ bits y := by
  simp only [mem_bits, UInt64.toNat_and, Nat.testBit_and, Bool.and_eq_true]

theorem not_mem_zero : i ∉ bits 0 := by
  simp [mem_bits]

theorem ext_bits (same : bits x = bits y) : x = y := by
  apply UInt64.toNat_inj.mp
  apply Nat.eq_of_testBit_eq
  intro i
  exact Bool.eq_iff_iff.mpr (Set.ext_iff.mp same i)

theorem eq_zero_iff : x = 0 ↔ ∀ i, i ∉ bits x := by
  constructor
  · rintro rfl i
    exact not_mem_zero
  · intro empty
    apply ext_bits
    ext i
    exact iff_of_false (empty i) not_mem_zero

theorem and_ne_zero_iff : x &&& y ≠ 0 ↔ ∃ i, i ∈ bits x ∧ i ∈ bits y := by
  rw [Ne, eq_zero_iff]
  simp only [mem_and]
  push Not
  rfl

theorem mem_foldl_or {masks : List UInt64} {initial : UInt64} :
    i ∈ bits (masks.foldl (· ||| ·) initial) ↔ i ∈ bits initial ∨ ∃ mask ∈ masks, i ∈ bits mask := by
  induction masks generalizing initial with
  | nil => simp
  | cons mask masks ih =>
    rw [List.foldl_cons, ih, mem_or]
    simp only [List.mem_cons, exists_eq_or_imp, or_assoc]

end BitMask
