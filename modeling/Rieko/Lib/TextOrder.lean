import Mathlib.Algebra.Order.Ring.Nat
import Mathlib.Data.Char
import Mathlib.Data.List.Lex

/-! The byte order of texts that are built from decimal numerals of fixed width. -/

namespace TextOrder

section Append

variable {α : Type} [LT α] {xs ys s t : List α}

theorem append_lt_of_lt (same : xs.length = ys.length) (less : xs < ys) : xs ++ s < ys ++ t := by
  induction xs generalizing ys with
  | nil =>
    cases ys with
    | nil => exact absurd less (List.not_lt_nil _)
    | cons y ys => cases same
  | cons x xs ih =>
    cases ys with
    | nil => cases same
    | cons y ys =>
      rw [List.cons_append, List.cons_append]
      rcases List.cons_lt_cons_iff.mp less with first | ⟨first, rest⟩
      · exact List.cons_lt_cons_iff.mpr (.inl first)
      · exact List.cons_lt_cons_iff.mpr (.inr ⟨first, ih (Nat.succ.inj same) rest⟩)

theorem cons_lt_of_lt {c : α} (less : s < t) : c :: s < c :: t := List.cons_lt_cons_iff.mpr (.inr ⟨rfl, less⟩)

end Append

section Bytes

def utf8 (text : String) : List Nat := text.toUTF8.data.toList.map UInt8.toNat

theorem utf8_ofList (text : List Char) :
    utf8 (String.ofList text) = (text.flatMap String.utf8EncodeChar).map UInt8.toNat := by
  unfold utf8
  simp [List.utf8Encode]

def isAscii (c : Char) : Bool := c.toNat < 128

theorem utf8EncodeChar_of_ascii {c : Char} (ascii : isAscii c = true) :
    (String.utf8EncodeChar c).map UInt8.toNat = [c.toNat] := by
  have small : c.toNat < 128 := of_decide_eq_true ascii
  have encoded : String.utf8EncodeChar c = [UInt8.ofNat c.toNat] := by
    unfold String.utf8EncodeChar
    exact if_pos (Nat.le_of_lt_succ small)
  rw [encoded, List.map_singleton, UInt8.toNat_ofNat', Nat.mod_eq_of_lt (small.trans (by decide))]

theorem utf8_ascii {text : List Char} (ascii : text.all isAscii = true) :
    utf8 (String.ofList text) = text.map Char.toNat := by
  rw [utf8_ofList]
  induction text with
  | nil => rfl
  | cons c text ih =>
    rw [List.all_cons, Bool.and_eq_true] at ascii
    rw [List.flatMap_cons, List.map_append, utf8EncodeChar_of_ascii ascii.1, ih ascii.2]
    rfl

theorem utf8_lt {xs ys : List Char} (asciiX : xs.all isAscii = true) (asciiY : ys.all isAscii = true) (less : xs < ys) :
    utf8 (String.ofList xs) < utf8 (String.ofList ys) := by
  rw [utf8_ascii asciiX, utf8_ascii asciiY]
  exact List.map_lt (fun _ _ below => below) less

end Bytes

section Trimmed

variable {α : Type} [LinearOrder α] {zero c : α} {xs ys s t : List α}

theorem not_lt_replicate {n : Nat} (same : xs.length = n) (least : ∀ x ∈ xs, zero ≤ x) :
    ¬xs < List.replicate n zero := by
  induction xs generalizing n with
  | nil =>
    subst same
    exact List.not_lt_nil _
  | cons x xs ih =>
    subst same
    rw [List.length_cons, List.replicate_succ, List.cons_lt_cons_iff, not_or]
    refine ⟨not_lt.mpr (least x List.mem_cons_self), fun ⟨_, rest⟩ => ?_⟩
    exact ih rfl (fun y member => least y (List.mem_cons_of_mem _ member)) rest

/-- Texts without their last zeros, but with a mark below all else at their end, are ordered as with these zeros: where
    one of them ends, the other goes on with more than the mark. -/
theorem trimmed_lt {i j : Nat} (same : xs.length + i = ys.length + j) (least : ∀ x ∈ xs, zero ≤ x)
    (above : ∀ y ∈ ys, c < y) (less : xs ++ List.replicate i zero < ys ++ List.replicate j zero) :
    xs ++ c :: s < ys ++ c :: t := by
  induction xs generalizing ys with
  | nil =>
    cases ys with
    | nil =>
      have counts : i = j := by simpa using same
      rw [counts] at less
      exact absurd less (List.lt_irrefl _)
    | cons y ys => exact List.cons_lt_cons_iff.mpr (.inl (above y List.mem_cons_self))
  | cons x xs ih =>
    cases ys with
    | nil =>
      have counts : (x :: xs ++ List.replicate i zero).length = j := by
        rw [List.length_append, List.length_replicate, same, List.length_nil, Nat.zero_add]
      refine absurd less (not_lt_replicate counts fun z member => ?_)
      rcases List.mem_append.mp member with digit | filler
      · exact least z digit
      · rw [List.eq_of_mem_replicate filler]
    | cons y ys =>
      rw [List.cons_append, List.cons_append, List.cons_lt_cons_iff] at less ⊢
      rcases less with first | ⟨first, rest⟩
      · exact .inl first
      · refine .inr ⟨first, ih ?_ (fun z member => least z (List.mem_cons_of_mem _ member))
          (fun z member => above z (List.mem_cons_of_mem _ member)) rest⟩
        rw [List.length_cons, List.length_cons] at same
        omega

end Trimmed

section Numerals

def padded : Nat → Nat → List Char
  | 0, _ => []
  | width + 1, n => Nat.digitChar (n / 10 ^ width) :: padded width (n % 10 ^ width)

variable {width n m : Nat}

theorem padded_length (width n : Nat) : (padded width n).length = width := by
  induction width generalizing n with
  | zero => rfl
  | succ width ih => exact congrArg Nat.succ (ih _)

theorem head_lt (fits : n < 10 ^ (width + 1)) : n / 10 ^ width < 10 :=
  Nat.div_lt_of_lt_mul (by rwa [pow_succ] at fits)

theorem digitChar_lt {a b : Nat} (less : a < b) (digit : b < 10) : Nat.digitChar a < Nat.digitChar b := by
  show (Nat.digitChar a).toNat < (Nat.digitChar b).toNat
  rw [Nat.toNat_digitChar_of_lt_ten (less.trans digit), Nat.toNat_digitChar_of_lt_ten digit]
  omega

theorem padded_lt (less : n < m) (fits : m < 10 ^ width) : padded width n < padded width m := by
  induction width generalizing n m with
  | zero => omega
  | succ width ih =>
    unfold padded
    rw [List.cons_lt_cons_iff]
    have positive : 0 < 10 ^ width := Nat.pow_pos (by decide)
    rcases (Nat.div_le_div_right (c := 10 ^ width) less.le).lt_or_eq with head | head
    · exact .inl (digitChar_lt head (head_lt fits))
    · refine .inr ⟨by rw [head], ih ?_ (Nat.mod_lt _ positive)⟩
      have ofN := Nat.div_add_mod n (10 ^ width)
      have ofM := Nat.div_add_mod m (10 ^ width)
      rw [head] at ofN
      omega

theorem mem_padded (fits : n < 10 ^ width) : ∀ c ∈ padded width n, '0' ≤ c ∧ c ≤ '9' := by
  induction width generalizing n with
  | zero => exact fun c member => absurd member List.not_mem_nil
  | succ width ih =>
    intro c member
    rcases List.mem_cons.mp member with first | rest
    · have digit := head_lt fits
      have code : c.toNat = 48 + n / 10 ^ width := first ▸ Nat.toNat_digitChar_of_lt_ten digit
      generalize n / 10 ^ width = head at digit code
      constructor
      · show 48 ≤ c.toNat
        omega
      · show c.toNat ≤ 57
        omega
    · exact ih (Nat.mod_lt _ (Nat.pow_pos (by decide))) c rest

theorem padded_zero (width : Nat) : padded width 0 = List.replicate width '0' := by
  induction width with
  | zero => rfl
  | succ width ih =>
    unfold padded
    rw [Nat.zero_div, Nat.zero_mod, ih]
    rfl

theorem padded_mul (fits : n < 10 ^ width) (k : Nat) :
    padded (width + k) (n * 10 ^ k) = padded width n ++ List.replicate k '0' := by
  induction width generalizing n with
  | zero =>
    have zero : n = 0 := Nat.lt_one_iff.mp fits
    rw [zero, Nat.zero_mul, Nat.zero_add, padded_zero]
    rfl
  | succ width ih =>
    have positive : 0 < 10 ^ width := Nat.pow_pos (by decide)
    rw [Nat.add_right_comm]
    unfold padded
    rw [pow_add, Nat.mul_div_mul_right _ _ (Nat.pow_pos (by decide)), Nat.mul_mod_mul_right,
      ih (Nat.mod_lt _ positive)]
    rfl

theorem field_lt {s t : List Char} (fits : m < 10 ^ width) (less : n < m ∨ n = m ∧ s < t) :
    padded width n ++ s < padded width m ++ t := by
  rcases less with before | ⟨same, rest⟩
  · exact append_lt_of_lt (by rw [padded_length, padded_length]) (padded_lt before fits)
  · rw [same]
    exact List.append_left_lt rest

end Numerals

end TextOrder
