import Mathlib.Algebra.Order.Ring.Nat
import Mathlib.Data.Char

/-! Texts and the bytes of their UTF-8 encoding, where some bytes are ASCII. -/

namespace AsciiText

def bytes (text : List Char) : List UInt8 := text.flatMap String.utf8EncodeChar

def chars (value : List UInt8) : List Char := value.map fun byte => Char.ofNat byte.toNat

def isAscii (c : Char) : Bool := c.toNat < 128

@[simp] theorem bytes_nil : bytes [] = [] := rfl

@[simp] theorem bytes_cons (c : Char) (text : List Char) : bytes (c :: text) = String.utf8EncodeChar c ++ bytes text :=
  List.flatMap_cons

theorem bytes_append (text more : List Char) : bytes (text ++ more) = bytes text ++ bytes more :=
  List.flatMap_append

theorem bytes_eq (text : String) : text.toByteArray.data.toList = bytes text.toList := by
  unfold bytes
  rw [← String.utf8Encode_toList]
  simp [List.utf8Encode]

section Bytes

variable {c : Char} {text : List Char} {value : List UInt8} {p : UInt8 → Bool}

theorem encode_ascii (ascii : isAscii c = true) : String.utf8EncodeChar c = [UInt8.ofNat c.toNat] := by
  unfold String.utf8EncodeChar
  exact if_pos (Nat.le_of_lt_succ (of_decide_eq_true ascii))

theorem toNat_ofNat_ascii (ascii : isAscii c = true) : (UInt8.ofNat c.toNat).toNat = c.toNat := by
  have small : c.toNat < 128 := of_decide_eq_true ascii
  rw [UInt8.toNat_ofNat', Nat.mod_eq_of_lt (small.trans (by decide))]

theorem encode_wide (wide : isAscii c = false) : ∀ byte ∈ String.utf8EncodeChar c, 128 ≤ byte.toNat := by
  have large : 128 ≤ c.toNat := Nat.le_of_not_lt (of_decide_eq_false wide)
  have high (n : Nat) (least : 128 ≤ n) (most : n < 256) : 128 ≤ (UInt8.ofNat n).toNat := by
    rw [UInt8.toNat_ofNat', Nat.mod_eq_of_lt most]
    exact least
  change 128 ≤ c.val.toNat at large
  fun_cases String.utf8EncodeChar c
  all_goals
    intro byte among
    simp only [List.mem_cons, List.not_mem_nil, or_false] at among
  · omega
  · rcases among with rfl | rfl <;> apply high <;> omega
  · rcases among with rfl | rfl | rfl <;> apply high <;> omega
  · rcases among with rfl | rfl | rfl | rfl <;> apply high <;> omega

theorem encode_ne_nil (c : Char) : String.utf8EncodeChar c ≠ [] := by
  fun_cases String.utf8EncodeChar c <;> exact List.cons_ne_nil _ _

theorem bytes_eq_nil : bytes text = [] ↔ text = [] := by
  cases text with
  | nil => simp
  | cons c text => simp

theorem chars_bytes (ascii : text.all isAscii = true) : chars (bytes text) = text := by
  induction text with
  | nil => rfl
  | cons c text ih =>
    rw [List.all_cons, Bool.and_eq_true] at ascii
    rw [bytes_cons, encode_ascii ascii.1]
    show Char.ofNat (UInt8.ofNat c.toNat).toNat :: chars (bytes text) = _
    rw [toNat_ofNat_ascii ascii.1, Char.ofNat_toNat, ih ascii.2]

theorem bytes_chars (ascii : ∀ byte ∈ value, byte.toNat < 128) : bytes (chars value) = value := by
  induction value with
  | nil => rfl
  | cons byte value ih =>
    have small := ascii byte List.mem_cons_self
    have valid : byte.toNat.isValidChar := .inl (by omega)
    have number : (Char.ofNat byte.toNat).toNat = byte.toNat := by
      unfold Char.ofNat
      rw [dif_pos valid]
      rfl
    have single : isAscii (Char.ofNat byte.toNat) = true := by
      unfold isAscii
      rw [number]
      exact decide_eq_true small
    show bytes (Char.ofNat byte.toNat :: chars value) = _
    rw [bytes_cons, encode_ascii single, number, UInt8.ofNat_toNat,
      ih fun other member => ascii other (List.mem_cons_of_mem _ member)]
    rfl

theorem ascii_of_all (narrow : ∀ byte, p byte = true → byte.toNat < 128) (every : (bytes text).all p = true) :
    text.all isAscii = true := by
  induction text with
  | nil => rfl
  | cons c text ih =>
    rw [bytes_cons, List.all_append, Bool.and_eq_true] at every
    rw [List.all_cons, Bool.and_eq_true]
    refine ⟨?_, ih every.2⟩
    cases ascii : isAscii c with
    | true => rfl
    | false =>
      obtain ⟨byte, first⟩ := List.exists_mem_of_ne_nil _ (encode_ne_nil c)
      have low := narrow byte (List.all_eq_true.mp every.1 byte first)
      have high := encode_wide ascii byte first
      omega

end Bytes

end AsciiText
