import Rieko.Lib.DecimalText
import Rieko.Lib.Text

/-! Bytes written as two hexadecimal digits each, where the case of a digit is free. -/

namespace HexText

open DecimalText Text

/-- The text holds the digits of the bytes, in either case, and nothing else. -/
inductive Spells : List Char → List UInt8 → Prop where
  | nil : Spells [] []
  | cons {high low : Char} {h l : Nat} {text : List Char} {bytes : List UInt8} (highRead : hexDigit high = some h)
      (lowRead : hexDigit low = some l) (spells : Spells text bytes) :
      Spells (high :: low :: text) (UInt8.ofNat (16 * h + l) :: bytes)

def decode : List Char → Option (List UInt8)
  | [] => some []
  | [_] => none
  | high :: low :: text => do
    let h ← hexDigit high
    let l ← hexDigit low
    let bytes ← decode text
    return UInt8.ofNat (16 * h + l) :: bytes

variable {text other : List Char} {bytes : List UInt8} {c : Char} {n : Nat}

theorem decode_iff : decode text = some bytes ↔ Spells text bytes := by
  constructor
  · intro decoded
    induction text using decode.induct generalizing bytes with
    | case1 =>
      cases decoded
      exact .nil
    | case2 c => cases decoded
    | case3 high low text ih =>
      simp only [decode, Option.bind_eq_bind, Option.bind_eq_some_iff] at decoded
      obtain ⟨h, highRead, l, lowRead, rest, decodedRest, same⟩ := decoded
      cases same
      exact .cons highRead lowRead (ih decodedRest)
  · intro spells
    induction spells with
    | nil => rfl
    | cons highRead lowRead _ ih => simp [decode, highRead, lowRead, ih]

theorem hexDigit_range (read : hexDigit c = some n) : 48 ≤ c.toNat ∧ c.toNat ≤ 102 := by
  unfold hexDigit at read
  have lower : ∀ a b : Char, a ≤ b ↔ a.toNat ≤ b.toNat := fun _ _ => Iff.rfl
  simp only [lower] at read
  split at read
  next digit =>
    have range := Char.isDigit_iff_toNat.mp digit
    have least : '0'.toNat = 48 := rfl
    have greatest : '9'.toNat = 57 := rfl
    omega
  next =>
    split at read
    next range =>
      have least : 'a'.toNat = 97 := rfl
      have greatest : 'f'.toNat = 102 := rfl
      omega
    next =>
      split at read
      next range =>
        have least : 'A'.toNat = 65 := rfl
        have greatest : 'F'.toNat = 70 := rfl
        omega
      next => cases read

theorem hexDigit_visible (read : hexDigit c = some n) : isWhitespace c = false := by
  have range := hexDigit_range read
  simp [isWhitespace]
  omega

theorem hexDigit_narrow (read : hexDigit c = some n) : c.utf8Size = 1 := by
  have range := hexDigit_range read
  have ascii : c.val ≤ 0x7F := by
    apply UInt32.le_iff_toNat_le.mpr
    show c.toNat ≤ 127
    omega
  exact if_pos ascii

theorem Spells.length (spells : Spells text bytes) : text.length = 2 * bytes.length := by
  induction spells with
  | nil => rfl
  | cons _ _ _ ih =>
    simp only [List.length_cons, ih]
    omega

theorem Spells.byteSize (spells : Spells text bytes) : byteSize text = 2 * bytes.length := by
  induction spells with
  | nil => rfl
  | cons highRead lowRead _ ih =>
    simp only [byteSize_cons, hexDigit_narrow highRead, hexDigit_narrow lowRead, ih, List.length_cons]
    omega

theorem Spells.visible (spells : Spells text bytes) : ∀ c ∈ text, isWhitespace c = false := by
  induction spells with
  | nil => simp
  | cons highRead lowRead _ ih => simpa [hexDigit_visible highRead, hexDigit_visible lowRead] using ih

end HexText
