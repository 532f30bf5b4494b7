import Rieko.Findings.Identity
import Rieko.Lib.HexText

namespace Rieko

open HexText

/-- The libraries behind the signature check: the hexadecimal decoder and HMAC-SHA256 of a secret and a payload,
    which takes secrets of every length. -/
structure SignatureExternal where
  hexDecode : String → Option (List UInt8)
  hmacSha256 : List UInt8 → List UInt8 → Vector UInt8 32

/-- The decoder reads the digits of bytes, upper and lower case even mixed, and nothing else. -/
def SignatureExternal.DecodesHex (ext : SignatureExternal) : Prop :=
  ∀ text bytes, ext.hexDecode text = some bytes ↔ Spells text.toList bytes

def signaturePrefix : String := "sha256="

def verifyBtcpaySig (ext : SignatureExternal) (secret payloadBytes : List UInt8) (sigHeader : String) : Bool :=
  if secret.isEmpty || (Text.trim sigHeader.toList).isEmpty then false
  else
    match (Text.trim sigHeader.toList).dropPrefix? signaturePrefix.toList with
    | none => false
    | some hexStr =>
      let hexClean := Text.trim hexStr
      if Text.byteSize hexClean ≠ 64 then false
      else
        match ext.hexDecode (.ofList hexClean) with
        | none => false
        | some providedBytes =>
          let expectedBytes := (ext.hmacSha256 secret payloadBytes).toList
          if providedBytes.length ≠ expectedBytes.length then false else expectedBytes == providedBytes

namespace Signature

/-- The trimmed header is the prefix, some text, and then the digits of the code. -/
def Carries (mac : Vector UInt8 32) (header : String) (gap : List Char) : Prop :=
  ∃ digits, Text.trim header.toList = signaturePrefix.toList ++ (gap ++ digits) ∧ Spells digits mac.toList

def Signs (mac : Vector UInt8 32) (header : String) : Prop :=
  ∃ digits, Text.trim header.toList = signaturePrefix.toList ++ digits ∧ digits.length = 64 ∧ Spells digits mac.toList

def Spaced (mac : Vector UInt8 32) (header : String) : Prop :=
  ∃ gap, gap ≠ [] ∧ (∀ c ∈ gap, Text.isWhitespace c = true) ∧ Carries mac header gap

variable {ext : SignatureExternal} {secret payload : List UInt8} {header : String} {mac : Vector UInt8 32}
  {digits gap : List Char}

theorem spells_mac_length (spells : Spells digits mac.toList) : digits.length = 64 := by
  have counted := spells.length
  simpa using counted

theorem signs_iff : Signs mac header ↔ Carries mac header [] := by
  constructor
  · rintro ⟨digits, trimmed, -, spells⟩
    exact ⟨digits, trimmed, spells⟩
  · rintro ⟨digits, trimmed, spells⟩
    exact ⟨digits, trimmed, spells_mac_length spells, spells⟩

theorem spells_visible (spells : Spells digits mac.toList) : ∀ c ∈ digits.head?, Text.isWhitespace c = false := by
  intro c first
  exact spells.visible c (List.mem_of_head? first)

theorem signaturePrefix_filled : signaturePrefix ≠ "" := by decide

theorem dropPrefix_iff {text rest : List Char} :
    text.dropPrefix? signaturePrefix.toList = some rest ↔ text = signaturePrefix.toList ++ rest := by
  simp [List.dropPrefix?_eq_some_iff]

theorem verify_iff (decodes : ext.DecodesHex) : verifyBtcpaySig ext secret payload header = true ↔
    secret ≠ [] ∧ ∃ hexStr, Text.trim header.toList = signaturePrefix.toList ++ hexStr ∧
      Spells (Text.trim hexStr) (ext.hmacSha256 secret payload).toList := by
  generalize mac_eq : ext.hmacSha256 secret payload = mac
  constructor
  · intro accepted
    simp only [verifyBtcpaySig, mac_eq] at accepted
    split at accepted
    next => cases accepted
    next filled =>
      split at accepted
      next => cases accepted
      next hexStr stripped =>
        split at accepted
        next => cases accepted
        next =>
          split at accepted
          next => cases accepted
          next provided decoded =>
            split at accepted
            next => cases accepted
            next =>
              have same : mac.toList = provided := beq_iff_eq.mp accepted
              have spells := (decodes _ _).mp decoded
              rw [String.toList_ofList, ← same] at spells
              refine ⟨?_, hexStr, dropPrefix_iff.mp stripped, spells⟩
              intro empty
              simp [empty] at filled
  · rintro ⟨present, hexStr, trimmed, spells⟩
    have filled : ¬(secret.isEmpty || (Text.trim header.toList).isEmpty) = true := by
      rw [trimmed]
      simp [present, signaturePrefix_filled]
    have wide : Text.byteSize (Text.trim hexStr) = 64 := by
      rw [spells.byteSize]
      simp
    have decoded : ext.hexDecode (.ofList (Text.trim hexStr)) = some mac.toList := by
      rw [decodes, String.toList_ofList]
      exact spells
    simp only [verifyBtcpaySig, mac_eq]
    rw [if_neg filled, dropPrefix_iff.mpr trimmed]
    simp [wide, decoded]

theorem verify_iff_carries (decodes : ext.DecodesHex) : verifyBtcpaySig ext secret payload header = true ↔
    secret ≠ [] ∧ ∃ gap, (∀ c ∈ gap, Text.isWhitespace c = true) ∧
      Carries (ext.hmacSha256 secret payload) header gap := by
  rw [verify_iff decodes]
  apply and_congr_right
  intro _
  constructor
  · rintro ⟨hexStr, trimmed, spells⟩
    rw [Text.trim_end trimmed] at spells
    refine ⟨hexStr.takeWhile Text.isWhitespace, fun c member => List.mem_takeWhile_imp member, _, ?_, spells⟩
    rw [trimmed, List.takeWhile_append_dropWhile]
  · rintro ⟨gap, blank, digits, trimmed, spells⟩
    refine ⟨gap ++ digits, trimmed, ?_⟩
    rw [Text.trim_blank_append trimmed blank (spells_visible spells)]
    exact spells

theorem verify_iff_signs_or_spaced (decodes : ext.DecodesHex) : verifyBtcpaySig ext secret payload header = true ↔
    secret ≠ [] ∧ (Signs (ext.hmacSha256 secret payload) header ∨ Spaced (ext.hmacSha256 secret payload) header) := by
  rw [verify_iff_carries decodes, signs_iff]
  apply and_congr_right
  intro _
  constructor
  · rintro ⟨gap, blank, carries⟩
    by_cases empty : gap = []
    · left
      rwa [empty] at carries
    · exact .inr ⟨gap, empty, blank, carries⟩
  · rintro (carries | ⟨gap, -, blank, carries⟩)
    · exact ⟨[], by simp, carries⟩
    · exact ⟨gap, blank, carries⟩

theorem Spaced.not_signs (spaced : Spaced mac header) : ¬ Signs mac header := by
  rintro ⟨digits, trimmed, -, spells⟩
  obtain ⟨gap, filled, blank, digits', trimmed', spells'⟩ := spaced
  have same : digits = gap ++ digits' := List.append_cancel_left (trimmed.symm.trans trimmed')
  cases gap with
  | nil => exact filled rfl
  | cons c gap =>
    have visible := spells_visible spells c (by simp [same])
    have hidden := blank c (by simp)
    rw [visible] at hidden
    cases hidden

end Signature

open Signature

/-- The check accepts what a sender writes and only that, but for headers with white space between the prefix and
    the right digits. -/
theorem verifyBtcpaySig_exact_iff (ext : SignatureExternal) (decodes : ext.DecodesHex) (secret payload : List UInt8)
    (header : String) :
    (verifyBtcpaySig ext secret payload header = true ↔
      secret ≠ [] ∧ Signs (ext.hmacSha256 secret payload) header) ↔
      secret = [] ∨ ¬ Spaced (ext.hmacSha256 secret payload) header := by
  rw [verify_iff_signs_or_spaced decodes]
  by_cases empty : secret = []
  · simp [empty]
  · simp only [ne_eq, empty, not_false_eq_true, true_and, false_or, or_iff_left_iff_imp]
    constructor
    · intro only spaced
      exact spaced.not_signs (only spaced)
    · intro close spaced
      exact absurd spaced close

namespace Signature

def settledSecret : List UInt8 := Identity.utf8 "secret-123"

def settledPayload : List UInt8 := Identity.utf8 "\x7b\"type\":\"InvoiceSettled\"\x7d"

def settledExternal : SignatureExternal where
  hexDecode text := decode text.toList
  hmacSha256 _ _ := #v[
    0x16, 0x4d, 0xef, 0x35, 0xa3, 0xd8, 0xf3, 0xb8, 0xe9, 0x1a, 0xf4, 0x2d, 0xd4, 0x59, 0x4d, 0x9f,
    0x4c, 0xc6, 0x5a, 0x3d, 0xf1, 0x89, 0x2f, 0x27, 0x09, 0x4c, 0x1a, 0xb2, 0xd0, 0xb5, 0xbd, 0xaf]

theorem settledExternal_decodes : settledExternal.DecodesHex := fun _ _ => decode_iff

end Signature

theorem verifyBtcpaySig_exact_settled :
    let header := "sha256=164DEF35A3D8F3B8E91AF42DD4594D9F4CC65A3DF1892F27094C1AB2D0B5BDAF"
    settledExternal.DecodesHex ∧
    ((verifyBtcpaySig settledExternal settledSecret settledPayload header = true ↔
      settledSecret ≠ [] ∧ Signs (settledExternal.hmacSha256 settledSecret settledPayload) header) ↔
      settledSecret = [] ∨ ¬ Spaced (settledExternal.hmacSha256 settledSecret settledPayload) header) :=
  ⟨settledExternal_decodes, verifyBtcpaySig_exact_iff _ settledExternal_decodes _ _ _⟩

/-- A tab after the prefix is accepted. -/
theorem verifyBtcpaySig_accepts_tab :
    let header := "sha256=\t164def35a3d8f3b8e91af42dd4594d9f4cc65a3df1892f27094c1ab2d0b5bdaf"
    verifyBtcpaySig settledExternal settledSecret settledPayload header = true ∧
      ¬ Signs (settledExternal.hmacSha256 settledSecret settledPayload) header := by
  have carries : Carries (settledExternal.hmacSha256 settledSecret settledPayload)
      "sha256=\t164def35a3d8f3b8e91af42dd4594d9f4cc65a3df1892f27094c1ab2d0b5bdaf" ['\t'] := by
    refine ⟨"164def35a3d8f3b8e91af42dd4594d9f4cc65a3df1892f27094c1ab2d0b5bdaf".toList, by decide +kernel, ?_⟩
    exact decode_iff.mp (by decide +kernel)
  have blank : ∀ c ∈ ['\t'], Text.isWhitespace c = true := by simp [Text.isWhitespace]
  exact ⟨by decide +kernel, Spaced.not_signs ⟨['\t'], List.cons_ne_nil _ _, blank, carries⟩⟩

end Rieko
