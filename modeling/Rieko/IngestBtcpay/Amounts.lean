import Rieko.IngestBtcpay.Webhook
import Rieko.Lib.Binary64Order
import Rieko.Lib.DecimalValue

namespace Rieko

open DecimalText

/-- The amount of a balance. A text of a whole number counts millisatoshi, any other number bitcoin. -/
def parseBalanceMsat : Option Json → Nat
  | some (.number n) => (Json.number n).asU64.getD 0
  | some (.string s) =>
    match parseU64 s with
    | some msat => msat
    | none =>
      match parseF64 s with
      | some btc => ((btc.mul (.ofNat 100000000)).mul (.ofNat 1000)).toU64
      | none => 0
  | _ => 0

theorem parseBalanceMsat_string (s : String) : parseBalanceMsat (some (.string s)) = (parseMsats s).getD 0 := by
  simp only [parseBalanceMsat, parseMsats]
  cases parseU64 s with
  | some msat => rfl
  | none => cases parseF64 s <;> rfl

namespace Amounts

def parseMsatsBy (bitcoin : String → Option Nat) (text : String) : Option Nat :=
  match parseU64 text with
  | some msat => some msat
  | none => bitcoin text

def parseBalanceMsatBy (bitcoin : String → Option Nat) : Option Json → Nat
  | some (.string s) => (parseMsatsBy bitcoin s).getD 0
  | other => parseBalanceMsat other

/-- The reading of the code, which rounds the number and both products. -/
def roundedBitcoin (text : String) : Option Nat :=
  (parseF64 text).map fun btc => ((btc.mul (.ofNat 100000000)).mul (.ofNat 1000)).toU64

def exactMsats (btc : ℚ) : Nat := Nat.min ⌊btc * 100000000 * 1000⌋₊ (2^64 - 1)

/-- The reading without any rounding but the one to a whole number of millisatoshi. -/
def exactBitcoin (text : String) : Option Nat :=
  let (negative, body) := splitSign text.toList
  (parseDecimal body).map fun btc => exactMsats (if negative then -btc else btc)

theorem parseMsats_eq (text : String) : parseMsats text = parseMsatsBy roundedBitcoin text := rfl

theorem parseBalanceMsat_eq (val : Option Json) : parseBalanceMsat val = parseBalanceMsatBy roundedBitcoin val := by
  unfold parseBalanceMsatBy
  split
  · rw [parseBalanceMsat_string, parseMsats_eq]
  · rfl

structure Rises (bitcoin : String → Option Nat) (msats : ℚ → Nat) : Prop where
  reads : ∀ text q, Denotes text.toList q → bitcoin text = some (msats q)
  mono : ∀ p q, 0 ≤ p → p ≤ q → msats p ≤ msats q

theorem exactBitcoin_rises : Rises exactBitcoin exactMsats where
  reads text q denotes := by
    simp [exactBitcoin, denotes.splitSign_eq, parseDecimal_of_denotes denotes]
  mono p q _ le := by
    have floors : ⌊p * 100000000 * 1000⌋₊ ≤ ⌊q * 100000000 * 1000⌋₊ := Nat.floor_le_floor (by linarith)
    apply Nat.le_min.mpr
    exact ⟨(Nat.min_le_left _ _).trans floors, Nat.min_le_right _ _⟩

theorem roundedBitcoin_rises : Rises roundedBitcoin fun q =>
    ((Binary64.pack false q).mul (.ofNat 100000000)).mul (.ofNat 1000) |>.toU64 where
  reads text q denotes := by
    simp [roundedBitcoin, parseF64_of_denotes denotes]
  mono p q nonneg le := by
    have satoshi : 0 < Binary64.packCode (100000000 : Nat) ∧ Binary64.packCode (100000000 : Nat) < 2047 * 2^52 := by
      decide +kernel
    have thousand : 0 < Binary64.packCode (1000 : Nat) ∧ Binary64.packCode (1000 : Nat) < 2047 * 2^52 := by
      decide +kernel
    have codes := Binary64.packCode_mono nonneg le
    rw [Binary64.pack_false, Binary64.pack_false, Binary64.ofNat_eq, Binary64.ofNat_eq,
      Binary64.mul_codeTimes (Binary64.packCode_le _) satoshi.2 satoshi.1,
      Binary64.mul_codeTimes (Binary64.packCode_le _) satoshi.2 satoshi.1,
      Binary64.mul_codeTimes (Binary64.codeTimes_le _ _) thousand.2 thousand.1,
      Binary64.mul_codeTimes (Binary64.codeTimes_le _ _) thousand.2 thousand.1]
    apply Binary64.toU64_mono
    · apply Binary64.codeTimes_mono
      · exact Binary64.codeTimes_mono codes (Binary64.packCode_le _)
      · exact Binary64.codeTimes_le _ _
    · exact Binary64.codeTimes_le _ _

/-- Amounts that agree with the numbers they are read from. -/
structure Ordered (p q : ℚ) (a b : Nat) : Prop where
  equal : p = q → a = b
  less : p < q → a ≤ b
  greater : q < p → b ≤ a

/-- A text that is read as millisatoshi: a whole number without a point that fits the amounts. -/
def CountsMsat (text : String) (q : ℚ) : Prop := '.' ∉ text.toList ∧ q < 2^64

def Clear (msat btc : ℚ) : Prop := msat < btc ∨ msat = 2^64 - 1 ∨ btc * 10^11 < msat + 1

/-- Both texts are read in the same unit, or the units do not show. -/
def Comparable (s t : String) (p q : ℚ) : Prop :=
  (CountsMsat s p → ¬ CountsMsat t q → Clear p q) ∧ (CountsMsat t q → ¬ CountsMsat s p → Clear q p)

variable {bitcoin : String → Option Nat} {msats : ℚ → Nat} {s t : String} {p q : ℚ} {a b : Nat}

theorem Ordered.comm : Ordered p q a b ↔ Ordered q p b a := by
  constructor <;> intro ordered <;>
    exact ⟨fun same => (ordered.equal same.symm).symm, ordered.greater, ordered.less⟩

theorem Rises.parse_eq (rises : Rises bitcoin msats) (denotes : Denotes s.toList p) :
    (CountsMsat s p ∧ ∃ n : Nat, p = n ∧ n < 2^64 ∧ parseMsatsBy bitcoin s = some n) ∨
      (¬ CountsMsat s p ∧ parseMsatsBy bitcoin s = some (msats p)) := by
  have parsed := parseU64_of_denotes denotes
  by_cases counts : CountsMsat s p
  · left
    rw [if_pos (show '.' ∉ s.toList ∧ p < 2^64 from counts)] at parsed
    have number := denotes.eq_natOf counts.1
    have small : natOf s.toList < 2^64 := by
      have below := counts.2
      rw [number] at below
      exact_mod_cast below
    exact ⟨counts, _, number, small, by simp [parseMsatsBy, parsed]⟩
  · right
    rw [if_neg (show ¬('.' ∉ s.toList ∧ p < 2^64) from counts)] at parsed
    exact ⟨counts, by simp [parseMsatsBy, parsed, rises.reads s p denotes]⟩

theorem Rises.ordered_of_same_unit (rises : Rises bitcoin msats) (first : Denotes s.toList p)
    (second : Denotes t.toList q)
    (unit : CountsMsat s p ↔ CountsMsat t q) (readS : parseMsatsBy bitcoin s = some a)
    (readT : parseMsatsBy bitcoin t = some b) : Ordered p q a b := by
  rcases rises.parse_eq first with ⟨counts, n, number, -, parsed⟩ | ⟨other, parsed⟩
  · rcases rises.parse_eq second with ⟨-, m, number', -, parsed'⟩ | ⟨other', -⟩
    · cases readS.symm.trans parsed
      cases readT.symm.trans parsed'
      subst number number'
      constructor
      · intro same
        exact_mod_cast same
      · intro below
        exact_mod_cast below.le
      · intro above
        exact_mod_cast above.le
    · exact absurd (unit.mp counts) other'
  · rcases rises.parse_eq second with ⟨counts', -⟩ | ⟨-, parsed'⟩
    · exact absurd (unit.mpr counts') other
    · cases readS.symm.trans parsed
      cases readT.symm.trans parsed'
      constructor
      · intro same
        rw [same]
      · intro below
        exact rises.mono p q first.nonneg below.le
      · intro above
        exact rises.mono q p second.nonneg above.le

theorem ordered_msat_iff {n : Nat} (small : n < 2^64) : Ordered n q n (exactMsats q) ↔ Clear n q := by
  have top : exactMsats q ≤ 2^64 - 1 := Nat.min_le_right _ _
  constructor
  · intro ordered
    by_cases below : (n : ℚ) < q
    · exact .inl below
    · have least : exactMsats q ≤ n := by
        rcases (not_lt.mp below).eq_or_lt with same | above
        · exact (ordered.equal same.symm).ge
        · exact ordered.greater above
      rcases min_le_iff.mp (show Min.min _ _ ≤ n from least) with floor | greatest
      · have next := Nat.lt_floor_add_one (q * 100000000 * 1000)
        have cast : (⌊q * 100000000 * 1000⌋₊ : ℚ) ≤ n := by exact_mod_cast floor
        right; right
        linarith
      · right; left
        have same : n = 2^64 - 1 := by omega
        rw [same]
        norm_num
  · intro clear
    have least : (n : ℚ) ≤ q → n ≤ exactMsats q := by
      intro le
      have nonneg : (0 : ℚ) ≤ n := Nat.cast_nonneg n
      apply Nat.le_min.mpr
      constructor
      · apply Nat.le_floor
        linarith
      · omega
    have greatest : q ≤ n → exactMsats q ≤ n := by
      intro le
      rcases clear with below | same | near
      · linarith
      · have whole : (n : ℚ) = (2^64 - 1 : Nat) := by
          rw [same]
          norm_num
        have greatest : n = 2^64 - 1 := Nat.cast_injective whole
        omega
      · have floor : ⌊q * 100000000 * 1000⌋₊ < n + 1 := by
          apply Nat.floor_lt' (by omega) |>.mpr
          push_cast
          linarith
        exact (Nat.min_le_left _ _).trans (by omega)
    constructor
    · intro same
      exact le_antisymm (least same.le) (greatest same.ge)
    · intro below
      exact least below.le
    · intro above
      exact greatest above.le

theorem ordered_iff (first : Denotes s.toList p) (second : Denotes t.toList q)
    (readS : parseMsatsBy exactBitcoin s = some a) (readT : parseMsatsBy exactBitcoin t = some b) :
    Ordered p q a b ↔ Comparable s t p q := by
  rcases exactBitcoin_rises.parse_eq first with ⟨counts, n, rfl, small, parsed⟩ | ⟨other, parsed⟩
  · rcases exactBitcoin_rises.parse_eq second with ⟨counts', -⟩ | ⟨other', parsed'⟩
    · apply iff_of_true
      · exact exactBitcoin_rises.ordered_of_same_unit first second (iff_of_true counts counts') readS readT
      · exact ⟨fun _ bitcoin => absurd counts' bitcoin, fun _ bitcoin => absurd counts bitcoin⟩
    · cases readS.symm.trans parsed
      cases readT.symm.trans parsed'
      simp only [Comparable, counts, other', ordered_msat_iff small, true_imp_iff, not_false_eq_true, false_imp_iff,
        and_true]
  · rcases exactBitcoin_rises.parse_eq second with ⟨counts', n, rfl, small, parsed'⟩ | ⟨other', parsed'⟩
    · cases readS.symm.trans parsed
      cases readT.symm.trans parsed'
      rw [Ordered.comm]
      simp only [Comparable, counts', other, ordered_msat_iff small, true_imp_iff, not_false_eq_true, false_imp_iff,
        true_and]
    · apply iff_of_true
      · exact exactBitcoin_rises.ordered_of_same_unit first second (iff_of_false other other') readS readT
      · exact ⟨fun counts => absurd counts other, fun counts => absurd counts other'⟩

theorem Rises.parses (rises : Rises bitcoin msats) (denotes : Denotes s.toList p) :
    ∃ a, parseMsatsBy bitcoin s = some a ∧ parseBalanceMsatBy bitcoin (some (.string s)) = a := by
  rcases rises.parse_eq denotes with ⟨-, n, -, -, parsed⟩ | ⟨-, parsed⟩
  · exact ⟨n, parsed, by simp [parseBalanceMsatBy, parsed]⟩
  · exact ⟨_, parsed, by simp [parseBalanceMsatBy, parsed]⟩

end Amounts

open Amounts

/-- Two decimal strings are read in the order of their numbers exactly where they are read in the same unit or the
    units do not show. With the rounding of the code, those read in the same unit still are. -/
theorem amounts_ordered_iff (s t : String) (p q : ℚ) (first : Denotes s.toList p) (second : Denotes t.toList q) :
    (∃ a b, parseMsatsBy exactBitcoin s = some a ∧ parseMsatsBy exactBitcoin t = some b ∧
      (Ordered p q a b ↔ Comparable s t p q)) ∧
    (Ordered p q (parseBalanceMsatBy exactBitcoin (some (.string s)))
      (parseBalanceMsatBy exactBitcoin (some (.string t))) ↔ Comparable s t p q) ∧
    ((CountsMsat s p ↔ CountsMsat t q) →
      (∃ a b, parseMsats s = some a ∧ parseMsats t = some b ∧ Ordered p q a b) ∧
      Ordered p q (parseBalanceMsat (some (.string s))) (parseBalanceMsat (some (.string t)))) := by
  refine ⟨?_, ?_, fun unit => ?_⟩
  · obtain ⟨a, parsed, -⟩ := exactBitcoin_rises.parses first
    obtain ⟨b, parsed', -⟩ := exactBitcoin_rises.parses second
    exact ⟨a, b, parsed, parsed', ordered_iff first second parsed parsed'⟩
  · obtain ⟨a, parsed, balance⟩ := exactBitcoin_rises.parses first
    obtain ⟨b, parsed', balance'⟩ := exactBitcoin_rises.parses second
    rw [balance, balance']
    exact ordered_iff first second parsed parsed'
  · obtain ⟨a, parsed, balance⟩ := roundedBitcoin_rises.parses first
    obtain ⟨b, parsed', balance'⟩ := roundedBitcoin_rises.parses second
    have ordered := roundedBitcoin_rises.ordered_of_same_unit first second unit parsed parsed'
    rw [parseBalanceMsat_eq, parseBalanceMsat_eq, balance, balance']
    exact ⟨⟨a, b, parsed, parsed', ordered⟩, ordered⟩

namespace Amounts

theorem denotes_fraction {digits places : List Char} {q : ℚ} (numeral : isNumeral (digits ++ places) = true)
    (number : natOf digits + natOf places / 10^places.length = q) : Denotes (digits ++ '.' :: places) q :=
  number ▸ .fraction numeral

theorem denotes_one : Denotes "1".toList 1 := by
  have numeral : isNumeral ['1'] = true := by decide
  simpa [natOf] using Denotes.whole numeral

theorem denotes_one_point : Denotes "1.0".toList 1 :=
  @denotes_fraction ['1'] ['0'] 1 (by decide) (by simp [natOf])

end Amounts

/-- A fraction with and without a trailing zero. -/
theorem amounts_ordered_trailing_zero :
    Ordered (5/2) (5/2) (parseBalanceMsatBy exactBitcoin (some (.string "2.5")))
      (parseBalanceMsatBy exactBitcoin (some (.string "2.50"))) ↔ Comparable "2.5" "2.50" (5/2) (5/2) := by
  have two : natOf ['2'] = 2 := rfl
  have half : natOf ['5'] = 5 ∧ natOf ['5', '0'] = 50 := ⟨rfl, rfl⟩
  have first : Denotes "2.5".toList (5/2) := @denotes_fraction ['2'] ['5'] _ (by decide) (by rw [two, half.1]; norm_num)
  have second : Denotes "2.50".toList (5/2) :=
    @denotes_fraction ['2'] ['5', '0'] _ (by decide) (by rw [two, half.2]; norm_num)
  exact (amounts_ordered_iff _ _ _ _ first second).2.1

/-- One, written in two ways: one millisatoshi, and one bitcoin. -/
theorem amounts_of_one_differ :
    Denotes "1".toList 1 ∧ Denotes "1.0".toList 1 ∧
    parseMsats "1" = some 1 ∧ parseMsats "1.0" = some 100000000000 ∧
    parseMsatsBy exactBitcoin "1" = some 1 ∧ parseMsatsBy exactBitcoin "1.0" = some 100000000000 ∧
    parseBalanceMsat (some (.string "1")) = 1 ∧ parseBalanceMsat (some (.string "1.0")) = 100000000000 := by
  refine ⟨denotes_one, denotes_one_point, ?_, ?_, ?_, ?_, ?_, ?_⟩ <;> decide +kernel

end Rieko
