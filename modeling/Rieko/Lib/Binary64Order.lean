import Rieko.Lib.Binary64
import Mathlib.Algebra.Order.Field.Power
import Mathlib.Tactic.Linarith
import Mathlib.Tactic.Positivity
import Mathlib.Tactic.Ring

/-! Rounding to binary64 is monotone and leaves representable numbers as they are. -/

namespace Binary64

theorem roundEven_natCast (n : Nat) : roundEven n = n := by
  unfold roundEven
  simp

theorem floor_le_roundEven (q : ℚ) : ⌊q⌋₊ ≤ roundEven q := by
  unfold roundEven
  dsimp only
  split_ifs <;> omega

theorem roundEven_le_floor_succ (q : ℚ) : roundEven q ≤ ⌊q⌋₊ + 1 := by
  unfold roundEven
  dsimp only
  split_ifs <;> omega

theorem roundEven_mono {p q : ℚ} (le : p ≤ q) : roundEven p ≤ roundEven q := by
  have floors : ⌊p⌋₊ ≤ ⌊q⌋₊ := Nat.floor_le_floor le
  rcases Nat.lt_or_eq_of_le floors with below | same
  · have upper := roundEven_le_floor_succ p
    have lower := floor_le_roundEven q
    omega
  · have rests : p - ⌊p⌋₊ ≤ q - ⌊q⌋₊ := by
      rw [same]
      linarith
    have upper := roundEven_le_floor_succ p
    have lower := floor_le_roundEven q
    unfold roundEven at *
    dsimp only at *
    rw [same] at *
    split_ifs at * with h₁ h₂ h₃ h₄ h₅ h₆ <;> first | omega | linarith

def scale (q : ℚ) : Int := max (-1074) (Int.log 2 q - 52)

theorem lt_scale (q : ℚ) : q < 2^(scale q + 53) := by
  have below : q < (2 : ℚ)^(Int.log 2 q + 1) := Int.lt_zpow_succ_log_self (by decide) q
  have room : Int.log 2 q + 1 ≤ scale q + 53 := by
    unfold scale
    omega
  exact below.trans_le (zpow_le_zpow_right₀ (by norm_num) room)

theorem scale_le {q : ℚ} (positive : 0 < q) (normal : -1074 < scale q) : 2^(scale q + 52) ≤ q := by
  have above : (2 : ℚ)^Int.log 2 q ≤ q := Int.zpow_log_le_self (by decide) positive
  have exponent : scale q + 52 = Int.log 2 q := by
    unfold scale at *
    omega
  rwa [exponent]

theorem scale_mono {p q : ℚ} (positive : 0 < p) (le : p ≤ q) : scale p ≤ scale q := by
  have logs : Int.log 2 p ≤ Int.log 2 q := Int.log_mono_right positive le
  unfold scale
  omega

/-- The bits below the sign of what a magnitude is rounded to. -/
def packCode (q : ℚ) : Nat :=
  if q = 0 then 0
  else Min.min (roundEven (q * 2^(-scale q)) + (scale q + 1074).toNat * 2^52) (2047 * 2^52)

theorem pack_eq (negative : Bool) (q : ℚ) : pack negative q = signed negative (packCode q) := by
  unfold pack packCode
  split <;> rfl

theorem packCode_le (q : ℚ) : packCode q ≤ 2047 * 2^52 := by
  unfold packCode
  split
  · omega
  · exact Nat.min_le_right _ _

theorem packCode_mono {p q : ℚ} (nonneg : 0 ≤ p) (le : p ≤ q) : packCode p ≤ packCode q := by
  rcases nonneg.eq_or_lt with rfl | positive
  · unfold packCode
    rw [if_pos rfl]
    exact Nat.zero_le _
  have positive' : 0 < q := positive.trans_le le
  unfold packCode
  rw [if_neg positive.ne', if_neg positive'.ne']
  suffices codes : roundEven (p * 2^(-scale p)) + (scale p + 1074).toNat * 2^52 ≤
      roundEven (q * 2^(-scale q)) + (scale q + 1074).toNat * 2^52 from
    Nat.le_min.mpr ⟨(Nat.min_le_left _ _).trans codes, Nat.min_le_right _ _⟩
  have scales := scale_mono positive le
  have least : -1074 ≤ scale p := le_max_left _ _
  rcases scales.eq_or_lt with same | below
  · rw [same]
    have scaled : p * (2 : ℚ)^(-scale q) ≤ q * 2^(-scale q) := by gcongr
    have rounded := roundEven_mono scaled
    omega
  · have small : p * (2 : ℚ)^(-scale p) ≤ (2^53 : Nat) := by
      have bound := lt_scale p
      rw [zpow_add₀ (by norm_num)] at bound
      rw [zpow_neg, ← div_eq_mul_inv, div_le_iff₀ (by positivity)]
      push_cast
      linarith
    have large : ((2^52 : Nat) : ℚ) ≤ q * 2^(-scale q) := by
      have bound := scale_le positive' (least.trans_lt below)
      rw [zpow_add₀ (by norm_num)] at bound
      rw [zpow_neg, ← div_eq_mul_inv, le_div_iff₀ (by positivity)]
      push_cast
      linarith
    have upper := roundEven_mono small
    have lower := roundEven_mono large
    rw [roundEven_natCast] at upper lower
    omega

theorem packCode_representable {m : Nat} {s : Int} (positive : 0 < m) (small : m < 2^53) (least : -1074 ≤ s)
    (normal : s = -1074 ∨ 2^52 ≤ m) :
    packCode (m * 2^s) = Min.min (m + (s + 1074).toNat * 2^52) (2047 * 2^52) := by
  have value : 0 < (m : ℚ) * 2^s := by positivity
  have below : Int.log 2 ((m : ℚ) * 2^s) < s + 53 := by
    refine (Int.lt_zpow_iff_log_lt (by decide) value).mp ?_
    have cast : (m : ℚ) < 2^53 := by exact_mod_cast small
    calc (m : ℚ) * 2^s < 2^53 * 2^s := by gcongr
      _ = ((2 : Nat) : ℚ)^(s + 53) := by
        push_cast
        rw [zpow_add₀ (by norm_num), mul_comm]
        rfl
  have place : scale ((m : ℚ) * 2^s) = s := by
    unfold scale
    rcases normal with rfl | wide
    · omega
    · have above : s + 52 ≤ Int.log 2 ((m : ℚ) * 2^s) := by
        refine (Int.zpow_le_iff_le_log (by decide) value).mp ?_
        have cast : (2^52 : ℚ) ≤ m := by exact_mod_cast wide
        calc ((2 : Nat) : ℚ)^(s + 52) = 2^52 * 2^s := by
              push_cast
              rw [zpow_add₀ (by norm_num), mul_comm]
              rfl
          _ ≤ m * 2^s := by gcongr
      omega
  have exponent : (m : ℚ) * 2^s * 2^(-s) = m := by
    rw [mul_assoc, ← zpow_add₀ (by norm_num), add_neg_cancel, zpow_zero, mul_one]
  unfold packCode
  rw [if_neg value.ne', place, exponent, roundEven_natCast]

def code (x : Binary64) : Nat := x.bits.toNat % 2^63

/-- The magnitude that the bits below the sign stand for. -/
def codeValue (c : Nat) : ℚ :=
  if c / 2^52 = 0 then (c % 2^52 : Nat) * (2 : ℚ)^(-1074 : Int)
  else (2^52 + c % 2^52 : Nat) * (2 : ℚ)^(((c / 2^52 : Nat) : Int) - 1075)

theorem packCode_codeValue {c : Nat} (finite : c < 2047 * 2^52) : packCode (codeValue c) = c := by
  unfold codeValue
  split
  next subnormal =>
    by_cases zero : c % 2^52 = 0
    · have nothing : c = 0 := by omega
      rw [nothing]
      simp [packCode]
    · have bottom : ((-1074 : Int) + 1074).toNat = 0 := rfl
      rw [packCode_representable (by omega) (by omega) (by omega) (.inl rfl), bottom, Nat.min_eq_left (by omega)]
      omega
  next normal =>
    rw [packCode_representable (by omega) (by omega) (by omega) (.inr (by omega)), Nat.min_eq_left (by omega)]
    omega

theorem codeValue_nonneg (c : Nat) : 0 ≤ codeValue c := by
  unfold codeValue
  split <;> positivity

theorem codeValue_le_iff {c d : Nat} (finite : c < 2047 * 2^52) (finite' : d < 2047 * 2^52) :
    codeValue c ≤ codeValue d ↔ c ≤ d := by
  have ascends {c d : Nat} (finite : c < 2047 * 2^52) (finite' : d < 2047 * 2^52) (le : codeValue c ≤ codeValue d) :
      c ≤ d := by
    have codes := packCode_mono (codeValue_nonneg c) le
    rwa [packCode_codeValue finite, packCode_codeValue finite'] at codes
  refine ⟨ascends finite finite', fun le => ?_⟩
  by_contra above
  have back := ascends finite' finite (le_of_lt (not_le.mp above))
  have same : c = d := le_antisymm le back
  exact above (same ▸ le_refl _)

theorem packCode_le_of_le {q : ℚ} {c : Nat} (nonneg : 0 ≤ q) (finite : c < 2047 * 2^52) (le : q ≤ codeValue c) :
    packCode q ≤ c := by
  have codes := packCode_mono nonneg le
  rwa [packCode_codeValue finite] at codes

def ofCode (c : Nat) : Binary64 := signed false c

theorem pack_false (q : ℚ) : pack false q = ofCode (packCode q) := pack_eq false q

theorem ofNat_eq (n : Nat) : ofNat n = ofCode (packCode n) := pack_false n

section Code

variable {c d : Nat}

theorem toNat_signed (negative : Bool) (small : c < 2^63) :
    (signed negative c).bits.toNat = (if negative then 2^63 else 0) + c := by
  unfold signed
  rw [BitVec.toNat_ofNat]
  exact Nat.mod_eq_of_lt (by split <;> omega)

theorem negative_signed (negative : Bool) (small : c < 2^63) : (signed negative c).negative = negative := by
  unfold Binary64.negative
  rw [BitVec.msb_eq_decide, toNat_signed negative small]
  cases negative with
  | false => exact decide_eq_false (by simp only [Bool.false_eq_true, if_false]; omega)
  | true => exact decide_eq_true (by simp only [if_true]; omega)

theorem exponent_signed (negative : Bool) (small : c < 2^63) : (signed negative c).exponent = c / 2^52 := by
  unfold exponent
  rw [toNat_signed negative small]
  split <;> omega

theorem fraction_signed (negative : Bool) (small : c < 2^63) : (signed negative c).fraction = c % 2^52 := by
  unfold fraction
  rw [toNat_signed negative small]
  split <;> omega

theorem magnitude_signed (negative : Bool) (small : c < 2^63) : (signed negative c).magnitude = codeValue c := by
  unfold magnitude codeValue
  rw [exponent_signed negative small, fraction_signed negative small]

theorem isNaN_signed (negative : Bool) (number : c ≤ 2047 * 2^52) : (signed negative c).isNaN = false := by
  unfold isNaN
  rw [exponent_signed negative (by omega), fraction_signed negative (by omega)]
  rcases Nat.lt_or_eq_of_le number with below | infinite
  · have exponent : ¬c / 2^52 = 2047 := by omega
    rw [decide_eq_false exponent, Bool.false_and]
  · have fraction : ¬c % 2^52 ≠ 0 := by omega
    rw [decide_eq_false fraction, Bool.and_false]

theorem isInfinite_signed (negative : Bool) (finite : c < 2047 * 2^52) : (signed negative c).isInfinite = false := by
  unfold isInfinite
  rw [exponent_signed negative (by omega)]
  have below : ¬c / 2^52 = 2047 := by omega
  rw [decide_eq_false below, Bool.false_and]

theorem isFinite_signed (negative : Bool) (finite : c < 2047 * 2^52) : (signed negative c).isFinite = true := by
  unfold isFinite
  rw [exponent_signed negative (by omega)]
  have below : c / 2^52 ≠ 2047 := by omega
  exact decide_eq_true below

theorem key_signed (negative : Bool) (small : c < 2^63) :
    (signed negative c).key = if negative then -(c : Int) else c := by
  unfold key
  rw [negative_signed negative small, toNat_signed negative small]
  have low : ((if negative then 2^63 else 0) + c) % 2^63 = c := by split <;> omega
  rw [low]

theorem ofCode_inj (small : c < 2^63) (small' : d < 2^63) (same : ofCode c = ofCode d) : c = d := by
  have keys := congrArg key same
  unfold ofCode at keys
  rw [key_signed false small, key_signed false small'] at keys
  simpa using keys

theorem le_ofCode (number : c ≤ 2047 * 2^52) (number' : d ≤ 2047 * 2^52) :
    (ofCode c).le (ofCode d) = decide (c ≤ d) := by
  unfold le ofCode
  rw [isNaN_signed false number, isNaN_signed false number', key_signed false (by omega), key_signed false (by omega)]
  simp

theorem lt_ofCode (number : c ≤ 2047 * 2^52) (number' : d ≤ 2047 * 2^52) :
    (ofCode c).lt (ofCode d) = decide (c < d) := by
  unfold lt ofCode
  rw [isNaN_signed false number, isNaN_signed false number', key_signed false (by omega), key_signed false (by omega)]
  simp

theorem lt_of_negative (number : c ≤ 2047 * 2^52) (number' : d ≤ 2047 * 2^52) (positive : 0 < d) :
    (signed true c).lt (ofCode d) = true := by
  have keys : -(c : Int) < d := by omega
  unfold lt ofCode
  rw [isNaN_signed true number, isNaN_signed false number', key_signed true (by omega), key_signed false (by omega),
    if_pos rfl, if_neg (by decide), decide_eq_true keys]
  rfl

theorem min_ofCode (number : c ≤ 2047 * 2^52) (number' : d ≤ 2047 * 2^52) :
    (ofCode c).min (ofCode d) = ofCode (Min.min c d) := by
  have numbers : (ofCode c).isNaN = false ∧ (ofCode d).isNaN = false :=
    ⟨isNaN_signed false number, isNaN_signed false number'⟩
  unfold Binary64.min
  rw [numbers.1, numbers.2, lt_ofCode number' number, if_neg (by decide), if_neg (by decide)]
  by_cases below : d < c
  · rw [decide_eq_true below, if_pos rfl, Nat.min_eq_right below.le]
  · rw [decide_eq_false below, if_neg (by decide), Nat.min_eq_left (not_lt.mp below)]

theorem mul_ofCode (finite : c < 2047 * 2^52) (finite' : d < 2047 * 2^52) :
    (ofCode c).mul (ofCode d) = ofCode (packCode (codeValue c * codeValue d)) := by
  unfold mul
  dsimp only
  rw [ofCode, ofCode, negative_signed false (by omega), negative_signed false (by omega),
    isNaN_signed false finite.le, isNaN_signed false finite'.le, isInfinite_signed false finite,
    isInfinite_signed false finite', magnitude_signed false (by omega), magnitude_signed false (by omega)]
  simp only [Bool.false_eq_true, if_false, Bool.or_self, bne_self_eq_false]
  exact pack_false _

def codeTimes (c d : Nat) : Nat := if c = 2047 * 2^52 then 2047 * 2^52 else packCode (codeValue c * codeValue d)

theorem isInfinite_top (negative : Bool) : (signed negative (2047 * 2^52)).isInfinite = true := by
  cases negative <;> decide

theorem mul_codeTimes (number : c ≤ 2047 * 2^52) (finite : d < 2047 * 2^52) (positive : 0 < d) :
    (ofCode c).mul (ofCode d) = ofCode (codeTimes c d) := by
  by_cases top : c = 2047 * 2^52
  · have nonzero : ((d : Nat) : Int) ≠ 0 := by omega
    unfold mul codeTimes ofCode
    rw [if_pos top, top]
    simp only [isNaN_signed false (le_refl (2047 * 2^52)), isNaN_signed false finite.le, isInfinite_top,
      negative_signed false (show 2047 * 2^52 < 2^63 by decide), negative_signed false (show d < 2^63 by omega),
      key_signed false (show d < 2^63 by omega), if_neg nonzero, Bool.or_self, Bool.false_eq_true, if_false, if_true,
      bne_self_eq_false]
    rfl
  · rw [mul_ofCode (by omega) finite, codeTimes, if_neg top]

theorem codeTimes_le (c d : Nat) : codeTimes c d ≤ 2047 * 2^52 := by
  unfold codeTimes
  split
  · exact le_refl _
  · exact packCode_le _

theorem codeTimes_mono {c' : Nat} (le : c ≤ c') (number : c' ≤ 2047 * 2^52) : codeTimes c d ≤ codeTimes c' d := by
  by_cases top : c' = 2047 * 2^52
  · have greatest : codeTimes c' d = 2047 * 2^52 := if_pos top
    rw [greatest]
    exact codeTimes_le c d
  · have finite' : c' < 2047 * 2^52 := by omega
    have values := (codeValue_le_iff (le.trans_lt finite') finite').mpr le
    unfold codeTimes
    rw [if_neg (by omega), if_neg top]
    apply packCode_mono
    · exact mul_nonneg (codeValue_nonneg c) (codeValue_nonneg d)
    · exact mul_le_mul_of_nonneg_right values (codeValue_nonneg d)

theorem toU64_ofCode (number : c ≤ 2047 * 2^52) :
    (ofCode c).toU64 = if c = 2047 * 2^52 then 2^64 - 1 else Nat.min ⌊codeValue c⌋₊ (2^64 - 1) := by
  unfold toU64 ofCode
  rw [isNaN_signed false number, negative_signed false (by omega)]
  by_cases top : c = 2047 * 2^52
  · rw [if_pos top, top, isInfinite_top]
    rfl
  · rw [if_neg top, isInfinite_signed false (by omega), magnitude_signed false (by omega)]
    rfl

theorem toU64_mono (le : c ≤ d) (number : d ≤ 2047 * 2^52) : (ofCode c).toU64 ≤ (ofCode d).toU64 := by
  have bounded : (ofCode c).toU64 ≤ 2^64 - 1 := by
    rw [toU64_ofCode (le.trans number)]
    split
    · exact le_refl _
    · exact Nat.min_le_right _ _
  by_cases top : d = 2047 * 2^52
  · rw [toU64_ofCode number, if_pos top]
    exact bounded
  · have finite : d < 2047 * 2^52 := by omega
    have values := (codeValue_le_iff (le.trans_lt finite) finite).mpr le
    rw [toU64_ofCode number, if_neg top, toU64_ofCode (le.trans number), if_neg (by omega)]
    have floors := Nat.floor_le_floor values
    apply Nat.le_min.mpr
    exact ⟨(Nat.min_le_left _ _).trans floors, Nat.min_le_right _ _⟩

theorem div_ofCode (finite : c < 2047 * 2^52) (finite' : d < 2047 * 2^52) (nonzero : d ≠ 0) :
    (ofCode c).div (ofCode d) = ofCode (packCode (codeValue c / codeValue d)) := by
  unfold div
  dsimp only
  have divisor : ((d : Nat) : Int) ≠ 0 := by omega
  rw [ofCode, ofCode, negative_signed false (by omega), negative_signed false (by omega),
    isNaN_signed false finite.le, isNaN_signed false finite'.le, isInfinite_signed false finite,
    isInfinite_signed false finite', magnitude_signed false (by omega), magnitude_signed false (by omega),
    key_signed false (c := d) (by omega)]
  simp only [Bool.false_eq_true, if_false, if_neg divisor, Bool.or_self, bne_self_eq_false]
  exact pack_false _

theorem round_ofCode (finite : c < 2047 * 2^52) :
    (ofCode c).round = ofCode (packCode ⌊codeValue c + 1/2⌋₊) := by
  unfold round
  rw [ofCode, isFinite_signed false finite, negative_signed false (by omega), magnitude_signed false (by omega),
    if_pos rfl]
  exact pack_false _

theorem neg_ofCode (small : c < 2^63) : (ofCode c).neg = signed true c := by
  have bits : (BitVec.ofNat 64 c ^^^ BitVec.ofNat 64 (2^63)) = BitVec.ofNat 64 (2^63 + c) := by
    refine BitVec.eq_of_toNat_eq ?_
    have high : c.testBit 63 = false := Nat.testBit_lt_two_pow small
    have flipped : c ^^^ 2^63 = 2^63 + c := by
      refine Nat.eq_of_testBit_eq fun i => ?_
      rw [Nat.testBit_xor, Nat.testBit_two_pow]
      rcases lt_trichotomy i 63 with below | rfl | above
      · rw [Nat.testBit_two_pow_add_gt below, decide_eq_false (by omega), Bool.xor_false]
      · rw [Nat.testBit_two_pow_add_eq, high, decide_eq_true rfl, Bool.false_xor, Bool.not_false]
      · have wide : 2^64 ≤ 2^i := Nat.pow_le_pow_right (by omega) above
        rw [Nat.testBit_lt_two_pow (x := c) (by omega), Nat.testBit_lt_two_pow (x := 2^63 + c) (by omega),
          decide_eq_false (by omega), Bool.xor_false]
    rw [BitVec.toNat_xor, BitVec.toNat_ofNat, BitVec.toNat_ofNat, BitVec.toNat_ofNat, Nat.mod_eq_of_lt (by omega),
      Nat.mod_eq_of_lt (by omega), Nat.mod_eq_of_lt (by omega), flipped]
  show Binary64.mk (BitVec.ofNat 64 (0 + c) ^^^ BitVec.ofNat 64 (2^63)) = ⟨BitVec.ofNat 64 (2^63 + c)⟩
  rw [Nat.zero_add, bits]

theorem sub_ofCode (finite : c < 2047 * 2^52) (finite' : d < 2047 * 2^52) :
    (ofCode c).sub (ofCode d) =
      if d ≤ c then ofCode (packCode (codeValue c - codeValue d))
      else signed true (packCode (codeValue d - codeValue c)) := by
  have sum : (ofCode c).toRat + (ofCode d).neg.toRat = codeValue c - codeValue d := by
    rw [neg_ofCode (by omega)]
    unfold toRat ofCode
    rw [negative_signed false (by omega), negative_signed true (by omega), magnitude_signed false (by omega),
      magnitude_signed true (by omega), if_neg (by decide), if_pos rfl, sub_eq_add_neg]
  have added : (ofCode c).sub (ofCode d) =
      if codeValue c - codeValue d = 0 then ofCode 0 else ofRat (codeValue c - codeValue d) := by
    unfold sub add
    dsimp only
    rw [sum, neg_ofCode (by omega), ofCode, ofCode, isNaN_signed false finite.le, isNaN_signed false finite'.le,
      isNaN_signed true finite'.le, isInfinite_signed false finite, isInfinite_signed true finite',
      negative_signed false (by omega)]
    simp only [Bool.false_eq_true, if_false, Bool.or_self, Bool.false_and]
    rfl
  rw [added]
  unfold ofRat
  rw [pack_eq]
  have order := codeValue_le_iff finite' finite
  by_cases le : d ≤ c
  · have nonneg : 0 ≤ codeValue c - codeValue d := sub_nonneg.mpr (order.mpr le)
    rw [if_pos le, abs_of_nonneg nonneg, decide_eq_false (not_lt.mpr nonneg)]
    split
    next zero =>
      rw [zero]
      rfl
    · rfl
  · have negative : codeValue c - codeValue d < 0 := sub_neg.mpr (not_le.mp fun back => le (order.mp back))
    rw [if_neg le, if_neg negative.ne, abs_of_neg negative, decide_eq_true negative, neg_sub]

end Code

end Binary64
