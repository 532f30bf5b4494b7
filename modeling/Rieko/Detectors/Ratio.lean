import Rieko.Detectors.Registry
import Rieko.Lib.Binary64Order

namespace Rieko

open Binary64

def oneCode : Nat := 1023 * 2^52

def balanceCode : Nat := 1087 * 2^52

def tenThousandCode : Nat := 1036 * 2^52 + 1808 * 2^39

theorem ofNat_one : Binary64.ofNat 1 = ofCode oneCode := by decide +kernel

theorem ofNat_tenThousand : Binary64.ofNat 10000 = ofCode tenThousandCode := by decide +kernel

theorem codeValue_one : codeValue oneCode = 1 := by norm_num [codeValue, oneCode]

theorem codeValue_balance : codeValue balanceCode = 2^64 := by norm_num [codeValue, balanceCode]

theorem packCode_balance_le {n : Nat} (bounded : n ≤ 2^64) : packCode n ≤ balanceCode := by
  refine packCode_le_of_le (Nat.cast_nonneg n) (by decide) ?_
  rw [codeValue_balance]
  exact_mod_cast bounded

theorem one_le_packCode {n : Nat} (positive : 0 < n) : oneCode ≤ packCode n := by
  have least : codeValue oneCode ≤ n := by
    rw [codeValue_one]
    exact_mod_cast positive
  have codes := packCode_mono (codeValue_nonneg oneCode) least
  rwa [packCode_codeValue (by decide)] at codes

theorem div_balance {n m : Nat} (bounded : n ≤ 2^64) (bounded' : m ≤ 2^64) (positive : 0 < m) :
    ∃ c ≤ balanceCode, (n ≤ m → c ≤ oneCode) ∧ (Binary64.ofNat n).div (.ofNat m) = ofCode c := by
  have dividend := packCode_balance_le bounded
  have divisor := packCode_balance_le bounded'
  have least := one_le_packCode positive
  have limit : balanceCode < 2047 * 2^52 := by decide
  have one : oneCode < 2047 * 2^52 := by decide
  have nonzero : packCode m ≠ 0 := by
    unfold oneCode at least
    omega
  refine ⟨packCode (codeValue (packCode n) / codeValue (packCode m)), ?_, fun le => ?_, ?_⟩
  · have dividend_le : codeValue (packCode n) ≤ codeValue balanceCode :=
      (codeValue_le_iff (by omega) limit).mpr dividend
    have divisor_ge : 1 ≤ codeValue (packCode m) := by
      rw [← codeValue_one]
      exact (codeValue_le_iff one (by omega)).mpr least
    refine packCode_le_of_le (div_nonneg (codeValue_nonneg _) (codeValue_nonneg _)) limit ?_
    exact (div_le_self (codeValue_nonneg _) divisor_ge).trans dividend_le
  · have ordered : packCode n ≤ packCode m := packCode_mono (Nat.cast_nonneg n) (by exact_mod_cast le)
    refine packCode_le_of_le (div_nonneg (codeValue_nonneg _) (codeValue_nonneg _)) one ?_
    rw [codeValue_one]
    exact div_le_one_of_le₀ ((codeValue_le_iff (by omega) (by omega)).mpr ordered) (codeValue_nonneg _)
  · rw [ofNat_eq, ofNat_eq]
    exact div_ofCode (by omega) (by omega) nonzero

/-- A ratio as its bits: no more than 2^64, and never negative or undefined. -/
def IsRatio (limit : Nat) (x : Binary64) : Prop := ∃ c ≤ limit, x = ofCode c

theorem foldl_min {limit : Nat} (ratios : List Binary64) (bounded : ∀ x ∈ ratios, IsRatio limit x)
    (finite : limit ≤ 2047 * 2^52) {least : Nat} (number : least ≤ 2047 * 2^52) :
    ∃ c ≤ least, ratios.foldl Binary64.min (ofCode least) = ofCode c ∧ ∀ d ≤ 2047 * 2^52, ofCode d ∈ ratios →
      c ≤ d := by
  induction ratios generalizing least with
  | nil => exact ⟨least, le_refl _, rfl, by simp⟩
  | cons x rest ih =>
    obtain ⟨e, small, rfl⟩ := bounded x List.mem_cons_self
    have step := min_ofCode number (small.trans finite)
    have smaller : Min.min least e ≤ 2047 * 2^52 := (Nat.min_le_left _ _).trans number
    obtain ⟨c, le, folded, below⟩ := ih (fun y member => bounded y (List.mem_cons_of_mem _ member)) smaller
    refine ⟨c, le.trans (Nat.min_le_left _ _), ?_, fun d number' member => ?_⟩
    · rw [List.foldl_cons, step]
      exact folded
    · rcases List.mem_cons.mp member with same | later
      · rw [ofCode_inj (by omega) (by omega) same]
        exact le.trans (Nat.min_le_right _ _)
      · exact below d number' later

theorem compute_ratio {capacity local_ : Nat} (remote : Nat) (bounded : capacity ≤ 2^64) (bounded' : local_ ≤ 2^64) :
    IsRatio balanceCode (LiquidityProfile.compute capacity local_ remote).localRatio := by
  unfold LiquidityProfile.compute
  dsimp only
  split
  · exact ⟨0, Nat.zero_le _, by decide⟩
  · obtain ⟨c, le, -, ratio⟩ := div_balance bounded' bounded (Nat.pos_of_ne_zero ‹_›)
    exact ⟨c, le, ratio⟩

theorem compute_classified {capacity : Nat} (local_ remote : Nat) (bounded : capacity ≤ 2^64)
    (known : (LiquidityProfile.compute capacity local_ remote).imbalance ≠ .unknown) :
    capacity ≠ 0 ∧ IsRatio oneCode (LiquidityProfile.compute capacity local_ remote).localRatio := by
  unfold LiquidityProfile.compute at *
  dsimp only at *
  split at known
  · exact absurd rfl known
  next valid =>
    have positive : capacity ≠ 0 := fun zero => valid (.inl zero)
    have within : local_ ≤ capacity := not_lt.mp fun above => valid (.inr (.inl above))
    obtain ⟨c, -, small, ratio⟩ := div_balance (within.trans bounded) bounded (Nat.pos_of_ne_zero positive)
    rw [if_neg positive]
    exact ⟨positive, c, small within, ratio⟩

def round4Code (c : Nat) : Nat :=
  packCode (codeValue (packCode ⌊codeValue (packCode (codeValue c * codeValue tenThousandCode)) + 1/2⌋₊) /
    codeValue tenThousandCode)

section Round4

variable {c d : Nat}

def scaledCode : Nat := packCode (codeValue balanceCode * codeValue tenThousandCode)

theorem scaledCode_lt : scaledCode < 2047 * 2^52 := by decide +kernel

theorem scaled_le (small : c ≤ balanceCode) :
    packCode (codeValue c * codeValue tenThousandCode) ≤ scaledCode := by
  have limit : balanceCode < 2047 * 2^52 := by decide
  have value : codeValue c ≤ codeValue balanceCode := (codeValue_le_iff (by omega) limit).mpr small
  exact packCode_mono (mul_nonneg (codeValue_nonneg _) (codeValue_nonneg _))
    (mul_le_mul_of_nonneg_right value (codeValue_nonneg _))

theorem rounded_le (small : c ≤ scaledCode) : packCode ⌊codeValue c + 1/2⌋₊ ≤ scaledCode := by
  have limit := scaledCode_lt
  have value : codeValue c ≤ codeValue scaledCode := (codeValue_le_iff (by omega) limit).mpr small
  have floor : ⌊codeValue c + 1/2⌋₊ ≤ ⌊codeValue scaledCode + 1/2⌋₊ := Nat.floor_le_floor (by linarith)
  have top : packCode ⌊codeValue scaledCode + 1/2⌋₊ = scaledCode := by decide +kernel
  rw [← top]
  exact packCode_mono (Nat.cast_nonneg _) (by exact_mod_cast floor)

theorem round4_ofCode (small : c ≤ balanceCode) : round4 (ofCode c) = ofCode (round4Code c) := by
  have scaled := scaled_le small
  have rounded := rounded_le scaled
  have limit := scaledCode_lt
  have limit' : balanceCode < 2047 * 2^52 := by decide
  unfold round4 round4Code
  rw [ofNat_tenThousand, mul_ofCode (by omega) (by decide), round_ofCode (by omega),
    div_ofCode (by omega) (by decide) (by decide)]

theorem round4Code_mono (le : c ≤ d) (small : d ≤ balanceCode) : round4Code c ≤ round4Code d := by
  have limit := scaledCode_lt
  have limit' : balanceCode < 2047 * 2^52 := by decide
  have scaled := scaled_le small
  have rounded := rounded_le scaled
  have products : packCode (codeValue c * codeValue tenThousandCode) ≤
      packCode (codeValue d * codeValue tenThousandCode) :=
    packCode_mono (mul_nonneg (codeValue_nonneg _) (codeValue_nonneg _))
      (mul_le_mul_of_nonneg_right ((codeValue_le_iff (by omega) (by omega)).mpr le) (codeValue_nonneg _))
  have values := (codeValue_le_iff (by omega) (by omega)).mpr products
  have floors : ⌊codeValue (packCode (codeValue c * codeValue tenThousandCode)) + 1/2⌋₊ ≤
      ⌊codeValue (packCode (codeValue d * codeValue tenThousandCode)) + 1/2⌋₊ := Nat.floor_le_floor (by linarith)
  have codes : packCode ⌊codeValue (packCode (codeValue c * codeValue tenThousandCode)) + 1/2⌋₊ ≤
      packCode ⌊codeValue (packCode (codeValue d * codeValue tenThousandCode)) + 1/2⌋₊ :=
    packCode_mono (Nat.cast_nonneg _) (by exact_mod_cast floors)
  refine packCode_mono (div_nonneg (codeValue_nonneg _) (codeValue_nonneg _)) ?_
  exact div_le_div_of_nonneg_right ((codeValue_le_iff (by omega) (by omega)).mpr codes) (codeValue_nonneg _)

def aboveOneCode : Nat := oneCode + 225179981369

theorem aboveOneCode_eq : Binary64.ofRat (100005/100000) = ofCode aboveOneCode := by decide +kernel

theorem round4Code_le_one (small : c ≤ balanceCode) : round4Code c ≤ oneCode ↔ c < aboveOneCode := by
  have last : round4Code (aboveOneCode - 1) = oneCode := by decide +kernel
  have first : oneCode < round4Code aboveOneCode := by decide +kernel
  have room : aboveOneCode - 1 ≤ balanceCode := by decide
  constructor
  · intro le
    by_contra above
    have codes := round4Code_mono (not_lt.mp above) small
    omega
  · intro below
    have codes := round4Code_mono (Nat.le_sub_one_of_lt below) room
    omega

end Round4

end Rieko
