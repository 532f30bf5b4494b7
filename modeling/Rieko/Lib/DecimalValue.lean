import Rieko.Lib.DecimalText
import Mathlib.Data.List.TakeWhile
import Mathlib.Tactic.FieldSimp
import Mathlib.Tactic.Positivity
import Mathlib.Tactic.Ring

/-! The numbers that decimal strings denote, and what the parsers make of them. -/

namespace DecimalText

/-- A decimal string: digits, or digits with a fraction. Digits may be missing on one side of the point. -/
inductive Denotes : List Char → ℚ → Prop where
  | whole {digits : List Char} (numeral : isNumeral digits = true) : Denotes digits (natOf digits)
  | fraction {digits places : List Char} (numeral : isNumeral (digits ++ places) = true) :
      Denotes (digits ++ '.' :: places) (natOf digits + natOf places / 10^places.length)

variable {text : List Char} {digits places : List Char} {q : ℚ} {n : Nat}

theorem natOf_append (digits places : List Char) :
    natOf (digits ++ places) = natOf digits * 10^places.length + natOf places := by
  have general : ∀ n, places.foldl (fun n digit => 10 * n + (digit.toNat - '0'.toNat)) n =
      n * 10^places.length + natOf places := by
    induction places with
    | nil => simp [natOf]
    | cons c places ih =>
      intro n
      have first := ih (10 * n + (c.toNat - '0'.toNat))
      have alone := ih (10 * 0 + (c.toNat - '0'.toNat))
      rw [natOf, List.foldl_cons, List.foldl_cons, first, alone, List.length_cons]
      ring
  rw [natOf, List.foldl_append]
  exact general _

theorem isNumeral_iff : isNumeral text = true ↔ text ≠ [] ∧ ∀ c ∈ text, c.isDigit = true := by
  simp [isNumeral, List.all_eq_true]

theorem Denotes.nonneg (denotes : Denotes text q) : 0 ≤ q := by
  cases denotes <;> positivity

theorem parseDecimal_of_denotes (denotes : Denotes text q) : parseDecimal text = some q := by
  cases denotes with
  | whole numeral =>
    obtain ⟨filled, digit⟩ := isNumeral_iff.mp numeral
    have taken : text.takeWhile Char.isDigit = text := List.takeWhile_eq_self_iff.mpr digit
    have dropped : text.dropWhile Char.isDigit = [] := List.dropWhile_eq_nil_iff.mpr digit
    simp [parseDecimal, taken, dropped, filled]
  | @fraction digits places numeral =>
    obtain ⟨filled, digit⟩ := isNumeral_iff.mp numeral
    have digits_digit : ∀ c ∈ digits, c.isDigit = true := fun c member => digit c (by simp [member])
    have places_digit : ∀ c ∈ places, c.isDigit = true := fun c member => digit c (by simp [member])
    have taken : (digits ++ '.' :: places).takeWhile Char.isDigit = digits := by
      rw [List.takeWhile_append_of_pos digits_digit, List.takeWhile_cons_of_neg (by decide), List.append_nil]
    have dropped : (digits ++ '.' :: places).dropWhile Char.isDigit = '.' :: places := by
      rw [List.dropWhile_append_of_pos digits_digit, List.dropWhile_cons_of_neg (by decide)]
    have takenPlaces : places.takeWhile Char.isDigit = places := List.takeWhile_eq_self_iff.mpr places_digit
    have droppedPlaces : places.dropWhile Char.isDigit = [] := List.dropWhile_eq_nil_iff.mpr places_digit
    have present : ¬(digits.isEmpty = true ∧ places.isEmpty = true) := by
      simpa [List.isEmpty_iff] using filled
    simp only [parseDecimal, taken, dropped, takenPlaces, droppedPlaces, if_neg present]
    congr 1
    rw [natOf_append, zero_sub, zpow_neg, zpow_natCast]
    push_cast
    field_simp

theorem Denotes.signless (denotes : Denotes text q) : text.head? ≠ some '+' ∧ text.head? ≠ some '-' := by
  have first : ∀ c, text.head? = some c → c.isDigit = true ∨ c = '.' := by
    intro c front
    cases denotes with
    | whole numeral => exact .inl ((isNumeral_iff.mp numeral).2 c (List.mem_of_head? front))
    | @fraction digits places numeral =>
      cases digits with
      | nil =>
        simp only [List.nil_append, List.head?_cons, Option.some.injEq] at front
        exact .inr front.symm
      | cons d digits =>
        simp only [List.cons_append, List.head?_cons, Option.some.injEq] at front
        subst front
        exact .inl ((isNumeral_iff.mp numeral).2 d (by simp))
  constructor <;> intro front <;> exact absurd (first _ front) (by decide)

theorem Denotes.splitSign_eq (denotes : Denotes text q) : splitSign text = (false, text) := by
  obtain ⟨plus, minus⟩ := denotes.signless
  unfold splitSign
  split
  · simp at minus
  · simp at plus
  · rfl

theorem parseF64_of_denotes {text : String} (denotes : Denotes text.toList q) :
    parseF64 text = some (.pack false q) := by
  simp only [parseF64, denotes.splitSign_eq, parseDecimal_of_denotes denotes]

theorem Denotes.isNumeral_iff_whole (denotes : Denotes text q) : isNumeral text = true ↔ '.' ∉ text := by
  cases denotes with
  | whole numeral =>
    apply iff_of_true numeral
    intro point
    exact absurd ((isNumeral_iff.mp numeral).2 '.' point) (by decide)
  | fraction numeral =>
    apply iff_of_false
    · intro all
      exact absurd ((isNumeral_iff.mp all).2 '.' (by simp)) (by decide)
    · simp

theorem Denotes.eq_natOf (denotes : Denotes text q) (whole : '.' ∉ text) : q = natOf text := by
  cases denotes with
  | whole => rfl
  | fraction => simp at whole

theorem parseU64_of_denotes {text : String} (denotes : Denotes text.toList q) :
    parseU64 text = if '.' ∉ text.toList ∧ q < 2^64 then some (natOf text.toList) else none := by
  have bare : parseU64 text =
      if isNumeral text.toList = true ∧ natOf text.toList < 2^64 then some (natOf text.toList) else none := by
    have plus := denotes.signless.1
    unfold parseU64
    split
    next rest signed => simp [signed] at plus
    next => rfl
  have fits : (isNumeral text.toList = true ∧ natOf text.toList < 2^64) ↔ ('.' ∉ text.toList ∧ q < 2^64) := by
    rw [denotes.isNumeral_iff_whole]
    apply and_congr_right
    intro whole
    rw [denotes.eq_natOf whole]
    exact_mod_cast Iff.rfl
  rw [bare]
  simp only [fits]

end DecimalText
