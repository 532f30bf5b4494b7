import Rieko.IngestLnd.Normalize
import Rieko.Lib.BitMask

namespace Rieko

open DecimalText BitMask

namespace Normalizer

def lndFlags : List (String × Nat) :=
  [("ChanStatusDefault", 0), ("ChanStatusBorked", 1), ("ChanStatusCommitBroadcasted", 2),
    ("ChanStatusLocalDataLoss", 4), ("ChanStatusRestored", 8), ("ChanStatusCoopBroadcasted", 16),
    ("ChanStatusLocalCloseInitiator", 32), ("ChanStatusRemoteCloseInitiator", 64)]

def hexValue (digits : List Nat) : Nat := digits.foldl (fun n digit => 16 * n + digit) 0

/-- The digits of a number, before which a plus sign may stand where it is allowed. -/
def Numbers (plus : Bool) (token digits : List Char) : Prop := token = digits ∨ plus = true ∧ token = '+' :: digits

/-- The spellings of a number as a token: a named flag, decimal digits, or hexadecimal ones after `0x`. -/
inductive Spells (plus : Bool) : List Char → Nat → Prop where
  | named {name : String} {value : Nat} (listed : (name, value) ∈ lndFlags) : Spells plus name.toList value
  | decimal {token digits : List Char} (numbers : Numbers plus token digits) (numeral : isNumeral digits = true) :
    Spells plus token (natOf digits)
  | hexadecimal {token digits : List Char} {values : List Nat} (numbers : Numbers plus token digits)
    (read : digits.mapM hexDigit = some values) (present : values ≠ []) :
    Spells plus ('0' :: 'x' :: token) (hexValue values)

def tokens (flags : String) : List (List Char) := ((flags.toList.splitOn '|').map Text.trim).filter (!·.isEmpty)

section Numerals

variable {token digits : List Char} {n : Nat}

def withoutPlus : List Char → List Char
  | '+' :: rest => rest
  | all => all

theorem exists_numbers_iff {P : List Char → Prop} (signless : ∀ rest, ¬P ('+' :: rest)) :
    (∃ digits, Numbers true token digits ∧ P digits) ↔ P (withoutPlus token) := by
  unfold withoutPlus
  split
  next rest =>
    constructor
    · rintro ⟨digits, rfl | ⟨-, same⟩, held⟩
      · exact absurd held (signless rest)
      · cases same
        exact held
    · intro held
      exact ⟨rest, .inr ⟨rfl, rfl⟩, held⟩
  next unsigned =>
    constructor
    · rintro ⟨digits, rfl | ⟨-, same⟩, held⟩
      · exact held
      · exact absurd same (unsigned digits)
    · intro held
      exact ⟨token, .inl rfl, held⟩

theorem parseU64_iff : parseU64 (.ofList token) = some n ↔
    ∃ digits, Numbers true token digits ∧ isNumeral digits = true ∧ natOf digits = n ∧ n < 2^64 := by
  have signless (rest : List Char) :
      ¬(isNumeral ('+' :: rest) = true ∧ natOf ('+' :: rest) = n ∧ n < 2^64) := by
    simp [isNumeral]
  rw [exists_numbers_iff signless]
  unfold parseU64
  rw [String.toList_ofList]
  change (if isNumeral (withoutPlus token) = true ∧ natOf (withoutPlus token) < 2^64 then
    some (natOf (withoutPlus token)) else none) = some n ↔ _
  rw [Option.ite_none_right_eq_some, Option.some.injEq, and_assoc]
  constructor
  · rintro ⟨numeral, fits, rfl⟩
    exact ⟨numeral, rfl, fits⟩
  · rintro ⟨numeral, rfl, fits⟩
    exact ⟨numeral, fits, rfl⟩

def readHex (digits : List Char) : Option Nat :=
  match digits.mapM hexDigit with
  | none | some [] => none
  | some values => if hexValue values < 2^64 then some (hexValue values) else none

theorem readHex_iff : readHex digits = some n ↔
    ∃ values, digits.mapM hexDigit = some values ∧ values ≠ [] ∧ hexValue values = n ∧ n < 2^64 := by
  unfold readHex
  cases read : digits.mapM hexDigit with
  | none => simp
  | some values =>
    cases values with
    | nil => simp
    | cons value values =>
      simp only [Option.ite_none_right_eq_some, Option.some.injEq, exists_eq_left', ne_eq, reduceCtorEq,
        not_false_eq_true, true_and]
      constructor
      · rintro ⟨fits, rfl⟩
        exact ⟨rfl, fits⟩
      · rintro ⟨rfl, fits⟩
        exact ⟨fits, rfl⟩

theorem parseHexU64_iff : parseHexU64 token = some n ↔
    ∃ digits, Numbers true token digits ∧
      ∃ values, digits.mapM hexDigit = some values ∧ values ≠ [] ∧ hexValue values = n ∧ n < 2^64 := by
  have signless (rest : List Char) : ¬∃ values, ('+' :: rest).mapM hexDigit = some values ∧ values ≠ [] ∧
      hexValue values = n ∧ n < 2^64 := by
    rintro ⟨values, read, -⟩
    have plus : hexDigit '+' = none := by decide
    simp [List.mapM_cons, plus] at read
  rw [exists_numbers_iff signless, ← readHex_iff]
  rfl

end Numerals

section Tokens

variable {token : List Char} {n : Nat} {bits : UInt64}

theorem flagBits_iff :
    flagBits token = some bits ↔ ∃ n, (String.ofList token, n) ∈ lndFlags ∧ bits = .ofNat n := by
  constructor
  · intro read
    have entry : ∃ entry ∈ lndFlags, entry.1 = .ofList token ∧ bits = .ofNat entry.2 := by
      unfold flagBits at read
      split at read
      all_goals cases read
      all_goals next same => rw [same]; decide
    obtain ⟨⟨name, n⟩, listed, rfl, same⟩ := entry
    exact ⟨n, listed, same⟩
  · rintro ⟨n, listed, rfl⟩
    have each : ∀ entry ∈ lndFlags, flagBits entry.1.toList = some (.ofNat entry.2) := by decide
    have read := each _ listed
    rwa [String.toList_ofList] at read

theorem named_shape {name : String} {value : Nat} (listed : (name, value) ∈ lndFlags) :
    name.toList.head? = some 'C' ∧ value < 2^64 := by
  have each : ∀ entry ∈ lndFlags, entry.1.toList.head? = some 'C' ∧ entry.2 < 2^64 := by decide
  exact each _ listed

theorem isNumeral_head {digits : List Char} {c : Char} (numeral : isNumeral digits = true)
    (head : digits.head? = some c) : c.isDigit = true := by
  cases digits with
  | nil => cases head
  | cons d digits =>
    cases head
    simp only [isNumeral, List.all_cons, Bool.and_eq_true] at numeral
    exact numeral.2.1

theorem numbers_head {plus : Bool} {digits : List Char} (numbers : Numbers plus token digits)
    (numeral : isNumeral digits = true) : token.head? ≠ some 'C' := by
  rcases numbers with rfl | ⟨-, rfl⟩
  · intro head
    have digit := isNumeral_head numeral head
    revert digit
    decide
  · simp

theorem parseU64_named {name : String} {value : Nat} (listed : (name, value) ∈ lndFlags) :
    parseU64 name = none := by
  cases parsed : parseU64 name with
  | none => rfl
  | some n =>
    rw [← String.ofList_toList (s := name)] at parsed
    obtain ⟨digits, numbers, numeral, -⟩ := parseU64_iff.mp parsed
    exact absurd (named_shape listed).1 (numbers_head numbers numeral)

theorem tokenBits_iff : tokenBits token = some bits ↔ ∃ n, Spells true token n ∧ n < 2^64 ∧ bits = .ofNat n := by
  unfold tokenBits
  split
  next hex =>
    rw [Option.map_eq_some_iff]
    constructor
    · rintro ⟨n, parsed, rfl⟩
      obtain ⟨digits, numbers, values, read, present, rfl, fits⟩ := parseHexU64_iff.mp parsed
      exact ⟨_, .hexadecimal numbers read present, fits, rfl⟩
    · rintro ⟨n, spells, fits, rfl⟩
      generalize whole : '0' :: 'x' :: hex = token at spells
      cases spells with
      | named listed =>
        have shape := (named_shape listed).1
        rw [← whole] at shape
        cases shape
      | decimal numbers numeral =>
        rcases numbers with same | ⟨-, same⟩
        · rw [← same, ← whole] at numeral
          simp [isNumeral] at numeral
        · rw [← whole] at same
          cases same
      | hexadecimal numbers read present =>
        cases whole
        exact ⟨_, parseHexU64_iff.mpr ⟨_, numbers, _, read, present, rfl, fits⟩, rfl⟩
  next notHex =>
    cases parsed : parseU64 (.ofList token) with
    | some k =>
      obtain ⟨digits, numbers, numeral, rfl, fits⟩ := parseU64_iff.mp parsed
      simp only [Option.some.injEq]
      constructor
      · rintro rfl
        exact ⟨_, .decimal numbers numeral, fits, rfl⟩
      · rintro ⟨n, spells, small, rfl⟩
        cases spells with
        | named listed =>
          rw [String.ofList_toList, parseU64_named listed] at parsed
          cases parsed
        | decimal numbers' numeral' =>
          have again := parseU64_iff.mpr ⟨_, numbers', numeral', rfl, small⟩
          rw [parsed] at again
          rw [Option.some.inj again]
        | hexadecimal _ _ _ => exact absurd rfl (notHex _)
    | none =>
      dsimp only
      rw [flagBits_iff]
      constructor
      · rintro ⟨n, listed, rfl⟩
        have spells := @Spells.named true _ _ listed
        rw [String.toList_ofList] at spells
        exact ⟨n, spells, (named_shape listed).2, rfl⟩
      · rintro ⟨n, spells, small, rfl⟩
        cases spells with
        | named listed => exact ⟨n, by rwa [String.ofList_toList], rfl⟩
        | decimal numbers numeral =>
          have again := parseU64_iff.mpr ⟨_, numbers, numeral, rfl, small⟩
          rw [parsed] at again
          cases again
        | hexadecimal _ _ _ => exact absurd rfl (notHex _)

theorem Numbers.unique {plus : Bool} {digits digits' : List Char} (numbers : Numbers plus token digits)
    (numbers' : Numbers plus token digits') (signless : digits.head? ≠ some '+')
    (signless' : digits'.head? ≠ some '+') :
    digits = digits' := by
  rcases numbers with rfl | ⟨-, rfl⟩
  · rcases numbers' with same | ⟨-, rfl⟩
    · exact same
    · exact absurd rfl signless
  · rcases numbers' with rfl | ⟨-, same⟩
    · exact absurd rfl signless'
    · exact (List.cons.inj same).2

theorem isNumeral_signless {digits : List Char} (numeral : isNumeral digits = true) : digits.head? ≠ some '+' := by
  intro head
  have digit := isNumeral_head numeral head
  revert digit
  decide

theorem hex_signless {digits : List Char} {values : List Nat} (read : digits.mapM hexDigit = some values) :
    digits.head? ≠ some '+' := by
  cases digits with
  | nil => simp
  | cons c digits =>
    intro head
    cases head
    have plus : hexDigit '+' = none := by decide
    simp [List.mapM_cons, plus] at read

theorem not_decimal_hex {plus : Bool} {rest digits : List Char} (numbers : Numbers plus ('0' :: 'x' :: rest) digits)
    (numeral : isNumeral digits = true) : False := by
  rcases numbers with rfl | ⟨-, same⟩
  · simp [isNumeral] at numeral
  · cases same

theorem Spells.unique {plus : Bool} {m : Nat} (spells : Spells plus token n) (spells' : Spells plus token m) :
    n = m := by
  cases spells with
  | named listed =>
    rename_i name
    generalize same : name.toList = token at spells'
    cases spells' with
    | named listed' =>
      have each : ∀ entry ∈ lndFlags, ∀ entry' ∈ lndFlags, entry.1 = entry'.1 → entry.2 = entry'.2 := by decide
      exact each _ listed _ listed' (String.toList_inj.mp same)
    | decimal numbers numeral =>
      exact absurd (same ▸ (named_shape listed).1) (numbers_head numbers numeral)
    | hexadecimal _ _ _ =>
      have shape := (named_shape listed).1
      rw [same] at shape
      cases shape
  | decimal numbers numeral =>
    cases spells' with
    | named listed' => exact absurd (named_shape listed').1 (numbers_head numbers numeral)
    | decimal numbers' numeral' =>
      rw [numbers.unique numbers' (isNumeral_signless numeral) (isNumeral_signless numeral')]
    | hexadecimal _ _ _ => exact (not_decimal_hex numbers numeral).elim
  | hexadecimal numbers read present =>
    rename_i rest _ _
    generalize same : '0' :: 'x' :: rest = token at spells'
    cases spells' with
    | named listed' =>
      have shape := (named_shape listed').1
      rw [← same] at shape
      cases shape
    | decimal numbers' numeral' => exact (not_decimal_hex (same ▸ numbers') numeral').elim
    | hexadecimal numbers' read' present' =>
      cases same
      rw [numbers.unique numbers' (hex_signless read) (hex_signless read')] at read
      rw [Option.some.inj (read.symm.trans read')]

end Tokens

section Reading

theorem mapM_eq_none {α β : Type} {f : α → Option β} {items : List α} {a : α} (member : a ∈ items)
    (unread : f a = none) : items.mapM f = none := by
  induction items with
  | nil => cases member
  | cons first items ih =>
    rw [List.mapM_cons]
    rcases List.mem_cons.mp member with rfl | later
    · rw [unread]
      rfl
    · rw [ih later]
      cases f first <;> rfl

theorem mapM_eq_some {α β : Type} {f : α → Option β} {items : List α} (read : ∀ a ∈ items, ∃ b, f a = some b) :
    ∃ values, items.mapM f = some values ∧ (values = [] ↔ items = []) ∧
      ∀ b, b ∈ values ↔ ∃ a ∈ items, f a = some b := by
  induction items with
  | nil => exact ⟨[], rfl, by simp, by simp⟩
  | cons first items ih =>
    obtain ⟨value, found⟩ := read first List.mem_cons_self
    obtain ⟨values, rest, -, listed⟩ := ih fun a member => read a (List.mem_cons_of_mem _ member)
    refine ⟨value :: values, ?_, by simp, fun b => ?_⟩
    · rw [List.mapM_cons, found, rest]
      rfl
    · simp only [List.mem_cons, exists_eq_or_imp, found, Option.some.injEq, listed]
      rw [eq_comm]

end Reading

section Status

variable {plus : Bool} {flags flags' : String}

/-- Every token spells a number. -/
def Understood (plus : Bool) (flags : String) : Prop := ∀ token ∈ tokens flags, ∃ n, Spells plus token n

def denotedBits (plus : Bool) (flags : String) : Set Nat :=
  {i | ∃ token ∈ tokens flags, ∃ n, Spells plus token n ∧ n.testBit i = true}

noncomputable def statusOfBits (denoted : Set Nat) : ChannelStatus :=
  open Classical in
  if denoted = ∅ then .active
  else if 0 ∈ denoted ∨ 2 ∈ denoted then .forceClosing
  else if 1 ∈ denoted ∨ 4 ∈ denoted ∨ 5 ∈ denoted ∨ 6 ∈ denoted then .closing
  else .opening

theorem restored_of_open {denoted : Set Nat} {i : Nat} (member : i ∈ denoted) (within : i < 7)
    (kept : ¬(0 ∈ denoted ∨ 2 ∈ denoted)) (pending : ¬(1 ∈ denoted ∨ 4 ∈ denoted ∨ 5 ∈ denoted ∨ 6 ∈ denoted)) :
    i = 3 := by
  by_contra other
  have cases : i = 0 ∨ i = 2 ∨ i = 1 ∨ i = 4 ∨ i = 5 ∨ i = 6 := by omega
  rcases cases with rfl | rfl | rfl | rfl | rfl | rfl
  · exact kept (.inl member)
  · exact kept (.inr member)
  · exact pending (.inl member)
  · exact pending (.inr (.inl member))
  · exact pending (.inr (.inr (.inl member)))
  · exact pending (.inr (.inr (.inr member)))

theorem mem_mask (mask : UInt64) (P : Nat → Prop) [DecidablePred P]
    (listed : ∀ i < 64, mask.toNat.testBit i = decide (P i)) (small : ∀ i, P i → i < 64) {i : Nat} :
    i ∈ bits mask ↔ P i := by
  constructor
  · intro member
    have fits := lt_of_mem member
    rw [mem_bits, listed i fits] at member
    exact of_decide_eq_true member
  · intro held
    rw [mem_bits, listed i (small i held)]
    exact decide_eq_true held

theorem mem_unknownBits {i : Nat} : i ∈ bits (~~~knownBits) ↔ 7 ≤ i ∧ i < 64 :=
  mem_mask (~~~knownBits) (fun i => 7 ≤ i ∧ i < 64) (by decide) fun _ held => held.2

theorem classify_unknown {x : UInt64} {i : Nat} (member : i ∈ bits x) (beyond : 7 ≤ i) :
    classifyStatusBits x knownBits = .unknown := by
  have meets : x &&& ~~~knownBits ≠ 0 := and_ne_zero_iff.mpr ⟨i, member, mem_unknownBits.mpr ⟨beyond, lt_of_mem member⟩⟩
  unfold classifyStatusBits
  rw [if_pos meets]

theorem meets_iff {x mask : UInt64} {a b : Nat} (listed : ∀ i, i ∈ bits mask ↔ i = a ∨ i = b) :
    x &&& mask ≠ 0 ↔ a ∈ bits x ∨ b ∈ bits x := by
  rw [and_ne_zero_iff]
  constructor
  · rintro ⟨i, member, placed⟩
    rcases (listed i).mp placed with rfl | rfl
    · exact .inl member
    · exact .inr member
  · rintro (member | member)
    · exact ⟨a, member, (listed a).mpr (.inl rfl)⟩
    · exact ⟨b, member, (listed b).mpr (.inr rfl)⟩

theorem mem_unilateral (i : Nat) : i ∈ bits (1 ||| 4) ↔ i = 0 ∨ i = 2 :=
  mem_mask (1 ||| 4) (fun i => i = 0 ∨ i = 2) (by decide +kernel) (by omega)

theorem mem_broadcast (i : Nat) : i ∈ bits (2 ||| 16) ↔ i = 1 ∨ i = 4 :=
  mem_mask (2 ||| 16) (fun i => i = 1 ∨ i = 4) (by decide +kernel) (by omega)

theorem mem_initiated (i : Nat) : i ∈ bits (32 ||| 64) ↔ i = 5 ∨ i = 6 :=
  mem_mask (32 ||| 64) (fun i => i = 5 ∨ i = 6) (by decide +kernel) (by omega)

theorem mem_restored (i : Nat) : i ∈ bits 8 ↔ i = 3 ∨ i = 3 :=
  mem_mask 8 (fun i => i = 3 ∨ i = 3) (by decide +kernel) (by omega)

theorem classify_known {x : UInt64} (within : ∀ i ∈ bits x, i < 7) :
    classifyStatusBits x knownBits = statusOfBits (bits x) := by
  have known : ¬x &&& ~~~knownBits ≠ 0 := by
    intro meets
    obtain ⟨i, member, beyond⟩ := and_ne_zero_iff.mp meets
    have bounds := mem_unknownBits.mp beyond
    have small := within i member
    omega
  have empty : x = 0 ↔ bits x = ∅ := by
    rw [eq_zero_iff, Set.eq_empty_iff_forall_notMem]
  unfold classifyStatusBits statusOfBits
  rw [if_neg known]
  by_cases zero : x = 0
  · rw [if_pos zero, if_pos (empty.mp zero)]
  rw [if_neg zero, if_neg (mt empty.mpr zero)]
  by_cases lost : 0 ∈ bits x ∨ 2 ∈ bits x
  · rw [if_pos ((meets_iff mem_unilateral).mpr lost), if_pos lost]
  rw [if_neg (mt (meets_iff mem_unilateral).mp lost), if_neg lost]
  by_cases spent : 1 ∈ bits x ∨ 4 ∈ bits x
  · rw [if_pos ((meets_iff mem_broadcast).mpr spent), if_pos (spent.imp_right .inl)]
  rw [if_neg (mt (meets_iff mem_broadcast).mp spent)]
  by_cases begun : 5 ∈ bits x ∨ 6 ∈ bits x
  · rw [if_pos ((meets_iff mem_initiated).mpr begun), if_pos (.inr (.inr begun))]
  rw [if_neg (mt (meets_iff mem_initiated).mp begun)]
  have pending : ¬(1 ∈ bits x ∨ 4 ∈ bits x ∨ 5 ∈ bits x ∨ 6 ∈ bits x) := by
    rw [← or_assoc, not_or]
    exact ⟨spent, begun⟩
  have last : 3 ∈ bits x := by
    obtain ⟨i, member⟩ := Set.nonempty_iff_ne_empty.mpr (mt empty.mpr zero)
    rwa [restored_of_open member (within i member) lost pending] at member
  rw [if_pos ((meets_iff mem_restored).mpr (.inl last)), if_neg pending]

theorem status_unread (unread : (tokens flags).mapM tokenBits = none) : statusFromLndFlags flags = .unknown := by
  unfold tokens at unread
  unfold statusFromLndFlags
  simp only [unread]

theorem status_empty (empty : tokens flags = []) : statusFromLndFlags flags = .unknown := by
  unfold tokens at empty
  unfold statusFromLndFlags
  simp only [empty]
  rfl

theorem status_read {words : List UInt64} (read : (tokens flags).mapM tokenBits = some words) (present : words ≠ []) :
    statusFromLndFlags flags = classifyStatusBits (words.foldl (· ||| ·) 0) knownBits := by
  unfold tokens at read
  unfold statusFromLndFlags
  cases words with
  | nil => exact absurd rfl present
  | cons word words => simp only [read]

theorem mem_foldl_words {words : List UInt64} {i : Nat}
    (listed : ∀ word, word ∈ words ↔ ∃ token ∈ tokens flags, tokenBits token = some word)
    (fits : ∀ token ∈ tokens flags, ∀ n, Spells true token n → n < 2^64) :
    i ∈ bits (words.foldl (· ||| ·) 0) ↔ i ∈ denotedBits true flags := by
  rw [mem_foldl_or]
  constructor
  · rintro (zero | ⟨word, member, set⟩)
    · exact absurd zero not_mem_zero
    · obtain ⟨token, placed, read⟩ := (listed word).mp member
      obtain ⟨n, spells, small, rfl⟩ := tokenBits_iff.mp read
      exact ⟨token, placed, n, spells, (mem_bits_ofNat small).mp set⟩
  · rintro ⟨token, placed, n, spells, set⟩
    have small := fits token placed n spells
    exact .inr ⟨.ofNat n, (listed _).mpr ⟨token, placed, tokenBits_iff.mpr ⟨n, spells, small, rfl⟩⟩,
      (mem_bits_ofNat small).mpr set⟩

theorem status_not_understood (unread : ∃ token ∈ tokens flags, ∀ n, ¬Spells true token n) :
    statusFromLndFlags flags = .unknown := by
  obtain ⟨token, placed, absent⟩ := unread
  apply status_unread
  apply mapM_eq_none placed
  cases read : tokenBits token with
  | none => rfl
  | some word =>
    obtain ⟨n, spells, -⟩ := tokenBits_iff.mp read
    exact absurd spells (absent n)

theorem status_beyond (beyond : ∃ i ∈ denotedBits true flags, 7 ≤ i) : statusFromLndFlags flags = .unknown := by
  obtain ⟨i, ⟨token, placed, n, spells, set⟩, large⟩ := beyond
  by_cases all : ∀ token ∈ tokens flags, ∃ word, tokenBits token = some word
  · obtain ⟨words, read, empty, listed⟩ := mapM_eq_some all
    have fits (token : List Char) (placed : token ∈ tokens flags) (n : Nat) (spells : Spells true token n) :
        n < 2^64 := by
      obtain ⟨word, found⟩ := all token placed
      obtain ⟨m, spells', small, -⟩ := tokenBits_iff.mp found
      rw [spells.unique spells']
      exact small
    have present : words ≠ [] := by
      intro absent
      rw [empty.mp absent] at placed
      cases placed
    rw [status_read read present]
    exact classify_unknown ((mem_foldl_words listed fits).mpr ⟨token, placed, n, spells, set⟩) large
  · push Not at all
    obtain ⟨token, placed, unread⟩ := all
    apply status_unread
    exact mapM_eq_none placed (Option.eq_none_iff_forall_ne_some.mpr unread)

theorem status_known (present : tokens flags ≠ []) (understood : Understood true flags)
    (within : ∀ i ∈ denotedBits true flags, i < 7) :
    statusFromLndFlags flags = statusOfBits (denotedBits true flags) := by
  have fits (token : List Char) (placed : token ∈ tokens flags) (n : Nat) (spells : Spells true token n) :
      n < 2^64 := by
    have small : n < 2^7 := by
      apply Nat.lt_pow_two_of_testBit
      intro i large
      by_contra set
      have less := within i ⟨token, placed, n, spells, by simpa using set⟩
      omega
    omega
  have all (token : List Char) (placed : token ∈ tokens flags) : ∃ word, tokenBits token = some word := by
    obtain ⟨n, spells⟩ := understood token placed
    exact ⟨.ofNat n, tokenBits_iff.mpr ⟨n, spells, fits token placed n spells, rfl⟩⟩
  obtain ⟨words, read, empty, listed⟩ := mapM_eq_some all
  have same : bits (words.foldl (· ||| ·) 0) = denotedBits true flags := by
    ext i
    exact mem_foldl_words listed fits
  rw [status_read read (mt empty.mp present), classify_known (same ▸ within), same]

structure Readable (flags : String) : Prop where
  present : tokens flags ≠ []
  understood : Understood true flags
  within : ∀ i ∈ denotedBits true flags, i < 7

theorem Readable.status (readable : Readable flags) :
    statusFromLndFlags flags = statusOfBits (denotedBits true flags) :=
  status_known readable.present readable.understood readable.within

theorem status_unreadable (unreadable : ¬Readable flags) : statusFromLndFlags flags = .unknown := by
  by_cases empty : tokens flags = []
  · exact status_empty empty
  by_cases understood : Understood true flags
  · have beyond : ∃ i ∈ denotedBits true flags, 7 ≤ i := by
      by_contra absent
      push Not at absent
      exact unreadable ⟨empty, understood, absent⟩
    exact status_beyond beyond
  · apply status_not_understood
    simpa [Understood] using understood

theorem status_depends (emptiness : tokens flags = [] ↔ tokens flags' = [])
    (understanding : Understood true flags ↔ Understood true flags')
    (same : denotedBits true flags = denotedBits true flags') :
    statusFromLndFlags flags = statusFromLndFlags flags' := by
  by_cases readable : Readable flags
  · have readable' : Readable flags' :=
      ⟨mt emptiness.mpr readable.present, understanding.mp readable.understood, same ▸ readable.within⟩
    rw [readable.status, readable'.status, same]
  · have unreadable' : ¬Readable flags' := fun readable' =>
      readable ⟨mt emptiness.mp readable'.present, understanding.mpr readable'.understood, same ▸ readable'.within⟩
    rw [status_unreadable readable, status_unreadable unreadable']

theorem no_bits_iff {n : Nat} : (∀ i, n.testBit i = false) ↔ n = 0 := by
  constructor
  · intro clear
    exact Nat.zero_of_testBit_eq_false clear
  · rintro rfl i
    exact Nat.zero_testBit i

theorem status_active_iff (flags : String) :
    statusFromLndFlags flags = .active ↔ tokens flags ≠ [] ∧ ∀ token ∈ tokens flags, Spells true token 0 := by
  constructor
  · intro active
    by_cases readable : Readable flags
    · have empty : denotedBits true flags = ∅ := by
        rw [readable.status] at active
        unfold statusOfBits at active
        split at active
        · assumption
        split at active
        · cases active
        split at active <;> cases active
      refine ⟨readable.present, fun token placed => ?_⟩
      obtain ⟨n, spells⟩ := readable.understood token placed
      have zero : n = 0 := by
        apply no_bits_iff.mp
        intro i
        by_contra set
        have member : i ∈ denotedBits true flags := ⟨token, placed, n, spells, by simpa using set⟩
        rw [empty] at member
        exact member
      rwa [zero] at spells
    · rw [status_unreadable readable] at active
      cases active
  · rintro ⟨present, zeros⟩
    have empty : denotedBits true flags = ∅ := by
      apply Set.eq_empty_iff_forall_notMem.mpr
      rintro i ⟨token, placed, n, spells, set⟩
      rw [spells.unique (zeros token placed), Nat.zero_testBit] at set
      cases set
    have understood : Understood true flags := fun token placed => ⟨0, zeros token placed⟩
    rw [status_known present understood (by simp [empty]), empty]
    exact if_pos rfl

theorem status_open (isOpen : (statusFromLndFlags flags).isOpen = true) :
    tokens flags ≠ [] ∧ Understood true flags ∧ ∀ i ∈ denotedBits true flags, i = 3 := by
  by_cases readable : Readable flags
  · refine ⟨readable.present, readable.understood, fun i member => ?_⟩
    rw [readable.status] at isOpen
    unfold statusOfBits at isOpen
    split at isOpen
    next empty =>
      rw [empty] at member
      cases member
    split at isOpen
    · cases isOpen
    split at isOpen
    · cases isOpen
    next _ kept pending => exact restored_of_open member (readable.within i member) kept pending
  · rw [status_unreadable readable] at isOpen
    cases isOpen

/-- The status that a text of flags stands for where no number has a sign: any other token and any bit beyond the
    table leave it unknown. -/
noncomputable def unsignedStatus (flags : String) : ChannelStatus :=
  open Classical in
  if tokens flags ≠ [] ∧ Understood false flags ∧ ∀ i ∈ denotedBits false flags, i < 7 then
    statusOfBits (denotedBits false flags)
  else .unknown

theorem Spells.signed {token : List Char} {n : Nat} (spells : Spells false token n) : Spells plus token n := by
  have weaken {token digits : List Char} (numbers : Numbers false token digits) : Numbers plus token digits := by
    rcases numbers with same | ⟨signed, -⟩
    · exact .inl same
    · cases signed
  cases spells with
  | named listed => exact .named listed
  | decimal numbers numeral => exact .decimal (weaken numbers) numeral
  | hexadecimal numbers read present => exact .hexadecimal (weaken numbers) read present

theorem Understood.signed (understood : Understood false flags) : Understood plus flags := fun token placed =>
  (understood token placed).imp fun _ => Spells.signed

theorem Understood.denotedBits_eq (understood : Understood false flags) :
    denotedBits true flags = denotedBits false flags := by
  ext i
  constructor
  · rintro ⟨token, placed, n, spells, set⟩
    obtain ⟨m, unsigned⟩ := understood token placed
    obtain rfl := spells.unique unsigned.signed
    exact ⟨token, placed, n, unsigned, set⟩
  · rintro ⟨token, placed, n, spells, set⟩
    exact ⟨token, placed, n, spells.signed, set⟩

theorem statusOfBits_ne_unknown (denoted : Set Nat) : statusOfBits denoted ≠ .unknown := by
  unfold statusOfBits
  split
  · simp
  split
  · simp
  split <;> simp

theorem status_unsigned_iff (flags : String) : statusFromLndFlags flags = unsignedStatus flags ↔
    Understood false flags ∨ (∃ token ∈ tokens flags, ∀ n, ¬Spells true token n) ∨
      ∃ i ∈ denotedBits true flags, 7 ≤ i := by
  by_cases understood : Understood false flags
  · refine iff_of_true ?_ (.inl understood)
    unfold unsignedStatus
    split
    next readable =>
      rw [← understood.denotedBits_eq] at readable ⊢
      exact status_known readable.1 understood.signed readable.2.2
    next unreadable =>
      apply status_unreadable
      intro readable
      exact unreadable ⟨readable.present, understood, understood.denotedBits_eq ▸ readable.within⟩
  · have strict : unsignedStatus flags = .unknown := if_neg fun readable => understood readable.2.1
    rw [strict]
    constructor
    · intro unknown
      by_contra clear
      push Not at clear
      obtain ⟨-, signed, within⟩ := clear
      have present : tokens flags ≠ [] := by
        intro empty
        apply understood
        simp [Understood, empty]
      rw [status_known present signed within] at unknown
      exact statusOfBits_ne_unknown _ unknown
    · rintro (unsigned | unread | beyond)
      · exact absurd unsigned understood
      · exact status_not_understood unread
      · exact status_beyond beyond

end Status

section Pieces

def joined (pieces : List (List Char)) : String := .ofList (List.intercalate ['|'] pieces)

def Respelled (pieces pieces' : List (List Char)) : Prop :=
  ∀ piece ∈ pieces, Text.trim piece ≠ [] → ∃ piece' ∈ pieces', Text.trim piece' ≠ [] ∧
    ∀ n, Spells true (Text.trim piece) n ↔ Spells true (Text.trim piece') n

variable {pieces pieces' : List (List Char)}

theorem mem_tokens_joined (present : pieces ≠ []) (separate : ∀ piece ∈ pieces, '|' ∉ piece) {token : List Char} :
    token ∈ tokens (joined pieces) ↔ ∃ piece ∈ pieces, Text.trim piece = token ∧ token ≠ [] := by
  have split : (joined pieces).toList.splitOn '|' = pieces := by
    unfold joined
    rw [String.toList_ofList]
    exact List.splitOn_intercalate _ separate present
  unfold tokens
  rw [split]
  simp only [List.mem_filter, List.mem_map, Bool.not_eq_true', List.isEmpty_eq_false_iff]
  constructor
  · rintro ⟨⟨piece, member, rfl⟩, filled⟩
    exact ⟨piece, member, rfl, filled⟩
  · rintro ⟨piece, member, rfl, filled⟩
    exact ⟨⟨piece, member, rfl⟩, filled⟩

theorem Respelled.meets (respelled : Respelled pieces pieces') (present : pieces ≠ []) (present' : pieces' ≠ [])
    (separate : ∀ piece ∈ pieces, '|' ∉ piece) (separate' : ∀ piece ∈ pieces', '|' ∉ piece) {token : List Char}
    (placed : token ∈ tokens (joined pieces)) :
    ∃ token' ∈ tokens (joined pieces'), ∀ n, Spells true token n ↔ Spells true token' n := by
  obtain ⟨piece, member, rfl, filled⟩ := (mem_tokens_joined present separate).mp placed
  obtain ⟨piece', member', filled', same⟩ := respelled piece member filled
  exact ⟨Text.trim piece', (mem_tokens_joined present' separate').mpr ⟨piece', member', rfl, filled'⟩, same⟩

theorem status_respelled (present : pieces ≠ []) (present' : pieces' ≠ [])
    (separate : ∀ piece ∈ pieces, '|' ∉ piece) (separate' : ∀ piece ∈ pieces', '|' ∉ piece)
    (there : Respelled pieces pieces') (back : Respelled pieces' pieces) :
    statusFromLndFlags (joined pieces) = statusFromLndFlags (joined pieces') := by
  have forth {token : List Char} (placed : token ∈ tokens (joined pieces)) :=
    there.meets present present' separate separate' placed
  have home {token : List Char} (placed : token ∈ tokens (joined pieces')) :=
    back.meets present' present separate' separate placed
  apply status_depends
  · constructor
    · intro empty
      apply List.eq_nil_iff_forall_not_mem.mpr
      intro token placed
      obtain ⟨token', placed', -⟩ := home placed
      rw [empty] at placed'
      cases placed'
    · intro empty
      apply List.eq_nil_iff_forall_not_mem.mpr
      intro token placed
      obtain ⟨token', placed', -⟩ := forth placed
      rw [empty] at placed'
      cases placed'
  · constructor
    · intro understood token placed
      obtain ⟨token', placed', same⟩ := home placed
      obtain ⟨n, spells⟩ := understood token' placed'
      exact ⟨n, (same n).mpr spells⟩
    · intro understood token placed
      obtain ⟨token', placed', same⟩ := forth placed
      obtain ⟨n, spells⟩ := understood token' placed'
      exact ⟨n, (same n).mpr spells⟩
  · apply Set.Subset.antisymm
    · rintro i ⟨token, placed, n, spells, set⟩
      obtain ⟨token', placed', same⟩ := forth placed
      exact ⟨token', placed', n, (same n).mp spells, set⟩
    · rintro i ⟨token, placed, n, spells, set⟩
      obtain ⟨token', placed', same⟩ := home placed
      exact ⟨token', placed', n, (same n).mp spells, set⟩

end Pieces

/-- A text of flags has the status that it stands for exactly where its numbers have no sign, or a token or a bit is
    not known in any case. With numbers that may have a plus sign the status depends on the bits that the tokens denote:
    on nothing else where there is a token and all are understood, so that neither their order nor their repetition nor
    their spelling matters. Any other token and any bit beyond the table leave the status unknown, only tokens without
    bits make it active, and only the restored bit may be set where it counts as open. -/
theorem status_denotes (flags : String) :
    (statusFromLndFlags flags = unsignedStatus flags ↔
      Understood false flags ∨ (∃ token ∈ tokens flags, ∀ n, ¬Spells true token n) ∨
        ∃ i ∈ denotedBits true flags, 7 ≤ i) ∧
    (∀ flags', (tokens flags = [] ↔ tokens flags' = []) → (Understood true flags ↔ Understood true flags') →
      denotedBits true flags = denotedBits true flags' → statusFromLndFlags flags = statusFromLndFlags flags') ∧
    (∀ pieces pieces', pieces ≠ [] → pieces' ≠ [] → (∀ piece ∈ pieces, '|' ∉ piece) → (∀ piece ∈ pieces', '|' ∉ piece) →
      Respelled pieces pieces' → Respelled pieces' pieces →
      statusFromLndFlags (joined pieces) = statusFromLndFlags (joined pieces')) ∧
    ((∃ token ∈ tokens flags, ∀ n, ¬Spells true token n) ∨ (∃ i ∈ denotedBits true flags, 7 ≤ i) →
      statusFromLndFlags flags = .unknown) ∧
    (statusFromLndFlags flags = .active ↔ tokens flags ≠ [] ∧ ∀ token ∈ tokens flags, Spells true token 0) ∧
    ((statusFromLndFlags flags).isOpen = true →
      tokens flags ≠ [] ∧ Understood true flags ∧ ∀ i ∈ denotedBits true flags, i = 3) :=
  ⟨status_unsigned_iff flags, fun _ => status_depends, fun _ _ => status_respelled,
    fun bad => bad.elim status_not_understood status_beyond, status_active_iff flags, status_open⟩

/-- A plus sign before the digits, which is no unsigned numeral, is read over. -/
theorem plus_sign_reads_active :
    statusFromLndFlags "+0" = .active ∧
      ¬∀ flags, (∃ token ∈ tokens flags, ∀ n, ¬Spells false token n) → statusFromLndFlags flags = .unknown := by
  have active : statusFromLndFlags "+0" = .active := by decide +kernel
  refine ⟨active, fun strict => ?_⟩
  have placed : ['+', '0'] ∈ tokens "+0" := by decide +kernel
  have unspelled (n : Nat) : ¬Spells false ['+', '0'] n := by
    intro spells
    generalize whole : ['+', '0'] = token at spells
    cases spells with
    | named listed =>
      have shape := (named_shape listed).1
      rw [← whole] at shape
      cases shape
    | decimal numbers numeral =>
      rcases numbers with same | ⟨signed, -⟩
      · rw [← same, ← whole] at numeral
        simp [isNumeral] at numeral
      · cases signed
    | hexadecimal _ _ _ => cases whole
  rw [strict "+0" ⟨_, placed, unspelled⟩] at active
  cases active

end Normalizer

end Rieko
