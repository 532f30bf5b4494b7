import Mathlib.Algebra.GroupWithZero.Nat
import Mathlib.Data.List.DropRight
import Mathlib.Data.List.TakeWhile

/-! Text predicates that follow the Unicode White_Space property. -/

namespace Text

def isWhitespace (c : Char) : Bool :=
  let n := c.toNat
  (9 ≤ n && n ≤ 13) || n = 0x20 || n = 0x85 || n = 0xA0 || n = 0x1680 || (0x2000 ≤ n && n ≤ 0x200A) ||
    n = 0x2028 || n = 0x2029 || n = 0x202F || n = 0x205F || n = 0x3000

def isBlank (text : String) : Bool := text.toList.all isWhitespace

def trim (text : List Char) : List Char := ((text.dropWhile isWhitespace).reverse.dropWhile isWhitespace).reverse

/-- The characters of the first `width` bytes of UTF-8, of a shorter text all of them. Nothing where the cut
    falls inside a character. -/
def leadingBytes : Nat → List Char → Option (List Char)
  | _, [] => some []
  | 0, _ => some []
  | width, c :: text => if c.utf8Size ≤ width then (leadingBytes (width - c.utf8Size) text).map (c :: ·) else none

def byteSize (text : List Char) : Nat := (text.map Char.utf8Size).sum

@[simp] theorem byteSize_cons (c : Char) (text : List Char) : byteSize (c :: text) = c.utf8Size + byteSize text := by
  simp [byteSize]

/-- The first `width` bytes are whole characters, or all there is. -/
def BoundaryAt (width : Nat) (text : List Char) : Prop :=
  byteSize text ≤ width ∨ ∃ front rest, text = front ++ rest ∧ byteSize front = width

theorem leadingBytes_isSome (width : Nat) (text : List Char) :
    (leadingBytes width text).isSome = true ↔ BoundaryAt width text := by
  induction text generalizing width with
  | nil => simp [leadingBytes, BoundaryAt, byteSize]
  | cons c text ih =>
    have positive := Char.utf8Size_pos c
    cases width with
    | zero => simpa [leadingBytes] using .inr ⟨[], c :: text, rfl, rfl⟩
    | succ width =>
      simp only [leadingBytes]
      split
      next fits =>
        rw [Option.isSome_map, ih]
        constructor
        · rintro (short | ⟨front, rest, rfl, size⟩)
          · left
            simp only [byteSize_cons] at short ⊢
            omega
          · refine .inr ⟨c :: front, rest, rfl, ?_⟩
            simp only [byteSize_cons] at size ⊢
            omega
        · rintro (short | ⟨front, rest, same, size⟩)
          · left
            simp only [byteSize_cons] at short ⊢
            omega
          · cases front with
            | nil => simp [byteSize] at size
            | cons d front =>
              obtain ⟨rfl, rfl⟩ := List.cons.inj same
              refine .inr ⟨front, rest, rfl, ?_⟩
              simp only [byteSize_cons] at size ⊢
              omega
      next wide =>
        apply iff_of_false (by simp)
        rintro (short | ⟨front, rest, same, size⟩)
        · simp only [byteSize_cons] at short
          omega
        · cases front with
          | nil => simp [byteSize] at size
          | cons d front =>
            obtain ⟨rfl, rfl⟩ := List.cons.inj same
            simp only [byteSize_cons] at size
            omega

theorem trim_eq (text : List Char) : trim text = (text.dropWhile isWhitespace).rdropWhile isWhitespace := rfl

theorem trim_end {text front rest : List Char} (trimmed : trim text = front ++ rest) :
    trim rest = rest.dropWhile isWhitespace := by
  have whole : (front ++ rest).rdropWhile isWhitespace = front ++ rest := by
    rw [← trimmed, trim_eq]
    exact List.rdropWhile_idempotent _ _
  obtain ⟨skipped, same⟩ := List.dropWhile_suffix (l := rest) isWhitespace
  rw [trim_eq]
  generalize rest.dropWhile isWhitespace = kept at *
  subst same
  apply List.rdropWhile_eq_self_iff.mpr
  intro filled
  have visible := List.rdropWhile_eq_self_iff.mp whole (by simp [filled])
  simpa [filled] using visible

theorem trim_blank_append {text front gap rest : List Char} (trimmed : trim text = front ++ (gap ++ rest))
    (blank : ∀ c ∈ gap, isWhitespace c = true) (visible : ∀ c ∈ rest.head?, isWhitespace c = false) :
    trim (gap ++ rest) = rest := by
  rw [trim_end trimmed, List.dropWhile_append_of_pos blank]
  cases rest with
  | nil => rfl
  | cons c rest => exact List.dropWhile_cons_of_neg (by simp [visible c rfl])

theorem trim_split (text : List Char) : ∃ gap gap', text = gap ++ (trim text ++ gap') ∧
    ∀ c ∈ gap ++ gap', isWhitespace c = true := by
  have front : text.takeWhile isWhitespace ++ text.dropWhile isWhitespace = text := List.takeWhile_append_dropWhile
  have back := List.rdropWhile_append_rtakeWhile (p := isWhitespace) (l := text.dropWhile isWhitespace)
  refine ⟨text.takeWhile isWhitespace, (text.dropWhile isWhitespace).rtakeWhile isWhitespace, ?_, ?_⟩
  · rw [trim_eq, back, front]
  · intro c member
    rcases List.mem_append.mp member with first | last
    · exact List.mem_takeWhile_imp first
    · exact List.mem_rtakeWhile_imp last

structure Trimmed (text : List Char) : Prop where
  head : ∀ c ∈ text.head?, isWhitespace c = false
  last : ∀ c ∈ text.getLast?, isWhitespace c = false

theorem trim_pad {text gap gap' : List Char} (trimmed : Trimmed text) (filled : text ≠ [])
    (blank : ∀ c ∈ gap ++ gap', isWhitespace c = true) : trim (gap ++ (text ++ gap')) = text := by
  have before : ∀ c ∈ gap, isWhitespace c = true := fun c member => blank c (List.mem_append_left _ member)
  have after : ∀ c ∈ gap'.reverse, isWhitespace c = true :=
    fun c member => blank c (List.mem_append_right _ (List.mem_reverse.mp member))
  have start : (text ++ gap').dropWhile isWhitespace = text ++ gap' := by
    cases text with
    | nil => exact absurd rfl filled
    | cons c text => exact List.dropWhile_cons_of_neg (by simp [trimmed.head c rfl])
  have stop : text.reverse.dropWhile isWhitespace = text.reverse := by
    cases back : text.reverse with
    | nil => rfl
    | cons c rest =>
      have ends : c ∈ text.getLast? := by rw [← List.head?_reverse, back]; rfl
      exact List.dropWhile_cons_of_neg (by simp [trimmed.last c ends])
  unfold trim
  rw [List.dropWhile_append_of_pos before, start, List.reverse_append, List.dropWhile_append_of_pos after, stop,
    List.reverse_reverse]

theorem trimmed_trim (text : List Char) : Trimmed (trim text) := by
  constructor
  · intro c first
    obtain ⟨rest, whole⟩ : trim text <+: text.dropWhile isWhitespace := List.rdropWhile_prefix _ _
    have also : (text.dropWhile isWhitespace).head? = some c := by
      rw [← whole, List.head?_append, Option.mem_def.mp first]
      rfl
    have visible := List.head?_dropWhile_not isWhitespace text
    rw [also] at visible
    exact visible
  · intro c last
    have filled : trim text ≠ [] := fun empty => by rw [empty] at last; cases last
    have visible := List.rdropWhile_last_not isWhitespace (text.dropWhile isWhitespace) filled
    rw [Option.mem_def, List.getLast?_eq_some_getLast filled, Option.some.injEq] at last
    rw [← last]
    exact eq_false_of_ne_true visible

theorem not_isBlank_of_mem {text : String} {c : Char} (member : c ∈ text.toList) (visible : isWhitespace c = false) :
    isBlank text = false := by
  unfold isBlank
  rw [List.all_eq_false]
  exact ⟨c, member, by rw [visible]; decide⟩

end Text
