import Mathlib.Data.List.Basic

/-! Encodings that can be laid out one after the other and still be told apart. -/

namespace Framing

variable {α β κ : Type}

/-- The front of a text that begins with the encoding of a fitting value tells the value and where it ends. -/
def Delimited (fits : α → Prop) (encode : α → List β) : Prop :=
  ∀ a b rest rest', fits a → fits b → encode a ++ rest = encode b ++ rest' → a = b ∧ rest = rest'

namespace Delimited

variable {fits : α → Prop} {encode : α → List β}

theorem inj (delimited : Delimited fits encode) {a b : α} (fitsA : fits a) (fitsB : fits b) :
    encode a = encode b ↔ a = b := by
  refine ⟨fun same => ?_, fun same => same ▸ rfl⟩
  have padded : encode a ++ [] = encode b ++ [] := by rw [same]
  exact (delimited a b [] [] fitsA fitsB padded).1

theorem counted {header : Nat → List β} {width bound : Nat} (width_eq : ∀ n, (header n).length = width)
    (header_inj : ∀ n m, n < bound → m < bound → header n = header m → n = m) :
    Delimited (fun text => text.length < bound) fun text => header text.length ++ text := by
  intro a b rest rest' shortA shortB same
  rw [List.append_assoc, List.append_assoc] at same
  have split := List.append_inj same ((width_eq _).trans (width_eq _).symm)
  have lengths := header_inj _ _ shortA shortB split.1
  exact List.append_inj split.2 lengths

theorem optional {mark absent : β} (apart : mark ≠ absent) (delimited : Delimited fits encode) :
    Delimited (fun value => ∀ a ∈ value, fits a) fun value : Option α =>
      match value with
      | some a => mark :: encode a
      | none => [absent] := by
  intro a b rest rest' fitsA fitsB same
  cases a with
  | none =>
    cases b with
    | none => exact ⟨rfl, List.append_cancel_left same⟩
    | some b => exact absurd (List.cons.inj same).1.symm apart
  | some a =>
    cases b with
    | none => exact absurd (List.cons.inj same).1 apart
    | some b =>
      have front := delimited a b rest rest' (fitsA a rfl) (fitsB b rfl) (List.cons.inj same).2
      exact ⟨congrArg some front.1, front.2⟩

theorem sequence {kind : α → κ} (each : ∀ k, Delimited (fun a => fits a ∧ kind a = k) encode) (kinds : List κ) :
    Delimited (fun values => (∀ a ∈ values, fits a) ∧ values.map kind = kinds) (List.flatMap encode) := by
  induction kinds with
  | nil =>
    intro as bs rest rest' fitsA fitsB same
    have emptyA : as = [] := List.map_eq_nil_iff.mp fitsA.2
    have emptyB : bs = [] := List.map_eq_nil_iff.mp fitsB.2
    rw [emptyA, emptyB] at same
    exact ⟨emptyA.trans emptyB.symm, same⟩
  | cons k kinds ih =>
    intro as bs rest rest' fitsA fitsB same
    obtain ⟨a, as, rfl, kindA, kindsA⟩ := List.map_eq_cons_iff.mp fitsA.2
    obtain ⟨b, bs, rfl, kindB, kindsB⟩ := List.map_eq_cons_iff.mp fitsB.2
    rw [List.flatMap_cons, List.flatMap_cons, List.append_assoc, List.append_assoc] at same
    have first := each k a b _ _ ⟨fitsA.1 a (by simp), kindA⟩ ⟨fitsB.1 b (by simp), kindB⟩ same
    have restA : ∀ x ∈ as, fits x := fun x member => fitsA.1 x (List.mem_cons_of_mem _ member)
    have restB : ∀ x ∈ bs, fits x := fun x member => fitsB.1 x (List.mem_cons_of_mem _ member)
    have later := ih as bs rest rest' ⟨restA, kindsA⟩ ⟨restB, kindsB⟩ first.2
    exact ⟨by rw [first.1, later.1], later.2⟩

end Delimited

section Separator

variable {z : β} {a m c b n d : List β}

def joined (separator : β) (first middle last : List β) : List β :=
  first ++ separator :: (middle ++ separator :: last)

/-- Three texts that are told apart from three others only by where they end: the first text of the others runs
    over the first two, and the last text of the three holds what follows of the others. -/
inductive Overlaps (separator : β) (a m c b n d : List β) : Prop where
  | touching (first : b = a ++ separator :: m) (last : c = n ++ separator :: d)
  | apart (gap : List β) (first : b = joined separator a m gap) (last : c = joined separator gap n d)

theorem split_at_separator (plain : z ∉ m) (plain' : z ∉ n) : m ++ z :: c = n ++ z :: d ↔ m = n ∧ c = d := by
  constructor
  · intro same
    rcases List.append_eq_append_iff.mp same with ⟨rest, longer, tail⟩ | ⟨rest, longer, tail⟩
    · cases rest with
      | nil => simpa [eq_comm] using And.intro longer tail
      | cons x rest =>
        have first : x = z := (List.cons.inj tail).1.symm
        exact absurd (by simp [longer, first]) plain'
    · cases rest with
      | nil => simpa [eq_comm] using And.intro longer tail
      | cons x rest =>
        have first : x = z := (List.cons.inj tail).1.symm
        exact absurd (by simp [longer, first]) plain
  · rintro ⟨rfl, rfl⟩
    rfl

theorem overlaps_of_longer {rest : List β} (plain : z ∉ m)
    (same : m ++ z :: c = rest ++ z :: (n ++ z :: d)) : Overlaps z a m c (a ++ z :: rest) n d := by
  rcases List.append_eq_append_iff.mp same with ⟨gap, longer, tail⟩ | ⟨gap, longer, tail⟩
  · cases gap with
    | nil =>
      apply Overlaps.touching
      · rw [longer, List.append_nil]
      · exact (List.cons.inj tail).2
    | cons x gap =>
      obtain ⟨first, later⟩ := List.cons.inj tail
      apply Overlaps.apart gap
      · rw [longer, ← first, joined]
      · exact later
  · cases gap with
    | nil =>
      apply Overlaps.touching
      · rw [longer, List.append_nil]
      · exact (List.cons.inj tail).2.symm
    | cons x gap =>
      have first : x = z := (List.cons.inj tail).1.symm
      exact absurd (by simp [longer, first]) plain

theorem Overlaps.joined_eq (overlaps : Overlaps z a m c b n d) : joined z a m c = joined z b n d := by
  cases overlaps with
  | touching first last => simp [joined, first, last]
  | apart gap first last => simp [joined, first, last]

theorem joined_eq_iff (plain : z ∉ m) (plain' : z ∉ n) : joined z a m c = joined z b n d ↔
    (a = b ∧ m = n ∧ c = d) ∨ Overlaps z a m c b n d ∨ Overlaps z b n d a m c := by
  constructor
  · intro same
    rcases List.append_eq_append_iff.mp same with ⟨rest, longer, tail⟩ | ⟨rest, longer, tail⟩
    · cases rest with
      | nil =>
        rw [List.append_nil] at longer
        have later := (split_at_separator plain plain').mp (List.cons.inj tail).2
        exact .inl ⟨longer.symm, later⟩
      | cons x rest =>
        obtain ⟨rfl, later⟩ := List.cons.inj tail
        rw [longer]
        exact .inr (.inl (overlaps_of_longer plain later))
    · cases rest with
      | nil =>
        rw [List.append_nil] at longer
        have later := (split_at_separator plain' plain).mp (List.cons.inj tail).2
        exact .inl ⟨longer, later.1.symm, later.2.symm⟩
      | cons x rest =>
        obtain ⟨rfl, later⟩ := List.cons.inj tail
        rw [longer]
        exact .inr (.inr (overlaps_of_longer plain' later))
  · rintro (⟨rfl, rfl, rfl⟩ | overlaps | overlaps)
    · rfl
    · exact overlaps.joined_eq
    · exact overlaps.joined_eq.symm

theorem terminated_eq_iff {encode : α → List β} (plain : ∀ a, z ∉ encode a) (as bs : List α) :
    (as.flatMap fun a => encode a ++ [z]) = (bs.flatMap fun b => encode b ++ [z]) ↔
      as.map encode = bs.map encode := by
  induction as generalizing bs with
  | nil => cases bs <;> simp
  | cons a as ih =>
    cases bs with
    | nil => simp
    | cons b bs =>
      simp only [List.flatMap_cons, List.append_assoc, List.singleton_append, List.map_cons, List.cons.injEq]
      rw [split_at_separator (plain a) (plain b), ih bs]

/-- The first of two texts runs over the first of two others, and the last of those over the last of the two. -/
def RunsOver (separator : β) (a c b d : List β) : Prop :=
  ∃ gap, b = a ++ separator :: gap ∧ c = gap ++ separator :: d

theorem pair_eq_iff : a ++ z :: c = b ++ z :: d ↔
    (a = b ∧ c = d) ∨ RunsOver z a c b d ∨ RunsOver z b d a c := by
  constructor
  · intro same
    rcases List.append_eq_append_iff.mp same with ⟨rest, longer, tail⟩ | ⟨rest, longer, tail⟩
    · cases rest with
      | nil => exact .inl ⟨by rw [longer, List.append_nil], (List.cons.inj tail).2⟩
      | cons x rest =>
        obtain ⟨rfl, later⟩ := List.cons.inj tail
        exact .inr (.inl ⟨rest, longer, later⟩)
    · cases rest with
      | nil => exact .inl ⟨by rw [longer, List.append_nil], (List.cons.inj tail).2.symm⟩
      | cons x rest =>
        obtain ⟨rfl, later⟩ := List.cons.inj tail
        exact .inr (.inr ⟨rest, longer, later⟩)
  · rintro (⟨rfl, rfl⟩ | ⟨gap, rfl, rfl⟩ | ⟨gap, rfl, rfl⟩)
    · rfl
    · simp
    · simp

end Separator

end Framing
