import Mathlib.Data.List.Basic

/-! Markup whose bold and code parts open and close with a mark each, where a backslash takes the meaning from the
    next character. -/

namespace Markdown

inductive Entity where
  | bold | code
deriving DecidableEq, Repr

/-- Where a reading from the left stands: behind a backslash that escapes the next character, and in which part. -/
structure Reading where
  escaped : Bool
  entity : Option Entity
deriving DecidableEq, Repr

def Entity.mark : Entity → Char
  | .bold => '*'
  | .code => '\x60'

def delimiters : List Char := ['\x60', '*', '_', '[', ']', '(', ')']

def Reading.next (reading : Reading) (c : Char) : Reading :=
  if reading.escaped then { reading with escaped := false }
  else if c = '\\' then { reading with escaped := true }
  else
    match reading.entity with
    | none =>
      if c = Entity.bold.mark then { reading with entity := some .bold }
      else if c = Entity.code.mark then { reading with entity := some .code }
      else reading
    | some entity => if c = entity.mark then { reading with entity := none } else reading

def readFrom (reading : Reading) (text : List Char) : Reading := text.foldl Reading.next reading

def read (text : List Char) : Reading := readFrom ⟨false, none⟩ text

/-- The text ends neither behind an escaping backslash nor in a bold or code part. -/
def WellFormed (text : List Char) : Prop := read text = ⟨false, none⟩

def BareAt (text : List Char) (i : Nat) : Prop :=
  (∃ c ∈ text[i]?, c ∈ delimiters) ∧ (read (text.take i)).escaped = false

def escapeChar (c : Char) : List Char := if c = '\\' ∨ c ∈ delimiters then ['\\', c] else [c]

def escape (text : List Char) : List Char := text.flatMap escapeChar

variable {reading : Reading} {text rest front : List Char} {c : Char} {i : Nat}

@[simp] theorem readFrom_nil : readFrom reading [] = reading := rfl

@[simp] theorem readFrom_cons : readFrom reading (c :: text) = readFrom (reading.next c) text := rfl

@[simp] theorem readFrom_append (reading : Reading) (text rest : List Char) :
    readFrom reading (text ++ rest) = readFrom (readFrom reading text) rest := List.foldl_append

theorem read_append (front text : List Char) : read (front ++ text) = readFrom (read front) text := List.foldl_append

@[simp] theorem escape_append (text rest : List Char) : escape (text ++ rest) = escape text ++ escape rest := by
  simp [escape]

theorem escape_cons (c : Char) (text : List Char) : escape (c :: text) = escapeChar c ++ escape text := rfl

theorem escape_plain (plain : ∀ c ∈ text, ¬(c = '\\' ∨ c ∈ delimiters)) : escape text = text := by
  induction text with
  | nil => rfl
  | cons c text ih =>
    have first : escapeChar c = [c] := if_neg (plain c (by simp))
    rw [escape_cons, first, ih fun d member => plain d (by simp [member])]
    rfl

theorem mark_mem (entity : Entity) : entity.mark ∈ delimiters := by
  cases entity <;> decide

theorem next_plain (bare : reading.escaped = false) (plain : ¬(c = '\\' ∨ c ∈ delimiters)) :
    reading.next c = reading := by
  have slash : c ≠ '\\' := fun same => plain (.inl same)
  have other (entity : Entity) : c ≠ entity.mark := fun same => plain (.inr (same ▸ mark_mem entity))
  unfold Reading.next
  rw [bare, if_neg (by decide), if_neg slash]
  split
  · rw [if_neg (other .bold), if_neg (other .code)]
  · rw [if_neg (other _)]

theorem read_escapeChar (bare : reading.escaped = false) (c : Char) : readFrom reading (escapeChar c) = reading := by
  obtain ⟨escaped, entity⟩ := reading
  cases bare
  unfold escapeChar
  split
  next => simp [Reading.next]
  next plain => simp [next_plain, plain]

theorem read_escape (bare : reading.escaped = false) (text : List Char) : readFrom reading (escape text) = reading := by
  induction text with
  | nil => rfl
  | cons c text ih => rw [escape_cons, readFrom_append, read_escapeChar bare, ih]

theorem read_front_escapeChar (bare : reading.escaped = false) (part : front <+: escapeChar c) :
    (readFrom reading front).entity = reading.entity := by
  unfold escapeChar at part
  split at part
  next =>
    rcases List.prefix_cons_iff.mp part with rfl | ⟨rest, rfl, tail⟩
    · rfl
    · have slash : reading.next '\\' = { reading with escaped := true } := by simp [Reading.next, bare]
      rcases List.prefix_cons_iff.mp tail with rfl | ⟨rest, rfl, last⟩
      · simp [slash]
      · rw [List.prefix_nil.mp last, readFrom_cons, slash]
        simp [Reading.next]
  next plain =>
    rcases List.prefix_cons_iff.mp part with rfl | ⟨rest, rfl, tail⟩
    · rfl
    · rw [List.prefix_nil.mp tail, readFrom_cons, next_plain bare plain, readFrom_nil]

theorem read_front_escape (bare : reading.escaped = false) (part : front <+: escape text) :
    (readFrom reading front).entity = reading.entity := by
  induction text generalizing front with
  | nil =>
    rw [List.prefix_nil.mp part]
    rfl
  | cons c text ih =>
    obtain ⟨rest, same⟩ := part
    rw [escape_cons] at same
    rcases List.append_eq_append_iff.mp same with ⟨more, whole, -⟩ | ⟨more, rfl, later⟩
    · exact read_front_escapeChar bare ⟨more, whole.symm⟩
    · rw [readFrom_append, read_escapeChar bare]
      exact ih ⟨rest, later.symm⟩

theorem plain_of_bare_escape (bare : reading.escaped = false) (found : (escape text)[i]? = some c)
    (unescaped : (readFrom reading ((escape text).take i)).escaped = false) : c ∉ delimiters := by
  induction text generalizing i with
  | nil => simp [escape] at found
  | cons d text ih =>
    rw [escape_cons] at found unescaped
    have later (behind : (escapeChar d).length ≤ i) : c ∉ delimiters := by
      rw [List.getElem?_append_right behind] at found
      rw [List.take_append, List.take_of_length_le behind, readFrom_append, read_escapeChar bare] at unescaped
      exact ih found unescaped
    by_cases special : d = '\\' ∨ d ∈ delimiters
    · have pair : escapeChar d = ['\\', d] := if_pos special
      rw [pair] at found unescaped later
      rcases i with _ | _ | i
      · cases found
        decide
      · simp [Reading.next, bare] at unescaped
      · exact later (by simp)
    · have single : escapeChar d = [d] := if_neg special
      rw [single] at found unescaped later
      rcases i with _ | i
      · cases found
        exact fun member => special (.inr member)
      · exact later (by simp)

theorem next_escaped (reading : Reading) (c : Char) :
    (reading.next c).escaped = (!reading.escaped && decide (c = '\\')) := by
  obtain ⟨escaped, entity⟩ := reading
  unfold Reading.next
  cases escaped with
  | true => simp
  | false =>
    by_cases slash : c = '\\'
    · simp [slash]
    · simp only [slash, Bool.false_eq_true, if_false]
      split <;> (try split) <;> (try split) <;> simp

theorem escaped_readFrom {other : Reading} (same : reading.escaped = other.escaped) (text : List Char) :
    (readFrom reading text).escaped = (readFrom other text).escaped := by
  induction text generalizing reading other with
  | nil => exact same
  | cons c text ih =>
    apply ih
    rw [next_escaped, next_escaped, same]

theorem bareAt_append_right (closed : (read front).escaped = false) (behind : front.length ≤ i)
    (bare : BareAt (front ++ text) i) : BareAt text (i - front.length) := by
  obtain ⟨⟨c, found, member⟩, unescaped⟩ := bare
  rw [Option.mem_def, List.getElem?_append_right behind] at found
  rw [List.take_append, List.take_of_length_le behind, read_append] at unescaped
  refine ⟨⟨c, found, member⟩, ?_⟩
  rw [← unescaped]
  exact escaped_readFrom closed.symm _

theorem bareAt_append_left (inside : i < front.length) (bare : BareAt (front ++ text) i) : BareAt front i := by
  obtain ⟨⟨c, found, member⟩, unescaped⟩ := bare
  rw [Option.mem_def, List.getElem?_append_left inside] at found
  rw [List.take_append_of_le_length (Nat.le_of_lt inside)] at unescaped
  exact ⟨⟨c, found, member⟩, unescaped⟩

theorem bareAt_of_front (bare : BareAt front i) : BareAt (front ++ text) i := by
  obtain ⟨⟨c, found, member⟩, unescaped⟩ := bare
  have inside : i < front.length := (List.getElem?_eq_some_iff.mp found).1
  refine ⟨⟨c, ?_, member⟩, ?_⟩
  · rw [Option.mem_def, List.getElem?_append_left inside]
    exact found
  · rw [List.take_append_of_le_length (Nat.le_of_lt inside)]
    exact unescaped

theorem wellFormed_append_plain (plain : ¬(c = '\\' ∨ c ∈ delimiters)) :
    WellFormed (text ++ [c]) ↔ (read text).entity = none := by
  unfold WellFormed
  rw [read_append, readFrom_cons, readFrom_nil]
  cases reached : read text with
  | mk escaped entity =>
    cases escaped with
    | true => simp [Reading.next]
    | false =>
      rw [next_plain rfl plain]
      simp

theorem not_bareAt_escape (text : List Char) (i : Nat) : ¬ BareAt (escape text) i := by
  rintro ⟨⟨c, found, member⟩, unescaped⟩
  exact plain_of_bare_escape rfl found unescaped member

end Markdown
