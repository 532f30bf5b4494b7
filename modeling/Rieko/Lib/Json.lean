import Rieko.Lib.Binary64
import Mathlib.Data.List.Sort

/-- A JSON number keeps whether it was written as an unsigned, a negative or a floating number. -/
inductive JsonNumber where
  | posInt (n : Nat)
  | negInt (n : Int)
  | float (x : Binary64)
deriving DecidableEq, Repr

namespace JsonNumber

instance : BEq JsonNumber where
  beq
    | .posInt n, .posInt m => n == m
    | .negInt n, .negInt m => n == m
    | .float x, .float y => x.beq y
    | _, _ => false

def asF64 : JsonNumber → Binary64
  | .posInt n => Binary64.ofNat n
  | .negInt n => Binary64.ofRat n
  | .float x => x

end JsonNumber

/-- A JSON value. The pairs of an object stand in ascending order of their keys. -/
inductive Json where
  | null
  | bool (b : Bool)
  | number (n : JsonNumber)
  | string (s : String)
  | array (items : List Json)
  | object (pairs : List (String × Json))

namespace Json

mutual

def beq : Json → Json → Bool
  | .null, .null => true
  | .bool a, .bool b => a == b
  | .number n, .number m => n == m
  | .string s, .string t => s == t
  | .array items, .array others => beqItems items others
  | .object pairs, .object others => beqPairs pairs others
  | _, _ => false
termination_by structural value => value

def beqItems : List Json → List Json → Bool
  | [], [] => true
  | a :: items, b :: others => beq a b && beqItems items others
  | _, _ => false
termination_by structural items => items

def beqPairs : List (String × Json) → List (String × Json) → Bool
  | [], [] => true
  | a :: pairs, b :: others => beqPair a b && beqPairs pairs others
  | _, _ => false
termination_by structural pairs => pairs

def beqPair : String × Json → String × Json → Bool
  | (key, a), (other, b) => key == other && beq a b
termination_by structural pair => pair

end

instance : BEq Json := ⟨beq⟩

mutual

def finite : Json → Bool
  | .number (.float x) => x.isFinite
  | .array items => finiteItems items
  | .object pairs => finitePairs pairs
  | _ => true
termination_by structural value => value

def finiteItems : List Json → Bool
  | [] => true
  | a :: items => finite a && finiteItems items
termination_by structural items => items

def finitePairs : List (String × Json) → Bool
  | [] => true
  | a :: pairs => finitePair a && finitePairs pairs
termination_by structural pairs => pairs

def finitePair : String × Json → Bool
  | (_, a) => finite a
termination_by structural pair => pair

end

theorem number_beq_self {n : JsonNumber} (held : finite (.number n) = true) : (n == n) = true := by
  cases n with
  | posInt n => exact beq_self_eq_true n
  | negInt n => exact beq_self_eq_true n
  | float x =>
    have number : x.isNaN = false := by
      have regular : x.exponent ≠ 2047 := by simpa [finite, Binary64.isFinite] using held
      simp [Binary64.isNaN, regular]
    show x.beq x = true
    simp [Binary64.beq, number]

mutual

theorem beq_self (value : Json) (held : finite value = true) : beq value value = true := by
  cases value with
  | null => rfl
  | bool b => exact beq_self_eq_true b
  | number n => exact number_beq_self held
  | string s => exact beq_self_eq_true s
  | array items => exact beqItems_self items held
  | object pairs => exact beqPairs_self pairs held
termination_by structural value

theorem beqItems_self (items : List Json) (held : finiteItems items = true) : beqItems items items = true := by
  cases items with
  | nil => rfl
  | cons a items =>
    obtain ⟨first, rest⟩ := (Bool.and_eq_true _ _).mp held
    exact (Bool.and_eq_true _ _).mpr ⟨beq_self a first, beqItems_self items rest⟩
termination_by structural items

theorem beqPairs_self (pairs : List (String × Json)) (held : finitePairs pairs = true) :
    beqPairs pairs pairs = true := by
  cases pairs with
  | nil => rfl
  | cons a pairs =>
    obtain ⟨first, rest⟩ := (Bool.and_eq_true _ _).mp held
    exact (Bool.and_eq_true _ _).mpr ⟨beqPair_self a first, beqPairs_self pairs rest⟩
termination_by structural pairs

theorem beqPair_self (pair : String × Json) (held : finitePair pair = true) : beqPair pair pair = true := by
  cases pair with
  | mk key a => exact (Bool.and_eq_true _ _).mpr ⟨beq_self_eq_true key, beq_self a held⟩
termination_by structural pair

end

theorem finiteItems_iff {items : List Json} : finiteItems items = true ↔ ∀ a ∈ items, a.finite = true := by
  induction items with
  | nil => simp [finiteItems]
  | cons a items ih => simp [finiteItems, ih]

theorem finitePairs_iff {pairs : List (String × Json)} :
    finitePairs pairs = true ↔ ∀ pair ∈ pairs, pair.2.finite = true := by
  induction pairs with
  | nil => simp [finitePairs]
  | cons a pairs ih =>
    have head : finitePair a = a.2.finite := by cases a; rfl
    simp [finitePairs, head, ih]

def isNull : Json → Bool
  | .null => true
  | _ => false

def asStr : Json → Option String
  | .string s => some s
  | _ => none

def asF64 : Json → Option Binary64
  | .number n => some n.asF64
  | _ => none

def asU64 : Json → Option Nat
  | .number (.posInt n) => some n
  | _ => none

def asI64 : Json → Option Int64
  | .number (.posInt n) => if n < 2^63 then some (.ofNat n) else none
  | .number (.negInt n) => some (.ofInt n)
  | _ => none

def get (value : Json) (key : String) : Option Json :=
  match value with
  | .object pairs => (pairs.find? (·.1 = key)).map (·.2)
  | _ => none

/-- Infinities and NaN have no JSON form and become null. -/
def ofF64 (x : Binary64) : Json := if x.isFinite then .number (.float x) else .null

def ofPairs (pairs : List (String × Json)) : Json :=
  .object (pairs.insertionSort fun a b => a.1 ≤ b.1)

theorem finite_ofPairs {pairs : List (String × Json)} (each : ∀ pair ∈ pairs, pair.2.finite = true) :
    (ofPairs pairs).finite = true :=
  finitePairs_iff.mpr fun pair member => each pair ((List.mem_insertionSort _).mp member)

def ofNat (n : Nat) : Json := .number (.posInt n)

def ofOption {α : Type} (encode : α → Json) : Option α → Json
  | some a => encode a
  | none => .null

def present {α : Type} (key : String) (encode : α → Json) : Option α → List (String × Json)
  | some a => [(key, encode a)]
  | none => []

def asBool : Json → Option Bool
  | .bool b => some b
  | _ => none

def asArray : Json → Option (List Json)
  | .array items => some items
  | _ => none

def field {α : Type} (value : Json) (key : String) (decode : Json → Option α) : Option α :=
  (value.get key).bind decode

def nullable {α : Type} (decode : Json → Option α) : Option Json → Option (Option α)
  | none | some .null => some none
  | some value => (decode value).map some

def optionalField {α : Type} (value : Json) (key : String) (decode : Json → Option α) : Option (Option α) :=
  nullable decode (value.get key)

theorem get_ofPairs_of_absent {pairs : List (String × Json)} {key : String} (absent : key ∉ pairs.map Prod.fst) :
    (ofPairs pairs).get key = none := by
  have missing : (pairs.insertionSort fun a b => a.1 ≤ b.1).find? (·.1 = key) = none := by
    rw [List.find?_eq_none]
    intro pair sorted same
    have member : pair ∈ pairs := (List.mem_insertionSort _).mp sorted
    have named : pair.1 = key := by simpa using same
    exact absent (named ▸ List.mem_map_of_mem member)
  show ((pairs.insertionSort fun a b => a.1 ≤ b.1).find? (·.1 = key)).map (·.2) = none
  rw [missing]
  rfl

section Lookup

variable {pairs : List (String × Json)} {key : String} {value : Json}

theorem get_ofPairs_of_mem (distinct : (pairs.map Prod.fst).Nodup) (member : (key, value) ∈ pairs) :
    (ofPairs pairs).get key = some value := by
  have sorted : (key, value) ∈ pairs.insertionSort fun a b => a.1 ≤ b.1 := (List.mem_insertionSort _).mpr member
  show ((pairs.insertionSort fun a b => a.1 ≤ b.1).find? (·.1 = key)).map (·.2) = some value
  cases found : (pairs.insertionSort fun a b => a.1 ≤ b.1).find? (·.1 = key) with
  | none => simpa using List.find?_eq_none.mp found _ sorted
  | some pair =>
    have named : pair.1 = key := by simpa using List.find?_some found
    have stored : pair ∈ pairs := (List.mem_insertionSort _).mp (List.mem_of_find?_eq_some found)
    have same : pair = (key, value) := List.inj_on_of_nodup_map distinct stored member named
    rw [same]
    rfl

theorem get_ofPairs (distinct : (pairs.map Prod.fst).Nodup) : (ofPairs pairs).get key = pairs.lookup key := by
  cases found : pairs.lookup key with
  | none =>
    refine get_ofPairs_of_absent fun member => ?_
    obtain ⟨pair, stored, named⟩ := List.mem_map.mp member
    have missing := List.lookup_eq_none_iff.mp found pair stored
    simp [named] at missing
  | some value =>
    refine get_ofPairs_of_mem distinct ?_
    obtain ⟨before, after, split, -⟩ := List.lookup_eq_some_iff.mp found
    rw [split]
    simp

theorem field_ofPairs {α : Type} {decode : Json → Option α} (distinct : (pairs.map Prod.fst).Nodup) :
    (ofPairs pairs).field key decode = (pairs.lookup key).bind decode := by
  unfold field
  rw [get_ofPairs distinct]

theorem optionalField_ofPairs {α : Type} {decode : Json → Option α} (distinct : (pairs.map Prod.fst).Nodup) :
    (ofPairs pairs).optionalField key decode = nullable decode (pairs.lookup key) := by
  unfold optionalField
  rw [get_ofPairs distinct]

theorem isNull_iff : value.isNull = true ↔ value = .null := by cases value <;> simp [isNull]

theorem nullable_of_filled {α : Type} {decode : Json → Option α} (filled : value.isNull = false) :
    nullable decode (some value) = (decode value).map some := by
  cases value with
  | null => cases filled
  | bool | number | string | array | object => rfl

theorem nullable_ofOption {α : Type} {encode : α → Json} {decode : Json → Option α}
    (reads : ∀ a, decode (encode a) = some a) (filled : ∀ a, (encode a).isNull = false) (value : Option α) :
    nullable decode (some (ofOption encode value)) = some value := by
  cases value with
  | none => rfl
  | some a =>
    show nullable decode (some (encode a)) = some (some a)
    rw [nullable_of_filled (filled a), reads a]
    rfl

end Lookup

end Json
