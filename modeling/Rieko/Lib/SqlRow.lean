import Rieko.Lib.Binary64
import Rieko.Lib.StatefulResult
import Mathlib.Data.String.Basic

/-! The columns of a database row, and their reading by a client that knows the type of each. -/

/-- What a column holds, whatever type the table declares for it. -/
inductive SqlValue where
  | null
  | integer (n : Int)
  | real (x : Binary64)
  | text (s : String)
  | blob (bytes : List UInt8)
deriving DecidableEq, Repr

abbrev SqlRow := String → SqlValue

def SqlRow.select (columns : List String) (row : SqlRow) : List SqlValue := columns.map row

/-- An `UPDATE` of some columns. Of a row of defaults it is an `INSERT`. -/
def SqlRow.set (row : SqlRow) (values : List (String × SqlValue)) : SqlRow :=
  fun column => (values.lookup column).getD (row column)

inductive ColumnError where
  | invalidColumnIndex (index : Nat)
  | invalidColumnType (index : Nat) (value : SqlValue)
  | integralValueOutOfRange (index : Nat) (n : Int)
  | fromSqlConversionFailure (index : Nat) (message : String)
deriving DecidableEq, Repr

theorem SqlRow.set_cons (row : SqlRow) (name : String) (value : SqlValue) (values : List (String × SqlValue))
    (column : String) :
    row.set ((name, value) :: values) column = if column = name then value else row.set values column := by
  unfold SqlRow.set
  rw [List.lookup_cons]
  by_cases same : column = name
  · simp [same]
  · simp [same, beq_false_of_ne same]

namespace SqlValue

open StatefulResult

section Comparisons

/-- Null is below the numbers, they are below the texts, and these are below the blobs. -/
def storageClass : SqlValue → Nat
  | .null => 0
  | .integer _ => 1
  | .real _ => 1
  | .text _ => 2
  | .blob _ => 3

/-- The order of values. The order of the bytes of two texts is that of their code points. -/
def le : SqlValue → SqlValue → Bool
  | .integer m, .integer n => m ≤ n
  | .integer m, .real y => if y.isInfinite then !y.negative else (m : ℚ) ≤ y.toRat
  | .real x, .integer n => if x.isInfinite then x.negative else x.toRat ≤ (n : ℚ)
  | .real x, .real y => x.le y
  | .text s, .text t => s ≤ t
  | .blob x, .blob y => x ≤ y
  | a, b => a.storageClass ≤ b.storageClass

def is (a b : SqlValue) : Bool := a.le b && b.le a

/-- `=`, which is true of no null. -/
def equals (a b : SqlValue) : Bool := a ≠ .null && b ≠ .null && a.is b

def atLeast (a b : SqlValue) : Bool := a ≠ .null && b ≠ .null && b.le a

def below (a b : SqlValue) : Bool := a ≠ .null && b ≠ .null && !b.le a

def plusOne : SqlValue → SqlValue
  | .integer n => .integer (n + 1)
  | .real x => .real (x.add (.ofNat 1))
  | value => value

def least (a b : SqlValue) : SqlValue := if a = .null ∨ b = .null then .null else if a.le b then a else b

def greatest (a b : SqlValue) : SqlValue := if a = .null ∨ b = .null then .null else if b.le a then a else b

def coalesce (a b : SqlValue) : SqlValue := if a = .null then b else a

/-- The aggregate `MIN`, which passes over nulls. -/
def minimum (values : List SqlValue) : SqlValue :=
  values.foldl (fun found value => if value = .null then found else coalesce (found.least value) value) .null

section Lemmas

variable {s t : String} {value : SqlValue}

theorem le_text : (text s).le (text t) = decide (s ≤ t) := rfl

theorem is_text : (text s).is (text t) = decide (s = t) := by
  unfold is
  rw [le_text, le_text, Bool.eq_iff_iff]
  simp only [Bool.and_eq_true, decide_eq_true_eq]
  exact le_antisymm_iff.symm

theorem equals_text : (text s).equals (text t) = decide (s = t) := by
  unfold equals
  simp [is_text]

theorem equals_text_iff : value.equals (text s) = true ↔ value = text s := by
  cases value with
  | text t => simp [equals_text]
  | null | integer | real | blob => simp [equals, is, le, storageClass]

theorem atLeast_text : (text s).atLeast (text t) = decide (t ≤ s) := by
  unfold atLeast
  simp [le_text]

theorem atLeast_integer {m n : Int} : (integer m).atLeast (integer n) = decide (n ≤ m) := by
  unfold atLeast
  simp [le]

theorem below_integer {m n : Int} : (integer m).below (integer n) = decide (m < n) := by
  unfold below
  rw [show (integer n).le (integer m) = decide (n ≤ m) from rfl, Bool.eq_iff_iff]
  simp

theorem coalesce_text : coalesce (text s) value = text s := if_neg fun same => nomatch same

theorem least_text : (text s).least (text t) = if s ≤ t then text s else text t := by
  unfold least
  simp [le_text]

theorem greatest_text : (text s).greatest (text t) = if t ≤ s then text s else text t := by
  unfold greatest
  simp [le_text]

theorem minimum_texts {α : Type} [Min α] (write : α → String) (property : α → Prop)
    (closed : ∀ a b, property a → property b → property (min a b))
    (ordered : ∀ a b, property a → property b → write (min a b) = if write a ≤ write b then write a else write b)
    {a : α} {values : List α} (held : ∀ b ∈ a :: values, property b) :
    minimum ((a :: values).map fun b => text (write b)) = text (write (values.foldl min a)) ∧
      property (values.foldl min a) := by
  have start : minimum ((a :: values).map fun b => text (write b)) =
      (values.map fun b => text (write b)).foldl
        (fun found value => if value = .null then found else coalesce (found.least value) value) (text (write a)) := rfl
  rw [start]
  induction values generalizing a with
  | nil => exact ⟨rfl, held a (by simp)⟩
  | cons b values ih =>
    have first := held a (by simp)
    have second := held b (by simp)
    have step : coalesce ((text (write a)).least (text (write b))) (text (write b)) = text (write (min a b)) := by
      rw [ordered a b first second, least_text]
      unfold coalesce
      split <;> simp
    simp only [List.map_cons, List.foldl_cons, reduceCtorEq, if_false, step]
    exact ih (fun c member => by
      rcases List.mem_cons.mp member with rfl | later
      · exact closed a b first second
      · exact held c (by simp [later])) rfl

end Lemmas

end Comparisons

inductive FromSqlError where
  | invalidType
  | outOfRange (n : Int)
deriving DecidableEq, Repr

abbrev FromSql (α : Type) := SqlValue → Except FromSqlError α

def string : FromSql String
  | .text s => .ok s
  | _ => .error .invalidType

def i64 : FromSql Int
  | .integer n => .ok n
  | _ => .error .invalidType

def unsigned (width : Nat) : FromSql Nat
  | .integer n => if 0 ≤ n ∧ n < 2^width then .ok n.toNat else .error (.outOfRange n)
  | _ => .error .invalidType

def f64 : FromSql Binary64
  | .real x => .ok x
  | .integer n => .ok (Binary64.ofRat n)
  | _ => .error .invalidType

variable {α β : Type}

def optional (type : FromSql α) : FromSql (Option α)
  | .null => .ok none
  | value => (type value).map some

def ofOption (encode : α → SqlValue) : Option α → SqlValue
  | some a => encode a
  | none => .null

def column (row : List SqlValue) (index : Nat) (type : FromSql α) : Except ColumnError α :=
  match row[index]? with
  | none => .error (.invalidColumnIndex index)
  | some value =>
    match type value with
    | .ok a => .ok a
    | .error .invalidType => .error (.invalidColumnType index value)
    | .error (.outOfRange n) => .error (.integralValueOutOfRange index n)

/-- A value that the client computes from a column, which the error names if it cannot. -/
def convert (index : Nat) (answer : Except String α) : Except ColumnError α :=
  answer.mapError (.fromSqlConversionFailure index)

def parsed (row : List SqlValue) (index : Nat) (type : FromSql β) (parse : β → Except String α) :
    Except ColumnError α := do
  let b ← column row index type
  convert index (parse b)

def optionalParsed (row : List SqlValue) (index : Nat) (parse : String → Except String α) :
    Except ColumnError (Option α) := do
  match ← column row index (optional string) with
  | none => return none
  | some s => return some (← convert index (parse s))

def decodeBy [DecidableEq β] (encode : α → β) (known : List α) (complaint : β → String)
    (stored : β) : Except String α :=
  match known.find? (encode · = stored) with
  | some a => .ok a
  | none => .error (complaint stored)

/-- A value holds a text that is read as `a`. -/
def Reads (parse : String → Except String α) (value : SqlValue) (a : α) : Prop :=
  ∃ s, value = .text s ∧ parse s = .ok a

def ReadsOptional (parse : String → Except String α) (value : SqlValue) : Option α → Prop
  | none => value = .null
  | some a => value.Reads parse a

variable {type : FromSql α} {value : SqlValue} {row : List SqlValue} {index : Nat} {a : α}

theorem column_ok : column row index type = .ok a ↔ ∃ value, row[index]? = some value ∧ type value = .ok a := by
  unfold column
  cases row[index]? with
  | none => simp
  | some value =>
    simp only [Option.some.injEq, exists_eq_left']
    cases type value with
    | ok b => simp
    | error e => cases e <;> simp

theorem convert_ok {answer : Except String α} : convert index answer = .ok a ↔ answer = .ok a := except_mapError_ok

section Stored

variable {encode : α → String} {a b : Option α} {s : String}

theorem is_ofOption [DecidableEq α] (injective : ∀ a b, encode a = encode b → a = b) :
    (ofOption (fun a => .text (encode a)) a).is (ofOption (fun a => .text (encode a)) b) = decide (a = b) := by
  cases a with
  | none => cases b <;> simp [ofOption, is, le, storageClass]
  | some a =>
    cases b with
    | none => simp [ofOption, is, le, storageClass]
    | some b =>
      rw [show (ofOption _ (some a)).is (ofOption _ (some b)) =
        (text (encode a)).is (text (encode b)) from rfl, is_text]
      exact decide_eq_decide.mpr ⟨fun same => congrArg some (injective a b same), fun same => by cases same; rfl⟩

theorem is_optionText {a b : Option String} : (ofOption text a).is (ofOption text b) = decide (a = b) :=
  @is_ofOption _ id _ _ _ fun _ _ same => same

theorem equals_ofOption [DecidableEq α] (injective : ∀ a b, encode a = encode b → a = b) :
    (ofOption (fun a => .text (encode a)) a).equals (ofOption (fun a => .text (encode a)) b) =
      decide (a.isSome ∧ a = b) := by
  unfold equals
  rw [is_ofOption injective]
  cases a <;> cases b <;> simp [ofOption]

theorem equals_optionText {a b : Option String} :
    (ofOption text a).equals (ofOption text b) = decide (a.isSome ∧ a = b) :=
  @equals_ofOption _ id _ _ _ fun _ _ same => same

end Stored

theorem string_ok {s : String} : string value = .ok s ↔ value = .text s := by
  cases value <;> simp [string]

theorem i64_ok {n : Int} : i64 value = .ok n ↔ value = .integer n := by
  cases value <;> simp [i64]

theorem unsigned_ok {width n : Nat} : unsigned width value = .ok n ↔ value = .integer n ∧ n < 2^width := by
  cases value with
  | integer m =>
    have power : ((2^width : Nat) : Int) = 2^width := by norm_cast
    simp only [unsigned, SqlValue.integer.injEq]
    by_cases inside : 0 ≤ m ∧ m < 2^width
    · rw [if_pos inside, Except.ok.injEq]
      omega
    · rw [if_neg inside]
      refine iff_of_false (fun same => nomatch same) fun same => ?_
      omega
  | null | real | text | blob => simp [unsigned]

theorem optional_ok {encode : α → SqlValue} (reads : ∀ a, type value = .ok a ↔ value = encode a)
    (filled : ∀ a, encode a ≠ .null) {found : Option α} :
    optional type value = .ok found ↔ value = ofOption encode found := by
  cases value with
  | null =>
    cases found with
    | none => exact iff_of_true rfl rfl
    | some a => exact iff_of_false (fun same => nomatch same) fun same => filled a same.symm
  | integer | real | text | blob =>
    show (type _).map some = .ok found ↔ _
    cases found with
    | none => cases type _ <;> simp [Except.map, ofOption]
    | some a =>
      rw [show ofOption encode (some a) = encode a from rfl, ← reads a]
      cases type _ <;> simp [Except.map]

theorem optional_string_ok {found : Option String} : optional string value = .ok found ↔ value = ofOption .text found :=
  optional_ok (fun _ => string_ok) fun _ same => nomatch same

theorem optional_i64_ok {found : Option Int} : optional i64 value = .ok found ↔ value = ofOption .integer found :=
  optional_ok (fun _ => i64_ok) fun _ same => nomatch same

theorem decodeBy_ok [DecidableEq β] {encode : α → β} {known : List α} {complaint : β → String} {stored : β}
    (complete : ∀ a, a ∈ known) (injective : ∀ a b, encode a = encode b → a = b) :
    decodeBy encode known complaint stored = .ok a ↔ stored = encode a := by
  unfold decodeBy
  cases found : known.find? (encode · = stored) with
  | none =>
    refine iff_of_false (fun same => nomatch same) fun same => ?_
    simpa [same] using List.find?_eq_none.mp found a (complete a)
  | some b =>
    have same : encode b = stored := by simpa using List.find?_some found
    rw [← same, Except.ok.injEq]
    exact ⟨fun equal => by rw [equal], injective b a⟩

theorem parsed_ok {type : FromSql β} {parse : β → Except String α} :
    parsed row index type parse = .ok a ↔
      ∃ value, row[index]? = some value ∧ ∃ b, type value = .ok b ∧ parse b = .ok a := by
  unfold parsed
  simp only [except_bind_ok, column_ok, convert_ok]
  exact ⟨fun ⟨b, ⟨value, here, typed⟩, read⟩ => ⟨value, here, b, typed, read⟩,
    fun ⟨value, here, b, typed, read⟩ => ⟨b, ⟨value, here, typed⟩, read⟩⟩

theorem parsed_string_ok {parse : String → Except String α} :
    parsed row index string parse = .ok a ↔ ∃ value, row[index]? = some value ∧ value.Reads parse a := by
  simp only [parsed_ok, string_ok, Reads]

theorem parsed_i64_ok {parse : Int → Except String α} :
    parsed row index i64 parse = .ok a ↔
      ∃ value, row[index]? = some value ∧ ∃ n, value = .integer n ∧ parse n = .ok a := by
  simp only [parsed_ok, i64_ok]

theorem reads_mapError {read : String → Except String α} {complaint : String → String → String} :
    value.Reads (fun s => (read s).mapError (complaint s)) a ↔ value.Reads read a := by
  unfold Reads
  simp only [except_mapError_ok]

theorem readsOptional_mapError {read : String → Except String α} {complaint : String → String → String}
    {found : Option α} :
    value.ReadsOptional (fun s => (read s).mapError (complaint s)) found ↔ value.ReadsOptional read found := by
  cases found with
  | none => exact Iff.rfl
  | some a => exact reads_mapError

theorem reads_decodeBy {encode : α → String} {known : List α} {complaint : String → String}
    (complete : ∀ a, a ∈ known) (injective : ∀ a b, encode a = encode b → a = b) :
    value.Reads (decodeBy encode known complaint) a ↔ value = .text (encode a) := by
  unfold Reads
  simp only [decodeBy_ok complete injective]
  exact ⟨fun ⟨_, held, same⟩ => by rw [held, same], fun held => ⟨_, held, rfl⟩⟩

theorem readsOptional_decodeBy {encode : α → String} {known : List α} {complaint : String → String}
    (complete : ∀ a, a ∈ known) (injective : ∀ a b, encode a = encode b → a = b) {found : Option α} :
    value.ReadsOptional (decodeBy encode known complaint) found ↔
      value = ofOption (fun a => .text (encode a)) found := by
  cases found with
  | none => exact Iff.rfl
  | some a => exact reads_decodeBy complete injective

theorem optionalParsed_ok {parse : String → Except String α} {found : Option α} :
    optionalParsed row index parse = .ok found ↔ ∃ value, row[index]? = some value ∧
      value.ReadsOptional parse found := by
  unfold optionalParsed
  rw [except_bind_ok]
  simp only [column_ok, optional_string_ok]
  constructor
  · rintro ⟨read, ⟨value, here, rfl⟩, ran⟩
    cases read with
    | none =>
      cases ran
      exact ⟨_, here, rfl⟩
    | some s =>
      obtain ⟨a, parsed, done⟩ := except_bind_ok.mp ran
      cases done
      exact ⟨_, here, s, rfl, convert_ok.mp parsed⟩
  · rintro ⟨value, here, reads⟩
    cases found with
    | none => exact ⟨none, ⟨value, here, reads⟩, rfl⟩
    | some a =>
      obtain ⟨s, rfl, parsed⟩ := reads
      exact ⟨some s, ⟨_, here, rfl⟩, except_bind_ok.mpr ⟨a, convert_ok.mpr parsed, rfl⟩⟩

end SqlValue
