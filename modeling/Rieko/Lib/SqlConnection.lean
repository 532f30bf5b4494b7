import Rieko.Lib.StatefulResult

/-! A connection to a transactional database whose statements may fail. -/

/-- What one connection sees. While a transaction is open, `saved` holds the tables to return to. Statement
    number `n` of the connection fails with the text `fails n`, if there is one. -/
structure SqlConnection (Tables : Type) where
  tables : Tables
  saved : Option Tables := none
  executed : Nat := 0
  fails : Nat → Option String := fun _ => none

namespace SqlConnection

variable {Tables α : Type}

abbrev Sql (Tables : Type) := EStateM String (SqlConnection Tables)

def next (c : SqlConnection Tables) : SqlConnection Tables := { c with executed := c.executed + 1 }

/-- A statement whose effect may break a constraint. A statement that fails leaves no effect, and a
    transaction that was open stays open. -/
def statement (effect : Tables → Except String (Tables × α)) : Sql Tables α := fun c =>
  match c.fails c.executed, effect c.tables with
  | some message, _ => .error message c.next
  | none, .error message => .error message c.next
  | none, .ok (tables, a) => .ok a { c.next with tables }

def execute (effect : Tables → Tables) : Sql Tables Unit := statement fun tables => .ok (effect tables, ())

def query (read : Tables → α) : Sql Tables α := statement fun tables => .ok (tables, read tables)

def beginImmediate : Sql Tables Unit := fun c =>
  match c.fails c.executed, c.saved with
  | some message, _ => .error message c.next
  | none, some _ => .error "cannot start a transaction within a transaction" c.next
  | none, none => .ok () { c.next with saved := some c.tables }

/-- A commit that fails leaves its transaction open. -/
def commit : Sql Tables Unit := fun c =>
  match c.fails c.executed, c.saved with
  | some message, _ => .error message c.next
  | none, none => .error "cannot commit - no transaction is active" c.next
  | none, some _ => .ok () { c.next with saved := none }

def rollback : Sql Tables Unit := fun c =>
  match c.saved with
  | none => .error "cannot rollback - no transaction is active" c.next
  | some tables => .ok () { c.next with tables, saved := none }

def inTransaction (c : SqlConnection Tables) : Bool := c.saved.isSome

/-- The connection of a process that dies at its statement number `k` from now on. -/
def dying (k : Nat) (c : SqlConnection Tables) : SqlConnection Tables :=
  { c with fails := fun n => if n < c.executed + k then c.fails n else some "the process died" }

/-- What a new connection sees once a process is gone: an open transaction is undone. -/
def reopened (opened left : SqlConnection Tables) : SqlConnection Tables :=
  { left with tables := left.saved.getD left.tables, saved := none, fails := opened.fails }

def FailsFirstAt (c : SqlConnection Tables) (k : Nat) : Prop :=
  (∀ i < k, c.fails (c.executed + i) = none) ∧ (c.fails (c.executed + k)).isSome = true

instance (c : SqlConnection Tables) (k : Nat) : Decidable (c.FailsFirstAt k) :=
  inferInstanceAs (Decidable (_ ∧ _))

theorem execute_ok {effect : Tables → Tables} {c c' : SqlConnection Tables} {u : Unit} :
    execute effect c = .ok u c' ↔ c.fails c.executed = none ∧ c' = { c.next with tables := effect c.tables } := by
  unfold execute statement
  cases c.fails c.executed <;> simp [eq_comm]

theorem query_ok {read : Tables → α} {c c' : SqlConnection Tables} {a : α} :
    query read c = .ok a c' ↔ c.fails c.executed = none ∧ a = read c.tables ∧ c' = c.next := by
  unfold query statement
  cases c.fails c.executed <;> simp [eq_comm, next]

theorem statement_error {effect : Tables → Except String (Tables × α)} {c c' : SqlConnection Tables} {e : String}
    (failed : statement effect c = .error e c') : c' = c.next := by
  unfold statement at failed
  cases fails : c.fails c.executed with
  | some message =>
    rw [fails] at failed
    cases failed
    rfl
  | none =>
    cases works : effect c.tables with
    | error message =>
      simp only [fails, works] at failed
      cases failed
      rfl
    | ok result => simp only [fails, works, reduceCtorEq] at failed

theorem beginImmediate_ok {c c' : SqlConnection Tables} {u : Unit} :
    beginImmediate c = .ok u c' ↔
      c.fails c.executed = none ∧ c.saved = none ∧ c' = { c.next with saved := some c.tables } := by
  unfold beginImmediate
  cases c.fails c.executed <;> cases c.saved <;> simp [eq_comm]

theorem beginImmediate_refused {c c' : SqlConnection Tables} {e : String}
    (failed : beginImmediate c = .error e c') : c' = c.next := by
  unfold beginImmediate at failed
  split at failed <;> cases failed <;> rfl

theorem beginImmediate_error {c c' : SqlConnection Tables} {e : String} (closed : c.saved = none)
    (failed : beginImmediate c = .error e c') : (c.fails c.executed).isSome = true ∧ c' = c.next := by
  refine ⟨?_, beginImmediate_refused failed⟩
  cases fails : c.fails c.executed with
  | none =>
    have opened : beginImmediate c = .ok () _ := beginImmediate_ok.mpr ⟨fails, closed, rfl⟩
    rw [opened] at failed
    cases failed
  | some message => rfl

theorem commit_ok {c c' : SqlConnection Tables} {u : Unit} :
    commit c = .ok u c' ↔
      c.fails c.executed = none ∧ c.saved.isSome = true ∧ c' = { c.next with saved := none } := by
  unfold commit
  cases c.fails c.executed <;> cases c.saved <;> simp [eq_comm]

theorem commit_refused {c c' : SqlConnection Tables} {e : String} (failed : commit c = .error e c') : c' = c.next := by
  unfold commit at failed
  split at failed <;> cases failed <;> rfl

theorem commit_error {c c' : SqlConnection Tables} {e : String} (begun : c.saved.isSome = true)
    (failed : commit c = .error e c') : (c.fails c.executed).isSome = true ∧ c' = c.next := by
  refine ⟨?_, commit_refused failed⟩
  cases fails : c.fails c.executed with
  | none =>
    have committed : commit c = .ok () _ := commit_ok.mpr ⟨fails, begun, rfl⟩
    rw [committed] at failed
    cases failed
  | some message => rfl

theorem rollback_ok {c c' : SqlConnection Tables} {u : Unit} :
    rollback c = .ok u c' ↔ ∃ tables, c.saved = some tables ∧ c' = { c.next with tables, saved := none } := by
  unfold rollback
  cases c.saved <;> simp [eq_comm]

theorem statement_saved (effect : Tables → Except String (Tables × α)) (c : SqlConnection Tables) :
    (StatefulResult.final (statement effect) c).saved = c.saved := by
  unfold StatefulResult.final statement
  cases c.fails c.executed <;> cases effect c.tables <;> rfl

section Runs

variable {ε σ β : Type} {conn : σ → SqlConnection Tables} {property : σ → Prop} {k l : Nat}

/-- A program that keeps a property and executes `k` statements, unless one of them fails and ends it. -/
def Runs (conn : σ → SqlConnection Tables) (property : σ → Prop) (k : Nat) (program : EStateM ε σ α) : Prop :=
  ∀ s, property s → match program s with
    | .ok _ s' => property s' ∧ (conn s').executed = (conn s).executed + k ∧ (conn s').fails = (conn s).fails ∧
      ∀ i < k, (conn s).fails ((conn s).executed + i) = none
    | .error _ s' => property s' ∧ ∃ i < k, ((conn s).fails ((conn s).executed + i)).isSome = true

theorem Runs.pure (a : α) : Runs conn property 0 (Pure.pure a : EStateM ε σ α) :=
  fun _ held => ⟨held, rfl, rfl, fun _ below => absurd below (Nat.not_lt_zero _)⟩

theorem Runs.bind {program : EStateM ε σ α} {next : α → EStateM ε σ β} (first : Runs conn property k program)
    (rest : ∀ a, Runs conn property l (next a)) : Runs conn property (k + l) (program >>= next) := by
  intro s held
  have start := first s held
  cases result : program s with
  | error e m =>
    rw [result] at start
    obtain ⟨kept, i, below, failed⟩ := start
    rw [StatefulResult.bind_of_error result]
    exact ⟨kept, i, by omega, failed⟩
  | ok a m =>
    rw [result] at start
    obtain ⟨kept, executed, fails, quiet⟩ := start
    have later := rest a m kept
    rw [fails, executed] at later
    rw [StatefulResult.bind_of_ok result]
    cases last : next a m with
    | error e s' =>
      rw [last] at later
      obtain ⟨held', i, below, failed⟩ := later
      rw [Nat.add_assoc] at failed
      exact ⟨held', k + i, by omega, failed⟩
    | ok b s' =>
      rw [last] at later
      obtain ⟨held', executed', fails', quiet'⟩ := later
      refine ⟨held', by omega, fails', fun i below => ?_⟩
      by_cases early : i < k
      · exact quiet i early
      · have shifted := quiet' (i - k) (by omega)
        rwa [show (conn s).executed + k + (i - k) = (conn s).executed + i by omega] at shifted

theorem Runs.forM {γ : Type} {items : List γ} {body : γ → EStateM ε σ PUnit}
    (each : ∀ item ∈ items, Runs conn property 1 (body item)) :
    Runs conn property items.length (items.forM body) := by
  induction items with
  | nil => exact .pure _
  | cons item items ih =>
    have rest := ih fun later member => each later (List.mem_cons_of_mem _ member)
    rw [List.length_cons, Nat.add_comm]
    exact (each item (by simp)).bind fun _ => rest

end Runs

end SqlConnection
