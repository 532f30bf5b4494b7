import Rieko.Lib.RelatedRows
import Rieko.Lib.SqlRow
import Mathlib.Logic.Function.Basic

/-! Database files of which batches of statements create, alter and rebuild the tables. -/

open StatefulResult

inductive SqlExpr where
  | column (name : String)
  | value (v : SqlValue)
  | coalesce (a b : SqlExpr)
  | call (function : SqlValue → Except String SqlValue) (argument : SqlExpr)

namespace SqlExpr

def eval (row : SqlRow) : SqlExpr → Except String SqlValue
  | column name => .ok (row name)
  | value v => .ok v
  | coalesce a b => do
    let found ← a.eval row
    if found = .null then b.eval row else return found
  | call function argument => do function (← argument.eval row)

def columns : SqlExpr → List String
  | column name => [name]
  | value _ => []
  | coalesce a b => a.columns ++ b.columns
  | call _ argument => argument.columns

end SqlExpr

/-- A condition of a statement. A comparison with null is not true. -/
inductive SqlCondition where
  | isNull (a : SqlExpr)
  | isNotNull (a : SqlExpr)
  | equals (a b : SqlExpr)
  | differs (a b : SqlExpr)
  | and (p q : SqlCondition)
  | or (p q : SqlCondition)

namespace SqlCondition

/-- Whether a condition is true of a row. What cannot change the answer is not computed. -/
def holds (row : SqlRow) : SqlCondition → Except String Bool
  | isNull a => do return decide ((← a.eval row) = .null)
  | isNotNull a => do return decide ((← a.eval row) ≠ .null)
  | equals a b => do return (← a.eval row).equals (← b.eval row)
  | differs a b => do
    let left ← a.eval row
    let right ← b.eval row
    return left ≠ .null && right ≠ .null && !left.equals right
  | and p q => do if ← p.holds row then q.holds row else return false
  | or p q => do if ← p.holds row then return true else q.holds row

def columns : SqlCondition → List String
  | isNull a => a.columns
  | isNotNull a => a.columns
  | equals a b => a.columns ++ b.columns
  | differs a b => a.columns ++ b.columns
  | and p q => p.columns ++ q.columns
  | or p q => p.columns ++ q.columns

end SqlCondition

/-- A column as it is declared. A row that is inserted without a value for it holds the default. -/
structure SqlColumn where
  name : String
  notNull : Bool := false
  default : SqlValue := .null

/-- A table as it is declared. The columns of the primary key may be null. -/
structure SqlTable where
  columns : List SqlColumn
  key : List String

def SqlTable.names (table : SqlTable) : List String := table.columns.map (·.name)

/-- A unique index is about the rows of which its condition is true. -/
structure SqlIndex where
  table : String
  columns : List String
  unique : Option SqlCondition := none

inductive SqlEvent where
  | update | delete
deriving DecidableEq

structure SqlTrigger where
  table : String
  before : SqlEvent
  message : String

structure SqlSchema where
  tables : String → Option SqlTable := fun _ => none
  indexes : List (String × SqlIndex) := []
  triggers : List (String × SqlTrigger) := []

abbrev SqlRows := String → List SqlRow

structure SqlFile where
  schema : SqlSchema := {}
  rows : SqlRows := fun _ => []

inductive SqlStatement where
  | createTable (ifNotExists : Bool) (name : String) (table : SqlTable)
  | addColumn (table : String) (column : SqlColumn)
  | renameTable (table newName : String)
  | dropTable (table : String)
  | createIndex (ifNotExists : Bool) (name : String) (index : SqlIndex)
  | dropIndexIfExists (name : String)
  | createTrigger (ifNotExists : Bool) (name : String) (trigger : SqlTrigger)
  | update (table : String) (values : List (String × SqlExpr)) (condition : SqlCondition)
  | insertSelect (table : String) (values : List (String × SqlExpr)) (source : String)

namespace SqlSchema

variable (schema : SqlSchema)

def hasIndex (name : String) : Bool := schema.indexes.any (·.1 = name)

/-- What no two rows of a table may agree on, with the rows that it is about. -/
def uniqueKeys (name : String) (table : SqlTable) : List (List String × (SqlRow → Bool)) :=
  (table.key, fun _ => true) :: schema.indexes.filterMap fun (_, index) =>
    if index.table = name then index.unique.map fun condition =>
      (index.columns, fun row => condition.holds row matches .ok true)
    else none

def collides (key : List String × (SqlRow → Bool)) (row other : SqlRow) : Bool :=
  key.2 row && key.2 other && key.1.all fun column => (row column).equals (other column)

def admits (name : String) (table : SqlTable) (row : SqlRow) (others : List SqlRow) : Except String Unit :=
  match table.columns.find? fun column => column.notNull && row column.name = .null with
  | some column => .error s!"NOT NULL constraint failed: {name}.{column.name}"
  | none =>
    match (schema.uniqueKeys name table).find? fun key => others.any fun other => collides key row other with
    | some key => .error s!"UNIQUE constraint failed: {name}.{key.1}"
    | none => .ok ()

def refusal (name : String) (event : SqlEvent) : Option String :=
  (schema.triggers.find? fun (_, trigger) => trigger.table = name && trigger.before = event).map (·.2.message)

end SqlSchema

def evalAll (row : SqlRow) (values : List (String × SqlExpr)) : Except String (List (String × SqlValue)) :=
  values.mapM fun (name, expr) => do return (name, ← expr.eval row)

def columnsOf (values : List (String × SqlExpr)) : List String := values.flatMap fun (_, expr) => expr.columns

def updateEach (schema : SqlSchema) (name : String) (table : SqlTable) (values : List (String × SqlExpr))
    (condition : SqlCondition) (done : List SqlRow) : List SqlRow → Except String (List SqlRow)
  | [] => .ok []
  | row :: rest => do
    if ← condition.holds row then
      if let some message := schema.refusal name .update then throw message
      let changed := row.set (← evalAll row values)
      schema.admits name table changed (done ++ rest)
      return changed :: (← updateEach schema name table values condition (done ++ [changed]) rest)
    else return row :: (← updateEach schema name table values condition (done ++ [row]) rest)

def insertEach (schema : SqlSchema) (name : String) (table : SqlTable) (values : List (String × SqlExpr))
    (present : List SqlRow) : List SqlRow → Except String (List SqlRow)
  | [] => .ok present
  | row :: rest => do
    let defaults : SqlRow := fun column => ((table.columns.find? (·.name = column)).map (·.default)).getD .null
    let inserted := defaults.set (← evalAll row values)
    schema.admits name table inserted present
    insertEach schema name table values (present ++ [inserted]) rest

namespace SqlStatement

def missing (table : SqlTable) (columns : List String) : Option String := columns.find? (· ∉ table.names)

def change (schema : SqlSchema) : SqlStatement → Except String SqlSchema
  | createTable ifNotExists name table =>
    if (schema.tables name).isSome then
      if ifNotExists then .ok schema else .error s!"table {name} already exists"
    else if schema.hasIndex name then .error s!"there is already an index named {name}"
    else .ok { schema with tables := Function.update schema.tables name (some table) }
  | addColumn name column =>
    match schema.tables name with
    | none => .error s!"no such table: {name}"
    | some table =>
      if column.name ∈ table.names then .error s!"duplicate column name: {column.name}"
      else .ok { schema with
        tables := Function.update schema.tables name (some { table with columns := table.columns ++ [column] }) }
  | renameTable name newName =>
    match schema.tables name with
    | none => .error s!"no such table: {name}"
    | some table =>
      if (schema.tables newName).isSome || schema.hasIndex newName then
        .error s!"there is already another table or index with this name: {newName}"
      else .ok {
        tables := Function.update (Function.update schema.tables name none) newName (some table)
        indexes := schema.indexes.map fun (index, on) =>
          (index, if on.table = name then { on with table := newName } else on)
        triggers := schema.triggers.map fun (trigger, on) =>
          (trigger, if on.table = name then { on with table := newName } else on) }
  | dropTable name =>
    if (schema.tables name).isNone then .error s!"no such table: {name}"
    else .ok {
      tables := Function.update schema.tables name none
      indexes := schema.indexes.filter fun (_, index) => index.table ≠ name
      triggers := schema.triggers.filter fun (_, trigger) => trigger.table ≠ name }
  | createIndex ifNotExists name index =>
    match schema.tables index.table with
    | none => .error s!"no such table: {index.table}"
    | some table =>
      if (schema.tables name).isSome then .error s!"there is already a table named {name}"
      else if schema.hasIndex name then
        if ifNotExists then .ok schema else .error s!"index {name} already exists"
      else
        match missing table (index.columns ++ (index.unique.map SqlCondition.columns).getD []) with
        | some column => .error s!"no such column: {column}"
        | none => .ok { schema with indexes := schema.indexes ++ [(name, index)] }
  | dropIndexIfExists name => .ok { schema with indexes := schema.indexes.filter fun (index, _) => index ≠ name }
  | createTrigger ifNotExists name trigger =>
    if (schema.tables trigger.table).isNone then .error s!"no such table: {trigger.table}"
    else if schema.triggers.any (·.1 = name) then
      if ifNotExists then .ok schema else .error s!"trigger {name} already exists"
    else .ok { schema with triggers := schema.triggers ++ [(name, trigger)] }
  | update name values condition =>
    match schema.tables name with
    | none => .error s!"no such table: {name}"
    | some table =>
      match missing table (values.map (·.1) ++ columnsOf values ++ condition.columns) with
      | some column => .error s!"no such column: {column}"
      | none => .ok schema
  | insertSelect name values source =>
    match schema.tables name, schema.tables source with
    | some table, some from_ =>
      match (missing table (values.map (·.1))).or (missing from_ (columnsOf values)) with
      | some column => .error s!"no such column: {column}"
      | none => .ok schema
    | none, _ => .error s!"no such table: {name}"
    | _, none => .error s!"no such table: {source}"

def move (schema : SqlSchema) (rows : SqlRows) : SqlStatement → Except String SqlRows
  | createTable _ name _ => .ok (if (schema.tables name).isSome then rows else Function.update rows name [])
  | addColumn name column =>
    if column.notNull && column.default = .null && !(rows name).isEmpty then
      .error "Cannot add a NOT NULL column with default value NULL"
    else .ok (Function.update rows name ((rows name).map fun row => row.set [(column.name, column.default)]))
  | renameTable name newName => .ok (Function.update (Function.update rows name []) newName (rows name))
  | dropTable name => .ok (Function.update rows name [])
  | createIndex _ name index =>
    match index.unique with
    | none => .ok rows
    | some condition =>
      let covered (row : SqlRow) : Bool := condition.holds row matches .ok true
      if schema.hasIndex name || (rows index.table).Pairwise fun row other =>
          SqlSchema.collides (index.columns, covered) row other = false then .ok rows
      else .error s!"UNIQUE constraint failed: {index.table}.{index.columns}"
  | dropIndexIfExists _ => .ok rows
  | createTrigger _ _ _ => .ok rows
  | update name values condition =>
    match schema.tables name with
    | none => .error s!"no such table: {name}"
    | some table => do
      let updated ← updateEach schema name table values condition [] (rows name)
      return Function.update rows name updated
  | insertSelect name values source =>
    match schema.tables name with
    | none => .error s!"no such table: {name}"
    | some table => do
      let inserted ← insertEach schema name table values (rows name) (rows source)
      return Function.update rows name inserted

def run (statement : SqlStatement) (file : SqlFile) : Except String SqlFile := do
  let schema ← statement.change file.schema
  let rows ← statement.move file.schema file.rows
  return ⟨schema, rows⟩

/-- A batch of statements, of which the first that fails is the last. -/
def runAll (statements : List SqlStatement) (file : SqlFile) : Except String SqlFile :=
  statements.foldlM (fun file statement => statement.run file) file

end SqlStatement

namespace SqlFile

variable (promised : String → String → Prop) (may : String → String → SqlValue → SqlValue → Prop)

def RowKept (name : String) (table : SqlTable) (row after : SqlRow) : Prop :=
  ∀ column ∈ table.names, promised name column → may name column (row column) (after column)

/-- Each table is kept, with the columns that are promised and with every row in its place. -/
structure Keeps (before after : SqlFile) : Prop where
  table : ∀ name table, before.schema.tables name = some table → ∃ table', after.schema.tables name = some table' ∧
    (∀ column ∈ table.names, promised name column → column ∈ table'.names) ∧
    List.Forall₂ (RowKept promised may name table) (before.rows name) (after.rows name)

variable {promised may} {before middle after : SqlFile}

theorem Keeps.refl (same : ∀ name column value, may name column value value) (file : SqlFile) :
    Keeps promised may file file where
  table _ table found :=
    ⟨table, found, fun _ member _ => member, List.forall₂_same.mpr fun _ _ _ _ _ => same _ _ _⟩

theorem Keeps.trans (chain : ∀ name column a b c, may name column a b → may name column b c → may name column a c)
    (first : Keeps promised may before middle) (second : Keeps promised may middle after) :
    Keeps promised may before after where
  table name table found := by
    obtain ⟨table', found', columns, rows⟩ := first.table name table found
    obtain ⟨table'', found'', columns', rows'⟩ := second.table name table' found'
    refine ⟨table'', found'', fun column member held => columns' column (columns column member held) held, ?_⟩
    exact Rows.forall₂_trans (fun a b c ab bc column member held =>
      chain name column _ _ _ (ab column member held) (bc column (columns column member held) held)) rows rows'

end SqlFile

namespace SqlStatement

variable {statement : SqlStatement} {statements rest : List SqlStatement} {file after : SqlFile}

theorem run_ok : statement.run file = .ok after ↔ ∃ schema rows, statement.change file.schema = .ok schema ∧
    statement.move file.schema file.rows = .ok rows ∧ after = ⟨schema, rows⟩ := by
  unfold run
  simp only [except_bind_ok]
  constructor
  · rintro ⟨schema, changed, rows, moved, done⟩
    cases done
    exact ⟨schema, rows, changed, moved, rfl⟩
  · rintro ⟨schema, rows, changed, moved, rfl⟩
    exact ⟨schema, changed, rows, moved, rfl⟩

theorem runAll_cons : runAll (statement :: statements) file = .ok after ↔
    ∃ middle, statement.run file = .ok middle ∧ runAll statements middle = .ok after := except_bind_ok

theorem runAll_append : runAll (statements ++ rest) file = .ok after ↔
    ∃ middle, runAll statements file = .ok middle ∧ runAll rest middle = .ok after := by
  unfold runAll
  rw [List.foldlM_append]
  exact except_bind_ok

section Inversion

variable {ifNotExists : Bool} {name newName source : String} {table : SqlTable} {column : SqlColumn} {index : SqlIndex}
  {trigger : SqlTrigger} {values : List (String × SqlExpr)} {condition : SqlCondition}

theorem of_createTable (ran : (createTable ifNotExists name table).run file = .ok after) :
    ((file.schema.tables name).isSome ∧ after.schema.tables = file.schema.tables ∧ after.rows = file.rows) ∨
      (file.schema.tables name = none ∧
        after.schema.tables = Function.update file.schema.tables name (some table) ∧
        after.rows = Function.update file.rows name []) := by
  obtain ⟨schema, rows, changed, moved, rfl⟩ := run_ok.mp ran
  simp only [change] at changed
  simp only [move, Except.ok.injEq] at moved
  by_cases found : (file.schema.tables name).isSome
  · rw [if_pos found] at changed moved
    split at changed <;> cases changed
    exact .inl ⟨found, rfl, moved.symm⟩
  · rw [if_neg found] at changed moved
    split at changed <;> cases changed
    exact .inr ⟨Option.not_isSome_iff_eq_none.mp found, rfl, moved.symm⟩

theorem of_addColumn (ran : (addColumn name column).run file = .ok after) :
    ∃ table, file.schema.tables name = some table ∧ column.name ∉ table.names ∧
      after.schema.tables =
        Function.update file.schema.tables name (some { table with columns := table.columns ++ [column] }) ∧
      after.rows =
        Function.update file.rows name ((file.rows name).map fun row => row.set [(column.name, column.default)]) := by
  obtain ⟨schema, rows, changed, moved, rfl⟩ := run_ok.mp ran
  simp only [change] at changed
  simp only [move] at moved
  cases found : file.schema.tables name with
  | none => simp [found] at changed
  | some table =>
    simp only [found] at changed
    split at changed
    · cases changed
    next fresh =>
      cases changed
      split at moved <;> cases moved
      exact ⟨table, rfl, fresh, rfl, rfl⟩

theorem of_renameTable (ran : (renameTable name newName).run file = .ok after) :
    ∃ table, file.schema.tables name = some table ∧ file.schema.tables newName = none ∧
      after.schema.tables = Function.update (Function.update file.schema.tables name none) newName (some table) ∧
      after.rows = Function.update (Function.update file.rows name []) newName (file.rows name) := by
  obtain ⟨schema, rows, changed, moved, rfl⟩ := run_ok.mp ran
  simp only [change] at changed
  simp only [move, Except.ok.injEq] at moved
  cases found : file.schema.tables name with
  | none => simp [found] at changed
  | some table =>
    simp only [found] at changed
    split at changed
    · cases changed
    next free =>
      cases changed
      cases moved
      simp only [Bool.or_eq_true, not_or, Bool.not_eq_true, Option.isSome_eq_false_iff,
        Option.isNone_iff_eq_none] at free
      exact ⟨table, rfl, free.1, rfl, rfl⟩

theorem of_dropTable (ran : (dropTable name).run file = .ok after) :
    after.schema.tables = Function.update file.schema.tables name none ∧
      after.rows = Function.update file.rows name [] := by
  obtain ⟨schema, rows, changed, moved, rfl⟩ := run_ok.mp ran
  simp only [change] at changed
  simp only [move, Except.ok.injEq] at moved
  cases moved
  split at changed <;> cases changed
  exact ⟨rfl, rfl⟩

theorem of_createIndex (ran : (createIndex ifNotExists name index).run file = .ok after) :
    after.schema.tables = file.schema.tables ∧ after.rows = file.rows := by
  obtain ⟨schema, rows, changed, moved, rfl⟩ := run_ok.mp ran
  simp only [change] at changed
  simp only [move] at moved
  constructor
  · repeat' split at changed
    all_goals cases changed
    all_goals rfl
  · repeat' split at moved
    all_goals cases moved
    all_goals rfl

theorem of_createTrigger (ran : (createTrigger ifNotExists name trigger).run file = .ok after) :
    after.schema.tables = file.schema.tables ∧ after.rows = file.rows := by
  obtain ⟨schema, rows, changed, moved, rfl⟩ := run_ok.mp ran
  simp only [change] at changed
  simp only [move, Except.ok.injEq] at moved
  refine ⟨?_, moved.symm⟩
  repeat' split at changed
  all_goals cases changed
  all_goals rfl

theorem of_dropIndexIfExists (ran : (dropIndexIfExists name).run file = .ok after) :
    after.schema.tables = file.schema.tables ∧ after.rows = file.rows := by
  obtain ⟨schema, rows, changed, moved, rfl⟩ := run_ok.mp ran
  simp only [change, Except.ok.injEq] at changed
  simp only [move, Except.ok.injEq] at moved
  cases changed
  exact ⟨rfl, moved.symm⟩

theorem of_update (ran : (update name values condition).run file = .ok after) :
    ∃ table updated, file.schema.tables name = some table ∧
      updateEach file.schema name table values condition [] (file.rows name) = .ok updated ∧
      after.schema.tables = file.schema.tables ∧ after.rows = Function.update file.rows name updated := by
  obtain ⟨schema, rows, changed, moved, rfl⟩ := run_ok.mp ran
  simp only [change] at changed
  simp only [move] at moved
  cases found : file.schema.tables name with
  | none => simp [found] at changed
  | some table =>
    simp only [found] at changed moved
    split at changed
    · cases changed
    · obtain ⟨updated, each, done⟩ := except_bind_ok.mp moved
      cases changed
      cases done
      exact ⟨table, updated, rfl, each, rfl, rfl⟩

theorem of_insertSelect (ran : (insertSelect name values source).run file = .ok after) :
    ∃ table inserted, file.schema.tables name = some table ∧
      insertEach file.schema name table values (file.rows name) (file.rows source) = .ok inserted ∧
      after.schema.tables = file.schema.tables ∧ after.rows = Function.update file.rows name inserted := by
  obtain ⟨schema, rows, changed, moved, rfl⟩ := run_ok.mp ran
  simp only [change] at changed
  simp only [move] at moved
  cases found : file.schema.tables name with
  | none => simp [found] at changed
  | some table =>
    simp only [found] at changed moved
    split at changed
    next table' from' present present' =>
      split at changed
      · cases changed
      · obtain ⟨inserted, each, done⟩ := except_bind_ok.mp moved
        cases changed
        cases done
        exact ⟨table, inserted, rfl, each, rfl, rfl⟩
    · cases changed
    · cases changed

theorem of_updateEach {schema : SqlSchema} {done rows updated : List SqlRow}
    (ran : updateEach schema name table values condition done rows = .ok updated) :
    List.Forall₂ (fun row row' => row' = row ∨
      condition.holds row = .ok true ∧ ∃ set, evalAll row values = .ok set ∧ row' = row.set set) rows updated := by
  induction rows generalizing done updated with
  | nil =>
    cases ran
    exact .nil
  | cons row rows ih =>
    obtain ⟨holds, evaluated, ran⟩ := except_bind_ok.mp ran
    cases holds with
    | true =>
      rw [if_pos rfl] at ran
      cases refused : schema.refusal name .update with
      | some message => simp [refused, throw, throwThe, MonadExceptOf.throw, bind, Except.bind] at ran
      | none =>
        simp only [refused] at ran
        obtain ⟨set, valued, ran⟩ := except_bind_ok.mp ran
        obtain ⟨_, -, ran⟩ := except_bind_ok.mp ran
        obtain ⟨later, others, done⟩ := except_bind_ok.mp ran
        cases done
        exact .cons (.inr ⟨evaluated, set, valued, rfl⟩) (ih others)
    | false =>
      rw [if_neg Bool.false_ne_true] at ran
      obtain ⟨later, others, done⟩ := except_bind_ok.mp ran
      cases done
      exact .cons (.inl rfl) (ih others)

def inserted (table : SqlTable) (set : List (String × SqlValue)) : SqlRow :=
  SqlRow.set (fun column => ((table.columns.find? (·.name = column)).map (·.default)).getD .null) set

theorem of_insertEach {schema : SqlSchema} {present rows after : List SqlRow}
    (ran : insertEach schema name table values present rows = .ok after) :
    ∃ new, after = present ++ new ∧
      List.Forall₂ (fun row row' => ∃ set, evalAll row values = .ok set ∧ row' = inserted table set) rows new := by
  induction rows generalizing present with
  | nil =>
    cases ran
    exact ⟨[], by simp, .nil⟩
  | cons row rows ih =>
    obtain ⟨set, valued, ran⟩ := except_bind_ok.mp ran
    obtain ⟨_, -, ran⟩ := except_bind_ok.mp ran
    obtain ⟨new, same, related⟩ := ih ran
    exact ⟨inserted table set :: new, by simpa [inserted] using same, .cons ⟨set, valued, rfl⟩ related⟩

end Inversion

def adds : SqlStatement → Bool
  | createTable _ _ _ | addColumn _ _ | createIndex _ _ _ | dropIndexIfExists _ | createTrigger _ _ _ => true
  | _ => false

/-- The statements that rebuild a table, by way of another name for it. -/
def rebuild (name byTheWay : String) (table : SqlTable) (values : List (String × SqlExpr)) : List SqlStatement :=
  [renameTable name byTheWay, createTable false name table, insertSelect name values byTheWay, dropTable byTheWay]

section Keeping

variable (promised : String → String → Prop) (may : String → String → SqlValue → SqlValue → Prop)

def UpdatesAsMay (name : String) (values : List (String × SqlExpr)) (condition : SqlCondition) : Prop :=
  ∀ row set column, condition.holds row = .ok true → evalAll row values = .ok set → promised name column →
    may name column (row column) (row.set set column)

structure Copies (name : String) (table : SqlTable) (values : List (String × SqlExpr)) : Prop where
  columns : ∀ column, promised name column → column ∈ table.names
  values : ∀ row set column, evalAll row values = .ok set → promised name column →
    may name column (row column) (inserted table set column)

/-- Batches that add to a file, update columns as they may change, and rebuild tables of copies. -/
inductive Careful : List SqlStatement → Prop
  | nil : Careful []
  | add {statement : SqlStatement} {rest : List SqlStatement} (adds : statement.adds = true) (careful : Careful rest) :
    Careful (statement :: rest)
  | update {name : String} {values : List (String × SqlExpr)} {condition : SqlCondition} {rest : List SqlStatement}
    (updates : UpdatesAsMay promised may name values condition) (careful : Careful rest) :
    Careful (.update name values condition :: rest)
  | rebuild {name byTheWay : String} {table : SqlTable} {values : List (String × SqlExpr)} {rest : List SqlStatement}
    (copies : Copies promised may name table values) (careful : Careful rest) :
    Careful (SqlStatement.rebuild name byTheWay table values ++ rest)

variable {promised may} (same : ∀ name column value, may name column value value)

include same

theorem keeps_of_changed {name : String}
    (others : ∀ other ≠ name, ∀ table, file.schema.tables other = some table →
      after.schema.tables other = some table ∧ after.rows other = file.rows other)
    (changed : ∀ table, file.schema.tables name = some table → ∃ table', after.schema.tables name = some table' ∧
      (∀ column ∈ table.names, promised name column → column ∈ table'.names) ∧
      List.Forall₂ (SqlFile.RowKept promised may name table) (file.rows name) (after.rows name)) :
    SqlFile.Keeps promised may file after where
  table other table found := by
    by_cases named : other = name
    · subst named
      exact changed table found
    · obtain ⟨found', rows⟩ := others other named table found
      rw [found', rows]
      exact ⟨table, rfl, fun _ member _ => member, List.forall₂_same.mpr fun _ _ _ _ _ => same _ _ _⟩

theorem keeps_of_same (unchanged : after.schema.tables = file.schema.tables ∧ after.rows = file.rows) :
    SqlFile.Keeps promised may file after where
  table name table found := by
    rw [unchanged.1, unchanged.2]
    exact (SqlFile.Keeps.refl same file).table name table found

theorem keeps_of_adds (adds : statement.adds = true) (ran : statement.run file = .ok after) :
    SqlFile.Keeps promised may file after := by
  cases statement with
  | createTable ifNotExists name table =>
    rcases of_createTable ran with ⟨-, unchanged⟩ | ⟨free, tables, rows⟩
    · exact keeps_of_same same unchanged
    · refine @keeps_of_changed _ _ _ _ same name (fun other apart table found => ?_) fun table found => ?_
      · rw [tables, rows, Function.update_of_ne apart, Function.update_of_ne apart]
        exact ⟨found, rfl⟩
      · rw [free] at found
        cases found
  | addColumn name column =>
    obtain ⟨table, found, fresh, tables, rows⟩ := of_addColumn ran
    refine @keeps_of_changed _ _ _ _ same name (fun other apart table found => ?_) fun table' found' => ?_
    · rw [tables, rows, Function.update_of_ne apart, Function.update_of_ne apart]
      exact ⟨found, rfl⟩
    · rw [found] at found'
      cases found'
      rw [tables, rows, Function.update_self, Function.update_self, List.forall₂_map_right_iff]
      refine ⟨_, rfl, fun other member _ => ?_, List.forall₂_same.mpr fun row _ other member _ => ?_⟩
      · unfold SqlTable.names
        rw [List.map_append]
        exact List.mem_append_left _ member
      · have apart : other ≠ column.name := fun known => fresh (known ▸ member)
        rw [SqlRow.set_cons, if_neg apart]
        exact same _ _ _
  | createIndex => exact keeps_of_same same (of_createIndex ran)
  | dropIndexIfExists => exact keeps_of_same same (of_dropIndexIfExists ran)
  | createTrigger => exact keeps_of_same same (of_createTrigger ran)
  | renameTable | dropTable | update | insertSelect => cases adds

theorem keeps_of_update {name : String} {values : List (String × SqlExpr)} {condition : SqlCondition}
    (updates : UpdatesAsMay promised may name values condition)
    (ran : (update name values condition).run file = .ok after) : SqlFile.Keeps promised may file after := by
  obtain ⟨table, updated, found, each, tables, rows⟩ := of_update ran
  refine @keeps_of_changed _ _ _ _ same name (fun other apart table found => ?_) fun table' found' => ?_
  · rw [tables, rows, Function.update_of_ne apart]
    exact ⟨found, rfl⟩
  · rw [tables, rows, Function.update_self]
    refine ⟨table', found', fun _ member _ => member, (of_updateEach each).imp fun row row' changed column _ held => ?_⟩
    rcases changed with rfl | ⟨holds, set, valued, rfl⟩
    · exact same _ _ _
    · exact updates row set column holds valued held

theorem keeps_of_rebuild {name byTheWay : String} {table : SqlTable} {values : List (String × SqlExpr)}
    (copies : Copies promised may name table values)
    (ran : runAll (rebuild name byTheWay table values) file = .ok after) : SqlFile.Keeps promised may file after := by
  obtain ⟨renamed, first, ran⟩ := runAll_cons.mp ran
  obtain ⟨created, second, ran⟩ := runAll_cons.mp ran
  obtain ⟨filled, third, ran⟩ := runAll_cons.mp ran
  obtain ⟨dropped, fourth, ran⟩ := runAll_cons.mp ran
  cases ran
  obtain ⟨old, found, free, renamedTables, renamedRows⟩ := of_renameTable first
  have apart : name ≠ byTheWay := fun named => by
    rw [named, free] at found
    cases found
  have gone : renamed.schema.tables name = none := by
    rw [renamedTables, Function.update_of_ne apart, Function.update_self]
  rcases of_createTable second with ⟨present, -⟩ | ⟨-, createdTables, createdRows⟩
  · rw [gone] at present
    cases present
  · obtain ⟨table', new, found', each, filledTables, filledRows⟩ := of_insertSelect third
    obtain ⟨droppedTables, droppedRows⟩ := of_dropTable fourth
    rw [createdTables, Function.update_self] at found'
    cases found'
    refine @keeps_of_changed _ _ _ _ same name (fun other different kept present => ?_) fun kept present => ?_
    · have others : other ≠ byTheWay := fun named => by
        rw [named, free] at present
        cases present
      rw [droppedTables, filledTables, createdTables, renamedTables, droppedRows, filledRows, createdRows, renamedRows]
      simp only [Function.update_of_ne others, Function.update_of_ne different]
      exact ⟨present, trivial⟩
    · obtain ⟨inserted, all, related⟩ := of_insertEach each
      rw [createdRows, Function.update_self, List.nil_append] at all
      rw [createdRows, Function.update_of_ne apart.symm, renamedRows, Function.update_self] at related
      rw [droppedTables, filledTables, createdTables, droppedRows, filledRows, Function.update_of_ne apart,
        Function.update_self, Function.update_of_ne apart, Function.update_self, all]
      refine ⟨table, rfl, fun column _ held => copies.columns column held, related.imp ?_⟩
      rintro row row' ⟨set, valued, rfl⟩ column - held
      exact copies.values row set column valued held

variable (chain : ∀ name column a b c, may name column a b → may name column b c → may name column a c)

include chain

theorem Careful.keeps (careful : Careful promised may statements) (ran : runAll statements file = .ok after) :
    SqlFile.Keeps promised may file after := by
  induction careful generalizing file with
  | nil =>
    cases ran
    exact .refl same _
  | add adds careful ih =>
    obtain ⟨middle, first, ran⟩ := runAll_cons.mp ran
    exact (keeps_of_adds same adds first).trans chain (ih ran)
  | update updates careful ih =>
    obtain ⟨middle, first, ran⟩ := runAll_cons.mp ran
    exact (keeps_of_update same updates first).trans chain (ih ran)
  | rebuild copies careful ih =>
    obtain ⟨middle, first, ran⟩ := runAll_append.mp ran
    exact (keeps_of_rebuild same copies first).trans chain (ih ran)

end Keeping

end SqlStatement
