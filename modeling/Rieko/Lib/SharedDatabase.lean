import Mathlib.Logic.Basic

/-! A database that several connections share. At most one of them is inside a write transaction, with its
    own view of the tables; the others see what is committed. -/

/-- The open write transaction, how far its owner has got with it and the tables that it sees. -/
structure WriteTransaction (Tables Work : Type) where
  owner : Nat
  work : Work
  tables : Tables

structure SharedDatabase (Tables Work : Type) where
  committed : Tables
  writer : Option (WriteTransaction Tables Work) := none

namespace SharedDatabase

variable {Tables Work : Type}

/-- Takes the write lock. While another connection holds it there is no next state. -/
def begin (owner : Nat) (work : Work) (db : SharedDatabase Tables Work) : Option (SharedDatabase Tables Work) :=
  match db.writer with
  | none => some { db with writer := some ⟨owner, work, db.committed⟩ }
  | some _ => none

def proceed (tx : WriteTransaction Tables Work) (work : Work) (tables : Tables)
    (db : SharedDatabase Tables Work) : SharedDatabase Tables Work :=
  { db with writer := some { tx with work, tables } }

def commit (tx : WriteTransaction Tables Work) (_ : SharedDatabase Tables Work) : SharedDatabase Tables Work :=
  { committed := tx.tables, writer := none }

def rollback (db : SharedDatabase Tables Work) : SharedDatabase Tables Work := { db with writer := none }

def ownedBy (db : SharedDatabase Tables Work) (owner : Nat) : Option (WriteTransaction Tables Work) :=
  db.writer.filter (·.owner = owner)

theorem begin_eq_some {owner : Nat} {work : Work} {db db' : SharedDatabase Tables Work} :
    db.begin owner work = some db' ↔
      db.writer = none ∧ db' = { db with writer := some ⟨owner, work, db.committed⟩ } := by
  unfold begin
  cases db.writer <;> simp [eq_comm]

theorem ownedBy_eq_some {db : SharedDatabase Tables Work} {owner : Nat} {tx : WriteTransaction Tables Work} :
    db.ownedBy owner = some tx ↔ db.writer = some tx ∧ tx.owner = owner := by
  simp [ownedBy, Option.filter_eq_some_iff]

end SharedDatabase
