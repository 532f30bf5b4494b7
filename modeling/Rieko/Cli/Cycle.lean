import Rieko.Detectors.Registry
import Rieko.Lib.Ladder
import Rieko.Recommendations.Evidence
import Rieko.Storage.Types

namespace Rieko

open StatefulResult

/-- The outside of a run: library functions, the clock and the source of fresh ids, by number of draw. -/
structure CycleEnv where
  ext : External
  clock : Nat → DateTime
  uuid : Nat → String

structure World (σ : Type) where
  storage : σ
  ticks : Nat := 0
  ids : Nat := 0

inductive CycleFailure where
  | storage (error : StorageError)
  | operational (error : OperationalStateError)
  | recommendation (error : RecommendationEngineError)
  | detector (error : DetectorError)
  | ingestion (message : String)
deriving DecidableEq, Repr

/-- An error with the contexts attached on its way up, the outermost first. -/
structure CycleError where
  context : List String
  cause : CycleFailure
deriving DecidableEq, Repr

abbrev CycleM (σ : Type) := EStateM CycleError (World σ)

namespace CycleM

variable {σ α ε : Type}

def lift (failure : ε → CycleError) (program : EStateM ε σ α) : CycleM σ α := fun w =>
  match program w.storage with
  | .ok a storage => .ok a { w with storage }
  | .error e storage => .error (failure e) { w with storage }

def storage (program : EStateM StorageError σ α) : CycleM σ α := lift (fun e => ⟨[], .storage e⟩) program

def operational (program : EStateM OperationalStateError σ α) : CycleM σ α :=
  lift (fun e => ⟨[], .operational e⟩) program

def operationalAsBackend (program : EStateM OperationalStateError σ α) : CycleM σ α :=
  lift (fun
    | .store message => ⟨[], .storage (.backend s!"operational state storage failure: {message}")⟩) program

def mapError (f : CycleError → CycleError) (program : CycleM σ α) : CycleM σ α := fun w =>
  match program w with
  | .ok a w' => .ok a w'
  | .error e w' => .error (f e) w'

def addContext (context : String) (e : CycleError) : CycleError := { e with context := context :: e.context }

def now (env : CycleEnv) : CycleM σ DateTime := fun w =>
  .ok (env.clock w.ticks) { w with ticks := w.ticks + 1 }

def freshId (env : CycleEnv) : CycleM σ String := fun w => .ok (env.uuid w.ids) { w with ids := w.ids + 1 }

def transacted [Storage σ] (opening closing : CycleError → CycleError) (body : CycleM σ α) : CycleM σ α :=
  ladder (mapError opening (storage Storage.beginTransaction))
    (mapError closing (storage Storage.commitTransaction)) (storage Storage.rollbackTransaction) body

theorem lift_ok {failure : ε → CycleError} {program : EStateM ε σ α} {w w' : World σ} {a : α} :
    lift failure program w = .ok a w' ↔ ∃ s, program w.storage = .ok a s ∧ w' = { w with storage := s } := by
  unfold lift
  cases program w.storage <;> simp [eq_comm]

theorem lift_error {failure : ε → CycleError} {program : EStateM ε σ α} {w w' : World σ} {e : CycleError} :
    lift failure program w = .error e w' ↔
      ∃ reason s, program w.storage = .error reason s ∧ e = failure reason ∧ w' = { w with storage := s } := by
  unfold lift
  cases program w.storage <;> simp [eq_comm]

theorem mapError_ok {f : CycleError → CycleError} {program : CycleM σ α} {w w' : World σ} {a : α} :
    mapError f program w = .ok a w' ↔ program w = .ok a w' := by
  unfold mapError
  cases program w <;> simp

theorem mapError_error {f : CycleError → CycleError} {program : CycleM σ α} {w w' : World σ} {e : CycleError} :
    mapError f program w = .error e w' ↔ ∃ reason, program w = .error reason w' ∧ e = f reason := by
  unfold mapError
  cases program w <;> simp [eq_comm, and_comm]

theorem now_ok {env : CycleEnv} {w w' : World σ} {now : DateTime} :
    CycleM.now env w = .ok now w' ↔ now = env.clock w.ticks ∧ w' = { w with ticks := w.ticks + 1 } := by
  simp [CycleM.now, eq_comm]

section Preserves

variable {property : σ → Prop}

theorem lift_preserves {failure : ε → CycleError} {program : EStateM ε σ α}
    (kept : Preserves property program) : Preserves (property ·.storage) (lift failure program) := by
  intro w held
  have ended := kept w.storage held
  unfold final at ended ⊢
  unfold lift
  cases result : program w.storage <;> rw [result] at ended <;> exact ended

theorem mapError_preserves {property : World σ → Prop} {f : CycleError → CycleError} {program : CycleM σ α}
    (kept : Preserves property program) : Preserves property (mapError f program) := by
  intro w held
  have ended := kept w held
  unfold final at ended ⊢
  unfold mapError
  cases result : program w <;> rw [result] at ended <;> exact ended

theorem now_preserves {env : CycleEnv} : Preserves (property ·.storage) (CycleM.now (σ := σ) env) :=
  fun _ held => held

theorem freshId_preserves {env : CycleEnv} : Preserves (property ·.storage) (freshId (σ := σ) env) :=
  fun _ held => held

end Preserves

theorem mapError_storage_eq (f : CycleError → CycleError) (program : EStateM StorageError σ α) (w : World σ) :
    mapError f (storage program) w = match program w.storage with
      | .ok a s => .ok a { w with storage := s }
      | .error e s => .error (f ⟨[], .storage e⟩) { w with storage := s } := by
  unfold mapError storage lift
  cases program w.storage <;> rfl

theorem final_storage (program : EStateM StorageError σ α) (w : World σ) :
    final (storage program) w = { w with storage := final program w.storage } := by
  unfold final storage lift
  cases program w.storage <;> rfl

theorem mapError_storage_ends {f : CycleError → CycleError} {program : EStateM StorageError σ α} {w : World σ}
    {done : α → σ → Prop} {failed : σ → Prop} (ends : Ends done failed program w.storage) :
    Ends (fun a w' => done a w'.storage) (fun w' => failed w'.storage) (mapError f (storage program)) w := by
  unfold Ends at *
  rw [mapError_storage_eq]
  cases result : program w.storage <;> rw [result] at ends <;> exact ends

section Brackets

variable [Storage σ] {idle : σ → Prop}

theorem world_brackets {begun : σ → Prop} (opening closing : CycleError → CycleError)
    (brackets : Brackets idle begun (Storage.beginTransaction (σ := σ)) Storage.commitTransaction
      Storage.rollbackTransaction) :
    Brackets (fun w : World σ => idle w.storage) (fun w => begun w.storage)
      (mapError opening (storage Storage.beginTransaction)) (mapError closing (storage Storage.commitTransaction))
      (storage Storage.rollbackTransaction) where
  opens w held := by
    have step := brackets.opens w.storage held
    rw [mapError_storage_eq]
    cases result : Storage.beginTransaction (σ := σ) w.storage <;> rw [result] at step <;> exact step
  closes w held := by
    have step := brackets.closes w.storage held
    rw [mapError_storage_eq]
    cases result : Storage.commitTransaction (σ := σ) w.storage <;> rw [result] at step <;> exact step
  undoes w held := by
    rw [final_storage]
    exact brackets.undoes w.storage held

theorem world_atomic {δ : Type} {view : σ → δ} {begun : δ → σ → Prop} (opening closing : CycleError → CycleError)
    (brackets : AtomicBrackets view idle begun (Storage.beginTransaction (σ := σ)) Storage.commitTransaction
      Storage.rollbackTransaction) :
    AtomicBrackets (fun w : World σ => view w.storage) (fun w => idle w.storage) (fun saved w => begun saved w.storage)
      (mapError opening (storage Storage.beginTransaction)) (mapError closing (storage Storage.commitTransaction))
      (storage Storage.rollbackTransaction) where
  opens w held := mapError_storage_ends (brackets.opens w.storage held)
  closes saved w held := mapError_storage_ends (brackets.closes saved w.storage held)
  undoes saved w held := by
    rw [final_storage]
    exact brackets.undoes saved w.storage held

end Brackets

end CycleM

end Rieko
