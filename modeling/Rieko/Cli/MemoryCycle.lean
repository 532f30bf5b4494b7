import Rieko.Cli.InsideTransaction
import Rieko.Storage.CycleHistory
import Rieko.Storage.MemoryRecords

namespace Rieko

open StatefulResult CycleM

namespace World

def withStorage {σ : Type} (w : World σ) (storage : σ) : World σ := { w with storage }

def begun (w : World MemoryStorage) : World MemoryStorage :=
  w.withStorage { w.storage with transactionSnapshot := some w.storage.snapshot }

def committed (w : World MemoryStorage) : World MemoryStorage :=
  w.withStorage { w.storage with transactionSnapshot := none }

def rolledBack (w : World MemoryStorage) (saved : MemoryStorageState) : World MemoryStorage :=
  w.withStorage (w.storage.restore saved)

end World

def closed {α : Type} (saved : MemoryStorageState) :
    EStateM.Result CycleError (World MemoryStorage) α → EStateM.Result CycleError (World MemoryStorage) α
  | .ok a w => .ok a w.committed
  | .error e w => .error e (w.rolledBack saved)

def InTransaction (saved : MemoryStorageState) (s : MemoryStorage) : Prop := s.transactionSnapshot = some saved

namespace CycleM

variable {α : Type} {opening closing : CycleError → CycleError} {body : CycleM MemoryStorage α}
  {w w' : World MemoryStorage}

theorem begins (idle : w.storage.transactionSnapshot = none) :
    storage (Storage.beginTransaction (σ := MemoryStorage)) w = .ok () w.begun :=
  lift_ok.mpr ⟨_, MemoryStorage.beginTransaction_ok.mpr ⟨idle, rfl⟩, rfl⟩

theorem refused (busy : w.storage.transactionSnapshot ≠ none) :
    storage (Storage.beginTransaction (σ := MemoryStorage)) w =
      .error ⟨[], .storage (.backend "nested transaction attempted")⟩ w := by
  obtain ⟨saved, begun⟩ := Option.ne_none_iff_exists'.mp busy
  refine lift_error.mpr ⟨.backend "nested transaction attempted", w.storage, ?_, rfl, rfl⟩
  show MemoryStorage.beginTransaction w.storage = _
  rw [MemoryStorage.beginTransaction, begun]

theorem commits {saved : MemoryStorageState} (begun : InTransaction saved w.storage) :
    storage (Storage.commitTransaction (σ := MemoryStorage)) w = .ok () w.committed := by
  have begun : w.storage.transactionSnapshot ≠ none := by rw [show _ = some saved from begun]; simp
  exact lift_ok.mpr ⟨_, MemoryStorage.commitTransaction_ok.mpr ⟨begun, rfl⟩, rfl⟩

theorem rollsBack {saved : MemoryStorageState} (begun : InTransaction saved w.storage) :
    final (storage (Storage.rollbackTransaction (σ := MemoryStorage))) w = w.rolledBack saved := by
  have ran : MemoryStorage.rollbackTransaction w.storage = .ok () (w.storage.restore saved) := by
    unfold MemoryStorage.rollbackTransaction
    rw [show w.storage.transactionSnapshot = some saved from begun]
  unfold final
  rw [show storage (Storage.rollbackTransaction (σ := MemoryStorage)) w = .ok () (w.rolledBack saved) from
    lift_ok.mpr ⟨_, ran, rfl⟩]

theorem transacted_busy (busy : w.storage.transactionSnapshot ≠ none) :
    transacted opening closing body w =
      .error (opening ⟨[], .storage (.backend "nested transaction attempted")⟩) w := by
  unfold transacted
  rw [ladder_eq, mapError_error.mpr ⟨_, refused busy, rfl⟩]

/-- Over a store without failures of its own the ladder commits what its body did, or restores what was
    stored before it. -/
theorem transacted_memory (idle : w.storage.transactionSnapshot = none)
    (stays : ∀ saved, Preserves (fun w => InTransaction saved w.storage) body) :
    transacted opening closing body w = closed w.storage.snapshot (body w.begun) := by
  have held : InTransaction w.storage.snapshot (final body w.begun).storage :=
    stays w.storage.snapshot w.begun rfl
  unfold final at held
  unfold transacted
  rw [ladder_eq, mapError_ok.mpr (begins idle)]
  dsimp only
  cases result : body w.begun with
  | ok a m =>
    rw [result] at held
    dsimp only
    rw [mapError_ok.mpr (commits held)]
    rfl
  | error e m =>
    rw [result] at held
    dsimp only
    rw [rollsBack held]
    rfl

end CycleM

namespace MemoryStorage

theorem writesKeep (saved : MemoryStorageState) : WritesKeep (InTransaction saved) :=
  writesKeep_of_stable fun _ _ same held => same.transaction.trans held

end MemoryStorage

end Rieko
