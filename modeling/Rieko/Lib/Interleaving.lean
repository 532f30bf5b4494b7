import Rieko.Lib.Transition
import Mathlib.Data.List.Basic

/-! Interleaved updates of a shared state, each of which belongs to the owner of one part of it. -/

namespace Interleaving

open Transition

universe u v w x

variable {σ : Type u} {α : Type v} {ι : Type w} {π : ι → Type x} [DecidableEq ι]

/-- An update changes the part of its owner, by that part alone, and no other part. -/
structure Separate (part : (i : ι) → σ → π i) (owner : α → ι) (next : σ → α → σ) : Prop where
  own : ∀ a s t, part (owner a) s = part (owner a) t → part (owner a) (next s a) = part (owner a) (next t a)
  others : ∀ a s i, i ≠ owner a → part i (next s a) = part i s

variable {part : (i : ι) → σ → π i} {owner : α → ι} {next : σ → α → σ}

theorem Separate.part_eq (separate : Separate part owner next) {i : ι} {s t : σ} (same : part i s = part i t)
    (items : List α) : part i (run next s items) = part i (run next t (items.filter (owner · = i))) := by
  induction items generalizing s t with
  | nil => exact same
  | cons a items ih =>
    by_cases mine : owner a = i
    · have kept : (a :: items).filter (owner · = i) = a :: items.filter (owner · = i) :=
        List.filter_cons_of_pos (by simpa using mine)
      rw [kept]
      subst mine
      exact ih (separate.own a s t same)
    · have dropped : (a :: items).filter (owner · = i) = items.filter (owner · = i) :=
        List.filter_cons_of_neg (by simpa using mine)
      rw [dropped]
      exact ih ((separate.others a s i (Ne.symm mine)).trans same)

/-- A part of the shared state is what the updates of its owner alone, in their order, make of it. -/
theorem Separate.part_run (separate : Separate part owner next) (i : ι) (s : σ) (items : List α) :
    part i (run next s items) = part i (run next s (items.filter (owner · = i))) :=
  separate.part_eq rfl items

end Interleaving
