import Mathlib.Data.List.Induction

/-! Runs of a system that is driven by a list of inputs. -/

namespace Transition

universe u v

variable {σ : Type u} {α : Type v} {next : σ → α → σ} {P Q : σ → α → Prop} {Inv : σ → Prop} {s : σ} {items : List α}

def run (next : σ → α → σ) (s : σ) (items : List α) : σ := items.foldl next s

/-- A relation between each input of a run and the state that it meets. -/
def EachStep (next : σ → α → σ) (P : σ → α → Prop) : σ → List α → Prop
  | _, [] => True
  | s, a :: items => P s a ∧ EachStep next P (next s a) items

instance EachStep.decidable [∀ s a, Decidable (P s a)] : ∀ s items, Decidable (EachStep next P s items)
  | _, [] => inferInstanceAs (Decidable True)
  | s, a :: items =>
    have := EachStep.decidable (next s a) items
    inferInstanceAs (Decidable (P s a ∧ EachStep next P (next s a) items))

theorem run_append (s : σ) (before later : List α) :
    run next s (before ++ later) = run next (run next s before) later := by
  unfold run
  rw [List.foldl_append]

theorem eachStep_append {before later : List α} :
    EachStep next P s (before ++ later) ↔ EachStep next P s before ∧ EachStep next P (run next s before) later := by
  induction before generalizing s with
  | nil => exact ⟨fun each => ⟨trivial, each⟩, fun both => both.2⟩
  | cons a before ih =>
    rw [List.cons_append, EachStep, EachStep, ih, and_assoc]
    rfl

theorem run_invariant (step : ∀ s a, Inv s → Inv (next s a)) (start : Inv s) (items : List α) :
    Inv (run next s items) := by
  induction items generalizing s with
  | nil => exact start
  | cons a items ih => exact ih (step s a start)

theorem EachStep.of_invariant (step : ∀ s a, Inv s → Inv (next s a)) (holds : ∀ s a, Inv s → P s a) (start : Inv s)
    (items : List α) : EachStep next P s items := by
  induction items generalizing s with
  | nil => trivial
  | cons a items ih => exact ⟨holds s a start, ih (step s a start)⟩

theorem EachStep.invariant (step : ∀ s a, Inv s → P s a → Inv (next s a)) (start : Inv s)
    (each : EachStep next P s items) : Inv (run next s items) := by
  induction items generalizing s with
  | nil => exact start
  | cons a items ih => exact ih (step s a start each.1) each.2

/-- Two relations that agree wherever an invariant holds, as long as they keep it, agree on whole runs. -/
theorem eachStep_iff (agree : ∀ s a, Inv s → (P s a ↔ Q s a)) (step : ∀ s a, Inv s → Q s a → Inv (next s a))
    (start : Inv s) : EachStep next P s items ↔ EachStep next Q s items := by
  induction items generalizing s with
  | nil => exact Iff.rfl
  | cons a items ih =>
    have here := agree s a start
    constructor
    · rintro ⟨now, later⟩
      have also := here.mp now
      exact ⟨also, (ih (step s a start also)).mp later⟩
    · rintro ⟨now, later⟩
      exact ⟨here.mpr now, (ih (step s a start now)).mpr later⟩

/-- What holds of every front of a run, where one step keeps it exactly under its condition. -/
theorem fronts_iff {P : List α → Prop} {C : List α → α → Prop} (start : P [])
    (step : ∀ past a future, items = past ++ a :: future → P past → (P (past ++ [a]) ↔ C past a)) :
    (∀ past future, items = past ++ future → P past) ↔ ∀ past a future, items = past ++ a :: future → C past a := by
  constructor
  · intro all past a future split
    have after := all (past ++ [a]) future (by simp [split])
    exact (step past a future split (all past (a :: future) split)).mp after
  · intro each past
    induction past using List.reverseRecOn with
    | nil => exact fun _ _ => start
    | append_singleton past a ih =>
      intro future split
      have here : items = past ++ a :: future := by simp [split]
      exact (step past a future here (ih (a :: future) here)).mpr (each past a future here)

theorem fronts_of_take {C : List α → α → Prop} (each : ∀ k < items.length, ∀ a ∈ items[k]?, C (items.take k) a)
    (past : List α) (a : α) (future : List α) (split : items = past ++ a :: future) : C past a := by
  subst split
  have here := each past.length (by simp) a (by simp)
  rwa [List.take_left] at here

end Transition
