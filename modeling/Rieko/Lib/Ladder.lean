import Rieko.Lib.StatefulResult

/-! Transactions written out as a ladder: open, run a body, then close, or undo when the body or the close
    fails. -/

namespace StatefulResult

universe u

variable {ε σ α : Type u} {opening closing undo : EStateM ε σ PUnit} {body : EStateM ε σ α}

/-- Closes, and undoes where that fails. -/
def closeOrUndo (closing undo : EStateM ε σ PUnit) : EStateM ε σ PUnit := do
  match ← attempt closing with
  | .ok _ => pure ⟨⟩
  | .error e =>
    discard (attempt undo)
    throw e

def ladder (opening closing undo : EStateM ε σ PUnit) (body : EStateM ε σ α) : EStateM ε σ α := do
  opening
  match ← attempt body with
  | .ok a =>
    closeOrUndo closing undo
    return a
  | .error e =>
    discard (attempt undo)
    throw e

theorem closeOrUndo_eq (closing undo : EStateM ε σ PUnit) (s : σ) :
    closeOrUndo closing undo s =
      match closing s with
      | .ok _ s => .ok ⟨⟩ s
      | .error e s => .error e (final undo s) := by
  unfold closeOrUndo
  cases closed : closing s with
  | ok u m =>
    rw [bind_of_ok (attempt_of_ok closed)]
    rfl
  | error e m =>
    rw [bind_of_ok (attempt_of_error closed)]
    dsimp only
    rw [bind_of_ok (discard_attempt _ m)]
    rfl

theorem Preserves.closeOrUndo {property : σ → Prop} {closing undo : EStateM ε σ PUnit}
    (closes : Preserves property closing) (undoes : Preserves property undo) :
    Preserves property (StatefulResult.closeOrUndo closing undo) := by
  intro s held
  have closed := closes s held
  unfold final at closed ⊢
  rw [closeOrUndo_eq]
  cases ended : closing s with
  | ok u m =>
    rw [ended] at closed
    exact closed
  | error e m =>
    rw [ended] at closed
    exact undoes m closed

theorem ladder_eq (opening closing undo : EStateM ε σ PUnit) (body : EStateM ε σ α) (s : σ) :
    ladder opening closing undo body s =
      match opening s with
      | .error e s => .error e s
      | .ok _ s =>
        match body s with
        | .error e s => .error e (final undo s)
        | .ok a s =>
          match closing s with
          | .ok _ s => .ok a s
          | .error e s => .error e (final undo s) := by
  unfold ladder
  cases opened : opening s with
  | error e m => rw [bind_of_error opened]
  | ok u m =>
    rw [bind_of_ok opened]
    dsimp only
    cases ran : body m with
    | error e m' =>
      rw [bind_of_ok (attempt_of_error ran)]
      dsimp only
      rw [bind_of_ok (discard_attempt _ m')]
      rfl
    | ok a m' =>
      rw [bind_of_ok (attempt_of_ok ran)]
      dsimp only
      have last := closeOrUndo_eq closing undo m'
      cases closed : closing m' with
      | ok u end' =>
        rw [closed] at last
        exact bind_of_ok last _
      | error e end' =>
        rw [closed] at last
        exact bind_of_error last _

theorem ladder_ok {opening closing undo : EStateM ε σ PUnit} {body : EStateM ε σ α} {s s' : σ} {a : α} :
    ladder opening closing undo body s = .ok a s' ↔
      ∃ m m', opening s = .ok ⟨⟩ m ∧ body m = .ok a m' ∧ closing m' = .ok ⟨⟩ s' := by
  rw [ladder_eq]
  constructor
  · intro ended
    cases opened : opening s with
    | error e m => simp [opened] at ended
    | ok u m =>
      cases ran : body m with
      | error e m' => simp [opened, ran] at ended
      | ok b m' =>
        cases closed : closing m' with
        | error e m'' => simp [opened, ran, closed] at ended
        | ok v m'' =>
          simp only [opened, ran, closed] at ended
          cases ended
          exact ⟨m, m', rfl, ran, closed⟩
  · rintro ⟨m, m', opened, ran, closed⟩
    simp only [opened, ran, closed]

/-- Steps that move between idle and begun: a failing close leaves the transaction to be undone. -/
structure Brackets (idle begun : σ → Prop) (opening closing undo : EStateM ε σ PUnit) : Prop where
  opens : ∀ s, idle s → match opening s with
    | .ok _ s' => begun s'
    | .error _ s' => idle s'
  closes : ∀ s, begun s → match closing s with
    | .ok _ s' => idle s'
    | .error _ s' => begun s'
  undoes : ∀ s, begun s → idle (final undo s)

namespace Brackets

variable {idle begun : σ → Prop}

theorem closeOrUndo_idle (brackets : Brackets idle begun opening closing undo) {s : σ} (held : begun s) :
    idle (final (closeOrUndo closing undo) s) := by
  have closed := brackets.closes s held
  unfold final
  rw [closeOrUndo_eq]
  cases last : closing s with
  | ok u m =>
    rw [last] at closed
    exact closed
  | error e m =>
    rw [last] at closed
    exact brackets.undoes m closed

theorem adapt {ε' : Type u} (brackets : Brackets idle begun opening closing undo) (f : ε → ε') :
    Brackets idle begun (opening.adaptExcept f) (closing.adaptExcept f) (undo.adaptExcept f) where
  opens s held := by
    have step := brackets.opens s held
    cases result : opening s with
    | ok u m =>
      rw [result] at step
      simp only [adapt_of_ok result]
      exact step
    | error e m =>
      rw [result] at step
      simp only [adapt_of_error result]
      exact step
  closes s held := by
    have step := brackets.closes s held
    cases result : closing s with
    | ok u m =>
      rw [result] at step
      simp only [adapt_of_ok result]
      exact step
    | error e m =>
      rw [result] at step
      simp only [adapt_of_error result]
      exact step
  undoes s held := by
    rw [final_adapt]
    exact brackets.undoes s held

theorem ladder_idle (brackets : Brackets idle begun opening closing undo) (keeps : Preserves begun body) :
    Preserves idle (ladder opening closing undo body) := by
  intro s held
  have opened := brackets.opens s held
  unfold ladder
  rw [final_bind]
  cases first : opening s with
  | error e m =>
    rw [first] at opened
    exact opened
  | ok u m =>
    rw [first] at opened
    have ran := keeps m opened
    unfold final at ran
    dsimp only
    rw [final_bind]
    cases middle : body m with
    | error e m' =>
      rw [middle] at ran
      rw [attempt_of_error middle]
      dsimp only
      rw [final_bind, discard_attempt]
      exact brackets.undoes m' ran
    | ok a m' =>
      rw [middle] at ran
      rw [attempt_of_ok middle]
      have settled := brackets.closeOrUndo_idle ran
      dsimp only
      unfold final at settled
      rw [final_bind]
      cases last : closeOrUndo closing undo m' <;> rw [last] at settled <;> exact settled

end Brackets

/-- Brackets of a transaction, over what a view shows of a state: undoing shows what was there at the opening. -/
structure AtomicBrackets {δ : Type u} (view : σ → δ) (idle : σ → Prop) (begun : δ → σ → Prop)
    (opening closing undo : EStateM ε σ PUnit) : Prop where
  opens : ∀ s, idle s → Ends (fun _ s' => begun (view s) s' ∧ view s' = view s)
    (fun s' => idle s' ∧ view s' = view s) opening s
  closes : ∀ saved s, begun saved s → Ends (fun _ s' => idle s' ∧ view s' = view s) (begun saved) closing s
  undoes : ∀ saved s, begun saved s → idle (final undo s) ∧ view (final undo s) = saved

theorem AtomicBrackets.ladder {δ : Type u} {view : σ → δ} {idle : σ → Prop} {begun : δ → σ → Prop}
    (brackets : AtomicBrackets view idle begun opening closing undo)
    (keeps : ∀ saved, Preserves (begun saved) body) {s : σ} (held : idle s) :
    Ends (fun a s' => idle s' ∧
        ∃ m m', begun (view s) m ∧ view m = view s ∧ body m = .ok a m' ∧ view s' = view m')
      (fun s' => idle s' ∧ view s' = view s) (StatefulResult.ladder opening closing undo body) s := by
  unfold Ends
  rw [ladder_eq]
  have opened := brackets.opens s held
  cases first : opening s with
  | error e m => exact opened.error first
  | ok u m =>
    obtain ⟨begins, same⟩ := opened.ok first
    have ran := keeps (view s) m begins
    unfold final at ran
    dsimp only
    cases middle : body m with
    | error e m' =>
      rw [middle] at ran
      exact brackets.undoes _ m' ran
    | ok a m' =>
      rw [middle] at ran
      have closed := brackets.closes _ m' ran
      dsimp only
      cases last : closing m' with
      | ok u s' =>
        obtain ⟨ended, kept⟩ := closed.ok last
        exact ⟨ended, m, m', begins, same, middle, kept⟩
      | error e s' => exact brackets.undoes _ s' (closed.error last)

end StatefulResult
