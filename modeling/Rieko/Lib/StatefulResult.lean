import Mathlib.Logic.Basic

/-! Rules for programs that change a state and may fail, where a failure keeps the changes made so far. -/

namespace StatefulResult

universe u

variable {ε σ α β : Type u}

/-- Runs a program to its result. The caller goes on with whatever state the program left behind. -/
def attempt (program : EStateM ε σ α) : EStateM ε σ (Except ε α) := fun s =>
  match program s with
  | .ok a s' => .ok (.ok a) s'
  | .error e s' => .ok (.error e) s'

def final (program : EStateM ε σ α) (s : σ) : σ :=
  match program s with
  | .ok _ s' => s'
  | .error _ s' => s'

def value (program : EStateM ε σ α) (s : σ) : Except ε α :=
  match program s with
  | .ok a _ => .ok a
  | .error e _ => .error e

def succeeds (program : EStateM ε σ α) (s : σ) : Bool :=
  match program s with
  | .ok _ _ => true
  | .error _ _ => false

/-- A test of what a program returns, which no failure passes. -/
def returns (check : α → σ → Bool) (program : EStateM ε σ α) (s : σ) : Bool :=
  match program s with
  | .ok a s' => check a s'
  | .error _ _ => false

def fails (check : ε → σ → Bool) (program : EStateM ε σ α) (s : σ) : Bool :=
  match program s with
  | .ok _ _ => false
  | .error e s' => check e s'

theorem exists_of_returns {check : α → σ → Bool} {program : EStateM ε σ α} {s : σ}
    (passed : returns check program s = true) : ∃ a s', program s = .ok a s' ∧ check a s' = true := by
  unfold returns at passed
  cases ran : program s with
  | ok a s' => rw [ran] at passed; exact ⟨a, s', rfl, passed⟩
  | error e s' => rw [ran] at passed; cases passed

theorem exists_of_fails {check : ε → σ → Bool} {program : EStateM ε σ α} {s : σ}
    (passed : fails check program s = true) : ∃ e s', program s = .error e s' ∧ check e s' = true := by
  unfold fails at passed
  cases ran : program s with
  | ok a s' => rw [ran] at passed; cases passed
  | error e s' => rw [ran] at passed; exact ⟨e, s', rfl, passed⟩

theorem ok_of_succeeds {program : EStateM ε σ PUnit} {s : σ} (succeeded : succeeds program s = true) :
    program s = .ok ⟨⟩ (final program s) := by
  unfold succeeds at succeeded
  unfold final
  cases result : program s with
  | ok _ _ => rfl
  | error _ _ => rw [result] at succeeded; cases succeeded

theorem bind_ok {program : EStateM ε σ α} {next : α → EStateM ε σ β} {s s' : σ} {b : β} :
    (program >>= next) s = .ok b s' ↔ ∃ a m, program s = .ok a m ∧ next a m = .ok b s' := by
  show EStateM.bind program next s = _ ↔ _
  unfold EStateM.bind
  cases program s with
  | ok a m =>
    constructor
    · intro h; exact ⟨a, m, rfl, h⟩
    · rintro ⟨a, m, ⟨⟩, h⟩; exact h
  | error e m => simp

theorem bind_error {program : EStateM ε σ α} {next : α → EStateM ε σ β} {s s' : σ} {e : ε} :
    (program >>= next) s = .error e s' ↔
      program s = .error e s' ∨ ∃ a m, program s = .ok a m ∧ next a m = .error e s' := by
  show EStateM.bind program next s = _ ↔ _
  unfold EStateM.bind
  cases program s with
  | ok a m =>
    constructor
    · intro h; exact .inr ⟨a, m, rfl, h⟩
    · rintro (⟨⟨⟩⟩ | ⟨a, m, ⟨⟩, h⟩); exact h
  | error e m => simp

theorem except_bind_ok {value : Except ε α} {next : α → Except ε β} {b : β} :
    (value >>= next) = .ok b ↔ ∃ a, value = .ok a ∧ next a = .ok b := by
  cases value with
  | error e => simp [bind, Except.bind]
  | ok a => simp [bind, Except.bind]

theorem except_bind_error {value : Except ε α} {next : α → Except ε β} {e : ε} :
    (value >>= next) = .error e ↔ value = .error e ∨ ∃ a, value = .ok a ∧ next a = .error e := by
  cases value with
  | error e => simp [bind, Except.bind]
  | ok a => simp [bind, Except.bind]

theorem except_mapError_ok {ε' : Type u} {f : ε → ε'} {value : Except ε α} {a : α} :
    value.mapError f = .ok a ↔ value = .ok a := by
  cases value with
  | error e =>
    show Except.error (f e) = .ok a ↔ _
    simp
  | ok found =>
    show Except.ok found = .ok a ↔ _
    simp

theorem mapError_error {ε' : Type u} {f : ε → ε'} {value : Except ε α} {e : ε'} :
    value.mapError f = .error e ↔ ∃ e', value = .error e' ∧ f e' = e := by
  cases value with
  | error e' =>
    show Except.error (f e') = .error e ↔ _
    simp
  | ok a =>
    show Except.ok a = .error e ↔ _
    simp

theorem bind_of_ok {program : EStateM ε σ α} {s m : σ} {a : α} (ran : program s = .ok a m)
    (next : α → EStateM ε σ β) : (program >>= next) s = next a m := by
  show EStateM.bind program next s = _
  rw [EStateM.bind, ran]

theorem bind_of_error {program : EStateM ε σ α} {s m : σ} {e : ε} (failed : program s = .error e m)
    (next : α → EStateM ε σ β) : (program >>= next) s = .error e m := by
  show EStateM.bind program next s = _
  rw [EStateM.bind, failed]

theorem attempt_of_ok {program : EStateM ε σ α} {s m : σ} {a : α} (ran : program s = .ok a m) :
    attempt program s = .ok (.ok a) m := by
  rw [attempt, ran]

theorem attempt_of_error {program : EStateM ε σ α} {s m : σ} {e : ε} (failed : program s = .error e m) :
    attempt program s = .ok (.error e) m := by
  rw [attempt, failed]

theorem discard_attempt (program : EStateM ε σ α) (s : σ) :
    discard (attempt program) s = .ok ⟨⟩ (final program s) := by
  show EStateM.map _ (attempt program) s = _
  unfold EStateM.map attempt final
  cases program s <;> rfl

theorem adapt_of_ok {ε' : Type u} {f : ε → ε'} {program : EStateM ε σ α} {s m : σ} {a : α}
    (ran : program s = .ok a m) : program.adaptExcept f s = .ok a m := by
  rw [EStateM.adaptExcept, ran]

theorem adapt_of_error {ε' : Type u} {f : ε → ε'} {program : EStateM ε σ α} {s m : σ} {e : ε}
    (failed : program s = .error e m) : program.adaptExcept f s = .error (f e) m := by
  rw [EStateM.adaptExcept, failed]

theorem adapt_ok {ε' : Type u} {f : ε → ε'} {program : EStateM ε σ α} {s s' : σ} {a : α} :
    program.adaptExcept f s = .ok a s' ↔ program s = .ok a s' := by
  unfold EStateM.adaptExcept
  cases program s <;> simp

theorem adapt_error {ε' : Type u} {f : ε → ε'} {program : EStateM ε σ α} {s s' : σ} {e : ε'} :
    program.adaptExcept f s = .error e s' ↔ ∃ e', program s = .error e' s' ∧ f e' = e := by
  unfold EStateM.adaptExcept
  cases program s with
  | ok a m => simp
  | error e' m =>
    constructor
    · rintro ⟨⟩; exact ⟨e', rfl, rfl⟩
    · rintro ⟨e'', ⟨⟩, rfl⟩; rfl

theorem ofExcept_ok {answer : Except ε α} {s s' : σ} {a : α} :
    (ofExcept answer : EStateM ε σ α) s = .ok a s' ↔ answer = .ok a ∧ s' = s := by
  cases answer with
  | ok b =>
    show EStateM.Result.ok b s = _ ↔ _
    simp [eq_comm]
  | error e =>
    show EStateM.Result.error e s = _ ↔ _
    simp

theorem ofExcept_error {answer : Except ε α} {s s' : σ} {e : ε} :
    (ofExcept answer : EStateM ε σ α) s = .error e s' ↔ answer = .error e ∧ s' = s := by
  cases answer with
  | ok b =>
    show EStateM.Result.ok b s = _ ↔ _
    simp
  | error e =>
    show EStateM.Result.error e s = _ ↔ _
    simp [eq_comm]

theorem final_adapt {ε' : Type u} (f : ε → ε') (program : EStateM ε σ α) (s : σ) :
    final (program.adaptExcept f) s = final program s := by
  unfold final EStateM.adaptExcept
  cases program s <;> rfl

theorem modify_ok {f : σ → σ} {s s' : σ} {u : PUnit} :
    (modify f : EStateM ε σ PUnit) s = .ok u s' ↔ s' = f s := by
  show EStateM.Result.ok _ (f s) = _ ↔ _
  rw [EStateM.Result.ok.injEq]
  exact ⟨fun same => same.2.symm, fun same => ⟨rfl, same.symm⟩⟩

def Ends (done : α → σ → Prop) (failed : σ → Prop) (program : EStateM ε σ α) (s : σ) : Prop :=
  match program s with
  | .ok a s' => done a s'
  | .error _ s' => failed s'

section Ends

variable {done : α → σ → Prop} {failed : σ → Prop} {program : EStateM ε σ α} {s s' : σ}

theorem Ends.intro (succeeds : ∀ a s', program s = .ok a s' → done a s')
    (fails : ∀ e s', program s = .error e s' → failed s') : Ends done failed program s := by
  unfold Ends
  cases result : program s with
  | ok a s' => exact succeeds a s' result
  | error e s' => exact fails e s' result

theorem Ends.ok {a : α} (ends : Ends done failed program s) (ran : program s = .ok a s') : done a s' := by
  unfold Ends at ends
  rwa [ran] at ends

theorem Ends.error {e : ε} (ends : Ends done failed program s) (ran : program s = .error e s') : failed s' := by
  unfold Ends at ends
  rwa [ran] at ends

theorem Ends.mono {done' : α → σ → Prop} {failed' : σ → Prop} (ends : Ends done failed program s)
    (succeeds : ∀ a s', done a s' → done' a s') (fails : ∀ s', failed s' → failed' s') :
    Ends done' failed' program s :=
  .intro (fun a s' ran => succeeds a s' (ends.ok ran)) fun _ s' ran => fails s' (ends.error ran)

end Ends

/-- A property of states that a program keeps, also on the way to a failure. -/
def Preserves (property : σ → Prop) (program : EStateM ε σ α) : Prop :=
  ∀ s, property s → property (final program s)

theorem final_bind (program : EStateM ε σ α) (next : α → EStateM ε σ β) (s : σ) :
    final (program >>= next) s =
      match program s with
      | .ok a m => final (next a) m
      | .error _ m => m := by
  show (match EStateM.bind program next s with | .ok _ s' => s' | .error _ s' => s') = _
  unfold EStateM.bind
  cases program s <;> rfl

theorem final_bind_of_stays {program : EStateM ε σ α} {next : α → EStateM ε σ β}
    (stays : ∀ a s, final (next a) s = s) (s : σ) : final (program >>= next) s = final program s := by
  rw [final_bind]
  unfold final at stays ⊢
  cases program s with
  | ok a m => exact stays a m
  | error e m => rfl

namespace Preserves

variable {property : σ → Prop}

theorem pure (a : α) : Preserves property (Pure.pure a : EStateM ε σ α) := fun _ held => held

theorem throw (e : ε) : Preserves property (MonadExcept.throw e : EStateM ε σ α) := fun _ held => held

theorem bind {program : EStateM ε σ α} {next : α → EStateM ε σ β}
    (first : Preserves property program) (rest : ∀ a, Preserves property (next a)) :
    Preserves property (program >>= next) := by
  intro s held
  have middle := first s held
  rw [final_bind]
  unfold final at middle
  cases result : program s with
  | ok a m => rw [result] at middle; exact rest a m middle
  | error e m => rw [result] at middle; exact middle

theorem attempt {program : EStateM ε σ α} (kept : Preserves property program) :
    Preserves property (StatefulResult.attempt program) := by
  intro s held
  have ended := kept s held
  unfold final at ended ⊢
  unfold StatefulResult.attempt
  cases result : program s <;> rw [result] at ended <;> exact ended

theorem adapt {ε' : Type u} {program : EStateM ε σ α} (f : ε → ε') (kept : Preserves property program) :
    Preserves property (program.adaptExcept f) := fun s held => by
  rw [final_adapt]
  exact kept s held

theorem ofExcept (answer : Except ε α) : Preserves property (MonadExcept.ofExcept answer : EStateM ε σ α) := by
  cases answer with
  | ok a => exact pure a
  | error e => exact throw e

theorem ofExcept_bind {answer : Except ε α} {next : α → EStateM ε σ β}
    (rest : ∀ a, answer = .ok a → Preserves property (next a)) :
    Preserves property (MonadExcept.ofExcept answer >>= next) := by
  cases answer with
  | ok a => exact rest a rfl
  | error e => exact throw e

theorem forM {γ : Type} {items : List γ} {body : γ → EStateM ε σ PUnit}
    (each : ∀ item ∈ items, Preserves property (body item)) :
    Preserves property (items.forM body) := by
  induction items with
  | nil => exact pure _
  | cons item items ih =>
    show Preserves property (body item >>= fun _ => items.forM body)
    exact (each item (by simp)).bind fun _ => ih fun later member => each later (by simp [member])

end Preserves

def stay (answer : Except ε α) (s : σ) : EStateM.Result ε σ α :=
  match answer with
  | .ok a => .ok a s
  | .error e => .error e s

theorem ofExcept_stay (answer : Except ε α) (s : σ) : (ofExcept answer : EStateM ε σ α) s = stay answer s := by
  cases answer <;> rfl

theorem bind_stay {program : EStateM ε σ α} {next : α → EStateM ε σ β} {answer : Except ε α} {later : α → Except ε β}
    {s : σ} (first : program s = stay answer s) (rest : ∀ a, next a s = stay (later a) s) :
    (program >>= next) s = stay (answer >>= later) s := by
  cases answer with
  | ok a => exact (bind_of_ok first next).trans (rest a)
  | error e => exact bind_of_error first next

def ReadsOnly {ρ : Type u} (part : σ → ρ) (program : EStateM ε σ α) : Prop :=
  ∀ s, ∃ answer, ∀ t, part t = part s → program t = stay answer t

namespace ReadsOnly

variable {ρ : Type u} {part : σ → ρ} {program : EStateM ε σ α}

theorem ofExcept (answer : Except ε α) : ReadsOnly part (MonadExcept.ofExcept answer) :=
  fun _ => ⟨answer, fun _ _ => by cases answer <;> rfl⟩

theorem bind {next : α → EStateM ε σ β} (first : ReadsOnly part program) (rest : ∀ a, ReadsOnly part (next a)) :
    ReadsOnly part (program >>= next) := by
  intro s
  obtain ⟨answer, answers⟩ := first s
  cases answer with
  | error e => exact ⟨.error e, fun t same => bind_of_error (answers t same) next⟩
  | ok a =>
    obtain ⟨answer, later⟩ := rest a s
    exact ⟨answer, fun t same => (bind_of_ok (answers t same) next).trans (later t same)⟩

theorem adapt {ε' : Type u} (f : ε → ε') (reads : ReadsOnly part program) :
    ReadsOnly part (program.adaptExcept f) := by
  intro s
  obtain ⟨answer, answers⟩ := reads s
  cases answer with
  | error e => exact ⟨.error (f e), fun t same => adapt_of_error (answers t same)⟩
  | ok a => exact ⟨.ok a, fun t same => adapt_of_ok (answers t same)⟩

theorem ok {s s' : σ} {a : α} (reads : ReadsOnly part program) (ran : program s = .ok a s') :
    s' = s ∧ ∀ t, part t = part s → program t = .ok a t := by
  obtain ⟨answer, answers⟩ := reads s
  have here := (answers s rfl).symm.trans ran
  cases answer with
  | error e => cases here
  | ok a' => cases here; exact ⟨rfl, answers⟩

theorem preserves {property : σ → Prop} (reads : ReadsOnly part program) : Preserves property program := by
  intro s held
  obtain ⟨answer, answers⟩ := reads s
  unfold final
  rw [answers s rfl]
  cases answer <;> exact held

theorem error {s s' : σ} {e : ε} (reads : ReadsOnly part program) (failed : program s = .error e s') : s' = s := by
  obtain ⟨answer, answers⟩ := reads s
  have here := (answers s rfl).symm.trans failed
  cases answer with
  | error e' => cases here; rfl
  | ok a => cases here

end ReadsOnly

def FailsWith (property : ε → Prop) (program : EStateM ε σ α) : Prop :=
  ∀ s e s', program s = .error e s' → property e

namespace FailsWith

variable {property : ε → Prop} {program : EStateM ε σ α}

theorem ofExcept {answer : Except ε α} (fails : ∀ e, answer = .error e → property e) :
    FailsWith property (MonadExcept.ofExcept answer : EStateM ε σ α) :=
  fun _ e _ failed => fails e (ofExcept_error.mp failed).1

theorem bind {next : α → EStateM ε σ β} (first : FailsWith property program)
    (rest : ∀ a, FailsWith property (next a)) : FailsWith property (program >>= next) := by
  intro s e s' failed
  rcases bind_error.mp failed with failed | ⟨a, m, -, failed⟩
  · exact first s e s' failed
  · exact rest a m e s' failed

theorem adapt {ε' : Type u} {property' : ε' → Prop} {f : ε → ε'} (fails : FailsWith property program)
    (adapts : ∀ e, property e → property' (f e)) : FailsWith property' (program.adaptExcept f) := by
  intro s e s' failed
  obtain ⟨inner, ran, rfl⟩ := adapt_error.mp failed
  exact adapts inner (fails s inner s' ran)

end FailsWith

end StatefulResult
