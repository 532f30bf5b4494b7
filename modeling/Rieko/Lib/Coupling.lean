import Rieko.Lib.Ladder
import Rieko.Lib.SqlConnection
import Mathlib.Data.List.Forall2

/-! Programs that run alike from states that stand for one another. -/

namespace StatefulResult

variable {ε ε' σ τ α β γ δ : Type} {related : σ → τ → Prop} {answers : α → β → Prop} {answers' : γ → δ → Prop}

def Alike (answers : α → β → Prop) : Except ε α → Except ε' β → Prop
  | .ok a, .ok b => answers a b
  | .error _, .error _ => True
  | _, _ => False

/-- From related states both programs give alike results, and leave related states. -/
def Coupled (related : σ → τ → Prop) (answers : α → β → Prop) (program : EStateM ε σ α) (program' : EStateM ε' τ β) :
    Prop :=
  ∀ s t, related s t → Alike answers (value program s) (value program' t) ∧ related (final program s) (final program' t)

theorem coupled_iff {program : EStateM ε σ α} {program' : EStateM ε' τ β} :
    Coupled related answers program program' ↔ ∀ s t, related s t →
      (∃ a s' b t', program s = .ok a s' ∧ program' t = .ok b t' ∧ answers a b ∧ related s' t') ∨
      ∃ e s' e' t', program s = .error e s' ∧ program' t = .error e' t' ∧ related s' t' := by
  unfold Coupled value final
  refine forall_congr' fun s => forall_congr' fun t => imp_congr_right fun _ => ?_
  cases program s <;> cases program' t <;> simp [Alike]

section Results

variable {program : EStateM ε σ α} {program' : EStateM ε' τ β} {s : σ} {t : τ}

theorem Coupled.value_ok {b : β} (coupled : Coupled related answers program program') (held : related s t)
    (ran : value program' t = .ok b) : ∃ a, value program s = .ok a ∧ answers a b := by
  have alike := (coupled s t held).1
  rw [ran] at alike
  cases result : value program s with
  | ok a =>
    rw [result] at alike
    exact ⟨a, rfl, alike⟩
  | error e =>
    rw [result] at alike
    exact alike.elim

theorem Coupled.succeeds_eq (coupled : Coupled related answers program program') (held : related s t) :
    succeeds program s = succeeds program' t := by
  unfold succeeds
  rcases coupled_iff.mp coupled s t held with ⟨a, s', b, t', ran, ran', -⟩ | ⟨e, s', e', t', failed, failed', -⟩
  · rw [ran, ran']
  · rw [failed, failed']

theorem Coupled.value_ok_iff {program' : EStateM ε' τ α} {a : α} (coupled : Coupled related Eq program program')
    (held : related s t) : value program s = .ok a ↔ value program' t = .ok a := by
  have alike := (coupled s t held).1
  cases ran : value program s <;> cases ran' : value program' t <;> rw [ran, ran'] at alike
  · simp
  · exact alike.elim
  · exact alike.elim
  · rw [Except.ok.injEq, Except.ok.injEq, show _ = _ from alike]

theorem Coupled.ok_eq_iff {program' : EStateM ε τ α} {a : α} (coupled : Coupled related Eq program program')
    (held : related s t) : .ok a = value program s ↔ .ok a = value program' t :=
  eq_comm.trans ((coupled.value_ok_iff held).trans eq_comm)

theorem Coupled.ok_eq_map_iff {program' : EStateM ε τ α} {f : α → γ} {c : γ}
    (coupled : Coupled related Eq program program') (held : related s t) :
    .ok c = (value program s).map f ↔ .ok c = (value program' t).map f := by
  have alike := (coupled s t held).1
  cases ran : value program s <;> cases ran' : value program' t <;> rw [ran, ran'] at alike
  · simp [Except.map]
  · exact alike.elim
  · exact alike.elim
  · rw [show _ = _ from alike]

end Results

theorem Coupled.pure {a : α} {b : β} (same : answers a b) :
    Coupled related answers (Pure.pure a : EStateM ε σ α) (Pure.pure b : EStateM ε' τ β) := fun _ _ held => ⟨same, held⟩

theorem Coupled.throw (e : ε) (e' : ε') :
    Coupled related answers (MonadExcept.throw e : EStateM ε σ α) (MonadExcept.throw e' : EStateM ε' τ β) :=
  fun _ _ held => ⟨trivial, held⟩

theorem Coupled.throw_bind (e : ε) (e' : ε') {next : α → EStateM ε σ γ} {next' : β → EStateM ε' τ δ} :
    Coupled related answers' ((MonadExcept.throw e : EStateM ε σ α) >>= next)
      ((MonadExcept.throw e' : EStateM ε' τ β) >>= next') := fun _ _ held => ⟨trivial, held⟩

theorem Coupled.bind {program : EStateM ε σ α} {program' : EStateM ε' τ β} {next : α → EStateM ε σ γ}
    {next' : β → EStateM ε' τ δ} (first : Coupled related answers program program')
    (rest : ∀ a b, answers a b → Coupled related answers' (next a) (next' b)) :
    Coupled related answers' (program >>= next) (program' >>= next') := by
  rw [coupled_iff] at first ⊢
  intro s t held
  rcases first s t held with ⟨a, s', b, t', ran, ran', same, held'⟩ | ⟨e, s', e', t', failed, failed', held'⟩
  · rw [bind_of_ok ran, bind_of_ok ran']
    exact coupled_iff.mp (rest a b same) s' t' held'
  · rw [bind_of_error failed, bind_of_error failed']
    exact .inr ⟨e, s', e', t', rfl, rfl, held'⟩

theorem Coupled.attempt {program : EStateM ε σ α} {program' : EStateM ε' τ β}
    (coupled : Coupled related answers program program') :
    Coupled related (Alike answers) (StatefulResult.attempt program : EStateM ε σ (Except ε α))
      (StatefulResult.attempt program' : EStateM ε' τ (Except ε' β)) := by
  rw [coupled_iff] at coupled ⊢
  intro s t held
  rcases coupled s t held with ⟨a, s', b, t', ran, ran', same, held'⟩ | ⟨e, s', e', t', failed, failed', held'⟩
  · exact .inl ⟨_, s', _, t', attempt_of_ok ran, attempt_of_ok ran', same, held'⟩
  · exact .inl ⟨_, s', _, t', attempt_of_error failed, attempt_of_error failed', trivial, held'⟩

theorem Coupled.discard {program : EStateM ε σ PUnit} {program' : EStateM ε' τ PUnit}
    (coupled : Coupled related (fun _ _ => True) program program') :
    Coupled related (fun _ _ => True) (Functor.discard (StatefulResult.attempt program) : EStateM ε σ PUnit)
      (Functor.discard (StatefulResult.attempt program') : EStateM ε' τ PUnit) := by
  rw [coupled_iff]
  intro s t held
  exact .inl ⟨_, _, _, _, discard_attempt program s, discard_attempt program' t, trivial, (coupled s t held).2⟩

section Transactions

variable {opening closing undo : EStateM ε σ PUnit} {opening' closing' undo' : EStateM ε' τ PUnit}
  {body : EStateM ε σ α} {body' : EStateM ε' τ β}

theorem Coupled.closeOrUndo (closes : Coupled related (fun _ _ => True) closing closing')
    (undoes : Coupled related (fun _ _ => True) undo undo') :
    Coupled related (fun _ _ => True) (StatefulResult.closeOrUndo closing undo)
      (StatefulResult.closeOrUndo closing' undo') := by
  refine closes.attempt.bind fun a b same => ?_
  cases a <;> cases b
  · exact undoes.discard.bind fun _ _ _ => .throw _ _
  · exact same.elim
  · exact same.elim
  · exact .pure trivial

theorem Coupled.ladder (opens : Coupled related (fun _ _ => True) opening opening')
    (closes : Coupled related (fun _ _ => True) closing closing')
    (undoes : Coupled related (fun _ _ => True) undo undo') (runs : Coupled related answers body body') :
    Coupled related answers (StatefulResult.ladder opening closing undo body)
      (StatefulResult.ladder opening' closing' undo' body') := by
  refine opens.bind fun _ _ _ => runs.attempt.bind fun a b same => ?_
  cases a <;> cases b
  · exact undoes.discard.bind fun _ _ _ => .throw _ _
  · exact same.elim
  · exact same.elim
  · exact (closes.closeOrUndo undoes).bind fun _ _ _ => .pure same

end Transactions

end StatefulResult

namespace SqlConnection

open StatefulResult

variable {Contents Contents' α β : Type} {stands : Contents → Contents' → Prop} {answers : α → β → Prop}

/-- Two connections at the same statement, of which each state of the one stands for that of the other. -/
structure Related (stands : Contents → Contents' → Prop) (c : SqlConnection Contents) (c' : SqlConnection Contents') :
    Prop where
  tables : stands c.tables c'.tables
  saved : Option.Rel stands c.saved c'.saved
  executed : c.executed = c'.executed
  fails : c.fails = c'.fails

theorem Related.next {c : SqlConnection Contents} {c' : SqlConnection Contents'} (related : Related stands c c') :
    Related stands c.next c'.next :=
  ⟨related.tables, related.saved, congrArg (· + 1) related.executed, related.fails⟩

theorem coupled_statement {effect : Contents → Except String (Contents × α)}
    {effect' : Contents' → Except String (Contents' × β)}
    (alike : ∀ t t', stands t t' → Alike (fun p p' => stands p.1 p'.1 ∧ answers p.2 p'.2) (effect t) (effect' t')) :
    Coupled (Related stands) answers (statement effect) (statement effect') := by
  rw [coupled_iff]
  intro c c' related
  have same := alike c.tables c'.tables related.tables
  unfold statement
  rw [← related.executed, ← related.fails]
  cases c.fails c.executed with
  | some message => exact .inr ⟨_, _, _, _, rfl, rfl, related.next⟩
  | none =>
    cases ran : effect c.tables <;> cases ran' : effect' c'.tables <;> rw [ran, ran'] at same
    · exact .inr ⟨_, _, _, _, rfl, rfl, related.next⟩
    · exact same.elim
    · exact same.elim
    · refine .inl ⟨_, _, _, _, rfl, rfl, same.2, ?_⟩
      exact { related.next with tables := same.1 }

theorem coupled_execute {effect : Contents → Contents} {effect' : Contents' → Contents'}
    (keeps : ∀ t t', stands t t' → stands (effect t) (effect' t')) :
    Coupled (Related stands) (fun _ _ => True) (execute effect) (execute effect') :=
  coupled_statement fun t t' held => ⟨keeps t t' held, trivial⟩

theorem coupled_query {read : Contents → α} {read' : Contents' → β}
    (same : ∀ t t', stands t t' → answers (read t) (read' t')) :
    Coupled (Related stands) answers (query read) (query read') :=
  coupled_statement fun t t' held => ⟨held, same t t' held⟩

theorem coupled_beginImmediate : Coupled (Related stands) (fun _ _ => True) beginImmediate beginImmediate := by
  rw [coupled_iff]
  intro c c' related
  unfold beginImmediate
  rw [← related.executed, ← related.fails]
  have saved := related.saved
  cases c.fails c.executed with
  | some message => exact .inr ⟨_, _, _, _, rfl, rfl, related.next⟩
  | none =>
    cases started : c.saved <;> cases started' : c'.saved <;> rw [started, started'] at saved
    · refine .inl ⟨_, _, _, _, rfl, rfl, trivial, ?_⟩
      exact { related.next with saved := .some related.tables }
    · cases saved
    · cases saved
    · exact .inr ⟨_, _, _, _, rfl, rfl, related.next⟩

theorem coupled_commit : Coupled (Related stands) (fun _ _ => True) commit commit := by
  rw [coupled_iff]
  intro c c' related
  unfold commit
  rw [← related.executed, ← related.fails]
  have saved := related.saved
  cases c.fails c.executed with
  | some message => exact .inr ⟨_, _, _, _, rfl, rfl, related.next⟩
  | none =>
    cases started : c.saved <;> cases started' : c'.saved <;> rw [started, started'] at saved
    · exact .inr ⟨_, _, _, _, rfl, rfl, related.next⟩
    · cases saved
    · cases saved
    · refine .inl ⟨_, _, _, _, rfl, rfl, trivial, ?_⟩
      exact { related.next with saved := .none }

theorem coupled_rollback : Coupled (Related stands) (fun _ _ => True) rollback rollback := by
  rw [coupled_iff]
  intro c c' related
  unfold rollback
  have saved := related.saved
  cases started : c.saved <;> cases started' : c'.saved <;> rw [started, started'] at saved
  · exact .inr ⟨_, _, _, _, rfl, rfl, related.next⟩
  · cases saved
  · cases saved
  · cases saved with
    | some held =>
      refine .inl ⟨_, _, _, _, rfl, rfl, trivial, ?_⟩
      exact { related.next with tables := held, saved := .none }

end SqlConnection
