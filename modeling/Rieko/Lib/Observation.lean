import Mathlib.Order.Basic

/-! Deterministic machines that answer each operation, and when two of their states answer alike. -/

namespace Observation

variable {Op Answer State : Type} (apply : Op → State → Answer × State)

def after : List Op → State → State
  | [], s => s
  | op :: ops, s => after ops (apply op s).2

def answers : List Op → State → List Answer
  | [], _ => []
  | op :: ops, s => (apply op s).1 :: answers ops (apply op s).2

/-- No sequence of operations tells the two states apart. -/
def Equivalent (s t : State) : Prop := ∀ ops, answers apply ops s = answers apply ops t

def Reachable (initial s : State) : Prop := ∃ ops, after apply ops initial = s

variable {apply} {ops later : List Op} {s t initial : State}

theorem after_append : after apply (ops ++ later) s = after apply later (after apply ops s) := by
  induction ops generalizing s with
  | nil => rfl
  | cons op ops ih => exact ih

theorem answers_append :
    answers apply (ops ++ later) s = answers apply ops s ++ answers apply later (after apply ops s) := by
  induction ops generalizing s with
  | nil => rfl
  | cons op ops ih =>
    show _ :: answers apply (ops ++ later) _ = _ :: _
    rw [ih]
    rfl

theorem answers_length : (answers apply ops s).length = ops.length := by
  induction ops generalizing s with
  | nil => rfl
  | cons op ops ih =>
    show (answers apply ops _).length + 1 = _
    rw [ih]
    rfl

theorem Equivalent.next (same : Equivalent apply s t) (ops : List Op) :
    Equivalent apply (after apply ops s) (after apply ops t) := by
  intro later
  have whole := same (ops ++ later)
  rw [answers_append, answers_append] at whole
  exact (List.append_inj whole (by rw [answers_length, answers_length])).2

theorem Equivalent.answer (same : Equivalent apply s t) (op : Op) : (apply op s).1 = (apply op t).1 := by
  have single := same [op]
  exact List.head_eq_of_cons_eq single

theorem equivalent_of_bisimulation (related : State → State → Prop)
    (step : ∀ op s t, related s t →
      (apply op s).1 = (apply op t).1 ∧ related (apply op s).2 (apply op t).2)
    (start : related s t) : Equivalent apply s t := by
  intro ops
  induction ops generalizing s t with
  | nil => rfl
  | cons op ops ih =>
    obtain ⟨sameAnswer, stillRelated⟩ := step op s t start
    show _ :: _ = _ :: _
    rw [sameAnswer, ih stillRelated]

/-- Two machines whose related states answer alike and stay related answer every run alike. -/
theorem answers_of_simulation {State' : Type} {apply' : Op → State' → Answer × State'} {t : State'}
    {related : State → State' → Prop} {allowed : Op → Prop}
    (step : ∀ op s t, allowed op → related s t →
      (apply op s).1 = (apply' op t).1 ∧ related (apply op s).2 (apply' op t).2)
    (each : ∀ op ∈ ops, allowed op) (start : related s t) :
    answers apply ops s = answers apply' ops t ∧ related (after apply ops s) (after apply' ops t) := by
  induction ops generalizing s t with
  | nil => exact ⟨rfl, start⟩
  | cons op ops ih =>
    obtain ⟨sameAnswer, stillRelated⟩ := step op s t (each op (by simp)) start
    obtain ⟨sameRest, related⟩ := ih (fun later member => each later (by simp [member])) stillRelated
    refine ⟨?_, related⟩
    show _ :: _ = _ :: _
    rw [sameAnswer, sameRest]

theorem Reachable.invariant {property : State → Prop} (reached : Reachable apply initial s)
    (first : property initial) (step : ∀ op s, property s → property (apply op s).2) : property s := by
  obtain ⟨ops, rfl⟩ := reached
  induction ops generalizing initial with
  | nil => exact first
  | cons op ops ih => exact ih (step op _ first)

def Silent (apply : Op → State → Answer × State) (op : Op) : Prop := ∃ answer, ∀ s, apply op s = (answer, s)

section Silent

variable {keep : Op → Bool}

/-- Silent operations can be taken out of a run: it ends in the same state, and every other operation is answered as
    before. -/
theorem run_filter (silent : ∀ op ∈ ops, keep op = false → Silent apply op) (s : State) :
    after apply (ops.filter keep) s = after apply ops s ∧
      (ops.filter keep).zip (answers apply (ops.filter keep) s) =
        (ops.zip (answers apply ops s)).filter fun answered => keep answered.1 := by
  induction ops generalizing s with
  | nil => exact ⟨rfl, rfl⟩
  | cons op ops ih =>
    have rest := ih fun later member => silent later (List.mem_cons_of_mem _ member)
    cases kept : keep op with
    | true =>
      obtain ⟨sameState, sameAnswers⟩ := rest (apply op s).2
      rw [List.filter_cons_of_pos kept]
      refine ⟨sameState, ?_⟩
      show (op, _) :: _ = List.filter (fun answered => keep answered.1) ((op, _) :: _)
      rw [List.filter_cons, if_pos kept]
      exact congrArg _ sameAnswers
    | false =>
      obtain ⟨answer, still⟩ := silent op List.mem_cons_self kept
      obtain ⟨sameState, sameAnswers⟩ := rest s
      have stays : (apply op s).2 = s := by rw [still s]
      have dropped : ¬keep op = true := by rw [kept]; exact Bool.false_ne_true
      rw [List.filter_cons_of_neg dropped]
      constructor
      · show _ = after apply ops (apply op s).2
        rw [stays]
        exact sameState
      · show _ = List.filter (fun answered => keep answered.1) ((op, _) :: ops.zip (answers apply ops (apply op s).2))
        rw [List.filter_cons, if_neg dropped, stays]
        exact sameAnswers

end Silent

theorem Reachable.after (reached : Reachable apply initial s) (ops : List Op) :
    Reachable apply initial (after apply ops s) := by
  obtain ⟨earlier, rfl⟩ := reached
  exact ⟨earlier ++ ops, after_append⟩

end Observation
