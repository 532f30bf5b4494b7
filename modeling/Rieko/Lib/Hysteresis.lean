import Mathlib.Logic.Function.Iterate

/-! A counter of consecutive misses that settles when it reaches a threshold. -/

namespace Hysteresis

inductive Phase where
  | counting (misses : Nat)
  | settled
deriving DecidableEq, Repr

variable {threshold n k : Nat}

def Phase.miss (threshold : Nat) : Phase → Phase
  | .counting misses => if threshold ≤ misses + 1 then .settled else .counting (misses + 1)
  | .settled => .settled

def Phase.after (threshold n : Nat) : Phase := if threshold ≤ n then .settled else .counting n

theorem after_zero (positive : 0 < threshold) : Phase.after threshold 0 = .counting 0 := by
  unfold Phase.after
  rw [if_neg (by omega)]

theorem after_settled : Phase.after threshold n = .settled ↔ threshold ≤ n := by
  unfold Phase.after
  split <;> simp_all

theorem miss_after : (Phase.after threshold n).miss threshold = Phase.after threshold (n + 1) := by
  unfold Phase.after
  by_cases reached : threshold ≤ n
  · simp only [if_pos reached, if_pos (Nat.le_succ_of_le reached), Phase.miss]
  · simp only [if_neg reached, Phase.miss]

theorem misses_after : (Phase.miss threshold)^[k] (Phase.after threshold n) = Phase.after threshold (n + k) := by
  induction k with
  | zero => rfl
  | succ k ih => rw [Function.iterate_succ_apply', ih, miss_after, Nat.add_assoc]

theorem misses_settled : (Phase.miss threshold)^[k] .settled = .settled := by
  induction k with
  | zero => rfl
  | succ k ih => rw [Function.iterate_succ_apply, Phase.miss, ih]

theorem reached_of_settled (settled : (Phase.miss threshold)^[k] (.counting n) = .settled) : threshold ≤ n + k := by
  induction k generalizing n with
  | zero => cases settled
  | succ k ih =>
    rw [Function.iterate_succ_apply, Phase.miss] at settled
    split at settled
    next reached => omega
    next =>
      have later := ih settled
      omega

theorem settles (phase : Phase) (positive : 0 < threshold) (enough : threshold ≤ k) :
    (Phase.miss threshold)^[k] phase = .settled := by
  cases phase with
  | settled => exact misses_settled
  | counting n =>
    suffices ∀ k n, threshold ≤ n + k → 0 < k → (Phase.miss threshold)^[k] (.counting n) = .settled from
      this k n (by omega) (by omega)
    intro k
    induction k with
    | zero => omega
    | succ k ih =>
      intro n reached _
      rw [Function.iterate_succ_apply, Phase.miss]
      split
      · exact misses_settled
      · exact ih (n + 1) (by omega) (by omega)

inductive Verdict where
  | raised | cleared | unknown
deriving DecidableEq, Repr

/-- What a verdict makes of a phase, which there is none of before the condition was raised once. -/
def Verdict.next (threshold : Nat) (phase : Option Phase) : Verdict → Option Phase
  | .raised => some (.counting 0)
  | .cleared => phase.map (.miss threshold)
  | .unknown => phase

def follow (threshold : Nat) (verdicts : List Verdict) (phase : Option Phase) : Option Phase :=
  verdicts.foldl (Verdict.next threshold) phase

variable {verdicts : List Verdict} {phase : Option Phase}

theorem follow_unraised (unraised : .raised ∉ verdicts) :
    follow threshold verdicts phase = phase.map (Phase.miss threshold)^[verdicts.count .cleared] := by
  induction verdicts generalizing phase with
  | nil => cases phase <;> rfl
  | cons verdict verdicts ih =>
    rw [List.mem_cons, not_or] at unraised
    show follow threshold verdicts (Verdict.next threshold phase verdict) = _
    rw [ih unraised.2]
    cases verdict with
    | raised => exact absurd rfl unraised.1
    | unknown => rfl
    | cleared =>
      rw [List.count_cons_self]
      cases phase <;> rfl

theorem follow_settles (positive : 0 < threshold) (unraised : .raised ∉ verdicts)
    (enough : threshold ≤ verdicts.count .cleared) :
    follow threshold verdicts phase = phase.map fun _ => .settled := by
  rw [follow_unraised unraised]
  cases phase with
  | none => rfl
  | some phase => exact congrArg some (settles phase positive enough)

theorem follow_uncleared (uncleared : .cleared ∉ verdicts) :
    follow threshold verdicts phase = if .raised ∈ verdicts then some (.counting 0) else phase := by
  induction verdicts generalizing phase with
  | nil => rfl
  | cons verdict verdicts ih =>
    rw [List.mem_cons, not_or] at uncleared
    show follow threshold verdicts (Verdict.next threshold phase verdict) = _
    rw [ih uncleared.2]
    cases verdict with
    | cleared => exact absurd rfl uncleared.1
    | raised => simp [Verdict.next]
    | unknown => simp [Verdict.next]

end Hysteresis
