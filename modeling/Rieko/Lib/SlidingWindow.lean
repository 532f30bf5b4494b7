import Mathlib.Data.List.Induction
import Mathlib.Order.Lattice
import Rieko.Lib.Observation

/-! Machines that let a request through as long as few of those let through before still count. -/

namespace SlidingWindow

open Observation

variable {τ State Answer : Type}

/-- A machine that keeps the times of the requests that it let through and that still count. -/
structure Limiter (apply : τ → State → Answer × State) (kept : State → List τ) (limit : Nat) (counts : τ → τ → Bool)
    (yes no : Answer) : Prop where
  apart : yes ≠ no
  admits : ∀ now s, ((kept s).filter (counts now)).length < limit →
    (apply now s).1 = yes ∧ kept (apply now s).2 = (kept s).filter (counts now) ++ [now]
  refuses : ∀ now s, limit ≤ ((kept s).filter (counts now)).length →
    (apply now s).1 = no ∧ kept (apply now s).2 = (kept s).filter (counts now)

def letThrough [DecidableEq Answer] (apply : τ → State → Answer × State) (yes : Answer) : List τ → State → List τ
  | [], _ => []
  | now :: later, s =>
    if (apply now s).1 = yes then now :: letThrough apply yes later (apply now s).2
    else letThrough apply yes later (apply now s).2

/-- What counts at a time has counted at every time since. -/
def Expires [LE τ] (counts : τ → τ → Bool) : Prop :=
  ∀ t now later, t ≤ now → now ≤ later → counts later t → counts now t

variable {apply : τ → State → Answer × State} {kept : State → List τ} {limit : Nat} {counts : τ → τ → Bool}
  {yes no : Answer} {s t : State} {now : τ} {times later : List τ}

section LetThrough

variable [DecidableEq Answer]

theorem letThrough_singleton (now : τ) (s : State) :
    letThrough apply yes [now] s = if (apply now s).1 = yes then [now] else [] := rfl

theorem letThrough_append :
    letThrough apply yes (times ++ later) s =
      letThrough apply yes times s ++ letThrough apply yes later (after apply times s) := by
  induction times generalizing s with
  | nil => rfl
  | cons now times ih =>
    rw [List.cons_append, letThrough, letThrough, ih]
    split <;> rfl

theorem letThrough_sublist : (letThrough apply yes times s).Sublist times := by
  induction times generalizing s with
  | nil => exact List.nil_sublist _
  | cons now times ih =>
    unfold letThrough
    split
    · exact ih.cons_cons _
    · exact ih.cons _

end LetThrough

namespace Limiter

theorem yes_iff (limiter : Limiter apply kept limit counts yes no) (now : τ) (s : State) :
    (apply now s).1 = yes ↔ ((kept s).filter (counts now)).length < limit := by
  rcases Nat.lt_or_ge ((kept s).filter (counts now)).length limit with few | many
  · exact iff_of_true (limiter.admits now s few).1 few
  · apply iff_of_false
    · rw [(limiter.refuses now s many).1]
      exact limiter.apart.symm
    · omega

theorem no_iff (limiter : Limiter apply kept limit counts yes no) (now : τ) (s : State) :
    (apply now s).1 = no ↔ limit ≤ ((kept s).filter (counts now)).length := by
  rcases Nat.lt_or_ge ((kept s).filter (counts now)).length limit with few | many
  · apply iff_of_false
    · rw [(limiter.admits now s few).1]
      exact limiter.apart
    · omega
  · exact iff_of_true (limiter.refuses now s many).1 many

theorem kept_next [DecidableEq Answer] (limiter : Limiter apply kept limit counts yes no) (now : τ) (s : State) :
    kept (apply now s).2 = (kept s).filter (counts now) ++ if (apply now s).1 = yes then [now] else [] := by
  rcases Nat.lt_or_ge ((kept s).filter (counts now)).length limit with few | many
  · rw [if_pos ((limiter.yes_iff now s).mpr few)]
    exact (limiter.admits now s few).2
  · rw [if_neg (mt (limiter.yes_iff now s).mp (Nat.not_lt.mpr many)), List.append_nil]
    exact (limiter.refuses now s many).2

section Runs

variable [LinearOrder τ] [DecidableEq Answer]

/-- What is kept after a run and still counts are the requests that the run let through and that still count. -/
theorem counting_eq (limiter : Limiter apply kept limit counts yes no) (expires : Expires counts)
    (start : kept s = []) (ordered : times.Pairwise (· ≤ ·)) (ended : ∀ t ∈ times, t ≤ now) :
    (kept (after apply times s)).filter (counts now) = (letThrough apply yes times s).filter (counts now) := by
  induction times using List.reverseRecOn generalizing now with
  | nil => simp [after, letThrough, start]
  | append_singleton times last ih =>
    obtain ⟨before, -, least⟩ := List.pairwise_append.mp ordered
    have ended' : ∀ t ∈ times, t ≤ last := fun t member => least t member last List.mem_cons_self
    have lastEnded : last ≤ now := ended last (by simp)
    have counting := ih before ended'
    rw [after_append, letThrough_append, letThrough_singleton]
    change (kept (apply last (after apply times s)).2).filter (counts now) = _
    rw [limiter.kept_next, counting, List.filter_append, List.filter_append, List.filter_filter]
    congr 1
    apply List.filter_congr
    intro t member
    have early := ended' t (letThrough_sublist.subset member)
    rw [Bool.and_eq_left_iff_imp]
    exact expires t last now early lastEnded

theorem yes_iff_counted (limiter : Limiter apply kept limit counts yes no) (expires : Expires counts)
    (start : kept s = []) (ordered : times.Pairwise (· ≤ ·)) (ended : ∀ t ∈ times, t ≤ now) :
    (apply now (after apply times s)).1 = yes ↔ (letThrough apply yes times s).countP (counts now) < limit := by
  rw [limiter.yes_iff, limiter.counting_eq expires start ordered ended, List.countP_eq_length_filter]

theorem countP_le (limiter : Limiter apply kept limit counts yes no) (expires : Expires counts) (start : kept s = [])
    (ordered : times.Pairwise (· ≤ ·)) {window : τ → Bool}
    (narrow : ∀ t u, t ≤ u → window t → window u → counts u t) :
    (letThrough apply yes times s).countP window ≤ limit := by
  induction times using List.reverseRecOn with
  | nil => exact Nat.zero_le _
  | append_singleton times last ih =>
    obtain ⟨before, -, least⟩ := List.pairwise_append.mp ordered
    have ended : ∀ t ∈ times, t ≤ last := fun t member => least t member last List.mem_cons_self
    have earlier := ih before
    rw [letThrough_append, letThrough_singleton, List.countP_append]
    split
    next admitted =>
      have few := (limiter.yes_iff_counted expires start before ended).mp admitted
      by_cases inside : window last = true
      · have fewer : (letThrough apply yes times s).countP window ≤
            (letThrough apply yes times s).countP (counts last) := by
          apply List.countP_mono_left
          intro t member held
          exact narrow t last (ended t (letThrough_sublist.subset member)) held inside
        rw [List.countP_singleton, if_pos inside]
        omega
      · rw [List.countP_singleton, if_neg inside]
        exact earlier
    next => exact earlier

theorem answers_congr (limiter : Limiter apply kept limit counts yes no) (ordered : later.Pairwise (· ≤ ·))
    (begun : ∀ u ∈ later, now ≤ u)
    (same : ∀ u, now ≤ u → (kept s).filter (counts u) = (kept t).filter (counts u)) :
    answers apply later s = answers apply later t := by
  induction later generalizing s t now with
  | nil => rfl
  | cons first later ih =>
    have firstBegun := begun first List.mem_cons_self
    obtain ⟨least, rest⟩ := List.pairwise_cons.mp ordered
    have here := same first firstBegun
    have answer : (apply first s).1 = (apply first t).1 := by
      rcases Nat.lt_or_ge ((kept s).filter (counts first)).length limit with few | many
      · rw [(limiter.admits first s few).1, (limiter.admits first t (here ▸ few)).1]
      · rw [(limiter.refuses first s many).1, (limiter.refuses first t (here ▸ many)).1]
    have next : kept (apply first s).2 = kept (apply first t).2 := by
      rw [limiter.kept_next, limiter.kept_next, here, answer]
    have remaining : answers apply later (apply first s).2 = answers apply later (apply first t).2 :=
      ih rest least fun u _ => by rw [next]
    unfold answers
    rw [answer, remaining]

theorem refused_forgotten (limiter : Limiter apply kept limit counts yes no) (expires : Expires counts)
    (start : kept s = []) (ordered : (times ++ now :: later).Pairwise (· ≤ ·))
    (refused : (apply now (after apply times s)).1 = no) :
    answers apply (times ++ later) s =
      answers apply times s ++ answers apply later (after apply (times ++ [now]) s) := by
  obtain ⟨before, behind, least⟩ := List.pairwise_append.mp ordered
  obtain ⟨first, rest⟩ := List.pairwise_cons.mp behind
  have many := (limiter.no_iff _ _).mp refused
  rw [answers_append, after_append]
  congr 1
  apply limiter.answers_congr rest first
  intro u begun
  have ended : ∀ t ∈ times, t ≤ now := fun t member => least t member now List.mem_cons_self
  change _ = (kept (apply now (after apply times s)).2).filter (counts u)
  rw [(limiter.refuses _ _ many).2, limiter.counting_eq expires start before ended,
    limiter.counting_eq expires start before fun t member => (ended t member).trans begun, List.filter_filter]
  apply List.filter_congr
  intro t member
  have early := ended t (letThrough_sublist.subset member)
  rw [eq_comm, Bool.and_eq_left_iff_imp]
  exact expires t now u early begun

end Runs

end Limiter

end SlidingWindow
