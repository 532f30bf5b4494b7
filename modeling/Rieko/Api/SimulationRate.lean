import Mathlib.Algebra.Order.Ring.Nat
import Rieko.Lib.SlidingWindow

namespace Rieko

open Observation SlidingWindow

/-- A reading of the monotonic clock, in nanoseconds. Of two readings the difference is never below zero. -/
abbrev Instant := Nat

namespace Instant

def second : Nat := 1000000000

end Instant

open Instant (second)

structure AppState where
  simulationRate : List Instant := []
deriving DecidableEq, Repr

inductive RateAnswer where
  | passed
  | refused (status : Nat) (message : String)
deriving DecidableEq, Repr

namespace AppState

def simulationRateLimit : Nat := 5

def tooManyRequests : RateAnswer := .refused 429 "too many simulation requests; wait and try again"

def checkSimulationRate (now : Instant) (state : AppState) : RateAnswer × AppState :=
  let window := state.simulationRate.filter fun t => now - t < second
  if simulationRateLimit ≤ window.length then (tooManyRequests, { simulationRate := window })
  else (.passed, { simulationRate := window ++ [now] })

def counts (now t : Instant) : Bool := now - t < second

theorem counts_iff {now t : Nat} (le : t ≤ now) : counts now t = true ↔ now < t + second := by
  unfold counts
  rw [decide_eq_true_eq]
  exact Nat.sub_lt_iff_lt_add' le

theorem counts_expires : Expires counts := by
  intro t now later early behind counting
  have young := (counts_iff (early.trans behind)).mp counting
  exact (counts_iff early).mpr (behind.trans_lt young)

theorem limiter :
    Limiter checkSimulationRate simulationRate simulationRateLimit counts .passed tooManyRequests where
  apart := by decide
  admits now state few := by
    have stays : checkSimulationRate now state =
        (.passed, { simulationRate := state.simulationRate.filter (counts now) ++ [now] }) :=
      if_neg (Nat.not_le.mpr few)
    rw [stays]
    exact ⟨rfl, rfl⟩
  refuses now state many := by
    have full : checkSimulationRate now state =
        (tooManyRequests, { simulationRate := state.simulationRate.filter (counts now) }) := if_pos many
    rw [full]
    exact ⟨rfl, rfl⟩

/-- The requests that a fresh state lets through, of those at some times. -/
def admitted (times : List Instant) : List Instant := letThrough checkSimulationRate .passed times {}

def answerAfter (times : List Instant) (now : Instant) : RateAnswer :=
  (checkSimulationRate now (after checkSimulationRate times {})).1

variable {times before later : List Instant} {now : Instant}

theorem admitted_window_le (ordered : times.Pairwise (· ≤ ·)) (window : Instant → Bool)
    (narrow : ∀ t u, window t → window u → u < t + second) :
    (admitted times).countP window ≤ simulationRateLimit := by
  apply limiter.countP_le counts_expires rfl ordered
  intro t u le first last
  exact (counts_iff le).mpr (narrow t u first last)

theorem admitted_from_le (ordered : times.Pairwise (· ≤ ·)) (start : Instant) :
    (admitted times).countP (fun t => start ≤ t ∧ t < start + second) ≤ simulationRateLimit := by
  apply admitted_window_le ordered
  intro t u first last
  rw [decide_eq_true_eq] at first last
  exact last.2.trans_le (Nat.add_le_add_right first.1 _)

theorem admitted_to_le (ordered : times.Pairwise (· ≤ ·)) (start : Instant) :
    (admitted times).countP (fun t => start < t ∧ t ≤ start + second) ≤ simulationRateLimit := by
  apply admitted_window_le ordered
  intro t u first last
  rw [decide_eq_true_eq] at first last
  exact last.2.trans_lt (Nat.add_lt_add_right first.1 _)

theorem refused_iff (ordered : before.Pairwise (· ≤ ·)) (ended : ∀ t ∈ before, t ≤ now) :
    answerAfter before now = tooManyRequests ↔
      (admitted before).countP (fun t => t ≤ now ∧ now < t + second) = simulationRateLimit := by
  have most : (admitted before).countP (fun t => t ≤ now ∧ now < t + second) ≤ simulationRateLimit := by
    apply admitted_window_le ordered
    intro t u first last
    rw [decide_eq_true_eq] at first last
    exact last.1.trans_lt first.2
  have counted : (admitted before).countP (counts now) =
      (admitted before).countP (fun t => t ≤ now ∧ now < t + second) := by
    apply List.countP_congr
    intro t member
    have early := ended t (letThrough_sublist.subset member)
    rw [counts_iff early, decide_eq_true_eq, and_iff_right early]
  unfold answerAfter
  rw [limiter.no_iff, limiter.counting_eq counts_expires rfl ordered ended, ← List.countP_eq_length_filter]
  change simulationRateLimit ≤ (admitted before).countP (counts now) ↔ _
  rw [counted]
  exact ⟨fun least => most.antisymm least, fun same => same.ge⟩

end AppState

open AppState

/-- Of requests in the order of their times at most five are let through in any half-open second. One is refused
    exactly if five were let through within the second before it, and leaves no trace: without it every other one
    is answered as it is with it. -/
theorem simulation_rate_limited (times : List Instant) (ordered : times.Pairwise (· ≤ ·)) :
    (∀ start, (admitted times).countP (fun t => start ≤ t ∧ t < start + second) ≤ simulationRateLimit ∧
      (admitted times).countP (fun t => start < t ∧ t ≤ start + second) ≤ simulationRateLimit) ∧
    ∀ before now later, times = before ++ now :: later →
      (answerAfter before now = .passed ∨ answerAfter before now = tooManyRequests) ∧
      (answerAfter before now = tooManyRequests ↔
        (admitted before).countP (fun t => t ≤ now ∧ now < t + second) = simulationRateLimit) ∧
      (answerAfter before now = tooManyRequests →
        answers checkSimulationRate (before ++ later) {} = answers checkSimulationRate before {} ++
          answers checkSimulationRate later (after checkSimulationRate (before ++ [now]) {})) := by
  constructor
  · intro start
    exact ⟨admitted_from_le ordered start, admitted_to_le ordered start⟩
  · intro before now later whole
    subst whole
    obtain ⟨front, -, least⟩ := List.pairwise_append.mp ordered
    have ended : ∀ t ∈ before, t ≤ now := fun t member => least t member now List.mem_cons_self
    have answered : answerAfter before now = .passed ∨ answerAfter before now = tooManyRequests := by
      unfold answerAfter checkSimulationRate
      dsimp only
      split
      · exact .inr rfl
      · exact .inl rfl
    exact ⟨answered, refused_iff front ended, limiter.refused_forgotten counts_expires rfl ordered⟩

/-- The sixth request of a burst is refused, the next one a second after the burst is not. -/
theorem simulation_rate_limited_burst :
    let times := [0, 0, 0, 0, 0, second - 1, second]
    admitted times = [0, 0, 0, 0, 0, second] ∧
      (∀ start, (admitted times).countP (fun t => start ≤ t ∧ t < start + second) ≤ simulationRateLimit) ∧
      answers checkSimulationRate [0, 0, 0, 0, 0, second] {} = answers checkSimulationRate [0, 0, 0, 0, 0] {} ++
        answers checkSimulationRate [second] (after checkSimulationRate [0, 0, 0, 0, 0, second - 1] {}) := by
  intro times
  obtain ⟨windows, requests⟩ := simulation_rate_limited times (by decide)
  have sixth := requests [0, 0, 0, 0, 0] (second - 1) [second] rfl
  exact ⟨by decide, fun start => (windows start).1, sixth.2.2 (by decide)⟩

end Rieko
