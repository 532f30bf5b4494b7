import Rieko.Lib.Backoff
import Mathlib.Algebra.Order.Ring.Int

namespace Rieko

/-- A UTC instant, in nanoseconds since the Unix epoch. -/
abbrev DateTime := Int

def nanosPerSecond : Int := 1000000000

/-- A non-negative span of time as the standard library measures it, in nanoseconds. -/
abbrev StdDuration := Nat

def StdDuration.limit : Nat := 2^64 * 1000000000

def StdDuration.checkedMul (delay : StdDuration) (factor : Nat) : Option StdDuration :=
  Backoff.checkedMul StdDuration.limit delay factor

/-- A signed span of time as the calendar library measures it, in nanoseconds. -/
abbrev TimeDelta := Int

/-- The calendar library represents spans of at most `i64::MAX` milliseconds. -/
def TimeDelta.fromStd (duration : StdDuration) : Option TimeDelta :=
  if duration ≤ (2^63 - 1) * 1000000 then some duration else none

theorem TimeDelta.fromStd_eq {duration : StdDuration} {span : TimeDelta} (fits : fromStd duration = some span) :
    span = (duration : Int) :=
  (Option.some.inj (Option.ite_none_right_eq_some.mp fits).2).symm

def DateTime.minUtc : DateTime := -8334601228800 * nanosPerSecond

def DateTime.maxUtc : DateTime := 8210266876799 * nanosPerSecond + 999999999

/-- `now - delta`; nothing where the subtraction leaves the calendar and panics. -/
def DateTime.checkedSub (now : DateTime) (delta : TimeDelta) : Option DateTime :=
  if DateTime.minUtc ≤ now - delta ∧ now - delta ≤ DateTime.maxUtc then some (now - delta) else none

def latestBy {α : Type} (instant : α → DateTime) : List α → Option α
  | [] => none
  | a :: items => match latestBy instant items with
    | some later => if instant a < instant later then some later else some a
    | none => some a

theorem latestBy_map {α β : Type} (f : α → β) (instant : β → DateTime) (items : List α) :
    latestBy instant (items.map f) = (latestBy (instant ∘ f) items).map f := by
  induction items with
  | nil => rfl
  | cons a items ih =>
    rw [List.map_cons, latestBy, latestBy, ih]
    cases latestBy (instant ∘ f) items with
    | none => rfl
    | some later => by_cases less : instant (f a) < instant (f later) <;> simp [less]

theorem latestBy_eq_none {α : Type} {instant : α → DateTime} {items : List α} :
    latestBy instant items = none ↔ items = [] := by
  cases items with
  | nil => simp [latestBy]
  | cons a items =>
    unfold latestBy
    cases latestBy instant items with
    | none => simp
    | some later => by_cases less : instant a < instant later <;> simp [less]

end Rieko
