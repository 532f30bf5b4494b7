import Rieko.Lib.Rows
import Rieko.Lib.Transition
import Rieko.Storage.Types

namespace Rieko

structure WatchState where
  limit : Nat
  observed : HashMap FindingLifecycle

namespace WatchState

def new (limit : Nat) : WatchState where
  limit
  observed := ∅

def meaningfulChange (state : WatchState) (finding : Finding) : Bool :=
  match state.observed.lookup finding.id with
  | none => true
  | some lifecycle => lifecycle ≠ finding.lifecycle

def compare (state : WatchState) (seen : HashMap FindingLifecycle × List Finding) (finding : Finding) :
    HashMap FindingLifecycle × List Finding :=
  (seen.1.insert finding.id finding.lifecycle,
    if state.meaningfulChange finding then seen.2 ++ [finding] else seen.2)

def observe (state : WatchState) (findings : List Finding) : List Finding × WatchState :=
  let seen := (findings.take state.limit).foldl state.compare (∅, [])
  (seen.2, { state with observed := seen.1 })

variable {state : WatchState} {seen : HashMap FindingLifecycle × List Finding} {findings : List Finding}

theorem meaningfulChange_iff {finding : Finding} :
    state.meaningfulChange finding = true ↔ state.observed.lookup finding.id ≠ some finding.lifecycle := by
  unfold meaningfulChange
  cases state.observed.lookup finding.id <;> simp

theorem compare_changed :
    (findings.foldl state.compare seen).2 = seen.2 ++ findings.filter state.meaningfulChange := by
  induction findings generalizing seen with
  | nil => simp
  | cons finding findings ih =>
    rw [List.foldl_cons, ih, List.filter_cons]
    by_cases changed : state.meaningfulChange finding = true
    · simp [compare, changed]
    · simp [compare, changed]

theorem compare_lookup (unique : Rows.Keyed Finding.id findings) (id : String) :
    (findings.foldl state.compare seen).1.lookup id =
      ((Rows.lookup Finding.id findings id).map (·.lifecycle)).or (seen.1.lookup id) := by
  induction findings generalizing seen with
  | nil => simp [Rows.lookup]
  | cons finding findings ih =>
    unfold Rows.Keyed at unique
    rw [List.map_cons, List.nodup_cons] at unique
    rw [List.foldl_cons, ih unique.2, Rows.lookup_cons]
    by_cases here : finding.id = id
    · have gone : Rows.lookup Finding.id findings id = none :=
        Rows.lookup_eq_none.mpr fun later stored also =>
          unique.1 (here.trans also.symm ▸ List.mem_map_of_mem stored)
      simp [compare, gone, here]
    · simp [compare, here, AList.lookup_insert_ne (Ne.symm here)]

theorem compare_length : (findings.foldl state.compare seen).1.keys.length ≤ seen.1.keys.length + findings.length := by
  induction findings generalizing seen with
  | nil => simp
  | cons finding findings ih =>
    have grown : (state.compare seen finding).1.keys.length ≤ seen.1.keys.length + 1 := by
      simp only [compare, AList.keys_insert, List.length_cons]
      have erased := List.length_erase_le (a := finding.id) (l := seen.1.keys)
      omega
    have rest := @ih (state.compare seen finding)
    rw [List.foldl_cons, List.length_cons]
    omega

theorem observe_changed : (state.observe findings).1 = (findings.take state.limit).filter state.meaningfulChange := by
  simp [observe, compare_changed]

theorem observe_lookup (unique : Rows.Keyed Finding.id (findings.take state.limit)) (id : String) :
    (state.observe findings).2.observed.lookup id =
      (Rows.lookup Finding.id (findings.take state.limit) id).map (·.lifecycle) := by
  simp [observe, compare_lookup unique]

theorem observe_bounded : (state.observe findings).2.observed.keys.length ≤ state.limit := by
  have grown := @compare_length state (∅, []) (findings.take state.limit)
  have taken := List.length_take_le state.limit findings
  simp only [AList.keys_empty, List.length_nil] at grown
  show (((findings.take state.limit).foldl state.compare (∅, [])).1).keys.length ≤ state.limit
  omega

end WatchState

structure Watch where
  state : WatchState
  output : List Finding

def Watch.poll (client : Watch) (findings : List Finding) : Watch where
  state := (client.state.observe findings).2
  output := client.output ++ (client.state.observe findings).1

def watch (limit : Nat) (polls : List (List Finding)) : Watch := Transition.run Watch.poll ⟨.new limit, []⟩ polls

def previousPoll (limit : Nat) (polls : List (List Finding)) : List Finding := (polls.getLast?.getD []).take limit

def lastEmission (output : List Finding) (id : String) : Option Finding := Rows.lookup Finding.id output.reverse id

theorem lastEmission_append {output changed : List Finding} (unique : Rows.Keyed Finding.id changed) (id : String) :
    lastEmission (output ++ changed) id = (Rows.lookup Finding.id changed id).or (lastEmission output id) := by
  unfold lastEmission
  rw [List.reverse_append, ← Rows.lookup_reverse unique]
  exact List.find?_append

/-- Whether a finding is due: the window of the poll before does not show it, or it was last written otherwise. -/
def isDue (output window : List Finding) (finding : Finding) : Bool :=
  finding.id ∉ window.map Finding.id ∨ (lastEmission output finding.id).any fun earlier =>
    earlier.lifecycle ≠ finding.lifecycle

namespace Watch

structure Remembers (limit : Nat) (polls : List (List Finding)) (client : Watch) : Prop where
  limited : client.state.limit = limit
  bounded : client.state.observed.keys.length ≤ limit
  compared : ∀ id, client.state.observed.lookup id =
    (Rows.lookup Finding.id (previousPoll limit polls) id).map (·.lifecycle)
  written : ∀ id lifecycle, client.state.observed.lookup id = some lifecycle →
    ∃ earlier, lastEmission client.output id = some earlier ∧ earlier.lifecycle = lifecycle

variable {limit : Nat} {polls : List (List Finding)} {client : Watch} {findings : List Finding}

theorem lookup_changed {finding : Finding} (unique : Rows.Keyed Finding.id (findings.take client.state.limit))
    (member : finding ∈ findings.take client.state.limit) :
    Rows.lookup Finding.id (client.state.observe findings).1 finding.id =
      if client.state.meaningfulChange finding then some finding else none := by
  rw [WatchState.observe_changed]
  split
  next changed =>
    apply Rows.lookup_of_mem
    · exact unique.sublist List.filter_sublist
    · exact List.mem_filter.mpr ⟨member, changed⟩
  next unchanged =>
    apply Rows.lookup_eq_none.mpr
    intro other listed same
    obtain ⟨prior, changed⟩ := List.mem_filter.mp listed
    have itself : other = finding := List.inj_on_of_nodup_map unique prior member same
    exact unchanged (itself ▸ changed)

theorem Remembers.poll (remembers : Remembers limit polls client) (distinct : Rows.Keyed Finding.id findings) :
    Remembers limit (polls ++ [findings]) (client.poll findings) := by
  have window : previousPoll limit (polls ++ [findings]) = findings.take client.state.limit := by
    simp [previousPoll, remembers.limited]
  have unique : Rows.Keyed Finding.id (findings.take client.state.limit) :=
    distinct.sublist (List.take_sublist _ _)
  have compared := WatchState.observe_lookup unique
  constructor
  · exact remembers.limited
  · exact WatchState.observe_bounded.trans remembers.limited.le
  · intro id
    rw [window]
    exact compared id
  · intro id lifecycle remembered
    obtain ⟨finding, found, rfl⟩ := Option.map_eq_some_iff.mp ((compared id).symm.trans remembered)
    obtain rfl := Rows.key_of_lookup found
    have changedUnique : Rows.Keyed Finding.id (client.state.observe findings).1 := by
      rw [WatchState.observe_changed]
      exact unique.sublist List.filter_sublist
    simp only [Watch.poll, lastEmission_append changedUnique,
      lookup_changed unique (Rows.mem_of_lookup found)]
    by_cases changed : client.state.meaningfulChange finding = true
    · exact ⟨finding, by simp [changed], rfl⟩
    · have kept := Classical.not_not.mp (mt WatchState.meaningfulChange_iff.mpr changed)
      obtain ⟨earlier, last, same⟩ := remembers.written finding.id finding.lifecycle kept
      exact ⟨earlier, by simp [changed, last], same⟩

theorem Remembers.isDue_eq (remembers : Remembers limit polls client) (finding : Finding) :
    client.state.meaningfulChange finding = isDue client.output (previousPoll limit polls) finding := by
  have shown : finding.id ∈ (previousPoll limit polls).map Finding.id ↔
      client.state.observed.lookup finding.id ≠ none := by
    rw [remembers.compared, ne_eq, Option.map_eq_none_iff, Rows.lookup_eq_none]
    simp
  apply Bool.eq_iff_iff.mpr
  rw [WatchState.meaningfulChange_iff]
  cases remembered : client.state.observed.lookup finding.id with
  | none => simp [isDue, shown, remembered]
  | some lifecycle =>
    obtain ⟨earlier, last, rfl⟩ := remembers.written finding.id lifecycle remembered
    simp [isDue, shown, remembered, last]

theorem remembers_watch (limit : Nat) (distinct : ∀ findings ∈ polls, Rows.Keyed Finding.id findings) :
    Remembers limit polls (watch limit polls) := by
  induction polls using List.reverseRecOn with
  | nil => exact ⟨rfl, Nat.zero_le limit, by simp [watch, Transition.run, WatchState.new, previousPoll, Rows.lookup],
      by simp [watch, Transition.run, WatchState.new]⟩
  | append_singleton polls findings ih =>
    have before := ih fun prior listed => distinct prior (by simp [listed])
    have step : watch limit (polls ++ [findings]) = (watch limit polls).poll findings :=
      Transition.run_append _ polls [findings]
    rw [step]
    exact before.poll (distinct findings (by simp))

end Watch

/-- A poll writes, once and in their order, those of its first findings that the poll before did not show or whose
    lifecycle is not the one that was last written. What falls out of a poll's first findings is forgotten. -/
theorem watch_writes_changes (limit : Nat) (polls : List (List Finding)) (findings : List Finding)
    (distinct : ∀ poll ∈ polls ++ [findings], Rows.Keyed Finding.id poll) :
    let client := watch limit polls
    let written := (client.state.observe findings).1
    (watch limit (polls ++ [findings])).state.observed.keys.length ≤ limit ∧
      written = (findings.take limit).filter (isDue client.output (previousPoll limit polls)) ∧
      Rows.Keyed Finding.id written ∧
      ∀ earlier later, later ∈ written → lastEmission client.output later.id = some earlier →
        later.id ∈ (previousPoll limit polls).map Finding.id → earlier.lifecycle ≠ later.lifecycle := by
  intro client written
  have before : ∀ poll ∈ polls, Rows.Keyed Finding.id poll := fun poll listed => distinct poll (by simp [listed])
  have remembers := Watch.remembers_watch limit before
  have emitted : written = (findings.take limit).filter (isDue client.output (previousPoll limit polls)) := by
    have due : client.state.meaningfulChange = isDue client.output (previousPoll limit polls) :=
      funext remembers.isDue_eq
    have taken : client.state.limit = limit := remembers.limited
    rw [← due, ← taken]
    exact WatchState.observe_changed
  have keyed : Rows.Keyed Finding.id findings := distinct findings (by simp)
  refine ⟨(Watch.remembers_watch limit distinct).bounded, emitted, ?_, fun earlier later listed last shown => ?_⟩
  · rw [emitted]
    exact keyed.sublist (List.filter_sublist.trans (List.take_sublist _ _))
  · rw [emitted] at listed
    have due := (List.mem_filter.mp listed).2
    simpa [isDue, shown, last] using due

theorem watch_writes_changes_resolved :
    let active := Finding.bare "finding" "channel_liquidity" 0
    let other := Finding.bare "other" "channel_liquidity" 0
    let resolved := { active with lifecycle := .resolved }
    ((watch 50 [[active, other], [active, other]]).state.observe [resolved, other]).1 = [resolved] := by
  intro active other resolved
  have laws := watch_writes_changes 50 [[active, other], [active, other]] [resolved, other]
    (by simp [Rows.Keyed, active, other, resolved, Finding.bare])
  exact laws.2.1.trans rfl

/-- With room for one finding, a finding that another one pushes out is written again when it is back. -/
theorem returning_finding_written_again :
    ¬∀ (limit : Nat) (polls : List (List Finding)) (findings : List Finding),
      (∀ poll ∈ polls ++ [findings], Rows.Keyed Finding.id poll) →
      ∀ earlier later, later ∈ ((watch limit polls).state.observe findings).1 →
        lastEmission (watch limit polls).output later.id = some earlier → earlier.lifecycle ≠ later.lifecycle := by
  intro never
  let first := Finding.bare "first" "channel_liquidity" 0
  let second := Finding.bare "second" "channel_liquidity" 1
  have written : ((watch 1 [[first], [second]]).state.observe [first]).1 = [first] := rfl
  exact never 1 [[first], [second]] [first] (by simp [Rows.Keyed]) first first (written ▸ List.mem_singleton_self first)
    rfl rfl

end Rieko
