import Rieko.Lib.Interleaving
import Rieko.Status.State

namespace Rieko

open Interleaving Transition

inductive Poller where
  | greenfield | bitcoinCore | lnd
deriving DecidableEq, Repr

inductive PollUpdate where
  | greenfieldAttempt
  | greenfieldSnapshot (snapshot : NodeSnapshot)
  | greenfieldFailure
  | bitcoinCoreAttempt
  | bitcoinCoreSuccess (snapshot : BitcoinCoreSnapshot)
  | bitcoinCoreFailure
  | lndAttempt
  | lndSuccess (snapshot : LightningSnapshot)
  | lndFailure
deriving DecidableEq, Repr

namespace PollUpdate

def poller : PollUpdate → Poller
  | greenfieldAttempt | greenfieldSnapshot _ | greenfieldFailure => .greenfield
  | bitcoinCoreAttempt | bitcoinCoreSuccess _ | bitcoinCoreFailure => .bitcoinCore
  | lndAttempt | lndSuccess _ | lndFailure => .lnd

def isAttemptOrFailure : PollUpdate → Bool
  | greenfieldSnapshot _ | bitcoinCoreSuccess _ | lndSuccess _ => false
  | _ => true

def apply (update : PollUpdate) (now : DateTime) (state : OperationalState) : OperationalState :=
  match update with
  | greenfieldAttempt =>
    { state with
      source := .btcPayGreenfield (state.source = .btcPayGreenfield true)
      lastIngestionAttempt := some now }
  | greenfieldSnapshot snapshot =>
    { state with
      source := .btcPayGreenfield true
      lastIngestionSuccess := some now
      lastPersistSuccess := some now
      sourceDataAt := some snapshot.capturedAt }
  | greenfieldFailure => { state with source := .btcPayGreenfield false }
  | bitcoinCoreAttempt =>
    { state with bitcoinCore := match state.bitcoinCore with
      | some core => some { core with lastAttempt := now }
      | none => some { connected := false, lastAttempt := now, lastSuccess := none, snapshot := none } }
  | bitcoinCoreSuccess snapshot =>
    { state with
      bitcoinCore := some {
        connected := true
        lastAttempt := (state.bitcoinCore.map (·.lastAttempt)).getD now
        lastSuccess := some now
        snapshot := some snapshot }
      lastPersistSuccess := some now }
  | bitcoinCoreFailure =>
    { state with bitcoinCore := match state.bitcoinCore with
      | some core => some { core with connected := false }
      | none => some { connected := false, lastAttempt := now, lastSuccess := none, snapshot := none } }
  | lndAttempt =>
    { state with lightning := match state.lightning with
      | some lightning => some { lightning with lastAttempt := now }
      | none => some { connected := false, lastAttempt := now, lastSuccess := none, snapshot := none } }
  | lndSuccess snapshot =>
    { state with
      lightning := some {
        connected := true
        lastAttempt := (state.lightning.map (·.lastAttempt)).getD now
        lastSuccess := some now
        snapshot := some snapshot }
      lastPersistSuccess := some now }
  | lndFailure =>
    { state with lightning := match state.lightning with
      | some lightning => some { lightning with connected := false }
      | none => some { connected := false, lastAttempt := now, lastSuccess := none, snapshot := none } }

end PollUpdate

structure GreenfieldPart where
  source : SourceState
  lastIngestionAttempt : Option DateTime
  lastIngestionSuccess : Option DateTime
  sourceDataAt : Option DateTime
deriving DecidableEq, Repr

abbrev Poller.Part : Poller → Type
  | greenfield => GreenfieldPart
  | bitcoinCore => Option BitcoinCoreState
  | lnd => Option LightningState

namespace OperationalState

def part (poller : Poller) (state : OperationalState) : poller.Part :=
  match poller with
  | .greenfield =>
    ⟨state.source, state.lastIngestionAttempt, state.lastIngestionSuccess, state.sourceDataAt⟩
  | .bitcoinCore => state.bitcoinCore
  | .lnd => state.lightning

def polled (state : OperationalState) (stamped : PollUpdate × DateTime) : OperationalState :=
  stamped.1.apply stamped.2 state

theorem polled_separate :
    Separate (fun poller state => part poller state) (fun stamped => stamped.1.poller) polled where
  own stamped s t same := by
    obtain ⟨update, now⟩ := stamped
    cases update with
    | greenfieldAttempt | greenfieldSnapshot _ | greenfieldFailure =>
      obtain ⟨source, attempt, success, dataAt⟩ := GreenfieldPart.mk.inj same
      simp only [part, PollUpdate.poller, polled, PollUpdate.apply, source, attempt, success, dataAt]
    | bitcoinCoreAttempt | bitcoinCoreSuccess _ | bitcoinCoreFailure =>
      have core : s.bitcoinCore = t.bitcoinCore := same
      simp only [part, PollUpdate.poller, polled, PollUpdate.apply, core]
    | lndAttempt | lndSuccess _ | lndFailure =>
      have lightning : s.lightning = t.lightning := same
      simp only [part, PollUpdate.poller, polled, PollUpdate.apply, lightning]
  others stamped s poller other := by
    obtain ⟨update, now⟩ := stamped
    cases update <;> cases poller <;> first | rfl | exact absurd rfl other

structure Sound (state : OperationalState) : Prop where
  bitcoinCore : ∀ core, state.bitcoinCore = some core → core.connected = true →
    core.snapshot ≠ none ∧ core.lastSuccess ≠ none
  lightning : ∀ lightning, state.lightning = some lightning → lightning.connected = true →
    lightning.snapshot ≠ none ∧ lightning.lastSuccess ≠ none
  greenfield : state.source = .btcPayGreenfield true → state.lastIngestionSuccess ≠ none

theorem Sound.new : Sound {} where
  bitcoinCore _ absent := by cases absent
  lightning _ absent := by cases absent
  greenfield fixture := by cases fixture

theorem Sound.polled {state : OperationalState} (sound : state.Sound) (stamped : PollUpdate × DateTime) :
    (state.polled stamped).Sound := by
  obtain ⟨update, now⟩ := stamped
  obtain ⟨bitcoinCore, lightning, greenfield⟩ := sound
  cases update with
  | greenfieldAttempt =>
    refine ⟨bitcoinCore, lightning, fun connected => greenfield ?_⟩
    injection connected with connected
    exact of_decide_eq_true connected
  | greenfieldSnapshot _ => exact ⟨bitcoinCore, lightning, fun _ => Option.some_ne_none _⟩
  | greenfieldFailure => exact ⟨bitcoinCore, lightning, fun connected => by cases connected⟩
  | bitcoinCoreSuccess _ =>
    refine ⟨fun core found _ => ?_, lightning, greenfield⟩
    cases found
    exact ⟨Option.some_ne_none _, Option.some_ne_none _⟩
  | bitcoinCoreAttempt | bitcoinCoreFailure =>
    refine ⟨fun core found connected => ?_, lightning, greenfield⟩
    cases before : state.bitcoinCore with
    | none =>
      simp only [OperationalState.polled, PollUpdate.apply, before, Option.some.injEq] at found
      subst found
      cases connected
    | some earlier =>
      simp only [OperationalState.polled, PollUpdate.apply, before, Option.some.injEq] at found
      subst found
      first
        | exact bitcoinCore earlier before connected
        | cases connected
  | lndSuccess _ =>
    refine ⟨bitcoinCore, fun lightning found _ => ?_, greenfield⟩
    cases found
    exact ⟨Option.some_ne_none _, Option.some_ne_none _⟩
  | lndAttempt | lndFailure =>
    refine ⟨bitcoinCore, fun later found connected => ?_, greenfield⟩
    cases before : state.lightning with
    | none =>
      simp only [OperationalState.polled, PollUpdate.apply, before, Option.some.injEq] at found
      subst found
      cases connected
    | some earlier =>
      simp only [OperationalState.polled, PollUpdate.apply, before, Option.some.injEq] at found
      subst found
      first
        | exact lightning earlier before connected
        | cases connected

structure SameSuccesses (s t : OperationalState) : Prop where
  coreSnapshot : t.bitcoinCore.bind (·.snapshot) = s.bitcoinCore.bind (·.snapshot)
  coreSuccess : t.bitcoinCore.bind (·.lastSuccess) = s.bitcoinCore.bind (·.lastSuccess)
  lightningSnapshot : t.lightning.bind (·.snapshot) = s.lightning.bind (·.snapshot)
  lightningSuccess : t.lightning.bind (·.lastSuccess) = s.lightning.bind (·.lastSuccess)
  ingestionSuccess : t.lastIngestionSuccess = s.lastIngestionSuccess
  sourceDataAt : t.sourceDataAt = s.sourceDataAt

theorem SameSuccesses.polled (state : OperationalState) {stamped : PollUpdate × DateTime}
    (unsuccessful : stamped.1.isAttemptOrFailure = true) : SameSuccesses state (state.polled stamped) := by
  obtain ⟨update, now⟩ := stamped
  cases update with
  | greenfieldSnapshot _ | bitcoinCoreSuccess _ | lndSuccess _ => cases unsuccessful
  | greenfieldAttempt | greenfieldFailure => exact ⟨rfl, rfl, rfl, rfl, rfl, rfl⟩
  | bitcoinCoreAttempt | bitcoinCoreFailure =>
    cases before : state.bitcoinCore <;> constructor <;>
      simp only [OperationalState.polled, PollUpdate.apply, before] <;> rfl
  | lndAttempt | lndFailure =>
    cases before : state.lightning <;> constructor <;>
      simp only [OperationalState.polled, PollUpdate.apply, before] <;> rfl

end OperationalState

end Rieko
