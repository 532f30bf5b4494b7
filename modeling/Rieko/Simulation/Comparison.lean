import Rieko.Lib.Binary64Order
import Rieko.Simulation.Service

namespace Rieko

open StatefulResult

structure CompareSimulationsCommand where
  leftSimulationId : String
  rightSimulationId : String
deriving DecidableEq, Repr

structure SimulationComparison where
  recommendationId : String
  left : SimulationView
  right : SimulationView
  projectedLocalRatioDelta : Binary64
  projectedLocalBalanceDeltaMsat : Int
  noActionExecuted : Bool
  freshnessDeltaSeconds : Int
  confidenceLeft : SimulationConfidence
  confidenceRight : SimulationConfidence
  warningsLeft : Nat
  warningsRight : Nat
deriving DecidableEq, Repr

structure SimulationReport where
  riekoVersion : String
  modelId : String
  modelVersion : String
  simulationId : String
  inputHash : String
  recommendationId : String
  findingId : String
  snapshotObservedAt : DateTime
  parameters : LiquidityRedistributionParameters
  baseline : Option ProjectedState
  projected : Option ProjectedState
  deltas : List ProjectedDelta
  assumptions : List Assumption
  warnings : List SimulationWarning
  confidence : SimulationConfidence
  stale : Bool
  explanation : String
  generatedAt : DateTime
  noActionExecuted : Bool
deriving DecidableEq, Repr

class ReplayStorage (σ : Type) extends SimulationStorage σ where
  recentReplayableSimulationsV2 (limit : Nat) : EStateM StorageError σ (List SimulationRecord)
  replayableSimulationV2ById (simulationId : String) : EStateM StorageError σ (Option SimulationRecord)

instance : ReplayStorage MemoryStorage where
  recentReplayableSimulationsV2 := MemoryStorage.recentReplayableSimulationsV2
  replayableSimulationV2ById := MemoryStorage.replayableSimulationV2ById

def MemoryStorage.replayable (s : MemoryStorage) (simulationId : String) : Option SimulationRecord :=
  s.simulationRecords.find? fun record => record.id = simulationId ∧ !record.canonicalInput.isNull

namespace SimulationService

def incompatible : PlainError :=
  .new .incompatibleSimulations "simulations must be completed projections for the same recommendation and model"

def incomparableBalances : PlainError :=
  .new .incompatibleSimulations "projected balance difference exceeds the supported comparison range"

/-- The whole seconds of a span, cut off towards zero. -/
def numSeconds (delta : TimeDelta) : Int := Int.tdiv delta nanosPerSecond

def comparison (left right : SimulationView) (leftResult rightResult : SimulationResult) : SimulationComparison where
  recommendationId := left.recommendationId
  left := left
  right := right
  projectedLocalRatioDelta := rightResult.projected.localRatio.sub leftResult.projected.localRatio
  projectedLocalBalanceDeltaMsat := rightResult.projected.localBalanceMsat - leftResult.projected.localBalanceMsat
  noActionExecuted := true
  freshnessDeltaSeconds := numSeconds (right.sourceObservedAt - left.sourceObservedAt)
  confidenceLeft := leftResult.confidence
  confidenceRight := rightResult.confidence
  warningsLeft := leftResult.warnings.length
  warningsRight := rightResult.warnings.length

def FitsI64 (n : Int) : Prop := -2^63 ≤ n ∧ n < 2^63

instance : DecidablePred FitsI64 := fun _ => inferInstanceAs (Decidable (_ ∧ _))

def compareViews (left right : SimulationView) : Except PlainError SimulationComparison :=
  match left.result, right.result with
  | some leftResult, some rightResult =>
    if left.recommendationId ≠ right.recommendationId ∨ left.modelId ≠ right.modelId ∨
        left.modelVersion ≠ right.modelVersion then .error incompatible
    else
      let compared := comparison left right leftResult rightResult
      if FitsI64 compared.projectedLocalBalanceDeltaMsat then .ok compared else .error incomparableBalances
  | _, _ => .error incompatible

def simulationReport (view : SimulationView) (version : String) (now : DateTime) : SimulationReport where
  riekoVersion := version
  modelId := view.modelId
  modelVersion := view.modelVersion
  simulationId := view.id
  inputHash := view.inputHash
  recommendationId := view.recommendationId
  findingId := view.findingId
  snapshotObservedAt := view.sourceObservedAt
  parameters := view.parameters
  baseline := view.result.map (·.baseline)
  projected := view.result.map (·.projected)
  deltas := (view.result.map (·.deltas)).getD []
  assumptions := (view.result.map (·.assumptions)).getD []
  warnings := (view.result.map (·.warnings)).getD []
  confidence := view.confidence
  stale := view.stale
  explanation := view.explanation
  generatedAt := now
  noActionExecuted := view.noActionExecuted

section Queries

variable {σ : Type} [ReplayStorage σ] (ext : SimulationExternal)

def viewOf (now : DateTime) : Option SimulationRecord → Except PlainError (Option SimulationView)
  | some record => (simulationView ext record now).map some
  | none => .ok none

def getSimulation (simulationId : String) (now : DateTime) : EStateM PlainError σ (Option SimulationView) := do
  let record ← stored (ReplayStorage.replayableSimulationV2ById simulationId)
  ofExcept (viewOf ext now record)

/-- The views of some records, of which the first is made at reading `reading` of the clock. -/
def viewsFrom (clock : Nat → DateTime) : Nat → List SimulationRecord → Except PlainError (List SimulationView)
  | _, [] => .ok []
  | reading, record :: records => do
    let view ← simulationView ext record (clock reading)
    let views ← viewsFrom clock (reading + 1) records
    return view :: views

def listSimulations (limit : Nat) (clock : Nat → DateTime) : EStateM PlainError σ (List SimulationView) := do
  let records ← stored (ReplayStorage.recentReplayableSimulationsV2 limit)
  ofExcept (viewsFrom ext clock 0 records)

def foundSimulation (simulationId : String) (now : DateTime) : EStateM PlainError σ SimulationView := do
  let found ← getSimulation ext simulationId now
  ofExcept (okOr found (.new .simulationNotFound s!"no simulation with id {simulationId}"))

def compareSimulations (command : CompareSimulationsCommand) (leftAt rightAt : DateTime) :
    EStateM PlainError σ SimulationComparison := do
  if Text.isBlank command.leftSimulationId || Text.isBlank command.rightSimulationId then
    throw (.new .invalidRequest "simulation IDs cannot be empty")
  let left ← foundSimulation ext command.leftSimulationId leftAt
  let right ← foundSimulation ext command.rightSimulationId rightAt
  ofExcept (compareViews left right)

end Queries

section Views

variable {ext : SimulationExternal} {record : SimulationRecord} {now : DateTime}
  {left right view : SimulationView} {leftResult rightResult : SimulationResult}

structure Comparable (left right : SimulationView) : Prop where
  leftProjected : left.result.isSome = true
  rightProjected : right.result.isSome = true
  recommendation : left.recommendationId = right.recommendationId
  model : left.modelId = right.modelId
  version : left.modelVersion = right.modelVersion

theorem compareViews_eq (projected : left.result = some leftResult) (projected' : right.result = some rightResult)
    (comparable : Comparable left right) :
    compareViews left right =
      if FitsI64 (comparison left right leftResult rightResult).projectedLocalBalanceDeltaMsat then
        .ok (comparison left right leftResult rightResult)
      else .error incomparableBalances := by
  have same : ¬(left.recommendationId ≠ right.recommendationId ∨ left.modelId ≠ right.modelId ∨
      left.modelVersion ≠ right.modelVersion) := by
    rintro (other | other | other)
    · exact other comparable.recommendation
    · exact other comparable.model
    · exact other comparable.version
  unfold compareViews
  rw [projected, projected']
  exact if_neg same

theorem compareViews_ok {compared : SimulationComparison} (ran : compareViews left right = .ok compared) :
    Comparable left right ∧ ∃ leftResult rightResult, left.result = some leftResult ∧
      right.result = some rightResult ∧ compared = comparison left right leftResult rightResult ∧
      FitsI64 compared.projectedLocalBalanceDeltaMsat := by
  unfold compareViews at ran
  split at ran
  next leftResult rightResult projected projected' =>
    split at ran
    next => cases ran
    next same =>
      simp only [not_or, not_not] at same
      dsimp only at ran
      split at ran
      next fits =>
        cases ran
        exact ⟨⟨by rw [projected]; rfl, by rw [projected']; rfl, same.1, same.2.1, same.2.2⟩, leftResult, rightResult,
          projected, projected', rfl, fits⟩
      next => cases ran
  next => cases ran

theorem numSeconds_eq (delta : Int) :
    numSeconds delta = if 0 ≤ delta then delta / 1000000000 else -(-delta / 1000000000) := by
  unfold numSeconds nanosPerSecond
  split
  next forward => exact Int.tdiv_eq_ediv_of_nonneg forward
  next backward =>
    have ahead : 0 ≤ -delta := by omega
    rw [← Int.tdiv_eq_ediv_of_nonneg ahead, Int.neg_tdiv, neg_neg]

theorem numSeconds_neg (delta : Int) : numSeconds (-delta) = -numSeconds delta := by
  unfold numSeconds
  exact Int.neg_tdiv delta nanosPerSecond

/-- The parts of a span are cut off each on its own, which costs a second at most. -/
theorem numSeconds_add (first second : Int) :
    |numSeconds (first + second) - (numSeconds first + numSeconds second)| ≤ 1 := by
  rw [numSeconds_eq, numSeconds_eq, numSeconds_eq, abs_le]
  constructor <;> split <;> split <;> split <;> omega

def IsShare (ratio : Binary64) : Prop := ∃ c < 2047 * 2^52, ratio = .ofCode c

theorem IsShare.sub_swap {ratio other : Binary64} (share : IsShare ratio) (share' : IsShare other) :
    other.sub ratio = if ratio = other then ratio.sub other else (ratio.sub other).neg := by
  obtain ⟨c, finite, rfl⟩ := share
  obtain ⟨d, finite', rfl⟩ := share'
  have wide (q : ℚ) : Binary64.packCode q < 2^63 := by
    have bound := Binary64.packCode_le q
    omega
  have twice (e : Nat) (small : e < 2^63) : (Binary64.signed true e).neg = .ofCode e := by
    rw [← Binary64.neg_ofCode small]
    unfold Binary64.neg
    rw [BitVec.xor_assoc, BitVec.xor_self, BitVec.xor_zero]
  rw [Binary64.sub_ofCode finite finite', Binary64.sub_ofCode finite' finite]
  rcases lt_trichotomy c d with less | rfl | more
  · have apart : Binary64.ofCode c ≠ .ofCode d := fun same => by
      have equal := Binary64.ofCode_inj (by omega) (by omega) same
      omega
    rw [if_neg apart, if_pos less.le, if_neg (Nat.not_le.mpr less), twice _ (wide _)]
  · rw [if_pos rfl]
  · have apart : Binary64.ofCode c ≠ .ofCode d := fun same => by
      have equal := Binary64.ofCode_inj (by omega) (by omega) same
      omega
    rw [if_neg apart, if_neg (Nat.not_le.mpr more), if_pos more.le, Binary64.neg_ofCode (wide _)]

structure Reverses (there back : SimulationComparison) : Prop where
  recommendation : back.recommendationId = there.recommendationId
  sides : back.left.id = there.right.id ∧ back.right.id = there.left.id
  balance : back.projectedLocalBalanceDeltaMsat = -there.projectedLocalBalanceDeltaMsat
  freshness : back.freshnessDeltaSeconds = -there.freshnessDeltaSeconds
  confidences : back.confidenceLeft = there.confidenceRight ∧ back.confidenceRight = there.confidenceLeft
  warnings : back.warningsLeft = there.warningsRight ∧ back.warningsRight = there.warningsLeft
  ratio : ∀ leftResult rightResult, there.left.result = some leftResult → there.right.result = some rightResult →
    IsShare leftResult.projected.localRatio → IsShare rightResult.projected.localRatio →
    back.projectedLocalRatioDelta =
      if rightResult.projected.localRatio = leftResult.projected.localRatio then there.projectedLocalRatioDelta
      else there.projectedLocalRatioDelta.neg

/-- What the comparison over the ends of a chain owes to those of its links. -/
structure Composes (first second whole : SimulationComparison) : Prop where
  recommendation : whole.recommendationId = first.recommendationId
  sides : whole.left.id = first.left.id ∧ whole.right.id = second.right.id
  balance : whole.projectedLocalBalanceDeltaMsat =
    first.projectedLocalBalanceDeltaMsat + second.projectedLocalBalanceDeltaMsat
  freshness :
    |whole.freshnessDeltaSeconds - (first.freshnessDeltaSeconds + second.freshnessDeltaSeconds)| ≤ 1
  confidences : whole.confidenceLeft = first.confidenceLeft ∧ whole.confidenceRight = second.confidenceRight
  warnings : whole.warningsLeft = first.warningsLeft ∧ whole.warningsRight = second.warningsRight

structure SameRecord (view other : SimulationView) : Prop where
  id : other.id = view.id
  result : other.result = view.result
  recommendation : other.recommendationId = view.recommendationId
  model : other.modelId = view.modelId
  version : other.modelVersion = view.modelVersion
  observed : other.sourceObservedAt = view.sourceObservedAt

theorem simulationView_sameRecord (viewed : simulationView ext record now = .ok view) (later : DateTime) :
    ∃ other, simulationView ext record later = .ok other ∧ SameRecord view other := by
  obtain ⟨status, stale, again⟩ := simulationView_elsewhen viewed later
  exact ⟨_, again, rfl, rfl, rfl, rfl, rfl, rfl⟩

theorem compareViews_reverses {left' right' : SimulationView} {there : SimulationComparison}
    (ran : compareViews left right = .ok there) (sameLeft : SameRecord left left')
    (sameRight : SameRecord right right') :
    (there.projectedLocalBalanceDeltaMsat = -2^63 → compareViews right' left' = .error incomparableBalances) ∧
    (there.projectedLocalBalanceDeltaMsat ≠ -2^63 →
      ∃ back, compareViews right' left' = .ok back ∧ Reverses there back) := by
  obtain ⟨comparable, leftResult, rightResult, projected, projected', rfl, fits⟩ := compareViews_ok ran
  have comparable' : Comparable right' left' :=
    ⟨by rw [sameRight.result, projected']; rfl, by rw [sameLeft.result, projected]; rfl,
      by rw [sameRight.recommendation, sameLeft.recommendation, comparable.recommendation],
      by rw [sameRight.model, sameLeft.model, comparable.model],
      by rw [sameRight.version, sameLeft.version, comparable.version]⟩
  have turned := compareViews_eq (sameRight.result.trans projected') (sameLeft.result.trans projected) comparable'
  have negated : (comparison right' left' rightResult leftResult).projectedLocalBalanceDeltaMsat =
      -(comparison left right leftResult rightResult).projectedLocalBalanceDeltaMsat := (Int.neg_sub _ _).symm
  rw [turned, negated]
  unfold FitsI64 at fits ⊢
  constructor
  · intro least
    exact if_neg (by omega)
  · intro inside
    have named := sameRight.recommendation.trans comparable.recommendation.symm
    refine ⟨_, if_pos (by omega), named, ⟨sameRight.id, sameLeft.id⟩, negated, ?_, ⟨rfl, rfl⟩,
      ⟨rfl, rfl⟩, ?_⟩
    · show numSeconds (left'.sourceObservedAt - right'.sourceObservedAt) = _
      rw [sameLeft.observed, sameRight.observed, ← Int.neg_sub]
      exact numSeconds_neg _
    · intro l r shown shown' share share'
      cases projected.symm.trans shown
      cases projected'.symm.trans shown'
      exact share'.sub_swap share

theorem compareViews_composes {middle middle' left' right' : SimulationView} {first second : SimulationComparison}
    (ran : compareViews left middle = .ok first) (ran' : compareViews middle' right = .ok second)
    (sameLeft : SameRecord left left') (sameMiddle : SameRecord middle middle') (sameRight : SameRecord right right') :
    let balance := first.projectedLocalBalanceDeltaMsat + second.projectedLocalBalanceDeltaMsat
    (¬FitsI64 balance → compareViews left' right' = .error incomparableBalances) ∧
    (FitsI64 balance → ∃ whole, compareViews left' right' = .ok whole ∧ Composes first second whole) := by
  intro balance
  obtain ⟨comparable, leftResult, middleResult, projected, shown, rfl, -⟩ := compareViews_ok ran
  obtain ⟨comparable', middleResult', rightResult, shown', projected', rfl, -⟩ := compareViews_ok ran'
  have between : middleResult' = middleResult := Option.some.inj (shown'.symm.trans (sameMiddle.result.trans shown))
  subst between
  have ends : Comparable left' right' :=
    ⟨by rw [sameLeft.result, projected]; rfl, by rw [sameRight.result, projected']; rfl,
      by rw [sameLeft.recommendation, comparable.recommendation, ← sameMiddle.recommendation,
        comparable'.recommendation, sameRight.recommendation],
      by rw [sameLeft.model, comparable.model, ← sameMiddle.model, comparable'.model, sameRight.model],
      by rw [sameLeft.version, comparable.version, ← sameMiddle.version, comparable'.version, sameRight.version]⟩
  have whole := compareViews_eq (sameLeft.result.trans projected) (sameRight.result.trans projected') ends
  have added : (comparison left' right' leftResult rightResult).projectedLocalBalanceDeltaMsat = balance := by
    show (rightResult.projected.localBalanceMsat : Int) - leftResult.projected.localBalanceMsat =
      (middleResult'.projected.localBalanceMsat - leftResult.projected.localBalanceMsat) +
        (rightResult.projected.localBalanceMsat - middleResult'.projected.localBalanceMsat)
    omega
  rw [whole, added]
  refine ⟨fun beyond => if_neg beyond, fun fits =>
    ⟨_, if_pos fits, sameLeft.recommendation, ⟨sameLeft.id, sameRight.id⟩,
    added, ?_, ⟨rfl, rfl⟩, ⟨rfl, rfl⟩⟩⟩
  have spans : right'.sourceObservedAt - left'.sourceObservedAt =
      (middle.sourceObservedAt - left.sourceObservedAt) + (right.sourceObservedAt - middle'.sourceObservedAt) := by
    rw [sameLeft.observed, sameRight.observed, sameMiddle.observed, Int.add_comm]
    exact (sub_add_sub_cancel (G := Int) _ _ _).symm
  show |numSeconds (right'.sourceObservedAt - left'.sourceObservedAt) - _| ≤ 1
  rw [spans]
  exact numSeconds_add _ _

end Views

section Stores

variable {ext : SimulationExternal} {s : MemoryStorage} {now later : DateTime} {simulationId : String}

def shown (ext : SimulationExternal) (s : MemoryStorage) (simulationId : String) (now : DateTime) :
    Except PlainError SimulationView := do
  let view ← viewOf ext now (s.replayable simulationId)
  okOr view (.new .simulationNotFound s!"no simulation with id {simulationId}")

theorem getSimulation_eq :
    getSimulation ext simulationId now s = stay (viewOf ext now (s.replayable simulationId)) s := by
  have looked : stored (ReplayStorage.replayableSimulationV2ById simulationId) s =
      stay (.ok (s.replayable simulationId)) s := rfl
  exact bind_stay looked fun record => ofExcept_stay _ s

theorem foundSimulation_eq : foundSimulation ext simulationId now s = stay (shown ext s simulationId now) s := by
  unfold foundSimulation shown
  exact bind_stay getSimulation_eq fun view => ofExcept_stay _ s

theorem shown_ok {view : SimulationView} : shown ext s simulationId now = .ok view ↔
    ∃ record, s.replayable simulationId = some record ∧ simulationView ext record now = .ok view := by
  unfold shown
  cases s.replayable simulationId with
  | none => simp [viewOf, okOr, Except.bind, bind]
  | some record =>
    simp only [viewOf, Option.some.injEq, exists_eq_left']
    cases simulationView ext record now <;> simp [okOr, Except.map, Except.bind, bind]

theorem shown_elsewhen {view : SimulationView} (shows : shown ext s simulationId now = .ok view) (later : DateTime) :
    ∃ other, shown ext s simulationId later = .ok other ∧ SameRecord view other := by
  obtain ⟨record, stored, viewed⟩ := shown_ok.mp shows
  obtain ⟨other, again, same⟩ := simulationView_sameRecord viewed later
  exact ⟨other, shown_ok.mpr ⟨record, stored, again⟩, same⟩

def compared (ext : SimulationExternal) (s : MemoryStorage) (command : CompareSimulationsCommand)
    (leftAt rightAt : DateTime) : Except PlainError SimulationComparison := do
  if Text.isBlank command.leftSimulationId || Text.isBlank command.rightSimulationId then
    throw (.new .invalidRequest "simulation IDs cannot be empty")
  let left ← shown ext s command.leftSimulationId leftAt
  let right ← shown ext s command.rightSimulationId rightAt
  compareViews left right

theorem compareSimulations_eq {command : CompareSimulationsCommand} {leftAt rightAt : DateTime} :
    compareSimulations ext command leftAt rightAt s = stay (compared ext s command leftAt rightAt) s := by
  unfold compareSimulations compared
  split
  next => rfl
  next =>
    refine bind_stay foundSimulation_eq fun left => ?_
    exact bind_stay foundSimulation_eq fun right => ofExcept_stay _ s

theorem value_compareSimulations (command : CompareSimulationsCommand) (leftAt rightAt : DateTime) :
    value (compareSimulations ext command leftAt rightAt) s = compared ext s command leftAt rightAt := by
  unfold value
  rw [compareSimulations_eq]
  cases compared ext s command leftAt rightAt <;> rfl

theorem final_compareSimulations (command : CompareSimulationsCommand) (leftAt rightAt : DateTime) :
    final (compareSimulations ext command leftAt rightAt) s = s := by
  unfold final
  rw [compareSimulations_eq]
  cases compared ext s command leftAt rightAt <;> rfl

theorem compared_ok {command : CompareSimulationsCommand} {leftAt rightAt : DateTime}
    {comparison : SimulationComparison} :
    compared ext s command leftAt rightAt = .ok comparison ↔
      (Text.isBlank command.leftSimulationId || Text.isBlank command.rightSimulationId) = false ∧
      ∃ left right, shown ext s command.leftSimulationId leftAt = .ok left ∧
        shown ext s command.rightSimulationId rightAt = .ok right ∧ compareViews left right = .ok comparison := by
  unfold compared
  cases blank : Text.isBlank command.leftSimulationId || Text.isBlank command.rightSimulationId with
  | true => simp [throw, throwThe, MonadExceptOf.throw, bind, Except.bind]
  | false =>
    simp only [Bool.false_eq_true, if_false, true_and]
    constructor
    · intro ran
      obtain ⟨left, found, ran⟩ := except_bind_ok.mp ran
      obtain ⟨right, found', ran⟩ := except_bind_ok.mp ran
      exact ⟨left, right, found, found', ran⟩
    · rintro ⟨left, right, found, found', ran⟩
      exact except_bind_ok.mpr ⟨left, found, except_bind_ok.mpr ⟨right, found', ran⟩⟩

end Stores

end SimulationService

open SimulationService

/-- Where two comparisons over a store form a chain, its two ends compare whenever their difference fits, the
    differences add up, and the first comparison succeeds with its sides swapped unless its difference is the
    least one. These hold at all times, and no comparison changes the store. -/
theorem comparisons_compose {ext : SimulationExternal} {s : MemoryStorage} {first second third : String}
    {firstAt secondAt secondAt' thirdAt : DateTime} {there onward : SimulationComparison}
    (ran : value (compareSimulations ext ⟨first, second⟩ firstAt secondAt) s = .ok there)
    (ran' : value (compareSimulations ext ⟨second, third⟩ secondAt' thirdAt) s = .ok onward)
    (leftAt rightAt : DateTime) :
    let balance := there.projectedLocalBalanceDeltaMsat + onward.projectedLocalBalanceDeltaMsat
    let back := compareSimulations ext ⟨second, first⟩ leftAt rightAt s
    let through := compareSimulations ext ⟨first, third⟩ leftAt rightAt s
    (there.projectedLocalBalanceDeltaMsat = -2^63 → back = .error incomparableBalances s) ∧
    (there.projectedLocalBalanceDeltaMsat ≠ -2^63 → ∃ reversed, back = .ok reversed s ∧ Reverses there reversed) ∧
    (¬FitsI64 balance → through = .error incomparableBalances s) ∧
    (FitsI64 balance → ∃ whole, through = .ok whole s ∧ Composes there onward whole) ∧
    ∀ command, final (compareSimulations ext command leftAt rightAt) s = s := by
  intro balance back through
  rw [value_compareSimulations] at ran ran'
  obtain ⟨filled, left, middle, shows, shows', same⟩ := compared_ok.mp ran
  obtain ⟨filled', middle', right, again, shows'', same'⟩ := compared_ok.mp ran'
  simp only [Bool.or_eq_false_iff] at filled filled'
  obtain ⟨leftLater, leftShown, sameLeft⟩ := shown_elsewhen shows leftAt
  obtain ⟨middleLater, middleShown, sameMiddle⟩ := shown_elsewhen shows' leftAt
  obtain ⟨rightLater, rightShown, sameRight⟩ := shown_elsewhen shows'' rightAt
  obtain ⟨leftBack, leftTurned, sameTurned⟩ := shown_elsewhen shows rightAt
  obtain ⟨between, betweenShown, sameBetween⟩ := shown_elsewhen shows' secondAt'
  cases betweenShown.symm.trans again
  have ends : compared ext s ⟨first, third⟩ leftAt rightAt = compareViews leftLater rightLater := by
    simp only [compared, filled.1, filled'.2, leftShown, rightShown]
    rfl
  have turned : compared ext s ⟨second, first⟩ leftAt rightAt = compareViews middleLater leftBack := by
    simp only [compared, filled.1, filled.2, middleShown, leftTurned]
    rfl
  have reverses := compareViews_reverses same sameTurned sameMiddle
  have composes := compareViews_composes same same' sameLeft sameBetween sameRight
  simp only [back, through, compareSimulations_eq, ends, turned]
  refine ⟨fun least => ?_, fun inside => ?_, fun beyond => ?_, fun fits => ?_, fun command => ?_⟩
  · rw [reverses.1 least]
    rfl
  · obtain ⟨reversed, reached, reverse⟩ := reverses.2 inside
    exact ⟨reversed, by rw [reached]; rfl, reverse⟩
  · rw [composes.1 beyond]
    rfl
  · obtain ⟨whole, reached, compose⟩ := composes.2 fits
    exact ⟨whole, by rw [reached]; rfl, compose⟩
  · exact final_compareSimulations command leftAt rightAt

/-- Three projections of one recommendation. The length of the stored text stands for the projected balance. -/
theorem comparisons_compose_chain :
    let snapshot : ChannelSnapshot := {
      nodeId := none, network := none, stateDigest := none, channelId := "drained", localRatio := .ofNat 0
      localBalanceMsat := 0, remoteBalanceMsat := 1000, capacityMsat := 1000, status := .active, ts := 0
      spendableOutboundMsat := 0, spendableInboundMsat := 1000 }
    let input : SimulationInput := {
      recommendationId := "action", recommendationTarget := "drained", findingId := "finding"
      findingChannel := "drained", findingDirection := some .outbound, nodeId := "node", network := some .mainnet
      provenance := {
        network := some .mainnet, source := .lnd "node" "node", producers := []
        observation := .channelState "drained" ⟨some .mainnet, 0, "digest"⟩ }
      actionType := .rebalanceChannel, modelId := simulationModelId, modelVersion := "3"
      parameters := ⟨"full", "drained", 400⟩, sourceSnapshot := snapshot, destinationSnapshot := snapshot }
    let state (balance : Nat) : ProjectedState := LiquidityRedistributionModel.state balance (1000 - balance) 1000
    let result (text : String) : SimulationResult :=
      ⟨simulationModelId, "3", "hash", state 0, state text.length, [], [], [], .medium⟩
    let ext : SimulationExternal := {
      sha256 := fun _ => "digest", jsonText := fun _ => "\x7b\x7d", rfc3339 := fun _ => "", jsonInstant := fun _ => ""
      codec := {
        input := fun _ => .null, result := fun _ => .null, assumptions := fun _ => .null, warnings := fun _ => .null
        decodeInput := fun _ => .ok input, decodeResult := fun value => .ok (result (value.asStr.getD "")) }
      displayInstant := fun _ => "", debugText := fun text => text, parseRfc3339 := fun _ => .ok 0 }
    let record (id text : String) : SimulationRecord := {
      id, actionId := "action", findingId := "finding", actionType := "rebalance_channel", status := "completed"
      modelId := simulationModelId, modelVersion := "3", inputHash := id, confidence := "medium"
      assumptions := .array [], warnings := .array [], explanation := "", canonicalInput := .string "input"
      projection := .string text, sourceObservedAt := none, requestedAt := "", completedAt := none, errorCode := none
      createdAt := "" }
    let s : MemoryStorage := { simulationRecords := [record "a" "", record "b" "two", record "c" "four"] }
    ∃ whole back, compareSimulations ext ⟨"a", "c"⟩ 0 0 s = .ok whole s ∧
      compareSimulations ext ⟨"b", "a"⟩ 0 0 s = .ok back s ∧
      whole.projectedLocalBalanceDeltaMsat = 4 ∧ back.projectedLocalBalanceDeltaMsat = -3 := by
  intro snapshot input state result ext record s
  have succeeds (command : CompareSimulationsCommand) (delta : Int)
      (found : returns (fun compared _ => compared.projectedLocalBalanceDeltaMsat = delta)
        (compareSimulations ext command 0 0) s = true) :
      ∃ compared, value (compareSimulations ext command 0 0) s = .ok compared ∧
        compared.projectedLocalBalanceDeltaMsat = delta := by
    obtain ⟨compared, s', ran, same⟩ := exists_of_returns found
    exact ⟨compared, by rw [value, ran], of_decide_eq_true same⟩
  obtain ⟨there, ran, three⟩ := succeeds ⟨"a", "b"⟩ 3 (by decide)
  obtain ⟨onward, ran', one⟩ := succeeds ⟨"b", "c"⟩ 1 (by decide)
  obtain ⟨-, back, -, through, -⟩ := comparisons_compose ran ran' 0 0
  rw [three] at back through
  rw [one] at through
  obtain ⟨reversed, turned, reverses⟩ := back (by decide)
  obtain ⟨whole, reached, composes⟩ := through (by decide)
  refine ⟨whole, reversed, reached, turned, ?_, ?_⟩
  · rw [composes.balance, three, one]
    rfl
  · rw [reverses.balance, three]

end Rieko
