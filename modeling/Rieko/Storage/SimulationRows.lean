import Rieko.Storage.RowText
import Rieko.Storage.SimulationRecords

/-! The columns of a simulation, and the checks that a row passes before it is read as one. -/

namespace Rieko

open SqlValue StatefulResult

section Validation

variable {ext : SimulationExternal} {displayRead : String → String} {record : SimulationRecord}

structure PassesColumns (ext : SimulationExternal) (record : SimulationRecord) : Prop where
  status : validateSimulationStatus ext record.status = .ok ()
  confidence : ["high", "medium", "low", "unknown"].contains record.confidence = true
  createdAt : validateRfc3339 ext "simulation created_at" record.createdAt = .ok ()
  requestedAt : validateRfc3339 ext "simulation requested_at" record.requestedAt = .ok ()
  sourceObservedAt : ∀ timestamp ∈ record.sourceObservedAt,
    validateRfc3339 ext "simulation source_observed_at" timestamp = .ok ()
  completedAt : ∀ timestamp ∈ record.completedAt, validateRfc3339 ext "simulation completed_at" timestamp = .ok ()

theorem uncorrupted_ok {condition : Bool} {message : String} :
    uncorrupted condition message = .ok () ↔ condition = true := by
  cases condition <;> simp [uncorrupted]

theorem passesColumns_of_valid (valid : validateSimulationRecord ext displayRead record = .ok ()) :
    PassesColumns ext record := by
  unfold validateSimulationRecord at valid
  obtain ⟨_, status, valid⟩ := except_bind_ok.mp valid
  obtain ⟨_, confidence, valid⟩ := except_bind_ok.mp valid
  obtain ⟨_, -, valid⟩ := except_bind_ok.mp valid
  obtain ⟨_, createdAt, valid⟩ := except_bind_ok.mp valid
  obtain ⟨_, requestedAt, valid⟩ := except_bind_ok.mp valid
  refine ⟨status, uncorrupted_ok.mp confidence, createdAt, requestedAt, fun timestamp stored => ?_,
    fun timestamp stored => ?_⟩
  · rw [Option.mem_def.mp stored] at valid
    obtain ⟨_, observed, -⟩ := except_bind_ok.mp valid
    exact observed
  · rw [Option.mem_def.mp stored] at valid
    cases source : record.sourceObservedAt with
    | none =>
      rw [source] at valid
      obtain ⟨_, completed, -⟩ := except_bind_ok.mp valid
      exact completed
    | some observed =>
      rw [source] at valid
      obtain ⟨_, -, valid⟩ := except_bind_ok.mp valid
      obtain ⟨_, completed, -⟩ := except_bind_ok.mp valid
      exact completed

end Validation

namespace RowText

variable (text : RowText) (ext : SimulationExternal) (displayRead : String → String)

def simulationColumns : List String := ["id", "action_id", "finding_id", "action_type", "status", "model_id",
  "model_version", "input_hash", "confidence", "assumptions", "warnings", "explanation", "projection", "created_at",
  "canonical_input", "source_observed_at", "requested_at", "completed_at", "error_code"]

def checkedText (check : String → Except StorageError Unit) (s : String) : Except String String :=
  match check s with
  | .ok () => .ok s
  | .error e => .error e.toString

def simulationConfidence (s : String) : Except String String :=
  if ["high", "medium", "low", "unknown"].contains s then .ok s
  else .error s!"invalid simulation confidence {text.debugText s}"

def simulationJson (raw : String) : Except String Json :=
  (text.json.read raw).mapError fun e => s!"invalid simulation JSON: {e}"

def canonicalSimulationInput (raw : String) : Except String Json :=
  (text.json.read raw).mapError fun e => s!"invalid canonical simulation input: {e}"

def rowToSimulationV2 (row : List SqlValue) : Except ColumnError SimulationRecord := do
  let status ← parsed row 4 string (checkedText (validateSimulationStatus ext))
  let confidence ← parsed row 8 string text.simulationConfidence
  let createdAt ← parsed row 13 string (checkedText (validateRfc3339 ext "simulation created_at"))
  let sourceObservedAt ← optionalParsed row 15 (checkedText (validateRfc3339 ext "simulation source_observed_at"))
  let requestedAt ← parsed row 16 string (checkedText (validateRfc3339 ext "simulation requested_at"))
  let completedAt ← optionalParsed row 17 (checkedText (validateRfc3339 ext "simulation completed_at"))
  let id ← column row 0 string
  let actionId ← column row 1 string
  let findingId ← column row 2 string
  let actionType ← column row 3 string
  let modelId ← column row 5 string
  let modelVersion ← column row 6 string
  let inputHash ← column row 7 string
  let assumptions ← parsed row 9 string text.simulationJson
  let warnings ← parsed row 10 string text.simulationJson
  let explanation ← column row 11 string
  let projection ← parsed row 12 string text.simulationJson
  let canonicalInput ← optionalParsed row 14 text.canonicalSimulationInput
  let errorCode ← column row 18 (optional string)
  let record : SimulationRecord := {
    id, actionId, findingId, actionType, status, modelId, modelVersion, inputHash, confidence, assumptions, warnings,
    explanation, canonicalInput := canonicalInput.getD .null, projection, sourceObservedAt, requestedAt, completedAt,
    errorCode, createdAt }
  convert 14 ((validateSimulationRecord ext displayRead record).mapError StorageError.toString)
  return record

end RowText

structure SimulationColumns (text : RowText) (row : SqlRow) (record : SimulationRecord) : Prop where
  id : row "id" = .text record.id
  actionId : row "action_id" = .text record.actionId
  findingId : row "finding_id" = .text record.findingId
  actionType : row "action_type" = .text record.actionType
  status : row "status" = .text record.status
  modelId : row "model_id" = .text record.modelId
  modelVersion : row "model_version" = .text record.modelVersion
  inputHash : row "input_hash" = .text record.inputHash
  confidence : row "confidence" = .text record.confidence
  assumptions : (row "assumptions").Reads text.json.read record.assumptions
  warnings : (row "warnings").Reads text.json.read record.warnings
  explanation : row "explanation" = .text record.explanation
  projection : (row "projection").Reads text.json.read record.projection
  createdAt : row "created_at" = .text record.createdAt
  canonicalInput : ∃ input, (row "canonical_input").ReadsOptional text.json.read input ∧
    input.getD .null = record.canonicalInput
  sourceObservedAt : row "source_observed_at" = ofOption .text record.sourceObservedAt
  requestedAt : row "requested_at" = .text record.requestedAt
  completedAt : row "completed_at" = ofOption .text record.completedAt
  errorCode : row "error_code" = ofOption .text record.errorCode

namespace RowText

variable {text : RowText} {ext : SimulationExternal} {displayRead : String → String} {row : SqlRow}

theorem reads_checkedText {check : String → Except StorageError Unit} {value : SqlValue} {s : String} :
    value.Reads (checkedText check) s ↔ value = .text s ∧ check s = .ok () := by
  unfold Reads checkedText
  constructor
  · rintro ⟨t, rfl, passed⟩
    cases checked : check t with
    | error e =>
      rw [checked] at passed
      cases passed
    | ok u =>
      rw [checked] at passed
      cases passed
      exact ⟨rfl, checked⟩
  · rintro ⟨rfl, checked⟩
    exact ⟨s, rfl, by rw [checked]⟩

theorem readsOptional_checkedText {check : String → Except StorageError Unit} {value : SqlValue}
    {found : Option String} :
    value.ReadsOptional (checkedText check) found ↔ value = ofOption .text found ∧ ∀ s ∈ found, check s = .ok () := by
  cases found with
  | none => exact ⟨fun held => ⟨held, by simp⟩, And.left⟩
  | some s =>
    refine reads_checkedText.trans (and_congr_right fun _ => ?_)
    simp

theorem reads_confidence {value : SqlValue} {s : String} : value.Reads text.simulationConfidence s ↔
    value = .text s ∧ ["high", "medium", "low", "unknown"].contains s = true := by
  unfold Reads simulationConfidence
  constructor
  · rintro ⟨t, rfl, passed⟩
    split at passed
    next known =>
      cases passed
      exact ⟨rfl, known⟩
    next => cases passed
  · rintro ⟨rfl, known⟩
    exact ⟨s, rfl, if_pos known⟩

/-- A row is read as a record exactly if its columns hold it and it passes its validation. -/
theorem rowToSimulationV2_ok {record : SimulationRecord} :
    text.rowToSimulationV2 ext displayRead (row.select simulationColumns) = .ok record ↔
      SimulationColumns text row record ∧ validateSimulationRecord ext displayRead record = .ok () := by
  unfold rowToSimulationV2 simulationColumns SqlRow.select
  simp only [except_bind_ok, parsed_string_ok, optionalParsed_ok, column_ok, List.map_cons, List.getElem?_cons_succ,
    List.getElem?_cons_zero, Option.some.injEq, exists_eq_left', string_ok, optional_string_ok, reads_checkedText,
    reads_confidence, readsOptional_checkedText, convert_ok, except_mapError_ok]
  constructor
  · rintro ⟨status, ⟨statusHeld, -⟩, confidence, ⟨confidenceHeld, -⟩, createdAt, ⟨createdHeld, -⟩, sourceObservedAt,
      ⟨sourceHeld, -⟩, requestedAt, ⟨requestedHeld, -⟩, completedAt, ⟨completedHeld, -⟩, id, idHeld, actionId,
        actionHeld,
      findingId, findingHeld, actionType, typeHeld, modelId, modelHeld, modelVersion, versionHeld, inputHash, hashHeld,
      assumptions, assumptionsHeld, warnings, warningsHeld, explanation, explanationHeld, projection, projectionHeld,
      canonicalInput, canonicalHeld, errorCode, errorHeld, _, valid, done⟩
    cases done
    refine ⟨?_, valid⟩
    exact {
      id := idHeld, actionId := actionHeld, findingId := findingHeld, actionType := typeHeld, status := statusHeld
      modelId := modelHeld, modelVersion := versionHeld, inputHash := hashHeld, confidence := confidenceHeld
      assumptions := reads_mapError.mp assumptionsHeld, warnings := reads_mapError.mp warningsHeld
      explanation := explanationHeld, projection := reads_mapError.mp projectionHeld, createdAt := createdHeld
      canonicalInput := ⟨canonicalInput, readsOptional_mapError.mp canonicalHeld, rfl⟩
      sourceObservedAt := sourceHeld, requestedAt := requestedHeld, completedAt := completedHeld
      errorCode := errorHeld }
  · rintro ⟨held, valid⟩
    obtain ⟨input, inputHeld, read⟩ := held.canonicalInput
    have passes := passesColumns_of_valid valid
    refine ⟨_, ⟨held.status, passes.status⟩, _, ⟨held.confidence, passes.confidence⟩, _,
      ⟨held.createdAt, passes.createdAt⟩, _, ⟨held.sourceObservedAt, passes.sourceObservedAt⟩, _,
      ⟨held.requestedAt, passes.requestedAt⟩, _, ⟨held.completedAt, passes.completedAt⟩, _, held.id, _,
        held.actionId, _,
      held.findingId, _, held.actionType, _, held.modelId, _, held.modelVersion, _, held.inputHash, _,
      reads_mapError.mpr held.assumptions, _, reads_mapError.mpr held.warnings, _, held.explanation, _,
      reads_mapError.mpr held.projection, _, readsOptional_mapError.mpr inputHeld, _, held.errorCode, (), ?_⟩
    rw [read]
    exact ⟨valid, rfl⟩

end RowText

theorem SimulationColumns.unique {text : RowText} {row : SqlRow} {a b : SimulationRecord}
    (held : SimulationColumns text row a) (held' : SimulationColumns text row b) : a = b := by
  have texts {column s t : String} (first : row column = .text s) (second : row column = .text t) : s = t :=
    SqlValue.text.inj (first.symm.trans second)
  have optional {column : String} {s t : Option String} (first : row column = ofOption .text s)
      (second : row column = ofOption .text t) : s = t := by
    have same := first.symm.trans second
    cases s <;> cases t <;> simp [ofOption] at same ⊢
    exact same
  have read {value : SqlValue} {v w : Json} (first : value.Reads text.json.read v)
      (second : value.Reads text.json.read w) : v = w := by
    obtain ⟨s, rfl, reads⟩ := first
    obtain ⟨t, same, reads'⟩ := second
    rw [SqlValue.text.inj same] at reads
    exact Except.ok.inj (reads.symm.trans reads')
  have inputs : a.canonicalInput = b.canonicalInput := by
    obtain ⟨input, held, same⟩ := held.canonicalInput
    obtain ⟨input', held', same'⟩ := held'.canonicalInput
    rw [← same, ← same']
    cases input <;> cases input'
    · rfl
    · obtain ⟨s, isText, -⟩ := held'
      cases held.symm.trans isText
    · obtain ⟨s, isText, -⟩ := held
      cases held'.symm.trans isText
    · exact read held held'
  have created := texts held.createdAt held'.createdAt
  cases a
  cases b
  simp only [SimulationRecord.mk.injEq]
  exact ⟨texts held.id held'.id, texts held.actionId held'.actionId, texts held.findingId held'.findingId,
    texts held.actionType held'.actionType, texts held.status held'.status, texts held.modelId held'.modelId,
    texts held.modelVersion held'.modelVersion, texts held.inputHash held'.inputHash,
    texts held.confidence held'.confidence, read held.assumptions held'.assumptions, read held.warnings held'.warnings,
    texts held.explanation held'.explanation, inputs, read held.projection held'.projection,
    optional held.sourceObservedAt held'.sourceObservedAt, texts held.requestedAt held'.requestedAt,
    optional held.completedAt held'.completedAt, optional held.errorCode held'.errorCode, created⟩

end Rieko
