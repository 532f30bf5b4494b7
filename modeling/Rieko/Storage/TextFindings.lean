import Rieko.Storage.TextRefinement

/-! The lifecycle of findings, in memory and over the rows of the database file. -/

namespace Rieko

open StatefulResult

namespace FindingOp

def runText (text : RowText) : FindingOp → EStateM StorageError TextStorage Unit
  | save finding => TextStorage.saveFinding text finding
  | resolve scope => TextStorage.resolveFindingsForScope text scope

def runAllText (text : RowText) (ops : List FindingOp) (s : TextStorage) : TextStorage :=
  ops.foldl (fun s op => final (op.runText text) s) s

def ReadsBack (text : RowText) : FindingOp → Prop
  | save finding => text.StorableFinding finding
  | resolve _ => True

variable {text : RowText} {ops : List FindingOp} {s : TextStorage} {t : SqliteStorage}

section Refinement

variable (documented : text.Documented)

include documented

theorem runText_refines {op : FindingOp} (back : op.ReadsBack text) :
    TextStorage.Refines text (fun _ _ => True) (op.runText text) (op.run SqliteStorage) := by
  cases op with
  | save finding => exact TextStorage.refines_saveFinding documented back
  | resolve scope => exact TextStorage.refines_resolveFindingsForScope documented scope

theorem runAllText_related (back : ∀ op ∈ ops, op.ReadsBack text) (related : TextStorage.Related text s t) :
    TextStorage.Related text (runAllText text ops s) (runAll ops t) := by
  induction ops generalizing s t with
  | nil => exact related
  | cons op ops ih =>
    have next := (runText_refines documented (back op List.mem_cons_self) s t related).2
    exact ih (fun op member => back op (List.mem_cons_of_mem _ member)) next

theorem runText_value {op : FindingOp} (back : op.ReadsBack text) (related : TextStorage.Related text s t)
    (reliable : ∀ n, t.conn.fails n = none) : value (op.runText text) s = value (op.run SqliteStorage) t := by
  have answers (ran : value (op.run SqliteStorage) t = .ok ()) :
      value (op.runText text) s = value (op.run SqliteStorage) t := by
    obtain ⟨a, ran', -⟩ := (runText_refines documented back).value_ok related ran
    rw [ran, ran']
  cases op with
  | resolve scope =>
    refine answers ?_
    show value (SqliteStorage.resolveFindingsForScope scope) t = _
    unfold value
    rw [SqliteStorage.resolveFindingsForScope_run reliable]
  | save finding =>
    cases valid : validateFindingSchema finding.schemaVersion with
    | error e =>
      show value (TextStorage.saveFinding text finding) s = value (SqliteStorage.saveFinding finding) t
      unfold TextStorage.saveFinding SqliteStorage.saveFinding
      rw [valid]
      rfl
    | ok u =>
      refine answers ?_
      show value (SqliteStorage.saveFinding finding) t = _
      unfold value SqliteStorage.saveFinding
      rw [valid]
      simp only [SqliteStorage.sql_execute reliable]

end Refinement

end FindingOp

open FindingOp

/-- After every step of a run in which no re-observation is stale against a counted absence, both stores return the
    same finding for every id, and the next call answers alike in both, where what is saved is read back as it was
    written. -/
theorem finding_lifecycles_agree {text : RowText} (documented : text.Documented) (ops : List FindingOp)
    (back : ∀ op ∈ ops, op.ReadsBack text) (inStep : InStep ops MemoryStorage.new) (past rest : List FindingOp)
    (split : ops = past ++ rest) :
    (∀ id, value (MemoryStorage.findingById id) (runAll past MemoryStorage.new) =
      value (TextStorage.findingById text id) (runAllText text past .empty)) ∧
    ∀ op ∈ rest.head?, value (op.run MemoryStorage) (runAll past MemoryStorage.new) =
      value (op.runText text) (runAllText text past .empty) := by
  subst split
  obtain ⟨before, after⟩ := inStep_append.mp inStep
  have together := InStepWith.empty.runAll before
  have related := runAllText_related documented (fun op member => back op (List.mem_append_left _ member))
    (TextStorage.related_empty text)
  constructor
  · intro id
    have memory : value (MemoryStorage.findingById id) (runAll past MemoryStorage.new) =
        .ok ((runAll past MemoryStorage.new).stored id) := rfl
    have sqlite := (together.answers id).symm.trans memory
    rw [memory]
    exact (((TextStorage.refines_findingById documented id).value_ok_iff related).mpr sqlite).symm
  · intro op next
    cases rest with
    | nil => cases next
    | cons first rest =>
      rw [List.head?_cons, Option.mem_some_iff] at next
      subst next
      have member : first ∈ past ++ first :: rest := List.mem_append_right _ List.mem_cons_self
      exact (together.step first after.1).1.trans
        (runText_value documented (back first member) related together.reliable).symm

theorem readsBack_bare (finding : Finding) (plain : finding.evidence = [] ∧ finding.provenance = none)
    (four : finding.timestamp.FourDigitYear ∧ finding.firstSeenAt.FourDigitYear ∧ finding.lastSeenAt.FourDigitYear) :
    RowText.bare.StorableFinding finding where
  timestamp := four.1
  firstSeenAt := four.2.1
  lastSeenAt := four.2.2
  evidence := by
    rw [plain.1]
    rfl
  provenance := by simp [plain.2]

theorem finding_lifecycles_agree_in_order :
    let scope : FindingCycleScope := ⟨"liquidity", none, none, true⟩
    let ops : List FindingOp := [.save (.bare "f" "liquidity" 10), .resolve scope, .save (.bare "f" "liquidity" 12)]
    ∀ id, value (MemoryStorage.findingById id) (runAll ops MemoryStorage.new) =
      value (TextStorage.findingById .bare id) (runAllText .bare ops .empty) := by
  intro scope ops
  have back : ∀ op ∈ ops, op.ReadsBack .bare := by
    have first := readsBack_bare (.bare "f" "liquidity" 10) ⟨rfl, rfl⟩ (by decide)
    have again := readsBack_bare (.bare "f" "liquidity" 12) ⟨rfl, rfl⟩ (by decide)
    simpa [ops] using ⟨first, trivial, again⟩
  refine (finding_lifecycles_agree RowText.bare_documented ops back ?_ ops [] (by simp)).1
  refine ⟨?_, id, ?_, trivial⟩
  · rintro ⟨existing, stored, -⟩
    cases stored
  · rintro ⟨existing, stored, stale, -⟩
    have seen : ((MemoryStorage.stored (runAll (ops.take 2) MemoryStorage.new) "f").map (·.lastSeenAt)) = some 10 := by
      decide +kernel
    rw [show MemoryStorage.stored (runAll (ops.take 2) MemoryStorage.new) "f" = some existing from stored,
      Option.map_some, Option.some.injEq] at seen
    rw [seen] at stale
    exact absurd stale (by decide)

/-- The vector forgets two absences on a stale re-observation and the database keeps them, so that the next
    complete cycle resolves the finding in the database alone. -/
theorem stale_observation_splits_stores :
    let scope : FindingCycleScope := ⟨"liquidity", none, none, true⟩
    let ops : List FindingOp := [.save (.bare "f" "liquidity" 10), .resolve scope, .resolve scope,
      .save (.bare "f" "liquidity" 5), .resolve scope]
    (∀ op ∈ ops, op.ReadsBack .bare) ∧ value (MemoryStorage.findingById "f") (runAll ops MemoryStorage.new) ≠
      value (TextStorage.findingById .bare "f") (runAllText .bare ops .empty) := by
  intro scope ops
  have back : ∀ op ∈ ops, op.ReadsBack .bare := by
    have first := readsBack_bare (.bare "f" "liquidity" 10) ⟨rfl, rfl⟩ (by decide)
    have stale := readsBack_bare (.bare "f" "liquidity" 5) ⟨rfl, rfl⟩ (by decide)
    simpa [ops] using ⟨first, trivial, stale, trivial⟩
  refine ⟨back, fun same => ?_⟩
  have related := runAllText_related RowText.bare_documented back (TextStorage.related_empty _)
  have sqlite := ((TextStorage.refines_findingById RowText.bare_documented "f").value_ok_iff related).mp same.symm
  have lifecycles := congrArg (fun answer => answer.toOption.map fun found => found.map (·.lifecycle)) sqlite
  exact absurd lifecycles (by decide +kernel)

end Rieko
