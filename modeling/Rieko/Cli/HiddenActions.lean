import Rieko.Cli.RecommendationLifecycle
import Rieko.Findings.ActionIdentity
import Rieko.Storage.RepeatedWrites

namespace Rieko

open StatefulResult CycleM

namespace Recommendation

def key (recommendation : Recommendation) : ActionKey :=
  ⟨recommendation.findingId, recommendation.action.actionType, recommendation.action.target⟩

structure Keyed (ext : External) (key : ActionKey) (recommendation : Recommendation) : Prop where
  key_eq : recommendation.key = key
  id_eq : recommendation.action.id = key.identity ext

/-- What is stored under the id of the recommendation's action was recommended for its own key. -/
def Shown (rows : List Recommendation) (recommendation : Recommendation) : Prop :=
  (Rows.lookup (·.action.id) rows recommendation.action.id).map Recommendation.key = some recommendation.key

def Unknown (rows : List Recommendation) (recommendation : Recommendation) : Prop :=
  Rows.lookup (·.action.id) rows recommendation.action.id = none

end Recommendation

/-- A storage that finds a recommendation as soon as it has saved it, where `row` is the saved form. -/
structure FindsSaved (σ : Type) [Storage σ] (ready : σ → Prop) (rows : σ → List Recommendation)
    (row : Recommendation → Recommendation) : Prop where
  finds : ∀ s actionId, ready s → ∃ s',
    Storage.recommendationForAction actionId s = .ok (Rows.lookup (·.action.id) (rows s) actionId) s' ∧
      ready s' ∧ rows s' = rows s
  saves : ∀ s recommendation, ready s → recommendation.Unknown (rows s) → ∃ s',
    Storage.saveRecommendation recommendation s = .ok () s' ∧ ready s' ∧ rows s' = rows s ++ [row recommendation]
  audits : ∀ s entry, ready s → ready (final (Storage.appendAudit entry) s) ∧
    rows (final (Storage.appendAudit entry) s) = rows s
  row_key : ∀ recommendation, (row recommendation).key = recommendation.key
  row_id : ∀ recommendation, (row recommendation).action.id = recommendation.action.id

namespace FindsSaved

variable {σ : Type} [Storage σ] {ready : σ → Prop} {rows : σ → List Recommendation}
  {row : Recommendation → Recommendation} {env : CycleEnv} {w : World σ} {first second : Recommendation}

theorem persists (finds : FindsSaved σ ready rows row) (held : ready w.storage) (env : CycleEnv)
    (recommendation : Recommendation) :
    ready (final (persistRecommendation env recommendation) w).storage ∧
      rows (final (persistRecommendation env recommendation) w).storage =
        rows w.storage ++ if (Rows.lookup (·.action.id) (rows w.storage) recommendation.action.id).isNone
          then [row recommendation] else [] := by
  obtain ⟨s, found, heldFound, rowsFound⟩ := finds.finds w.storage recommendation.action.id held
  have looked : storage (Storage.recommendationForAction recommendation.action.id) w =
      .ok (Rows.lookup (·.action.id) (rows w.storage) recommendation.action.id) { w with storage := s } :=
    lift_ok.mpr ⟨s, found, rfl⟩
  cases known : Rows.lookup (fun stored : Recommendation => stored.action.id) (rows w.storage)
      recommendation.action.id with
  | some stored =>
    rw [known] at looked
    have ran : persistRecommendation env recommendation w = .ok () { w with storage := s } := by
      unfold persistRecommendation
      rw [bind_of_ok looked]
      rfl
    rw [final, ran]
    exact ⟨heldFound, rowsFound.trans (List.append_nil _).symm⟩
  | none =>
    rw [known] at looked
    have unknown : recommendation.Unknown (rows s) := by
      rw [rowsFound]
      exact known
    obtain ⟨s', saved, heldSaved, rowsSaved⟩ := finds.saves s recommendation heldFound unknown
    have wrote : storage (Storage.saveRecommendation recommendation) { w with storage := s } =
        .ok () { w with storage := s' } := lift_ok.mpr ⟨s', saved, rfl⟩
    let entry : AuditEntry := .fromAction (env.uuid w.ids) (env.clock w.ticks) recommendation.action "system"
      (.ofPairs [("finding_id", .string recommendation.findingId)])
    have ran : persistRecommendation env recommendation w =
        storage (Storage.appendAudit entry) ⟨s', w.ticks + 1, w.ids + 1⟩ := by
      unfold persistRecommendation
      rw [bind_of_ok looked]
      show (storage (Storage.saveRecommendation recommendation) >>= fun _ => _) _ = _
      rw [bind_of_ok wrote]
      rfl
    have ended : final (persistRecommendation env recommendation) w =
        final (storage (Storage.appendAudit entry)) ⟨s', w.ticks + 1, w.ids + 1⟩ := by
      rw [final, ran]
      rfl
    have audited := finds.audits s' entry heldSaved
    rw [ended, final_storage]
    exact ⟨audited.1, audited.2.trans (rowsSaved.trans (congrArg (· ++ _) rowsFound))⟩

theorem second_shown_iff (finds : FindsSaved σ ready rows row) (held : ready w.storage)
    (differ : first.key ≠ second.key) (unknown : second.Unknown (rows w.storage)) :
    second.Shown (rows (final (persistRecommendation env second)
      (final (persistRecommendation env first) w)).storage) ↔ first.action.id ≠ second.action.id := by
  obtain ⟨heldFirst, rowsFirst⟩ := finds.persists held env first
  obtain ⟨-, rowsSecond⟩ := finds.persists heldFirst env second
  unfold Recommendation.Shown
  unfold Recommendation.Unknown at unknown
  by_cases same : first.action.id = second.action.id
  · have taken : Rows.lookup (fun stored : Recommendation => stored.action.id)
        (rows (final (persistRecommendation env first) w).storage) second.action.id = some (row first) := by
      rw [rowsFirst, same, unknown]
      show Rows.lookup _ (_ ++ [row first]) _ = _
      rw [Rows.lookup_append, unknown, finds.row_id, if_pos same]
      rfl
    rw [rowsSecond, taken]
    simp [taken, finds.row_key, differ, same]
  · have free : Rows.lookup (fun stored : Recommendation => stored.action.id)
        (rows (final (persistRecommendation env first) w).storage) second.action.id = none := by
      rw [rowsFirst]
      split
      · rw [Rows.lookup_append, unknown, finds.row_id, if_neg same]
        rfl
      · rw [List.append_nil, unknown]
    rw [rowsSecond, free]
    show (Rows.lookup _ (_ ++ [row second]) _).map _ = _ ↔ _
    rw [Rows.lookup_append, free, finds.row_id, if_pos rfl]
    simp [finds.row_key, same]

end FindsSaved

theorem MemoryStorage.findsSaved :
    FindsSaved MemoryStorage (fun _ => True) MemoryStorage.recommendations id where
  finds s _ _ := ⟨s, rfl, trivial, rfl⟩
  saves s recommendation _ unknown := by
    have new : recommendation.action.id ∉ s.recommendations.map (·.action.id) := by
      intro member
      obtain ⟨stored, listed, same⟩ := List.mem_map.mp member
      exact Rows.lookup_eq_none.mp unknown stored listed same
    exact ⟨_, modify_ok.mpr rfl, trivial, Rows.upsert_of_new new⟩
  audits _ _ _ := ⟨trivial, rfl⟩
  row_key _ := rfl
  row_id _ := rfl

theorem SqliteStorage.findsSaved : FindsSaved SqliteStorage SqliteStorage.Healthy (·.conn.tables.recommendations)
    fun recommendation => { recommendation with lifecycle := some "active" } where
  finds s actionId healthy := ⟨_, SqliteStorage.sql_query healthy _ _, healthy, rfl⟩
  saves s recommendation healthy unknown := by
    refine ⟨_, SqliteStorage.sql_execute_healthy healthy _ _, healthy.advance _, ?_⟩
    have kept : s.conn.tables.recommendations.filter (·.action.id ≠ recommendation.action.id) =
        s.conn.tables.recommendations := by
      apply List.filter_eq_self.mpr
      intro stored listed
      exact decide_eq_true (Rows.lookup_eq_none.mp unknown stored listed)
    exact congrArg (· ++ _) kept
  audits s entry healthy := by
    have ran : Storage.appendAudit entry s = _ :=
      SqliteStorage.sql_statement_healthy healthy StorageError.backend (Tables.insertAudit entry)
    unfold Tables.insertAudit at ran
    by_cases repeated : s.conn.tables.audit.any (·.id = entry.id) = true
    · rw [if_pos repeated] at ran
      rw [final, ran]
      exact ⟨healthy.advance _, rfl⟩
    · rw [if_neg repeated] at ran
      rw [final, ran]
      exact ⟨healthy.advance _, rfl⟩
  row_key _ := rfl
  row_id _ := rfl

/-- Two recommendations for different keys hide each other, up to a collision of the digests, exactly where a missing
    target or a NUL confuses the keys. -/
theorem action_identities_apart_iff (a b : ActionKey) (differ : a ≠ b) :
    (a.bytes ≠ b.bytes ↔ a.Separable b) ∧
    ∀ ext : External, (ext.sha256 a.bytes = ext.sha256 b.bytes → a.bytes = b.bytes) →
      (a.identity ext ≠ b.identity ext ↔ a.Separable b) ∧
      ∀ (env : CycleEnv) (first second : Recommendation), first.Keyed ext a → second.Keyed ext b →
        (∀ w : World MemoryStorage, second.Unknown w.storage.recommendations →
          (second.Shown (final (persistRecommendation env second)
            (final (persistRecommendation env first) w)).storage.recommendations ↔ a.Separable b)) ∧
        ∀ w : World SqliteStorage, w.storage.Healthy → second.Unknown w.storage.conn.tables.recommendations →
          (second.Shown (final (persistRecommendation env second)
            (final (persistRecommendation env first) w)).storage.conn.tables.recommendations ↔ a.Separable b) := by
  refine ⟨ActionKey.bytes_ne_iff, fun ext digests => ?_⟩
  have ids : a.identity ext ≠ b.identity ext ↔ a.Separable b := by
    rw [← ActionKey.bytes_ne_iff, Ne, Ne, ActionKey.identity_eq_iff digests]
  refine ⟨ids, fun env first second keyed keyed' => ?_⟩
  have apart : first.key ≠ second.key := by
    rw [keyed.key_eq, keyed'.key_eq]
    exact differ
  rw [← keyed.id_eq, ← keyed'.id_eq] at ids
  constructor
  · intro w unknown
    exact (MemoryStorage.findsSaved.second_shown_iff trivial apart unknown).trans ids
  · intro w healthy unknown
    exact (SqliteStorage.findsSaved.second_shown_iff healthy apart unknown).trans ids

/-- Recommendations of one finding and type for different channels, which both backends show after the other. -/
theorem action_identities_apart_by_channel :
    let a : ActionKey := ⟨"finding-1", .rebalanceChannel, some "845x1x0"⟩
    let b : ActionKey := ⟨"finding-1", .rebalanceChannel, some "845x2x0"⟩
    let ext : External := ⟨fun bytes => .ofList (bytes.map fun byte => .ofNat byte.toNat), fun _ => "null",
      fun _ => "instant", fun _ => "instant"⟩
    let env : CycleEnv := ⟨ext, fun tick => tick, fun _ => "uuid"⟩
    let recommend (key : ActionKey) : Recommendation := {
      findingId := key.findingId
      action := ⟨key.identity ext, key.actionType, .recommended, key.target, .null, "summary", 0, 0⟩
      rationale := ⟨[], [], "", [], [], .operatorActionable⟩
      lifecycle := some "active" }
    let memory : World MemoryStorage := ⟨.new, 0, 0⟩
    let sqlite : World SqliteStorage := ⟨⟨{ tables := {}, saved := none }, false⟩, 0, 0⟩
    a ≠ b ∧ a.Separable b ∧ a.identity ext ≠ b.identity ext ∧
      (recommend b).Shown (final (persistRecommendation env (recommend b))
        (final (persistRecommendation env (recommend a)) memory)).storage.recommendations ∧
      (recommend b).Shown (final (persistRecommendation env (recommend b))
        (final (persistRecommendation env (recommend a)) sqlite)).storage.conn.tables.recommendations := by
  intro a b ext env recommend memory sqlite
  have separable : a.Separable b := ActionKey.separable_of_plain (by decide) (by decide)
    fun same => absurd same.2.2 (by decide)
  have digests : ext.sha256 a.bytes = ext.sha256 b.bytes → a.bytes = b.bytes :=
    fun same => absurd same (by decide)
  obtain ⟨ids, shows⟩ := (action_identities_apart_iff a b (by decide)).2 ext digests
  obtain ⟨inMemory, inSqlite⟩ := shows env (recommend a) (recommend b) ⟨rfl, rfl⟩ ⟨rfl, rfl⟩
  exact ⟨by decide, separable, ids.mpr separable, (inMemory memory rfl).mpr separable,
    (inSqlite sqlite (fun _ => rfl) rfl).mpr separable⟩

/-- A missing target is hashed as an empty one, and a NUL in a finding id moves the fields. -/
theorem action_identities_collide :
    let blank : ActionKey := ⟨"finding-1", .restartService, none⟩
    let empty : ActionKey := ⟨"finding-1", .restartService, some ""⟩
    let short : ActionKey := ⟨"f", .custom, some "custom\x00c"⟩
    let long : ActionKey := ⟨"f\x00custom", .custom, some "c"⟩
    blank ≠ empty ∧ blank.bytes = empty.bytes ∧ short ≠ long ∧ short.bytes = long.bytes := by
  decide

end Rieko
