import Rieko.Alerts.Sink
import Rieko.Domain.Rfc3339
import Rieko.Storage.Pruning

namespace Rieko

open StatefulResult Ranking

namespace TimeDelta

variable {short long : StdDuration}

def Representable (duration : StdDuration) : Prop := duration ≤ (2^63 - 1) * 1000000

/-- What a configured duration acts as: one that the calendar library does not represent counts as zero. -/
def acting (duration : StdDuration) : TimeDelta := (fromStd duration).getD 0

instance (duration : StdDuration) : Decidable (Representable duration) := Nat.decLe _ _

theorem acting_of_representable (fits : Representable long) : acting long = long := by
  exact congrArg (Option.getD · 0) (if_pos fits)

theorem acting_of_not_representable (large : ¬Representable long) : acting long = 0 := by
  exact congrArg (Option.getD · 0) (if_neg large)

theorem acting_nonneg (duration : StdDuration) : 0 ≤ acting duration := by
  by_cases fits : Representable duration
  · rw [acting_of_representable fits]
    exact Int.natCast_nonneg _
  · rw [acting_of_not_representable fits]

theorem acting_le_iff (shorter : short ≤ long) :
    acting short ≤ acting long ↔ Representable long ∨ short = 0 ∨ ¬Representable short := by
  by_cases fits : Representable long
  · have fits' : Representable short := shorter.trans fits
    rw [acting_of_representable fits, acting_of_representable fits']
    exact iff_of_true (Int.ofNat_le.mpr shorter) (.inl fits)
  · rw [acting_of_not_representable fits, or_iff_right fits]
    by_cases fits' : Representable short
    · rw [acting_of_representable fits', or_iff_left (not_not.mpr fits')]
      exact Int.ofNat_le.trans Nat.le_zero
    · rw [acting_of_not_representable fits']
      exact iff_of_true le_rfl (.inr fits')

end TimeDelta

open TimeDelta

namespace RetentionPolicy

variable {policy short long : RetentionPolicy} {now activeCutoff closedCutoff : DateTime}

def maxAge (policy : RetentionPolicy) (closed : Bool) : StdDuration :=
  if closed then policy.closedChannelMaxAge else policy.snapshotMaxAge

def uncapped (policy : RetentionPolicy) : RetentionPolicy :=
  { policy with maxSnapshotsPerChannel := none, maxTotalSnapshots := none }

theorem checkedSub_acting (within : now ≤ DateTime.maxUtc) (age : StdDuration) :
    now.checkedSub (acting age) = if now - acting age < DateTime.minUtc then none else some (now - acting age) := by
  have atMost : now - acting age ≤ DateTime.maxUtc := (Int.sub_le_self _ (acting_nonneg age)).trans within
  unfold DateTime.checkedSub
  by_cases before : now - acting age < DateTime.minUtc
  · rw [if_pos before, if_neg fun both => not_le.mpr before both.1]
  · rw [if_neg before, if_pos ⟨not_lt.mp before, atMost⟩]

theorem cutoffs_eq_none_iff (within : now ≤ DateTime.maxUtc) :
    policy.cutoffs now = none ↔ ∃ closed, now - acting (policy.maxAge closed) < DateTime.minUtc := by
  have either : (∃ closed, now - acting (policy.maxAge closed) < DateTime.minUtc) ↔
      now - acting policy.snapshotMaxAge < DateTime.minUtc ∨
        now - acting policy.closedChannelMaxAge < DateTime.minUtc :=
    Bool.exists_bool
  have active := checkedSub_acting within policy.snapshotMaxAge
  have closed := checkedSub_acting within policy.closedChannelMaxAge
  rw [either]
  unfold cutoffs
  unfold acting at active closed ⊢
  rw [active, closed]
  by_cases first : now - (fromStd policy.snapshotMaxAge).getD 0 < DateTime.minUtc <;>
    by_cases second : now - (fromStd policy.closedChannelMaxAge).getD 0 < DateTime.minUtc <;> simp [first, second]

theorem cutoffs_eq_some (ended : policy.cutoffs now = some (activeCutoff, closedCutoff)) :
    activeCutoff = now - acting (policy.maxAge false) ∧ closedCutoff = now - acting (policy.maxAge true) := by
  have checked {delta : TimeDelta} {cutoff : DateTime} (fits : now.checkedSub delta = some cutoff) :
      cutoff = now - delta := by
    unfold DateTime.checkedSub at fits
    split at fits
    · exact (Option.some.inj fits).symm
    · cases fits
  unfold cutoffs at ended
  rcases Option.bind_eq_some_iff.mp ended with ⟨active, first, rest⟩
  rcases Option.bind_eq_some_iff.mp rest with ⟨closed, second, both⟩
  cases both
  exact ⟨checked first, checked second⟩

def Keeps (policy : RetentionPolicy) (now : DateTime) (row : ChannelSnapshot) : Prop :=
  policy.cutoffs now = none ∨ now - acting (policy.maxAge row.status.isClosed) ≤ row.ts

theorem youngEnough_iff (ended : policy.cutoffs now = some (activeCutoff, closedCutoff)) (row : ChannelSnapshot) :
    youngEnough activeCutoff closedCutoff row = true ↔ policy.Keeps now row := by
  rcases cutoffs_eq_some ended with ⟨rfl, rfl⟩
  unfold youngEnough Keeps
  rw [ended, or_iff_right (by simp), decide_eq_true_iff]
  cases row.status.isClosed <;> rfl

end RetentionPolicy

theorem MemoryStorage.mem_prune_uncapped (policy : RetentionPolicy) (now : DateTime) (s : MemoryStorage)
    (row : ChannelSnapshot) : row ∈ (final (pruneChannelSnapshots policy.uncapped now) s).channelSnapshots ↔
      row ∈ s.channelSnapshots ∧ policy.Keeps now row := by
  have same : policy.uncapped.cutoffs now = policy.cutoffs now := rfl
  unfold final
  rw [pruneChannelSnapshots_eq, same]
  cases cutoffs : policy.cutoffs now with
  | none => exact (and_iff_left (.inl cutoffs)).symm
  | some pair =>
    rcases pair with ⟨activeCutoff, closedCutoff⟩
    have kept := byChannel_young_perm s.channelSnapshots (youngEnough activeCutoff closedCutoff)
    rw [← RetentionPolicy.youngEnough_iff cutoffs, ← List.mem_filter]
    exact kept.mem_iff

namespace SqliteStorage

open Tables

theorem pruneRows_uncapped {limit : List Nat → List Nat} (limits : Limits pruneChunk limit) {s : SqliteStorage}
    (healthy : Healthy s) (policy : RetentionPolicy) (activeCutoff closedCutoff : DateTime) :
    ∃ n s', pruneRows limit policy.uncapped activeCutoff closedCutoff s = .ok n s' ∧
      Leaves s (s.conn.tables.channelSnapshots.filter (youngEnough activeCutoff closedCutoff)) s' := by
  rcases pruneLoop_ok healthy "pruning stale snapshots"
    (fun rows => limit (placesWhere (fun row => stale activeCutoff closedCutoff row.1) rows))
    (s.conn.tables.channelSnapshots.length + 1) with ⟨s', ran, leaves⟩
  rw [drain_deleteAt (by decide) limits (fun _ _ _ here => mem_placesWhere here) (fun _ => placesWhere_lt)
    (Nat.lt_succ_self _)] at leaves
  simp only [stale_eq, Bool.not_not] at leaves
  exact ⟨_, s', bind_of_ok ran _, leaves⟩

theorem mem_prune_uncapped {limit : List Nat → List Nat} (limits : Limits pruneChunk limit) {s : SqliteStorage}
    (healthy : Healthy s) (idle : s.conn.saved = none) (policy : RetentionPolicy) (now : DateTime)
    (row : ChannelSnapshot) :
    row ∈ (final (pruneChannelSnapshots limit policy.uncapped now) s).conn.tables.channelSnapshots ↔
      row ∈ s.conn.tables.channelSnapshots ∧ policy.Keeps now row := by
  unfold final
  cases cutoffs : policy.cutoffs now with
  | none =>
    have beyond : policy.uncapped.cutoffs now = none := cutoffs
    rcases pruneChannelSnapshots_panics limit healthy idle beyond with ⟨s', ran, tables⟩
    rw [ran]
    dsimp only
    rw [tables]
    exact (and_iff_left (.inl cutoffs)).symm
  | some pair =>
    rcases pair with ⟨activeCutoff, closedCutoff⟩
    have healthyBegun : Healthy s.begun := healthy
    rcases pruneRows_uncapped limits healthyBegun policy activeCutoff closedCutoff with ⟨n, last, ran, leaves⟩
    have ended : policy.uncapped.cutoffs now = some (activeCutoff, closedCutoff) := cutoffs
    rcases pruneChannelSnapshots_of_rows healthy idle ended ran leaves with ⟨s', passed, left⟩
    rw [passed, ← RetentionPolicy.youngEnough_iff cutoffs, ← List.mem_filter]
    dsimp only
    rw [left]
    rfl

end SqliteStorage

/-- The backends, the one with what the database returns of the places that a `LIMIT` selects from. -/
inductive Backend where
  | memory
  | sqlite (limit : List Nat → List Nat) (limits : Limits Tables.pruneChunk limit)

namespace Backend

variable {backend : Backend} {policy short long : RetentionPolicy}

def first : Backend → DateTime
  | memory => DateTime.minUtc
  | sqlite _ _ => DateTime.firstFourDigit

def last : Backend → DateTime
  | memory => DateTime.maxUtc
  | sqlite _ _ => DateTime.lastFourDigit

/-- The instants that a backend compares: those of the calendar, and between texts those with years of four digits. -/
def Compares (backend : Backend) (t : DateTime) : Prop := backend.first ≤ t ∧ t ≤ backend.last

def Prunes (policy : RetentionPolicy) (now : DateTime) (rows kept : List ChannelSnapshot) : Backend → Prop
  | memory => ∃ s : MemoryStorage, s.channelSnapshots = rows ∧
      (final (MemoryStorage.pruneChannelSnapshots policy now) s).channelSnapshots = kept
  | sqlite limit _ => ∃ s : SqliteStorage, s.Healthy ∧ s.conn.saved = none ∧ s.conn.tables.channelSnapshots = rows ∧
      (final (SqliteStorage.pruneChannelSnapshots limit policy now) s).conn.tables.channelSnapshots = kept

theorem mem_of_prunes {now : DateTime} {rows kept : List ChannelSnapshot}
    (prunes : backend.Prunes policy.uncapped now rows kept) (row : ChannelSnapshot) :
    row ∈ kept ↔ row ∈ rows ∧ policy.Keeps now row := by
  cases backend with
  | memory =>
    rcases prunes with ⟨s, rfl, rfl⟩
    exact MemoryStorage.mem_prune_uncapped policy now s row
  | sqlite limit limits =>
    rcases prunes with ⟨s, healthy, idle, rfl, rfl⟩
    exact SqliteStorage.mem_prune_uncapped limits healthy idle policy now row

theorem exists_prunes (backend : Backend) (policy : RetentionPolicy) (now : DateTime) (rows : List ChannelSnapshot) :
    ∃ kept, backend.Prunes policy now rows kept := by
  cases backend with
  | memory => exact ⟨_, { channelSnapshots := rows }, rfl, rfl⟩
  | sqlite limit limits =>
    exact ⟨_, ⟨{ tables := { channelSnapshots := rows }, saved := none }, false⟩, fun _ => rfl, rfl, rfl, rfl⟩

/-- No pass deletes by age a snapshot whose age is at most the maximum for its status. What a pass deletes by age, it
    deletes without caps. -/
def SparesTheYoung (backend : Backend) (policy : RetentionPolicy) : Prop :=
  ∀ now rows kept, backend.Compares now → (∀ row ∈ rows, backend.Compares row.ts) →
    backend.Prunes policy.uncapped now rows kept →
      ∀ row ∈ rows, now - row.ts ≤ policy.maxAge row.status.isClosed → row ∈ kept

def KeepsMore (backend : Backend) (short long : RetentionPolicy) : Prop :=
  ∀ now rows kept kept', backend.Compares now → (∀ row ∈ rows, backend.Compares row.ts) →
    backend.Prunes short.uncapped now rows kept → backend.Prunes long.uncapped now rows kept' → kept ⊆ kept'

def Panics (backend : Backend) (policy : RetentionPolicy) : Prop :=
  ∃ closed, backend.last - DateTime.minUtc < acting (policy.maxAge closed)

instance (backend : Backend) (policy : RetentionPolicy) : Decidable (backend.Panics policy) :=
  inferInstanceAs (Decidable (∃ closed, backend.last - DateTime.minUtc < acting (policy.maxAge closed)))

theorem first_lt_last (backend : Backend) : backend.first < backend.last := by
  cases backend with
  | memory => exact (by decide : DateTime.minUtc < DateTime.maxUtc)
  | sqlite _ _ => exact (by decide : DateTime.firstFourDigit < DateTime.lastFourDigit)

theorem last_le (backend : Backend) : backend.last ≤ DateTime.maxUtc := by
  cases backend with
  | memory => exact le_rfl
  | sqlite _ _ => exact (by decide : DateTime.lastFourDigit ≤ DateTime.maxUtc)

theorem panics_iff : backend.Panics policy ↔ policy.cutoffs backend.last = none := by
  rw [RetentionPolicy.cutoffs_eq_none_iff backend.last_le]
  exact exists_congr fun closed => sub_lt_comm

theorem Panics.cutoffs (panics : backend.Panics policy) {now : DateTime} (compares : backend.Compares now) :
    policy.cutoffs now = none := by
  rcases panics with ⟨closed, long⟩
  refine (RetentionPolicy.cutoffs_eq_none_iff (compares.2.trans backend.last_le)).mpr ⟨closed, ?_⟩
  exact (Int.sub_le_sub_right compares.2 _).trans_lt (sub_lt_comm.mp long)

def recent (backend : Backend) (closed : Bool) : ChannelSnapshot :=
  { prunedChannel with status := if closed then .closed else .active, ts := backend.last - 1 }

theorem recent_isClosed (closed : Bool) : (backend.recent closed).status.isClosed = closed := by
  cases closed <;> rfl

theorem recent_compares (closed : Bool) : ∀ row ∈ [backend.recent closed], backend.Compares row.ts := by
  intro row member
  rw [List.mem_singleton.mp member]
  exact ⟨Int.le_sub_one_of_lt backend.first_lt_last, Int.sub_le_self _ (by decide)⟩

theorem not_keeps_recent (ends : ¬backend.Panics policy) {closed : Bool}
    (large : ¬Representable (policy.maxAge closed)) : ¬policy.Keeps backend.last (backend.recent closed) := by
  rintro (beyond | kept)
  · exact ends (panics_iff.mpr beyond)
  · rw [recent_isClosed, acting_of_not_representable large, sub_zero] at kept
    exact absurd (Int.sub_one_lt_of_le le_rfl) (not_lt.mpr kept)

theorem sparesTheYoung_iff (backend : Backend) (policy : RetentionPolicy) :
    backend.SparesTheYoung policy ↔ backend.Panics policy ∨ ∀ closed, Representable (policy.maxAge closed) := by
  constructor
  · intro spares
    by_cases panics : backend.Panics policy
    · exact .inl panics
    · refine .inr fun closed => ?_
      by_contra large
      rcases backend.exists_prunes policy.uncapped backend.last [backend.recent closed] with ⟨kept, prunes⟩
      have young : backend.last - (backend.recent closed).ts ≤
          policy.maxAge (backend.recent closed).status.isClosed := by
        have age : backend.last - (backend.recent closed).ts = 1 := sub_sub_cancel _ _
        rw [age, recent_isClosed]
        have long : 1 ≤ policy.maxAge closed := (by decide : 1 ≤ (2^63 - 1) * 1000000).trans (Nat.le_of_not_le large)
        exact Int.ofNat_le.mpr long
      have inKept := spares _ _ _ ⟨backend.first_lt_last.le, le_rfl⟩ (recent_compares closed) prunes _
        (List.mem_singleton_self _) young
      exact not_keeps_recent panics large ((mem_of_prunes prunes _).mp inKept).2
  · intro condition now rows kept compares _ prunes row member young
    refine (mem_of_prunes prunes row).mpr ⟨member, ?_⟩
    rcases condition with panics | representable
    · exact .inl (panics.cutoffs compares)
    · refine .inr ?_
      rw [acting_of_representable (representable _)]
      exact sub_le_comm.mp young

theorem keepsMore_iff (backend : Backend) (longer : ∀ closed, short.maxAge closed ≤ long.maxAge closed) :
    backend.KeepsMore short long ↔ backend.Panics long ∨
      ∀ closed, Representable (long.maxAge closed) ∨ short.maxAge closed = 0 ∨
        ¬Representable (short.maxAge closed) := by
  constructor
  · intro more
    by_cases panics : backend.Panics long
    · exact .inl panics
    · refine .inr fun closed => ?_
      by_contra neither
      rw [not_or, not_or, not_not] at neither
      rcases neither with ⟨large, positive, representable⟩
      rcases backend.exists_prunes short.uncapped backend.last [backend.recent closed] with ⟨kept, prunes⟩
      rcases backend.exists_prunes long.uncapped backend.last [backend.recent closed] with ⟨kept', prunes'⟩
      have keeps : short.Keeps backend.last (backend.recent closed) := by
        refine .inr ?_
        rw [recent_isClosed, acting_of_representable representable]
        exact Int.sub_le_sub_left (Int.ofNat_le.mpr (Nat.pos_of_ne_zero positive)) _
      have inKept := (mem_of_prunes prunes _).mpr ⟨List.mem_singleton_self _, keeps⟩
      have inKept' := more _ _ _ _ ⟨backend.first_lt_last.le, le_rfl⟩ (recent_compares closed) prunes prunes' inKept
      exact not_keeps_recent panics large ((mem_of_prunes prunes' _).mp inKept').2
  · intro condition now rows kept kept' compares _ prunes prunes' row inKept
    rcases (mem_of_prunes prunes row).mp inKept with ⟨member, keeps⟩
    refine (mem_of_prunes prunes' row).mpr ⟨member, ?_⟩
    rcases condition with panics | each
    · exact .inl (panics.cutoffs compares)
    · have acts (closed : Bool) : now - acting (long.maxAge closed) ≤ now - acting (short.maxAge closed) :=
        Int.sub_le_sub_left ((acting_le_iff (longer closed)).mpr (each closed)) _
      have within := compares.2.trans backend.last_le
      rcases keeps with beyond | young
      · rcases (RetentionPolicy.cutoffs_eq_none_iff within).mp beyond with ⟨closed, before⟩
        exact .inl ((RetentionPolicy.cutoffs_eq_none_iff within).mpr ⟨closed, (acts closed).trans_lt before⟩)
      · exact .inr ((acts _).trans young)

end Backend

namespace PersistentDedupingSink

def SuppressesMore (short long : StdDuration) : Prop :=
  ∀ (σ : Type) [AlertStateStore σ] (sink : PersistentDedupingSink σ) alert now ended,
    value (send alert now (TelegramSink.send ended)) { sink with cooldown := short } = .ok .suppressed →
      value (send alert now (TelegramSink.send ended)) { sink with cooldown := long } = .ok .suppressed

theorem record_not_suppressed {σ : Type} [AlertStateStore σ] (sink : PersistentDedupingSink σ) (key : String)
    (alert : Alert) (now : DateTime) (stored : AlertState) (ended : Except AlertError Unit) :
    value (record key alert now stored (TelegramSink.send ended)) sink ≠ .ok .suppressed := by
  intro suppressed
  unfold value at suppressed
  cases ended with
  | ok _ =>
    cases wrote : AlertStateStore.write key ⟨some now, some alert.severity, .success⟩ sink.store with
    | ok _ store =>
      have sent : record key alert now stored (TelegramSink.send (.ok ())) sink =
          .ok .delivered { sink with store, sentCount := sink.sentCount + 1 } := bind_of_ok (writeState_of_ok wrote) _
      rw [sent] at suppressed
      cases suppressed
    | error e store =>
      have failed : record key alert now stored (TelegramSink.send (.ok ())) sink = .error e { sink with store } :=
        bind_of_error (writeState_of_error wrote) _
      rw [failed] at suppressed
      cases suppressed
  | error lost =>
    cases wrote : AlertStateStore.write key { stored with lastStatus := .failed } sink.store with
    | ok _ store =>
      have failed : record key alert now stored (TelegramSink.send (.error lost)) sink =
          .error lost { sink with store } :=
        bind_of_ok (writeState_of_ok wrote) _
      rw [failed] at suppressed
      cases suppressed
    | error e store =>
      have failed : record key alert now stored (TelegramSink.send (.error lost)) sink = .error e { sink with store } :=
        bind_of_error (writeState_of_error wrote) _
      rw [failed] at suppressed
      cases suppressed

theorem send_suppressed_iff {σ : Type} [AlertStateStore σ] (sink : PersistentDedupingSink σ) (alert : Alert)
    (now : DateTime) (ended : Except AlertError Unit) :
    value (send alert now (TelegramSink.send ended)) sink = .ok .suppressed ↔
      ∃ state store', AlertStateStore.read (sink.key alert) sink.store = .ok state ∧
        (state.getD .never).suppresses sink.cooldown alert.severity now = true ∧
        AlertStateStore.write (sink.key alert) { state.getD .never with lastStatus := .skipped } sink.store =
          .ok () store' := by
  have got : (get : SinkM σ (PersistentDedupingSink σ)) sink = .ok sink sink := rfl
  cases read : AlertStateStore.read (sink.key alert) sink.store with
  | error e =>
    have failed : readState (sink.key alert) sink = .error e sink := by
      unfold readState
      rw [read]
    have sent : send alert now (TelegramSink.send ended) sink = .error e sink :=
      (bind_of_ok got _).trans (bind_of_error failed _)
    unfold value
    rw [sent]
    simp
  | ok state =>
    have answered : readState (sink.key alert) sink = .ok (state.getD .never) sink := by
      unfold readState
      rw [read]
    have sent : send alert now (TelegramSink.send ended) sink =
        (if (state.getD .never).suppresses sink.cooldown alert.severity now then do
          writeState (sink.key alert) { state.getD .never with lastStatus := .skipped }
          return .suppressed
        else record (sink.key alert) alert now (state.getD .never) (TelegramSink.send ended) : SinkM σ DeliveryOutcome)
          sink := (bind_of_ok got _).trans (bind_of_ok answered _)
    by_cases suppressed : (state.getD .never).suppresses sink.cooldown alert.severity now = true
    · rw [if_pos suppressed] at sent
      cases wrote :
        AlertStateStore.write (sink.key alert) { state.getD .never with lastStatus := .skipped } sink.store with
      | ok _ store =>
        unfold value
        rw [sent, bind_of_ok (writeState_of_ok wrote)]
        exact iff_of_true rfl ⟨state, store, rfl, suppressed, wrote⟩
      | error e store =>
        unfold value
        rw [sent, bind_of_error (writeState_of_error wrote)]
        refine iff_of_false (fun same => by cases same) ?_
        rintro ⟨state', store', same, -, ok⟩
        cases same
        rw [wrote] at ok
        cases ok
    · rw [if_neg suppressed] at sent
      refine iff_of_false (fun answer => ?_) ?_
      · unfold value at answer
        rw [sent] at answer
        exact record_not_suppressed sink _ alert now _ ended answer
      · rintro ⟨state', store', same, also, -⟩
        cases same
        exact suppressed also

theorem suppresses_of_acting_le {stored : AlertState} {severity : Severity} {now : DateTime} {short long : StdDuration}
    (acts : acting short ≤ acting long) (suppressed : stored.suppresses short severity now = true) :
    stored.suppresses long severity now = true := by
  unfold AlertState.suppresses at suppressed ⊢
  rw [Bool.and_eq_true] at suppressed ⊢
  refine ⟨?_, suppressed.2⟩
  have within := suppressed.1
  unfold AlertState.inCooldown at within ⊢
  cases sent : stored.lastSentAt with
  | none =>
    rw [sent] at within
    cases within
  | some sentAt =>
    rw [sent] at within
    exact decide_eq_true ((of_decide_eq_true within).trans_le acts)

def delivered (alert : Alert) (cooldown : StdDuration) : PersistentDedupingSink MemoryStorage where
  store := { alertState := AList.insert alert.dedupKey ⟨some 0, some alert.severity, .success⟩ ∅ }
  cooldown

theorem delivered_suppressed_iff (alert : Alert) (cooldown : StdDuration) (now : DateTime)
    (ended : Except AlertError Unit) :
    value (send alert now (TelegramSink.send ended)) (delivered alert cooldown) = .ok .suppressed ↔
      now < acting cooldown := by
  have read : AlertStateStore.read alert.dedupKey (delivered alert cooldown).store =
      .ok (some ⟨some 0, some alert.severity, .success⟩) := congrArg Except.ok (AList.lookup_insert _)
  have decision : (AlertState.mk (some 0) (some alert.severity) .success).suppresses cooldown alert.severity now =
      decide (now < acting cooldown) := by
    unfold AlertState.suppresses AlertState.inCooldown AlertState.escalated
    simp only [Option.any_some, sub_zero, lt_self_iff_false, decide_false, Bool.not_false, Bool.and_true]
    rfl
  have keyed : (delivered alert cooldown).key alert = alert.dedupKey := rfl
  rw [send_suppressed_iff, keyed, read]
  constructor
  · rintro ⟨state, store', same, suppressed, -⟩
    cases same
    exact of_decide_eq_true (decision.symm.trans suppressed)
  · exact fun within => ⟨_, _, rfl, decision.trans (decide_eq_true within), rfl⟩

theorem suppressesMore_iff {short long : StdDuration} (longer : short ≤ long) :
    SuppressesMore short long ↔ Representable long ∨ short = 0 ∨ ¬Representable short := by
  rw [← acting_le_iff longer]
  constructor
  · intro more
    by_contra less
    let alert : Alert := ⟨"key", .warning, "title", "message", 0⟩
    have suppressed := (delivered_suppressed_iff alert short (acting long) (.ok ())).mpr (not_le.mp less)
    have also := more MemoryStorage (delivered alert short) alert (acting long) (.ok ()) suppressed
    exact lt_irrefl _ ((delivered_suppressed_iff alert long (acting long) (.ok ())).mp also)
  · intro acts σ _ sink alert now ended suppressed
    rcases (send_suppressed_iff _ alert now ended).mp suppressed with ⟨state, store', read, held, wrote⟩
    exact (send_suppressed_iff _ alert now ended).mpr ⟨state, store', read, suppresses_of_acting_le acts held, wrote⟩

end PersistentDedupingSink

/-- Configured durations act monotonically exactly where the calendar library represents them, where an age makes every
    pass panic, or where the shorter duration does not act either. -/
theorem durations_monotone_iff (backend : Backend) {shortAges longAges : RetentionPolicy} {short long : StdDuration}
    (ages : ∀ closed, shortAges.maxAge closed ≤ longAges.maxAge closed) (cooldowns : short ≤ long) :
    (backend.SparesTheYoung longAges ↔
      backend.Panics longAges ∨ ∀ closed, Representable (longAges.maxAge closed)) ∧
    (backend.KeepsMore shortAges longAges ↔
      backend.Panics longAges ∨ ∀ closed, Representable (longAges.maxAge closed) ∨ shortAges.maxAge closed = 0 ∨
        ¬Representable (shortAges.maxAge closed)) ∧
    (PersistentDedupingSink.SuppressesMore short long ↔ Representable long ∨ short = 0 ∨ ¬Representable short) :=
  ⟨backend.sparesTheYoung_iff longAges, backend.keepsMore_iff ages, PersistentDedupingSink.suppressesMore_iff cooldowns⟩

/-- The default ages against a year, and a minute of cooldown against an hour. -/
theorem durations_monotone_year :
    let year : RetentionPolicy :=
      { snapshotMaxAge := 365 * 86400 * 1000000000, closedChannelMaxAge := 365 * 86400 * 1000000000 }
    Backend.memory.SparesTheYoung year ∧ Backend.memory.KeepsMore {} year ∧
      PersistentDedupingSink.SuppressesMore (60 * 1000000000) (3600 * 1000000000) := by
  intro year
  have iffs :=
    durations_monotone_iff .memory (by decide : ∀ closed, RetentionPolicy.maxAge {} closed ≤ year.maxAge closed)
    (by decide : 60 * 1000000000 ≤ 3600 * 1000000000)
  exact ⟨iffs.1.mpr (by decide), iffs.2.1.mpr (by decide), iffs.2.2.mpr (by decide)⟩

/-- The longest duration of the standard library, as an age and as a cooldown. -/
theorem longest_duration_not_monotone :
    let longest : StdDuration := (2^64 - 1) * 1000000000 + 999999999
    ¬Backend.memory.SparesTheYoung { snapshotMaxAge := longest } ∧
      ¬Backend.memory.KeepsMore {} { snapshotMaxAge := longest } ∧
      ¬PersistentDedupingSink.SuppressesMore (60 * 1000000000) longest := by
  intro longest
  refine ⟨fun spares => ?_, fun more => ?_, fun more => ?_⟩
  · have condition := (Backend.sparesTheYoung_iff _ _).mp spares
    exact absurd condition (by decide)
  · have condition := (Backend.keepsMore_iff .memory (by decide)).mp more
    exact absurd condition (by decide)
  · have condition := (PersistentDedupingSink.suppressesMore_iff (by decide)).mp more
    exact absurd condition (by decide)

end Rieko
