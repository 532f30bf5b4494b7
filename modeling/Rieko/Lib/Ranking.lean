import Mathlib.Data.List.Induction
import Mathlib.Data.List.Sort

/-! Lists of which the foremost elements are kept, and the deletion of the others in bounded statements. -/

namespace Ranking

variable {α : Type}

section Rank

variable {above : α → α → Bool} {rows : List α} {k : Nat} {doomed : α → Bool}

def rank (above : α → α → Bool) (rows : List α) (a : α) : Nat := rows.countP (above · a)

def foremost (above : α → α → Bool) (k : Nat) (rows : List α) : List α :=
  rows.filter fun a => rank above rows a < k

structure Strict (above : α → α → Bool) : Prop where
  irrefl : ∀ a, above a a = false
  trans : ∀ a b c, above a b = true → above b c = true → above a c = true

theorem rank_perm {rows rows' : List α} (same : rows.Perm rows') (a : α) : rank above rows a = rank above rows' a :=
  same.countP_eq _

theorem rank_zipIdx (above : α → α → Bool) (rows : List α) (row : α × Nat) :
    rank (fun a b : α × Nat => above a.1 b.1) rows.zipIdx row = rank above rows row.1 := by
  have mapped : (rows.zipIdx.map Prod.fst).countP (above · row.1) =
      rows.zipIdx.countP fun other => above other.1 row.1 := List.countP_map
  rw [List.zipIdx_map_fst] at mapped
  exact mapped.symm

theorem rank_mono (strict : Strict above) (rows : List α) {a b : α} (higher : above a b = true) :
    rank above rows a ≤ rank above rows b :=
  List.countP_mono_left fun c _ exceeds => strict.trans c a b exceeds higher

theorem rank_lt (strict : Strict above) {a b : α} (member : a ∈ rows) (higher : above a b = true) :
    rank above rows a < rank above rows b := by
  have split := List.countP_eq_countP_filter_add rows (above · b) (above · a)
  have part : rank above rows a ≤ (rows.filter (above · a)).countP (above · b) := by
    rw [List.countP_filter]
    exact List.countP_mono_left fun c _ exceeds => by simp [exceeds, strict.trans c a b exceeds higher]
  have itself : 0 < (rows.filter fun c => !above c a).countP (above · b) :=
    List.countP_pos_iff.mpr ⟨a, List.mem_filter.mpr ⟨member, by simp [strict.irrefl a]⟩, higher⟩
  unfold rank at part ⊢
  omega

/-- An element that is low stays low when other low ones go: a highest one of those that went had enough above it. -/
theorem low_of_low (strict : Strict above) (low : ∀ d ∈ rows, doomed d = true → k ≤ rank above rows d) {a : α}
    (lowly : k ≤ rank above rows a) : k ≤ rank above (rows.filter (!doomed ·)) a := by
  induction rank_eq : rank above rows a using Nat.strong_induction_on generalizing a with
  | _ n ih =>
    by_cases gone : ∃ d ∈ rows, doomed d = true ∧ above d a = true
    · obtain ⟨d, member, dooms, higher⟩ := gone
      have below := rank_lt strict member higher
      have kept := ih (rank above rows d) (rank_eq ▸ below) (low d member dooms) rfl
      exact kept.trans (rank_mono strict _ higher)
    · have all : rank above (rows.filter (!doomed ·)) a = rank above rows a := by
        unfold rank
        rw [List.countP_filter]
        refine List.countP_congr fun d member => ?_
        cases dooms : doomed d with
        | false => simp
        | true =>
          have under : above d a = false := by
            by_contra exceeds
            exact gone ⟨d, member, dooms, by simpa using exceeds⟩
          simp [under]
      rw [all]
      exact lowly

theorem rank_filter_le (keep : α → Bool) (rows : List α) (a : α) :
    rank above (rows.filter keep) a ≤ rank above rows a :=
  List.Sublist.countP_le List.filter_sublist

theorem low_iff (strict : Strict above) (low : ∀ d ∈ rows, doomed d = true → k ≤ rank above rows d) (a : α) :
    k ≤ rank above (rows.filter (!doomed ·)) a ↔ k ≤ rank above rows a :=
  ⟨fun lowly => lowly.trans (rank_filter_le _ rows a), low_of_low strict low⟩

theorem foremost_perm {rows' : List α} (same : rows.Perm rows') :
    (foremost above k rows).Perm (foremost above k rows') := by
  have ranks : (fun a => decide (rank above rows a < k)) = fun a => decide (rank above rows' a < k) :=
    funext fun a => by rw [rank_perm same]
  unfold foremost
  rw [ranks]
  exact same.filter _

theorem foremost_zero : foremost above 0 rows = [] := by
  unfold foremost
  simp

theorem foremost_ne_nil (strict : Strict above) (positive : 0 < k) (filled : rows ≠ []) :
    foremost above k rows ≠ [] := by
  have top (n : Nat) : ∀ a ∈ rows, rank above rows a = n → ∃ b ∈ rows, rank above rows b = 0 := by
    induction n using Nat.strong_induction_on with
    | _ n ih =>
      intro a member ranked
      by_cases zero : n = 0
      · exact ⟨a, member, zero ▸ ranked⟩
      · obtain ⟨b, other, higher⟩ := List.countP_pos_iff.mp (show 0 < rank above rows a by omega)
        have less := rank_lt strict other higher
        exact ih (rank above rows b) (ranked ▸ less) b other rfl
  obtain ⟨a, member⟩ := List.exists_mem_of_ne_nil rows filled
  obtain ⟨b, other, ranked⟩ := top _ a member rfl
  exact List.ne_nil_of_mem (List.mem_filter.mpr ⟨other, decide_eq_true (by omega)⟩)

end Rank

section Sorted

variable {above : α → α → Bool}

theorem mem_take_iff {rows : List α} (sorted : rows.Pairwise fun a b => above a b = true)
    (strict : Strict above) {k : Nat} {a : α} : a ∈ rows.take k ↔ a ∈ rows ∧ rank above rows a < k := by
  induction rows generalizing k with
  | nil => simp
  | cons first rest ih =>
    obtain ⟨before, sorted⟩ := List.pairwise_cons.mp sorted
    have under (b : α) (member : b ∈ rest) : above b first = false := by
      by_contra exceeds
      have loop := strict.trans first b first (before b member) (by simpa using exceeds)
      rw [strict.irrefl] at loop
      cases loop
    cases k with
    | zero => simp
    | succ k =>
      rw [List.take_succ_cons, List.mem_cons, List.mem_cons, ih sorted]
      have leading : rank above (first :: rest) first = 0 := by
        refine List.countP_eq_zero.mpr fun b member => ?_
        rcases List.mem_cons.mp member with rfl | member
        · simp [strict.irrefl]
        · simp [under b member]
      have following (member : a ∈ rest) : rank above (first :: rest) a = rank above rest a + 1 := by
        unfold rank
        rw [List.countP_cons, if_pos (before a member)]
      constructor
      · rintro (rfl | ⟨member, ranked⟩)
        · exact ⟨.inl rfl, by omega⟩
        · exact ⟨.inr member, by rw [following member]; omega⟩
      · rintro ⟨rfl | member, ranked⟩
        · exact .inl rfl
        · exact .inr ⟨member, by rw [following member] at ranked; omega⟩

theorem idxOf_eq_rank [BEq α] [LawfulBEq α] {rows : List α} (sorted : rows.Pairwise fun a b => above a b = true)
    (strict : Strict above) {a : α} (member : a ∈ rows) : rows.idxOf a = rank above rows a := by
  have same (k : Nat) : rows.idxOf a < k ↔ rank above rows a < k := by
    rw [← List.mem_take_iff_idxOf_lt member, mem_take_iff sorted strict, and_iff_right member]
  have below := (same (rank above rows a + 1)).mpr (by omega)
  have exceeds := (same (rows.idxOf a + 1)).mp (by omega)
  omega

variable {τ : Type} [LinearOrder τ]

def later (instant : α → τ) (a b : α) : Bool := instant b < instant a

theorem later_strict (instant : α → τ) : Strict (later instant) where
  irrefl a := by simp [later]
  trans a b c first second := by
    simp only [later, decide_eq_true_eq] at first second ⊢
    exact second.trans first

def latestFirst (instant : α → τ) (rows : List α) : List α := rows.insertionSort fun a b => instant b ≤ instant a

theorem latestFirst_perm (instant : α → τ) (rows : List α) : (latestFirst instant rows).Perm rows :=
  List.perm_insertionSort _ rows

theorem latestFirst_sorted (instant : α → τ) (rows : List α) :
    (latestFirst instant rows).Pairwise fun a b => instant b ≤ instant a := by
  have total : Std.Total fun a b : α => instant b ≤ instant a := ⟨fun a b => le_total (instant b) (instant a)⟩
  have trans : IsTrans α fun a b => instant b ≤ instant a := ⟨fun a b c first second => second.trans first⟩
  exact List.pairwise_insertionSort _ rows

theorem pairwise_latestFirst {instant : α → τ} {rows : List α} (distinct : (rows.map instant).Nodup) :
    (latestFirst instant rows).Pairwise fun a b => later instant a b = true := by
  have apart : (latestFirst instant rows).Pairwise fun a b => instant a ≠ instant b :=
    List.pairwise_map.mp (((latestFirst_perm instant rows).map instant).nodup_iff.mpr distinct)
  refine ((latestFirst_sorted instant rows).and apart).imp fun {a b} facts => ?_
  exact decide_eq_true (lt_of_le_of_ne facts.1 (Ne.symm facts.2))

theorem nodup_of_falling {instant : α → τ} {rows : List α}
    (falling : rows.Pairwise fun a b => later instant a b = true) :
    (rows.map instant).Nodup :=
  List.pairwise_map.mpr (falling.imp fun higher => (of_decide_eq_true higher).ne')

theorem latestFirst_eq {instant : α → τ} {rows rows' : List α}
    (falling : rows.Pairwise fun a b => later instant a b = true) (same : rows.Perm rows') :
    latestFirst instant rows' = rows := by
  have distinct : (rows'.map instant).Nodup := (same.map instant).nodup_iff.mp (nodup_of_falling falling)
  refine ((latestFirst_perm instant rows').trans same.symm).eq_of_pairwise (fun a b _ _ above below => ?_)
    (pairwise_latestFirst distinct) falling
  exact absurd ((of_decide_eq_true above).trans (of_decide_eq_true below)) (lt_irrefl _)

theorem take_latestFirst_perm {instant : α → τ} {rows : List α} (distinct : (rows.map instant).Nodup) (k : Nat) :
    ((latestFirst instant rows).take k).Perm (foremost (later instant) k rows) := by
  have sorted := (latestFirst_perm instant rows)
  have nodup : rows.Nodup := List.Nodup.of_map _ distinct
  refine (List.perm_ext_iff_of_nodup ((sorted.nodup_iff.mpr nodup).sublist (List.take_sublist _ _))
    (nodup.filter _)).mpr fun a => ?_
  rw [mem_take_iff (pairwise_latestFirst distinct) (later_strict instant), sorted.mem_iff, rank_perm sorted]
  rw [List.mem_filter, decide_eq_true_iff]

end Sorted

section Ties

variable {rows : List α} {k : Nat}

theorem countP_take {p : α → Bool} (front : rows.Pairwise fun a b => p b = true → p a = true) :
    (rows.take k).countP p = min k (rows.countP p) := by
  induction rows generalizing k with
  | nil => simp
  | cons first rest ih =>
    rcases List.pairwise_cons.mp front with ⟨before, front⟩
    cases k with
    | zero => simp
    | succ k =>
      rw [List.take_succ_cons, List.countP_cons, List.countP_cons, ih front]
      by_cases holds : p first = true
      · simp only [if_pos holds]
        omega
      · have none : rest.countP p = 0 := List.countP_eq_zero.mpr fun b member found => holds (before b member found)
        simp [holds, none]

variable {τ : Type} [LinearOrder τ] {instant : α → τ} {a : α}

theorem rank_lt_of_mem_take (sorted : rows.Pairwise fun a b => instant b ≤ instant a) (taken : a ∈ rows.take k) :
    rank (later instant) rows a < k := by
  have counted : (rows.take k).countP (later instant · a) = min k (rank (later instant) rows a) :=
    countP_take (sorted.imp fun {x y} under found =>
      decide_eq_true ((of_decide_eq_true found).trans_le under))
  have itself : (rows.take k).countP (later instant · a) < (rows.take k).length := by
    refine lt_of_le_of_ne List.countP_le_length fun all => ?_
    have above := List.countP_eq_length.mp all a taken
    simp [later] at above
  have short : (rows.take k).length ≤ k := List.length_take_le _ _
  omega

theorem exists_mem_take (sorted : rows.Pairwise fun a b => instant b ≤ instant a) (member : a ∈ rows)
    (ranked : rank (later instant) rows a < k) : ∃ b ∈ rows.take k, instant b = instant a := by
  let reached (b : α) : Bool := instant a ≤ instant b
  have above : (rows.take k).countP (later instant · a) = min k (rank (later instant) rows a) :=
    countP_take (sorted.imp fun {x y} under found =>
      decide_eq_true ((of_decide_eq_true found).trans_le under))
  have atLeast : (rows.take k).countP reached = min k (rows.countP reached) :=
    countP_take (sorted.imp fun {x y} under found =>
      decide_eq_true ((of_decide_eq_true found).trans under))
  have more : rank (later instant) rows a < rows.countP reached := by
    have split := List.countP_eq_countP_filter_add rows reached (later instant · a)
    have part : (rows.filter (later instant · a)).countP reached = rank (later instant) rows a := by
      rw [List.countP_filter]
      refine List.countP_congr fun b _ => ?_
      simp only [reached, later, Bool.and_eq_true, decide_eq_true_eq]
      exact ⟨fun both => both.2, fun under => ⟨under.le, under⟩⟩
    have itself : 0 < (rows.filter (!later instant · a)).countP reached :=
      List.countP_pos_iff.mpr ⟨a, List.mem_filter.mpr ⟨member, by simp [later]⟩, by simp [reached]⟩
    omega
  by_contra absent
  have none : (rows.take k).countP reached ≤ (rows.take k).countP (later instant · a) := by
    refine List.countP_mono_left fun b taken found => decide_eq_true ?_
    exact lt_of_le_of_ne (of_decide_eq_true found) fun same => absent ⟨b, taken, same.symm⟩
  omega

end Ties

section Ordered

variable {rows : List α}

theorem pairwise_iff_of_ascending {lt R : α → α → Prop} (asymm : ∀ a b, lt a b → ¬lt b a)
    (ascending : rows.Pairwise lt) : rows.Pairwise R ↔ ∀ a ∈ rows, ∀ b ∈ rows, lt a b → R a b := by
  induction rows with
  | nil => simp
  | cons first rest ih =>
    rcases List.pairwise_cons.mp ascending with ⟨before, ascending⟩
    rw [List.pairwise_cons, ih ascending]
    constructor
    · rintro ⟨head, tail⟩ a memberA b memberB less
      rcases List.mem_cons.mp memberA with rfl | inRestA <;> rcases List.mem_cons.mp memberB with rfl | inRestB
      · exact absurd less (asymm _ _ less)
      · exact head b inRestB
      · exact absurd less (asymm _ _ (before a inRestA))
      · exact tail a inRestA b inRestB less
    · intro all
      exact ⟨fun b member => all first List.mem_cons_self b (List.mem_cons_of_mem _ member) (before b member),
        fun a memberA b memberB => all a (List.mem_cons_of_mem _ memberA) b (List.mem_cons_of_mem _ memberB)⟩

theorem rises_iff_of_falling {τ : Type} [LinearOrder τ] {instant : α → τ}
    (falling : rows.Pairwise fun a b => instant b ≤ instant a) :
    rows.Pairwise (fun a b => instant a ≤ instant b) ↔ ∀ a ∈ rows, ∀ b ∈ rows, instant a = instant b := by
  constructor
  · intro rising
    have equal : rows.Pairwise fun a b => instant a = instant b :=
      (rising.and falling).imp fun {a b} both => le_antisymm both.1 both.2
    have flipped : rows.Pairwise (flip fun a b => instant a = instant b) := equal.imp fun {a b} same => same.symm
    have same (a : α) (_ : a ∈ rows) : instant a = instant a := rfl
    exact equal.forall_of_forall_of_flip same flipped
  · exact fun same => List.pairwise_of_forall_mem_list fun a memberA b memberB => (same a memberA b memberB).le

theorem grouped_perm {κ : Type} [DecidableEq κ] (key : α → κ) {keys : List κ} (once : keys.Nodup)
    (covers : ∀ a ∈ rows, key a ∈ keys) : (keys.flatMap fun k => rows.filter (key · = k)).Perm rows := by
  induction keys generalizing rows with
  | nil =>
    have empty : rows = [] := List.eq_nil_iff_forall_not_mem.mpr fun a member => by simpa using covers a member
    simp [empty]
  | cons first keys ih =>
    rcases List.nodup_cons.mp once with ⟨fresh, once⟩
    have others : (keys.flatMap fun k => rows.filter (key · = k)) =
        keys.flatMap fun k => (rows.filter fun a => !decide (key a = first)).filter (key · = k) := by
      refine List.flatMap_congr fun k listed => ?_
      rw [List.filter_filter]
      refine List.filter_congr fun a _ => ?_
      by_cases same : key a = k
      · have differ : ¬key a = first := fun same' => fresh (same' ▸ same ▸ listed)
        simp [same, same ▸ differ]
      · simp [same]
    rw [List.flatMap_cons, others]
    refine ((ih once fun a member => ?_).append_left _).trans (List.filter_append_perm _ rows)
    rcases List.mem_filter.mp member with ⟨listed, differ⟩
    exact (List.mem_cons.mp (covers a listed)).resolve_left (by simpa using differ)

end Ordered

section Keyed

variable {κ : Type} [LinearOrder κ] {key : α → κ} {rows others : List α}

theorem filter_insertionSort (key : α → κ) (rows : List α) (k : κ) :
    (rows.insertionSort fun a b => key a ≤ key b).filter (key · = k) = rows.filter (key · = k) := by
  have kept : (rows.filter (key · = k)).Sublist (rows.insertionSort fun a b => key a ≤ key b) := by
    apply List.sublist_insertionSort _ List.filter_sublist
    apply List.pairwise_of_forall_mem_list
    intro a memberA b memberB
    have sameA : key a = k := by simpa using (List.mem_filter.mp memberA).2
    have sameB : key b = k := by simpa using (List.mem_filter.mp memberB).2
    exact (sameA.trans sameB.symm).le
  have within := kept.filter (key · = k)
  rw [List.filter_filter] at within
  simp only [Bool.and_self] at within
  have count := ((List.perm_insertionSort (fun a b => key a ≤ key b) rows).filter (key · = k)).length_eq
  exact (within.eq_of_length count.symm).symm

theorem eq_of_filter_eq (sorted : rows.Pairwise fun a b => key a ≤ key b)
    (sorted' : others.Pairwise fun a b => key a ≤ key b)
    (same : ∀ k, rows.filter (key · = k) = others.filter (key · = k)) : rows = others := by
  induction rows generalizing others with
  | nil =>
    cases others with
    | nil => rfl
    | cons b others => simpa using same (key b)
  | cons a rows ih =>
    cases others with
    | nil => simpa using same (key a)
    | cons b others =>
      rcases List.pairwise_cons.mp sorted with ⟨lowest, rest⟩
      rcases List.pairwise_cons.mp sorted' with ⟨lowest', rest'⟩
      have member : a ∈ (b :: others).filter (key · = key a) := by
        rw [← same]
        simp
      have member' : b ∈ (a :: rows).filter (key · = key b) := by
        rw [same]
        simp
      have above : key b ≤ key a := by
        rcases List.mem_cons.mp (List.mem_filter.mp member).1 with rfl | later
        · exact le_refl _
        · exact lowest' a later
      have below : key a ≤ key b := by
        rcases List.mem_cons.mp (List.mem_filter.mp member').1 with rfl | later
        · exact le_refl _
        · exact lowest b later
      have keys : key a = key b := le_antisymm below above
      have heads := same (key a)
      simp only [List.filter_cons, keys, decide_true, if_true] at heads
      obtain ⟨rfl, _⟩ := List.cons.inj heads
      have tails (k : κ) : rows.filter (key · = k) = others.filter (key · = k) := by
        have each := same k
        simp only [List.filter_cons] at each
        split at each
        · exact (List.cons.inj each).2
        · exact each
      rw [ih rest rest' tails]

end Keyed

section Deletion

def deleteAt (places : List Nat) (rows : List α) : List α × Nat :=
  let rest := (rows.zipIdx.filter fun row => row.2 ∉ places).map Prod.fst
  (rest, rows.length - rest.length)

/-- Repeats a deletion until it deletes nothing, and sums up what it deleted. -/
def drain (delete : List α → List α × Nat) : Nat → List α → List α × Nat
  | 0, rows => (rows, 0)
  | fuel + 1, rows =>
    let once := delete rows
    if once.2 = 0 then once else
      let others := drain delete fuel once.1
      (others.1, once.2 + others.2)

/-- A deletion that takes some of the bad rows of a table, and at least one where there are any. -/
def Takes (table : List α → Prop) (bad : List α → α → Bool) (delete : List α → List α × Nat) : Prop :=
  ∀ rows : List α, table rows → ∃ doomed : α → Bool, (∀ a ∈ rows, doomed a = true → bad rows a = true) ∧
    delete rows = (rows.filter (!doomed ·), rows.countP doomed) ∧
    ((∃ a ∈ rows, bad rows a = true) → ∃ a ∈ rows, doomed a = true)

def Stable (bad : List α → α → Bool) : Prop :=
  ∀ (rows : List α) (doomed : α → Bool), (∀ a ∈ rows, doomed a = true → bad rows a = true) →
    ∀ a, bad (rows.filter (!doomed ·)) a = bad rows a

theorem drain_eq {table : List α → Prop} {bad : List α → α → Bool} {delete : List α → List α × Nat}
    (takes : Takes table bad delete) (stable : Stable bad)
    (part : ∀ (rows : List α) (keep : α → Bool), table rows → table (rows.filter keep)) {fuel : Nat} {rows : List α}
    (held : table rows) (enough : rows.length < fuel) :
    drain delete fuel rows = (rows.filter (!bad rows ·), rows.countP (bad rows)) := by
  induction fuel generalizing rows with
  | zero => omega
  | succ fuel ih =>
    obtain ⟨doomed, wrong, deleted, finds⟩ := takes rows held
    unfold drain
    rw [deleted]
    dsimp only
    by_cases none : rows.countP doomed = 0
    · have spared (a : α) (member : a ∈ rows) : doomed a = false := by
        simpa using List.countP_eq_zero.mp none a member
      have good (a : α) (member : a ∈ rows) : bad rows a = false := by
        by_contra found
        obtain ⟨b, other, dooms⟩ := finds ⟨a, member, by simpa using found⟩
        rw [spared b other] at dooms
        cases dooms
      have kept : rows.filter (!doomed ·) = rows.filter (!bad rows ·) :=
        List.filter_congr fun a member => by rw [spared a member, good a member]
      rw [if_pos none, none, kept, List.countP_eq_zero.mpr fun a member => by simp [good a member]]
    · have shorter : (rows.filter (!doomed ·)).length < rows.length := by
        have split := rows.length_eq_length_filter_add doomed
        rw [← List.countP_eq_length_filter] at split
        omega
      have same : bad (rows.filter (!doomed ·)) = bad rows := funext (stable rows doomed wrong)
      have kept : (rows.filter (!doomed ·)).filter (!bad rows ·) = rows.filter (!bad rows ·) := by
        rw [List.filter_filter]
        refine List.filter_congr fun a member => ?_
        cases dooms : doomed a with
        | false => simp
        | true => simp [wrong a member dooms]
      have gone : (rows.filter doomed).countP (bad rows) = rows.countP doomed := by
        rw [List.countP_filter]
        refine List.countP_congr fun a member => ?_
        cases dooms : doomed a with
        | false => simp
        | true => simp [wrong a member dooms]
      rw [if_neg none, ih (part rows _ held) (by omega), same, kept, ← gone,
        ← List.countP_eq_countP_filter_add rows (bad rows) doomed]

/-- Repeated deletions that spare the good rows, and delete something while there are bad ones, leave the good ones. -/
theorem drain_filter {bad : α → Bool} {delete : List α → List α × Nat}
    (spares : ∀ rows, (delete rows).1.filter (!bad ·) = rows.filter (!bad ·))
    (counts : ∀ rows, (delete rows).1.length + (delete rows).2 = rows.length)
    (finds : ∀ rows, (∃ a ∈ rows, bad a = true) → (delete rows).2 ≠ 0) {fuel : Nat} {rows : List α}
    (enough : rows.length < fuel) : (drain delete fuel rows).1 = rows.filter (!bad ·) := by
  induction fuel generalizing rows with
  | zero => omega
  | succ fuel ih =>
    have counted := counts rows
    have spared := spares rows
    unfold drain
    dsimp only
    by_cases none : (delete rows).2 = 0
    · have good : rows.filter (!bad ·) = rows := by
        refine List.filter_eq_self.mpr fun a member => ?_
        by_contra found
        exact finds rows ⟨a, member, by simpa using found⟩ none
      have whole : (delete rows).1.filter (!bad ·) = (delete rows).1 := by
        refine List.filter_sublist.eq_of_length ?_
        rw [spared, good]
        omega
      rw [if_pos none, ← whole, spared]
    · rw [if_neg none]
      exact (ih (by omega)).trans spared

theorem stable_rank {above : α → α → Bool} (strict : Strict above) (k : Nat) :
    Stable fun rows a => decide (k ≤ rank above rows a) := by
  intro rows doomed wrong a
  have low (d : α) (member : d ∈ rows) (dooms : doomed d = true) := of_decide_eq_true (wrong d member dooms)
  exact decide_eq_decide.mpr (low_iff strict low a)

theorem filter_rank (above : α → α → Bool) (k : Nat) (rows : List α) :
    rows.filter (fun a => !decide (k ≤ rank above rows a)) = foremost above k rows :=
  List.filter_congr fun a _ => by
    rw [← decide_not]
    exact decide_eq_decide.mpr Nat.not_le

section Places

variable {rows : List α} {places : List Nat}

theorem deleteAt_eq {doomed : α → Bool}
    (chosen : ∀ i a, rows[i]? = some a → (i ∈ places ↔ doomed a = true)) :
    deleteAt places rows = (rows.filter (!doomed ·), rows.countP doomed) := by
  have rest : (rows.zipIdx.filter fun row => row.2 ∉ places).map Prod.fst = rows.filter (!doomed ·) := by
    have spared : rows.zipIdx.filter (fun row => row.2 ∉ places) = rows.zipIdx.filter (fun row => !doomed row.1) := by
      refine List.filter_congr fun row member => ?_
      have same := chosen row.2 row.1 (List.mem_zipIdx_iff_getElem?.mp member)
      cases dooms : doomed row.1 <;> simp [same, dooms]
    have mapped : (rows.zipIdx.map Prod.fst).filter (!doomed ·) =
        (rows.zipIdx.filter fun row => !doomed row.1).map Prod.fst := List.filter_map
    rw [List.zipIdx_map_fst] at mapped
    rw [spared, mapped]
  unfold deleteAt
  rw [rest]
  have split := rows.length_eq_length_filter_add doomed
  rw [← List.countP_eq_length_filter] at split
  dsimp only
  congr 1
  omega

/-- What a `LIMIT` may return of the places that a query selects. -/
structure Limits (n : Nat) (limit : List Nat → List Nat) : Prop where
  subset : ∀ places, limit places ⊆ places
  length : ∀ places, (limit places).length = min n places.length

theorem limits_take (n : Nat) : Limits n (List.take n) :=
  ⟨fun places => List.take_subset n places, fun _ => List.length_take⟩

theorem takes_deleteAt {n : Nat} (positive : 0 < n) {limit : List Nat → List Nat} (limits : Limits n limit)
    {table : List α → Prop} (distinct : ∀ rows, table rows → rows.Nodup) {bad : List α → α → Bool}
    {select : List α → List Nat}
    (selects : ∀ rows, table rows → ∀ i a, rows[i]? = some a → (i ∈ select rows ↔ bad rows a = true))
    (within : ∀ (rows : List α), ∀ i ∈ select rows, i < rows.length) :
    Takes table bad fun rows => deleteAt (limit (select rows)) rows := by
  classical
  intro rows held
  have nodup := distinct rows held
  let doomed (a : α) : Bool := ∃ i ∈ limit (select rows), rows[i]? = some a
  have chosen (i : Nat) (a : α) (here : rows[i]? = some a) : i ∈ limit (select rows) ↔ doomed a = true := by
    rw [decide_eq_true_iff]
    refine ⟨fun picked => ⟨i, picked, here⟩, fun ⟨j, picked, there⟩ => ?_⟩
    have bound : i < rows.length := (List.getElem?_eq_some_iff.mp here).1
    rwa [(List.getElem?_inj bound nodup).mp (here.trans there.symm)]
  refine ⟨doomed, fun a member dooms => ?_, deleteAt_eq chosen, fun ⟨a, member, wrong⟩ => ?_⟩
  · obtain ⟨i, picked, here⟩ := of_decide_eq_true dooms
    exact (selects rows held i a here).mp (limits.subset _ picked)
  · obtain ⟨i, here⟩ := List.getElem?_of_mem member
    have selected := (selects rows held i a here).mpr wrong
    have filled : 0 < (limit (select rows)).length := by
      rw [limits.length]
      have := List.length_pos_of_mem selected
      omega
    obtain ⟨j, picked⟩ := List.exists_mem_of_length_pos filled
    have bound := within rows j (limits.subset _ picked)
    exact ⟨rows[j], List.getElem_mem bound, decide_eq_true ⟨j, picked, List.getElem?_eq_getElem bound⟩⟩

theorem deleteAt_filter {rows : List α} {places : List Nat} {bad : α → Bool}
    (chosen : ∀ i a, rows[i]? = some a → i ∈ places → bad a = true) :
    (deleteAt places rows).1.filter (!bad ·) = rows.filter (!bad ·) := by
  have spared : (rows.zipIdx.filter fun row => row.2 ∉ places).filter (fun row => !bad row.1) =
      rows.zipIdx.filter fun row => !bad row.1 := by
    rw [List.filter_filter]
    refine List.filter_congr fun row member => ?_
    cases wrong : bad row.1 with
    | true => rfl
    | false =>
      have kept : row.2 ∉ places := fun picked => by
        rw [chosen row.2 row.1 (List.mem_zipIdx_iff_getElem?.mp member) picked] at wrong
        cases wrong
      simp [kept]
  have listed : (rows.zipIdx.map Prod.fst).filter (!bad ·) = (rows.zipIdx.filter fun row => !bad row.1).map Prod.fst :=
    List.filter_map
  rw [List.zipIdx_map_fst, ← spared] at listed
  exact List.filter_map.trans listed.symm

theorem deleteAt_length (places : List Nat) (rows : List α) :
    (deleteAt places rows).1.length + (deleteAt places rows).2 = rows.length := by
  have shorter : (deleteAt places rows).1.length ≤ rows.length := by
    unfold deleteAt
    rw [List.length_map, ← List.length_zipIdx (l := rows) (i := 0)]
    exact List.length_filter_le _ _
  exact Nat.add_sub_cancel' shorter

theorem deleteAt_ne_zero {rows : List α} {places : List Nat} {i : Nat} (picked : i ∈ places)
    (within : i < rows.length) :
    (deleteAt places rows).2 ≠ 0 := by
  have gone : (rows.zipIdx.filter fun row => row.2 ∉ places).length < rows.zipIdx.length := by
    refine List.length_filter_lt_length_iff_exists.mpr ⟨(rows[i], i), ?_, by simpa using picked⟩
    exact List.mem_zipIdx_iff_getElem?.mpr (List.getElem?_eq_getElem within)
  rw [List.length_zipIdx] at gone
  unfold deleteAt
  dsimp only
  rw [List.length_map]
  omega

theorem drain_deleteAt {n : Nat} (positive : 0 < n) {limit : List Nat → List Nat} (limits : Limits n limit)
    {bad : α → Bool} {select : List α → List Nat}
    (selects : ∀ (rows : List α) i a, rows[i]? = some a → (i ∈ select rows ↔ bad a = true))
    (within : ∀ (rows : List α), ∀ i ∈ select rows, i < rows.length) {fuel : Nat} {rows : List α}
    (enough : rows.length < fuel) :
    (drain (fun rows => deleteAt (limit (select rows)) rows) fuel rows).1 = rows.filter (!bad ·) := by
  refine drain_filter (fun rows => deleteAt_filter fun i a here picked => ?_) (fun rows => deleteAt_length _ rows)
    (fun rows ⟨a, member, wrong⟩ => ?_) enough
  · exact (selects rows i a here).mp (limits.subset _ picked)
  · rcases List.getElem?_of_mem member with ⟨i, here⟩
    have selected := (selects rows i a here).mpr wrong
    have filled : 0 < (limit (select rows)).length := by
      rw [limits.length]
      have := List.length_pos_of_mem selected
      omega
    rcases List.exists_mem_of_length_pos filled with ⟨j, picked⟩
    exact deleteAt_ne_zero picked (within rows j (limits.subset _ picked))

end Places

end Deletion

section Least

variable {below : α → α → Bool} {rows : List α}

/-- The first element that no other one is below. -/
def firstLeast (below : α → α → Bool) : List α → Option α :=
  List.foldl (fun least a => match least with
    | none => some a
    | some held => if below a held then some a else some held) none

def Least (below : α → α → Bool) (rows : List α) (a : α) : Prop := a ∈ rows ∧ ∀ b ∈ rows, below b a = false

theorem Least.perm {rows' : List α} {a : α} (same : rows.Perm rows') (least : Least below rows a) :
    Least below rows' a :=
  ⟨same.mem_iff.mp least.1, fun b member => least.2 b (same.mem_iff.mpr member)⟩

theorem firstLeast_append (below : α → α → Bool) (rows : List α) (a : α) :
    firstLeast below (rows ++ [a]) = match firstLeast below rows with
      | none => some a
      | some held => if below a held then some a else some held := by
  simp [firstLeast]

theorem firstLeast_eq_none : firstLeast below rows = none ↔ rows = [] := by
  rcases List.eq_nil_or_concat' rows with rfl | ⟨earlier, a, rfl⟩
  · simp [firstLeast]
  · rw [firstLeast_append]
    cases firstLeast below earlier with
    | none => simp
    | some held => by_cases lower : below a held = true <;> simp [lower]

theorem firstLeast_least (strict : Strict below) {a : α} (first : firstLeast below rows = some a) :
    Least below rows a := by
  induction rows using List.reverseRec generalizing a with
  | nil => cases first
  | append_singleton rows last ih =>
    rw [firstLeast_append] at first
    cases held : firstLeast below rows with
    | none =>
      rw [held] at first
      cases first
      rw [firstLeast_eq_none.mp held]
      simp [Least, strict.irrefl]
    | some least =>
      rw [held] at first
      obtain ⟨member, lowest⟩ := ih held
      by_cases lower : below last least = true
      · simp only [lower, if_true, Option.some.injEq] at first
        subst first
        refine ⟨by simp, fun b listed => ?_⟩
        rcases List.mem_append.mp listed with prior | itself
        · by_contra beneath
          have chained := strict.trans b last least (by simpa using beneath) lower
          rw [lowest b prior] at chained
          cases chained
        · rw [List.mem_singleton.mp itself, strict.irrefl]
      · simp only [lower, Bool.false_eq_true, if_false, Option.some.injEq] at first
        subst first
        refine ⟨by simp [member], fun b listed => ?_⟩
        rcases List.mem_append.mp listed with prior | itself
        · exact lowest b prior
        · rw [List.mem_singleton.mp itself]
          simpa using lower

theorem firstLeast_cons {a : α} (lowest : ∀ b ∈ rows, below b a = false) : firstLeast below (a :: rows) = some a := by
  induction rows using List.reverseRec with
  | nil => rfl
  | append_singleton rows last ih =>
    rw [← List.cons_append, firstLeast_append, ih fun b member => lowest b (by simp [member])]
    simp [lowest last (by simp)]

end Least

theorem insertionSort_eq_of_perm {τ : Type} [LinearOrder τ] {items items' : List τ} (same : items.Perm items') :
    items.insertionSort (· ≤ ·) = items'.insertionSort (· ≤ ·) :=
  List.Perm.eq_of_pairwise' (r := (· ≤ ·)) (List.pairwise_insertionSort _ items) (List.pairwise_insertionSort _ items')
    (((List.perm_insertionSort _ items).trans same).trans (List.perm_insertionSort _ items').symm)

end Ranking
