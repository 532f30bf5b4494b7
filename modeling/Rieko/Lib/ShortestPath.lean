import Mathlib.Algebra.BigOperators.Group.Finset.Piecewise
import Mathlib.Algebra.GroupWithZero.Nat
import Mathlib.Algebra.Order.BigOperators.Group.Finset
import Mathlib.Logic.Function.Basic

/-! Walks through a graph with weighted edges, and the search that settles the nearest node next. Costs saturate
    at a bound, which also stands for the distance of a node that was not reached. -/

namespace ShortestPath

variable {ν ε : Type}

section Walk

variable {edge : ν → ε → ν → Prop} {weight : ε → Nat} {u v w : ν} {e : ε} {steps rest : List (ε × ν)}

inductive Walk (edge : ν → ε → ν → Prop) : ν → List (ε × ν) → ν → Prop where
  | stay (u : ν) : Walk edge u [] u
  | go {u v w : ν} {e : ε} {steps : List (ε × ν)} (first : edge u e v) (later : Walk edge v steps w) :
    Walk edge u ((e, v) :: steps) w

def cost (weight : ε → Nat) (steps : List (ε × ν)) : Nat := (steps.map fun step => weight step.1).sum

def Simple (u : ν) (steps : List (ε × ν)) : Prop := (u :: steps.map Prod.snd).Nodup

theorem cost_append (weight : ε → Nat) (steps rest : List (ε × ν)) :
    cost weight (steps ++ rest) = cost weight steps + cost weight rest := by
  simp [cost]

theorem cost_single (weight : ε → Nat) (e : ε) (v : ν) : cost weight [(e, v)] = weight e := by simp [cost]

theorem Walk.append (walk : Walk edge u steps v) (later : Walk edge v rest w) : Walk edge u (steps ++ rest) w := by
  induction walk with
  | stay => exact later
  | go first _ ih => exact .go first (ih later)

theorem Walk.single (first : edge u e v) : Walk edge u [(e, v)] v := .go first (.stay v)

theorem Walk.snoc (walk : Walk edge u steps v) (last : edge v e w) : Walk edge u (steps ++ [(e, w)]) w :=
  walk.append (.single last)

theorem walk_append : Walk edge u (steps ++ rest) w ↔ ∃ v, Walk edge u steps v ∧ Walk edge v rest w := by
  refine ⟨fun walk => ?_, fun ⟨v, walk, later⟩ => walk.append later⟩
  induction steps generalizing u with
  | nil => exact ⟨u, .stay u, walk⟩
  | cons step steps ih =>
    cases walk with
    | go first later =>
      obtain ⟨v, walk, later⟩ := ih later
      exact ⟨v, .go first walk, later⟩

theorem walk_snoc : Walk edge u (steps ++ [(e, v)]) w ↔ v = w ∧ ∃ m, Walk edge u steps m ∧ edge m e w := by
  rw [walk_append]
  constructor
  · rintro ⟨m, walk, last⟩
    cases last with
    | go first later =>
      cases later
      exact ⟨rfl, m, walk, first⟩
  · rintro ⟨rfl, m, walk, last⟩
    exact ⟨m, walk, .single last⟩

theorem Walk.mono {edge' : ν → ε → ν → Prop} (walk : Walk edge u steps v) (sub : ∀ u e v, edge u e v → edge' u e v) :
    Walk edge' u steps v := by
  induction walk with
  | stay u => exact .stay u
  | go first _ ih => exact .go (sub _ _ _ first) ih

theorem Walk.exists_of_mem (walk : Walk edge u steps v) {step : ε × ν} (member : step ∈ steps) :
    ∃ x, edge x step.1 step.2 := by
  induction walk with
  | stay => cases member
  | @go u v w e steps first later ih =>
    rcases List.mem_cons.mp member with rfl | among
    · exact ⟨u, first⟩
    · exact ih among

theorem Walk.from_visited {x : ν} (walk : Walk edge u steps v) (simple : Simple u steps)
    (visited : x ∈ u :: steps.map Prod.snd) : ∃ rest, Walk edge x rest v ∧ Simple x rest := by
  induction walk with
  | stay u =>
    obtain rfl : x = u := by simpa using visited
    exact ⟨[], .stay x, simple⟩
  | @go u m w e steps first later ih =>
    rcases List.mem_cons.mp visited with rfl | visited
    · exact ⟨(e, m) :: steps, .go first later, simple⟩
    · exact ih (List.nodup_cons.mp simple).2 visited

theorem Walk.simple (walk : Walk edge u steps v) : ∃ short, Walk edge u short v ∧ Simple u short := by
  induction walk with
  | stay u => exact ⟨[], .stay u, List.nodup_singleton u⟩
  | @go u m w e steps first later ih =>
    obtain ⟨short, walk, simple⟩ := ih
    by_cases visited : u ∈ m :: short.map Prod.snd
    · exact walk.from_visited simple visited
    · exact ⟨(e, m) :: short, .go first walk, List.nodup_cons.mpr ⟨visited, simple⟩⟩

end Walk

/-- The state of a search: the distances found, the last edge to each node and the nodes to look at. -/
structure Search (ν ε : Type) where
  dist : ν → Nat
  prev : ν → Option ε
  frontier : List (ν × Nat)

namespace Search

variable [DecidableEq ν]

def start (bound : Nat) (source : ν) : Search ν ε where
  dist := Function.update (fun _ => bound) source 0
  prev _ := none
  frontier := [(source, 0)]

def relax (weight : ε → Nat) (bound d : Nat) (s : Search ν ε) (step : ε × ν) : Search ν ε :=
  let next := min (d + weight step.1) bound
  if next < s.dist step.2 then
    { dist := Function.update s.dist step.2 next
      prev := Function.update s.prev step.2 (some step.1)
      frontier := s.frontier ++ [(step.2, next)] }
  else s

def expand (weight : ε → Nat) (bound d : Nat) (s : Search ν ε) (steps : List (ε × ν)) : Search ν ε :=
  steps.foldl (relax weight bound d) s

variable {weight : ε → Nat} {bound d : Nat} {s : Search ν ε} {e : ε} {u v x : ν}

theorem start_dist_self (bound : Nat) (source : ν) : (start bound source : Search ν ε).dist source = 0 := by
  simp [start]

theorem start_dist_of_ne {source : ν} (other : v ≠ source) : (start bound source : Search ν ε).dist v = bound := by
  simp [start, other]

theorem relax_of_nearer (nearer : min (d + weight e) bound < s.dist v) : relax weight bound d s (e, v) =
    { dist := Function.update s.dist v (min (d + weight e) bound)
      prev := Function.update s.prev v (some e)
      frontier := s.frontier ++ [(v, min (d + weight e) bound)] } :=
  if_pos nearer

theorem relax_of_not (farther : s.dist v ≤ min (d + weight e) bound) : relax weight bound d s (e, v) = s :=
  if_neg (Nat.not_lt.mpr farther)

/-- The distances still to go together with what is waiting. Following an edge does not raise it. -/
def potential (nodes : Finset ν) (s : Search ν ε) : Nat := s.frontier.length + ∑ v ∈ nodes, s.dist v

theorem potential_relax {nodes : Finset ν} (known : v ∈ nodes) :
    potential nodes (relax weight bound d s (e, v)) ≤ potential nodes s := by
  by_cases nearer : min (d + weight e) bound < s.dist v
  · rw [relax_of_nearer nearer]
    unfold potential
    rw [Finset.sum_update_of_mem known, List.length_append, List.length_singleton,
      ← Finset.add_sum_erase nodes s.dist known, Finset.sdiff_singleton_eq_erase]
    omega
  · rw [relax_of_not (Nat.not_lt.mp nearer)]

theorem potential_expand {nodes : Finset ν} {steps : List (ε × ν)} (known : ∀ step ∈ steps, step.2 ∈ nodes) :
    potential nodes (expand weight bound d s steps) ≤ potential nodes s := by
  induction steps generalizing s with
  | nil => exact Nat.le_refl _
  | cons step steps ih =>
    have later := ih (s := relax weight bound d s step) fun other member => known other (List.mem_cons_of_mem _ member)
    exact Nat.le_trans later (potential_relax (known step List.mem_cons_self))

end Search

/-- The edges that a search has followed, in order. Each is the first to its node that is as short as the distance
    found, if the search still goes back over it. -/
abbrev Log (ν ε : Type) := List (ν × ε × ν)

section Invariant

variable {edges : ν → List (ε × ν)} {weight : ε → Nat} {bound : Nat} {source : ν} {settled : List ν} {log : Log ν ε}
  {s : Search ν ε} {u v : ν} {e : ε} {d : Nat} {steps : List (ε × ν)}

/-- Going back from a node to the source, over nodes that are settled. -/
inductive Traced (weight : ε → Nat) (source : ν) (settled : List ν) (log : Log ν ε) (s : Search ν ε) :
    ν → List (ε × ν) → Prop where
  | source : Traced weight source settled log s source []
  | step {u v : ν} {e : ε} {steps : List (ε × ν)} {before after : Log ν ε}
    (earlier : Traced weight source settled log s u steps) (among : u ∈ settled) (last : s.prev v = some e)
    (followed : log = before ++ (u, e, v) :: after) (tight : s.dist u + weight e = s.dist v)
    (first : ∀ x e', (x, e', v) ∈ before → s.dist v < s.dist x + weight e') :
    Traced weight source settled log s v (steps ++ [(e, v)])

structure Inv (edges : ν → List (ε × ν)) (weight : ε → Nat) (bound : Nat) (source : ν) (settled : List ν)
    (log : Log ν ε) (s : Search ν ε) : Prop where
  source_dist : s.dist source = 0
  source_prev : s.prev source = none
  dist_le : ∀ v, s.dist v ≤ bound
  pending : ∀ v d, (v, d) ∈ s.frontier → s.dist v ≤ d ∧ d < bound ∧ ∀ x ∈ settled, s.dist x ≤ d
  waiting : ∀ v, s.dist v < bound → v ∈ settled ∨ (v, s.dist v) ∈ s.frontier
  relaxed : ∀ u e v, (u, e, v) ∈ log → s.dist v ≤ s.dist u + weight e
  logged : ∀ u e v before after, log = before ++ (u, e, v) :: after → u ∈ settled ∧
    ∃ earlier later, edges u = earlier ++ (e, v) :: later ∧ ∀ step ∈ earlier, (u, step) ∈ before
  traced : ∀ v, s.dist v < bound → ∃ steps, Traced weight source settled log s v steps

theorem Traced.walk (invariant : Inv edges weight bound source settled log s)
    (traced : Traced weight source settled log s v steps) :
    Walk (fun u e v => (e, v) ∈ edges u) source steps v ∧ cost weight steps = s.dist v := by
  induction traced with
  | source => exact ⟨.stay source, invariant.source_dist.symm⟩
  | @step u v e steps before after earlier among last followed tight first ih =>
    obtain ⟨-, before, after, listed, -⟩ := invariant.logged u e v before after followed
    have edge : (e, v) ∈ edges u := listed ▸ List.mem_append_right _ List.mem_cons_self
    exact ⟨ih.1.snoc edge, by rw [cost_append, cost_single, ih.2, tight]⟩

theorem Traced.mono {settled' : List ν} {more : Log ν ε} {s' : Search ν ε}
    (traced : Traced weight source settled log s v steps) (grows : ∀ x ∈ settled, x ∈ settled')
    (dist : ∀ x ∈ settled, s'.dist x = s.dist x) (prev : ∀ x ∈ settled, s'.prev x = s.prev x)
    (end_dist : s'.dist v = s.dist v) (end_prev : s'.prev v = s.prev v)
    (logged : ∀ x e' y before after, log = before ++ (x, e', y) :: after → x ∈ settled) :
    Traced weight source settled' (log ++ more) s' v steps := by
  induction traced with
  | source => exact .source
  | @step u v e steps before after earlier among last followed tight first ih =>
    have later := ih (dist u among) (prev u among)
    have grown : log ++ more = before ++ (u, e, v) :: (after ++ more) := by
      rw [followed, List.append_assoc, List.cons_append]
    refine .step later (grows u among) (end_prev.trans last) grown ?_ ?_
    · rw [dist u among, end_dist, tight]
    · intro x e' member
      obtain ⟨front, back, split⟩ := List.append_of_mem member
      have known : x ∈ settled := logged x e' v front (back ++ (u, e, v) :: after) (by
        rw [followed, split, List.append_assoc, List.cons_append])
      rw [end_dist, dist x known]
      exact first x e' member

theorem Inv.start [DecidableEq ν] (positive : 0 < bound) :
    Inv edges weight bound source [] [] (Search.start bound source) where
  source_dist := Search.start_dist_self bound source
  source_prev := rfl
  dist_le v := by
    by_cases same : v = source
    · rw [same, Search.start_dist_self]
      exact Nat.zero_le _
    · rw [Search.start_dist_of_ne same]
  pending v d member := by
    obtain ⟨rfl, rfl⟩ := Prod.mk.inj (List.mem_singleton.mp member)
    exact ⟨Nat.le_of_eq (Search.start_dist_self bound v), positive, by simp⟩
  waiting v reached := by
    by_cases same : v = source
    · subst same
      rw [Search.start_dist_self]
      exact .inr (List.mem_singleton_self _)
    · rw [Search.start_dist_of_ne same] at reached
      exact absurd reached (Nat.lt_irrefl _)
  relaxed := by simp
  logged u e v before after empty := by simp at empty
  traced v reached := by
    by_cases same : v = source
    · exact ⟨[], same ▸ .source⟩
    · rw [Search.start_dist_of_ne same] at reached
      exact absurd reached (Nat.lt_irrefl _)

theorem Inv.settle {rest : List (ν × Nat)} (invariant : Inv edges weight bound source settled log s)
    (popped : s.frontier.Perm ((u, d) :: rest)) (nearest : ∀ v d', (v, d') ∈ rest → d ≤ d') (current : s.dist u = d) :
    Inv edges weight bound source (u :: settled) log { s with frontier := rest } where
  source_dist := invariant.source_dist
  source_prev := invariant.source_prev
  dist_le := invariant.dist_le
  pending v d' member := by
    obtain ⟨near, small, settled⟩ := invariant.pending v d' (popped.mem_iff.mpr (List.mem_cons_of_mem _ member))
    refine ⟨near, small, fun x among => ?_⟩
    rcases List.mem_cons.mp among with rfl | among
    · exact Nat.le_trans (Nat.le_of_eq current) (nearest v d' member)
    · exact settled x among
  waiting v reached := by
    rcases invariant.waiting v reached with known | member
    · exact .inl (List.mem_cons_of_mem _ known)
    · rcases List.mem_cons.mp (popped.mem_iff.mp member) with same | later
      · exact .inl (List.mem_cons.mpr (.inl (Prod.mk.inj same).1))
      · exact .inr later
  relaxed := invariant.relaxed
  logged x e v before after followed := by
    obtain ⟨known, listed⟩ := invariant.logged x e v before after followed
    exact ⟨List.mem_cons_of_mem _ known, listed⟩
  traced v reached := by
    obtain ⟨steps, traced⟩ := invariant.traced v reached
    have kept : Traced weight source (u :: settled) (log ++ []) { s with frontier := rest } v steps :=
      traced.mono (fun x known => List.mem_cons_of_mem _ known) (fun _ _ => rfl) (fun _ _ => rfl) rfl rfl
        fun x e' y before after followed => (invariant.logged x e' y before after followed).1
    rw [List.append_nil] at kept
    exact ⟨steps, kept⟩

theorem Inv.drop {rest : List (ν × Nat)} (invariant : Inv edges weight bound source settled log s)
    (popped : s.frontier.Perm ((u, d) :: rest)) (overtaken : s.dist u < d) :
    Inv edges weight bound source settled log { s with frontier := rest } where
  source_dist := invariant.source_dist
  source_prev := invariant.source_prev
  dist_le := invariant.dist_le
  pending v d' member := invariant.pending v d' (popped.mem_iff.mpr (List.mem_cons_of_mem _ member))
  waiting v reached := by
    rcases invariant.waiting v reached with known | member
    · exact .inl known
    · rcases List.mem_cons.mp (popped.mem_iff.mp member) with same | later
      · obtain ⟨rfl, same⟩ := Prod.mk.inj same
        omega
      · exact .inr later
  relaxed := invariant.relaxed
  logged := invariant.logged
  traced v reached := by
    obtain ⟨steps, traced⟩ := invariant.traced v reached
    have kept : Traced weight source settled (log ++ []) { s with frontier := rest } v steps :=
      traced.mono (fun x known => known) (fun _ _ => rfl) (fun _ _ => rfl) rfl rfl
        fun x e' y before after followed => (invariant.logged x e' y before after followed).1
    rw [List.append_nil] at kept
    exact ⟨steps, kept⟩

theorem Inv.logged_snoc (invariant : Inv edges weight bound source settled log s) {earlier later : List (ε × ν)}
    (member : u ∈ settled) (listed : edges u = earlier ++ (e, v) :: later) (done : ∀ step ∈ earlier, (u, step) ∈ log)
    (x : ν) (e' : ε) (y : ν) (before after : Log ν ε) (followed : log ++ [(u, e, v)] = before ++ (x, e', y) :: after) :
    x ∈ settled ∧ ∃ earlier later, edges x = earlier ++ (e', y) :: later ∧ ∀ step ∈ earlier, (x, step) ∈ before := by
  rcases List.eq_nil_or_concat' after with rfl | ⟨front, last, rfl⟩
  · obtain ⟨rfl, same⟩ := List.append_inj' followed rfl
    cases List.singleton_inj.mp same
    exact ⟨member, earlier, later, listed, done⟩
  · rw [← List.cons_append, ← List.append_assoc] at followed
    exact invariant.logged x e' y before front (List.append_inj' followed rfl).1

section Relax

variable [DecidableEq ν]

theorem Inv.relax_nearer (invariant : Inv edges weight bound source settled log s) {earlier later : List (ε × ν)}
    (member : u ∈ settled) (current : s.dist u = d) (near : ∀ x ∈ settled, s.dist x ≤ d)
    (listed : edges u = earlier ++ (e, v) :: later) (done : ∀ step ∈ earlier, (u, step) ∈ log)
    (nearer : min (d + weight e) bound < s.dist v) :
    Inv edges weight bound source settled (log ++ [(u, e, v)]) (s.relax weight bound d (e, v)) ∧
      ∀ x ∈ settled, (s.relax weight bound d (e, v)).dist x = s.dist x := by
  have bounded := invariant.dist_le v
  have unbounded : min (d + weight e) bound = d + weight e := by omega
  have apart (x : ν) (known : x ∈ settled) : x ≠ v := by
    rintro rfl
    have close := near x known
    omega
  have source_apart : source ≠ v := by
    rintro rfl
    rw [invariant.source_dist] at nearer
    omega
  rw [Search.relax_of_nearer nearer, unbounded]
  rw [unbounded] at nearer
  have dist_self : Function.update s.dist v (d + weight e) v = d + weight e := Function.update_self ..
  have dist_other {x : ν} (other : x ≠ v) : Function.update s.dist v (d + weight e) x = s.dist x :=
    Function.update_of_ne other ..
  have prev_other {x : ν} (other : x ≠ v) : Function.update s.prev v (some e) x = s.prev x :=
    Function.update_of_ne other ..
  have shorter (x : ν) : Function.update s.dist v (d + weight e) x ≤ s.dist x := by
    by_cases same : x = v
    · rw [same, dist_self]
      omega
    · rw [dist_other same]
  have moved {x : ν} {path : List (ε × ν)} (other : x ≠ v) (traced : Traced weight source settled log s x path) :
      Traced weight source settled (log ++ [(u, e, v)])
        ⟨Function.update s.dist v (d + weight e), Function.update s.prev v (some e),
          s.frontier ++ [(v, d + weight e)]⟩ x path :=
    traced.mono (fun _ known => known) (fun x known => dist_other (apart x known))
      (fun x known => prev_other (apart x known)) (dist_other other) (prev_other other)
      fun x e' y before after followed => (invariant.logged x e' y before after followed).1
  refine ⟨⟨?_, ?_, fun x => Nat.le_trans (shorter x) (invariant.dist_le x), ?_, ?_, ?_,
    invariant.logged_snoc member listed done, ?_⟩, fun x known => dist_other (apart x known)⟩
  · exact (dist_other source_apart).trans invariant.source_dist
  · exact (prev_other source_apart).trans invariant.source_prev
  · intro x d' pending
    rcases List.mem_append.mp pending with old | new
    · obtain ⟨reached, small, far⟩ := invariant.pending x d' old
      refine ⟨Nat.le_trans (shorter x) reached, small, fun y known => ?_⟩
      exact Nat.le_trans (Nat.le_of_eq (dist_other (apart y known))) (far y known)
    · obtain ⟨rfl, rfl⟩ := Prod.mk.inj (List.mem_singleton.mp new)
      refine ⟨Nat.le_of_eq dist_self, by omega, fun y known => ?_⟩
      have close := near y known
      have kept := dist_other (apart y known)
      dsimp only
      omega
  · intro x reached
    dsimp only at reached ⊢
    by_cases same : x = v
    · rw [same, dist_self]
      exact .inr (List.mem_append_right _ (List.mem_singleton_self _))
    · rw [dist_other same] at reached ⊢
      exact (invariant.waiting x reached).imp_right (List.mem_append_left _)
  · intro x e' y followed
    dsimp only
    rcases List.mem_append.mp followed with old | new
    · obtain ⟨before, after, split⟩ := List.append_of_mem old
      have known := (invariant.logged x e' y before after split).1
      rw [dist_other (apart x known)]
      exact Nat.le_trans (shorter y) (invariant.relaxed x e' y old)
    · cases List.mem_singleton.mp new
      rw [dist_self, dist_other (apart u member), current]
  · intro x reached
    dsimp only at reached
    by_cases same : x = v
    · subst same
      have close : s.dist u < bound := by omega
      obtain ⟨path, traced⟩ := invariant.traced u close
      refine ⟨path ++ [(e, x)], .step (moved (apart u member) traced) member (Function.update_self ..) rfl ?_ ?_⟩
      · dsimp only
        rw [dist_self, dist_other (apart u member), current]
      · intro y e' followed
        have relaxed := invariant.relaxed y e' x followed
        obtain ⟨before, after, split⟩ := List.append_of_mem followed
        have known := (invariant.logged y e' x before after split).1
        dsimp only
        rw [dist_self, dist_other (apart y known)]
        omega
    · rw [dist_other same] at reached
      obtain ⟨path, traced⟩ := invariant.traced x reached
      exact ⟨path, moved same traced⟩

/-- Following an edge from a node that was just settled leaves all settled nodes alone. -/
theorem Inv.relax (invariant : Inv edges weight bound source settled log s) {earlier later : List (ε × ν)}
    (member : u ∈ settled) (current : s.dist u = d) (near : ∀ x ∈ settled, s.dist x ≤ d)
    (listed : edges u = earlier ++ (e, v) :: later) (done : ∀ step ∈ earlier, (u, step) ∈ log) :
    Inv edges weight bound source settled (log ++ [(u, e, v)]) (s.relax weight bound d (e, v)) ∧
      ∀ x ∈ settled, (s.relax weight bound d (e, v)).dist x = s.dist x := by
  by_cases nearer : min (d + weight e) bound < s.dist v
  · exact invariant.relax_nearer member current near listed done nearer
  · have farther := Nat.not_lt.mp nearer
    rw [Search.relax_of_not farther]
    refine ⟨⟨invariant.source_dist, invariant.source_prev, invariant.dist_le, invariant.pending, invariant.waiting, ?_,
      invariant.logged_snoc member listed done, fun x reached => ?_⟩, fun _ _ => rfl⟩
    · intro x e' y followed
      rcases List.mem_append.mp followed with old | new
      · exact invariant.relaxed x e' y old
      · cases List.mem_singleton.mp new
        have small := invariant.dist_le v
        omega
    · obtain ⟨steps, traced⟩ := invariant.traced x reached
      exact ⟨steps, traced.mono (fun x known => known) (fun _ _ => rfl) (fun _ _ => rfl) rfl rfl
        fun x e' y before after followed => (invariant.logged x e' y before after followed).1⟩

theorem Inv.expand (invariant : Inv edges weight bound source settled log s) {earlier later : List (ε × ν)}
    (member : u ∈ settled) (current : s.dist u = d) (near : ∀ x ∈ settled, s.dist x ≤ d)
    (listed : edges u = earlier ++ later) (done : ∀ step ∈ earlier, (u, step) ∈ log) :
    Inv edges weight bound source settled (log ++ later.map (Prod.mk u)) (s.expand weight bound d later) := by
  induction later generalizing earlier log s with
  | nil =>
    rw [List.map_nil, List.append_nil]
    exact invariant
  | cons step later ih =>
    obtain ⟨first, kept⟩ := invariant.relax (e := step.1) (v := step.2) member current near listed done
    have rest : edges u = (earlier ++ [step]) ++ later := by rw [listed, List.append_assoc, List.singleton_append]
    have whole := ih first ((kept u member).trans current) (fun x known => (kept x known).trans_le (near x known)) rest
      fun other among => by
        rcases List.mem_append.mp among with old | new
        · exact List.mem_append_left _ (done other old)
        · rw [List.mem_singleton.mp new]
          exact List.mem_append_right _ (List.mem_singleton_self _)
    rw [List.append_assoc, List.singleton_append] at whole
    exact whole

end Relax

/-- The edge is a cheapest connection of its ends, and the first of the cheapest edges between them. -/
structure Preferred (edges : ν → List (ε × ν)) (weight : ε → Nat) (u : ν) (e : ε) (v : ν) : Prop where
  cheapest : ∀ steps, Walk (fun u e v => (e, v) ∈ edges u) u steps v → weight e ≤ cost weight steps
  first : ∃ before after, edges u = before ++ (e, v) :: after ∧ ∀ e', (e', v) ∈ before → weight e < weight e'

theorem Preferred.member (preferred : Preferred edges weight u e v) : (e, v) ∈ edges u := by
  obtain ⟨before, after, listed, -⟩ := preferred.first
  exact listed ▸ List.mem_append_right _ List.mem_cons_self

/-- What holds between two nodes: the edges of settled nodes were followed, those of the source first. -/
structure Ready (edges : ν → List (ε × ν)) (weight : ε → Nat) (bound : Nat) (source : ν) (settled : List ν)
    (log : Log ν ε) (s : Search ν ε) : Prop extends Inv edges weight bound source settled log s where
  complete : ∀ x ∈ settled, ∀ step ∈ edges x, (x, step) ∈ log
  first : (settled = [] ∧ log = [] ∧ s.frontier = [(source, 0)]) ∨
    ∃ rest, log = (edges source).map (Prod.mk source) ++ rest

namespace Ready

theorem start [DecidableEq ν] (positive : 0 < bound) :
    Ready edges weight bound source [] [] (Search.start bound source) where
  toInv := .start positive
  complete := by simp
  first := .inl ⟨rfl, rfl, rfl⟩

theorem drop {rest : List (ν × Nat)} (ready : Ready edges weight bound source settled log s)
    (popped : s.frontier.Perm ((u, d) :: rest)) (overtaken : s.dist u < d) :
    Ready edges weight bound source settled log { s with frontier := rest } where
  toInv := ready.toInv.drop popped overtaken
  complete := ready.complete
  first := by
    rcases ready.first with ⟨-, -, alone⟩ | followed
    · rw [alone] at popped
      obtain ⟨rfl, rfl⟩ := Prod.mk.inj (List.cons.inj (List.singleton_perm.mp popped)).1
      rw [ready.source_dist] at overtaken
      exact absurd overtaken (Nat.lt_irrefl 0)
    · exact .inr followed

theorem settle [DecidableEq ν] {rest : List (ν × Nat)} (ready : Ready edges weight bound source settled log s)
    (popped : s.frontier.Perm ((u, d) :: rest)) (nearest : ∀ v d', (v, d') ∈ rest → d ≤ d') (current : s.dist u = d) :
    Ready edges weight bound source (u :: settled) (log ++ (edges u).map (Prod.mk u))
      (Search.expand weight bound d { s with frontier := rest } (edges u)) where
  toInv := by
    have settled_near := (ready.pending u d (popped.mem_iff.mpr List.mem_cons_self)).2.2
    have whole : edges u = [] ++ edges u := rfl
    refine (ready.toInv.settle popped nearest current).expand List.mem_cons_self current ?_ whole ?_
    · intro x known
      rcases List.mem_cons.mp known with rfl | known
      · exact Nat.le_of_eq current
      · exact settled_near x known
    · simp
  complete x known step member := by
    rcases List.mem_cons.mp known with rfl | known
    · exact List.mem_append_right _ (List.mem_map_of_mem member)
    · exact List.mem_append_left _ (ready.complete x known step member)
  first := by
    right
    rcases ready.first with ⟨-, empty, alone⟩ | ⟨later, followed⟩
    · rw [alone] at popped
      obtain ⟨rfl, -⟩ := Prod.mk.inj (List.cons.inj (List.singleton_perm.mp popped)).1
      exact ⟨[], by rw [empty, List.nil_append, List.append_nil]⟩
    · exact ⟨later ++ (edges u).map (Prod.mk u), by rw [followed, List.append_assoc]⟩

/-- A walk from the source ends at a settled node that is no farther than it is long, or it is as long as everything
    that is still to be looked at. -/
theorem near {level : Nat} (ready : Ready edges weight bound source settled log s) (small : level ≤ bound)
    (nearest : ∀ v d, (v, d) ∈ s.frontier → level ≤ d)
    (walk : Walk (fun u e v => (e, v) ∈ edges u) source steps v) :
    (v ∈ settled ∧ s.dist v ≤ cost weight steps) ∨ level ≤ cost weight steps := by
  have arrives (v : ν) (length : Nat) (close : s.dist v ≤ length) : (v ∈ settled ∧ s.dist v ≤ length) ∨
      level ≤ length := by
    by_cases reached : s.dist v < bound
    · rcases ready.waiting v reached with known | member
      · exact .inl ⟨known, close⟩
      · exact .inr (Nat.le_trans (nearest v _ member) close)
    · right
      omega
  induction steps using List.reverseRecOn generalizing v with
  | nil =>
    cases walk
    exact arrives source 0 (Nat.le_of_eq ready.source_dist)
  | append_singleton steps step ih =>
    obtain ⟨rfl, m, walk, last⟩ := walk_snoc.mp walk
    have length : cost weight (steps ++ [step]) = cost weight steps + weight step.1 := by
      rw [cost_append, cost_single]
    rw [length]
    rcases ih walk with ⟨known, close⟩ | far
    · have relaxed := ready.relaxed m step.1 step.2 (ready.complete m known step last)
      exact arrives step.2 _ (by omega)
    · right
      omega

theorem unreachable (ready : Ready edges weight bound source settled log s) (empty : s.frontier = [])
    (outside : v ∉ settled) (walk : Walk (fun u e v => (e, v) ∈ edges u) source steps v) :
      bound ≤ cost weight steps := by
  rcases ready.near (Nat.le_refl _) (by simp [empty]) walk with ⟨known, -⟩ | far
  · exact absurd known outside
  · exact far

variable {rest : List (ν × Nat)} (ready : Ready edges weight bound source settled log s)
  (popped : s.frontier.Perm ((u, d) :: rest)) (nearest : ∀ v d', (v, d') ∈ rest → d ≤ d')

include ready popped nearest

theorem popped_le (walk : Walk (fun u e v => (e, v) ∈ edges u) source steps v) :
    (v ∈ settled ∧ s.dist v ≤ cost weight steps) ∨ d ≤ cost weight steps := by
  have small := (ready.pending u d (popped.mem_iff.mpr List.mem_cons_self)).2.1
  refine ready.near (Nat.le_of_lt small) (fun v d' member => ?_) walk
  rcases List.mem_cons.mp (popped.mem_iff.mp member) with same | later
  · exact Nat.le_of_eq (Prod.mk.inj same).2.symm
  · exact nearest v d' later

theorem popped_dist (outside : u ∉ settled) : s.dist u = d ∧ d < bound := by
  obtain ⟨close, small, -⟩ := ready.pending u d (popped.mem_iff.mpr List.mem_cons_self)
  refine ⟨?_, small⟩
  rcases ready.waiting u (Nat.lt_of_le_of_lt close small) with known | member
  · exact absurd known outside
  · rcases List.mem_cons.mp (popped.mem_iff.mp member) with same | later
    · exact (Prod.mk.inj same).2
    · exact Nat.le_antisymm close (nearest u _ later)

theorem shortest (known : v ∈ settled ∨ v = u ∧ u ∉ settled)
    (walk : Walk (fun u e v => (e, v) ∈ edges u) source steps v) : s.dist v ≤ cost weight steps := by
  have bounded := ready.popped_le popped nearest walk
  rcases known with known | ⟨rfl, outside⟩
  · have close := (ready.pending u d (popped.mem_iff.mpr List.mem_cons_self)).2.2 v known
    omega
  · have distance := (ready.popped_dist popped nearest outside).1
    rcases bounded with ⟨known, -⟩ | far
    · exact absurd known outside
    · omega

theorem preferred_last {x : ν} {before after : Log ν ε} (earlier : Traced weight source settled log s x steps)
    (known : v ∈ settled ∨ v = u ∧ u ∉ settled) (followed : log = before ++ (x, e, v) :: after)
    (tight : s.dist x + weight e = s.dist v) (first : ∀ y e', (y, e', v) ∈ before → s.dist v < s.dist y + weight e') :
    Preferred edges weight x e v := by
  obtain ⟨walk, length⟩ := earlier.walk ready.toInv
  obtain ⟨-, front, back, listed, done⟩ := ready.logged x e v before after followed
  refine ⟨fun other walk' => ?_, front, back, listed, fun e' among => ?_⟩
  · have whole := ready.shortest popped nearest known (walk.append walk')
    rw [cost_append] at whole
    omega
  · have longer := first x e' (done (e', v) among)
    omega

theorem preferred (traced : Traced weight source settled log s v steps) (known : v ∈ settled ∨ v = u ∧ u ∉ settled) :
    Walk (Preferred edges weight) source steps v := by
  induction traced with
  | source => exact .stay source
  | @step x v e steps before after earlier among last followed tight first ih =>
    exact (ih (.inl among)).snoc (ready.preferred_last popped nearest earlier known followed tight first)

theorem direct (outside : u ∉ settled) (elsewhere : u ≠ source) (chosen : Preferred edges weight source e u)
    (traced : Traced weight source settled log s u steps) : steps = [(e, u)] := by
  obtain ⟨walk, length⟩ := traced.walk ready.toInv
  have close := ready.shortest popped nearest (.inr ⟨rfl, outside⟩) (.single chosen.member)
  have far := chosen.cheapest steps walk
  rw [cost_single] at close
  obtain ⟨front, back, listed, dearer⟩ := chosen.first
  have started : ∃ later, log = (edges source).map (Prod.mk source) ++ later := by
    rcases ready.first with ⟨-, -, alone⟩ | followed
    · rw [alone] at popped
      obtain ⟨same, -⟩ := Prod.mk.inj (List.cons.inj (List.singleton_perm.mp popped)).1
      exact absurd same.symm elsewhere
    · exact followed
  obtain ⟨later, whole⟩ := started
  cases traced with
  | source => exact absurd rfl elsewhere
  | @step x _ e' path before after earlier among last followed tight first =>
    rw [listed, List.map_append, List.map_cons, List.append_assoc, List.cons_append, followed] at whole
    have here (same : (x, e', u) = (source, e, u)) : path ++ [(e', u)] = [(e, u)] := by
      cases same
      cases earlier with
      | source => rfl
      | step _ _ last' => rw [ready.source_prev] at last'; cases last'
    rcases List.append_eq_append_iff.mp whole with ⟨middle, split, same⟩ | ⟨middle, split, same⟩
    · cases middle with
      | nil => exact here (List.cons.inj same).1
      | cons step middle =>
        obtain ⟨rfl, -⟩ := List.cons.inj same
        have among : (x, e', u) ∈ front.map (Prod.mk source) := split ▸ List.mem_append_right _ List.mem_cons_self
        obtain ⟨step, member, found⟩ := List.mem_map.mp among
        obtain ⟨rfl, rfl⟩ := Prod.mk.inj found
        have more := dearer e' member
        have zero := ready.source_dist
        omega
    · cases middle with
      | nil => exact here (List.cons.inj same).1.symm
      | cons step middle =>
        obtain ⟨rfl, -⟩ := List.cons.inj same
        have among : (source, e, u) ∈ before := split ▸ List.mem_append_right _ List.mem_cons_self
        have longer := first source e among
        have zero := ready.source_dist
        omega

end Ready

end Invariant

end ShortestPath
