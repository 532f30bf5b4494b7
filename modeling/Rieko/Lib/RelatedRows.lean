import Rieko.Lib.Ranking
import Rieko.Lib.Rows
import Rieko.Lib.StatefulResult
import Mathlib.Data.List.Forall2
import Mathlib.Data.List.Sort

/-! Tables of which each row of the one stands for the row of the other at its place. -/

namespace Rows

open List StatefulResult

section Fallible

variable {α β ε : Type}

/-- The rows that satisfy a condition, where it can be evaluated on each. -/
def filterM (condition : α → Except ε Bool) : List α → Except ε (List α)
  | [] => .ok []
  | row :: rows => do
    let kept ← condition row
    let rest ← filterM condition rows
    return if kept then row :: rest else rest

def updateWhereM (condition : α → Except ε Bool) (f : α → α) (rows : List α) : Except ε (List α) :=
  rows.mapM fun row => do return if ← condition row then f row else row

theorem mapM_ok {read : α → Except ε β} {rows : List α} {found : List β} :
    rows.mapM read = .ok found ↔ Forall₂ (fun row a => read row = .ok a) rows found := by
  induction rows generalizing found with
  | nil =>
    show Except.ok [] = .ok found ↔ _
    simp [eq_comm]
  | cons row rows ih =>
    rw [mapM_cons, forall₂_cons_left_iff]
    simp only [except_bind_ok, ih]
    constructor
    · rintro ⟨a, read, rest, reads, done⟩
      cases done
      exact ⟨a, rest, read, reads, rfl⟩
    · rintro ⟨a, rest, read, reads, rfl⟩
      exact ⟨a, read, rest, reads, rfl⟩

theorem mapM_error {read : α → Except ε β} {rows : List α} {e : ε} :
    rows.mapM read = .error e ↔ ∃ before row after, rows = before ++ row :: after ∧
      (∀ r ∈ before, ∃ a, read r = .ok a) ∧ read row = .error e := by
  induction rows with
  | nil =>
    refine iff_of_false (fun same => nomatch same) ?_
    rintro ⟨before, row, after, same, -⟩
    simp at same
  | cons row rows ih =>
    rw [mapM_cons, except_bind_error]
    constructor
    · rintro (failed | ⟨a, read', rest⟩)
      · exact ⟨[], row, rows, rfl, by simp, failed⟩
      · rcases except_bind_error.mp rest with later | ⟨found, -, done⟩
        · obtain ⟨before, bad, after, rfl, readable, failed⟩ := ih.mp later
          exact ⟨row :: before, bad, after, rfl, by simpa [read'] using readable, failed⟩
        · exact nomatch done
    · rintro ⟨before, bad, after, same, readable, failed⟩
      cases before with
      | nil =>
        obtain ⟨rfl, rfl⟩ := cons.inj same
        exact .inl failed
      | cons first before =>
        obtain ⟨rfl, rfl⟩ := cons.inj same
        obtain ⟨a, read⟩ := readable row (by simp)
        refine .inr ⟨a, read, except_bind_error.mpr (.inl (ih.mpr ?_))⟩
        exact ⟨before, bad, after, rfl, fun r member => readable r (by simp [member]), failed⟩

end Fallible

theorem forall₂_trans {α β γ : Type} {R : α → β → Prop} {S : β → γ → Prop} {T : α → γ → Prop} {as : List α}
    {bs : List β}
    {cs : List γ} (chain : ∀ a b c, R a b → S b c → T a c) (first : Forall₂ R as bs) (second : Forall₂ S bs cs) :
    Forall₂ T as cs := by
  induction first generalizing cs with
  | nil => cases second; exact .nil
  | cons held rest ih =>
    cases second with
    | cons held' rest' => exact .cons (chain _ _ _ held held') (ih rest')

theorem exists_left_of_mem {α β : Type} {R : α → β → Prop} {as : List α} {bs : List β}
    (related : Forall₂ R as bs) {b : β}
    (member : b ∈ bs) : ∃ a ∈ as, R a b := by
  induction related with
  | nil => cases member
  | cons held rest ih =>
    rcases mem_cons.mp member with rfl | later
    · exact ⟨_, mem_cons_self, held⟩
    · obtain ⟨a, inside, held⟩ := ih later
      exact ⟨a, mem_cons_of_mem _ inside, held⟩

section Related

variable {α β κ ι : Type} [DecidableEq κ] [DecidableEq ι] {R : α → β → Prop} {rows : List α} {rows' : List β}
  {row : α} {row' : β}

theorem related_filter {condition : α → Bool} {condition' : β → Bool} (same : ∀ a b, R a b → condition a = condition' b)
    (related : Forall₂ R rows rows') : Forall₂ R (rows.filter condition) (rows'.filter condition') :=
  rel_filter (fun {a b} stands => iff_of_eq (congrArg (· = true) (same a b stands))) related

theorem related_filterM {ε : Type} {condition : α → Except ε Bool} {condition' : β → Bool}
    (same : ∀ a b, R a b → condition a = .ok (condition' b)) (related : Forall₂ R rows rows') :
    ∃ kept, filterM condition rows = .ok kept ∧ Forall₂ R kept (rows'.filter condition') := by
  induction related with
  | nil => exact ⟨[], rfl, .nil⟩
  | cons stands rest ih =>
    obtain ⟨kept, filtered, related⟩ := ih
    unfold filterM
    rw [same _ _ stands, filtered, filter_cons]
    refine ⟨_, rfl, ?_⟩
    split
    · exact .cons stands related
    · exact related

theorem related_updateWhereM {ε : Type} {condition : α → Except ε Bool} {condition' : β → Bool} {f : α → α} {f' : β → β}
    (same : ∀ a b, R a b → condition a = .ok (condition' b))
    (keeps : ∀ a b, R a b → condition' b = true → R (f a) (f' b)) (related : Forall₂ R rows rows') :
    ∃ updated, updateWhereM condition f rows = .ok updated ∧ Forall₂ R updated (updateWhere condition' f' rows') := by
  unfold updateWhereM updateWhere
  induction related with
  | nil => exact ⟨[], rfl, .nil⟩
  | @cons a b rows rows' stands rest ih =>
    obtain ⟨updated, ran, related⟩ := ih
    rw [mapM_cons, same a b stands, ran, map_cons]
    refine ⟨_, rfl, .cons ?_ related⟩
    by_cases met : condition' b = true
    · simpa only [met, if_true] using keeps a b stands met
    · simpa only [met, Bool.false_eq_true, if_false] using stands

theorem related_updateWhere {condition : α → Bool} {condition' : β → Bool} {f : α → α} {f' : β → β}
    (same : ∀ a b, R a b → condition a = condition' b) (keeps : ∀ a b, R a b → R (f a) (f' b))
    (related : Forall₂ R rows rows') : Forall₂ R (updateWhere condition f rows) (updateWhere condition' f' rows') := by
  refine rel_map (R := R) (fun {a b} stands => ?_) related
  rw [same a b stands]
  split
  · exact keeps a b stands
  · exact stands

theorem related_upsert {key : α → κ} {key' : β → ι} {merge : α → α} {merge' : β → β}
    (same : ∀ a b, R a b → (key a = key row ↔ key' b = key' row')) (new : R row row')
    (keeps : ∀ a b, R a b → R (merge a) (merge' b)) (related : Forall₂ R rows rows') :
    Forall₂ R (upsert key row merge rows) (upsert key' row' merge' rows') := by
  induction related with
  | nil => exact .cons new .nil
  | @cons a b rows rows' stands rest ih =>
    unfold upsert
    simp only [same a b stands]
    split
    · exact .cons (keeps a b stands) rest
    · exact .cons stands ih

theorem related_forall {P : α → Prop} {Q : β → Prop} (same : ∀ a b, R a b → (P a ↔ Q b))
    (related : Forall₂ R rows rows') :
    (∀ a ∈ rows, P a) ↔ ∀ b ∈ rows', Q b := by
  induction related with
  | nil => simp
  | cons stands rest ih => rw [forall_mem_cons, forall_mem_cons, same _ _ stands, ih]

theorem related_any {condition : α → Bool} {condition' : β → Bool} (same : ∀ a b, R a b → condition a = condition' b)
    (related : Forall₂ R rows rows') : rows.any condition = rows'.any condition' := by
  induction related with
  | nil => rfl
  | cons stands rest ih => rw [any_cons, any_cons, same _ _ stands, ih]

theorem related_countP {condition : α → Bool} {condition' : β → Bool} (same : ∀ a b, R a b → condition a = condition' b)
    (related : Forall₂ R rows rows') : rows.countP condition = rows'.countP condition' := by
  induction related with
  | nil => rfl
  | cons stands rest ih => rw [countP_cons, countP_cons, same _ _ stands, ih]

theorem related_find? {condition : α → Bool} {condition' : β → Bool} (same : ∀ a b, R a b → condition a = condition' b)
    (related : Forall₂ R rows rows') : Forall₂ R (rows.find? condition).toList (rows'.find? condition').toList := by
  induction related with
  | nil => exact .nil
  | cons stands rest ih =>
    rw [find?_cons, find?_cons, same _ _ stands]
    split
    · exact .cons stands .nil
    · exact ih

theorem related_insertionSort {before : α → α → Prop} {before' : β → β → Prop} [DecidableRel before]
    [DecidableRel before']
    (same : ∀ a b c d, R a b → R c d → (before a c ↔ before' b d)) (related : Forall₂ R rows rows') :
    Forall₂ R (rows.insertionSort before) (rows'.insertionSort before') := by
  have inserted {a : α} {b : β} {sorted : List α} {sorted' : List β} (stands : R a b)
      (rest : Forall₂ R sorted sorted') :
      Forall₂ R (sorted.orderedInsert before a) (sorted'.orderedInsert before' b) := by
    induction rest with
    | nil => exact .cons stands .nil
    | @cons c d sorted sorted' next rest ih =>
      rw [orderedInsert_cons, orderedInsert_cons]
      simp only [same a b c d stands next]
      split
      · exact .cons stands (.cons next rest)
      · exact .cons next ih
  induction related with
  | nil => exact .nil
  | cons stands rest ih => exact inserted stands ih

end Related

section Places

variable {α β : Type} {R : α → β → Prop} {rows : List α} {rows' : List β} {a c : α × Nat} {b d : β × Nat}

structure AtOnePlace (R : α → β → Prop) (rows' : List β) (a : α × Nat) (b : β × Nat) : Prop where
  row : R a.1 b.1
  place : a.2 = b.2
  found : rows'[b.2]? = some b.1

theorem related_zipIdx (related : Forall₂ R rows rows') : Forall₂ (AtOnePlace R rows') rows.zipIdx rows'.zipIdx := by
  refine forall₂_iff_get.mpr ⟨by simp [related.length_eq], fun i inside inside' => ?_⟩
  rw [length_zipIdx] at inside inside'
  refine ⟨?_, by simp, by simp⟩
  simpa using related.get inside inside'

theorem AtOnePlace.same_place [BEq (β × Nat)] [LawfulBEq (β × Nat)] (held : AtOnePlace R rows' a b)
    (held' : AtOnePlace R rows' c d) : decide (a.2 = c.2) = (b == d) := by
  rw [Bool.eq_iff_iff, decide_eq_true_eq, beq_iff_eq, held.place, held'.place]
  constructor
  · intro same
    have found := held.found
    rw [same, held'.found] at found
    exact Prod.ext (Option.some.inj found).symm same
  · exact congrArg Prod.snd

theorem AtOnePlace.places {placed : List (α × Nat)} {placed' : List (β × Nat)}
    (related : Forall₂ (AtOnePlace R rows') placed placed') : placed.map Prod.snd = placed'.map Prod.snd := by
  induction related with
  | nil => rfl
  | cons held rest ih => rw [map_cons, map_cons, held.place, ih]

theorem related_findIdx {condition : α → Bool} {condition' : β → Bool}
    (same : ∀ a b, R a b → condition a = condition' b)
    (related : Forall₂ R rows rows') : rows.findIdx condition = rows'.findIdx condition' := by
  induction related with
  | nil => rfl
  | cons held rest ih => rw [findIdx_cons, findIdx_cons, same _ _ held, ih]

theorem related_deleteAt (places : List Nat) (related : Forall₂ R rows rows') :
    Forall₂ R (Ranking.deleteAt places rows).1 (Ranking.deleteAt places rows').1 ∧
      (Ranking.deleteAt places rows).2 = (Ranking.deleteAt places rows').2 := by
  have kept : Forall₂ R ((rows.zipIdx.filter fun row => row.2 ∉ places).map Prod.fst)
      ((rows'.zipIdx.filter fun row => row.2 ∉ places).map Prod.fst) :=
    rel_map (R := AtOnePlace R rows') (fun {_ _} held => held.row)
      (related_filter (fun a b held => by rw [held.place]) (related_zipIdx related))
  unfold Ranking.deleteAt
  exact ⟨kept, congrArg₂ (· - ·) related.length_eq kept.length_eq⟩

end Places

end Rows
