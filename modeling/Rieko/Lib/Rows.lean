import Mathlib.Data.List.Nodup

/-! Lists of records that a key identifies, as tables with a primary key and as vectors searched from
    the front. -/

namespace Rows

variable {α β κ : Type} [DecidableEq κ]

def lookup (key : α → κ) (rows : List α) (k : κ) : Option α := rows.find? fun row => key row = k

/-- Changes the first record with the key of `row`, or appends `row` where there is none. -/
def upsert (key : α → κ) (row : α) (merge : α → α) : List α → List α
  | [] => [row]
  | a :: rows => if key a = key row then merge a :: rows else a :: upsert key row merge rows

def updateFirst (condition : α → Bool) (f : α → α) : List α → List α
  | [] => []
  | a :: rows => if condition a then f a :: rows else a :: updateFirst condition f rows

def updateWhere (condition : α → Bool) (f : α → α) (rows : List α) : List α :=
  rows.map fun row => if condition row then f row else row

def Keyed (key : α → κ) (rows : List α) : Prop := (rows.map key).Nodup

variable {key : α → κ} {rows : List α} {row : α} {merge f : α → α} {condition : α → Bool} {k : κ}

theorem key_of_lookup (found : lookup key rows k = some row) : key row = k := by
  simpa using List.find?_some found

theorem mem_of_lookup (found : lookup key rows k = some row) : row ∈ rows := List.mem_of_find?_eq_some found

theorem lookup_cons : lookup key (row :: rows) k = if key row = k then some row else lookup key rows k := by
  unfold lookup
  rw [List.find?_cons]
  by_cases same : key row = k <;> simp [same]

theorem lookup_eq_none : lookup key rows k = none ↔ ∀ row ∈ rows, key row ≠ k := by
  simp [lookup, List.find?_eq_none]

theorem lookup_of_mem (unique : Keyed key rows) (member : row ∈ rows) : lookup key rows (key row) = some row := by
  induction rows with
  | nil => simp at member
  | cons a rows ih =>
    unfold Keyed at unique
    rw [List.map_cons, List.nodup_cons] at unique
    rw [lookup_cons]
    rcases List.mem_cons.mp member with rfl | later
    · simp
    · have other : key a ≠ key row := fun same => unique.1 (same ▸ List.mem_map_of_mem later)
      rw [if_neg other]
      exact ih unique.2 later

omit [DecidableEq κ] in
theorem Keyed.sublist {rows' : List α} (unique : Keyed key rows) (part : rows'.Sublist rows) : Keyed key rows' := by
  unfold Keyed at unique ⊢
  exact List.Nodup.sublist (part.map key) unique

omit [DecidableEq κ] in
theorem Keyed.reverse (unique : Keyed key rows) : Keyed key rows.reverse := by
  unfold Keyed at unique ⊢
  rw [List.map_reverse]
  exact List.nodup_reverse.mpr unique

theorem lookup_reverse (unique : Keyed key rows) : lookup key rows.reverse k = lookup key rows k := by
  cases found : lookup key rows k with
  | none =>
    apply lookup_eq_none.mpr
    intro row member
    exact lookup_eq_none.mp found row (List.mem_reverse.mp member)
  | some row =>
    rw [← key_of_lookup found]
    exact lookup_of_mem unique.reverse (List.mem_reverse.mpr (mem_of_lookup found))

theorem lookup_append :
    lookup key (rows ++ [row]) k = (lookup key rows k).or (if key row = k then some row else none) := by
  unfold lookup
  rw [List.find?_append]
  congr 1
  by_cases same : key row = k <;> simp [same]

theorem lookup_map {key' : β → κ} {g : α → β} (keys : ∀ a, key' (g a) = key a) :
    lookup key' (rows.map g) k = (lookup key rows k).map g := by
  induction rows with
  | nil => rfl
  | cons a rows ih =>
    rw [List.map_cons, lookup_cons, lookup_cons, keys, ih]
    split <;> rfl

omit [DecidableEq κ] in
theorem keyed_map (keeps : ∀ a, key (f a) = key a) (unique : Keyed key rows) : Keyed key (rows.map f) := by
  unfold Keyed at *
  rwa [List.map_map, show key ∘ f = key from funext keeps]

omit [DecidableEq κ] in
theorem updateWhere_keeps (keeps : ∀ a, key (f a) = key a) (a : α) :
    key (if condition a then f a else a) = key a := by
  split
  · exact keeps a
  · rfl

theorem lookup_updateWhere (keeps : ∀ a, key (f a) = key a) :
    lookup key (updateWhere condition f rows) k =
      (lookup key rows k).map fun a => if condition a then f a else a :=
  lookup_map (updateWhere_keeps keeps)

omit [DecidableEq κ] in
theorem keyed_updateWhere (keeps : ∀ a, key (f a) = key a) (unique : Keyed key rows) :
    Keyed key (updateWhere condition f rows) :=
  keyed_map (updateWhere_keeps keeps) unique

theorem lookup_upsert (keeps : ∀ a, key (merge a) = key a) :
    lookup key (upsert key row merge rows) k =
      if key row = k then some (((lookup key rows k).map merge).getD row) else lookup key rows k := by
  induction rows with
  | nil => simp [upsert, lookup]
  | cons a rows ih =>
    unfold upsert
    by_cases same : key a = key row
    · rw [if_pos same, lookup_cons, lookup_cons, keeps, same]
      split <;> rfl
    · rw [if_neg same, lookup_cons, lookup_cons, ih]
      by_cases here : key a = k
      · have other : key row ≠ k := fun also => same (here.trans also.symm)
        simp [here, other]
      · simp [here]

theorem mem_upsert_key (keeps : ∀ a, key (merge a) = key a) :
    k ∈ (upsert key row merge rows).map key ↔ k = key row ∨ k ∈ rows.map key := by
  induction rows with
  | nil => simp [upsert]
  | cons a rows ih =>
    unfold upsert
    by_cases same : key a = key row
    · rw [if_pos same, List.map_cons, List.map_cons, keeps, same]
      simp
    · rw [if_neg same, List.map_cons, List.map_cons, List.mem_cons, List.mem_cons, ih]
      tauto

theorem keyed_upsert (keeps : ∀ a, key (merge a) = key a) (unique : Keyed key rows) :
    Keyed key (upsert key row merge rows) := by
  induction rows with
  | nil => simp [upsert, Keyed]
  | cons a rows ih =>
    unfold Keyed at unique ih ⊢
    unfold upsert
    rw [List.map_cons, List.nodup_cons] at unique
    by_cases same : key a = key row
    · rw [if_pos same, List.map_cons, keeps]
      exact List.nodup_cons.mpr unique
    · rw [if_neg same, List.map_cons]
      refine List.nodup_cons.mpr ⟨fun member => ?_, ih unique.2⟩
      rcases (mem_upsert_key keeps).mp member with here | later
      · exact same here
      · exact unique.1 later

theorem mem_upsert (member : a ∈ upsert key row merge rows) :
    a ∈ rows ∨ a = row ∨ ∃ b ∈ rows, key b = key row ∧ a = merge b := by
  induction rows with
  | nil => exact .inr (.inl (List.mem_singleton.mp member))
  | cons b rows ih =>
    unfold upsert at member
    by_cases same : key b = key row
    · rw [if_pos same] at member
      rcases List.mem_cons.mp member with merged | later
      · exact .inr (.inr ⟨b, List.mem_cons_self, same, merged⟩)
      · exact .inl (List.mem_cons_of_mem _ later)
    · rw [if_neg same] at member
      rcases List.mem_cons.mp member with rfl | later
      · exact .inl List.mem_cons_self
      · rcases ih later with stored | new | ⟨c, stored, named, merged⟩
        · exact .inl (List.mem_cons_of_mem _ stored)
        · exact .inr (.inl new)
        · exact .inr (.inr ⟨c, List.mem_cons_of_mem _ stored, named, merged⟩)

theorem upsert_of_stored (unique : Keyed key rows) (stored : key row ∈ rows.map key) :
    upsert key row merge rows = rows.map fun a => if key a = key row then merge a else a := by
  induction rows with
  | nil => simp at stored
  | cons a rows ih =>
    unfold Keyed at unique
    rw [List.map_cons, List.nodup_cons] at unique
    unfold upsert
    by_cases same : key a = key row
    · have others : (rows.map fun a => if key a = key row then merge a else a) = rows := by
        conv_rhs => rw [← List.map_id rows]
        refine List.map_congr_left fun b later => ?_
        have differs : key b ≠ key row := fun also =>
          unique.1 (same.trans also.symm ▸ List.mem_map_of_mem later)
        simp [differs]
      simp [same, others]
    · have later : key row ∈ rows.map key := by
        rcases List.mem_cons.mp (List.map_cons ▸ stored) with here | later
        · exact absurd here.symm same
        · exact later
      simp [same, ih unique.2 later]

theorem upsert_of_new (new : key row ∉ rows.map key) : upsert key row merge rows = rows ++ [row] := by
  induction rows with
  | nil => rfl
  | cons a rows ih =>
    rw [List.map_cons, List.mem_cons, not_or] at new
    unfold upsert
    rw [if_neg (Ne.symm new.1), ih new.2]
    rfl

theorem upsert_keeping : upsert key row (fun stored => stored) rows =
    if key row ∈ rows.map key then rows else rows ++ [row] := by
  split
  next stored =>
    induction rows with
    | nil => simp at stored
    | cons a rows ih =>
      unfold upsert
      split
      · rfl
      next other =>
        rw [List.map_cons, List.mem_cons] at stored
        rw [ih (stored.resolve_left fun same => other same.symm)]
  next new => exact upsert_of_new new

theorem map_upsert {key' : β → κ} {merge' : β → β} {g : α → β} (keys : ∀ a, key' (g a) = key a)
    (merges : ∀ a, g (merge a) = merge' (g a)) :
    (upsert key row merge rows).map g = upsert key' (g row) merge' (rows.map g) := by
  induction rows with
  | nil => rfl
  | cons a rows ih =>
    rw [List.map_cons]
    unfold upsert
    rw [keys, keys]
    split
    · rw [List.map_cons, merges]
    · rw [List.map_cons, ih]

theorem ext_lookup {rows' : List α} (unique : Keyed key rows) (keys : rows.map key = rows'.map key)
    (same : ∀ k, lookup key rows k = lookup key rows' k) : rows = rows' := by
  have unique' : Keyed key rows' := by unfold Keyed at *; rwa [← keys]
  refine List.ext_getElem (by simpa using congrArg List.length keys) fun n bound bound' => ?_
  have keyAt : key rows[n] = key rows'[n] := by
    have at' := congrArg (fun ks => ks[n]?) keys
    simpa [bound, bound'] using at'
  have left := lookup_of_mem unique (List.getElem_mem bound)
  have right := lookup_of_mem unique' (List.getElem_mem bound')
  rw [same, keyAt, right] at left
  exact (Option.some.inj left).symm

theorem lookup_updateFirst (keeps : ∀ a, key (f a) = key a) {k' : κ} :
    lookup key (updateFirst (key · = k) f rows) k' =
      (lookup key rows k').map fun a => if key a = k then f a else a := by
  induction rows with
  | nil => rfl
  | cons a rows ih =>
    unfold updateFirst
    by_cases here : key a = k
    · rw [if_pos (decide_eq_true here), lookup_cons, lookup_cons, keeps]
      by_cases asked : key a = k'
      · simp [asked, ← here]
      · have other (b : α) (found : lookup key rows k' = some b) : key b ≠ k := fun same =>
          asked ((here.trans same.symm).trans (key_of_lookup found))
        rw [if_neg asked, if_neg asked]
        cases found : lookup key rows k' with
        | none => rfl
        | some b => simp [other b found]
    · rw [if_neg (by simpa using here), lookup_cons, lookup_cons, ih]
      by_cases asked : key a = k'
      · simp [asked, asked ▸ here]
      · simp [asked]

theorem lookup_filter_ne : lookup key (rows.filter (key · ≠ k)) k = none := by
  rw [lookup_eq_none]
  intro row member
  simpa using (List.mem_filter.mp member).2

theorem lookup_filter_of_ne {k' : κ} (other : k' ≠ k) :
    lookup key (rows.filter (key · ≠ k)) k' = lookup key rows k' := by
  unfold lookup
  rw [List.find?_filter]
  congr 1
  funext row
  by_cases asked : key row = k'
  · simp [asked, other]
  · simp [asked]

end Rows
