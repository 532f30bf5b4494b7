import Rieko.Findings.ActionIdentity
import Rieko.Findings.Finding
import Rieko.Lib.Ranking
import Mathlib.Data.String.Basic

namespace Rieko

open Identity Framing Ranking

def byKey (evidence : List Evidence) : List Evidence := evidence.insertionSort fun a b => a.key ≤ b.key

def valueBytes (ext : External) : Json → List UInt8
  | .number n => utf8 (ext.jsonText (.number n))
  | .string s => utf8 s
  | .bool b => [if b then 1 else 0]
  | other => utf8 (ext.jsonText other)

def canonicalEvidence (ext : External) (evidence : List Evidence) : List UInt8 :=
  (byKey evidence).flatMap fun e => utf8 e.key ++ [0] ++ valueBytes ext e.value ++ [0xFF]

/-- The two lists get the same bytes just when they are permutations of each other. -/
def Canonical (ext : External) (a b : List Evidence) : Prop :=
  (a.Perm b → canonicalEvidence ext a = canonicalEvidence ext b) ∧
    (¬ a.Perm b → canonicalEvidence ext a ≠ canonicalEvidence ext b)

/-- The text of a value without its kind: a string is its own text, a flag is a control character, and the library
    prints the others. -/
def bareText (ext : External) : Json → String
  | .string s => s
  | .bool b => if b then "\x01" else "\x00"
  | other => ext.jsonText other

def PrintAlike (ext : External) (value other : Json) : Prop := bareText ext value = bareText ext other

namespace Evidence

variable {ext : External} {a b : List Evidence}

def RunsOver (ext : External) (e f : Evidence) : Prop :=
  ∃ gap, f.key = e.key ++ ActionKey.nul ++ gap ∧
    bareText ext e.value = gap ++ ActionKey.nul ++ bareText ext f.value

def WrittenAlike (ext : External) (e f : Evidence) : Prop :=
  (e.key = f.key ∧ PrintAlike ext e.value f.value) ∨ RunsOver ext e f ∨ RunsOver ext f e

def valuesOf (key : String) (evidence : List Evidence) : List Json :=
  (evidence.filter (·.key = key)).map (·.value)

/-- Permutations have the values of every key in orders that print alike, and lists that are not permutations differ,
    sorted by their keys, in what is written of some entry. -/
structure Separable (ext : External) (a b : List Evidence) : Prop where
  ordered : a.Perm b → ∀ key, List.Forall₂ (PrintAlike ext) (valuesOf key a) (valuesOf key b)
  apart : ¬ a.Perm b → ¬ List.Forall₂ (WrittenAlike ext) (byKey a) (byKey b)

def entryText (ext : External) (e : Evidence) : String := e.key ++ ActionKey.nul ++ bareText ext e.value

def keyed (ext : External) (e : Evidence) : String × String := (e.key, bareText ext e.value)

section Bytes

theorem ofNat_ne_max {n : Nat} (small : n < 0xFF) : UInt8.ofNat n ≠ 0xFF := by
  intro same
  have value := congrArg UInt8.toNat same
  rw [UInt8.toNat_ofNat', Nat.mod_eq_of_lt (Nat.lt_trans small (by decide))] at value
  exact absurd value (Nat.ne_of_lt small)

theorem utf8_plain (text : String) : 0xFF ∉ utf8 text := by
  have chars : utf8 text = text.toList.flatMap String.utf8EncodeChar := by
    unfold utf8
    rw [← String.utf8Encode_toList]
    simp [List.utf8Encode]
  rw [chars]
  intro member
  obtain ⟨c, _, byte⟩ := List.mem_flatMap.mp member
  have small (value : UInt8) : value ∈ String.utf8EncodeChar c → value ≠ 0xFF := by
    fun_cases String.utf8EncodeChar c
    all_goals
      intro among
      simp only [List.mem_cons, List.not_mem_nil, or_false] at among
      rcases among with rfl | rfl | rfl | rfl
    all_goals
      apply ofNat_ne_max
      omega
  exact small _ byte rfl

theorem valueBytes_eq (ext : External) (value : Json) : valueBytes ext value = utf8 (bareText ext value) := by
  cases value with
  | bool b =>
    have off : utf8 "\x00" = [0] := by decide
    have on : utf8 "\x01" = [1] := by decide
    cases b with
    | false => exact off.symm
    | true => exact on.symm
  | _ => rfl

theorem canonical_eq_iff_texts : canonicalEvidence ext a = canonicalEvidence ext b ↔
    (byKey a).map (entryText ext) = (byKey b).map (entryText ext) := by
  have entries (evidence : List Evidence) : canonicalEvidence ext evidence =
      (byKey evidence).flatMap fun e => utf8 (entryText ext e) ++ [0xFF] := by
    unfold canonicalEvidence
    apply List.flatMap_congr
    intro e _
    simp [entryText, valueBytes_eq, ActionKey.utf8_append, ActionKey.utf8_nul]
  have texts : Function.Injective (List.map utf8) := List.map_injective_iff.mpr fun _ _ => utf8_inj.mp
  have composed (evidence : List Evidence) :
      (evidence.map fun e => utf8 (entryText ext e)) = (evidence.map (entryText ext)).map utf8 := by
    rw [List.map_map, Function.comp_def]
  rw [entries, entries, terminated_eq_iff fun e => utf8_plain (entryText ext e), composed, composed, texts.eq_iff]

end Bytes

theorem runsOver_iff {e f : Evidence} : RunsOver ext e f ↔
    Framing.RunsOver '\x00' e.key.toList (bareText ext e.value).toList f.key.toList (bareText ext f.value).toList := by
  constructor
  · intro ⟨gap, key, value⟩
    exact ⟨gap.toList, by simp [key, ActionKey.toList_nul], by simp [value, ActionKey.toList_nul]⟩
  · intro ⟨gap, key, value⟩
    refine ⟨String.ofList gap, String.toList_inj.mp ?_, String.toList_inj.mp ?_⟩
    · simp [key, ActionKey.toList_nul]
    · simp [value, ActionKey.toList_nul]

theorem writtenAlike_iff {e f : Evidence} : WrittenAlike ext e f ↔ entryText ext e = entryText ext f := by
  have chars (e : Evidence) :
      (entryText ext e).toList = e.key.toList ++ '\x00' :: (bareText ext e.value).toList := by
    simp [entryText, ActionKey.toList_nul]
  rw [← String.toList_inj, chars, chars, pair_eq_iff, ← runsOver_iff, ← runsOver_iff, String.toList_inj,
    String.toList_inj]
  rfl

theorem keyed_eq_of_text_eq (keys : a.map Evidence.key = b.map Evidence.key)
    (texts : a.map (entryText ext) = b.map (entryText ext)) : a.map (keyed ext) = b.map (keyed ext) := by
  induction a generalizing b with
  | nil =>
    cases b with
    | nil => rfl
    | cons f b => cases keys
  | cons e a ih =>
    cases b with
    | nil => cases keys
    | cons f b =>
      obtain ⟨key, keys⟩ := List.cons.inj keys
      obtain ⟨text, texts⟩ := List.cons.inj texts
      have value : bareText ext e.value = bareText ext f.value := by
        rw [entryText, entryText, key] at text
        exact (String.append_right_inj _).mp text
      rw [List.map_cons, List.map_cons, ih keys texts, keyed, keyed, key, value]

theorem byKey_perm (same : a.Perm b) : (byKey a).Perm (byKey b) :=
  ((List.perm_insertionSort _ a).trans same).trans (List.perm_insertionSort _ b).symm

theorem keys_eq (same : a.Perm b) : (byKey a).map Evidence.key = (byKey b).map Evidence.key := by
  have sorted (evidence : List Evidence) : ((byKey evidence).map Evidence.key).Pairwise (· ≤ ·) := by
    rw [List.pairwise_map]
    exact List.pairwise_insertionSort _ evidence
  exact ((byKey_perm same).map _).eq_of_pairwise' (sorted a) (sorted b)

theorem forall_alike_iff {values others : List Json} : List.Forall₂ (PrintAlike ext) values others ↔
    values.map (bareText ext) = others.map (bareText ext) := by
  rw [← List.forall₂_eq_eq_eq, List.forall₂_map_left_iff, List.forall₂_map_right_iff]
  rfl

theorem keyed_eq_iff : (byKey a).map (keyed ext) = (byKey b).map (keyed ext) ↔
    ∀ key, List.Forall₂ (PrintAlike ext) (valuesOf key a) (valuesOf key b) := by
  have ofKey (evidence : List Evidence) (k : String) :
      ((byKey evidence).map (keyed ext)).filter (·.1 = k) =
        ((valuesOf k evidence).map (bareText ext)).map fun text => (k, text) := by
    rw [List.filter_map, valuesOf, List.map_map, List.map_map]
    have kept : (byKey evidence).filter (·.key = k) = evidence.filter (·.key = k) :=
      filter_insertionSort Evidence.key evidence k
    show ((byKey evidence).filter (·.key = k)).map _ = _
    rw [kept]
    apply List.map_congr_left
    intro e member
    have key : e.key = k := by simpa using (List.mem_filter.mp member).2
    show keyed ext e = (k, bareText ext e.value)
    rw [keyed, key]
  have tagged (k : String) : Function.Injective (List.map fun text : String => (k, text)) :=
    List.map_injective_iff.mpr (Prod.mk_right_injective k)
  have sorted (evidence : List Evidence) :
      ((byKey evidence).map (keyed ext)).Pairwise fun p q => p.1 ≤ q.1 := by
    rw [List.pairwise_map]
    exact List.pairwise_insertionSort _ evidence
  constructor
  · intro same k
    have texts := congrArg (List.filter (·.1 = k)) same
    rw [ofKey, ofKey] at texts
    exact forall_alike_iff.mpr (tagged k texts)
  · intro alike
    apply eq_of_filter_eq (sorted a) (sorted b)
    intro k
    rw [ofKey, ofKey, forall_alike_iff.mp (alike k)]

theorem canonical_eq_iff : canonicalEvidence ext a = canonicalEvidence ext b ↔
    List.Forall₂ (WrittenAlike ext) (byKey a) (byKey b) := by
  have relation : WrittenAlike ext = fun e f => entryText ext e = entryText ext f := by
    funext e f
    exact propext writtenAlike_iff
  rw [canonical_eq_iff_texts, relation, ← List.forall₂_eq_eq_eq, List.forall₂_map_left_iff,
    List.forall₂_map_right_iff]

theorem canonical_eq_iff_of_perm (same : a.Perm b) : canonicalEvidence ext a = canonicalEvidence ext b ↔
    ∀ key, List.Forall₂ (PrintAlike ext) (valuesOf key a) (valuesOf key b) := by
  rw [canonical_eq_iff_texts, ← keyed_eq_iff]
  constructor
  · exact keyed_eq_of_text_eq (keys_eq same)
  · intro pairs
    have texts := congrArg (List.map fun pair : String × String => pair.1 ++ ActionKey.nul ++ pair.2) pairs
    rw [List.map_map, List.map_map] at texts
    exact texts

/-- Distinct keys without a NUL, and values that print alike only where they are the same. -/
structure Plain (ext : External) (a b : List Evidence) : Prop where
  once : (a.map Evidence.key).Nodup
  free : ∀ e ∈ a, '\x00' ∉ e.key.toList
  free' : ∀ f ∈ b, '\x00' ∉ f.key.toList
  told : ∀ e ∈ a, ∀ f ∈ b, PrintAlike ext e.value f.value → e.value = f.value

theorem eq_of_plain (plain : Plain ext a b) {e f : Evidence} (inA : e ∈ a) (inB : f ∈ b)
    (alike : WrittenAlike ext e f) : e = f := by
  have holdsNul {x y : Evidence} (runs : RunsOver ext x y) : '\x00' ∈ y.key.toList := by
    obtain ⟨gap, key, _⟩ := runs
    simp [key, ActionKey.toList_nul]
  rcases alike with ⟨key, value⟩ | runs | runs
  · have values := plain.told e inA f inB value
    cases e
    cases f
    exact congr (congrArg Evidence.mk key) values
  · exact absurd (holdsNul runs) (plain.free' f inB)
  · exact absurd (holdsNul runs) (plain.free e inA)

theorem byKey_eq (once : (a.map Evidence.key).Nodup) (same : a.Perm b) : byKey a = byKey b := by
  have perm := byKey_perm same
  have told (e f : Evidence) (inA : e ∈ byKey a) (inB : f ∈ byKey b) (below : e.key ≤ f.key)
      (above : f.key ≤ e.key) : e = f := by
    have member := (List.perm_insertionSort _ a).mem_iff.mp inA
    have member' := (List.perm_insertionSort _ a).mem_iff.mp (perm.mem_iff.mpr inB)
    exact List.inj_on_of_nodup_map once member member' (le_antisymm below above)
  exact perm.eq_of_pairwise told (List.pairwise_insertionSort _ a) (List.pairwise_insertionSort _ b)

theorem Plain.canonical (plain : Plain ext a b) : Canonical ext a b := by
  constructor
  · intro same
    rw [canonicalEvidence, canonicalEvidence, byKey_eq plain.once same]
  · intro differ bytes
    obtain ⟨lengths, each⟩ := List.forall₂_iff_zip.mp (canonical_eq_iff.mp bytes)
    have equal : List.Forall₂ Eq (byKey a) (byKey b) := by
      refine List.forall₂_iff_zip.mpr ⟨lengths, fun {e f} member => ?_⟩
      obtain ⟨inA, inB⟩ := List.of_mem_zip member
      exact eq_of_plain plain ((List.mem_insertionSort _).mp inA) ((List.mem_insertionSort _).mp inB) (each member)
    have sorted : byKey a = byKey b := List.forall₂_eq_eq_eq ▸ equal
    have perm : a.Perm (byKey a) := (List.perm_insertionSort _ a).symm
    rw [sorted] at perm
    exact differ (perm.trans (List.perm_insertionSort _ b))

end Evidence

open Evidence

/-- The bytes are canonical just when the lists are separable. -/
theorem canonical_evidence_canonical (ext : External) (a b : List Evidence) :
    Canonical ext a b ↔ Separable ext a b := by
  constructor
  · intro ⟨together, apart⟩
    exact ⟨fun same => (canonical_eq_iff_of_perm same).mp (together same),
      fun differ => canonical_eq_iff.not.mp (apart differ)⟩
  · intro separable
    exact ⟨fun same => (canonical_eq_iff_of_perm same).mpr (separable.ordered same),
      fun differ => canonical_eq_iff.not.mpr (separable.apart differ)⟩

/-- One key twice in two orders, a number and its digits, a flag and its control character, and a NUL in a key. -/
theorem canonical_evidence_merged :
    let ext : External := ⟨fun _ => "digest", fun _ => "1", fun _ => "instant", fun _ => "instant"⟩
    let peers : List Evidence := [.string "peer" "a", .string "peer" "b"]
    let count : List Evidence := [⟨"count", .number (.posInt 1)⟩]
    let flag : List Evidence := [⟨"flag", .bool true⟩]
    ¬ Canonical ext peers peers.reverse ∧ ¬ Canonical ext count [.string "count" "1"] ∧
      ¬ Canonical ext flag [.string "flag" "\x01"] ∧
      ¬ Canonical ext [.string "a\x00b" "c"] [.string "a" "b\x00c"] := by
  intro ext peers count flag
  refine ⟨fun canonical => ?_, fun canonical => ?_, fun canonical => ?_, fun canonical => ?_⟩
  · exact absurd (canonical.1 (List.reverse_perm peers).symm) (by decide)
  · exact canonical.2 (by simp [count, Evidence.string]) (by decide)
  · exact canonical.2 (by simp [flag, Evidence.string]) (by decide)
  · exact canonical.2 (by simp [Evidence.string]) (by decide)

end Rieko
