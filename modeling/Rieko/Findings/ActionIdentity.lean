import Rieko.Findings.StateDigest

namespace Rieko

open Identity Framing

structure ActionKey where
  findingId : String
  actionType : ActionType
  target : Option String
deriving DecidableEq

namespace ActionKey

variable {a b : ActionKey}

def bytes (key : ActionKey) : List UInt8 := actionIdentityBytes key.findingId key.actionType key.target

def identity (ext : External) (key : ActionKey) : String := actionIdentity ext key.findingId key.actionType key.target

def targetText (key : ActionKey) : String := key.target.getD ""

def nul : String := "\x00"

def SameTexts (a b : ActionKey) : Prop :=
  a.findingId = b.findingId ∧ a.actionType = b.actionType ∧ a.targetText = b.targetText

/-- The finding id of the second key runs over the finding id and the type of the first, and the target of the first
    over the type and the target of the second. -/
inductive RunsOver (a b : ActionKey) : Prop where
  | touching (findingId : b.findingId = a.findingId ++ nul ++ a.actionType.asStr)
      (target : a.targetText = b.actionType.asStr ++ nul ++ b.targetText)
  | apart (gap : String) (findingId : b.findingId = a.findingId ++ nul ++ a.actionType.asStr ++ nul ++ gap)
      (target : a.targetText = gap ++ nul ++ b.actionType.asStr ++ nul ++ b.targetText)

/-- Keys that no missing target and no NUL confuses. -/
def Separable (a b : ActionKey) : Prop := ¬ SameTexts a b ∧ ¬ RunsOver a b ∧ ¬ RunsOver b a

theorem utf8_append (text rest : String) : utf8 (text ++ rest) = utf8 text ++ utf8 rest := by
  simp [utf8]

theorem utf8_nul : utf8 nul = [0] := by decide

theorem toList_nul : nul.toList = ['\x00'] := by decide

theorem asStr_plain (actionType : ActionType) : '\x00' ∉ actionType.asStr.toList := by
  cases actionType <;> decide

theorem asStr_inj {actionType other : ActionType} (same : actionType.asStr = other.asStr) : actionType = other := by
  cases actionType <;> cases other <;> first | rfl | exact absurd same (by decide)

def text (key : ActionKey) : String := key.findingId ++ nul ++ key.actionType.asStr ++ nul ++ key.targetText

theorem bytes_eq (key : ActionKey) : key.bytes = utf8 "rieko-action-v1" ++ [0] ++ utf8 key.text := by
  simp [bytes, actionIdentityBytes, text, targetText, utf8_append, utf8_nul]

theorem text_chars (key : ActionKey) : key.text.toList =
    joined '\x00' key.findingId.toList key.actionType.asStr.toList key.targetText.toList := by
  simp [text, joined, toList_nul]

theorem runsOver_iff : RunsOver a b ↔
    Overlaps '\x00' a.findingId.toList a.actionType.asStr.toList a.targetText.toList
      b.findingId.toList b.actionType.asStr.toList b.targetText.toList := by
  constructor
  · intro runs
    cases runs with
    | touching findingId target =>
      apply Overlaps.touching
      · simp [findingId, toList_nul]
      · simp [target, toList_nul]
    | apart gap findingId target =>
      apply Overlaps.apart gap.toList
      · simp [findingId, joined, toList_nul]
      · simp [target, joined, toList_nul]
  · intro overlaps
    cases overlaps with
    | touching findingId target =>
      apply RunsOver.touching
      · apply String.toList_inj.mp
        simp [findingId, toList_nul]
      · apply String.toList_inj.mp
        simp [target, toList_nul]
    | apart gap findingId target =>
      apply RunsOver.apart (String.ofList gap)
      · apply String.toList_inj.mp
        simp [findingId, joined, toList_nul]
      · apply String.toList_inj.mp
        simp [target, joined, toList_nul]

theorem bytes_eq_iff : a.bytes = b.bytes ↔ SameTexts a b ∨ RunsOver a b ∨ RunsOver b a := by
  have texts : a.bytes = b.bytes ↔ a.text.toList = b.text.toList := by
    rw [bytes_eq, bytes_eq, List.append_cancel_left_eq, utf8_inj, String.toList_inj]
  have fields : SameTexts a b ↔ a.findingId.toList = b.findingId.toList ∧
      a.actionType.asStr.toList = b.actionType.asStr.toList ∧ a.targetText.toList = b.targetText.toList := by
    simp only [SameTexts, String.toList_inj]
    exact ⟨fun same => ⟨same.1, congrArg _ same.2.1, same.2.2⟩, fun same => ⟨same.1, asStr_inj same.2.1, same.2.2⟩⟩
  rw [texts, text_chars, text_chars, joined_eq_iff (asStr_plain _) (asStr_plain _), fields, runsOver_iff, runsOver_iff]

theorem bytes_ne_iff : a.bytes ≠ b.bytes ↔ Separable a b := by
  rw [Ne, bytes_eq_iff, Separable, not_or, not_or]

theorem identity_eq_iff {ext : External} (digests : ext.sha256 a.bytes = ext.sha256 b.bytes → a.bytes = b.bytes) :
    a.identity ext = b.identity ext ↔ a.bytes = b.bytes := by
  show "action-" ++ ext.sha256 a.bytes = "action-" ++ ext.sha256 b.bytes ↔ _
  constructor
  · intro same
    apply digests
    exact String.append_right_inj _ |>.mp same
  · intro same
    rw [same]

theorem separable_of_plain (plain : '\x00' ∉ a.findingId.toList) (plain' : '\x00' ∉ b.findingId.toList)
    (differ : ¬ SameTexts a b) : Separable a b := by
  have holdsNul : ∀ {x y : ActionKey}, RunsOver x y → '\x00' ∈ y.findingId.toList := by
    intro x y runs
    cases runs with
    | touching findingId target => simp [findingId, toList_nul]
    | apart gap findingId target => simp [findingId, toList_nul]
  exact ⟨differ, fun runs => plain' (holdsNul runs), fun runs => plain (holdsNul runs)⟩

end ActionKey

end Rieko
