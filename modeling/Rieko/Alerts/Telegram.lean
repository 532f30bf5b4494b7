import Rieko.Alerts.Sink
import Rieko.Lib.Markdown
import Rieko.Lib.Utf16

namespace Rieko

open Markdown (BareAt WellFormed escape)

namespace TelegramSink

def maxMessageUtf16 : Nat := 4000

def replace (c : Char) (text : List Char) : List Char := text.flatMap fun d => if d = c then ['\\', c] else [d]

def escapeMarkdown (s : String) : String :=
  .ofList (['\\', '\x60', '*', '_', '[', ']', '(', ')'].foldl (fun text c => replace c text) s.toList)

def truncateUtf16 (s : String) (maxUnits : Nat) : String :=
  if Utf16.length s.toList ≤ maxUnits then s
  else
    let out := Utf16.takeUnits (maxUnits - 1) s.toList
    if 0 < Utf16.length out then .ofList (out ++ ['…']) else .ofList out

def emoji : Severity → String
  | .critical => "🚨"
  | .warning => "⚠️"
  | .info => "ℹ️"

def format (alert : Alert) : String :=
  let emoji := emoji alert.severity
  let title := escapeMarkdown alert.title
  let message := escapeMarkdown alert.message
  let key := escapeMarkdown alert.dedupKey
  s!"{emoji} *{title}*\n\n{message}\n\n`{key}`"

def buildText (alert : Alert) : String := truncateUtf16 (format alert) maxMessageUtf16

section Escape

variable {done : List Char} {c : Char}

def escapedIn (done : List Char) (d : Char) : List Char := if d ∈ done then ['\\', d] else [d]

theorem replace_escapedIn (slash : '\\' ∈ done) (new : c ∉ done) (text : List Char) :
    replace c (text.flatMap (escapedIn done)) = text.flatMap (escapedIn (done ++ [c])) := by
  have other : '\\' ≠ c := fun same => new (same ▸ slash)
  unfold replace
  rw [List.flatMap_assoc]
  apply List.flatMap_congr
  intro d _
  unfold escapedIn
  by_cases known : d ∈ done
  · have apart : d ≠ c := fun same => new (same ▸ known)
    simp [known, other, apart]
  · by_cases same : d = c
    · subst same
      simp [known]
    · simp [known, same]

theorem escapeMarkdown_toList (s : String) : (escapeMarkdown s).toList = escape s.toList := by
  unfold escapeMarkdown
  rw [String.toList_ofList]
  have first : replace '\\' s.toList = s.toList.flatMap (escapedIn ['\\']) := by
    unfold replace
    apply List.flatMap_congr
    intro d _
    by_cases same : d = '\\' <;> simp [escapedIn, same]
  simp only [List.foldl_cons, List.foldl_nil, first]
  rw [replace_escapedIn (by decide) (by decide), replace_escapedIn (by decide) (by decide),
    replace_escapedIn (by decide) (by decide), replace_escapedIn (by decide) (by decide),
    replace_escapedIn (by decide) (by decide), replace_escapedIn (by decide) (by decide),
    replace_escapedIn (by decide) (by decide)]
  apply List.flatMap_congr
  intro d _
  simp [escapedIn, Markdown.escapeChar, Markdown.delimiters]

end Escape

def throughTitle (alert : Alert) : String :=
  let emoji := emoji alert.severity
  let title := escapeMarkdown alert.title
  s!"{emoji} *{title}*"

def throughMessage (alert : Alert) : String :=
  let front := throughTitle alert
  let message := escapeMarkdown alert.message
  s!"{front}\n\n{message}\n\n`"

/-- The message is short enough, or the last code unit before the ellipsis lies behind the title and before the
    key. -/
def CutsClear (alert : Alert) : Prop :=
  Utf16.length (format alert).toList ≤ maxMessageUtf16 ∨
    (Utf16.length (throughTitle alert).toList ≤ maxMessageUtf16 - 1 ∧
      maxMessageUtf16 - 1 < Utf16.length (throughMessage alert).toList)

section Shape

variable (alert : Alert)

theorem format_eq : format alert = emoji alert.severity ++ " *" ++ escapeMarkdown alert.title ++ "*\n\n" ++
    escapeMarkdown alert.message ++ "\n\n`" ++ escapeMarkdown alert.dedupKey ++ "`" := rfl

def opening : List Char := escape ((emoji alert.severity).toList ++ [' '])

def title : List Char := escape alert.title.toList

def body : List Char := escape ('\n' :: '\n' :: (alert.message.toList ++ ['\n', '\n']))

def key : List Char := escape alert.dedupKey.toList

theorem emoji_plain (severity : Severity) :
    ∀ c ∈ (emoji severity).toList ++ [' '], ¬(c = '\\' ∨ c ∈ Markdown.delimiters) := by
  have critical : (emoji .critical).toList = ['🚨'] := by decide
  have warning : (emoji .warning).toList = ['⚠', '\uFE0F'] := by decide
  have info : (emoji .info).toList = ['ℹ', '\uFE0F'] := by decide
  cases severity with
  | critical => simp [critical, Markdown.delimiters]
  | warning => simp [warning, Markdown.delimiters]
  | info => simp [info, Markdown.delimiters]

theorem opening_eq : opening alert = (emoji alert.severity).toList ++ [' '] :=
  Markdown.escape_plain (emoji_plain _)

theorem opening_length : Utf16.length (opening alert) ≤ 3 := by
  rw [opening_eq]
  cases alert.severity <;> decide

theorem body_eq : body alert = '\n' :: '\n' :: (escape alert.message.toList ++ ['\n', '\n']) := by
  have line : escape ['\n', '\n'] = ['\n', '\n'] := by decide
  have parts : body alert = escape ['\n', '\n'] ++ (escape alert.message.toList ++ escape ['\n', '\n']) := by
    rw [← Markdown.escape_append, ← Markdown.escape_append]
    rfl
  rw [parts, line]
  rfl

theorem throughTitle_toList :
    (throughTitle alert).toList = opening alert ++ '*' :: (title alert ++ ['*']) := by
  have parts : throughTitle alert = emoji alert.severity ++ " *" ++ escapeMarkdown alert.title ++ "*" := rfl
  have mark : " *".toList = [' ', '*'] := by decide
  rw [parts]
  simp [opening_eq, title, escapeMarkdown_toList, mark]

theorem throughMessage_toList :
    (throughMessage alert).toList = (throughTitle alert).toList ++ (body alert ++ ['\x60']) := by
  have parts : throughMessage alert = throughTitle alert ++ "\n\n" ++ escapeMarkdown alert.message ++ "\n\n`" := rfl
  have lines : "\n\n".toList = ['\n', '\n'] ∧ "\n\n`".toList = ['\n', '\n', '\x60'] := by decide
  rw [parts]
  simp [body_eq, escapeMarkdown_toList, lines]

theorem format_toList :
    (format alert).toList = (throughMessage alert).toList ++ (key alert ++ ['\x60']) := by
  have marks : " *".toList = [' ', '*'] ∧ "*\n\n".toList = ['*', '\n', '\n'] ∧
      "\n\n`".toList = ['\n', '\n', '\x60'] ∧ "`".toList = ['\x60'] := by decide
  rw [format_eq, throughMessage_toList, throughTitle_toList]
  simp [opening_eq, body_eq, title, key, escapeMarkdown_toList, marks]

end Shape

section Origins

def own (text : String) : List Bool := List.replicate text.toList.length false

def field (text : String) : List Bool := List.replicate (escapeMarkdown text).toList.length true

def fromField (alert : Alert) : List Bool :=
  own (emoji alert.severity) ++ own " *" ++ field alert.title ++ own "*\n\n" ++ field alert.message ++
    own "\n\n`" ++ field alert.dedupKey ++ own "`"

structure Owns (text : List Char) (origins : List Bool) : Prop where
  length : text.length = origins.length
  closed : (Markdown.read text).escaped = false
  bare : ∀ i, BareAt text i → origins[i]? ≠ some true

theorem Owns.own {text : String} (closed : (Markdown.read text.toList).escaped = false) :
    Owns text.toList (own text) where
  length := by simp [TelegramSink.own]
  closed
  bare i _ stray := by simp [TelegramSink.own, List.getElem?_replicate] at stray

theorem Owns.field (text : String) : Owns (escapeMarkdown text).toList (field text) where
  length := by simp [TelegramSink.field]
  closed := by
    have quiet : Markdown.read (escape text.toList) = ⟨false, none⟩ := Markdown.read_escape rfl _
    rw [escapeMarkdown_toList, quiet]
  bare i bare := by
    rw [escapeMarkdown_toList] at bare
    exact absurd bare (Markdown.not_bareAt_escape _ _)

theorem Owns.append {text rest : List Char} {origins others : List Bool} (owns : Owns text origins)
    (owns' : Owns rest others) : Owns (text ++ rest) (origins ++ others) where
  length := by rw [List.length_append, List.length_append, owns.length, owns'.length]
  closed := by
    rw [Markdown.read_append, ← owns'.closed]
    exact Markdown.escaped_readFrom owns.closed _
  bare i bare := by
    by_cases inside : i < text.length
    · have first := owns.bare i (Markdown.bareAt_append_left inside bare)
      rwa [List.getElem?_append_left (owns.length ▸ inside)]
    · have behind : text.length ≤ i := Nat.le_of_not_lt inside
      have later := owns'.bare _ (Markdown.bareAt_append_right owns.closed behind bare)
      rwa [List.getElem?_append_right (owns.length ▸ behind), ← owns.length]

theorem format_owns (alert : Alert) : Owns (format alert).toList (fromField alert) := by
  have emojiClosed : (Markdown.read (emoji alert.severity).toList).escaped = false := by
    cases alert.severity <;> decide
  rw [format_eq]
  simp only [String.toList_append]
  apply Owns.append _ (Owns.own (by decide))
  apply Owns.append _ (Owns.field _)
  apply Owns.append _ (Owns.own (by decide))
  apply Owns.append _ (Owns.field _)
  apply Owns.append _ (Owns.own (by decide))
  apply Owns.append _ (Owns.field _)
  apply Owns.append (Owns.own emojiClosed) (Owns.own (by decide))

end Origins

section Reading

variable (alert : Alert)

theorem read_opening_bold : Markdown.read (opening alert ++ ['*']) = ⟨false, some .bold⟩ := by
  have quiet : Markdown.read (opening alert) = ⟨false, none⟩ := Markdown.read_escape rfl _
  rw [Markdown.read_append, quiet]
  rfl

theorem read_throughTitle : Markdown.read (throughTitle alert).toList = ⟨false, none⟩ := by
  rw [throughTitle_toList, List.append_cons, Markdown.read_append, read_opening_bold, Markdown.readFrom_append, title,
    Markdown.read_escape rfl]
  rfl

theorem read_throughMessage : Markdown.read (throughMessage alert).toList = ⟨false, some .code⟩ := by
  rw [throughMessage_toList, Markdown.read_append, read_throughTitle, Markdown.readFrom_append, body,
    Markdown.read_escape rfl]
  rfl

theorem format_wellFormed : WellFormed (format alert).toList := by
  unfold WellFormed
  rw [format_toList, Markdown.read_append, read_throughMessage, Markdown.readFrom_append, key, Markdown.read_escape rfl]
  rfl

def cut (alert : Alert) : List Char := Utf16.takeUnits (maxMessageUtf16 - 1) (format alert).toList

theorem opening_fits : Utf16.length (opening alert ++ ['*']) ≤ maxMessageUtf16 - 1 := by
  have short := opening_length alert
  have mark : Utf16.length ['*'] = 1 := by decide
  simp only [Utf16.length_append, mark, maxMessageUtf16]
  omega

variable {alert} in
theorem cut_entity {front text rest : List Char} {c : Char}
    (whole : (format alert).toList = front ++ (escape text ++ c :: rest))
    (closed : (Markdown.read front).escaped = false) (room : Utf16.length front ≤ maxMessageUtf16 - 1)
    (wide : maxMessageUtf16 - 1 < Utf16.length front + Utf16.length (escape text) + Utf16.units c) :
    (Markdown.read (cut alert)).entity = (Markdown.read front).entity := by
  have kept : cut alert = front ++ Utf16.takeUnits (maxMessageUtf16 - 1 - Utf16.length front) (escape text) := by
    unfold cut
    rw [whole, Utf16.takeUnits_append room, Utf16.takeUnits_of_lt]
    omega
  rw [kept, Markdown.read_append]
  exact Markdown.read_front_escape closed (Utf16.takeUnits_prefix _ _)

theorem cut_in_title (wide : maxMessageUtf16 - 1 < Utf16.length (throughTitle alert).toList) :
    (Markdown.read (cut alert)).entity = some .bold := by
  have whole : (format alert).toList = (opening alert ++ ['*']) ++
      (title alert ++ '*' :: (body alert ++ ['\x60'] ++ (key alert ++ ['\x60']))) := by
    rw [format_toList, throughMessage_toList, throughTitle_toList]
    simp
  have opened := read_opening_bold alert
  rw [throughTitle_toList] at wide
  rw [cut_entity whole (by rw [opened]) (opening_fits alert), opened]
  simp only [Utf16.length_append, Utf16.length_cons, Utf16.length_nil, title] at wide ⊢
  omega

theorem cut_in_body (room : Utf16.length (throughTitle alert).toList ≤ maxMessageUtf16 - 1)
    (wide : maxMessageUtf16 - 1 < Utf16.length (throughMessage alert).toList) :
    (Markdown.read (cut alert)).entity = none := by
  have whole : (format alert).toList = (throughTitle alert).toList ++
      (body alert ++ '\x60' :: (key alert ++ ['\x60'])) := by
    rw [format_toList, throughMessage_toList]
    simp
  have closed := read_throughTitle alert
  rw [throughMessage_toList] at wide
  rw [cut_entity whole (by rw [closed]) room, closed]
  simp only [Utf16.length_append, Utf16.length_cons, Utf16.length_nil, body] at wide ⊢
  omega

theorem cut_in_key (room : Utf16.length (throughMessage alert).toList ≤ maxMessageUtf16 - 1)
    (wide : maxMessageUtf16 < Utf16.length (format alert).toList) :
    (Markdown.read (cut alert)).entity = some .code := by
  have whole : (format alert).toList = (throughMessage alert).toList ++ (key alert ++ '\x60' :: []) :=
    format_toList alert
  have opened := read_throughMessage alert
  rw [format_toList] at wide
  rw [cut_entity whole (by rw [opened]) room, opened]
  simp only [Utf16.length_append, Utf16.length_cons, Utf16.length_nil, key] at wide ⊢
  omega

theorem ellipsis_plain : ¬('…' = '\\' ∨ '…' ∈ Markdown.delimiters) := by decide

theorem buildText_short (short : Utf16.length (format alert).toList ≤ maxMessageUtf16) :
    buildText alert = format alert := if_pos short

theorem cut_filled : 0 < Utf16.length (cut alert) := by
  have front : (format alert).toList = opening alert ++ ['*'] ++
      (title alert ++ ['*'] ++ (body alert ++ ['\x60']) ++ (key alert ++ ['\x60'])) := by
    rw [format_toList, throughMessage_toList, throughTitle_toList]
    simp
  have mark : Utf16.length ['*'] = 1 := by decide
  unfold cut
  rw [front, Utf16.takeUnits_append (opening_fits alert), Utf16.length_append, Utf16.length_append, mark]
  omega

theorem buildText_long (long : ¬ Utf16.length (format alert).toList ≤ maxMessageUtf16) :
    (buildText alert).toList = cut alert ++ ['…'] := by
  have chosen : buildText alert = .ofList (cut alert ++ ['…']) := by
    unfold buildText truncateUtf16
    rw [if_neg long]
    exact if_pos (cut_filled alert)
  rw [chosen, String.toList_ofList]

theorem wellFormed_iff : WellFormed (buildText alert).toList ↔ CutsClear alert := by
  unfold CutsClear
  by_cases short : Utf16.length (format alert).toList ≤ maxMessageUtf16
  · rw [buildText_short alert short]
    exact iff_of_true (format_wellFormed alert) (.inl short)
  · rw [buildText_long alert short, Markdown.wellFormed_append_plain ellipsis_plain]
    by_cases title : maxMessageUtf16 - 1 < Utf16.length (throughTitle alert).toList
    · rw [cut_in_title alert title]
      simp only [short, false_or, reduceCtorEq, false_iff]
      omega
    · by_cases body : maxMessageUtf16 - 1 < Utf16.length (throughMessage alert).toList
      · rw [cut_in_body alert (by omega) body]
        simp only [short, false_or, true_iff]
        omega
      · rw [cut_in_key alert (by omega) (by omega)]
        simp only [short, false_or, reduceCtorEq, false_iff]
        omega

theorem length_buildText_le : Utf16.length (buildText alert).toList ≤ maxMessageUtf16 := by
  by_cases short : Utf16.length (format alert).toList ≤ maxMessageUtf16
  · rw [buildText_short alert short]
    exact short
  · have fits := Utf16.length_takeUnits_le (maxMessageUtf16 - 1) (format alert).toList
    have mark : Utf16.length ['…'] = 1 := by decide
    rw [buildText_long alert short, Utf16.length_append, mark]
    unfold cut maxMessageUtf16 at *
    omega

theorem buildText_eq_format : buildText alert = format alert ∨ (buildText alert).toList = cut alert ++ ['…'] := by
  by_cases short : Utf16.length (format alert).toList ≤ maxMessageUtf16
  · exact .inl (buildText_short alert short)
  · exact .inr (buildText_long alert short)

/-- The delimiters of a text that keep their meaning stand where the sink put them into the message. -/
def OwnMarkup (alert : Alert) (text : String) : Prop :=
  ∀ i, BareAt text.toList i → text.toList[i]? = (format alert).toList[i]? ∧ (fromField alert)[i]? ≠ some true

theorem buildText_ownMarkup : OwnMarkup alert (buildText alert) := by
  intro i bare
  have owns := format_owns alert
  rcases buildText_eq_format alert with whole | front
  · rw [whole] at bare ⊢
    exact ⟨rfl, owns.bare i bare⟩
  · rw [front] at bare ⊢
    obtain ⟨rest, same⟩ : cut alert <+: (format alert).toList := Utf16.takeUnits_prefix _ _
    by_cases inside : i < (cut alert).length
    · have kept : BareAt (format alert).toList i := by
        rw [← same]
        exact Markdown.bareAt_of_front (Markdown.bareAt_append_left inside bare)
      rw [← same, List.getElem?_append_left inside, List.getElem?_append_left inside]
      exact ⟨rfl, owns.bare i kept⟩
    · obtain ⟨⟨c, found, member⟩, -⟩ := bare
      rw [Option.mem_def, List.getElem?_append_right (Nat.le_of_not_lt inside)] at found
      have last : c = '…' := by
        rw [List.getElem?_singleton] at found
        split at found
        · exact (Option.some.inj found).symm
        · cases found
      exact absurd (.inr (last ▸ member)) ellipsis_plain

end Reading

/-- A text that can be sent for an alert. -/
structure Sendable (alert : Alert) (text : String) : Prop where
  short : Utf16.length text.toList ≤ maxMessageUtf16
  wellFormed : WellFormed text.toList
  ownMarkup : OwnMarkup alert text

/-- The text of every alert is short enough and marked up by the sink alone, and it closes what it opens exactly
    where the cut leaves the title and the key whole. -/
theorem buildText_sendable_iff (alert : Alert) :
    (Sendable alert (buildText alert) ↔ CutsClear alert) ∧
      Utf16.length (buildText alert).toList ≤ maxMessageUtf16 ∧ OwnMarkup alert (buildText alert) := by
  refine ⟨?_, length_buildText_le alert, buildText_ownMarkup alert⟩
  constructor
  · intro sendable
    exact (wellFormed_iff alert).mp sendable.wellFormed
  · intro clear
    exact ⟨length_buildText_le alert, (wellFormed_iff alert).mpr clear, buildText_ownMarkup alert⟩

theorem not_cutsClear_of_title {alert : Alert} (wide : maxMessageUtf16 < Utf16.length (throughTitle alert).toList) :
    ¬ CutsClear alert := by
  have longer : Utf16.length (throughTitle alert).toList ≤ Utf16.length (format alert).toList := by
    rw [format_toList, throughMessage_toList]
    simp only [Utf16.length_append]
    omega
  unfold CutsClear
  omega

theorem length_replicate (n : Nat) : Utf16.length (List.replicate n 'a') = n := by
  have unit : Utf16.units 'a' = 1 := by decide
  simp [Utf16.length, unit]

def longTitle : Alert where
  dedupKey := "liquidity|1|node|845x1x0"
  severity := .warning
  title := .ofList (List.replicate 4000 'a')
  message := "m"
  timestamp := 0

/-- The asterisk before a title of four thousand letters is never closed. -/
theorem longTitle_stays_open :
    ¬ WellFormed (buildText longTitle).toList ∧ ¬ Sendable longTitle (buildText longTitle) := by
  have wide : maxMessageUtf16 < Utf16.length (throughTitle longTitle).toList := by
    have letters : title longTitle = List.replicate 4000 'a' := by
      unfold title longTitle
      rw [String.toList_ofList]
      apply Markdown.escape_plain
      intro c member
      rw [List.eq_of_mem_replicate member]
      decide
    have mark : Utf16.length ['*'] = 1 := by decide
    rw [throughTitle_toList, letters, List.append_cons, Utf16.length_append, Utf16.length_append, Utf16.length_append,
      length_replicate, mark]
    unfold maxMessageUtf16
    omega
  have opened : ¬ WellFormed (buildText longTitle).toList := by
    rw [wellFormed_iff]
    exact not_cutsClear_of_title wide
  exact ⟨opened, fun sendable => opened sendable.wellFormed⟩

end TelegramSink

end Rieko
