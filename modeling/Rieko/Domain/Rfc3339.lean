import Rieko.Domain.Time
import Rieko.Lib.Calendar
import Rieko.Lib.TextOrder
import Mathlib.Data.String.Basic

namespace Rieko

open Calendar TextOrder

def fractionText (nanos : Nat) : List Char :=
  if nanos = 0 then []
  else if nanos % 1000000 = 0 then '.' :: padded 3 (nanos / 1000000)
  else if nanos % 1000 = 0 then '.' :: padded 6 (nanos / 1000)
  else '.' :: padded 9 nanos

/-- Four digits; of a year that they do not hold its sign and at least four. -/
def yearText (year : Int) : List Char :=
  if 0 ≤ year ∧ year ≤ 9999 then padded 4 year.toNat
  else (if year < 0 then '-' else '+') :: (Nat.toDigits 10 year.natAbs).leftpad 4 '0'

def dateText (date : Date) (rest : List Char) : List Char :=
  yearText date.year ++ '-' :: (padded 2 date.month ++ '-' :: (padded 2 date.day ++ 'T' :: rest))

def clockText (second : Nat) (rest : List Char) : List Char :=
  padded 2 (second / 3600) ++ ':' :: (padded 2 (second / 60 % 60) ++ ':' :: (padded 2 (second % 60) ++ rest))

namespace DateTime

def secondsPerDay : Int := 86400

def epochDay : Int := 719528

def days (t : DateTime) : Int := t / nanosPerSecond / secondsPerDay

def secondOfDay (t : DateTime) : Nat := (t / nanosPerSecond % secondsPerDay).toNat

def nanosecond (t : DateTime) : Nat := (t % nanosPerSecond).toNat

def date (t : DateTime) : Date := .ofDay (epochDay + t.days)

def text (t : DateTime) : List Char :=
  dateText t.date (clockText t.secondOfDay (fractionText t.nanosecond ++ "+00:00".toList))

def toRfc3339 (t : DateTime) : String := .ofList t.text

example : toRfc3339 951782400500000000 = "2000-02-29T00:00:00.500+00:00" := by decide

def FourDigitYear (t : DateTime) : Prop := 0 ≤ t.date.year ∧ t.date.year ≤ 9999

instance (t : DateTime) : Decidable t.FourDigitYear := inferInstanceAs (Decidable (_ ∧ _))

def firstFourDigit : DateTime := -62167219200 * nanosPerSecond

def lastFourDigit : DateTime := 253402300799 * nanosPerSecond + 999999999

theorem year_nonneg_iff (t : DateTime) : 0 ≤ t.date.year ↔ firstFourDigit ≤ t := by
  have started : 0 ≤ t.date.year ↔ yearStart 0 ≤ epochDay + t.days := le_yearOf_iff 0 _
  rw [started]
  change _ ↔ LE.le (α := Int) firstFourDigit t
  unfold yearStart epochDay days firstFourDigit nanosPerSecond secondsPerDay
  omega

theorem year_le_iff (t : DateTime) : t.date.year ≤ 9999 ↔ t ≤ lastFourDigit := by
  have ended : 10000 ≤ t.date.year ↔ yearStart 10000 ≤ epochDay + t.days := le_yearOf_iff 10000 _
  have notEnded : t.date.year ≤ 9999 ↔ ¬yearStart 10000 ≤ epochDay + t.days := by
    rw [← ended]
    omega
  rw [notEnded]
  change _ ↔ LE.le (α := Int) t lastFourDigit
  unfold yearStart epochDay days lastFourDigit nanosPerSecond secondsPerDay
  omega

theorem fourDigitYear_iff (t : DateTime) : t.FourDigitYear ↔ firstFourDigit ≤ t ∧ t ≤ lastFourDigit :=
  and_congr (year_nonneg_iff t) (year_le_iff t)

end DateTime

section Fields

variable {s t : List Char}

theorem separated_lt {width n m : Nat} {c : Char} (fits : m < 10 ^ width) (less : n < m ∨ n = m ∧ s < t) :
    padded width n ++ c :: s < padded width m ++ c :: t :=
  field_lt fits (less.imp_right fun ⟨same, rest⟩ => ⟨same, cons_lt_of_lt rest⟩)

theorem dateText_lt {a b : Date} (four : 0 ≤ a.year ∧ a.year ≤ 9999) (four' : 0 ≤ b.year ∧ b.year ≤ 9999)
    (bounds : b.month ≤ 12 ∧ b.day ≤ 31) (less : a.Before b ∨ a = b ∧ s < t) : dateText a s < dateText b t := by
  have fields : a.year < b.year ∨ a.year = b.year ∧ (a.month < b.month ∨ a.month = b.month ∧
      (a.day < b.day ∨ a.day = b.day ∧ s < t)) := by
    rcases less with (year | ⟨year, month | ⟨month, day⟩⟩) | ⟨same, rest⟩
    · exact .inl year
    · exact .inr ⟨year, .inl month⟩
    · exact .inr ⟨year, .inr ⟨month, .inl day⟩⟩
    · exact .inr ⟨by rw [same], .inr ⟨by rw [same], .inr ⟨by rw [same], rest⟩⟩⟩
  unfold dateText yearText
  rw [if_pos four, if_pos four']
  refine separated_lt (by omega) ?_
  rcases fields with year | ⟨year, months⟩
  · exact .inl (by omega)
  · refine .inr ⟨by rw [year], separated_lt (by omega) (months.imp_right fun ⟨month, days⟩ => ⟨month, ?_⟩)⟩
    exact separated_lt (by omega) days

theorem clockText_lt {a b : Nat} (within : b < 86400) (less : a < b ∨ a = b ∧ s < t) :
    clockText a s < clockText b t := by
  have fields : a / 3600 < b / 3600 ∨ a / 3600 = b / 3600 ∧ (a / 60 % 60 < b / 60 % 60 ∨
      a / 60 % 60 = b / 60 % 60 ∧ (a % 60 < b % 60 ∨ a % 60 = b % 60 ∧ s < t)) := by
    rcases less with before | ⟨same, rest⟩
    · omega
    · exact .inr ⟨by rw [same], .inr ⟨by rw [same], .inr ⟨by rw [same], rest⟩⟩⟩
  unfold clockText
  refine separated_lt (by omega) (fields.imp_right fun ⟨hour, minutes⟩ => ⟨hour, ?_⟩)
  refine separated_lt (by omega) (minutes.imp_right fun ⟨minute, seconds⟩ => ⟨minute, ?_⟩)
  exact field_lt (by omega) seconds

theorem fractionText_eq {nanos : Nat} (fraction : nanos ≠ 0) (fits : nanos < 10 ^ 9) :
    ∃ digits zeros, fractionText nanos = '.' :: digits ∧ padded 9 nanos = digits ++ List.replicate zeros '0' ∧
      ∀ c ∈ digits, '0' ≤ c ∧ c ≤ '9' := by
  unfold fractionText
  rw [if_neg fraction]
  by_cases millis : nanos % 1000000 = 0
  · have short : nanos / 1000000 < 10 ^ 3 := by omega
    have whole : nanos / 1000000 * 10 ^ 6 = nanos := by omega
    have digits := padded_mul short 6
    rw [whole] at digits
    rw [if_pos millis]
    exact ⟨_, 6, rfl, digits, mem_padded short⟩
  · rw [if_neg millis]
    by_cases micros : nanos % 1000 = 0
    · have short : nanos / 1000 < 10 ^ 6 := by omega
      have whole : nanos / 1000 * 10 ^ 3 = nanos := by omega
      have digits := padded_mul short 3
      rw [whole] at digits
      rw [if_pos micros]
      exact ⟨_, 3, rfl, digits, mem_padded short⟩
    · rw [if_neg micros]
      exact ⟨_, 0, rfl, (List.append_nil _).symm, mem_padded fits⟩

theorem fractionText_lt {n m : Nat} (less : n < m) (fits : m < 10 ^ 9) :
    fractionText n ++ '+' :: s < fractionText m ++ '+' :: t := by
  rcases fractionText_eq (by omega) fits with ⟨digits, zeros, text, full, range⟩
  rw [text]
  by_cases whole : n = 0
  · have empty : fractionText n = [] := if_pos whole
    rw [empty]
    exact List.cons_lt_cons_iff.mpr (.inl (by decide))
  · rcases fractionText_eq whole (less.trans fits) with ⟨digits', zeros', text', full', range'⟩
    rw [text']
    have ordered := padded_lt less fits
    have lengths : digits'.length + zeros' = digits.length + zeros := by
      have long := padded_length 9 m
      have long' := padded_length 9 n
      rw [full, List.length_append, List.length_replicate] at long
      rw [full', List.length_append, List.length_replicate] at long'
      omega
    rw [full, full'] at ordered
    refine cons_lt_of_lt (trimmed_lt lengths (fun c member => (range' c member).1) (fun c member => ?_) ordered)
    exact lt_of_lt_of_le (by decide) (range c member).1

end Fields

namespace DateTime

variable {a b : DateTime}

theorem secondOfDay_lt (t : DateTime) : t.secondOfDay < 86400 := by
  unfold secondOfDay secondsPerDay
  omega

theorem nanosecond_lt (t : DateTime) : t.nanosecond < 10 ^ 9 := by
  unfold nanosecond nanosPerSecond
  omega

theorem fields_lt (less : a < b) : a.days < b.days ∨ a.days = b.days ∧
    (a.secondOfDay < b.secondOfDay ∨ a.secondOfDay = b.secondOfDay ∧ a.nanosecond < b.nanosecond) := by
  have before : LT.lt (α := Int) a b := less
  unfold days secondOfDay nanosecond nanosPerSecond secondsPerDay
  omega

theorem text_lt (four : a.FourDigitYear) (four' : b.FourDigitYear) (less : a < b) : a.text < b.text := by
  refine dateText_lt four four' (Date.ofDay_bounds _) ?_
  rcases fields_lt less with day | ⟨day, clock⟩
  · exact .inl (Date.ofDay_before (Int.add_lt_add_left day _))
  · have sameDate : a.date = b.date := congrArg (fun day => Date.ofDay (epochDay + day)) day
    refine .inr ⟨sameDate, clockText_lt (secondOfDay_lt b) (clock.imp_right fun ⟨second, nanos⟩ => ⟨second, ?_⟩)⟩
    exact fractionText_lt nanos (nanosecond_lt b)

theorem padded_ascii {width n : Nat} (fits : n < 10 ^ width) : (padded width n).all isAscii = true :=
  List.all_eq_true.mpr fun c member => decide_eq_true (Nat.lt_of_le_of_lt (mem_padded fits c member).2 (by decide))

theorem fractionText_ascii {nanos : Nat} (fits : nanos < 10 ^ 9) : (fractionText nanos).all isAscii = true := by
  unfold fractionText
  split
  · rfl
  · split
    · exact padded_ascii (show nanos / 1000000 < 10 ^ 3 by omega)
    · split
      · exact padded_ascii (show nanos / 1000 < 10 ^ 6 by omega)
      · exact padded_ascii fits

theorem text_ascii (four : a.FourDigitYear) : a.text.all isAscii = true := by
  have bounds := Date.ofDay_bounds (epochDay + a.days)
  have clock := secondOfDay_lt a
  have year : (padded 4 a.date.year.toNat).all isAscii = true := by
    have small := four.2
    exact padded_ascii (by omega)
  have month : (padded 2 a.date.month).all isAscii = true := padded_ascii (Nat.lt_of_le_of_lt bounds.1 (by decide))
  have day : (padded 2 a.date.day).all isAscii = true := padded_ascii (Nat.lt_of_le_of_lt bounds.2 (by decide))
  have hour : (padded 2 (a.secondOfDay / 3600)).all isAscii = true := padded_ascii (by omega)
  have minute : (padded 2 (a.secondOfDay / 60 % 60)).all isAscii = true := padded_ascii (by omega)
  have second : (padded 2 (a.secondOfDay % 60)).all isAscii = true := padded_ascii (by omega)
  have fraction := fractionText_ascii (nanosecond_lt a)
  unfold text dateText clockText yearText
  rw [if_pos (show 0 ≤ a.date.year ∧ a.date.year ≤ 9999 from four)]
  simp only [List.all_append, List.all_cons, year, month, day, hour, minute, second, fraction]
  decide

theorem rfc3339_lt (four : a.FourDigitYear) (four' : b.FourDigitYear) (less : a < b) :
    utf8 a.toRfc3339 < utf8 b.toRfc3339 :=
  utf8_lt (text_ascii four) (text_ascii four') (text_lt four four' less)

theorem rfc3339_not_lt (four : a.FourDigitYear) (four' : b.FourDigitYear) (atMost : b ≤ a) :
    ¬utf8 a.toRfc3339 < utf8 b.toRfc3339 := by
  intro less
  rcases atMost.lt_or_eq with before | same
  · exact List.lt_asymm less (rfc3339_lt four' four before)
  · rw [same] at less
    exact List.lt_irrefl _ less

/-- Of instants with years of four digits, the bytes of their texts are ordered as the instants are. -/
theorem rfc3339_order (four : a.FourDigitYear) (four' : b.FourDigitYear) :
    utf8 a.toRfc3339 < utf8 b.toRfc3339 ↔ a < b := by
  constructor
  · intro less
    by_contra atMost
    exact rfc3339_not_lt four four' (not_lt.mp atMost) less
  · exact rfc3339_lt four four'

/-- A whole second against one with a fraction. -/
theorem rfc3339_order_fraction : utf8 (toRfc3339 0) < utf8 (toRfc3339 500000000) ↔ (0 : DateTime) < 500000000 :=
  rfc3339_order (by decide) (by decide)

theorem toRfc3339_lt_of_signed (signed : ¬a.FourDigitYear) (four : b.FourDigitYear) : a.toRfc3339 < b.toRfc3339 := by
  have marked : ∃ sign, a.text = sign :: a.text.tail ∧ sign < '0' := by
    unfold text dateText yearText
    rw [if_neg (show ¬(0 ≤ a.date.year ∧ a.date.year ≤ 9999) from signed)]
    refine ⟨_, rfl, ?_⟩
    split <;> decide
  have first : ∃ digit rest, b.text = digit :: rest ∧ '0' ≤ digit := by
    have small : b.date.year.toNat < 10 ^ 4 := by
      have atMost := four.2
      omega
    unfold text dateText yearText
    rw [if_pos (show 0 ≤ b.date.year ∧ b.date.year ≤ 9999 from four)]
    exact ⟨_, _, rfl, (mem_padded small _ List.mem_cons_self).1⟩
  rcases marked with ⟨sign, opens, below⟩
  rcases first with ⟨digit, rest, begins, least⟩
  rw [String.lt_iff_toList_lt]
  unfold toRfc3339
  rw [String.toList_ofList, String.toList_ofList, opens, begins]
  exact List.cons_lt_cons_iff.mpr (.inl (lt_of_lt_of_le below least))

end DateTime

end Rieko
