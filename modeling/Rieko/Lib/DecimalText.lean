import Rieko.Lib.Binary64

/-! Numbers written in decimal, as the standard parsers read them. -/

namespace DecimalText

def natOf (digits : List Char) : Nat := digits.foldl (fun n digit => 10 * n + (digit.toNat - '0'.toNat)) 0

def isNumeral (text : List Char) : Bool := !text.isEmpty && text.all Char.isDigit

def splitSign : List Char → Bool × List Char
  | '-' :: rest => (true, rest)
  | '+' :: rest => (false, rest)
  | text => (false, text)

def parseU64 (text : String) : Option Nat :=
  let digits := match text.toList with
    | '+' :: rest => rest
    | all => all
  if isNumeral digits ∧ natOf digits < 2^64 then some (natOf digits) else none

def parseI64 (text : String) : Option Int64 :=
  let (negative, digits) := splitSign text.toList
  let n : Int := if negative then -natOf digits else natOf digits
  if isNumeral digits ∧ -2^63 ≤ n ∧ n < 2^63 then some (.ofInt n) else none

def hexDigit (c : Char) : Option Nat :=
  if c.isDigit then some (c.toNat - '0'.toNat)
  else if 'a' ≤ c ∧ c ≤ 'f' then some (c.toNat - 'a'.toNat + 10)
  else if 'A' ≤ c ∧ c ≤ 'F' then some (c.toNat - 'A'.toNat + 10)
  else none

def parseHexU64 (text : List Char) : Option Nat :=
  let digits := match text with
    | '+' :: rest => rest
    | all => all
  match digits.mapM hexDigit with
  | none | some [] => none
  | some digits =>
    let n := digits.foldl (fun n digit => 16 * n + digit) 0
    if n < 2^64 then some n else none

def parseExponent (text : List Char) : Option Int :=
  let (negative, digits) := splitSign text
  if isNumeral digits then some (if negative then -(natOf digits : Int) else natOf digits) else none

def parseDecimal (text : List Char) : Option ℚ :=
  let whole := text.takeWhile Char.isDigit
  let (fraction, rest) := match text.dropWhile Char.isDigit with
    | '.' :: more => (more.takeWhile Char.isDigit, more.dropWhile Char.isDigit)
    | rest => ([], rest)
  let value (exponent : Int) : ℚ := natOf (whole ++ fraction) * (10 : ℚ)^(exponent - fraction.length)
  if whole.isEmpty ∧ fraction.isEmpty then none
  else match rest with
    | [] => some (value 0)
    | mark :: exponent => if mark = 'e' ∨ mark = 'E' then (parseExponent exponent).map value else none

def parseF64 (text : String) : Option Binary64 :=
  let (negative, body) := splitSign text.toList
  match parseDecimal body with
  | some q => some (.pack negative q)
  | none =>
    let word := body.map Char.toLower
    if word = "nan".toList then some .nan
    else if word = "inf".toList ∨ word = "infinity".toList then some (.infinity negative)
    else none

example : parseU64 "+0042" = some 42 := by decide

example : parseHexU64 "fF".toList = some 255 := by decide

example : parseF64 "-2.5e-1" = some (.ofRat (-1/4)) := by decide +kernel

end DecimalText
