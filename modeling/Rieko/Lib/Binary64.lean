import Mathlib.Data.Int.Log
import Mathlib.Data.Rat.Floor
import Mathlib.Tactic.NormNum

/-- An IEEE 754 binary64 value, held as its bit pattern. Arithmetic is exact over the rationals and
    rounded once, to nearest with ties to even. -/
structure Binary64 where
  bits : BitVec 64
deriving DecidableEq, Repr

namespace Binary64

def negative (x : Binary64) : Bool := x.bits.msb

def exponent (x : Binary64) : Nat := x.bits.toNat / 2^52 % 2048

def fraction (x : Binary64) : Nat := x.bits.toNat % 2^52

def isNaN (x : Binary64) : Bool := x.exponent = 2047 && x.fraction ≠ 0

def isInfinite (x : Binary64) : Bool := x.exponent = 2047 && x.fraction = 0

def isFinite (x : Binary64) : Bool := x.exponent ≠ 2047

def nan : Binary64 := ⟨BitVec.ofNat 64 (2047 * 2^52 + 2^51)⟩

def signed (negative : Bool) (code : Nat) : Binary64 :=
  ⟨BitVec.ofNat 64 ((if negative then 2^63 else 0) + code)⟩

def infinity (negative : Bool) : Binary64 := signed negative (2047 * 2^52)

def magnitude (x : Binary64) : ℚ :=
  if x.exponent = 0 then x.fraction * (2 : ℚ)^(-1074 : Int)
  else (2^52 + x.fraction : Nat) * (2 : ℚ)^((x.exponent : Int) - 1075)

def toRat (x : Binary64) : ℚ := if x.negative then -x.magnitude else x.magnitude

def roundEven (q : ℚ) : Nat :=
  let whole := ⌊q⌋₊
  let rest := q - whole
  if rest < 1/2 then whole
  else if 1/2 < rest then whole + 1
  else if whole % 2 = 0 then whole else whole + 1

/-- The number nearest to a sign and a non-negative magnitude. Adding the significand to the shifted
    exponent lets a carry of the rounding run into the exponent, up to infinity. -/
def pack (negative : Bool) (q : ℚ) : Binary64 :=
  if q = 0 then signed negative 0
  else
    let scale := max (-1074) (Int.log 2 q - 52)
    let significand := roundEven (q * (2 : ℚ)^(-scale))
    signed negative (min (significand + (scale + 1074).toNat * 2^52) (2047 * 2^52))

def ofRat (q : ℚ) : Binary64 := pack (q < 0) |q|

def ofNat (n : Nat) : Binary64 := pack false n

/-- Position on the number line: both zeros sit at 0 and the infinities at the two ends. -/
def key (x : Binary64) : Int :=
  let code := (x.bits.toNat % 2^63 : Nat)
  if x.negative then -code else code

def lt (x y : Binary64) : Bool := !x.isNaN && !y.isNaN && x.key < y.key

def le (x y : Binary64) : Bool := !x.isNaN && !y.isNaN && x.key ≤ y.key

def beq (x y : Binary64) : Bool := !x.isNaN && !y.isNaN && x.key = y.key

def neg (x : Binary64) : Binary64 := ⟨x.bits ^^^ BitVec.ofNat 64 (2^63)⟩

def abs (x : Binary64) : Binary64 := ⟨x.bits &&& BitVec.ofNat 64 (2^63 - 1)⟩

def add (x y : Binary64) : Binary64 :=
  if x.isNaN || y.isNaN then nan
  else if x.isInfinite then (if y.isInfinite && x.negative ≠ y.negative then nan else x)
  else if y.isInfinite then y
  else
    let sum := x.toRat + y.toRat
    if sum = 0 then signed (x.negative && y.negative) 0 else ofRat sum

def sub (x y : Binary64) : Binary64 := if y.isNaN then nan else add x y.neg

def mul (x y : Binary64) : Binary64 :=
  let negative := x.negative != y.negative
  if x.isNaN || y.isNaN then nan
  else if x.isInfinite then (if y.key = 0 then nan else infinity negative)
  else if y.isInfinite then (if x.key = 0 then nan else infinity negative)
  else pack negative (x.magnitude * y.magnitude)

def div (x y : Binary64) : Binary64 :=
  let negative := x.negative != y.negative
  if x.isNaN || y.isNaN then nan
  else if x.isInfinite then (if y.isInfinite then nan else infinity negative)
  else if y.isInfinite then signed negative 0
  else if y.key = 0 then (if x.key = 0 then nan else infinity negative)
  else pack negative (x.magnitude / y.magnitude)

/-- A NaN operand loses to the other one. -/
def min (x y : Binary64) : Binary64 :=
  if x.isNaN then y else if y.isNaN then x else if y.lt x then y else x

def clamp (x low high : Binary64) : Binary64 :=
  if high.lt (if x.lt low then low else x) then high else if x.lt low then low else x

/-- Nearest integer, halves away from zero. -/
def round (x : Binary64) : Binary64 :=
  if x.isFinite then pack x.negative ⌊x.magnitude + 1/2⌋₊ else x

def trunc (x : Binary64) : Binary64 :=
  if x.isFinite then pack x.negative ⌊x.magnitude⌋₊ else x

def fract (x : Binary64) : Binary64 := sub x x.trunc

/-- Saturating conversion to an unsigned 64-bit integer. -/
def toU64 (x : Binary64) : Nat :=
  if x.isNaN || x.negative then 0
  else if x.isInfinite then 2^64 - 1
  else Nat.min ⌊x.magnitude⌋₊ (2^64 - 1)

/-- Decimal text with a fixed number of fractional digits, as the `{:.n}` formatter prints it. -/
def toFixed (digits : Nat) (x : Binary64) : String :=
  let sign := if x.negative then "-" else ""
  if x.isNaN then "NaN"
  else if x.isInfinite then sign ++ "inf"
  else
    let scaled := roundEven (x.magnitude * 10^digits)
    let fractional := toString (scaled % 10^digits)
    let padding := String.ofList (List.replicate (digits - fractional.length) '0')
    let whole := sign ++ toString (scaled / 10^digits)
    if digits = 0 then whole else whole ++ "." ++ padding ++ fractional

example : ofRat (1/10) = ⟨0x3FB999999999999A⟩ := by decide +kernel

example : (div (ofNat 2) (ofNat 3)).toFixed 4 = "0.6667" := by decide +kernel

end Binary64
