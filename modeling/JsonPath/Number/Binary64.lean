/-!
# Binary64 numbers

A binary64 number is a 64-bit word read as IEEE 754 double precision: a sign bit, an
11-bit biased exponent and a 52-bit fraction. Every word is a number, so equality of
words is identity of numbers (`-0.0` and `0.0` are two words, as are NaNs with different
payloads).

A finite number is measured by its *scaled magnitude*, the magnitude times `2^1074`,
which is a natural number: the smallest positive number has scaled magnitude `1`. Its
*scaled value* adds the sign. Comparing numbers is then comparing integers, with no
rational arithmetic (`Extended`).

Rounding (`ofRatio`) takes a ratio of natural numbers to the nearest number, a tie
going to the even significand, and to infinity from `2^1024 - 2^970` on; `ofDecimal`
reads a decimal in scientific form through it.
-/

set_option autoImplicit false

namespace JsonPath

/-- An IEEE 754 double-precision number, by its 64-bit word. -/
structure Binary64 where
  bits : UInt64
deriving DecidableEq, Repr

/-- A finite number, or one of the two infinities, on the scaled axis where a finite
number is its scaled value. -/
inductive Extended where
  | negInf
  | finite (scaled : Int)
  | posInf
deriving DecidableEq, Repr

namespace Extended

/-- Strict order of the extended axis. -/
def lt : Extended → Extended → Bool
  | .negInf, .negInf => false
  | .negInf, _ => true
  | .finite _, .negInf => false
  | .finite a, .finite b => decide (a < b)
  | .finite _, .posInf => true
  | .posInf, _ => false

end Extended

namespace Binary64

/-- The unit of the scaled axis: scaled values count multiples of `2^-1074`. -/
def scale : Nat := Nat.pow 2 1074

/-- Whether the sign bit is set. -/
def sign (x : Binary64) : Bool := x.bits.toNat / Nat.pow 2 63 = 1

/-- The biased exponent field. -/
def bexp (x : Binary64) : Nat := x.bits.toNat / Nat.pow 2 52 % 2048

/-- The fraction field. -/
def frac (x : Binary64) : Nat := x.bits.toNat % Nat.pow 2 52

/-- Not a number: the exponent field is all ones and the fraction is not zero. -/
def isNaN (x : Binary64) : Bool := x.bexp = 2047 && x.frac ≠ 0

/-- An infinity: the exponent field is all ones and the fraction is zero. -/
def isInf (x : Binary64) : Bool := x.bexp = 2047 && x.frac = 0

/-- A finite number: the exponent field is not all ones. -/
def isFinite (x : Binary64) : Bool := x.bexp ≠ 2047

/-- The significand: the fraction, with the hidden bit of a normal number. -/
def significand (x : Binary64) : Nat := if x.bexp = 0 then x.frac else x.frac + Nat.pow 2 52

/-- The unit exponent: a finite number's magnitude is `significand * 2^unitExp` on the
scaled axis. -/
def unitExp (x : Binary64) : Nat := x.bexp - 1

/-- The magnitude of a finite number, times `2^1074`. -/
def scaledMagnitude (x : Binary64) : Nat := x.significand * Nat.pow 2 x.unitExp

/-- The value of a finite number, times `2^1074`. -/
def scaledValue (x : Binary64) : Int :=
  if x.sign then -(x.scaledMagnitude : Int) else x.scaledMagnitude

/-- Where a number that is not NaN lies on the extended axis. -/
def toExtended (x : Binary64) : Extended :=
  if x.isFinite then .finite x.scaledValue
  else if x.sign then .negInf else .posInf

/-- The number with the given sign, biased exponent and fraction fields. -/
def ofFields (neg : Bool) (bexp frac : Nat) : Binary64 :=
  ⟨UInt64.ofNat ((if neg then Nat.pow 2 63 else 0) + bexp % 2048 * Nat.pow 2 52 + frac % Nat.pow 2 52)⟩

/-- Positive or negative zero. -/
def zero (neg : Bool) : Binary64 := ofFields neg 0 0

/-- Positive or negative infinity. -/
def infinity (neg : Bool) : Binary64 := ofFields neg 2047 0

/-- The quiet NaN that reading `nan` produces. -/
def nan : Binary64 := ofFields false 2047 (Nat.pow 2 51)

/-- The number with the given sign, significand `m` and unit exponent `p`, for
`m < 2^53` and `2^52 ≤ m` unless `p = 0`. -/
def make (neg : Bool) (m p : Nat) : Binary64 :=
  if m < Nat.pow 2 52 then ofFields neg 0 m else ofFields neg (p + 1) (m - Nat.pow 2 52)

/-- `n / d` rounded to the nearest integer, a tie going to the even one. -/
def roundHalfEven (n d : Nat) : Nat :=
  let q := n / d
  let r := n % d
  if 2 * r > d then q + 1
  else if 2 * r = d then q + q % 2
  else q

/-- The unit exponent for a scaled magnitude whose integer part is `q`: zero below `2^53`,
and otherwise the one that leaves 53 bits of significand. -/
def unitExpFor (q : Nat) : Nat := if q < Nat.pow 2 53 then 0 else Nat.log2 q - 52

/-- The number nearest to `num / den` with the given sign, a tie going to the even
significand; a magnitude from `2^1024 - 2^970` on becomes infinity. -/
def ofRatio (neg : Bool) (num den : Nat) : Binary64 :=
  let n := num * scale
  let p := unitExpFor (n / den)
  let m := roundHalfEven n (den * Nat.pow 2 p)
  -- rounding up may carry into a 54th bit
  if m = Nat.pow 2 53 then
    if p + 1 > 2045 then infinity neg else make neg (Nat.pow 2 52) (p + 1)
  else if p > 2045 then infinity neg else make neg m p

/-- The number nearest to `digits * 10^exp10` with the given sign. Exponents far outside
the range of finite numbers go straight to zero or infinity. -/
def ofDecimal (neg : Bool) (digits : Nat) (exp10 : Int) : Binary64 :=
  if digits = 0 then zero neg
  else
    let width : Int := (Nat.toDigits 10 digits).length
    if exp10 + width > 310 then infinity neg
    else if exp10 + width < -330 then zero neg
    else if 0 ≤ exp10 then ofRatio neg (digits * Nat.pow 10 exp10.toNat) 1
    else ofRatio neg digits (Nat.pow 10 (-exp10).toNat)

/-- The same number with the sign flipped. -/
def negate (x : Binary64) : Binary64 := ⟨x.bits ^^^ (UInt64.ofNat (Nat.pow 2 63))⟩

end Binary64

end JsonPath
