import JsonPath.Number.Binary64

/-!
# Shortest decimal form of a binary64 number

The shortest decimal form of a finite nonzero number `x` is the decimal with the fewest
significant digits that reads back as `x`; of two such decimals the nearer to `x` wins,
and of two equally near the one whose last digit is even.

A decimal reads back as `x` when it lies in the rounding interval of `x`: between the
midpoints to its two neighbours, the midpoints themselves included exactly when the
significand of `x` is even. All tests run on naturals in units of `2^-1075`, half the
smallest positive number, so that the midpoints are whole.

For each count of digits `n` it suffices to test the two neighbours of `x` on the grid
of `n`-digit decimals: if any point of that grid lies in the interval, one of them does.
Seventeen digits always suffice.

`Binary64.toShortestText` lays the digits out as the number's usual text (`Decimal
layout`).
-/

set_option autoImplicit false

namespace JsonPath.Binary64

/-- Twice `2^1074`: the unit of the rounding-interval tests is `2^-1075`. -/
def halfScale : Nat := Nat.pow 2 1075

/-- The number, in units of `2^-1075`. -/
def halfUnits (x : Binary64) : Nat := 2 * x.scaledMagnitude

/-- The upper end of the rounding interval, in units of `2^-1075`. -/
def intervalHigh (x : Binary64) : Nat := (2 * x.significand + 1) * Nat.pow 2 x.unitExp

/-- The lower end of the rounding interval, in units of `2^-1075`. At the bottom of a
binade above the subnormals the neighbour below is twice as close. -/
def intervalLow (x : Binary64) : Nat :=
  if x.significand = Nat.pow 2 52 ∧ x.unitExp > 0 then
    (4 * x.significand - 1) * Nat.pow 2 (x.unitExp - 1)
  else (2 * x.significand - 1) * Nat.pow 2 x.unitExp

/-- `d * 10^j` compared with `b * 2^-1075`. -/
def compareDecimal (d : Nat) (j : Int) (b : Nat) : Ordering :=
  if 0 ≤ j then compare (d * Nat.pow 10 j.toNat * halfScale) b
  else compare (d * halfScale) (b * Nat.pow 10 (-j).toNat)

/-- Whether `d * 10^j` reads back as `x`. -/
def readsBack (x : Binary64) (d : Nat) (j : Int) : Bool :=
  let inclusive := x.significand % 2 = 0
  let aboveLow := match compareDecimal d j x.intervalLow with
    | .gt => true
    | .eq => inclusive
    | .lt => false
  let belowHigh := match compareDecimal d j x.intervalHigh with
    | .lt => true
    | .eq => inclusive
    | .gt => false
  aboveLow && belowHigh

/-- The largest `d` with `d * 10^j ≤ x`. -/
def gridFloor (x : Binary64) (j : Int) : Nat :=
  if 0 ≤ j then x.halfUnits / (halfScale * Nat.pow 10 j.toNat)
  else x.halfUnits * Nat.pow 10 (-j).toNat / halfScale

/-- Whether `d * 10^j` is strictly nearer to `x` than `(d + 1) * 10^j`, or exactly as
near (`.eq`). -/
def compareMidpoint (x : Binary64) (d : Nat) (j : Int) : Ordering :=
  -- `x` against the midpoint `(2d + 1) / 2 * 10^j`
  if 0 ≤ j then compare (2 * x.halfUnits) ((2 * d + 1) * Nat.pow 10 j.toNat * halfScale)
  else compare (2 * x.halfUnits * Nat.pow 10 (-j).toNat) ((2 * d + 1) * halfScale)

/-- The smallest `k` below the fuel with `x * 10^k ≥ 1`, for `0 < x < 1`. -/
def negExponent (x : Binary64) : Nat → Nat → Nat
  | 0, k => k
  | fuel + 1, k => if x.halfUnits * Nat.pow 10 k ≥ halfScale then k else negExponent x fuel (k + 1)

/-- The decimal exponent of the leading digit of a finite nonzero number. -/
def leadingExponent (x : Binary64) : Int :=
  if x.halfUnits ≥ halfScale then (Nat.toDigits 10 (x.halfUnits / halfScale)).length - 1
  else -(negExponent x 400 1 : Int)

/-- The decimal of `n` significant digits that reads back as `x`, if there is one: the
nearer of the two neighbours of `x` on that grid, a tie going to the even digit. -/
def digitsAt (x : Binary64) (n : Nat) : Option (Nat × Int) :=
  let j := x.leadingExponent - n + 1
  let lo := x.gridFloor j
  let hi := lo + 1
  match x.readsBack lo j, x.readsBack hi j with
  | true, true =>
    match x.compareMidpoint lo j with
    | .lt => some (lo, j)
    | .gt => some (hi, j)
    | .eq => some (if lo % 2 = 0 then lo else hi, j)
  | true, false => some (lo, j)
  | false, true => some (hi, j)
  | false, false => none

/-- Drops trailing zero digits, raising the exponent to match. -/
def trimZeros : Nat → Nat × Int → Nat × Int
  | 0, p => p
  | fuel + 1, (d, j) => if d ≠ 0 ∧ d % 10 = 0 then trimZeros fuel (d / 10, j + 1) else (d, j)

/-- The shortest decimal `d * 10^j` that reads back as the finite nonzero number `x`,
with no trailing zero in `d`. -/
def shortestDigits (x : Binary64) : Nat × Int :=
  let found := (List.range' 1 17).findSome? x.digitsAt
  trimZeros 20 (found.getD (x.gridFloor (x.leadingExponent - 16), x.leadingExponent - 16))

end JsonPath.Binary64

namespace JsonPath

/-- How a decimal is laid out as text: positionally when the exponent of its leading
digit lies in a range, otherwise in scientific notation. -/
structure DecimalLayout where
  /-- The least exponent of the leading digit written positionally. -/
  leastPositional : Int
  /-- The greatest exponent of the leading digit written positionally. -/
  greatestPositional : Int
  /-- The least number of digits of an exponent. -/
  exponentWidth : Nat
  /-- Text of the exponent mark. -/
  exponentMark : String
  /-- Whether a positive exponent carries a `+`. -/
  plusSign : Bool
  /-- Whether a whole positional number ends in `.0`. -/
  pointZero : Bool

namespace DecimalLayout

/-- The usual text of a double: positional from `1e-4` up to below `1e16`, with `.0` on
whole numbers; otherwise one leading digit and an exponent with a sign and at least two
digits (`1e+16`, `1.5e-07`). -/
def usual : DecimalLayout := ⟨-4, 15, 2, "e", true, true⟩

/-- The text of `d * 10^j` for `d > 0` without trailing zero digits. -/
def render (layout : DecimalLayout) (d : Nat) (j : Int) : String :=
  let s := Nat.toDigits 10 d
  let len := s.length
  let lead : Int := j + len - 1
  if layout.leastPositional ≤ lead ∧ lead ≤ layout.greatestPositional then
    if lead < 0 then
      "0." ++ String.ofList (List.replicate ((-lead).toNat - 1) '0' ++ s)
    else if len ≤ lead.toNat + 1 then
      String.ofList (s ++ List.replicate (lead.toNat + 1 - len) '0') ++
        (if layout.pointZero then ".0" else "")
    else
      String.ofList (s.take (lead.toNat + 1)) ++ "." ++ String.ofList (s.drop (lead.toNat + 1))
  else
    let mantissa := match s with
      | [] => ""
      | [c] => c.toString
      | c :: rest => c.toString ++ "." ++ String.ofList rest
    let e := Nat.toDigits 10 lead.natAbs
    let e := List.replicate (layout.exponentWidth - e.length) '0' ++ e
    let sign := if lead < 0 then "-" else if layout.plusSign then "+" else ""
    mantissa ++ layout.exponentMark ++ sign ++ String.ofList e

end DecimalLayout

namespace Binary64

/-- The text of a number: the shortest decimal in the usual layout, `0.0` for zero,
`inf` and `nan` for the others, with a leading `-` when the sign bit is set (NaN apart). -/
def toShortestText (x : Binary64) : String :=
  if x.isNaN then "nan"
  else
    let sign := if x.sign then "-" else ""
    if x.isInf then sign ++ "inf"
    else if x.scaledMagnitude = 0 then sign ++ "0.0"
    else
      let (d, j) := x.shortestDigits
      sign ++ DecimalLayout.usual.render d j

end Binary64

end JsonPath
