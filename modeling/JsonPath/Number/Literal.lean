import JsonPath.Number.Basic

/-!
# Number literals

A number literal is an optional minus, then `0` or ASCII digits not starting with `0`, an
optional fraction `.ddd` and an optional exponent `e±ddd` (either case of `e`). Written
without fraction and exponent it is an integer; otherwise it is the binary64 number nearest
to its value. A fraction or an exponent without digits is not part of the literal, which
then ends before its `.` or `e`.

The conversion of a text to an integer refuses one of more than `maxIntDigits` digits, with an
error of its own (`tooManyDigitsMessage`) that names no place in the text.
-/

set_option autoImplicit false

namespace JsonPath.Number

/-- Splits off the leading ASCII digits. -/
def digitsPrefix (cs : List Char) : List Char × List Char :=
  (cs.takeWhile Char.isDigit, cs.dropWhile Char.isDigit)

/-- The natural number written by decimal digits. -/
def digitsValue (ds : List Char) : Nat :=
  ds.foldl (fun n d => 10 * n + (d.toNat - '0'.toNat)) 0

/-- A number read from its parts: sign, integer digits, fraction digits and exponent.
Without fraction and exponent it is an integer, otherwise the nearest binary64 number. -/
def numberOfParts (neg : Bool) (whole : List Char) (fraction : Option (List Char))
    (exponent : Option Int) : Number :=
  match fraction, exponent with
  | none, none =>
    let n : Int := digitsValue whole
    .int (if neg then -n else n)
  | _, _ =>
    let fr := fraction.getD []
    .float (Binary64.ofDecimal neg (digitsValue (whole ++ fr)) (exponent.getD 0 - fr.length))

/-- The optional fraction `.ddd` after the integer digits. -/
def fractionPart (cs : List Char) : Option (List Char) × List Char :=
  match cs with
  | '.' :: d :: rest =>
    if d.isDigit then
      let (ds, after) := digitsPrefix rest
      (some (d :: ds), after)
    else (none, cs)
  | _ => (none, cs)

/-- The optional exponent `e±ddd`; without digits after it, the `e` is not part of the
number. -/
def exponentPart (cs : List Char) : Option Int × List Char :=
  match cs with
  | e :: rest =>
    if e = 'e' ∨ e = 'E' then
      let (neg, body) := match rest with
        | '-' :: b => (true, b)
        | '+' :: b => (false, b)
        | b => (false, b)
      let (ds, after) := digitsPrefix body
      if ds.isEmpty then (none, cs)
      else
        let n : Int := digitsValue ds
        (some (if neg then -n else n), after)
    else (none, cs)
  | [] => (none, cs)

/-- The number at the front of the input, and the rest: an optional minus, then `0` or
digits not starting with `0`, an optional fraction and an optional exponent. -/
def scan? (cs : List Char) : Option (Number × List Char) :=
  let (neg, body) := match cs with
    | '-' :: b => (true, b)
    | b => (false, b)
  let whole := match body with
    | '0' :: rest => some (['0'], rest)
    | d :: rest => if d.isDigit then some (digitsPrefix (d :: rest)) else none
    | [] => none
  whole.map fun (ds, rest) =>
    let (fraction, rest) := fractionPart rest
    let (exponent, rest) := exponentPart rest
    (numberOfParts neg ds fraction exponent, rest)

end JsonPath.Number

namespace JsonPath.Syntax

/-- The most decimal digits an integer literal may have: the conversion of a longer text to
an integer is refused. -/
def maxIntDigits : Nat := 4300

/-- The number of decimal digits of an integer. An integer literal has no leading zero, so
these are the digits of its text. -/
def intDigits (i : Int) : Nat := (Nat.toDigits 10 i.natAbs).length

/-- The conversion's refusal of an integer text of this many digits. -/
def tooManyDigitsMessage (digits : Nat) : String :=
  s!"Exceeds the limit ({maxIntDigits} digits) for integer string conversion: value has {digits} digits; use sys.set_int_max_str_digits() to increase the limit"

/-- The conversion's refusal of an integer of more than `maxIntDigits` digits to text. -/
def tooManyDigitsToTextMessage : String :=
  s!"Exceeds the limit ({maxIntDigits} digits) for integer string conversion; use sys.set_int_max_str_digits() to increase the limit"

end JsonPath.Syntax
