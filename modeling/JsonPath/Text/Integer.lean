import JsonPath.Text.Decimal
import JsonPath.Text.Space

/-!
# Integers written as text

An integer written as text in a base may have blanks around it and a sign; in base 16 its
digits may follow a `0x` or `0X` prefix and one underscore. Its digits are ASCII digits and
letters (`a` or `A` standing for ten, up to `z` for thirty-five) of a value below the base,
and decimal digits of any script, with single underscores between them. This is how an
integer typed by a person is read: `' 42 '`, `+1_000` and `٤٢` are integers in base 10,
`1__0` and `_1` are not, and `0x_1f` and `DC٠٠` are integers in base 16.

Before the digits are read, every character beyond ASCII that is a decimal digit becomes the
ASCII digit of its value and every one that is white space becomes a space; the blanks around
the integer are then the ASCII ones (space, tab, line feed, vertical tab, form feed and
carriage return).
-/

set_option autoImplicit false

namespace JsonPath.Text

/-- The value of an ASCII digit or letter as a digit: `0` to `9`, then `a` or `A` for ten up
to `z` or `Z` for thirty-five. -/
def digitValue? (c : Char) : Option Nat :=
  if '0' ≤ c ∧ c ≤ '9' then some (c.toNat - '0'.toNat)
  else if 'a' ≤ c ∧ c ≤ 'z' then some (c.toNat - 'a'.toNat + 10)
  else if 'A' ≤ c ∧ c ≤ 'Z' then some (c.toNat - 'A'.toNat + 10)
  else none

/-- Digits in `base` separated by single underscores, as a number. -/
def underscoredValue (base : Nat) : List Char → Option Nat
  | [] => none
  | cs =>
    let parts := cs.splitOn '_'
    if parts.any List.isEmpty then none
    else (cs.filter (· ≠ '_')).foldlM (fun acc c =>
      match digitValue? c with
      | some d => if d < base then some (acc * base + d) else none
      | none => none) 0

/-- A character as the reading of an integer sees it: beyond ASCII, a decimal digit is the
ASCII digit of its value and white space is a space. -/
def asciiDigitForm (c : Char) : Char :=
  if c.toNat < 0x7f then c
  else if isSpace c then ' '
  else match decimalValue? c with
    | some d => Char.ofNat ('0'.toNat + d)
    | none => c

/-- The ASCII blanks around an integer. -/
def isAsciiBlank (c : Char) : Bool :=
  c = ' ' || c = '\t' || c = '\n' || c = '\x0b' || c = '\x0c' || c = '\r'

/-- The digits of an integer in base 16 after an optional `0x` or `0X` prefix and the one
underscore that may follow it. -/
def dropHexPrefix : List Char → List Char
  | '0' :: 'x' :: '_' :: ds => ds
  | '0' :: 'x' :: ds => ds
  | '0' :: 'X' :: '_' :: ds => ds
  | '0' :: 'X' :: ds => ds
  | ds => ds

/-- The unsigned integer of `ds` in `base`. -/
def unsignedIn? (base : Nat) (ds : List Char) : Option Nat :=
  underscoredValue base (if base = 16 then dropHexPrefix ds else ds)

/-- The integer a text spells in `base`: optional blanks around it, an optional sign, in base
16 an optional prefix, and digits separated by single underscores. -/
def integerIn? (base : Nat) (s : String) : Option Int :=
  let cs := s.toList.map asciiDigitForm
  let trimmed := ((cs.dropWhile isAsciiBlank).reverse.dropWhile isAsciiBlank).reverse
  match trimmed with
  | '-' :: ds => (unsignedIn? base ds).map fun n => -(n : Int)
  | '+' :: ds => (unsignedIn? base ds).map fun n => (n : Int)
  | ds => (unsignedIn? base ds).map fun n => (n : Int)

/-- The integer a text spells in decimal. -/
def integerOf? (s : String) : Option Int := integerIn? 10 s

end JsonPath.Text
