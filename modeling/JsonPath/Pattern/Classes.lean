import JsonPath.Pattern.Basic
import JsonPath.Text.Decimal
import JsonPath.Text.Alphanumeric
import JsonPath.Text.Space
import JsonPath.Text.CaseFold

/-!
# Character tests of patterns

The leaves of a pattern test one character of the text. The classes `\d`, `\s` and `\w` are
the decimal digits, the white space and the alphanumeric characters with `_` of Unicode, or
their ASCII parts when the pattern asks for ASCII classes.

Up to case, a literal that has a case compares the lower-case forms, where Unicode casing
also lets the few lower-case letters that share an upper-case form stand for each other
(`s` and `ſ`). A bracketed set compared up to case first lowers the character, if any
member of the set has a case, and then looks it up among the lower-case forms of the
members. Members beyond the first 65536 code points are not lowered: a single character
there is compared as written, and a range that reaches there also takes a character whose
upper-case form falls in it.
-/

set_option autoImplicit false

namespace JsonPath.Pattern

open JsonPath.Text

/-- Whether a character belongs to a class; `ascii` keeps the class to ASCII. -/
def Category.holds (ascii : Bool) (cat : Category) (c : Char) : Bool :=
  match cat with
  | .digit => if ascii then '0' ≤ c && c ≤ '9' else isDecimal c
  | .space => if ascii then " \t\n\r\x0b\x0c".toList.contains c else isSpace c
  | .word => c = '_' || (isAlphanumeric c && (!ascii || c.toNat < 128))

/-- The character of a code point, when it is one. -/
def charOf? (n : Nat) : Option Char :=
  if (Char.ofNat n).toNat = n then some (Char.ofNat n) else none

/-- The lower-case form of a code point under a casing. -/
def lowerCode (casing : Casing) (n : Nat) : Nat :=
  match casing with
  | .exact => n
  | .ascii => if 65 ≤ n ∧ n ≤ 90 then n + 32 else n
  | .unicode => match charOf? n with
    | some c => (toLower c).toNat
    | none => n

/-- The upper-case form of a code point. -/
def upperCode (n : Nat) : Nat :=
  match charOf? n with
  | some c => (toUpper c).toNat
  | none => n

/-- Whether a code point has a case under a casing. -/
def isCasedCode (casing : Casing) (n : Nat) : Bool :=
  match casing with
  | .exact => false
  | .ascii => (65 ≤ n && n ≤ 90) || (97 ≤ n && n ≤ 122)
  | .unicode => match charOf? n with
    | some c => isCased c
    | none => false

/-- The lower-case forms equal up to case to the lower-case form `n`, itself first. -/
def foldCodes (casing : Casing) (n : Nat) : List Nat :=
  match casing with
  | .unicode => match charOf? n with
    | some c => (foldClass c).map Char.toNat
    | none => [n]
  | _ => [n]

/-- Whether a literal `code` takes the character `c`. -/
def literalHolds (casing : Casing) (code : Nat) (c : Char) : Bool :=
  if isCasedCode casing code then
    (foldCodes casing (lowerCode casing code)).contains (lowerCode casing c.toNat)
  else c.toNat = code

/-- Whether some code point between `lo` and `hi` has a case. -/
def rangeCased (casing : Casing) (lo hi : Nat) : Bool :=
  match casing with
  | .exact => false
  | .ascii => (lo ≤ 90 && 65 ≤ hi) || (lo ≤ 122 && 97 ≤ hi)
  | .unicode => (lowerRuns ++ upperRuns).any (·.meets lo hi)

/-- The first code point beyond the ones a set lowers. -/
def lowered : Nat := 0x10000

/-- Whether a member makes a set compare by lower-case forms. -/
def Member.cased (casing : Casing) : Member → Bool
  | .char m => lowered ≤ m || isCasedCode casing m
  | .range lo hi => lowered ≤ hi || rangeCased casing lo hi
  | .category _ _ => false

/-- Whether some code point between `lo` and `hi` has the lower-case form `z`. -/
def lowersTo (casing : Casing) (lo hi z : Nat) : Bool :=
  let inside (n : Nat) := lo ≤ n && n ≤ hi
  (inside z && lowerCode casing z = z) ||
  match casing with
  | .exact => false
  | .ascii => 97 ≤ z && z ≤ 122 && inside (z - 32)
  | .unicode => match charOf? z with
    | some c => (lowerPreimages c).any fun y => inside y.toNat
    | none => false

/-- Whether a member takes `x`, the character looked up (lowered when the set compares by
lower-case forms). -/
def Member.holdsFolded (casing : Casing) (ascii : Bool) (x : Nat) : Member → Bool
  | .char m =>
    if lowered ≤ m then x = m else (foldCodes casing (lowerCode casing m)).contains x
  | .range lo hi =>
    let low := lo ≤ min hi (lowered - 1) &&
      (foldCodes casing x).any (lowersTo casing lo (min hi (lowered - 1)))
    let high := lowered ≤ hi && ((lo ≤ x && x ≤ hi) ||
      (lo ≤ upperCode x && upperCode x ≤ hi))
    low || high
  | .category cat negated => match charOf? x with
    | some c => cat.holds ascii c != negated
    | none => false

/-- Whether a member takes a character, compared exactly. -/
def Member.holds (ascii : Bool) (c : Char) : Member → Bool
  | .char m => c.toNat = m
  | .range lo hi => lo ≤ c.toNat && c.toNat ≤ hi
  | .category cat negated => cat.holds ascii c != negated

/-- Whether a bracketed set takes a character. -/
def setHolds (negated : Bool) (members : List Member) (casing : Casing) (ascii : Bool)
    (c : Char) : Bool :=
  let inside := match casing with
    | .exact => members.any (·.holds ascii c)
    | _ =>
      let x := if members.any (·.cased casing) then lowerCode casing c.toNat else c.toNat
      members.any (·.holdsFolded casing ascii x)
  inside != negated

/-- Whether two characters are equal under a casing, as a back reference compares them. -/
def sameUnder (casing : Casing) (a b : Char) : Bool :=
  lowerCode casing a.toNat = lowerCode casing b.toNat

/-- Whether a character is a word character, for `\b` and `\B`. -/
def isWordChar (ascii : Bool) (c : Char) : Bool := Category.holds ascii .word c

end JsonPath.Pattern
