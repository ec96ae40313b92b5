import JsonPath.Number.Shortest

/-!
# Numbers

A number of a document is an integer of any size or a binary64 number. Both are one kind:
they compare as the mathematical values they denote, so `1 = 1.0`, `-0.0 = 0` and
`9007199254740993 ≠ 9007199254740992.0`. A NaN is unequal to every number, itself
included, and unordered.
-/

set_option autoImplicit false

namespace JsonPath

/-- A number: an integer of any size, or a binary64 number. -/
inductive Number where
  | int (n : Int)
  | float (x : Binary64)
deriving DecidableEq, Repr

namespace Number

/-- Where a number lies on the extended scaled axis; `none` for a NaN. -/
def toExtended? : Number → Option Extended
  | .int n => some (.finite (n * Binary64.scale))
  | .float x => if x.isNaN then none else some x.toExtended

/-- Numbers are equal when they denote the same value; a NaN equals nothing. -/
def same (a b : Number) : Bool :=
  match a.toExtended?, b.toExtended? with
  | some x, some y => x == y
  | _, _ => false

/-- Numbers are ordered by the values they denote; a NaN is unordered. -/
def lt (a b : Number) : Bool :=
  match a.toExtended?, b.toExtended? with
  | some x, some y => x.lt y
  | _, _ => false

/-- Whether a number is finite: every integer is. -/
def isFinite : Number → Bool
  | .int _ => true
  | .float x => x.isFinite

/-- The text of a number: an integer in decimal, a binary64 number in its shortest form. -/
def toText : Number → String
  | .int n => toString n
  | .float x => x.toShortestText

end Number

end JsonPath
