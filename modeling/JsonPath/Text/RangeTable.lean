/-!
# Tables of code point ranges

A range table lists disjoint ranges `(first, last)` of code points in increasing order.
Membership is found by halving the table.
-/

set_option autoImplicit false

namespace JsonPath.Text

/-- Whether one of the ranges between positions `lo` and `hi` of a sorted table of disjoint
ranges holds `n`. -/
def rangesHold (t : Array (Nat × Nat)) (n lo hi : Nat) : Bool :=
  if lo < hi then
    let mid := (lo + hi) / 2
    match t[mid]? with
    | some (a, b) =>
      if n < a then rangesHold t n lo mid
      else if b < n then rangesHold t n (mid + 1) hi
      else true
    | none => false
  else false
termination_by hi - lo

/-- Whether a sorted table of disjoint ranges holds a code point. -/
def inRanges (t : Array (Nat × Nat)) (n : Nat) : Bool := rangesHold t n 0 t.size

end JsonPath.Text
