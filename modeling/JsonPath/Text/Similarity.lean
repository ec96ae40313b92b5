/-!
# How alike two names are

Two texts are compared by the characters they have in common in order: the longest common
block is taken first, then the longest blocks on its left and on its right, and so on. The
*ratio* of the two texts is twice the number of characters in those blocks over the number
of characters of both texts; it is one for equal texts and zero for texts with nothing in
common. Where two blocks are equally long, the one that ends first in the first text wins,
then the one that ends first in the second.

`closeMatches` picks, among candidate names, the three whose ratio to a given name is the
greatest, if at least `3/5`, to suggest them in place of a name that was mistyped.
-/

set_option autoImplicit false

namespace JsonPath.Text

section
variable (a b : Array Char)

/-- The lengths of the common runs ending at `(i, j)` in the row of `i`, for `j` from
`blo` to `bhi`, given the lengths in the row above. -/
def runRow (blo bhi i : Nat) (above : Array Nat) : Array Nat :=
  (List.range (bhi - blo)).toArray.map fun d =>
    let j := blo + d
    if a[i]? = b[j]? && a[i]?.isSome then
      (if d = 0 then 0 else above.getD (d - 1) 0) + 1
    else 0

/-- The longest common block of `a[alo:ahi]` and `b[blo:bhi]`, as `(i, j, k)`: it starts at
`i` in `a` and `j` in `b` and has `k` characters. -/
def longestBlock (alo ahi blo bhi : Nat) : Nat × Nat × Nat :=
  let step := fun (acc : Array Nat × (Nat × Nat × Nat)) (i : Nat) =>
    let row := runRow a b blo bhi i acc.1
    let best := (List.range row.size).foldl (fun (best : Nat × Nat × Nat) d =>
      let k := row.getD d 0
      if best.2.2 < k then (i + 1 - k, blo + d + 1 - k, k) else best) acc.2
    (row, best)
  ((List.range (ahi - alo)).map (alo + ·)).foldl step (#[], (alo, blo, 0)) |>.2

/-- The number of characters in the common blocks of `a[alo:ahi]` and `b[blo:bhi]`. -/
def matchedCount : Nat → Nat → Nat → Nat → Nat → Nat
  | 0, _, _, _, _ => 0
  | fuel + 1, alo, ahi, blo, bhi =>
    let (i, j, k) := longestBlock a b alo ahi blo bhi
    if k = 0 then 0
    else
      k + matchedCount fuel alo i blo j + matchedCount fuel (i + k) ahi (j + k) bhi

end

/-- The common characters of two texts, counted by blocks. -/
def commonCount (x y : String) : Nat :=
  let a := x.toList.toArray
  let b := y.toList.toArray
  matchedCount a b (a.size + 1) 0 a.size 0 b.size

/-- The ratio of two texts as a fraction `(2m, n)`: `m` common characters of `n` in all;
equal empty texts are alike. -/
def ratio (x y : String) : Nat × Nat :=
  let n := x.length + y.length
  if n = 0 then (1, 1) else (2 * commonCount x y, n)

/-- Whether one fraction is below another. -/
def fractionLess (p q : Nat × Nat) : Bool := p.1 * q.2 < q.1 * p.2

/-- The candidates most like `word`, at most three of them with a ratio of at least `3/5`,
the most alike first (of equally alike ones, the greater name first). -/
def closeMatches (word : String) (candidates : List String) : List String :=
  let scored := candidates.filterMap fun c =>
    let r := ratio c word
    if 5 * r.1 ≥ 3 * r.2 then some (r, c) else none
  let sorted := scored.mergeSort fun p q =>
    fractionLess q.1 p.1 || (!fractionLess p.1 q.1 && decide (q.2 ≤ p.2))
  (sorted.take 3).map (·.2)

end JsonPath.Text
