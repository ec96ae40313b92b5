/-!
# Array slices

A slice `start:end:step` of an array of length `n` selects positions from `start`
towards `end`, `end` excluded, in strides of `step`. The step defaults to one, and a step
of zero selects nothing. A negative bound counts from the end (`n` is added to it). With a
positive step the bounds are clamped into `[0, n]` and default to `0` and `n`; with a
negative step they are clamped into `[-1, n - 1]` and default to `n - 1` and `-1`.
-/

set_option autoImplicit false

namespace JsonPath.Slice

/-- The integers from `first` towards `stop`, `stop` excluded, in strides of `step ≠ 0`. -/
def range (first stop step : Int) : List Int :=
  let count : Int :=
    if step > 0 then (stop - first + step - 1) / step
    else (first - stop + (-step) - 1) / (-step)
  (List.range count.toNat).map fun (i : Nat) => first + (i : Int) * step

/-- A bound counted from the end when negative. -/
def normalize (length bound : Int) : Int := if bound ≥ 0 then bound else length + bound

/-- Clamps a value into `[lo, hi]`. -/
def clamp (lo hi x : Int) : Int := min (max x lo) hi

/-- The positions a slice selects from an array of the given length, in selection order. -/
def indices (length : Int) (start stop step : Option Int) : List Int :=
  let step := step.getD 1
  if step = 0 then []
  else if step > 0 then
    let lower := match start with
      | none => 0
      | some s => clamp 0 length (normalize length s)
    let upper := match stop with
      | none => length
      | some e => clamp 0 length (normalize length e)
    range lower upper step
  else
    let upper := match start with
      | none => length - 1
      | some s => clamp (-1) (length - 1) (normalize length s)
    let lower := match stop with
      | none => -1
      | some e => clamp (-1) (length - 1) (normalize length e)
    range upper lower step

end JsonPath.Slice
