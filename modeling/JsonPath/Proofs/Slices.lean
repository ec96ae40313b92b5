import JsonPath.Query.Eval
import Mathlib.Data.List.Basic

/-!
# Slice positions

The positions a slice `start:end:step` selects from an array of length `n` form an integer
range (`Slice.indices_are_clamped_range`). With a positive step they are `lower`,
`lower + step`, … for as long as they stay below `upper`, the bounds counted from the end
when negative and clamped into `[0, n]`, a missing start being `0` and a missing end `n`.
With a negative step they are `upper`, `upper + step`, … for as long as they stay above
`lower`, the bounds clamped into `[-1, n - 1]`, a missing start being `n - 1` and a missing
end `-1`.

`Slice.range` does not step until the bound: it computes the number of entries,
`⌈(stop - first) / step⌉`, and lists that many. `range_getElem?` says the two agree entry
by entry, which is the one place with arithmetic in it. The clamped bounds then keep every
entry inside the array, entries move strictly in the direction of the step, and selecting a
slice from an array finds an element at every position it lists: the `filterMap` of
`Node.selectSlice` drops nothing.
-/

set_option autoImplicit false

namespace JsonPath.Slice

/-! ## Ranges by their length -/

/-- A range across a distance `d` in strides of `s > 0` has one entry per stride that stays
below `d`. -/
theorem lt_count_iff {d s : Int} (hs : 0 < s) (i : Nat) :
    i < ((d + s - 1) / s).toNat ↔ i * s < d := by
  rw [Int.lt_toNat, ← Int.add_one_le_iff, Int.le_ediv_iff_mul_le hs, Int.add_mul, Int.one_mul]
  omega

/-- The count `Slice.range` computes, for either sign of the step, admits the `i`-th entry
exactly when it lies strictly before `stop` in the direction of the step. -/
theorem lt_rangeCount_iff (first stop step : Int) (i : Nat) :
    i < (if step > 0 then (stop - first + step - 1) / step
        else (first - stop + -step - 1) / -step).toNat ↔
      (0 < step ∧ first + i * step < stop) ∨ (step < 0 ∧ stop < first + i * step) := by
  rcases Int.lt_trichotomy step 0 with hneg | rfl | hpos
  · -- walking down is walking up the mirrored range, in strides of `-step`
    rw [if_neg (by omega), lt_count_iff (by omega), Int.mul_neg]
    constructor
    · intro h
      exact .inr ⟨hneg, by omega⟩
    · rintro (⟨h, -⟩ | ⟨-, h⟩) <;> omega
  · simp
  · rw [if_pos hpos, lt_count_iff hpos]
    constructor
    · intro h
      exact .inl ⟨hpos, by omega⟩
    · rintro (⟨-, h⟩ | ⟨h, -⟩) <;> omega

/-- The `i`-th entry of a range is `first + i * step` for as long as that lies strictly
before `stop` in the direction of the step; a step of zero gives no entry at all. -/
theorem range_getElem? (first stop step : Int) (i : Nat) :
    (range first stop step)[i]? =
      if (0 < step ∧ first + i * step < stop) ∨ (step < 0 ∧ stop < first + i * step) then
        some (first + i * step)
      else none := by
  simp only [range, List.getElem?_map]
  by_cases hi : i < (if step > 0 then (stop - first + step - 1) / step
      else (first - stop + -step - 1) / -step).toNat
  · rw [List.getElem?_range hi, if_pos ((lt_rangeCount_iff first stop step i).1 hi)]
    rfl
  · rw [List.getElem?_eq_none (by simpa using hi),
      if_neg (fun h => hi ((lt_rangeCount_iff first stop step i).2 h))]
    rfl

/-- The entries of a range: the points `first + i * step` strictly before `stop`. -/
theorem mem_range_iff {first stop step x : Int} :
    x ∈ range first stop step ↔ ∃ i : Nat, x = first + i * step ∧
      ((0 < step ∧ x < stop) ∨ (step < 0 ∧ stop < x)) := by
  rw [List.mem_iff_getElem?]
  constructor
  · rintro ⟨i, hi⟩
    rw [range_getElem?] at hi
    split_ifs at hi with hc
    cases hi
    exact ⟨i, rfl, hc⟩
  · rintro ⟨i, rfl, hc⟩
    exact ⟨i, by rw [range_getElem?, if_pos hc]⟩

/-- The entries `first + i * step` in the order of `i`. -/
theorem range_eq_map (first stop step : Int) : ∃ c : Nat,
    range first stop step = (List.range c).map fun i : Nat => first + (i : Int) * step :=
  ⟨_, rfl⟩

/-- With a positive step a range climbs. -/
theorem range_pairwise_lt {first stop step : Int} (h : 0 < step) :
    (range first stop step).Pairwise (· < ·) := by
  obtain ⟨c, hc⟩ := range_eq_map first stop step
  rw [hc, List.pairwise_map]
  refine List.pairwise_lt_range.imp fun {a b} hab => ?_
  have : (a : Int) * step < b * step := Int.mul_lt_mul_of_pos_right (by exact_mod_cast hab) h
  omega

/-- With a negative step a range descends. -/
theorem range_pairwise_gt {first stop step : Int} (h : step < 0) :
    (range first stop step).Pairwise (· > ·) := by
  obtain ⟨c, hc⟩ := range_eq_map first stop step
  rw [hc, List.pairwise_map]
  refine List.pairwise_lt_range.imp fun {a b} hab => ?_
  have : (b : Int) * step < a * step := Int.mul_lt_mul_of_neg_right (by exact_mod_cast hab) h
  omega

/-! ## Clamped bounds -/

theorem le_clamp {lo hi : Int} (x : Int) (h : lo ≤ hi) : lo ≤ clamp lo hi x := by
  simp only [clamp]
  omega

theorem clamp_le (lo hi x : Int) : clamp lo hi x ≤ hi := by
  simp only [clamp]
  omega

section Indices

variable (n : Nat) (start stop : Option Int)

/-- The lower bound of a slice with a positive step. -/
theorem indices_of_pos {step : Option Int} (h : 0 < step.getD 1) :
    indices n start stop step =
      range (start.elim (0 : Int) fun b => clamp 0 n (normalize n b))
        (stop.elim n fun b => clamp 0 n (normalize n b)) (step.getD 1) := by
  simp only [indices, if_neg (Int.ne_of_gt h), if_pos h]
  cases start <;> cases stop <;> rfl

/-- The bounds of a slice with a negative step. -/
theorem indices_of_neg {step : Option Int} (h : step.getD 1 < 0) :
    indices n start stop step =
      range (start.elim (n - 1) fun b => clamp (-1) (n - 1) (normalize n b))
        (stop.elim (-1) fun b => clamp (-1) (n - 1) (normalize n b)) (step.getD 1) := by
  simp only [indices, if_neg (Int.ne_of_lt h), if_neg (Int.not_lt.2 (Int.le_of_lt h))]
  cases start <;> cases stop <;> rfl

theorem indices_of_zero {step : Option Int} (h : step.getD 1 = 0) :
    indices n start stop step = [] := by
  simp [indices, h]

/-- Every position a slice lists lies inside the array. -/
theorem mem_indices {step : Option Int} {p : Int} (hp : p ∈ indices n start stop step) :
    0 ≤ p ∧ p < n := by
  rcases Int.lt_trichotomy (step.getD 1) 0 with hneg | hzero | hpos
  · rw [indices_of_neg n start stop hneg, mem_range_iff] at hp
    obtain ⟨i, rfl, ⟨h, -⟩ | ⟨-, hlow⟩⟩ := hp
    · omega
    -- the entries start at the upper bound, at most `n - 1`, and stay above the lower one
    have hup : start.elim ((n : Int) - 1) (fun b => clamp (-1) (n - 1) (normalize n b)) ≤ n - 1 := by
      cases start
      · exact Int.le_refl _
      · exact clamp_le _ _ _
    have hlo : -1 ≤ stop.elim (-1) (fun b => clamp (-1) ((n : Int) - 1) (normalize n b)) := by
      cases stop
      · simp
      · exact le_clamp _ (by omega)
    have : (i : Int) * step.getD 1 ≤ 0 := Int.mul_nonpos_of_nonneg_of_nonpos (by omega) (by omega)
    omega
  · simp [indices_of_zero n start stop hzero] at hp
  · rw [indices_of_pos n start stop hpos, mem_range_iff] at hp
    obtain ⟨i, rfl, ⟨-, hhigh⟩ | ⟨h, -⟩⟩ := hp
    · -- the entries start at the lower bound, at least `0`, and stay below the upper one
      have hlo : 0 ≤ start.elim 0 (fun b => clamp 0 (n : Int) (normalize n b)) := by
        cases start
        · simp
        · exact le_clamp _ (by omega)
      have hup : stop.elim (n : Int) (fun b => clamp 0 (n : Int) (normalize n b)) ≤ n := by
        cases stop
        · exact Int.le_refl _
        · exact clamp_le _ _ _
      have : 0 ≤ (i : Int) * step.getD 1 := Int.mul_nonneg (by omega) (by omega)
      omega
    · omega

/-- Selecting a slice from an array finds an element at every position the slice lists. -/
theorem selectSlice_locations (items : List Value) (loc : Location) (step : Option Int) :
    (Node.selectSlice start stop step ⟨.arr items, loc⟩).map (·.location) =
      (indices items.length start stop step).map fun p => loc ++ [.index p.toNat] := by
  simp only [Node.selectSlice, List.map_filterMap]
  refine List.filterMap_eq_map_iff_forall_eq_some.2 fun p hp => ?_
  obtain ⟨h0, hlt⟩ := mem_indices items.length start stop hp
  rw [List.getElem?_eq_getElem (by omega)]
  rfl

end Indices

/-- The positions of a slice of an array of length `n`, as RFC 9535 defines them. With a
positive step the `i`-th position is `lower + i * step` while it stays below `upper`; with a
negative step it is `upper + i * step` while it stays above `lower`; the bounds are counted
from the end when negative and clamped, into `[0, n]` for a positive step and into
`[-1, n - 1]` for a negative one. Every position lies in the array, positions move strictly
in the direction of the step, and selecting the slice from an array of length `n` meets an
element at every one of them. -/
theorem indices_are_clamped_range (n : Nat) (start stop step : Option Int) :
    (0 < step.getD 1 → ∀ i : Nat,
      (indices n start stop step)[i]? =
        if (start.elim (0 : Int) fun b => min (max (if 0 ≤ b then b else (n : Int) + b) 0) (n : Int)) + i * step.getD 1
            < stop.elim (n : Int) fun b => min (max (if 0 ≤ b then b else (n : Int) + b) 0) (n : Int) then
          some ((start.elim (0 : Int) fun b => min (max (if 0 ≤ b then b else (n : Int) + b) 0) (n : Int)) +
            i * step.getD 1)
        else none) ∧
    (step.getD 1 < 0 → ∀ i : Nat,
      (indices n start stop step)[i]? =
        if (stop.elim (-1 : Int) fun b => min (max (if 0 ≤ b then b else (n : Int) + b) (-1)) ((n : Int) - 1)) <
            (start.elim ((n : Int) - 1) fun b => min (max (if 0 ≤ b then b else (n : Int) + b) (-1)) ((n : Int) - 1)) +
              i * step.getD 1 then
          some ((start.elim ((n : Int) - 1) fun b => min (max (if 0 ≤ b then b else (n : Int) + b) (-1)) ((n : Int) - 1)) +
            i * step.getD 1)
        else none) ∧
    (∀ p ∈ indices n start stop step, 0 ≤ p ∧ p < n) ∧
    (0 < step.getD 1 → (indices n start stop step).Pairwise (· < ·)) ∧
    (step.getD 1 < 0 → (indices n start stop step).Pairwise (· > ·)) ∧
    ∀ (items : List Value) (loc : Location), items.length = n →
      (Node.selectSlice start stop step ⟨.arr items, loc⟩).map (·.location) =
        (indices n start stop step).map fun p => loc ++ [.index p.toNat] := by
  refine ⟨fun hpos i => ?_, fun hneg i => ?_, fun p hp => mem_indices n start stop hp,
    fun hpos => ?_, fun hneg => ?_, fun items loc hlen => ?_⟩
  · rw [indices_of_pos n start stop hpos, range_getElem?]
    simp only [hpos, true_and, Int.not_lt.2 (Int.le_of_lt hpos), false_and, or_false]
    rfl
  · rw [indices_of_neg n start stop hneg, range_getElem?]
    simp only [hneg, true_and, Int.not_lt.2 (Int.le_of_lt hneg), false_and, false_or]
    rfl
  · rw [indices_of_pos n start stop hpos]
    exact range_pairwise_lt hpos
  · rw [indices_of_neg n start stop hneg]
    exact range_pairwise_gt hneg
  · subst hlen
    exact selectSlice_locations start stop items loc step

/-- `[::-2]` of five elements: from the last position down, every second one. -/
example : indices 5 none none (some (-2)) = [4, 2, 0] := by decide

end JsonPath.Slice
