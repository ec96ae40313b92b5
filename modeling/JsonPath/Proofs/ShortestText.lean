import JsonPath.Proofs.Rounding
import JsonPath.Proofs.LiteralText

/-!
# The shortest text of a number reads back as the number

`Binary64.toShortestText` writes a finite number as the shortest decimal that reads back as
it, laid out in the usual way. Reading that text as a number literal gives the number back
(`scan?_toShortestText`), for every finite number, zeros of both signs included.

The digits: `shortestDigits` tries one count of digits after the other, and its test
`readsBack` is membership in the rounding interval (`readsBack_iff`), so whatever it finds
reads back (`shortestDigits_inRounding`). It always finds something: at seventeen digits
the grid of decimals is fine enough that the nearer neighbour of the number on the grid lies
in the interval (`digitsAt_seventeen_ne_none`). Dropping trailing zeros keeps the value.

The text: each layout, `0.00ddd`, `ddd00.0`, `dd.ddd`, `de±xx` and `d.ddde±xx`, is a number
literal whose value is the decimal's (`ReadsAsDecimal`, one lemma per layout), and the usual text
picks one of them (`scan?_render`). Any decimal in the rounding interval
reads as the number (`ofDecimal_eq_of_inRounding`), so the literal does.
-/

set_option autoImplicit false

namespace JsonPath.Binary64

/-! ## Comparing decimals on the rational axis -/

/-- Two comparisons agree when their strict orders and their equalities do. -/
theorem compare_eq_of_iff {α β : Type} [LinearOrder α] [LinearOrder β] {a b : α} {c d : β}
    (hlt : a < b ↔ c < d) (heq : a = b ↔ c = d) : compare a b = compare c d := by
  rcases lt_trichotomy a b with h | h | h
  · rw [compare_lt_iff_lt.2 h, compare_lt_iff_lt.2 (hlt.1 h)]
  · rw [compare_eq_iff_eq.2 h, compare_eq_iff_eq.2 (heq.1 h)]
  · have hcd : ¬ c < d := fun h' => absurd (hlt.2 h') (not_lt.2 h.le)
    have hne : c ≠ d := fun h' => absurd (heq.2 h') (ne_of_gt h)
    rw [compare_gt_iff_gt.2 h, compare_gt_iff_gt.2 (lt_of_le_of_ne (not_lt.1 hcd) (Ne.symm hne))]

theorem compareDecimal_eq (d : Nat) (j : Int) (b : Nat) :
    compareDecimal d j b = compare (decimalHalfUnits d j) (b : ℚ) := by
  unfold compareDecimal decimalHalfUnits
  generalize halfScale = S
  split_ifs with hj
  · obtain ⟨k, rfl⟩ := Int.eq_ofNat_of_zero_le hj
    simp only [Int.toNat_natCast, zpow_natCast, Nat.pow_eq]
    apply compare_eq_of_iff <;> norm_cast
  · obtain ⟨k, hk⟩ := Int.exists_eq_neg_ofNat (by omega : j ≤ 0)
    subst hk
    have hk : (0 : ℚ) < 10 ^ k := by positivity
    simp only [neg_neg, Int.toNat_natCast, zpow_neg, zpow_natCast, Nat.pow_eq]
    rw [mul_assoc, inv_mul_eq_div, ← mul_div_assoc]
    apply compare_eq_of_iff
    · rw [div_lt_iff₀ hk]
      norm_cast
    · rw [div_eq_iff hk.ne']
      norm_cast

variable {x : Binary64}

/-- The test of `shortestDigits` is membership in the rounding interval. -/
theorem readsBack_iff {d : Nat} {j : Int} :
    x.readsBack d j = true ↔ x.InRounding (decimalHalfUnits d j) := by
  unfold readsBack InRounding
  rw [compareDecimal_eq, compareDecimal_eq]
  -- each comparison is one of three orderings
  rcases hcl : compare (decimalHalfUnits d j) (x.intervalLow : ℚ) <;>
  rcases hch : compare (decimalHalfUnits d j) (x.intervalHigh : ℚ) <;>
  simp only [compare_lt_iff_lt, compare_eq_iff_eq, compare_gt_iff_gt] at hcl hch <;>
  simp only [Bool.and_eq_true, decide_eq_true_eq, Bool.false_eq_true] <;>
  grind


/-! ## Where the number lies -/

theorem decimalHalfUnits_add (a b : Nat) (j : Int) :
    decimalHalfUnits (a + b) j = decimalHalfUnits a j + decimalHalfUnits b j := by
  unfold decimalHalfUnits
  push_cast
  ring

/-- The number of units below a finite nonzero number: the gap to the lower end of its
interval is more than its `10^-16`-th part. -/
theorem gap_below (hpos : 0 < x.significand) :
    (x.scaledMagnitude : ℚ) / 10 ^ 16 < x.halfUnits - x.intervalLow := by
  have hs := x.significand_lt
  have hU : (0 : ℚ) < 2 ^ x.unitExp := by positivity
  unfold halfUnits scaledMagnitude
  rw [intervalLow_eq]
  simp only [Nat.pow_eq]
  split_ifs with hbot
  · -- the bottom of a binade: the gap is half a unit of the exponent
    obtain ⟨hs52, hu⟩ := hbot
    have hT : (2 : ℚ) ^ x.unitExp = 2 * 2 ^ (x.unitExp - 1) := by
      rw [← pow_succ', Nat.sub_add_cancel hu]
    push_cast [Nat.cast_sub (by omega : 1 ≤ 4 * x.significand)]
    rw [hs52, hT]
    have : (0 : ℚ) < 2 ^ (x.unitExp - 1) := by positivity
    push_cast
    nlinarith
  · -- elsewhere the gap is a whole unit of the exponent
    have hs' : (x.significand : ℚ) < 2 ^ 53 := by exact_mod_cast hs
    push_cast [Nat.cast_sub (by omega : 1 ≤ 2 * x.significand)]
    nlinarith

theorem gap_above (x : Binary64) :
    (x.scaledMagnitude : ℚ) / 10 ^ 16 < x.intervalHigh - x.halfUnits := by
  have hs' : (x.significand : ℚ) < 2 ^ 53 := by exact_mod_cast x.significand_lt
  have hU : (0 : ℚ) < 2 ^ x.unitExp := by positivity
  unfold halfUnits scaledMagnitude
  rw [intervalHigh_eq]
  simp only [Nat.pow_eq]
  push_cast
  nlinarith

theorem negExponent_spec (fuel k : Nat) :
    halfScale ≤ x.halfUnits * 10 ^ (x.negExponent fuel k) ∨ x.negExponent fuel k = k + fuel := by
  induction fuel generalizing k with
  | zero => exact Or.inr rfl
  | succ fuel ih =>
    unfold negExponent
    split_ifs with h
    · rw [Nat.pow_eq] at h
      exact Or.inl h
    · rcases ih (k + 1) with h' | h'
      · exact Or.inl h'
      · exact Or.inr (by omega)

/-- The decimal exponent of the leading digit is not above the number. -/
theorem leadingExponent_le (hM : 0 < x.scaledMagnitude) :
    (10 : ℚ) ^ x.leadingExponent * halfScale ≤ x.halfUnits := by
  have hS : 0 < halfScale := by decide +kernel
  have hS401 : halfScale ≤ 2 * 10 ^ (1 + 400) := by decide +kernel
  have hH : 2 ≤ x.halfUnits := by unfold halfUnits; omega
  have hneg := negExponent_spec (x := x) 400 1
  unfold leadingExponent
  generalize halfScale = S at *
  split_ifs with h
  · -- at least one: the digits of the integer part
    obtain ⟨h1, -⟩ := toDigits_length_bounds (x.halfUnits / S) (Nat.div_pos h hS)
    generalize (Nat.toDigits 10 (x.halfUnits / S)).length = w at h1
    have hle : 10 ^ (w - 1) * S ≤ x.halfUnits :=
      (Nat.mul_le_mul_right S h1).trans (Nat.div_mul_le_self _ _)
    have hw : ((w : Int) - 1) = ((w - 1 : Nat) : Int) ∨ w = 0 := by omega
    rcases hw with hw | rfl
    · rw [hw, zpow_natCast]
      exact_mod_cast hle
    · simp only [Nat.zero_sub, pow_zero, Nat.one_mul] at hle
      simp only [Nat.cast_zero, zero_sub, zpow_neg, zpow_one]
      have : (S : ℚ) ≤ x.halfUnits := by exact_mod_cast hle
      have : (0 : ℚ) ≤ S := by positivity
      linarith
  · -- below one: the first power of ten that lifts it to one, or `10^-401`
    have hk : S ≤ x.halfUnits * 10 ^ (x.negExponent 400 1) := by
      rcases hneg with h' | h'
      · exact h'
      · rw [h']
        calc S ≤ 2 * 10 ^ (1 + 400) := hS401
          _ ≤ x.halfUnits * 10 ^ (1 + 400) := Nat.mul_le_mul_right _ hH
    rw [zpow_neg, zpow_natCast, inv_mul_le_iff₀ (by positivity)]
    exact_mod_cast (by rwa [Nat.mul_comm] at hk)

/-- `gridFloor x j` is the number of steps `10^j` that fit below the number. -/
theorem gridFloor_spec (j : Int) :
    decimalHalfUnits (x.gridFloor j) j ≤ x.halfUnits ∧
      (x.halfUnits : ℚ) < decimalHalfUnits (x.gridFloor j + 1) j := by
  have hS : 0 < halfScale := by decide +kernel
  unfold gridFloor decimalHalfUnits
  generalize halfScale = S at *
  split_ifs with hj
  · obtain ⟨k, rfl⟩ := Int.eq_ofNat_of_zero_le hj
    simp only [Int.toNat_natCast, Nat.pow_eq, zpow_natCast]
    have hD : 0 < S * 10 ^ k := by positivity
    have h1 := Nat.div_mul_le_self x.halfUnits (S * 10 ^ k)
    have h2 := Nat.lt_div_mul_add (a := x.halfUnits) hD
    constructor
    · calc ((x.halfUnits / (S * 10 ^ k) : Nat) : ℚ) * 10 ^ k * S
          = ((x.halfUnits / (S * 10 ^ k) * (S * 10 ^ k) : Nat) : ℚ) := by push_cast; ring
        _ ≤ x.halfUnits := by exact_mod_cast h1
    · calc (x.halfUnits : ℚ) < ((x.halfUnits / (S * 10 ^ k) * (S * 10 ^ k) + S * 10 ^ k : Nat) : ℚ) :=
            by exact_mod_cast h2
        _ = ((x.halfUnits / (S * 10 ^ k) + 1 : Nat) : ℚ) * 10 ^ k * S := by push_cast; ring
  · obtain ⟨k, hk⟩ := Int.exists_eq_neg_ofNat (by omega : j ≤ 0)
    subst hk
    simp only [neg_neg, Int.toNat_natCast, Nat.pow_eq, zpow_neg, zpow_natCast]
    have hk : (0 : ℚ) < 10 ^ k := by positivity
    have h1 := Nat.div_mul_le_self (x.halfUnits * 10 ^ k) S
    have h2 := Nat.lt_div_mul_add (a := x.halfUnits * 10 ^ k) hS
    constructor
    · rw [mul_comm _ (10 ^ k)⁻¹, mul_assoc, inv_mul_le_iff₀ hk]
      calc ((x.halfUnits * 10 ^ k / S : Nat) : ℚ) * S = ((x.halfUnits * 10 ^ k / S * S : Nat) : ℚ) := by
            push_cast; ring
        _ ≤ ((x.halfUnits * 10 ^ k : Nat) : ℚ) := by exact_mod_cast h1
        _ = 10 ^ k * x.halfUnits := by push_cast; ring
    · rw [mul_comm _ (10 ^ k)⁻¹, mul_assoc, lt_inv_mul_iff₀ hk]
      calc 10 ^ k * (x.halfUnits : ℚ) = ((x.halfUnits * 10 ^ k : Nat) : ℚ) := by push_cast; ring
        _ < ((x.halfUnits * 10 ^ k / S * S + S : Nat) : ℚ) := by exact_mod_cast h2
        _ = ((x.halfUnits * 10 ^ k / S + 1 : Nat) : ℚ) * S := by push_cast; ring


/-! ## Seventeen digits suffice -/

/-- Whatever `digitsAt` returns reads back. -/
theorem digitsAt_readsBack {n d : Nat} {j : Int} (h : x.digitsAt n = some (d, j)) :
    x.readsBack d j = true := by
  unfold digitsAt at h
  dsimp only at h
  generalize x.leadingExponent - n + 1 = k at h
  generalize x.gridFloor k = lo at h
  generalize hl : x.readsBack lo k = a at h
  generalize hh : x.readsBack (lo + 1) k = b at h
  -- `h` names the decimal returned; it is one of the neighbours that read back
  cases a <;> cases b <;> dsimp only at h
  · exact absurd h (by simp)
  · simp only [Option.some.injEq, Prod.mk.injEq] at h
    obtain ⟨rfl, rfl⟩ := h
    exact hh
  · simp only [Option.some.injEq, Prod.mk.injEq] at h
    obtain ⟨rfl, rfl⟩ := h
    exact hl
  · split at h
    · simp only [Option.some.injEq, Prod.mk.injEq] at h
      obtain ⟨rfl, rfl⟩ := h
      exact hl
    · simp only [Option.some.injEq, Prod.mk.injEq] at h
      obtain ⟨rfl, rfl⟩ := h
      exact hh
    · simp only [Option.some.injEq, Prod.mk.injEq] at h
      obtain ⟨rfl, rfl⟩ := h
      split_ifs
      · exact hl
      · exact hh

/-- `digitsAt` finds nothing only when neither neighbour on the grid reads back. -/
theorem readsBack_of_digitsAt_eq_none {n : Nat} (h : x.digitsAt n = none) :
    x.readsBack (x.gridFloor (x.leadingExponent - n + 1)) (x.leadingExponent - n + 1) = false ∧
      x.readsBack (x.gridFloor (x.leadingExponent - n + 1) + 1)
        (x.leadingExponent - n + 1) = false := by
  unfold digitsAt at h
  dsimp only at h
  generalize x.leadingExponent - n + 1 = k at h ⊢
  generalize x.gridFloor k = lo at h ⊢
  generalize x.readsBack lo k = a at h ⊢
  generalize x.readsBack (lo + 1) k = b at h ⊢
  cases a <;> cases b <;> dsimp only at h
  · exact ⟨rfl, rfl⟩
  all_goals first
    | exact absurd h (by simp)
    | (split at h <;> (try split_ifs at h) <;> exact absurd h (by simp))

/-- Seventeen digits down from the leading one, the grid step fits `10^16` times into the
number. -/
theorem seventeen_step_le (hM : 0 < x.scaledMagnitude) :
    (10 : ℚ) ^ 16 * decimalHalfUnits 1 (x.leadingExponent - ((17 : Nat) : Int) + 1) ≤
      x.halfUnits := by
  have hlead := leadingExponent_le hM
  generalize x.leadingExponent = L at *
  have hten : (10 : ℚ) ^ 16 * 10 ^ (L - ((17 : Nat) : Int) + 1) = 10 ^ L := by
    rw [← zpow_natCast, ← zpow_add₀ (by norm_num)]
    congr 1
    omega
  unfold decimalHalfUnits
  generalize halfScale = S at *
  rw [Nat.cast_one, one_mul, ← mul_assoc, hten]
  exact hlead

/-- At seventeen digits one of the two neighbours of a finite nonzero number on the grid
reads back: the grid step is below twice the gaps from the number to the ends of its
interval, so the nearer neighbour lies inside. -/
theorem digitsAt_seventeen_ne_none (hM : 0 < x.scaledMagnitude) : x.digitsAt 17 ≠ none := by
  have hpos : 0 < x.significand := by
    unfold scaledMagnitude at hM
    exact Nat.pos_of_mul_pos_right hM
  have hstep := seventeen_step_le hM
  intro hnone
  obtain ⟨hlo, hhi⟩ := readsBack_of_digitsAt_eq_none hnone
  generalize x.leadingExponent - ((17 : Nat) : Int) + 1 = j at hlo hhi hstep
  obtain ⟨hfl, hfl'⟩ := gridFloor_spec (x := x) j
  rw [decimalHalfUnits_add] at hfl'
  generalize x.gridFloor j = lo at hfl hfl' hlo hhi
  have hb := gap_below hpos
  have ha := gap_above x
  have hH : (x.halfUnits : ℚ) = 2 * x.scaledMagnitude := by unfold halfUnits; push_cast; ring
  have hM0 : (0 : ℚ) ≤ x.scaledMagnitude := Nat.cast_nonneg _
  rcases le_or_gt (2 * (x.halfUnits : ℚ)) (2 * decimalHalfUnits lo j + decimalHalfUnits 1 j)
    with hnear | hfar
  · -- the lower neighbour is within half a step
    have : x.readsBack lo j = true :=
      readsBack_iff.2 ⟨Or.inl (by linarith), Or.inl (by linarith)⟩
    rw [hlo] at this
    exact Bool.false_ne_true this
  · -- the upper neighbour is within half a step
    have : x.readsBack (lo + 1) j = true := by
      refine readsBack_iff.2 ⟨Or.inl ?_, Or.inl ?_⟩ <;> rw [decimalHalfUnits_add] <;> linarith
    rw [hhi] at this
    exact Bool.false_ne_true this

/-- Dropping trailing zeros keeps a positive decimal positive and keeps its value. -/
theorem trimZeros_spec (fuel d : Nat) (j : Int) (hd : 0 < d) :
    0 < (trimZeros fuel (d, j)).1 ∧
      decimalHalfUnits (trimZeros fuel (d, j)).1 (trimZeros fuel (d, j)).2 =
        decimalHalfUnits d j := by
  induction fuel generalizing d j with
  | zero => exact ⟨hd, rfl⟩
  | succ fuel ih =>
    unfold trimZeros
    split_ifs with h
    · obtain ⟨h1, h2⟩ := ih (d / 10) (j + 1) (by omega)
      refine ⟨h1, h2.trans ?_⟩
      have hd10 : (d : ℚ) = ((d / 10 : Nat) : ℚ) * 10 := by
        exact_mod_cast (Nat.div_mul_cancel (Nat.dvd_of_mod_eq_zero h.2)).symm
      unfold decimalHalfUnits
      rw [hd10, zpow_add_one₀ (by norm_num)]
      ring
    · exact ⟨hd, rfl⟩

/-- The shortest digits of a finite nonzero number are a positive decimal in its rounding
interval. -/
theorem shortestDigits_inRounding (hM : 0 < x.scaledMagnitude) :
    0 < x.shortestDigits.1 ∧
      x.InRounding (decimalHalfUnits x.shortestDigits.1 x.shortestDigits.2) := by
  have hpos : 0 < x.significand := by
    unfold scaledMagnitude at hM
    exact Nat.pos_of_mul_pos_right hM
  -- the search finds a decimal: at the latest with seventeen digits
  have hfound : ∃ p, (List.range' 1 17).findSome? x.digitsAt = some p := by
    rcases h : (List.range' 1 17).findSome? x.digitsAt with _ | p
    · rw [List.findSome?_eq_none_iff] at h
      exact absurd (h 17 (by simp)) (digitsAt_seventeen_ne_none hM)
    · exact ⟨p, rfl⟩
  obtain ⟨⟨d, j⟩, hp⟩ := hfound
  obtain ⟨n, -, hn⟩ := List.exists_of_findSome?_eq_some hp
  have hin : x.InRounding (decimalHalfUnits d j) := readsBack_iff.1 (digitsAt_readsBack hn)
  have hd : 0 < d := by
    rcases Nat.eq_zero_or_pos d with rfl | hd
    · have := one_le_of_inRounding hpos hin
      simp only [decimalHalfUnits, Nat.cast_zero, zero_mul] at this
      linarith
    · exact hd
  unfold shortestDigits
  dsimp only
  rw [hp, Option.getD_some]
  obtain ⟨h1, h2⟩ := trimZeros_spec 20 d j hd
  exact ⟨h1, h2 ▸ hin⟩

end JsonPath.Binary64

namespace JsonPath.Number

open Binary64

/-! ## Reading the parts of a number literal -/

theorem digitsValue_foldl (l : List Char) (n : Nat) :
    l.foldl (fun n d => 10 * n + (d.toNat - '0'.toNat)) n =
      n * 10 ^ l.length + digitsValue l := by
  induction l generalizing n with
  | nil => simp [digitsValue]
  | cons c l ih =>
    simp only [List.foldl_cons, digitsValue, List.length_cons] at ih ⊢
    rw [ih, ih (10 * 0 + _)]
    ring

/-- The digits before a tail count ten to the length of the tail. -/
theorem digitsValue_append (a b : List Char) :
    digitsValue (a ++ b) = digitsValue a * 10 ^ b.length + digitsValue b := by
  unfold digitsValue
  rw [List.foldl_append, digitsValue_foldl]
  rfl

theorem digitsValue_zeros (k : Nat) : digitsValue (List.replicate k '0') = 0 := by
  induction k with
  | zero => rfl
  | succ k ih =>
    rw [List.replicate_succ', digitsValue_append, ih]
    rfl

theorem digitsValue_toDigits (n : Nat) : digitsValue (Nat.toDigits 10 n) = n :=
  Nat.ofDigitChars_ten_toDigits

theorem isDigit_of_mem_zeros {k : Nat} : ∀ c ∈ List.replicate k '0', c.isDigit = true := by
  intro c hc
  rw [List.eq_of_mem_replicate hc]
  rfl

theorem isDigit_of_mem_zeros_append {k : Nat} {cs : List Char}
    (hcs : ∀ c ∈ cs, c.isDigit = true) : ∀ c ∈ List.replicate k '0' ++ cs, c.isDigit = true := by
  intro c hc
  rcases List.mem_append.1 hc with h | h
  · exact isDigit_of_mem_zeros c h
  · exact hcs c h

theorem head_not_digit {c : Char} (hc : c.isDigit = false) (cs : List Char) :
    ∀ d ∈ (c :: cs).head?, d.isDigit = false := by
  intro d hd
  rw [Option.mem_def, List.head?_cons, Option.some.injEq] at hd
  rwa [← hd]

/-- A number literal read from its integer digits: `0`, or digits not starting with `0`. -/
theorem scan?_parts (neg : Bool) (w tail : List Char)
    (hw : w = ['0'] ∨ ∃ c cs, w = c :: cs ∧ c ≠ '0') (hdig : ∀ c ∈ w, c.isDigit = true)
    (ht : ∀ c ∈ tail.head?, c.isDigit = false) :
    scan? ((if neg then ['-'] else []) ++ (w ++ tail)) =
      some (numberOfParts neg w (fractionPart tail).1 (exponentPart (fractionPart tail).2).1,
        (exponentPart (fractionPart tail).2).2) := by
  rcases hw with rfl | ⟨c, cs, rfl, hc⟩
  · cases neg <;> rfl
  · have hcd : c.isDigit = true := hdig c (List.mem_cons_self ..)
    have hpre := digitsPrefix_digits (c :: cs) tail hdig ht
    rw [List.cons_append] at hpre
    have hminus : c ≠ '-' := by rintro rfl; simp at hcd
    cases neg <;> simp [scan?, hcd, hminus, hpre]

theorem fractionPart_point (f tail : List Char) (hf : f ≠ []) (hd : ∀ c ∈ f, c.isDigit = true)
    (ht : ∀ c ∈ tail.head?, c.isDigit = false) :
    fractionPart ('.' :: (f ++ tail)) = (some f, tail) := by
  obtain ⟨c, cs, rfl⟩ := List.exists_cons_of_ne_nil hf
  have hc : c.isDigit = true := hd c (List.mem_cons_self ..)
  have hpre := digitsPrefix_digits cs tail (fun c h => hd c (List.mem_cons_of_mem _ h)) ht
  simp [fractionPart, hc, hpre]

theorem fractionPart_mark (cs : List Char) : fractionPart ('e' :: cs) = (none, 'e' :: cs) := by
  simp [fractionPart]

theorem exponentPart_mark (neg : Bool) (ds tail : List Char) (hds : ds ≠ [])
    (hd : ∀ c ∈ ds, c.isDigit = true) (ht : ∀ c ∈ tail.head?, c.isDigit = false) :
    exponentPart ('e' :: (if neg then '-' else '+') :: (ds ++ tail)) =
      (some (if neg then -(digitsValue ds : Int) else digitsValue ds), tail) := by
  have hpre := digitsPrefix_digits ds tail hd ht
  have hne : ds.isEmpty = false := List.isEmpty_eq_false_iff.2 hds
  cases neg <;> simp [exponentPart, hpre, hne]

/-- The exponent of the usual layout: a mark, a sign, and at least two digits. -/
theorem exponentPart_usual (L : Int) (rest : List Char) (hr : ∀ c ∈ rest.head?, c.isDigit = false) :
    exponentPart ('e' :: (if L < 0 then '-' else '+') ::
      (List.replicate (2 - (Nat.toDigits 10 L.natAbs).length) '0' ++ Nat.toDigits 10 L.natAbs ++
        rest)) = (some L, rest) := by
  have hds : List.replicate (2 - (Nat.toDigits 10 L.natAbs).length) '0' ++
      Nat.toDigits 10 L.natAbs ≠ [] := by simp [Nat.toDigits_ne_nil]
  have hv : digitsValue (List.replicate (2 - (Nat.toDigits 10 L.natAbs).length) '0' ++
      Nat.toDigits 10 L.natAbs) = L.natAbs := by
    rw [digitsValue_append, digitsValue_zeros, digitsValue_toDigits, zero_mul, zero_add]
  have key := exponentPart_mark (decide (L < 0)) _ rest hds
    (isDigit_of_mem_zeros_append (isDigit_of_mem_toDigits _)) hr
  rw [hv] at key
  by_cases hL : L < 0
  · simp only [hL, decide_true, if_true] at key ⊢
    rw [key]
    congr
    omega
  · simp only [hL, decide_false, if_false, Bool.false_eq_true] at key ⊢
    rw [key]
    congr
    omega

section Literals

variable (neg : Bool) (w : List Char) (hw : w = ['0'] ∨ ∃ c cs, w = c :: cs ∧ c ≠ '0')
  (hwd : ∀ c ∈ w, c.isDigit = true)
include hw hwd

/-- Digits, a point and digits: `w.f`. -/
theorem scan?_point {f : List Char} (hf : f ≠ []) (hfd : ∀ c ∈ f, c.isDigit = true)
    {rest : List Char} (hr : ∀ c ∈ rest.head?, Stops c) :
    scan? ((if neg then ['-'] else []) ++ (w ++ ('.' :: (f ++ rest)))) =
      some (.float (Binary64.ofDecimal neg (digitsValue (w ++ f)) (-(f.length : Int))), rest) := by
  rw [scan?_parts neg w _ hw hwd (head_not_digit rfl _),
    fractionPart_point f rest hf hfd (fun c h => (hr c h).1), exponentPart_of_stops rest hr]
  simp [numberOfParts]

/-- Digits and an exponent: `we±xx`. -/
theorem scan?_exponent {t rest : List Char} {L : Int}
    (hexp : exponentPart ('e' :: t) = (some L, rest)) :
    scan? ((if neg then ['-'] else []) ++ (w ++ ('e' :: t))) =
      some (.float (Binary64.ofDecimal neg (digitsValue w) L), rest) := by
  rw [scan?_parts neg w _ hw hwd (head_not_digit rfl _), fractionPart_mark, hexp]
  simp [numberOfParts]

/-- Digits, a point, digits and an exponent: `w.fe±xx`. -/
theorem scan?_point_exponent {f : List Char} (hf : f ≠ []) (hfd : ∀ c ∈ f, c.isDigit = true)
    {t rest : List Char} {L : Int} (hexp : exponentPart ('e' :: t) = (some L, rest)) :
    scan? ((if neg then ['-'] else []) ++ (w ++ ('.' :: (f ++ ('e' :: t))))) =
      some (.float (Binary64.ofDecimal neg (digitsValue (w ++ f)) (L - f.length)), rest) := by
  rw [scan?_parts neg w _ hw hwd (head_not_digit rfl _),
    fractionPart_point f _ hf hfd (head_not_digit rfl _), hexp]
  simp [numberOfParts]

end Literals

/-! ## Reading the text of a decimal -/

/-- After an optional minus sign, `text` followed by `rest` reads as a number literal whose
decimal value is `d * 10^j`, and leaves `rest`. -/
def ReadsAsDecimal (neg : Bool) (text : List Char) (d : Nat) (j : Int) (rest : List Char) :
    Prop :=
  ∃ D E, 0 < D ∧ decimalHalfUnits D E = decimalHalfUnits d j ∧
    scan? ((if neg then ['-'] else []) ++ (text ++ rest)) =
      some (.float (Binary64.ofDecimal neg D E), rest)

/-- A literal read with the decimal's own digits and exponent. -/
theorem ReadsAsDecimal.of_scan? {neg : Bool} {text rest : List Char} {d : Nat} {j : Int}
    (hd : 0 < d) (h : scan? ((if neg then ['-'] else []) ++ (text ++ rest)) =
      some (.float (Binary64.ofDecimal neg d j), rest)) :
    ReadsAsDecimal neg text d j rest :=
  ⟨d, j, hd, rfl, h⟩

/-! Each layout of the usual text, for the digits `c :: tl` of `d` and the exponent `L` of the
leading digit. -/

section Layouts

variable (neg : Bool) {d : Nat} {c : Char} {tl rest : List Char} {j L : Int}

/-- `0.00ddd`: no integer digits, the digits after zeros in the fraction. -/
theorem readsAsDecimal_leadingZeros (hd : 0 < d) (hdig : ∀ ch ∈ c :: tl, ch.isDigit = true)
    (hval : digitsValue (c :: tl) = d) (hr : ∀ ch ∈ rest.head?, Stops ch)
    (hL : j + ((c :: tl).length : Int) - 1 = L) (hneg : L < 0) :
    ReadsAsDecimal neg
      ("0." ++ String.ofList (List.replicate ((-L).toNat - 1) '0' ++ c :: tl)).toList d j rest := by
  have htext : ("0." ++ String.ofList (List.replicate ((-L).toNat - 1) '0' ++ c :: tl)).toList
      ++ rest = ['0'] ++ ('.' :: ((List.replicate ((-L).toNat - 1) '0' ++ c :: tl) ++ rest)) := by
    simp [String.toList_append]
  unfold ReadsAsDecimal
  rw [htext, scan?_point neg ['0'] (Or.inl rfl) (fun ch h => by rw [List.mem_singleton.1 h]; rfl)
    (by simp) (isDigit_of_mem_zeros_append hdig) hr]
  refine ⟨_, _, ?_, ?_, rfl⟩
  · rw [digitsValue_append, digitsValue_append, digitsValue_zeros, hval]
    omega
  · rw [digitsValue_append, digitsValue_append, digitsValue_zeros, hval,
      show digitsValue ['0'] = 0 from rfl]
    congr 1
    · simp
    · simp only [List.length_append, List.length_replicate, List.length_cons] at hL ⊢
      omega

/-- `ddd00.0`: the digits, zeros up to the point, and a zero fraction. -/
theorem readsAsDecimal_trailingZeros (hd : 0 < d) (hc : c ≠ '0')
    (hdig : ∀ ch ∈ c :: tl, ch.isDigit = true) (hval : digitsValue (c :: tl) = d)
    (hr : ∀ ch ∈ rest.head?, Stops ch) (hL : j + ((c :: tl).length : Int) - 1 = L)
    (hneg : ¬ L < 0) (hwhole : (c :: tl).length ≤ L.toNat + 1) :
    ReadsAsDecimal neg
      (String.ofList (c :: tl ++ List.replicate (L.toNat + 1 - (c :: tl).length) '0') ++
        ".0").toList d j rest := by
  have htext : (String.ofList (c :: tl ++ List.replicate (L.toNat + 1 - (c :: tl).length) '0')
      ++ ".0").toList ++ rest = (c :: tl ++ List.replicate (L.toNat + 1 - (c :: tl).length) '0')
        ++ ('.' :: (['0'] ++ rest)) := by
    simp [String.toList_append]
  unfold ReadsAsDecimal
  rw [htext, scan?_point neg (c :: tl ++ List.replicate (L.toNat + 1 - (c :: tl).length) '0')
    (Or.inr ⟨c, _, rfl, hc⟩)
    (fun ch h => (List.mem_append.1 h).elim (hdig ch) (isDigit_of_mem_zeros ch)) (by simp)
    (fun ch h => by rw [List.mem_singleton.1 h]; rfl) hr]
  have hj : j = ((L.toNat + 1 - (c :: tl).length : Nat) : Int) := by
    simp only [List.length_cons] at hL hwhole ⊢
    omega
  refine ⟨_, _, ?_, ?_, rfl⟩
  · rw [digitsValue_append, digitsValue_append, digitsValue_zeros, hval]
    have : 0 < 10 ^ (L.toNat + 1 - (c :: tl).length) := by positivity
    have : digitsValue ['0'] = 0 := rfl
    simp only [List.length_singleton, pow_one, List.length_replicate]
    nlinarith
  · rw [digitsValue_append, digitsValue_append, digitsValue_zeros, hval,
      show digitsValue ['0'] = 0 from rfl, hj]
    generalize L.toNat + 1 - (c :: tl).length = z
    unfold decimalHalfUnits
    simp only [List.length_singleton, List.length_replicate, Nat.cast_one, zpow_neg_one,
      zpow_natCast]
    push_cast
    ring

/-- `dd.ddd`: the point inside the digits. -/
theorem readsAsDecimal_innerPoint (hd : 0 < d) (hc : c ≠ '0')
    (hdig : ∀ ch ∈ c :: tl, ch.isDigit = true) (hval : digitsValue (c :: tl) = d)
    (hr : ∀ ch ∈ rest.head?, Stops ch) (hL : j + ((c :: tl).length : Int) - 1 = L)
    (hneg : ¬ L < 0) (hinner : ¬ (c :: tl).length ≤ L.toNat + 1) :
    ReadsAsDecimal neg (String.ofList (List.take (L.toNat + 1) (c :: tl)) ++ "." ++
      String.ofList (List.drop (L.toNat + 1) (c :: tl))).toList d j rest := by
  have hlen : L.toNat < tl.length := by
    simp only [List.length_cons] at hinner
    omega
  have htext : (String.ofList (List.take (L.toNat + 1) (c :: tl)) ++ "." ++
      String.ofList (List.drop (L.toNat + 1) (c :: tl))).toList ++ rest =
        (c :: tl.take L.toNat) ++ ('.' :: (tl.drop L.toNat ++ rest)) := by
    simp [String.toList_append]
  apply ReadsAsDecimal.of_scan? hd
  rw [htext, scan?_point neg (c :: tl.take L.toNat) (Or.inr ⟨c, _, rfl, hc⟩)
    (fun ch h => hdig ch (List.mem_cons.2 ((List.mem_cons.1 h).imp id List.mem_of_mem_take)))
    (by simp [hlen]) (fun ch h => hdig ch (List.mem_cons_of_mem _ (List.mem_of_mem_drop h)))
    hr, List.cons_append, List.take_append_drop, hval]
  congr
  simp only [List.length_cons, List.length_drop] at hL ⊢
  omega

/-- `de±xx`: one digit and an exponent. -/
theorem readsAsDecimal_exponent (hd : 0 < d) (hc : c ≠ '0') (hcd : c.isDigit = true)
    (hval : digitsValue [c] = d) (hr : ∀ ch ∈ rest.head?, Stops ch) (hL : j = L) :
    ReadsAsDecimal neg (c.toString ++ "e" ++ (if L < 0 then "-" else "+") ++
      String.ofList (List.replicate (2 - (Nat.toDigits 10 L.natAbs).length) '0' ++
        Nat.toDigits 10 L.natAbs)).toList d j rest := by
  have htext : (c.toString ++ "e" ++ (if L < 0 then "-" else "+") ++
      String.ofList (List.replicate (2 - (Nat.toDigits 10 L.natAbs).length) '0' ++
        Nat.toDigits 10 L.natAbs)).toList ++ rest =
      [c] ++ ('e' :: (if L < 0 then '-' else '+') ::
        (List.replicate (2 - (Nat.toDigits 10 L.natAbs).length) '0' ++
          Nat.toDigits 10 L.natAbs ++ rest)) := by
    by_cases hL0 : L < 0 <;> simp [hL0, String.toList_append]
  apply ReadsAsDecimal.of_scan? hd
  rw [htext, scan?_exponent neg [c] (Or.inr ⟨c, [], rfl, hc⟩)
    (fun ch h => by rw [List.mem_singleton.1 h]; exact hcd)
    (exponentPart_usual L rest fun ch h => (hr ch h).1), hval, hL]

/-- `d.ddde±xx`: one digit before the point, the others after it, and an exponent. -/
theorem readsAsDecimal_pointExponent (hd : 0 < d) (hc : c ≠ '0')
    (hdig : ∀ ch ∈ c :: tl, ch.isDigit = true) (htl : tl ≠ []) (hval : digitsValue (c :: tl) = d)
    (hr : ∀ ch ∈ rest.head?, Stops ch) (hL : j + ((c :: tl).length : Int) - 1 = L) :
    ReadsAsDecimal neg (c.toString ++ "." ++ String.ofList tl ++ "e" ++
      (if L < 0 then "-" else "+") ++
      String.ofList (List.replicate (2 - (Nat.toDigits 10 L.natAbs).length) '0' ++
        Nat.toDigits 10 L.natAbs)).toList d j rest := by
  have htext : (c.toString ++ "." ++ String.ofList tl ++ "e" ++
      (if L < 0 then "-" else "+") ++
      String.ofList (List.replicate (2 - (Nat.toDigits 10 L.natAbs).length) '0' ++
        Nat.toDigits 10 L.natAbs)).toList ++ rest =
      [c] ++ ('.' :: (tl ++ ('e' :: (if L < 0 then '-' else '+') ::
        (List.replicate (2 - (Nat.toDigits 10 L.natAbs).length) '0' ++
          Nat.toDigits 10 L.natAbs ++ rest)))) := by
    by_cases hL0 : L < 0 <;> simp [hL0, String.toList_append]
  apply ReadsAsDecimal.of_scan? hd
  rw [htext, scan?_point_exponent neg [c] (Or.inr ⟨c, [], rfl, hc⟩)
      (fun ch h => by rw [List.mem_singleton.1 h]; exact hdig c (List.mem_cons_self ..)) htl
      (fun ch h => hdig ch (List.mem_cons_of_mem _ h))
      (exponentPart_usual L rest fun ch h => (hr ch h).1),
    List.singleton_append, hval]
  congr
  simp only [List.length_cons] at hL ⊢
  omega

end Layouts

/-- The usual text of a positive decimal reads as a decimal of the same value. -/
theorem scan?_render (neg : Bool) {d : Nat} (hd : 0 < d) (j : Int) (rest : List Char)
    (hr : ∀ c ∈ rest.head?, Stops c) :
    ReadsAsDecimal neg (DecimalLayout.usual.render d j).toList d j rest := by
  obtain ⟨c, tl, hs, hc⟩ := toDigits_head_ne_zero d hd
  have hdig : ∀ ch ∈ Nat.toDigits 10 d, ch.isDigit = true := isDigit_of_mem_toDigits d
  have hval := digitsValue_toDigits d
  unfold DecimalLayout.render DecimalLayout.usual
  dsimp only
  generalize Nat.toDigits 10 d = s at *
  subst hs
  generalize hL : j + ((c :: tl).length : Int) - 1 = L
  -- the positional layouts by the place of the point, then the scientific one
  by_cases hpos : -4 ≤ L ∧ L ≤ 15
  · rw [if_pos hpos]
    by_cases hneg : L < 0
    · rw [if_pos hneg]
      exact readsAsDecimal_leadingZeros neg hd hdig hval hr hL hneg
    · rw [if_neg hneg]
      by_cases hwhole : (c :: tl).length ≤ L.toNat + 1
      · rw [if_pos hwhole, if_pos rfl]
        exact readsAsDecimal_trailingZeros neg hd hc hdig hval hr hL hneg hwhole
      · rw [if_neg hwhole]
        exact readsAsDecimal_innerPoint neg hd hc hdig hval hr hL hneg hwhole
  · rw [if_neg hpos, if_pos rfl]
    cases tl with
    | nil =>
      have hj : j = L := by
        simp only [List.length_singleton] at hL
        omega
      exact readsAsDecimal_exponent neg hd hc (hdig c (List.mem_cons_self ..)) hval hr hj
    | cons c' tl' =>
      exact readsAsDecimal_pointExponent neg hd hc hdig (List.cons_ne_nil _ _) hval hr hL

/-- The text of every finite number reads back as the number, zeros of both signs included. -/
theorem scan?_toShortestText (x : Binary64) (hfin : x.isFinite = true) (rest : List Char)
    (hr : ∀ c ∈ rest.head?, Stops c) :
    scan? (x.toShortestText.toList ++ rest) = some (.float x, rest) := by
  have hb : x.bexp ≠ 2047 := by simpa [Binary64.isFinite] using hfin
  have hnan : x.isNaN = false := by simp [Binary64.isNaN, hb]
  have hinf : x.isInf = false := by simp [Binary64.isInf, hb]
  have hsign : ∀ t : String, ((if x.sign then "-" else "") ++ t).toList ++ rest =
      (if x.sign then ['-'] else []) ++ (t.toList ++ rest) := by
    intro t
    cases x.sign <;> simp [String.toList_append]
  unfold toShortestText
  rw [hnan, if_neg Bool.false_ne_true]
  dsimp only
  rw [hinf, if_neg Bool.false_ne_true]
  by_cases hM : x.scaledMagnitude = 0
  · -- a zero: `0.0` with the sign
    rw [if_pos hM, hsign, show "0.0".toList ++ rest = ['0'] ++ ('.' :: (['0'] ++ rest)) from rfl,
      scan?_point x.sign ['0'] (Or.inl rfl) (fun ch h => by rw [List.mem_singleton.1 h]; rfl) (by simp)
        (fun ch h => by rw [List.mem_singleton.1 h]; rfl) hr,
      show digitsValue (['0'] ++ ['0']) = 0 from rfl, ofDecimal, if_pos rfl,
      eq_zero_of_scaledMagnitude hM]
  · -- otherwise the shortest digits in the usual layout
    rw [if_neg hM]
    obtain ⟨hd, hin⟩ := shortestDigits_inRounding (Nat.pos_of_ne_zero hM)
    have hpos : 0 < x.significand := by
      have := Nat.pos_of_ne_zero hM
      unfold scaledMagnitude at this
      exact Nat.pos_of_mul_pos_right this
    generalize x.shortestDigits = p at hd hin ⊢
    obtain ⟨d, j⟩ := p
    dsimp only at hd hin ⊢
    obtain ⟨D, E, hD, hDE, hscan⟩ := scan?_render x.sign hd j rest hr
    rw [hsign, hscan, ofDecimal_eq_of_inRounding hfin hpos hD (hDE ▸ hin)]

end JsonPath.Number
