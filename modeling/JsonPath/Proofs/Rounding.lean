import Mathlib.Tactic.Linarith
import Mathlib.Tactic.Positivity
import Mathlib.Tactic.Ring
import Mathlib.Algebra.Order.Field.Power
import Mathlib.Data.Rat.Cast.Order
import JsonPath.Number.Shortest

/-!
# Decimals that read back as a number

A finite nonzero number `x` owns a *rounding interval*: the values between the midpoints
to its two neighbours, the midpoints included exactly when the significand of `x` is even
(`InRounding`, on the rational axis in units of `2^-1075`, the unit of `intervalLow` and
`intervalHigh`). Rounding to nearest with ties to even takes every value of that interval
to `x`.

`ofRatio_eq_of_inRounding` proves it for `ofRatio`, which rounds a ratio of naturals: the
unit exponent it picks is the one of `x`, and so is the rounded significand
(`unitExp_round_of_within_binade`), also at the bottom of a binade, where values just below
`x` round up out of the binade below (`unitExp_round_of_below_binade`).
`ofDecimal_eq_of_inRounding` proves it for `ofDecimal`, which reads a decimal `d * 10^j`:
its shortcuts to zero and infinity, taken on the exponent and the number of digits of `d`,
never fire on a value of the interval.
-/

set_option autoImplicit false

namespace JsonPath.Binary64

/-! ## Fields of a word -/

theorem scale_pos : 0 < scale := by decide +kernel

theorem halfScale_eq : halfScale = 2 * scale := by decide +kernel

/-- Reassembling the fields of a word gives the word back. -/
theorem ofFields_self (x : Binary64) : ofFields x.sign x.bexp x.frac = x := by
  obtain ⟨b⟩ := x
  have hlt := b.toNat_lt
  unfold ofFields
  congr 1
  apply UInt64.toNat_inj.1
  rw [UInt64.toNat_ofNat']
  simp only [sign, bexp, frac, Nat.pow_eq] at *
  norm_num at *
  split_ifs <;> omega

variable {x : Binary64}

theorem frac_lt (x : Binary64) : x.frac < 2 ^ 52 := by
  unfold frac
  rw [Nat.pow_eq]
  exact Nat.mod_lt _ (by norm_num)

theorem bexp_le_of_isFinite (h : x.isFinite = true) : x.bexp ≤ 2046 := by
  have : x.bexp < 2048 := Nat.mod_lt _ (by norm_num)
  simp only [isFinite, decide_eq_true_eq] at h
  omega

theorem unitExp_le (h : x.isFinite = true) : x.unitExp ≤ 2045 := by
  have := bexp_le_of_isFinite h
  unfold unitExp
  omega

theorem significand_lt (x : Binary64) : x.significand < 2 ^ 53 := by
  have := x.frac_lt
  unfold significand
  rw [Nat.pow_eq]
  split <;> omega

theorem significand_of_bexp_eq_zero (h : x.bexp = 0) : x.significand = x.frac := by
  simp [significand, h]

theorem significand_of_bexp_ne_zero (h : x.bexp ≠ 0) : x.significand = x.frac + 2 ^ 52 := by
  simp [significand, h, Nat.pow_eq]

/-- Above the subnormals the significand has its hidden bit. -/
theorem two_pow_le_significand (hu : 0 < x.unitExp) : 2 ^ 52 ≤ x.significand := by
  have : x.bexp ≠ 0 := by unfold unitExp at hu; omega
  rw [significand_of_bexp_ne_zero this]
  omega

/-- `make` encodes the significand and unit exponent of a number as that number. -/
theorem make_self (x : Binary64) : make x.sign x.significand x.unitExp = x := by
  have hfr := x.frac_lt
  unfold make
  rw [Nat.pow_eq]
  by_cases h : x.bexp = 0
  · rw [significand_of_bexp_eq_zero h, if_pos hfr, ← h, ofFields_self]
  · rw [significand_of_bexp_ne_zero h, if_neg (by omega), Nat.add_sub_cancel,
      show x.unitExp + 1 = x.bexp by unfold unitExp; omega, ofFields_self]

/-- A number whose magnitude is zero is a zero of its sign. -/
theorem eq_zero_of_scaledMagnitude (h : x.scaledMagnitude = 0) : zero x.sign = x := by
  have hs : x.significand = 0 := by
    unfold scaledMagnitude at h
    rw [Nat.pow_eq] at h
    exact (Nat.mul_eq_zero.1 h).resolve_right (Nat.two_pow_pos _).ne'
  have hb : x.bexp = 0 := by
    by_contra hb
    rw [significand_of_bexp_ne_zero hb] at hs
    omega
  rw [significand_of_bexp_eq_zero hb] at hs
  have := ofFields_self x
  rwa [hb, hs] at this

/-! ## Rounding a ratio -/

/-- `roundHalfEven n D` is `s` when `n / D` lies within half a unit of `s`, a tie counting
only for an even `s`. -/
theorem roundHalfEven_eq {n D s : Nat} (hD : 0 < D) (hs : 0 < s)
    (hlo : (2 * s - 1) * D < 2 * n ∨ ((2 * s - 1) * D = 2 * n ∧ s % 2 = 0))
    (hhi : 2 * n < (2 * s + 1) * D ∨ (2 * n = (2 * s + 1) * D ∧ s % 2 = 0)) :
    roundHalfEven n D = s := by
  have key : D * (n / D) + n % D = n := Nat.div_add_mod n D
  have hlo' : (2 * s - 1) * D ≤ 2 * n := by rcases hlo with h | h <;> omega
  have hhi' : 2 * n ≤ (2 * s + 1) * D := by rcases hhi with h | h <;> omega
  -- the quotient is `s` or `s - 1`
  have hqD : n / D * D ≤ n := Nat.div_mul_le_self n D
  have hqD' : n < n / D * D + D := Nat.lt_div_mul_add hD
  have hq1 : n / D ≤ s := by
    have : (2 * (n / D)) * D ≤ (2 * s + 1) * D := by
      rw [Nat.mul_assoc]
      omega
    have := Nat.le_of_mul_le_mul_right this hD
    omega
  have hq2 : s ≤ n / D + 1 := by
    have : (2 * s - 1) * D < (2 * (n / D) + 2) * D := by
      rw [Nat.add_mul, Nat.mul_assoc]
      omega
    have := Nat.lt_of_mul_lt_mul_right this
    omega
  -- with `s * D` as one quantity the bounds are linear
  have e1 : (2 * s + 1) * D = 2 * (s * D) + D := by ring
  have e2 : (2 * s - 1) * D = 2 * (s * D) - D := by
    rw [Nat.sub_mul, Nat.one_mul, Nat.mul_assoc]
  rw [e1] at hhi hhi'
  rw [e2] at hlo hlo'
  unfold roundHalfEven
  dsimp only
  rcases Nat.eq_or_lt_of_le hq1 with hqs | hqs
  · -- the quotient is `s`: the remainder is at most half of `D`
    rw [hqs] at key ⊢
    have hsD : D * s = s * D := Nat.mul_comm D s
    split_ifs with h1 h2 <;> omega
  · -- the quotient is `s - 1`: the remainder is at least half of `D`
    have hq : n / D = s - 1 := by omega
    rw [hq] at key ⊢
    have hsD : D * (s - 1) = s * D - D := by
      rw [Nat.mul_sub, Nat.mul_one, Nat.mul_comm]
    have hDle : D ≤ s * D := Nat.le_mul_of_pos_left D hs
    split_ifs with h1 h2 <;> omega

theorem unitExpFor_of_lt {q : Nat} (h : q < 2 ^ 53) : unitExpFor q = 0 := by
  unfold unitExpFor
  rw [Nat.pow_eq, if_pos h]

theorem unitExpFor_of_le {q u : Nat} (hu : 1 ≤ u) (h1 : 2 ^ (52 + u) ≤ q)
    (h2 : q < 2 ^ (53 + u)) : unitExpFor q = u := by
  have h53 : 2 ^ 53 ≤ 2 ^ (52 + u) := Nat.pow_le_pow_right (by norm_num) (by omega)
  have hlog : Nat.log2 q = 52 + u := by
    rw [Nat.log2_eq_iff (by omega)]
    exact ⟨h1, by rw [show 52 + u + 1 = 53 + u by omega]; exact h2⟩
  unfold unitExpFor
  rw [Nat.pow_eq, if_neg (by omega), hlog]
  omega

/-! ## The rounding interval -/

/-- The value `v`, in units of `2^-1075`, lies in the rounding interval of `x`: between the
midpoints to its neighbours, which count only for an even significand. -/
def InRounding (x : Binary64) (v : ℚ) : Prop :=
  ((x.intervalLow : ℚ) < v ∨ ((x.intervalLow : ℚ) = v ∧ x.significand % 2 = 0)) ∧
    (v < x.intervalHigh ∨ (v = x.intervalHigh ∧ x.significand % 2 = 0))

theorem intervalHigh_eq (x : Binary64) :
    x.intervalHigh = (2 * x.significand + 1) * 2 ^ x.unitExp := by
  rw [intervalHigh, Nat.pow_eq]

theorem intervalLow_eq (x : Binary64) : x.intervalLow =
    if x.significand = 2 ^ 52 ∧ x.unitExp > 0 then
      (4 * x.significand - 1) * 2 ^ (x.unitExp - 1)
    else (2 * x.significand - 1) * 2 ^ x.unitExp := by
  rw [intervalLow]
  simp only [Nat.pow_eq]

/-- The interval starts at a whole unit or above. -/
theorem one_le_intervalLow (hpos : 0 < x.significand) : 1 ≤ x.intervalLow := by
  rw [intervalLow_eq]
  split_ifs with h
  · exact Nat.mul_pos (by omega) (Nat.two_pow_pos _)
  · exact Nat.mul_pos (by omega) (Nat.two_pow_pos _)

/-- The interval ends below `2^54` units of the exponent of `x`. -/
theorem intervalHigh_lt (x : Binary64) : x.intervalHigh < 2 ^ 54 * 2 ^ x.unitExp := by
  have hs := x.significand_lt
  rw [intervalHigh_eq]
  exact Nat.mul_lt_mul_of_pos_right (by omega) (Nat.two_pow_pos _)

theorem one_le_of_inRounding (hpos : 0 < x.significand) {v : ℚ} (h : x.InRounding v) :
    1 ≤ v := by
  have hlow : (1 : ℚ) ≤ x.intervalLow := by exact_mod_cast one_le_intervalLow hpos
  rcases h.1 with h | h
  · linarith
  · linarith [h.1]

/-- A value in the interval of a finite number lies below `10^310`. -/
theorem lt_of_inRounding (hfin : x.isFinite = true) {v : ℚ} (h : x.InRounding v) :
    v < 10 ^ 310 * halfScale := by
  have hhigh : (x.intervalHigh : ℚ) < 2 ^ 54 * 2 ^ x.unitExp := by
    exact_mod_cast intervalHigh_lt x
  have hexp : (2 : ℚ) ^ x.unitExp ≤ 2 ^ 2045 := pow_le_pow_right₀ one_le_two (unitExp_le hfin)
  have hbig : ((2 ^ 54 * 2 ^ 2045 : Nat) : ℚ) < ((10 ^ 310 * halfScale : Nat) : ℚ) :=
    Nat.cast_lt.2 (by decide +kernel)
  rw [Nat.cast_mul, Nat.cast_mul, Nat.cast_pow, Nat.cast_pow, Nat.cast_pow, Nat.cast_ofNat,
    Nat.cast_ofNat] at hbig
  have hle : (x.intervalHigh : ℚ) < 10 ^ 310 * halfScale :=
    calc (x.intervalHigh : ℚ) < 2 ^ 54 * 2 ^ x.unitExp := hhigh
      _ ≤ 2 ^ 54 * 2 ^ 2045 := by gcongr
      _ < 10 ^ 310 * halfScale := hbig
  rcases h.2 with h | ⟨h, -⟩
  · exact h.trans hle
  · rw [h]
    exact hle

section Ratio

variable {num den : Nat}

/-- On the rational axis a ratio `num / den` stands at `num * halfScale / den`. -/
theorem inRounding_ratio_iff (hden : 0 < den) :
    x.InRounding (num * halfScale / den) ↔
      (x.intervalLow * den < 2 * (num * scale) ∨
          (x.intervalLow * den = 2 * (num * scale) ∧ x.significand % 2 = 0)) ∧
        (2 * (num * scale) < x.intervalHigh * den ∨
          (2 * (num * scale) = x.intervalHigh * den ∧ x.significand % 2 = 0)) := by
  have hd : (0 : ℚ) < den := by exact_mod_cast hden
  have hv : ((2 * (num * scale) : Nat) : ℚ) = num * halfScale := by
    rw [halfScale_eq]
    push_cast
    ring
  unfold InRounding
  rw [lt_div_iff₀ hd, div_lt_iff₀ hd, eq_div_iff hd.ne', div_eq_iff hd.ne', ← hv]
  norm_cast

/-! The two ways a ratio `n / den` in the rounding interval of a significand `s` at the exponent
`u` is rounded. The bounds have large constants: `linarith` closes them, `omega` would not. -/

/-- Just below a power of two, where the interval reaches down into the binade below, a ratio
under `s = 2^52` rounds up to `2^53` one exponent lower. -/
theorem unitExp_round_of_below_binade {n den u : Nat} (hden : 0 < den) (hu0 : 0 < u)
    (hlo : (4 * 2 ^ 52 - 1) * 2 ^ (u - 1) * den ≤ 2 * n)
    (hbelow : 2 * n < 2 * 2 ^ 52 * 2 ^ u * den) :
    unitExpFor (n / den) = u - 1 ∧ roundHalfEven n (den * 2 ^ (u - 1)) = 2 ^ 53 := by
  have hT : 2 ^ u = 2 * 2 ^ (u - 1) := by
    rw [← Nat.pow_succ']
    congr 1
    omega
  generalize hTdef : 2 ^ (u - 1) = T at *
  rw [hT] at hbelow
  -- the constants evaluated, for `linarith`
  have hlo' : 18014398509481983 * T * den ≤ 2 * n := by
    norm_num at hlo
    exact hlo
  norm_num at hbelow
  have hp : unitExpFor (n / den) = u - 1 := by
    rcases Nat.lt_or_ge u 2 with hu1 | hu2
    · -- one exponent lower is the subnormal exponent
      rw [show u - 1 = 0 by omega] at hTdef ⊢
      apply unitExpFor_of_lt
      rw [Nat.div_lt_iff_lt_mul hden]
      simp only [pow_zero] at hTdef
      subst hTdef
      linarith
    · apply unitExpFor_of_le (by omega)
      · rw [Nat.le_div_iff_mul_le hden, Nat.pow_add, hTdef]
        norm_num
        linarith
      · rw [Nat.div_lt_iff_lt_mul hden, Nat.pow_add, hTdef]
        norm_num
        linarith
  have hm : roundHalfEven n (den * T) = 2 ^ 53 := by
    have hTd : 0 < den * T := Nat.mul_pos hden (by rw [← hTdef]; positivity)
    apply roundHalfEven_eq hTd (by norm_num)
    · rw [show (2 * 2 ^ 53 - 1) * (den * T) = (4 * 2 ^ 52 - 1) * T * den by
        rw [Nat.mul_comm den T, ← Nat.mul_assoc]
        norm_num]
      rcases Nat.lt_or_eq_of_le hlo with h | h
      · exact .inl h
      · exact .inr ⟨h, by norm_num⟩
    · left
      norm_num
      linarith
  exact ⟨hp, hm⟩

/-- Otherwise the ratio rounds to `s` at the exponent `u` itself. -/
theorem unitExp_round_of_within_binade {n den s u : Nat} (hden : 0 < den) (hpos : 0 < s)
    (hs53 : s < 2 ^ 53) (hbin : 0 < u → 2 ^ 52 ≤ s)
    (hb : ¬ (s = 2 ^ 52 ∧ 0 < u ∧ 2 * n < 2 * s * 2 ^ u * den))
    (hlo : (if s = 2 ^ 52 ∧ u > 0 then (4 * s - 1) * 2 ^ (u - 1) else (2 * s - 1) * 2 ^ u) * den
        < 2 * n ∨
      ((if s = 2 ^ 52 ∧ u > 0 then (4 * s - 1) * 2 ^ (u - 1) else (2 * s - 1) * 2 ^ u) * den
        = 2 * n ∧ s % 2 = 0))
    (hhi : 2 * n < (2 * s + 1) * 2 ^ u * den ∨
      (2 * n = (2 * s + 1) * 2 ^ u * den ∧ s % 2 = 0)) :
    unitExpFor (n / den) = u ∧ roundHalfEven n (den * 2 ^ u) = s := by
  have hW0 : 0 < 2 ^ u := by positivity
  generalize hW : 2 ^ u = W at *
  have hK : 0 < W * den := Nat.mul_pos hW0 hden
  have hhi' : 2 * n ≤ (2 * s + 1) * W * den := by rcases hhi with h | h <;> omega
  have hs1 : (s + 1) * (W * den) ≤ 2 ^ 53 * (W * den) :=
    Nat.mul_le_mul_right (W * den) (by omega)
  have hp : unitExpFor (n / den) = u := by
    rcases Nat.eq_zero_or_pos u with rfl | hu0
    · apply unitExpFor_of_lt
      rw [Nat.div_lt_iff_lt_mul hden]
      simp only [pow_zero] at hW
      subst hW
      nlinarith
    · have hs52 := hbin hu0
      apply unitExpFor_of_le hu0
      · rw [Nat.le_div_iff_mul_le hden, Nat.pow_add, hW]
        rcases Nat.eq_or_lt_of_le hs52 with hs | hs
        · have hnb : ¬ 2 * n < 2 * s * W * den := fun h => hb ⟨hs.symm, hu0, h⟩
          rw [← hs] at hnb
          push Not at hnb
          nlinarith
        · have hnot : ¬ (s = 2 ^ 52 ∧ u > 0) := fun h => by omega
          rw [if_neg hnot] at hlo
          have hlo' : (2 * s - 1) * W * den ≤ 2 * n := by rcases hlo with h | h <;> omega
          have h2s : 2 * 2 ^ 52 ≤ 2 * s - 1 := by omega
          have := Nat.mul_le_mul_right (W * den) h2s
          rw [← Nat.mul_assoc] at this
          nlinarith
      · rw [Nat.div_lt_iff_lt_mul hden, Nat.pow_add, hW]
        nlinarith
  have hm : roundHalfEven n (den * W) = s := by
    apply roundHalfEven_eq (Nat.mul_pos hden hW0) hpos
    · split_ifs at hlo with hbot
      · -- at the bottom of a binade the value is not below `x`
        have hnb : ¬ 2 * n < 2 * s * W * den := fun h => hb ⟨hbot.1, hbot.2, h⟩
        push Not at hnb
        left
        have : (2 * s - 1) * (den * W) + den * W = 2 * s * W * den := by
          rw [← Nat.succ_mul, show (2 * s - 1).succ = 2 * s by omega]
          ring
        have hdW : 0 < den * W := Nat.mul_pos hden hW0
        omega
      · rwa [show (2 * s - 1) * (den * W) = (2 * s - 1) * W * den by ring]
    · rwa [show (2 * s + 1) * (den * W) = (2 * s + 1) * W * den by ring]
  exact ⟨hp, hm⟩

/-- Rounding a ratio in the rounding interval of a finite nonzero `x` gives `x`. -/
theorem ofRatio_eq_of_inRounding (hfin : x.isFinite = true) (hpos : 0 < x.significand)
    (hden : 0 < den) (henc : x.InRounding (num * halfScale / den)) :
    ofRatio x.sign num den = x := by
  obtain ⟨hlo, hhi⟩ := (inRounding_ratio_iff hden).1 henc
  have hs53 := x.significand_lt
  have hu := unitExp_le hfin
  have hbin : 0 < x.unitExp → 2 ^ 52 ≤ x.significand := two_pow_le_significand
  rw [intervalHigh_eq] at hhi
  rw [intervalLow_eq] at hlo
  have hself := make_self x
  unfold ofRatio
  simp only [Nat.pow_eq]
  generalize num * scale = n at hlo hhi ⊢
  generalize x.significand = s at *
  generalize x.unitExp = u at *
  by_cases hb : s = 2 ^ 52 ∧ 0 < u ∧ 2 * n < 2 * s * 2 ^ u * den
  · -- just below a power of two: the significand rounds up to `2^53` one exponent lower
    obtain ⟨rfl, hu0, hbelow⟩ := hb
    rw [if_pos ⟨rfl, hu0⟩] at hlo
    have hlo' : (4 * 2 ^ 52 - 1) * 2 ^ (u - 1) * den ≤ 2 * n := by rcases hlo with h | h <;> omega
    obtain ⟨hp, hm⟩ := unitExp_round_of_below_binade hden hu0 hlo' hbelow
    rw [hp, hm, if_pos rfl, if_neg (by omega), show u - 1 + 1 = u by omega]
    exact hself
  · -- otherwise the significand is `s` at exponent `u` itself
    obtain ⟨hp, hm⟩ := unitExp_round_of_within_binade hden hpos hs53 hbin hb hlo hhi
    rw [hp, hm, if_neg (by omega), if_neg (by omega)]
    exact hself

end Ratio

/-! ## Reading a decimal -/

/-- `d * 10^j` in units of `2^-1075`. -/
def decimalHalfUnits (d : Nat) (j : Int) : ℚ := d * 10 ^ j * halfScale

/-- A positive number of `w` decimal digits lies in `[10^(w-1), 10^w)`. -/
theorem toDigits_length_bounds (n : Nat) (hn : 0 < n) :
    10 ^ ((Nat.toDigits 10 n).length - 1) ≤ n ∧ n < 10 ^ (Nat.toDigits 10 n).length := by
  induction n using Nat.strong_induction_on with
  | _ n ih =>
    by_cases hlt : n < 10
    · rw [Nat.toDigits_of_lt_base hlt]
      simp only [List.length_singleton, Nat.sub_self, pow_zero, pow_one]
      omega
    · obtain ⟨h1, h2⟩ := ih (n / 10) (by omega) (by omega)
      rw [Nat.toDigits_of_base_le (by decide) (by omega), List.length_append,
        List.length_singleton, Nat.add_sub_cancel, pow_succ]
      have hl : 0 < (Nat.toDigits 10 (n / 10)).length := by
        rw [List.length_pos_iff]
        exact Nat.toDigits_ne_nil
      constructor
      · calc 10 ^ (Nat.toDigits 10 (n / 10)).length
            = 10 ^ ((Nat.toDigits 10 (n / 10)).length - 1) * 10 := by
              rw [← pow_succ]
              congr 1
              omega
          _ ≤ n / 10 * 10 := Nat.mul_le_mul_right 10 h1
          _ ≤ n := Nat.div_mul_le_self n 10
      · omega

/-- Reading `d * 10^j`, for `d > 0` in the rounding interval of a finite `x`, passes the
width checks: `j` plus the number of digits of `d` lies in `[-330, 310]`. -/
theorem width_bounds (hfin : x.isFinite = true) (hpos : 0 < x.significand) {d : Nat} {j : Int}
    (hd : 0 < d) (h : x.InRounding (decimalHalfUnits d j)) :
    ¬ j + ((Nat.toDigits 10 d).length : Int) > 310 ∧
      ¬ j + ((Nat.toDigits 10 d).length : Int) < -330 := by
  obtain ⟨hw1, hw2⟩ := toDigits_length_bounds d hd
  generalize (Nat.toDigits 10 d).length = w at hw1 hw2
  have hw : 1 ≤ w := by
    rcases Nat.eq_zero_or_pos w with rfl | h
    · simp at hw2; omega
    · exact h
  have h1 := one_le_of_inRounding hpos h
  have h2 := lt_of_inRounding hfin h
  unfold decimalHalfUnits at h1 h2
  have hten : (0 : ℚ) < 10 ^ j := by positivity
  have hhs : (0 : ℚ) < halfScale := Nat.cast_pos.2 (by decide +kernel)
  have hlo : (10 : ℚ) ^ ((w : Int) - 1) ≤ d := by
    rw [show (w : Int) - 1 = ((w - 1 : Nat) : Int) by omega, zpow_natCast]
    exact_mod_cast hw1
  have hhi : (d : ℚ) < 10 ^ (w : Int) := by
    rw [zpow_natCast]
    exact_mod_cast hw2
  have hsmall : ((halfScale : Nat) : ℚ) < ((10 ^ 331 : Nat) : ℚ) :=
    Nat.cast_lt.2 (by decide +kernel)
  rw [Nat.cast_pow, Nat.cast_ofNat] at hsmall
  -- from here on the unit is only a positive number below `10^331`
  generalize (halfScale : ℚ) = H at *
  constructor
  · -- too wide: `d * 10^j` would reach `10^310`, past the largest finite number
    intro hgt
    have hmono : (10 : ℚ) ^ 310 ≤ 10 ^ ((w : Int) - 1) * 10 ^ j := by
      rw [← zpow_add₀ (by norm_num), ← zpow_natCast]
      exact zpow_le_zpow_right₀ (by norm_num) (by omega)
    refine lt_irrefl (10 ^ 310 * H) ?_
    calc 10 ^ 310 * H ≤ 10 ^ ((w : Int) - 1) * 10 ^ j * H := by gcongr
      _ ≤ d * 10 ^ j * H := by gcongr
      _ < 10 ^ 310 * H := h2
  · -- too narrow: `d * 10^j` would stay below `10^-330`, under the smallest unit
    intro hlt
    have hmono : (10 : ℚ) ^ (w : Int) * 10 ^ j * 10 ^ 331 ≤ 1 := by
      rw [← zpow_add₀ (by norm_num), ← zpow_natCast, ← zpow_add₀ (by norm_num)]
      apply zpow_le_one_of_nonpos₀ (by norm_num)
      push_cast
      omega
    refine lt_irrefl (1 : ℚ) ?_
    calc (1 : ℚ) ≤ d * 10 ^ j * H := h1
      _ < 10 ^ (w : Int) * 10 ^ j * H := by gcongr
      _ < 10 ^ (w : Int) * 10 ^ j * 10 ^ 331 := by gcongr
      _ ≤ 1 := hmono

/-- Reading a decimal `d * 10^j` with `d > 0` in the rounding interval of a finite nonzero
`x`, with the sign of `x`, gives `x`. -/
theorem ofDecimal_eq_of_inRounding (hfin : x.isFinite = true) (hpos : 0 < x.significand)
    {d : Nat} {j : Int} (hd : 0 < d) (h : x.InRounding (decimalHalfUnits d j)) :
    ofDecimal x.sign d j = x := by
  obtain ⟨hwide, hnarrow⟩ := width_bounds hfin hpos hd h
  unfold ofDecimal
  rw [if_neg hd.ne', if_neg hwide, if_neg hnarrow]
  split_ifs with hj
  · -- a whole decimal: the ratio `d * 10^j / 1`
    apply ofRatio_eq_of_inRounding hfin hpos Nat.one_pos
    convert h using 1
    obtain ⟨k, rfl⟩ := Int.eq_ofNat_of_zero_le hj
    simp only [decimalHalfUnits, Int.toNat_natCast, Nat.pow_eq, zpow_natCast]
    push_cast
    ring
  · -- a fraction: the ratio `d / 10^-j`
    apply ofRatio_eq_of_inRounding hfin hpos (by rw [Nat.pow_eq]; positivity)
    convert h using 1
    obtain ⟨k, hk⟩ := Int.exists_eq_neg_ofNat (by omega : j ≤ 0)
    subst hk
    simp only [decimalHalfUnits, neg_neg, Int.toNat_natCast, Nat.pow_eq, zpow_neg,
      zpow_natCast]
    push_cast
    ring

end JsonPath.Binary64
