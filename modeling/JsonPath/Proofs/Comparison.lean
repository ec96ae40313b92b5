import JsonPath.Proofs.Equality

/-!
# Comparison operators

`compareValues` compares two operands of a filter, each a value or nothing (`none`, what an
empty singular query gives). `==` is structural equality, with nothing equal only to nothing;
`<` orders two numbers by value or two strings by code points and holds of no other pair, with
nothing on either side; `!=`, `<=`, `>` and `>=` are built from these two.

On operands without NaN whose objects hold each name once, the operators obey the laws of an
order (`compareValues_order_laws`): `==` is an equivalence, `<` is irreflexive and transitive
and never holds together with `==`, and two numbers or two strings compare in exactly one of
the three ways. Numbers are placed on one exact axis (`Extended`), where `<` is a strict total
order (`Extended.lt_trichotomy`); strings use the order of their code points.
-/

set_option autoImplicit false

namespace JsonPath

/-! ## The extended axis -/

namespace Extended

theorem lt_irrefl (x : Extended) : x.lt x = false := by
  cases x <;> simp [lt]

theorem lt_trans {x y z : Extended} (hxy : x.lt y = true) (hyz : y.lt z = true) :
    x.lt z = true := by
  cases x <;> cases y <;> cases z <;> simp only [lt, decide_eq_true_eq] at hxy hyz ⊢ <;>
    first | omega | simp_all

theorem lt_asymm {x y : Extended} (h : x.lt y = true) : y.lt x = false := by
  rw [Bool.eq_false_iff]
  intro h'
  have := lt_trans h h'
  rw [lt_irrefl] at this
  cases this

theorem ne_of_lt {x y : Extended} (h : x.lt y = true) : x ≠ y := by
  rintro rfl
  rw [lt_irrefl] at h
  cases h

theorem lt_trichotomy (x y : Extended) : x.lt y = true ∨ x = y ∨ y.lt x = true := by
  cases x <;> cases y <;> simp only [lt, decide_eq_true_eq, reduceCtorEq, Extended.finite.injEq] <;>
    first | omega | simp

end Extended

/-! ## Numbers and strings -/

namespace Number

theorem lt_iff {a b : Number} :
    a.lt b = true ↔ ∃ x y, a.toExtended? = some x ∧ b.toExtended? = some y ∧ x.lt y = true := by
  unfold lt
  rcases a.toExtended? with _ | x <;> rcases b.toExtended? with _ | y <;> simp

theorem lt_irrefl (a : Number) : a.lt a = false := by
  unfold lt
  rcases a.toExtended? with _ | x
  · rfl
  · exact Extended.lt_irrefl x

theorem lt_trans {a b c : Number} (hab : a.lt b = true) (hbc : b.lt c = true) :
    a.lt c = true := by
  obtain ⟨x, y, ha, hb, hxy⟩ := lt_iff.1 hab
  obtain ⟨y', z, hb', hc, hyz⟩ := lt_iff.1 hbc
  rw [hb] at hb'
  cases hb'
  exact lt_iff.2 ⟨x, z, ha, hc, Extended.lt_trans hxy hyz⟩

theorem same_eq_false_of_lt {a b : Number} (h : a.lt b = true) : a.same b = false := by
  obtain ⟨x, y, ha, hb, hxy⟩ := lt_iff.1 h
  rw [Bool.eq_false_iff]
  intro hs
  obtain ⟨e, ha', hb'⟩ := same_iff.1 hs
  rw [ha] at ha'
  rw [hb] at hb'
  cases ha'
  cases hb'
  rw [Extended.lt_irrefl] at hxy
  cases hxy

/-- Two numbers that are not NaN compare in exactly one of the three ways. -/
theorem compare_exactly_one {a b : Number} (ha : a.isNaN = false) (hb : b.isNaN = false) :
    [a.lt b, a.same b, b.lt a].count true = 1 := by
  obtain ⟨x, hx⟩ := toExtended?_of_isNaN_eq_false ha
  obtain ⟨y, hy⟩ := toExtended?_of_isNaN_eq_false hb
  have hlt : a.lt b = x.lt y := by simp [lt, hx, hy]
  have hgt : b.lt a = y.lt x := by simp [lt, hx, hy]
  have hsame : a.same b = decide (x = y) := by simp [same, hx, hy, beq_eq_decide]
  rw [hlt, hgt, hsame]
  rcases Extended.lt_trichotomy x y with h | rfl | h
  · simp [h, Extended.lt_asymm h, Extended.ne_of_lt h]
  · simp [Extended.lt_irrefl]
  · simp [h, Extended.lt_asymm h, (Extended.ne_of_lt h).symm]

end Number

/-! ## Values -/

namespace Value

/-- Two strings compare in exactly one of the three ways. -/
theorem str_compare_exactly_one (s t : String) :
    [decide (s < t), decide (s = t), decide (t < s)].count true = 1 := by
  by_cases h1 : s < t
  · simp [h1, String.ne_of_lt h1, String.lt_asymm h1]
  · by_cases h2 : t < s
    · simp [h1, h2, (String.ne_of_lt h2).symm]
    · have : s = t := String.le_antisymm (String.not_lt.1 h2) (String.not_lt.1 h1)
      simp [this]

theorem equal_num (x y : Number) : (Value.num x).equal (.num y) = x.same y :=
  Bool.eq_iff_iff.2 (equal_iff_same (show (Value.num x).KeysDistinct from trivial)
    (show (Value.num y).KeysDistinct from trivial))

theorem equal_str (s t : String) : (Value.str s).equal (.str t) = decide (s = t) :=
  Bool.eq_iff_iff.2 ((equal_iff_same (show (Value.str s).KeysDistinct from trivial)
    (show (Value.str t).KeysDistinct from trivial)).trans
    (by simp [Same]))

/-- Only two numbers or two strings are ordered. -/
theorem less_kinds {a b : Value} (h : a.less b = true) :
    (∃ x y, a = .num x ∧ b = .num y) ∨ (∃ s t, a = .str s ∧ b = .str t) := by
  cases a <;> cases b <;> simp only [less, reduceCtorEq] at h <;> simp

theorem less_irrefl (a : Value) : a.less a = false := by
  cases a <;> simp [less, Number.lt_irrefl]

theorem less_trans {a b c : Value} (hab : a.less b = true) (hbc : b.less c = true) :
    a.less c = true := by
  rcases less_kinds hab with ⟨x, y, rfl, rfl⟩ | ⟨s, t, rfl, rfl⟩ <;>
    cases c <;> simp only [less, reduceCtorEq, decide_eq_true_eq] at hab hbc ⊢
  · exact Number.lt_trans hab hbc
  · exact String.lt_trans hab hbc

/-- Values in order are unequal. -/
theorem equal_eq_false_of_less {a b : Value} (h : a.less b = true) : a.equal b = false := by
  rcases less_kinds h with ⟨x, y, rfl, rfl⟩ | ⟨s, t, rfl, rfl⟩ <;> simp only [less] at h
  · rw [equal_num, Number.same_eq_false_of_lt h]
  · rw [equal_str]
    simpa using String.ne_of_lt (of_decide_eq_true h)

end Value

/-! ## Operands -/

section Operands

variable {a b c : Option Value}

theorem compareValues_lt_iff :
    compareValues .lt a b = true ↔ ∃ x y, a = some x ∧ b = some y ∧ x.less y = true := by
  cases a <;> cases b <;> simp [compareValues]

theorem compareValues_eq_iff (ha : ∀ v ∈ a, v.KeysDistinct) (hb : ∀ v ∈ b, v.KeysDistinct) :
    compareValues .eq a b = true ↔
      (a = none ∧ b = none) ∨ ∃ x y, a = some x ∧ b = some y ∧ x.Same y := by
  cases a <;> cases b <;> simp [compareValues]
  exact Value.equal_iff_same (ha _ rfl) (hb _ rfl)

/-- Nothing equals only nothing. -/
theorem compareValues_eq_none (b : Option Value) :
    compareValues .eq none b = true ↔ b = none := by
  cases b <;> simp [compareValues]

/-- Two numbers or two strings: the three comparisons are those of the numbers or the
strings. -/
theorem compareValues_exactly_one (ha : ∀ v ∈ a, v.NaNFree) (hb : ∀ v ∈ b, v.NaNFree)
    (h : (∃ x y, a = some (.num x) ∧ b = some (.num y)) ∨
      (∃ s t, a = some (.str s) ∧ b = some (.str t))) :
    [compareValues .lt a b, compareValues .eq a b, compareValues .gt a b].count true = 1 := by
  rcases h with ⟨x, y, rfl, rfl⟩ | ⟨s, t, rfl, rfl⟩
  · have := Number.compare_exactly_one (ha _ rfl) (hb _ rfl)
    simpa [compareValues, Value.less, Value.equal_num] using this
  · simpa [compareValues, Value.less, Value.equal_str] using Value.str_compare_exactly_one s t

end Operands

/-- The comparison operators obey the laws of an order, for operands that are nothing or a
value without NaN whose objects hold each name once: `!=` is not `==`, `>` is `<` reversed,
`<=` and `>=` add `==` to `<` and `>`; `==` is an equivalence in which nothing equals only
nothing; `<` is irreflexive and transitive and never holds with `==`; two numbers or two
strings compare in exactly one of the ways `<`, `==`, `>`; and no other pair is ordered. -/
theorem compareValues_order_laws {a b c : Option Value}
    (ha : ∀ v ∈ a, v.KeysDistinct ∧ v.NaNFree) (hb : ∀ v ∈ b, v.KeysDistinct ∧ v.NaNFree)
    (hc : ∀ v ∈ c, v.KeysDistinct ∧ v.NaNFree) :
    compareValues .ne a b = !compareValues .eq a b ∧
      compareValues .gt a b = compareValues .lt b a ∧
      compareValues .le a b = (compareValues .lt a b || compareValues .eq a b) ∧
      compareValues .ge a b = (compareValues .gt a b || compareValues .eq a b) ∧
      compareValues .eq a a = true ∧
      (compareValues .eq a b = true → compareValues .eq b a = true) ∧
      (compareValues .eq a b = true → compareValues .eq b c = true →
        compareValues .eq a c = true) ∧
      (compareValues .eq none b = true ↔ b = none) ∧
      compareValues .lt a a = false ∧
      (compareValues .lt a b = true → compareValues .lt b c = true →
        compareValues .lt a c = true) ∧
      (compareValues .lt a b = true → compareValues .eq a b = false) ∧
      ((∃ x y, a = some (.num x) ∧ b = some (.num y)) ∨
          (∃ s t, a = some (.str s) ∧ b = some (.str t)) →
        [compareValues .lt a b, compareValues .eq a b, compareValues .gt a b].count true = 1) ∧
      (¬ ((∃ x y, a = some (.num x) ∧ b = some (.num y)) ∨
          (∃ s t, a = some (.str s) ∧ b = some (.str t))) →
        compareValues .lt a b = false ∧ compareValues .gt a b = false) := by
  have hka : ∀ v ∈ a, v.KeysDistinct := fun v hv => (ha v hv).1
  have hkb : ∀ v ∈ b, v.KeysDistinct := fun v hv => (hb v hv).1
  have hkc : ∀ v ∈ c, v.KeysDistinct := fun v hv => (hc v hv).1
  refine ⟨rfl, rfl, rfl, rfl, ?refl, fun h => ?symm, fun h h' => ?trans,
    compareValues_eq_none b, ?irrefl, fun h h' => ?ltTrans, fun h => ?ltNe,
    compareValues_exactly_one (fun v hv => (ha v hv).2) (fun v hv => (hb v hv).2),
    fun h => ?unordered⟩
  case refl =>
    cases a with
    | none => rfl
    | some v =>
      exact (compareValues_eq_iff hka hka).2
        (.inr ⟨v, v, rfl, rfl, Value.same_refl (ha v rfl).1 (ha v rfl).2⟩)
  case symm =>
    rcases (compareValues_eq_iff hka hkb).1 h with ⟨rfl, rfl⟩ | ⟨x, y, rfl, rfl, hxy⟩
    · rfl
    · exact (compareValues_eq_iff hkb hka).2 (.inr ⟨y, x, rfl, rfl, hxy.symm (hka x rfl) (hkb y rfl)⟩)
  case trans =>
    rcases (compareValues_eq_iff hka hkb).1 h with ⟨rfl, rfl⟩ | ⟨x, y, rfl, rfl, hxy⟩
    · exact h'
    · rcases (compareValues_eq_iff hkb hkc).1 h' with ⟨h0, -⟩ | ⟨y', z, hy, rfl, hyz⟩
      · cases h0
      · cases hy
        exact (compareValues_eq_iff hka hkc).2 (.inr ⟨x, z, rfl, rfl, hxy.trans hyz⟩)
  case irrefl =>
    cases a with
    | none => rfl
    | some v => exact Value.less_irrefl v
  case ltTrans =>
    obtain ⟨x, y, rfl, rfl, hxy⟩ := compareValues_lt_iff.1 h
    obtain ⟨y', z, hy, rfl, hyz⟩ := compareValues_lt_iff.1 h'
    cases hy
    exact compareValues_lt_iff.2 ⟨x, z, rfl, rfl, Value.less_trans hxy hyz⟩
  case ltNe =>
    obtain ⟨x, y, rfl, rfl, hxy⟩ := compareValues_lt_iff.1 h
    exact Value.equal_eq_false_of_less hxy
  case unordered =>
    -- an ordered pair is two numbers or two strings
    constructor
    · rw [Bool.eq_false_iff]
      intro hlt
      obtain ⟨x, y, rfl, rfl, hxy⟩ := compareValues_lt_iff.1 hlt
      rcases Value.less_kinds hxy with ⟨p, q, rfl, rfl⟩ | ⟨s, t, rfl, rfl⟩
      · exact h (.inl ⟨p, q, rfl, rfl⟩)
      · exact h (.inr ⟨s, t, rfl, rfl⟩)
    · rw [Bool.eq_false_iff]
      intro hgt
      obtain ⟨y, x, rfl, rfl, hyx⟩ := compareValues_lt_iff.1 hgt
      rcases Value.less_kinds hyx with ⟨p, q, rfl, rfl⟩ | ⟨s, t, rfl, rfl⟩
      · exact h (.inl ⟨q, p, rfl, rfl⟩)
      · exact h (.inr ⟨t, s, rfl, rfl⟩)

/-- The integer `1` against the string `"1"` and nothing: values of two kinds are unequal and
unordered, and nothing equals only nothing. -/
theorem compareValues_number_string_nothing :
    (∀ v ∈ (some (.num (.int 1)) : Option Value), v.KeysDistinct ∧ v.NaNFree) ∧
      (∀ v ∈ (some (.str "1") : Option Value), v.KeysDistinct ∧ v.NaNFree) ∧
      (∀ v ∈ (none : Option Value), v.KeysDistinct ∧ v.NaNFree) ∧
      compareValues .ne (some (.num (.int 1))) (some (.str "1")) =
        !compareValues .eq (some (.num (.int 1))) (some (.str "1")) ∧
      compareValues .gt (some (.num (.int 1))) (some (.str "1")) =
        compareValues .lt (some (.str "1")) (some (.num (.int 1))) ∧
      compareValues .le (some (.num (.int 1))) (some (.str "1")) =
        (compareValues .lt (some (.num (.int 1))) (some (.str "1")) ||
          compareValues .eq (some (.num (.int 1))) (some (.str "1"))) ∧
      compareValues .ge (some (.num (.int 1))) (some (.str "1")) =
        (compareValues .gt (some (.num (.int 1))) (some (.str "1")) ||
          compareValues .eq (some (.num (.int 1))) (some (.str "1"))) ∧
      compareValues .eq (some (.num (.int 1))) (some (.num (.int 1))) = true ∧
      (compareValues .eq (some (.num (.int 1))) (some (.str "1")) = true →
        compareValues .eq (some (.str "1")) (some (.num (.int 1))) = true) ∧
      (compareValues .eq (some (.num (.int 1))) (some (.str "1")) = true →
        compareValues .eq (some (.str "1")) none = true →
        compareValues .eq (some (.num (.int 1))) none = true) ∧
      (compareValues .eq none (some (.str "1")) = true ↔ (some (.str "1") : Option Value) = none) ∧
      compareValues .lt (some (.num (.int 1))) (some (.num (.int 1))) = false ∧
      (compareValues .lt (some (.num (.int 1))) (some (.str "1")) = true →
        compareValues .lt (some (.str "1")) none = true →
        compareValues .lt (some (.num (.int 1))) none = true) ∧
      (compareValues .lt (some (.num (.int 1))) (some (.str "1")) = true →
        compareValues .eq (some (.num (.int 1))) (some (.str "1")) = false) ∧
      ((∃ x y, (some (.num (.int 1)) : Option Value) = some (.num x) ∧
            (some (.str "1") : Option Value) = some (.num y)) ∨
          (∃ s t, (some (.num (.int 1)) : Option Value) = some (.str s) ∧
            (some (.str "1") : Option Value) = some (.str t)) →
        [compareValues .lt (some (.num (.int 1))) (some (.str "1")),
          compareValues .eq (some (.num (.int 1))) (some (.str "1")),
          compareValues .gt (some (.num (.int 1))) (some (.str "1"))].count true = 1) ∧
      (¬ ((∃ x y, (some (.num (.int 1)) : Option Value) = some (.num x) ∧
            (some (.str "1") : Option Value) = some (.num y)) ∨
          (∃ s t, (some (.num (.int 1)) : Option Value) = some (.str s) ∧
            (some (.str "1") : Option Value) = some (.str t))) →
        compareValues .lt (some (.num (.int 1))) (some (.str "1")) = false ∧
          compareValues .gt (some (.num (.int 1))) (some (.str "1")) = false) := by
  have ha : ∀ v ∈ (some (.num (.int 1)) : Option Value), v.KeysDistinct ∧ v.NaNFree := by
    simp [Value.KeysDistinct, Value.NaNFree, Number.isNaN]
  have hb : ∀ v ∈ (some (.str "1") : Option Value), v.KeysDistinct ∧ v.NaNFree := by
    simp [Value.KeysDistinct, Value.NaNFree]
  have hc : ∀ v ∈ (none : Option Value), v.KeysDistinct ∧ v.NaNFree := by
    simp
  exact ⟨ha, hb, hc, compareValues_order_laws ha hb hc⟩

end JsonPath
