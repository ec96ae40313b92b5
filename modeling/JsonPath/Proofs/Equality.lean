import JsonPath.Proofs.Locations
import JsonPath.Proofs.Rounding
import Mathlib.Data.List.Perm.Subperm

/-!
# Structural equality

`Value.equal` compares two values with a work list of pairs (`Value.equalPending`): it pops a
pair, compares it at the top (`Value.pairs?`: kinds, scalars, lengths and names) and pushes
the pairs of its parts, stopping at the first pair that differs. `Value.Same` says what it
decides, by recursion: values of one kind with equal scalars, arrays of one length equal at
every position, objects with one set of names equal under every name, whatever the order of
their members.

The two agree on values whose objects hold each name once (`Value.equal_iff_same`), as the
objects of a document or of a literal do. The work list only reorders the comparisons: one
pair compares true at the top exactly when its parts are what remains to compare
(`Value.same_iff_pairs?`), so the list holds equal values throughout exactly when every pair
it started with does (`Value.equalPending_iff`). For objects this needs the names to be
distinct: the top comparison checks only that the sizes agree and that every name of the
first object is a name of the second, which gives one set of names only when neither object
repeats a name (`keys_iff_of_nodup`).

`Value.Same` is an equivalence on values with distinct names and without NaN, and so then is
`Value.equal` (`Value.equal_equivalence`). Numbers compare by the exact values they denote
(`Number.same_iff_toRat`): an integer and a binary64 number are equal only when the number
is exactly that integer.
-/

set_option autoImplicit false

namespace JsonPath

/-! ## Numbers -/

namespace Number

/-- Whether a number is a NaN. -/
def isNaN : Number → Bool
  | .int _ => false
  | .float x => x.isNaN

/-- The exact value of a finite number: an integer is itself, a binary64 number its scaled
value over `2^1074`. -/
def toRat : Number → ℚ
  | .int n => n
  | .float x => (x.scaledValue : ℚ) / (Binary64.scale : ℚ)

theorem toExtended?_of_isNaN_eq_false {a : Number} (h : a.isNaN = false) :
    ∃ e, a.toExtended? = some e := by
  cases a with
  | int n => exact ⟨_, rfl⟩
  | float x => exact ⟨x.toExtended, by simp [toExtended?, isNaN] at h ⊢; exact h⟩

theorem same_iff {a b : Number} :
    a.same b = true ↔ ∃ e, a.toExtended? = some e ∧ b.toExtended? = some e := by
  unfold same
  rcases a.toExtended? with _ | x <;> rcases b.toExtended? with _ | y <;> simp
  exact eq_comm

theorem same_refl {a : Number} (h : a.isNaN = false) : a.same a = true := by
  obtain ⟨e, he⟩ := toExtended?_of_isNaN_eq_false h
  exact same_iff.2 ⟨e, he, he⟩

theorem same_comm (a b : Number) : a.same b = b.same a := by
  unfold same
  rcases a.toExtended? with _ | x <;> rcases b.toExtended? with _ | y <;>
    simp [eq_comm]

theorem same_trans {a b c : Number} (hab : a.same b = true) (hbc : b.same c = true) :
    a.same c = true := by
  obtain ⟨e, ha, hb⟩ := same_iff.1 hab
  obtain ⟨e', hb', hc⟩ := same_iff.1 hbc
  rw [hb] at hb'
  cases hb'
  exact same_iff.2 ⟨e, ha, hc⟩

/-- Where a number lies on the scaled axis when it is finite: an integer times `2^1074`, or a
binary64 number's scaled value. -/
def scaled : Number → Int
  | .int n => n * Binary64.scale
  | .float x => x.scaledValue

theorem toExtended?_of_isFinite {a : Number} (h : a.isFinite = true) :
    a.toExtended? = some (.finite a.scaled) := by
  cases a with
  | int n => rfl
  | float x =>
    have hexp : x.bexp ≠ 2047 := by simpa [isFinite, Binary64.isFinite] using h
    have hnan : x.isNaN = false := by simp [Binary64.isNaN, hexp]
    simp [toExtended?, hnan, Binary64.toExtended, scaled, show x.isFinite = true from h]

theorem toRat_eq_scaled_div (a : Number) : a.toRat = (a.scaled : ℚ) / Binary64.scale := by
  have hs : (Binary64.scale : ℚ) ≠ 0 := by exact_mod_cast (Binary64.scale_pos).ne'
  cases a with
  | int n => simp only [toRat, scaled, Int.cast_mul, Int.cast_natCast, mul_div_cancel_right₀ _ hs]
  | float x => rfl

/-- Finite numbers are equal exactly when they denote one rational number: integers and
binary64 numbers compare without rounding. -/
theorem same_iff_toRat {a b : Number} (ha : a.isFinite = true) (hb : b.isFinite = true) :
    a.same b = true ↔ a.toRat = b.toRat := by
  have hs : (Binary64.scale : ℚ) ≠ 0 := by exact_mod_cast (Binary64.scale_pos).ne'
  rw [same_iff, toExtended?_of_isFinite ha, toExtended?_of_isFinite hb, toRat_eq_scaled_div,
    toRat_eq_scaled_div, div_left_inj' hs, Int.cast_inj]
  simp only [Option.some.injEq, exists_eq_left', Extended.finite.injEq]
  exact eq_comm

end Number

/-! ## Values -/

mutual

/-- No number of a value is a NaN. -/
def Value.NaNFree : Value → Prop
  | .num n => n.isNaN = false
  | .arr items => Value.ItemsNaNFree items
  | .obj ms => Value.MembersNaNFree ms
  | _ => True

/-- No number of the elements of an array is a NaN. -/
def Value.ItemsNaNFree : List Value → Prop
  | [] => True
  | v :: vs => v.NaNFree ∧ Value.ItemsNaNFree vs

/-- No number of the member values of an object is a NaN. -/
def Value.MembersNaNFree : List (String × Value) → Prop
  | [] => True
  | (_, v) :: ms => v.NaNFree ∧ Value.MembersNaNFree ms

end

mutual

/-- Structural equality by recursion: one kind and equal scalars, arrays equal position by
position, objects with one set of names and equal values under each name. -/
def Value.Same : Value → Value → Prop
  | .null, .null => True
  | .bool a, .bool b => a = b
  | .num a, .num b => a.same b = true
  | .str a, .str b => a = b
  | .arr xs, .arr ys => Value.SameItems xs ys
  | .obj ms, .obj ns => (∀ k, k ∈ ms.map (·.1) ↔ k ∈ ns.map (·.1)) ∧ Value.SameMembers ms ns
  | _, _ => False

/-- Arrays equal position by position. -/
def Value.SameItems : List Value → List Value → Prop
  | [], [] => True
  | x :: xs, y :: ys => x.Same y ∧ Value.SameItems xs ys
  | _, _ => False

/-- Every member of the first object has an equal value under its name in the second. -/
def Value.SameMembers : List (String × Value) → List (String × Value) → Prop
  | [], _ => True
  | (k, v) :: ms, ns => (∃ w, Value.lookup ns k = some w ∧ v.Same w) ∧ Value.SameMembers ms ns

end

namespace Value

theorem itemsNaNFree_iff {items : List Value} : ItemsNaNFree items ↔ ∀ v ∈ items, v.NaNFree := by
  induction items with
  | nil => simp [ItemsNaNFree]
  | cons v vs ih => simp [ItemsNaNFree, ih]

theorem membersNaNFree_iff {ms : List (String × Value)} :
    MembersNaNFree ms ↔ ∀ m ∈ ms, m.2.NaNFree := by
  induction ms with
  | nil => simp [MembersNaNFree]
  | cons m ms ih => obtain ⟨k, v⟩ := m; simp [MembersNaNFree, ih]

theorem sameItems_iff {xs ys : List Value} :
    SameItems xs ys ↔ xs.length = ys.length ∧ ∀ p ∈ xs.zip ys, p.1.Same p.2 := by
  induction xs generalizing ys with
  | nil => cases ys <;> simp [SameItems]
  | cons x xs ih =>
    cases ys with
    | nil => simp [SameItems]
    | cons y ys =>
      simp [SameItems, ih]
      exact and_left_comm

theorem sameMembers_iff {ms ns : List (String × Value)} :
    SameMembers ms ns ↔ ∀ m ∈ ms, ∃ w, lookup ns m.1 = some w ∧ m.2.Same w := by
  induction ms with
  | nil => simp [SameMembers]
  | cons m ms ih => obtain ⟨k, v⟩ := m; simp [SameMembers, ih]

/-! ### Induction over the parts of a value -/

/-- Induction on a value, with the hypothesis for every element of an array and for every
member value of an object. -/
theorem rec_parts {motive : Value → Prop} (null : motive .null) (bool : ∀ b, motive (.bool b))
    (num : ∀ n, motive (.num n)) (str : ∀ s, motive (.str s))
    (arr : ∀ xs, (∀ x ∈ xs, motive x) → motive (.arr xs))
    (obj : ∀ ms, (∀ m ∈ ms, motive m.2) → motive (.obj ms)) (v : Value) : motive v :=
  @Value.rec motive (fun xs => ∀ x ∈ xs, motive x) (fun ms => ∀ m ∈ ms, motive m.2)
    (fun m => motive m.2) null bool num str arr obj
    (fun _ hx => absurd hx List.not_mem_nil)
    (fun _ _ hy hys x hx => (List.mem_cons.1 hx).elim (fun h => h ▸ hy) (hys x))
    (fun _ hm => absurd hm List.not_mem_nil)
    (fun _ _ hm hrest m hm' => (List.mem_cons.1 hm').elim (fun h => h ▸ hm) (hrest m))
    (fun _ _ h => h) v

/-! ### One comparison at the top -/

/-- Two lists of distinct names, every name of the first a name of the second: they hold one
set of names exactly when they are equally long. -/
theorem keys_iff_of_nodup {ks ls : List String} (hks : ks.Nodup) (hls : ls.Nodup)
    (hsub : ∀ k ∈ ks, k ∈ ls) : ks.length = ls.length ↔ ∀ k, k ∈ ks ↔ k ∈ ls := by
  constructor
  · intro hlen k
    exact ((List.subperm_of_subset hks hsub).perm_of_length_le (by omega)).mem_iff
  · intro h
    exact ((List.perm_ext_iff_of_nodup hks hls).2 h).length_eq

/-- Pairing the members of an object with the values under their names in another succeeds,
with every pair related, exactly when every name is found with a related value. -/
theorem mapM_lookup_iff (R : Value → Value → Prop) (ns : List (String × Value)) :
    ∀ ms : List (String × Value),
      (∃ ps, (ms.mapM fun m => (lookup ns m.1).map fun w => (m.2, w)) = some ps ∧
          ∀ p ∈ ps, R p.1 p.2) ↔ ∀ m ∈ ms, ∃ w, lookup ns m.1 = some w ∧ R m.2 w
  | [] => by simp
  | (k, v) :: ms => by
    rw [List.mapM_cons, List.forall_mem_cons, ← mapM_lookup_iff R ns ms]
    cases hk : lookup ns k with
    | none => simp
    | some w =>
      cases hms : ms.mapM (fun m => (lookup ns m.1).map fun w => (m.2, w)) with
      | none => simp
      | some ps => simp [or_imp, forall_and]

/-- Each pair of parts the top comparison of two objects leaves holds a member value of the
first object and the value under its name in the second. -/
theorem mem_of_mapM_lookup {ms ns : List (String × Value)} :
    ∀ {ps : List (Value × Value)},
      (ms.mapM fun m => (lookup ns m.1).map fun w => (m.2, w)) = some ps →
      ∀ p ∈ ps, ∃ m ∈ ms, p.1 = m.2 ∧ lookup ns m.1 = some p.2 := by
  induction ms with
  | nil =>
    intro ps h
    simp only [List.mapM_nil, Option.pure_def, Option.some.injEq] at h
    subst h
    simp
  | cons m ms ih =>
    intro ps h p hp
    simp only [List.mapM_cons, Option.pure_def, Option.bind_eq_bind, Option.bind_eq_some_iff,
      Option.map_eq_some_iff, Option.some.injEq] at h
    obtain ⟨_, ⟨w, hw, rfl⟩, rest, hrest, rfl⟩ := h
    rcases List.mem_cons.1 hp with rfl | hp
    · exact ⟨m, List.mem_cons_self, rfl, hw⟩
    · obtain ⟨m', hm', h1, h2⟩ := ih hrest p hp
      exact ⟨m', List.mem_cons_of_mem _ hm', h1, h2⟩

/-- Two values compare equal at the top, leaving parts that are all equal, exactly when they
are equal. For objects the names of both must be distinct. -/
theorem same_iff_pairs? {a b : Value} (ha : a.KeysDistinct) (hb : b.KeysDistinct) :
    a.Same b ↔ ∃ ps, a.pairs? b = some ps ∧ ∀ p ∈ ps, p.1.Same p.2 := by
  cases a <;> cases b <;> simp only [Same, pairs?, reduceCtorEq, false_and, exists_false]
  case null.null => simp
  case bool.bool x y => by_cases h : x = y <;> simp [h]
  case num.num x y => by_cases h : x.same y = true <;> simp [h]
  case str.str x y => by_cases h : x = y <;> simp [h]
  case arr.arr xs ys =>
    rw [sameItems_iff, arrayPairs]
    by_cases hlen : xs.length = ys.length <;> simp [hlen]
  case obj.obj ms ns =>
    simp only [KeysDistinct] at ha hb
    rw [sameMembers_iff, objectPairs]
    by_cases hlen : ms.length = ns.length
    · rw [if_pos hlen, mapM_lookup_iff]
      constructor
      · exact fun h => h.2
      · intro h
        refine ⟨(keys_iff_of_nodup ha.1 hb.1 fun k hk => ?_).1 (by simpa using hlen), h⟩
        -- a name of the first object is found in the second
        obtain ⟨m, hm, rfl⟩ := List.mem_map.1 hk
        obtain ⟨w, hw, -⟩ := h m hm
        exact List.mem_map.2 ⟨(m.1, w), mem_of_lookup_eq_some hw, rfl⟩
    · rw [if_neg hlen]
      simp only [reduceCtorEq, false_and, exists_false, iff_false, not_and]
      intro hkeys _
      exact hlen (by simpa using ((List.perm_ext_iff_of_nodup ha.1 hb.1).2 hkeys).length_eq)

/-- The parts the top comparison leaves are parts of the two values, so their objects hold
distinct names too. -/
theorem keysDistinct_of_pairs? {a b : Value} (ha : a.KeysDistinct) (hb : b.KeysDistinct)
    {ps : List (Value × Value)} (h : a.pairs? b = some ps) :
    ∀ p ∈ ps, p.1.KeysDistinct ∧ p.2.KeysDistinct := by
  cases a <;> cases b <;> simp only [pairs?, reduceCtorEq] at h
  case arr.arr xs ys =>
    simp only [KeysDistinct, itemsKeysDistinct_iff] at ha hb
    simp only [arrayPairs] at h
    split at h <;> cases h
    intro p hp
    exact ⟨ha _ (List.of_mem_zip hp).1, hb _ (List.of_mem_zip hp).2⟩
  case obj.obj ms ns =>
    simp only [KeysDistinct, membersKeysDistinct_iff] at ha hb
    simp only [objectPairs] at h
    split at h
    · intro p hp
      obtain ⟨m, hm, h1, h2⟩ := mem_of_mapM_lookup h p hp
      exact ⟨h1 ▸ ha.2 m hm, hb.2 _ (mem_of_lookup_eq_some h2)⟩
    · cases h
  case null.null => cases h; simp
  -- two scalars leave no parts
  all_goals (split at h <;> cases h; simp)

/-! ### The work list -/

/-- The work list holds equal values throughout exactly when every pair it starts with is
equal: comparing a pair at the top and pushing its parts keeps what remains to be true. -/
theorem equalPending_iff (l : List (Value × Value))
    (hl : ∀ p ∈ l, p.1.KeysDistinct ∧ p.2.KeysDistinct) :
    equalPending l = true ↔ ∀ p ∈ l, p.1.Same p.2 := by
  fun_induction equalPending l with
  | case1 => simp
  | case2 a b rest h =>
    have hab := hl (a, b) List.mem_cons_self
    simp only [Bool.false_eq_true, false_iff, List.forall_mem_cons, not_and]
    intro hs
    obtain ⟨ps, hps, -⟩ := (same_iff_pairs? hab.1 hab.2).1 hs
    rw [h] at hps
    cases hps
  | case3 a b rest ps h ih =>
    have hab := hl (a, b) List.mem_cons_self
    -- the pushed pairs go on top of the rest, the last on top
    have hpush : ps.foldl (fun s p => p :: s) rest = ps.reverse ++ rest := by
      simp only [List.foldl_flip_cons_eq_append, List.map_id']
    have hparts := keysDistinct_of_pairs? hab.1 hab.2 h
    rw [ih (by
      rw [hpush]
      intro p hp
      rcases List.mem_append.1 hp with hp | hp
      · exact hparts p (List.mem_reverse.1 hp)
      · exact hl p (List.mem_cons_of_mem _ hp)), hpush, List.forall_mem_cons,
      same_iff_pairs? hab.1 hab.2, h]
    simp only [List.mem_append, List.mem_reverse, Option.some.injEq, exists_eq_left']
    constructor
    · intro hall
      exact ⟨fun p hp => hall p (.inl hp), fun p hp => hall p (.inr hp)⟩
    · rintro ⟨hps, hrest⟩ p (hp | hp)
      · exact hps p hp
      · exact hrest p hp

/-- Structural equality computed by the work list is equality by recursion, on values whose
objects hold each name once. -/
theorem equal_iff_same {a b : Value} (ha : a.KeysDistinct) (hb : b.KeysDistinct) :
    a.equal b = true ↔ a.Same b := by
  rw [equal, equalPending_iff [(a, b)] (by simp [ha, hb])]
  simp

/-! ### An equivalence -/

theorem sameItems_refl : ∀ {xs : List Value}, (∀ x ∈ xs, x.Same x) → SameItems xs xs
  | [], _ => trivial
  | x :: _, h => ⟨h x List.mem_cons_self, sameItems_refl fun y hy => h y (List.mem_cons_of_mem _ hy)⟩

theorem sameItems_symm : ∀ {xs ys : List Value},
    (∀ x ∈ xs, ∀ y ∈ ys, x.Same y → y.Same x) → SameItems xs ys → SameItems ys xs
  | [], [], _, _ => trivial
  | x :: _, y :: _, h, ⟨hxy, hrest⟩ =>
    ⟨h x List.mem_cons_self y List.mem_cons_self hxy,
      sameItems_symm (fun x' hx' y' hy' =>
        h x' (List.mem_cons_of_mem _ hx') y' (List.mem_cons_of_mem _ hy')) hrest⟩
  | [], _ :: _, _, h | _ :: _, [], _, h => h.elim

theorem sameItems_trans : ∀ {xs ys zs : List Value},
    (∀ x ∈ xs, ∀ {y z : Value}, x.Same y → y.Same z → x.Same z) →
      SameItems xs ys → SameItems ys zs → SameItems xs zs
  | [], [], [], _, _, _ => trivial
  | x :: _, _ :: _, _ :: _, h, ⟨hxy, hxys⟩, ⟨hyz, hyzs⟩ =>
    ⟨h x List.mem_cons_self hxy hyz,
      sameItems_trans (fun x' hx' => h x' (List.mem_cons_of_mem _ hx')) hxys hyzs⟩
  | [], _ :: _, _, _, h, _ | _ :: _, [], _, _, h, _ => h.elim
  | [], [], _ :: _, _, _, h | _ :: _, _ :: _, [], _, _, h => h.elim

/-- A value without NaN whose objects hold each name once is equal to itself. -/
theorem same_refl {a : Value} (hk : a.KeysDistinct) (hn : a.NaNFree) : a.Same a := by
  induction a using rec_parts with
  | null => trivial
  | bool x => rfl
  | num x => exact Number.same_refl hn
  | str x => rfl
  | arr xs ih =>
    simp only [KeysDistinct, itemsKeysDistinct_iff] at hk
    simp only [NaNFree, itemsNaNFree_iff] at hn
    exact sameItems_refl fun x hx => ih x hx (hk x hx) (hn x hx)
  | obj ms ih =>
    simp only [KeysDistinct, membersKeysDistinct_iff] at hk
    simp only [NaNFree, membersNaNFree_iff] at hn
    refine ⟨fun _ => Iff.rfl, sameMembers_iff.2 fun m hm => ⟨m.2, ?_, ih m hm (hk.2 m hm) (hn m hm)⟩⟩
    exact lookup_eq_some_of_mem hk.1 hm

/-- Equality is symmetric on values whose objects hold each name once: the second object has
the first one's names, and under each the value its own member holds. -/
theorem Same.symm {a b : Value} (ha : a.KeysDistinct) (hb : b.KeysDistinct) (h : a.Same b) :
    b.Same a := by
  induction a using rec_parts generalizing b with
  | null => cases b <;> simp_all [Same]
  | bool x => cases b <;> simp_all [Same]
  | num x => cases b <;> simp_all [Same, Number.same_comm]
  | str x => cases b <;> simp_all [Same]
  | arr xs ih =>
    cases b <;> simp only [Same] at h ⊢
    rename_i ys
    simp only [KeysDistinct, itemsKeysDistinct_iff] at ha hb
    exact sameItems_symm (fun x hx y hy => ih x hx (ha x hx) (hb y hy)) h
  | obj ms ih =>
    cases b <;> simp only [Same] at h ⊢
    rename_i ns
    simp only [KeysDistinct, membersKeysDistinct_iff] at ha hb
    refine ⟨fun k => (h.1 k).symm, sameMembers_iff.2 fun n hn => ?_⟩
    -- the name of a member of the second object names a member of the first
    obtain ⟨m, hm, hk⟩ := List.mem_map.1 ((h.1 n.1).2 (List.mem_map_of_mem hn))
    obtain ⟨w, hw, hsame⟩ := sameMembers_iff.1 h.2 m hm
    have hwn : w = n.2 := by
      rw [hk, lookup_eq_some_of_mem hb.1 hn] at hw
      exact (Option.some.inj hw).symm
    subst hwn
    refine ⟨m.2, by rw [← hk]; exact lookup_eq_some_of_mem ha.1 hm, ?_⟩
    exact ih m hm (ha.2 m hm) (hb.2 n hn) hsame

/-- Equality is transitive: a member of the first object has an equal value under its name in
the second, which has one in the third. -/
theorem Same.trans {a b c : Value} (hab : a.Same b) (hbc : b.Same c) : a.Same c := by
  induction a using rec_parts generalizing b c with
  | null => cases b <;> cases c <;> simp_all [Same]
  | bool x => cases b <;> cases c <;> simp_all [Same]
  | num x =>
    cases b <;> cases c <;> simp only [Same] at hab hbc ⊢
    exact Number.same_trans hab hbc
  | str x => cases b <;> cases c <;> simp_all [Same]
  | arr xs ih =>
    cases b <;> cases c <;> simp only [Same] at hab hbc ⊢
    exact sameItems_trans (fun x hx _ _ => ih x hx) hab hbc
  | obj ms ih =>
    cases b <;> cases c <;> simp only [Same] at hab hbc ⊢
    refine ⟨fun k => (hab.1 k).trans (hbc.1 k), sameMembers_iff.2 fun m hm => ?_⟩
    obtain ⟨w, hw, hmw⟩ := sameMembers_iff.1 hab.2 m hm
    obtain ⟨u, hu, hwu⟩ := sameMembers_iff.1 hbc.2 (m.1, w) (mem_of_lookup_eq_some hw)
    exact ⟨u, hu, ih m hm hmw hwu⟩

end Value

/-- Structural equality, computed with a work list of pairs, is the recursive equality of
values: one kind, equal scalars, arrays of one length equal at every position, objects with one
set of names equal under every name whatever the order of members. It is reflexive, symmetric
and transitive, on values without NaN whose objects hold each name once, as documents and
literals are. Numbers compare by the exact values they denote. -/
theorem Value.equal_is_structural_equivalence {a b c : Value}
    (ha : a.KeysDistinct ∧ a.NaNFree) (hb : b.KeysDistinct ∧ b.NaNFree)
    (hc : c.KeysDistinct ∧ c.NaNFree) :
    (a.equal b = true ↔ a.Same b) ∧ a.equal a = true ∧
      (a.equal b = true → b.equal a = true) ∧
      (a.equal b = true → b.equal c = true → a.equal c = true) ∧
      ∀ x y : Number, x.isFinite = true → y.isFinite = true →
        (x.same y = true ↔ x.toRat = y.toRat) := by
  refine ⟨Value.equal_iff_same ha.1 hb.1, ?_, fun h => ?_, fun h h' => ?_,
    fun x y hx hy => Number.same_iff_toRat hx hy⟩
  · exact (Value.equal_iff_same ha.1 ha.1).2 (Value.same_refl ha.1 ha.2)
  · exact (Value.equal_iff_same hb.1 ha.1).2
      (((Value.equal_iff_same ha.1 hb.1).1 h).symm ha.1 hb.1)
  · exact (Value.equal_iff_same ha.1 hc.1).2
      (((Value.equal_iff_same ha.1 hb.1).1 h).trans ((Value.equal_iff_same hb.1 hc.1).1 h'))

/-- Two objects holding their members in opposite orders, one with the integer `1` and one
with the binary64 number `1.0` (the word `0x3FF0000000000000`), against a third copy. -/
theorem Value.equal_reordered_members :
    ((Value.obj [("a", .num (.int 1)), ("b", .null)]).KeysDistinct ∧
        (Value.obj [("a", .num (.int 1)), ("b", .null)]).NaNFree) ∧
      ((Value.obj [("b", .null), ("a", .num (.float ⟨4607182418800017408⟩))]).KeysDistinct ∧
        (Value.obj [("b", .null), ("a", .num (.float ⟨4607182418800017408⟩))]).NaNFree) ∧
      ((Value.obj [("a", .num (.int 1)), ("b", .null)]).KeysDistinct ∧
        (Value.obj [("a", .num (.int 1)), ("b", .null)]).NaNFree) ∧
      ((Value.obj [("a", .num (.int 1)), ("b", .null)]).equal
          (.obj [("b", .null), ("a", .num (.float ⟨4607182418800017408⟩))]) = true ↔
        (Value.obj [("a", .num (.int 1)), ("b", .null)]).Same
          (.obj [("b", .null), ("a", .num (.float ⟨4607182418800017408⟩))])) ∧
      (Value.obj [("a", .num (.int 1)), ("b", .null)]).equal
          (.obj [("a", .num (.int 1)), ("b", .null)]) = true ∧
      ((Value.obj [("a", .num (.int 1)), ("b", .null)]).equal
          (.obj [("b", .null), ("a", .num (.float ⟨4607182418800017408⟩))]) = true →
        (Value.obj [("b", .null), ("a", .num (.float ⟨4607182418800017408⟩))]).equal
          (.obj [("a", .num (.int 1)), ("b", .null)]) = true) ∧
      ((Value.obj [("a", .num (.int 1)), ("b", .null)]).equal
          (.obj [("b", .null), ("a", .num (.float ⟨4607182418800017408⟩))]) = true →
        (Value.obj [("b", .null), ("a", .num (.float ⟨4607182418800017408⟩))]).equal
          (.obj [("a", .num (.int 1)), ("b", .null)]) = true →
        (Value.obj [("a", .num (.int 1)), ("b", .null)]).equal
          (.obj [("a", .num (.int 1)), ("b", .null)]) = true) ∧
      ∀ x y : Number, x.isFinite = true → y.isFinite = true →
        (x.same y = true ↔ x.toRat = y.toRat) := by
  have ha : (Value.obj [("a", .num (.int 1)), ("b", .null)]).KeysDistinct ∧
      (Value.obj [("a", .num (.int 1)), ("b", .null)]).NaNFree := by
    simp [Value.KeysDistinct, Value.MembersKeysDistinct, Value.NaNFree, Value.MembersNaNFree,
      Number.isNaN]
  have hb : (Value.obj [("b", .null), ("a", .num (.float ⟨4607182418800017408⟩))]).KeysDistinct ∧
      (Value.obj [("b", .null), ("a", .num (.float ⟨4607182418800017408⟩))]).NaNFree := by
    refine ⟨by simp [Value.KeysDistinct, Value.MembersKeysDistinct], ?_⟩
    simp only [Value.NaNFree, Value.MembersNaNFree, Number.isNaN, and_true, true_and]
    decide
  exact ⟨ha, hb, ha, Value.equal_is_structural_equivalence ha hb ha⟩

end JsonPath
