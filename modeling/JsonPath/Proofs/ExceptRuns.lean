/-!
# Runs in `Except`

Evaluation and reading a text into tokens run in `Except`: a value, or the first error. This
module says what a successful run of a bind, of `List.mapM` and of `List.filterM` returned:
a bind ran both of its parts (`bind_eq_ok`), every element `mapM` returned is a result of
the function on some element (`mapM_except_mem`), in order (`mapM_except_map`), an error of
`mapM` is the function's error on some element (`mapM_except_error`), and `filterM` returns
elements of its list (`filterM_except_subset`).

`FailsWithin P x` says that every error `x` can end in satisfies `P`; it passes through binds,
`mapM` and `filterM` when each part fails within `P`.
-/

set_option autoImplicit false

namespace JsonPath

theorem bind_eq_ok {α β ε : Type} {x : Except ε α} {k : α → Except ε β} {r : β} :
    x >>= k = .ok r ↔ ∃ a, x = .ok a ∧ k a = .ok r := by
  cases x <;> simp [bind, Except.bind]

theorem mapM_except_mem {α β ε : Type} {f : α → Except ε β} {P : β → Prop} :
    ∀ {l : List α} {out : List β}, l.mapM f = .ok out →
      (∀ a ∈ l, ∀ b, f a = .ok b → P b) → ∀ b ∈ out, P b
  | [], out, h, _ => by
    cases h
    simp
  | a :: l, out, h, hf => by
    rw [List.mapM_cons] at h
    obtain ⟨b, hb, h⟩ := bind_eq_ok.1 h
    obtain ⟨bs, hbs, h⟩ := bind_eq_ok.1 h
    cases h
    intro x hx
    rcases List.mem_cons.1 hx with rfl | hx
    · exact hf a List.mem_cons_self x hb
    · exact mapM_except_mem hbs (fun a' ha' => hf a' (List.mem_cons_of_mem a ha')) x hx

theorem mapM_except_map {α β γ ε : Type} {f : α → Except ε β} {g : β → γ} {h : α → γ}
    (hf : ∀ a b, f a = .ok b → g b = h a) :
    ∀ {l : List α} {out : List β}, l.mapM f = .ok out → out.map g = l.map h
  | [], out, hl => by
    cases hl
    rfl
  | a :: l, out, hl => by
    rw [List.mapM_cons] at hl
    obtain ⟨b, hb, hl⟩ := bind_eq_ok.1 hl
    obtain ⟨bs, hbs, hl⟩ := bind_eq_ok.1 hl
    cases hl
    rw [List.map_cons, List.map_cons, hf a b hb, mapM_except_map hf hbs]

/-- A map whose every call succeeds succeeds with the list of the results. -/
theorem mapM_except_ok {α β ε : Type} {f : α → Except ε β} (g : α → β) :
    ∀ {l : List α}, (∀ a ∈ l, f a = .ok (g a)) → l.mapM f = .ok (l.map g)
  | [], _ => rfl
  | a :: l, h => by
    rw [List.mapM_cons, h a List.mem_cons_self,
      mapM_except_ok g fun b hb => h b (List.mem_cons_of_mem a hb)]
    rfl

theorem mapM_except_error {α β ε : Type} {f : α → Except ε β} :
    ∀ {l : List α} {e : ε}, l.mapM f = .error e → ∃ a ∈ l, f a = .error e
  | [], e, h => by cases h
  | a :: l, e, h => by
    rw [List.mapM_cons] at h
    cases hfa : f a with
    | error e' =>
      rw [hfa] at h
      cases h
      exact ⟨a, List.mem_cons_self, hfa⟩
    | ok b =>
      cases hl : l.mapM f with
      | error e' =>
        rw [hfa, hl] at h
        cases h
        obtain ⟨a', ha', hfa'⟩ := mapM_except_error hl
        exact ⟨a', List.mem_cons_of_mem _ ha', hfa'⟩
      | ok bs => rw [hfa, hl] at h; cases h

theorem filterAuxM_except_mem {α ε : Type} {p : α → Except ε Bool} :
    ∀ {l acc out : List α}, List.filterAuxM p l acc = .ok out → ∀ x ∈ out, x ∈ l ∨ x ∈ acc
  | [], acc, out, h => by
    cases h
    exact fun x hx => .inr hx
  | a :: l, acc, out, h => by
    simp only [List.filterAuxM] at h
    obtain ⟨b, -, h⟩ := bind_eq_ok.1 h
    intro x hx
    rcases filterAuxM_except_mem h x hx with hx | hx
    · exact .inl (List.mem_cons_of_mem _ hx)
    · cases b
      · exact .inr hx
      · rcases List.mem_cons.1 hx with rfl | hx
        · exact .inl List.mem_cons_self
        · exact .inr hx

theorem filterM_except_subset {α ε : Type} {p : α → Except ε Bool} {l out : List α}
    (h : l.filterM p = .ok out) : ∀ x ∈ out, x ∈ l := by
  unfold List.filterM at h
  obtain ⟨r, hr, h⟩ := bind_eq_ok.1 h
  cases h
  intro x hx
  rcases filterAuxM_except_mem hr x (List.mem_reverse.1 hx) with hx | hx
  · exact hx
  · cases hx

/-! ## Folds that check each element

A fold that refuses an element for a reason of the element alone, whatever it has gathered,
and otherwise records the element, fails exactly at its first refused element
(`foldlM_refusing_eq_error_iff`), and succeeds exactly when it refuses none, with the pure fold
of its records (`foldlM_refusing_eq_ok_iff`). -/

section Refusing

variable {α β ρ ε : Type} {f : β → α → Except ε β} (refusal : α → Option ρ) (reject : ρ → ε)
  (record : β → α → β)

theorem foldlM_refusing_eq_error_iff
    (hf : ∀ acc x, f acc x = (refusal x).elim (.ok (record acc x)) fun r => .error (reject r)) :
    ∀ (l : List α) (b : β) (e : ε), l.foldlM f b = .error e ↔
      ∃ pre x post r, l = pre ++ x :: post ∧ (∀ y ∈ pre, refusal y = none) ∧
        refusal x = some r ∧ e = reject r
  | [], b, e => by
    simp only [List.foldlM_nil, List.nil_eq_append_iff, reduceCtorEq, and_false, false_and,
      exists_false, iff_false]
    rintro ⟨⟩
  | a :: l, b, e => by
    rw [List.foldlM_cons, hf]
    cases ha : refusal a with
    | some r =>
      -- the first element is refused, and no later one is reached
      constructor
      · rintro ⟨⟩
        exact ⟨[], a, l, r, rfl, by simp, ha, rfl⟩
      · rintro ⟨pre, x, post, r', hl, hpre, hx, rfl⟩
        cases pre with
        | nil =>
          obtain ⟨rfl, rfl⟩ := List.cons.inj hl
          rw [ha] at hx
          cases hx
          rfl
        | cons p pre =>
          obtain ⟨rfl, rfl⟩ := List.cons.inj hl
          rw [hpre a List.mem_cons_self] at ha
          cases ha
    | none =>
      show l.foldlM f (record b a) = .error e ↔ _
      rw [foldlM_refusing_eq_error_iff hf l]
      constructor
      · rintro ⟨pre, x, post, r, rfl, hpre, hx, rfl⟩
        refine ⟨a :: pre, x, post, r, rfl, fun y hy => ?_, hx, rfl⟩
        rcases List.mem_cons.1 hy with rfl | hy
        · exact ha
        · exact hpre y hy
      · rintro ⟨pre, x, post, r, hl, hpre, hx, rfl⟩
        cases pre with
        | nil =>
          obtain ⟨rfl, rfl⟩ := List.cons.inj hl
          rw [ha] at hx
          cases hx
        | cons p pre =>
          obtain ⟨rfl, rfl⟩ := List.cons.inj hl
          exact ⟨pre, x, post, r, rfl, fun y hy => hpre y (List.mem_cons_of_mem _ hy), hx, rfl⟩

theorem foldlM_refusing_eq_ok_iff
    (hf : ∀ acc x, f acc x = (refusal x).elim (.ok (record acc x)) fun r => .error (reject r)) :
    ∀ (l : List α) (b r : β), l.foldlM f b = .ok r ↔
      (∀ y ∈ l, refusal y = none) ∧ r = l.foldl record b
  | [], b, r => by
    simp only [List.foldlM_nil, List.not_mem_nil, List.foldl_nil]
    exact ⟨fun h => ⟨fun _ h => h.elim, by cases h; rfl⟩, fun ⟨_, h⟩ => h ▸ rfl⟩
  | a :: l, b, r => by
    rw [List.foldlM_cons, hf]
    cases ha : refusal a with
    | some r' =>
      constructor
      · rintro ⟨⟩
      · rintro ⟨hall, -⟩
        rw [hall a List.mem_cons_self] at ha
        cases ha
    | none =>
      show l.foldlM f (record b a) = .ok r ↔ _
      rw [foldlM_refusing_eq_ok_iff hf l, List.foldl_cons, List.forall_mem_cons]
      simp [ha]

end Refusing

/-! ## Runs whose errors satisfy a property -/

/-- The error a run ended in, or `none` when it gave a result. -/
def errorOf? {ε α : Type} : Except ε α → Option ε
  | .error e => some e
  | .ok _ => none

theorem errorOf?_eq_some {ε α : Type} {x : Except ε α} {e : ε} :
    errorOf? x = some e ↔ x = .error e := by
  cases x <;> simp [errorOf?]

/-- Every error the run `x` can end in satisfies `P`. -/
def FailsWithin {ε α : Type} (P : ε → Prop) (x : Except ε α) : Prop :=
  ∀ e, x = .error e → P e

namespace FailsWithin

variable {ε α β : Type} {P : ε → Prop}

theorem ok (a : α) : FailsWithin P (.ok a : Except ε α) := fun _ h => by cases h

theorem error {e : ε} (he : P e) : FailsWithin P (.error e : Except ε α) := fun _ h => by
  cases h
  exact he

theorem bind {x : Except ε α} {k : α → Except ε β} (hx : FailsWithin P x)
    (hk : ∀ a, x = .ok a → FailsWithin P (k a)) : FailsWithin P (x >>= k) := by
  cases x with
  | error e =>
    have he : (Except.error e >>= k : Except ε β) = .error e := rfl
    rw [he]
    exact fun e' h => hx e' (by cases h; rfl)
  | ok a => exact hk a rfl

theorem mapM {f : α → Except ε β} :
    ∀ {l : List α}, (∀ a ∈ l, FailsWithin P (f a)) → FailsWithin P (l.mapM f)
  | [], _ => ok _
  | a :: l, h => by
    rw [List.mapM_cons]
    exact (h a List.mem_cons_self).bind fun _ _ =>
      (mapM fun a' ha' => h a' (List.mem_cons_of_mem _ ha')).bind fun _ _ => ok _

theorem filterAuxM {p : α → Except ε Bool} :
    ∀ {l : List α} (acc : List α), (∀ a ∈ l, FailsWithin P (p a)) →
      FailsWithin P (List.filterAuxM p l acc)
  | [], _, _ => ok _
  | a :: l, acc, h => by
    simp only [List.filterAuxM]
    exact (h a List.mem_cons_self).bind fun _ _ =>
      filterAuxM _ fun a' ha' => h a' (List.mem_cons_of_mem _ ha')

theorem filterM {p : α → Except ε Bool} {l : List α} (h : ∀ a ∈ l, FailsWithin P (p a)) :
    FailsWithin P (l.filterM p) :=
  (filterAuxM [] h).bind fun _ _ => ok _

end FailsWithin

end JsonPath
