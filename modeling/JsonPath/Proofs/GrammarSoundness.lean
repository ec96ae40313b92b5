import JsonPath.Proofs.TokenValues
import JsonPath.Proofs.QueryGrammar

/-!
# What the grammar reads is derived

A query read from tokens is one the grammar of `JsonPath.Proofs.QueryGrammar` derives from
them: every rule that returns a reading, at any fuel and from any frontier, returns one its
relation derives between the same positions (`ReadsDerived`). The leaves (a slice, a
shorthand, a literal, a run of `!`) are read first, then the rules at fuel `n + 1` from the
rules at fuel `n`, one lemma per rule, as `JsonPath.Proofs.WellFormed` does for types.

Two facts beyond the grammar enter. A string or number token carries a value of its kind
(`TokensValued`), so a name selector or a literal is the token's value and never the
fallback. And the static checks run on the way (`asLogical`, `asComparable`,
`asArguments`, the joins) are the rules `Expr.asTest?`, `Expr.asSide?`, `Expr.asArgs?` and
`Expr.joinTests?` the relations state.
-/

set_option autoImplicit false

namespace JsonPath

namespace Syntax

/-! ## The leaves of a reading -/

section Leaves

variable {ts : Array Token} {f f' : Frontier}

theorem indexValue_indexToken {t : Token} {n : Int} (hv : t.Valued) (hk : t.kind = .integer)
    (h : (indexValue t).run f = .ok (n, f')) : IndexToken t n := by
  obtain ⟨m, hm⟩ := hv.2.1 hk
  unfold indexValue at h
  split at h
  · cases h
  · rename_i htext
    rw [hm] at h
    dsimp only at h
    split at h
    · cases h
      exact ⟨hk, htext, hm, ‹_›⟩
    · cases h

theorem bound_derives (hts : TokensValued ts) {pos p : Nat} {b : Option Int}
    (h : (bound ts pos).run f = .ok ((b, p), f')) : BoundAt ts pos p b := by
  unfold bound at h
  obtain ⟨o, f1, ho, h1⟩ := run_bind_eq_ok.1 h
  rcases o with _ | ⟨t, q⟩
  · cases h1
    exact .none pos
  · obtain ⟨ht, hk, rfl, rfl⟩ := expect_some ts ho
    obtain ⟨n, f2, hn, h2⟩ := run_bind_eq_ok.1 h1
    cases h2
    exact .some ht (indexValue_indexToken (hts t (Array.mem_of_getElem? ht)) hk hn)

theorem slice_derives (hts : TokensValued ts) {pos p : Nat} {s : Selector}
    (h : (slice ts pos).run f = .ok (some (s, p), f')) : SliceAt ts pos p s := by
  unfold slice at h
  obtain ⟨⟨a, p1⟩, f1, ha, h1⟩ := run_bind_eq_ok.1 h
  obtain ⟨o, f2, hc1, h2⟩ := run_bind_eq_ok.1 h1
  rcases o with _ | ⟨c1, p2⟩
  · cases h2
  obtain ⟨hc1t, hc1k, rfl, rfl⟩ := expect_some ts hc1
  obtain ⟨⟨b, p3⟩, f3, hb, h3⟩ := run_bind_eq_ok.1 h2
  obtain ⟨o, f4, hc2, h4⟩ := run_bind_eq_ok.1 h3
  rcases o with _ | ⟨c2, p4⟩
  · -- `start:end`
    cases h4
    exact .bounds (bound_derives hts ha) ⟨c1, hc1t, hc1k⟩ (bound_derives hts hb)
  obtain ⟨hc2t, hc2k, rfl, rfl⟩ := expect_some ts hc2
  obtain ⟨o, f5, hstep, h5⟩ := run_bind_eq_ok.1 h4
  rcases o with _ | ⟨t, q⟩
  · -- `start:end:`
    cases h5
    exact .step (bound_derives hts ha) ⟨c1, hc1t, hc1k⟩ (bound_derives hts hb) ⟨c2, hc2t, hc2k⟩
      (.none _) (by simp)
  · -- `start:end:step`, a step that is not zero
    obtain ⟨ht, hk, rfl, rfl⟩ := expect_some ts hstep
    obtain ⟨c, f6, hc, h6⟩ := run_bind_eq_ok.1 h5
    split at h6
    · cases h6
    · cases h6
      exact .step (bound_derives hts ha) ⟨c1, hc1t, hc1k⟩ (bound_derives hts hb)
        ⟨c2, hc2t, hc2k⟩
        (.some ht (indexValue_indexToken (hts t (Array.mem_of_getElem? ht)) hk hc))
        (by simpa using ‹_›)

theorem shorthand_derives {marker : TokenKind} {pos p : Nat} {sels : List Selector}
    (h : (shorthand ts marker pos).run f = .ok (some (sels, p), f')) :
    ∃ s, sels = [s] ∧ p = pos + 2 ∧ ShorthandAt ts marker pos s := by
  unfold shorthand at h
  obtain ⟨o, f1, hm, h1⟩ := run_bind_eq_ok.1 h
  rcases o with _ | ⟨m, p1⟩
  · cases h1
  obtain ⟨hmt, hmk, rfl, rfl⟩ := expect_some ts hm
  obtain ⟨o, f2, ht, h2⟩ := run_bind_eq_ok.1 h1
  rcases o with _ | ⟨t, q⟩
  · cases h2
  obtain ⟨htt, htk, rfl⟩ := expectAny_some ts ht
  dsimp only at h2
  split_ifs at h2 with hgap hstar
  · cases h2
  · cases h2
    exact ⟨_, rfl, rfl, .wildcard hmt hmk htt hstar (not_not.1 hgap)⟩
  · cases h2
    have hident : t.kind = .ident := by simp_all
    exact ⟨_, rfl, rfl, .name hmt hmk htt hident (not_not.1 hgap)⟩

theorem literal_derives (hts : TokensValued ts) {pos p : Nat} {e : Expr}
    (h : (literal ts pos).run f = .ok (some (e, p), f')) :
    ∃ t v, ts[pos]? = some t ∧ LiteralToken t v ∧ e = .literal v ∧ p = pos + 1 := by
  unfold literal at h
  obtain ⟨o, f1, ho, h1⟩ := run_bind_eq_ok.1 h
  rcases o with _ | ⟨t, p1⟩
  · -- `true`, `false` or `null`
    have hword : ∀ {word : String} {v : Value} {g g' : Frontier} {r : Token × Nat},
        (word, v) ∈ keywordLiterals → (keyword ts word pos).run g = .ok (some r, g') →
        ∃ t, ts[pos]? = some t ∧ LiteralToken t v ∧ r.2 = pos + 1 := by
      intro word v g g' r hmem hk
      obtain ⟨ht, hid, htext, hr⟩ := keyword_some ts hk
      exact ⟨_, ht, .keyword hid (htext ▸ hmem), hr⟩
    obtain ⟨o, f2, htrue, h2⟩ := run_bind_eq_ok.1 h1
    rcases o with _ | r
    · obtain ⟨o, f3, hfalse, h3⟩ := run_bind_eq_ok.1 h2
      rcases o with _ | r
      · obtain ⟨o, f4, hnull, h4⟩ := run_bind_eq_ok.1 h3
        rcases o with _ | r
        · cases h4
        · cases h4
          obtain ⟨t, ht, hl, hr⟩ :=
            hword (show ("null", Value.null) ∈ keywordLiterals by simp [keywordLiterals]) hnull
          exact ⟨t, _, ht, hl, rfl, hr⟩
      · cases h3
        obtain ⟨t, ht, hl, hr⟩ :=
          hword (show ("false", .bool false) ∈ keywordLiterals by simp [keywordLiterals]) hfalse
        exact ⟨t, _, ht, hl, rfl, hr⟩
    · cases h2
      obtain ⟨t, ht, hl, hr⟩ :=
        hword (show ("true", .bool true) ∈ keywordLiterals by simp [keywordLiterals]) htrue
      exact ⟨t, _, ht, hl, rfl, hr⟩
  · -- a string or number literal, with the value its token carries
    cases h1
    obtain ⟨ht, hk, rfl⟩ := expectAny_some ts ho
    obtain ⟨hs, hi, hf⟩ := hts t (Array.mem_of_getElem? ht)
    have hval : ∃ v, t.value = some v := by
      simp only [List.mem_cons, List.not_mem_nil, or_false] at hk
      rcases hk with hk | hk | hk
      · obtain ⟨s, hs⟩ := hs hk
        exact ⟨_, hs⟩
      · obtain ⟨n, hi⟩ := hi hk
        exact ⟨_, hi⟩
      · obtain ⟨x, hf⟩ := hf hk
        exact ⟨_, hf⟩
    obtain ⟨v, hv⟩ := hval
    exact ⟨t, v, ht, .valued hk hv, by rw [hv]; rfl, rfl⟩

theorem comparisonOp_derives {pos p : Nat} {op : CompareOp}
    (h : (comparisonOp ts pos).run f = .ok (some (op, p), f')) :
    KindAt ts pos op.kind ∧ p = pos + 1 := by
  unfold comparisonOp at h
  obtain ⟨o, f1, ho, h1⟩ := run_bind_eq_ok.1 h
  rcases o with _ | ⟨t, q⟩
  · cases h1
  obtain ⟨ht, hk, rfl⟩ := expectAny_some ts ho
  simp only [run_pure, Except.ok.injEq, Prod.mk.injEq] at h1
  obtain ⟨hfind, -⟩ := h1
  obtain ⟨k, hk', hop⟩ := Option.map_eq_some_iff.1 hfind
  have hkind : k.1 = t.kind ∧ k ∈ comparisonOps := by
    refine ⟨by simpa using List.find?_some hk', List.mem_of_find?_eq_some hk'⟩
  cases hop
  refine ⟨⟨t, ht, ?_⟩, rfl⟩
  have hkinds : ∀ k ∈ comparisonOps, k.2.kind = k.1 := by decide
  rw [hkinds k hkind.2, hkind.1]

theorem bangs_derives :
    ∀ (fuel : Nat) {pos p k : Nat} {f f' : Frontier},
      (bangs ts pos fuel).run f = .ok ((k, p), f') →
      p = pos + k ∧ ∀ m < k, KindAt ts (pos + m) .bang
  | 0, pos, p, k, f, f', h => by
    cases h
    exact ⟨rfl, by simp⟩
  | fuel + 1, pos, p, k, f, f', h => by
    rw [bangs] at h
    obtain ⟨o, f1, ho, h1⟩ := run_bind_eq_ok.1 h
    rcases o with _ | ⟨t, q⟩
    · cases h1
      exact ⟨rfl, by simp⟩
    obtain ⟨ht, hk, rfl, rfl⟩ := expect_some ts ho
    obtain ⟨⟨k', p'⟩, f2, hrest, h2⟩ := run_bind_eq_ok.1 h1
    cases h2
    obtain ⟨rfl, hbangs⟩ := bangs_derives fuel hrest
    refine ⟨by omega, fun m hm => ?_⟩
    cases m with
    | zero => exact ⟨t, ht, hk⟩
    | succ m =>
      have := hbangs m (by omega)
      rwa [Nat.add_right_comm, Nat.add_assoc] at this

end Leaves

/-! ## Every reading is a derivation -/

section Rules

variable {ts : Array Token} {reg : Registry}

/-- What each rule returns at a given fuel, when it returns something, is derived from the
tokens it read. -/
structure ReadsDerived (ts : Array Token) (reg : Registry) (n : Nat) : Prop where
  segments {pos p : Nat} {f f' : Frontier} {segs : List Segment} :
    (segments ts reg n pos).run f = .ok ((segs, p), f') → DerivesSegments ts reg pos p segs
  segment {pos p : Nat} {f f' : Frontier} {s : Segment} :
    (segment ts reg n pos).run f = .ok (some (s, p), f') → DerivesSegment ts reg pos p s
  bracketed {pos p : Nat} {f f' : Frontier} {sels : List Selector} :
    (bracketed ts reg n pos).run f = .ok (some (sels, p), f') →
      DerivesBracketed ts reg pos p sels
  moreSelectors {pos p : Nat} {f f' : Frontier} {sels : List Selector} :
    (moreSelectors ts reg n pos).run f = .ok ((sels, p), f') →
      DerivesMoreSelectors ts reg pos p sels
  selector {pos p : Nat} {f f' : Frontier} {s : Selector} :
    (selector ts reg n pos).run f = .ok (some (s, p), f') → DerivesSelector ts reg pos p s
  logicalOr {pos p : Nat} {f f' : Frontier} {o : Operand} :
    (logicalOr ts reg n pos).run f = .ok (some (o, p), f') → DerivesOr ts reg pos p o.expr
  orTail {pos p : Nat} {f f' : Frontier} {os : List Operand} :
    (orTail ts reg n pos).run f = .ok ((os, p), f') →
      DerivesOrTail ts reg pos p (os.map (·.expr))
  logicalAnd {pos p : Nat} {f f' : Frontier} {o : Operand} :
    (logicalAnd ts reg n pos).run f = .ok (some (o, p), f') → DerivesAnd ts reg pos p o.expr
  andTail {pos p : Nat} {f f' : Frontier} {os : List Operand} :
    (andTail ts reg n pos).run f = .ok ((os, p), f') →
      DerivesAndTail ts reg pos p (os.map (·.expr))
  basic {pos p : Nat} {f f' : Frontier} {o : Operand} :
    (basic ts reg n pos).run f = .ok (some (o, p), f') → DerivesBasic ts reg pos p o.expr
  spannedPrimary {pos p : Nat} {f f' : Frontier} {o : Operand} :
    (spannedPrimary ts reg n pos).run f = .ok (some (o, p), f') →
      DerivesPrimary ts reg pos p o.expr
  primary {pos p : Nat} {f f' : Frontier} {e : Expr} :
    (primary ts reg n pos).run f = .ok (some (e, p), f') → DerivesPrimary ts reg pos p e
  call {pos p : Nat} {f f' : Frontier} {e : Expr} :
    (call ts reg n pos).run f = .ok (some (e, p), f') → DerivesPrimary ts reg pos p e
  arguments {pos p : Nat} {f f' : Frontier} {os : List Operand} :
    (arguments ts reg n pos).run f = .ok ((os, p), f') →
      DerivesArguments ts reg pos p (os.map (·.expr))
  moreArguments {pos p : Nat} {f f' : Frontier} {os : List Operand} :
    (moreArguments ts reg n pos).run f = .ok ((os, p), f') →
      DerivesMoreArguments ts reg pos p (os.map (·.expr))

theorem readsDerived_zero : ReadsDerived ts reg 0 where
  segments h := by rw [segments] at h; cases h; exact .nil _
  segment h := by rw [segment] at h; cases h
  bracketed h := by rw [bracketed] at h; cases h
  moreSelectors h := by rw [moreSelectors] at h; cases h; exact .nil _
  selector h := by rw [selector] at h; cases h
  logicalOr h := by rw [logicalOr] at h; cases h
  orTail h := by rw [orTail] at h; cases h; exact .nil _
  logicalAnd h := by rw [logicalAnd] at h; cases h
  andTail h := by rw [andTail] at h; cases h; exact .nil _
  basic h := by rw [basic] at h; cases h
  spannedPrimary h := by rw [spannedPrimary] at h; cases h
  primary h := by rw [primary] at h; cases h
  call h := by rw [call] at h; cases h
  arguments h := by rw [arguments] at h; cases h; exact .nil _
  moreArguments h := by rw [moreArguments] at h; cases h; exact .nil _

section Succ

variable {n : Nat} (ih : ReadsDerived ts reg n)
include ih

theorem segments_derives_succ {pos p : Nat} {f f' : Frontier} {segs : List Segment}
    (h : (segments ts reg (n + 1) pos).run f = .ok ((segs, p), f')) :
    DerivesSegments ts reg pos p segs := by
  rw [segments] at h
  obtain ⟨o, f1, ho, h1⟩ := run_bind_eq_ok.1 h
  rcases o with _ | ⟨s, q⟩
  · cases h1
    exact .nil _
  · obtain ⟨⟨rest, r⟩, f2, hr, h2⟩ := run_bind_eq_ok.1 h1
    cases h2
    exact .cons (ih.segment ho) (ih.segments hr)

theorem segment_derives_succ {pos p : Nat} {f f' : Frontier} {s : Segment}
    (h : (segment ts reg (n + 1) pos).run f = .ok (some (s, p), f')) :
    DerivesSegment ts reg pos p s := by
  rw [segment] at h
  obtain ⟨o, f1, ho, h1⟩ := run_bind_eq_ok.1 h
  rcases o with _ | ⟨sels, p1⟩
  · -- not a descendant segment: a child segment, bracketed or shorthand
    obtain ⟨o, f2, ho2, h2⟩ := run_bind_eq_ok.1 h1
    rcases o with _ | ⟨sels, p2⟩
    · cases h2
    cases h2
    rcases orElse_some ho2 with hb | ⟨f3, -, hs⟩
    · exact .child (ih.bracketed hb)
    · obtain ⟨s, rfl, rfl, hsh⟩ := shorthand_derives hs
      exact .childShorthand hsh
  · cases h1
    rcases orElse_some ho with hd | ⟨f3, -, hs⟩
    · obtain ⟨o, g1, hdots, hbr⟩ := run_bind_eq_ok.1 hd
      rcases o with _ | ⟨t, q⟩
      · cases hbr
      obtain ⟨ht, hk, rfl, rfl⟩ := expect_some ts hdots
      exact .descendant ⟨t, ht, hk⟩ (ih.bracketed hbr)
    · obtain ⟨s, rfl, rfl, hsh⟩ := shorthand_derives hs
      exact .descendantShorthand hsh

theorem bracketed_derives_succ {pos p : Nat} {f f' : Frontier} {sels : List Selector}
    (h : (bracketed ts reg (n + 1) pos).run f = .ok (some (sels, p), f')) :
    DerivesBracketed ts reg pos p sels := by
  rw [bracketed] at h
  obtain ⟨o, f1, hl, h1⟩ := run_bind_eq_ok.1 h
  rcases o with _ | ⟨lt, p1⟩
  · cases h1
  obtain ⟨hlt, hlk, rfl, rfl⟩ := expect_some ts hl
  obtain ⟨o, f2, hs, h2⟩ := run_bind_eq_ok.1 h1
  rcases o with _ | ⟨s, p2⟩
  · cases h2
  obtain ⟨⟨rest, p3⟩, f3, hr, h3⟩ := run_bind_eq_ok.1 h2
  obtain ⟨o, f4, hrb, h4⟩ := run_bind_eq_ok.1 h3
  rcases o with _ | ⟨rt, q⟩
  · cases h4
  obtain ⟨hrt, hrk, rfl, rfl⟩ := expect_some ts hrb
  cases h4
  exact .mk ⟨lt, hlt, hlk⟩ (ih.selector hs) (ih.moreSelectors hr) ⟨rt, hrt, hrk⟩

theorem moreSelectors_derives_succ {pos p : Nat} {f f' : Frontier} {sels : List Selector}
    (h : (moreSelectors ts reg (n + 1) pos).run f = .ok ((sels, p), f')) :
    DerivesMoreSelectors ts reg pos p sels := by
  rw [moreSelectors] at h
  obtain ⟨o, f1, hc, h1⟩ := run_bind_eq_ok.1 h
  rcases o with _ | ⟨c, p1⟩
  · cases h1
    exact .nil _
  obtain ⟨hct, hck, rfl, rfl⟩ := expect_some ts hc
  obtain ⟨o, f2, hs, h2⟩ := run_bind_eq_ok.1 h1
  rcases o with _ | ⟨s, q⟩
  · cases h2
    exact .nil _
  obtain ⟨⟨rest, r⟩, f3, hr, h3⟩ := run_bind_eq_ok.1 h2
  cases h3
  exact .cons ⟨c, hct, hck⟩ (ih.selector hs) (ih.moreSelectors hr)

theorem selector_derives_succ (hts : TokensValued ts) {pos p : Nat} {f f' : Frontier}
    {s : Selector} (h : (selector ts reg (n + 1) pos).run f = .ok (some (s, p), f')) :
    DerivesSelector ts reg pos p s := by
  rw [selector] at h
  obtain ⟨o, f1, hname, h1⟩ := run_bind_eq_ok.1 h
  rcases o with _ | ⟨t, p1⟩
  case some =>
    -- a name: a string token, which carries the string it denotes
    obtain ⟨ht, hk, rfl, rfl⟩ := expect_some ts hname
    obtain ⟨str, hstr⟩ := (hts t (Array.mem_of_getElem? ht)).1 hk
    dsimp only at h1
    rw [hstr] at h1
    cases h1
    exact .name ht hk hstr
  obtain ⟨o, f2, hstar, h2⟩ := run_bind_eq_ok.1 h1
  rcases o with _ | ⟨t, p2⟩
  case some =>
    obtain ⟨ht, hk, rfl, rfl⟩ := expect_some ts hstar
    cases h2
    exact .wildcard ⟨t, ht, hk⟩
  obtain ⟨o, f3, hfilter, h3⟩ := run_bind_eq_ok.1 h2
  rcases o with _ | r
  case some =>
    -- a filter: a disjunction used as a test
    cases h3
    obtain ⟨o, g1, hq, hf1⟩ := run_bind_eq_ok.1 hfilter
    rcases o with _ | ⟨t, q⟩
    · cases hf1
    obtain ⟨ht, hk, rfl, rfl⟩ := expect_some ts hq
    obtain ⟨o, g2, hor, hf2⟩ := run_bind_eq_ok.1 hf1
    rcases o with _ | ⟨o, q⟩
    · cases hf2
    obtain ⟨e, g3, he, hf3⟩ := run_bind_eq_ok.1 hf2
    cases hf3
    exact .filter ⟨t, ht, hk⟩ (ih.logicalOr hor) (asLogical_run_eq_ok.1 he).1
  obtain ⟨o, f4, hslice, h4⟩ := run_bind_eq_ok.1 h3
  rcases o with _ | r
  case some =>
    cases h4
    exact .slice (slice_derives hts hslice)
  obtain ⟨o, f5, hint, h5⟩ := run_bind_eq_ok.1 h4
  rcases o with _ | ⟨t, q⟩
  · cases h5
  obtain ⟨ht, hk, rfl, rfl⟩ := expect_some ts hint
  obtain ⟨i, f6, hi, h6⟩ := run_bind_eq_ok.1 h5
  cases h6
  exact .index ht (indexValue_indexToken (hts t (Array.mem_of_getElem? ht)) hk hi)

theorem logicalOr_derives_succ {pos p : Nat} {f f' : Frontier} {o : Operand}
    (h : (logicalOr ts reg (n + 1) pos).run f = .ok (some (o, p), f')) :
    DerivesOr ts reg pos p o.expr := by
  rw [logicalOr] at h
  obtain ⟨o, f1, hfirst, h1⟩ := run_bind_eq_ok.1 h
  rcases o with _ | ⟨first, p1⟩
  · cases h1
  obtain ⟨⟨rest, q⟩, f2, hrest, h2⟩ := run_bind_eq_ok.1 h1
  obtain ⟨o', f3, hj, h3⟩ := run_bind_eq_ok.1 h2
  cases h3
  exact .mk (ih.logicalAnd hfirst) (ih.orTail hrest) (joinLogical_expr hj).1

theorem orTail_derives_succ {pos p : Nat} {f f' : Frontier} {os : List Operand}
    (h : (orTail ts reg (n + 1) pos).run f = .ok ((os, p), f')) :
    DerivesOrTail ts reg pos p (os.map (·.expr)) := by
  rw [orTail] at h
  obtain ⟨o, f1, hop, h1⟩ := run_bind_eq_ok.1 h
  rcases o with _ | ⟨t, p1⟩
  · cases h1
    exact .nil _
  obtain ⟨ht, hk, rfl, rfl⟩ := expect_some ts hop
  obtain ⟨o, f2, ho, h2⟩ := run_bind_eq_ok.1 h1
  rcases o with _ | ⟨o, q⟩
  · cases h2
    exact .nil _
  obtain ⟨⟨rest, r⟩, f3, hr, h3⟩ := run_bind_eq_ok.1 h2
  cases h3
  exact .cons ⟨t, ht, hk⟩ (ih.logicalAnd ho) (ih.orTail hr)

theorem logicalAnd_derives_succ {pos p : Nat} {f f' : Frontier} {o : Operand}
    (h : (logicalAnd ts reg (n + 1) pos).run f = .ok (some (o, p), f')) :
    DerivesAnd ts reg pos p o.expr := by
  rw [logicalAnd] at h
  obtain ⟨o, f1, hfirst, h1⟩ := run_bind_eq_ok.1 h
  rcases o with _ | ⟨first, p1⟩
  · cases h1
  obtain ⟨⟨rest, q⟩, f2, hrest, h2⟩ := run_bind_eq_ok.1 h1
  obtain ⟨o', f3, hj, h3⟩ := run_bind_eq_ok.1 h2
  cases h3
  exact .mk (ih.basic hfirst) (ih.andTail hrest) (joinLogical_expr hj).1

theorem andTail_derives_succ {pos p : Nat} {f f' : Frontier} {os : List Operand}
    (h : (andTail ts reg (n + 1) pos).run f = .ok ((os, p), f')) :
    DerivesAndTail ts reg pos p (os.map (·.expr)) := by
  rw [andTail] at h
  obtain ⟨o, f1, hop, h1⟩ := run_bind_eq_ok.1 h
  rcases o with _ | ⟨t, p1⟩
  · cases h1
    exact .nil _
  obtain ⟨ht, hk, rfl, rfl⟩ := expect_some ts hop
  obtain ⟨o, f2, ho, h2⟩ := run_bind_eq_ok.1 h1
  rcases o with _ | ⟨o, q⟩
  · cases h2
    exact .nil _
  obtain ⟨⟨rest, r⟩, f3, hr, h3⟩ := run_bind_eq_ok.1 h2
  cases h3
  exact .cons ⟨t, ht, hk⟩ (ih.basic ho) (ih.andTail hr)

theorem basic_derives_succ {pos p : Nat} {f f' : Frontier} {o : Operand}
    (h : (basic ts reg (n + 1) pos).run f = .ok (some (o, p), f')) :
    DerivesBasic ts reg pos p o.expr := by
  rw [basic] at h
  obtain ⟨⟨k, p1⟩, f1, hbangs, h1⟩ := run_bind_eq_ok.1 h
  obtain ⟨rfl, hmarks⟩ := bangs_derives _ hbangs
  obtain ⟨o, f2, hl, h2⟩ := run_bind_eq_ok.1 h1
  rcases o with _ | ⟨left, q⟩
  · cases h2
  have hleft := ih.spannedPrimary hl
  dsimp only at h2
  split_ifs at h2 with hk
  · -- negations: the primary is used as a test
    obtain ⟨e, f3, he, h3⟩ := run_bind_eq_ok.1 h2
    cases h3
    exact .not hk hmarks hleft (asLogical_run_eq_ok.1 he).1
  have hk0 : k = 0 := by omega
  subst hk0
  obtain ⟨o, f3, hop, h3⟩ := run_bind_eq_ok.1 h2
  rcases o with _ | ⟨op, r⟩
  · cases h3
    exact .primary hleft
  obtain ⟨hopk, rfl⟩ := comparisonOp_derives hop
  obtain ⟨o, f4, hr, h4⟩ := run_bind_eq_ok.1 h3
  rcases o with _ | ⟨right, s⟩
  · cases h4
  obtain ⟨l, f5, hl', h5⟩ := run_bind_eq_ok.1 h4
  obtain ⟨rr, f6, hr', h6⟩ := run_bind_eq_ok.1 h5
  cases h6
  exact .compare hleft hopk (ih.spannedPrimary hr) (asComparable_run_eq_ok.1 hl').1
    (asComparable_run_eq_ok.1 hr').1

theorem spannedPrimary_derives_succ {pos p : Nat} {f f' : Frontier} {o : Operand}
    (h : (spannedPrimary ts reg (n + 1) pos).run f = .ok (some (o, p), f')) :
    DerivesPrimary ts reg pos p o.expr := by
  rw [spannedPrimary] at h
  obtain ⟨o, f1, he, h1⟩ := run_bind_eq_ok.1 h
  rcases o with _ | ⟨e, q⟩
  · cases h1
  cases h1
  exact ih.primary he

theorem primary_derives_succ (hts : TokensValued ts) {pos p : Nat} {f f' : Frontier}
    {e : Expr} (h : (primary ts reg (n + 1) pos).run f = .ok (some (e, p), f')) :
    DerivesPrimary ts reg pos p e := by
  rw [primary] at h
  obtain ⟨o, f1, hparen, h1⟩ := run_bind_eq_ok.1 h
  rcases o with _ | r
  case some =>
    -- parenthesized: a disjunction used as a test
    cases h1
    obtain ⟨o, g1, hl, hp1⟩ := run_bind_eq_ok.1 hparen
    rcases o with _ | ⟨lt, q⟩
    · cases hp1
    obtain ⟨hlt, hlk, rfl, rfl⟩ := expect_some ts hl
    obtain ⟨o, g2, hor, hp2⟩ := run_bind_eq_ok.1 hp1
    rcases o with _ | ⟨o, q⟩
    · cases hp2
    obtain ⟨o', g3, hr, hp3⟩ := run_bind_eq_ok.1 hp2
    rcases o' with _ | ⟨rt, r⟩
    · cases hp3
    obtain ⟨hrt, hrk, rfl, rfl⟩ := expect_some ts hr
    obtain ⟨e, g4, he, hp4⟩ := run_bind_eq_ok.1 hp3
    cases hp4
    exact .paren ⟨lt, hlt, hlk⟩ (ih.logicalOr hor) ⟨rt, hrt, hrk⟩ (asLogical_run_eq_ok.1 he).1
  obtain ⟨o, f2, hroot, h2⟩ := run_bind_eq_ok.1 h1
  rcases o with _ | ⟨t, p2⟩
  case some =>
    -- a query from the root its first token names
    obtain ⟨ht, hk, rfl⟩ := expectAny_some ts hroot
    obtain ⟨⟨segs, q⟩, f3, hsegs, h3⟩ := run_bind_eq_ok.1 h2
    cases h3
    refine .query ⟨t, ht, ?_⟩ (ih.segments hsegs)
    simp only [List.mem_cons, List.not_mem_nil, or_false] at hk
    rcases hk with hk | hk <;> simp [hk, Root.kind]
  obtain ⟨o, f3, hcall, h3⟩ := run_bind_eq_ok.1 h2
  rcases o with _ | r
  · obtain ⟨t, v, ht, hl, rfl, rfl⟩ := literal_derives hts h3
    exact .literal ht hl
  · cases h3
    exact ih.call hcall

theorem call_derives_succ {pos p : Nat} {f f' : Frontier} {e : Expr}
    (h : (call ts reg (n + 1) pos).run f = .ok (some (e, p), f')) :
    DerivesPrimary ts reg pos p e := by
  rw [call] at h
  obtain ⟨o, f1, hn, h1⟩ := run_bind_eq_ok.1 h
  rcases o with _ | ⟨nameTok, p1⟩
  · cases h1
  obtain ⟨hnt, hnk, rfl, rfl⟩ := expect_some ts hn
  obtain ⟨o, f2, hopen, h2⟩ := run_bind_eq_ok.1 h1
  rcases o with _ | ⟨openTok, p2⟩
  · cases h2
  obtain ⟨hot, hok, rfl, rfl⟩ := expect_some ts hopen
  dsimp only at h2
  split_ifs at h2 with hgap
  · cases h2
  split at h2
  · cases h2
  rename_i fn hfn
  obtain ⟨⟨args, p3⟩, f3, hargs, h3⟩ := run_bind_eq_ok.1 h2
  obtain ⟨o, f4, hclose, h4⟩ := run_bind_eq_ok.1 h3
  rcases o with _ | ⟨closeTok, q⟩
  · cases h4
  obtain ⟨hct, hck, rfl, rfl⟩ := expect_some ts hclose
  dsimp only at h4
  split_ifs at h4 with hlen
  · cases h4
  obtain ⟨es, f5, hes, h5⟩ := run_bind_eq_ok.1 h4
  cases h5
  exact .call hnt hnk hot hok (not_not.1 hgap) hfn (ih.arguments hargs) hct hck
    ((asArguments_run_eq_ok (not_not.1 hlen)).1 hes).1

theorem arguments_derives_succ {pos p : Nat} {f f' : Frontier} {os : List Operand}
    (h : (arguments ts reg (n + 1) pos).run f = .ok ((os, p), f')) :
    DerivesArguments ts reg pos p (os.map (·.expr)) := by
  rw [arguments] at h
  obtain ⟨o, f1, ho, h1⟩ := run_bind_eq_ok.1 h
  rcases o with _ | ⟨o, p1⟩
  · cases h1
    exact .nil _
  obtain ⟨⟨rest, q⟩, f2, hr, h2⟩ := run_bind_eq_ok.1 h1
  cases h2
  exact .cons (ih.logicalOr ho) (ih.moreArguments hr)

theorem moreArguments_derives_succ {pos p : Nat} {f f' : Frontier} {os : List Operand}
    (h : (moreArguments ts reg (n + 1) pos).run f = .ok ((os, p), f')) :
    DerivesMoreArguments ts reg pos p (os.map (·.expr)) := by
  rw [moreArguments] at h
  obtain ⟨o, f1, hc, h1⟩ := run_bind_eq_ok.1 h
  rcases o with _ | ⟨c, p1⟩
  · cases h1
    exact .nil _
  obtain ⟨hct, hck, rfl, rfl⟩ := expect_some ts hc
  obtain ⟨o, f2, ho, h2⟩ := run_bind_eq_ok.1 h1
  rcases o with _ | ⟨o, q⟩
  · cases h2
    exact .nil _
  obtain ⟨⟨rest, r⟩, f3, hr, h3⟩ := run_bind_eq_ok.1 h2
  cases h3
  exact .cons ⟨c, hct, hck⟩ (ih.logicalOr ho) (ih.moreArguments hr)

theorem ReadsDerived.succ (hts : TokensValued ts) : ReadsDerived ts reg (n + 1) where
  segments := segments_derives_succ ih
  segment := segment_derives_succ ih
  bracketed := bracketed_derives_succ ih
  moreSelectors := moreSelectors_derives_succ ih
  selector := selector_derives_succ ih hts
  logicalOr := logicalOr_derives_succ ih
  orTail := orTail_derives_succ ih
  logicalAnd := logicalAnd_derives_succ ih
  andTail := andTail_derives_succ ih
  basic := basic_derives_succ ih
  spannedPrimary := spannedPrimary_derives_succ ih
  primary := primary_derives_succ ih hts
  call := call_derives_succ ih
  arguments := arguments_derives_succ ih
  moreArguments := moreArguments_derives_succ ih

end Succ

/-- Every rule, at every fuel, reads only what the grammar derives, by induction on the fuel. -/
theorem readsDerived (hts : TokensValued ts) : ∀ n, ReadsDerived ts reg n
  | 0 => readsDerived_zero
  | n + 1 => (readsDerived hts n).succ hts

theorem query_derives (hts : TokensValued ts) {fuel : Nat} {f f' : Frontier} {q : Query}
    (h : (query ts reg fuel).run f = .ok (some q, f')) : DerivesQuery ts reg q := by
  unfold query at h
  obtain ⟨o, f1, hd, h1⟩ := run_bind_eq_ok.1 h
  rcases o with _ | ⟨t, p⟩
  · cases h1
  obtain ⟨ht, hk, rfl, rfl⟩ := expect_some ts hd
  obtain ⟨⟨segs, q'⟩, f2, hsegs, h2⟩ := run_bind_eq_ok.1 h1
  obtain ⟨o, f3, he, h3⟩ := run_bind_eq_ok.1 h2
  rcases o with _ | ⟨e, r⟩
  · cases h3
  obtain ⟨het, hek, -, -⟩ := expect_some ts he
  cases h3
  exact .mk ⟨t, ht, hk⟩ ((readsDerived hts fuel).segments hsegs) ⟨e, het, hek⟩

end Rules

end Syntax

namespace Query

open Syntax

/-- A query read from the tokens of a text: brackets nest no deeper than `maxNesting`, and the
tokens derive it. -/
theorem ofTokens_derives {reg : Registry} {tokens : List Token} {q : Query}
    (hts : TokensValued tokens.toArray) (h : ofTokens reg tokens = .ok q) :
    tooDeep? 0 tokens = none ∧ DerivesQuery tokens.toArray reg q := by
  unfold ofTokens at h
  split at h
  · cases h
  rename_i hdeep
  refine ⟨Option.eq_none_iff_forall_ne_some.2 hdeep, ?_⟩
  simp only [bind, Except.bind] at h
  split at h
  · cases h
  rename_i r hrun
  obtain ⟨result, frontier⟩ := r
  cases result with
  | some q' =>
    cases h
    exact query_derives hts hrun
  | none => cases h

/-- What a text reads as: it splits into tokens, brackets nest no deeper than `maxNesting`,
and the tokens derive the query. -/
theorem parse_derives {reg : Registry} {source : String} {q : Query}
    (h : parse reg source = .ok q) :
    ∃ tokens, tokenize source = .ok tokens ∧ tooDeep? 0 tokens = none ∧
      DerivesQuery tokens.toArray reg q := by
  unfold parse at h
  split at h
  · cases h
  rename_i tokens htok
  split at h
  · cases h
  rename_i q' hq
  cases h
  exact ⟨tokens, htok, ofTokens_derives (tokenize_valued htok) hq⟩

end Query

end JsonPath
