import JsonPath.Proofs.GrammarSoundness

/-!
# The grammar reads every query it derives

The converse of `JsonPath.Proofs.GrammarSoundness`: tokens that derive a query are read as it
(`DerivesQuery.reads`), so a text reads as a query exactly when it splits into tokens that
nest no deeper than `maxNesting` and derive it (`Query.parse_eq_ok_iff`).

The reading is a parsing expression grammar, and three of its devices could refuse a derivable
query. An alternative tried before the one that matches could throw, through a check beside
the grammar; it never does, since each alternative tried in vain stops at its first token
(a slice before an index stops at the missing colon, after reading an index the derivation
allows). A repetition takes as many items as follow, and an optional part is taken when it
can be; the token after a derivation never continues it, since in a whole query it is the
token the parent derives next. And every rule spends fuel; four units per token are enough.

So each relation is read under a condition on the token after it (`Ends ts j stops`, with
the kinds that would continue it), and with fuel `4 * (j - i)` and a few units more. The
proof follows the derivation: one lemma per rule and alternative reads the rule given what the
rules it calls read (section *One rule at a time*), and a recursion over the derivation puts
them together, handing down the follow condition and the fuel.
-/

set_option autoImplicit false

namespace JsonPath

namespace Syntax

/-! ## Where a rule stops -/

/-- The token at `pos`, if there is one, is of none of the kinds `ks`: a rule that ends at
`pos` is not continued by what follows. -/
def Ends (ts : Array Token) (pos : Nat) (ks : List TokenKind) : Prop :=
  ∀ t, ts[pos]? = some t → t.kind ∉ ks

namespace Ends

variable {ts : Array Token} {pos : Nat} {ks : List TokenKind}

theorem mono {ks' : List TokenKind} (h : Ends ts pos ks) (hsub : ks' ⊆ ks) : Ends ts pos ks' :=
  fun t ht hk => h t ht (hsub hk)

theorem ne {k : TokenKind} (h : Ends ts pos ks) (hk : k ∈ ks) :
    ∀ t, ts[pos]? = some t → t.kind ≠ k :=
  fun t ht hkt => h t ht (hkt ▸ hk)

theorem of_kindAt {k : TokenKind} (h : KindAt ts pos k) (hk : k ∉ ks) : Ends ts pos ks := by
  obtain ⟨t, ht, rfl⟩ := h
  intro t' ht'
  rw [ht] at ht'
  cases ht'
  exact hk

end Ends

theorem KindAt.ne {ts : Array Token} {pos : Nat} {k k' : TokenKind} (h : KindAt ts pos k)
    (hne : k ≠ k') : ∀ t, ts[pos]? = some t → t.kind ≠ k' :=
  (show Ends ts pos [k'] from .of_kindAt h (by simpa using hne)).ne List.mem_cons_self

/-- The kinds that start a segment. -/
@[simp] def segmentStarts : List TokenKind := [.doubleDot, .lbracket, .dot]

/-- The kinds that would continue a primary: a segment of its query, or the parenthesis of a
call after its name. -/
@[simp] def primaryStops : List TokenKind := .lparen :: segmentStarts

/-- The kinds of the comparison operators. -/
@[simp] def comparisonKinds : List TokenKind := [.eq, .ne, .le, .ge, .lt, .gt]

/-- The kinds that would continue a basic expression. -/
@[simp] def basicStops : List TokenKind := comparisonKinds ++ primaryStops

/-- The kinds that would continue a conjunction. -/
@[simp] def andStops : List TokenKind := .andAnd :: basicStops

/-- The kinds that would continue a disjunction. -/
@[simp] def orStops : List TokenKind := .orOr :: andStops

/-- The kinds that would continue a selector: the colon or the bound of a slice, or the
expression of a filter. -/
@[simp] def selectorStops : List TokenKind := .colon :: .integer :: orStops

/-- The kinds that start an expression. -/
@[simp] def exprStarts : List TokenKind := .bang :: primaryStarts

/-! ## Readings from any frontier

The frontier decides only the message of a failed reading, so what a rule reads is stated
for every frontier it may start from. -/

/-- A rule run from any frontier reads a value satisfying `P`, up to `j`. -/
def Finds {α : Type} (x : Grammar (Option (α × Nat))) (j : Nat) (P : α → Prop) : Prop :=
  ∀ f, ∃ a f', x.run f = .ok (some (a, j), f') ∧ P a

/-- A repetition run from any frontier reads values satisfying `P`, up to `j`. -/
def Takes {α : Type} (x : Grammar (α × Nat)) (j : Nat) (P : α → Prop) : Prop :=
  ∀ f, ∃ a f', x.run f = .ok ((a, j), f') ∧ P a

/-- A rule run from any frontier reads nothing, and throws nothing. -/
def Misses {α : Type} (x : Grammar (Option α)) : Prop :=
  ∀ f, ∃ f', x.run f = .ok (none, f')

/-! ## Alternatives that do not match -/

section Misses

variable {ts : Array Token} (reg : Registry) {pos : Nat}

theorem shorthand_miss {marker : TokenKind} (h : Ends ts pos [marker]) :
    Misses (shorthand ts marker pos) := by
  intro f
  rw [shorthand, run_bind_of_ok _ (expect_miss ts (h.ne List.mem_cons_self) f)]
  exact ⟨_, rfl⟩

theorem bracketed_miss (h : Ends ts pos [.lbracket]) (n : Nat) :
    Misses (bracketed ts reg n pos) := by
  intro f
  cases n with
  | zero => exact ⟨f, by rw [bracketed]; rfl⟩
  | succ n =>
    rw [bracketed, run_bind_of_ok _ (expect_miss ts (h.ne List.mem_cons_self) f)]
    exact ⟨_, rfl⟩

/-- No segment starts at a token other than `..`, `[` and `.`. -/
theorem segment_miss (h : Ends ts pos segmentStarts) (n : Nat) :
    Misses (segment ts reg n pos) := by
  intro f
  cases n with
  | zero => exact ⟨f, by rw [segment]; rfl⟩
  | succ n =>
    obtain ⟨f2, h2⟩ := shorthand_miss (h.mono (by simp [segmentStarts]) :
      Ends ts pos [.doubleDot]) (f.note pos TokenKind.doubleDot.description)
    obtain ⟨f3, h3⟩ := bracketed_miss reg (h.mono (by simp [segmentStarts])) n f2
    obtain ⟨f4, h4⟩ := shorthand_miss (h.mono (by simp [segmentStarts]) : Ends ts pos [.dot]) f3
    rw [segment, run_bind, orElse_run, run_bind,
      expect_miss ts (h.ne (by simp [segmentStarts]))]
    simp only [run_pure, h2]
    rw [run_bind, orElse_run, h3]
    dsimp only
    rw [h4]
    exact ⟨_, rfl⟩

/-- A call is not read where no identifier stands, or where no `(` follows it. -/
theorem call_miss (h : Ends ts pos [.ident] ∨ Ends ts (pos + 1) [.lparen]) (n : Nat) :
    Misses (call ts reg n pos) := by
  intro f
  cases n with
  | zero => exact ⟨f, by rw [call]; rfl⟩
  | succ n =>
    rw [call, run_bind]
    rcases h with h | h
    · rw [expect_miss ts (h.ne List.mem_cons_self)]
      exact ⟨_, rfl⟩
    · obtain ⟨⟨o, f1⟩, ho⟩ := expect_ok ts .ident pos f
      rw [ho]
      rcases o with _ | ⟨t, p⟩
      · exact ⟨_, rfl⟩
      obtain ⟨-, -, rfl, rfl⟩ := expect_some ts ho
      dsimp only
      rw [run_bind, expect_miss ts (h.ne List.mem_cons_self)]
      exact ⟨_, rfl⟩

theorem literal_miss (h : Ends ts pos [.string, .integer, .float, .ident]) :
    Misses (literal ts pos) := by
  intro f
  have hw : ∀ (word : String) t, ts[pos]? = some t → t.kind = .ident → t.text ≠ word :=
    fun _ t ht hk => absurd hk (h.ne (by simp) t ht)
  obtain ⟨f1, h1⟩ := expectAny_miss ts (h.mono (by simp) : Ends ts pos [.string, .integer, .float]) f
  rw [literal, run_bind, h1]
  dsimp only
  rw [run_bind, keyword_miss ts (hw _)]
  dsimp only
  rw [run_bind, keyword_miss ts (hw _)]
  dsimp only
  rw [run_bind, keyword_miss ts (hw _)]
  exact ⟨_, rfl⟩

theorem primary_miss (h : Ends ts pos primaryStarts) (n : Nat) :
    Misses (primary ts reg n pos) := by
  intro f
  cases n with
  | zero => exact ⟨f, by rw [primary]; rfl⟩
  | succ n =>
    obtain ⟨f2, h2⟩ := expectAny_miss ts (h.mono (by simp [primaryStarts]) :
      Ends ts pos [.dollar, .atSign]) (f.note pos TokenKind.lparen.description)
    obtain ⟨f3, h3⟩ := call_miss reg (.inl (h.mono (by simp [primaryStarts]))) n f2
    obtain ⟨f4, h4⟩ := literal_miss (h.mono (by simp [primaryStarts])) f3
    rw [primary, run_bind, run_bind, expect_miss ts (h.ne (by simp [primaryStarts]))]
    dsimp only
    rw [run_pure]
    dsimp only
    rw [run_bind, h2]
    dsimp only
    rw [run_bind, h3]
    exact ⟨_, h4⟩

theorem spannedPrimary_miss (h : Ends ts pos primaryStarts) (n : Nat) :
    Misses (spannedPrimary ts reg n pos) := by
  intro f
  cases n with
  | zero => exact ⟨f, by rw [spannedPrimary]; rfl⟩
  | succ n =>
    obtain ⟨f1, h1⟩ := primary_miss reg h n f
    rw [spannedPrimary, run_bind, h1]
    exact ⟨_, rfl⟩

theorem bangs_miss (h : Ends ts pos [.bang]) (fuel : Nat) : Takes (bangs ts pos fuel) pos (· = 0) := by
  intro f
  cases fuel with
  | zero => exact ⟨0, f, by rw [bangs]; rfl, rfl⟩
  | succ fuel =>
    rw [bangs, run_bind, expect_miss ts (h.ne List.mem_cons_self)]
    exact ⟨_, _, rfl, rfl⟩

theorem basic_miss (h : Ends ts pos exprStarts) (n : Nat) : Misses (basic ts reg n pos) := by
  intro f
  cases n with
  | zero => exact ⟨f, by rw [basic]; rfl⟩
  | succ n =>
    obtain ⟨_, f1, h1, rfl⟩ := bangs_miss (h.mono (by simp [exprStarts])) (ts.size + 1) f
    obtain ⟨f2, h2⟩ := spannedPrimary_miss reg (h.mono (List.subset_cons_self _ _)) n f1
    rw [basic, run_bind, h1]
    dsimp only
    rw [run_bind, h2]
    exact ⟨_, rfl⟩

theorem logicalAnd_miss (h : Ends ts pos exprStarts) (n : Nat) :
    Misses (logicalAnd ts reg n pos) := by
  intro f
  cases n with
  | zero => exact ⟨f, by rw [logicalAnd]; rfl⟩
  | succ n =>
    obtain ⟨f1, h1⟩ := basic_miss reg h n f
    rw [logicalAnd, run_bind, h1]
    exact ⟨_, rfl⟩

/-- No expression starts at a token that cannot start one. -/
theorem logicalOr_miss (h : Ends ts pos exprStarts) (n : Nat) :
    Misses (logicalOr ts reg n pos) := by
  intro f
  cases n with
  | zero => exact ⟨f, by rw [logicalOr]; rfl⟩
  | succ n =>
    obtain ⟨f1, h1⟩ := logicalAnd_miss reg h n f
    rw [logicalOr, run_bind, h1]
    exact ⟨_, rfl⟩

theorem comparisonOp_miss (h : Ends ts pos comparisonKinds) : Misses (comparisonOp ts pos) := by
  intro f
  obtain ⟨f1, h1⟩ := expectAny_miss ts (show Ends ts pos (comparisonOps.map (·.1)) from h) f
  rw [comparisonOp, run_bind, h1]
  exact ⟨f1, rfl⟩

end Misses

/-! ## Rules that read a fixed number of tokens -/

section Leaves

variable {ts : Array Token}

theorem indexValue_of_indexToken {t : Token} {n : Int} (h : IndexToken t n) (f : Frontier) :
    (indexValue t).run f = .ok (n, f) := by
  obtain ⟨-, htext, hv, hrange⟩ := h
  unfold indexValue
  rw [if_neg htext, hv]
  simp only [InIndexRange] at hrange
  dsimp only
  rw [if_pos hrange]
  rfl

theorem bound_reads {i j : Nat} {b : Option Int} (h : BoundAt ts i j b)
    (hend : Ends ts j [.integer]) : Takes (bound ts i) j (· = b) := by
  intro f
  cases h with
  | none =>
    rw [bound, run_bind, expect_miss ts (hend.ne List.mem_cons_self)]
    exact ⟨_, _, rfl, rfl⟩
  | some ht hi =>
    rw [bound, run_bind, expect_hit ts ht hi.1]
    dsimp only
    rw [run_bind, indexValue_of_indexToken hi]
    exact ⟨_, _, rfl, rfl⟩

theorem BoundAt.first {i j : Nat} {b : Option Int} (h : BoundAt ts i j b) (hk : KindAt ts j .colon) :
    KindAt ts i .integer ∨ KindAt ts i .colon := by
  cases h with
  | none => exact .inr hk
  | some ht hi => exact .inl ⟨_, ht, hi.1⟩

/-- A slice starts with its first bound or its colon. -/
theorem SliceAt.first {i j : Nat} {s : Selector} (h : SliceAt ts i j s) :
    KindAt ts i .integer ∨ KindAt ts i .colon := by
  cases h with
  | bounds ha hc _ => exact ha.first hc
  | step ha hc _ _ _ _ => exact ha.first hc

theorem slice_reads {i j : Nat} {s : Selector} (h : SliceAt ts i j s)
    (hend : Ends ts j [.colon, .integer]) : Finds (slice ts i) j (· = s) := by
  intro f
  cases h with
  | bounds ha hc hb =>
    -- `start:end`, with no second colon after it
    obtain ⟨_, f1, h1, rfl⟩ := bound_reads ha (.of_kindAt hc (by simp)) f
    obtain ⟨t1, ht1, hk1⟩ := hc
    obtain ⟨_, f2, h2, rfl⟩ := bound_reads hb (hend.mono (by simp)) f1
    rw [slice, run_bind, h1]
    dsimp only
    rw [run_bind, expect_hit ts ht1 hk1]
    dsimp only
    rw [run_bind, h2]
    dsimp only
    rw [run_bind, expect_miss ts (hend.ne (by simp))]
    exact ⟨_, _, rfl, rfl⟩
  | step ha hc hb hc' hs hstep =>
    obtain ⟨_, f1, h1, rfl⟩ := bound_reads ha (.of_kindAt hc (by simp)) f
    obtain ⟨t1, ht1, hk1⟩ := hc
    obtain ⟨_, f2, h2, rfl⟩ := bound_reads hb (.of_kindAt hc' (by simp)) f1
    obtain ⟨t2, ht2, hk2⟩ := hc'
    rw [slice, run_bind, h1]
    dsimp only
    rw [run_bind, expect_hit ts ht1 hk1]
    dsimp only
    rw [run_bind, h2]
    dsimp only
    rw [run_bind, expect_hit ts ht2 hk2]
    dsimp only
    cases hs with
    | none =>
      -- `start:end:`, a step left out
      rw [run_bind, expect_miss ts (hend.ne (by simp))]
      exact ⟨_, _, rfl, rfl⟩
    | some ht hi =>
      -- `start:end:step`, a step that is not zero
      rw [run_bind, expect_hit ts ht hi.1]
      dsimp only
      rw [run_bind, indexValue_of_indexToken hi]
      dsimp only
      rw [if_neg (hstep _ rfl)]
      exact ⟨_, _, rfl, rfl⟩

theorem shorthand_reads {marker : TokenKind} {i : Nat} {s : Selector}
    (h : ShorthandAt ts marker i s) : Finds (shorthand ts marker i) (i + 2) (· = [s]) := by
  intro f
  cases h with
  | wildcard hm hmk ht htk hgap =>
    obtain ⟨f1, h1⟩ := expectAny_hit ts ht (show _ ∈ [TokenKind.asterisk, .ident] by simp [htk]) f
    rw [shorthand, run_bind, expect_hit ts hm hmk]
    dsimp only
    rw [run_bind, h1]
    dsimp only
    rw [if_neg (not_not.2 hgap), if_pos htk]
    exact ⟨_, _, rfl, rfl⟩
  | name hm hmk ht htk hgap =>
    obtain ⟨f1, h1⟩ := expectAny_hit ts ht (show _ ∈ [TokenKind.asterisk, .ident] by simp [htk]) f
    rw [shorthand, run_bind, expect_hit ts hm hmk]
    dsimp only
    rw [run_bind, h1]
    dsimp only
    rw [if_neg (not_not.2 hgap), if_neg (by simp [htk])]
    exact ⟨_, _, rfl, rfl⟩

theorem literal_reads {i : Nat} {t : Token} {v : Value} (ht : ts[i]? = some t)
    (hl : LiteralToken t v) : Finds (literal ts i) (i + 1) (· = .literal v) := by
  intro f
  cases hl with
  | valued hk hv =>
    -- a string or a number, with the value its token carries
    obtain ⟨f1, h1⟩ := expectAny_hit ts ht hk f
    rw [literal, run_bind, h1]
    refine ⟨_, _, rfl, ?_⟩
    rw [hv]
    rfl
  | keyword hk hmem =>
    -- `true`, `false` or `null`, tried in this order by their texts
    obtain ⟨f1, h1⟩ := expectAny_miss ts
      (show Ends ts i [.string, .integer, .float] from .of_kindAt ⟨t, ht, hk⟩ (by simp)) f
    have hword : ∀ word, t.text ≠ word → ∀ t', ts[i]? = some t' → t'.kind = .ident →
        t'.text ≠ word := by
      intro word hw t' ht' _
      rw [ht] at ht'
      cases ht'
      exact hw
    rw [literal, run_bind, h1]
    dsimp only
    simp only [keywordLiterals, List.mem_cons, Prod.mk.injEq, List.not_mem_nil, or_false] at hmem
    rcases hmem with ⟨htext, rfl⟩ | ⟨htext, rfl⟩ | ⟨htext, rfl⟩
    · rw [run_bind, keyword_hit ts ht hk htext]
      exact ⟨_, _, rfl, rfl⟩
    · rw [run_bind, keyword_miss ts (hword _ (by simp [htext]))]
      dsimp only
      rw [run_bind, keyword_hit ts ht hk htext]
      exact ⟨_, _, rfl, rfl⟩
    · rw [run_bind, keyword_miss ts (hword _ (by simp [htext]))]
      dsimp only
      rw [run_bind, keyword_miss ts (hword _ (by simp [htext]))]
      dsimp only
      rw [run_bind, keyword_hit ts ht hk htext]
      exact ⟨_, _, rfl, rfl⟩

theorem comparisonOp_reads {pos : Nat} {op : CompareOp} (h : KindAt ts pos op.kind) :
    Finds (comparisonOp ts pos) (pos + 1) (· = op) := by
  intro f
  obtain ⟨t, ht, hk⟩ := h
  obtain ⟨f1, h1⟩ := expectAny_hit ts ht
    (show t.kind ∈ comparisonOps.map (·.1) by rw [hk]; cases op <;> simp [comparisonOps, CompareOp.kind]) f
  rw [comparisonOp, run_bind, h1]
  refine ⟨op, f1, ?_, rfl⟩
  cases op <;> simp [hk, comparisonOps, CompareOp.kind] <;> rfl

/-- The `!` marks in front of a basic expression are counted, given fuel enough. -/
theorem bangs_reads : ∀ (k pos fuel : Nat), k ≤ fuel →
    (∀ m < k, KindAt ts (pos + m) .bang) → Ends ts (pos + k) [.bang] →
    Takes (bangs ts pos fuel) (pos + k) (· = k)
  | 0, _, fuel, _, _, hend => bangs_miss hend fuel
  | k + 1, pos, fuel + 1, hk, hmarks, hend => by
    intro f
    obtain ⟨t, ht, htk⟩ := hmarks 0 (Nat.succ_pos k)
    rw [Nat.add_zero] at ht
    have hrest : ∀ m < k, KindAt ts (pos + 1 + m) .bang := fun m hm => by
      rw [Nat.add_assoc, Nat.add_comm 1 m]
      exact hmarks (m + 1) (by omega)
    obtain ⟨_, f1, h1, rfl⟩ := bangs_reads k (pos + 1) fuel (by omega) hrest
      (by rwa [Nat.add_right_comm, Nat.add_assoc]) f
    rw [bangs, run_bind, expect_hit ts ht htk]
    dsimp only
    rw [run_bind, h1]
    exact ⟨_, _, by rw [Nat.add_right_comm, Nat.add_assoc]; rfl, rfl⟩

end Leaves

/-! ## The first token of a derivation -/

section Starts

variable {ts : Array Token} {reg : Registry}

theorem ShorthandAt.marker {marker : TokenKind} {i : Nat} {s : Selector}
    (h : ShorthandAt ts marker i s) : KindAt ts i marker := by
  cases h with
  | wildcard hm hmk _ _ _ => exact ⟨_, hm, hmk⟩
  | name hm hmk _ _ _ => exact ⟨_, hm, hmk⟩

/-- After the marker of a shorthand stands no `[`. -/
theorem ShorthandAt.ends_next {marker : TokenKind} {i : Nat} {s : Selector}
    (h : ShorthandAt ts marker i s) : Ends ts (i + 1) [.lbracket] := by
  cases h with
  | wildcard _ _ ht htk _ => exact .of_kindAt ⟨_, ht, htk⟩ (by simp)
  | name _ _ ht htk _ => exact .of_kindAt ⟨_, ht, htk⟩ (by simp)

theorem DerivesBracketed.first {i j : Nat} {sels : List Selector}
    (h : DerivesBracketed ts reg i j sels) : KindAt ts i .lbracket := by
  cases h with
  | mk hl _ _ _ => exact hl

/-- No `!` starts a primary. -/
theorem DerivesPrimary.ends_bang {i j : Nat} {e : Expr} (h : DerivesPrimary ts reg i j e) :
    Ends ts i [.bang] := by
  obtain ⟨t, ht, hk⟩ := h.starts
  refine .of_kindAt ⟨t, ht, rfl⟩ fun hb => ?_
  rw [List.mem_singleton] at hb
  rw [hb] at hk
  simp [primaryStarts] at hk

/-! A repetition that is followed by `ks` is followed by `ks` from its start, when its
separator is not one of them: it is empty, or it starts with its separator. -/

theorem DerivesMoreSelectors.ends {i j : Nat} {sels : List Selector} {ks : List TokenKind}
    (h : DerivesMoreSelectors ts reg i j sels) (hend : Ends ts j ks) (hk : .comma ∉ ks) :
    Ends ts i ks := by
  cases h with
  | nil => exact hend
  | cons hc _ _ => exact .of_kindAt hc hk

theorem DerivesOrTail.ends {i j : Nat} {es : List Expr} {ks : List TokenKind}
    (h : DerivesOrTail ts reg i j es) (hend : Ends ts j ks) (hk : .orOr ∉ ks) :
    Ends ts i ks := by
  cases h with
  | nil => exact hend
  | cons hc _ _ => exact .of_kindAt hc hk

theorem DerivesAndTail.ends {i j : Nat} {es : List Expr} {ks : List TokenKind}
    (h : DerivesAndTail ts reg i j es) (hend : Ends ts j ks) (hk : .andAnd ∉ ks) :
    Ends ts i ks := by
  cases h with
  | nil => exact hend
  | cons hc _ _ => exact .of_kindAt hc hk

theorem DerivesMoreArguments.ends {i j : Nat} {es : List Expr} {ks : List TokenKind}
    (h : DerivesMoreArguments ts reg i j es) (hend : Ends ts j ks) (hk : .comma ∉ ks) :
    Ends ts i ks := by
  cases h with
  | nil => exact hend
  | cons hc _ _ => exact .of_kindAt hc hk

end Starts

/-! ## One rule at a time

Each lemma reads one rule at fuel `n + 1`, given what the rules it calls read at fuel `n`,
through the alternatives the rule tries before the one that matches. -/

section Steps

variable {ts : Array Token} {reg : Registry} {n : Nat}

theorem segments_nil_reads {i : Nat} (h : Ends ts i segmentStarts) (n : Nat) :
    Takes (segments ts reg n i) i (· = []) := by
  intro f
  cases n with
  | zero => exact ⟨[], f, by rw [segments]; rfl, rfl⟩
  | succ n =>
    obtain ⟨f1, h1⟩ := segment_miss reg h n f
    rw [segments, run_bind, h1]
    exact ⟨_, _, rfl, rfl⟩

theorem segments_cons_reads {i j k : Nat} {s : Segment} {rest : List Segment}
    (hs : Finds (segment ts reg n i) j (· = s)) (hr : Takes (segments ts reg n j) k (· = rest)) :
    Takes (segments ts reg (n + 1) i) k (· = s :: rest) := by
  intro f
  obtain ⟨_, f1, h1, rfl⟩ := hs f
  obtain ⟨_, f2, h2, rfl⟩ := hr f1
  rw [segments, run_bind, h1]
  dsimp only
  rw [run_bind, h2]
  exact ⟨_, _, rfl, rfl⟩

theorem segment_descendant_reads {i j : Nat} {sels : List Selector}
    (hk : KindAt ts i .doubleDot) (hb : Finds (bracketed ts reg n (i + 1)) j (· = sels)) :
    Finds (segment ts reg (n + 1) i) j (· = .descendant sels) := by
  intro f
  obtain ⟨t, ht, htk⟩ := hk
  obtain ⟨_, f1, h1, rfl⟩ := hb f
  rw [segment, run_bind, orElse_run, run_bind, expect_hit ts ht htk]
  dsimp only
  rw [h1]
  exact ⟨_, _, rfl, rfl⟩

theorem segment_descendantShorthand_reads {i : Nat} {s : Selector}
    (hs : ShorthandAt ts .doubleDot i s) (n : Nat) :
    Finds (segment ts reg (n + 1) i) (i + 2) (· = .descendant [s]) := by
  intro f
  -- `..` with no `[` after it: the bracketed form is given up for the shorthand
  obtain ⟨m, hm, hmk⟩ := hs.marker
  obtain ⟨f1, h1⟩ := bracketed_miss reg hs.ends_next n f
  obtain ⟨_, f2, h2, rfl⟩ := shorthand_reads hs f1
  rw [segment, run_bind, orElse_run, run_bind, expect_hit ts hm hmk]
  dsimp only
  rw [h1]
  dsimp only
  rw [h2]
  exact ⟨_, _, rfl, rfl⟩

theorem segment_child_reads {i j : Nat} {sels : List Selector} (hk : KindAt ts i .lbracket)
    (hb : Finds (bracketed ts reg n i) j (· = sels)) :
    Finds (segment ts reg (n + 1) i) j (· = .child sels) := by
  intro f
  have hdots : Ends ts i [.doubleDot] := .of_kindAt hk (by simp)
  obtain ⟨f2, h2⟩ := shorthand_miss hdots (f.note i TokenKind.doubleDot.description)
  obtain ⟨_, f3, h3, rfl⟩ := hb f2
  rw [segment, run_bind, orElse_run, run_bind, expect_miss ts (hdots.ne List.mem_cons_self)]
  simp only [run_pure, h2]
  rw [run_bind, orElse_run, h3]
  exact ⟨_, _, rfl, rfl⟩

theorem segment_childShorthand_reads {i : Nat} {s : Selector} (hs : ShorthandAt ts .dot i s)
    (n : Nat) : Finds (segment ts reg (n + 1) i) (i + 2) (· = .child [s]) := by
  intro f
  have hdots : Ends ts i [.doubleDot, .lbracket] := .of_kindAt hs.marker (by simp)
  obtain ⟨f2, h2⟩ := shorthand_miss (hdots.mono (by simp) : Ends ts i [.doubleDot])
    (f.note i TokenKind.doubleDot.description)
  obtain ⟨f3, h3⟩ := bracketed_miss reg (hdots.mono (by simp)) n f2
  obtain ⟨_, f4, h4, rfl⟩ := shorthand_reads hs f3
  rw [segment, run_bind, orElse_run, run_bind, expect_miss ts (hdots.ne (by simp))]
  simp only [run_pure, h2]
  rw [run_bind, orElse_run, h3]
  dsimp only
  rw [h4]
  exact ⟨_, _, rfl, rfl⟩

theorem bracketed_reads {i j k : Nat} {s : Selector} {rest : List Selector}
    (hl : KindAt ts i .lbracket) (hs : Finds (selector ts reg n (i + 1)) j (· = s))
    (hm : Takes (moreSelectors ts reg n j) k (· = rest)) (hr : KindAt ts k .rbracket) :
    Finds (bracketed ts reg (n + 1) i) (k + 1) (· = s :: rest) := by
  intro f
  obtain ⟨lt, hlt, hlk⟩ := hl
  obtain ⟨rt, hrt, hrk⟩ := hr
  obtain ⟨_, f1, h1, rfl⟩ := hs f
  obtain ⟨_, f2, h2, rfl⟩ := hm f1
  rw [bracketed, run_bind, expect_hit ts hlt hlk]
  dsimp only
  rw [run_bind, h1]
  dsimp only
  rw [run_bind, h2]
  dsimp only
  rw [run_bind, expect_hit ts hrt hrk]
  exact ⟨_, _, rfl, rfl⟩

theorem moreSelectors_nil_reads {i : Nat} (h : Ends ts i [.comma]) (n : Nat) :
    Takes (moreSelectors ts reg n i) i (· = []) := by
  intro f
  cases n with
  | zero => exact ⟨[], f, by rw [moreSelectors]; rfl, rfl⟩
  | succ n =>
    rw [moreSelectors, run_bind, expect_miss ts (h.ne List.mem_cons_self)]
    exact ⟨_, _, rfl, rfl⟩

theorem moreSelectors_cons_reads {i j k : Nat} {s : Selector} {rest : List Selector}
    (hc : KindAt ts i .comma) (hs : Finds (selector ts reg n (i + 1)) j (· = s))
    (hr : Takes (moreSelectors ts reg n j) k (· = rest)) :
    Takes (moreSelectors ts reg (n + 1) i) k (· = s :: rest) := by
  intro f
  obtain ⟨c, hct, hck⟩ := hc
  obtain ⟨_, f1, h1, rfl⟩ := hs f
  obtain ⟨_, f2, h2, rfl⟩ := hr f1
  rw [moreSelectors, run_bind, expect_hit ts hct hck]
  dsimp only
  rw [run_bind, h1]
  dsimp only
  rw [run_bind, h2]
  exact ⟨_, _, rfl, rfl⟩

theorem selector_name_reads {i : Nat} {t : Token} {s : String} (ht : ts[i]? = some t)
    (hk : t.kind = .string) (hv : t.value = some (.str s)) (n : Nat) :
    Finds (selector ts reg (n + 1) i) (i + 1) (· = .name s) := by
  intro f
  rw [selector, run_bind, expect_hit ts ht hk]
  dsimp only
  rw [hv]
  exact ⟨_, _, rfl, rfl⟩

theorem selector_wildcard_reads {i : Nat} (hk : KindAt ts i .asterisk) (n : Nat) :
    Finds (selector ts reg (n + 1) i) (i + 1) (· = .wildcard) := by
  intro f
  obtain ⟨t, ht, htk⟩ := hk
  rw [selector, run_bind, expect_miss ts (KindAt.ne ⟨t, ht, htk⟩ (by simp))]
  dsimp only
  rw [run_bind, expect_hit ts ht htk]
  exact ⟨_, _, rfl, rfl⟩

theorem selector_filter_reads {i j : Nat} {e e' : Expr} (hk : KindAt ts i .question)
    (ho : Finds (logicalOr ts reg n (i + 1)) j (·.expr = e)) (he : e.asTest? = some e') :
    Finds (selector ts reg (n + 1) i) j (· = .filter e') := by
  intro f
  obtain ⟨t, ht, htk⟩ := hk
  obtain ⟨o, f1, h1, rfl⟩ :=
    ho ((f.note i TokenKind.string.description).note i TokenKind.asterisk.description)
  rw [selector, run_bind, expect_miss ts (KindAt.ne ⟨t, ht, htk⟩ (by simp))]
  dsimp only
  rw [run_bind, expect_miss ts (KindAt.ne ⟨t, ht, htk⟩ (by simp))]
  dsimp only
  rw [run_bind, run_bind, expect_hit ts ht htk]
  dsimp only
  rw [run_bind, h1]
  dsimp only
  rw [run_bind, asLogical_run_eq_ok.2 ⟨he, rfl⟩]
  exact ⟨_, _, rfl, rfl⟩

theorem selector_slice_reads {i j : Nat} {s : Selector} (hs : SliceAt ts i j s)
    (hend : Ends ts j [.colon, .integer]) (n : Nat) :
    Finds (selector ts reg (n + 1) i) j (· = s) := by
  intro f
  -- a slice starts with an integer or a colon: no name, `*` or filter is read there
  have hfirst : Ends ts i [.string, .asterisk, .question] := by
    rcases hs.first with h | h
    · exact .of_kindAt h (by simp)
    · exact .of_kindAt h (by simp)
  obtain ⟨_, f1, h1, rfl⟩ := slice_reads hs hend
    (((f.note i TokenKind.string.description).note i TokenKind.asterisk.description).note i
      TokenKind.question.description)
  rw [selector, run_bind, expect_miss ts (hfirst.ne (by simp))]
  dsimp only
  rw [run_bind, expect_miss ts (hfirst.ne (by simp))]
  dsimp only
  rw [run_bind, run_bind, expect_miss ts (hfirst.ne (by simp))]
  dsimp only
  rw [run_pure]
  dsimp only
  rw [run_bind, h1]
  exact ⟨_, _, rfl, rfl⟩

/-- An index with no colon after it is no slice. -/
theorem slice_miss_of_index {i : Nat} {t : Token} {x : Int} (ht : ts[i]? = some t)
    (hi : IndexToken t x) (hend : Ends ts (i + 1) [.colon]) : Misses (slice ts i) := by
  intro f
  rw [slice, run_bind, bound, run_bind, expect_hit ts ht hi.1]
  dsimp only
  rw [run_bind, indexValue_of_indexToken hi]
  dsimp only
  rw [run_pure]
  dsimp only
  rw [run_bind, expect_miss ts (hend.ne List.mem_cons_self)]
  exact ⟨_, rfl⟩

theorem selector_index_reads {i : Nat} {t : Token} {x : Int} (ht : ts[i]? = some t)
    (hi : IndexToken t x) (hend : Ends ts (i + 1) [.colon]) (n : Nat) :
    Finds (selector ts reg (n + 1) i) (i + 1) (· = .index x) := by
  intro f
  have hfirst : Ends ts i [.string, .asterisk, .question] := .of_kindAt ⟨t, ht, hi.1⟩ (by simp)
  obtain ⟨f1, h1⟩ := slice_miss_of_index ht hi hend
    (((f.note i TokenKind.string.description).note i TokenKind.asterisk.description).note i
      TokenKind.question.description)
  rw [selector, run_bind, expect_miss ts (hfirst.ne (by simp))]
  dsimp only
  rw [run_bind, expect_miss ts (hfirst.ne (by simp))]
  dsimp only
  rw [run_bind, run_bind, expect_miss ts (hfirst.ne (by simp))]
  dsimp only
  rw [run_pure]
  dsimp only
  rw [run_bind, h1]
  dsimp only
  rw [run_bind, expect_hit ts ht hi.1]
  dsimp only
  rw [run_bind, indexValue_of_indexToken hi]
  exact ⟨_, _, rfl, rfl⟩

theorem logicalOr_reads {i j k : Nat} {first e : Expr} {rest : List Expr}
    (ha : Finds (logicalAnd ts reg n i) j (·.expr = first))
    (ht : Takes (orTail ts reg n j) k (·.map (·.expr) = rest))
    (hj : Expr.joinTests? .or first rest = some e) :
    Finds (logicalOr ts reg (n + 1) i) k (·.expr = e) := by
  intro f
  obtain ⟨o, f1, h1, rfl⟩ := ha f
  obtain ⟨os, f2, h2, rfl⟩ := ht f1
  obtain ⟨o', h3, he⟩ := joinLogical_run_of hj f2
  rw [logicalOr, run_bind, h1]
  dsimp only
  rw [run_bind, h2]
  dsimp only
  rw [run_bind, h3]
  exact ⟨_, _, rfl, he⟩

theorem orTail_nil_reads {i : Nat} (h : Ends ts i [.orOr]) (n : Nat) :
    Takes (orTail ts reg n i) i (·.map (·.expr) = []) := by
  intro f
  cases n with
  | zero => exact ⟨[], f, by rw [orTail]; rfl, rfl⟩
  | succ n =>
    rw [orTail, run_bind, expect_miss ts (h.ne List.mem_cons_self)]
    exact ⟨_, _, rfl, rfl⟩

theorem orTail_cons_reads {i j k : Nat} {e : Expr} {rest : List Expr} (hk : KindAt ts i .orOr)
    (ha : Finds (logicalAnd ts reg n (i + 1)) j (·.expr = e))
    (hr : Takes (orTail ts reg n j) k (·.map (·.expr) = rest)) :
    Takes (orTail ts reg (n + 1) i) k (·.map (·.expr) = e :: rest) := by
  intro f
  obtain ⟨t, ht, htk⟩ := hk
  obtain ⟨o, f1, h1, rfl⟩ := ha f
  obtain ⟨os, f2, h2, rfl⟩ := hr f1
  rw [orTail, run_bind, expect_hit ts ht htk]
  dsimp only
  rw [run_bind, h1]
  dsimp only
  rw [run_bind, h2]
  exact ⟨_, _, rfl, rfl⟩

theorem logicalAnd_reads {i j k : Nat} {first e : Expr} {rest : List Expr}
    (hb : Finds (basic ts reg n i) j (·.expr = first))
    (ht : Takes (andTail ts reg n j) k (·.map (·.expr) = rest))
    (hj : Expr.joinTests? .and first rest = some e) :
    Finds (logicalAnd ts reg (n + 1) i) k (·.expr = e) := by
  intro f
  obtain ⟨o, f1, h1, rfl⟩ := hb f
  obtain ⟨os, f2, h2, rfl⟩ := ht f1
  obtain ⟨o', h3, he⟩ := joinLogical_run_of hj f2
  rw [logicalAnd, run_bind, h1]
  dsimp only
  rw [run_bind, h2]
  dsimp only
  rw [run_bind, h3]
  exact ⟨_, _, rfl, he⟩

theorem andTail_nil_reads {i : Nat} (h : Ends ts i [.andAnd]) (n : Nat) :
    Takes (andTail ts reg n i) i (·.map (·.expr) = []) := by
  intro f
  cases n with
  | zero => exact ⟨[], f, by rw [andTail]; rfl, rfl⟩
  | succ n =>
    rw [andTail, run_bind, expect_miss ts (h.ne List.mem_cons_self)]
    exact ⟨_, _, rfl, rfl⟩

theorem andTail_cons_reads {i j k : Nat} {e : Expr} {rest : List Expr} (hk : KindAt ts i .andAnd)
    (hb : Finds (basic ts reg n (i + 1)) j (·.expr = e))
    (hr : Takes (andTail ts reg n j) k (·.map (·.expr) = rest)) :
    Takes (andTail ts reg (n + 1) i) k (·.map (·.expr) = e :: rest) := by
  intro f
  obtain ⟨t, ht, htk⟩ := hk
  obtain ⟨o, f1, h1, rfl⟩ := hb f
  obtain ⟨os, f2, h2, rfl⟩ := hr f1
  rw [andTail, run_bind, expect_hit ts ht htk]
  dsimp only
  rw [run_bind, h1]
  dsimp only
  rw [run_bind, h2]
  exact ⟨_, _, rfl, rfl⟩

theorem basic_not_reads {i j k : Nat} {e e' : Expr} (hpos : 0 < k)
    (hmarks : ∀ m < k, KindAt ts (i + m) .bang) (hend : Ends ts (i + k) [.bang])
    (hp : Finds (spannedPrimary ts reg n (i + k)) j (·.expr = e)) (he : e.asTest? = some e') :
    Finds (basic ts reg (n + 1) i) j (·.expr = Nat.repeat Expr.not k e') := by
  intro f
  -- the marks stand on tokens, so the fuel `ts.size + 1` of `bangs` counts them all
  have hk : k ≤ ts.size + 1 := by
    obtain ⟨t, ht, -⟩ := hmarks (k - 1) (by omega)
    obtain ⟨hlt, -⟩ := Array.getElem?_eq_some_iff.1 ht
    omega
  obtain ⟨_, f1, h1, rfl⟩ := bangs_reads k i (ts.size + 1) hk hmarks hend f
  obtain ⟨o, f2, h2, rfl⟩ := hp f1
  rw [basic, run_bind, h1]
  dsimp only
  rw [run_bind, h2]
  dsimp only
  rw [if_pos hpos, run_bind, asLogical_run_eq_ok.2 ⟨he, rfl⟩]
  exact ⟨_, _, rfl, rfl⟩

theorem basic_primary_reads {i j : Nat} {e : Expr} (hbang : Ends ts i [.bang])
    (hp : Finds (spannedPrimary ts reg n i) j (·.expr = e)) (hend : Ends ts j comparisonKinds) :
    Finds (basic ts reg (n + 1) i) j (·.expr = e) := by
  intro f
  obtain ⟨_, f1, h1, rfl⟩ := bangs_miss hbang (ts.size + 1) f
  obtain ⟨o, f2, h2, rfl⟩ := hp f1
  obtain ⟨f3, h3⟩ := comparisonOp_miss hend f2
  rw [basic, run_bind, h1]
  dsimp only
  rw [run_bind, h2]
  dsimp only
  rw [if_neg (Nat.lt_irrefl 0), run_bind, h3]
  exact ⟨_, _, rfl, rfl⟩

theorem basic_compare_reads {i j k : Nat} {op : CompareOp} {l r l' r' : Expr}
    (hbang : Ends ts i [.bang]) (hl : Finds (spannedPrimary ts reg n i) j (·.expr = l))
    (hop : KindAt ts j op.kind) (hr : Finds (spannedPrimary ts reg n (j + 1)) k (·.expr = r))
    (hl' : l.asSide? = some l') (hr' : r.asSide? = some r') :
    Finds (basic ts reg (n + 1) i) k (·.expr = .compare l' op r') := by
  intro f
  obtain ⟨_, f1, h1, rfl⟩ := bangs_miss hbang (ts.size + 1) f
  obtain ⟨left, f2, h2, rfl⟩ := hl f1
  obtain ⟨_, f3, h3, rfl⟩ := comparisonOp_reads hop f2
  obtain ⟨right, f4, h4, rfl⟩ := hr f3
  rw [basic, run_bind, h1]
  dsimp only
  rw [run_bind, h2]
  dsimp only
  rw [if_neg (Nat.lt_irrefl 0), run_bind, h3]
  dsimp only
  rw [run_bind, h4]
  dsimp only
  rw [run_bind, asComparable_run_eq_ok.2 ⟨hl', rfl⟩]
  dsimp only
  rw [run_bind, asComparable_run_eq_ok.2 ⟨hr', rfl⟩]
  exact ⟨_, _, rfl, rfl⟩

theorem spannedPrimary_reads {i j : Nat} {e : Expr} (hp : Finds (primary ts reg n i) j (· = e)) :
    Finds (spannedPrimary ts reg (n + 1) i) j (·.expr = e) := by
  intro f
  obtain ⟨_, f1, h1, rfl⟩ := hp f
  rw [spannedPrimary, run_bind, h1]
  exact ⟨_, _, rfl, rfl⟩

theorem primary_paren_reads {i j : Nat} {e e' : Expr} (hl : KindAt ts i .lparen)
    (ho : Finds (logicalOr ts reg n (i + 1)) j (·.expr = e)) (hr : KindAt ts j .rparen)
    (he : e.asTest? = some e') : Finds (primary ts reg (n + 1) i) (j + 1) (· = e') := by
  intro f
  obtain ⟨lt, hlt, hlk⟩ := hl
  obtain ⟨rt, hrt, hrk⟩ := hr
  obtain ⟨o, f1, h1, rfl⟩ := ho f
  rw [primary, run_bind, run_bind, expect_hit ts hlt hlk]
  dsimp only
  rw [run_bind, h1]
  dsimp only
  rw [run_bind, expect_hit ts hrt hrk]
  dsimp only
  rw [run_bind, asLogical_run_eq_ok.2 ⟨he, rfl⟩]
  exact ⟨_, _, rfl, rfl⟩

theorem primary_query_reads {i j : Nat} {root : Root} {segs : List Segment}
    (hk : KindAt ts i root.kind) (hs : Takes (segments ts reg n (i + 1)) j (· = segs)) :
    Finds (primary ts reg (n + 1) i) j (· = .query (.mk root segs)) := by
  intro f
  obtain ⟨t, ht, htk⟩ := hk
  have hroot : t.kind ∈ [TokenKind.dollar, .atSign] := by
    cases root
    · simp [htk, Root.kind]
    · simp [htk, Root.kind]
  have hparen : Ends ts i [.lparen] := by
    refine .of_kindAt ⟨t, ht, rfl⟩ ?_
    simp only [List.mem_cons, List.not_mem_nil, or_false] at hroot
    rcases hroot with h | h
    · simp [h]
    · simp [h]
  obtain ⟨f2, h2⟩ := expectAny_hit ts ht hroot (f.note i TokenKind.lparen.description)
  obtain ⟨_, f3, h3, rfl⟩ := hs f2
  rw [primary, run_bind, run_bind, expect_miss ts (hparen.ne List.mem_cons_self)]
  dsimp only
  rw [run_pure]
  dsimp only
  rw [run_bind, h2]
  dsimp only
  rw [run_bind, h3]
  refine ⟨_, _, rfl, ?_⟩
  -- the root is the one the first token names
  cases root
  · simp [Root.kind] at htk
    simp [htk]
  · simp [Root.kind] at htk
    simp [htk]

theorem primary_call_reads {i j : Nat} {e : Expr} (hk : KindAt ts i .ident)
    (hc : Finds (call ts reg n i) j (· = e)) : Finds (primary ts reg (n + 1) i) j (· = e) := by
  intro f
  have hstart : Ends ts i [.lparen, .dollar, .atSign] := .of_kindAt hk (by simp)
  obtain ⟨f2, h2⟩ := expectAny_miss ts (hstart.mono (by simp) : Ends ts i [.dollar, .atSign])
    (f.note i TokenKind.lparen.description)
  obtain ⟨_, f3, h3, rfl⟩ := hc f2
  rw [primary, run_bind, run_bind, expect_miss ts (hstart.ne (by simp))]
  dsimp only
  rw [run_pure]
  dsimp only
  rw [run_bind, h2]
  dsimp only
  rw [run_bind, h3]
  exact ⟨_, _, rfl, rfl⟩

theorem primary_literal_reads {i : Nat} {t : Token} {v : Value} (ht : ts[i]? = some t)
    (hl : LiteralToken t v) (hend : Ends ts (i + 1) [.lparen]) (n : Nat) :
    Finds (primary ts reg (n + 1) i) (i + 1) (· = .literal v) := by
  intro f
  have hstart : Ends ts i [.lparen, .dollar, .atSign] := by
    refine .of_kindAt ⟨t, ht, rfl⟩ ?_
    cases hl with
    | valued hk _ =>
      simp only [List.mem_cons, List.not_mem_nil, or_false] at hk
      rcases hk with hk | hk | hk
      · simp [hk]
      · simp [hk]
      · simp [hk]
    | keyword hk _ => simp [hk]
  obtain ⟨f2, h2⟩ := expectAny_miss ts (hstart.mono (by simp) : Ends ts i [.dollar, .atSign])
    (f.note i TokenKind.lparen.description)
  -- an identifier with no `(` after it is no call: it is read as `true`, `false` or `null`
  obtain ⟨f3, h3⟩ := call_miss reg (.inr hend) n f2
  obtain ⟨_, f4, h4, rfl⟩ := literal_reads ht hl f3
  rw [primary, run_bind, run_bind, expect_miss ts (hstart.ne (by simp))]
  dsimp only
  rw [run_pure]
  dsimp only
  rw [run_bind, h2]
  dsimp only
  rw [run_bind, h3]
  exact ⟨_, _, h4, rfl⟩

theorem call_reads {i j : Nat} {nameTok openTok closeTok : Token} {fn : FunctionDef}
    {args es : List Expr} (hn : ts[i]? = some nameTok) (hnk : nameTok.kind = .ident)
    (ho : ts[i + 1]? = some openTok) (hok : openTok.kind = .lparen)
    (hgap : nameTok.span.stop = openTok.span.start) (hfn : reg.get? nameTok.text = some fn)
    (ha : Takes (arguments ts reg n (i + 2)) j (·.map (·.expr) = args))
    (hc : ts[j]? = some closeTok) (hck : closeTok.kind = .rparen)
    (hes : Expr.asArgs? fn.signature.params args = some es) :
    Finds (call ts reg (n + 1) i) (j + 1)
      (· = .call nameTok.text es fn.signature.result (nameTok.span.merge closeTok.span)) := by
  intro f
  obtain ⟨os, f1, h1, rfl⟩ := ha f
  have hlen : os.length = fn.signature.params.length := by
    simpa using Expr.asArgs?_length hes
  rw [call, run_bind, expect_hit ts hn hnk]
  dsimp only
  rw [run_bind, expect_hit ts ho hok]
  dsimp only
  rw [if_neg (not_not.2 hgap), hfn]
  dsimp only
  rw [run_bind, h1]
  dsimp only
  rw [run_bind, expect_hit ts hc hck]
  dsimp only
  rw [if_neg (not_not.2 hlen), run_bind, (asArguments_run_eq_ok hlen).2 ⟨hes, rfl⟩]
  exact ⟨_, _, rfl, rfl⟩

theorem arguments_nil_reads {i : Nat} (h : Ends ts i exprStarts) (n : Nat) :
    Takes (arguments ts reg n i) i (·.map (·.expr) = []) := by
  intro f
  cases n with
  | zero => exact ⟨[], f, by rw [arguments]; rfl, rfl⟩
  | succ n =>
    obtain ⟨f1, h1⟩ := logicalOr_miss reg h n f
    rw [arguments, run_bind, h1]
    exact ⟨_, _, rfl, rfl⟩

theorem arguments_cons_reads {i j k : Nat} {e : Expr} {rest : List Expr}
    (ho : Finds (logicalOr ts reg n i) j (·.expr = e))
    (hr : Takes (moreArguments ts reg n j) k (·.map (·.expr) = rest)) :
    Takes (arguments ts reg (n + 1) i) k (·.map (·.expr) = e :: rest) := by
  intro f
  obtain ⟨o, f1, h1, rfl⟩ := ho f
  obtain ⟨os, f2, h2, rfl⟩ := hr f1
  rw [arguments, run_bind, h1]
  dsimp only
  rw [run_bind, h2]
  exact ⟨_, _, rfl, rfl⟩

theorem moreArguments_nil_reads {i : Nat} (h : Ends ts i [.comma]) (n : Nat) :
    Takes (moreArguments ts reg n i) i (·.map (·.expr) = []) := by
  intro f
  cases n with
  | zero => exact ⟨[], f, by rw [moreArguments]; rfl, rfl⟩
  | succ n =>
    rw [moreArguments, run_bind, expect_miss ts (h.ne List.mem_cons_self)]
    exact ⟨_, _, rfl, rfl⟩

theorem moreArguments_cons_reads {i j k : Nat} {e : Expr} {rest : List Expr}
    (hc : KindAt ts i .comma) (ho : Finds (logicalOr ts reg n (i + 1)) j (·.expr = e))
    (hr : Takes (moreArguments ts reg n j) k (·.map (·.expr) = rest)) :
    Takes (moreArguments ts reg (n + 1) i) k (·.map (·.expr) = e :: rest) := by
  intro f
  obtain ⟨c, hct, hck⟩ := hc
  obtain ⟨o, f1, h1, rfl⟩ := ho f
  obtain ⟨os, f2, h2, rfl⟩ := hr f1
  rw [moreArguments, run_bind, expect_hit ts hct hck]
  dsimp only
  rw [run_bind, h1]
  dsimp only
  rw [run_bind, h2]
  exact ⟨_, _, rfl, rfl⟩

end Steps

/-! ## Every derivation is read

By recursion on the derivation: a rule given fuel four units per token it derives, and a few
more, reads what its relation derives, when the token after it does not continue it. The
token after a rule is the one its parent derives next, or, at the end of the parent, the one
after the parent; `Ends` hands the second down. -/

section Derivations

variable {ts : Array Token} {reg : Registry}

mutual

theorem DerivesSegments.reads : ∀ {i j : Nat} {segs : List Segment},
    DerivesSegments ts reg i j segs → ∀ {n : Nat}, 4 * (j - i) + 4 ≤ n →
      Ends ts j segmentStarts → Takes (segments ts reg n i) j (· = segs)
  | _, _, _, _, 0, hn, _ => absurd hn (by omega)
  | _, _, _, .nil _, n + 1, _, hend => segments_nil_reads hend (n + 1)
  | _, _, _, .cons hs hrest, n + 1, hn, hend => by
    have := DerivesSegment.lt hs
    have := DerivesSegments.le hrest
    exact segments_cons_reads (DerivesSegment.reads hs (by omega))
      (DerivesSegments.reads hrest (by omega) hend)

theorem DerivesSegment.reads : ∀ {i j : Nat} {s : Segment}, DerivesSegment ts reg i j s →
    ∀ {n : Nat}, 4 * (j - i) + 3 ≤ n → Finds (segment ts reg n i) j (· = s)
  | _, _, _, _, 0, hn => absurd hn (by omega)
  | _, _, _, .descendant hk hb, n + 1, hn => by
    have := DerivesBracketed.lt hb
    exact segment_descendant_reads hk (DerivesBracketed.reads hb (by omega))
  | _, _, _, .descendantShorthand hs, n + 1, _ => segment_descendantShorthand_reads hs n
  | _, _, _, .child hb, n + 1, hn =>
    segment_child_reads hb.first (DerivesBracketed.reads hb (by omega))
  | _, _, _, .childShorthand hs, n + 1, _ => segment_childShorthand_reads hs n

theorem DerivesBracketed.reads : ∀ {i j : Nat} {sels : List Selector},
    DerivesBracketed ts reg i j sels → ∀ {n : Nat}, 4 * (j - i) + 2 ≤ n →
      Finds (bracketed ts reg n i) j (· = sels)
  | _, _, _, _, 0, hn => absurd hn (by omega)
  | _, _, _, .mk hl hs hm hr, n + 1, hn => by
    have := DerivesSelector.lt hs
    have := DerivesMoreSelectors.le hm
    -- the selectors are followed by `]`
    have hend : Ends ts _ (.comma :: selectorStops) := .of_kindAt hr (by simp)
    exact bracketed_reads hl
      (DerivesSelector.reads hs (by omega)
        (hm.ends (hend.mono (List.subset_cons_self _ _)) (by simp)))
      (DerivesMoreSelectors.reads hm (by omega) hend) hr

theorem DerivesMoreSelectors.reads : ∀ {i j : Nat} {sels : List Selector},
    DerivesMoreSelectors ts reg i j sels → ∀ {n : Nat}, 4 * (j - i) + 5 ≤ n →
      Ends ts j (.comma :: selectorStops) → Takes (moreSelectors ts reg n i) j (· = sels)
  | _, _, _, _, 0, hn, _ => absurd hn (by omega)
  | _, _, _, .nil _, n + 1, _, hend => moreSelectors_nil_reads (hend.mono (by simp)) (n + 1)
  | _, _, _, .cons hc hs hrest, n + 1, hn, hend => by
    have := DerivesSelector.lt hs
    have := DerivesMoreSelectors.le hrest
    exact moreSelectors_cons_reads hc
      (DerivesSelector.reads hs (by omega)
        (hrest.ends (hend.mono (List.subset_cons_self _ _)) (by simp)))
      (DerivesMoreSelectors.reads hrest (by omega) hend)

theorem DerivesSelector.reads : ∀ {i j : Nat} {s : Selector}, DerivesSelector ts reg i j s →
    ∀ {n : Nat}, 4 * (j - i) + 5 ≤ n → Ends ts j selectorStops →
      Finds (selector ts reg n i) j (· = s)
  | _, _, _, _, 0, hn, _ => absurd hn (by omega)
  | _, _, _, .name ht hk hv, n + 1, _, _ => selector_name_reads ht hk hv n
  | _, _, _, .wildcard hk, n + 1, _, _ => selector_wildcard_reads hk n
  | _, _, _, .filter hk ho he, n + 1, hn, hend => by
    have := DerivesOr.lt ho
    exact selector_filter_reads hk (DerivesOr.reads ho (by omega) (hend.mono (by simp))) he
  | _, _, _, .slice hs, n + 1, _, hend => selector_slice_reads hs (hend.mono (by simp)) n
  | _, _, _, .index ht hi, n + 1, _, hend => selector_index_reads ht hi (hend.mono (by simp)) n

theorem DerivesOr.reads : ∀ {i j : Nat} {e : Expr}, DerivesOr ts reg i j e →
    ∀ {n : Nat}, 4 * (j - i) + 5 ≤ n → Ends ts j orStops →
      Finds (logicalOr ts reg n i) j (·.expr = e)
  | _, _, _, _, 0, hn, _ => absurd hn (by omega)
  | _, _, _, .mk ha ht hj, n + 1, hn, hend => by
    have := DerivesAnd.lt ha
    have := DerivesOrTail.le ht
    exact logicalOr_reads
      (DerivesAnd.reads ha (by omega) (ht.ends (hend.mono (List.subset_cons_self _ _)) (by simp)))
      (DerivesOrTail.reads ht (by omega) hend) hj

theorem DerivesOrTail.reads : ∀ {i j : Nat} {es : List Expr}, DerivesOrTail ts reg i j es →
    ∀ {n : Nat}, 4 * (j - i) + 5 ≤ n → Ends ts j orStops →
      Takes (orTail ts reg n i) j (·.map (·.expr) = es)
  | _, _, _, _, 0, hn, _ => absurd hn (by omega)
  | _, _, _, .nil _, n + 1, _, hend => orTail_nil_reads (hend.mono (by simp)) (n + 1)
  | _, _, _, .cons hk ha hrest, n + 1, hn, hend => by
    have := DerivesAnd.lt ha
    have := DerivesOrTail.le hrest
    exact orTail_cons_reads hk
      (DerivesAnd.reads ha (by omega)
        (hrest.ends (hend.mono (List.subset_cons_self _ _)) (by simp)))
      (DerivesOrTail.reads hrest (by omega) hend)

theorem DerivesAnd.reads : ∀ {i j : Nat} {e : Expr}, DerivesAnd ts reg i j e →
    ∀ {n : Nat}, 4 * (j - i) + 4 ≤ n → Ends ts j andStops →
      Finds (logicalAnd ts reg n i) j (·.expr = e)
  | _, _, _, _, 0, hn, _ => absurd hn (by omega)
  | _, _, _, .mk hb ht hj, n + 1, hn, hend => by
    have := DerivesBasic.lt hb
    have := DerivesAndTail.le ht
    exact logicalAnd_reads
      (DerivesBasic.reads hb (by omega)
        (ht.ends (hend.mono (List.subset_cons_self _ _)) (by simp)))
      (DerivesAndTail.reads ht (by omega) hend) hj

theorem DerivesAndTail.reads : ∀ {i j : Nat} {es : List Expr}, DerivesAndTail ts reg i j es →
    ∀ {n : Nat}, 4 * (j - i) + 5 ≤ n → Ends ts j andStops →
      Takes (andTail ts reg n i) j (·.map (·.expr) = es)
  | _, _, _, _, 0, hn, _ => absurd hn (by omega)
  | _, _, _, .nil _, n + 1, _, hend => andTail_nil_reads (hend.mono (by simp)) (n + 1)
  | _, _, _, .cons hk hb hrest, n + 1, hn, hend => by
    have := DerivesBasic.lt hb
    have := DerivesAndTail.le hrest
    exact andTail_cons_reads hk
      (DerivesBasic.reads hb (by omega)
        (hrest.ends (hend.mono (List.subset_cons_self _ _)) (by simp)))
      (DerivesAndTail.reads hrest (by omega) hend)

theorem DerivesBasic.reads : ∀ {i j : Nat} {e : Expr}, DerivesBasic ts reg i j e →
    ∀ {n : Nat}, 4 * (j - i) + 3 ≤ n → Ends ts j basicStops →
      Finds (basic ts reg n i) j (·.expr = e)
  | _, _, _, _, 0, hn, _ | _, _, _, _, 1, hn, _ => absurd hn (by omega)
  | _, _, _, .not hpos hmarks hp he, n + 2, hn, hend => by
    have := DerivesPrimary.lt hp
    exact basic_not_reads hpos hmarks hp.ends_bang
      (spannedPrimary_reads
        (DerivesPrimary.reads hp (by omega) (hend.mono (List.subset_append_right _ _)))) he
  | _, _, _, .primary hp, n + 2, hn, hend => by
    have := DerivesPrimary.lt hp
    exact basic_primary_reads hp.ends_bang
      (spannedPrimary_reads
        (DerivesPrimary.reads hp (by omega) (hend.mono (List.subset_append_right _ _))))
      (hend.mono (List.subset_append_left _ _))
  | _, _, _, @DerivesBasic.compare _ _ _ _ _ op _ _ _ _ hl hop hr hl' hr', n + 2, hn, hend => by
    have := DerivesPrimary.lt hl
    have := DerivesPrimary.lt hr
    -- the operator ends the left side
    have hstop : Ends ts _ primaryStops := .of_kindAt hop (by cases op <;> simp [CompareOp.kind])
    exact basic_compare_reads hl.ends_bang
      (spannedPrimary_reads (DerivesPrimary.reads hl (by omega) hstop)) hop
      (spannedPrimary_reads
        (DerivesPrimary.reads hr (by omega) (hend.mono (List.subset_append_right _ _))))
      hl' hr'

theorem DerivesPrimary.reads : ∀ {i j : Nat} {e : Expr}, DerivesPrimary ts reg i j e →
    ∀ {n : Nat}, 4 * (j - i) + 1 ≤ n → Ends ts j primaryStops →
      Finds (primary ts reg n i) j (· = e)
  | _, _, _, _, 0, hn, _ => absurd hn (by omega)
  | _, _, _, .paren hl ho hr he, n + 1, hn, _ => by
    have := DerivesOr.lt ho
    exact primary_paren_reads hl (DerivesOr.reads ho (by omega) (.of_kindAt hr (by simp))) hr he
  | _, _, _, .query hk hs, n + 1, hn, hend => by
    have := DerivesSegments.le hs
    exact primary_query_reads hk
      (DerivesSegments.reads hs (by omega) (hend.mono (List.subset_cons_self _ _)))
  | _, _, _, .call hname hnk hopen hok hgap hfn ha hclose hck hes, n + 1, hn, _ => by
    -- the call is read at fuel `n`, its arguments at fuel `n - 1`
    have := DerivesArguments.le ha
    obtain ⟨m, rfl⟩ : ∃ m, n = m + 1 := ⟨n - 1, by omega⟩
    exact primary_call_reads ⟨_, hname, hnk⟩
      (call_reads hname hnk hopen hok hgap hfn
        (DerivesArguments.reads ha (by omega) (.of_kindAt ⟨_, hclose, hck⟩ (by simp [primaryStarts])))
        hclose hck hes)
  | _, _, _, .literal ht hl, n + 1, _, hend => primary_literal_reads ht hl (hend.mono (by simp)) n

theorem DerivesArguments.reads : ∀ {i j : Nat} {es : List Expr},
    DerivesArguments ts reg i j es → ∀ {n : Nat}, 4 * (j - i) + 6 ≤ n →
      Ends ts j (exprStarts ++ .comma :: orStops) →
      Takes (arguments ts reg n i) j (·.map (·.expr) = es)
  | _, _, _, _, 0, hn, _ => absurd hn (by omega)
  | _, _, _, .nil _, n + 1, _, hend =>
    arguments_nil_reads (hend.mono (List.subset_append_left _ _)) (n + 1)
  | _, _, _, .cons ho hrest, n + 1, hn, hend => by
    have := DerivesOr.lt ho
    have := DerivesMoreArguments.le hrest
    have hend' : Ends ts _ (.comma :: orStops) := hend.mono (List.subset_append_right _ _)
    exact arguments_cons_reads
      (DerivesOr.reads ho (by omega)
        (hrest.ends (hend'.mono (List.subset_cons_self _ _)) (by simp)))
      (DerivesMoreArguments.reads hrest (by omega) hend')

theorem DerivesMoreArguments.reads : ∀ {i j : Nat} {es : List Expr},
    DerivesMoreArguments ts reg i j es → ∀ {n : Nat}, 4 * (j - i) + 5 ≤ n →
      Ends ts j (.comma :: orStops) → Takes (moreArguments ts reg n i) j (·.map (·.expr) = es)
  | _, _, _, _, 0, hn, _ => absurd hn (by omega)
  | _, _, _, .nil _, n + 1, _, hend => moreArguments_nil_reads (hend.mono (by simp)) (n + 1)
  | _, _, _, .cons hc ho hrest, n + 1, hn, hend => by
    have := DerivesOr.lt ho
    have := DerivesMoreArguments.le hrest
    exact moreArguments_cons_reads hc
      (DerivesOr.reads ho (by omega)
        (hrest.ends (hend.mono (List.subset_cons_self _ _)) (by simp)))
      (DerivesMoreArguments.reads hrest (by omega) hend)

end

/-- The tokens of a whole query are read as it, with the fuel `Query.ofTokens` gives. -/
theorem DerivesQuery.reads {q : Query} (h : DerivesQuery ts reg q) (f : Frontier) :
    ∃ f', (query ts reg (32 * (ts.size + 1))).run f = .ok (some q, f') := by
  obtain ⟨hd, hs, heoi⟩ := h
  obtain ⟨t, ht, hk⟩ := hd
  obtain ⟨e, he, hek⟩ := heoi
  have := hs.le
  obtain ⟨hj, -⟩ := Array.getElem?_eq_some_iff.1 he
  obtain ⟨_, f1, h1, rfl⟩ :=
    hs.reads (n := 32 * (ts.size + 1)) (by omega) (.of_kindAt ⟨e, he, hek⟩ (by simp)) f
  rw [query, run_bind, expect_hit ts ht hk]
  dsimp only
  rw [run_bind, h1]
  dsimp only
  rw [run_bind, expect_hit ts he hek]
  exact ⟨_, rfl⟩

end Derivations

end Syntax

namespace Query

open Syntax

theorem ofTokens_of_derives {reg : Registry} {tokens : List Token} {q : Query}
    (hdeep : tooDeep? 0 tokens = none) (h : DerivesQuery tokens.toArray reg q) :
    ofTokens reg tokens = .ok q := by
  obtain ⟨f', hq⟩ := h.reads ⟨0, []⟩
  unfold ofTokens
  rw [hdeep]
  simp only [bind, Except.bind, hq]
  rfl

theorem parse_of_derives {reg : Registry} {source : String} {tokens : List Token} {q : Query}
    (htok : tokenize source = .ok tokens) (hdeep : tooDeep? 0 tokens = none)
    (h : DerivesQuery tokens.toArray reg q) : parse reg source = .ok q := by
  unfold parse
  rw [htok]
  dsimp only
  rw [ofTokens_of_derives hdeep h]

/-- A text reads as a query exactly when it splits into tokens, brackets and parentheses nest
no deeper than `maxNesting`, and the grammar derives the query from the tokens, the rules
beside the grammar included. -/
theorem parse_eq_ok_iff {reg : Registry} {source : String} {q : Query} :
    parse reg source = .ok q ↔
      ∃ tokens, tokenize source = .ok tokens ∧ tooDeep? 0 tokens = none ∧
        DerivesQuery tokens.toArray reg q := by
  constructor
  · exact parse_derives
  · rintro ⟨tokens, htok, hdeep, h⟩
    exact parse_of_derives htok hdeep h

end Query

end JsonPath
