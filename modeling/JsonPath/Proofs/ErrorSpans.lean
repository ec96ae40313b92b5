import Mathlib.Tactic.SplitIfs
import JsonPath.Function.Builtin
import JsonPath.Proofs.CanonicalLexing
import JsonPath.Proofs.ExceptRuns
import JsonPath.Proofs.GrammarSteps

/-!
# Errors point into the query text

Reading a query text fails with an error that points at a span of the text, with one
exception: an integer literal of more than `maxIntDigits` digits, which the conversion of
its text refuses with an error that names no place (`Query.parse_error_placed`).

The spans come from the tokens. The lexer reads the text from left to right, so every token
lies within the text and ends before the next one begins (`TokensPlaced`), and a lexical
error points at the character or literal where reading stopped. Every span the grammar
reports is a token's span, the span of a stretch of tokens, the gap between two adjacent
tokens, or a merge of such spans. `Placed` says that a reading throws only errors within the
text, and `ReadsPlaced` that every rule of the grammar does, at every fuel.
-/

set_option autoImplicit false

namespace JsonPath

/-- A span within a text of `len` characters. -/
def Span.Within (len : Nat) (s : Span) : Prop := s.start ≤ s.stop ∧ s.stop ≤ len

theorem Span.Within.merge {len : Nat} {a b : Span} (ha : a.Within len) (hb : b.Within len) :
    (a.merge b).Within len := by
  simp only [Span.Within, Span.merge] at *
  omega

theorem Span.Within.mono {a b : Nat} {s : Span} (h : s.Within a) (hab : a ≤ b) : s.Within b :=
  ⟨h.1, Nat.le_trans h.2 hab⟩

namespace Syntax

/-- An error of reading a text of `len` characters is placed: it points at a span of the
text, or it is the conversion's error of an integer literal of more than `maxIntDigits`
digits. -/
def QueryError.Placed (len : Nat) (e : QueryError) : Prop :=
  (∃ s, e.span? = some s ∧ s.Within len) ∨ ∃ n, e = .lex (.tooManyDigits n) ∧ maxIntDigits < n

theorem QueryError.placed_of_span {len : Nat} {e : QueryError} {s : Span}
    (he : e.span? = some s) (hs : s.Within len) : e.Placed len :=
  .inl ⟨s, he, hs⟩

/-! ## Tokens -/

section Lexer

theorem quotedLength_le {q : Char} {cs : List Char} {n m : Nat}
    (h : quotedLength q cs n = some m) : m ≤ n + cs.length := by
  induction cs, n using quotedLength.induct q generalizing m with
  | case1 n => simp [quotedLength] at h
  | case2 c rest n ih =>
    rw [quotedLength] at h
    have := ih h
    simp only [List.length_cons]
    omega
  | case3 n => simp [quotedLength] at h
  | case4 rest n hne hne' =>
    -- the closing quote
    rw [quotedLength, if_pos rfl] at h
    · cases h
      simp
    · exact hne
    · exact hne'
  | case5 c rest n hne hne' hcq ih =>
    rw [quotedLength, if_neg hcq] at h
    · have := ih h
      simp only [List.length_cons]
      omega
    · exact hne
    · exact hne'

/-- A token is no longer than what is left of the text. -/
theorem lexeme?_le_length {cs : List Char} {kind : TokenKind} {n : Nat}
    (h : lexeme? cs = some (kind, n)) : n ≤ cs.length := by
  match cs, h with
  | c :: rest, h =>
    unfold lexeme? at h
    dsimp only at h
    split at h
    · -- a string literal, up to its closing quote
      obtain ⟨m, hm, hkm⟩ := Option.map_eq_some_iff.1 h
      cases hkm
      have := quotedLength_le hm
      simp only [List.length_cons]
      omega
    split at h
    · cases h
      omega
    · cases h
      omega
    split at h
    · cases h
      have : (rest.takeWhile isIdentChar).length ≤ rest.length :=
        (List.takeWhile_prefix isIdentChar).length_le
      simp only [List.length_cons]
      omega
    · -- a punctuation mark, a prefix of the text
      obtain ⟨l1, ⟨text, k⟩, l2, -, ha, -⟩ := List.findSome?_eq_some_iff.1 h
      split_ifs at ha with hpre
      cases ha
      rw [← String.length_toList]
      exact (List.isPrefixOf_iff_prefix.1 hpre).length_le

/-- Spans within a text of `len` characters, each ending before the next begins. -/
def SpansPlaced (len : Nat) (ss : List Span) : Prop :=
  (∀ s ∈ ss, s.Within len) ∧ ss.Pairwise fun a b => a.stop ≤ b.start

theorem SpansPlaced.snoc {len : Nat} {ss : List Span} {s : Span} (h : SpansPlaced s.start ss)
    (hs : s.Within len) : SpansPlaced len (ss ++ [s]) := by
  have hstart : s.start ≤ len := Nat.le_trans hs.1 hs.2
  refine ⟨fun a ha => ?_, List.pairwise_append.2 ⟨h.2, List.pairwise_singleton _ _, ?_⟩⟩
  · rcases List.mem_append.1 ha with ha | ha
    · exact (h.1 a ha).mono hstart
    · rw [List.mem_singleton.1 ha]
      exact hs
  · intro a ha b hb
    rw [List.mem_singleton.1 hb]
    exact (h.1 a ha).2

/-- The raw tokens read from the rest `cs` of a text of `len` characters, starting at
`offset`, lie within the text and in order, after those read before. -/
theorem scan_placed {len : Nat} {cs : List Char} {offset : Nat}
    {acc out : List (TokenKind × String × Span)} (h : scan cs offset acc = .ok out)
    (hlen : offset + cs.length = len) (hacc : SpansPlaced offset (acc.reverse.map (·.2.2))) :
    SpansPlaced len (out.map (·.2.2)) := by
  induction cs, offset, acc using scan.induct with
  | case1 offset acc =>
    rw [scan] at h
    cases h
    simp only [List.length_nil, Nat.add_zero] at hlen
    exact hlen ▸ hacc
  | case2 c tail offset acc cs kind n hlex hn rest blanks ih =>
    have hlex' : lexeme? (c :: tail) = some (kind, n) := hlex
    rw [scan] at h
    simp only [hlex', hn, dite_true] at h
    have hle := lexeme?_le_length hlex'
    have hrest : rest.length = (c :: tail).length - n := List.length_drop
    have hblanks : blanks ≤ rest.length := (List.takeWhile_prefix isBlank).length_le
    -- the token just read ends where the blanks after it begin
    refine ih h (by simp only [List.length_drop] at hrest ⊢; omega) ?_
    rw [List.reverse_cons, List.map_append, List.map_singleton]
    exact SpansPlaced.snoc hacc ⟨Nat.le_add_right _ _, Nat.le_add_right _ _⟩
  | case3 c tail offset acc cs kind n hlex hn =>
    have hlex' : lexeme? (c :: tail) = some (kind, n) := hlex
    rw [scan] at h
    simp [hlex', hn] at h
  | case4 c tail offset acc cs hlex hq =>
    have hlex' : lexeme? (c :: tail) = none := hlex
    rw [scan] at h
    simp [hlex', hq] at h
  | case5 c tail offset acc cs hlex hq =>
    have hlex' : lexeme? (c :: tail) = none := hlex
    rw [scan] at h
    simp [hlex', hq] at h

/-- Where reading into tokens stops, the character it stops at is within the text. -/
theorem scan_error_placed {len : Nat} {cs : List Char} {offset : Nat}
    {acc : List (TokenKind × String × Span)} {e : LexError} (h : scan cs offset acc = .error e)
    (hlen : offset + cs.length = len) : ∃ s, e.span? = some s ∧ s.Within len := by
  induction cs, offset, acc using scan.induct with
  | case1 offset acc =>
    rw [scan] at h
    cases h
  | case2 c tail offset acc cs kind n hlex hn rest blanks ih =>
    have hlex' : lexeme? (c :: tail) = some (kind, n) := hlex
    rw [scan] at h
    simp only [hlex', hn, dite_true] at h
    have hle := lexeme?_le_length hlex'
    have hrest : rest.length = (c :: tail).length - n := List.length_drop
    have hblanks : blanks ≤ rest.length := (List.takeWhile_prefix isBlank).length_le
    exact ih h (by simp only [List.length_drop] at hrest ⊢; omega)
  | case3 c tail offset acc cs kind n hlex hn =>
    have hlex' : lexeme? (c :: tail) = some (kind, n) := hlex
    rw [scan] at h
    simp only [hlex', hn, dite_false, Except.error.injEq] at h
    subst h
    exact ⟨_, rfl, by simp only [Span.Within, List.length_cons] at hlen ⊢; omega⟩
  | case4 c tail offset acc cs hlex hq =>
    have hlex' : lexeme? (c :: tail) = none := hlex
    rw [scan] at h
    simp only [hlex', hq, if_true, Except.error.injEq] at h
    subst h
    exact ⟨_, rfl, by simp only [Span.Within, List.length_cons] at hlen ⊢; omega⟩
  | case5 c tail offset acc cs hlex hq =>
    have hlex' : lexeme? (c :: tail) = none := hlex
    rw [scan] at h
    simp only [hlex', hq, if_false, Except.error.injEq] at h
    subst h
    exact ⟨_, rfl, by simp only [Span.Within, List.length_cons] at hlen ⊢; omega⟩

/-- A literal's value fails at the literal, or with the conversion's error of an integer of
more than `maxIntDigits` digits. -/
theorem tokenValue_error_placed {len : Nat} {kind : TokenKind} {text : String} {span : Span}
    {e : LexError} (h : tokenValue kind text span = .error e) (hs : span.Within len) :
    (QueryError.lex e).Placed len := by
  unfold tokenValue at h
  split at h
  · split at h
    · cases h
    · cases h
      exact QueryError.placed_of_span rfl hs
  · split at h
    · split_ifs at h with hlong
      cases h
      exact .inr ⟨_, rfl, hlong⟩
    · cases h
  · split at h
    · split_ifs at h
      cases h
      exact QueryError.placed_of_span rfl hs
    · cases h
  · cases h

/-- Tokens of a text of `len` characters: each lies within the text, and each ends before
the next begins. -/
structure TokensPlaced (ts : Array Token) (len : Nat) : Prop where
  within : ∀ t ∈ ts, t.span.Within len
  ordered : ∀ {i : Nat} {a b : Token}, ts[i]? = some a → ts[i + 1]? = some b →
    a.span.stop ≤ b.span.start

theorem tokenize_spans {source : String} {tokens : List Token} (h : tokenize source = .ok tokens) :
    SpansPlaced source.length (tokens.map (·.span)) := by
  unfold tokenize at h
  simp only [bind, Except.bind] at h
  split at h
  · cases h
  split at h
  · cases h
  rename_i raw hraw _ toks htoks
  cases h
  have hblanks : (source.toList.takeWhile isBlank).length ≤ source.toList.length :=
    (List.takeWhile_prefix isBlank).length_le
  have hscan : SpansPlaced source.length (raw.map (·.2.2)) := scan_placed hraw
    (by rw [List.length_drop, ← String.length_toList]; omega) (by simp [SpansPlaced])
  -- each token keeps the span of its raw token
  have hmap : toks.map (·.span) = raw.map (·.2.2) := mapM_except_map (fun r t ht => by
    obtain ⟨kind, text, span⟩ := r
    split at ht
    · cases ht
    · cases ht
      rfl) htoks
  rw [List.map_append, hmap, List.map_singleton]
  refine SpansPlaced.snoc ?_ ?_
  · simpa only [String.length_toList] using hscan
  · simp [Span.Within, String.length_toList]

theorem TokensPlaced.of_spans {tokens : List Token} {len : Nat}
    (h : SpansPlaced len (tokens.map (·.span))) : TokensPlaced tokens.toArray len := by
  obtain ⟨hwithin, hpair⟩ := h
  constructor
  · intro t ht
    exact hwithin t.span (List.mem_map.2 ⟨t, by simpa using ht, rfl⟩)
  · intro i a b ha hb
    simp only [List.getElem?_toArray, List.getElem?_eq_some_iff] at ha hb
    obtain ⟨hi, rfl⟩ := ha
    obtain ⟨hj, rfl⟩ := hb
    have := List.pairwise_iff_getElem.1 hpair i (i + 1) (by simpa using hi) (by simpa using hj)
      (Nat.lt_succ_self i)
    simpa using this

theorem tokenize_placed {source : String} {tokens : List Token}
    (h : tokenize source = .ok tokens) : TokensPlaced tokens.toArray source.length :=
  TokensPlaced.of_spans (tokenize_spans h)

/-- Reading a text into tokens fails at a character or a literal of the text, or with the
conversion's error of a too long integer literal. -/
theorem tokenize_error_placed {source : String} {e : LexError}
    (h : tokenize source = .error e) : (QueryError.lex e).Placed source.length := by
  unfold tokenize at h
  simp only [bind, Except.bind] at h
  have hblanks : (source.toList.takeWhile isBlank).length ≤ source.toList.length :=
    (List.takeWhile_prefix isBlank).length_le
  have hlen : (source.toList.takeWhile isBlank).length
      + (source.toList.drop (source.toList.takeWhile isBlank).length).length = source.length := by
    rw [List.length_drop, ← String.length_toList]
    omega
  split at h
  · -- reading stopped at a character
    rename_i e' hraw
    cases h
    obtain ⟨s, hs, hw⟩ := scan_error_placed hraw hlen
    exact QueryError.placed_of_span hs hw
  split at h
  · -- the value of a literal failed
    rename_i raw hraw _ e' htoks
    cases h
    obtain ⟨⟨kind, text, span⟩, hr, hf⟩ := mapM_except_error htoks
    have hspan : span.Within source.length :=
      (scan_placed hraw hlen (by simp [SpansPlaced])).1 span (List.mem_map.2 ⟨_, hr, rfl⟩)
    split at hf
    · cases hf
      exact tokenValue_error_placed ‹_› hspan
    · cases hf
  · cases h

end Lexer

/-! ## Readings that throw only errors within the text -/

section Reading

variable {len : Nat}

/-- A reading throws only errors within a text of `len` characters, and its results satisfy
`P`. -/
def Placed {α : Type} (len : Nat) (P : α → Prop) (g : Grammar α) : Prop :=
  ∀ f, (∀ r, g.run f = .ok r → P r.1) ∧ ∀ e, g.run f = .error e → e.span.Within len

section Combinators

variable {α β : Type} {P : α → Prop} {Q : β → Prop}

theorem Placed.of_pure {a : α} (h : P a) : Placed len P (pure a : Grammar α) := by
  intro f
  refine ⟨fun r hr => ?_, fun e he => ?_⟩
  · rw [run_pure] at hr
    cases hr
    exact h
  · rw [run_pure] at he
    cases he

theorem Placed.of_throw {e : ParseError} (h : e.span.Within len) :
    Placed len P (throw e : Grammar α) := by
  intro f
  refine ⟨fun r hr => ?_, fun e' he => ?_⟩
  · rw [run_throw] at hr
    cases hr
  · rw [run_throw] at he
    cases he
    exact h

theorem Placed.bind {g : Grammar α} {k : α → Grammar β} (hg : Placed len P g)
    (hk : ∀ a, P a → Placed len Q (k a)) : Placed len Q (g >>= k) := by
  intro f
  rw [run_bind]
  cases hgf : g.run f with
  | error e =>
    refine ⟨fun r hr => ?_, fun e' he => ?_⟩
    · cases hr
    · cases he
      exact (hg f).2 e hgf
  | ok r =>
    obtain ⟨a, f'⟩ := r
    exact hk a ((hg f).1 _ hgf) f'

theorem Placed.mono {g : Grammar α} {P' : α → Prop} (hg : Placed len P g)
    (h : ∀ a, P a → P' a) : Placed len P' g := fun f =>
  ⟨fun r hr => h _ ((hg f).1 r hr), (hg f).2⟩

/-- A reading that never throws needs only its results checked. -/
theorem Placed.of_ok {g : Grammar α} (hok : ∀ f, ∃ r, g.run f = .ok r)
    (h : ∀ f r, g.run f = .ok r → P r.1) : Placed len P g := fun f =>
  ⟨h f, fun e he => by
    obtain ⟨r, hr⟩ := hok f
    rw [hr] at he
    cases he⟩

theorem Placed.of_orElse {a : Grammar (Option α)} {b : Unit → Grammar (Option α)}
    {P : Option α → Prop} (ha : Placed len P a) (hb : Placed len P (b ())) :
    Placed len P (orElse a b) := by
  unfold orElse
  refine ha.bind fun o ho => ?_
  rcases o with _ | r
  · exact hb
  · exact Placed.of_pure ho

end Combinators

/-- A token read at `pos`, if any, is the token there, and reading goes on after it. -/
def TokenAt (ts : Array Token) (pos : Nat) : Option (Token × Nat) → Prop
  | some (t, p) => ts[pos]? = some t ∧ p = pos + 1
  | none => True

/-- An operand read, if any, lies within the text. -/
def OperandWithin (len : Nat) : Option (Operand × Nat) → Prop
  | some (o, _) => o.span.Within len
  | none => True

/-- The operands read lie within the text. -/
def OperandsWithin (len : Nat) (r : List Operand × Nat) : Prop := ∀ o ∈ r.1, o.span.Within len

theorem OperandsWithin.nil (p : Nat) : OperandsWithin len ([], p) := fun _ h => by cases h

theorem OperandsWithin.cons {o : Operand} {rest : List Operand} {p q : Nat}
    (ho : o.span.Within len) (hrest : OperandsWithin len (rest, p)) :
    OperandsWithin len (o :: rest, q) := by
  intro o' h'
  rcases List.mem_cons.1 h' with rfl | h'
  · exact ho
  · exact hrest o' h'

variable {ts : Array Token} {reg : Registry}

theorem TokensPlaced.span_within (hts : TokensPlaced ts len) {pos : Nat} {t : Token}
    (h : ts[pos]? = some t) : t.span.Within len :=
  hts.within t (Array.mem_of_getElem? h)

/-- The gap between two adjacent tokens lies within the text. -/
theorem TokensPlaced.gap_within (hts : TokensPlaced ts len) {i : Nat} {a b : Token}
    (ha : ts[i]? = some a) (hb : ts[i + 1]? = some b) :
    Span.Within len ⟨a.span.stop, b.span.start⟩ :=
  ⟨hts.ordered ha hb, Nat.le_trans (hts.span_within hb).1 (hts.span_within hb).2⟩

theorem spanBetween_within (hts : TokensPlaced ts len) (start stop : Nat) :
    (spanBetween ts start stop).Within len := by
  have hget : ∀ (i : Nat) (d : Span), d.Within len → ((ts[i]?.map Token.span).getD d).Within len := by
    intro i d hd
    cases h : ts[i]? with
    | none => exact hd
    | some t => exact hts.span_within h
  have hfirst := hget start ⟨0, 0⟩ ⟨Nat.le_refl 0, Nat.zero_le _⟩
  unfold spanBetween
  dsimp only
  split
  · exact hfirst
  · exact hfirst.merge (hget _ _ hfirst)

/-! ### Token tests and the checks beside the grammar -/

theorem expect_placed (kind : TokenKind) (pos : Nat) :
    Placed len (TokenAt ts pos) (expect ts kind pos) :=
  Placed.of_ok (expect_ok ts kind pos) fun _ r hr => by
    obtain ⟨o, f'⟩ := r
    rcases o with _ | ⟨t, p⟩
    · trivial
    · obtain ⟨ht, -, hp, -⟩ := expect_some ts hr
      exact ⟨ht, hp⟩

theorem expectAny_placed (kinds : List TokenKind) (pos : Nat) :
    Placed len (TokenAt ts pos) (expectAny ts kinds pos) :=
  Placed.of_ok (expectAny_ok ts kinds pos) fun _ r hr => by
    obtain ⟨o, f'⟩ := r
    rcases o with _ | ⟨t, p⟩
    · trivial
    · obtain ⟨ht, -, hp⟩ := expectAny_some ts hr
      exact ⟨ht, hp⟩

theorem keyword_placed (word : String) (pos : Nat) :
    Placed len (fun _ => True) (keyword ts word pos) :=
  Placed.of_ok (keyword_ok ts word pos) fun _ _ _ => trivial

theorem indexValue_placed {t : Token} (ht : t.span.Within len) :
    Placed len (fun _ => True) (indexValue t) := by
  unfold indexValue
  split
  · exact Placed.of_throw ht
  · split
    · split
      · exact Placed.of_pure trivial
      · exact Placed.of_throw ht
    · exact Placed.of_pure trivial

theorem bound_placed (hts : TokensPlaced ts len) (pos : Nat) :
    Placed len (fun _ => True) (bound ts pos) := by
  unfold bound
  refine (expect_placed .integer pos).bind fun o ho => ?_
  rcases o with _ | ⟨t, p⟩
  · exact Placed.of_pure trivial
  · exact (indexValue_placed (hts.span_within ho.1)).bind fun _ _ => Placed.of_pure trivial

theorem slice_placed (hts : TokensPlaced ts len) (pos : Nat) :
    Placed len (fun _ => True) (slice ts pos) := by
  unfold slice
  refine (bound_placed hts pos).bind fun r _ => ?_
  obtain ⟨start, p⟩ := r
  refine (expect_placed .colon p).bind fun o _ => ?_
  rcases o with _ | ⟨_, p⟩
  · exact Placed.of_pure trivial
  refine (bound_placed hts p).bind fun r _ => ?_
  obtain ⟨stop, p⟩ := r
  refine (expect_placed .colon p).bind fun o _ => ?_
  rcases o with _ | ⟨_, p⟩
  · exact Placed.of_pure trivial
  refine (expect_placed .integer p).bind fun o ho => ?_
  rcases o with _ | ⟨t, q⟩
  · exact Placed.of_pure trivial
  -- a zero step is refused at its token
  have ht := hts.span_within ho.1
  refine (indexValue_placed ht).bind fun step _ => ?_
  split
  · exact Placed.of_throw ht
  · exact Placed.of_pure trivial

theorem bangs_placed : ∀ (fuel pos : Nat), Placed len (fun _ => True) (bangs ts pos fuel)
  | 0, pos => by
    rw [bangs]
    exact Placed.of_pure trivial
  | fuel + 1, pos => by
    rw [bangs]
    refine (expect_placed .bang pos).bind fun o _ => ?_
    rcases o with _ | ⟨_, p⟩
    · exact Placed.of_pure trivial
    · exact (bangs_placed fuel p).bind fun _ _ => Placed.of_pure trivial

theorem shorthand_placed (hts : TokensPlaced ts len) (marker : TokenKind) (pos : Nat) :
    Placed len (fun _ => True) (shorthand ts marker pos) := by
  unfold shorthand
  refine (expect_placed marker pos).bind fun o hm => ?_
  rcases o with _ | ⟨m, p⟩
  · exact Placed.of_pure trivial
  refine (expectAny_placed [.asterisk, .ident] p).bind fun o ht => ?_
  rcases o with _ | ⟨t, q⟩
  · exact Placed.of_pure trivial
  obtain ⟨hm, rfl⟩ := hm
  dsimp only
  split
  · -- blanks after the marker: the gap between two adjacent tokens
    exact Placed.of_throw (hts.gap_within hm ht.1)
  · split
    · exact Placed.of_pure trivial
    · exact Placed.of_pure trivial

theorem literal_placed (pos : Nat) : Placed len (fun _ => True) (literal ts pos) := by
  unfold literal
  refine (expectAny_placed _ pos).bind fun o _ => ?_
  rcases o with _ | ⟨t, p⟩
  · refine (keyword_placed "true" pos).bind fun o _ => ?_
    rcases o with _ | ⟨_, p⟩
    · refine (keyword_placed "false" pos).bind fun o _ => ?_
      rcases o with _ | ⟨_, p⟩
      · refine (keyword_placed "null" pos).bind fun o _ => ?_
        rcases o with _ | ⟨_, p⟩
        · exact Placed.of_pure trivial
        · exact Placed.of_pure trivial
      · exact Placed.of_pure trivial
    · exact Placed.of_pure trivial
  · exact Placed.of_pure trivial

theorem comparisonOp_placed (pos : Nat) : Placed len (fun _ => True) (comparisonOp ts pos) := by
  unfold comparisonOp
  refine (expectAny_placed _ pos).bind fun o _ => ?_
  rcases o with _ | ⟨t, p⟩
  · exact Placed.of_pure trivial
  · exact Placed.of_pure trivial

/-! Each check refuses an operand at the operand's own span. -/

theorem asLogical_placed {o : Operand} (ho : o.span.Within len) :
    Placed len (fun _ => True) (asLogical o) := by
  unfold asLogical
  split
  · exact Placed.of_pure trivial
  · exact Placed.of_throw ho
  · exact Placed.of_throw ho
  · exact Placed.of_pure trivial

theorem asComparable_placed {o : Operand} (ho : o.span.Within len) :
    Placed len (fun _ => True) (asComparable o) := by
  unfold asComparable
  split
  · exact Placed.of_pure trivial
  · split
    · exact Placed.of_pure trivial
    · exact Placed.of_throw ho
  · split
    · exact Placed.of_throw ho
    · exact Placed.of_pure trivial
  · exact Placed.of_throw ho

theorem asArgument_placed {name : String} {i : Nat} {param : ExprType} {o : Operand}
    (ho : o.span.Within len) : Placed len (fun _ => True) (asArgument name i param o) := by
  unfold asArgument
  dsimp only
  -- every case accepts the operand or refuses it
  split <;> (try split) <;> first | exact Placed.of_pure trivial | exact Placed.of_throw ho

theorem asArguments_placed (name : String) : ∀ (i : Nat) (ps : List ExprType) (os : List Operand),
    (∀ o ∈ os, o.span.Within len) → Placed len (fun _ => True) (asArguments name i ps os)
  | _, [], _, _ => Placed.of_pure trivial
  | _, _ :: _, [], _ => Placed.of_pure trivial
  | i, p :: ps, o :: os, hos => by
    rw [asArguments]
    exact (asArgument_placed (hos o List.mem_cons_self)).bind fun _ _ =>
      (asArguments_placed name (i + 1) ps os fun o' h' => hos o' (List.mem_cons_of_mem _ h')).bind
        fun _ _ => Placed.of_pure trivial

theorem foldlM_join_placed {join : Expr → Expr → Expr} :
    ∀ (rest : List Operand) (acc : Expr), (∀ o ∈ rest, o.span.Within len) →
      Placed len (fun _ => True)
        (rest.foldlM (fun acc o => do pure (join acc (← asLogical o))) acc)
  | [], _, _ => Placed.of_pure trivial
  | o :: rest, acc, h => by
    rw [List.foldlM_cons]
    have hstep : Placed len (fun _ => True) (do pure (join acc (← asLogical o)) : Grammar Expr) :=
      (asLogical_placed (h o List.mem_cons_self)).bind fun _ _ => Placed.of_pure trivial
    exact hstep.bind fun _ _ =>
      foldlM_join_placed rest _ fun o' h' => h o' (List.mem_cons_of_mem _ h')

/-- Operands joined by a connective span from the first to the last. -/
theorem joinLogical_placed {join : Expr → Expr → Expr} {first : Operand} {rest : List Operand}
    (hfirst : first.span.Within len) (hrest : ∀ o ∈ rest, o.span.Within len) :
    Placed len (fun o : Operand => o.span.Within len) (joinLogical join first rest) := by
  unfold joinLogical
  split
  · exact Placed.of_pure hfirst
  · rename_i last hlast
    refine (asLogical_placed hfirst).bind fun _ _ => ?_
    refine (foldlM_join_placed rest _ hrest).bind fun _ _ => ?_
    exact Placed.of_pure (hfirst.merge (hrest last (List.mem_of_getLast? hlast)))

/-! ### The rules, by fuel -/

/-- What every rule of the grammar does at fuel `n`: it throws only errors within the text,
and the operands it reads lie within the text. -/
structure ReadsPlaced (ts : Array Token) (reg : Registry) (len n : Nat) : Prop where
  segments (pos : Nat) : Placed len (fun _ => True) (segments ts reg n pos)
  segment (pos : Nat) : Placed len (fun _ => True) (segment ts reg n pos)
  bracketed (pos : Nat) : Placed len (fun _ => True) (bracketed ts reg n pos)
  moreSelectors (pos : Nat) : Placed len (fun _ => True) (moreSelectors ts reg n pos)
  selector (pos : Nat) : Placed len (fun _ => True) (selector ts reg n pos)
  logicalOr (pos : Nat) : Placed len (OperandWithin len) (logicalOr ts reg n pos)
  orTail (pos : Nat) : Placed len (OperandsWithin len) (orTail ts reg n pos)
  logicalAnd (pos : Nat) : Placed len (OperandWithin len) (logicalAnd ts reg n pos)
  andTail (pos : Nat) : Placed len (OperandsWithin len) (andTail ts reg n pos)
  basic (pos : Nat) : Placed len (OperandWithin len) (basic ts reg n pos)
  spannedPrimary (pos : Nat) : Placed len (OperandWithin len) (spannedPrimary ts reg n pos)
  primary (pos : Nat) : Placed len (fun _ => True) (primary ts reg n pos)
  call (pos : Nat) : Placed len (fun _ => True) (call ts reg n pos)
  arguments (pos : Nat) : Placed len (OperandsWithin len) (arguments ts reg n pos)
  moreArguments (pos : Nat) : Placed len (OperandsWithin len) (moreArguments ts reg n pos)

theorem readsPlaced_zero : ReadsPlaced ts reg len 0 where
  segments _ := by rw [segments]; exact Placed.of_pure trivial
  segment _ := by rw [segment]; exact Placed.of_pure trivial
  bracketed _ := by rw [bracketed]; exact Placed.of_pure trivial
  moreSelectors _ := by rw [moreSelectors]; exact Placed.of_pure trivial
  selector _ := by rw [selector]; exact Placed.of_pure trivial
  logicalOr _ := by rw [logicalOr]; exact Placed.of_pure trivial
  orTail p := by rw [orTail]; exact Placed.of_pure (OperandsWithin.nil p)
  logicalAnd _ := by rw [logicalAnd]; exact Placed.of_pure trivial
  andTail p := by rw [andTail]; exact Placed.of_pure (OperandsWithin.nil p)
  basic _ := by rw [basic]; exact Placed.of_pure trivial
  spannedPrimary _ := by rw [spannedPrimary]; exact Placed.of_pure trivial
  primary _ := by rw [primary]; exact Placed.of_pure trivial
  call _ := by rw [call]; exact Placed.of_pure trivial
  arguments p := by rw [arguments]; exact Placed.of_pure (OperandsWithin.nil p)
  moreArguments p := by rw [moreArguments]; exact Placed.of_pure (OperandsWithin.nil p)

section Succ

variable {n : Nat} (ih : ReadsPlaced ts reg len n)
include ih

theorem segments_placed_succ (pos : Nat) :
    Placed len (fun _ => True) (segments ts reg (n + 1) pos) := by
  rw [segments]
  refine (ih.segment pos).bind fun o _ => ?_
  rcases o with _ | ⟨s, p⟩
  · exact Placed.of_pure trivial
  · refine (ih.segments p).bind fun r _ => ?_
    obtain ⟨rest, q⟩ := r
    exact Placed.of_pure trivial

theorem segment_placed_succ (hts : TokensPlaced ts len) (pos : Nat) :
    Placed len (fun _ => True) (segment ts reg (n + 1) pos) := by
  rw [segment]
  -- a descendant segment, `..` then brackets or a shorthand
  refine (Placed.of_orElse ?_ (shorthand_placed hts _ _)).bind fun o _ => ?_
  · refine (expect_placed .doubleDot pos).bind fun o _ => ?_
    rcases o with _ | ⟨_, p⟩
    · exact Placed.of_pure trivial
    · exact ih.bracketed p
  rcases o with _ | ⟨sels, p⟩
  · -- a child segment
    refine (Placed.of_orElse (ih.bracketed pos) (shorthand_placed hts _ _)).bind fun o _ => ?_
    rcases o with _ | ⟨sels, p⟩
    · exact Placed.of_pure trivial
    · exact Placed.of_pure trivial
  · exact Placed.of_pure trivial

theorem bracketed_placed_succ (pos : Nat) :
    Placed len (fun _ => True) (bracketed ts reg (n + 1) pos) := by
  rw [bracketed]
  refine (expect_placed .lbracket pos).bind fun o _ => ?_
  rcases o with _ | ⟨_, p⟩
  · exact Placed.of_pure trivial
  refine (ih.selector p).bind fun o _ => ?_
  rcases o with _ | ⟨s, p⟩
  · exact Placed.of_pure trivial
  refine (ih.moreSelectors p).bind fun r _ => ?_
  obtain ⟨rest, p⟩ := r
  refine (expect_placed .rbracket p).bind fun o _ => ?_
  rcases o with _ | ⟨_, q⟩
  · exact Placed.of_pure trivial
  · exact Placed.of_pure trivial

theorem moreSelectors_placed_succ (pos : Nat) :
    Placed len (fun _ => True) (moreSelectors ts reg (n + 1) pos) := by
  rw [moreSelectors]
  refine (expect_placed .comma pos).bind fun o _ => ?_
  rcases o with _ | ⟨_, p⟩
  · exact Placed.of_pure trivial
  refine (ih.selector p).bind fun o _ => ?_
  rcases o with _ | ⟨s, q⟩
  · exact Placed.of_pure trivial
  refine (ih.moreSelectors q).bind fun r _ => ?_
  obtain ⟨rest, r⟩ := r
  exact Placed.of_pure trivial

theorem selector_placed_succ (hts : TokensPlaced ts len) (pos : Nat) :
    Placed len (fun _ => True) (selector ts reg (n + 1) pos) := by
  rw [selector]
  dsimp only
  refine (expect_placed .string pos).bind fun o _ => ?_
  rcases o with _ | ⟨t, p⟩
  case some =>
    -- a name
    dsimp only
    split
    · exact Placed.of_pure trivial
    · exact Placed.of_pure trivial
  refine (expect_placed .asterisk pos).bind fun o _ => ?_
  rcases o with _ | ⟨_, p⟩
  case some => exact Placed.of_pure trivial
  refine Placed.bind (P := fun _ => True) ?_ fun o _ => ?_
  · -- a filter: a disjunction used as a test
    refine (expect_placed .question pos).bind fun o _ => ?_
    rcases o with _ | ⟨_, p⟩
    · exact Placed.of_pure trivial
    refine (ih.logicalOr p).bind fun o ho => ?_
    rcases o with _ | ⟨o, q⟩
    · exact Placed.of_pure trivial
    · exact (asLogical_placed ho).bind fun _ _ => Placed.of_pure trivial
  rcases o with _ | r
  case some => exact Placed.of_pure trivial
  refine (slice_placed hts pos).bind fun o _ => ?_
  rcases o with _ | r
  case some => exact Placed.of_pure trivial
  -- an index, refused at its token
  refine (expect_placed .integer pos).bind fun o ho => ?_
  rcases o with _ | ⟨t, p⟩
  · exact Placed.of_pure trivial
  · exact (indexValue_placed (hts.span_within ho.1)).bind fun _ _ => Placed.of_pure trivial

theorem logicalOr_placed_succ (pos : Nat) :
    Placed len (OperandWithin len) (logicalOr ts reg (n + 1) pos) := by
  rw [logicalOr]
  refine (ih.logicalAnd pos).bind fun o hfirst => ?_
  rcases o with _ | ⟨first, p⟩
  · exact Placed.of_pure trivial
  refine (ih.orTail p).bind fun r hrest => ?_
  obtain ⟨rest, q⟩ := r
  exact (joinLogical_placed hfirst hrest).bind fun _ ho => Placed.of_pure ho

theorem orTail_placed_succ (pos : Nat) :
    Placed len (OperandsWithin len) (orTail ts reg (n + 1) pos) := by
  rw [orTail]
  refine (expect_placed .orOr pos).bind fun o _ => ?_
  rcases o with _ | ⟨_, p⟩
  · exact Placed.of_pure (OperandsWithin.nil pos)
  refine (ih.logicalAnd p).bind fun o ho => ?_
  rcases o with _ | ⟨o, q⟩
  · exact Placed.of_pure (OperandsWithin.nil pos)
  refine (ih.orTail q).bind fun r hrest => ?_
  obtain ⟨rest, r⟩ := r
  exact Placed.of_pure (OperandsWithin.cons ho hrest)

theorem logicalAnd_placed_succ (pos : Nat) :
    Placed len (OperandWithin len) (logicalAnd ts reg (n + 1) pos) := by
  rw [logicalAnd]
  refine (ih.basic pos).bind fun o hfirst => ?_
  rcases o with _ | ⟨first, p⟩
  · exact Placed.of_pure trivial
  refine (ih.andTail p).bind fun r hrest => ?_
  obtain ⟨rest, q⟩ := r
  exact (joinLogical_placed hfirst hrest).bind fun _ ho => Placed.of_pure ho

theorem andTail_placed_succ (pos : Nat) :
    Placed len (OperandsWithin len) (andTail ts reg (n + 1) pos) := by
  rw [andTail]
  refine (expect_placed .andAnd pos).bind fun o _ => ?_
  rcases o with _ | ⟨_, p⟩
  · exact Placed.of_pure (OperandsWithin.nil pos)
  refine (ih.basic p).bind fun o ho => ?_
  rcases o with _ | ⟨o, q⟩
  · exact Placed.of_pure (OperandsWithin.nil pos)
  refine (ih.andTail q).bind fun r hrest => ?_
  obtain ⟨rest, r⟩ := r
  exact Placed.of_pure (OperandsWithin.cons ho hrest)

theorem basic_placed_succ (hts : TokensPlaced ts len) (pos : Nat) :
    Placed len (OperandWithin len) (basic ts reg (n + 1) pos) := by
  rw [basic]
  refine (bangs_placed _ _).bind fun r _ => ?_
  obtain ⟨negations, p⟩ := r
  refine (ih.spannedPrimary p).bind fun o hleft => ?_
  rcases o with _ | ⟨left, q⟩
  · exact Placed.of_pure trivial
  dsimp only
  split
  · -- negations: the primary is used as a test, and the span starts at the first `!`
    exact (asLogical_placed hleft).bind fun _ _ =>
      Placed.of_pure ((spanBetween_within hts pos pos).merge hleft)
  refine (comparisonOp_placed q).bind fun o _ => ?_
  rcases o with _ | ⟨op, r⟩
  · exact Placed.of_pure hleft
  refine (ih.spannedPrimary r).bind fun o hright => ?_
  rcases o with _ | ⟨right, s⟩
  · exact Placed.of_pure trivial
  -- a comparison spans both sides
  exact (asComparable_placed hleft).bind fun _ _ => (asComparable_placed hright).bind fun _ _ =>
    Placed.of_pure (hleft.merge hright)

theorem spannedPrimary_placed_succ (hts : TokensPlaced ts len) (pos : Nat) :
    Placed len (OperandWithin len) (spannedPrimary ts reg (n + 1) pos) := by
  rw [spannedPrimary]
  refine (ih.primary pos).bind fun o _ => ?_
  rcases o with _ | ⟨e, q⟩
  · exact Placed.of_pure trivial
  · exact Placed.of_pure (spanBetween_within hts pos q)

theorem primary_placed_succ (pos : Nat) :
    Placed len (fun _ => True) (primary ts reg (n + 1) pos) := by
  rw [primary]
  dsimp only
  refine Placed.bind (P := fun _ => True) ?_ fun o _ => ?_
  · -- parenthesized: a disjunction used as a test
    refine (expect_placed .lparen pos).bind fun o _ => ?_
    rcases o with _ | ⟨_, p⟩
    · exact Placed.of_pure trivial
    refine (ih.logicalOr p).bind fun o ho => ?_
    rcases o with _ | ⟨o, q⟩
    · exact Placed.of_pure trivial
    refine (expect_placed .rparen q).bind fun o _ => ?_
    rcases o with _ | ⟨_, r⟩
    · exact Placed.of_pure trivial
    · exact (asLogical_placed ho).bind fun _ _ => Placed.of_pure trivial
  rcases o with _ | r
  case some => exact Placed.of_pure trivial
  refine (expectAny_placed _ pos).bind fun o _ => ?_
  rcases o with _ | ⟨t, p⟩
  case some =>
    -- a query
    refine (ih.segments p).bind fun r _ => ?_
    obtain ⟨segs, q⟩ := r
    exact Placed.of_pure trivial
  refine (ih.call pos).bind fun o _ => ?_
  rcases o with _ | r
  · exact literal_placed pos
  · exact Placed.of_pure trivial

theorem call_placed_succ (hts : TokensPlaced ts len) (pos : Nat) : Placed len (fun _ => True) (call ts reg (n + 1) pos) := by
  rw [call]
  refine (expect_placed .ident pos).bind fun o hname => ?_
  rcases o with _ | ⟨nameTok, p⟩
  · exact Placed.of_pure trivial
  refine (expect_placed .lparen p).bind fun o hopen => ?_
  rcases o with _ | ⟨openTok, p'⟩
  · exact Placed.of_pure trivial
  obtain ⟨hname, rfl⟩ := hname
  have hnameW := hts.span_within hname
  dsimp only
  split
  · -- blanks before `(`: the gap between two adjacent tokens
    exact Placed.of_throw (hts.gap_within hname hopen.1)
  split
  · exact Placed.of_throw hnameW
  refine (ih.arguments _).bind fun r hargs => ?_
  obtain ⟨args, p''⟩ := r
  refine (expect_placed .rparen p'').bind fun o hclose => ?_
  rcases o with _ | ⟨closeTok, q⟩
  · exact Placed.of_pure trivial
  -- a wrong count of arguments is refused at the whole call
  have hspan := hnameW.merge (hts.span_within hclose.1)
  dsimp only
  split
  · exact Placed.of_throw hspan
  · exact (asArguments_placed _ _ _ _ hargs).bind fun _ _ => Placed.of_pure trivial

theorem arguments_placed_succ (pos : Nat) :
    Placed len (OperandsWithin len) (arguments ts reg (n + 1) pos) := by
  rw [arguments]
  refine (ih.logicalOr pos).bind fun o ho => ?_
  rcases o with _ | ⟨o, p⟩
  · exact Placed.of_pure (OperandsWithin.nil pos)
  refine (ih.moreArguments p).bind fun r hrest => ?_
  obtain ⟨rest, q⟩ := r
  exact Placed.of_pure (OperandsWithin.cons ho hrest)

theorem moreArguments_placed_succ (pos : Nat) :
    Placed len (OperandsWithin len) (moreArguments ts reg (n + 1) pos) := by
  rw [moreArguments]
  refine (expect_placed .comma pos).bind fun o _ => ?_
  rcases o with _ | ⟨_, p⟩
  · exact Placed.of_pure (OperandsWithin.nil pos)
  refine (ih.logicalOr p).bind fun o ho => ?_
  rcases o with _ | ⟨o, q⟩
  · exact Placed.of_pure (OperandsWithin.nil pos)
  refine (ih.moreArguments q).bind fun r hrest => ?_
  obtain ⟨rest, r⟩ := r
  exact Placed.of_pure (OperandsWithin.cons ho hrest)

theorem ReadsPlaced.succ (hts : TokensPlaced ts len) : ReadsPlaced ts reg len (n + 1) where
  segments := segments_placed_succ ih
  segment := segment_placed_succ ih hts
  bracketed := bracketed_placed_succ ih
  moreSelectors := moreSelectors_placed_succ ih
  selector := selector_placed_succ ih hts
  logicalOr := logicalOr_placed_succ ih
  orTail := orTail_placed_succ ih
  logicalAnd := logicalAnd_placed_succ ih
  andTail := andTail_placed_succ ih
  basic := basic_placed_succ ih hts
  spannedPrimary := spannedPrimary_placed_succ ih hts
  primary := primary_placed_succ ih
  call := call_placed_succ ih hts
  arguments := arguments_placed_succ ih
  moreArguments := moreArguments_placed_succ ih

end Succ

/-- Every rule throws only errors within the text, at every fuel. -/
theorem readsPlaced (hts : TokensPlaced ts len) : ∀ n, ReadsPlaced ts reg len n
  | 0 => readsPlaced_zero
  | n + 1 => (readsPlaced hts n).succ hts

theorem query_placed (hts : TokensPlaced ts len) (fuel : Nat) :
    Placed len (fun _ => True) (query ts reg fuel) := by
  unfold query
  refine (expect_placed .dollar 0).bind fun o _ => ?_
  rcases o with _ | ⟨_, p⟩
  · exact Placed.of_pure trivial
  refine ((readsPlaced hts fuel).segments p).bind fun r _ => ?_
  obtain ⟨segs, q⟩ := r
  refine (expect_placed .eoi q).bind fun o _ => ?_
  rcases o with _ | _
  · exact Placed.of_pure trivial
  · exact Placed.of_pure trivial

/-- The token at the place where reading stopped, or the end when there is none. -/
theorem TokensPlaced.getD_within (hts : TokensPlaced ts len) (pos : Nat) :
    ((ts[pos]?).getD default).span.Within len := by
  cases h : ts[pos]? with
  | none => exact ⟨Nat.le_refl 0, Nat.zero_le len⟩
  | some t => exact hts.span_within h

end Reading

theorem tooDeep?_mem : ∀ {depth : Nat} {tokens : List Token} {t : Token},
    tooDeep? depth tokens = some t → t ∈ tokens
  | _, [], _, h => by simp [tooDeep?] at h
  | depth, u :: rest, t, h => by
    simp only [tooDeep?] at h
    split_ifs at h
    · cases h
      exact List.mem_cons_self
    · exact List.mem_cons_of_mem _ (tooDeep?_mem h)
    · exact List.mem_cons_of_mem _ (tooDeep?_mem h)
    · exact List.mem_cons_of_mem _ (tooDeep?_mem h)

/-- Reading tokens as a query fails at a span within the text. -/
theorem ofTokens_error_placed {reg : Registry} {tokens : List Token} {len : Nat} {e : ParseError}
    (hts : TokensPlaced tokens.toArray len) (h : Query.ofTokens reg tokens = .error e) :
    e.span.Within len := by
  unfold Query.ofTokens at h
  cases hdeep : tooDeep? 0 tokens with
  | some t =>
    -- brackets nest too deep at a token of the text
    simp only [hdeep] at h
    cases h
    exact hts.within t (by simpa using tooDeep?_mem hdeep)
  | none =>
    simp only [hdeep] at h
    cases hrun : (query tokens.toArray reg (32 * (tokens.toArray.size + 1))).run ⟨0, []⟩ with
    | error e' =>
      rw [hrun] at h
      cases h
      exact ((query_placed hts _) _).2 _ hrun
    | ok r =>
      rw [hrun] at h
      obtain ⟨result, frontier⟩ := r
      cases result with
      | some q => cases h
      | none =>
        -- no reading: the error is at the token where reading stopped, or at the end
        cases h
        exact hts.getD_within _

/-- Every error of reading a query text points into the text, but the conversion's error of
an integer literal of more than `maxIntDigits` digits, which names no place. -/
theorem Query.parse_error_placed (reg : Registry) (source : String) (e : QueryError)
    (h : Query.parse reg source = .error e) : e.Placed source.length := by
  unfold Query.parse at h
  split at h
  · -- an error of reading the text into tokens
    rename_i e' hlex
    cases h
    exact tokenize_error_placed hlex
  · rename_i tokens htok
    split at h
    · -- an error of reading the tokens as a query
      rename_i e' hparse
      cases h
      exact QueryError.placed_of_span rfl (ofTokens_error_placed (tokenize_placed htok) hparse)
    · cases h

/-- The text `$#` does not read, and its error points into it. -/
theorem parse_invalid_character_placed :
    ∃ e, Query.parse Registry.builtin "$#" = .error e ∧ e.Placed "$#".length := by
  have hfail : (Query.parse Registry.builtin "$#").toBool = false := by decide +kernel
  cases hq : Query.parse Registry.builtin "$#" with
  | ok q =>
    rw [hq] at hfail
    cases hfail
  | error e => exact ⟨e, rfl, Query.parse_error_placed _ _ _ hq⟩

/-! ## Integer literals too long to convert -/

/-- A text that does not split into tokens does not read, with the lexical error. -/
theorem Query.parse_of_tokenize_error {reg : Registry} {source : String} {e : LexError}
    (h : tokenize source = .error e) : Query.parse reg source = .error (.lex e) := by
  unfold Query.parse
  rw [h]

/-- The text of an integer of more than `maxIntDigits` digits is one integer literal, which
the conversion of its text refuses. -/
theorem tokenize_intText_tooLong (i : Int) (h : maxIntDigits < intDigits i) :
    tokenize (toString i) = .error (.tooManyDigits (intDigits i)) := by
  have hscan := Number.scan?_intText i [] (by simp)
  rw [List.append_nil] at hscan
  have hne : (toString i).toList ≠ [] := by
    intro hnil
    rw [hnil] at hscan
    simp [Number.scan?] at hscan
  have hlex := lexeme?_number [] (by rw [List.append_nil]; exact hscan) hne
  rw [List.append_nil] at hlex
  -- no blanks before the literal
  obtain ⟨c, cs, hcs⟩ := List.exists_cons_of_ne_nil hne
  have hc : isBlank c = false := (opens_of_scan? hscan c (by rw [hcs]; exact rfl)).1
  have hblanks : (toString i).toList.takeWhile isBlank = [] := by
    rw [hcs, List.takeWhile_cons, hc]
    rfl
  have hlen : (toString i).length = (c :: cs).length := by rw [← hcs, String.length_toList]
  have htext : String.ofList (c :: cs) = toString i := by rw [← hcs, String.ofList_toList]
  -- the literal's value is refused
  have hval : ∀ span, tokenValue .integer (toString i) span = .error (.tooManyDigits (intDigits i)) := by
    intro span
    unfold tokenValue
    rw [hscan]
    exact if_pos h
  rw [hcs, hlen] at hlex
  unfold tokenize
  simp only [hblanks, List.length_nil, List.drop_zero]
  rw [hcs, scan]
  simp [hlex, Lexeme.kind, scan]
  have htext' : String.singleton c ++ String.ofList cs = toString i := by simpa using htext
  rw [htext']
  simp only [bind, Except.bind, List.mapM_cons, hval]
  rfl

/-- `10 ^ k` has `k + 1` digits. -/
theorem intDigits_ten_pow (k : Nat) : intDigits ((10 : Int) ^ k) = k + 1 := by
  unfold intDigits
  have habs : ((10 : Int) ^ k).natAbs = 10 ^ k := by simp [Int.natAbs_pow]
  rw [habs]
  obtain ⟨hlo, hhi⟩ := Binary64.toDigits_length_bounds (10 ^ k) (Nat.pow_pos (by decide))
  have h1 := (Nat.pow_le_pow_iff_right (by decide : 1 < 10)).1 hlo
  have h2 := (Nat.pow_lt_pow_iff_right (by decide : 1 < 10)).1 hhi
  omega

/-- The text of `10 ^ 4300`, an integer of 4301 digits, does not read: the conversion of the
literal refuses it, with an error that names no place in the text. -/
theorem parse_ten_pow_4300 :
    Query.parse Registry.builtin (toString ((10 : Int) ^ 4300)) =
      .error (.lex (.tooManyDigits 4301)) := by
  have hdigits : intDigits ((10 : Int) ^ 4300) = 4301 := intDigits_ten_pow 4300
  have hlex := tokenize_intText_tooLong ((10 : Int) ^ 4300) (by rw [hdigits]; decide)
  rw [hdigits] at hlex
  exact Query.parse_of_tokenize_error hlex

end Syntax

end JsonPath
