import JsonPath.Proofs.TokenPatterns
import JsonPath.Proofs.ErrorSpans

/-!
# Tokens partition the text

`tokenize` cuts a text into tokens from left to right: at each place after blanks it takes the
token at the front (`FrontToken`), and it stops where none starts. This module describes the
result by tilings of the text (`Tiles`): tokens one after the other, each the token at the
front of the text at its start, with only blanks between them.

Reading follows every tiling (`scan_of_tiles`): from a place where a tiling starts, the scan
takes its tokens one by one and arrives where it ends. And the scan always lays one
(`scan_tiles`): it ends with a tiling of the whole text, or stops at a character where no
token starts, behind a tiling of the text before it. Together they give what `tokenize`
returns (`tokenize_partitions`): the tokens of a tiling of the whole text, each with the text
under its span; or the error at the first character where no token starts; or, when the whole
text is tiled, the error of the first literal that cannot be decoded.
-/

set_option autoImplicit false

namespace JsonPath.Syntax

/-! ## Tilings -/

/-- Every character of `cs` from `a` on and before `b` is a blank. -/
def Blanks (cs : List Char) (a b : Nat) : Prop :=
  ∀ i, a ≤ i → i < b → ∃ c, cs[i]? = some c ∧ isBlank c = true

/-- The tokens `toks`, each a kind and a span, cover the characters of `cs` from `a` on and
before `p`: each is the token at the front of the text at its start, each starts where the
one before it ends or further on, and only blanks lie outside them. -/
def Tiles (cs : List Char) : Nat → List (TokenKind × Span) → Nat → Prop
  | a, [], p => a ≤ p ∧ Blanks cs a p
  | a, t :: ts, p => a ≤ t.2.start ∧ Blanks cs a t.2.start ∧
      FrontToken (cs.drop t.2.start) t.1 (t.2.stop - t.2.start) ∧ Tiles cs t.2.stop ts p

/-- The raw token a tiling reads at a span: its kind, the text under the span, and the span. -/
def rawToken (cs : List Char) (t : TokenKind × Span) : TokenKind × String × Span :=
  (t.1, String.ofList ((cs.drop t.2.start).take (t.2.stop - t.2.start)), t.2)

/-- A tiling ends where it starts or further on. -/
theorem Tiles.le {cs : List Char} : ∀ {a : Nat} {toks : List (TokenKind × Span)} {p : Nat},
    Tiles cs a toks p → a ≤ p
  | _, [], _, ⟨hap, _⟩ => hap
  | _, _ :: _, _, ⟨hat, _, hfront, hts⟩ => by
      have hpos := hfront.pos.1
      have hsp := hts.le
      omega

/-- A tiling that ends at `q` goes on with the token at the front there and the blanks after
it. -/
theorem Tiles.snoc {cs : List Char} {kind : TokenKind} {q n p : Nat}
    (hfront : FrontToken (cs.drop q) kind n) (hb : Blanks cs (q + n) p) (hp : q + n ≤ p) :
    ∀ {a : Nat} {toks : List (TokenKind × Span)}, Tiles cs a toks q →
      Tiles cs a (toks ++ [(kind, ⟨q, q + n⟩)]) p
  | a, [], ⟨haq, hbq⟩ => ⟨haq, hbq, by simpa using hfront, by simpa using hp, by simpa using hb⟩
  | a, t :: ts, ⟨hat, hbt, hft, hts⟩ => ⟨hat, hbt, hft, Tiles.snoc hfront hb hp hts⟩

/-- The spans of a tiling lie in order within it, and every character of it outside them
is a blank. -/
theorem Tiles.partition {cs : List Char} : ∀ {a : Nat} {toks : List (TokenKind × Span)} {p : Nat},
    Tiles cs a toks p →
      (∀ t ∈ toks, a ≤ t.2.start ∧ t.2.start < t.2.stop ∧ t.2.stop ≤ p) ∧
      toks.Pairwise (fun s t => s.2.stop ≤ t.2.start) ∧
      ∀ i, a ≤ i → i < p → (∀ t ∈ toks, ¬ (t.2.start ≤ i ∧ i < t.2.stop)) →
        ∃ c, cs[i]? = some c ∧ isBlank c = true
  | a, [], p, ⟨_, hb⟩ => ⟨by simp, .nil, fun i hi hi' _ => hb i hi hi'⟩
  | a, t :: ts, p, ⟨hat, hbt, hft, hts⟩ => by
      obtain ⟨hin, hpw, hout⟩ := hts.partition
      have hpos := hft.pos.1
      refine ⟨fun s hs => ?_, List.Pairwise.cons (fun s hs => (hin s hs).1) hpw, ?_⟩
      · rcases List.mem_cons.1 hs with rfl | hs
        · exact ⟨hat, by omega, hts.le⟩
        · obtain ⟨h1, h2, h3⟩ := hin s hs
          exact ⟨by omega, h2, h3⟩
      · -- a character outside every span lies before the first token or after it
        intro i hi hi' hnot
        by_cases hit : i < t.2.start
        · exact hbt i hi hit
        · have hstop : t.2.stop ≤ i := by
            have := hnot t List.mem_cons_self
            omega
          exact hout i hstop hi' fun s hs => hnot s (List.mem_cons_of_mem t hs)

/-! ## Blanks before a token -/

theorem head?_not_blank {cs tail : List Char} {c : Char} (h : cs = c :: tail)
    (hc : isBlank c = false) : ∀ d ∈ cs.head?, isBlank d = false := by
  intro d hd
  rw [h, List.head?_cons, Option.mem_def, Option.some.injEq] at hd
  rw [← hd]
  exact hc

/-- The blanks the reader skips from `a` are exactly those before the next character that is
no blank. -/
theorem takeWhile_blanks_length {cs : List Char} {a b : Nat} (hb : Blanks cs a b) (hab : a ≤ b)
    (hnb : ∀ c ∈ (cs.drop b).head?, isBlank c = false) :
    ((cs.drop a).takeWhile isBlank).length = b - a := by
  rcases Nat.eq_or_lt_of_le hab with rfl | hlt
  · cases hd : cs.drop a with
    | nil => simp
    | cons c rest =>
      rw [hd] at hnb
      simp [hnb c rfl]
  · -- the characters up to `b` are blanks, and the one at `b` is not
    obtain ⟨c, hc, -⟩ := hb (b - 1) (by omega) (by omega)
    have hlen : b ≤ cs.length := by
      have := (List.getElem?_eq_some_iff.1 hc).1
      omega
    have hsplit : cs.drop a = (cs.drop a).take (b - a) ++ cs.drop b := by
      conv_lhs => rw [← List.take_append_drop (b - a) (cs.drop a)]
      rw [List.drop_drop, Nat.add_sub_cancel' hab]
    have hall : ∀ d ∈ (cs.drop a).take (b - a), isBlank d = true := by
      intro d hd
      obtain ⟨j, hj, rfl⟩ := List.getElem_of_mem hd
      simp only [List.length_take, List.length_drop] at hj
      obtain ⟨c', hc', hbl⟩ := hb (a + j) (by omega) (by omega)
      rw [List.getElem_take, List.getElem_drop]
      rw [List.getElem?_eq_some_iff] at hc'
      obtain ⟨_, rfl⟩ := hc'
      exact hbl
    have hrest : (cs.drop b).takeWhile isBlank = [] := by
      cases hd : cs.drop b with
      | nil => rfl
      | cons c rest =>
        rw [hd] at hnb
        simp [hnb c rfl]
    rw [hsplit, List.takeWhile_append_of_pos hall, hrest, List.append_nil, List.length_take,
      List.length_drop]
    omega

/-- The characters the reader skips are blanks. -/
theorem blanks_takeWhile (cs : List Char) (a : Nat) :
    Blanks cs a (a + ((cs.drop a).takeWhile isBlank).length) := by
  intro i hi hi'
  have hlt : i - a < ((cs.drop a).takeWhile isBlank).length := by omega
  refine ⟨((cs.drop a).takeWhile isBlank)[i - a], ?_, ?_⟩
  · have hsplit : (cs.drop a).takeWhile isBlank ++ (cs.drop a).dropWhile isBlank = cs.drop a :=
      List.takeWhile_append_dropWhile
    have hget : (cs.drop a)[i - a]? = ((cs.drop a).takeWhile isBlank)[i - a]? := by
      conv_lhs => rw [← hsplit]
      exact List.getElem?_append_left hlt
    rw [List.getElem?_drop, Nat.add_sub_cancel' hi] at hget
    rw [hget, List.getElem?_eq_getElem hlt]
  · exact List.all_eq_true.1 List.all_takeWhile _ (List.getElem_mem hlt)

/-- After the blanks the reader skips comes no blank. -/
theorem not_blank_after_takeWhile (cs : List Char) (a : Nat) :
    ∀ c ∈ (cs.drop (a + ((cs.drop a).takeWhile isBlank).length)).head?, isBlank c = false := by
  intro c hc
  have hsplit : (cs.drop a).takeWhile isBlank ++ (cs.drop a).dropWhile isBlank = cs.drop a :=
    List.takeWhile_append_dropWhile
  have hdrop : cs.drop (a + ((cs.drop a).takeWhile isBlank).length) =
      (cs.drop a).dropWhile isBlank := by
    rw [← List.drop_drop]
    calc (cs.drop a).drop ((cs.drop a).takeWhile isBlank).length
        = ((cs.drop a).takeWhile isBlank ++ (cs.drop a).dropWhile isBlank).drop
            ((cs.drop a).takeWhile isBlank).length := by rw [hsplit]
      _ = (cs.drop a).dropWhile isBlank := List.drop_left
  have hp := List.head?_dropWhile_not isBlank (cs.drop a)
  rw [hdrop, Option.mem_def] at hc
  rw [hc] at hp
  exact hp

/-! ## Reading follows every tiling -/

/-- One step of the reader: the token at the front, then the blanks after it. -/
theorem scan_cons_of_lexeme? {c : Char} {tail : List Char} {offset : Nat}
    {acc : List (TokenKind × String × Span)} {kind : TokenKind} {n : Nat}
    (h : lexeme? (c :: tail) = some (kind, n)) (hn : 0 < n) :
    scan (c :: tail) offset acc =
      scan (((c :: tail).drop n).drop (((c :: tail).drop n).takeWhile isBlank).length)
        (offset + n + (((c :: tail).drop n).takeWhile isBlank).length)
        ((kind, String.ofList ((c :: tail).take n), ⟨offset, offset + n⟩) :: acc) := by
  rw [scan]
  simp only [h, hn, dite_true]

/-- Where no token starts, the reader stops: at an unclosed string when the character is a
quote, at an invalid character otherwise. -/
theorem scan_cons_of_lexeme?_none {c : Char} {tail : List Char} {offset : Nat}
    {acc : List (TokenKind × String × Span)} (h : lexeme? (c :: tail) = none) :
    scan (c :: tail) offset acc =
      .error (if c = '\'' ∨ c = '"' then .unterminatedString offset else .invalidCharacter c offset) := by
  rw [scan]
  simp only [h]
  by_cases hq : c = '\'' ∨ c = '"'
  · rw [if_pos hq, if_pos hq]
  · rw [if_neg hq, if_neg hq]

/-- Reading follows a tiling: from where it starts, after the blanks there, the reader takes
its tokens one by one and arrives at its end. -/
theorem scan_of_tiles {cs : List Char} {p : Nat}
    (hp : ∀ c ∈ (cs.drop p).head?, isBlank c = false) :
    ∀ {a : Nat} {toks : List (TokenKind × Span)} (acc : List (TokenKind × String × Span)),
      Tiles cs a toks p →
      scan (cs.drop (a + ((cs.drop a).takeWhile isBlank).length))
          (a + ((cs.drop a).takeWhile isBlank).length) acc =
        scan (cs.drop p) p ((toks.map (rawToken cs)).reverse ++ acc)
  | a, [], acc, ⟨hap, hb⟩ => by
    rw [takeWhile_blanks_length hb hap hp, Nat.add_sub_cancel' hap]
    simp
  | a, t :: ts, acc, ⟨hat, hbt, hft, hts⟩ => by
    obtain ⟨c, tail, hct⟩ : ∃ c tail, cs.drop t.2.start = c :: tail := by
      cases hd : cs.drop t.2.start with
      | nil =>
        rw [hd] at hft
        exact hft.elim
      | cons c tail => exact ⟨c, tail, rfl⟩
    rw [hct] at hft
    -- the blanks at `a` end where the first token starts
    have hnb := head?_not_blank hct hft.head_not_blank
    obtain ⟨hpos, -⟩ := hft.pos
    have hstop : t.2.start + (t.2.stop - t.2.start) = t.2.stop := by omega
    have hrest : (cs.drop t.2.start).drop (t.2.stop - t.2.start) = cs.drop t.2.stop := by
      rw [List.drop_drop, hstop]
    rw [takeWhile_blanks_length hbt hat hnb, Nat.add_sub_cancel' hat, hct,
      scan_cons_of_lexeme? (lexeme?_eq_some_iff.2 hft) hpos, ← hct, hrest, List.drop_drop, hstop]
    have hraw : (t.1, String.ofList ((cs.drop t.2.start).take (t.2.stop - t.2.start)),
        (⟨t.2.start, t.2.stop⟩ : Span)) = rawToken cs t := rfl
    rw [hraw, scan_of_tiles hp _ hts]
    simp

/-! ## The reader lays a tiling -/

/-- An outcome of reading `cs` that lays a tiling: a result is the raw tokens of a tiling of
the whole text, and an error stops at a character that is no blank and where no token
starts, behind a tiling of the text before it. -/
def LaysTiling (cs : List Char) (r : Except LexError (List (TokenKind × String × Span))) : Prop :=
  (∀ out, r = .ok out → ∃ toks, Tiles cs 0 toks cs.length ∧ out = toks.map (rawToken cs)) ∧
  (∀ e, r = .error e →
    ∃ toks p c, Tiles cs 0 toks p ∧ cs[p]? = some c ∧ isBlank c = false ∧
      lexeme? (cs.drop p) = none ∧
      e = if c = '\'' ∨ c = '"' then .unterminatedString p else .invalidCharacter c p)

/-- Where no token starts, the reader stops behind the tiling it has laid. -/
theorem LaysTiling.stop {cs tail : List Char} {c : Char} {offset : Nat}
    {acc : List (TokenKind × String × Span)} {toks : List (TokenKind × Span)}
    (hin : c :: tail = cs.drop offset) (hc : isBlank c = false) (htoks : Tiles cs 0 toks offset)
    (hlex : lexeme? (c :: tail) = none) : LaysTiling cs (scan (c :: tail) offset acc) := by
  rw [scan_cons_of_lexeme?_none hlex]
  refine ⟨fun out hout => ?_, fun e he => ?_⟩
  · cases hout
  · cases he
    refine ⟨toks, offset, c, htoks, ?_, hc, by rw [← hin]; exact hlex, rfl⟩
    rw [← List.head?_drop, ← hin]
    rfl

/-- One step of the reader keeps it behind a tiling: the token at the front and the blanks
after it extend the tiling, within the text. -/
theorem Tiles.step {cs : List Char} {toks : List (TokenKind × Span)} {q n : Nat}
    {kind : TokenKind} (htoks : Tiles cs 0 toks q) (hfront : FrontToken (cs.drop q) kind n) :
    Tiles cs 0 (toks ++ [(kind, ⟨q, q + n⟩)])
        (q + n + ((cs.drop (q + n)).takeWhile isBlank).length) ∧
      q + n + ((cs.drop (q + n)).takeWhile isBlank).length ≤ cs.length := by
  obtain ⟨hpos, hle⟩ := hfront.pos
  have hB := (List.takeWhile_prefix isBlank :
    (cs.drop (q + n)).takeWhile isBlank <+: cs.drop (q + n)).length_le
  rw [List.length_drop] at hle hB
  exact ⟨Tiles.snoc hfront (blanks_takeWhile cs (q + n)) (Nat.le_add_right _ _) htoks, by omega⟩

/-- The reader always lays a tiling: it ends with one of the whole text, or it stops at a
character that is no blank and where no token starts, behind a tiling of the text before
it. -/
theorem scan_tiles {cs : List Char} :
    ∀ (input : List Char) (q : Nat) (acc : List (TokenKind × String × Span)),
      input = cs.drop q → (∀ c ∈ input.head?, isBlank c = false) → q ≤ cs.length →
      ∀ toks, Tiles cs 0 toks q → acc = (toks.map (rawToken cs)).reverse →
      LaysTiling cs (scan input q acc) := by
  intro input q acc
  induction input, q, acc using scan.induct with
  | case1 q acc =>
    -- the text is read to its end
    intro hin _ hq toks htoks hacc
    have hlen : q = cs.length := by
      have := congrArg List.length hin
      simp only [List.length_nil, List.length_drop] at this
      omega
    subst hlen
    rw [scan]
    refine ⟨fun out hout => ⟨toks, htoks, ?_⟩, fun e he => ?_⟩
    · cases hout
      rw [hacc, List.reverse_reverse]
    · cases he
  | case2 c tail offset acc _ kind n hlex hn rest blanks ih =>
    -- one token, then the blanks after it
    intro hin hnb hq toks htoks hacc
    have hlex' : lexeme? (c :: tail) = some (kind, n) := hlex
    have hfront : FrontToken (cs.drop offset) kind n := by
      rw [← hin]
      exact lexeme?_eq_some_iff.1 hlex'
    have hrest : (c :: tail).drop n = cs.drop (offset + n) := by
      rw [hin, List.drop_drop]
    have hblanks : blanks = ((cs.drop (offset + n)).takeWhile isBlank).length := by
      show (((c :: tail).drop n).takeWhile isBlank).length = _
      rw [hrest]
    have hin' : rest.drop blanks = cs.drop (offset + n + blanks) := by
      show ((c :: tail).drop n).drop blanks = _
      rw [hrest, List.drop_drop]
    have hnb' : ∀ d ∈ (rest.drop blanks).head?, isBlank d = false := by
      rw [hin', hblanks]
      exact not_blank_after_takeWhile cs (offset + n)
    obtain ⟨htiles, hq'⟩ := Tiles.step htoks hfront
    rw [← hblanks] at htiles hq'
    have hacc' : (kind, String.ofList ((c :: tail).take n), (⟨offset, offset + n⟩ : Span)) :: acc =
        ((toks ++ [(kind, (⟨offset, offset + n⟩ : Span))]).map (rawToken cs)).reverse := by
      rw [hacc, List.map_append, List.reverse_append]
      simp [rawToken, hin]
    rw [scan_cons_of_lexeme? hlex' hn]
    exact ih hin' hnb' hq' _ htiles hacc'
  | case3 c tail offset acc _ kind n hlex hn =>
    intro hin
    have hlex' : lexeme? (c :: tail) = some (kind, n) := hlex
    exact absurd (lexeme?_eq_some_iff.1 hlex').pos.1 hn
  | case4 c tail offset acc _ hlex hq =>
    intro hin hnb _ toks htoks _
    exact LaysTiling.stop hin (hnb c rfl) htoks hlex
  | case5 c tail offset acc _ hlex hq =>
    intro hin hnb _ toks htoks _
    exact LaysTiling.stop hin (hnb c rfl) htoks hlex

/-! ## Decoding the literals -/

/-- `mapM` in `Except` fails exactly when some element fails and every one before it does
not, and then with the error of that element. -/
theorem mapM_except_eq_error_iff {α β ε : Type} {f : α → Except ε β} {e : ε} :
    ∀ {l : List α}, l.mapM f = .error e ↔
      ∃ pre a post, l = pre ++ a :: post ∧ (∀ x ∈ pre, ∃ b, f x = .ok b) ∧ f a = .error e
  | [] => by simp [pure, Except.pure]
  | a :: l => by
    rw [List.mapM_cons]
    cases hfa : f a with
    | error e' =>
      -- the first element fails
      have hfirst : (Except.error e' >>= fun b => l.mapM f >>= fun bs => pure (b :: bs) :
          Except ε (List β)) = .error e' := rfl
      rw [hfirst]
      constructor
      · intro h
        cases h
        exact ⟨[], a, l, rfl, by simp, hfa⟩
      · rintro ⟨pre, x, post, hsplit, hpre, hx⟩
        cases pre with
        | nil =>
          obtain ⟨rfl, rfl⟩ := List.cons.inj hsplit
          rw [hfa] at hx
          cases hx
          rfl
        | cons y pre =>
          obtain ⟨hay, -⟩ := List.cons.inj hsplit
          obtain ⟨b, hb⟩ := hpre y List.mem_cons_self
          rw [← hay, hfa] at hb
          cases hb
    | ok b =>
      -- the first element decodes: the failure is in the rest
      have hrest : (Except.ok b >>= fun b => l.mapM f >>= fun bs => pure (b :: bs) :
          Except ε (List β)) = .error e ↔ l.mapM f = .error e := by
        cases l.mapM f <;> simp [bind, Except.bind, pure, Except.pure]
      rw [hrest, mapM_except_eq_error_iff]
      constructor
      · rintro ⟨pre, x, post, rfl, hpre, hx⟩
        refine ⟨a :: pre, x, post, rfl, fun y hy => ?_, hx⟩
        rcases List.mem_cons.1 hy with rfl | hy
        exacts [⟨b, hfa⟩, hpre y hy]
      · rintro ⟨pre, x, post, hsplit, hpre, hx⟩
        cases pre with
        | nil =>
          obtain ⟨rfl, -⟩ := List.cons.inj hsplit
          rw [hfa] at hx
          cases hx
        | cons y pre =>
          obtain ⟨rfl, rfl⟩ := List.cons.inj hsplit
          exact ⟨pre, x, post, rfl, fun z hz => hpre z (List.mem_cons_of_mem _ hz), hx⟩

/-- Decoding a raw token: the value of its literal, and the token. -/
def decodeRaw (r : TokenKind × String × Span) : Except LexError Token := do
  let value ← tokenValue r.1 r.2.1 r.2.2
  pure { kind := r.1, text := r.2.1, span := r.2.2, value := value }

/-- `tokenize` reads the raw tokens after the leading blanks, decodes them in order, and ends
them with the end of the input. -/
theorem tokenize_eq (source : String) :
    tokenize source =
      (scan (source.toList.drop (source.toList.takeWhile isBlank).length)
          (source.toList.takeWhile isBlank).length [] >>= fun raw =>
        raw.mapM decodeRaw >>= fun tokens =>
          pure (tokens ++
            [{ kind := .eoi, text := "", span := ⟨source.toList.length, source.toList.length⟩,
               value := none }])) :=
  rfl

theorem decodeRaw_eq_error_iff (r : TokenKind × String × Span) (e : LexError) :
    decodeRaw r = .error e ↔ tokenValue r.1 r.2.1 r.2.2 = .error e := by
  unfold decodeRaw
  cases tokenValue r.1 r.2.1 r.2.2 <;> simp [bind, Except.bind, pure, Except.pure]

theorem decodeRaw_ok_iff (r : TokenKind × String × Span) :
    (∃ t, decodeRaw r = .ok t) ↔ ∃ v, tokenValue r.1 r.2.1 r.2.2 = .ok v := by
  unfold decodeRaw
  cases tokenValue r.1 r.2.1 r.2.2 <;> simp [bind, Except.bind, pure, Except.pure]

theorem decodeRaw_raw {r : TokenKind × String × Span} {t : Token} (h : decodeRaw r = .ok t) :
    (t.kind, t.text, t.span) = r := by
  unfold decodeRaw at h
  cases hv : tokenValue r.1 r.2.1 r.2.2 with
  | error e =>
    rw [hv] at h
    cases h
  | ok v =>
    rw [hv] at h
    cases h
    rfl

/-- A literal that cannot be decoded fails at its span, except an integer literal with too
many digits. -/
theorem tokenValue_error_span {kind : TokenKind} {text : String} {span : Span} {e : LexError}
    (h : tokenValue kind text span = .error e) :
    e.span? = some span ∨ ∃ d, e = .tooManyDigits d := by
  unfold tokenValue at h
  split at h
  · split at h
    · cases h
    · cases h
      exact .inl rfl
  · split at h
    · split_ifs at h
      cases h
      exact .inr ⟨_, rfl⟩
    · cases h
  · split at h
    · split_ifs at h
      cases h
      exact .inl rfl
    · cases h
  · cases h

/-! ## What `tokenize` returns -/

/-- The reader starts after the leading blanks, behind the empty tiling, and lays a tiling
from there. -/
theorem scan_start_lays (cs : List Char) :
    LaysTiling cs (scan (cs.drop (cs.takeWhile isBlank).length) (cs.takeWhile isBlank).length []) := by
  have hB := blanks_takeWhile cs 0
  have hnb := not_blank_after_takeWhile cs 0
  rw [Nat.zero_add] at hB hnb
  have hBle := (List.takeWhile_prefix isBlank : cs.takeWhile isBlank <+: cs).length_le
  exact scan_tiles _ _ [] rfl hnb hBle [] ⟨Nat.zero_le _, hB⟩ rfl

/-- The reader starts after the leading blanks and follows every tiling from the start of the
text. -/
theorem scan_start_of_tiles {cs : List Char} {toks : List (TokenKind × Span)} {p : Nat}
    (htiles : Tiles cs 0 toks p) (hp : ∀ c ∈ (cs.drop p).head?, isBlank c = false) :
    scan (cs.drop (cs.takeWhile isBlank).length) (cs.takeWhile isBlank).length [] =
      scan (cs.drop p) p (toks.map (rawToken cs)).reverse := by
  have h := scan_of_tiles hp [] htiles
  rw [Nat.zero_add, List.drop_zero, List.append_nil] at h
  exact h

theorem head_of_getElem? {cs : List Char} {p : Nat} {c : Char} (hc : cs[p]? = some c) :
    cs.drop p = c :: cs.drop (p + 1) := by
  obtain ⟨hp, rfl⟩ := List.getElem?_eq_some_iff.1 hc
  exact List.drop_eq_getElem_cons hp

/-- A result of `tokenize` is the tokens of a tiling of the whole text, each with the text
under its span, then the end of the input. -/
theorem tokenize_ok_tiles {source : String} {tokens : List Token}
    (h : tokenize source = .ok tokens) :
    ∃ toks, Tiles source.toList 0 toks source.toList.length ∧
      tokens.map (fun t => (t.kind, t.text, t.span)) = toks.map (rawToken source.toList) ++
        [(.eoi, "", ⟨source.toList.length, source.toList.length⟩)] := by
  rw [tokenize_eq, bind_eq_ok] at h
  obtain ⟨raw, hraw, h⟩ := h
  obtain ⟨toks, htiles, rfl⟩ := (scan_start_lays source.toList).1 raw hraw
  rw [bind_eq_ok] at h
  obtain ⟨decoded, hdec, h⟩ := h
  cases h
  refine ⟨toks, htiles, ?_⟩
  rw [List.map_append, mapM_except_map (fun r t h => decodeRaw_raw h) hdec]
  simp

/-- An error of `tokenize` is the reader's, where no token starts after a tiling, or that of
the first literal of a tiling of the whole text that does not decode. -/
theorem tokenize_error_cases {source : String} {e : LexError} (h : tokenize source = .error e) :
    (∃ toks p c, Tiles source.toList 0 toks p ∧ source.toList[p]? = some c ∧
      isBlank c = false ∧ lexeme? (source.toList.drop p) = none ∧
      e = if c = '\'' ∨ c = '"' then .unterminatedString p else .invalidCharacter c p) ∨
    (∃ toks pre t post, Tiles source.toList 0 toks source.toList.length ∧
      toks = pre ++ t :: post ∧
      (∀ u ∈ pre, ∃ v, tokenValue u.1 (rawToken source.toList u).2.1 u.2 = .ok v) ∧
      tokenValue t.1 (rawToken source.toList t).2.1 t.2 = .error e) := by
  rw [tokenize_eq] at h
  cases hraw : scan (source.toList.drop (source.toList.takeWhile isBlank).length)
      (source.toList.takeWhile isBlank).length [] with
  | error e' =>
    rw [hraw] at h
    change Except.error e' = Except.error e at h
    cases h
    exact .inl ((scan_start_lays source.toList).2 e hraw)
  | ok raw =>
    rw [hraw] at h
    obtain ⟨toks, htiles, rfl⟩ := (scan_start_lays source.toList).1 raw hraw
    -- the literals were read, and one of them does not decode
    have hdec : (toks.map (rawToken source.toList)).mapM decodeRaw = .error e := by
      change ((toks.map (rawToken source.toList)).mapM decodeRaw >>= fun tokens =>
        pure (tokens ++ _)) = Except.error e at h
      cases hm : (toks.map (rawToken source.toList)).mapM decodeRaw with
      | error e' =>
        rw [hm] at h
        exact h
      | ok ts =>
        rw [hm] at h
        cases h
    obtain ⟨preR, r, postR, hsplit, hpre, hr⟩ := mapM_except_eq_error_iff.1 hdec
    obtain ⟨pre, rest, rfl, rfl, hrest⟩ := List.map_eq_append_iff.1 hsplit
    obtain ⟨t, post, rfl, rfl, -⟩ := List.map_eq_cons_iff.1 hrest
    refine .inr ⟨_, pre, t, post, htiles, rfl, fun u hu => ?_, (decodeRaw_eq_error_iff _ _).1 hr⟩
    exact (decodeRaw_ok_iff _).1 (hpre _ (List.mem_map_of_mem hu))

/-- Behind a tiling, at a character that is no blank and where no token starts, `tokenize`
fails. -/
theorem tokenize_of_stop {source : String} {toks : List (TokenKind × Span)} {p : Nat} {c : Char}
    (htiles : Tiles source.toList 0 toks p) (hc : source.toList[p]? = some c)
    (hcb : isBlank c = false) (hnone : lexeme? (source.toList.drop p) = none) :
    tokenize source =
      .error (if c = '\'' ∨ c = '"' then .unterminatedString p else .invalidCharacter c p) := by
  have hct := head_of_getElem? hc
  have hlex : lexeme? (c :: source.toList.drop (p + 1)) = none := by
    rw [← hct]
    exact hnone
  rw [tokenize_eq, scan_start_of_tiles htiles (head?_not_blank hct hcb), hct,
    scan_cons_of_lexeme?_none hlex]
  rfl

/-- When a tiling covers the whole text, `tokenize` fails with the error of its first literal
that does not decode. -/
theorem tokenize_of_decode_error {source : String} {pre post : List (TokenKind × Span)}
    {t : TokenKind × Span} {e : LexError}
    (htiles : Tiles source.toList 0 (pre ++ t :: post) source.toList.length)
    (hpre : ∀ u ∈ pre, ∃ v, tokenValue u.1 (rawToken source.toList u).2.1 u.2 = .ok v)
    (ht : tokenValue t.1 (rawToken source.toList t).2.1 t.2 = .error e) :
    tokenize source = .error e := by
  have hdrop : source.toList.drop source.toList.length = [] :=
    List.drop_of_length_le (Nat.le_refl _)
  have hp : ∀ d ∈ (source.toList.drop source.toList.length).head?, isBlank d = false := by
    rw [hdrop]
    intro d hd
    cases hd
  -- the literals are decoded in order, and the first failure is the error
  have hdec : ((pre ++ t :: post).map (rawToken source.toList)).mapM decodeRaw = .error e := by
    refine mapM_except_eq_error_iff.2 ⟨pre.map (rawToken source.toList),
      rawToken source.toList t, post.map (rawToken source.toList), by simp, fun x hx => ?_,
      (decodeRaw_eq_error_iff _ _).2 ht⟩
    obtain ⟨u, hu, rfl⟩ := List.mem_map.1 hx
    exact (decodeRaw_ok_iff _).2 (hpre u hu)
  rw [tokenize_eq, scan_start_of_tiles htiles hp, hdrop, scan.eq_1, List.reverse_reverse]
  change (((pre ++ t :: post).map (rawToken source.toList)).mapM decodeRaw >>= fun tokens =>
    pure (tokens ++ _)) = Except.error e
  rw [hdec]
  rfl

/-- What `tokenize` returns. A result is the tokens of a tiling of the whole text: spans in
order within the text, blanks outside them, each token with the text under its span, then
the end of the input at the end of the text. It fails exactly in two ways. Either the tiling
from the start stops at a character that is no blank and where no token starts: the error
names that character, as an unclosed string when it is a quote and as an invalid character
otherwise. Or the whole text is tiled and a literal does not decode: the error is that of
the first such literal, which names its span unless it is an integer with too many
digits. -/
theorem tokenize_partitions (source : String) :
    (∀ tokens, tokenize source = .ok tokens →
      ∃ toks, Tiles source.toList 0 toks source.length ∧
        (∀ t ∈ toks, t.2.start < t.2.stop ∧ t.2.stop ≤ source.length) ∧
        toks.Pairwise (fun s t => s.2.stop ≤ t.2.start) ∧
        (∀ i < source.length, (∀ t ∈ toks, ¬ (t.2.start ≤ i ∧ i < t.2.stop)) →
          ∃ c, source.toList[i]? = some c ∧ isBlank c = true) ∧
        tokens.map (fun t => (t.kind, t.text, t.span)) =
          toks.map (rawToken source.toList) ++ [(.eoi, "", ⟨source.length, source.length⟩)]) ∧
    ∀ e, tokenize source = .error e ↔
      (∃ toks p c, Tiles source.toList 0 toks p ∧ source.toList[p]? = some c ∧
        isBlank c = false ∧ (∀ kind n, ¬ FrontToken (source.toList.drop p) kind n) ∧
        e = (if c = '\'' ∨ c = '"' then .unterminatedString p else .invalidCharacter c p) ∧
        e.span? = some ⟨p, p + 1⟩ ∧
        e.message = if c = '\'' ∨ c = '"' then "unterminated string literal"
          else "invalid character " ++ Text.quote c.toString) ∨
      (∃ toks pre t post, Tiles source.toList 0 toks source.length ∧ toks = pre ++ t :: post ∧
        (∀ u ∈ pre, ∃ v, tokenValue u.1 (rawToken source.toList u).2.1 u.2 = .ok v) ∧
        tokenValue t.1 (rawToken source.toList t).2.1 t.2 = .error e ∧
        (e.span? = some t.2 ∨ ∃ d, e = .tooManyDigits d)) := by
  have hlen : source.toList.length = source.length := String.length_toList
  refine ⟨fun tokens h => ?_, fun e => ⟨fun h => ?_, fun h => ?_⟩⟩
  · -- a result: the tokens of a tiling, which lie in order with blanks between them
    obtain ⟨toks, htiles, hmap⟩ := tokenize_ok_tiles h
    rw [hlen] at htiles hmap
    obtain ⟨hin, hpw, hout⟩ := htiles.partition
    exact ⟨toks, htiles, fun t ht => (hin t ht).2, hpw, fun i hi => hout i (Nat.zero_le i) hi, hmap⟩
  · rcases tokenize_error_cases h with ⟨toks, p, c, htiles, hc, hcb, hnone, rfl⟩ |
      ⟨toks, pre, t, post, htiles, hsplit, hpre, ht⟩
    · refine .inl ⟨toks, p, c, htiles, hc, hcb, lexeme?_eq_none_iff.1 hnone, rfl, ?_, ?_⟩ <;>
        split <;> rfl
    · rw [hlen] at htiles
      exact .inr ⟨toks, pre, t, post, htiles, hsplit, hpre, ht, tokenValue_error_span ht⟩
  · rcases h with ⟨toks, p, c, htiles, hc, hcb, hnone, rfl, -, -⟩ |
      ⟨toks, pre, t, post, htiles, rfl, hpre, ht, -⟩
    · exact tokenize_of_stop htiles hc hcb (lexeme?_eq_none_iff.2 hnone)
    · rw [← hlen] at htiles
      exact tokenize_of_decode_error htiles hpre ht

/-- The text of `10 ^ 4300` is one integer literal, which covers the whole text but does not
decode: its error is the conversion's own and names no place in the text. -/
theorem tokenize_ten_pow_4300 :
    tokenize (toString ((10 : Int) ^ 4300)) = .error (.tooManyDigits 4301) ∧
      (LexError.tooManyDigits 4301).span? = none := by
  have hdigits : intDigits ((10 : Int) ^ 4300) = 4301 := intDigits_ten_pow 4300
  have hlex := tokenize_intText_tooLong ((10 : Int) ^ 4300) (by rw [hdigits]; decide)
  rw [hdigits] at hlex
  exact ⟨hlex, rfl⟩

end JsonPath.Syntax
