import JsonPath.Proofs.Lexemes
import JsonPath.Proofs.ShortestText
import JsonPath.Proofs.WellFormed

/-!
# Reading a canonical text into tokens

The lexer reads the canonical text of a well-formed query lexeme by lexeme: each lexeme of
`Query.pieces` becomes one token, with its kind, its text and the value of its literal,
and the blanks between them are dropped (`Query.tokenize_render`).

Two things make this work. Each lexeme is read whole and alone: a mark is not the start of
a longer mark, an identifier or number is not continued by the character after it
(`Lexeme.StopsBefore`); this holds at every junction of the canonical pieces because
every stretch of pieces starts with a lexeme that cannot continue the one before, and
ends with a lexeme that the closers space, comma, colon and brackets cannot continue
(`Piece.Fits`). And each literal decodes to the value it was written from: names and
strings through their escapes, integers exactly, binary64 numbers through their shortest
text.

The nesting of brackets and parentheses that the reader checks before parsing is that of
the pieces (`Piece.tooDeep?_tokensFrom`).
-/

set_option autoImplicit false

namespace JsonPath.Syntax

/-! ## Where a lexeme ends -/

/-- A character that may follow a lexeme without changing how it is read: it makes no
longer mark of a mark, and continues no identifier and no number. -/
def Lexeme.StopsBefore : Lexeme → Char → Prop
  | .mark k, c => (k = .bang ∨ k = .lt ∨ k = .gt → c ≠ '=') ∧ (k = .dot → c ≠ '.')
  | .word _, c => isIdentChar c = false
  | .literal (.str _), _ => True
  | .literal (.num _), c => Number.Stops c
  | .literal _, c => isIdentChar c = false

/-- A lexeme the lexer reads as one token: a punctuation mark, an identifier, or a literal
the grammar can read. -/
def Lexeme.Lexable : Lexeme → Prop
  | .mark k => (k.markText, k) ∈ punctuation
  | .word name => IsIdentifier name
  | .literal v => v.IsScalar

namespace Piece

/-- A character that may follow a piece: after a blank, no second blank. -/
def StopsBefore : Piece → Char → Prop
  | .blank, c => isBlank c = false
  | .lexeme l, c => l.StopsBefore c

/-- A piece the lexer reads: a blank, or a lexeme it reads as one token. -/
def Lexable : Piece → Prop
  | .blank => True
  | .lexeme l => l.Lexable

/-- `a` may stand right before `b`: the first character of `b` ends `a`. -/
def Precedes (a b : Piece) : Prop := ∀ c ∈ b.text.toList.head?, a.StopsBefore c

/-- A piece that may start a stretch of text: a lexeme whose first character is neither a
blank nor `=`. -/
def Opens : Piece → Prop
  | .blank => False
  | .lexeme l => ∀ c ∈ l.text.toList.head?, isBlank c = false ∧ c ≠ '='

/-- Pieces that read back lexeme by lexeme, and can stand between other pieces: they start
with a piece that opens and end with a lexeme. -/
structure Fits (ps : List Piece) : Prop where
  lexable : ∀ p ∈ ps, p.Lexable
  chain : ps.IsChain Precedes
  opens : ∀ p ∈ ps.head?, p.Opens
  closes : ∀ p ∈ ps.getLast?, p ≠ .blank

end Piece

/-! ## Each lexeme is one token -/

theorem Number.scan?_eq_none {c : Char} (hm : c ≠ '-') (hd : c.isDigit = false)
    (cs : List Char) : Number.scan? (c :: cs) = none := by
  unfold Number.scan?
  split
  rename_i neg body hsign
  -- no minus sign: the body is the whole input, and it starts with no digit
  have hbody : body = c :: cs := by
    split at hsign
    · rename_i b h
      cases h
      exact absurd rfl hm
    · cases hsign
      rfl
  subst hbody
  split
  · rename_i h
    cases h
    simp at hd
  · rename_i h
    cases h
    simp [hd]
  · rfl

/-- A number starts with a minus sign or a digit. -/
theorem Number.head_of_scan? {c : Char} {cs : List Char} {r : Number × List Char}
    (h : Number.scan? (c :: cs) = some r) : c = '-' ∨ c.isDigit = true := by
  by_contra hc
  simp only [not_or, Bool.not_eq_true] at hc
  rw [Number.scan?_eq_none hc.1 hc.2] at h
  cases h

theorem isIdentStart_head {c : Char} (h : isIdentStart c = true) :
    c ≠ '\'' ∧ c ≠ '"' ∧ c ≠ '-' ∧ c.isDigit = false ∧ isBlank c = false ∧ c ≠ '=' := by
  -- everything is a comparison of code points
  simp only [isIdentStart, Bool.or_eq_true, Bool.and_eq_true, decide_eq_true_eq, Char.le_def,
    UInt32.le_iff_toNat_le] at h
  simp only [Char.isDigit, isBlank, ne_eq, Bool.and_eq_false_iff, decide_eq_false_iff_not,
    UInt32.le_iff_toNat_le, Char.ext_iff, UInt32.ext_iff] at h ⊢
  simp at h ⊢
  omega

/-- An identifier followed by a character that cannot continue it is one token. -/
theorem lexeme?_identifier {name : String} (h : IsIdentifier name) (rest : List Char)
    (hr : ∀ c ∈ rest.head?, isIdentChar c = false) :
    lexeme? (name.toList ++ rest) = some (.ident, name.length) := by
  unfold IsIdentifier at h
  rw [← String.length_toList]
  generalize name.toList = cs at h ⊢
  rcases cs with _ | ⟨c, cs⟩
  · cases h
  obtain ⟨hc, hcs⟩ := h
  obtain ⟨hq, hq', hm, hd, -⟩ := isIdentStart_head hc
  have htake : (cs ++ rest).takeWhile isIdentChar = cs := by
    rw [List.takeWhile_append_of_pos hcs]
    cases rest with
    | nil => simp
    | cons d ds => simp [hr d rfl]
  simp [lexeme?, hq, hq', Number.scan?_eq_none hm hd, hc, htake, Nat.add_comm]

/-- A mark that no longer mark continues is one token. -/
theorem lexeme?_mark {k : TokenKind} (hk : (k.markText, k) ∈ punctuation) (rest : List Char)
    (hr : ∀ c ∈ rest.head?, (Lexeme.mark k).StopsBefore c) :
    lexeme? (k.markText.toList ++ rest) = some (k, k.markText.length) := by
  -- the table is tried in order, longer marks first: only the next character matters
  rcases rest with _ | ⟨c, rest⟩
  · cases k <;> simp [punctuation, TokenKind.markText] at hk <;> decide
  · have hc : (Lexeme.mark k).StopsBefore c := hr c rfl
    simp only [Lexeme.StopsBefore] at hc
    cases k <;> simp [punctuation, TokenKind.markText] at hk <;>
      simp [TokenKind.markText, lexeme?, Number.scan?, punctuation, isIdentStart,
        List.findSome?] at hc ⊢ <;>
      simp [Ne.symm hc]

theorem literalText_str (s : String) :
    (literalText (.str s)).toList = '\'' :: ((escapeName s).toList ++ ['\'']) := by
  simp [literalText]

theorem literalText_float {x : Binary64} (hfin : x.isFinite = true) :
    literalText (.num (.float x)) = x.toShortestText := by
  have hnan : x.isNaN = false := by
    simp_all [Binary64.isNaN, Binary64.isFinite]
  have hinf : x.isInf = false := by
    simp_all [Binary64.isInf, Binary64.isFinite]
  simp [literalText, Value.toJsonText, Json.write, Json.numberText, hnan, hinf]

/-- A number followed by a character that cannot continue it is one token. -/
theorem lexeme?_number {n : Number} {text : String} (rest : List Char)
    (h : Number.scan? (text.toList ++ rest) = some (n, rest)) (hne : text.toList ≠ []) :
    lexeme? (text.toList ++ rest) = some ((Lexeme.literal (.num n)).kind, text.length) := by
  obtain ⟨c, cs, hcs⟩ := List.exists_cons_of_ne_nil hne
  rw [hcs, List.cons_append] at h ⊢
  have hc := Number.head_of_scan? h
  have hq : ¬(c = '\'' ∨ c = '"') := by
    rintro (rfl | rfl) <;> simp at hc
  rw [← String.length_toList, hcs]
  cases n <;> simp [lexeme?, hq, h, Lexeme.kind] <;> omega

/-- A lexeme the lexer reads, followed by a character that ends it, is one token. -/
theorem lexeme?_text {l : Lexeme} (hl : l.Lexable) (rest : List Char)
    (hr : ∀ c ∈ rest.head?, l.StopsBefore c) :
    lexeme? (l.text.toList ++ rest) = some (l.kind, l.text.length) := by
  cases l with
  | mark k => exact lexeme?_mark hl rest hr
  | word name => exact lexeme?_identifier hl rest hr
  | literal v =>
    cases v with
    | str s =>
      rw [Lexeme.text, literalText_str, List.cons_append, List.append_assoc, List.cons_append,
        List.nil_append, lexeme?_quoted, ← String.length_toList, literalText_str]
      simp [Lexeme.kind]
    | num n =>
      cases n with
      | int i =>
        refine lexeme?_number rest (Number.scan?_intText i rest hr) ?_
        intro h
        have := Number.scan?_intText i [] (by simp)
        change (toString i).toList = [] at h
        rw [List.append_nil, h] at this
        simp [Number.scan?] at this
      | float x =>
        have hfin : x.isFinite = true := hl
        simp only [Lexeme.text, literalText_float hfin]
        refine lexeme?_number rest (Number.scan?_toShortestText x hfin rest hr) ?_
        intro h
        have := Number.scan?_toShortestText x hfin []
        simp [h, Number.scan?] at this
    | bool b =>
      cases b
      · exact @lexeme?_identifier "false" (by simp [IsIdentifier, isIdentStart, isIdentChar]) rest hr
      · exact @lexeme?_identifier "true" (by simp [IsIdentifier, isIdentStart, isIdentChar]) rest hr
    | null => exact @lexeme?_identifier "null" (by simp [IsIdentifier, isIdentStart, isIdentChar]) rest hr
    | arr => cases hl
    | obj => cases hl

/-- The value of the token a lexeme is read as is the value the lexeme carries. -/
theorem tokenValue_lexeme {l : Lexeme} (hl : l.Lexable) (span : Span) :
    tokenValue l.kind l.text span = .ok l.value := by
  cases l with
  | mark k => cases k <;> simp [Lexeme.Lexable, punctuation, TokenKind.markText] at hl <;> rfl
  | word name => rfl
  | literal v =>
    cases v with
    | str s => simp [Lexeme.kind, Lexeme.text, Lexeme.value, tokenValue, literalText,
        decodeLiteral_quoted]
    | num n =>
      cases n with
      | int i =>
        have hdigits : intDigits i ≤ maxIntDigits := hl
        have h := Number.scan?_intText i [] (by simp)
        rw [List.append_nil] at h
        show tokenValue .integer (toString i) span = .ok (some (.num (.int i)))
        simp only [tokenValue, h, if_neg (Nat.not_lt.2 hdigits)]
      | float x =>
        have hfin : x.isFinite = true := hl
        have h := Number.scan?_toShortestText x hfin [] (by simp)
        rw [List.append_nil] at h
        simp [Lexeme.kind, Lexeme.text, Lexeme.value, tokenValue, literalText_float hfin, h, hfin]
    | bool b => rfl
    | null => rfl
    | arr => cases hl
    | obj => cases hl

/-! ## Stretches of pieces that read back -/

/-- The characters after which no lexeme of a canonical text continues. -/
def IsCloser (c : Char) : Prop := c ∈ [' ', ',', ':', ']', ')']

instance : DecidablePred IsCloser := fun c => inferInstanceAs (Decidable (c ∈ _))

/-- A property of the first character of a text, from that character. Stated so, a fact about
the first character of a fixed mark is checked by `decide` on the character alone. -/
theorem forall_mem_head?_of_eq {s : String} {c : Char} {P : Char → Prop}
    (h : s.toList.head? = some c) (hc : P c) : ∀ d ∈ s.toList.head?, P d := by
  intro d hd
  rw [h, Option.mem_def, Option.some.injEq] at hd
  exact hd ▸ hc

theorem Lexeme.stopsBefore_of_isCloser (l : Lexeme) {c : Char} (hc : IsCloser c) :
    l.StopsBefore c := by
  simp only [IsCloser, List.mem_cons, List.not_mem_nil, or_false] at hc
  rcases hc with rfl | rfl | rfl | rfl | rfl <;>
    rcases l with k | name | (_ | _ | _ | _ | _ | _) <;>
    simp [Lexeme.StopsBefore, Number.Stops, isIdentChar, isIdentStart]

namespace Piece

theorem precedes_of_isCloser {a b : Piece} (ha : a ≠ .blank)
    (hb : ∀ c ∈ b.text.toList.head?, IsCloser c) : Precedes a b := by
  intro c hc
  cases a with
  | blank => exact absurd rfl ha
  | lexeme l => exact l.stopsBefore_of_isCloser (hb c hc)

theorem precedes_blank {b : Piece} (hb : ∀ c ∈ b.text.toList.head?, isBlank c = false) :
    Precedes .blank b :=
  hb

theorem precedes_blank_of_opens {b : Piece} (hb : b.Opens) : Precedes .blank b := by
  cases b with
  | blank => cases hb
  | lexeme l => exact fun c hc => (hb c hc).1

theorem precedes_mark {k : TokenKind} (hk : k ≠ .dot) {b : Piece} (hb : b.Opens) :
    Precedes (mark k) b := by
  cases b with
  | blank => cases hb
  | lexeme l => exact fun c hc => ⟨fun _ => (hb c hc).2, fun h => absurd h hk⟩

theorem ne_blank_of_opens {p : Piece} (hp : p.Opens) : p ≠ .blank := by
  rintro rfl
  exact hp

theorem lexable_mark {k : TokenKind} (hk : (k.markText, k) ∈ punctuation) : (mark k).Lexable :=
  hk

theorem opens_mark {k : TokenKind} (hk : ∀ c ∈ k.markText.toList.head?, isBlank c = false ∧ c ≠ '=') :
    (mark k).Opens :=
  hk

theorem head_mark_closer {k : TokenKind} (B : List Piece)
    (hk : ∀ c ∈ k.markText.toList.head?, IsCloser c) :
    ∀ b ∈ (mark k :: B).head?, ∀ c ∈ b.text.toList.head?, IsCloser c := by
  intro b hb
  simp only [List.head?_cons, Option.mem_def, Option.some.injEq] at hb
  subst hb
  exact hk

namespace Fits

theorem nil : Fits [] := ⟨by simp, .nil, by simp, by simp⟩

theorem singleton {p : Piece} (hl : p.Lexable) (ho : p.Opens) : Fits [p] :=
  ⟨by simpa using hl, .singleton p, by simpa using ho, by simpa using ne_blank_of_opens ho⟩

theorem append {A B : List Piece} (ha : Fits A) (hb : Fits B)
    (hj : ∀ a ∈ A.getLast?, ∀ b ∈ B.head?, Precedes a b) : Fits (A ++ B) where
  lexable p hp := (List.mem_append.1 hp).elim (ha.lexable p) (hb.lexable p)
  chain := ha.chain.append hb.chain hj
  opens p hp := by
    cases A with
    | nil => exact hb.opens p (by simpa using hp)
    | cons a A => exact ha.opens p (by simpa using hp)
  closes p hp := by
    rw [List.getLast?_append] at hp
    cases hB : B.getLast? with
    | none => exact ha.closes p (by simpa [hB] using hp)
    | some b => exact hb.closes p (by simpa [hB] using hp)

/-- A stretch that starts with a closer may follow any stretch. -/
theorem append_closer {A B : List Piece} (ha : Fits A) (hb : Fits B)
    (hc : ∀ b ∈ B.head?, ∀ c ∈ b.text.toList.head?, IsCloser c) : Fits (A ++ B) :=
  ha.append hb fun a hal b hbh => precedes_of_isCloser (ha.closes a hal) (hc b hbh)

/-- A mark other than `.` may stand before a stretch. -/
theorem cons_mark {k : TokenKind} (hk : (k.markText, k) ∈ punctuation) (hd : k ≠ .dot)
    (ho : (mark k).Opens) {A : List Piece} (ha : Fits A) : Fits (mark k :: A) := by
  have h := (@singleton (mark k) hk ho).append ha
    fun a ha' b hb => by
      simp only [List.getLast?_singleton, Option.mem_def, Option.some.injEq] at ha'
      subst ha'
      exact precedes_mark hd (ha.opens b hb)
  simpa using h

theorem parens {A : List Piece} (ha : Fits A) : Fits (Piece.parens A) :=
  cons_mark (by decide) (by decide) (opens_mark (forall_mem_head?_of_eq rfl (by decide)))
    (ha.append_closer (singleton (lexable_mark (by decide)) (opens_mark (forall_mem_head?_of_eq rfl (by decide))))
      (head_mark_closer [] (forall_mem_head?_of_eq rfl (by decide))))

/-- Two nonempty stretches with a binary operator between them. -/
theorem op {k : TokenKind} (hk : (k.markText, k) ∈ punctuation)
    (hkb : ∀ c ∈ k.markText.toList.head?, isBlank c = false) {A B : List Piece}
    (ha : Fits A) (hb : Fits B) (hA : A ≠ []) (hB : B ≠ []) : Fits (A ++ spacedOp k ++ B) := by
  obtain ⟨b, B', rfl⟩ := List.exists_cons_of_ne_nil hB
  have hmid : (spacedOp k ++ b :: B').IsChain Precedes := by
    simp only [spacedOp, List.cons_append, List.nil_append, List.isChain_cons_cons]
    exact ⟨precedes_blank hkb, precedes_of_isCloser (by simp [mark]) (forall_mem_head?_of_eq rfl (by decide)),
      precedes_blank_of_opens (hb.opens b rfl), hb.chain⟩
  refine ⟨?_, ?_, ?_, ?_⟩
  · intro p hp
    simp only [List.mem_append, spacedOp, List.mem_cons, List.not_mem_nil, or_false] at hp
    rcases hp with (hp | rfl | rfl | rfl) | hp
    · exact ha.lexable p hp
    · trivial
    · exact hk
    · trivial
    · exact hb.lexable p (by simpa using hp)
  · rw [List.append_assoc]
    refine ha.chain.append hmid fun a hal c hc => ?_
    simp only [spacedOp, List.cons_append, List.head?_cons, Option.mem_def,
      Option.some.injEq] at hc
    subst hc
    exact precedes_of_isCloser (ha.closes a hal) (forall_mem_head?_of_eq rfl (by decide))
  · intro p hp
    obtain ⟨a, A', rfl⟩ := List.exists_cons_of_ne_nil hA
    exact ha.opens p (by simpa using hp)
  · intro p hp
    exact hb.closes p (by simpa [spacedOp, List.getLast?_append] using hp)

/-- A comma and a blank before a nonempty stretch. -/
theorem comma_blank {B : List Piece} (hb : Fits B) (hB : B ≠ []) :
    Fits (mark .comma :: .blank :: B) := by
  obtain ⟨b, B', rfl⟩ := List.exists_cons_of_ne_nil hB
  refine ⟨?_, ?_, ?_, ?_⟩
  · intro p hp
    simp only [List.mem_cons] at hp
    rcases hp with rfl | rfl | hp
    · exact lexable_mark (by decide)
    · trivial
    · exact hb.lexable p (by simpa using hp)
  · simp only [List.isChain_cons_cons]
    exact ⟨precedes_of_isCloser (by simp [mark]) (forall_mem_head?_of_eq rfl (by decide)),
      precedes_blank_of_opens (hb.opens b rfl), hb.chain⟩
  · simpa using @opens_mark .comma (forall_mem_head?_of_eq rfl (by decide))
  · intro p hp
    exact hb.closes p (by simpa [List.getLast?_cons] using hp)

/-- Two stretches separated by `, `. -/
theorem sep {A B : List Piece} (ha : Fits A) (hb : Fits B) (hB : B ≠ []) :
    Fits (A ++ mark .comma :: .blank :: B) :=
  ha.append_closer (comma_blank hb hB) (head_mark_closer _ (forall_mem_head?_of_eq rfl (by decide)))

end Fits

end Piece

/-! ## The lexemes of a canonical text -/

/-- The text of a number literal starts with a minus sign or a digit. -/
theorem opens_of_scan? {text : String} {r : Number × List Char}
    (h : Number.scan? text.toList = some r) :
    ∀ c ∈ text.toList.head?, isBlank c = false ∧ c ≠ '=' := by
  intro c hc
  obtain ⟨cs, hcs⟩ : ∃ cs, text.toList = c :: cs := by
    cases htext : text.toList with
    | nil => simp [htext] at hc
    | cons d ds =>
      simp only [htext, List.head?_cons, Option.mem_def, Option.some.injEq] at hc
      exact ⟨ds, by rw [hc]⟩
  rw [hcs] at h
  rcases Number.head_of_scan? h with rfl | hd
  · decide
  · constructor
    · revert hd
      simp only [Char.isDigit, isBlank, Bool.and_eq_true, decide_eq_true_eq, Bool.or_eq_false_iff,
        decide_eq_false_iff_not, UInt32.le_iff_toNat_le, Char.ext_iff, UInt32.ext_iff]
      simp
      omega
    · rintro rfl
      simp at hd

theorem Lexeme.opens_literal {v : Value} (hv : v.IsScalar) :
    (Piece.lexeme (.literal v)).Opens := by
  cases v with
  | str s => simp [Piece.Opens, literalText, isBlank]
  | num n =>
    cases n with
    | int i =>
      have h := Number.scan?_intText i [] (by simp)
      rw [List.append_nil] at h
      exact opens_of_scan? h
    | float x =>
      have hfin : x.isFinite = true := hv
      have h := Number.scan?_toShortestText x hfin [] (by simp)
      rw [List.append_nil] at h
      simp only [Piece.Opens, Lexeme.text, literalText_float hfin]
      exact opens_of_scan? h
  | bool b => cases b <;> simp [Piece.Opens, literalText, Value.toJsonText, Json.write, isBlank]
  | null => simp [Piece.Opens, literalText, Value.toJsonText, Json.write, isBlank]
  | arr => cases hv
  | obj => cases hv

theorem Lexeme.opens_word {name : String} (h : IsIdentifier name) :
    (Piece.lexeme (.word name)).Opens := by
  simp only [Piece.Opens, Lexeme.text]
  unfold IsIdentifier at h
  intro c hc
  cases hn : name.toList with
  | nil => simp [hn] at h
  | cons d ds =>
    simp only [hn] at h hc
    simp only [List.head?_cons, Option.mem_def, Option.some.injEq] at hc
    subst hc
    obtain ⟨-, -, -, -, hb, he⟩ := isIdentStart_head h.1
    exact ⟨hb, he⟩

/-- An index, slice bound or step the grammar accepts has at most sixteen digits, well
within what an integer literal may have. -/
theorem intDigits_le_of_inIndexRange {i : Int} (h : InIndexRange i) :
    intDigits i ≤ maxIntDigits := by
  unfold intDigits maxIntDigits
  rcases Nat.eq_zero_or_pos i.natAbs with h0 | hpos
  · simp [h0]
  · have habs : (i.natAbs : Int) ≤ maxIndex := by
      rw [Int.natCast_natAbs]
      exact abs_le.2 h
    have hmax : maxIndex < 10 ^ 16 := by decide
    obtain ⟨hlow, -⟩ := Binary64.toDigits_length_bounds _ hpos
    by_contra hlong
    have hpow : 10 ^ 16 ≤ 10 ^ ((Nat.toDigits 10 i.natAbs).length - 1) :=
      Nat.pow_le_pow_right (by norm_num) (by omega)
    omega

theorem Piece.int_fits {i : Int} (h : InIndexRange i) : Piece.Fits [Piece.int i] :=
  have hi := intDigits_le_of_inIndexRange h
  @Piece.Fits.singleton (.int i) hi (Lexeme.opens_literal hi)

theorem Piece.bound_fits {b : Option Int} (hb : ∀ x ∈ b, InIndexRange x) :
    Piece.Fits (Piece.bound b) := by
  cases b with
  | none => exact .nil
  | some i => exact Piece.int_fits (hb i rfl)

theorem Piece.precedes_rbracket (b : Piece) : Piece.Precedes (Piece.mark .rbracket) b :=
  fun _ _ => ⟨by simp, by simp⟩

/-! ## Reading pieces one lexeme at a time -/

/-- The text of a lexeme the lexer reads is not empty and starts with no blank. -/
theorem Lexeme.text_head {l : Lexeme} (hl : l.Lexable) :
    ∃ c cs, l.text.toList = c :: cs ∧ isBlank c = false := by
  have hnil : l.text.toList ≠ [] := by
    intro h
    have := lexeme?_text hl [] (by simp)
    rw [h] at this
    simp [lexeme?] at this
  obtain ⟨c, cs, hcs⟩ := List.exists_cons_of_ne_nil hnil
  refine ⟨c, cs, hcs, ?_⟩
  cases l with
  | mark k =>
    have hall : (punctuation.all fun p => p.1.toList.head?.all fun c => !isBlank c) = true := by
      decide
    have := List.all_eq_true.1 hall _ hl
    simp only [Lexeme.text] at hcs
    simpa [hcs] using this
  | word name =>
    simp only [Lexeme.text] at hcs
    exact ((Lexeme.opens_word hl) c (by simp [Lexeme.text, hcs])).1
  | literal v =>
    simp only [Lexeme.text] at hcs
    exact ((Lexeme.opens_literal hl) c (by simp [Lexeme.text, hcs])).1

theorem Piece.layout_head {l : Lexeme} (hl : l.Lexable) (rest : List Piece) :
    (Piece.layout (.lexeme l :: rest)).head? = l.text.toList.head? := by
  obtain ⟨c, cs, hcs, -⟩ := Lexeme.text_head hl
  simp [hcs]

theorem takeWhile_isBlank_lexeme {l : Lexeme} (hl : l.Lexable) (rest : List Char) :
    (l.text.toList ++ rest).takeWhile isBlank = [] := by
  obtain ⟨c, cs, hcs, hc⟩ := Lexeme.text_head hl
  simp [hcs, hc]

/-- One step of the lexer: a lexeme, then the blanks after it. -/
theorem scan_lexeme {l : Lexeme} (hl : l.Lexable) (after : List Char)
    (hr : ∀ c ∈ after.head?, l.StopsBefore c) (offset : Nat)
    (acc : List (TokenKind × String × Span)) :
    scan (l.text.toList ++ after) offset acc =
      scan (after.drop (after.takeWhile isBlank).length)
        (offset + l.text.length + (after.takeWhile isBlank).length)
        ((l.kind, l.text, ⟨offset, offset + l.text.length⟩) :: acc) := by
  obtain ⟨c, cs, hcs, -⟩ := Lexeme.text_head hl
  have hlex := lexeme?_text hl after hr
  have hlen : l.text.length = cs.length + 1 := by
    rw [← String.length_toList, hcs, List.length_cons]
  have hpos : 0 < l.text.length := by omega
  have htake : String.ofList ((c :: (cs ++ after)).take l.text.length) = l.text := by
    rw [← List.cons_append, ← hcs, ← String.length_toList, List.take_left, String.ofList_toList]
  have hdrop : (c :: (cs ++ after)).drop l.text.length = after := by
    rw [← List.cons_append, ← hcs, ← String.length_toList, List.drop_left]
  rw [hcs, List.cons_append, scan.eq_2]
  rw [hcs, List.cons_append] at hlex
  simp only [hlex, hpos, dite_true, htake, hdrop]

/-- The raw form of a token, as the lexer has it before decoding literals. -/
def Token.raw (t : Token) : TokenKind × String × Span := (t.kind, t.text, t.span)

theorem scan_layout : ∀ (l : Lexeme) (rest : List Piece) (offset : Nat)
    (acc : List (TokenKind × String × Span)),
    (∀ p ∈ Piece.lexeme l :: rest, p.Lexable) → (Piece.lexeme l :: rest).IsChain Piece.Precedes →
    scan (Piece.layout (.lexeme l :: rest)) offset acc =
      .ok (acc.reverse ++ (Piece.tokensFrom offset (.lexeme l :: rest)).map Token.raw)
  | l, [], offset, acc, hl, _ => by
    have := scan_lexeme (hl _ List.mem_cons_self) [] (by simp) offset acc
    simp only [Piece.layout_cons, Piece.text_lexeme, Piece.layout_nil] at this ⊢
    rw [this]
    simp [scan.eq_1, Piece.tokensFrom, Lexeme.token, Token.raw]
  | l, .lexeme l' :: rest, offset, acc, hl, hc => by
    rw [List.isChain_cons_cons] at hc
    have hl' : (Piece.lexeme l').Lexable := hl _ (List.mem_cons_of_mem _ List.mem_cons_self)
    have hstep := scan_lexeme (hl _ List.mem_cons_self) (Piece.layout (.lexeme l' :: rest))
      (fun c h => hc.1 c (by rwa [Piece.layout_head hl'] at h)) offset acc
    rw [Piece.layout_cons, Piece.text_lexeme, hstep]
    rw [Piece.layout_cons, Piece.text_lexeme, takeWhile_isBlank_lexeme hl']
    simp only [List.length_nil, Nat.add_zero, List.drop_zero]
    rw [← Piece.text_lexeme, ← Piece.layout_cons,
      scan_layout l' rest _ _ (fun p hp => hl p (List.mem_cons_of_mem _ hp)) hc.2]
    simp [Piece.tokensFrom, Lexeme.token, Token.raw]
  | l, [.blank], offset, acc, hl, _ => by
    have := scan_lexeme (hl _ List.mem_cons_self) [' ']
      (fun _ h => l.stopsBefore_of_isCloser (by simp at h; subst h; decide)) offset acc
    simp only [Piece.layout_cons, Piece.text_lexeme, Piece.text_blank, Piece.layout_nil] at this ⊢
    rw [show " ".toList = [' '] from rfl, List.append_nil, this]
    simp [isBlank, scan.eq_1, Piece.tokensFrom, Lexeme.token, Token.raw]
  | l, .blank :: .blank :: rest, offset, acc, _, hc => by
    simp [Piece.Precedes, Piece.StopsBefore, isBlank] at hc
  | l, .blank :: .lexeme l' :: rest, offset, acc, hl, hc => by
    simp only [List.isChain_cons_cons] at hc
    have hl' : (Piece.lexeme l').Lexable :=
      hl _ (List.mem_cons_of_mem _ (List.mem_cons_of_mem _ List.mem_cons_self))
    have hstep := scan_lexeme (hl _ List.mem_cons_self)
      (' ' :: Piece.layout (.lexeme l' :: rest)) (fun c h => by
        simp only [List.head?_cons, Option.mem_def, Option.some.injEq] at h
        subst h
        exact hc.1 ' ' rfl) offset acc
    have hblank : (' ' :: Piece.layout (.lexeme l' :: rest)).takeWhile isBlank = [' '] := by
      rw [Piece.layout_cons, Piece.text_lexeme, List.takeWhile_cons,
        takeWhile_isBlank_lexeme hl']
      simp [isBlank]
    rw [Piece.layout_cons, Piece.text_lexeme, Piece.layout_cons, Piece.text_blank,
      show " ".toList = [' '] from rfl, List.singleton_append, hstep, hblank]
    simp only [List.length_singleton, List.drop_succ_cons, List.drop_zero]
    rw [scan_layout l' rest _ _ (fun p hp => hl p (List.mem_cons_of_mem _
      (List.mem_cons_of_mem _ hp))) hc.2.2]
    simp [Piece.tokensFrom, Lexeme.token, Token.raw, Nat.add_assoc]

theorem Piece.mem_tokensFrom {t : Token} :
    ∀ {ps : List Piece} {offset : Nat}, t ∈ Piece.tokensFrom offset ps →
      ∃ l o, Piece.lexeme l ∈ ps ∧ t = l.token o
  | [], _, h => by simp [Piece.tokensFrom] at h
  | .blank :: ps, offset, h => by
    obtain ⟨l, o, hl, rfl⟩ := @Piece.mem_tokensFrom _ ps _ h
    exact ⟨l, o, List.mem_cons_of_mem _ hl, rfl⟩
  | .lexeme l :: ps, offset, h => by
    rcases List.mem_cons.1 h with rfl | h
    · exact ⟨l, offset, List.mem_cons_self, rfl⟩
    · obtain ⟨l', o, hl', rfl⟩ := @Piece.mem_tokensFrom _ ps _ h
      exact ⟨l', o, List.mem_cons_of_mem _ hl', rfl⟩

theorem mapM_raw {f : TokenKind × String × Span → Except LexError Token} :
    ∀ {ts : List Token}, (∀ t ∈ ts, f t.raw = .ok t) → (ts.map Token.raw).mapM f = .ok ts
  | [], _ => rfl
  | t :: ts, h => by
    rw [List.map_cons, List.mapM_cons, h t List.mem_cons_self,
      mapM_raw fun t' ht' => h t' (List.mem_cons_of_mem _ ht')]
    rfl

/-- Pieces that read back lexeme by lexeme are read as their tokens, then the end of the
input. -/
theorem tokenize_layout {source : String} {ps : List Piece} (hs : source.toList = Piece.layout ps)
    (hf : Piece.Fits ps) :
    tokenize source = .ok (Piece.tokensFrom 0 ps ++
      [{ kind := .eoi, text := "", span := ⟨(Piece.layout ps).length, (Piece.layout ps).length⟩,
         value := none }]) := by
  have hscan : scan (Piece.layout ps) 0 [] = .ok ((Piece.tokensFrom 0 ps).map Token.raw) := by
    cases ps with
    | nil => rw [Piece.layout_nil, scan.eq_1]; rfl
    | cons p rest =>
      cases p with
      | blank => exact absurd (hf.opens _ rfl) id
      | lexeme l => simpa using scan_layout l rest 0 [] hf.lexable hf.chain
  have hblank : (Piece.layout ps).takeWhile isBlank = [] := by
    cases ps with
    | nil => rfl
    | cons p rest =>
      cases p with
      | blank => exact absurd (hf.opens _ rfl) id
      | lexeme l =>
        rw [Piece.layout_cons, Piece.text_lexeme]
        exact takeWhile_isBlank_lexeme (hf.lexable _ List.mem_cons_self) _
  have hvalues : ∀ t ∈ Piece.tokensFrom 0 ps,
      (do
        let value ← tokenValue t.raw.1 t.raw.2.1 t.raw.2.2
        pure ({ kind := t.raw.1, text := t.raw.2.1, span := t.raw.2.2, value := value } : Token) :
        Except LexError Token) = .ok t := by
    intro t ht
    obtain ⟨l, o, hl, rfl⟩ := Piece.mem_tokensFrom ht
    simp only [Token.raw, Lexeme.token, tokenValue_lexeme (hf.lexable _ hl)]
    rfl
  unfold tokenize
  simp only [hs, hblank, List.length_nil, List.drop_zero, hscan, bind, Except.bind]
  rw [mapM_raw hvalues]
  rfl

/-- A stretch of pieces nested no deeper than `maxNesting` passes the reader's check. -/
theorem Piece.tooDeep?_tokensFrom (eoi : Token) (heoi : eoi.kind = .eoi) :
    ∀ (ps : List Piece) (d offset : Nat), Piece.nesting d ps ≤ maxNesting →
      tooDeep? d (Piece.tokensFrom offset ps ++ [eoi]) = none
  | [], d, _, _ => by simp [Piece.tokensFrom, tooDeep?, heoi]
  | .blank :: ps, d, offset, h => by
    rw [Piece.nesting] at h
    exact Piece.tooDeep?_tokensFrom eoi heoi ps d _ h
  | .lexeme l :: ps, d, offset, h => by
    rw [Piece.nesting] at h
    simp only [Piece.tokensFrom, List.cons_append, tooDeep?, Lexeme.token]
    split_ifs at h ⊢ with hopen _ hclose
    · omega
    · exact Piece.tooDeep?_tokensFrom eoi heoi ps (d + 1) _ (by omega)
    · exact Piece.tooDeep?_tokensFrom eoi heoi ps (d - 1) _ h
    · exact Piece.tooDeep?_tokensFrom eoi heoi ps d _ h

/-- A function name is followed by its opening parenthesis. -/
theorem Piece.precedes_word_lparen (name : String) :
    Piece.Precedes (.lexeme (.word name)) (Piece.mark .lparen) := by
  intro c hc
  simp only [Piece.text_mark, TokenKind.markText] at hc
  simp only [show "(".toList = ['('] from rfl, List.head?_cons, Option.mem_def,
    Option.some.injEq] at hc
  subst hc
  exact (by decide : isIdentChar '(' = false)

end JsonPath.Syntax

namespace JsonPath

open Syntax

theorem CompareOp.lexable_kind (op : CompareOp) : (op.kind.markText, op.kind) ∈ punctuation := by
  cases op <;> decide

theorem CompareOp.kind_head (op : CompareOp) :
    ∀ c ∈ op.kind.markText.toList.head?, isBlank c = false := by
  cases op <;> exact forall_mem_head?_of_eq rfl (by decide)

theorem Selector.pieces_ne_nil (s : Selector) : s.pieces ≠ [] := by
  rcases s with _ | _ | _ | ⟨_, _, _ | _⟩ | _ <;> simp [Selector.pieces]

theorem Query.pieces_ne_nil (q : Query) : q.pieces ≠ [] := by
  rcases q with ⟨_ | _, _⟩ <;> simp [Query.pieces]

theorem Expr.pieces_ne_nil (e : Expr) : e.pieces ≠ [] := by
  cases e with
  | query q => exact Query.pieces_ne_nil q
  | test q => exact Query.pieces_ne_nil q
  | not e => simp [Expr.pieces_not]
  | and l r => simp [Expr.pieces_and, Piece.spacedOp]
  | or l r => simp [Expr.pieces_or, Piece.spacedOp]
  | _ => simp [Expr.pieces, Piece.spacedOp]

theorem Selector.listPieces_ne_nil {sels : List Selector} (h : sels ≠ []) :
    Selector.listPieces sels ≠ [] := by
  rcases sels with _ | ⟨s, _ | ⟨t, rest⟩⟩
  · exact absurd rfl h
  · simpa [Selector.listPieces] using s.pieces_ne_nil
  · simp [Selector.listPieces]

theorem Expr.listPieces_ne_nil {args : List Expr} (h : args ≠ []) :
    Expr.listPieces args ≠ [] := by
  rcases args with _ | ⟨e, _ | ⟨t, rest⟩⟩
  · exact absurd rfl h
  · simpa [Expr.listPieces] using e.pieces_ne_nil
  · simp [Expr.listPieces]

theorem Segment.pieces_getLast? (s : Segment) : s.pieces.getLast? = some (.mark .rbracket) := by
  cases s <;> simp [Segment.pieces, List.getLast?_cons]

theorem Expr.groupPieces_ne_nil (e : Expr) : e.groupPieces ≠ [] := by
  unfold Expr.groupPieces
  split
  · simp [Piece.parens]
  · exact e.pieces_ne_nil

section Trees

variable {reg : Registry}

theorem Expr.operand_of_comparable {e : Expr} (h : e.Comparable reg) : e.Operand reg := by
  refine .inr ?_
  cases e <;> simp_all [Expr.Comparable, Expr.Arg]

theorem Expr.operand_of_arg {e : Expr} {p : ExprType} (h : e.Arg reg p) : e.Operand reg := by
  cases p with
  | logical => exact .inl (by simpa [Expr.Arg] using h)
  | value => exact .inr h
  | nodes =>
    refine .inr ?_
    cases e <;> simp only [Expr.Arg] at h ⊢
    case query => exact h
    case call => exact ⟨by rw [h.1]; decide, h.2⟩

theorem Expr.operand_of_argsWF : ∀ {ps : List ExprType} {args : List Expr},
    Expr.ArgsWF reg ps args → ∀ e ∈ args, e.Operand reg
  | [], [], _ => by simp
  | [], _ :: _, h => by simp [Expr.ArgsWF] at h
  | _ :: _, [], h => by simp [Expr.ArgsWF] at h
  | p :: ps, e :: es, h => by
    simp only [Expr.ArgsWF] at h
    intro x hx
    rcases List.mem_cons.1 hx with rfl | hx
    · exact Expr.operand_of_arg h.1
    · exact Expr.operand_of_argsWF h.2 x hx

@[simp] theorem Expr.operand_query {q : Query} : (Expr.query q).Operand reg ↔ q.WF reg := by
  simp [Expr.Operand, Expr.Logical, Expr.Arg]

@[simp] theorem Expr.operand_literal {v : Value} : (Expr.literal v).Operand reg ↔ v.IsScalar := by
  simp [Expr.Operand, Expr.Logical, Expr.Arg]

@[simp] theorem Expr.operand_test {q : Query} : (Expr.test q).Operand reg ↔ q.WF reg := by
  simp [Expr.Operand, Expr.Logical, Expr.Arg]

@[simp] theorem Expr.operand_compare {l r : Expr} {op : CompareOp} :
    (Expr.compare l op r).Operand reg ↔ l.Comparable reg ∧ r.Comparable reg := by
  simp [Expr.Operand, Expr.Logical, Expr.Arg]

@[simp] theorem Expr.operand_not {e : Expr} : (Expr.not e).Operand reg ↔ e.Logical reg := by
  simp [Expr.Operand, Expr.Logical, Expr.Arg]

@[simp] theorem Expr.operand_and {l r : Expr} :
    (Expr.and l r).Operand reg ↔ l.Logical reg ∧ r.Logical reg := by
  simp [Expr.Operand, Expr.Logical, Expr.Arg]

@[simp] theorem Expr.operand_or {l r : Expr} :
    (Expr.or l r).Operand reg ↔ l.Logical reg ∧ r.Logical reg := by
  simp [Expr.Operand, Expr.Logical, Expr.Arg]

theorem Expr.callWF_of_operand {name : String} {args : List Expr} {res : ExprType} {span : Span}
    (h : (Expr.call name args res span).Operand reg) : Expr.CallWF reg name args res := by
  rcases h with h | h
  · rw [Expr.Logical] at h
    exact h.2
  · rw [Expr.Arg] at h
    exact h.2

theorem Expr.groupPieces_fits {e : Expr} (h : Piece.Fits e.pieces) : Piece.Fits e.groupPieces := by
  unfold Expr.groupPieces
  split
  · exact h.parens
  · exact h

theorem Expr.notPieces_fits {e : Expr} (h : Piece.Fits e.pieces) : Piece.Fits e.notPieces := by
  unfold Expr.notPieces
  split
  · exact h
  · exact h
  · exact h
  · exact h.parens

open Piece in
mutual

theorem Selector.fits_pieces : ∀ s : Selector, s.WF reg → Fits s.pieces
  | .name s, _ => @Piece.Fits.singleton (.lexeme (.literal (.str s))) trivial
      (Lexeme.opens_literal trivial)
  | .index i, h => Piece.int_fits (by rwa [Selector.WF] at h)
  | .wildcard, _ => .singleton (lexable_mark (by decide)) (opens_mark (forall_mem_head?_of_eq rfl (by decide)))
  | .slice a b none, h => by
    rw [Selector.WF] at h
    exact (bound_fits h.1).append_closer
      (.cons_mark (by decide) (by decide) (opens_mark (forall_mem_head?_of_eq rfl (by decide)))
        (bound_fits h.2.1))
      (head_mark_closer _ (forall_mem_head?_of_eq rfl (by decide)))
  | .slice a b (some c), h => by
    rw [Selector.WF] at h
    exact (bound_fits h.1).append_closer
      (.cons_mark (by decide) (by decide) (opens_mark (forall_mem_head?_of_eq rfl (by decide)))
        ((bound_fits h.2.1).append_closer
          (.cons_mark (by decide) (by decide) (opens_mark (forall_mem_head?_of_eq rfl (by decide)))
            (Piece.int_fits (h.2.2 c rfl).1))
          (head_mark_closer _ (forall_mem_head?_of_eq rfl (by decide)))))
      (head_mark_closer _ (forall_mem_head?_of_eq rfl (by decide)))
  | .filter e, h =>
    .cons_mark (by decide) (by decide) (opens_mark (forall_mem_head?_of_eq rfl (by decide)))
      (Expr.fits_pieces e (.inl (by simpa [Selector.WF] using h)))

theorem Selector.fits_listPieces :
    ∀ sels : List Selector, Selector.WFList reg sels → Fits (Selector.listPieces sels)
  | [], _ => .nil
  | [s], h => Selector.fits_pieces s (by simp only [Selector.WFList] at h; exact h.1)
  | s :: t :: rest, h => by
    rw [Selector.WFList] at h
    obtain ⟨hs, hrest⟩ := h
    rw [Selector.listPieces_cons_cons]
    exact (Selector.fits_pieces s hs).sep (Selector.fits_listPieces (t :: rest) hrest)
      (Selector.listPieces_ne_nil (List.cons_ne_nil t rest))

theorem Segment.fits_pieces : ∀ s : Segment, s.WF reg → Fits s.pieces
  | .child sels, h => by
    simp only [Segment.WF] at h
    exact .cons_mark (by decide) (by decide) (opens_mark (forall_mem_head?_of_eq rfl (by decide)))
      ((Selector.fits_listPieces sels h.2).append_closer
        (.singleton (lexable_mark (by decide)) (opens_mark (forall_mem_head?_of_eq rfl (by decide))))
        (head_mark_closer _ (forall_mem_head?_of_eq rfl (by decide))))
  | .descendant sels, h => by
    simp only [Segment.WF] at h
    exact .cons_mark (by decide) (by decide) (opens_mark (forall_mem_head?_of_eq rfl (by decide)))
      (.cons_mark (by decide) (by decide) (opens_mark (forall_mem_head?_of_eq rfl (by decide)))
        ((Selector.fits_listPieces sels h.2).append_closer
          (.singleton (lexable_mark (by decide)) (opens_mark (forall_mem_head?_of_eq rfl (by decide))))
          (head_mark_closer _ (forall_mem_head?_of_eq rfl (by decide)))))

theorem Segment.fits_listPieces :
    ∀ segs : List Segment, Segment.WFList reg segs → Fits (Segment.listPieces segs)
  | [], _ => .nil
  | s :: rest, h => by
    simp only [Segment.WFList] at h
    exact (Segment.fits_pieces s h.1).append (Segment.fits_listPieces rest h.2) fun a ha b _ => by
      rw [Segment.pieces_getLast?, Option.mem_def, Option.some.injEq] at ha
      subst ha
      exact precedes_rbracket b

theorem Query.fits_pieces : ∀ q : Query, q.WF reg → Fits q.pieces
  | .mk .document segs, h =>
    .cons_mark (by decide) (by decide) (opens_mark (forall_mem_head?_of_eq rfl (by decide)))
      (Segment.fits_listPieces segs (by simpa [Query.WF] using h))
  | .mk .current segs, h =>
    .cons_mark (by decide) (by decide) (opens_mark (forall_mem_head?_of_eq rfl (by decide)))
      (Segment.fits_listPieces segs (by simpa [Query.WF] using h))

theorem Expr.fits_pieces : ∀ e : Expr, e.Operand reg → Fits e.pieces
  | .query q, h => by
    have hq : q.WF reg := by simpa using h
    exact Query.fits_pieces q hq
  | .literal v, h => by
    have hv : v.IsScalar := by simpa using h
    exact .singleton hv (Lexeme.opens_literal hv)
  | .call name args res _, h => by
    have hc : Expr.CallWF reg name args res := by
      rcases h with h | h <;> simp only [Expr.Logical, Expr.Arg] at h <;> exact h.2
    rw [Expr.CallWF] at hc
    obtain ⟨hname, f, -, -, hargs⟩ := hc
    have hlist := Expr.fits_listPieces args (Expr.operand_of_argsWF hargs)
    have hparen : Fits (mark .lparen :: (Expr.listPieces args ++ [mark .rparen])) :=
      .cons_mark (by decide) (by decide) (opens_mark (forall_mem_head?_of_eq rfl (by decide)))
        (hlist.append_closer (.singleton (lexable_mark (by decide)) (opens_mark (forall_mem_head?_of_eq rfl (by decide))))
          (head_mark_closer _ (forall_mem_head?_of_eq rfl (by decide))))
    have hword : Fits [.lexeme (.word name)] := .singleton hname (Lexeme.opens_word hname)
    exact hword.append hparen fun a ha b hb => by
      simp only [List.getLast?_singleton, Option.mem_def, Option.some.injEq] at ha
      simp only [List.head?_cons, Option.mem_def, Option.some.injEq] at hb
      subst ha hb
      exact precedes_word_lparen name
  | .test q, h => by
    have hq : q.WF reg := by simpa using h
    exact Query.fits_pieces q hq
  | .compare l op r, h => by
    have hlr : l.Comparable reg ∧ r.Comparable reg := by simpa using h
    exact .op op.lexable_kind op.kind_head
      (Expr.fits_pieces l (Expr.operand_of_comparable hlr.1))
      (Expr.fits_pieces r (Expr.operand_of_comparable hlr.2)) l.pieces_ne_nil r.pieces_ne_nil
  | .not e, h => by
    have he : e.Logical reg := by simpa using h
    rw [Expr.pieces_not]
    exact .cons_mark (by decide) (by decide) (opens_mark (forall_mem_head?_of_eq rfl (by decide)))
      (Expr.notPieces_fits (Expr.fits_pieces e (.inl he)))
  | .and l r, h => by
    have hlr : l.Logical reg ∧ r.Logical reg := by simpa using h
    rw [Expr.pieces_and]
    exact .op (by decide) (forall_mem_head?_of_eq rfl (by decide))
      (Expr.groupPieces_fits (Expr.fits_pieces l (.inl hlr.1)))
      (Expr.groupPieces_fits (Expr.fits_pieces r (.inl hlr.2)))
      l.groupPieces_ne_nil r.groupPieces_ne_nil
  | .or l r, h => by
    have hlr : l.Logical reg ∧ r.Logical reg := by simpa using h
    rw [Expr.pieces_or]
    exact .op (by decide) (forall_mem_head?_of_eq rfl (by decide)) (Expr.fits_pieces l (.inl hlr.1))
      (Expr.groupPieces_fits (Expr.fits_pieces r (.inl hlr.2)))
      l.pieces_ne_nil r.groupPieces_ne_nil

theorem Expr.fits_listPieces :
    ∀ args : List Expr, (∀ e ∈ args, e.Operand reg) → Fits (Expr.listPieces args)
  | [], _ => .nil
  | [e], h => Expr.fits_pieces e (h e (List.mem_singleton_self e))
  | e :: t :: rest, h => by
    rw [Expr.listPieces_cons_cons]
    exact (Expr.fits_pieces e (h e List.mem_cons_self)).sep
      (Expr.fits_listPieces (t :: rest) fun x hx => h x (List.mem_cons_of_mem _ hx))
      (Expr.listPieces_ne_nil (List.cons_ne_nil t rest))

end

/-- The canonical text of a well-formed query reads as the tokens of its lexemes. -/
theorem Query.tokenize_render {q : Query} (h : q.WF reg) :
    tokenize q.render = .ok (Piece.tokensFrom 0 q.pieces ++
      [{ kind := .eoi, text := "", span := ⟨q.render.length, q.render.length⟩, value := none }]) := by
  have hlen : q.render.length = (Piece.layout q.pieces).length := by
    rw [← String.length_toList, Query.render_toList]
  rw [hlen]
  exact tokenize_layout (Query.render_toList q) (Query.fits_pieces q h)

end Trees

end JsonPath
