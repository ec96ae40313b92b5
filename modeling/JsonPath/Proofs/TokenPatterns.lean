import JsonPath.Proofs.TokenValues
import JsonPath.Proofs.CanonicalLexing

/-!
# The token at the front of a text

`lexeme?` reads the token a text starts with. This module says which token that is without
reference to how it is computed (`lexeme?_eq_some_iff`): the first character selects a
pattern, and the token is that pattern's match (`FrontToken`).

* A quote opens a string literal, which runs to the same quote, a backslash taking the
  character after it whatever it is (`ClosedString`).
* A minus sign or a digit starts a number literal: the longest prefix of the form
  `-?(0|[1-9][0-9]*)(\.[0-9]+)?([eE][+-]?[0-9]+)?` (`Number.LongestNumber`). It is an
  integer exactly when it has none of `.`, `e` and `E` (`numberKind`).
* A letter, an underscore or a character from U+0080 on starts an identifier, which takes
  every identifier character after it (`IdentMatch`).
* Anything else must start a punctuation mark: of the marks the text starts with, the
  longest (`MarkMatch`).

The number case carries the argument. The scanner reads the parts of a number one at a
time, each up to the first character that cannot extend it. That this gives the longest
match is `Number.scan?_reads`: whatever number literal a text starts with, the scan reads
at least as far, because a part the scanner reads further than the literal did is never
followed, in the literal, by another part.
-/

set_option autoImplicit false

namespace JsonPath.Number

/-! ## Number literals -/

/-- One ASCII digit or more. -/
def IsDigits (ds : List Char) : Prop := ds ≠ [] ∧ ∀ c ∈ ds, c.isDigit = true

/-- The integer digits of a number literal: `0`, or digits not starting with `0`. -/
def IsWhole (w : List Char) : Prop :=
  w = ['0'] ∨ ∃ d ds, w = d :: ds ∧ d ≠ '0' ∧ IsDigits (d :: ds)

/-- The fraction of a number literal: nothing, or a point and digits. -/
def IsFraction (f : List Char) : Prop := f = [] ∨ ∃ ds, f = '.' :: ds ∧ IsDigits ds

/-- The exponent of a number literal: nothing, or `e` or `E`, an optional sign and digits. -/
def IsExponent (e : List Char) : Prop :=
  e = [] ∨ ∃ m sign ds, e = m :: (sign ++ ds) ∧ (m = 'e' ∨ m = 'E') ∧
    (sign = [] ∨ sign = ['+'] ∨ sign = ['-']) ∧ IsDigits ds

/-- A number literal: an optional minus, integer digits, a fraction and an exponent. -/
def IsNumberText (t : List Char) : Prop :=
  ∃ sign w f e, t = sign ++ (w ++ (f ++ e)) ∧ (sign = [] ∨ sign = ['-']) ∧ IsWhole w ∧
    IsFraction f ∧ IsExponent e

/-- The number literal at the front of `cs` has `n` characters: it is the longest prefix of
`cs` that is a number literal. -/
def LongestNumber (cs : List Char) (n : Nat) : Prop :=
  n ≤ cs.length ∧ IsNumberText (cs.take n) ∧
    ∀ m ≤ cs.length, IsNumberText (cs.take m) → m ≤ n

theorem IsNumberText.ne_nil {t : List Char} (h : IsNumberText t) : t ≠ [] := by
  obtain ⟨sign, w, f, e, rfl, -, hw, -, -⟩ := h
  rcases hw with rfl | ⟨d, ds, rfl, -, -⟩ <;> simp

theorem LongestNumber.unique {cs : List Char} {n m : Nat} (hn : LongestNumber cs n)
    (hm : LongestNumber cs m) : n = m :=
  Nat.le_antisymm (hm.2.2 n hn.1 hn.2.1) (hn.2.2 m hm.1 hm.2.1)

/-! ### Where each part of the scan stops -/

theorem digitsPrefix_digits_append {ds : List Char} (hd : ∀ c ∈ ds, c.isDigit = true)
    (rest : List Char) :
    digitsPrefix (ds ++ rest) = (ds ++ (digitsPrefix rest).1, (digitsPrefix rest).2) := by
  simp only [digitsPrefix, List.takeWhile_append_of_pos hd, List.dropWhile_append_of_pos hd]

theorem digitsPrefix_of_head {c : Char} (hc : c.isDigit = false) (rest : List Char) :
    digitsPrefix (c :: rest) = ([], c :: rest) := by
  simp [digitsPrefix, hc]

theorem fractionPart_of_head {c : Char} (hc : c ≠ '.') (rest : List Char) :
    fractionPart (c :: rest) = (none, c :: rest) := by
  unfold fractionPart
  split
  · rename_i h
    cases h
    exact absurd rfl hc
  · rfl

theorem exponentSign_digits {sign ds : List Char}
    (hsign : sign = [] ∨ sign = ['+'] ∨ sign = ['-']) (hds : IsDigits ds) (rest : List Char) :
    (exponentSign (sign ++ (ds ++ rest))).2 = ds ++ rest := by
  obtain ⟨d, ds, rfl⟩ := List.exists_cons_of_ne_nil hds.1
  have hd : d.isDigit = true := hds.2 d List.mem_cons_self
  rcases hsign with rfl | rfl | rfl
  · have hm : d ≠ '-' := by rintro rfl; simp at hd
    have hp : d ≠ '+' := by rintro rfl; simp at hd
    unfold exponentSign
    split <;> simp_all
  · rfl
  · rfl

/-- What the fraction scan leaves is a suffix of its input. -/
theorem fractionPart_suffix (R : List Char) : (fractionPart R).2 <:+ R := by
  rcases fractionPart_cases R with h | ⟨d, ds, after, -, -, -, hR, h⟩
  · rw [h]
  · rw [h, hR]
    exact List.suffix_append ('.' :: d :: ds) after

/-- What the exponent scan leaves is a suffix of its input. -/
theorem exponentPart_suffix (R : List Char) : (exponentPart R).2 <:+ R := by
  rcases exponentPart_cases R with h | ⟨E, ex, after, hR, h, -⟩
  · rw [h]
  · rw [h, hR]
    exact List.suffix_append E after

theorem partsRest_suffix (R : List Char) : (exponentPart (fractionPart R).2).2 <:+ R :=
  (exponentPart_suffix _).trans (fractionPart_suffix R)

theorem IsExponent.head {e : List Char} (he : IsExponent e) (hne : e ≠ []) :
    ∃ m rest, e = m :: rest ∧ m ≠ '.' ∧ m.isDigit = false := by
  rcases he with rfl | ⟨m, sign, ds, rfl, hm, -⟩
  · exact absurd rfl hne
  · refine ⟨m, sign ++ ds, rfl, ?_, ?_⟩ <;> rcases hm with rfl | rfl <;> decide

/-- After the integer digits, a fraction or an exponent starts with no digit. -/
theorem parts_head {f e : List Char} (hf : IsFraction f) (he : IsExponent e) (hne : f ++ e ≠ [])
    (X : List Char) : ∃ c rest, f ++ (e ++ X) = c :: rest ∧ c.isDigit = false := by
  rcases hf with rfl | ⟨ds, rfl, -⟩
  · obtain ⟨m, rest, rfl, -, hm⟩ := he.head (by simpa using hne)
    exact ⟨m, rest ++ X, rfl, hm⟩
  · exact ⟨'.', ds ++ (e ++ X), rfl, rfl⟩

/-! ### The scan reads at least every number literal -/

/-- The exponent scan reads at least an exponent its input starts with. -/
theorem exponentPart_reads {e : List Char} (he : IsExponent e) (X : List Char) :
    (exponentPart (e ++ X)).2 <:+ X := by
  rcases he with rfl | ⟨m, sign, ds, rfl, hm, hsign, hds⟩
  · exact exponentPart_suffix X
  · have hne : (ds ++ (digitsPrefix X).1).isEmpty = false := by
      obtain ⟨d, ds, rfl⟩ := List.exists_cons_of_ne_nil hds.1
      rfl
    rw [List.cons_append, exponentPart_cons, if_pos hm, List.append_assoc,
      exponentSign_digits hsign hds, digitsPrefix_digits_append hds.2, hne]
    exact List.dropWhile_suffix _

/-- The fraction and exponent scans read at least a fraction and an exponent their input
starts with. -/
theorem fractionPart_reads {f e : List Char} (hf : IsFraction f) (he : IsExponent e)
    (X : List Char) : (exponentPart (fractionPart (f ++ (e ++ X))).2).2 <:+ X := by
  rcases hf with rfl | ⟨ds, rfl, hds⟩
  · by_cases hne : e = []
    · subst hne
      exact partsRest_suffix X
    · -- no fraction here, and the scan finds none before the exponent
      obtain ⟨m, rest, rfl, hm, -⟩ := he.head hne
      rw [List.nil_append, List.cons_append, fractionPart_of_head hm, ← List.cons_append]
      exact exponentPart_reads he X
  · obtain ⟨d, ds, rfl⟩ := List.exists_cons_of_ne_nil hds.1
    have hd : d.isDigit = true := hds.2 d List.mem_cons_self
    have hds' : ∀ c ∈ ds, c.isDigit = true := fun c hc => hds.2 c (List.mem_cons_of_mem d hc)
    simp only [List.cons_append, fractionPart, hd, if_true, digitsPrefix_digits_append hds']
    by_cases hne : e = []
    · subst hne
      exact (exponentPart_suffix _).trans (List.dropWhile_suffix _)
    · -- the fraction's digits stop before the exponent
      obtain ⟨m, rest, rfl, -, hm⟩ := he.head hne
      rw [List.cons_append, digitsPrefix_of_head hm, ← List.cons_append]
      exact exponentPart_reads he X

theorem wholePart_digits {d : Char} {ds : List Char} (hd0 : d ≠ '0')
    (hds : ∀ c ∈ d :: ds, c.isDigit = true) (R : List Char) :
    wholePart (d :: ds ++ R) = some (d :: ds ++ (digitsPrefix R).1, (digitsPrefix R).2) := by
  have hd : d.isDigit = true := hds d List.mem_cons_self
  rw [← digitsPrefix_digits_append hds R, List.cons_append]
  simp only [wholePart, hd]
  exact if_pos trivial

/-- The number scan reads at least every number literal its input starts with. -/
theorem scan?_reads {T : List Char} (hT : IsNumberText T) (X : List Char) :
    ∃ v after, scan? (T ++ X) = some (v, after) ∧ after <:+ X := by
  obtain ⟨sign, w, f, e, rfl, hsign, hw, hf, he⟩ := hT
  have hbody : (numberSign (sign ++ (w ++ (f ++ (e ++ X))))).2 = w ++ (f ++ (e ++ X)) := by
    rcases hsign with rfl | rfl
    · rcases hw with rfl | ⟨d, ds, rfl, -, hds⟩
      · rfl
      · have hm : d ≠ '-' := by
          rintro rfl
          simpa using hds.2 '-' List.mem_cons_self
        simp [numberSign, hm]
    · rfl
  -- the integer digits: `0` alone, or every digit there is
  have hwhole : ∃ W R, wholePart (w ++ (f ++ (e ++ X))) = some (W, R) ∧
      (exponentPart (fractionPart R).2).2 <:+ X := by
    rcases hw with rfl | ⟨d, ds, rfl, hd0, hds⟩
    · exact ⟨['0'], _, rfl, fractionPart_reads hf he X⟩
    · refine ⟨_, _, wholePart_digits hd0 hds.2 _, ?_⟩
      by_cases hnil : f ++ e = []
      · obtain ⟨rfl, rfl⟩ := List.append_eq_nil_iff.1 hnil
        exact (partsRest_suffix _).trans (List.dropWhile_suffix _)
      · obtain ⟨c, rest, hc, hcd⟩ := parts_head hf he hnil X
        rw [hc, digitsPrefix_of_head hcd, ← hc]
        exact fractionPart_reads hf he X
  obtain ⟨W, R, hW, hR⟩ := hwhole
  rw [List.append_assoc, List.append_assoc, List.append_assoc, scan?_eq, hbody, hW]
  exact ⟨_, _, rfl, hR⟩

/-! ### What the scan reads is a number literal -/

theorem exponentSign_cases (rest : List Char) :
    ∃ sign, (sign = [] ∨ sign = ['+'] ∨ sign = ['-']) ∧ rest = sign ++ (exponentSign rest).2 := by
  unfold exponentSign
  split
  · exact ⟨['-'], .inr (.inr rfl), rfl⟩
  · exact ⟨['+'], .inr (.inl rfl), rfl⟩
  · exact ⟨[], .inl rfl, rfl⟩

/-- The fraction scan reads a fraction, and finds one exactly when it reads something. -/
theorem fractionPart_spec (R : List Char) :
    ∃ f, R = f ++ (fractionPart R).2 ∧ IsFraction f ∧ (f = [] ↔ (fractionPart R).1 = none) := by
  rcases fractionPart_cases R with h | ⟨d, ds, after, hd, hds, -, hR, h⟩
  · exact ⟨[], by rw [h]; rfl, .inl rfl, by rw [h]; simp⟩
  · refine ⟨'.' :: d :: ds, by rw [h, hR]; rfl, .inr ⟨d :: ds, rfl, List.cons_ne_nil d ds, ?_⟩, ?_⟩
    · intro c hc
      rcases List.mem_cons.1 hc with rfl | hc
      exacts [hd, hds c hc]
    · rw [h]
      simp

/-- The exponent scan reads an exponent, and finds one exactly when it reads something. -/
theorem exponentPart_spec (R : List Char) :
    ∃ e, R = e ++ (exponentPart R).2 ∧ IsExponent e ∧ (e = [] ↔ (exponentPart R).1 = none) := by
  cases R with
  | nil => exact ⟨[], rfl, .inl rfl, by simp [exponentPart]⟩
  | cons m rest =>
    rw [exponentPart_cons]
    by_cases hm : m = 'e' ∨ m = 'E'
    · rw [if_pos hm]
      obtain ⟨sign, hsign, hrest⟩ := exponentSign_cases rest
      obtain ⟨hds, -, hsplit⟩ := digitsPrefix_split (exponentSign rest).2
      cases hne : (digitsPrefix (exponentSign rest).2).1 with
      | nil => exact ⟨[], rfl, .inl rfl, by simp⟩
      | cons d ds =>
        rw [hne] at hds hsplit
        refine ⟨m :: (sign ++ d :: ds), ?_, .inr ⟨m, sign, d :: ds, rfl, hm, hsign,
          List.cons_ne_nil d ds, hds⟩, by simp⟩
        simp only [List.isEmpty_cons, Bool.false_eq_true, if_false]
        conv_lhs => rw [hrest, hsplit]
        simp
    · rw [if_neg hm]
      exact ⟨[], rfl, .inl rfl, by simp⟩

theorem IsWhole.digits {w : List Char} (hw : IsWhole w) : ∀ c ∈ w, c.isDigit = true := by
  rcases hw with rfl | ⟨d, ds, rfl, -, hds⟩
  · intro c hc
    rw [List.mem_singleton.1 hc]
    rfl
  · exact hds.2

/-- A number literal is written without `.`, `e` and `E` exactly when it has neither a fraction
nor an exponent. -/
theorem noMarks_iff {sign w f e : List Char} (hsign : sign = [] ∨ sign = ['-']) (hw : IsWhole w)
    (hf : IsFraction f) (he : IsExponent e) :
    (∀ c ∈ sign ++ (w ++ (f ++ e)), c ≠ '.' ∧ c ≠ 'e' ∧ c ≠ 'E') ↔ f = [] ∧ e = [] := by
  constructor
  · intro h
    constructor
    · rcases hf with hf | ⟨ds, rfl, -⟩
      · exact hf
      · exact absurd rfl (h '.' (by simp)).1
    · by_cases hne : e = []
      · exact hne
      · obtain ⟨m, sign', ds, rfl, hm, -⟩ := he.resolve_left hne
        have hmem : m ∈ sign ++ (w ++ (f ++ m :: (sign' ++ ds))) := by simp
        rcases hm with rfl | rfl
        exacts [absurd rfl (h 'e' hmem).2.1, absurd rfl (h 'E' hmem).2.2]
  · rintro ⟨rfl, rfl⟩ c hc
    have hcases : c = '-' ∨ c.isDigit = true := by
      rcases List.mem_append.1 hc with hc | hc
      · rcases hsign with rfl | rfl
        · cases hc
        · exact .inl (List.mem_singleton.1 hc)
      · exact .inr (hw.digits c (by simpa using hc))
    rcases hcases with rfl | hd
    · decide
    · refine ⟨?_, ?_, ?_⟩ <;> rintro rfl <;> simp at hd

theorem numberOfParts_int_iff (neg : Bool) (w : List Char) (fraction : Option (List Char))
    (exponent : Option Int) :
    (∃ i, numberOfParts neg w fraction exponent = .int i) ↔ fraction = none ∧ exponent = none := by
  cases fraction <;> cases exponent <;> simp [numberOfParts]

/-- What the number scan reads is a number literal, written without `.`, `e` and `E`
exactly when its value is an integer. -/
theorem scan?_sound {cs after : List Char} {v : Number} (h : scan? cs = some (v, after)) :
    ∃ T, cs = T ++ after ∧ IsNumberText T ∧
      ((∀ c ∈ T, c ≠ '.' ∧ c ≠ 'e' ∧ c ≠ 'E') ↔ ∃ i, v = .int i) := by
  rw [scan?_eq] at h
  cases hw : wholePart (numberSign cs).2 with
  | none =>
    rw [hw] at h
    cases h
  | some p =>
    obtain ⟨w, tail⟩ := p
    rw [hw] at h
    simp only [Option.map_some, Option.some.injEq, Prod.mk.injEq] at h
    obtain ⟨rfl, rfl⟩ := h
    obtain ⟨hbody, hshape, hdig⟩ := wholePart_eq_some hw
    have hwhole : IsWhole w := by
      rcases hshape with hz | ⟨c, cs', rfl, hc⟩
      · exact .inl hz
      · exact .inr ⟨c, cs', rfl, hc, List.cons_ne_nil c cs', hdig⟩
    have hsign : (if (numberSign cs).1 then ['-'] else []) = [] ∨
        (if (numberSign cs).1 then ['-'] else []) = ['-'] := by
      cases (numberSign cs).1
      exacts [.inl rfl, .inr rfl]
    obtain ⟨f, hf, hfrac, hfnone⟩ := fractionPart_spec tail
    obtain ⟨e, he, hexp, henone⟩ := exponentPart_spec (fractionPart tail).2
    refine ⟨_ ++ (w ++ (f ++ e)), ?_, ⟨_, w, f, e, rfl, hsign, hwhole, hfrac, hexp⟩, ?_⟩
    · conv_lhs => rw [numberSign_split cs, hbody, hf, he]
      simp
    · rw [noMarks_iff hsign hwhole hfrac hexp, numberOfParts_int_iff, hfnone, henone]

/-- The number scan reads the longest number literal its input starts with. -/
theorem scan?_longest {cs after : List Char} {v : Number} (h : scan? cs = some (v, after)) :
    LongestNumber cs (cs.length - after.length) := by
  obtain ⟨T, rfl, hT, -⟩ := scan?_sound h
  have hlen : (T ++ after).length - after.length = T.length := by simp
  rw [hlen]
  refine ⟨by simp, by simpa using hT, fun m hm hm' => ?_⟩
  -- the scan reads at least the literal of `m` characters, so it leaves at most the rest
  obtain ⟨v', after', hscan, hsuf⟩ := scan?_reads hm' ((T ++ after).drop m)
  rw [List.take_append_drop, h, Option.some.injEq, Prod.mk.injEq] at hscan
  obtain ⟨-, rfl⟩ := hscan
  have hle := hsuf.length_le
  simp only [List.length_drop, List.length_append] at hle hm
  omega

/-- The number scan finds a number wherever a number literal starts. -/
theorem scan?_ne_none_of_numberText {cs : List Char} {m : Nat} (hm : IsNumberText (cs.take m)) :
    scan? cs ≠ none := by
  obtain ⟨v, after, hscan, -⟩ := scan?_reads hm (cs.drop m)
  rw [List.take_append_drop] at hscan
  rw [hscan]
  exact Option.some_ne_none _

end JsonPath.Number

namespace JsonPath.Syntax

/-! ## String literals -/

/-- The body of a string literal quoted by `q`: characters other than `q` and the backslash,
and escapes, each a backslash and the character after it, whatever that is. -/
inductive QuotedBody (q : Char) : List Char → Prop
  | nil : QuotedBody q []
  | plain {c : Char} {body : List Char} :
      c ≠ q → c ≠ '\\' → QuotedBody q body → QuotedBody q (c :: body)
  | escape {c : Char} {body : List Char} : QuotedBody q body → QuotedBody q ('\\' :: c :: body)

/-- After an opening quote `q`, the string literal goes on with `rest` and has `n` characters
in all: its quote, a body and the same quote closing it. -/
def ClosedString (q : Char) (rest : List Char) (n : Nat) : Prop :=
  ∃ body tail, rest = body ++ q :: tail ∧ QuotedBody q body ∧ n = body.length + 2

theorem quotedLength_body {q : Char} (hq : q ≠ '\\') {body : List Char} (hb : QuotedBody q body)
    (tail : List Char) (n : Nat) :
    quotedLength q (body ++ q :: tail) n = some (n + body.length + 1) := by
  induction hb generalizing n with
  | nil =>
    -- the closing quote is no backslash, or the body would go on
    rw [List.nil_append, quotedLength.eq_4 q n q tail (fun _ _ h => absurd h hq)
      (fun h => absurd h hq), if_pos rfl]
    rfl
  | @plain c body hcq hcb _ ih =>
    rw [List.cons_append, quotedLength.eq_4 q n c _ (fun _ _ h => absurd h hcb)
      (fun h => absurd h hcb), if_neg hcq, ih]
    congr 1
    simp only [List.length_cons]
    omega
  | @escape c body _ ih =>
    rw [List.cons_append, List.cons_append, quotedLength.eq_2, ih]
    congr 1
    simp only [List.length_cons]
    omega

theorem quotedLength_eq_some {q : Char} {rest : List Char} {n m : Nat}
    (h : quotedLength q rest n = some m) :
    ∃ body tail, rest = body ++ q :: tail ∧ QuotedBody q body ∧ m = n + body.length + 1 := by
  induction rest, n using quotedLength.induct q with
  | case1 n => simp [quotedLength] at h
  | case2 c rest n ih =>
    rw [quotedLength.eq_2] at h
    obtain ⟨body, tail, rfl, hb, rfl⟩ := ih h
    refine ⟨'\\' :: c :: body, tail, rfl, .escape hb, ?_⟩
    simp only [List.length_cons]
    omega
  | case3 n => simp [quotedLength] at h
  | case4 rest n h1 h2 =>
    rw [quotedLength.eq_4 q n q rest h1 h2, if_pos rfl] at h
    cases h
    exact ⟨[], rest, rfl, .nil, rfl⟩
  | case5 c rest n h1 h2 hcq ih =>
    rw [quotedLength.eq_4 q n c rest h1 h2, if_neg hcq] at h
    obtain ⟨body, tail, rfl, hb, rfl⟩ := ih h
    -- a backslash would have escaped what follows it
    have hcb : c ≠ '\\' := by
      intro hc
      cases body with
      | nil => exact h1 q tail hc rfl
      | cons d body => exact h1 d (body ++ q :: tail) hc rfl
    refine ⟨c :: body, tail, rfl, .plain hcq hcb hb, ?_⟩
    simp only [List.length_cons]
    omega

/-- The string scan reads exactly the closed string literals. -/
theorem quotedLength_eq_some_iff {q : Char} (hq : q ≠ '\\') {rest : List Char} {n : Nat} :
    quotedLength q rest 1 = some n ↔ ClosedString q rest n := by
  constructor
  · intro h
    obtain ⟨body, tail, rfl, hb, rfl⟩ := quotedLength_eq_some h
    exact ⟨body, tail, rfl, hb, by omega⟩
  · rintro ⟨body, tail, rfl, hb, rfl⟩
    rw [quotedLength_body hq hb]
    congr 1
    omega

/-! ## Identifiers and punctuation marks -/

/-- The identifier at the front of `cs` has `n` characters: an identifier start and every
identifier character after it. -/
def IdentMatch (cs : List Char) (n : Nat) : Prop :=
  ∃ c word rest, cs = c :: (word ++ rest) ∧ isIdentStart c = true ∧
    (∀ d ∈ word, isIdentChar d = true) ∧ (∀ d ∈ rest.head?, isIdentChar d = false) ∧
    n = word.length + 1

/-- The punctuation mark at the front of `cs` is of kind `kind` and has `n` characters: of
the marks of the table that `cs` starts with, the longest. -/
def MarkMatch (cs : List Char) (kind : TokenKind) (n : Nat) : Prop :=
  ∃ text, (text, kind) ∈ punctuation ∧ text.toList <+: cs ∧ n = text.length ∧
    ∀ p ∈ punctuation, p.1.toList <+: cs → p.1.length ≤ text.length

theorem takeWhile_append_of_stops {α : Type} {p : α → Bool} {word rest : List α}
    (hw : ∀ d ∈ word, p d = true) (hr : ∀ d ∈ rest.head?, p d = false) :
    (word ++ rest).takeWhile p = word := by
  rw [List.takeWhile_append_of_pos hw]
  cases rest with
  | nil => simp
  | cons d ds => simp [hr d rfl]

theorem identMatch_iff {c : Char} {rest : List Char} (hc : isIdentStart c = true) {n : Nat} :
    IdentMatch (c :: rest) n ↔ n = 1 + (rest.takeWhile isIdentChar).length := by
  constructor
  · rintro ⟨c', word, rest', heq, -, hw, hr, rfl⟩
    obtain ⟨rfl, rfl⟩ := List.cons.inj heq
    rw [takeWhile_append_of_stops hw hr]
    omega
  · rintro rfl
    refine ⟨c, rest.takeWhile isIdentChar, rest.dropWhile isIdentChar,
      by rw [List.takeWhile_append_dropWhile], hc, fun d hd => ?_, fun d hd => ?_, by omega⟩
    · exact List.all_eq_true.1 List.all_takeWhile d hd
    · have hp := List.head?_dropWhile_not isIdentChar rest
      rw [Option.mem_def] at hd
      rw [hd] at hp
      exact hp

/-- Longer marks come first in the table. -/
theorem punctuation_longer_first : (punctuation.map fun p => p.1.length).Pairwise (· ≥ ·) := by
  decide

/-- No two marks of the table are written alike. -/
theorem punctuation_nodup : (punctuation.map fun p => p.1.toList).Nodup := by
  decide

/-- Every mark is written with a first character that starts no literal, no identifier and
no blank. -/
theorem punctuation_heads :
    punctuation.all (fun p => p.1.toList.head?.any fun c =>
      c != '\'' && c != '"' && c != '-' && !c.isDigit && !isIdentStart c && !isBlank c) = true := by
  decide

/-- A mark starts with a character that starts no other token and is no blank. -/
theorem MarkMatch.head {c : Char} {rest : List Char} {kind : TokenKind} {n : Nat}
    (h : MarkMatch (c :: rest) kind n) :
    0 < n ∧ c ≠ '\'' ∧ c ≠ '"' ∧ c ≠ '-' ∧ c.isDigit = false ∧ isIdentStart c = false ∧
      isBlank c = false := by
  obtain ⟨text, hmem, hpre, rfl, -⟩ := h
  have hall := List.all_eq_true.1 punctuation_heads _ hmem
  rw [← String.length_toList]
  cases htext : text.toList with
  | nil =>
    rw [htext] at hall
    cases hall
  | cons d ds =>
    rw [htext] at hall hpre
    obtain ⟨rfl, -⟩ := List.cons_prefix_cons.1 hpre
    simp only [List.head?_cons, Option.any_some, Bool.and_eq_true, bne_iff_ne, ne_eq,
      Bool.not_eq_true'] at hall
    obtain ⟨⟨⟨⟨⟨h1, h2⟩, h3⟩, h4⟩, h5⟩, h6⟩ := hall
    exact ⟨by simp, h1, h2, h3, h4, h5, h6⟩

theorem markMatch_of_findSome? {cs : List Char} {kind : TokenKind} {n : Nat}
    (h : punctuation.findSome? (fun p => if p.1.toList.isPrefixOf cs then some (p.2, p.1.length)
      else none) = some (kind, n)) : MarkMatch cs kind n := by
  obtain ⟨before, p, after, hsplit, hp, hbefore⟩ := List.findSome?_eq_some_iff.1 h
  by_cases hpre : p.1.toList.isPrefixOf cs = true
  · rw [if_pos hpre, Option.some.injEq, Prod.mk.injEq] at hp
    obtain ⟨rfl, rfl⟩ := hp
    refine ⟨p.1, by rw [hsplit]; simp, List.isPrefixOf_iff_prefix.1 hpre, rfl, ?_⟩
    intro p' hp' hpre'
    rw [hsplit] at hp'
    rcases List.mem_append.1 hp' with hp' | hp'
    · -- a mark before the one found is not a prefix
      have hnone := hbefore p' hp'
      rw [if_pos (List.isPrefixOf_iff_prefix.2 hpre')] at hnone
      cases hnone
    · -- a mark after it is no longer
      have hlonger := punctuation_longer_first
      rw [hsplit, List.map_append, List.map_cons, List.pairwise_append, List.pairwise_cons]
        at hlonger
      rcases List.mem_cons.1 hp' with rfl | hp'
      · exact Nat.le_refl _
      · exact hlonger.2.1.1 _ (List.mem_map_of_mem hp')
  · rw [if_neg hpre] at hp
    cases hp

/-- The table is tried in order, longer marks first: what it finds is the longest mark the
text starts with. -/
theorem findSome?_marks_eq_some_iff {cs : List Char} {kind : TokenKind} {n : Nat} :
    punctuation.findSome? (fun p => if p.1.toList.isPrefixOf cs then some (p.2, p.1.length)
      else none) = some (kind, n) ↔ MarkMatch cs kind n := by
  refine ⟨markMatch_of_findSome?, fun hm => ?_⟩
  obtain ⟨text, hmem, hpre, rfl, hlong⟩ := hm
  cases hfind : punctuation.findSome? (fun p => if p.1.toList.isPrefixOf cs
      then some (p.2, p.1.length) else none) with
  | none =>
    have hnone := List.findSome?_eq_none_iff.1 hfind _ hmem
    rw [if_pos (List.isPrefixOf_iff_prefix.2 hpre)] at hnone
    cases hnone
  | some r =>
    obtain ⟨kind', n'⟩ := r
    obtain ⟨text', hmem', hpre', rfl, hlong'⟩ := markMatch_of_findSome? hfind
    -- both are longest, so they have the same length and, being prefixes, the same text
    have hlen : text'.toList.length = text.toList.length := by
      simp only [String.length_toList]
      exact Nat.le_antisymm (hlong _ hmem' hpre') (hlong' _ hmem hpre)
    have htext : text'.toList = text.toList :=
      (List.prefix_of_prefix_length_le hpre' hpre (Nat.le_of_eq hlen)).eq_of_length hlen
    have hsame : (text', kind') = (text, kind) :=
      List.inj_on_of_nodup_map punctuation_nodup hmem' hmem htext
    cases hsame
    rfl

/-! ## The token at the front -/

/-- The kind of a number literal's token: an integer when its text has none of `.`, `e` and
`E`, that is neither a fraction nor an exponent. -/
def numberKind (text : List Char) : TokenKind :=
  if text.any (fun c => c == '.' || c == 'e' || c == 'E') then .float else .integer

theorem numberKind_eq_integer_iff (text : List Char) :
    numberKind text = .integer ↔ ∀ c ∈ text, c ≠ '.' ∧ c ≠ 'e' ∧ c ≠ 'E' := by
  unfold numberKind
  split
  · rename_i h
    obtain ⟨c, hc, hm⟩ := List.any_eq_true.1 h
    refine iff_of_false (by decide) fun hall => ?_
    obtain ⟨h1, h2, h3⟩ := hall c hc
    simp [h1, h2, h3] at hm
  · rename_i h
    refine iff_of_true rfl fun c hc => ?_
    have hnot := List.any_eq_false.1 (Bool.of_not_eq_true h) c hc
    simp only [Bool.or_eq_true, beq_iff_eq, not_or] at hnot
    exact ⟨hnot.1.1, hnot.1.2, hnot.2⟩

theorem numberKind_of_ne_integer {text : List Char} (h : numberKind text ≠ .integer) :
    numberKind text = .float := by
  unfold numberKind at h ⊢
  split
  · rfl
  · rename_i hm
    rw [if_neg hm] at h
    exact absurd rfl h

/-- The token at the front of a text, of kind `kind` and `n` characters long: the first
character selects a pattern, and the token is that pattern's match. -/
def FrontToken : List Char → TokenKind → Nat → Prop
  | [], _, _ => False
  | c :: rest, kind, n =>
    if c = '\'' ∨ c = '"' then kind = .string ∧ ClosedString c rest n
    else if c = '-' ∨ c.isDigit = true then
      kind = numberKind ((c :: rest).take n) ∧ Number.LongestNumber (c :: rest) n
    else if isIdentStart c = true then kind = .ident ∧ IdentMatch (c :: rest) n
    else MarkMatch (c :: rest) kind n

section Branches

variable {c : Char} {rest : List Char} {kind : TokenKind} {n : Nat}

theorem not_numberStart (hm : c ≠ '-') (hd : c.isDigit = false) : ¬(c = '-' ∨ c.isDigit = true) := by
  rintro (h | h)
  · exact hm h
  · rw [hd] at h
    cases h

theorem scan?_eq_none_of_not_numberStart (hn : ¬(c = '-' ∨ c.isDigit = true)) :
    Number.scan? (c :: rest) = none :=
  Number.scan?_eq_none (fun h => hn (.inl h)) (by simpa using fun h => hn (.inr h)) rest

theorem lexeme?_quote_iff (hq : c = '\'' ∨ c = '"') :
    lexeme? (c :: rest) = some (kind, n) ↔ kind = .string ∧ ClosedString c rest n := by
  have hqb : c ≠ '\\' := by rcases hq with rfl | rfl <;> decide
  rw [lexeme?.eq_2, if_pos hq, Option.map_eq_some_iff]
  constructor
  · rintro ⟨m, hm, hkn⟩
    rw [Prod.mk.injEq] at hkn
    obtain ⟨rfl, rfl⟩ := hkn
    exact ⟨rfl, (quotedLength_eq_some_iff hqb).1 hm⟩
  · rintro ⟨rfl, hs⟩
    exact ⟨n, (quotedLength_eq_some_iff hqb).2 hs, rfl⟩

theorem lexeme?_number_iff (hq : ¬(c = '\'' ∨ c = '"')) (hn : c = '-' ∨ c.isDigit = true) :
    lexeme? (c :: rest) = some (kind, n) ↔
      kind = numberKind ((c :: rest).take n) ∧ Number.LongestNumber (c :: rest) n := by
  cases hs : Number.scan? (c :: rest) with
  | none =>
    -- no number here, and no identifier or mark starts with a minus sign or a digit
    have hi : isIdentStart c = false := by
      cases hic : isIdentStart c
      · rfl
      · obtain ⟨-, -, hm, hd, -⟩ := isIdentStart_head hic
        exact absurd hn (not_numberStart hm hd)
    rw [lexeme?.eq_2, if_neg hq, hs]
    simp only [hi, Bool.false_eq_true, if_false]
    constructor
    · intro h
      obtain ⟨-, -, -, hm, hd, -⟩ := (markMatch_of_findSome? h).head
      exact absurd hn (not_numberStart hm hd)
    · rintro ⟨-, hlong⟩
      exact absurd hs (Number.scan?_ne_none_of_numberText hlong.2.1)
  | some r =>
    obtain ⟨v, after⟩ := r
    have hlong := Number.scan?_longest hs
    obtain ⟨T, hcs, -, hint⟩ := Number.scan?_sound hs
    have htake : (c :: rest).take ((c :: rest).length - after.length) = T := by
      rw [hcs]
      simp
    -- the kind is read off the value: an integer exactly when the text has no marks
    have hlex : lexeme? (c :: rest) = some (numberKind T, (c :: rest).length - after.length) := by
      rw [lexeme?.eq_2, if_neg hq, hs]
      cases v with
      | int i => rw [(numberKind_eq_integer_iff T).2 (hint.2 ⟨i, rfl⟩)]
      | float x =>
        have hne : numberKind T ≠ .integer := fun h => by
          obtain ⟨i, hi⟩ := hint.1 ((numberKind_eq_integer_iff T).1 h)
          cases hi
        rw [numberKind_of_ne_integer hne]
    rw [hlex]
    constructor
    · intro h
      rw [Option.some.injEq, Prod.mk.injEq] at h
      obtain ⟨rfl, rfl⟩ := h
      exact ⟨by rw [htake], hlong⟩
    · rintro ⟨rfl, hl⟩
      obtain rfl := hl.unique hlong
      rw [htake]

theorem lexeme?_ident_iff (hq : ¬(c = '\'' ∨ c = '"')) (hn : ¬(c = '-' ∨ c.isDigit = true))
    (hi : isIdentStart c = true) :
    lexeme? (c :: rest) = some (kind, n) ↔ kind = .ident ∧ IdentMatch (c :: rest) n := by
  rw [lexeme?.eq_2, if_neg hq, scan?_eq_none_of_not_numberStart hn, identMatch_iff hi]
  simp only [hi, if_true, Option.some.injEq, Prod.mk.injEq]
  constructor
  · rintro ⟨rfl, rfl⟩
    exact ⟨rfl, rfl⟩
  · rintro ⟨rfl, rfl⟩
    exact ⟨rfl, rfl⟩

theorem lexeme?_mark_iff (hq : ¬(c = '\'' ∨ c = '"')) (hn : ¬(c = '-' ∨ c.isDigit = true))
    (hi : isIdentStart c = false) :
    lexeme? (c :: rest) = some (kind, n) ↔ MarkMatch (c :: rest) kind n := by
  rw [lexeme?.eq_2, if_neg hq, scan?_eq_none_of_not_numberStart hn]
  simp only [hi, Bool.false_eq_true, if_false]
  exact findSome?_marks_eq_some_iff

end Branches

/-- `lexeme?` reads the token at the front of a text, and finds one exactly when one is
there. -/
theorem lexeme?_eq_some_iff {cs : List Char} {kind : TokenKind} {n : Nat} :
    lexeme? cs = some (kind, n) ↔ FrontToken cs kind n := by
  cases cs with
  | nil => simp [lexeme?, FrontToken]
  | cons c rest =>
    rw [FrontToken]
    by_cases hq : c = '\'' ∨ c = '"'
    · rw [if_pos hq]
      exact lexeme?_quote_iff hq
    · rw [if_neg hq]
      by_cases hn : c = '-' ∨ c.isDigit = true
      · rw [if_pos hn]
        exact lexeme?_number_iff hq hn
      · rw [if_neg hn]
        cases hi : isIdentStart c
        · rw [if_neg Bool.false_ne_true]
          exact lexeme?_mark_iff hq hn hi
        · rw [if_pos rfl]
          exact lexeme?_ident_iff hq hn hi

/-- `lexeme?` finds nothing exactly where no token starts. -/
theorem lexeme?_eq_none_iff {cs : List Char} :
    lexeme? cs = none ↔ ∀ kind n, ¬ FrontToken cs kind n := by
  constructor
  · intro h kind n hfront
    rw [lexeme?_eq_some_iff.2 hfront] at h
    cases h
  · intro h
    cases hlex : lexeme? cs with
    | none => rfl
    | some r => exact absurd (lexeme?_eq_some_iff.1 hlex) (h r.1 r.2)

/-- A text starts with at most one token. -/
theorem FrontToken.unique {cs : List Char} {kind kind' : TokenKind} {n n' : Nat}
    (h : FrontToken cs kind n) (h' : FrontToken cs kind' n') : kind = kind' ∧ n = n' := by
  have heq := (lexeme?_eq_some_iff.2 h).symm.trans (lexeme?_eq_some_iff.2 h')
  rw [Option.some.injEq, Prod.mk.injEq] at heq
  exact heq

/-- A token is not empty, and it lies within the text. -/
theorem FrontToken.pos {cs : List Char} {kind : TokenKind} {n : Nat}
    (h : FrontToken cs kind n) : 0 < n ∧ n ≤ cs.length := by
  cases cs with
  | nil => exact h.elim
  | cons c rest =>
    rw [FrontToken] at h
    split_ifs at h with hq hn hi
    · obtain ⟨-, body, tail, rfl, -, rfl⟩ := h
      simp
    · obtain ⟨-, hlen, htext, -⟩ := h
      refine ⟨Nat.pos_of_ne_zero fun hz => ?_, hlen⟩
      rw [hz, List.take_zero] at htext
      exact Number.IsNumberText.ne_nil htext rfl
    · obtain ⟨-, c', word, rest', heq, -, -, -, rfl⟩ := h
      rw [heq]
      simp
    · refine ⟨h.head.1, ?_⟩
      obtain ⟨text, -, hpre, rfl, -⟩ := h
      rw [← String.length_toList]
      exact hpre.length_le

theorem isBlank_of_isDigit {c : Char} (hd : c.isDigit = true) : isBlank c = false := by
  cases hb : isBlank c
  · rfl
  · simp only [isBlank, Bool.or_eq_true, decide_eq_true_eq] at hb
    rcases hb with ((rfl | rfl) | rfl) | rfl <;> simp at hd

/-- A token never starts with a blank. -/
theorem FrontToken.head_not_blank {c : Char} {rest : List Char} {kind : TokenKind} {n : Nat}
    (h : FrontToken (c :: rest) kind n) : isBlank c = false := by
  rw [FrontToken] at h
  split_ifs at h with hq hn hi
  · rcases hq with rfl | rfl <;> decide
  · rcases hn with rfl | hd
    · decide
    · exact isBlank_of_isDigit hd
  · exact (isIdentStart_head hi).2.2.2.2.1
  · exact h.head.2.2.2.2.2.2

end JsonPath.Syntax
