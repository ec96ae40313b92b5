import JsonPath.Proofs.ShortestText
import JsonPath.Proofs.ExceptRuns

/-!
# The values literal tokens carry

The lexer gives every string literal token the string it denotes and every number literal
token the number its text reads as (`Syntax.tokenValue`). This module shows that the value is
always there and of the token's kind (`tokenize_valued`): a string token carries a string, an
integer token an integer and a number token a binary64 number. The grammar relies on it, since
a selector or a literal takes its value from the token's, with a fallback that never runs.

The number case is the one with content. The lexer reads a number literal as the longest
prefix `Number.scan?` accepts and keeps the text of that prefix; the value is then computed
again from the text alone. That the two agree is `Number.scan?_prefix`: the prefix a scan
consumed reads alone as the same number, with nothing left. It goes through the parts of a
literal one by one (sign, integer digits, fraction, exponent), each of which stops at the
first character that cannot extend it.
-/

set_option autoImplicit false

namespace JsonPath.Number

theorem digitsPrefix_split (cs : List Char) :
    (∀ c ∈ (digitsPrefix cs).1, c.isDigit = true) ∧
      (∀ c ∈ (digitsPrefix cs).2.head?, c.isDigit = false) ∧
      cs = (digitsPrefix cs).1 ++ (digitsPrefix cs).2 := by
  refine ⟨fun c hc => ?_, fun c hc => ?_, (List.takeWhile_append_dropWhile ..).symm⟩
  · exact List.all_eq_true.1 List.all_takeWhile c hc
  · have hp := List.head?_dropWhile_not Char.isDigit cs
    rw [Option.mem_def] at hc
    simp only [digitsPrefix] at hc
    rw [hc] at hp
    simpa using hp

/-- The sign of an exponent, and the text after it. -/
def exponentSign (rest : List Char) : Bool × List Char :=
  match rest with
  | '-' :: b => (true, b)
  | '+' :: b => (false, b)
  | b => (false, b)

theorem exponentPart_cons (e : Char) (rest : List Char) :
    exponentPart (e :: rest) =
      if e = 'e' ∨ e = 'E' then
        if (digitsPrefix (exponentSign rest).2).1.isEmpty then (none, e :: rest)
        else (some (if (exponentSign rest).1 then -(digitsValue (digitsPrefix (exponentSign rest).2).1 : Int)
            else digitsValue (digitsPrefix (exponentSign rest).2).1),
          (digitsPrefix (exponentSign rest).2).2)
      else (none, e :: rest) := rfl


theorem exponentSign_split (rest : List Char) :
    ∃ sgn, rest = sgn ++ (exponentSign rest).2 ∧
      ∀ d ds, d.isDigit = true → exponentSign (sgn ++ d :: ds) = ((exponentSign rest).1, d :: ds) := by
  unfold exponentSign
  split
  · exact ⟨['-'], rfl, fun _ _ _ => rfl⟩
  · exact ⟨['+'], rfl, fun _ _ _ => rfl⟩
  · refine ⟨[], rfl, fun d ds hd => ?_⟩
    have hm : d ≠ '-' := by rintro rfl; simp at hd
    have hp : d ≠ '+' := by rintro rfl; simp at hd
    split
    · rename_i h; simp at h; exact absurd h.1 hm
    · rename_i h; simp at h; exact absurd h.1 hp
    · rfl

theorem fractionPart_cases (t : List Char) :
    fractionPart t = (none, t) ∨
      ∃ d ds after, d.isDigit = true ∧ (∀ c ∈ ds, c.isDigit = true) ∧
        (∀ c ∈ after.head?, c.isDigit = false) ∧ t = '.' :: d :: (ds ++ after) ∧
        fractionPart t = (some (d :: ds), after) := by
  unfold fractionPart
  split
  · rename_i d rest
    split
    · rename_i hd
      obtain ⟨hds, haft, hsplit⟩ := digitsPrefix_split rest
      refine .inr ⟨d, _, _, hd, hds, haft, by rw [← hsplit], rfl⟩
    · exact .inl rfl
  · exact .inl rfl

theorem exponentPart_cases (t : List Char) :
    exponentPart t = (none, t) ∨
      ∃ E ex after, t = E ++ after ∧ exponentPart t = (some ex, after) ∧
        exponentPart E = (some ex, []) ∧ (∀ c ∈ after.head?, c.isDigit = false) ∧
        ∃ c rest, E = c :: rest ∧ (c = 'e' ∨ c = 'E') := by
  cases t with
  | nil => exact .inl rfl
  | cons e rest =>
    rw [exponentPart_cons]
    by_cases he : e = 'e' ∨ e = 'E'
    · rw [if_pos he]
      obtain ⟨sgn, hrest, hsign⟩ := exponentSign_split rest
      obtain ⟨hds, haft, hsplit⟩ := digitsPrefix_split (exponentSign rest).2
      cases hne : (digitsPrefix (exponentSign rest).2).1 with
      | nil => exact .inl (by simp)
      | cons d ds =>
        rw [hne] at hds hsplit
        generalize hafter : (digitsPrefix (exponentSign rest).2).2 = after at haft hsplit ⊢
        rw [hsplit] at hrest
        refine .inr ⟨e :: sgn ++ d :: ds,
          if (exponentSign rest).1 then -(digitsValue (d :: ds) : Int) else digitsValue (d :: ds),
          after, by rw [hrest]; simp, by simp, ?_, haft, e, _, rfl, he⟩
        have hdigits := digitsPrefix_digits (d :: ds) [] hds (by simp)
        rw [List.append_nil] at hdigits
        rw [List.cons_append, exponentPart_cons, if_pos he, hsign d ds (hds d List.mem_cons_self)]
        simp [hdigits]
    · rw [if_neg he]
      exact .inl rfl


/-- The sign of a number literal, and the text after it. -/
def numberSign (cs : List Char) : Bool × List Char :=
  match cs with
  | '-' :: b => (true, b)
  | b => (false, b)

/-- The integer digits of a number literal: `0`, or digits not starting with `0`. -/
def wholePart (body : List Char) : Option (List Char × List Char) :=
  match body with
  | '0' :: rest => some (['0'], rest)
  | d :: rest => if d.isDigit then some (digitsPrefix (d :: rest)) else none
  | [] => none

theorem scan?_eq (cs : List Char) :
    scan? cs = (wholePart (numberSign cs).2).map fun p =>
      (numberOfParts (numberSign cs).1 p.1 (fractionPart p.2).1
        (exponentPart (fractionPart p.2).2).1, (exponentPart (fractionPart p.2).2).2) := rfl

theorem numberSign_split (cs : List Char) :
    cs = (if (numberSign cs).1 then ['-'] else []) ++ (numberSign cs).2 := by
  unfold numberSign
  split <;> rfl

theorem wholePart_eq_some {body w tail : List Char} (h : wholePart body = some (w, tail)) :
    body = w ++ tail ∧ (w = ['0'] ∨ ∃ c cs, w = c :: cs ∧ c ≠ '0') ∧
      ∀ c ∈ w, c.isDigit = true := by
  unfold wholePart at h
  split at h
  · cases h
    exact ⟨rfl, .inl rfl, by simp⟩
  · rename_i d rest hzero
    split at h
    · rename_i hd
      cases h
      obtain ⟨hds, -, hsplit⟩ := digitsPrefix_split (d :: rest)
      refine ⟨hsplit, .inr ⟨d, rest.takeWhile Char.isDigit, ?_, ?_⟩, hds⟩
      · simp [hd]
      · rintro rfl
        simp at hzero
    · cases h
  · cases h


/-- What a number literal reads after its integer digits, a fraction and an exponent, read
alone: the same parts, with nothing left. -/
theorem partsText_split (tail : List Char) :
    ∃ T, tail = T ++ (exponentPart (fractionPart tail).2).2 ∧
      (∀ c ∈ T.head?, c.isDigit = false) ∧ (fractionPart T).1 = (fractionPart tail).1 ∧
      exponentPart (fractionPart T).2 = ((exponentPart (fractionPart tail).2).1, []) := by
  rcases fractionPart_cases tail with hf | ⟨d, ds, t1, hd, hds, ht1, htail, hf⟩
  · -- no fraction
    rw [hf]
    rcases exponentPart_cases tail with he | ⟨E, ex, after, hsplit, he, hE, -, c, rest, rfl, hc⟩
    · exact ⟨[], by rw [he]; rfl, by simp, rfl, by rw [he]; rfl⟩
    · have hcd : c.isDigit = false := by rcases hc with rfl | rfl <;> rfl
      have hfE : fractionPart (c :: rest) = (none, c :: rest) := by
        rcases fractionPart_cases (c :: rest) with h | ⟨_, _, _, _, _, _, h, -⟩
        · exact h
        · rcases hc with rfl | rfl <;> simp at h
      refine ⟨c :: rest, by rw [he, hsplit], by simpa using hcd, by rw [hfE], ?_⟩
      rw [hfE, hE, he]
  · -- a fraction, then perhaps an exponent
    rw [hf]
    have hpoint : ∀ E, (∀ c ∈ E.head?, c.isDigit = false) →
        fractionPart ('.' :: d :: (ds ++ E)) = (some (d :: ds), E) := fun E hE =>
      fractionPart_point (d :: ds) E (List.cons_ne_nil _ _)
        (fun c hc => by rcases List.mem_cons.1 hc with rfl | hc; exacts [hd, hds c hc]) hE
    rcases exponentPart_cases t1 with he | ⟨E, ex, after, hsplit, he, hE, -, c, rest, rfl, hc⟩
    · refine ⟨'.' :: d :: ds, by rw [he, htail]; simp, by simp, ?_, ?_⟩
      · rw [show '.' :: d :: ds = '.' :: d :: (ds ++ []) by simp, hpoint [] (by simp)]
      · rw [show '.' :: d :: ds = '.' :: d :: (ds ++ []) by simp, hpoint [] (by simp), he]
        rfl
    · have hcd : ∀ x ∈ (c :: rest).head?, x.isDigit = false := by
        intro x hx
        simp only [List.head?_cons, Option.mem_def, Option.some.injEq] at hx
        subst hx
        rcases hc with rfl | rfl <;> rfl
      refine ⟨'.' :: d :: (ds ++ c :: rest), by rw [he, htail, hsplit]; simp, by simp, ?_, ?_⟩
      · rw [hpoint _ hcd]
      · rw [hpoint _ hcd, hE, he]

/-- The text a number literal is read from reads alone as the same number, with nothing
left. -/
theorem scan?_prefix {cs after : List Char} {v : Number} (h : scan? cs = some (v, after)) :
    ∃ pre, cs = pre ++ after ∧ scan? pre = some (v, []) := by
  rw [scan?_eq] at h
  cases hw : wholePart (numberSign cs).2 with
  | none =>
    rw [hw] at h
    cases h
  | some p =>
    obtain ⟨w, tail⟩ := p
    rw [hw] at h
    simp only [Option.map_some, Option.some.injEq, Prod.mk.injEq] at h
    obtain ⟨hv, hafter⟩ := h
    obtain ⟨hbody, hshape, hdig⟩ := wholePart_eq_some hw
    obtain ⟨T, htail, hT, hfT, heT⟩ := partsText_split tail
    refine ⟨(if (numberSign cs).1 then ['-'] else []) ++ (w ++ T), ?_, ?_⟩
    · conv_lhs => rw [numberSign_split cs, hbody, htail]
      rw [hafter]
      simp
    · rw [scan?_parts _ w T hshape hdig hT, hfT, heT, ← hv]

end JsonPath.Number

namespace JsonPath.Syntax

/-- A literal token carries a value of its kind: a string literal a string, an integer
literal an integer, a number literal a binary64 number. -/
def Token.Valued (t : Token) : Prop :=
  (t.kind = .string → ∃ s, t.value = some (.str s)) ∧
    (t.kind = .integer → ∃ n, t.value = some (.num (.int n))) ∧
    (t.kind = .float → ∃ x, t.value = some (.num (.float x)))

/-- Tokens each carrying a value of its kind. -/
def TokensValued (ts : Array Token) : Prop := ∀ t ∈ ts, t.Valued

/-- The text of a number token read alone is a number of the token's kind. -/
def NumberText (kind : TokenKind) (text : List Char) : Prop :=
  (kind = .integer → ∃ i, Number.scan? text = some (.int i, [])) ∧
    (kind = .float → ∃ x, Number.scan? text = some (.float x, []))

theorem lexeme?_numberText {cs : List Char} {kind : TokenKind} {n : Nat}
    (h : lexeme? cs = some (kind, n)) : NumberText kind (cs.take n) := by
  match cs, h with
  | c :: rest, h =>
    unfold lexeme? at h
    dsimp only at h
    split at h
    · -- a string literal
      obtain ⟨_, -, h⟩ := Option.map_eq_some_iff.1 h
      cases h
      exact ⟨nofun, nofun⟩
    split at h
    · -- an integer literal
      rename_i i after hscan
      cases h
      obtain ⟨pre, hcs, hpre⟩ := Number.scan?_prefix hscan
      have htake : (c :: rest).take ((c :: rest).length - after.length) = pre := by
        rw [hcs, List.length_append, Nat.add_sub_cancel, List.take_left]
      rw [htake]
      exact ⟨fun _ => ⟨i, hpre⟩, nofun⟩
    · -- a binary64 literal
      rename_i x after hscan
      cases h
      obtain ⟨pre, hcs, hpre⟩ := Number.scan?_prefix hscan
      have htake : (c :: rest).take ((c :: rest).length - after.length) = pre := by
        rw [hcs, List.length_append, Nat.add_sub_cancel, List.take_left]
      rw [htake]
      exact ⟨nofun, fun _ => ⟨x, hpre⟩⟩
    split at h
    · cases h
      exact ⟨nofun, nofun⟩
    · -- a punctuation mark
      obtain ⟨l1, ⟨text, k⟩, l2, hsplit, ha, -⟩ := List.findSome?_eq_some_iff.1 h
      have hmem : (text, k) ∈ punctuation := by simp [hsplit]
      split_ifs at ha
      cases ha
      have hnum : ∀ p ∈ punctuation, p.2 ≠ .integer ∧ p.2 ≠ .float := by decide
      exact ⟨fun h => absurd h (hnum _ hmem).1, fun h => absurd h (hnum _ hmem).2⟩


theorem scan_numberText {cs : List Char} {offset : Nat} {acc out : List (TokenKind × String × Span)}
    (h : scan cs offset acc = .ok out) (hacc : ∀ r ∈ acc, NumberText r.1 r.2.1.toList) :
    ∀ r ∈ out, NumberText r.1 r.2.1.toList :=
  scan_forall (fun _ hl => by simpa using lexeme?_numberText hl) h hacc

theorem tokenValue_valued {kind : TokenKind} {text : String} {span : Span} {v : Option Value}
    (h : tokenValue kind text span = .ok v) (hn : NumberText kind text.toList) :
    Token.Valued ⟨kind, text, span, v⟩ := by
  cases kind with
  | string =>
    simp only [tokenValue] at h
    split at h
    · cases h
      exact ⟨fun _ => ⟨_, rfl⟩, nofun, nofun⟩
    · cases h
  | integer =>
    obtain ⟨i, hi⟩ := hn.1 rfl
    simp only [tokenValue, hi] at h
    split_ifs at h
    cases h
    exact ⟨nofun, fun _ => ⟨i, rfl⟩, nofun⟩
  | float =>
    obtain ⟨x, hx⟩ := hn.2 rfl
    simp only [tokenValue, hx] at h
    split_ifs at h
    cases h
    exact ⟨nofun, nofun, fun _ => ⟨x, rfl⟩⟩
  | _ => exact ⟨nofun, nofun, nofun⟩

/-- Every token the lexer produces carries a value of its kind. -/
theorem tokenize_valued {source : String} {tokens : List Token}
    (h : tokenize source = .ok tokens) : TokensValued tokens.toArray := by
  unfold tokenize at h
  obtain ⟨raw, hraw, h1⟩ := bind_eq_ok.1 h
  obtain ⟨toks, htoks, h2⟩ := bind_eq_ok.1 h1
  cases h2
  have hnum := scan_numberText hraw (by simp)
  have hval := mapM_except_mem htoks (P := Token.Valued) fun r hr t ht => by
    obtain ⟨kind, text, span⟩ := r
    obtain ⟨v, hv, ht'⟩ := bind_eq_ok.1 ht
    cases ht'
    exact tokenValue_valued hv (hnum _ hr)
  intro t ht
  simp only [List.mem_toArray, List.mem_append, List.mem_singleton] at ht
  rcases ht with ht | rfl
  · exact hval t ht
  · simp [Token.Valued]

end JsonPath.Syntax
