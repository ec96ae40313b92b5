import JsonPath.Proofs.LiteralText
import JsonPath.Proofs.TokenPartition
import Mathlib.Data.List.TakeWhile
import Mathlib.Tactic.IntervalCases

/-!
# Escapes of string literals

A string literal quoted by `q` may write each character of its value in several ways
(`WritesChar`): as itself when it is no control character, quote or backslash; as the quote
or one of `\b`, `\f`, `\n`, `\r`, `\t`, `\/`, `\\` after a backslash; as `\u` and four
hexadecimal digits of either case below U+10000; and from U+10000 on as the two `\u` escapes
of its surrogates. Whatever the choice for each character, a text that is such a literal is
one string token whose value is the characters written (`tokenize_writes`); the quoted form
of a name is one of the choices (`writes_escapeName`).

Decoding stops at the first place where the body does not go on in one of these ways
(`Fault`): a backslash before a character that starts no escape, a raw control character,
`\u` without four hexadecimal digits, the escape of a low surrogate, or the escape of a high
surrogate without that of a low one after it. The code after the second `\u` is read as an
integer in base 16 (`lowSurrogateCode?`), which takes more than hexadecimal digits: the body
`\uD800\uDC٠٠` reads as U+10000 (`tokenize_low_surrogate_decimal_digits`).

The body of a literal goes in units, a backslash with the character after it or one
character alone (`QuotedBody`), and the decoder keeps to them, so it never meets a backslash
that ends the body: a literal fails to decode exactly when the decoder reaches one of the
faults (`decodeBody_eq_error_iff`), and the text then fails with the literal's span.
-/

set_option autoImplicit false

namespace JsonPath.Syntax

/-! ## Hexadecimal digits -/

/-- The hexadecimal digit `d` stands for `v`: a decimal digit, or a letter from `a` to `f` in
either case. -/
def IsHexDigitOf (d : Char) (v : Nat) : Prop :=
  v < 16 ∧ (d = v.digitChar ∨ d = v.digitChar.toUpper)

instance (d : Char) (v : Nat) : Decidable (IsHexDigitOf d v) :=
  inferInstanceAs (Decidable (v < 16 ∧ _))

/-- Four hexadecimal digits, the most significant first, that spell `n`. -/
def SpellsHex (ds : List Char) (n : Nat) : Prop :=
  n < 0x10000 ∧ ∃ a b c d, ds = [a, b, c, d] ∧ IsHexDigitOf a (n / 0x1000) ∧
    IsHexDigitOf b (n / 0x100 % 0x10) ∧ IsHexDigitOf c (n / 0x10 % 0x10) ∧
    IsHexDigitOf d (n % 0x10)

/-- Four hexadecimal digits that spell `n` start `cs`. -/
def HexFront (cs : List Char) (n : Nat) : Prop := ∃ ds rest, cs = ds ++ rest ∧ SpellsHex ds n

/-- What the readers of a literal see of a hexadecimal digit: its value for the decoder and
for the reading of an integer, and an ASCII character with no other part to play there. -/
structure HexDigitFacts (d : Char) (v : Nat) : Prop where
  hexValue : Json.hexValue d = some v
  digitValue : Text.digitValue? d = some v
  asciiForm : Text.asciiDigitForm d = d
  not_blank : Text.isAsciiBlank d = false
  plain : d ≠ '\\' ∧ d ≠ '\'' ∧ d ≠ '"' ∧ d ≠ '-' ∧ d ≠ '+' ∧ d ≠ '_' ∧ d ≠ 'x' ∧ d ≠ 'X'
  printable : 0x20 ≤ d.toNat

theorem IsHexDigitOf.facts {d : Char} {v : Nat} (h : IsHexDigitOf d v) : HexDigitFacts d v := by
  obtain ⟨hv, rfl | rfl⟩ := h <;> interval_cases v <;>
    exact ⟨by decide, by decide, by decide, by decide, by decide, by decide⟩

/-- Every code point below `0x80` that the decoder takes for a hexadecimal digit is one. -/
theorem hexValue_below_0x80 :
    (List.range 0x80).all (fun n => match Json.hexValue (Char.ofNat n) with
      | some v => decide (IsHexDigitOf (Char.ofNat n) v)
      | none => true) = true := by
  decide

theorem hexValue_lt {d : Char} {v : Nat} (h : Json.hexValue d = some v) : d.toNat < 0x80 := by
  unfold Json.hexValue at h
  split_ifs at h with h1 h2 h3 <;> simp only [Char.le_def, UInt32.le_iff_toNat_le] at * <;>
    simp at * <;> omega

theorem isHexDigitOf_of_hexValue {d : Char} {v : Nat} (h : Json.hexValue d = some v) :
    IsHexDigitOf d v := by
  have hall := List.all_eq_true.1 hexValue_below_0x80 d.toNat (List.mem_range.2 (hexValue_lt h))
  rw [Char.ofNat_toNat, h] at hall
  exact of_decide_eq_true hall

/-- A text whose second character is no `x` has no prefix to drop. -/
theorem dropHexPrefix_of_ne {c d : Char} (hd : d ≠ 'x' ∧ d ≠ 'X') (ds : List Char) :
    Text.dropHexPrefix (c :: d :: ds) = c :: d :: ds := by
  unfold Text.dropHexPrefix
  split <;> simp_all

namespace SpellsHex

theorem length {ds : List Char} {n : Nat} (h : SpellsHex ds n) : ds.length = 4 := by
  obtain ⟨-, a, b, c, d, rfl, -⟩ := h
  rfl

theorem facts {ds : List Char} {n : Nat} (h : SpellsHex ds n) :
    ∀ d ∈ ds, ∃ v, HexDigitFacts d v := by
  obtain ⟨-, a, b, c, d, rfl, ha, hb, hc, hd⟩ := h
  simp only [List.mem_cons, List.not_mem_nil, or_false]
  rintro x (rfl | rfl | rfl | rfl)
  exacts [⟨_, ha.facts⟩, ⟨_, hb.facts⟩, ⟨_, hc.facts⟩, ⟨_, hd.facts⟩]

theorem ne_backslash {ds : List Char} {n : Nat} (h : SpellsHex ds n) : ∀ d ∈ ds, d ≠ '\\' := by
  intro d hd
  obtain ⟨v, hf⟩ := h.facts d hd
  exact hf.plain.1

/-- The decoder reads four digits as the number they spell. -/
theorem hex4 {ds : List Char} {n : Nat} (h : SpellsHex ds n) (rest : List Char) :
    Json.hex4 (ds ++ rest) = some n := by
  obtain ⟨hn, a, b, c, d, rfl, ha, hb, hc, hd⟩ := h
  simp only [List.cons_append, List.nil_append, Json.hex4, ha.facts.hexValue, hb.facts.hexValue,
    hc.facts.hexValue, hd.facts.hexValue, Option.some.injEq]
  omega

/-- The reading of an integer in base 16 reads four digits as the number they spell. -/
theorem integerIn {ds : List Char} {n : Nat} (h : SpellsHex ds n) :
    Text.integerIn? 16 (String.ofList ds) = some (n : Int) := by
  obtain ⟨hn, a, b, c, d, rfl, ha, hb, hc, hd⟩ := h
  have fa := ha.facts
  have fb := hb.facts
  have fc := hc.facts
  have fd := hd.facts
  have htrim : ((([a, b, c, d].dropWhile Text.isAsciiBlank).reverse.dropWhile
      Text.isAsciiBlank).reverse) = [a, b, c, d] := by
    simp [fa.not_blank, fd.not_blank]
  have hcut : Text.dropHexPrefix [a, b, c, d] = [a, b, c, d] :=
    dropHexPrefix_of_ne ⟨fb.plain.2.2.2.2.2.2.1, fb.plain.2.2.2.2.2.2.2⟩ [c, d]
  have hsplit : [a, b, c, d].splitOn '_' = [[a, b, c, d]] := by
    rw [List.splitOn_eq_splitOnP]
    apply List.splitOnP_eq_singleton
    simp [fa.plain, fb.plain, fc.plain, fd.plain]
  have hdigits : Text.unsignedIn? 16 [a, b, c, d] = some n := by
    simp [Text.unsignedIn?, hcut, Text.underscoredValue, hsplit, fa.plain, fb.plain, fc.plain,
      fd.plain, fa.digitValue, fb.digitValue, fc.digitValue, fd.digitValue, ha.1, hb.1, hc.1,
      hd.1]
    omega
  simp only [Text.integerIn?, String.toList_ofList, List.map_cons, List.map_nil, fa.asciiForm,
    fb.asciiForm, fc.asciiForm, fd.asciiForm, htrim]
  split
  · exact absurd (List.cons.inj ‹_›).1 fa.plain.2.2.2.1
  · exact absurd (List.cons.inj ‹_›).1 fa.plain.2.2.2.2.1
  · simp [hdigits]

theorem lowSurrogateCode {ds : List Char} {n : Nat} (h : SpellsHex ds n) (rest : List Char) :
    lowSurrogateCode? (ds ++ rest) = some (n : Int) := by
  simp only [lowSurrogateCode?, List.take_left' h.length, h.length, if_true, h.integerIn]

end SpellsHex

/-- Four characters the decoder reads as hexadecimal digits are four such digits. -/
theorem hexFront_of_hex4 {cs : List Char} {n : Nat} (h : Json.hex4 cs = some n) :
    HexFront cs n := by
  match cs, h with
  | a :: b :: c :: d :: rest, h =>
    simp only [Json.hex4] at h
    cases ha : Json.hexValue a <;> cases hb : Json.hexValue b <;> cases hc : Json.hexValue c <;>
      cases hd : Json.hexValue d <;> simp only [ha, hb, hc, hd, reduceCtorEq] at h
    rename_i va vb vc vd
    have ia := isHexDigitOf_of_hexValue ha
    have ib := isHexDigitOf_of_hexValue hb
    have ic := isHexDigitOf_of_hexValue hc
    have id := isHexDigitOf_of_hexValue hd
    obtain rfl := Option.some.inj h
    have := ia.1
    have := ib.1
    have := ic.1
    have := id.1
    have h1 : (((va * 16 + vb) * 16 + vc) * 16 + vd) / 0x1000 = va := by omega
    have h2 : (((va * 16 + vb) * 16 + vc) * 16 + vd) / 0x100 % 0x10 = vb := by omega
    have h3 : (((va * 16 + vb) * 16 + vc) * 16 + vd) / 0x10 % 0x10 = vc := by omega
    have h4 : (((va * 16 + vb) * 16 + vc) * 16 + vd) % 0x10 = vd := by omega
    refine ⟨[a, b, c, d], rest, rfl, by omega, a, b, c, d, rfl, ?_, ?_, ?_, ?_⟩
    · rwa [h1]
    · rwa [h2]
    · rwa [h3]
    · rwa [h4]

/-! ## Ways of writing a character -/

/-- A character that may delimit a string literal. -/
def IsQuote (q : Char) : Prop := q = '\'' ∨ q = '"'

/-- The two-character escapes besides that of the quote: the character after the backslash,
and the character it stands for. -/
def shortEscapes : List (Char × Char) :=
  [('b', '\x08'), ('f', '\x0c'), ('n', '\n'), ('r', '\r'), ('t', '\t'), ('/', '/'), ('\\', '\\')]

/-- The high surrogate of a character from U+10000 on, written first. -/
def highSurrogate (c : Char) : Nat := 0xD800 + (c.toNat - 0x10000) / 0x400

/-- The low surrogate of a character from U+10000 on, written second. -/
def lowSurrogate (c : Char) : Nat := 0xDC00 + (c.toNat - 0x10000) % 0x400

/-- The ways a literal quoted by `q` may write the character `c`. -/
inductive WritesChar (q : Char) : Char → List Char → Prop
  /-- The character itself, when it is no control character, no quote and no backslash. -/
  | plain {c : Char} : 0x20 ≤ c.toNat → c ≠ q → c ≠ '\\' → WritesChar q c [c]
  /-- The quote after a backslash. -/
  | quote : WritesChar q q ['\\', q]
  /-- A backslash and the letter of a two-character escape. -/
  | short {e c : Char} : (e, c) ∈ shortEscapes → WritesChar q c ['\\', e]
  /-- `\u` and four hexadecimal digits, below U+10000. -/
  | unicode {c : Char} {ds : List Char} : SpellsHex ds c.toNat → WritesChar q c ('\\' :: 'u' :: ds)
  /-- The `\u` escapes of the two surrogates, from U+10000 on. -/
  | pair {c : Char} {hs ls : List Char} : 0x10000 ≤ c.toNat → SpellsHex hs (highSurrogate c) →
      SpellsHex ls (lowSurrogate c) → WritesChar q c ('\\' :: 'u' :: (hs ++ '\\' :: 'u' :: ls))

/-- A body that writes the characters `x` one after the other, each in one of its ways. -/
inductive Writes (q : Char) : List Char → List Char → Prop
  | nil : Writes q [] []
  | cons {c : Char} {e x body : List Char} : WritesChar q c e → Writes q x body →
      Writes q (c :: x) (e ++ body)

theorem IsQuote.ne_backslash {q : Char} (hq : IsQuote q) : q ≠ '\\' := by
  rcases hq with rfl | rfl <;> decide

theorem IsQuote.ne_u {q : Char} (hq : IsQuote q) : q ≠ 'u' := by
  rcases hq with rfl | rfl <;> decide

theorem codePoint_valid (c : Char) : c.toNat < 0xD800 ∨ (0xDFFF < c.toNat ∧ c.toNat < 0x110000) :=
  c.valid

theorem literalEscape_short {q e c : Char} (hq : IsQuote q) (h : (e, c) ∈ shortEscapes) :
    e ≠ 'u' ∧ literalEscape q e = some c := by
  simp only [shortEscapes, List.mem_cons, Prod.mk.injEq, List.not_mem_nil, or_false] at h
  rcases hq with rfl | rfl <;>
    rcases h with ⟨rfl, rfl⟩ | ⟨rfl, rfl⟩ | ⟨rfl, rfl⟩ | ⟨rfl, rfl⟩ | ⟨rfl, rfl⟩ | ⟨rfl, rfl⟩ |
      ⟨rfl, rfl⟩ <;> decide

/-! ## Decoding what is written -/

theorem decodeBody_plain {q c : Char} (hc : c ≠ '\\') (rest : List Char) :
    decodeBody q (c :: rest) =
      if c.toNat < 0x20 then .error .invalidCharacter else (decodeBody q rest).map (c :: ·) :=
  decodeBody.eq_5 q c rest (fun _ h => absurd h hc) (fun _ _ h => absurd h hc) (fun h => absurd h hc)

/-- A character below U+10000 written as four digits takes them and nothing more. -/
theorem unicodeEscape_single {c : Char} {ds : List Char} (h : SpellsHex ds c.toNat)
    (rest : List Char) : unicodeEscape (ds ++ rest) = .ok (c, 4) := by
  have hc := codePoint_valid c
  have hlt := h.1
  have hlo : ¬ (0xDC00 ≤ c.toNat ∧ c.toNat ≤ 0xDFFF) := by omega
  have hhi : ¬ (0xD800 ≤ c.toNat ∧ c.toNat ≤ 0xDBFF) := by omega
  simp only [unicodeEscape, h.hex4, if_neg hlo, if_neg hhi, Char.ofNat_toNat]

/-- A character from U+10000 on written as its two surrogates takes both escapes. -/
theorem unicodeEscape_pair {c : Char} {hs ls : List Char} (hc : 0x10000 ≤ c.toNat)
    (hh : SpellsHex hs (highSurrogate c)) (hl : SpellsHex ls (lowSurrogate c)) (rest : List Char) :
    unicodeEscape (hs ++ '\\' :: 'u' :: (ls ++ rest)) = .ok (c, 10) := by
  have hv := codePoint_valid c
  have hlo : ¬ (0xDC00 ≤ highSurrogate c ∧ highSurrogate c ≤ 0xDFFF) := by
    unfold highSurrogate; omega
  have hhi : 0xD800 ≤ highSurrogate c ∧ highSurrogate c ≤ 0xDBFF := by
    unfold highSurrogate; omega
  have hrange : (0xDC00 : Int) ≤ (lowSurrogate c : Int) ∧ (lowSurrogate c : Int) ≤ 0xDFFF := by
    unfold lowSurrogate; omega
  have hcode : 0x10000 + (highSurrogate c - 0xD800) * 0x400 +
      ((lowSurrogate c : Int).toNat - 0xDC00) = c.toNat := by
    unfold highSurrogate lowSurrogate; omega
  simp only [unicodeEscape, hh.hex4, if_neg hlo, if_pos hhi, List.drop_left' hh.length,
    hl.lowSurrogateCode, if_pos hrange, hcode, Char.ofNat_toNat]

theorem WritesChar.decodeBody_append {q c : Char} {e : List Char} (hq : IsQuote q) (h : WritesChar q c e)
    (rest : List Char) : decodeBody q (e ++ rest) = (decodeBody q rest).map (c :: ·) := by
  cases h with
  | plain hc _ hcb =>
    rw [List.singleton_append, decodeBody_plain hcb, if_neg (by omega)]
  | quote =>
    rw [List.cons_append, List.cons_append, List.nil_append, decodeBody.eq_3 _ _ _ hq.ne_u]
    simp [literalEscape]
  | short he =>
    obtain ⟨hu, hlit⟩ := literalEscape_short hq he
    rw [List.cons_append, List.cons_append, List.nil_append, decodeBody.eq_3 _ _ _ hu, hlit]
  | unicode hd =>
    rw [List.cons_append, List.cons_append, decodeBody.eq_2, unicodeEscape_single hd]
    simp only [List.drop_left' hd.length]
  | @pair _ hs ls hc hh hl =>
    rw [List.cons_append, List.cons_append, List.append_assoc, List.cons_append, List.cons_append,
      decodeBody.eq_2, unicodeEscape_pair hc hh hl]
    have hlen : (hs ++ '\\' :: 'u' :: ls).length = 10 := by simp [hh.length, hl.length]
    simp only [← List.cons_append, ← List.append_assoc, List.drop_left' hlen]

/-- Decoding a body that writes `x` gives `x`, whatever follows. -/
theorem Writes.decodeBody_append {q : Char} {x body : List Char} (hq : IsQuote q) (h : Writes q x body)
    (rest : List Char) : decodeBody q (body ++ rest) = (decodeBody q rest).map (x ++ ·) := by
  induction h with
  | nil =>
    rw [List.nil_append]
    cases decodeBody q rest <;> rfl
  | cons hc _ ih =>
    rw [List.append_assoc, hc.decodeBody_append hq, ih]
    cases decodeBody q rest <;> rfl

/-! ## The units of a body -/

theorem QuotedBody.append {q : Char} {a b : List Char} (ha : QuotedBody q a)
    (hb : QuotedBody q b) : QuotedBody q (a ++ b) := by
  induction ha with
  | nil => exact hb
  | plain hcq hcb _ ih => exact .plain hcq hcb ih
  | escape _ ih => exact .escape ih

/-- Characters that are neither the quote nor a backslash are units of their own. -/
theorem QuotedBody.plains {q : Char} {ds rest : List Char} (hds : ∀ d ∈ ds, d ≠ q ∧ d ≠ '\\')
    (hb : QuotedBody q rest) : QuotedBody q (ds ++ rest) := by
  induction ds with
  | nil => exact hb
  | cons d ds ih =>
    obtain ⟨hq, hbs⟩ := hds d (by simp)
    exact .plain hq hbs (ih fun x hx => hds x (by simp [hx]))

theorem SpellsHex.plains {q : Char} (hq : IsQuote q) {ds : List Char} {n : Nat}
    (h : SpellsHex ds n) : ∀ d ∈ ds, d ≠ q ∧ d ≠ '\\' := by
  intro d hd
  obtain ⟨v, hf⟩ := h.facts d hd
  refine ⟨?_, hf.plain.1⟩
  rcases hq with rfl | rfl
  exacts [hf.plain.2.1, hf.plain.2.2.1]

theorem WritesChar.quotedBody {q c : Char} {e : List Char} (hq : IsQuote q) (h : WritesChar q c e) :
    QuotedBody q e := by
  cases h with
  | plain _ hcq hcb => exact .plain hcq hcb .nil
  | quote => exact .escape .nil
  | short _ => exact .escape .nil
  | unicode hd => exact .escape (by simpa using QuotedBody.plains (hd.plains hq) (.nil : QuotedBody q []))
  | @pair _ hs ls _ hh hl =>
    have hls : QuotedBody q ls := by simpa using QuotedBody.plains (hl.plains hq) (.nil : QuotedBody q [])
    exact .escape (.plains (hh.plains hq) (.escape hls))

theorem Writes.quotedBody {q : Char} {x body : List Char} (hq : IsQuote q) (h : Writes q x body) :
    QuotedBody q body := by
  induction h with
  | nil => exact .nil
  | cons hc _ ih => exact (hc.quotedBody hq).append ih

/-! ## A text that is one literal -/

/-- The text of a string literal quoted by `q` around `body`. -/
def quotedText (q : Char) (body : List Char) : String := String.ofList (q :: (body ++ [q]))

/-- The tokens of a text that is one string literal with the value `x`: the literal over the
whole text, then the end of the input. -/
def literalTokens (text x : String) : List Token :=
  [{ kind := .string, text, span := ⟨0, text.length⟩, value := some (.str x) },
   { kind := .eoi, text := "", span := ⟨text.length, text.length⟩, value := none }]

theorem quotedText_toList (q : Char) (body : List Char) :
    (quotedText q body).toList = q :: (body ++ [q]) := by
  simp [quotedText]

theorem quotedText_length (q : Char) (body : List Char) :
    (quotedText q body).length = body.length + 2 := by
  simp [quotedText]
  omega

theorem decodeLiteral_quotedText (q : Char) (body : List Char) :
    decodeLiteral (quotedText q body) = (decodeBody q body).map String.ofList := by
  simp [decodeLiteral, quotedText_toList]

/-- A text that is one string literal is one raw token. -/
theorem scan_quotedText {q : Char} (hq : IsQuote q) {body : List Char} (hb : QuotedBody q body) :
    scan (quotedText q body).toList 0 [] =
      .ok [(.string, quotedText q body, ⟨0, body.length + 2⟩)] := by
  have hlex : lexeme? (q :: (body ++ [q])) = some (.string, body.length + 2) := by
    rw [lexeme?, if_pos (show q = '\'' ∨ q = '"' from hq), quotedLength_body hq.ne_backslash hb]
    simp only [Option.map_some]
    congr 2
    omega
  rw [quotedText_toList, scan_cons_of_lexeme? hlex (by omega)]
  have hdrop : (q :: (body ++ [q])).drop (body.length + 2) = [] := by simp
  have htake : (q :: (body ++ [q])).take (body.length + 2) = q :: (body ++ [q]) :=
    List.take_of_length_le (by simp)
  simp only [hdrop, htake, List.takeWhile_nil, List.length_nil, List.drop_nil, scan, Nat.add_zero,
    Nat.zero_add, List.reverse_cons, List.reverse_nil, List.nil_append]
  rfl

/-- A text that is one string literal: the literal with the value of its body, and the end
of the input; or the failure to decode the body, over the whole literal. -/
theorem tokenize_quotedText {q : Char} (hq : IsQuote q) {body : List Char}
    (hb : QuotedBody q body) :
    tokenize (quotedText q body) =
      match decodeBody q body with
      | .ok x => .ok (literalTokens (quotedText q body) (String.ofList x))
      | .error p => .error (.badLiteral p ⟨0, body.length + 2⟩) := by
  have hblank : (quotedText q body).toList.takeWhile isBlank = [] := by
    rw [quotedText_toList]
    rcases hq with rfl | rfl <;> rfl
  rw [tokenize_eq, hblank, List.length_nil, List.drop_zero, scan_quotedText hq hb]
  simp only [bind, Except.bind, List.mapM_cons, List.mapM_nil, decodeRaw, tokenValue,
    decodeLiteral_quotedText]
  cases decodeBody q body <;>
    simp [Except.map, pure, Except.pure, literalTokens, quotedText_length, quotedText_toList]

/-- Whatever way each character is written, a text that is one string literal is one token
whose value is the characters written. -/
theorem tokenize_writes {q : Char} (hq : IsQuote q) {x : String} {body : List Char}
    (h : Writes q x.toList body) :
    tokenize (quotedText q body) = .ok (literalTokens (quotedText q body) x) := by
  have hdec : decodeBody q body = .ok x.toList := by
    simpa [decodeBody.eq_1, Except.map] using h.decodeBody_append hq []
  rw [tokenize_quotedText hq (h.quotedBody hq), hdec]
  simp only [String.ofList_toList]

/-! ## The quoted form of a name -/

/-- The escape of a control character: two zeros, then its two hexadecimal digits. -/
theorem hexPadded_control_digits :
    (List.range 0x20).all (fun n => (Text.hexPadded 4 n).toList ==
      ['0', '0', (n / 16).digitChar, (n % 16).digitChar]) = true := by
  decide

theorem spellsHex_hexPadded {n : Nat} (hn : n < 0x20) :
    SpellsHex (Text.hexPadded 4 n).toList n := by
  have h := List.all_eq_true.1 hexPadded_control_digits n (List.mem_range.2 hn)
  rw [beq_iff_eq.1 h]
  refine ⟨by omega, _, _, _, _, rfl, ⟨by omega, .inl ?_⟩, ⟨by omega, .inl ?_⟩,
    ⟨by omega, .inl ?_⟩, ⟨by omega, .inl rfl⟩⟩
  · rw [show n / 0x1000 = 0 by omega]
    rfl
  · rw [show n / 0x100 % 0x10 = 0 by omega]
    rfl
  · rw [show n / 0x10 % 0x10 = n / 16 by omega]

theorem writesChar_escapeNameChar (c : Char) : WritesChar '\'' c (escapeNameChar c).toList := by
  unfold escapeNameChar
  split
  case h_1 => exact .short (by decide)
  case h_2 => exact .short (by decide)
  case h_3 => exact .short (by decide)
  case h_4 => exact .short (by decide)
  case h_5 => exact .short (by decide)
  case h_6 => exact .quote
  case h_7 => exact .short (by decide)
  case h_8 _ _ _ _ _ hq hb =>
    split
    case isTrue hc =>
      rw [String.toList_append]
      exact .unicode (spellsHex_hexPadded hc)
    case isFalse hc =>
      rw [Char.toString_eq_singleton, String.toList_singleton]
      exact .plain (by omega) hq hb

/-- The quoted form of a name writes each of its characters in one of its ways. -/
theorem writes_escapeName (s : String) : Writes '\'' s.toList (escapeName s).toList := by
  rw [escapeName_toList]
  induction s.toList with
  | nil => exact .nil
  | cons c cs ih =>
    rw [List.flatMap_cons]
    exact .cons (writesChar_escapeNameChar c) ih

theorem quotedText_escapeName (s : String) :
    quotedText '\'' (escapeName s).toList = "'" ++ escapeName s ++ "'" := by
  apply String.toList_injective
  simp [quotedText_toList]

/-! ## Where decoding stops -/

/-- The characters that may follow a backslash in a literal quoted by `q`. -/
def escapeLetters (q : Char) : List Char := q :: 'u' :: shortEscapes.map Prod.fst

/-- `\u` and four characters that, after a high surrogate, the decoder reads as the code of a
low surrogate. -/
def LowEscapeFront (cs : List Char) : Prop :=
  ∃ more lo, cs = '\\' :: 'u' :: more ∧ lowSurrogateCode? more = some lo ∧
    0xDC00 ≤ lo ∧ lo ≤ 0xDFFF

/-- A place in the body of a literal quoted by `q` where decoding stops, with the problem it
reports. -/
inductive Fault (q : Char) : List Char → LiteralProblem → Prop
  /-- A backslash before a character that starts no escape. -/
  | unknownEscape {c : Char} {rest : List Char} : c ∉ escapeLetters q →
      Fault q ('\\' :: c :: rest) .invalidEscape
  /-- A raw control character. -/
  | control {c : Char} {rest : List Char} : c.toNat < 0x20 →
      Fault q (c :: rest) .invalidCharacter
  /-- `\u` not followed by four hexadecimal digits. -/
  | notHex {rest : List Char} : (∀ n, ¬ HexFront rest n) →
      Fault q ('\\' :: 'u' :: rest) .invalidEscape
  /-- The escape of a low surrogate, with no high one before it. -/
  | lowFirst {ds rest : List Char} {n : Nat} : SpellsHex ds n → 0xDC00 ≤ n → n ≤ 0xDFFF →
      Fault q ('\\' :: 'u' :: (ds ++ rest)) .invalidEscape
  /-- The escape of a high surrogate without that of a low one after it. -/
  | loneHigh {ds rest : List Char} {n : Nat} : SpellsHex ds n → 0xD800 ≤ n → n ≤ 0xDBFF →
      ¬ LowEscapeFront rest → Fault q ('\\' :: 'u' :: (ds ++ rest)) .invalidEscape

theorem literalEscape_eq_none_iff {q c : Char} (hu : c ≠ 'u') :
    literalEscape q c = none ↔ c ∉ escapeLetters q := by
  unfold literalEscape escapeLetters
  split_ifs with hcq
  · simp [hcq]
  · split <;> simp_all [shortEscapes]

/-- The escape of a high surrogate without that of a low one after it is refused. -/
theorem unicodeEscape_high_of_not_low {ds rest : List Char} {n : Nat} (hd : SpellsHex ds n)
    (hhi : 0xD800 ≤ n ∧ n ≤ 0xDBFF) (hnot : ¬ LowEscapeFront rest) :
    unicodeEscape (ds ++ rest) = .error .invalidEscape := by
  have hlo : ¬ (0xDC00 ≤ n ∧ n ≤ 0xDFFF) := by omega
  simp only [unicodeEscape, hd.hex4, if_neg hlo, if_pos hhi, List.drop_left' hd.length]
  split
  · rename_i more
    split
    · rename_i lo hlo
      rw [if_neg fun hr => hnot ⟨more, lo, rfl, hlo, hr⟩]
    · rfl
  · rfl

/-- Decoding stops at a fault with its problem. -/
theorem Fault.decodeBody_eq {q : Char} {cs : List Char} {p : LiteralProblem} (h : Fault q cs p) :
    decodeBody q cs = .error p := by
  cases h with
  | @unknownEscape c _ hc =>
    have hu : c ≠ 'u' := fun h => hc (by simp [escapeLetters, h])
    rw [decodeBody.eq_3 _ _ _ hu, (literalEscape_eq_none_iff hu).2 hc]
  | @control c _ hc =>
    have hb : c ≠ '\\' := by
      rintro rfl
      simp at hc
    rw [decodeBody_plain hb, if_pos hc]
  | @notHex rest hn =>
    have h4 : Json.hex4 rest = none := by
      cases h4 : Json.hex4 rest with
      | none => rfl
      | some n => exact absurd (hexFront_of_hex4 h4) (hn n)
    rw [decodeBody.eq_2]
    simp only [unicodeEscape, h4]
  | lowFirst hd hlo hhi =>
    rw [decodeBody.eq_2]
    simp only [unicodeEscape, hd.hex4, if_pos (And.intro hlo hhi)]
  | loneHigh hd hlo hhi hnot =>
    rw [decodeBody.eq_2, unicodeEscape_high_of_not_low hd ⟨hlo, hhi⟩ hnot]

/-- Every refusal of a `\u` escape is a fault. -/
theorem fault_of_unicodeEscape {q : Char} {rest : List Char} {e : LiteralProblem}
    (h : unicodeEscape rest = .error e) : Fault q ('\\' :: 'u' :: rest) e := by
  cases h4 : Json.hex4 rest with
  | none =>
    simp only [unicodeEscape, h4] at h
    cases h
    refine .notHex fun n hn => ?_
    obtain ⟨ds, tail, rfl, hs⟩ := hn
    rw [hs.hex4] at h4
    cases h4
  | some hi =>
    obtain ⟨ds, tail, rfl, hs⟩ := hexFront_of_hex4 h4
    by_cases hlow : 0xDC00 ≤ hi ∧ hi ≤ 0xDFFF
    · simp only [unicodeEscape, hs.hex4, if_pos hlow] at h
      cases h
      exact .lowFirst hs hlow.1 hlow.2
    · by_cases hhigh : 0xD800 ≤ hi ∧ hi ≤ 0xDBFF
      · by_cases hfront : LowEscapeFront tail
        · obtain ⟨more, lo, rfl, hlo, hr⟩ := hfront
          simp only [unicodeEscape, hs.hex4, if_neg hlow, if_pos hhigh,
            List.drop_left' hs.length, hlo, if_pos hr] at h
          cases h
        · rw [unicodeEscape_high_of_not_low hs hhigh hfront] at h
          cases h
          exact .loneHigh hs hhigh.1 hhigh.2 hfront
      · simp only [unicodeEscape, hs.hex4, if_neg hlow, if_neg hhigh] at h
        cases h

theorem lowSurrogateCode?_length {more : List Char} {lo : Int}
    (h : lowSurrogateCode? more = some lo) : 4 ≤ more.length := by
  simp only [lowSurrogateCode?] at h
  split_ifs at h with hlen
  simp at hlen
  omega

theorem lowSurrogateCode?_take_append {more : List Char} (h : 4 ≤ more.length)
    (rest : List Char) : lowSurrogateCode? (more.take 4 ++ rest) = lowSurrogateCode? more := by
  have hlen : (more.take 4).length = 4 := by simp; omega
  simp only [lowSurrogateCode?, List.take_left' hlen]

/-- What a `\u` escape that decodes takes: four hexadecimal digits of no surrogate, or those of
a high surrogate followed by the escape of a low one. -/
theorem unicodeEscape_eq_ok {rest : List Char} {c : Char} {n : Nat}
    (h : unicodeEscape rest = .ok (c, n)) :
    ∃ ds tail hi, rest = ds ++ tail ∧ SpellsHex ds hi ∧ ¬ (0xDC00 ≤ hi ∧ hi ≤ 0xDFFF) ∧
      (¬ (0xD800 ≤ hi ∧ hi ≤ 0xDBFF) ∧ n = 4 ∨
        (0xD800 ≤ hi ∧ hi ≤ 0xDBFF) ∧ n = 10 ∧ LowEscapeFront tail) := by
  cases h4 : Json.hex4 rest with
  | none =>
    simp only [unicodeEscape, h4] at h
    cases h
  | some hi =>
    obtain ⟨ds, tail, rfl, hs⟩ := hexFront_of_hex4 h4
    by_cases hlow : 0xDC00 ≤ hi ∧ hi ≤ 0xDFFF
    · simp only [unicodeEscape, hs.hex4, if_pos hlow] at h
      cases h
    refine ⟨ds, tail, hi, rfl, hs, hlow, ?_⟩
    by_cases hhigh : 0xD800 ≤ hi ∧ hi ≤ 0xDBFF
    · by_cases hfront : LowEscapeFront tail
      · obtain ⟨mr, lo, rfl, hlo, hr⟩ := hfront
        simp only [unicodeEscape, hs.hex4, if_neg hlow, if_pos hhigh,
          List.drop_left' hs.length, hlo, if_pos hr, Except.ok.injEq, Prod.mk.injEq] at h
        exact .inr ⟨hhigh, h.2.symm, mr, lo, rfl, hlo, hr⟩
      · rw [unicodeEscape_high_of_not_low hs hhigh hfront] at h
        cases h
    · simp only [unicodeEscape, hs.hex4, if_neg hlow, if_neg hhigh, Except.ok.injEq,
        Prod.mk.injEq] at h
      exact .inl ⟨hhigh, h.2.symm⟩

/-- A `\u` escape that decodes reads nothing past the characters it takes. -/
theorem unicodeEscape_take {rest : List Char} {c : Char} {n : Nat}
    (h : unicodeEscape rest = .ok (c, n)) (more : List Char) :
    n ≤ rest.length ∧ unicodeEscape (rest.take n ++ more) = .ok (c, n) := by
  obtain ⟨ds, tail, hi, rfl, hs, hlow, ⟨hhigh, rfl⟩ | ⟨hhigh, rfl, mr, lo, rfl, hlo, hr⟩⟩ :=
    unicodeEscape_eq_ok h
  · refine ⟨by simp [hs.length], ?_⟩
    rw [List.take_left' hs.length, ← h]
    simp only [unicodeEscape, hs.hex4, if_neg hlow, if_neg hhigh]
  · have hmr := lowSurrogateCode?_length hlo
    have htake : (ds ++ '\\' :: 'u' :: mr).take 10 = ds ++ '\\' :: 'u' :: mr.take 4 := by
      rw [List.take_append, List.take_of_length_le (by simp [hs.length]), hs.length]
      rfl
    refine ⟨by simp [hs.length]; omega, ?_⟩
    rw [htake, List.append_assoc, List.cons_append, List.cons_append, ← h]
    simp only [unicodeEscape, hs.hex4, if_neg hlow, if_pos hhigh, List.drop_left' hs.length,
      lowSurrogateCode?_take_append hmr, hlo]

/-- A body that decodes, followed by anything, decodes to its characters followed by what the
rest decodes to. -/
theorem decodeBody_append_of_ok {q : Char} {pre y : List Char} (h : decodeBody q pre = .ok y)
    (rest : List Char) : decodeBody q (pre ++ rest) = (decodeBody q rest).map (y ++ ·) := by
  induction pre using decodeBody.induct q generalizing y with
  | case1 =>
    rw [decodeBody.eq_1] at h
    cases h
    rw [List.nil_append]
    cases decodeBody q rest <;> rfl
  | case2 r e he =>
    rw [decodeBody.eq_2, he] at h
    cases h
  | case3 r c n hu ih =>
    simp only [decodeBody.eq_2, hu] at h
    cases hd : decodeBody q (r.drop n) with
    | error => simp [hd, Except.map] at h
    | ok y' =>
      simp only [hd, Except.map, Except.ok.injEq] at h
      subst h
      obtain ⟨hn, hu'⟩ := unicodeEscape_take hu (r.drop n ++ rest)
      have hsplit : r ++ rest = r.take n ++ (r.drop n ++ rest) := by
        rw [← List.append_assoc, List.take_append_drop]
      rw [List.cons_append, List.cons_append, decodeBody.eq_2, hsplit, hu']
      simp only
      rw [List.drop_left' (by simp; omega), ih hd]
      cases decodeBody q rest <;> rfl
  | case4 c r hcu d hd ih =>
    rw [decodeBody.eq_3 _ _ _ hcu, hd] at h
    cases hr : decodeBody q r with
    | error => simp [hr, Except.map] at h
    | ok y' =>
      simp only [hr, Except.map, Except.ok.injEq] at h
      subst h
      rw [List.cons_append, List.cons_append, decodeBody.eq_3 _ _ _ hcu, hd, ih hr]
      cases decodeBody q rest <;> rfl
  | case5 c r hcu hnone =>
    rw [decodeBody.eq_3 _ _ _ hcu, hnone] at h
    cases h
  | case6 =>
    simp [decodeBody] at h
  | case7 c r h1 h2 h3 hlt =>
    rw [decodeBody.eq_5 _ _ _ h1 h2 h3, if_pos hlt] at h
    cases h
  | case8 c r h1 h2 h3 hge ih =>
    have hcb : c ≠ '\\' := fun hc => by
      cases r with
      | nil => exact h3 hc rfl
      | cons d r => exact h2 d r hc rfl
    rw [decodeBody_plain hcb, if_neg hge] at h
    cases hr : decodeBody q r with
    | error => simp [hr, Except.map] at h
    | ok y' =>
      simp only [hr, Except.map, Except.ok.injEq] at h
      subst h
      rw [List.cons_append, decodeBody_plain hcb, if_neg hge, ih hr]
      cases decodeBody q rest <;> rfl

theorem mem_dropWhile_of_false {α : Type} {p : α → Bool} {x : α} {l : List α} (hx : x ∈ l)
    (hp : p x = false) : x ∈ l.dropWhile p := by
  rw [← @List.takeWhile_append_dropWhile α p l, List.mem_append] at hx
  rcases hx with hx | hx
  · simp [List.mem_takeWhile_imp hx] at hp
  · exact hx

theorem foldlM_eq_none_of_mem {α β : Type} {f : β → α → Option β} (x : α)
    (hx : ∀ b, f b x = none) : ∀ {l : List α} (init : β), x ∈ l → l.foldlM f init = none
  | a :: l, init, hmem => by
    rw [List.foldlM_cons]
    rcases List.mem_cons.1 hmem with rfl | hmem
    · rw [hx]
      rfl
    · cases f init a with
      | none => rfl
      | some b => exact foldlM_eq_none_of_mem x hx b hmem

theorem unsignedIn?_of_backslash {base : Nat} {ds : List Char} (h : '\\' ∈ ds) :
    Text.unsignedIn? base ds = none := by
  have hkept : '\\' ∈ (if base = 16 then Text.dropHexPrefix ds else ds) := by
    split_ifs
    · unfold Text.dropHexPrefix
      split <;> simp_all
    · exact h
  unfold Text.unsignedIn?
  generalize (if base = 16 then Text.dropHexPrefix ds else ds) = cs at hkept
  cases cs with
  | nil => cases hkept
  | cons c cs =>
    have hdigit : Text.digitValue? '\\' = none := by decide
    simp only [Text.underscoredValue]
    split_ifs
    · rfl
    · exact foldlM_eq_none_of_mem '\\' (fun b => by simp only [hdigit]) 0
        (List.mem_filter.2 ⟨hkept, by decide⟩)

/-- A backslash is no part of an integer. -/
theorem integerIn?_of_backslash {base : Nat} {s : String} (h : '\\' ∈ s.toList) :
    Text.integerIn? base s = none := by
  have hblank : Text.isAsciiBlank '\\' = false := by decide
  have hform : '\\' ∈ s.toList.map Text.asciiDigitForm := List.mem_map.2 ⟨'\\', h, by decide⟩
  have htrim := List.mem_reverse.2
    (mem_dropWhile_of_false (List.mem_reverse.2 (mem_dropWhile_of_false hform hblank)) hblank)
  simp only [Text.integerIn?]
  split
  · rename_i ds hds
    rw [hds] at htrim
    simp [unsignedIn?_of_backslash (List.mem_of_ne_of_mem (by decide) htrim)]
  · rename_i ds hds
    rw [hds] at htrim
    simp [unsignedIn?_of_backslash (List.mem_of_ne_of_mem (by decide) htrim)]
  · simp [unsignedIn?_of_backslash htrim]

theorem QuotedBody.tail_of_ne {q d : Char} {cs : List Char} (hb : QuotedBody q (d :: cs))
    (hd : d ≠ '\\') : QuotedBody q cs := by
  cases hb with
  | plain _ _ hb => exact hb
  | escape _ => exact absurd rfl hd

theorem QuotedBody.of_plains_append {q : Char} {ds rest : List Char}
    (hds : ∀ d ∈ ds, d ≠ '\\') (hb : QuotedBody q (ds ++ rest)) : QuotedBody q rest := by
  induction ds with
  | nil => exact hb
  | cons d ds ih =>
    exact ih (fun e he => hds e (List.mem_cons_of_mem d he))
      (hb.tail_of_ne (hds d List.mem_cons_self))

/-- The characters a `\u` escape that decodes leaves of a body are a body again. -/
theorem QuotedBody.drop_unicodeEscape {q : Char} {rest : List Char} {c : Char} {n : Nat}
    (hb : QuotedBody q ('\\' :: 'u' :: rest)) (h : unicodeEscape rest = .ok (c, n)) :
    QuotedBody q (rest.drop n) := by
  have hr : QuotedBody q rest := by
    cases hb with
    | plain _ hne _ => exact absurd rfl hne
    | escape hr => exact hr
  obtain ⟨ds, tail, hi, rfl, hs, -, ⟨-, rfl⟩ | ⟨-, rfl, mr, lo, rfl, hlo, -⟩⟩ :=
    unicodeEscape_eq_ok h
  · rw [List.drop_left' hs.length]
    exact hr.of_plains_append hs.ne_backslash
  · have hmr := lowSurrogateCode?_length hlo
    have hdigits : ∀ d ∈ mr.take 4, d ≠ '\\' := by
      rintro d hd rfl
      have hnone : Text.integerIn? 16 (String.ofList (mr.take 4)) = none :=
        integerIn?_of_backslash (by simpa using hd)
      simp [lowSurrogateCode?, hnone] at hlo
    have htail : QuotedBody q ('\\' :: 'u' :: mr) :=
      hr.of_plains_append hs.ne_backslash
    have hmore : QuotedBody q mr := by
      cases htail with
      | plain _ hne _ => exact absurd rfl hne
      | escape hm => exact hm
    have hdrop : (ds ++ '\\' :: 'u' :: mr).drop 10 = mr.drop 4 := by
      rw [List.drop_append, List.drop_of_length_le (by simp [hs.length]), hs.length]
      rfl
    rw [hdrop]
    exact (show QuotedBody q (mr.take 4 ++ mr.drop 4) by rwa [List.take_append_drop]).of_plains_append
      hdigits

/-- Where the decoding of a body stops: after a part that decodes, at a fault. -/
theorem fault_of_decodeBody {q : Char} {body : List Char} {p : LiteralProblem}
    (hb : QuotedBody q body) (h : decodeBody q body = .error p) :
    ∃ pre y rest, body = pre ++ rest ∧ decodeBody q pre = .ok y ∧ Fault q rest p := by
  induction body using decodeBody.induct q with
  | case1 =>
    rw [decodeBody.eq_1] at h
    cases h
  | case2 r e he =>
    rw [decodeBody.eq_2, he] at h
    cases h
    exact ⟨[], [], _, rfl, decodeBody.eq_1 q, fault_of_unicodeEscape he⟩
  | case3 r c n hu ih =>
    simp only [decodeBody.eq_2, hu] at h
    have hd : decodeBody q (r.drop n) = .error p := by
      cases hd : decodeBody q (r.drop n) <;> simp_all [Except.map]
    obtain ⟨pre, y, tail, hsplit, hpre, hf⟩ := ih (hb.drop_unicodeEscape hu) hd
    obtain ⟨hn, hu'⟩ := unicodeEscape_take hu pre
    refine ⟨'\\' :: 'u' :: (r.take n ++ pre), c :: y, tail, ?_, ?_, hf⟩
    · rw [List.cons_append, List.cons_append, List.append_assoc, ← hsplit, List.take_append_drop]
    · rw [decodeBody.eq_2, hu']
      simp only
      rw [List.drop_left' (by simp; omega), hpre]
      rfl
  | case4 c r hcu d hd ih =>
    rw [decodeBody.eq_3 _ _ _ hcu, hd] at h
    have hr : decodeBody q r = .error p := by
      cases hr : decodeBody q r <;> simp_all [Except.map]
    have hbr : QuotedBody q r := by
      cases hb with
      | plain _ hne _ => exact absurd rfl hne
      | escape hbr => exact hbr
    obtain ⟨pre, y, tail, rfl, hpre, hf⟩ := ih hbr hr
    refine ⟨'\\' :: c :: pre, d :: y, tail, rfl, ?_, hf⟩
    rw [decodeBody.eq_3 _ _ _ hcu, hd, hpre]
    rfl
  | case5 c r hcu hnone =>
    rw [decodeBody.eq_3 _ _ _ hcu, hnone] at h
    cases h
    exact ⟨[], [], _, rfl, decodeBody.eq_1 q,
      .unknownEscape ((literalEscape_eq_none_iff hcu).1 hnone)⟩
  | case6 =>
    cases hb with
    | plain _ hne _ => exact absurd rfl hne
  | case7 c r h1 h2 h3 hlt =>
    rw [decodeBody.eq_5 _ _ _ h1 h2 h3, if_pos hlt] at h
    cases h
    exact ⟨[], [], _, rfl, decodeBody.eq_1 q, .control hlt⟩
  | case8 c r h1 h2 h3 hge ih =>
    have hcb : c ≠ '\\' := fun hc => by
      cases r with
      | nil => exact h3 hc rfl
      | cons d r => exact h2 d r hc rfl
    rw [decodeBody_plain hcb, if_neg hge] at h
    have hr : decodeBody q r = .error p := by
      cases hr : decodeBody q r <;> simp_all [Except.map]
    obtain ⟨pre, y, tail, rfl, hpre, hf⟩ := ih (hb.tail_of_ne hcb) hr
    refine ⟨c :: pre, c :: y, tail, rfl, ?_, hf⟩
    rw [decodeBody_plain hcb, if_neg hge, hpre]
    rfl

/-- A body fails to decode exactly when, after a part that decodes, it reaches a fault. -/
theorem decodeBody_eq_error_iff {q : Char} {body : List Char} (hb : QuotedBody q body)
    (p : LiteralProblem) :
    decodeBody q body = .error p ↔
      ∃ pre y rest, body = pre ++ rest ∧ decodeBody q pre = .ok y ∧ Fault q rest p := by
  constructor
  · exact fault_of_decodeBody hb
  · rintro ⟨pre, y, rest, rfl, hpre, hf⟩
    rw [decodeBody_append_of_ok hpre, hf.decodeBody_eq]
    rfl

theorem tokenize_quotedText_eq_error_iff {q : Char} (hq : IsQuote q) {body : List Char}
    (hb : QuotedBody q body) (p : LiteralProblem) :
    tokenize (quotedText q body) = .error (.badLiteral p ⟨0, body.length + 2⟩) ↔
      ∃ pre y rest, body = pre ++ rest ∧ decodeBody q pre = .ok y ∧ Fault q rest p := by
  rw [← decodeBody_eq_error_iff hb, tokenize_quotedText hq hb]
  cases decodeBody q body <;> simp

/-- Decoding a string literal quoted by `q` inverts every way of writing its value, and the
quoted form of a name reads back as the name. A literal is one string token or fails with its
own span, and it fails with a problem exactly when its body reaches a fault with that problem
after a part that decodes. -/
theorem literal_decoding_inverts_writing (q : Char) (hq : IsQuote q) (body : List Char) :
    (∀ x : String, Writes q x.toList body →
      tokenize (quotedText q body) = .ok (literalTokens (quotedText q body) x)) ∧
    (q = '\'' → ∀ x : String, body = (escapeName x).toList →
      tokenize (quotedText q body) = .ok (literalTokens (quotedText q body) x)) ∧
    (QuotedBody q body →
      (∃ x, tokenize (quotedText q body) = .ok (literalTokens (quotedText q body) x)) ∨
        ∃ p, tokenize (quotedText q body) = .error (.badLiteral p ⟨0, body.length + 2⟩)) ∧
    (QuotedBody q body → ∀ p : LiteralProblem,
      tokenize (quotedText q body) = .error (.badLiteral p ⟨0, body.length + 2⟩) ↔
        ∃ pre y rest, body = pre ++ rest ∧ decodeBody q pre = .ok y ∧ Fault q rest p) := by
  refine ⟨fun x h => tokenize_writes hq h, ?_, fun hb => ?_,
    fun hb p => tokenize_quotedText_eq_error_iff hq hb p⟩
  · rintro rfl x rfl
    exact tokenize_writes hq (writes_escapeName x)
  · rw [tokenize_quotedText hq hb]
    cases decodeBody q body with
    | ok x => exact .inl ⟨_, rfl⟩
    | error p => exact .inr ⟨p, rfl⟩

theorem escaped_apostrophe_reads_back :
    IsQuote '\'' ∧ tokenize ("'" ++ escapeName "it's" ++ "'") =
      .ok (literalTokens ("'" ++ escapeName "it's" ++ "'") "it's") := by
  refine ⟨Or.inl rfl, ?_⟩
  rw [← quotedText_escapeName]
  exact (literal_decoding_inverts_writing '\'' (Or.inl rfl) _).2.1 rfl "it's" rfl

/-- After the escape of a high surrogate, `\uDC٠٠` is no `\u` escape with four hexadecimal
digits, yet the literal decodes: the four characters after `\u` are read as the integer
`0xDC00`, and the two escapes make U+10000. -/
theorem tokenize_low_surrogate_decimal_digits :
    (∀ n, ¬ HexFront ['D', 'C', '٠', '٠'] n) ∧
      tokenize "'\\uD800\\uDC٠٠'" = .ok (literalTokens "'\\uD800\\uDC٠٠'" "𐀀") := by
  refine ⟨fun n ⟨ds, rest, hsplit, hs⟩ => ?_, ?_⟩
  · obtain ⟨-, a, b, c, d, rfl, -, -, hc, -⟩ := hs
    simp only [List.cons_append, List.nil_append, List.cons.injEq] at hsplit
    obtain ⟨-, -, rfl, -⟩ := hsplit
    have h := hc.facts.hexValue
    rw [show Json.hexValue '٠' = none by decide] at h
    cases h
  · have hb : QuotedBody '\'' ['\\', 'u', 'D', '8', '0', '0', '\\', 'u', 'D', 'C', '٠', '٠'] :=
      .escape (.plain (by decide) (by decide) (.plain (by decide) (by decide)
        (.plain (by decide) (by decide) (.plain (by decide) (by decide) (.escape
          (.plain (by decide) (by decide) (.plain (by decide) (by decide)
            (.plain (by decide) (by decide) (.plain (by decide) (by decide) .nil)))))))))
    have hhi : Json.hex4 ['D', '8', '0', '0', '\\', 'u', 'D', 'C', '٠', '٠'] = some 0xD800 := by
      decide
    have hlo : lowSurrogateCode? ['D', 'C', '٠', '٠'] = some 0xDC00 := by decide +kernel
    have hdec : decodeBody '\'' ['\\', 'u', 'D', '8', '0', '0', '\\', 'u', 'D', 'C', '٠', '٠'] =
        .ok ['𐀀'] := by
      rw [decodeBody.eq_2]
      simp [unicodeEscape, hhi, hlo, decodeBody.eq_1, Except.map]
    have htext : "'\\uD800\\uDC٠٠'" =
        quotedText '\'' ['\\', 'u', 'D', '8', '0', '0', '\\', 'u', 'D', 'C', '٠', '٠'] := by
      decide
    rw [htext, tokenize_quotedText (Or.inl rfl) hb, hdec]

end JsonPath.Syntax
