import JsonPath.Syntax.Lexer
import Mathlib.Tactic.IntervalCases

/-!
# Literal texts read back

The canonical text writes a name between single quotes through `Syntax.escapeName` and an
integer in decimal. This module shows that the lexer reads both back: a quoted name is a
single string token, closing quote included (`lexeme?_quoted`), whose decoded value is the
name again (`decodeLiteral_quoted`); and the decimal text of an integer, followed by a
character that cannot continue a number, scans to that integer (`scan?_intText`).

The escapes of a name are the two-character ones (`\b`, `\f`, `\n`, `\r`, `\t`, `\'`,
`\\`) and `\u00xx` for the other control characters. A backslash always starts an escape
and every other character stands for itself, so the scan for the closing quote and the
decoder both walk the escaped text one written character at a time.

A property of every token `lexeme?` reads holds of every raw token a whole read returns
(`scan_forall`).
-/

set_option autoImplicit false

namespace JsonPath.Syntax

/-! ## Finding the closing quote -/

theorem quotedLength_cons_of_ne {q c : Char} (cs : List Char) (n : Nat) (hc : c ≠ '\\') :
    quotedLength q (c :: cs) n = if c = q then some (n + 1) else quotedLength q cs (n + 1) := by
  cases cs <;> simp [quotedLength, hc]

theorem quotedLength_escape {q : Char} (c : Char) (rest : List Char) (n : Nat) :
    quotedLength q ('\\' :: c :: rest) n = quotedLength q rest (n + 2) := by
  simp [quotedLength]

/-- Characters that are neither a backslash nor the quote are passed over one by one. -/
theorem quotedLength_plain (q : Char) (cs rest : List Char) (n : Nat)
    (h : ∀ c ∈ cs, c ≠ '\\' ∧ c ≠ q) :
    quotedLength q (cs ++ rest) n = quotedLength q rest (n + cs.length) := by
  induction cs generalizing n with
  | nil => simp
  | cons c cs ih =>
    obtain ⟨hb, hq⟩ := h c (by simp)
    rw [List.cons_append, quotedLength_cons_of_ne _ _ hb, if_neg hq,
      ih (n + 1) (fun d hd => h d (by simp [hd]))]
    congr 1
    simp only [List.length_cons]
    omega

/-- The hexadecimal escape of a control character: four digits, none of them a backslash or
a quote, that read back as its code. -/
theorem hexPadded_control : ∀ n < 0x20,
    (Text.hexPadded 4 n).toList.length = 4 ∧
    (∀ c ∈ (Text.hexPadded 4 n).toList, c ≠ '\\' ∧ c ≠ '\'') ∧
    Json.hex4 (Text.hexPadded 4 n).toList = some n := by
  -- checked as a `Bool` over the characters: `∀ c ∈ l` decides by a slower instance
  have hall : ∀ n < 0x20, (Text.hexPadded 4 n).toList.length = 4 ∧
      ((Text.hexPadded 4 n).toList.all fun c => c != '\\' && c != '\'') = true ∧
      Json.hex4 (Text.hexPadded 4 n).toList = some n := by
    decide
  intro n hn
  obtain ⟨hlen, hplain, hhex⟩ := hall n hn
  refine ⟨hlen, fun c hc => ?_, hhex⟩
  simpa using List.all_eq_true.1 hplain c hc

theorem hex4_append (l rest : List Char) (h : l.length = 4) :
    Json.hex4 (l ++ rest) = Json.hex4 l := by
  rcases l with _ | ⟨a, _ | ⟨b, _ | ⟨c, _ | ⟨d, _ | ⟨e, l⟩⟩⟩⟩⟩ <;> simp_all [Json.hex4]

theorem escapeName_toList (s : String) :
    (escapeName s).toList = s.toList.flatMap fun c => (escapeNameChar c).toList := by
  simp [escapeName, String.toList_join, List.flatMap_map]

theorem quotedLength_escapeNameChar (c : Char) (rest : List Char) (n : Nat) :
    quotedLength '\'' ((escapeNameChar c).toList ++ rest) n =
      quotedLength '\'' rest (n + (escapeNameChar c).toList.length) := by
  unfold escapeNameChar
  split
  case h_1 => exact quotedLength_escape 'b' rest n
  case h_2 => exact quotedLength_escape 'f' rest n
  case h_3 => exact quotedLength_escape 'n' rest n
  case h_4 => exact quotedLength_escape 'r' rest n
  case h_5 => exact quotedLength_escape 't' rest n
  case h_6 => exact quotedLength_escape '\'' rest n
  case h_7 => exact quotedLength_escape '\\' rest n
  case h_8 _ _ _ _ _ hq hb =>
    split
    case isTrue hc =>
      obtain ⟨hlen, hplain, -⟩ := hexPadded_control c.toNat hc
      simp only [String.toList_append, List.length_append, hlen, List.append_assoc]
      rw [show "\\u".toList = ['\\', 'u'] from rfl, List.cons_append, List.cons_append,
        List.nil_append, quotedLength_escape, quotedLength_plain _ _ _ _ hplain, hlen]
      rfl
    case isFalse =>
      simp only [Char.toString_eq_singleton, String.toList_singleton, List.cons_append,
        List.nil_append, List.length_singleton]
      rw [quotedLength_cons_of_ne _ _ hb, if_neg hq]

theorem quotedLength_escapeName (s : String) (rest : List Char) (n : Nat) :
    quotedLength '\'' ((escapeName s).toList ++ rest) n =
      quotedLength '\'' rest (n + (escapeName s).toList.length) := by
  rw [escapeName_toList]
  induction s.toList generalizing n with
  | nil => simp
  | cons c cs ih =>
    rw [List.flatMap_cons, List.append_assoc, quotedLength_escapeNameChar, ih,
      List.length_append, Nat.add_assoc]

/-- A quoted name is one string token, closing quote included. -/
theorem lexeme?_quoted (s : String) (rest : List Char) :
    lexeme? ('\'' :: ((escapeName s).toList ++ '\'' :: rest)) =
      some (.string, (escapeName s).toList.length + 2) := by
  simp only [lexeme?, true_or, if_true, quotedLength_escapeName]
  simp [quotedLength]
  omega

/-! ## Decoding the escapes -/

theorem decodeBody_escape (c d : Char) (rest : List Char) (hu : c ≠ 'u')
    (h : literalEscape '\'' c = some d) :
    decodeBody '\'' ('\\' :: c :: rest) = (decodeBody '\'' rest).map (d :: ·) := by
  rw [decodeBody.eq_3 _ _ _ hu, h]

theorem unicodeEscape_control (c : Char) (rest : List Char) (hc : c.toNat < 0x20) :
    unicodeEscape ((Text.hexPadded 4 c.toNat).toList ++ rest) = .ok (c, 4) := by
  obtain ⟨hlen, -, hhex⟩ := hexPadded_control c.toNat hc
  have hlo : ¬ (0xDC00 ≤ c.toNat ∧ c.toNat ≤ 0xDFFF) := by omega
  have hhi : ¬ (0xD800 ≤ c.toNat ∧ c.toNat ≤ 0xDBFF) := by omega
  simp only [unicodeEscape, hex4_append _ _ hlen, hhex, if_neg hlo, if_neg hhi,
    Char.ofNat_toNat]

theorem decodeBody_escapeNameChar (c : Char) (rest : List Char) :
    decodeBody '\'' ((escapeNameChar c).toList ++ rest) =
      (decodeBody '\'' rest).map (c :: ·) := by
  unfold escapeNameChar
  split
  case h_1 => exact decodeBody_escape 'b' _ rest (by decide) rfl
  case h_2 => exact decodeBody_escape 'f' _ rest (by decide) rfl
  case h_3 => exact decodeBody_escape 'n' _ rest (by decide) rfl
  case h_4 => exact decodeBody_escape 'r' _ rest (by decide) rfl
  case h_5 => exact decodeBody_escape 't' _ rest (by decide) rfl
  case h_6 => exact decodeBody_escape '\'' _ rest (by decide) rfl
  case h_7 => exact decodeBody_escape '\\' _ rest (by decide) rfl
  case h_8 _ _ _ _ _ _ hb =>
    split
    case isTrue hc =>
      obtain ⟨hlen, -, -⟩ := hexPadded_control c.toNat hc
      rw [String.toList_append, show "\\u".toList = ['\\', 'u'] from rfl, List.append_assoc,
        List.cons_append, List.cons_append, List.nil_append, decodeBody.eq_2,
        unicodeEscape_control c rest hc]
      simp only [List.drop_left' hlen]
    case isFalse hc =>
      simp only [Char.toString_eq_singleton, String.toList_singleton, List.cons_append,
        List.nil_append]
      -- a plain character falls through the three backslash patterns of the decoder
      rw [decodeBody.eq_5 _ _ _ (fun _ h => absurd h hb) (fun _ _ h => absurd h hb)
        (fun h => absurd h hb), if_neg hc]

theorem decodeBody_escapeName (s : String) :
    decodeBody '\'' (escapeName s).toList = .ok s.toList := by
  rw [escapeName_toList]
  induction s.toList with
  | nil => simp [decodeBody]
  | cons c cs ih =>
    rw [List.flatMap_cons, decodeBody_escapeNameChar, ih]
    rfl

/-- A name written between single quotes reads back as the same name. -/
theorem decodeLiteral_quoted (s : String) :
    decodeLiteral ("'" ++ escapeName s ++ "'") = .ok s := by
  have h : ("'" ++ escapeName s ++ "'").toList =
      '\'' :: ((escapeName s).toList ++ ['\'']) := by
    simp
  rw [decodeLiteral, h]
  simp only [List.dropLast_concat, decodeBody_escapeName]
  simp [Except.map, String.ofList_toList]

/-! ## Every token of a read -/

/-- A property that every token `lexeme?` reads has, with the text and the span it is read
with, holds of every raw token a successful read returns: the read adds one such token per
step to what it had. -/
theorem scan_forall {P : TokenKind × String × Span → Prop}
    (hlex : ∀ {cs : List Char} {kind : TokenKind} {n : Nat} (offset : Nat),
      lexeme? cs = some (kind, n) → P (kind, String.ofList (cs.take n), ⟨offset, offset + n⟩))
    {cs : List Char} {offset : Nat} {acc out : List (TokenKind × String × Span)}
    (h : scan cs offset acc = .ok out) (hacc : ∀ r ∈ acc, P r) : ∀ r ∈ out, P r := by
  induction cs, offset, acc using scan.induct with
  | case1 offset acc =>
    rw [scan] at h
    cases h
    simpa using hacc
  | case2 c tail offset acc cs kind n hl hn rest blanks ih =>
    have hl' : lexeme? (c :: tail) = some (kind, n) := hl
    rw [scan] at h
    simp only [hl', hn, dite_true] at h
    refine ih h fun r hr => ?_
    rcases List.mem_cons.1 hr with rfl | hr
    · exact hlex offset hl'
    · exact hacc r hr
  -- the other branches end in an error
  | case3 c tail offset acc cs kind n hl hn =>
    have hl' : lexeme? (c :: tail) = some (kind, n) := hl
    rw [scan] at h
    simp [hl', hn] at h
  | case4 c tail offset acc cs hl hq =>
    have hl' : lexeme? (c :: tail) = none := hl
    rw [scan] at h
    simp [hl', hq] at h
  | case5 c tail offset acc cs hl hq =>
    have hl' : lexeme? (c :: tail) = none := hl
    rw [scan] at h
    simp [hl', hq] at h

end JsonPath.Syntax

namespace JsonPath.Number

/-! ## Integers in decimal -/

/-- A character that cannot continue a number literal. -/
def Stops (c : Char) : Prop := c.isDigit = false ∧ c ≠ '.' ∧ c ≠ 'e' ∧ c ≠ 'E'

theorem digitsPrefix_digits (ds rest : List Char) (hd : ∀ c ∈ ds, c.isDigit = true)
    (hr : ∀ c ∈ rest.head?, c.isDigit = false) :
    digitsPrefix (ds ++ rest) = (ds, rest) := by
  have hrt : rest.takeWhile Char.isDigit = [] := by
    cases rest with
    | nil => rfl
    | cons c cs => simp [hr c rfl]
  have hrd : rest.dropWhile Char.isDigit = rest := by
    cases rest with
    | nil => rfl
    | cons c cs => simp [hr c rfl]
  simp [digitsPrefix, List.takeWhile_append_of_pos hd, List.dropWhile_append_of_pos hd, hrt, hrd]

theorem fractionPart_of_stops (rest : List Char) (hr : ∀ c ∈ rest.head?, Stops c) :
    fractionPart rest = (none, rest) := by
  match rest, hr with
  | [], _ => rfl
  | c :: cs, hr =>
    have hc : c ≠ '.' := (hr c rfl).2.1
    unfold fractionPart
    split
    · simp_all
    · rfl

theorem exponentPart_of_stops (rest : List Char) (hr : ∀ c ∈ rest.head?, Stops c) :
    exponentPart rest = (none, rest) := by
  match rest, hr with
  | [], _ => rfl
  | c :: cs, hr =>
    obtain ⟨-, -, he, hE⟩ := hr c rfl
    simp [exponentPart, he, hE]

/-- The decimal digits of a positive number do not start with a zero. -/
theorem toDigits_head_ne_zero (n : Nat) (hn : 0 < n) :
    ∃ d tl, Nat.toDigits 10 n = d :: tl ∧ d ≠ '0' := by
  induction n using Nat.strong_induction_on with
  | _ n ih =>
    by_cases hlt : n < 10
    · refine ⟨n.digitChar, [], Nat.toDigits_of_lt_base hlt, ?_⟩
      interval_cases n <;> decide
    · obtain ⟨d, tl, h, hd⟩ := ih (n / 10) (by omega) (by omega)
      refine ⟨d, tl ++ [(n % 10).digitChar], ?_, hd⟩
      rw [Nat.toDigits_of_base_le (by decide) (by omega), h, List.cons_append]

theorem isDigit_of_mem_toDigits (n : Nat) : ∀ c ∈ Nat.toDigits 10 n, c.isDigit = true :=
  fun _ hc => Nat.isDigit_of_mem_toDigits (by decide) (by decide) hc

/-- A natural number written in decimal reads back as itself. -/
theorem scan?_toDigits (n : Nat) (rest : List Char) (hr : ∀ c ∈ rest.head?, Stops c) :
    scan? (Nat.toDigits 10 n ++ rest) = some (.int n, rest) := by
  have hstop : ∀ c ∈ rest.head?, c.isDigit = false := fun c hc => (hr c hc).1
  rcases Nat.eq_zero_or_pos n with rfl | hn
  · simp [scan?, Nat.toDigits_zero, fractionPart_of_stops rest hr,
      exponentPart_of_stops rest hr, numberOfParts, digitsValue]
  · obtain ⟨d, tl, h, hd⟩ := toDigits_head_ne_zero n hn
    have hdd : d.isDigit = true := isDigit_of_mem_toDigits n d (by simp [h])
    have hd' : d ≠ '-' := by rintro rfl; simp at hdd
    have hpre := digitsPrefix_digits (Nat.toDigits 10 n) rest (isDigit_of_mem_toDigits n) hstop
    have hval : digitsValue (d :: tl) = n := by
      rw [← h]; exact Nat.ofDigitChars_ten_toDigits
    rw [h, List.cons_append] at hpre ⊢
    simp [scan?, hd', hdd, hpre, fractionPart_of_stops rest hr,
      exponentPart_of_stops rest hr, numberOfParts, hval]

theorem scan?_neg_toDigits (n : Nat) (rest : List Char) (hr : ∀ c ∈ rest.head?, Stops c) :
    scan? ('-' :: (Nat.toDigits 10 n ++ rest)) = some (.int (-n), rest) := by
  have hstop : ∀ c ∈ rest.head?, c.isDigit = false := fun c hc => (hr c hc).1
  rcases Nat.eq_zero_or_pos n with rfl | hn
  · simp [scan?, Nat.toDigits_zero, fractionPart_of_stops rest hr,
      exponentPart_of_stops rest hr, numberOfParts, digitsValue]
  · obtain ⟨d, tl, h, hd⟩ := toDigits_head_ne_zero n hn
    have hdd : d.isDigit = true := isDigit_of_mem_toDigits n d (by simp [h])
    have hpre := digitsPrefix_digits (Nat.toDigits 10 n) rest (isDigit_of_mem_toDigits n) hstop
    have hval : digitsValue (d :: tl) = n := by
      rw [← h]; exact Nat.ofDigitChars_ten_toDigits
    rw [h, List.cons_append] at hpre ⊢
    simp [scan?, hdd, hpre, fractionPart_of_stops rest hr, exponentPart_of_stops rest hr,
      numberOfParts, hval]

/-- An integer written in decimal reads back as itself. -/
theorem scan?_intText (i : Int) (rest : List Char) (hr : ∀ c ∈ rest.head?, Stops c) :
    scan? ((toString i).toList ++ rest) = some (.int i, rest) := by
  rw [Int.toString_eq_repr, Int.repr_eq_if]
  split
  case isTrue h =>
    rw [Nat.toList_repr, scan?_toDigits _ _ hr, Int.toNat_of_nonneg h]
  case isFalse h =>
    rw [String.toList_append, Nat.toList_repr, show "-".toList = ['-'] from rfl,
      List.cons_append, List.nil_append, List.cons_append, scan?_neg_toDigits _ _ hr]
    congr
    omega

end JsonPath.Number
