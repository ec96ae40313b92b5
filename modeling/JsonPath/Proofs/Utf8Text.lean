import JsonPath.Text.Utf8
import Mathlib.Tactic.SplitIfs

/-!
# Bytes that are UTF-8

`utf8Fault?` looks for the first bytes that are not UTF-8, by the width each lead byte asks for
and the ranges of the continuation bytes after it. It finds none exactly in the bytes that
encode a list of characters (`utf8Fault?_eq_none_iff`).

One half is that the bytes of every character pass the checks of their lead byte, with the
fault search going on after them (`utf8Fault?_utf8EncodeChar_append`). The other is that bytes
that pass the checks of one lead byte are the encoding of a character (`exists_utf8EncodeChar`):
the narrower ranges after `E0`, `F0`, `ED` and `F4` are exactly what keeps out a longer form of
a shorter character, a surrogate and a number above U+10FFFF.

The checks compare bytes, and the encoding is written with division and remainder of the
character's number, so every case ends in arithmetic on the numbers of the bytes.
-/

set_option autoImplicit false

namespace JsonPath.Text

/-! ## The checks in numbers -/

theorem utf8Width_toNat (b : UInt8) :
    utf8Width b =
      if b.toNat < 0x80 then some 1 else if b.toNat < 0xC2 then none
      else if b.toNat < 0xE0 then some 2 else if b.toNat < 0xF0 then some 3
      else if b.toNat < 0xF5 then some 4 else none := by
  simp only [utf8Width, UInt8.lt_iff_toNat_lt, UInt8.reduceToNat]

theorem isContinuation_iff (b : UInt8) :
    isContinuation b = true ↔ 0x80 ≤ b.toNat ∧ b.toNat < 0xC0 := by
  simp [isContinuation, UInt8.le_iff_toNat_le, UInt8.lt_iff_toNat_lt]

theorem fitsAfterLead_iff (lead b : UInt8) :
    fitsAfterLead lead b = true ↔ 0x80 ≤ b.toNat ∧ b.toNat < 0xC0 ∧
      (lead.toNat = 0xE0 → 0xA0 ≤ b.toNat) ∧ (lead.toNat = 0xED → b.toNat < 0xA0) ∧
      (lead.toNat = 0xF0 → 0x90 ≤ b.toNat) ∧ (lead.toNat = 0xF4 → b.toNat < 0x90) := by
  simp only [fitsAfterLead, Bool.and_eq_true, isContinuation_iff, ← UInt8.toNat_inj,
    UInt8.reduceToNat, UInt8.le_iff_toNat_le, UInt8.lt_iff_toNat_lt]
  split_ifs <;> simp <;> omega

/-! ## The fault search over one character -/

theorem continuationFault?_succ_eq_none {lead : UInt8} {k i : Nat} {rest : List UInt8} :
    continuationFault? lead (k + 1) i rest = none ↔ ∃ b r, rest = b :: r ∧
      (if i = 1 then fitsAfterLead lead b else isContinuation b) = true ∧
      continuationFault? lead k (i + 1) r = none := by
  cases rest with
  | nil => simp [continuationFault?]
  | cons b r =>
    have hstep : continuationFault? lead (k + 1) i (b :: r) =
        if (if i = 1 then fitsAfterLead lead b else isContinuation b) = true then
          continuationFault? lead k (i + 1) r
        else some (i, .invalidContinuation) := rfl
    rw [hstep]
    by_cases hb : (if i = 1 then fitsAfterLead lead b else isContinuation b) = true
    · rw [if_pos hb]
      constructor
      · intro h
        exact ⟨b, r, rfl, hb, h⟩
      · rintro ⟨b', r', he, -, h⟩
        cases he
        exact h
    · rw [if_neg hb]
      constructor
      · rintro ⟨⟩
      · rintro ⟨b', r', he, hb', -⟩
        cases he
        exact absurd hb' hb

/-- Bytes that pass the checks of their lead byte: the search goes on after them. -/
theorem utf8Fault?_cons_of_passes {b : UInt8} {n : Nat} {rest : List UInt8} (pos : Nat)
    (hw : utf8Width b = some n) (hc : continuationFault? b (n - 1) 1 rest = none) :
    utf8Fault? pos (b :: rest) = utf8Fault? (pos + n) (rest.drop (n - 1)) := by
  rw [utf8Fault?.eq_2, hw]
  simp only [hc]

/-- The bytes of a character pass the checks of their lead byte. -/
theorem utf8Fault?_utf8EncodeChar_append (pos : Nat) (c : Char) (rest : List UInt8) :
    utf8Fault? pos (String.utf8EncodeChar c ++ rest) = utf8Fault? (pos + c.utf8Size) rest := by
  have hvalid : c.val.toNat < 0xD800 ∨ (0xDFFF < c.val.toNat ∧ c.val.toNat < 0x110000) := c.valid
  rw [← String.length_utf8EncodeChar]
  simp only [String.utf8EncodeChar]
  split_ifs with h₁ h₂ h₃
  -- in each width, the lead byte asks for that width and the continuation bytes fit it
  · rw [List.cons_append, List.nil_append, @utf8Fault?_cons_of_passes _ 1 _ pos ?hw rfl]
    · rfl
    case hw =>
      simp only [utf8Width_toNat, UInt8.toNat_ofNat', Nat.reducePow]
      split_ifs <;> first | rfl | omega
  · rw [List.cons_append, List.cons_append, List.nil_append,
      @utf8Fault?_cons_of_passes _ 2 _ pos ?hw ?hc]
    · rfl
    case hw =>
      simp only [utf8Width_toNat, UInt8.toNat_ofNat', Nat.reducePow]
      split_ifs <;> first | rfl | omega
    case hc =>
      simp only [continuationFault?, ↓reduceIte, fitsAfterLead_iff, UInt8.toNat_ofNat',
        Nat.reducePow]
      split_ifs <;> first | rfl | omega
  · rw [List.cons_append, List.cons_append, List.cons_append, List.nil_append,
      @utf8Fault?_cons_of_passes _ 3 _ pos ?hw ?hc]
    · rfl
    case hw =>
      simp only [utf8Width_toNat, UInt8.toNat_ofNat', Nat.reducePow]
      split_ifs <;> first | rfl | omega
    case hc =>
      simp only [continuationFault?, Nat.reduceAdd, Nat.reduceEqDiff, ↓reduceIte,
        fitsAfterLead_iff, isContinuation_iff, UInt8.toNat_ofNat', Nat.reducePow]
      split_ifs <;> first | rfl | omega
  · rw [List.cons_append, List.cons_append, List.cons_append, List.cons_append, List.nil_append,
      @utf8Fault?_cons_of_passes _ 4 _ pos ?hw ?hc]
    · rfl
    case hw =>
      simp only [utf8Width_toNat, UInt8.toNat_ofNat', Nat.reducePow]
      split_ifs <;> first | rfl | omega
    case hc =>
      simp only [continuationFault?, Nat.reduceAdd, Nat.reduceEqDiff, ↓reduceIte,
        fitsAfterLead_iff, isContinuation_iff, UInt8.toNat_ofNat', Nat.reducePow]
      split_ifs <;> first | rfl | omega

/-- The bytes of a list of characters have no fault. -/
theorem utf8Fault?_flatMap (pos : Nat) (cs : List Char) :
    utf8Fault? pos (cs.flatMap String.utf8EncodeChar) = none := by
  induction cs generalizing pos with
  | nil => rw [List.flatMap_nil, utf8Fault?.eq_1]
  | cons c cs ih => rw [List.flatMap_cons, utf8Fault?_utf8EncodeChar_append, ih]

/-! ## Bytes that pass the checks encode a character -/

/-- Every number that is the code of a character is the number of one. -/
theorem exists_char_of_isValidChar {v : Nat} (h : v.isValidChar) : ∃ c : Char, c.val.toNat = v :=
  ⟨Char.ofNatAux v h, rfl⟩

/-- Bytes that pass the checks of their lead byte are the encoding of a character. -/
theorem exists_utf8EncodeChar {b : UInt8} {n : Nat} {rest : List UInt8}
    (hw : utf8Width b = some n) (hc : continuationFault? b (n - 1) 1 rest = none) :
    ∃ c : Char, String.utf8EncodeChar c = b :: rest.take (n - 1) := by
  rw [utf8Width_toNat] at hw
  split_ifs at hw with h₁ h₂ h₃ h₄ h₅ <;> cases hw
  · -- one byte: the character is the byte
    obtain ⟨c, hv⟩ := @exists_char_of_isValidChar b.toNat (Or.inl (by omega))
    refine ⟨c, ?_⟩
    simp only [String.utf8EncodeChar, hv]
    rw [if_pos (by omega)]
    simp [UInt8.ofNat_toNat]
  · -- two bytes
    obtain ⟨b₁, r, rfl, hb₁, -⟩ := continuationFault?_succ_eq_none.1 hc
    rw [if_pos rfl, fitsAfterLead_iff] at hb₁
    obtain ⟨c, hv⟩ :=
      @exists_char_of_isValidChar ((b.toNat - 0xC0) * 64 + (b₁.toNat - 0x80)) (Or.inl (by omega))
    refine ⟨c, ?_⟩
    simp only [String.utf8EncodeChar, hv]
    rw [if_neg (by omega), if_pos (by omega)]
    simp only [Nat.reduceSub, List.take_succ_cons, List.take_zero, List.cons.injEq,
      ← UInt8.toNat_inj, UInt8.toNat_ofNat', Nat.reducePow, and_true]
    omega
  · -- three bytes
    obtain ⟨b₁, r₁, rfl, hb₁, hc₁⟩ := continuationFault?_succ_eq_none.1 hc
    obtain ⟨b₂, r₂, rfl, hb₂, -⟩ := continuationFault?_succ_eq_none.1 hc₁
    rw [if_pos rfl, fitsAfterLead_iff] at hb₁
    rw [if_neg (by decide), isContinuation_iff] at hb₂
    obtain ⟨c, hv⟩ := @exists_char_of_isValidChar
      ((b.toNat - 0xE0) * 4096 + (b₁.toNat - 0x80) * 64 + (b₂.toNat - 0x80))
      (by unfold Nat.isValidChar; omega)
    refine ⟨c, ?_⟩
    simp only [String.utf8EncodeChar, hv]
    rw [if_neg (by omega), if_neg (by omega), if_pos (by omega)]
    simp only [Nat.reduceSub, List.take_succ_cons, List.take_zero, List.cons.injEq,
      ← UInt8.toNat_inj, UInt8.toNat_ofNat', Nat.reducePow, and_true]
    omega
  · -- four bytes
    obtain ⟨b₁, r₁, rfl, hb₁, hc₁⟩ := continuationFault?_succ_eq_none.1 hc
    obtain ⟨b₂, r₂, rfl, hb₂, hc₂⟩ := continuationFault?_succ_eq_none.1 hc₁
    obtain ⟨b₃, r₃, rfl, hb₃, -⟩ := continuationFault?_succ_eq_none.1 hc₂
    rw [if_pos rfl, fitsAfterLead_iff] at hb₁
    rw [if_neg (by decide), isContinuation_iff] at hb₂ hb₃
    obtain ⟨c, hv⟩ := @exists_char_of_isValidChar
      ((b.toNat - 0xF0) * 262144 + (b₁.toNat - 0x80) * 4096 + (b₂.toNat - 0x80) * 64 +
        (b₃.toNat - 0x80)) (by unfold Nat.isValidChar; omega)
    refine ⟨c, ?_⟩
    simp only [String.utf8EncodeChar, hv]
    rw [if_neg (by omega), if_neg (by omega), if_neg (by omega)]
    simp only [Nat.reduceSub, List.take_succ_cons, List.take_zero, List.cons.injEq,
      ← UInt8.toNat_inj, UInt8.toNat_ofNat', Nat.reducePow, and_true]
    omega

/-! ## Bytes without a fault -/

/-- The fault search finds nothing exactly in the bytes of a list of characters. -/
theorem utf8Fault?_eq_none_iff (pos : Nat) (bytes : List UInt8) :
    utf8Fault? pos bytes = none ↔ ∃ cs : List Char, bytes = cs.flatMap String.utf8EncodeChar := by
  constructor
  · intro h
    fun_induction utf8Fault? pos bytes with
    | case1 => exact ⟨[], rfl⟩
    | case2 => cases h
    | case3 => cases h
    | case4 pos b rest n hw hc ih =>
      -- the first character's bytes, then the bytes after them, which have no fault either
      obtain ⟨cs, hcs⟩ := ih h
      obtain ⟨c, hchar⟩ := exists_utf8EncodeChar hw hc
      refine ⟨c :: cs, ?_⟩
      rw [List.flatMap_cons, hchar, ← hcs, List.cons_append, List.take_append_drop]
  · rintro ⟨cs, rfl⟩
    exact utf8Fault?_flatMap pos cs

end JsonPath.Text
