import JsonPath.Syntax.Diagnostic

/-!
# Where a diagnostic points

A diagnostic names the line and the column of the offset where its span starts, shows that
line and puts carets under the span. The line number is counted from the newlines before the
offset and the column from the last of them, while the line shown is taken from the text split
at its newlines: three computations that agree at every offset.

`IsPlace ls off line col` says in terms of the lines alone where an offset lies: on an
existing line, at a column from one to one past the end of that line, with the lines before
it and their newlines taking up the rest of the offset. Every offset of a text has exactly one
place, and `lineColumn` finds it (`lineColumn_eq_iff`); at the end of a line the offset lies
one past its last character, so an offset just after a newline starts the next line. The text
before the place is the earlier lines, each with its newline, and the start of its own line
(`take_joined`), which is what the counting in `lineColumn` reads.

The rendered diagnostic then shows that line, never the whole text, with carets that stop at
most one past its end, and the expected items strictly sorted and without repeats
(`render_points_at_its_place`).
-/

set_option autoImplicit false

namespace JsonPath.Diagnostic

/-! ## Expected items, sorted without repeats -/

theorem mem_insertSorted {x y : String} {l : List String} :
    y ∈ insertSorted x l ↔ y = x ∨ y ∈ l := by
  induction l with
  | nil => simp [insertSorted]
  | cons z l ih =>
    unfold insertSorted
    split
    · rename_i hxz
      subst hxz
      simp
    · split
      · simp
      · simp only [List.mem_cons, ih]
        exact or_left_comm

theorem pairwise_insertSorted (x : String) :
    ∀ {l : List String}, l.Pairwise (· < ·) → (insertSorted x l).Pairwise (· < ·)
  | [], _ => by simp [insertSorted]
  | z :: l, h => by
    unfold insertSorted
    split
    · exact h
    · rename_i hxz
      split
      · rename_i hlt
        refine List.Pairwise.cons (fun y hy => ?_) h
        rcases List.mem_cons.1 hy with rfl | hy
        · exact hlt
        · exact String.lt_trans hlt (List.rel_of_pairwise_cons h hy)
      · rename_i hnlt
        -- `x` goes after `z`: `z < x` since they differ and `x < z` fails
        have hzx : z < x :=
          String.not_le.1 fun hle => hxz (String.le_antisymm hle (String.not_lt.1 hnlt))
        refine List.Pairwise.cons (fun y hy => ?_) (pairwise_insertSorted x h.of_cons)
        rcases mem_insertSorted.1 hy with rfl | hy
        · exact hzx
        · exact List.rel_of_pairwise_cons h hy

theorem mem_sortedDistinct {y : String} {xs : List String} :
    y ∈ sortedDistinct xs ↔ y ∈ xs := by
  induction xs with
  | nil => simp [sortedDistinct]
  | cons x xs ih =>
    simp only [sortedDistinct, List.foldr_cons] at ih ⊢
    rw [mem_insertSorted, ih, List.mem_cons]

theorem pairwise_sortedDistinct (xs : List String) : (sortedDistinct xs).Pairwise (· < ·) := by
  induction xs with
  | nil => simp [sortedDistinct]
  | cons x xs ih => exact pairwise_insertSorted x ih

/-! ## Lines and places -/

/-- The characters of lines joined by newlines. -/
def joined (ls : List String) : List Char := ['\n'].intercalate (ls.map String.toList)

/-- The offset where line `k` (counted from zero) of a text split into the lines `ls` starts:
the lengths of the lines before it, each with its newline. -/
def lineStart : List String → Nat → Nat
  | _, 0 => 0
  | [], _ + 1 => 0
  | l :: ls, k + 1 => l.length + 1 + lineStart ls k

/-- `(line, col)`, counted from one, is the place of the offset `off` in a text split into the
lines `ls`: a line of the text, a column from one to one past the end of that line, and before
it the earlier lines with their newlines and `col - 1` characters of its own line. -/
def IsPlace (ls : List String) (off line col : Nat) : Prop :=
  1 ≤ line ∧ line ≤ ls.length ∧ 1 ≤ col ∧ col ≤ (ls.getD (line - 1) "").length + 1 ∧
    off = lineStart ls (line - 1) + (col - 1)

/-- An offset clamped into a text. -/
def clampOffset (source : String) (offset : Int) : Nat := (max 0 (min offset source.length)).toNat

theorem clampOffset_le (source : String) (offset : Int) :
    clampOffset source offset ≤ source.toList.length := by
  simp only [clampOffset, String.length_toList]
  omega

theorem joined_lines (source : String) : joined (lines source) = source.toList := by
  simp [joined, lines, Function.comp_def]

theorem lines_ne_nil (source : String) : lines source ≠ [] := by
  simp [lines, List.splitOn_ne_nil]

/-- No line holds a newline. -/
theorem newline_not_mem_splitOn :
    ∀ (cs : List Char), ∀ l ∈ cs.splitOn '\n', '\n' ∉ l
  | [] => by simp
  | c :: cs => by
    have ih := newline_not_mem_splitOn cs
    rw [List.splitOn_cons_eq_if_modifyHead]
    split
    · intro l hl
      rcases List.mem_cons.1 hl with rfl | hl
      · simp
      · exact ih l hl
    · rename_i hc
      have hne := List.splitOn_ne_nil '\n' cs
      generalize cs.splitOn '\n' = ls at ih hne
      obtain ⟨l0, rest, rfl⟩ := List.exists_cons_of_ne_nil hne
      intro l hl
      simp only [List.modifyHead_cons, List.mem_cons] at hl
      rcases hl with rfl | hl
      · simp only [List.mem_cons, not_or]
        exact ⟨fun h => by subst h; simp at hc, ih l0 List.mem_cons_self⟩
      · exact ih l (List.mem_cons_of_mem _ hl)

theorem newline_not_mem_lines (source : String) : ∀ l ∈ lines source, '\n' ∉ l.toList := by
  intro l hl
  obtain ⟨cs, hcs, rfl⟩ := List.mem_map.1 hl
  rw [String.toList_ofList]
  exact newline_not_mem_splitOn _ cs hcs

section Lines

theorem getD_mem_of_lt {ls : List String} {k : Nat} (hk : k < ls.length) : ls.getD k "" ∈ ls := by
  rw [List.getD_eq_getElem?_getD, List.getElem?_eq_getElem hk]
  exact List.getElem_mem hk

theorem joined_cons_cons (l l' : String) (rest : List String) :
    joined (l :: l' :: rest) = l.toList ++ '\n' :: joined (l' :: rest) := by
  simp [joined, List.intercalate_cons_cons]

theorem length_joined_cons_cons (l l' : String) (rest : List String) :
    (joined (l :: l' :: rest)).length = l.length + 1 + (joined (l' :: rest)).length := by
  rw [joined_cons_cons]
  simp only [List.length_append, List.length_cons, String.length_toList]
  omega

/-- The text before a place: the earlier lines, each with its newline, and the start of its
own line. By induction over the lines. -/
theorem take_joined :
    ∀ {ls : List String} {k c : Nat}, k < ls.length → c ≤ (ls.getD k "").length →
      (joined ls).take (lineStart ls k + c) =
        (ls.take k).flatMap (fun l => l.toList ++ ['\n']) ++ (ls.getD k "").toList.take c
  | [], _, _, hk, _ => absurd hk (Nat.not_lt_zero _)
  | [l], 0, c, _, hc => by
    simp [joined, lineStart]
  | l :: l' :: rest, 0, c, _, hc => by
    simp only [List.getD_cons_zero] at hc
    rw [joined_cons_cons, lineStart, Nat.zero_add,
      List.take_append_of_le_length (by rw [String.length_toList]; exact hc)]
    simp
  | l :: rest, k + 1, c, hk, hc => by
    have hrest : rest ≠ [] := by
      rintro rfl
      simp at hk
    obtain ⟨l', rest', rfl⟩ := List.exists_cons_of_ne_nil hrest
    simp only [List.length_cons, Nat.add_lt_add_iff_right] at hk
    have ih : (joined (l' :: rest')).take (lineStart (l' :: rest') k + c) = _ := take_joined hk hc
    rw [joined_cons_cons, lineStart, show l.length + 1 + lineStart (l' :: rest') k + c =
      l.toList.length + (lineStart (l' :: rest') k + c + 1) by rw [String.length_toList]; omega,
      List.take_length_add_append, List.take_succ_cons, ih]
    simp

theorem count_newline_flatMap :
    ∀ {ls : List String}, (∀ l ∈ ls, '\n' ∉ l.toList) →
      (ls.flatMap fun l => l.toList ++ ['\n']).count '\n' = ls.length
  | [], _ => rfl
  | l :: ls, h => by
    have hl : l.toList.count '\n' = 0 := List.count_eq_zero.2 (h l List.mem_cons_self)
    rw [List.flatMap_cons, List.count_append, List.count_append,
      count_newline_flatMap fun l' hl' => h l' (List.mem_cons_of_mem _ hl'), hl]
    simp
    omega

/-- Reading back from the end of the earlier lines meets a newline at once. -/
theorem takeWhile_reverse_flatMap (ls : List String) :
    (ls.flatMap fun l => l.toList ++ ['\n']).reverse.takeWhile (· ≠ '\n') = [] := by
  rcases List.eq_nil_or_concat ls with rfl | ⟨ls', l, rfl⟩
  · simp
  · simp [List.flatMap_append]

end Lines

theorem lineColumn_eq (source : String) (start : Int) :
    lineColumn source start =
      ((source.toList.take (clampOffset source start)).count '\n' + 1,
        clampOffset source start - ((source.toList.take (clampOffset source start)).length -
          ((source.toList.take (clampOffset source start)).reverse.takeWhile
            (· ≠ '\n')).length) + 1) := rfl

/-- `lineColumn` finds the place of an offset: the newlines before it give the line, and the
characters after the last of them the column. -/
theorem lineColumn_of_isPlace {source : String} {start : Int} {line col : Nat}
    (h : IsPlace (lines source) (clampOffset source start) line col) :
    lineColumn source start = (line, col) := by
  obtain ⟨hline1, hline, hcol1, hcol, hoff⟩ := h
  have hk : line - 1 < (lines source).length := by omega
  have hc : col - 1 ≤ ((lines source).getD (line - 1) "").length := by omega
  have htake := take_joined hk hc
  rw [← hoff, joined_lines] at htake
  have hnl := newline_not_mem_lines source
  have hw : '\n' ∉ (((lines source).getD (line - 1) "").toList.take (col - 1)) := fun hm =>
    hnl _ (getD_mem_of_lt hk) (List.mem_of_mem_take hm)
  have hcount : (source.toList.take (clampOffset source start)).count '\n' = line - 1 := by
    rw [htake, List.count_append, count_newline_flatMap fun l hl => hnl l (List.mem_of_mem_take hl),
      List.count_eq_zero.2 hw, List.length_take_of_le (Nat.le_of_lt hk)]
    rfl
  have hback : ((source.toList.take (clampOffset source start)).reverse.takeWhile
      (· ≠ '\n')).length = col - 1 := by
    rw [htake, List.reverse_append, List.takeWhile_append_of_pos, takeWhile_reverse_flatMap]
    · simp only [List.append_nil, List.length_reverse, List.length_take, String.length_toList]
      omega
    · intro a ha
      have ha : a ∈ ((lines source).getD (line - 1) "").toList.take (col - 1) :=
        List.mem_reverse.1 ha
      simp only [ne_eq, decide_eq_true_eq]
      rintro rfl
      exact hw ha
  have hlen : (source.toList.take (clampOffset source start)).length = clampOffset source start :=
    List.length_take_of_le (clampOffset_le source start)
  have hle : col - 1 ≤ clampOffset source start := by omega
  rw [lineColumn_eq, hcount, hback, hlen, Prod.mk.injEq]
  omega

/-- Every offset up to the length of a text has a place. By induction over the lines. -/
theorem exists_isPlace :
    ∀ {ls : List String}, ls ≠ [] → ∀ off ≤ (joined ls).length, ∃ line col, IsPlace ls off line col
  | [], hls, _, _ => absurd rfl hls
  | [l], _, off, hoff => by
    refine ⟨1, off + 1, ?_⟩
    simp only [joined, List.map_cons, List.map_nil, List.intercalate_singleton,
      String.length_toList] at hoff
    simp only [IsPlace, List.length_cons, List.length_nil, Nat.sub_self, List.getD_cons_zero,
      lineStart, Nat.add_sub_cancel]
    omega
  | l :: l' :: rest, _, off, hoff => by
    by_cases hfirst : off ≤ l.length
    · refine ⟨1, off + 1, ?_⟩
      simp only [IsPlace, List.length_cons, Nat.sub_self, List.getD_cons_zero, lineStart,
        Nat.add_sub_cancel]
      omega
    · rw [length_joined_cons_cons] at hoff
      -- the offset lies past the first line: its place in the other lines, one line down
      obtain ⟨line, col, hline1, hline, hcol1, hcol, hpos⟩ :=
        exists_isPlace (List.cons_ne_nil l' rest) (off - (l.length + 1)) (by omega)
      obtain ⟨k, rfl⟩ : ∃ k, line = k + 1 := ⟨line - 1, by omega⟩
      simp only [Nat.add_sub_cancel] at hcol hpos
      refine ⟨k + 2, col, by omega, by simp at hline ⊢; omega, hcol1, by simpa using hcol, ?_⟩
      show off = lineStart (l :: l' :: rest) (k + 1) + (col - 1)
      rw [lineStart]
      omega

/-- The place `lineColumn` gives is the only place of the clamped offset. -/
theorem lineColumn_eq_iff (source : String) (start : Int) (line col : Nat) :
    lineColumn source start = (line, col) ↔
      IsPlace (lines source) (clampOffset source start) line col := by
  obtain ⟨line', col', hplace⟩ := exists_isPlace (lines_ne_nil source) (clampOffset source start)
    (by rw [joined_lines]; exact clampOffset_le source start)
  rw [lineColumn_of_isPlace hplace, Prod.mk.injEq]
  constructor
  · rintro ⟨rfl, rfl⟩
    exact hplace
  · intro h
    have := lineColumn_of_isPlace h
    rw [lineColumn_of_isPlace hplace, Prod.mk.injEq] at this
    exact ⟨this.1, this.2⟩

/-- A diagnostic points at the place of its span's start: the line and column named are the
only place of the offset clamped into the text, the line shown is that line of the text (never
the whole text), the carets start under the column and stop at most one past the end of the
line, and the expected items follow strictly sorted and without repeats. -/
theorem render_points_at_its_place (source message : String) (start stop : Int)
    (expected : List String) :
    (∀ line col, lineColumn source start = (line, col) ↔
      IsPlace (lines source) (clampOffset source start) line col) ∧
    ∃ line col text items,
      lineColumn source start = (line, col) ∧ (lines source)[line - 1]? = some text ∧
      items.Pairwise (· < ·) ∧ (∀ x, x ∈ items ↔ x ∈ expected) ∧
      col - 1 + (max 1 (min (stop - start) ((text.length : Int) + 1 - col))).toNat ≤
        text.length + 1 ∧
      render source start stop message expected =
        message ++ " (line " ++ toString line ++ ", column " ++ toString col ++ ")\n\n" ++ text ++
          "\n" ++ String.ofList (List.replicate (col - 1) ' ' ++
            List.replicate (max 1 (min (stop - start) ((text.length : Int) + 1 - col))).toNat '^') ++
          (if items = [] then "" else "\nexpected one of: " ++ String.intercalate ", " items) := by
  refine ⟨lineColumn_eq_iff source start, ?_⟩
  generalize hlc : lineColumn source start = lc
  obtain ⟨line, col⟩ := lc
  obtain ⟨hline1, hline, hcol1, hcol, -⟩ := (lineColumn_eq_iff source start line col).1 hlc
  -- the line shown exists, so `lineText` does not fall back to the whole text
  have htext : (lines source)[line - 1]? = some ((lines source).getD (line - 1) "") := by
    rw [List.getD_eq_getElem?_getD, List.getElem?_eq_getElem (by omega)]
    rfl
  refine ⟨line, col, _, sortedDistinct expected, rfl, htext, pairwise_sortedDistinct expected,
    fun _ => mem_sortedDistinct, by omega, ?_⟩
  simp only [render, hlc, lineText, htext, Option.getD_some]
  cases sortedDistinct expected with
  | nil => rw [if_pos rfl, String.append_empty]; rfl
  | cons item items => rw [if_neg (List.cons_ne_nil item items), ← String.append_assoc]; rfl

end JsonPath.Diagnostic
