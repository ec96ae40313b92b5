import JsonPath.Proofs.CanonicalLexing

/-!
# What a canonical text reads back as

Reading back the canonical text of a query gives the query again, up to two things. The
spans that calls record are those of the new text, so they are compared cleared
(`Query.eraseSpans`). And a conjunction whose right operand is a conjunction is printed
without parentheses, `a && b && c`, which reads as `(a && b) && c`: reading back groups every
chain of conjunctions to the left (`Query.normalize`).

This module defines both forms and what the grammar's checks do to operands read in this
way. Used as a test, as a side of a comparison or as an argument, an operand read from `e`
gives `e` normalized (`asLogical_readFrom`, `asComparable_readFrom`, `asArgument_readFrom`),
and operands joined from the left give their chain normalized (`joinLogical_readFrom`).
A chain of conjunctions or of disjunctions normalizes to its operands joined from the left
(`Expr.normalize_eq_conjuncts`, `Expr.normalize_eq_disjuncts`).
-/

set_option autoImplicit false

namespace JsonPath

open Syntax

/-! ## Spans cleared, conjunctions grouped to the left -/

mutual

/-- A selector with the spans of its calls cleared. -/
def Selector.eraseSpans : Selector → Selector
  | .filter e => .filter e.eraseSpans
  | s => s

/-- Selectors with the spans of their calls cleared. -/
def Selector.eraseSpansList : List Selector → List Selector
  | [] => []
  | s :: rest => s.eraseSpans :: Selector.eraseSpansList rest

/-- A segment with the spans of its calls cleared. -/
def Segment.eraseSpans : Segment → Segment
  | .child sels => .child (Selector.eraseSpansList sels)
  | .descendant sels => .descendant (Selector.eraseSpansList sels)

/-- Segments with the spans of their calls cleared. -/
def Segment.eraseSpansList : List Segment → List Segment
  | [] => []
  | s :: rest => s.eraseSpans :: Segment.eraseSpansList rest

/-- A query with the spans of its calls cleared. -/
def Query.eraseSpans : Query → Query
  | .mk root segs => .mk root (Segment.eraseSpansList segs)

/-- An expression with the spans of its calls cleared. -/
def Expr.eraseSpans : Expr → Expr
  | .query q => .query q.eraseSpans
  | .literal v => .literal v
  | .call name args res _ => .call name (Expr.eraseSpansList args) res ⟨0, 0⟩
  | .test q => .test q.eraseSpans
  | .compare l op r => .compare l.eraseSpans op r.eraseSpans
  | .not e => .not e.eraseSpans
  | .and l r => .and l.eraseSpans r.eraseSpans
  | .or l r => .or l.eraseSpans r.eraseSpans

/-- Expressions with the spans of their calls cleared. -/
def Expr.eraseSpansList : List Expr → List Expr
  | [] => []
  | e :: rest => e.eraseSpans :: Expr.eraseSpansList rest

end

/-- `acc` conjoined with the conjuncts of `e`, one after the other; for a conjunction grouped
to the left, the chain `acc && c₁ && … && cₙ` grouped to the left. -/
def Expr.andOnto (acc : Expr) : Expr → Expr
  | .and l r => .and (acc.andOnto l) r
  | e => .and acc e

mutual

/-- A selector as it reads back from its canonical text. -/
def Selector.normalize : Selector → Selector
  | .filter e => .filter e.normalize
  | s => s

/-- Selectors as they read back. -/
def Selector.normalizeList : List Selector → List Selector
  | [] => []
  | s :: rest => s.normalize :: Selector.normalizeList rest

/-- A segment as it reads back. -/
def Segment.normalize : Segment → Segment
  | .child sels => .child (Selector.normalizeList sels)
  | .descendant sels => .descendant (Selector.normalizeList sels)

/-- Segments as they read back. -/
def Segment.normalizeList : List Segment → List Segment
  | [] => []
  | s :: rest => s.normalize :: Segment.normalizeList rest

/-- A query as it reads back from its canonical text: spans cleared, and every chain of
conjunctions grouped to the left. -/
def Query.normalize : Query → Query
  | .mk root segs => .mk root (Segment.normalizeList segs)

/-- An expression as it reads back from its canonical text. -/
def Expr.normalize : Expr → Expr
  | .query q => .query q.normalize
  | .literal v => .literal v
  | .call name args res _ => .call name (Expr.normalizeList args) res ⟨0, 0⟩
  | .test q => .test q.normalize
  | .compare l op r => .compare l.normalize op r.normalize
  | .not e => .not e.normalize
  | .and l r => l.normalize.andOnto r.normalize
  | .or l r => .or l.normalize r.normalize

/-- Expressions as they read back. -/
def Expr.normalizeList : List Expr → List Expr
  | [] => []
  | e :: rest => e.normalize :: Expr.normalizeList rest

end

/-- An expression as an expression rule returns it, before it is used as a test: a test of a
query is returned as the query. -/
def Expr.raw : Expr → Expr
  | .test q => .query q
  | e => e

/-! ## The constructor is kept -/

@[simp] theorem Expr.ctorIdx_eraseSpans (e : Expr) : e.eraseSpans.ctorIdx = e.ctorIdx := by
  cases e <;> rfl

@[simp] theorem Expr.ctorIdx_andOnto (acc e : Expr) :
    (acc.andOnto e).ctorIdx = (Expr.and acc e).ctorIdx := by
  cases e <;> rfl

@[simp] theorem Expr.ctorIdx_normalize (e : Expr) : e.normalize.ctorIdx = e.ctorIdx := by
  cases e with
  | and l r => exact Expr.ctorIdx_andOnto _ _
  | _ => rfl

theorem Segment.isSingular_eraseSpans (s : Segment) : s.eraseSpans.isSingular = s.isSingular := by
  rcases s with (_ | ⟨x, _ | ⟨y, rest⟩⟩) | sels
  · rfl
  · cases x <;> rfl
  · cases x <;> rfl
  · rfl

theorem Segment.isSingular_normalize (s : Segment) : s.normalize.isSingular = s.isSingular := by
  rcases s with (_ | ⟨x, _ | ⟨y, rest⟩⟩) | sels
  · rfl
  · cases x <;> rfl
  · cases x <;> rfl
  · rfl

@[simp] theorem Query.isSingular_eraseSpans (q : Query) : q.eraseSpans.isSingular = q.isSingular := by
  obtain ⟨root, segs⟩ := q
  simp only [Query.eraseSpans, Query.isSingular, Query.segments]
  induction segs with
  | nil => rfl
  | cons s rest ih => simp [Segment.eraseSpansList, Segment.isSingular_eraseSpans, ih]

@[simp] theorem Query.isSingular_normalize (q : Query) : q.normalize.isSingular = q.isSingular := by
  obtain ⟨root, segs⟩ := q
  simp only [Query.normalize, Query.isSingular, Query.segments]
  induction segs with
  | nil => rfl
  | cons s rest ih => simp [Segment.normalizeList, Segment.isSingular_normalize, ih]

/-! ## Chains of disjunctions and conjunctions -/

/-- The first operand of a chain of disjunctions. -/
def Expr.firstDisjunct : Expr → Expr
  | .or l _ => l.firstDisjunct
  | e => e

/-- The further operands of a chain of disjunctions, from the left; a disjunction standing
as a right operand is one of them. -/
def Expr.moreDisjuncts : Expr → List Expr
  | .or l r => l.moreDisjuncts ++ [r]
  | _ => []

/-- The first operand of a chain of conjunctions. -/
def Expr.firstConjunct : Expr → Expr
  | .and l _ => l.firstConjunct
  | e => e

/-- The further operands of a chain of conjunctions, from the left, right operands included. -/
def Expr.moreConjuncts : Expr → List Expr
  | .and l r => l.moreConjuncts ++ r.firstConjunct :: r.moreConjuncts
  | _ => []

/-- Pieces of items, each after the separator `sep`. -/
def Syntax.Piece.afterEach {α : Type} (sep : List Piece) (f : α → List Piece) :
    List α → List Piece
  | [] => []
  | x :: xs => sep ++ (f x ++ Piece.afterEach sep f xs)

/-- The pieces a primary is read from: a query, a literal or a call as it stands, any other
expression between parentheses. -/
def Expr.primaryPieces (e : Expr) : List Piece :=
  match e with
  | .query _ | .literal _ | .call .. | .test _ => e.pieces
  | _ => Piece.parens e.pieces

@[simp] theorem Syntax.Piece.afterEach_nil {α : Type} (sep : List Piece) (f : α → List Piece) :
    Piece.afterEach sep f [] = [] := rfl

theorem Selector.listPieces_cons (s : Selector) (rest : List Selector) :
    Selector.listPieces (s :: rest) =
      s.pieces ++ Piece.afterEach [.mark .comma, .blank] Selector.pieces rest := by
  induction rest generalizing s with
  | nil => simp [Selector.listPieces]
  | cons t rest ih => simp [Selector.listPieces_cons_cons, ih, Piece.afterEach]

theorem Expr.listPieces_cons (e : Expr) (rest : List Expr) :
    Expr.listPieces (e :: rest) =
      e.pieces ++ Piece.afterEach [.mark .comma, .blank] Expr.pieces rest := by
  induction rest generalizing e with
  | nil => simp [Expr.listPieces]
  | cons t rest ih => simp [Expr.listPieces_cons_cons, ih, Piece.afterEach]

theorem Expr.firstConjunct_ne_and (e : Expr) : ∀ l r, e.firstConjunct ≠ .and l r := by
  induction e using Expr.firstConjunct.induct with
  | case1 l _ ih => exact ih
  | case2 e he => intro l r h; simp only [Expr.firstConjunct] at h; exact he l _ h

/-! ## Normalizing a chain -/

theorem Expr.andOnto_of_ne_and {acc e : Expr} (h : ∀ l r, e ≠ .and l r) :
    acc.andOnto e = .and acc e := by
  cases e with
  | and l r => exact absurd rfl (h l r)
  | _ => rfl

theorem Expr.normalize_ne_and {e : Expr} (h : ∀ l r, e ≠ .and l r) :
    ∀ l r, e.normalize ≠ .and l r := by
  intro l r hn
  have hc := congrArg Expr.ctorIdx hn
  rw [Expr.ctorIdx_normalize] at hc
  cases e with
  | and l' r' => exact h l' r' rfl
  | _ => cases hc

theorem Expr.andOnto_foldl (acc : Expr) :
    ∀ (xs : List Expr) (y : Expr), acc.andOnto (xs.foldl (fun a x => .and a x.normalize) y) =
      xs.foldl (fun a x => .and a x.normalize) (acc.andOnto y)
  | [], _ => rfl
  | x :: xs, y => by
    simp only [List.foldl_cons]
    rw [Expr.andOnto_foldl acc xs]
    rfl

/-- A chain of conjunctions reads back as its conjuncts joined from the left. -/
theorem Expr.normalize_eq_conjuncts : ∀ e : Expr,
    e.normalize = e.moreConjuncts.foldl (fun a x => .and a x.normalize) e.firstConjunct.normalize
  | .and l r => by
    show l.normalize.andOnto r.normalize = _
    rw [Expr.normalize_eq_conjuncts l, Expr.normalize_eq_conjuncts r, Expr.andOnto_foldl,
      Expr.andOnto_of_ne_and (Expr.normalize_ne_and (Expr.firstConjunct_ne_and r))]
    simp [Expr.firstConjunct, Expr.moreConjuncts, List.foldl_append]
  | .query _ | .literal _ | .call .. | .test _ | .compare .. | .not _ | .or .. => rfl

/-- A chain of disjunctions reads back as its disjuncts joined from the left. -/
theorem Expr.normalize_eq_disjuncts : ∀ e : Expr,
    e.normalize = e.moreDisjuncts.foldl (fun a x => .or a x.normalize) e.firstDisjunct.normalize
  | .or l r => by
    show Expr.or l.normalize r.normalize = _
    rw [Expr.normalize_eq_disjuncts l]
    simp [Expr.firstDisjunct, Expr.moreDisjuncts, List.foldl_append]
  | .query _ | .literal _ | .call .. | .test _ | .compare .. | .not _ | .and .. => rfl

/-! ## The operands of a chain are well formed -/

section Chains

variable {reg : Registry}

theorem Expr.exists_or_of_moreDisjuncts_ne_nil {e : Expr} (h : e.moreDisjuncts ≠ []) :
    ∃ l r, e = .or l r := by
  cases e with
  | or l r => exact ⟨l, r, rfl⟩
  | _ => exact absurd rfl h

theorem Expr.firstDisjunct_of_moreDisjuncts_eq_nil {e : Expr} (h : e.moreDisjuncts = []) :
    e.firstDisjunct = e := by
  cases e with
  | or l r => simp [Expr.moreDisjuncts] at h
  | _ => rfl

theorem Expr.logical_of_mem_moreDisjuncts :
    ∀ {e x : Expr}, e.Operand reg → x ∈ e.moreDisjuncts → x.Logical reg
  | .or l r, x, h, hx => by
    have hlr := Expr.operand_or.1 h
    simp only [Expr.moreDisjuncts, List.mem_append, List.mem_singleton] at hx
    rcases hx with hx | rfl
    · exact Expr.logical_of_mem_moreDisjuncts (.inl hlr.1) hx
    · exact hlr.2
  | .query _, _, _, hx | .literal _, _, _, hx | .call .., _, _, hx | .test _, _, _, hx
  | .compare .., _, _, hx | .not _, _, _, hx | .and .., _, _, hx => by
    simp [Expr.moreDisjuncts] at hx

theorem Expr.exists_and_of_moreConjuncts_ne_nil {e : Expr} (h : e.moreConjuncts ≠ []) :
    ∃ l r, e = .and l r := by
  cases e with
  | and l r => exact ⟨l, r, rfl⟩
  | _ => exact absurd rfl h

theorem Expr.firstConjunct_of_moreConjuncts_eq_nil {e : Expr} (h : e.moreConjuncts = []) :
    e.firstConjunct = e := by
  cases e with
  | and l r => simp [Expr.moreConjuncts] at h
  | _ => rfl

theorem Expr.logical_firstConjunct : ∀ {e : Expr}, e.Logical reg → e.firstConjunct.Logical reg
  | .and l _, h => by
    rw [Expr.Logical] at h
    exact Expr.logical_firstConjunct (e := l) h.1
  | .query _, h | .literal _, h | .call .., h | .test _, h | .compare .., h | .not _, h
  | .or .., h => h

theorem Expr.logical_of_mem_moreConjuncts :
    ∀ {e x : Expr}, e.Operand reg → x ∈ e.moreConjuncts → x.Logical reg ∧ ∀ l r, x ≠ .and l r
  | .and l r, x, h, hx => by
    have hlr := Expr.operand_and.1 h
    simp only [Expr.moreConjuncts, List.mem_append, List.mem_cons] at hx
    rcases hx with hx | rfl | hx
    · exact Expr.logical_of_mem_moreConjuncts (.inl hlr.1) hx
    · exact ⟨Expr.logical_firstConjunct hlr.2, Expr.firstConjunct_ne_and r⟩
    · exact Expr.logical_of_mem_moreConjuncts (.inl hlr.2) hx
  | .query _, _, _, hx | .literal _, _, _, hx | .call .., _, _, hx | .test _, _, _, hx
  | .compare .., _, _, hx | .not _, _, _, hx | .or .., _, _, hx => by
    simp [Expr.moreConjuncts] at hx

theorem Expr.notPieces_eq_primaryPieces {e : Expr} (he : e.Logical reg) (hn : ∀ x, e ≠ .not x) :
    e.notPieces = e.primaryPieces := by
  cases e with
  | query _ => simp [Expr.Logical] at he
  | literal _ => simp [Expr.Logical] at he
  | not x => exact absurd rfl (hn x)
  | _ => rfl

end Chains

/-! ## The grammar's checks on operands read back -/

section Checks

variable {reg : Registry}

/-- An expression erasing to a literal is that literal. -/
theorem Expr.eq_literal_of_eraseSpans {o : Expr} {v : Value}
    (h : o.eraseSpans = (Expr.literal v).normalize) : o = .literal v := by
  cases o with
  | literal w =>
    simp only [Expr.eraseSpans, Expr.normalize, Expr.literal.injEq] at h
    rw [h]
  | _ => simp [Expr.eraseSpans, Expr.normalize] at h

/-- An expression erasing to the normal form of a call is a call of the same function with the
same result type, its arguments erasing to the normal forms of the call's. -/
theorem Expr.eq_call_of_eraseSpans {o : Expr} {name : String} {args : List Expr}
    {res : ExprType} {span : Span} (h : o.eraseSpans = (Expr.call name args res span).normalize) :
    ∃ args' span', o = .call name args' res span' ∧
      Expr.eraseSpansList args' = Expr.normalizeList args := by
  cases o with
  | call n a r s =>
    simp only [Expr.eraseSpans, Expr.normalize, Expr.call.injEq] at h
    obtain ⟨rfl, ha, rfl, -⟩ := h
    exact ⟨a, s, rfl, ha⟩
  | _ => simp [Expr.eraseSpans, Expr.normalize] at h

/-- An expression erasing to the normal form of a query is a query erasing to it. -/
theorem Expr.eq_query_of_eraseSpans {o : Expr} {q : Query}
    (h : o.eraseSpans = (Expr.query q).normalize) :
    ∃ q', o = .query q' ∧ q'.eraseSpans = q.normalize := by
  cases o with
  | query q' =>
    simp only [Expr.eraseSpans, Expr.normalize, Expr.query.injEq] at h
    exact ⟨q', rfl, h⟩
  | _ => simp [Expr.eraseSpans, Expr.normalize] at h

/-- A logical parameter takes what a test position takes, as the test takes it. -/
theorem asArgument_logical_of_asLogical {name : String} {i : Nat} {o : Operand} {f : Frontier}
    {r : Expr × Frontier} (h : (asLogical o).run f = .ok r) :
    (asArgument name i .logical o).run f = .ok r := by
  obtain ⟨oe, span⟩ := o
  cases oe with
  | literal v => cases h
  | call n a res s =>
    cases res with
    | value => cases h
    | logical => exact h
    | nodes => exact h
  | _ => exact h

theorem asLogical_readFrom {o : Operand} {e : Expr} (he : e.Logical reg)
    (h : o.expr.eraseSpans = e.raw.normalize) (f : Frontier) :
    ∃ e', (asLogical o).run f = .ok (e', f) ∧ e'.eraseSpans = e.normalize := by
  obtain ⟨oe, span⟩ := o
  have hc : oe.ctorIdx = e.raw.ctorIdx := by simpa using congrArg Expr.ctorIdx h
  cases e with
  | test q =>
    cases oe <;> cases hc
    exact ⟨.test _, rfl, by simpa [Expr.eraseSpans, Expr.raw, Expr.normalize] using h⟩
  | call n a r s =>
    obtain ⟨a', s', rfl, ha⟩ := Expr.eq_call_of_eraseSpans h
    rw [Expr.Logical] at he
    refine ⟨.call n a' r s', ?_, by simp [Expr.eraseSpans, Expr.normalize, ha]⟩
    cases r with
    | value => exact absurd rfl he.1
    | logical => rfl
    | nodes => rfl
  | compare l op r => cases oe <;> cases hc; exact ⟨_, rfl, h⟩
  | not e => cases oe <;> cases hc; exact ⟨_, rfl, h⟩
  | and l r => cases oe <;> cases hc; exact ⟨_, rfl, h⟩
  | or l r => cases oe <;> cases hc; exact ⟨_, rfl, h⟩
  | query q => simp [Expr.Logical] at he
  | literal v => simp [Expr.Logical] at he

theorem asComparable_readFrom {o : Operand} {e : Expr} (he : e.Comparable reg)
    (h : o.expr.eraseSpans = e.raw.normalize) (f : Frontier) :
    ∃ e', (asComparable o).run f = .ok (e', f) ∧ e'.eraseSpans = e.normalize := by
  obtain ⟨oe, span⟩ := o
  cases e with
  | literal v =>
    obtain rfl := Expr.eq_literal_of_eraseSpans h
    exact ⟨_, rfl, rfl⟩
  | query q =>
    obtain ⟨q', rfl, hq⟩ := Expr.eq_query_of_eraseSpans h
    rw [Expr.Comparable] at he
    have hs : q'.isSingular = true := by
      rw [← Query.isSingular_eraseSpans, hq, Query.isSingular_normalize]
      exact he.1
    refine ⟨.query q', ?_, by simp [Expr.eraseSpans, Expr.normalize, hq]⟩
    simp [asComparable, hs]
    rfl
  | call n a r s =>
    obtain ⟨a', s', rfl, ha⟩ := Expr.eq_call_of_eraseSpans h
    rw [Expr.Comparable] at he
    refine ⟨.call n a' r s', ?_, by simp [Expr.eraseSpans, Expr.normalize, ha]⟩
    simp [asComparable, he.1]
    rfl
  | _ => simp [Expr.Comparable] at he

theorem asArgument_readFrom {name : String} {i : Nat} {param : ExprType} {o : Operand} {e : Expr}
    (he : e.Arg reg param) (h : o.expr.eraseSpans = e.raw.normalize) (f : Frontier) :
    ∃ e', (asArgument name i param o).run f = .ok (e', f) ∧ e'.eraseSpans = e.normalize := by
  cases param with
  | logical =>
    -- a logical parameter accepts what a test position accepts
    have hl : e.Logical reg := by simpa [Expr.Arg] using he
    obtain ⟨e', hrun, herase⟩ := asLogical_readFrom hl h f
    exact ⟨e', asArgument_logical_of_asLogical hrun, herase⟩
  | value =>
    obtain ⟨oe, span⟩ := o
    cases e with
    | literal v =>
      obtain rfl := Expr.eq_literal_of_eraseSpans h
      exact ⟨_, rfl, rfl⟩
    | query q =>
      obtain ⟨q', rfl, hq⟩ := Expr.eq_query_of_eraseSpans h
      exact ⟨.query q', rfl, by simpa [Expr.eraseSpans, Expr.normalize] using hq⟩
    | call n a r s =>
      obtain ⟨a', s', rfl, ha⟩ := Expr.eq_call_of_eraseSpans h
      rw [Expr.Arg] at he
      refine ⟨.call n a' r s', ?_, by simp [Expr.eraseSpans, Expr.normalize, ha]⟩
      simp [asArgument, he.1]
      rfl
    | _ => simp [Expr.Arg] at he
  | nodes =>
    obtain ⟨oe, span⟩ := o
    cases e with
    | query q =>
      obtain ⟨q', rfl, hq⟩ := Expr.eq_query_of_eraseSpans h
      exact ⟨.query q', rfl, by simpa [Expr.eraseSpans, Expr.normalize] using hq⟩
    | call n a r s =>
      obtain ⟨a', s', rfl, ha⟩ := Expr.eq_call_of_eraseSpans h
      rw [Expr.Arg] at he
      refine ⟨.call n a' r s', ?_, by simp [Expr.eraseSpans, Expr.normalize, ha]⟩
      simp [asArgument, he.1]
      rfl
    | _ => simp [Expr.Arg] at he

theorem foldlM_join_readFrom {join : Expr → Expr → Expr}
    (hjoin : ∀ a b, (join a b).eraseSpans = join a.eraseSpans b.eraseSpans)
    {rest : List Operand} {ds : List Expr}
    (hrest : List.Forall₂ (fun o e => o.expr.eraseSpans = e.raw.normalize) rest ds) :
    (∀ x ∈ ds, x.Logical reg) → ∀ (acc : Expr) (f : Frontier),
      ∃ e, (rest.foldlM (fun acc o => do pure (join acc (← asLogical o))) acc).run f =
          .ok (e, f) ∧ e.eraseSpans = ds.foldl (fun a x => join a x.normalize) acc.eraseSpans := by
  induction hrest with
  | nil => intro _ acc f; exact ⟨acc, rfl, rfl⟩
  | @cons o x rest xs ho _ ih =>
    intro hds acc f
    obtain ⟨b, hb, hbe⟩ := asLogical_readFrom (hds x List.mem_cons_self) ho f
    obtain ⟨e, he, hee⟩ := ih (fun y hy => hds y (List.mem_cons_of_mem _ hy)) (join acc b) f
    have hstep : ((do pure (join acc (← asLogical o))) : Grammar Expr).run f = .ok (join acc b, f) := by
      rw [run_bind_of_ok _ hb]
      rfl
    refine ⟨e, ?_, ?_⟩
    · rw [List.foldlM_cons, run_bind_of_ok _ hstep]
      exact he
    · rw [hee, hjoin, hbe]
      rfl

/-- Operands read back from a chain, joined from the left, give the chain read back. -/
theorem joinLogical_readFrom {join : Expr → Expr → Expr}
    (hjoin : ∀ a b, (join a b).eraseSpans = join a.eraseSpans b.eraseSpans)
    {first : Operand} {rest : List Operand} {d : Expr} {ds : List Expr}
    (hfirst : first.expr.eraseSpans = d.raw.normalize) (hd : d.Logical reg)
    (hrest : List.Forall₂ (fun o e => o.expr.eraseSpans = e.raw.normalize) rest ds)
    (hds : ∀ x ∈ ds, x.Logical reg) (hne : ds ≠ []) (f : Frontier) :
    ∃ o, (joinLogical join first rest).run f = .ok (o, f) ∧
      o.expr.eraseSpans = ds.foldl (fun a x => join a x.normalize) d.normalize := by
  obtain ⟨e1, h1, he1⟩ := asLogical_readFrom hd hfirst f
  obtain ⟨e, he, hee⟩ := foldlM_join_readFrom hjoin hrest hds e1 f
  have hlast : rest.getLast? ≠ none := by
    rw [Ne, List.getLast?_eq_none_iff]
    rintro rfl
    exact hne (List.forall₂_nil_left_iff.1 hrest)
  obtain ⟨last, hlast⟩ := Option.ne_none_iff_exists'.1 hlast
  unfold joinLogical
  rw [hlast]
  simp only
  rw [run_bind_of_ok _ h1, run_bind_of_ok _ he]
  exact ⟨_, rfl, by rw [hee, he1]⟩

end Checks

end JsonPath
