import JsonPath.Query.Eval
import JsonPath.Proofs.RoundTrip

/-!
# Normalized paths select their node

The normalized text of a location is the canonical text of a query (`Location.toQuery`):
one child segment per step, with the step's index or name as its only selector. Such a query
is singular, well formed when its indices are in the range the grammar accepts, has no filter
to regroup and nests one bracket deep, so its text reads back as the query itself
(`Location.parse_render`). Following the query from the root of a document visits the steps
of the location one after the other; where the location holds a value, the query selects
exactly the node there, whatever the depth limit (`Location.eval_toQuery`).
-/

set_option autoImplicit false

namespace JsonPath

open Syntax

/-- The selector of a step: its index or its name. -/
def PathStep.selector : PathStep → Selector
  | .index i => .index i
  | .name s => .name s

/-- The segment that takes one step: a child segment with the step's selector alone. -/
def PathStep.toSegment (s : PathStep) : Segment := .child [s.selector]

/-- The query that follows a location from the root of the document. -/
def Location.toQuery (l : Location) : Query := .mk .document (l.map PathStep.toSegment)

/-- A selector whose spans, cleared, give a selector with no filter is that selector. -/
theorem Selector.eq_of_eraseSpans_eq {sel t : Selector} (ht : ∀ e, t ≠ .filter e)
    (h : sel.eraseSpans = t) : sel = t := by
  cases sel with
  | filter e =>
    simp only [Selector.eraseSpans] at h
    exact absurd h.symm (ht e.eraseSpans)
  | _ => exact h

/-! ## The query of a location as text -/

namespace PathStep

theorem selector_ne_filter (s : PathStep) : ∀ e, s.selector ≠ .filter e := by
  cases s <;> simp [selector]

theorem render_toSegment (s : PathStep) : s.toSegment.render = s.render := by
  cases s <;> simp [toSegment, selector, Segment.render, Selector.renderList, Selector.render,
    render, String.append_assoc] <;> rfl

theorem isSingular_toSegment (s : PathStep) : s.toSegment.isSingular = true := by
  cases s <;> rfl

theorem normalize_toSegment (s : PathStep) : s.toSegment.normalize = s.toSegment := by
  cases s <;> rfl

/-- A step's segment is well formed when an index step is in the grammar's range. -/
theorem wf_toSegment {reg : Registry} {s : PathStep}
    (h : ∀ i, s = .index i → (i : Int) ≤ maxIndex) :
    s.toSegment.WF reg := by
  cases s with
  | index i =>
    have hi := h i rfl
    have hmax : (0 : Int) ≤ maxIndex := by decide
    simp only [toSegment, selector, Segment.WF, Selector.WFList, Selector.WF, InIndexRange]
    exact ⟨List.cons_ne_nil _ _, ⟨by omega, hi⟩, trivial⟩
  | name s => simp [toSegment, selector, Segment.WF, Selector.WFList, Selector.WF]

/-- A segment whose spans, cleared, give a step's segment is that segment. -/
theorem eq_toSegment_of_eraseSpans {seg : Segment} {s : PathStep}
    (h : seg.eraseSpans = s.toSegment) : seg = s.toSegment := by
  cases seg with
  | descendant sels => simp [Segment.eraseSpans, toSegment] at h
  | child sels =>
    simp only [Segment.eraseSpans, toSegment, Segment.child.injEq] at h
    match sels, h with
    | [sel], h =>
      simp only [Selector.eraseSpansList, List.cons.injEq, and_true] at h
      rw [Selector.eq_of_eraseSpans_eq (selector_ne_filter s) h]
      rfl
    | [], h => simp [Selector.eraseSpansList] at h
    | _ :: _ :: _, h => simp [Selector.eraseSpansList] at h

end PathStep

namespace Location

theorem render_toQuery (l : Location) : l.toQuery.render = l.render := by
  have hsegs : ∀ l : Location,
      Segment.renderList (l.map PathStep.toSegment) = String.join (l.map PathStep.render) := by
    intro l
    induction l with
    | nil => rfl
    | cons s rest ih =>
      simp [Segment.renderList, PathStep.render_toSegment, ih, String.join_cons]
  simp [toQuery, Query.render, render, hsegs]

theorem isSingular_toQuery (l : Location) : l.toQuery.isSingular = true := by
  simp [toQuery, Query.isSingular, Query.segments, PathStep.isSingular_toSegment]

theorem root_toQuery (l : Location) : l.toQuery.root = .document := rfl

theorem wf_toQuery {reg : Registry} {l : Location}
    (h : ∀ i, PathStep.index i ∈ l → (i : Int) ≤ maxIndex) : l.toQuery.WF reg := by
  simp only [toQuery, Query.WF]
  induction l with
  | nil => simp [Segment.WFList]
  | cons s rest ih =>
    simp only [List.map_cons, Segment.WFList]
    refine ⟨PathStep.wf_toSegment fun i hi => h i (hi ▸ List.mem_cons_self), ?_⟩
    exact ih fun i hi => h i (List.mem_cons_of_mem s hi)

/-- Each step opens and closes one bracket, so the text nests one bracket deep. -/
theorem nesting_toQuery (l : Location) : l.toQuery.nesting ≤ 1 := by
  have hsegs : ∀ l : Location,
      Piece.nesting 0 (Segment.listPieces (l.map PathStep.toSegment)) ≤ 1 := by
    intro l
    induction l with
    | nil => simp [Segment.listPieces, Piece.nesting]
    | cons s rest ih =>
      cases s <;>
        simp [PathStep.toSegment, PathStep.selector, Segment.listPieces, Segment.pieces,
          Selector.listPieces, Selector.pieces, Piece.int, Piece.mark, Piece.nesting,
          Lexeme.kind, ih]
  simpa [Query.nesting, toQuery, Query.pieces, Piece.mark, Piece.nesting, Lexeme.kind] using
    hsegs l

theorem normalize_toQuery (l : Location) : l.toQuery.normalize = l.toQuery := by
  have hsegs : ∀ l : Location,
      Segment.normalizeList (l.map PathStep.toSegment) = l.map PathStep.toSegment := by
    intro l
    induction l with
    | nil => rfl
    | cons s rest ih => simp [Segment.normalizeList, PathStep.normalize_toSegment, ih]
  simp [toQuery, Query.normalize, hsegs]

/-- A query whose spans, cleared, give the query of a location is that query. -/
theorem eq_toQuery_of_eraseSpans {q : Query} {l : Location} (h : q.eraseSpans = l.toQuery) :
    q = l.toQuery := by
  have hsegs : ∀ (l : Location) (segs : List Segment),
      Segment.eraseSpansList segs = l.map PathStep.toSegment →
        segs = l.map PathStep.toSegment := by
    intro l
    induction l with
    | nil =>
      intro segs h
      cases segs <;> simp_all [Segment.eraseSpansList]
    | cons s rest ih =>
      intro segs h
      cases segs with
      | nil => simp [Segment.eraseSpansList] at h
      | cons seg segs =>
        simp only [Segment.eraseSpansList, List.map_cons, List.cons.injEq] at h
        rw [PathStep.eq_toSegment_of_eraseSpans h.1, ih segs h.2, List.map_cons]
  obtain ⟨root, segs⟩ := q
  simp only [Query.eraseSpans, toQuery, Query.mk.injEq] at h
  rw [h.1, hsegs l segs h.2]
  rfl

/-- The normalized text of a location whose indices the grammar accepts reads as the query of
the location, with any registry. -/
theorem parse_render {reg : Registry} {l : Location}
    (h : ∀ i, PathStep.index i ∈ l → (i : Int) ≤ maxIndex) :
    Query.parse reg l.render = .ok l.toQuery := by
  have hn : l.toQuery.nesting ≤ maxNesting := (nesting_toQuery l).trans (by decide)
  obtain ⟨q, hparse, herase⟩ := Query.parse_render (wf_toQuery h) (root_toQuery l) hn
  rw [render_toQuery] at hparse
  rw [hparse, eq_toQuery_of_eraseSpans (herase.trans (normalize_toQuery l))]

end Location

/-! ## Following a location -/

/-- The selector of a step applied to a node selects the child there, if any. -/
theorem PathStep.eval_selector (ctx : EvalContext) (n : Node) (s : PathStep) :
    s.selector.eval ctx n =
      .ok ((s.child? n.value).toList.map fun w => ⟨w, n.location ++ [s]⟩) := by
  obtain ⟨v, loc⟩ := n
  cases s with
  | index i =>
    have hi : ¬ (i : Int) < 0 := by omega
    cases v <;> simp only [selector, Selector.eval, Node.selectIndex, child?] <;> try rfl
    case arr items =>
      simp only [ge_iff_le, Int.natCast_nonneg, if_true, hi, if_false, Int.toNat_natCast]
      cases items[i]? <;> rfl
  | name s =>
    cases v <;> simp only [selector, Selector.eval, Node.selectName, child?] <;> try rfl
    case obj members => cases Value.lookup members s <;> rfl

/-- The segment of a step applied to one node selects the child there, if any. -/
theorem PathStep.eval_toSegment (ctx : EvalContext) (n : Node) (s : PathStep) :
    s.toSegment.eval ctx [n] =
      .ok ((s.child? n.value).toList.map fun w => ⟨w, n.location ++ [s]⟩) := by
  simp [toSegment, Segment.eval, Selector.evalList, eval_selector, bind, Except.bind, pure,
    Except.pure]

/-- The segments of a location applied to a node select the node at the location below it.
The induction is on the location, from its first step. -/
theorem Location.evalList_toSegments (ctx : EvalContext) :
    ∀ (l : Location) (n : Node) (v : Value), l.get? n.value = some v →
      Segment.evalList (l.map PathStep.toSegment) ctx [n] = .ok [⟨v, n.location ++ l⟩]
  | [], n, v, h => by
    simp only [get?, Option.some.injEq] at h
    subst h
    simp only [List.map_nil, Segment.evalList, List.append_nil]
    rfl
  | s :: rest, n, v, h => by
    obtain ⟨w, hw, hrest⟩ := Option.bind_eq_some_iff.1 h
    have hstep := PathStep.eval_toSegment ctx n s
    rw [hw] at hstep
    have ih := Location.evalList_toSegments ctx rest ⟨w, n.location ++ [s]⟩ v hrest
    simp only [List.append_assoc, List.singleton_append] at ih
    simp only [List.map_cons, Segment.evalList, hstep, Option.toList_some, List.map_nil]
    exact ih

/-- Where a location holds a value, its query selects exactly the node there, whatever the
depth limit. -/
theorem Location.eval_toQuery {reg : Registry} {maxDepth : Int} {root v : Value} {l : Location}
    (h : l.get? root = some v) : l.toQuery.eval reg maxDepth root = .ok [⟨v, l⟩] := by
  simpa [Query.eval, Query.root, Query.evalAt, toQuery] using
    Location.evalList_toSegments ⟨root, reg, maxDepth, 0⟩ l ⟨root, []⟩ v h

/-- The normalized text of a location of a document, whose indices the grammar accepts, reads
with any registry as a singular query, and that query, evaluated on the document with any depth
limit, selects exactly one node: the one at the location, with the value there. -/
theorem Location.render_selects_its_node {reg : Registry} {root v : Value} {p : Location}
    (hv : p.get? root = some v) (hidx : ∀ i, PathStep.index i ∈ p → (i : Int) ≤ maxIndex) :
    ∃ q, Query.parse reg p.render = .ok q ∧ q.isSingular = true ∧
      ∀ maxDepth, q.eval reg maxDepth root = .ok [⟨v, p⟩] :=
  ⟨p.toQuery, Location.parse_render hidx, Location.isSingular_toQuery p,
    fun _ => Location.eval_toQuery hv⟩

/-- The path to an element below a member whose name holds a quote reads back and selects the
element. -/
theorem Location.render_selects_quoted_member :
    Location.get? [.name "it's", .index 1] (.obj [("it's", .arr [.null, .str "x"])]) =
        some (.str "x") ∧
      (∀ i, PathStep.index i ∈ [PathStep.name "it's", .index 1] → (i : Int) ≤ maxIndex) ∧
      ∃ q, Query.parse Registry.builtin (Location.render [.name "it's", .index 1]) = .ok q ∧
        q.isSingular = true ∧ ∀ maxDepth, q.eval Registry.builtin maxDepth
          (.obj [("it's", .arr [.null, .str "x"])]) =
            .ok [⟨.str "x", [.name "it's", .index 1]⟩] := by
  have hv : Location.get? [.name "it's", .index 1] (.obj [("it's", .arr [.null, .str "x"])]) =
      some (.str "x") := rfl
  have hidx :
      ∀ i, PathStep.index i ∈ [PathStep.name "it's", .index 1] → (i : Int) ≤ maxIndex := by
    intro i hi
    simp only [List.mem_cons, reduceCtorEq, PathStep.index.injEq, List.not_mem_nil, false_or,
      or_false] at hi
    subst hi
    decide
  exact ⟨hv, hidx, Location.render_selects_its_node hv hidx⟩

end JsonPath
