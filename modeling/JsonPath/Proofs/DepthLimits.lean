import JsonPath.Query.Eval
import JsonPath.Proofs.Locations
import JsonPath.Proofs.EvalInvariant

/-!
# Depth limits

One number, `maxDepth`, bounds evaluation in two places: a descendant segment stops with an
error at a node more than `maxDepth` levels below the node it starts from, and a filter
stops with an error when filters nest more than `maxDepth` deep. These limits only cut
evaluation short.

* Raising the limit changes nothing but such stops (`Query.eval_agrees`): where evaluation
  under a limit ends otherwise, with nodes or with another error, it ends the same way under
  every larger limit. The two evaluations do the same computations in the same order, and a
  check of the limit that passes under the smaller limit passes under the larger one
  (`Eval.Agrees`, one lemma for each function of the evaluator).
* A limit at least the height of the document (`Value.height`) and the filter nesting of
  the query (`Query.filterNesting`) is never reached (`Query.eval_clearOfLimits`). This is an
  invariant of evaluation (`EvalInvariant.clear`): every node evaluation visits lies in the
  document, a node below the start of a descendant segment is no more levels below it than
  the height of the start, and a filter is evaluated under as many filters as enclose it in
  the query.
-/

set_option autoImplicit false

namespace JsonPath

/-! ## Heights and filter nesting -/

mutual

/-- The height of a value: the greatest number of levels of a node below it. A scalar, an
empty array and an empty object have height zero. -/
def Value.height : Value → Nat
  | .arr items => Value.itemsHeight items
  | .obj ms => Value.membersHeight ms
  | _ => 0

/-- The height of an array holding these elements. -/
def Value.itemsHeight : List Value → Nat
  | [] => 0
  | v :: rest => max (v.height + 1) (Value.itemsHeight rest)

/-- The height of an object holding these members. -/
def Value.membersHeight : List (String × Value) → Nat
  | [] => 0
  | (_, v) :: rest => max (v.height + 1) (Value.membersHeight rest)

end

mutual

/-- How deep filters nest in a query: the greatest number of filter selectors around a
point of it. -/
def Query.filterNesting : Query → Nat
  | .mk _ segs => Segment.listNesting segs

/-- How deep filters nest in segments. -/
def Segment.listNesting : List Segment → Nat
  | [] => 0
  | s :: rest => max s.filterNesting (Segment.listNesting rest)

/-- How deep filters nest in a segment. -/
def Segment.filterNesting : Segment → Nat
  | .child sels => Selector.listNesting sels
  | .descendant sels => Selector.listNesting sels

/-- How deep filters nest in selectors. -/
def Selector.listNesting : List Selector → Nat
  | [] => 0
  | s :: rest => max s.filterNesting (Selector.listNesting rest)

/-- How deep filters nest in a selector: a filter adds one to its expression. -/
def Selector.filterNesting : Selector → Nat
  | .filter e => e.filterNesting + 1
  | _ => 0

/-- How deep filters nest in an expression, through the queries in it. -/
def Expr.filterNesting : Expr → Nat
  | .query q => q.filterNesting
  | .literal _ => 0
  | .call _ args _ _ => Expr.listNesting args
  | .test q => q.filterNesting
  | .compare l _ r => max l.filterNesting r.filterNesting
  | .not e => e.filterNesting
  | .and l r => max l.filterNesting r.filterNesting
  | .or l r => max l.filterNesting r.filterNesting

/-- How deep filters nest in expressions. -/
def Expr.listNesting : List Expr → Nat
  | [] => 0
  | e :: rest => max e.filterNesting (Expr.listNesting rest)

end

/-! ## Outcomes up to the limits -/

/-- A stop at one of the two depth limits. -/
def EvalError.IsDepthLimit : EvalError → Prop
  | .documentTooDeep _ _ => True
  | .filterTooDeep _ _ => True
  | _ => False

namespace Eval

variable {α β : Type}

/-- Evaluation did not stop at a depth limit: it gave a result, or another error. -/
def ClearOfLimits (x : Eval α) : Prop := ∀ e, x = .error e → ¬ e.IsDepthLimit

/-- `x'` ends as `x` does, unless `x` stopped at a depth limit. -/
def Agrees (x x' : Eval α) : Prop := ClearOfLimits x → x' = x

theorem Agrees.refl (x : Eval α) : Agrees x x := fun _ => rfl

theorem Agrees.bind {x x' : Eval α} {k k' : α → Eval β} (hx : Agrees x x')
    (hk : ∀ a, Agrees (k a) (k' a)) : Agrees (x >>= k) (x' >>= k') := by
  intro hc
  cases x with
  | error e =>
    have hx' : x' = .error e := hx fun e' he' => hc e' (by cases he'; rfl)
    rw [hx']
    rfl
  | ok a =>
    have hx' : x' = .ok a := hx fun e' he' => by cases he'
    rw [hx']
    exact hk a hc

theorem Agrees.mapM {f f' : α → Eval β} :
    ∀ {l : List α}, (∀ a ∈ l, Agrees (f a) (f' a)) → Agrees (l.mapM f) (l.mapM f')
  | [], _ => Agrees.refl _
  | a :: l, h => by
    rw [List.mapM_cons, List.mapM_cons]
    exact (h a List.mem_cons_self).bind fun _ =>
      (Agrees.mapM fun a' ha' => h a' (List.mem_cons_of_mem _ ha')).bind fun _ => Agrees.refl _

theorem Agrees.filterAuxM {p p' : α → Eval Bool} :
    ∀ {l : List α} (acc : List α), (∀ a ∈ l, Agrees (p a) (p' a)) →
      Agrees (List.filterAuxM p l acc) (List.filterAuxM p' l acc)
  | [], _, _ => Agrees.refl _
  | a :: l, acc, h => by
    simp only [List.filterAuxM]
    exact (h a List.mem_cons_self).bind fun b =>
      Agrees.filterAuxM _ fun a' ha' => h a' (List.mem_cons_of_mem _ ha')

theorem Agrees.filterM {p p' : α → Eval Bool} {l : List α} (h : ∀ a ∈ l, Agrees (p a) (p' a)) :
    Agrees (l.filterM p) (l.filterM p') :=
  (Agrees.filterAuxM [] h).bind fun _ => Agrees.refl _

/-- A check of a limit `d` against `n`, and of a larger limit `d'`: a failed check under `d`
is a stop at the limit, and a check that passes under `d` passes under `d'`. -/
theorem Agrees.limitCheck {n d d' : Int} (hle : d ≤ d') {e e' : EvalError} (he : e.IsDepthLimit)
    {x x' : Eval α} (hx : n ≤ d → Agrees x x') :
    Agrees (if n > d then .error e else x) (if n > d' then .error e' else x') := by
  by_cases hn : n > d
  · intro hc
    exact absurd he (hc e (by rw [if_pos hn]))
  · rw [if_neg hn, if_neg (by omega)]
    exact hx (by omega)

theorem Agrees.invoke {reg : Registry} {name : String} {span : Span}
    {argsOf argsOf' : List ExprType → Eval (List Argument)}
    (h : ∀ ps, Agrees (argsOf ps) (argsOf' ps)) :
    Agrees (JsonPath.invoke reg name span argsOf) (JsonPath.invoke reg name span argsOf') := by
  unfold JsonPath.invoke
  split
  · exact Agrees.refl _
  · exact (h _).bind fun _ => Agrees.refl _

end Eval

/-! ## Raising the limit -/

section Agreement

open Eval

variable {d' : Int}

-- The lemmas recurse as the evaluator does: into the parts of the syntax, and from an
-- argument to the same expression in a test or comparison position, which the second
-- component of the measure ranks lower.
mutual

theorem Query.evalAt_agrees : ∀ (q : Query) (ctx : EvalContext) (cur : Node),
    ctx.maxDepth ≤ d' → Agrees (q.evalAt ctx cur) (q.evalAt { ctx with maxDepth := d' } cur)
  | .mk .document segs, ctx, _, hle => by
    simp only [Query.evalAt]
    exact Segment.evalList_agrees segs ctx _ hle
  | .mk .current segs, ctx, cur, hle => by
    simp only [Query.evalAt]
    exact Segment.evalList_agrees segs ctx _ hle
termination_by q => (sizeOf q, 0)
decreasing_by all_goals simp +arith [Prod.lex_def]

theorem Segment.evalList_agrees : ∀ (segs : List Segment) (ctx : EvalContext) (nodes : List Node),
    ctx.maxDepth ≤ d' →
      Agrees (Segment.evalList segs ctx nodes) (Segment.evalList segs { ctx with maxDepth := d' } nodes)
  | [], _, _, _ => by
    simp only [Segment.evalList]
    exact Agrees.refl _
  | s :: rest, ctx, nodes, hle => by
    simp only [Segment.evalList]
    exact (Segment.eval_agrees s ctx nodes hle).bind fun next =>
      Segment.evalList_agrees rest ctx next hle
termination_by segs => (sizeOf segs, 0)
decreasing_by all_goals simp +arith [Prod.lex_def]

theorem Segment.eval_agrees : ∀ (s : Segment) (ctx : EvalContext) (nodes : List Node),
    ctx.maxDepth ≤ d' → Agrees (s.eval ctx nodes) (s.eval { ctx with maxDepth := d' } nodes)
  | .child sels, ctx, nodes, hle => by
    simp only [Segment.eval]
    exact (Agrees.mapM fun n _ => Selector.evalList_agrees sels ctx n hle).bind fun _ =>
      Agrees.refl _
  | .descendant sels, ctx, nodes, hle => by
    simp only [Segment.eval]
    -- each node below the start is checked against the limit before its selectors run
    refine (Agrees.mapM fun n _ => Agrees.mapM fun x _ => ?_).bind fun _ => Agrees.refl _
    obtain ⟨d, depth⟩ := x
    exact Agrees.limitCheck hle (by trivial) fun _ => Selector.evalList_agrees sels ctx d hle
termination_by s => (sizeOf s, 0)
decreasing_by all_goals simp +arith [Prod.lex_def]

theorem Selector.evalList_agrees : ∀ (sels : List Selector) (ctx : EvalContext) (n : Node),
    ctx.maxDepth ≤ d' →
      Agrees (Selector.evalList sels ctx n) (Selector.evalList sels { ctx with maxDepth := d' } n)
  | [], _, _, _ => by
    simp only [Selector.evalList]
    exact Agrees.refl _
  | s :: rest, ctx, n, hle => by
    simp only [Selector.evalList]
    exact (Selector.eval_agrees s ctx n hle).bind fun _ =>
      (Selector.evalList_agrees rest ctx n hle).bind fun _ => Agrees.refl _
termination_by sels => (sizeOf sels, 0)
decreasing_by all_goals simp +arith [Prod.lex_def]

theorem Selector.eval_agrees : ∀ (s : Selector) (ctx : EvalContext) (n : Node),
    ctx.maxDepth ≤ d' → Agrees (s.eval ctx n) (s.eval { ctx with maxDepth := d' } n)
  | .name _, _, _, _ | .index _, _, _, _ | .wildcard, _, _, _ | .slice _ _ _, _, _, _ => by
    simp only [Selector.eval]
    exact Agrees.refl _
  | .filter e, ctx, n, hle => by
    simp only [Selector.eval]
    -- the filter's own check, then its expression one filter deeper
    exact Agrees.limitCheck hle (by trivial) fun _ => Agrees.filterM fun c _ =>
      Expr.holdsAt_agrees e { ctx with filterDepth := ctx.filterDepth + 1 } c hle
termination_by s => (sizeOf s, 0)
decreasing_by all_goals simp +arith [Prod.lex_def]

theorem Expr.holdsAt_agrees : ∀ (e : Expr) (ctx : EvalContext) (cur : Node),
    ctx.maxDepth ≤ d' → Agrees (e.holdsAt ctx cur) (e.holdsAt { ctx with maxDepth := d' } cur)
  | .or l r, ctx, cur, hle => by
    simp only [Expr.holdsAt]
    exact (Expr.holdsAt_agrees l ctx cur hle).bind fun b => by
      cases b
      · exact Expr.holdsAt_agrees r ctx cur hle
      · exact Agrees.refl _
  | .and l r, ctx, cur, hle => by
    simp only [Expr.holdsAt]
    exact (Expr.holdsAt_agrees l ctx cur hle).bind fun b => by
      cases b
      · exact Agrees.refl _
      · exact Expr.holdsAt_agrees r ctx cur hle
  | .not e, ctx, cur, hle => by
    simp only [Expr.holdsAt]
    exact (Expr.holdsAt_agrees e ctx cur hle).bind fun _ => Agrees.refl _
  | .test q, ctx, cur, hle => by
    simp only [Expr.holdsAt]
    exact (Query.evalAt_agrees q ctx cur hle).bind fun _ => Agrees.refl _
  | .compare l op r, ctx, cur, hle => by
    simp only [Expr.holdsAt]
    exact (Expr.comparable_agrees l ctx cur hle).bind fun _ =>
      (Expr.comparable_agrees r ctx cur hle).bind fun _ => Agrees.refl _
  | .call name args result span, ctx, cur, hle => by
    simp only [Expr.holdsAt]
    exact (Agrees.invoke fun ps => Expr.arguments_agrees args ps span ctx cur hle).bind fun _ =>
      Agrees.refl _
  | .query _, _, _, _ | .literal _, _, _, _ => by
    simp only [Expr.holdsAt]
    exact Agrees.refl _
termination_by e => (sizeOf e, 0)
decreasing_by all_goals simp +arith [Prod.lex_def]

theorem Expr.comparable_agrees : ∀ (e : Expr) (ctx : EvalContext) (cur : Node),
    ctx.maxDepth ≤ d' → Agrees (e.comparable ctx cur) (e.comparable { ctx with maxDepth := d' } cur)
  | .literal _, _, _, _ => by
    simp only [Expr.comparable]
    exact Agrees.refl _
  | .query q, ctx, cur, hle => by
    simp only [Expr.comparable]
    exact (Query.evalAt_agrees q ctx cur hle).bind fun _ => Agrees.refl _
  | .call name args result span, ctx, cur, hle => by
    simp only [Expr.comparable]
    exact (Agrees.invoke fun ps => Expr.arguments_agrees args ps span ctx cur hle).bind fun _ =>
      Agrees.refl _
  | .test _, _, _, _ | .compare _ _ _, _, _, _ | .not _, _, _, _ | .and _ _, _, _, _
  | .or _ _, _, _, _ => by
    simp only [Expr.comparable]
    exact Agrees.refl _
termination_by e => (sizeOf e, 0)
decreasing_by all_goals simp +arith [Prod.lex_def]

theorem Expr.arguments_agrees : ∀ (es : List Expr) (ps : List ExprType) (span : Span)
    (ctx : EvalContext) (cur : Node), ctx.maxDepth ≤ d' →
      Agrees (Expr.arguments es ps span ctx cur)
        (Expr.arguments es ps span { ctx with maxDepth := d' } cur)
  | e :: es, p :: ps, span, ctx, cur, hle => by
    simp only [Expr.arguments]
    exact (Expr.argument_agrees e p span ctx cur hle).bind fun _ =>
      (Expr.arguments_agrees es ps span ctx cur hle).bind fun _ => Agrees.refl _
  | [], [], _, _, _, _ | [], _ :: _, _, _, _, _ | _ :: _, [], _, _, _, _ => by
    simp only [Expr.arguments]
    exact Agrees.refl _
termination_by es => (sizeOf es, 0)
decreasing_by all_goals simp +arith [Prod.lex_def]

theorem Expr.argument_agrees : ∀ (e : Expr) (p : ExprType) (call : Span) (ctx : EvalContext)
    (cur : Node), ctx.maxDepth ≤ d' →
      Agrees (e.argument p call ctx cur) (e.argument p call { ctx with maxDepth := d' } cur)
  | e, .logical, _, ctx, cur, hle => by
    simp only [Expr.argument]
    exact (Expr.holdsAt_agrees e ctx cur hle).bind fun _ => Agrees.refl _
  | .query q, .nodes, _, ctx, cur, hle => by
    simp only [Expr.argument]
    exact (Query.evalAt_agrees q ctx cur hle).bind fun _ => Agrees.refl _
  | .call name args _ span, .nodes, _, ctx, cur, hle => by
    simp only [Expr.argument]
    exact Agrees.invoke fun ps => Expr.arguments_agrees args ps span ctx cur hle
  | .query q, .value, _, ctx, cur, hle => by
    simp only [Expr.argument]
    split
    · exact (Query.evalAt_agrees q ctx cur hle).bind fun _ => Agrees.refl _
    · exact (Query.evalAt_agrees q ctx cur hle).bind fun _ => Agrees.refl _
  | .call name args .nodes span, .value, _, ctx, cur, hle => by
    simp only [Expr.argument]
    exact (Agrees.invoke fun ps => Expr.arguments_agrees args ps span ctx cur hle).bind fun _ =>
      Agrees.refl _
  | .call name args .value span, .value, _, ctx, cur, hle => by
    simp only [Expr.argument]
    exact (Expr.comparable_agrees _ ctx cur hle).bind fun _ => Agrees.refl _
  | .call name args .logical span, .value, _, ctx, cur, hle => by
    simp only [Expr.argument]
    exact (Expr.comparable_agrees _ ctx cur hle).bind fun _ => Agrees.refl _
  | .literal _, .value, _, ctx, cur, hle | .test _, .value, _, ctx, cur, hle
  | .compare _ _ _, .value, _, ctx, cur, hle | .not _, .value, _, ctx, cur, hle
  | .and _ _, .value, _, ctx, cur, hle | .or _ _, .value, _, ctx, cur, hle => by
    simp only [Expr.argument]
    exact (Expr.comparable_agrees _ ctx cur hle).bind fun _ => Agrees.refl _
  | .literal _, .nodes, _, _, _, _ | .test _, .nodes, _, _, _, _
  | .compare _ _ _, .nodes, _, _, _, _ | .not _, .nodes, _, _, _, _
  | .and _ _, .nodes, _, _, _, _ | .or _ _, .nodes, _, _, _, _ => by
    simp only [Expr.argument]
    exact Agrees.refl _
termination_by e => (sizeOf e, 1)
decreasing_by all_goals simp +arith [Prod.lex_def]

end

end Agreement

/-! ## Clear of the limits -/

/-! ### Nodes of a document lie no higher than it -/

theorem Value.height_lt_of_mem_items {v : Value} :
    ∀ {items : List Value}, v ∈ items → v.height < Value.itemsHeight items
  | w :: rest, h => by
    simp only [Value.itemsHeight]
    rcases List.mem_cons.1 h with rfl | h
    · omega
    · have := Value.height_lt_of_mem_items h
      omega

theorem Value.height_lt_of_mem_members {k : String} {v : Value} :
    ∀ {ms : List (String × Value)}, (k, v) ∈ ms → v.height < Value.membersHeight ms
  | (k', w) :: rest, h => by
    simp only [Value.membersHeight]
    rcases List.mem_cons.1 h with h | h
    · cases h
      omega
    · have := Value.height_lt_of_mem_members h
      omega

namespace Node

theorem height_lt_of_mem_children {n c : Node} (hc : c ∈ n.children) :
    c.value.height < n.value.height := by
  unfold children at hc
  split at hc
  · rename_i items hv
    obtain ⟨⟨i, v⟩, hiv, rfl⟩ := List.mem_map.1 hc
    rw [hv, Value.height]
    exact Value.height_lt_of_mem_items (List.of_mem_zip hiv).2
  · rename_i ms hv
    obtain ⟨⟨k, v⟩, hkv, rfl⟩ := List.mem_map.1 hc
    rw [hv, Value.height]
    exact Value.height_lt_of_mem_members hkv
  · cases hc

theorem height_lt_of_mem_selectName {n c : Node} {name : String} (hc : c ∈ n.selectName name) :
    c.value.height < n.value.height := by
  unfold selectName at hc
  split at hc
  · rename_i ms hv
    split at hc
    · rename_i v hlook
      rw [List.mem_singleton] at hc
      subst hc
      rw [hv, Value.height]
      exact Value.height_lt_of_mem_members (Value.mem_of_lookup_eq_some hlook)
    · cases hc
  · cases hc

theorem height_lt_of_mem_selectIndex {n c : Node} {i : Int} (hc : c ∈ n.selectIndex i) :
    c.value.height < n.value.height := by
  unfold selectIndex at hc
  split at hc
  · rename_i items hv
    generalize (if i ≥ 0 then i else (items.length : Int) + i) = pos at hc
    dsimp only at hc
    split at hc
    · cases hc
    split at hc
    · rename_i v hget
      rw [List.mem_singleton] at hc
      subst hc
      rw [hv, Value.height]
      exact Value.height_lt_of_mem_items (List.mem_of_getElem? hget)
    · cases hc
  · cases hc

theorem height_lt_of_mem_selectSlice {n c : Node} {a b k : Option Int}
    (hc : c ∈ n.selectSlice a b k) : c.value.height < n.value.height := by
  unfold selectSlice at hc
  split at hc
  · rename_i items hv
    obtain ⟨pos, -, hpos⟩ := List.mem_filterMap.1 hc
    obtain ⟨v, hget, rfl⟩ := Option.map_eq_some_iff.1 hpos
    rw [hv, Value.height]
    exact Value.height_lt_of_mem_items (List.mem_of_getElem? hget)
  · cases hc

end Node

mutual

/-- A node below a value at depth `k`, counted from `k₀` at the value, leaves at least as
many levels below it as the value has below that depth. -/
theorem Value.preorder_height : ∀ (v : Value) (loc : Location) (k₀ : Nat),
    ∀ x ∈ Value.preorder v loc k₀, x.2 + x.1.value.height ≤ k₀ + v.height
  | .arr items, loc, k₀, x, hx => by
    simp only [Value.preorder, List.mem_cons] at hx
    rcases hx with rfl | hx
    · exact Nat.le_refl _
    · have := Value.preorderItems_height items loc 0 (k₀ + 1) x hx
      simp only [Value.height]
      omega
  | .obj ms, loc, k₀, x, hx => by
    simp only [Value.preorder, List.mem_cons] at hx
    rcases hx with rfl | hx
    · exact Nat.le_refl _
    · have := Value.preorderMembers_height ms loc (k₀ + 1) x hx
      simp only [Value.height]
      omega
  | .null, _, _, x, hx | .bool _, _, _, x, hx | .num _, _, _, x, hx | .str _, _, _, x, hx => by
    simp only [Value.preorder, List.mem_singleton] at hx
    subst hx
    exact Nat.le_refl _

theorem Value.preorderItems_height : ∀ (items : List Value) (loc : Location) (i k₁ : Nat),
    ∀ x ∈ Value.preorderItems items loc i k₁, x.2 + x.1.value.height + 1 ≤ k₁ + Value.itemsHeight items
  | [], _, _, _, x, hx => by simp [Value.preorderItems] at hx
  | v :: rest, loc, i, k₁, x, hx => by
    simp only [Value.preorderItems, List.mem_append] at hx
    simp only [Value.itemsHeight]
    rcases hx with hx | hx
    · have := Value.preorder_height v (loc ++ [.index i]) k₁ x hx
      omega
    · have := Value.preorderItems_height rest loc (i + 1) k₁ x hx
      omega

theorem Value.preorderMembers_height : ∀ (ms : List (String × Value)) (loc : Location) (k₁ : Nat),
    ∀ x ∈ Value.preorderMembers ms loc k₁, x.2 + x.1.value.height + 1 ≤ k₁ + Value.membersHeight ms
  | [], _, _, x, hx => by simp [Value.preorderMembers] at hx
  | (k, v) :: rest, loc, k₁, x, hx => by
    simp only [Value.preorderMembers, List.mem_append] at hx
    simp only [Value.membersHeight]
    rcases hx with hx | hx
    · have := Value.preorder_height v (loc ++ [.name k]) k₁ x hx
      omega
    · have := Value.preorderMembers_height rest loc k₁ x hx
      omega

end

/-- A node below the start of a descendant segment is as many levels below it as its
depth, and the start has at least that many levels plus the node's own height. -/
theorem Node.descendants_height {n : Node} :
    ∀ x ∈ n.descendants, x.2 + x.1.value.height ≤ n.value.height := fun x hx => by
  rw [Node.descendants_eq_preorder] at hx
  have := Value.preorder_height n.value n.location 0 x hx
  omega

/-! ### Evaluation under limits that cover the document and the filters -/

theorem Selector.eval_height {s : Selector} {ctx : EvalContext} {n : Node} {out : List Node}
    (h : s.eval ctx n = .ok out) : ∀ c ∈ out, c.value.height < n.value.height := by
  cases s <;> simp only [Selector.eval] at h
  case name name => cases h; exact fun c hc => Node.height_lt_of_mem_selectName hc
  case index i => cases h; exact fun c hc => Node.height_lt_of_mem_selectIndex hc
  case wildcard => cases h; exact fun c hc => Node.height_lt_of_mem_children hc
  case slice a b k => cases h; exact fun c hc => Node.height_lt_of_mem_selectSlice hc
  case filter e =>
    -- a filter keeps some of the children
    split at h
    · cases h
    · exact fun c hc => Node.height_lt_of_mem_children (filterM_except_subset h c hc)

theorem Selector.evalList_height {ctx : EvalContext} {n : Node} :
    ∀ {sels : List Selector} {out : List Node}, Selector.evalList sels ctx n = .ok out →
      ∀ c ∈ out, c.value.height < n.value.height
  | [], out, h => by
    rw [Selector.evalList] at h
    cases h
    simp
  | s :: rest, out, h => by
    rw [Selector.evalList] at h
    obtain ⟨first, hfirst, h⟩ := bind_eq_ok.1 h
    obtain ⟨more, hmore, h⟩ := bind_eq_ok.1 h
    cases h
    intro c hc
    rcases List.mem_append.1 hc with hc | hc
    · exact Selector.eval_height hfirst c hc
    · exact Selector.evalList_height hmore c hc

/-- The nodes a segment selects are no higher than the nodes it starts from. -/
theorem Segment.eval_height {s : Segment} {ctx : EvalContext} {nodes out : List Node} {H : Int}
    (hnodes : ∀ n ∈ nodes, (n.value.height : Int) ≤ H) (h : s.eval ctx nodes = .ok out) :
    ∀ c ∈ out, (c.value.height : Int) ≤ H := by
  cases s with
  | child sels =>
    rw [Segment.eval] at h
    obtain ⟨parts, hparts, h⟩ := bind_eq_ok.1 h
    cases h
    have hall := mapM_except_mem (P := fun part => ∀ c ∈ part, (c.value.height : Int) ≤ H) hparts
      fun n hn part hpart c hc => by
        have := Selector.evalList_height hpart c hc
        have := hnodes n hn
        omega
    intro c hc
    obtain ⟨part, hpart, hc⟩ := List.mem_flatten.1 hc
    exact hall part hpart c hc
  | descendant sels =>
    rw [Segment.eval] at h
    obtain ⟨parts, hparts, h⟩ := bind_eq_ok.1 h
    cases h
    have hall := mapM_except_mem
      (P := fun part : List (List Node) => ∀ sub ∈ part, ∀ c ∈ sub, (c.value.height : Int) ≤ H)
      hparts fun n hn part hpart => mapM_except_mem hpart fun x hx sub hsub => by
        obtain ⟨d, depth⟩ := x
        dsimp only at hsub
        split at hsub
        · cases hsub
        · intro c hc
          have := Selector.evalList_height hsub c hc
          have := Node.descendants_height _ hx
          have := hnodes n hn
          dsimp only at *
          omega
    intro c hc
    obtain ⟨sub, hsub, hc⟩ := List.mem_flatten.1 hc
    obtain ⟨part, hpart, rfl⟩ := List.mem_map.1 hsub
    obtain ⟨sub, hsub, hc⟩ := List.mem_flatten.1 hc
    exact hall part hpart sub hsub c hc

/-- A limit that covers the height of the document and `nesting` more levels of filters than
the context is already under. -/
def EvalContext.Covers (ctx : EvalContext) (nesting : Nat) : Prop :=
  (ctx.root.height : Int) ≤ ctx.maxDepth ∧ ((ctx.filterDepth + nesting : Nat) : Int) ≤ ctx.maxDepth

theorem EvalContext.Covers.mono {ctx : EvalContext} {n n' : Nat} (h : ctx.Covers n)
    (hle : n' ≤ n) : ctx.Covers n' :=
  ⟨h.1, by have := h.2; omega⟩

/-- A limit that covers the document, the nodes evaluation is at and the filters of the syntax
is never reached: every node evaluation visits lies in the document, a node below the start of a
descendant segment is no more levels below it than the height of the start, and a filter is
evaluated under as many filters as enclose it. -/
def EvalInvariant.clear : EvalInvariant fun e => ¬ e.IsDepthLimit where
  query q ctx cur := ctx.Covers q.filterNesting ∧ (cur.value.height : Int) ≤ ctx.maxDepth
  segments segs ctx nodes :=
    ctx.Covers (Segment.listNesting segs) ∧ ∀ n ∈ nodes, (n.value.height : Int) ≤ ctx.maxDepth
  segment s ctx nodes :=
    ctx.Covers s.filterNesting ∧ ∀ n ∈ nodes, (n.value.height : Int) ≤ ctx.maxDepth
  selectors sels ctx n :=
    ctx.Covers (Selector.listNesting sels) ∧ (n.value.height : Int) ≤ ctx.maxDepth
  selector s ctx n := ctx.Covers s.filterNesting ∧ (n.value.height : Int) ≤ ctx.maxDepth
  test e ctx cur := ctx.Covers e.filterNesting ∧ (cur.value.height : Int) ≤ ctx.maxDepth
  side e ctx cur := ctx.Covers e.filterNesting ∧ (cur.value.height : Int) ≤ ctx.maxDepth
  arguments es _ _ ctx cur :=
    ctx.Covers (Expr.listNesting es) ∧ (cur.value.height : Int) ≤ ctx.maxDepth
  argument e _ _ ctx cur := ctx.Covers e.filterNesting ∧ (cur.value.height : Int) ≤ ctx.maxDepth
  invokes _ args _ ctx cur :=
    ctx.Covers (Expr.listNesting args) ∧ (cur.value.height : Int) ≤ ctx.maxDepth
  query_document h := ⟨h.1, by simpa using h.1.1⟩
  query_current h := ⟨h.1, by simpa using h.2⟩
  segments_head h := ⟨h.1.mono (by simp only [Segment.listNesting]; omega), h.2⟩
  -- the nodes a segment selects are no higher than those it starts from
  segments_tail h hnext :=
    ⟨h.1.mono (by simp only [Segment.listNesting]; omega), Segment.eval_height h.2 hnext⟩
  child h hn := ⟨h.1, h.2 _ hn⟩
  descendant_tooDeep h hn hx hk := by
    have hbelow := Node.descendants_height _ hx
    have := h.2 _ hn
    dsimp only at hbelow
    omega
  descendant h hn hx _ := by
    have hbelow := Node.descendants_height _ hx
    have := h.2 _ hn
    dsimp only at hbelow
    exact ⟨h.1, by omega⟩
  selectors_head h := ⟨h.1.mono (by simp only [Selector.listNesting]; omega), h.2⟩
  selectors_tail h := ⟨h.1.mono (by simp only [Selector.listNesting]; omega), h.2⟩
  -- the filter is one of those its nesting counts
  filter_tooDeep h hk := by
    have := h.1.2
    simp only [Selector.filterNesting] at this
    omega
  filter h _ hc := by
    have := Node.height_lt_of_mem_children hc
    have := h.1.2
    simp only [Selector.filterNesting] at this
    constructor
    · exact ⟨h.1.1, by dsimp only; omega⟩
    · dsimp only
      omega
  test_or h := ⟨⟨h.1.mono (by simp only [Expr.filterNesting]; omega), h.2⟩,
    ⟨h.1.mono (by simp only [Expr.filterNesting]; omega), h.2⟩⟩
  test_and h := ⟨⟨h.1.mono (by simp only [Expr.filterNesting]; omega), h.2⟩,
    ⟨h.1.mono (by simp only [Expr.filterNesting]; omega), h.2⟩⟩
  test_not h := h
  test_test h := h
  test_compare h := ⟨⟨h.1.mono (by simp only [Expr.filterNesting]; omega), h.2⟩,
    ⟨h.1.mono (by simp only [Expr.filterNesting]; omega), h.2⟩⟩
  test_call h := h
  notLogical_query _ := id
  notLogical_literal _ := id
  side_query h := h
  side_call h := h
  side_notOneNode _ := id
  notComparable _ _ := id
  call_unknown _ _ := id
  call_args h _ := h
  call_failed _ := id
  call_raised _ := id
  call_pattern _ := id
  args_cons h := ⟨⟨h.1.mono (by simp only [Expr.listNesting]; omega), h.2⟩,
    ⟨h.1.mono (by simp only [Expr.listNesting]; omega), h.2⟩⟩
  unpaired_params _ _ := id
  unpaired_args _ _ := id
  arg_logical h := h
  arg_nodes_query h := h
  arg_nodes_call h := h
  notCall_literal _ := id
  notCall_logical _ _ := id
  arg_value_query h := h
  arg_value_notOneNode _ _ := id
  arg_value_call h := h
  arg_value_callNotOneNode _ := id
  arg_value_literal h := h
  arg_value_logical h _ := h

/-! ## Whole queries -/

/-- Raising the limit changes nothing but stops at the limit. -/
theorem Query.eval_agrees (q : Query) (reg : Registry) (root : Value) {d d' : Int}
    (hle : d ≤ d') : Eval.Agrees (q.eval reg d root) (q.eval reg d' root) := by
  unfold Query.eval
  split
  · exact Eval.Agrees.refl _
  · exact Query.evalAt_agrees q _ _ hle

/-- A limit that covers the height of the document and the filter nesting of the query is
never reached. -/
theorem Query.eval_clearOfLimits (q : Query) (reg : Registry) (root : Value) {d : Int}
    (hroot : (root.height : Int) ≤ d) (hnest : (q.filterNesting : Int) ≤ d) :
    Eval.ClearOfLimits (q.eval reg d root) :=
  -- evaluation starts at the root, outside every filter
  EvalInvariant.clear.eval_failsWithin ⟨⟨hroot, by simpa using hnest⟩, hroot⟩ fun _ => id

end JsonPath
