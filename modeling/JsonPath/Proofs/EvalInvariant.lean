import JsonPath.Query.Eval
import JsonPath.Proofs.ExceptRuns

/-!
# Invariants of evaluation

Several facts about evaluation say which errors it can end in, each under its own assumptions:
a well-formed query never reaches the evaluator's own refusals, and limits that cover the
document and the filters are never reached. Each follows the evaluator through all nine of its
functions in the same way, and differs only in what each function may assume and in why the
error raised at each failure site is one of those allowed.

`EvalInvariant P` gathers exactly that: a precondition for each evaluation function, and one
obligation for each call the evaluator makes (the callee's precondition follows from the
caller's) and for each error it raises (the error satisfies `P` where the precondition holds).
One walk over the evaluator (`EvalInvariant.query_failsWithin` and the lemmas beside it) then
gives that every run from a state meeting its precondition fails only within `P`; each fact
about the errors of evaluation is an instance, with its obligations proved one by one.
-/

set_option autoImplicit false

namespace JsonPath

/-- Whether an expression has one of the logical forms: an existence test, a comparison, a
negation, a conjunction or a disjunction. The evaluator takes none of them as a value. -/
def Expr.isLogicalForm : Expr → Bool
  | .test _ | .compare .. | .not _ | .and .. | .or .. => true
  | _ => false

/-- An invariant of evaluation whose errors satisfy `P`: a precondition for each evaluation
function, kept by every call the evaluator makes, with `P` of every error the evaluator raises
where the precondition holds. -/
structure EvalInvariant (P : EvalError → Prop) where
  /-- What evaluating a query from a node may assume. -/
  query : Query → EvalContext → Node → Prop
  /-- What applying segments in turn to nodes may assume. -/
  segments : List Segment → EvalContext → List Node → Prop
  /-- What applying a segment to nodes may assume. -/
  segment : Segment → EvalContext → List Node → Prop
  /-- What applying selectors in turn to a node may assume. -/
  selectors : List Selector → EvalContext → Node → Prop
  /-- What applying a selector to a node may assume. -/
  selector : Selector → EvalContext → Node → Prop
  /-- What evaluating an expression as a test may assume. -/
  test : Expr → EvalContext → Node → Prop
  /-- What evaluating an expression as a side of a comparison may assume. -/
  side : Expr → EvalContext → Node → Prop
  /-- What evaluating the arguments of a call at a span, for parameter types, may assume. -/
  arguments : List Expr → List ExprType → Span → EvalContext → Node → Prop
  /-- What evaluating an argument of a call at a span, for a parameter type, may assume. -/
  argument : Expr → ExprType → Span → EvalContext → Node → Prop
  /-- What calling a function by name on arguments, at a span, may assume. -/
  invokes : String → List Expr → Span → EvalContext → Node → Prop
  query_document {segs : List Segment} {ctx : EvalContext} {cur : Node} :
    query (.mk .document segs) ctx cur → segments segs ctx [⟨ctx.root, []⟩]
  query_current {segs : List Segment} {ctx : EvalContext} {cur : Node} :
    query (.mk .current segs) ctx cur → segments segs ctx [cur]
  segments_head {s : Segment} {rest : List Segment} {ctx : EvalContext} {nodes : List Node} :
    segments (s :: rest) ctx nodes → segment s ctx nodes
  segments_tail {s : Segment} {rest : List Segment} {ctx : EvalContext} {nodes next : List Node} :
    segments (s :: rest) ctx nodes → s.eval ctx nodes = .ok next → segments rest ctx next
  child {sels : List Selector} {ctx : EvalContext} {nodes : List Node} {n : Node} :
    segment (.child sels) ctx nodes → n ∈ nodes → selectors sels ctx n
  descendant_tooDeep {sels : List Selector} {ctx : EvalContext} {nodes : List Node} {n d : Node}
    {k : Nat} : segment (.descendant sels) ctx nodes → n ∈ nodes → (d, k) ∈ n.descendants →
      (k : Int) > ctx.maxDepth → P (.documentTooDeep ctx.maxDepth d.location)
  descendant {sels : List Selector} {ctx : EvalContext} {nodes : List Node} {n d : Node}
    {k : Nat} : segment (.descendant sels) ctx nodes → n ∈ nodes → (d, k) ∈ n.descendants →
      ¬ (k : Int) > ctx.maxDepth → selectors sels ctx d
  selectors_head {s : Selector} {rest : List Selector} {ctx : EvalContext} {n : Node} :
    selectors (s :: rest) ctx n → selector s ctx n
  selectors_tail {s : Selector} {rest : List Selector} {ctx : EvalContext} {n : Node} :
    selectors (s :: rest) ctx n → selectors rest ctx n
  filter_tooDeep {e : Expr} {ctx : EvalContext} {n : Node} : selector (.filter e) ctx n →
    ((ctx.filterDepth + 1 : Nat) : Int) > ctx.maxDepth →
      P (.filterTooDeep ctx.maxDepth (.filter e))
  filter {e : Expr} {ctx : EvalContext} {n c : Node} : selector (.filter e) ctx n →
    ¬ ((ctx.filterDepth + 1 : Nat) : Int) > ctx.maxDepth → c ∈ n.children →
      test e { ctx with filterDepth := ctx.filterDepth + 1 } c
  test_or {l r : Expr} {ctx : EvalContext} {cur : Node} :
    test (.or l r) ctx cur → test l ctx cur ∧ test r ctx cur
  test_and {l r : Expr} {ctx : EvalContext} {cur : Node} :
    test (.and l r) ctx cur → test l ctx cur ∧ test r ctx cur
  test_not {e : Expr} {ctx : EvalContext} {cur : Node} : test (.not e) ctx cur → test e ctx cur
  test_test {q : Query} {ctx : EvalContext} {cur : Node} : test (.test q) ctx cur → query q ctx cur
  test_compare {l r : Expr} {op : CompareOp} {ctx : EvalContext} {cur : Node} :
    test (.compare l op r) ctx cur → side l ctx cur ∧ side r ctx cur
  test_call {name : String} {args : List Expr} {res : ExprType} {span : Span} {ctx : EvalContext}
    {cur : Node} : test (.call name args res span) ctx cur → invokes name args span ctx cur
  notLogical_query {q : Query} {ctx : EvalContext} {cur : Node} :
    test (.query q) ctx cur → P (.notLogical (.query q))
  notLogical_literal {v : Value} {ctx : EvalContext} {cur : Node} :
    test (.literal v) ctx cur → P (.notLogical (.literal v))
  side_query {q : Query} {ctx : EvalContext} {cur : Node} :
    side (.query q) ctx cur → query q ctx cur
  side_call {name : String} {args : List Expr} {res : ExprType} {span : Span} {ctx : EvalContext}
    {cur : Node} : side (.call name args res span) ctx cur → invokes name args span ctx cur
  side_notOneNode {name : String} {args : List Expr} {span : Span} {ctx : EvalContext} {cur : Node}
    {count : Nat} : side (.call name args .nodes span) ctx cur →
      P (.notOneNode (.call name args .nodes span) count span)
  notComparable {e : Expr} {ctx : EvalContext} {cur : Node} :
    side e ctx cur → e.isLogicalForm = true → P (.notComparable e)
  call_unknown {name : String} {args : List Expr} {span : Span} {ctx : EvalContext} {cur : Node} :
    invokes name args span ctx cur → ctx.registry.get? name = none → P (.unknownFunction name span)
  call_args {name : String} {args : List Expr} {span : Span} {ctx : EvalContext} {cur : Node}
    {f : FunctionDef} : invokes name args span ctx cur → ctx.registry.get? name = some f →
      arguments args f.signature.params span ctx cur
  call_failed {name : String} {args : List Expr} {span : Span} {ctx : EvalContext} {cur : Node}
    {m : String} : invokes name args span ctx cur → P (.callFailed m span)
  call_raised {name : String} {args : List Expr} {span : Span} {ctx : EvalContext} {cur : Node}
    {m : String} {text : Option String} {sp : Span} {x : Option String} :
      invokes name args span ctx cur → P (.callRaised m text sp x)
  call_pattern {name : String} {args : List Expr} {span : Span} {ctx : EvalContext} {cur : Node}
    {f : Pattern.Fault} : invokes name args span ctx cur → P (.patternFault f)
  args_cons {e : Expr} {es : List Expr} {p : ExprType} {ps : List ExprType} {span : Span}
    {ctx : EvalContext} {cur : Node} :
      arguments (e :: es) (p :: ps) span ctx cur →
        argument e p span ctx cur ∧ arguments es ps span ctx cur
  unpaired_params {ps : List ExprType} {span : Span} {ctx : EvalContext} {cur : Node} :
    arguments [] ps span ctx cur → ps ≠ [] → P (.unpaired true)
  unpaired_args {es : List Expr} {span : Span} {ctx : EvalContext} {cur : Node} :
    arguments es [] span ctx cur → es ≠ [] → P (.unpaired false)
  arg_logical {e : Expr} {call : Span} {ctx : EvalContext} {cur : Node} :
    argument e .logical call ctx cur → test e ctx cur
  arg_nodes_query {q : Query} {call : Span} {ctx : EvalContext} {cur : Node} :
    argument (.query q) .nodes call ctx cur → query q ctx cur
  arg_nodes_call {name : String} {args : List Expr} {res : ExprType} {span call : Span}
    {ctx : EvalContext} {cur : Node} :
      argument (.call name args res span) .nodes call ctx cur → invokes name args span ctx cur
  notCall_literal {v : Value} {call : Span} {ctx : EvalContext} {cur : Node} :
    argument (.literal v) .nodes call ctx cur → P (.notCall (.literal v))
  notCall_logical {e : Expr} {call : Span} {ctx : EvalContext} {cur : Node} :
    argument e .nodes call ctx cur → e.isLogicalForm = true → P (.notCall e)
  arg_value_query {q : Query} {call : Span} {ctx : EvalContext} {cur : Node} :
    argument (.query q) .value call ctx cur → query q ctx cur
  arg_value_notOneNode {q : Query} {call : Span} {ctx : EvalContext} {cur : Node} {count : Nat} :
    argument (.query q) .value call ctx cur → q.isSingular = false →
      P (.notOneNode (.query q) count call)
  arg_value_call {name : String} {args : List Expr} {res : ExprType} {span call : Span}
    {ctx : EvalContext} {cur : Node} :
      argument (.call name args res span) .value call ctx cur →
        side (.call name args res span) ctx cur
  arg_value_callNotOneNode {name : String} {args : List Expr} {span call : Span}
    {ctx : EvalContext} {cur : Node} {count : Nat} :
      argument (.call name args .nodes span) .value call ctx cur →
        P (.notOneNode (.call name args .nodes span) count call)
  arg_value_literal {v : Value} {call : Span} {ctx : EvalContext} {cur : Node} :
    argument (.literal v) .value call ctx cur → side (.literal v) ctx cur
  arg_value_logical {e : Expr} {call : Span} {ctx : EvalContext} {cur : Node} :
    argument e .value call ctx cur → e.isLogicalForm = true → side e ctx cur

/-- A list of nodes used as a value fails only for another count than one. -/
theorem FailsWithin.singleValue {P : EvalError → Prop} {vs : List Value} {expr : Expr}
    {call : Span} (h : ∀ count, P (.notOneNode expr count call)) :
    FailsWithin P (singleValue vs expr call) := by
  unfold JsonPath.singleValue
  split
  · exact FailsWithin.ok _
  · exact FailsWithin.error (h _)

namespace EvalInvariant

variable {P : EvalError → Prop} (I : EvalInvariant P)

/-- A call fails within `P` when its arguments, for the function the registry holds, do. -/
theorem invoke_failsWithin {name : String} {args : List Expr} {span : Span} {ctx : EvalContext}
    {cur : Node} (h : I.invokes name args span ctx cur)
    {argsOf : List ExprType → Eval (List Argument)}
    (hargs : ∀ f, ctx.registry.get? name = some f → FailsWithin P (argsOf f.signature.params)) :
    FailsWithin P (invoke ctx.registry name span argsOf) := by
  unfold invoke
  split
  · exact FailsWithin.error (I.call_unknown h ‹_›)
  · refine (hargs _ ‹_›).bind fun values _ => ?_
    split
    · exact FailsWithin.ok _
    · exact FailsWithin.error (I.call_failed h)
    · exact FailsWithin.error (I.call_raised h)
    · exact FailsWithin.error (I.call_pattern h)

-- The walk recurses as the evaluator does: into the parts of the syntax, from an argument to
-- the same expression as a test or a side, and from a call to its arguments; the second
-- component of the measure ranks the first of each of these pairs higher.
mutual

theorem query_failsWithin : ∀ (q : Query) (ctx : EvalContext) (cur : Node),
    I.query q ctx cur → FailsWithin P (q.evalAt ctx cur)
  | .mk .document segs, ctx, _, h => by
    simp only [Query.evalAt]
    exact segments_failsWithin segs ctx _ (I.query_document h)
  | .mk .current segs, ctx, cur, h => by
    simp only [Query.evalAt]
    exact segments_failsWithin segs ctx _ (I.query_current h)
termination_by q => (sizeOf q, 0)
decreasing_by all_goals simp +arith [Prod.lex_def]

theorem segments_failsWithin : ∀ (segs : List Segment) (ctx : EvalContext) (nodes : List Node),
    I.segments segs ctx nodes → FailsWithin P (Segment.evalList segs ctx nodes)
  | [], _, _, _ => by
    simp only [Segment.evalList]
    exact FailsWithin.ok _
  | s :: rest, ctx, nodes, h => by
    simp only [Segment.evalList]
    -- the nodes one segment selects are where the next one starts
    exact (segment_failsWithin s ctx nodes (I.segments_head h)).bind fun next hnext =>
      segments_failsWithin rest ctx next (I.segments_tail h hnext)
termination_by segs => (sizeOf segs, 0)
decreasing_by all_goals simp +arith [Prod.lex_def]

theorem segment_failsWithin : ∀ (s : Segment) (ctx : EvalContext) (nodes : List Node),
    I.segment s ctx nodes → FailsWithin P (s.eval ctx nodes)
  | .child sels, ctx, nodes, h => by
    simp only [Segment.eval]
    exact (FailsWithin.mapM fun n hn => selectors_failsWithin sels ctx n (I.child h hn)).bind
      fun _ _ => FailsWithin.ok _
  | .descendant sels, ctx, nodes, h => by
    simp only [Segment.eval]
    refine (FailsWithin.mapM fun n hn => FailsWithin.mapM fun x hx => ?_).bind
      fun _ _ => FailsWithin.ok _
    obtain ⟨d, k⟩ := x
    dsimp only
    split
    · exact FailsWithin.error (I.descendant_tooDeep h hn hx ‹_›)
    · exact selectors_failsWithin sels ctx d (I.descendant h hn hx ‹_›)
termination_by s => (sizeOf s, 0)
decreasing_by all_goals simp +arith [Prod.lex_def]

theorem selectors_failsWithin : ∀ (sels : List Selector) (ctx : EvalContext) (n : Node),
    I.selectors sels ctx n → FailsWithin P (Selector.evalList sels ctx n)
  | [], _, _, _ => by
    simp only [Selector.evalList]
    exact FailsWithin.ok _
  | s :: rest, ctx, n, h => by
    simp only [Selector.evalList]
    exact (selector_failsWithin s ctx n (I.selectors_head h)).bind fun _ _ =>
      (selectors_failsWithin rest ctx n (I.selectors_tail h)).bind fun _ _ => FailsWithin.ok _
termination_by sels => (sizeOf sels, 0)
decreasing_by all_goals simp +arith [Prod.lex_def]

theorem selector_failsWithin : ∀ (s : Selector) (ctx : EvalContext) (n : Node),
    I.selector s ctx n → FailsWithin P (s.eval ctx n)
  | .name _, _, _, _ | .index _, _, _, _ | .wildcard, _, _, _ | .slice _ _ _, _, _, _ => by
    simp only [Selector.eval]
    exact FailsWithin.ok _
  | .filter e, ctx, n, h => by
    simp only [Selector.eval]
    split
    · exact FailsWithin.error (I.filter_tooDeep h ‹_›)
    · exact FailsWithin.filterM fun c hc => test_failsWithin e _ c (I.filter h ‹_› hc)
termination_by s => (sizeOf s, 0)
decreasing_by all_goals simp +arith [Prod.lex_def]

theorem test_failsWithin : ∀ (e : Expr) (ctx : EvalContext) (cur : Node),
    I.test e ctx cur → FailsWithin P (e.holdsAt ctx cur)
  | .or l r, ctx, cur, h => by
    simp only [Expr.holdsAt]
    -- the right operand runs only when the left one fails to hold
    exact (test_failsWithin l ctx cur (I.test_or h).1).bind fun b _ => by
      cases b
      · exact test_failsWithin r ctx cur (I.test_or h).2
      · exact FailsWithin.ok _
  | .and l r, ctx, cur, h => by
    simp only [Expr.holdsAt]
    exact (test_failsWithin l ctx cur (I.test_and h).1).bind fun b _ => by
      cases b
      · exact FailsWithin.ok _
      · exact test_failsWithin r ctx cur (I.test_and h).2
  | .not e, ctx, cur, h => by
    simp only [Expr.holdsAt]
    exact (test_failsWithin e ctx cur (I.test_not h)).bind fun _ _ => FailsWithin.ok _
  | .test q, ctx, cur, h => by
    simp only [Expr.holdsAt]
    exact (query_failsWithin q ctx cur (I.test_test h)).bind fun _ _ => FailsWithin.ok _
  | .compare l op r, ctx, cur, h => by
    simp only [Expr.holdsAt]
    exact (side_failsWithin l ctx cur (I.test_compare h).1).bind fun _ _ =>
      (side_failsWithin r ctx cur (I.test_compare h).2).bind fun _ _ => FailsWithin.ok _
  | .call name args res span, ctx, cur, h => by
    simp only [Expr.holdsAt]
    exact (call_failsWithin name args span ctx cur (I.test_call h)).bind fun _ _ => FailsWithin.ok _
  | .query q, _, _, h => by
    simp only [Expr.holdsAt]
    exact FailsWithin.error (I.notLogical_query h)
  | .literal v, _, _, h => by
    simp only [Expr.holdsAt]
    exact FailsWithin.error (I.notLogical_literal h)
termination_by e => (sizeOf e, 0)
decreasing_by all_goals simp +arith [Prod.lex_def]

theorem side_failsWithin : ∀ (e : Expr) (ctx : EvalContext) (cur : Node),
    I.side e ctx cur → FailsWithin P (e.comparable ctx cur)
  | .literal _, _, _, _ => by
    simp only [Expr.comparable]
    exact FailsWithin.ok _
  | .query q, ctx, cur, h => by
    simp only [Expr.comparable]
    exact (query_failsWithin q ctx cur (I.side_query h)).bind fun _ _ => FailsWithin.ok _
  | .call name args res span, ctx, cur, h => by
    simp only [Expr.comparable]
    refine (call_failsWithin name args span ctx cur (I.side_call h)).bind fun out _ => ?_
    -- a call returning nodes is used through its only value
    split
    · subst res
      split
      · exact (FailsWithin.singleValue fun _ => I.side_notOneNode h).bind
          fun _ _ => FailsWithin.ok _
      · exact FailsWithin.ok _
    · exact FailsWithin.ok _
  | .test _, _, _, h | .compare _ _ _, _, _, h | .not _, _, _, h | .and _ _, _, _, h
  | .or _ _, _, _, h => by
    simp only [Expr.comparable]
    exact FailsWithin.error (I.notComparable h rfl)
termination_by e => (sizeOf e, 0)
decreasing_by all_goals simp +arith [Prod.lex_def]

theorem args_failsWithin : ∀ (es : List Expr) (ps : List ExprType) (span : Span)
    (ctx : EvalContext) (cur : Node), I.arguments es ps span ctx cur →
      FailsWithin P (Expr.arguments es ps span ctx cur)
  | e :: es, p :: ps, span, ctx, cur, h => by
    simp only [Expr.arguments]
    exact (arg_failsWithin e p span ctx cur (I.args_cons h).1).bind fun _ _ =>
      (args_failsWithin es ps span ctx cur (I.args_cons h).2).bind fun _ _ => FailsWithin.ok _
  | [], [], _, _, _, _ => by
    simp only [Expr.arguments]
    exact FailsWithin.ok _
  | [], _ :: _, _, _, _, h => by
    simp only [Expr.arguments]
    exact FailsWithin.error (I.unpaired_params h (List.cons_ne_nil _ _))
  | _ :: _, [], _, _, _, h => by
    simp only [Expr.arguments]
    exact FailsWithin.error (I.unpaired_args h (List.cons_ne_nil _ _))
termination_by es => (sizeOf es, 0)
decreasing_by all_goals simp +arith [Prod.lex_def]

theorem arg_failsWithin : ∀ (e : Expr) (p : ExprType) (call : Span) (ctx : EvalContext)
    (cur : Node), I.argument e p call ctx cur → FailsWithin P (e.argument p call ctx cur)
  | e, .logical, _, ctx, cur, h => by
    simp only [Expr.argument]
    exact (test_failsWithin e ctx cur (I.arg_logical h)).bind fun _ _ => FailsWithin.ok _
  | .query q, .nodes, _, ctx, cur, h => by
    simp only [Expr.argument]
    exact (query_failsWithin q ctx cur (I.arg_nodes_query h)).bind fun _ _ => FailsWithin.ok _
  | .call name args _ span, .nodes, _, ctx, cur, h => by
    simp only [Expr.argument]
    exact call_failsWithin name args span ctx cur (I.arg_nodes_call h)
  | .query q, .value, call, ctx, cur, h => by
    simp only [Expr.argument]
    -- a query that is not singular is used through its only node
    split
    · exact (query_failsWithin q ctx cur (I.arg_value_query h)).bind fun _ _ => FailsWithin.ok _
    · exact (query_failsWithin q ctx cur (I.arg_value_query h)).bind fun _ _ =>
        (FailsWithin.singleValue fun _ => I.arg_value_notOneNode h (Bool.eq_false_iff.2 ‹_›)).bind
          fun _ _ => FailsWithin.ok _
  | .call name args .nodes span, .value, call, ctx, cur, h => by
    simp only [Expr.argument]
    refine (call_failsWithin name args span ctx cur (I.side_call (I.arg_value_call h))).bind
      fun out _ => ?_
    split
    · exact (FailsWithin.singleValue fun _ => I.arg_value_callNotOneNode h).bind
        fun _ _ => FailsWithin.ok _
    · exact FailsWithin.ok _
  | .call name args .value span, .value, _, ctx, cur, h
  | .call name args .logical span, .value, _, ctx, cur, h => by
    simp only [Expr.argument]
    exact (side_failsWithin _ ctx cur (I.arg_value_call h)).bind fun _ _ => FailsWithin.ok _
  | .literal _, .value, _, ctx, cur, h => by
    simp only [Expr.argument]
    exact (side_failsWithin _ ctx cur (I.arg_value_literal h)).bind fun _ _ => FailsWithin.ok _
  | .test _, .value, _, ctx, cur, h | .compare _ _ _, .value, _, ctx, cur, h
  | .not _, .value, _, ctx, cur, h | .and _ _, .value, _, ctx, cur, h
  | .or _ _, .value, _, ctx, cur, h => by
    simp only [Expr.argument]
    exact (side_failsWithin _ ctx cur (I.arg_value_logical h rfl)).bind
      fun _ _ => FailsWithin.ok _
  | .literal _, .nodes, _, _, _, h => by
    simp only [Expr.argument]
    exact FailsWithin.error (I.notCall_literal h)
  | .test _, .nodes, _, _, _, h | .compare _ _ _, .nodes, _, _, _, h | .not _, .nodes, _, _, _, h
  | .and _ _, .nodes, _, _, _, h | .or _ _, .nodes, _, _, _, h => by
    simp only [Expr.argument]
    exact FailsWithin.error (I.notCall_logical h rfl)
termination_by e => (sizeOf e, 1)
decreasing_by all_goals simp +arith [Prod.lex_def]

theorem call_failsWithin : ∀ (name : String) (args : List Expr) (span : Span) (ctx : EvalContext)
    (cur : Node), I.invokes name args span ctx cur →
      FailsWithin P (invoke ctx.registry name span fun ps => Expr.arguments args ps span ctx cur)
  | _, args, span, ctx, cur, h =>
    I.invoke_failsWithin h fun _ hf => args_failsWithin args _ span ctx cur (I.call_args h hf)
termination_by _ args => (sizeOf args, 1)
decreasing_by all_goals simp +arith [Prod.lex_def]

end

/-- Evaluating a query on a document, from a state that meets the invariant, fails only within
`P`, given that `P` allows the refusal of a query from the current node. -/
theorem eval_failsWithin {q : Query} {reg : Registry} {maxDepth : Int} {root : Value}
    (h : I.query q ⟨root, reg, maxDepth, 0⟩ ⟨root, []⟩)
    (hrel : q.root = .current → P .relativeQuery) : FailsWithin P (q.eval reg maxDepth root) := by
  unfold Query.eval
  split
  · exact FailsWithin.error (hrel ‹_›)
  · exact I.query_failsWithin q _ _ h

end EvalInvariant

end JsonPath
