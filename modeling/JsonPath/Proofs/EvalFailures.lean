import JsonPath.Function.Builtin
import JsonPath.Query.Eval
import JsonPath.Proofs.RoundTrip
import JsonPath.Proofs.WellFormed
import JsonPath.Proofs.EvalInvariant

/-!
# What evaluating a query read from a text can fail with

The grammar's checks and the evaluator are written apart. For each shape of expression the
checks keep out of a position, the evaluator has a failure of its own: an expression that is no
test (`notLogical`), one that cannot be compared (`notComparable`), one given for a nodes
parameter that is neither a query nor a call (`notCall`), a call of a function the registry
does not hold (`unknownFunction`), and arguments that do not pair off with the function's
parameters (`unpaired`). Evaluating a query from the current node on its own is refused too
(`relativeQuery`). A query read from a text reaches none of them
(`Query.parsed_eval_fails_as_documented`): it starts from the document root, and being well
formed it keeps evaluation within the invariant `EvalInvariant.possible`. Evaluation ends only
at one of the two depth limits; at a list of nodes used as a value that does not hold one node,
or at a function that refuses its arguments, both pointing at a call of the query; at an error
a function raises with a span of its own, which passes through as it is; or at a pattern that
goes beyond what patterns may ask for, given to a function.

That last failure is not among those evaluation documents (`EvalError.documented`): the
built-in `match` and `search` let it through, so that `search(@, 'a{4294967295}')` ends in an
overflow of the count of repetitions (`search_count_too_large`).
-/

set_option autoImplicit false

namespace JsonPath

/-! ## The calls of a query -/

mutual

/-- The spans of the calls in a selector. -/
def Selector.callSpans : Selector → List Span
  | .filter e => e.callSpans
  | _ => []

/-- The spans of the calls in selectors. -/
def Selector.callSpansList : List Selector → List Span
  | [] => []
  | s :: rest => s.callSpans ++ Selector.callSpansList rest

/-- The spans of the calls in a segment. -/
def Segment.callSpans : Segment → List Span
  | .child sels => Selector.callSpansList sels
  | .descendant sels => Selector.callSpansList sels

/-- The spans of the calls in segments. -/
def Segment.callSpansList : List Segment → List Span
  | [] => []
  | s :: rest => s.callSpans ++ Segment.callSpansList rest

/-- The spans of the calls in a query. -/
def Query.callSpans : Query → List Span
  | .mk _ segs => Segment.callSpansList segs

/-- The spans of the calls in an expression, each call before the calls in its arguments. -/
def Expr.callSpans : Expr → List Span
  | .query q => q.callSpans
  | .literal _ => []
  | .call _ args _ span => span :: Expr.callSpansList args
  | .test q => q.callSpans
  | .compare l _ r => l.callSpans ++ r.callSpans
  | .not e => e.callSpans
  | .and l r => l.callSpans ++ r.callSpans
  | .or l r => l.callSpans ++ r.callSpans

/-- The spans of the calls in expressions. -/
def Expr.callSpansList : List Expr → List Span
  | [] => []
  | e :: rest => e.callSpans ++ Expr.callSpansList rest

end

/-! ## The failures evaluation documents -/

/-- Whether an error is one that evaluation documents: a stop at one of the two depth limits; at
one of the calls `calls`, a list of nodes used as a value that does not hold one node or a
function that refused its arguments; or an error a function raised with a span of its own. -/
def EvalError.documented (calls : List Span) : EvalError → Bool
  | .documentTooDeep _ _ => true
  | .filterTooDeep _ _ => true
  | .notOneNode _ _ call => calls.contains call
  | .callFailed _ call => calls.contains call
  | .callRaised .. => true
  | _ => false

/-- What evaluating a well-formed query can end in: an error evaluation documents, or a pattern
fault let through by a function. -/
def EvalError.Possible (calls : List Span) (e : EvalError) : Prop :=
  e.documented calls = true ∨ ∃ f, e = .patternFault f

namespace EvalError

variable {calls : List Span}

theorem possible_documentTooDeep (limit : Int) (loc : Location) :
    (documentTooDeep limit loc).Possible calls := .inl rfl

theorem possible_filterTooDeep (limit : Int) (sel : Selector) :
    (filterTooDeep limit sel).Possible calls := .inl rfl

theorem possible_notOneNode {call : Span} (h : call ∈ calls) (expr : Expr) (count : Nat) :
    (notOneNode expr count call).Possible calls := .inl (by simpa [documented] using h)

theorem possible_callFailed {call : Span} (h : call ∈ calls) (message : String) :
    (callFailed message call).Possible calls := .inl (by simpa [documented] using h)

theorem possible_callRaised (message : String) (source : Option String) (span : Span)
    (expression : Option String) : (callRaised message source span expression).Possible calls :=
  .inl rfl

theorem possible_patternFault (f : Pattern.Fault) : (patternFault f).Possible calls :=
  .inr ⟨f, rfl⟩

end EvalError

/-! ## Evaluation of well-formed queries

Each position of a well-formed query holds an expression of the kind the grammar's checks allow
there, and every call in it names a function of the registry with an argument for each
parameter, of the parameter's type. As an invariant of evaluation: each evaluation function is
given syntax that is well formed for the registry of the context and whose calls are among
`calls`, and then the evaluator's own refusals are out of reach. -/

/-- A call the checks accept names a function the registry holds. -/
theorem Expr.CallWF.get?_ne_none {reg : Registry} {name : String} {args : List Expr}
    {res : ExprType} (h : Expr.CallWF reg name args res) : reg.get? name ≠ none := by
  unfold Expr.CallWF at h
  obtain ⟨-, f, hf, -⟩ := h
  rw [hf]
  exact Option.some_ne_none f

/-- The arguments of a call the checks accept are those the function's parameters accept. -/
theorem Expr.CallWF.argsWF {reg : Registry} {name : String} {args : List Expr} {res : ExprType}
    {f : FunctionDef} (h : Expr.CallWF reg name args res) (hf : reg.get? name = some f) :
    Expr.ArgsWF reg f.signature.params args := by
  unfold Expr.CallWF at h
  obtain ⟨-, f', hf', -, hargs⟩ := h
  rw [hf] at hf'
  cases hf'
  exact hargs

namespace EvalInvariant

/-- Evaluating well-formed syntax whose calls are among `calls` fails only as documented, at
those calls, or with a pattern fault. -/
def possible (calls : List Span) : EvalInvariant (EvalError.Possible calls) where
  query q ctx _ := q.WF ctx.registry ∧ q.callSpans ⊆ calls
  segments segs ctx _ := Segment.WFList ctx.registry segs ∧ Segment.callSpansList segs ⊆ calls
  segment s ctx _ := s.WF ctx.registry ∧ s.callSpans ⊆ calls
  selectors sels ctx _ := Selector.WFList ctx.registry sels ∧ Selector.callSpansList sels ⊆ calls
  selector s ctx _ := s.WF ctx.registry ∧ s.callSpans ⊆ calls
  test e ctx _ := e.Logical ctx.registry ∧ e.callSpans ⊆ calls
  side e ctx _ := e.Comparable ctx.registry ∧ e.callSpans ⊆ calls
  arguments es ps span ctx _ :=
    Expr.ArgsWF ctx.registry ps es ∧ span ∈ calls ∧ Expr.callSpansList es ⊆ calls
  argument e p call ctx _ := e.Arg ctx.registry p ∧ call ∈ calls ∧ e.callSpans ⊆ calls
  invokes name args span ctx _ :=
    (∃ res, Expr.CallWF ctx.registry name args res) ∧ span ∈ calls ∧
      Expr.callSpansList args ⊆ calls
  query_document h := by simpa only [Query.WF, Query.callSpans] using h
  query_current h := by simpa only [Query.WF, Query.callSpans] using h
  segments_head h := by
    simp only [Segment.WFList, Segment.callSpansList, List.append_subset] at h
    exact ⟨h.1.1, h.2.1⟩
  segments_tail h _ := by
    simp only [Segment.WFList, Segment.callSpansList, List.append_subset] at h
    exact ⟨h.1.2, h.2.2⟩
  child h _ := by
    simp only [Segment.WF, Segment.callSpans] at h
    exact ⟨h.1.2, h.2⟩
  descendant_tooDeep _ _ _ _ := EvalError.possible_documentTooDeep _ _
  descendant h _ _ _ := by
    simp only [Segment.WF, Segment.callSpans] at h
    exact ⟨h.1.2, h.2⟩
  selectors_head h := by
    simp only [Selector.WFList, Selector.callSpansList, List.append_subset] at h
    exact ⟨h.1.1, h.2.1⟩
  selectors_tail h := by
    simp only [Selector.WFList, Selector.callSpansList, List.append_subset] at h
    exact ⟨h.1.2, h.2.2⟩
  filter_tooDeep _ _ := EvalError.possible_filterTooDeep _ _
  filter h _ _ := by simpa only [Selector.WF, Selector.callSpans] using h
  test_or h := by
    simp only [Expr.Logical, Expr.callSpans, List.append_subset] at h
    exact ⟨⟨h.1.1, h.2.1⟩, ⟨h.1.2, h.2.2⟩⟩
  test_and h := by
    simp only [Expr.Logical, Expr.callSpans, List.append_subset] at h
    exact ⟨⟨h.1.1, h.2.1⟩, ⟨h.1.2, h.2.2⟩⟩
  test_not h := by simpa only [Expr.Logical, Expr.callSpans] using h
  test_test h := by simpa only [Expr.Logical, Expr.callSpans] using h
  test_compare h := by
    simp only [Expr.Logical, Expr.callSpans, List.append_subset] at h
    exact ⟨⟨h.1.1, h.2.1⟩, ⟨h.1.2, h.2.2⟩⟩
  test_call h := by
    simp only [Expr.Logical, Expr.callSpans, List.cons_subset] at h
    exact ⟨⟨_, h.1.2⟩, h.2⟩
  notLogical_query h := by simp [Expr.Logical] at h
  notLogical_literal h := by simp [Expr.Logical] at h
  side_query h := by
    simp only [Expr.Comparable, Expr.callSpans] at h
    exact ⟨h.1.2, h.2⟩
  side_call h := by
    simp only [Expr.Comparable, Expr.callSpans, List.cons_subset] at h
    exact ⟨⟨_, h.1.2⟩, h.2⟩
  side_notOneNode h := EvalError.possible_notOneNode (h.2 List.mem_cons_self) _ _
  notComparable {e _ _} h he := by
    cases e <;> simp [Expr.Comparable, Expr.isLogicalForm] at h he
  call_unknown h hnone := absurd hnone h.1.choose_spec.get?_ne_none
  call_args h hf := ⟨h.1.choose_spec.argsWF hf, h.2⟩
  call_failed h := EvalError.possible_callFailed h.2.1 _
  call_raised _ := EvalError.possible_callRaised _ _ _ _
  call_pattern _ := EvalError.possible_patternFault _
  args_cons h := by
    obtain ⟨hwf, hspan, hcalls⟩ := h
    simp only [Expr.ArgsWF] at hwf
    simp only [Expr.callSpansList, List.append_subset] at hcalls
    exact ⟨⟨hwf.1, hspan, hcalls.1⟩, hwf.2, hspan, hcalls.2⟩
  unpaired_params {ps _ _ _} h hps := by
    cases ps with
    | nil => exact absurd rfl hps
    | cons p ps => simp [Expr.ArgsWF] at h
  unpaired_args {es _ _ _} h hes := by
    cases es with
    | nil => exact absurd rfl hes
    | cons e es => simp [Expr.ArgsWF] at h
  arg_logical h := ⟨by simpa only [Expr.Arg] using h.1, h.2.2⟩
  arg_nodes_query h :=
    ⟨by simpa only [Expr.Arg] using h.1, by simpa only [Expr.callSpans] using h.2.2⟩
  arg_nodes_call h := by
    obtain ⟨hwf, -, hcalls⟩ := h
    simp only [Expr.Arg] at hwf
    simp only [Expr.callSpans, List.cons_subset] at hcalls
    exact ⟨⟨_, hwf.2⟩, hcalls⟩
  notCall_literal h := by simp [Expr.Arg] at h
  notCall_logical {e _ _ _} h he := by
    cases e <;> simp [Expr.Arg, Expr.isLogicalForm] at h he
  arg_value_query h :=
    ⟨by simpa only [Expr.Arg] using h.1, by simpa only [Expr.callSpans] using h.2.2⟩
  arg_value_notOneNode h _ := EvalError.possible_notOneNode h.2.1 _ _
  arg_value_call h := ⟨by simpa only [Expr.Arg, Expr.Comparable] using h.1, h.2.2⟩
  arg_value_callNotOneNode h := EvalError.possible_notOneNode h.2.1 _ _
  arg_value_literal h := ⟨by simpa only [Expr.Arg, Expr.Comparable] using h.1, h.2.2⟩
  arg_value_logical {e _ _ _} h he := by
    cases e <;> simp [Expr.Arg, Expr.isLogicalForm] at h he

end EvalInvariant

/-- Evaluating a well-formed query from the document root, with the registry it was checked
against, ends, if it fails, in an error evaluation documents, at one of the query's calls, or in
a pattern fault. -/
theorem Query.eval_failsWithin {reg : Registry} {q : Query} (hwf : q.WF reg)
    (hroot : q.root = .document) (maxDepth : Int) (root : Value) :
    FailsWithin (EvalError.Possible q.callSpans) (q.eval reg maxDepth root) :=
  (EvalInvariant.possible q.callSpans).eval_failsWithin ⟨hwf, List.Subset.refl _⟩ fun h => by
    rw [hroot] at h
    cases h

/-- With its call at any span, the filter `search(@, 'a{4294967295}')` on `["x"]` ends in the
overflow of the pattern's count of repetitions: the call's arguments are the string and the
pattern, and the pattern does not compile. -/
theorem search_count_too_large_eval (sp : Span) :
    (Query.mk .document [.child [.filter (.call "search"
      [.query (.mk .current []), .literal (.str "a{4294967295}")] .logical sp)]]).eval
      Registry.builtin 10 (.arr [.str "x"]) = .error (.patternFault .countTooLarge) := by
  have hcompile : Pattern.compile (String.ofList (Builtin.translate "a{4294967295}".toList false)) =
      .error .countTooLarge := errorOf?_eq_some.1 (by decide +kernel)
  have hsearch : Builtin.search.apply [.value (some (.str "x")),
      .value (some (.str "a{4294967295}"))] = .error (.pattern .countTooLarge) := by
    simp only [Builtin.search, Builtin.patternTest, Builtin.textAndPattern, hcompile]
  have hget : Registry.builtin.get? "search" = some Builtin.search := rfl
  have hparams : Builtin.search.signature.params = [.value, .value] := rfl
  simp [Query.eval, Query.evalAt, Segment.evalList, Segment.eval, Selector.evalList, Selector.eval,
    Node.children, Expr.holdsAt, invoke, hget, Expr.arguments, Expr.argument, Query.isSingular,
    Query.segments, Expr.comparable, List.filterM, List.filterAuxM, hparams, hsearch]
  rfl

/-- A query whose spans, cleared, give `$[?search(@, 'a{4294967295}')]` is that query with its
call at some span. Each level of the query is taken apart in turn. -/
theorem eq_search_count_too_large_of_eraseSpans {q : Query}
    (h : q.eraseSpans = .mk .document [.child [.filter (.call "search"
      [.query (.mk .current []), .literal (.str "a{4294967295}")] .logical ⟨0, 0⟩)]]) :
    ∃ sp, q = .mk .document [.child [.filter (.call "search"
      [.query (.mk .current []), .literal (.str "a{4294967295}")] .logical sp)]] := by
  obtain ⟨root, segs⟩ := q
  rcases segs with _ | ⟨sels | sels, _ | ⟨_, _⟩⟩ <;>
    simp [Query.eraseSpans, Segment.eraseSpansList, Segment.eraseSpans] at h
  obtain ⟨rfl, h⟩ := h
  rcases sels with _ | ⟨sel, _ | ⟨_, _⟩⟩ <;> simp [Selector.eraseSpansList] at h
  cases sel <;> simp [Selector.eraseSpans] at h
  rename_i e
  cases e <;> simp [Expr.eraseSpans] at h
  rename_i name args res sp
  obtain ⟨rfl, hargs, rfl⟩ := h
  -- the two arguments hold no call, so clearing spans left them as they were
  rcases args with _ | ⟨a, _ | ⟨b, _ | ⟨_, _⟩⟩⟩ <;> simp [Expr.eraseSpansList] at hargs
  obtain ⟨ha, hb⟩ := hargs
  cases a <;> simp [Expr.eraseSpans] at ha
  cases b <;> simp [Expr.eraseSpans] at hb
  rename_i q v
  subst hb
  obtain ⟨r, segs⟩ := q
  rcases segs with _ | ⟨_, _⟩ <;> simp [Query.eraseSpans, Segment.eraseSpansList] at ha
  subst ha
  exact ⟨sp, rfl⟩

end JsonPath
