import JsonPath.Query.Render
import JsonPath.Node
import JsonPath.Slice
import JsonPath.Syntax.Diagnostic

/-!
# Evaluating queries

`Query.eval` applies the segments of a query in turn to the list of nodes selected so
far, starting from the root of the document. A child segment applies each of its
selectors, in order, to each node; a descendant segment does the same for each node and
all nodes below it, visited depth first, each node before its children, arrays in index
order and objects in member order.

A filter selector keeps the children of a node for which its expression holds, with `@`
standing for the child. Comparisons take the value of a singular query, or none when it
selects nothing; none equals only none, and `<`, `>` hold of no pair with none in it.
Values of two kinds are unequal; arrays are equal element by element and objects member
by member; only numbers and strings are ordered. A function receives its arguments
converted to its parameter types: a list of nodes used as a value must hold exactly one.

Two limits keep evaluation bounded: a descendant segment may not reach a node more than
`maxDepth` levels below the node it starts from, and filters may not nest more than
`maxDepth` deep.
-/

set_option autoImplicit false

namespace JsonPath

/-- The name of the class of an expression, as messages about the expression give it. -/
def Expr.className : Expr → String
  | .query _ => "Query"
  | .literal _ => "LiteralExpr"
  | .call .. => "FunctionCall"
  | .test _ => "ExistenceTest"
  | .compare .. => "Comparison"
  | .not _ => "LogicalNot"
  | .and .. => "LogicalAnd"
  | .or .. => "LogicalOr"

/-- Why evaluating a query failed. -/
inductive EvalError where
  /-- A descendant segment reached a node deeper than the limit, at this location. -/
  | documentTooDeep (limit : Int) (location : Location)
  /-- Filters nested deeper than the limit, at this filter selector. -/
  | filterTooDeep (limit : Int) (selector : Selector)
  /-- A list of nodes used as a value did not hold exactly one node. -/
  | notOneNode (expr : Expr) (count : Nat) (call : Span)
  /-- A function failed with a message. -/
  | callFailed (message : String) (call : Span)
  /-- A function failed with an error that already points at a span, which the call lets
  through as it is: its message, the text of the span if it names one, and the expression it
  concerns if any. -/
  | callRaised (message : String) (source : Option String) (span : Span)
      (expression : Option String)
  /-- A call of a function the registry does not hold. -/
  | unknownFunction (name : String) (call : Span)
  /-- The arguments of a call and the parameters of its function, taken in pairs, run out at
  different places: the parameters last when `moreParams`, the arguments last otherwise. -/
  | unpaired (moreParams : Bool)
  /-- An expression that cannot be used as a test. -/
  | notLogical (expr : Expr)
  /-- An expression that cannot be compared. -/
  | notComparable (expr : Expr)
  /-- An expression given for a nodes parameter that is neither a query nor a call, taken for
  a call: it has no function name to look up. -/
  | notCall (expr : Expr)
  /-- A pattern given to a function goes beyond what patterns may ask for. -/
  | patternFault (fault : Pattern.Fault)
  /-- A query from the current node, evaluated on its own. -/
  | relativeQuery

namespace EvalError

/-- The class of the error: the query language's runtime error, or, for a pattern that cannot
be used, arguments that do not pair off with the parameters and an expression taken for a call,
an error of the language the program runs in. -/
def kind : EvalError → String
  | .patternFault f => f.kind
  | .unpaired _ => "ValueError"
  | .notCall _ => "AttributeError"
  | _ => "QueryRuntimeError"

/-- The message of an evaluation error. -/
def message : EvalError → String
  | .documentTooDeep l _ => s!"Document nesting exceeds the maximum depth of {l}"
  | .filterTooDeep l _ => s!"Filter nesting exceeds the maximum depth of {l}"
  | .notOneNode e n _ =>
    e.render ++ s!" must select exactly one node to be used as a value, but selected {n}"
  | .callFailed m _ => m
  | .callRaised m _ _ _ => m
  | .unknownFunction name _ => "Unknown function: " ++ name
  | .unpaired moreParams =>
    "zip() argument 2 is " ++ (if moreParams then "longer" else "shorter") ++ " than argument 1"
  | .notLogical e => "Unsupported logical expression: " ++ e.render
  | .notComparable e => "Unsupported comparison operand: " ++ e.render
  | .notCall e => "'" ++ e.className ++ "' object has no attribute 'name'"
  | .patternFault f => f.message
  | .relativeQuery => "Only queries starting with '$' can be evaluated directly"

/-- The error as shown for the query text `source`: a diagnostic of the span it points at, in
`source` or in the text of its own; or its message followed by the expression it concerns; or
its message alone. -/
def render (source : String) (e : EvalError) : String :=
  match e with
  | .documentTooDeep _ loc => e.message ++ " in " ++ loc.render
  | .filterTooDeep _ sel => e.message ++ " in " ++ sel.render
  | .notLogical x | .notComparable x => e.message ++ " in " ++ x.render
  | .notOneNode _ _ span | .callFailed _ span | .unknownFunction _ span =>
    Diagnostic.render source span.start span.stop e.message []
  | .callRaised m (some text) span _ => Diagnostic.render text span.start span.stop m []
  | .callRaised m none _ (some x) => m ++ " in " ++ x
  | _ => e.message

end EvalError

/-- What evaluation needs besides the query: the document, the functions, the depth limit
and how deep the filters around the current expression nest. -/
structure EvalContext where
  root : Value
  registry : Registry
  maxDepth : Int
  filterDepth : Nat

/-- Evaluation: a result, or the first error. -/
abbrev Eval := Except EvalError

namespace Node

/-- The children of a node: array elements in index order, object members in member
order. -/
def children (n : Node) : List Node :=
  match n.value with
  | .arr items => (List.range items.length).zip items |>.map fun (i, v) =>
      ⟨v, n.location ++ [.index i]⟩
  | .obj members => members.map fun (k, v) => ⟨v, n.location ++ [.name k]⟩
  | _ => []

end Node

mutual

/-- The nodes below a value at a location, with their depth, each before its children. -/
def Value.preorder : Value → Location → Nat → List (Node × Nat)
  | .arr items, loc, d => (⟨.arr items, loc⟩, d) :: Value.preorderItems items loc 0 (d + 1)
  | .obj ms, loc, d => (⟨.obj ms, loc⟩, d) :: Value.preorderMembers ms loc (d + 1)
  | v, loc, d => [(⟨v, loc⟩, d)]

/-- The nodes below the elements of an array, from position `i` on. -/
def Value.preorderItems : List Value → Location → Nat → Nat → List (Node × Nat)
  | [], _, _, _ => []
  | v :: rest, loc, i, d =>
    Value.preorder v (loc ++ [.index i]) d ++ Value.preorderItems rest loc (i + 1) d

/-- The nodes below the members of an object. -/
def Value.preorderMembers : List (String × Value) → Location → Nat → List (Node × Nat)
  | [], _, _ => []
  | (k, v) :: rest, loc, d =>
    Value.preorder v (loc ++ [.name k]) d ++ Value.preorderMembers rest loc d

end

namespace Node

/-- What a stack of nodes has left to visit. -/
def stackSize : List (Node × Nat) → Nat
  | [] => 0
  | (n, _) :: rest => n.value.size + stackSize rest

theorem stackSize_append (l l' : List (Node × Nat)) :
    stackSize (l ++ l') = stackSize l + stackSize l' := by
  induction l with
  | nil => simp [stackSize]
  | cons e l ih => obtain ⟨n, d⟩ := e; simp only [List.cons_append, stackSize, ih]; omega

theorem stackSize_items (loc : Location) (k : Nat) : ∀ (is : List Nat) (items : List Value),
    stackSize (((is.zip items).map fun p => (⟨p.2, loc ++ [.index p.1]⟩ : Node)).map
      fun c => (c, k)) ≤ Value.sizeItems items
  | [], _ => by simp [stackSize]
  | _ :: _, [] => by simp [stackSize]
  | i :: is, v :: items => by
    have := stackSize_items loc k is items
    simp only [List.zip_cons_cons, List.map_cons, stackSize, Value.sizeItems]
    omega

theorem stackSize_members (loc : Location) (k : Nat) : ∀ ms : List (String × Value),
    stackSize ((ms.map fun m => (⟨m.2, loc ++ [.name m.1]⟩ : Node)).map
      fun c => (c, k)) = Value.sizeMembers ms
  | [] => by simp [stackSize, Value.sizeMembers]
  | (key, v) :: ms => by
    simp only [List.map_cons, stackSize, Value.sizeMembers, stackSize_members loc k ms]

/-- The children of a node hold fewer values than the node. -/
theorem stackSize_children_lt (n : Node) (k : Nat) :
    stackSize (n.children.map fun c => (c, k)) < n.value.size := by
  obtain ⟨v, loc⟩ := n
  cases v <;> simp only [children, List.map_nil, stackSize, Value.size]
  case arr items =>
    have := stackSize_items loc k (List.range items.length) items
    omega
  case obj ms =>
    rw [stackSize_members]
    omega
  all_goals omega

/-- The walk below a stack of nodes with their depths, the top of the stack first: pops a
node, visits it and pushes its children in reverse order, so that its first child is visited
next. -/
def walk : List (Node × Nat) → List (Node × Nat)
  | [] => []
  | (n, d) :: rest =>
    (n, d) :: walk ((n.children.reverse.map fun c => (c, d + 1)).foldl (fun s e => e :: s) rest)
termination_by stack => stackSize stack
decreasing_by
  have := stackSize_children_lt n (d + 1)
  simp only [List.foldl_flip_cons_eq_append, List.map_id', List.map_reverse,
    List.reverse_reverse, stackSize_append, stackSize]
  omega

/-- A node and all nodes below it, each before its children, with its depth below `n`: the
walk from a stack that holds `n` alone. -/
def descendants (n : Node) : List (Node × Nat) := walk [(n, 0)]

/-- The member of an object node under a name. -/
def selectName (name : String) (n : Node) : List Node :=
  match n.value with
  | .obj members =>
    match Value.lookup members name with
    | some v => [⟨v, n.location ++ [.name name]⟩]
    | none => []
  | _ => []

/-- The element of an array node at an index; a negative index counts from the end. -/
def selectIndex (i : Int) (n : Node) : List Node :=
  match n.value with
  | .arr items =>
    let pos := if i ≥ 0 then i else items.length + i
    if pos < 0 then []
    else match items[pos.toNat]? with
      | some v => [⟨v, n.location ++ [.index pos.toNat]⟩]
      | none => []
  | _ => []

/-- The elements of an array node selected by a slice. -/
def selectSlice (start stop step : Option Int) (n : Node) : List Node :=
  match n.value with
  | .arr items =>
    (Slice.indices items.length start stop step).filterMap fun pos =>
      items[pos.toNat]?.map fun v => ⟨v, n.location ++ [.index pos.toNat]⟩
  | _ => []

end Node

/-- Compares two values, either of which may be absent. -/
def compareValues (op : CompareOp) (a b : Option Value) : Bool :=
  let equal := match a, b with
    | none, none => true
    | some x, some y => x.equal y
    | _, _ => false
  let less (x y : Option Value) : Bool := match x, y with
    | some x, some y => x.less y
    | _, _ => false
  match op with
  | .eq => equal
  | .ne => !equal
  | .lt => less a b
  | .le => less a b || equal
  | .gt => less b a
  | .ge => less b a || equal

/-- Whether a function result counts as true: a logical value as itself, a list of nodes
when it is not empty, a value always. -/
def Argument.holds : Argument → Bool
  | .logical b => b
  | .nodes vs => !vs.isEmpty
  | .value _ => true

/-- A function result used as a value. -/
def Argument.asValue : Argument → Option Value
  | .value v => v
  | .logical b => some (.bool b)
  | .nodes vs => some (.arr vs)

/-- The only value of a list of nodes used as a value. -/
def singleValue (vs : List Value) (expr : Expr) (call : Span) : Eval Value :=
  match vs with
  | [v] => pure v
  | _ => throw (.notOneNode expr vs.length call)

/-- Calls the function of a registry named `name` on the arguments `argsOf` computes for
its parameter types. A failure of the function itself points at the call. -/
def invoke (reg : Registry) (name : String) (span : Span)
    (argsOf : List ExprType → Eval (List Argument)) : Eval Argument :=
  match reg.get? name with
  | none => throw (.unknownFunction name span)
  | some f => do
    let values ← argsOf f.signature.params
    match f.apply values with
    | .ok out => pure out
    | .error (.message m) => throw (.callFailed m span)
    | .error (.raised m text sp x) => throw (.callRaised m text sp x)
    | .error (.pattern f) => throw (.patternFault f)

mutual

/-- The nodes a query selects, from the root or from the current node. -/
def Query.evalAt : Query → EvalContext → Node → Eval (List Node)
  | .mk .document segs, ctx, _ => Segment.evalList segs ctx [⟨ctx.root, []⟩]
  | .mk .current segs, ctx, cur => Segment.evalList segs ctx [cur]

/-- Applies segments in turn. -/
def Segment.evalList : List Segment → EvalContext → List Node → Eval (List Node)
  | [], _, nodes => pure nodes
  | s :: rest, ctx, nodes => do
    let next ← s.eval ctx nodes
    Segment.evalList rest ctx next

/-- Applies one segment to each node in turn. -/
def Segment.eval : Segment → EvalContext → List Node → Eval (List Node)
  | .child sels, ctx, nodes => do
    let parts ← nodes.mapM fun n => Selector.evalList sels ctx n
    pure parts.flatten
  | .descendant sels, ctx, nodes => do
    let parts ← nodes.mapM fun n =>
      n.descendants.mapM fun (d, depth) =>
        if (depth : Int) > ctx.maxDepth then throw (.documentTooDeep ctx.maxDepth d.location)
        else Selector.evalList sels ctx d
    pure (parts.map List.flatten).flatten

/-- Applies selectors in turn to one node. -/
def Selector.evalList : List Selector → EvalContext → Node → Eval (List Node)
  | [], _, _ => pure []
  | s :: rest, ctx, n => do
    let first ← s.eval ctx n
    let more ← Selector.evalList rest ctx n
    pure (first ++ more)

/-- Applies one selector to one node. -/
def Selector.eval : Selector → EvalContext → Node → Eval (List Node)
  | .name s, _, n => pure (n.selectName s)
  | .index i, _, n => pure (n.selectIndex i)
  | .wildcard, _, n => pure n.children
  | .slice a b c, _, n => pure (n.selectSlice a b c)
  | .filter e, ctx, n =>
    let inner := { ctx with filterDepth := ctx.filterDepth + 1 }
    if (inner.filterDepth : Int) > ctx.maxDepth then
      throw (.filterTooDeep ctx.maxDepth (.filter e))
    else n.children.filterM fun c => e.holdsAt inner c

/-- Whether a logical expression holds at the current node. -/
def Expr.holdsAt : Expr → EvalContext → Node → Eval Bool
  | .or l r, ctx, cur => do
    if ← l.holdsAt ctx cur then pure true else r.holdsAt ctx cur
  | .and l r, ctx, cur => do
    if ← l.holdsAt ctx cur then r.holdsAt ctx cur else pure false
  | .not e, ctx, cur => do pure !(← e.holdsAt ctx cur)
  | .test q, ctx, cur => do pure !(← q.evalAt ctx cur).isEmpty
  | .compare l op r, ctx, cur => do
    let a ← l.comparable ctx cur
    let b ← r.comparable ctx cur
    pure (compareValues op a b)
  | .call name args _ span, ctx, cur => do
    let out ← invoke ctx.registry name span fun ps => Expr.arguments args ps span ctx cur
    pure out.holds
  | e, _, _ => throw (.notLogical e)

/-- The value of one side of a comparison at the current node. -/
def Expr.comparable : Expr → EvalContext → Node → Eval (Option Value)
  | .literal v, _, _ => pure (some v)
  | .query q, ctx, cur => do
    let nodes ← q.evalAt ctx cur
    pure (nodes.head?.map (·.value))
  | .call name args result span, ctx, cur => do
    let out ← invoke ctx.registry name span fun ps => Expr.arguments args ps span ctx cur
    if result = .nodes then
      match out with
      | .nodes vs => some <$> singleValue vs (.call name args result span) span
      | other => pure other.asValue
    else pure out.asValue
  | e, _, _ => throw (.notComparable e)

/-- The arguments of a call, each converted to its parameter type, in order. Where arguments
and parameters do not pair off, evaluation fails once the shorter list runs out. -/
def Expr.arguments : List Expr → List ExprType → Span → EvalContext → Node →
    Eval (List Argument)
  | e :: es, p :: ps, span, ctx, cur => do
    let a ← e.argument p span ctx cur
    let rest ← Expr.arguments es ps span ctx cur
    pure (a :: rest)
  | [], [], _, _, _ => pure []
  | [], _ :: _, _, _, _ => throw (.unpaired true)
  | _ :: _, [], _, _, _ => throw (.unpaired false)

/-- One argument converted to its parameter type: a test for a logical parameter, the
values of the nodes for a nodes parameter; for a value parameter a list of nodes must hold
exactly one node. -/
def Expr.argument : Expr → ExprType → Span → EvalContext → Node → Eval Argument
  | e, .logical, _, ctx, cur => do pure (.logical (← e.holdsAt ctx cur))
  | .query q, .nodes, _, ctx, cur => do
    pure (.nodes ((← q.evalAt ctx cur).map (·.value)))
  | .call name args _ span, .nodes, _, ctx, cur =>
    invoke ctx.registry name span fun ps => Expr.arguments args ps span ctx cur
  | .query q, .value, call, ctx, cur =>
    if q.isSingular then do
      let nodes ← q.evalAt ctx cur
      pure (.value (nodes.head?.map (·.value)))
    else do
      let nodes ← q.evalAt ctx cur
      pure (.value (some (← singleValue (nodes.map (·.value)) (.query q) call)))
  | .call name args .nodes span, .value, call, ctx, cur => do
    match ← invoke ctx.registry name span (fun ps => Expr.arguments args ps span ctx cur) with
    | .nodes vs => pure (.value (some (← singleValue vs (.call name args .nodes span) call)))
    | other => pure other
  | e, .value, _, ctx, cur => do pure (.value (← e.comparable ctx cur))
  | e, .nodes, _, _, _ => throw (.notCall e)

end

namespace Query

/-- The nodes a query from the document root selects from a document, with the functions of a
registry and a depth limit. A query from the current node has nothing to start from. -/
def eval (q : Query) (reg : Registry) (maxDepth : Int) (root : Value) : Eval (List Node) :=
  match q.root with
  | .current => throw .relativeQuery
  | .document => q.evalAt ⟨root, reg, maxDepth, 0⟩ ⟨root, []⟩

end Query

end JsonPath
