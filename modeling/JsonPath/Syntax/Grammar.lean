import JsonPath.Syntax.ParseError

/-!
# Reading tokens as a query

The grammar is read as a parsing expression grammar: alternatives are tried in order and
the first that matches wins; a repetition takes as many matches as it finds. When no
reading exists, the error is at the *frontier*: the furthest token at which some token
test failed, with everything that was expected there, across all alternatives tried. A
rule beside the grammar (an index range, an operand's type, blanks where tokens must
touch) stops reading at once with its own error.

```
query      = "$" segment* EOI
segment    = ".." bracketed | ".." ("*" | ident) | bracketed | "." ("*" | ident)
bracketed  = "[" selector ("," selector)* "]"
selector   = string | "*" | "?" or | slice | integer
slice      = integer? ":" integer? (":" integer?)?
or         = and ("||" and)*
and        = basic ("&&" basic)*
basic      = "!"* primary | primary (cmp primary)?
primary    = "(" or ")" | ("$" | "@") segment* | ident "(" (or ("," or)*)? ")" | literal
literal    = string | integer | number | "true" | "false" | "null"
```

Every rule takes fuel, spent one unit per call. Each call nests inside a call that has
taken a token since the last call of the same rule, so a number of units proportional to
the number of tokens is enough (`Query.ofTokens`).
-/

set_option autoImplicit false

namespace JsonPath.Syntax

/-- The furthest token at which a token test failed, and the descriptions of what was
expected there. -/
structure Frontier where
  pos : Nat
  expected : List String
deriving Repr

namespace Frontier

/-- Records that `what` was expected at token `pos`. -/
def note (f : Frontier) (pos : Nat) (what : String) : Frontier :=
  if f.pos < pos then ⟨pos, [what]⟩
  else if pos = f.pos then ⟨pos, what :: f.expected⟩
  else f

end Frontier

/-- Reading tokens: the frontier is carried along, a rule beside the grammar throws. -/
abbrev Grammar := StateT Frontier (Except ParseError)

/-- A filter expression with the span of the tokens it was read from. -/
structure Operand where
  expr : Expr
  span : Span

/-- An expression used as a test: a query tests for nodes; a literal, or a call returning a
value, cannot be a test. -/
def asLogical (o : Operand) : Grammar Expr :=
  match o.expr with
  | .query q => pure (.test q)
  | .literal v => throw (.literalAsTest v o.span)
  | .call name _ .value _ => throw (.valueAsTest name o.span)
  | e => pure e

/-- An expression used as a side of a comparison: a literal, a singular query, or a call
that does not return a logical value. -/
def asComparable (o : Operand) : Grammar Expr :=
  match o.expr with
  | .literal v => pure (.literal v)
  | .query q => if q.isSingular then pure (.query q) else throw (.nonSingular q o.span)
  | .call name args result span =>
    if result = .logical then throw (.logicalCallCompared name o.span)
    else pure (.call name args result span)
  | _ => throw (.logicalCompared o.span)

/-- An argument checked against its parameter's type. A value parameter takes literals,
queries and calls not returning a logical value; a logical parameter takes queries as
tests, calls not returning a value and other expressions but literals; a nodes parameter
takes queries and calls returning nodes. -/
def asArgument (name : String) (position : Nat) (param : ExprType) (o : Operand) :
    Grammar Expr :=
  let refuse : Grammar Expr := throw (.argumentType position name param o.span)
  match param, o.expr with
  | .value, .literal v => pure (.literal v)
  | .value, .query q => pure (.query q)
  | .value, .call n a r s => if r = .logical then refuse else pure (.call n a r s)
  | .value, _ => refuse
  | .logical, .query q => pure (.test q)
  | .logical, .call n a r s => if r = .value then refuse else pure (.call n a r s)
  | .logical, .literal _ => refuse
  | .logical, e => pure e
  | .nodes, .query q => pure (.query q)
  | .nodes, .call n a r s => if r = .nodes then pure (.call n a r s) else refuse
  | .nodes, _ => refuse

/-- Checks the arguments of a call in order against the parameters. -/
def asArguments (name : String) : Nat → List ExprType → List Operand → Grammar (List Expr)
  | _, [], _ => pure []
  | _, _, [] => pure []
  | i, p :: ps, o :: os => do
    let e ← asArgument name i p o
    let es ← asArguments name (i + 1) ps os
    pure (e :: es)

section Rules

variable (ts : Array Token) (reg : Registry)

/-- Notes that `what` was expected at `pos`, and fails. -/
def miss {α : Type} (pos : Nat) (what : String) : Grammar (Option α) := do
  modify (·.note pos what)
  pure none

/-- A token of the given kind. -/
def expect (kind : TokenKind) (pos : Nat) : Grammar (Option (Token × Nat)) :=
  match ts[pos]? with
  | some t => if t.kind = kind then pure (some (t, pos + 1)) else miss pos kind.description
  | none => miss pos kind.description

/-- An identifier token with the given text. -/
def keyword (word : String) (pos : Nat) : Grammar (Option (Token × Nat)) :=
  match ts[pos]? with
  | some t =>
    if t.kind = .ident ∧ t.text = word then pure (some (t, pos + 1)) else miss pos word
  | none => miss pos word

/-- The first of two alternatives that matches. -/
def orElse {α : Type} (a : Grammar (Option α)) (b : Unit → Grammar (Option α)) :
    Grammar (Option α) := do
  match ← a with
  | some r => pure (some r)
  | none => b ()

/-- The first of several token kinds that matches. -/
def expectAny (kinds : List TokenKind) (pos : Nat) : Grammar (Option (Token × Nat)) :=
  match kinds with
  | [] => pure none
  | k :: ks => orElse (expect ts k pos) fun _ => expectAny ks pos

/-- The span of the tokens from `start` up to `stop`; the token at `start` when none. -/
def spanBetween (start stop : Nat) : Span :=
  let first := (ts[start]?.map (·.span)).getD ⟨0, 0⟩
  if stop ≤ start then first
  else first.merge ((ts[stop - 1]?.map (·.span)).getD first)

/-- The value of an integer token used as an index, slice bound or step. -/
def indexValue (t : Token) : Grammar Int :=
  if t.text = "-0" then throw (.negativeZero t.span)
  else match t.value with
  | some (.num (.int n)) =>
    if -maxIndex ≤ n ∧ n ≤ maxIndex then pure n else throw (.indexRange t.text t.span)
  | _ => pure 0

/-- An optional slice bound. -/
def bound (pos : Nat) : Grammar (Option Int × Nat) := do
  match ← expect ts .integer pos with
  | some (t, p) => pure (some (← indexValue t), p)
  | none => pure (none, pos)

/-- A slice selector `start:end` or `start:end:step`. -/
def slice (pos : Nat) : Grammar (Option (Selector × Nat)) := do
  let (start, p) ← bound ts pos
  match ← expect ts .colon p with
  | none => pure none
  | some (_, p) =>
    let (stop, p) ← bound ts p
    match ← expect ts .colon p with
    | none => pure (some (.slice start stop none, p))
    | some (_, p) =>
      match ← expect ts .integer p with
      | none => pure (some (.slice start stop none, p))
      | some (t, q) =>
        let step ← indexValue t
        if step = 0 then throw (.zeroStep t.span)
        else pure (some (.slice start stop (some step), q))

/-- The `!` tokens in front of a basic expression: how many, and where they end. -/
def bangs (pos : Nat) : Nat → Grammar (Nat × Nat)
  | 0 => pure (0, pos)
  | fuel + 1 => do
    match ← expect ts .bang pos with
    | some (_, p) =>
      let (n, q) ← bangs p fuel
      pure (n + 1, q)
    | none => pure (0, pos)

/-- A shorthand segment `.name`, `.*`, `..name` or `..*` after its marker. -/
def shorthand (marker : TokenKind) (pos : Nat) : Grammar (Option (List Selector × Nat)) := do
  match ← expect ts marker pos with
  | none => pure none
  | some (m, p) =>
    match ← expectAny ts [.asterisk, .ident] p with
    | none => pure none
    | some (t, q) =>
      if m.span.stop ≠ t.span.start then
        throw (.blankAfter marker.description ⟨m.span.stop, t.span.start⟩)
      else if t.kind = .asterisk then pure (some ([.wildcard], q))
      else pure (some ([.name t.text], q))

/-- A literal: a string, a number, `true`, `false` or `null`. -/
def literal (pos : Nat) : Grammar (Option (Expr × Nat)) := do
  match ← expectAny ts [.string, .integer, .float] pos with
  | some (t, p) => pure (some (.literal (t.value.getD .null), p))
  | none =>
    match ← keyword ts "true" pos with
    | some (_, p) => pure (some (.literal (.bool true), p))
    | none =>
      match ← keyword ts "false" pos with
      | some (_, p) => pure (some (.literal (.bool false), p))
      | none =>
        match ← keyword ts "null" pos with
        | some (_, p) => pure (some (.literal .null, p))
        | none => pure none

/-- The comparison operator tokens, in the order they are tried. -/
def comparisonOps : List (TokenKind × CompareOp) :=
  [(.eq, .eq), (.ne, .ne), (.le, .le), (.ge, .ge), (.lt, .lt), (.gt, .gt)]

/-- An optional comparison operator. -/
def comparisonOp (pos : Nat) : Grammar (Option (CompareOp × Nat)) := do
  match ← expectAny ts (comparisonOps.map (·.1)) pos with
  | some (t, p) => pure ((comparisonOps.find? (·.1 = t.kind)).map fun k => (k.2, p))
  | none => pure none

/-- Joins operands with a connective, each used as a test, from the left. -/
def joinLogical (join : Expr → Expr → Expr) (first : Operand) (rest : List Operand) :
    Grammar Operand := do
  match rest.getLast? with
  | none => pure first
  | some last =>
    let e ← asLogical first
    let e ← rest.foldlM (fun acc o => do pure (join acc (← asLogical o))) e
    pure ⟨e, first.span.merge last.span⟩

mutual

/-- Segments, as many as follow. -/
def segments (fuel pos : Nat) : Grammar (List Segment × Nat) :=
  match fuel with
  | 0 => pure ([], pos)
  | fuel + 1 => do
    match ← segment fuel pos with
    | some (s, p) =>
      let (rest, q) ← segments fuel p
      pure (s :: rest, q)
    | none => pure ([], pos)

/-- One segment: descendant segments are tried before child segments. -/
def segment (fuel pos : Nat) : Grammar (Option (Segment × Nat)) :=
  match fuel with
  | 0 => pure none
  | fuel + 1 => do
    let afterDots : Grammar (Option (List Selector × Nat)) := do
      match ← expect ts .doubleDot pos with
      | some (_, p) => bracketed fuel p
      | none => pure none
    match ← orElse afterDots (fun _ => shorthand ts .doubleDot pos) with
    | some (sels, p) => pure (some (.descendant sels, p))
    | none =>
      match ← orElse (bracketed fuel pos) (fun _ => shorthand ts .dot pos) with
      | some (sels, p) => pure (some (.child sels, p))
      | none => pure none

/-- Selectors between brackets, separated by commas. -/
def bracketed (fuel pos : Nat) : Grammar (Option (List Selector × Nat)) :=
  match fuel with
  | 0 => pure none
  | fuel + 1 => do
    match ← expect ts .lbracket pos with
    | none => pure none
    | some (_, p) =>
      match ← selector fuel p with
      | none => pure none
      | some (s, p) =>
        let (rest, p) ← moreSelectors fuel p
        match ← expect ts .rbracket p with
        | none => pure none
        | some (_, q) => pure (some (s :: rest, q))

/-- Further selectors, each after a comma. -/
def moreSelectors (fuel pos : Nat) : Grammar (List Selector × Nat) :=
  match fuel with
  | 0 => pure ([], pos)
  | fuel + 1 => do
    match ← expect ts .comma pos with
    | none => pure ([], pos)
    | some (_, p) =>
      match ← selector fuel p with
      | none => pure ([], pos)
      | some (s, q) =>
        let (rest, r) ← moreSelectors fuel q
        pure (s :: rest, r)

/-- One selector: name, wildcard, filter, slice or index, tried in this order. -/
def selector (fuel pos : Nat) : Grammar (Option (Selector × Nat)) :=
  match fuel with
  | 0 => pure none
  | fuel + 1 => do
    match ← expect ts .string pos with
    | some (t, p) =>
      match t.value with
      | some (.str s) => pure (some (.name s, p))
      | _ => pure (some (.name t.text, p))
    | none =>
    match ← expect ts .asterisk pos with
    | some (_, p) => pure (some (.wildcard, p))
    | none =>
    let filter : Grammar (Option (Selector × Nat)) := do
      match ← expect ts .question pos with
      | none => pure none
      | some (_, p) =>
        match ← logicalOr fuel p with
        | none => pure none
        | some (o, q) => pure (some (.filter (← asLogical o), q))
    match ← filter with
    | some r => pure (some r)
    | none =>
    match ← slice ts pos with
    | some r => pure (some r)
    | none =>
    match ← expect ts .integer pos with
    | some (t, p) => pure (some (.index (← indexValue t), p))
    | none => pure none

/-- A disjunction of conjunctions. -/
def logicalOr (fuel pos : Nat) : Grammar (Option (Operand × Nat)) :=
  match fuel with
  | 0 => pure none
  | fuel + 1 => do
    match ← logicalAnd fuel pos with
    | none => pure none
    | some (first, p) =>
      let (rest, q) ← orTail fuel p
      pure (some (← joinLogical .or first rest, q))

/-- Further disjuncts, each after `||`. -/
def orTail (fuel pos : Nat) : Grammar (List Operand × Nat) :=
  match fuel with
  | 0 => pure ([], pos)
  | fuel + 1 => do
    match ← expect ts .orOr pos with
    | none => pure ([], pos)
    | some (_, p) =>
      match ← logicalAnd fuel p with
      | none => pure ([], pos)
      | some (o, q) =>
        let (rest, r) ← orTail fuel q
        pure (o :: rest, r)

/-- A conjunction of basic expressions. -/
def logicalAnd (fuel pos : Nat) : Grammar (Option (Operand × Nat)) :=
  match fuel with
  | 0 => pure none
  | fuel + 1 => do
    match ← basic fuel pos with
    | none => pure none
    | some (first, p) =>
      let (rest, q) ← andTail fuel p
      pure (some (← joinLogical .and first rest, q))

/-- Further conjuncts, each after `&&`. -/
def andTail (fuel pos : Nat) : Grammar (List Operand × Nat) :=
  match fuel with
  | 0 => pure ([], pos)
  | fuel + 1 => do
    match ← expect ts .andAnd pos with
    | none => pure ([], pos)
    | some (_, p) =>
      match ← basic fuel p with
      | none => pure ([], pos)
      | some (o, q) =>
        let (rest, r) ← andTail fuel q
        pure (o :: rest, r)

/-- A basic expression: negations of a primary, or a primary compared with another. -/
def basic (fuel pos : Nat) : Grammar (Option (Operand × Nat)) :=
  match fuel with
  | 0 => pure none
  | fuel + 1 => do
    let (negations, p) ← bangs ts pos (ts.size + 1)
    match ← spannedPrimary fuel p with
    | none => pure none
    | some (left, q) =>
      if negations > 0 then
        let e ← asLogical left
        let e := Nat.repeat Expr.not negations e
        pure (some (⟨e, (spanBetween ts pos pos).merge left.span⟩, q))
      else
        match ← comparisonOp ts q with
        | none => pure (some (left, q))
        | some (op, r) =>
          match ← spannedPrimary fuel r with
          | none => pure none
          | some (right, s) =>
            let l ← asComparable left
            let rr ← asComparable right
            pure (some (⟨.compare l op rr, left.span.merge right.span⟩, s))

/-- A primary with the span of its tokens. -/
def spannedPrimary (fuel pos : Nat) : Grammar (Option (Operand × Nat)) :=
  match fuel with
  | 0 => pure none
  | fuel + 1 => do
    match ← primary fuel pos with
    | none => pure none
    | some (e, q) => pure (some (⟨e, spanBetween ts pos q⟩, q))

/-- A primary: a parenthesized expression, a query, a function call or a literal. -/
def primary (fuel pos : Nat) : Grammar (Option (Expr × Nat)) :=
  match fuel with
  | 0 => pure none
  | fuel + 1 => do
    let parenthesized : Grammar (Option (Expr × Nat)) := do
      match ← expect ts .lparen pos with
      | none => pure none
      | some (_, p) =>
        match ← logicalOr fuel p with
        | none => pure none
        | some (o, q) =>
          match ← expect ts .rparen q with
          | none => pure none
          | some (_, r) => pure (some (← asLogical o, r))
    match ← parenthesized with
    | some r => pure (some r)
    | none =>
    match ← expectAny ts [.dollar, .atSign] pos with
    | some (t, p) =>
      let (segs, q) ← segments fuel p
      pure (some (.query (.mk (if t.kind = .dollar then .document else .current) segs), q))
    | none =>
    match ← call fuel pos with
    | some r => pure (some r)
    | none => literal ts pos

/-- A function call: its name, `(` right after it, arguments separated by commas, `)`. -/
def call (fuel pos : Nat) : Grammar (Option (Expr × Nat)) :=
  match fuel with
  | 0 => pure none
  | fuel + 1 => do
    match ← expect ts .ident pos with
    | none => pure none
    | some (nameTok, p) =>
      match ← expect ts .lparen p with
      | none => pure none
      | some (openTok, p) =>
        if nameTok.span.stop ≠ openTok.span.start then
          throw (.blankBeforeParen ⟨nameTok.span.stop, openTok.span.start⟩)
        else
        let name := nameTok.text
        match reg.get? name with
        | none => throw (.unknownFunction name reg.names nameTok.span)
        | some f =>
          let (args, p) ← arguments fuel p
          match ← expect ts .rparen p with
          | none => pure none
          | some (closeTok, q) =>
            let span := nameTok.span.merge closeTok.span
            let params := f.signature.params
            if args.length ≠ params.length then
              throw (.arity name params.length args.length span)
            else
              let es ← asArguments name 1 params args
              pure (some (.call name es f.signature.result span, q))

/-- The arguments of a call: none, or expressions separated by commas. -/
def arguments (fuel pos : Nat) : Grammar (List Operand × Nat) :=
  match fuel with
  | 0 => pure ([], pos)
  | fuel + 1 => do
    match ← logicalOr fuel pos with
    | none => pure ([], pos)
    | some (o, p) =>
      let (rest, q) ← moreArguments fuel p
      pure (o :: rest, q)

/-- Further arguments, each after a comma. -/
def moreArguments (fuel pos : Nat) : Grammar (List Operand × Nat) :=
  match fuel with
  | 0 => pure ([], pos)
  | fuel + 1 => do
    match ← expect ts .comma pos with
    | none => pure ([], pos)
    | some (_, p) =>
      match ← logicalOr fuel p with
      | none => pure ([], pos)
      | some (o, q) =>
        let (rest, r) ← moreArguments fuel q
        pure (o :: rest, r)

end

/-- A whole query: `$`, segments, the end of the input. -/
def query (fuel : Nat) : Grammar (Option Query) := do
  match ← expect ts .dollar 0 with
  | none => pure none
  | some (_, p) =>
    let (segs, q) ← segments ts reg fuel p
    match ← expect ts .eoi q with
    | none => pure none
    | some _ => pure (some (.mk .document segs))

end Rules

/-- The first bracket or parenthesis nested deeper than `maxNesting`; closing ones never
take the depth below zero. -/
def tooDeep? : Nat → List Token → Option Token
  | _, [] => none
  | depth, t :: rest =>
    if t.kind = .lbracket ∨ t.kind = .lparen then
      if depth + 1 > maxNesting then some t else tooDeep? (depth + 1) rest
    else if t.kind = .rbracket ∨ t.kind = .rparen then tooDeep? (depth - 1) rest
    else tooDeep? depth rest

end JsonPath.Syntax

namespace JsonPath.Query

open Syntax

/-- Reads tokens as a query against the functions of a registry. -/
def ofTokens (reg : Registry) (tokens : List Token) : Except ParseError Query := do
  if let some t := tooDeep? 0 tokens then throw (.tooDeep t.span)
  let ts := tokens.toArray
  let (result, frontier) ← (Syntax.query ts reg (32 * (ts.size + 1))).run ⟨0, []⟩
  match result with
  | some q => pure q
  | none =>
    let pos := min frontier.pos (ts.size - 1)
    let t := ts[pos]?.getD default
    throw (.unexpected t (Diagnostic.sortedDistinct frontier.expected))

/-- Reads a query text against the functions of a registry. -/
def parse (reg : Registry) (source : String) : Except QueryError Query :=
  match tokenize source with
  | .error e => .error (.lex e)
  | .ok tokens =>
    match ofTokens reg tokens with
    | .error e => .error (.parse e)
    | .ok q => .ok q

end JsonPath.Query
