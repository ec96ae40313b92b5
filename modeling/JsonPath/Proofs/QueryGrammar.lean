import JsonPath.Proofs.Lexemes
import JsonPath.Proofs.WellFormed

/-!
# The grammar of queries as relations

`Query.ofTokens` reads tokens as a parsing expression grammar: the first alternative that
matches wins, a repetition takes as many matches as follow, and the checks on types and
indices stop the reading where they fail. This module states the language it reads without
any of these devices, as one inductive relation per rule of the grammar:
`DerivesSelector ts reg i j s` says that the tokens of `ts` from `i` up to `j` form a selector
and that it denotes `s`.

    query      = "$" segment* EOI
    segment    = ".." bracketed | ".." ("*" | ident) | bracketed | "." ("*" | ident)
    bracketed  = "[" selector ("," selector)* "]"
    selector   = string | "*" | "?" or | slice | integer
    slice      = integer? ":" integer? (":" integer?)?
    or         = and ("||" and)*
    and        = basic ("&&" basic)*
    basic      = "!"+ primary | primary (cmp primary)?
    primary    = "(" or ")" | ("$" | "@") segment* | ident "(" (or ("," or)*)? ")" | literal

The rules beside the grammar are premises of the constructors: the marker of a shorthand and
the name of a call touch the token after them, a called name is registered, an integer used
as an index is not written `-0` and lies in `[-maxIndex, maxIndex]`, a slice step is not zero,
and an operand is accepted where it stands. Where an operand stands decides what it is
accepted as, said by partial functions on expressions: `Expr.asTest?` for a test (the operand
of `?` and `!`, what stands between parentheses, and the operands of `&&` and `||` when there
are two or more), `Expr.asSide?` for a side of a comparison, `Expr.asArg?` for an argument.
They are the grammar's checks without the state those run in (`asLogical_run_eq_ok` and the
lemmas after it).
-/

set_option autoImplicit false

namespace JsonPath

/-! ## Where an operand is accepted -/

/-- An operand used as a test: a query tests whether it selects a node; a literal, or a call
returning a value, is no test; any other expression is one. -/
def Expr.asTest? : Expr → Option Expr
  | .query q => some (.test q)
  | .literal _ => none
  | .call _ _ .value _ => none
  | e => some e

/-- An operand used as a side of a comparison: a literal, a singular query, or a call not
returning a logical value. -/
def Expr.asSide? : Expr → Option Expr
  | .literal v => some (.literal v)
  | .query q => if q.isSingular then some (.query q) else none
  | .call n a r s => if r = .logical then none else some (.call n a r s)
  | _ => none

/-- An operand passed for a parameter: a value parameter takes literals, queries and calls not
returning a logical value; a logical parameter takes what a test takes; a nodes parameter
takes queries and calls returning nodes. -/
def Expr.asArg? : ExprType → Expr → Option Expr
  | .value, .literal v => some (.literal v)
  | .value, .query q => some (.query q)
  | .value, .call n a r s => if r = .logical then none else some (.call n a r s)
  | .value, _ => none
  | .logical, e => e.asTest?
  | .nodes, .query q => some (.query q)
  | .nodes, .call n a r s => if r = .nodes then some (.call n a r s) else none
  | .nodes, _ => none

/-- Operands passed for parameters, one for each. -/
def Expr.asArgs? : List ExprType → List Expr → Option (List Expr)
  | [], [] => some []
  | p :: ps, e :: es => do
    let e' ← e.asArg? p
    let es' ← Expr.asArgs? ps es
    pure (e' :: es')
  | _, _ => none

/-- `acc` joined by a connective with each operand in turn, each used as a test. -/
def Expr.joinOnto? (join : Expr → Expr → Expr) (acc : Expr) : List Expr → Option Expr
  | [] => some acc
  | o :: rest => do
    let o' ← o.asTest?
    Expr.joinOnto? join (join acc o') rest

/-- Operands joined by a connective from the left, each used as a test; a single operand is
kept as it is. -/
def Expr.joinTests? (join : Expr → Expr → Expr) (first : Expr) : List Expr → Option Expr
  | [] => some first
  | o :: rest => do
    let acc ← first.asTest?
    Expr.joinOnto? join acc (o :: rest)

/-- The token that starts a query from a root. -/
def Root.kind : Root → Syntax.TokenKind
  | .document => .dollar
  | .current => .atSign

theorem Expr.asArgs?_length :
    ∀ {ps : List ExprType} {es es' : List Expr}, Expr.asArgs? ps es = some es' →
      es.length = ps.length
  | [], [], _, _ => rfl
  | [], _ :: _, _, h => by simp [Expr.asArgs?] at h
  | _ :: _, [], _, h => by simp [Expr.asArgs?] at h
  | p :: ps, e :: es, es', h => by
    simp only [Expr.asArgs?, Option.bind_eq_bind, Option.bind_eq_some_iff] at h
    obtain ⟨_, -, es'', hes, -⟩ := h
    simp [Expr.asArgs?_length hes]

namespace Syntax

/-! ## The checks beside the grammar, without their state -/

section Checks

variable {f f' : Frontier}

theorem asLogical_run_eq_ok {o : Operand} {e : Expr} :
    (asLogical o).run f = .ok (e, f') ↔ o.expr.asTest? = some e ∧ f' = f := by
  obtain ⟨e0, span⟩ := o
  cases e0 with
  | call n a r s =>
    cases r <;> simp only [asLogical, Expr.asTest?, run_pure, run_throw] <;> simp [eq_comm]
  | _ =>
    simp only [asLogical, Expr.asTest?, run_pure, run_throw]
    simp [eq_comm]

theorem asComparable_run_eq_ok {o : Operand} {e : Expr} :
    (asComparable o).run f = .ok (e, f') ↔ o.expr.asSide? = some e ∧ f' = f := by
  obtain ⟨e0, span⟩ := o
  cases e0 with
  | query q =>
    by_cases hq : q.isSingular = true
    · simp only [asComparable, Expr.asSide?, if_pos hq, run_pure]
      simp [eq_comm]
    · simp only [asComparable, Expr.asSide?, if_neg hq, run_throw]
      simp
  | call n a r s =>
    cases r <;> simp only [asComparable, Expr.asSide?, reduceCtorEq, if_true, if_false,
      run_pure, run_throw] <;> simp [eq_comm]
  | _ =>
    simp only [asComparable, Expr.asSide?, run_pure, run_throw]
    simp [eq_comm]

theorem asArgument_run_eq_ok {name : String} {i : Nat} {p : ExprType} {o : Operand}
    {e : Expr} :
    (asArgument name i p o).run f = .ok (e, f') ↔ o.expr.asArg? p = some e ∧ f' = f := by
  obtain ⟨e0, span⟩ := o
  cases p <;> cases e0 with
  | call n a r s =>
    cases r <;> simp only [asArgument, Expr.asArg?, Expr.asTest?, reduceCtorEq, if_true,
      if_false, run_pure, run_throw] <;> simp [eq_comm]
  | _ =>
    simp only [asArgument, Expr.asArg?, Expr.asTest?, run_pure, run_throw]
    simp [eq_comm]

theorem asArguments_run_eq_ok {name : String} :
    ∀ {i : Nat} {ps : List ExprType} {os : List Operand} {es : List Expr} {f f' : Frontier},
      os.length = ps.length →
      ((asArguments name i ps os).run f = .ok (es, f') ↔
        Expr.asArgs? ps (os.map (·.expr)) = some es ∧ f' = f)
  | _, [], [], es, f, f', _ => by
    simp only [asArguments, List.map_nil, Expr.asArgs?, run_pure]
    simp [eq_comm]
  | _, [], _ :: _, _, _, _, hl => by simp at hl
  | _, _ :: _, [], _, _, _, hl => by simp at hl
  | i, p :: ps, o :: os, es, f, f', hl => by
    have hl' : os.length = ps.length := by simpa using hl
    simp only [asArguments, List.map_cons, Expr.asArgs?, Option.bind_eq_bind]
    constructor
    · intro h
      obtain ⟨e, f1, he, h1⟩ := run_bind_eq_ok.1 h
      obtain ⟨es', f2, hes, h2⟩ := run_bind_eq_ok.1 h1
      cases h2
      obtain ⟨harg, rfl⟩ := asArgument_run_eq_ok.1 he
      obtain ⟨hargs, rfl⟩ := (asArguments_run_eq_ok hl').1 hes
      simp [harg, hargs]
    · rintro ⟨h, rfl⟩
      simp only [Option.bind_eq_some_iff] at h
      obtain ⟨e, he, es', hes, h1⟩ := h
      cases h1
      rw [run_bind_of_ok _ (asArgument_run_eq_ok.2 ⟨he, rfl⟩),
        run_bind_of_ok _ ((asArguments_run_eq_ok hl').2 ⟨hes, rfl⟩)]
      rfl

theorem foldlM_join_run_eq_ok {join : Expr → Expr → Expr} :
    ∀ (rest : List Operand) {acc e : Expr} {f f' : Frontier},
      (rest.foldlM (fun acc o => do pure (join acc (← asLogical o))) acc).run f = .ok (e, f') ↔
        Expr.joinOnto? join acc (rest.map (·.expr)) = some e ∧ f' = f
  | [], acc, e, f, f' => by
    simp only [List.foldlM_nil, List.map_nil, Expr.joinOnto?, run_pure]
    simp [eq_comm]
  | o :: rest, acc, e, f, f' => by
    rw [List.foldlM_cons, List.map_cons, Expr.joinOnto?]
    constructor
    · intro h
      obtain ⟨acc', f1, ha, h1⟩ := run_bind_eq_ok.1 h
      obtain ⟨b, f2, hb, ha'⟩ := run_bind_eq_ok.1 ha
      cases ha'
      obtain ⟨htest, rfl⟩ := asLogical_run_eq_ok.1 hb
      obtain ⟨hrest, rfl⟩ := (foldlM_join_run_eq_ok rest).1 h1
      simp [htest, hrest]
    · rintro ⟨h, rfl⟩
      simp only [Option.bind_eq_bind, Option.bind_eq_some_iff] at h
      obtain ⟨b, hb, hrest⟩ := h
      rw [run_bind, run_bind, asLogical_run_eq_ok.2 ⟨hb, rfl⟩]
      exact (foldlM_join_run_eq_ok rest).2 ⟨hrest, rfl⟩

/-- Operands joined by the grammar are joined as `Expr.joinTests?` joins their expressions. -/
theorem joinLogical_expr {join : Expr → Expr → Expr} {first : Operand} {rest : List Operand}
    {o : Operand} (h : (joinLogical join first rest).run f = .ok (o, f')) :
    Expr.joinTests? join first.expr (rest.map (·.expr)) = some o.expr ∧ f' = f := by
  unfold joinLogical at h
  cases rest with
  | nil =>
    cases h
    exact ⟨rfl, rfl⟩
  | cons r rs =>
    rw [List.getLast?_cons] at h
    obtain ⟨e, f1, he, h1⟩ := run_bind_eq_ok.1 h
    obtain ⟨e', f2, he', h2⟩ := run_bind_eq_ok.1 h1
    cases h2
    obtain ⟨htest, rfl⟩ := asLogical_run_eq_ok.1 he
    obtain ⟨hjoin, rfl⟩ := (foldlM_join_run_eq_ok (r :: rs)).1 he'
    refine ⟨?_, rfl⟩
    simp only [List.map_cons, Expr.joinTests?, Option.bind_eq_bind, htest, Option.bind_some]
    simpa using hjoin

/-- Operands that `Expr.joinTests?` joins, the grammar joins, leaving the frontier. -/
theorem joinLogical_run_of {join : Expr → Expr → Expr} {first : Operand}
    {rest : List Operand} {e : Expr}
    (h : Expr.joinTests? join first.expr (rest.map (·.expr)) = some e) (f : Frontier) :
    ∃ o, (joinLogical join first rest).run f = .ok (o, f) ∧ o.expr = e := by
  unfold joinLogical
  cases rest with
  | nil =>
    cases h
    exact ⟨first, rfl, rfl⟩
  | cons r rs =>
    simp only [List.map_cons, Expr.joinTests?, Option.bind_eq_bind,
      Option.bind_eq_some_iff] at h
    obtain ⟨acc, hacc, hjoin⟩ := h
    rw [List.getLast?_cons, run_bind_of_ok _ (asLogical_run_eq_ok.2 ⟨hacc, rfl⟩),
      run_bind_of_ok _ ((foldlM_join_run_eq_ok (r :: rs)).2 ⟨by simpa using hjoin, rfl⟩)]
    exact ⟨_, rfl, rfl⟩

end Checks

/-! ## Tokens -/

/-- The token at `i` is of kind `k`. -/
def KindAt (ts : Array Token) (i : Nat) (k : TokenKind) : Prop :=
  ∃ t, ts[i]? = some t ∧ t.kind = k

/-- An integer token used as an index, a slice bound or a step, and its value: not written
`-0`, and in `[-maxIndex, maxIndex]`. -/
def IndexToken (t : Token) (n : Int) : Prop :=
  t.kind = .integer ∧ t.text ≠ "-0" ∧ t.value = some (.num (.int n)) ∧ InIndexRange n

/-- The identifiers that denote constants, with their values. -/
def keywordLiterals : List (String × Value) :=
  [("true", .bool true), ("false", .bool false), ("null", .null)]

/-- A literal token and the value it denotes: a string or number literal denotes its value,
`true`, `false` and `null` their constants. -/
inductive LiteralToken : Token → Value → Prop
  | valued {t : Token} {v : Value} : t.kind ∈ [.string, .integer, .float] → t.value = some v →
      LiteralToken t v
  | keyword {t : Token} {v : Value} : t.kind = .ident → (t.text, v) ∈ keywordLiterals →
      LiteralToken t v

/-- The selector of a shorthand segment whose marker is at `i`: `*`, or an identifier read as
a name, written right after the marker. -/
inductive ShorthandAt (ts : Array Token) (marker : TokenKind) (i : Nat) : Selector → Prop
  | wildcard {m t : Token} : ts[i]? = some m → m.kind = marker → ts[i + 1]? = some t →
      t.kind = .asterisk → m.span.stop = t.span.start → ShorthandAt ts marker i .wildcard
  | name {m t : Token} : ts[i]? = some m → m.kind = marker → ts[i + 1]? = some t →
      t.kind = .ident → m.span.stop = t.span.start → ShorthandAt ts marker i (.name t.text)

/-- `integer?`: an optional index from `i` up to `j`. -/
inductive BoundAt (ts : Array Token) : Nat → Nat → Option Int → Prop
  | none (i : Nat) : BoundAt ts i i none
  | some {i : Nat} {t : Token} {n : Int} : ts[i]? = some t → IndexToken t n →
      BoundAt ts i (i + 1) (some n)

/-- `slice = integer? ":" integer? (":" integer?)?`, with a step that is not zero. -/
inductive SliceAt (ts : Array Token) : Nat → Nat → Selector → Prop
  | bounds {i j k : Nat} {a b : Option Int} : BoundAt ts i j a → KindAt ts j .colon →
      BoundAt ts (j + 1) k b → SliceAt ts i k (.slice a b none)
  | step {i j k l : Nat} {a b c : Option Int} : BoundAt ts i j a → KindAt ts j .colon →
      BoundAt ts (j + 1) k b → KindAt ts k .colon → BoundAt ts (k + 1) l c →
      (∀ x ∈ c, x ≠ 0) → SliceAt ts i l (.slice a b c)

/-! ## The rules -/

mutual

/-- `segment*` from `i` up to `j`. -/
inductive DerivesSegments (ts : Array Token) (reg : Registry) :
    Nat → Nat → List Segment → Prop
  | nil (i : Nat) : DerivesSegments ts reg i i []
  | cons {i j k : Nat} {s : Segment} {rest : List Segment} : DerivesSegment ts reg i j s →
      DerivesSegments ts reg j k rest → DerivesSegments ts reg i k (s :: rest)

/-- `segment = ".." bracketed | ".." ("*" | ident) | bracketed | "." ("*" | ident)`. -/
inductive DerivesSegment (ts : Array Token) (reg : Registry) : Nat → Nat → Segment → Prop
  | descendant {i j : Nat} {sels : List Selector} : KindAt ts i .doubleDot →
      DerivesBracketed ts reg (i + 1) j sels → DerivesSegment ts reg i j (.descendant sels)
  | descendantShorthand {i : Nat} {s : Selector} : ShorthandAt ts .doubleDot i s →
      DerivesSegment ts reg i (i + 2) (.descendant [s])
  | child {i j : Nat} {sels : List Selector} : DerivesBracketed ts reg i j sels →
      DerivesSegment ts reg i j (.child sels)
  | childShorthand {i : Nat} {s : Selector} : ShorthandAt ts .dot i s →
      DerivesSegment ts reg i (i + 2) (.child [s])

/-- `bracketed = "[" selector ("," selector)* "]"`. -/
inductive DerivesBracketed (ts : Array Token) (reg : Registry) :
    Nat → Nat → List Selector → Prop
  | mk {i j k : Nat} {s : Selector} {rest : List Selector} : KindAt ts i .lbracket →
      DerivesSelector ts reg (i + 1) j s → DerivesMoreSelectors ts reg j k rest →
      KindAt ts k .rbracket → DerivesBracketed ts reg i (k + 1) (s :: rest)

/-- `("," selector)*`. -/
inductive DerivesMoreSelectors (ts : Array Token) (reg : Registry) :
    Nat → Nat → List Selector → Prop
  | nil (i : Nat) : DerivesMoreSelectors ts reg i i []
  | cons {i j k : Nat} {s : Selector} {rest : List Selector} : KindAt ts i .comma →
      DerivesSelector ts reg (i + 1) j s → DerivesMoreSelectors ts reg j k rest →
      DerivesMoreSelectors ts reg i k (s :: rest)

/-- `selector = string | "*" | "?" or | slice | integer`: a filter's expression is a test. -/
inductive DerivesSelector (ts : Array Token) (reg : Registry) : Nat → Nat → Selector → Prop
  | name {i : Nat} {t : Token} {s : String} : ts[i]? = some t → t.kind = .string →
      t.value = some (.str s) → DerivesSelector ts reg i (i + 1) (.name s)
  | wildcard {i : Nat} : KindAt ts i .asterisk → DerivesSelector ts reg i (i + 1) .wildcard
  | filter {i j : Nat} {e e' : Expr} : KindAt ts i .question → DerivesOr ts reg (i + 1) j e →
      e.asTest? = some e' → DerivesSelector ts reg i j (.filter e')
  | slice {i j : Nat} {s : Selector} : SliceAt ts i j s → DerivesSelector ts reg i j s
  | index {i : Nat} {t : Token} {n : Int} : ts[i]? = some t → IndexToken t n →
      DerivesSelector ts reg i (i + 1) (.index n)

/-- `or = and ("||" and)*`: with two or more operands, each is a test. -/
inductive DerivesOr (ts : Array Token) (reg : Registry) : Nat → Nat → Expr → Prop
  | mk {i j k : Nat} {first e : Expr} {rest : List Expr} : DerivesAnd ts reg i j first →
      DerivesOrTail ts reg j k rest → Expr.joinTests? .or first rest = some e →
      DerivesOr ts reg i k e

/-- `("||" and)*`. -/
inductive DerivesOrTail (ts : Array Token) (reg : Registry) : Nat → Nat → List Expr → Prop
  | nil (i : Nat) : DerivesOrTail ts reg i i []
  | cons {i j k : Nat} {e : Expr} {rest : List Expr} : KindAt ts i .orOr →
      DerivesAnd ts reg (i + 1) j e → DerivesOrTail ts reg j k rest →
      DerivesOrTail ts reg i k (e :: rest)

/-- `and = basic ("&&" basic)*`: with two or more operands, each is a test. -/
inductive DerivesAnd (ts : Array Token) (reg : Registry) : Nat → Nat → Expr → Prop
  | mk {i j k : Nat} {first e : Expr} {rest : List Expr} : DerivesBasic ts reg i j first →
      DerivesAndTail ts reg j k rest → Expr.joinTests? .and first rest = some e →
      DerivesAnd ts reg i k e

/-- `("&&" basic)*`. -/
inductive DerivesAndTail (ts : Array Token) (reg : Registry) : Nat → Nat → List Expr → Prop
  | nil (i : Nat) : DerivesAndTail ts reg i i []
  | cons {i j k : Nat} {e : Expr} {rest : List Expr} : KindAt ts i .andAnd →
      DerivesBasic ts reg (i + 1) j e → DerivesAndTail ts reg j k rest →
      DerivesAndTail ts reg i k (e :: rest)

/-- `basic = "!"+ primary | primary (cmp primary)?`: a negated primary is a test, the sides of
a comparison are comparable. -/
inductive DerivesBasic (ts : Array Token) (reg : Registry) : Nat → Nat → Expr → Prop
  | not {i j n : Nat} {e e' : Expr} : 0 < n → (∀ m < n, KindAt ts (i + m) .bang) →
      DerivesPrimary ts reg (i + n) j e → e.asTest? = some e' →
      DerivesBasic ts reg i j (Nat.repeat Expr.not n e')
  | primary {i j : Nat} {e : Expr} : DerivesPrimary ts reg i j e → DerivesBasic ts reg i j e
  | compare {i j k : Nat} {op : CompareOp} {l r l' r' : Expr} : DerivesPrimary ts reg i j l →
      KindAt ts j op.kind → DerivesPrimary ts reg (j + 1) k r → l.asSide? = some l' →
      r.asSide? = some r' → DerivesBasic ts reg i k (.compare l' op r')

/-- `primary = "(" or ")" | ("$" | "@") segment* | ident "(" (or ("," or)*)? ")" | literal`:
what stands between parentheses is a test; a called function is registered under a name
written right before `(`, and takes the arguments as its parameters do. -/
inductive DerivesPrimary (ts : Array Token) (reg : Registry) : Nat → Nat → Expr → Prop
  | paren {i j : Nat} {e e' : Expr} : KindAt ts i .lparen → DerivesOr ts reg (i + 1) j e →
      KindAt ts j .rparen → e.asTest? = some e' → DerivesPrimary ts reg i (j + 1) e'
  | query {i j : Nat} {root : Root} {segs : List Segment} : KindAt ts i root.kind →
      DerivesSegments ts reg (i + 1) j segs → DerivesPrimary ts reg i j (.query (.mk root segs))
  | call {i j : Nat} {nameTok openTok closeTok : Token} {fn : FunctionDef}
      {args es : List Expr} : ts[i]? = some nameTok → nameTok.kind = .ident →
      ts[i + 1]? = some openTok → openTok.kind = .lparen →
      nameTok.span.stop = openTok.span.start → reg.get? nameTok.text = some fn →
      DerivesArguments ts reg (i + 2) j args → ts[j]? = some closeTok →
      closeTok.kind = .rparen → Expr.asArgs? fn.signature.params args = some es →
      DerivesPrimary ts reg i (j + 1)
        (.call nameTok.text es fn.signature.result (nameTok.span.merge closeTok.span))
  | literal {i : Nat} {t : Token} {v : Value} : ts[i]? = some t → LiteralToken t v →
      DerivesPrimary ts reg i (i + 1) (.literal v)

/-- `(or ("," or)*)?`: the arguments of a call. -/
inductive DerivesArguments (ts : Array Token) (reg : Registry) :
    Nat → Nat → List Expr → Prop
  | nil (i : Nat) : DerivesArguments ts reg i i []
  | cons {i j k : Nat} {e : Expr} {rest : List Expr} : DerivesOr ts reg i j e →
      DerivesMoreArguments ts reg j k rest → DerivesArguments ts reg i k (e :: rest)

/-- `("," or)*`. -/
inductive DerivesMoreArguments (ts : Array Token) (reg : Registry) :
    Nat → Nat → List Expr → Prop
  | nil (i : Nat) : DerivesMoreArguments ts reg i i []
  | cons {i j k : Nat} {e : Expr} {rest : List Expr} : KindAt ts i .comma →
      DerivesOr ts reg (i + 1) j e → DerivesMoreArguments ts reg j k rest →
      DerivesMoreArguments ts reg i k (e :: rest)

end

/-- `query = "$" segment* EOI`: the tokens of a whole query, and the query they denote. -/
inductive DerivesQuery (ts : Array Token) (reg : Registry) : Query → Prop
  | mk {j : Nat} {segs : List Segment} : KindAt ts 0 .dollar →
      DerivesSegments ts reg 1 j segs → KindAt ts j .eoi →
      DerivesQuery ts reg (.mk .document segs)

/-! ## Where a derivation stops -/

section Spans

variable {ts : Array Token} {reg : Registry}

theorem BoundAt.le {i j : Nat} {b : Option Int} (h : BoundAt ts i j b) : i ≤ j := by
  cases h with
  | none => exact Nat.le_refl _
  | some => exact Nat.le_succ _

theorem SliceAt.lt {i j : Nat} {s : Selector} (h : SliceAt ts i j s) : i < j := by
  cases h with
  | bounds ha _ hb =>
    have := ha.le
    have := hb.le
    omega
  | step ha _ hb _ hc _ =>
    have := ha.le
    have := hb.le
    have := hc.le
    omega

mutual

theorem DerivesSegments.le : ∀ {i j : Nat} {segs : List Segment},
    DerivesSegments ts reg i j segs → i ≤ j
  | _, _, _, .nil _ => Nat.le_refl _
  | _, _, _, .cons hs hrest => Nat.le_trans (DerivesSegment.lt hs).le (DerivesSegments.le hrest)

theorem DerivesSegment.lt : ∀ {i j : Nat} {s : Segment}, DerivesSegment ts reg i j s → i < j
  | _, _, _, .descendant _ hb => Nat.lt_of_succ_lt (DerivesBracketed.lt hb)
  | _, _, _, .descendantShorthand _ => by omega
  | _, _, _, .child hb => DerivesBracketed.lt hb
  | _, _, _, .childShorthand _ => by omega

theorem DerivesBracketed.lt : ∀ {i j : Nat} {sels : List Selector},
    DerivesBracketed ts reg i j sels → i < j
  | _, _, _, .mk _ hs hm _ => by
    have := DerivesSelector.lt hs
    have := DerivesMoreSelectors.le hm
    omega

theorem DerivesMoreSelectors.le : ∀ {i j : Nat} {sels : List Selector},
    DerivesMoreSelectors ts reg i j sels → i ≤ j
  | _, _, _, .nil _ => Nat.le_refl _
  | _, _, _, .cons _ hs hm => by
    have := DerivesSelector.lt hs
    have := DerivesMoreSelectors.le hm
    omega

theorem DerivesSelector.lt : ∀ {i j : Nat} {s : Selector}, DerivesSelector ts reg i j s → i < j
  | _, _, _, .name _ _ _ => Nat.lt_succ_self _
  | _, _, _, .wildcard _ => Nat.lt_succ_self _
  | _, _, _, .filter _ ho _ => Nat.lt_of_succ_lt (DerivesOr.lt ho)
  | _, _, _, .slice hs => hs.lt
  | _, _, _, .index _ _ => Nat.lt_succ_self _

theorem DerivesOr.lt : ∀ {i j : Nat} {e : Expr}, DerivesOr ts reg i j e → i < j
  | _, _, _, .mk ha ht _ => Nat.lt_of_lt_of_le (DerivesAnd.lt ha) (DerivesOrTail.le ht)

theorem DerivesOrTail.le : ∀ {i j : Nat} {es : List Expr}, DerivesOrTail ts reg i j es → i ≤ j
  | _, _, _, .nil _ => Nat.le_refl _
  | _, _, _, .cons _ ha ht => by
    have := DerivesAnd.lt ha
    have := DerivesOrTail.le ht
    omega

theorem DerivesAnd.lt : ∀ {i j : Nat} {e : Expr}, DerivesAnd ts reg i j e → i < j
  | _, _, _, .mk hb ht _ => Nat.lt_of_lt_of_le (DerivesBasic.lt hb) (DerivesAndTail.le ht)

theorem DerivesAndTail.le : ∀ {i j : Nat} {es : List Expr},
    DerivesAndTail ts reg i j es → i ≤ j
  | _, _, _, .nil _ => Nat.le_refl _
  | _, _, _, .cons _ hb ht => by
    have := DerivesBasic.lt hb
    have := DerivesAndTail.le ht
    omega

theorem DerivesBasic.lt : ∀ {i j : Nat} {e : Expr}, DerivesBasic ts reg i j e → i < j
  | _, _, _, .not _ _ hp _ => by
    have := DerivesPrimary.lt hp
    omega
  | _, _, _, .primary hp => DerivesPrimary.lt hp
  | _, _, _, .compare hl _ hr _ _ => by
    have := DerivesPrimary.lt hl
    have := DerivesPrimary.lt hr
    omega

theorem DerivesPrimary.lt : ∀ {i j : Nat} {e : Expr}, DerivesPrimary ts reg i j e → i < j
  | _, _, _, .paren _ ho _ _ => by
    have := DerivesOr.lt ho
    omega
  | _, _, _, .query _ hs => by
    have := DerivesSegments.le hs
    omega
  | _, _, _, .call _ _ _ _ _ _ ha _ _ _ => by
    have := DerivesArguments.le ha
    omega
  | _, _, _, .literal _ _ => Nat.lt_succ_self _

theorem DerivesArguments.le : ∀ {i j : Nat} {es : List Expr},
    DerivesArguments ts reg i j es → i ≤ j
  | _, _, _, .nil _ => Nat.le_refl _
  | _, _, _, .cons ho hm => Nat.le_trans (DerivesOr.lt ho).le (DerivesMoreArguments.le hm)

theorem DerivesMoreArguments.le : ∀ {i j : Nat} {es : List Expr},
    DerivesMoreArguments ts reg i j es → i ≤ j
  | _, _, _, .nil _ => Nat.le_refl _
  | _, _, _, .cons _ ho hm => by
    have := DerivesOr.lt ho
    have := DerivesMoreArguments.le hm
    omega

end

/-- The tokens that a primary starts with: `(`, a root, an identifier or a literal. -/
def primaryStarts : List TokenKind :=
  [.lparen, .dollar, .atSign, .ident, .string, .integer, .float]

theorem DerivesPrimary.starts {i j : Nat} {e : Expr} (h : DerivesPrimary ts reg i j e) :
    ∃ t, ts[i]? = some t ∧ t.kind ∈ primaryStarts := by
  cases h with
  | paren hl _ _ _ =>
    obtain ⟨t, ht, hk⟩ := hl
    exact ⟨t, ht, by simp [hk, primaryStarts]⟩
  | @query _ _ root _ hr _ =>
    obtain ⟨t, ht, hk⟩ := hr
    exact ⟨t, ht, by cases root <;> simp [hk, Root.kind, primaryStarts]⟩
  | call ht hk => exact ⟨_, ht, by simp [hk, primaryStarts]⟩
  | literal ht hl =>
    refine ⟨_, ht, ?_⟩
    cases hl with
    | valued hk _ =>
      simp only [List.mem_cons, List.not_mem_nil, or_false] at hk
      rcases hk with hk | hk | hk <;> simp [primaryStarts, hk]
    | keyword hk _ => simp [hk, primaryStarts]

end Spans

end Syntax

end JsonPath
