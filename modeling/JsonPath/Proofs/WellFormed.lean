import JsonPath.Proofs.ExceptRuns
import JsonPath.Proofs.GrammarSteps
import JsonPath.Proofs.LiteralText

/-!
# Well-formed queries

The queries the grammar reads are *well formed* (`Query.WF`): every segment has at least one
selector, indices and slice bounds lie in `[-maxIndex, maxIndex]`, a slice step is not zero,
and filter expressions are typed as the grammar's checks demand. A test position holds a
logical expression (`Expr.Logical`), a side of a comparison a literal, a singular query or a
call not returning a logical value (`Expr.Comparable`), and the arguments of a call are
accepted by their parameter types (`Expr.Arg`). A called function is registered, with the
result type recorded in the call, and its name is an identifier; literals are strings,
integers of at most `maxIntDigits` digits, finite binary64 numbers, booleans or null.

`Expr.Operand` is what the expression rules return before a check is applied: a logical
expression, or something a value parameter accepts.
-/

set_option autoImplicit false

namespace JsonPath

/-- A literal the grammar can read: a string, an integer of at most `maxIntDigits` digits, a
finite binary64 number, a boolean or null. -/
def Value.IsScalar : Value → Prop
  | .str _ => True
  | .num (.int i) => Syntax.intDigits i ≤ Syntax.maxIntDigits
  | .num (.float x) => x.isFinite = true
  | .bool _ => True
  | .null => True
  | _ => False

namespace Syntax

/-- An identifier: a character that may start one, then characters that may continue it. -/
def IsIdentifier (s : String) : Prop :=
  match s.toList with
  | c :: rest => isIdentStart c = true ∧ ∀ d ∈ rest, isIdentChar d = true
  | [] => False

/-- An index, slice bound or slice step the grammar accepts. -/
def InIndexRange (i : Int) : Prop := -maxIndex ≤ i ∧ i ≤ maxIndex

end Syntax

open Syntax

mutual

/-- A well-formed query: well-formed segments. -/
def Query.WF (reg : Registry) : Query → Prop
  | .mk _ segs => Segment.WFList reg segs

/-- Well-formed segments. -/
def Segment.WFList (reg : Registry) : List Segment → Prop
  | [] => True
  | s :: rest => s.WF reg ∧ Segment.WFList reg rest

/-- A well-formed segment: at least one selector, each well formed. -/
def Segment.WF (reg : Registry) : Segment → Prop
  | .child sels => sels ≠ [] ∧ Selector.WFList reg sels
  | .descendant sels => sels ≠ [] ∧ Selector.WFList reg sels

/-- Well-formed selectors. -/
def Selector.WFList (reg : Registry) : List Selector → Prop
  | [] => True
  | s :: rest => s.WF reg ∧ Selector.WFList reg rest

/-- A well-formed selector: indices in range, a nonzero step, a logical filter. -/
def Selector.WF (reg : Registry) : Selector → Prop
  | .name _ => True
  | .index i => InIndexRange i
  | .wildcard => True
  | .slice a b c => (∀ x ∈ a, InIndexRange x) ∧ (∀ x ∈ b, InIndexRange x) ∧
      (∀ x ∈ c, InIndexRange x ∧ x ≠ 0)
  | .filter e => e.Logical reg

/-- An expression that may stand where a test is expected. -/
def Expr.Logical (reg : Registry) : Expr → Prop
  | .test q => q.WF reg
  | .call name args res _ => res ≠ .value ∧ Expr.CallWF reg name args res
  | .compare l _ r => l.Comparable reg ∧ r.Comparable reg
  | .not e => e.Logical reg
  | .and l r => l.Logical reg ∧ r.Logical reg
  | .or l r => l.Logical reg ∧ r.Logical reg
  | _ => False

/-- An expression that may stand on one side of a comparison. -/
def Expr.Comparable (reg : Registry) : Expr → Prop
  | .literal v => v.IsScalar
  | .query q => q.isSingular ∧ q.WF reg
  | .call name args res _ => res ≠ .logical ∧ Expr.CallWF reg name args res
  | _ => False

/-- A call of a registered function under an identifier, with its result type and with
arguments its parameters accept. -/
def Expr.CallWF (reg : Registry) (name : String) (args : List Expr) (res : ExprType) : Prop :=
  IsIdentifier name ∧ ∃ f, reg.get? name = some f ∧ f.signature.result = res ∧
    Expr.ArgsWF reg f.signature.params args

/-- Arguments accepted by parameters, one for one. -/
def Expr.ArgsWF (reg : Registry) : List ExprType → List Expr → Prop
  | [], [] => True
  | p :: ps, e :: es => e.Arg reg p ∧ Expr.ArgsWF reg ps es
  | _, _ => False

/-- An argument accepted by a parameter type. -/
def Expr.Arg (reg : Registry) : Expr → ExprType → Prop
  | e, .logical => e.Logical reg
  | .literal v, .value => v.IsScalar
  | .query q, .value => q.WF reg
  | .call name args res _, .value => res ≠ .logical ∧ Expr.CallWF reg name args res
  | .query q, .nodes => q.WF reg
  | .call name args res _, .nodes => res = .nodes ∧ Expr.CallWF reg name args res
  | _, _ => False

end

/-- What an expression rule returns before a check: a logical expression, or an expression
a value parameter accepts. -/
def Expr.Operand (reg : Registry) (e : Expr) : Prop := e.Logical reg ∨ e.Arg reg .value

theorem Expr.logical_repeat_not {reg : Registry} {e : Expr} (h : e.Logical reg) :
    ∀ k, (Nat.repeat Expr.not k e).Logical reg
  | 0 => h
  | k + 1 => by
    simp only [Nat.repeat, Expr.Logical]
    exact Expr.logical_repeat_not h k

theorem Expr.operand_call {reg : Registry} {name : String} {args : List Expr} {res : ExprType}
    (span : Span) (h : Expr.CallWF reg name args res) : (Expr.call name args res span).Operand reg := by
  cases res with
  | value => exact .inr (by rw [Expr.Arg]; exact ⟨by simp, h⟩)
  | logical => exact .inl (by rw [Expr.Logical]; exact ⟨by simp, h⟩)
  | nodes => exact .inl (by rw [Expr.Logical]; exact ⟨by simp, h⟩)

namespace Syntax

/-- A token as the lexer produces it: an identifier has an identifier text, and the value it
carries, if any, is a literal the grammar can read. -/
def Token.WF (t : Token) : Prop :=
  (t.kind = .ident → IsIdentifier t.text) ∧ (t.value.getD .null).IsScalar

/-- Tokens as the lexer produces them. -/
def TokensWF (ts : Array Token) : Prop := ∀ t ∈ ts, t.WF

/-! ## Tokens the lexer produces -/

section Lexer

theorem punctuation_not_ident : ∀ p ∈ punctuation, p.2 ≠ .ident := by
  have hall : (punctuation.all fun p => p.2 != .ident) = true := by decide
  intro p hp
  simpa using List.all_eq_true.1 hall p hp

theorem lexeme?_ident {cs : List Char} {n : Nat} (h : lexeme? cs = some (.ident, n)) :
    IsIdentifier (String.ofList (cs.take n)) := by
  match cs, h with
  | c :: rest, h =>
    unfold lexeme? at h
    dsimp only at h
    split at h
    · simp at h
    split at h
    · cases h
    · cases h
    split at h
    · rename_i hc
      cases h
      have hpre := List.prefix_iff_eq_take.1 (List.takeWhile_prefix (l := rest) isIdentChar)
      rw [Nat.add_comm, List.take_succ_cons, ← hpre]
      simp only [IsIdentifier, String.toList_ofList]
      exact ⟨hc, fun d hd => by simpa using List.all_eq_true.1 List.all_takeWhile d hd⟩
    · -- no punctuation mark is an identifier
      obtain ⟨l1, ⟨text, kind⟩, l2, hsplit, ha, -⟩ := List.findSome?_eq_some_iff.1 h
      have hmem : (text, kind) ∈ punctuation := by simp [hsplit]
      split_ifs at ha
      cases ha
      exact absurd rfl (punctuation_not_ident _ hmem)

theorem scan_ident {cs : List Char} {offset : Nat} {acc out : List (TokenKind × String × Span)}
    (h : scan cs offset acc = .ok out)
    (hacc : ∀ r ∈ acc, r.1 = .ident → IsIdentifier r.2.1) :
    ∀ r ∈ out, r.1 = .ident → IsIdentifier r.2.1 :=
  scan_forall (fun _ hl hk => by subst hk; exact lexeme?_ident hl) h hacc

theorem tokenValue_scalar {kind : TokenKind} {text : String} {span : Span} {v : Option Value}
    (h : tokenValue kind text span = .ok v) : (v.getD .null).IsScalar := by
  unfold tokenValue at h
  split at h
  · -- a string literal
    split at h
    · cases h
      trivial
    · cases h
  · -- an integer literal, of at most `maxIntDigits` digits
    split at h
    · split_ifs at h with hlong
      cases h
      exact Nat.le_of_not_lt hlong
    · cases h
      trivial
  · -- a binary64 literal, finite
    split at h
    · split_ifs at h with hfin
      cases h
      exact hfin
    · cases h
      trivial
  · cases h
    trivial

theorem tokenize_wf {source : String} {tokens : List Token} (h : tokenize source = .ok tokens) :
    TokensWF tokens.toArray := by
  unfold tokenize at h
  simp only [bind, Except.bind] at h
  split at h
  · cases h
  split at h
  · cases h
  rename_i raw hraw _ toks htoks
  cases h
  have hident := scan_ident hraw (by simp)
  have hwf := mapM_except_mem htoks (P := Token.WF) fun r hr t ht => by
    split at ht
    · cases ht
    · cases ht
      exact ⟨hident r hr, tokenValue_scalar ‹_›⟩
  intro t ht
  simp only [List.mem_toArray, List.mem_append, List.mem_singleton] at ht
  rcases ht with ht | rfl
  · exact hwf t ht
  · exact ⟨by simp, trivial⟩

end Lexer

/-! ## The checks beside the grammar -/

section Checks

variable {ts : Array Token} {reg : Registry}

theorem indexValue_range {t : Token} {f f' : Frontier} {i : Int}
    (h : (indexValue t).run f = .ok (i, f')) : InIndexRange i := by
  unfold indexValue at h
  split at h
  · cases h
  · split at h
    · split at h
      · cases h
        assumption
      · cases h
    · cases h
      simp [InIndexRange, maxIndex]

theorem bound_range {pos p : Nat} {b : Option Int} {f f' : Frontier}
    (h : (bound ts pos).run f = .ok ((b, p), f')) : ∀ x ∈ b, InIndexRange x := by
  unfold bound at h
  obtain ⟨o, f1, -, h⟩ := run_bind_eq_ok.1 h
  rcases o with _ | ⟨t, p'⟩
  · cases h
    simp
  · obtain ⟨i, f2, hi, h⟩ := run_bind_eq_ok.1 h
    cases h
    simpa using indexValue_range hi

theorem slice_wf {pos p : Nat} {s : Selector} {f f' : Frontier}
    (h : (slice ts pos).run f = .ok (some (s, p), f')) : s.WF reg := by
  unfold slice at h
  obtain ⟨⟨a, p1⟩, f1, ha, h⟩ := run_bind_eq_ok.1 h
  obtain ⟨o, f2, -, h⟩ := run_bind_eq_ok.1 h
  rcases o with _ | ⟨_, p2⟩
  · cases h
  obtain ⟨⟨b, p3⟩, f3, hb, h⟩ := run_bind_eq_ok.1 h
  obtain ⟨o, f4, -, h⟩ := run_bind_eq_ok.1 h
  rcases o with _ | ⟨_, p4⟩
  · cases h
    rw [Selector.WF]
    exact ⟨bound_range ha, bound_range hb, by simp⟩
  obtain ⟨o, f5, -, h⟩ := run_bind_eq_ok.1 h
  rcases o with _ | ⟨t, q⟩
  · cases h
    rw [Selector.WF]
    exact ⟨bound_range ha, bound_range hb, by simp⟩
  obtain ⟨c, f6, hc, h⟩ := run_bind_eq_ok.1 h
  split at h
  · cases h
  · cases h
    rw [Selector.WF]
    refine ⟨bound_range ha, bound_range hb, ?_⟩
    simp only [Option.mem_def, Option.some.injEq, forall_eq']
    exact ⟨indexValue_range hc, ‹_›⟩

theorem shorthand_wf {marker : TokenKind} {pos p : Nat} {sels : List Selector} {f f' : Frontier}
    (h : (shorthand ts marker pos).run f = .ok (some (sels, p), f')) :
    sels ≠ [] ∧ Selector.WFList reg sels := by
  unfold shorthand at h
  obtain ⟨o, f1, -, h⟩ := run_bind_eq_ok.1 h
  rcases o with _ | ⟨m, p1⟩
  · cases h
  obtain ⟨o, f2, -, h⟩ := run_bind_eq_ok.1 h
  rcases o with _ | ⟨t, q⟩
  · cases h
  dsimp only at h
  split_ifs at h <;> cases h <;> simp [Selector.WFList, Selector.WF]

theorem literal_operand (hts : TokensWF ts) {pos p : Nat} {e : Expr} {f f' : Frontier}
    (h : (literal ts pos).run f = .ok (some (e, p), f')) : e.Operand reg := by
  unfold literal at h
  obtain ⟨o, f1, ho, h⟩ := run_bind_eq_ok.1 h
  rcases o with _ | ⟨t, p1⟩
  · obtain ⟨o, f2, -, h⟩ := run_bind_eq_ok.1 h
    rcases o with _ | ⟨_, p2⟩
    · obtain ⟨o, f3, -, h⟩ := run_bind_eq_ok.1 h
      rcases o with _ | ⟨_, p3⟩
      · obtain ⟨o, f4, -, h⟩ := run_bind_eq_ok.1 h
        rcases o with _ | ⟨_, p4⟩
        · cases h
        · cases h
          simp [Expr.Operand, Expr.Arg, Value.IsScalar]
      · cases h
        simp [Expr.Operand, Expr.Arg, Value.IsScalar]
    · cases h
      simp [Expr.Operand, Expr.Arg, Value.IsScalar]
  · cases h
    obtain ⟨ht, -, -⟩ := expectAny_some ts ho
    have hv := (hts t (Array.mem_of_getElem? ht)).2
    simp [Expr.Operand, Expr.Arg, hv]

theorem asLogical_logical {o : Operand} {e : Expr} {f f' : Frontier}
    (h : (asLogical o).run f = .ok (e, f')) (ho : o.expr.Operand reg) : e.Logical reg := by
  obtain ⟨e0, sp⟩ := o
  simp only [Expr.Operand] at ho
  cases e0 with
  | query q =>
    cases h
    simpa [Expr.Logical, Expr.Arg] using ho
  | literal v => cases h
  | call n a r s =>
    cases r with
    | value => cases h
    | logical => cases h; simpa [Expr.Logical, Expr.Arg] using ho
    | nodes => cases h; simpa [Expr.Logical, Expr.Arg] using ho
  | test q => cases h; simpa [Expr.Logical, Expr.Arg] using ho
  | compare l op r => cases h; simpa [Expr.Logical, Expr.Arg] using ho
  | not e => cases h; simpa [Expr.Logical, Expr.Arg] using ho
  | and l r => cases h; simpa [Expr.Logical, Expr.Arg] using ho
  | or l r => cases h; simpa [Expr.Logical, Expr.Arg] using ho

theorem asComparable_comparable {o : Operand} {e : Expr} {f f' : Frontier}
    (h : (asComparable o).run f = .ok (e, f')) (ho : o.expr.Operand reg) :
    e.Comparable reg := by
  obtain ⟨e0, sp⟩ := o
  simp only [Expr.Operand] at ho
  cases e0 with
  | query q =>
    simp only [asComparable] at h
    split_ifs at h with hq
    · cases h
      simp_all [Expr.Comparable, Expr.Logical, Expr.Arg]
    · cases h
  | literal v => cases h; simpa [Expr.Comparable, Expr.Logical, Expr.Arg] using ho
  | call n a r s =>
    cases r with
    | logical => cases h
    | value => cases h; simpa [Expr.Comparable, Expr.Logical, Expr.Arg] using ho
    | nodes => cases h; simp_all [Expr.Comparable, Expr.Logical, Expr.Arg]
  | test q => cases h
  | compare l op r => cases h
  | not e => cases h
  | and l r => cases h
  | or l r => cases h

theorem asArgument_arg {name : String} {i : Nat} {param : ExprType} {o : Operand} {e : Expr}
    {f f' : Frontier} (h : (asArgument name i param o).run f = .ok (e, f'))
    (ho : o.expr.Operand reg) : e.Arg reg param := by
  obtain ⟨e0, sp⟩ := o
  simp only [Expr.Operand] at ho
  cases param with
  | value =>
    cases e0 with
    | literal v => cases h; simpa [Expr.Arg, Expr.Logical] using ho
    | query q => cases h; simpa [Expr.Arg, Expr.Logical] using ho
    | call n a r s => cases r <;> cases h <;> simp_all [Expr.Arg, Expr.Logical]
    | _ => cases h
  | logical =>
    cases e0 with
    | literal v => cases h
    | query q => cases h; simpa [Expr.Arg, Expr.Logical] using ho
    | call n a r s => cases r <;> cases h <;> simp_all [Expr.Arg, Expr.Logical]
    | _ => cases h; simpa [Expr.Arg, Expr.Logical] using ho
  | nodes =>
    cases e0 with
    | query q => cases h; simpa [Expr.Arg, Expr.Logical] using ho
    | call n a r s =>
      cases r <;> cases h
      simp_all [Expr.Arg, Expr.Logical]
    | _ => cases h

theorem asArguments_argsWF {name : String} :
    ∀ {i : Nat} {ps : List ExprType} {os : List Operand} {es : List Expr} {f f' : Frontier},
      (asArguments name i ps os).run f = .ok (es, f') → os.length = ps.length →
      (∀ o ∈ os, o.expr.Operand reg) → Expr.ArgsWF reg ps es
  | _, [], [], _, _, _, h, _, _ => by cases h; simp [Expr.ArgsWF]
  | _, [], _ :: _, _, _, _, _, hl, _ => by simp at hl
  | _, _ :: _, [], _, _, _, _, hl, _ => by simp at hl
  | i, p :: ps, o :: os, es, f, f', h, hl, hos => by
    unfold asArguments at h
    obtain ⟨e, f1, he, h⟩ := run_bind_eq_ok.1 h
    obtain ⟨es', f2, hes, h⟩ := run_bind_eq_ok.1 h
    cases h
    simp only [Expr.ArgsWF]
    exact ⟨asArgument_arg he (hos o (by simp)),
      asArguments_argsWF hes (by simpa using hl) (fun o' h' => hos o' (by simp [h']))⟩

theorem foldlM_join_logical {join : Expr → Expr → Expr}
    (hjoin : ∀ a b, a.Logical reg → b.Logical reg → (join a b).Logical reg) :
    ∀ (rest : List Operand) {acc e : Expr} {f f' : Frontier},
      (rest.foldlM (fun acc o => do pure (join acc (← asLogical o))) acc).run f = .ok (e, f') →
      acc.Logical reg → (∀ o ∈ rest, o.expr.Operand reg) → e.Logical reg
  | [], _, _, _, _, h, hacc, _ => by cases h; exact hacc
  | o :: rest, acc, e, f, f', h, hacc, hrest => by
    rw [List.foldlM_cons] at h
    obtain ⟨acc', f1, ha, h⟩ := run_bind_eq_ok.1 h
    obtain ⟨b, f2, hb, ha⟩ := run_bind_eq_ok.1 ha
    cases ha
    exact foldlM_join_logical hjoin rest h
      (hjoin _ _ hacc (asLogical_logical hb (hrest o (by simp))))
      (fun o' h' => hrest o' (by simp [h']))

theorem joinLogical_operand {join : Expr → Expr → Expr}
    (hjoin : ∀ a b, a.Logical reg → b.Logical reg → (join a b).Logical reg)
    {first : Operand} {rest : List Operand} {o : Operand} {f f' : Frontier}
    (h : (joinLogical join first rest).run f = .ok (o, f'))
    (hfirst : first.expr.Operand reg) (hrest : ∀ o ∈ rest, o.expr.Operand reg) :
    o.expr.Operand reg := by
  unfold joinLogical at h
  split at h
  · cases h
    exact hfirst
  · obtain ⟨e, f1, he, h⟩ := run_bind_eq_ok.1 h
    obtain ⟨e', f2, he', h⟩ := run_bind_eq_ok.1 h
    cases h
    exact .inl (foldlM_join_logical hjoin rest he' (asLogical_logical he hfirst) hrest)

end Checks

/-! ## The rules read well-formed results -/

section Rules

variable {ts : Array Token} {reg : Registry}

theorem orElse_of {α : Type} {P : α → Prop} {a : Grammar (Option α)}
    {b : Unit → Grammar (Option α)}
    (ha : ∀ {f r f'}, a.run f = .ok (some r, f') → P r)
    (hb : ∀ {f r f'}, (b ()).run f = .ok (some r, f') → P r)
    {f f' : Frontier} {r : α} (h : (orElse a b).run f = .ok (some r, f')) : P r := by
  rcases orElse_some h with h | ⟨f1, -, h⟩
  · exact ha h
  · exact hb h

/-- What each rule returns at a given fuel when it succeeds: well-formed segments and
selectors, nonempty selector lists, and operands. -/
structure ReadsWF (ts : Array Token) (reg : Registry) (n : Nat) : Prop where
  segments {pos : Nat} {f : Frontier} {r : (List Segment × Nat) × Frontier} :
    (segments ts reg n pos).run f = .ok r → Segment.WFList reg r.1.1
  segment {pos p : Nat} {f f' : Frontier} {s : Segment} :
    (segment ts reg n pos).run f = .ok (some (s, p), f') → s.WF reg
  bracketed {pos p : Nat} {f f' : Frontier} {sels : List Selector} :
    (bracketed ts reg n pos).run f = .ok (some (sels, p), f') →
      sels ≠ [] ∧ Selector.WFList reg sels
  moreSelectors {pos : Nat} {f : Frontier} {r : (List Selector × Nat) × Frontier} :
    (moreSelectors ts reg n pos).run f = .ok r → Selector.WFList reg r.1.1
  selector {pos p : Nat} {f f' : Frontier} {s : Selector} :
    (selector ts reg n pos).run f = .ok (some (s, p), f') → s.WF reg
  logicalOr {pos p : Nat} {f f' : Frontier} {o : Operand} :
    (logicalOr ts reg n pos).run f = .ok (some (o, p), f') → o.expr.Operand reg
  orTail {pos : Nat} {f : Frontier} {r : (List Operand × Nat) × Frontier} :
    (orTail ts reg n pos).run f = .ok r → ∀ o ∈ r.1.1, o.expr.Operand reg
  logicalAnd {pos p : Nat} {f f' : Frontier} {o : Operand} :
    (logicalAnd ts reg n pos).run f = .ok (some (o, p), f') → o.expr.Operand reg
  andTail {pos : Nat} {f : Frontier} {r : (List Operand × Nat) × Frontier} :
    (andTail ts reg n pos).run f = .ok r → ∀ o ∈ r.1.1, o.expr.Operand reg
  basic {pos p : Nat} {f f' : Frontier} {o : Operand} :
    (basic ts reg n pos).run f = .ok (some (o, p), f') → o.expr.Operand reg
  spannedPrimary {pos p : Nat} {f f' : Frontier} {o : Operand} :
    (spannedPrimary ts reg n pos).run f = .ok (some (o, p), f') → o.expr.Operand reg
  primary {pos p : Nat} {f f' : Frontier} {e : Expr} :
    (primary ts reg n pos).run f = .ok (some (e, p), f') → e.Operand reg
  call {pos p : Nat} {f f' : Frontier} {e : Expr} :
    (call ts reg n pos).run f = .ok (some (e, p), f') → e.Operand reg
  arguments {pos : Nat} {f : Frontier} {r : (List Operand × Nat) × Frontier} :
    (arguments ts reg n pos).run f = .ok r → ∀ o ∈ r.1.1, o.expr.Operand reg
  moreArguments {pos : Nat} {f : Frontier} {r : (List Operand × Nat) × Frontier} :
    (moreArguments ts reg n pos).run f = .ok r → ∀ o ∈ r.1.1, o.expr.Operand reg

theorem readsWF_zero : ReadsWF ts reg 0 where
  segments h := by rw [segments] at h; cases h; simp [Segment.WFList]
  segment h := by rw [segment] at h; cases h
  bracketed h := by rw [bracketed] at h; cases h
  moreSelectors h := by rw [moreSelectors] at h; cases h; simp [Selector.WFList]
  selector h := by rw [selector] at h; cases h
  logicalOr h := by rw [logicalOr] at h; cases h
  orTail h := by rw [orTail] at h; cases h; simp
  logicalAnd h := by rw [logicalAnd] at h; cases h
  andTail h := by rw [andTail] at h; cases h; simp
  basic h := by rw [basic] at h; cases h
  spannedPrimary h := by rw [spannedPrimary] at h; cases h
  primary h := by rw [primary] at h; cases h
  call h := by rw [call] at h; cases h
  arguments h := by rw [arguments] at h; cases h; simp
  moreArguments h := by rw [moreArguments] at h; cases h; simp


section Succ

variable {n : Nat} (ih : ReadsWF ts reg n)
include ih

theorem segments_wf_succ {pos : Nat} {f : Frontier} {r : (List Segment × Nat) × Frontier}
    (h : (segments ts reg (n + 1) pos).run f = .ok r) : Segment.WFList reg r.1.1 := by
  rw [segments] at h
  obtain ⟨o, f1, ho, h⟩ := run_bind_eq_ok.1 h
  rcases o with _ | ⟨s, p⟩
  · cases h
    simp [Segment.WFList]
  · obtain ⟨⟨rest, q⟩, f2, hr, h⟩ := run_bind_eq_ok.1 h
    cases h
    simp only [Segment.WFList]
    exact ⟨ih.segment ho, ih.segments hr⟩

theorem segment_wf_succ {pos p : Nat} {f f' : Frontier} {s : Segment}
    (h : (segment ts reg (n + 1) pos).run f = .ok (some (s, p), f')) : s.WF reg := by
  rw [segment] at h
  obtain ⟨o, f1, ho, h⟩ := run_bind_eq_ok.1 h
  rcases o with _ | ⟨sels, p1⟩
  · -- not a descendant segment: a child segment, bracketed or shorthand
    obtain ⟨o, f2, ho2, h⟩ := run_bind_eq_ok.1 h
    rcases o with _ | ⟨sels, p2⟩
    · cases h
    · cases h
      rw [Segment.WF]
      exact orElse_of (P := fun r => r.1 ≠ [] ∧ Selector.WFList reg r.1)
        (fun h => ih.bracketed h) shorthand_wf ho2
  · cases h
    rw [Segment.WF]
    refine orElse_of (P := fun r => r.1 ≠ [] ∧ Selector.WFList reg r.1) (fun h => ?_)
      shorthand_wf ho
    obtain ⟨o, g1, -, h⟩ := run_bind_eq_ok.1 h
    rcases o with _ | ⟨_, q⟩
    · cases h
    · exact ih.bracketed h

theorem bracketed_wf_succ {pos p : Nat} {f f' : Frontier} {sels : List Selector}
    (h : (bracketed ts reg (n + 1) pos).run f = .ok (some (sels, p), f')) :
    sels ≠ [] ∧ Selector.WFList reg sels := by
  rw [bracketed] at h
  obtain ⟨o, f1, -, h⟩ := run_bind_eq_ok.1 h
  rcases o with _ | ⟨_, p1⟩
  · cases h
  obtain ⟨o, f2, hs, h⟩ := run_bind_eq_ok.1 h
  rcases o with _ | ⟨s, p2⟩
  · cases h
  obtain ⟨⟨rest, p3⟩, f3, hr, h⟩ := run_bind_eq_ok.1 h
  obtain ⟨o, f4, -, h⟩ := run_bind_eq_ok.1 h
  rcases o with _ | ⟨_, q⟩
  · cases h
  cases h
  simp only [Selector.WFList]
  exact ⟨List.cons_ne_nil _ _, ih.selector hs, ih.moreSelectors hr⟩

theorem moreSelectors_wf_succ {pos : Nat} {f : Frontier}
    {r : (List Selector × Nat) × Frontier}
    (h : (moreSelectors ts reg (n + 1) pos).run f = .ok r) : Selector.WFList reg r.1.1 := by
  rw [moreSelectors] at h
  obtain ⟨o, f1, -, h⟩ := run_bind_eq_ok.1 h
  rcases o with _ | ⟨_, p1⟩
  · cases h
    simp [Selector.WFList]
  obtain ⟨o, f2, hs, h⟩ := run_bind_eq_ok.1 h
  rcases o with _ | ⟨s, q⟩
  · cases h
    simp [Selector.WFList]
  obtain ⟨⟨rest, p3⟩, f3, hr, h⟩ := run_bind_eq_ok.1 h
  cases h
  simp only [Selector.WFList]
  exact ⟨ih.selector hs, ih.moreSelectors hr⟩

theorem selector_wf_succ {pos p : Nat} {f f' : Frontier} {s : Selector}
    (h : (selector ts reg (n + 1) pos).run f = .ok (some (s, p), f')) : s.WF reg := by
  rw [selector] at h
  obtain ⟨o, f1, -, h⟩ := run_bind_eq_ok.1 h
  rcases o with _ | ⟨t, p1⟩
  swap
  · -- a name
    dsimp only at h
    split at h <;> cases h <;> simp [Selector.WF]
  obtain ⟨o, f2, -, h⟩ := run_bind_eq_ok.1 h
  rcases o with _ | ⟨_, p2⟩
  swap
  · cases h
    simp [Selector.WF]
  obtain ⟨o, f3, hfilter, h⟩ := run_bind_eq_ok.1 h
  rcases o with _ | r
  swap
  · -- a filter: a disjunction used as a test
    cases h
    obtain ⟨o, g1, -, hfilter⟩ := run_bind_eq_ok.1 hfilter
    rcases o with _ | ⟨_, q⟩
    · cases hfilter
    obtain ⟨o, g2, hor, hfilter⟩ := run_bind_eq_ok.1 hfilter
    rcases o with _ | ⟨o, q⟩
    · cases hfilter
    obtain ⟨e, g3, he, hfilter⟩ := run_bind_eq_ok.1 hfilter
    cases hfilter
    rw [Selector.WF]
    exact asLogical_logical he (ih.logicalOr hor)
  obtain ⟨o, f4, hslice, h⟩ := run_bind_eq_ok.1 h
  rcases o with _ | r
  swap
  · cases h
    exact slice_wf hslice
  obtain ⟨o, f5, -, h⟩ := run_bind_eq_ok.1 h
  rcases o with _ | ⟨t, q⟩
  · cases h
  obtain ⟨i, f6, hi, h⟩ := run_bind_eq_ok.1 h
  cases h
  rw [Selector.WF]
  exact indexValue_range hi

theorem logicalOr_wf_succ {pos p : Nat} {f f' : Frontier} {o : Operand}
    (h : (logicalOr ts reg (n + 1) pos).run f = .ok (some (o, p), f')) :
    o.expr.Operand reg := by
  rw [logicalOr] at h
  obtain ⟨o, f1, hfirst, h⟩ := run_bind_eq_ok.1 h
  rcases o with _ | ⟨first, p1⟩
  · cases h
  obtain ⟨⟨rest, q⟩, f2, hrest, h⟩ := run_bind_eq_ok.1 h
  obtain ⟨o', f3, hj, h⟩ := run_bind_eq_ok.1 h
  cases h
  exact joinLogical_operand (fun _ _ ha hb => by rw [Expr.Logical]; exact ⟨ha, hb⟩) hj
    (ih.logicalAnd hfirst) (ih.orTail hrest)

theorem orTail_wf_succ {pos : Nat} {f : Frontier} {r : (List Operand × Nat) × Frontier}
    (h : (orTail ts reg (n + 1) pos).run f = .ok r) : ∀ o ∈ r.1.1, o.expr.Operand reg := by
  rw [orTail] at h
  obtain ⟨o, f1, -, h⟩ := run_bind_eq_ok.1 h
  rcases o with _ | ⟨_, p1⟩
  · cases h
    simp
  obtain ⟨o, f2, ho, h⟩ := run_bind_eq_ok.1 h
  rcases o with _ | ⟨o, q⟩
  · cases h
    simp
  obtain ⟨⟨rest, p3⟩, f3, hr, h⟩ := run_bind_eq_ok.1 h
  cases h
  simpa using ⟨ih.logicalAnd ho, ih.orTail hr⟩

theorem logicalAnd_wf_succ {pos p : Nat} {f f' : Frontier} {o : Operand}
    (h : (logicalAnd ts reg (n + 1) pos).run f = .ok (some (o, p), f')) :
    o.expr.Operand reg := by
  rw [logicalAnd] at h
  obtain ⟨o, f1, hfirst, h⟩ := run_bind_eq_ok.1 h
  rcases o with _ | ⟨first, p1⟩
  · cases h
  obtain ⟨⟨rest, q⟩, f2, hrest, h⟩ := run_bind_eq_ok.1 h
  obtain ⟨o', f3, hj, h⟩ := run_bind_eq_ok.1 h
  cases h
  exact joinLogical_operand (fun _ _ ha hb => by rw [Expr.Logical]; exact ⟨ha, hb⟩) hj
    (ih.basic hfirst) (ih.andTail hrest)

theorem andTail_wf_succ {pos : Nat} {f : Frontier} {r : (List Operand × Nat) × Frontier}
    (h : (andTail ts reg (n + 1) pos).run f = .ok r) : ∀ o ∈ r.1.1, o.expr.Operand reg := by
  rw [andTail] at h
  obtain ⟨o, f1, -, h⟩ := run_bind_eq_ok.1 h
  rcases o with _ | ⟨_, p1⟩
  · cases h
    simp
  obtain ⟨o, f2, ho, h⟩ := run_bind_eq_ok.1 h
  rcases o with _ | ⟨o, q⟩
  · cases h
    simp
  obtain ⟨⟨rest, p3⟩, f3, hr, h⟩ := run_bind_eq_ok.1 h
  cases h
  simpa using ⟨ih.basic ho, ih.andTail hr⟩

theorem basic_wf_succ {pos p : Nat} {f f' : Frontier} {o : Operand}
    (h : (basic ts reg (n + 1) pos).run f = .ok (some (o, p), f')) : o.expr.Operand reg := by
  rw [basic] at h
  obtain ⟨⟨k, p1⟩, f1, -, h⟩ := run_bind_eq_ok.1 h
  obtain ⟨o, f2, hl, h⟩ := run_bind_eq_ok.1 h
  rcases o with _ | ⟨left, q⟩
  · cases h
  have hleft := ih.spannedPrimary hl
  dsimp only at h
  split_ifs at h with hk
  · -- negations: the primary is used as a test
    obtain ⟨e, f3, he, h⟩ := run_bind_eq_ok.1 h
    cases h
    exact .inl (Expr.logical_repeat_not (asLogical_logical he hleft) k)
  obtain ⟨o, f3, -, h⟩ := run_bind_eq_ok.1 h
  rcases o with _ | ⟨op, r⟩
  · cases h
    exact hleft
  obtain ⟨o, f4, hr, h⟩ := run_bind_eq_ok.1 h
  rcases o with _ | ⟨right, s⟩
  · cases h
  obtain ⟨l, f5, hl', h⟩ := run_bind_eq_ok.1 h
  obtain ⟨rr, f6, hr', h⟩ := run_bind_eq_ok.1 h
  cases h
  refine .inl ?_
  rw [Expr.Logical]
  exact ⟨asComparable_comparable hl' hleft, asComparable_comparable hr' (ih.spannedPrimary hr)⟩

theorem spannedPrimary_wf_succ {pos p : Nat} {f f' : Frontier} {o : Operand}
    (h : (spannedPrimary ts reg (n + 1) pos).run f = .ok (some (o, p), f')) :
    o.expr.Operand reg := by
  rw [spannedPrimary] at h
  obtain ⟨o, f1, he, h⟩ := run_bind_eq_ok.1 h
  rcases o with _ | ⟨e, q⟩
  · cases h
  cases h
  exact ih.primary he

theorem primary_wf_succ (hts : TokensWF ts) {pos p : Nat} {f f' : Frontier} {e : Expr}
    (h : (primary ts reg (n + 1) pos).run f = .ok (some (e, p), f')) : e.Operand reg := by
  rw [primary] at h
  obtain ⟨o, f1, hparen, h⟩ := run_bind_eq_ok.1 h
  rcases o with _ | r
  swap
  · -- parenthesized: a disjunction used as a test
    cases h
    obtain ⟨o, g1, -, hparen⟩ := run_bind_eq_ok.1 hparen
    rcases o with _ | ⟨_, q⟩
    · cases hparen
    obtain ⟨o, g2, hor, hparen⟩ := run_bind_eq_ok.1 hparen
    rcases o with _ | ⟨o, q⟩
    · cases hparen
    obtain ⟨o', g3, -, hparen⟩ := run_bind_eq_ok.1 hparen
    rcases o' with _ | ⟨_, r⟩
    · cases hparen
    obtain ⟨e, g4, he, hparen⟩ := run_bind_eq_ok.1 hparen
    cases hparen
    exact .inl (asLogical_logical he (ih.logicalOr hor))
  obtain ⟨o, f2, -, h⟩ := run_bind_eq_ok.1 h
  rcases o with _ | ⟨t, p2⟩
  swap
  · -- a query
    obtain ⟨⟨segs, q⟩, f3, hsegs, h⟩ := run_bind_eq_ok.1 h
    cases h
    refine .inr ?_
    simp only [Expr.Arg, Query.WF]
    exact ih.segments hsegs
  obtain ⟨o, f3, hcall, h⟩ := run_bind_eq_ok.1 h
  rcases o with _ | r
  · exact literal_operand hts h
  · cases h
    exact ih.call hcall

theorem call_wf_succ (hts : TokensWF ts) {pos p : Nat} {f f' : Frontier} {e : Expr}
    (h : (call ts reg (n + 1) pos).run f = .ok (some (e, p), f')) : e.Operand reg := by
  rw [call] at h
  obtain ⟨o, f1, hn, h⟩ := run_bind_eq_ok.1 h
  rcases o with _ | ⟨nameTok, p1⟩
  · cases h
  obtain ⟨o, f2, -, h⟩ := run_bind_eq_ok.1 h
  rcases o with _ | ⟨openTok, p2⟩
  · cases h
  dsimp only at h
  split_ifs at h
  · cases h
  split at h
  · cases h
  rename_i fn hfn
  obtain ⟨⟨args, p3⟩, f3, hargs, h⟩ := run_bind_eq_ok.1 h
  obtain ⟨o, f4, -, h⟩ := run_bind_eq_ok.1 h
  rcases o with _ | ⟨closeTok, q⟩
  · cases h
  dsimp only at h
  split_ifs at h with hlen
  · cases h
  obtain ⟨es, f5, hes, h⟩ := run_bind_eq_ok.1 h
  cases h
  obtain ⟨hnt, hkind, -, -⟩ := expect_some ts hn
  apply Expr.operand_call
  rw [Expr.CallWF]
  exact ⟨(hts nameTok (Array.mem_of_getElem? hnt)).1 hkind, fn, hfn, rfl,
    asArguments_argsWF hes (by simpa using hlen) (ih.arguments hargs)⟩

theorem arguments_wf_succ {pos : Nat} {f : Frontier} {r : (List Operand × Nat) × Frontier}
    (h : (arguments ts reg (n + 1) pos).run f = .ok r) : ∀ o ∈ r.1.1, o.expr.Operand reg := by
  rw [arguments] at h
  obtain ⟨o, f1, ho, h⟩ := run_bind_eq_ok.1 h
  rcases o with _ | ⟨o, p1⟩
  · cases h
    simp
  obtain ⟨⟨rest, q⟩, f2, hr, h⟩ := run_bind_eq_ok.1 h
  cases h
  simpa using ⟨ih.logicalOr ho, ih.moreArguments hr⟩

theorem moreArguments_wf_succ {pos : Nat} {f : Frontier}
    {r : (List Operand × Nat) × Frontier}
    (h : (moreArguments ts reg (n + 1) pos).run f = .ok r) :
    ∀ o ∈ r.1.1, o.expr.Operand reg := by
  rw [moreArguments] at h
  obtain ⟨o, f1, -, h⟩ := run_bind_eq_ok.1 h
  rcases o with _ | ⟨_, p1⟩
  · cases h
    simp
  obtain ⟨o, f2, ho, h⟩ := run_bind_eq_ok.1 h
  rcases o with _ | ⟨o, q⟩
  · cases h
    simp
  obtain ⟨⟨rest, p3⟩, f3, hr, h⟩ := run_bind_eq_ok.1 h
  cases h
  simpa using ⟨ih.logicalOr ho, ih.moreArguments hr⟩

theorem ReadsWF.succ (hts : TokensWF ts) : ReadsWF ts reg (n + 1) where
  segments := segments_wf_succ ih
  segment := segment_wf_succ ih
  bracketed := bracketed_wf_succ ih
  moreSelectors := moreSelectors_wf_succ ih
  selector := selector_wf_succ ih
  logicalOr := logicalOr_wf_succ ih
  orTail := orTail_wf_succ ih
  logicalAnd := logicalAnd_wf_succ ih
  andTail := andTail_wf_succ ih
  basic := basic_wf_succ ih
  spannedPrimary := spannedPrimary_wf_succ ih
  primary := primary_wf_succ ih hts
  call := call_wf_succ ih hts
  arguments := arguments_wf_succ ih
  moreArguments := moreArguments_wf_succ ih

end Succ

/-- Every rule reads well-formed results at every fuel, by induction on the fuel. -/
theorem readsWF (hts : TokensWF ts) : ∀ n, ReadsWF ts reg n
  | 0 => readsWF_zero
  | n + 1 => (readsWF hts n).succ hts

theorem query_wf (hts : TokensWF ts) {fuel : Nat} {f f' : Frontier} {q : Query}
    (h : (query ts reg fuel).run f = .ok (some q, f')) : q.WF reg := by
  unfold query at h
  obtain ⟨o, f1, -, h⟩ := run_bind_eq_ok.1 h
  rcases o with _ | ⟨_, p⟩
  · cases h
  obtain ⟨⟨segs, q'⟩, f2, hsegs, h⟩ := run_bind_eq_ok.1 h
  obtain ⟨o, f3, -, h⟩ := run_bind_eq_ok.1 h
  rcases o with _ | _
  · cases h
  cases h
  rw [Query.WF]
  exact (readsWF hts fuel).segments hsegs

end Rules

end Syntax

namespace Query

open Syntax

/-- A query read from tokens the lexer produced is well formed. -/
theorem ofTokens_wf {reg : Registry} {tokens : List Token} {q : Query}
    (hts : TokensWF tokens.toArray) (h : ofTokens reg tokens = .ok q) : q.WF reg := by
  unfold ofTokens at h
  split at h
  · cases h
  simp only [bind, Except.bind] at h
  split at h
  · cases h
  rename_i r hr
  obtain ⟨_ | q', fr⟩ := r
  · cases h
  cases h
  exact query_wf hts hr

/-- Every query the grammar reads from a text is well formed. -/
theorem parse_wf {reg : Registry} {source : String} {q : Query}
    (h : parse reg source = .ok q) : q.WF reg := by
  unfold parse at h
  split at h
  · cases h
  rename_i tokens htok
  split at h
  · cases h
  cases h
  exact ofTokens_wf (tokenize_wf htok) ‹_›

end Query

end JsonPath

