import Mathlib.Data.List.Forall2
import JsonPath.Proofs.QueryGrammar
import JsonPath.Proofs.ReadBack

/-!
# The canonical tokens derive the query read back

The tokens of a well-formed query's canonical pieces derive, in the grammar of
`JsonPath.Proofs.QueryGrammar`, the query normalized: with the spans of its calls cleared
and its chains of conjunctions grouped to the left (`Query.derives_pieces`). With the lexing
of canonical texts (`Query.tokenize_render`) and the completeness of the grammar
(`Query.parse_eq_ok_iff`), this is what reading a canonical text back returns.

The derivation follows the tree. Where the tokens of a stretch of pieces stand is
`TokensAt`. An expression is derived at every level of the grammar at once
(`Expr.DerivedBack`): as a primary, after its negations, as a chain of conjunctions and as
a chain of disjunctions. A level is built from the levels of the operands and from the
lower levels of the expression itself; a compound expression is a primary only between
parentheses, so the primary comes last. Each derived expression reads back as the
expression (`Expr.ReadsBack`), the test of a query standing as the query itself, until the
grammar's check at its position turns it into a test, a side or an argument.
-/

set_option autoImplicit false

namespace JsonPath

namespace Syntax

/-! ## The tokens of pieces -/

namespace Piece

@[simp] theorem tokenCount_nil : tokenCount [] = 0 := rfl

@[simp] theorem tokenCount_blank (ps : List Piece) : tokenCount (.blank :: ps) = tokenCount ps :=
  rfl

@[simp] theorem tokenCount_lexeme (l : Lexeme) (ps : List Piece) :
    tokenCount (.lexeme l :: ps) = tokenCount ps + 1 :=
  rfl

@[simp] theorem tokenCount_mark (k : TokenKind) (ps : List Piece) :
    tokenCount (mark k :: ps) = tokenCount ps + 1 :=
  rfl

@[simp] theorem tokenCount_append (ps qs : List Piece) :
    tokenCount (ps ++ qs) = tokenCount ps + tokenCount qs := by
  induction ps with
  | nil => simp
  | cons p ps ih =>
    cases p with
    | blank => simp [ih]
    | lexeme l => simp [ih]; omega

theorem length_tokensFrom (offset : Nat) (ps : List Piece) :
    (tokensFrom offset ps).length = tokenCount ps := by
  induction ps generalizing offset with
  | nil => rfl
  | cons p ps ih => cases p <;> simp [tokensFrom, ih]

theorem tokensFrom_append (offset : Nat) (ps qs : List Piece) :
    tokensFrom offset (ps ++ qs) =
      tokensFrom offset ps ++ tokensFrom (offset + (layout ps).length) qs := by
  induction ps generalizing offset with
  | nil => simp [tokensFrom]
  | cons p ps ih =>
    cases p with
    | blank => simp [tokensFrom, ih, Nat.add_assoc, Nat.add_comm 1]
    | lexeme l => simp [tokensFrom, ih, Nat.add_assoc, String.length_toList]

end Piece

/-- The tokens of the pieces `ps`, laid out from some offset of a text, stand in `ts` from
position `i` on. -/
def TokensAt (ts : Array Token) (i : Nat) (ps : List Piece) : Prop :=
  ∃ offset, ∀ k < Piece.tokenCount ps, ts[i + k]? = (Piece.tokensFrom offset ps)[k]?

namespace TokensAt

variable {ts : Array Token} {i : Nat}

theorem append_left {ps qs : List Piece} (h : TokensAt ts i (ps ++ qs)) : TokensAt ts i ps := by
  obtain ⟨offset, h⟩ := h
  refine ⟨offset, fun k hk => ?_⟩
  have hk' : k < (Piece.tokensFrom offset ps).length := by rwa [Piece.length_tokensFrom]
  rw [h k (by simp; omega), Piece.tokensFrom_append, List.getElem?_append_left hk']

theorem append_right {ps qs : List Piece} (h : TokensAt ts i (ps ++ qs)) :
    TokensAt ts (i + Piece.tokenCount ps) qs := by
  obtain ⟨offset, h⟩ := h
  refine ⟨offset + (Piece.layout ps).length, fun k hk => ?_⟩
  have hle : (Piece.tokensFrom offset ps).length ≤ Piece.tokenCount ps + k := by
    rw [Piece.length_tokensFrom]
    omega
  rw [Nat.add_assoc, h _ (by simp; omega), Piece.tokensFrom_append,
    List.getElem?_append_right hle, Piece.length_tokensFrom, Nat.add_sub_cancel_left]

theorem tail {p : Piece} {ps : List Piece} (h : TokensAt ts i (p :: ps)) :
    TokensAt ts (i + Piece.tokenCount [p]) ps :=
  append_right (show TokensAt ts i ([p] ++ ps) from h)

theorem blank {ps : List Piece} (h : TokensAt ts i (.blank :: ps)) : TokensAt ts i ps := by
  simpa using h.tail

theorem lexeme {l : Lexeme} {ps : List Piece} (h : TokensAt ts i (.lexeme l :: ps)) :
    ∃ offset, ts[i]? = some (l.token offset) := by
  obtain ⟨offset, h⟩ := h
  exact ⟨offset, by simpa [Piece.tokensFrom] using h 0 (by simp)⟩

theorem mark {k : TokenKind} {ps : List Piece} (h : TokensAt ts i (Piece.mark k :: ps)) :
    KindAt ts i k := by
  obtain ⟨offset, ht⟩ := h.lexeme
  exact ⟨_, ht, rfl⟩

/-- A function's name and the parenthesis after it stand in two tokens that touch. -/
theorem word_lparen {name : String} {ps : List Piece}
    (h : TokensAt ts i (.lexeme (.word name) :: Piece.mark .lparen :: ps)) :
    ∃ nameTok openTok, ts[i]? = some nameTok ∧ nameTok.kind = .ident ∧ nameTok.text = name ∧
      ts[i + 1]? = some openTok ∧ openTok.kind = .lparen ∧
      nameTok.span.stop = openTok.span.start := by
  obtain ⟨offset, h⟩ := h
  exact ⟨_, _, by simpa [Piece.tokensFrom] using h 0 (by simp), rfl, rfl,
    by simpa [Piece.tokensFrom, Piece.mark] using h 1 (by simp), rfl, rfl⟩

/-- The tokens a text is read into stand from the first position on. -/
theorem of_tokens {tokens : List Token} {ps : List Piece} {eoi : Token}
    (h : tokens = Piece.tokensFrom 0 ps ++ [eoi]) : TokensAt tokens.toArray 0 ps := by
  refine ⟨0, fun k hk => ?_⟩
  have hk' : k < (Piece.tokensFrom 0 ps).length := by rwa [Piece.length_tokensFrom]
  rw [h, List.getElem?_toArray, Nat.zero_add, List.getElem?_append_left hk']

theorem eoi_of_tokens {tokens : List Token} {ps : List Piece} {eoi : Token}
    (h : tokens = Piece.tokensFrom 0 ps ++ [eoi]) :
    tokens.toArray[Piece.tokenCount ps]? = some eoi := by
  rw [h, List.getElem?_toArray, List.getElem?_append_right (by rw [Piece.length_tokensFrom]),
    Piece.length_tokensFrom, Nat.sub_self]
  rfl

end TokensAt

/-! ## Leaves: indices, bounds and literals -/

/-- No integer is written `-0`. -/
theorem intText_ne_negZero (i : Int) : toString i ≠ "-0" := by
  intro h
  have hl := congrArg String.toList h
  rw [Int.toString_eq_repr, Int.repr_eq_if] at hl
  split at hl
  · -- the digits of a natural number hold no sign
    rw [Nat.toList_repr] at hl
    have hd := Number.isDigit_of_mem_toDigits i.toNat '-' (by rw [hl]; simp)
    simp at hd
  · -- the digits after the sign of a negative number do not start with a zero
    rw [String.toList_append, Nat.toList_repr] at hl
    obtain ⟨d, tl, hdigits, hd⟩ := Number.toDigits_head_ne_zero (-i).toNat (by omega)
    rw [hdigits] at hl
    simp at hl
    exact hd hl.1

section Leaves

variable {ts : Array Token} {i : Nat}

theorem TokensAt.indexToken {n : Int} {ps : List Piece} (h : TokensAt ts i (Piece.int n :: ps))
    (hn : InIndexRange n) : ∃ t, ts[i]? = some t ∧ IndexToken t n := by
  obtain ⟨offset, ht⟩ := h.lexeme
  exact ⟨_, ht, rfl, intText_ne_negZero n, rfl, hn⟩

theorem TokensAt.boundAt {b : Option Int} (hb : ∀ x ∈ b, InIndexRange x)
    (h : TokensAt ts i (Piece.bound b)) : BoundAt ts i (i + Piece.tokenCount (Piece.bound b)) b := by
  cases b with
  | none => exact .none i
  | some n =>
    obtain ⟨t, ht, hidx⟩ := (show TokensAt ts i [Piece.int n] from h).indexToken (hb n rfl)
    exact .some ht hidx

/-- The token of a literal the grammar can read denotes the literal. -/
theorem Lexeme.literalToken {v : Value} (hv : v.IsScalar) (offset : Nat) :
    LiteralToken ((Lexeme.literal v).token offset) v := by
  cases v with
  | null => exact .keyword rfl (List.mem_cons_of_mem _ (List.mem_cons_of_mem _ List.mem_cons_self))
  | bool b =>
    cases b with
    | true => exact .keyword rfl List.mem_cons_self
    | false => exact .keyword rfl (List.mem_cons_of_mem _ List.mem_cons_self)
  | num n =>
    cases n with
    | int _ => exact .valued (List.mem_cons_of_mem _ List.mem_cons_self) rfl
    | float _ =>
      exact .valued (List.mem_cons_of_mem _ (List.mem_cons_of_mem _ List.mem_cons_self)) rfl
  | str _ => exact .valued List.mem_cons_self rfl
  | arr _ => exact absurd hv id
  | obj _ => exact absurd hv id

end Leaves

end Syntax

open Syntax

/-! ## Derived expressions read back -/

/-- A derived expression reads back as `e`: with the spans of its calls cleared it is `e`
normalized, the test of a query standing as the query itself. -/
def Expr.ReadsBack (o e : Expr) : Prop := o.eraseSpans = e.raw.normalize

section Checks

variable {reg : Registry}

/-- An expression read back from a test passes the check of a test position. -/
theorem Expr.asTest?_readsBack {o e : Expr} (he : e.Logical reg) (h : o.ReadsBack e) :
    ∃ o', o.asTest? = some o' ∧ o'.eraseSpans = e.normalize := by
  obtain ⟨o', hrun, ho'⟩ :=
    asLogical_readFrom he (show (Operand.mk o ⟨0, 0⟩).expr.eraseSpans = _ from h) ⟨0, []⟩
  exact ⟨o', (asLogical_run_eq_ok.1 hrun).1, ho'⟩

theorem Expr.asSide?_readsBack {o e : Expr} (he : e.Comparable reg) (h : o.ReadsBack e) :
    ∃ o', o.asSide? = some o' ∧ o'.eraseSpans = e.normalize := by
  obtain ⟨o', hrun, ho'⟩ :=
    asComparable_readFrom he (show (Operand.mk o ⟨0, 0⟩).expr.eraseSpans = _ from h) ⟨0, []⟩
  exact ⟨o', (asComparable_run_eq_ok.1 hrun).1, ho'⟩

theorem Expr.asArg?_readsBack {o e : Expr} {p : ExprType} (he : e.Arg reg p) (h : o.ReadsBack e) :
    ∃ o', o.asArg? p = some o' ∧ o'.eraseSpans = e.normalize := by
  obtain ⟨o', hrun, ho'⟩ := @asArgument_readFrom reg "" 0 p ⟨o, ⟨0, 0⟩⟩ e he h ⟨0, []⟩
  exact ⟨o', (asArgument_run_eq_ok.1 hrun).1, ho'⟩

/-- Arguments read back pass the parameters that accept the arguments they read back as. -/
theorem Expr.asArgs?_readsBack {os args : List Expr} (h : List.Forall₂ Expr.ReadsBack os args) :
    ∀ {ps : List ExprType}, Expr.ArgsWF reg ps args →
      ∃ es, Expr.asArgs? ps os = some es ∧ Expr.eraseSpansList es = Expr.normalizeList args := by
  induction h with
  | nil =>
    intro ps hwf
    cases ps with
    | nil => exact ⟨[], rfl, rfl⟩
    | cons p ps => simp [Expr.ArgsWF] at hwf
  | @cons o e os args ho _ ih =>
    intro ps hwf
    cases ps with
    | nil => simp [Expr.ArgsWF] at hwf
    | cons p ps =>
      rw [Expr.ArgsWF] at hwf
      obtain ⟨o', ho', herase⟩ := Expr.asArg?_readsBack hwf.1 ho
      obtain ⟨es, hes, herases⟩ := ih hwf.2
      exact ⟨o' :: es, by simp [Expr.asArgs?, ho', hes],
        by simp [Expr.eraseSpansList, Expr.normalizeList, herase, herases]⟩

/-- Operands read back from a chain of two or more, joined from the left, give the chain
read back. -/
theorem Expr.joinTests?_readsBack {join : Expr → Expr → Expr}
    (hjoin : ∀ a b, (join a b).eraseSpans = join a.eraseSpans b.eraseSpans)
    {first d : Expr} {rest ds : List Expr} (hfirst : first.ReadsBack d) (hd : d.Logical reg)
    (hrest : List.Forall₂ Expr.ReadsBack rest ds) (hds : ∀ x ∈ ds, x.Logical reg)
    (hne : ds ≠ []) :
    ∃ o, Expr.joinTests? join first rest = some o ∧
      o.eraseSpans = ds.foldl (fun a x => join a x.normalize) d.normalize := by
  have hops : List.Forall₂ (fun (o : Syntax.Operand) e => o.expr.eraseSpans = e.raw.normalize)
      (rest.map fun e => ⟨e, ⟨0, 0⟩⟩) ds :=
    List.forall₂_map_left_iff.2 hrest
  obtain ⟨o, hrun, ho⟩ := joinLogical_readFrom hjoin
    (show (Operand.mk first ⟨0, 0⟩).expr.eraseSpans = d.raw.normalize from hfirst) hd hops hds
    hne ⟨0, []⟩
  refine ⟨o.expr, ?_, ho⟩
  simpa [List.map_map, Function.comp_def] using (joinLogical_expr hrun).1

end Checks

/-! ## Chains of one operand -/

theorem Expr.eraseSpans_and (l r : Expr) : (Expr.and l r).eraseSpans = .and l.eraseSpans r.eraseSpans :=
  rfl

theorem Expr.eraseSpans_or (l r : Expr) : (Expr.or l r).eraseSpans = .or l.eraseSpans r.eraseSpans :=
  rfl

theorem Expr.firstConjunct_of_ne_and {e : Expr} (h : ∀ l r, e ≠ .and l r) : e.firstConjunct = e := by
  cases e with
  | and l r => exact absurd rfl (h l r)
  | _ => rfl

theorem Expr.moreConjuncts_of_ne_and {e : Expr} (h : ∀ l r, e ≠ .and l r) : e.moreConjuncts = [] := by
  cases e with
  | and l r => exact absurd rfl (h l r)
  | _ => rfl

theorem Expr.firstDisjunct_of_ne_or {e : Expr} (h : ∀ l r, e ≠ .or l r) : e.firstDisjunct = e := by
  cases e with
  | or l r => exact absurd rfl (h l r)
  | _ => rfl

theorem Expr.moreDisjuncts_of_ne_or {e : Expr} (h : ∀ l r, e ≠ .or l r) : e.moreDisjuncts = [] := by
  cases e with
  | or l r => exact absurd rfl (h l r)
  | _ => rfl

theorem Expr.groupPieces_of_ne_or {e : Expr} (h : ∀ l r, e ≠ .or l r) : e.groupPieces = e.pieces := by
  cases e with
  | or l r => exact absurd rfl (h l r)
  | _ => rfl

theorem Expr.logical_firstDisjunct {reg : Registry} :
    ∀ {e : Expr}, e.Logical reg → e.firstDisjunct.Logical reg
  | .or l _, h => by
    rw [Expr.Logical] at h
    exact Expr.logical_firstDisjunct (e := l) h.1
  | .query _, h | .literal _, h | .call .., h | .test _, h | .compare .., h | .not _, h
  | .and .., h => h

/-! ## The levels of the grammar -/

section Levels

variable (ts : Array Token) (reg : Registry) (e : Expr)

/-- The pieces of `e` as a primary stands them derive a primary that reads back as `e`. -/
def Expr.PrimaryBack : Prop :=
  ∀ i, TokensAt ts i e.primaryPieces →
    ∃ o, DerivesPrimary ts reg i (i + Piece.tokenCount e.primaryPieces) o ∧ o.ReadsBack e

/-- The pieces of `e` after a `!` derive, a logical `e` being given, the negations in front of
a primary and the primary, which used as a test and negated reads back as `e`. -/
def Expr.NegatedBack : Prop :=
  e.Logical reg → ∀ i, TokensAt ts i e.notPieces →
    ∃ n o o', (∀ m < n, KindAt ts (i + m) .bang) ∧
      DerivesPrimary ts reg (i + n) (i + Piece.tokenCount e.notPieces) o ∧
      o.asTest? = some o' ∧ (Nat.repeat Expr.not n o').eraseSpans = e.normalize

/-- The pieces of `e` as an operand of `&&` derive a basic expression that reads back as `e`. -/
def Expr.BasicBack : Prop :=
  ∀ i, TokensAt ts i e.groupPieces →
    ∃ o, DerivesBasic ts reg i (i + Piece.tokenCount e.groupPieces) o ∧ o.ReadsBack e

/-- The pieces of `e` as an operand of `&&` derive its conjuncts, each read back as one. -/
def Expr.ConjunctsBack : Prop :=
  ∀ i, TokensAt ts i e.groupPieces →
    ∃ j first tail, DerivesBasic ts reg i j first ∧
      DerivesAndTail ts reg j (i + Piece.tokenCount e.groupPieces) tail ∧
      List.Forall₂ Expr.ReadsBack (first :: tail) (e.firstConjunct :: e.moreConjuncts)

/-- The pieces of `e` as an operand of `&&` derive a chain of conjunctions that reads back as
`e`. -/
def Expr.AndBack : Prop :=
  ∀ i, TokensAt ts i e.groupPieces →
    ∃ o, DerivesAnd ts reg i (i + Piece.tokenCount e.groupPieces) o ∧ o.ReadsBack e

/-- The pieces of `e` derive its disjuncts, each read back as one. -/
def Expr.DisjunctsBack : Prop :=
  ∀ i, TokensAt ts i e.pieces →
    ∃ j first tail, DerivesAnd ts reg i j first ∧
      DerivesOrTail ts reg j (i + Piece.tokenCount e.pieces) tail ∧
      List.Forall₂ Expr.ReadsBack (first :: tail) (e.firstDisjunct :: e.moreDisjuncts)

/-- The pieces of `e` derive a chain of disjunctions that reads back as `e`. -/
def Expr.OrBack : Prop :=
  ∀ i, TokensAt ts i e.pieces →
    ∃ o, DerivesOr ts reg i (i + Piece.tokenCount e.pieces) o ∧ o.ReadsBack e

/-- The tokens of an expression's canonical pieces derive it at every level of the grammar:
as a primary, after the negations in front of it, and as chains of conjunctions and of
disjunctions. -/
structure Expr.DerivedBack : Prop where
  primary : e.PrimaryBack ts reg
  negated : e.NegatedBack ts reg
  conjuncts : e.ConjunctsBack ts reg
  disjuncts : e.DisjunctsBack ts reg

end Levels

/-! ## From one level to the next -/

section Steps

variable {ts : Array Token} {reg : Registry} {e : Expr}

theorem Expr.conjunctsBack_of_basic (hn : ∀ l r, e ≠ .and l r) (hb : e.BasicBack ts reg) :
    e.ConjunctsBack ts reg := by
  intro i hi
  obtain ⟨o, hbasic, ho⟩ := hb i hi
  refine ⟨_, o, [], hbasic, .nil _, ?_⟩
  rw [Expr.firstConjunct_of_ne_and hn, Expr.moreConjuncts_of_ne_and hn]
  exact .cons ho .nil

/-- Conjuncts read back, joined from the left, read back as their chain. -/
theorem Expr.andBack_of_conjuncts (he : e.Operand reg) (hc : e.ConjunctsBack ts reg) :
    e.AndBack ts reg := by
  intro i hi
  obtain ⟨j, first, tail, hb, ht, hrel⟩ := hc i hi
  obtain ⟨hfirst, htail⟩ := List.forall₂_cons.1 hrel
  by_cases hm : e.moreConjuncts = []
  · -- one conjunct: the chain is the basic expression itself
    rw [hm] at htail
    cases htail
    rw [Expr.firstConjunct_of_moreConjuncts_eq_nil hm] at hfirst
    exact ⟨first, .mk hb ht rfl, hfirst⟩
  · obtain ⟨l, r, rfl⟩ := Expr.exists_and_of_moreConjuncts_ne_nil hm
    have hlog : (Expr.and l r).Logical reg := by
      rw [Expr.Logical]
      exact Expr.operand_and.1 he
    obtain ⟨o, hj, ho⟩ := Expr.joinTests?_readsBack Expr.eraseSpans_and hfirst
      (Expr.logical_firstConjunct hlog) htail
      (fun x hx => (Expr.logical_of_mem_moreConjuncts (.inl hlog) hx).1) hm
    refine ⟨o, .mk hb ht hj, ?_⟩
    rw [Expr.ReadsBack, ho, ← Expr.normalize_eq_conjuncts]
    rfl

theorem Expr.disjunctsBack_of_and (hn : ∀ l r, e ≠ .or l r) (ha : e.AndBack ts reg) :
    e.DisjunctsBack ts reg := by
  intro i hi
  rw [← Expr.groupPieces_of_ne_or hn] at hi ⊢
  obtain ⟨o, hand, ho⟩ := ha i hi
  refine ⟨_, o, [], hand, .nil _, ?_⟩
  rw [Expr.firstDisjunct_of_ne_or hn, Expr.moreDisjuncts_of_ne_or hn]
  exact .cons ho .nil

/-- Disjuncts read back, joined from the left, read back as their chain. -/
theorem Expr.orBack_of_disjuncts (he : e.Operand reg) (hd : e.DisjunctsBack ts reg) :
    e.OrBack ts reg := by
  intro i hi
  obtain ⟨j, first, tail, ha, ht, hrel⟩ := hd i hi
  obtain ⟨hfirst, htail⟩ := List.forall₂_cons.1 hrel
  by_cases hm : e.moreDisjuncts = []
  · -- one disjunct: the chain is the conjunction itself
    rw [hm] at htail
    cases htail
    rw [Expr.firstDisjunct_of_moreDisjuncts_eq_nil hm] at hfirst
    exact ⟨first, .mk ha ht rfl, hfirst⟩
  · obtain ⟨l, r, rfl⟩ := Expr.exists_or_of_moreDisjuncts_ne_nil hm
    have hlog : (Expr.or l r).Logical reg := by
      rw [Expr.Logical]
      exact Expr.operand_or.1 he
    obtain ⟨o, hj, ho⟩ := Expr.joinTests?_readsBack Expr.eraseSpans_or hfirst
      (Expr.logical_firstDisjunct hlog) htail
      (fun x hx => Expr.logical_of_mem_moreDisjuncts (.inl hlog) hx) hm
    refine ⟨o, .mk ha ht hj, ?_⟩
    rw [Expr.ReadsBack, ho, ← Expr.normalize_eq_disjuncts]
    rfl

/-- A compound expression is a primary between parentheses, read as a test. -/
theorem Expr.primaryBack_of_or (he : e.Logical reg) (hp : e.primaryPieces = Piece.parens e.pieces)
    (hraw : e.raw = e) (ho : e.OrBack ts reg) : e.PrimaryBack ts reg := by
  intro i hi
  rw [hp] at hi ⊢
  have hopen : KindAt ts i .lparen := hi.mark
  have hinner : TokensAt ts (i + 1) (e.pieces ++ [Piece.mark .rparen]) := by simpa using hi.tail
  obtain ⟨o, hor, hrb⟩ := ho (i + 1) hinner.append_left
  have hclose : KindAt ts (i + 1 + Piece.tokenCount e.pieces) .rparen := hinner.append_right.mark
  obtain ⟨o', htest, ho'⟩ := Expr.asTest?_readsBack he hrb
  have hend : i + Piece.tokenCount (Piece.parens e.pieces) = i + 1 + Piece.tokenCount e.pieces + 1 := by
    simp [Piece.parens]
    omega
  rw [hend]
  exact ⟨o', .paren hopen hor hclose htest, by rw [Expr.ReadsBack, ho', hraw]⟩

/-- A logical expression that is no negation stands after a `!` as a primary. -/
theorem Expr.negatedBack_of_primary (hn : ∀ x, e ≠ .not x) (hp : e.PrimaryBack ts reg) :
    e.NegatedBack ts reg := by
  intro he i hi
  rw [Expr.notPieces_eq_primaryPieces he hn] at hi ⊢
  obtain ⟨o, hprim, ho⟩ := hp i hi
  obtain ⟨o', htest, ho'⟩ := Expr.asTest?_readsBack he ho
  exact ⟨0, o, o', fun m hm => absurd hm (Nat.not_lt_zero m), hprim, htest, ho'⟩

/-- A query, a literal, a call or a test is derived at every level from its primary. -/
theorem Expr.derivedBack_of_primary (he : e.Operand reg) (hatom : e.primaryPieces = e.pieces)
    (hand : ∀ l r, e ≠ .and l r) (hor : ∀ l r, e ≠ .or l r) (hnot : ∀ x, e ≠ .not x)
    (hp : e.PrimaryBack ts reg) : e.DerivedBack ts reg := by
  have hbasic : e.BasicBack ts reg := by
    intro i hi
    rw [Expr.groupPieces_of_ne_or hor, ← hatom] at hi ⊢
    obtain ⟨o, hprim, ho⟩ := hp i hi
    exact ⟨o, .primary hprim, ho⟩
  have hconj := Expr.conjunctsBack_of_basic hand hbasic
  exact ⟨hp, Expr.negatedBack_of_primary hnot hp, hconj,
    Expr.disjunctsBack_of_and hor (Expr.andBack_of_conjuncts he hconj)⟩

/-- A query, also one standing as a test, is read as a query primary from the tokens of the
query. -/
theorem Expr.primaryBack_of_query {q : Query} (hraw : e.raw = .query q)
    (hpieces : e.primaryPieces = q.pieces)
    (hq : ∀ i, TokensAt ts i q.pieces → ∃ segs, KindAt ts i q.root.kind ∧
      DerivesSegments ts reg (i + 1) (i + Piece.tokenCount q.pieces) segs ∧
      Segment.eraseSpansList segs = Segment.normalizeList q.segments) :
    e.PrimaryBack ts reg := by
  intro i hi
  rw [hpieces] at hi ⊢
  obtain ⟨segs, hroot, hsegs, herase⟩ := hq i hi
  obtain ⟨root, segs0⟩ := q
  refine ⟨.query (.mk root segs), .query hroot hsegs, ?_⟩
  rw [Expr.ReadsBack, hraw]
  simp [Expr.eraseSpans, Query.eraseSpans, Expr.normalize, Query.normalize, herase,
    Query.segments]

/-- A comparison, a negation or a conjunction is derived at every level from its conjuncts:
their chain is its only disjunct, and between parentheses it is a primary. After a `!` it
stands as `hneg` says. -/
theorem Expr.derivedBack_of_conjuncts (he : e.Operand reg) (hlog : e.Logical reg)
    (hpar : e.primaryPieces = Piece.parens e.pieces) (hraw : e.raw = e)
    (hor : ∀ l r, e ≠ .or l r) (hc : e.ConjunctsBack ts reg)
    (hneg : e.PrimaryBack ts reg → e.NegatedBack ts reg) : e.DerivedBack ts reg := by
  have hdisj := Expr.disjunctsBack_of_and hor (Expr.andBack_of_conjuncts he hc)
  have hprim := Expr.primaryBack_of_or hlog hpar hraw (Expr.orBack_of_disjuncts he hdisj)
  exact ⟨hprim, hneg hprim, hc, hdisj⟩

end Steps

/-! ## Lists of selectors, segments and arguments -/

section Lists

variable (ts : Array Token) (reg : Registry)

/-- The pieces of a selector derive a selector that reads back as it. -/
def Selector.DerivedBack (s : Selector) : Prop :=
  ∀ i, TokensAt ts i s.pieces →
    ∃ s', DerivesSelector ts reg i (i + Piece.tokenCount s.pieces) s' ∧ s'.eraseSpans = s.normalize

/-- The pieces of a segment derive a segment that reads back as it. -/
def Segment.DerivedBack (s : Segment) : Prop :=
  ∀ i, TokensAt ts i s.pieces →
    ∃ s', DerivesSegment ts reg i (i + Piece.tokenCount s.pieces) s' ∧ s'.eraseSpans = s.normalize

variable {ts reg}

theorem Syntax.TokensAt.afterEach_cons {α : Type} {f : α → List Piece} {x : α} {xs : List α}
    {i : Nat} (h : TokensAt ts i (Piece.afterEach [Piece.mark .comma, .blank] f (x :: xs))) :
    KindAt ts i .comma ∧ TokensAt ts (i + 1) (f x) ∧
      TokensAt ts (i + 1 + Piece.tokenCount (f x)) (Piece.afterEach [Piece.mark .comma, .blank] f xs) := by
  have hrest : TokensAt ts (i + 1) (f x ++ Piece.afterEach [Piece.mark .comma, .blank] f xs) := by
    simpa using h.tail.blank
  exact ⟨h.mark, hrest.append_left, hrest.append_right⟩

theorem Selector.derivesMore : ∀ {sels : List Selector}, (∀ s ∈ sels, s.DerivedBack ts reg) →
    ∀ i, TokensAt ts i (Piece.afterEach [Piece.mark .comma, .blank] Selector.pieces sels) →
      ∃ sels', DerivesMoreSelectors ts reg i
          (i + Piece.tokenCount (Piece.afterEach [Piece.mark .comma, .blank] Selector.pieces sels))
          sels' ∧ Selector.eraseSpansList sels' = Selector.normalizeList sels
  | [], _, i, _ => ⟨[], .nil i, rfl⟩
  | s :: rest, h, i, hi => by
    obtain ⟨hcomma, hs, hrest⟩ := hi.afterEach_cons
    obtain ⟨s', hs', herase⟩ := h s List.mem_cons_self (i + 1) hs
    obtain ⟨rest', hrest', herases⟩ :=
      Selector.derivesMore (fun x hx => h x (List.mem_cons_of_mem _ hx)) _ hrest
    refine ⟨s' :: rest', ?_, by simp [Selector.eraseSpansList, Selector.normalizeList, herase, herases]⟩
    have hend : i + Piece.tokenCount
        (Piece.afterEach [Piece.mark .comma, .blank] Selector.pieces (s :: rest)) =
        i + 1 + Piece.tokenCount s.pieces +
          Piece.tokenCount (Piece.afterEach [Piece.mark .comma, .blank] Selector.pieces rest) := by
      simp [Piece.afterEach]
      omega
    rw [hend]
    exact .cons hcomma hs' hrest'

/-- The pieces of selectors between brackets derive them, each read back. -/
theorem Selector.derivesBracketed {sels : List Selector} (hne : sels ≠ [])
    (h : ∀ s ∈ sels, s.DerivedBack ts reg) (i : Nat)
    (hi : TokensAt ts i (Piece.mark .lbracket :: (Selector.listPieces sels ++ [Piece.mark .rbracket]))) :
    ∃ sels', DerivesBracketed ts reg i
        (i + Piece.tokenCount (Piece.mark .lbracket :: (Selector.listPieces sels ++ [Piece.mark .rbracket])))
        sels' ∧ Selector.eraseSpansList sels' = Selector.normalizeList sels := by
  obtain ⟨s, rest, rfl⟩ := List.exists_cons_of_ne_nil hne
  have hopen : KindAt ts i .lbracket := hi.mark
  have hinner := hi.tail
  rw [Selector.listPieces_cons, List.append_assoc] at hinner
  obtain ⟨s', hs', herase⟩ := h s List.mem_cons_self _ hinner.append_left
  have hafter := hinner.append_right
  obtain ⟨rest', hrest', herases⟩ :=
    Selector.derivesMore (fun x hx => h x (List.mem_cons_of_mem _ hx)) _ hafter.append_left
  have hclose := hafter.append_right.mark
  refine ⟨s' :: rest', ?_, by simp [Selector.eraseSpansList, Selector.normalizeList, herase, herases]⟩
  have hend : i + Piece.tokenCount
      (Piece.mark .lbracket :: (Selector.listPieces (s :: rest) ++ [Piece.mark .rbracket])) =
      i + Piece.tokenCount [Piece.mark .lbracket] + Piece.tokenCount s.pieces +
        Piece.tokenCount (Piece.afterEach [Piece.mark .comma, .blank] Selector.pieces rest) + 1 := by
    simp [Selector.listPieces_cons]
    omega
  rw [hend]
  exact .mk hopen hs' hrest' hclose

theorem Segment.derivesSegments : ∀ {segs : List Segment}, (∀ s ∈ segs, s.DerivedBack ts reg) →
    ∀ i, TokensAt ts i (Segment.listPieces segs) →
      ∃ segs', DerivesSegments ts reg i (i + Piece.tokenCount (Segment.listPieces segs)) segs' ∧
        Segment.eraseSpansList segs' = Segment.normalizeList segs
  | [], _, i, _ => ⟨[], .nil i, rfl⟩
  | s :: rest, h, i, hi => by
    rw [Segment.listPieces] at hi
    obtain ⟨s', hs', herase⟩ := h s List.mem_cons_self i hi.append_left
    obtain ⟨rest', hrest', herases⟩ :=
      Segment.derivesSegments (fun x hx => h x (List.mem_cons_of_mem _ hx)) _ hi.append_right
    refine ⟨s' :: rest', ?_, by simp [Segment.eraseSpansList, Segment.normalizeList, herase, herases]⟩
    rw [Segment.listPieces, Piece.tokenCount_append, ← Nat.add_assoc]
    exact .cons hs' hrest'

theorem Expr.derivesMoreArguments : ∀ {args : List Expr}, (∀ e ∈ args, e.OrBack ts reg) →
    ∀ i, TokensAt ts i (Piece.afterEach [Piece.mark .comma, .blank] Expr.pieces args) →
      ∃ args', DerivesMoreArguments ts reg i
          (i + Piece.tokenCount (Piece.afterEach [Piece.mark .comma, .blank] Expr.pieces args))
          args' ∧ List.Forall₂ Expr.ReadsBack args' args
  | [], _, i, _ => ⟨[], .nil i, .nil⟩
  | e :: rest, h, i, hi => by
    obtain ⟨hcomma, he, hrest⟩ := hi.afterEach_cons
    obtain ⟨e', he', hrb⟩ := h e List.mem_cons_self (i + 1) he
    obtain ⟨rest', hrest', hrbs⟩ :=
      Expr.derivesMoreArguments (fun x hx => h x (List.mem_cons_of_mem _ hx)) _ hrest
    refine ⟨e' :: rest', ?_, .cons hrb hrbs⟩
    have hend : i + Piece.tokenCount
        (Piece.afterEach [Piece.mark .comma, .blank] Expr.pieces (e :: rest)) =
        i + 1 + Piece.tokenCount e.pieces +
          Piece.tokenCount (Piece.afterEach [Piece.mark .comma, .blank] Expr.pieces rest) := by
      simp [Piece.afterEach]
      omega
    rw [hend]
    exact .cons hcomma he' hrest'

theorem Expr.derivesArguments {args : List Expr} (h : ∀ e ∈ args, e.OrBack ts reg) (i : Nat)
    (hi : TokensAt ts i (Expr.listPieces args)) :
    ∃ args', DerivesArguments ts reg i (i + Piece.tokenCount (Expr.listPieces args)) args' ∧
      List.Forall₂ Expr.ReadsBack args' args := by
  cases args with
  | nil => exact ⟨[], .nil i, .nil⟩
  | cons e rest =>
    rw [Expr.listPieces_cons] at hi ⊢
    obtain ⟨e', he', hrb⟩ := h e List.mem_cons_self i hi.append_left
    obtain ⟨rest', hrest', hrbs⟩ :=
      Expr.derivesMoreArguments (fun x hx => h x (List.mem_cons_of_mem _ hx)) _ hi.append_right
    refine ⟨e' :: rest', ?_, .cons hrb hrbs⟩
    rw [Piece.tokenCount_append, ← Nat.add_assoc]
    exact .cons he' hrest'

end Lists

/-! ## Compound expressions -/

section Compound

variable {ts : Array Token} {reg : Registry}

theorem Syntax.DerivesAndTail.append_cons {k m : Nat} {rest : List Expr} {e : Expr} :
    ∀ {es : List Expr} {i j : Nat}, DerivesAndTail ts reg i j es → KindAt ts j .andAnd →
      DerivesBasic ts reg (j + 1) k e → DerivesAndTail ts reg k m rest →
      DerivesAndTail ts reg i m (es ++ e :: rest)
  | [], _, _, h, hk, hb, hrest => by
    cases h
    exact .cons hk hb hrest
  | _ :: _, _, _, h, hk, hb, hrest => by
    cases h with
    | cons hk' hb' ht => exact .cons hk' hb' (append_cons ht hk hb hrest)

theorem Syntax.DerivesOrTail.append_cons {k m : Nat} {rest : List Expr} {e : Expr} :
    ∀ {es : List Expr} {i j : Nat}, DerivesOrTail ts reg i j es → KindAt ts j .orOr →
      DerivesAnd ts reg (j + 1) k e → DerivesOrTail ts reg k m rest →
      DerivesOrTail ts reg i m (es ++ e :: rest)
  | [], _, _, h, hk, ha, hrest => by
    cases h
    exact .cons hk ha hrest
  | _ :: _, _, _, h, hk, ha, hrest => by
    cases h with
    | cons hk' ha' ht => exact .cons hk' ha' (append_cons ht hk ha hrest)

/-- Around a binary operator: the left pieces, the operator's token, the right pieces. -/
theorem Syntax.TokensAt.spacedOp {i : Nat} {ps qs : List Piece} {k : TokenKind}
    (h : TokensAt ts i (ps ++ Piece.spacedOp k ++ qs)) :
    TokensAt ts i ps ∧ KindAt ts (i + Piece.tokenCount ps) k ∧
      TokensAt ts (i + Piece.tokenCount ps + 1) qs := by
  have hright := h.append_right
  have hpos : i + Piece.tokenCount (ps ++ Piece.spacedOp k) = i + Piece.tokenCount ps + 1 := by
    simp [Piece.spacedOp]
    omega
  rw [hpos] at hright
  exact ⟨h.append_left.append_left, h.append_left.append_right.blank.mark, hright⟩

theorem Syntax.Piece.tokenCount_spacedOp_append (ps qs : List Piece) (k : TokenKind) :
    Piece.tokenCount (ps ++ Piece.spacedOp k ++ qs) =
      Piece.tokenCount ps + 1 + Piece.tokenCount qs := by
  simp [Piece.spacedOp]
  omega

/-- The conjuncts of `l && r` are those of `l`, then those of `r`. -/
theorem Expr.conjunctsBack_and {l r : Expr} (hl : l.ConjunctsBack ts reg)
    (hr : r.ConjunctsBack ts reg) : (Expr.and l r).ConjunctsBack ts reg := by
  intro i hi
  rw [Expr.groupPieces_of_ne_or (by simp), Expr.pieces_and] at hi ⊢
  obtain ⟨hL, hop, hR⟩ := hi.spacedOp
  obtain ⟨j, first, tail, hb, ht, hrel⟩ := hl i hL
  obtain ⟨j', first', tail', hb', ht', hrel'⟩ := hr _ hR
  obtain ⟨hfirst, htail⟩ := List.forall₂_cons.1 hrel
  refine ⟨j, first, tail ++ first' :: tail', hb, ?_, .cons hfirst (List.rel_append htail hrel')⟩
  rw [Piece.tokenCount_spacedOp_append, ← Nat.add_assoc]
  exact ht.append_cons hop hb' ht'

/-- The disjuncts of `l || r` are those of `l`, then `r`. -/
theorem Expr.disjunctsBack_or {l r : Expr} (hl : l.DisjunctsBack ts reg)
    (hr : r.AndBack ts reg) : (Expr.or l r).DisjunctsBack ts reg := by
  intro i hi
  rw [Expr.pieces_or] at hi ⊢
  obtain ⟨hL, hop, hR⟩ := hi.spacedOp
  obtain ⟨j, first, tail, ha, ht, hrel⟩ := hl i hL
  obtain ⟨o, ha', ho⟩ := hr _ hR
  obtain ⟨hfirst, htail⟩ := List.forall₂_cons.1 hrel
  refine ⟨j, first, tail ++ [o], ha, ?_, .cons hfirst (List.rel_append htail (.cons ho .nil))⟩
  rw [Piece.tokenCount_spacedOp_append, ← Nat.add_assoc]
  exact ht.append_cons hop ha' (.nil _)

/-- After the `!` of `!w`, the negations in front of `w` and one more. -/
theorem Expr.negation_succ {w : Expr} (hw : w.Logical reg) (hn : w.NegatedBack ts reg) (i : Nat)
    (hi : TokensAt ts i (Piece.mark .bang :: w.notPieces)) :
    ∃ n o o', (∀ m < n + 1, KindAt ts (i + m) .bang) ∧
      DerivesPrimary ts reg (i + (n + 1)) (i + Piece.tokenCount (Piece.mark .bang :: w.notPieces)) o ∧
      o.asTest? = some o' ∧ (Nat.repeat Expr.not (n + 1) o').eraseSpans = (Expr.not w).normalize := by
  obtain ⟨n, o, o', hbangs, hprim, htest, ho'⟩ := hn hw (i + 1) hi.tail
  refine ⟨n, o, o', ?_, ?_, htest, ?_⟩
  · intro m hm
    cases m with
    | zero => exact hi.mark
    | succ m =>
      rw [show i + (m + 1) = i + 1 + m by omega]
      exact hbangs m (by omega)
  · have hstart : i + (n + 1) = i + 1 + n := by omega
    have hend : i + Piece.tokenCount (Piece.mark .bang :: w.notPieces) =
        i + 1 + Piece.tokenCount w.notPieces := by
      simp
      omega
    rw [hstart, hend]
    exact hprim
  · show Expr.not (Nat.repeat Expr.not n o').eraseSpans = Expr.not w.normalize
    rw [ho']

theorem Expr.negatedBack_not {w : Expr} (hw : w.Logical reg) (hn : w.NegatedBack ts reg) :
    (Expr.not w).NegatedBack ts reg := by
  intro _ i hi
  rw [show (Expr.not w).notPieces = Piece.mark .bang :: w.notPieces from Expr.pieces_not w] at hi ⊢
  obtain ⟨n, o, o', hbangs, hprim, htest, ho'⟩ := Expr.negation_succ hw hn i hi
  exact ⟨n + 1, o, o', hbangs, hprim, htest, ho'⟩

theorem Expr.basicBack_not {w : Expr} (hw : w.Logical reg) (hn : w.NegatedBack ts reg) :
    (Expr.not w).BasicBack ts reg := by
  intro i hi
  rw [Expr.groupPieces_of_ne_or (by simp), Expr.pieces_not] at hi ⊢
  obtain ⟨n, o, o', hbangs, hprim, htest, ho'⟩ := Expr.negation_succ hw hn i hi
  exact ⟨_, .not (Nat.succ_pos n) hbangs hprim htest, ho'⟩

/-- The sides of a comparison stand as they are. -/
theorem Expr.primaryPieces_of_comparable {e : Expr} (h : e.Comparable reg) :
    e.primaryPieces = e.pieces := by
  cases e with
  | query _ => rfl
  | literal _ => rfl
  | call _ _ _ _ => rfl
  | _ => simp [Expr.Comparable] at h

theorem Expr.primaryBack_pieces {e : Expr} (hc : e.Comparable reg) (hp : e.PrimaryBack ts reg) :
    ∀ i, TokensAt ts i e.pieces →
      ∃ o, DerivesPrimary ts reg i (i + Piece.tokenCount e.pieces) o ∧ o.ReadsBack e := by
  rw [← Expr.primaryPieces_of_comparable hc]
  exact hp

theorem Expr.basicBack_compare {l r : Expr} {op : CompareOp} (hl : l.Comparable reg)
    (hr : r.Comparable reg) (hlb : l.PrimaryBack ts reg) (hrb : r.PrimaryBack ts reg) :
    (Expr.compare l op r).BasicBack ts reg := by
  intro i hi
  rw [Expr.groupPieces_of_ne_or (by simp)] at hi ⊢
  simp only [Expr.pieces] at hi ⊢
  obtain ⟨hL, hop, hR⟩ := hi.spacedOp
  obtain ⟨l0, hlp, hl0⟩ := Expr.primaryBack_pieces hl hlb i hL
  obtain ⟨r0, hrp, hr0⟩ := Expr.primaryBack_pieces hr hrb _ hR
  obtain ⟨l', hls, hl'⟩ := Expr.asSide?_readsBack hl hl0
  obtain ⟨r', hrs, hr'⟩ := Expr.asSide?_readsBack hr hr0
  refine ⟨.compare l' op r', ?_, ?_⟩
  · rw [Piece.tokenCount_spacedOp_append, ← Nat.add_assoc]
    exact .compare hlp hop hrp hls hrs
  · simp [Expr.ReadsBack, Expr.raw, Expr.eraseSpans, Expr.normalize, hl', hr']

end Compound

/-! ## The tree -/

section Tree

variable {ts : Array Token} {reg : Registry}

mutual

theorem Selector.derivedBack : ∀ s : Selector, s.WF reg → s.DerivedBack ts reg
  | .name n, _ => by
    intro i hi
    obtain ⟨offset, ht⟩ := hi.lexeme
    exact ⟨.name n, .name ht rfl rfl, rfl⟩
  | .index n, hw => by
    intro i hi
    obtain ⟨t, ht, hidx⟩ := hi.indexToken (by rwa [Selector.WF] at hw)
    exact ⟨.index n, .index ht hidx, rfl⟩
  | .wildcard, _ => by
    intro i hi
    exact ⟨.wildcard, .wildcard hi.mark, rfl⟩
  | .slice a b none, hw => by
    rw [Selector.WF] at hw
    intro i hi
    simp only [Selector.pieces] at hi ⊢
    have ha := hi.append_left.boundAt hw.1
    have hrest := hi.append_right
    have hb := hrest.tail.boundAt hw.2.1
    have hend : i + Piece.tokenCount (Piece.bound a ++ Piece.mark .colon :: Piece.bound b) =
        i + Piece.tokenCount (Piece.bound a) + 1 + Piece.tokenCount (Piece.bound b) := by
      simp
      omega
    rw [hend]
    exact ⟨.slice a b none, .slice (.bounds ha hrest.mark hb), rfl⟩
  | .slice a b (some c), hw => by
    rw [Selector.WF] at hw
    intro i hi
    simp only [Selector.pieces] at hi ⊢
    have ha := hi.append_left.boundAt hw.1
    have hrest := hi.append_right
    have hb := hrest.tail.append_left.boundAt hw.2.1
    have hstep := hrest.tail.append_right
    have hc := (show TokensAt ts _ (Piece.mark .colon :: Piece.bound (some c)) from hstep).tail.boundAt
      (fun x hx => (hw.2.2 x hx).1)
    have hend : i + Piece.tokenCount
        (Piece.bound a ++ Piece.mark .colon :: (Piece.bound b ++ [Piece.mark .colon, Piece.int c])) =
        i + Piece.tokenCount (Piece.bound a) + 1 + Piece.tokenCount (Piece.bound b) + 1 + 1 := by
      simp [Piece.int]
      omega
    rw [hend]
    exact ⟨.slice a b (some c), .slice (.step ha hrest.mark hb hstep.mark hc
      (fun x hx => (hw.2.2 x hx).2)), rfl⟩
  | .filter e, hw => by
    rw [Selector.WF] at hw
    have heb := Expr.derivedBack e (.inl hw)
    intro i hi
    simp only [Selector.pieces] at hi ⊢
    obtain ⟨o, hor, hrb⟩ := Expr.orBack_of_disjuncts (.inl hw) heb.disjuncts (i + 1) hi.tail
    obtain ⟨o', htest, ho'⟩ := Expr.asTest?_readsBack hw hrb
    refine ⟨.filter o', ?_, by simp [Selector.eraseSpans, Selector.normalize, ho']⟩
    rw [Piece.tokenCount_mark, ← Nat.add_assoc, Nat.add_right_comm]
    exact .filter hi.mark hor htest

theorem Selector.derivedBackList : ∀ sels : List Selector, Selector.WFList reg sels →
    ∀ s ∈ sels, s.DerivedBack ts reg
  | [], _ => by simp
  | s :: rest, h => by
    rw [Selector.WFList] at h
    have hs := Selector.derivedBack s h.1
    have hrest := Selector.derivedBackList rest h.2
    intro x hx
    rcases List.mem_cons.1 hx with rfl | hx
    · exact hs
    · exact hrest x hx

theorem Segment.derivedBack : ∀ s : Segment, s.WF reg → s.DerivedBack ts reg
  | .child sels, h => by
    rw [Segment.WF] at h
    have hsels := Selector.derivedBackList sels h.2
    intro i hi
    obtain ⟨sels', hb, herase⟩ := Selector.derivesBracketed h.1 hsels i hi
    exact ⟨.child sels', .child hb, by simp [Segment.eraseSpans, Segment.normalize, herase]⟩
  | .descendant sels, h => by
    rw [Segment.WF] at h
    have hsels := Selector.derivedBackList sels h.2
    intro i hi
    obtain ⟨sels', hb, herase⟩ := Selector.derivesBracketed h.1 hsels (i + 1) hi.tail
    refine ⟨.descendant sels', ?_, by simp [Segment.eraseSpans, Segment.normalize, herase]⟩
    rw [show (Segment.descendant sels).pieces = Piece.mark .doubleDot ::
      Piece.mark .lbracket :: (Selector.listPieces sels ++ [Piece.mark .rbracket]) from rfl,
      Piece.tokenCount_mark, ← Nat.add_assoc, Nat.add_right_comm]
    exact .descendant hi.mark hb

theorem Segment.derivedBackList : ∀ segs : List Segment, Segment.WFList reg segs →
    ∀ s ∈ segs, s.DerivedBack ts reg
  | [], _ => by simp
  | s :: rest, h => by
    rw [Segment.WFList] at h
    have hs := Segment.derivedBack s h.1
    have hrest := Segment.derivedBackList rest h.2
    intro x hx
    rcases List.mem_cons.1 hx with rfl | hx
    · exact hs
    · exact hrest x hx

/-- The pieces of a query derive its root's token and segments that read back as its own. -/
theorem Query.derivedBack : ∀ q : Query, q.WF reg → ∀ i, TokensAt ts i q.pieces →
    ∃ segs, KindAt ts i q.root.kind ∧
      DerivesSegments ts reg (i + 1) (i + Piece.tokenCount q.pieces) segs ∧
      Segment.eraseSpansList segs = Segment.normalizeList q.segments
  | .mk root segs, h => by
    rw [Query.WF] at h
    have hsegs := Segment.derivedBackList segs h
    intro i hi
    have hq : TokensAt ts i (Piece.mark root.kind :: Segment.listPieces segs) := by
      cases root <;> exact hi
    obtain ⟨segs', hd, herase⟩ := Segment.derivesSegments hsegs (i + 1) hq.tail
    have hend : i + Piece.tokenCount (Query.mk root segs).pieces =
        i + 1 + Piece.tokenCount (Segment.listPieces segs) := by
      cases root <;> simp [Query.pieces] <;> omega
    rw [hend]
    exact ⟨segs', hq.mark, hd, herase⟩

theorem Expr.derivedBack : ∀ e : Expr, e.Operand reg → e.DerivedBack ts reg
  | .query q, h => Expr.derivedBack_of_primary h rfl (by simp) (by simp) (by simp)
      (Expr.primaryBack_of_query rfl rfl (Query.derivedBack q (Expr.operand_query.1 h)))
  | .literal v, h => by
    refine Expr.derivedBack_of_primary h rfl (by simp) (by simp) (by simp) ?_
    intro i hi
    obtain ⟨offset, ht⟩ := hi.lexeme
    exact ⟨.literal v, .literal ht (Lexeme.literalToken (Expr.operand_literal.1 h) offset), rfl⟩
  | .call name args res span, h => by
    have hc := Expr.callWF_of_operand h
    rw [Expr.CallWF] at hc
    obtain ⟨-, f, hf, hres, hwf⟩ := hc
    have hargs := Expr.derivedBackList args (Expr.operand_of_argsWF hwf)
    refine Expr.derivedBack_of_primary h rfl (by simp) (by simp) (by simp) ?_
    intro i hi
    simp only [Expr.primaryPieces, Expr.pieces] at hi ⊢
    obtain ⟨nameTok, openTok, hnt, hnk, hntext, hot, hok, hadj⟩ := hi.word_lparen
    have hinner : TokensAt ts (i + 2) (Expr.listPieces args ++ [Piece.mark .rparen]) := by
      simpa using hi.tail.tail
    obtain ⟨args', hda, hrbs⟩ := Expr.derivesArguments
      (fun x hx => Expr.orBack_of_disjuncts (Expr.operand_of_argsWF hwf x hx) (hargs x hx).disjuncts)
      (i + 2) hinner.append_left
    obtain ⟨closeTok, hct, hck⟩ := hinner.append_right.mark
    obtain ⟨es, hes, herases⟩ := Expr.asArgs?_readsBack hrbs hwf
    subst hntext
    have hend : i + Piece.tokenCount (.lexeme (.word nameTok.text) :: Piece.mark .lparen ::
        (Expr.listPieces args ++ [Piece.mark .rparen])) =
        i + 2 + Piece.tokenCount (Expr.listPieces args) + 1 := by
      simp
      omega
    rw [hend]
    refine ⟨_, .call hnt hnk hot hok hadj hf hda hct hck hes, ?_⟩
    simp [Expr.ReadsBack, Expr.raw, Expr.eraseSpans, Expr.normalize, herases, hres]
  | .test q, h => Expr.derivedBack_of_primary h rfl (by simp) (by simp) (by simp)
      -- a test is read as the query it tests
      (Expr.primaryBack_of_query rfl rfl (Query.derivedBack q (Expr.operand_test.1 h)))
  | .compare l op r, h => by
    obtain ⟨hl, hr⟩ := Expr.operand_compare.1 h
    have hlb := Expr.derivedBack l (Expr.operand_of_comparable hl)
    have hrb := Expr.derivedBack r (Expr.operand_of_comparable hr)
    have hlog : (Expr.compare l op r).Logical reg := by
      rw [Expr.Logical]
      exact ⟨hl, hr⟩
    have hconj : (Expr.compare l op r).ConjunctsBack ts reg := Expr.conjunctsBack_of_basic
      (by simp) (Expr.basicBack_compare hl hr hlb.primary hrb.primary)
    exact Expr.derivedBack_of_conjuncts h hlog rfl rfl (by simp) hconj
      (Expr.negatedBack_of_primary (by simp))
  | .not w, h => by
    have hw := Expr.operand_not.1 h
    have hwb := Expr.derivedBack w (.inl hw)
    have hlog : (Expr.not w).Logical reg := by
      rw [Expr.Logical]
      exact hw
    have hconj := Expr.conjunctsBack_of_basic (by simp) (Expr.basicBack_not hw hwb.negated)
    -- after a further `!` the negations of `w` grow by one
    exact Expr.derivedBack_of_conjuncts h hlog rfl rfl (by simp) hconj
      fun _ => Expr.negatedBack_not hw hwb.negated
  | .and l r, h => by
    obtain ⟨hl, hr⟩ := Expr.operand_and.1 h
    have hlb := Expr.derivedBack l (.inl hl)
    have hrb := Expr.derivedBack r (.inl hr)
    have hlog : (Expr.and l r).Logical reg := by
      rw [Expr.Logical]
      exact ⟨hl, hr⟩
    exact Expr.derivedBack_of_conjuncts h hlog rfl rfl (by simp)
      (Expr.conjunctsBack_and hlb.conjuncts hrb.conjuncts) (Expr.negatedBack_of_primary (by simp))
  | .or l r, h => by
    obtain ⟨hl, hr⟩ := Expr.operand_or.1 h
    have hlb := Expr.derivedBack l (.inl hl)
    have hrb := Expr.derivedBack r (.inl hr)
    have hlog : (Expr.or l r).Logical reg := by
      rw [Expr.Logical]
      exact ⟨hl, hr⟩
    have hdisj := Expr.disjunctsBack_or hlb.disjuncts (Expr.andBack_of_conjuncts (.inl hr) hrb.conjuncts)
    have hprim := Expr.primaryBack_of_or hlog rfl rfl (Expr.orBack_of_disjuncts h hdisj)
    -- a disjunction standing as an operand of `&&` is a primary between parentheses
    have hbasic : (Expr.or l r).BasicBack ts reg := fun i hi => by
      obtain ⟨o, hp, ho⟩ := hprim i hi
      exact ⟨o, .primary hp, ho⟩
    exact ⟨hprim, Expr.negatedBack_of_primary (by simp) hprim,
      Expr.conjunctsBack_of_basic (by simp) hbasic, hdisj⟩

theorem Expr.derivedBackList : ∀ args : List Expr, (∀ e ∈ args, e.Operand reg) →
    ∀ e ∈ args, e.DerivedBack ts reg
  | [], _ => by simp
  | e :: rest, h => by
    have he := Expr.derivedBack e (h e List.mem_cons_self)
    have hrest := Expr.derivedBackList rest fun x hx => h x (List.mem_cons_of_mem _ hx)
    intro x hx
    rcases List.mem_cons.1 hx with rfl | hx
    · exact he
    · exact hrest x hx

end

end Tree

/-- The tokens of a well-formed query's canonical pieces, closed by the end of input, derive a
query that reads back as the query normalized. -/
theorem Query.derives_pieces {reg : Registry} {q : Query} (hq : q.WF reg)
    (hroot : q.root = .document) {tokens : List Token} {eoi : Token}
    (htok : tokens = Piece.tokensFrom 0 q.pieces ++ [eoi]) (heoi : eoi.kind = .eoi) :
    ∃ q', DerivesQuery tokens.toArray reg q' ∧ q'.eraseSpans = q.normalize := by
  obtain ⟨segs, hdollar, hsegs, herase⟩ := Query.derivedBack q hq 0 (TokensAt.of_tokens htok)
  obtain ⟨root, segs0⟩ := q
  cases hroot
  refine ⟨.mk .document segs, .mk hdollar hsegs ⟨eoi, ?_, heoi⟩, ?_⟩
  · rw [Nat.zero_add]
    exact TokensAt.eoi_of_tokens htok
  · simp [Query.eraseSpans, Query.normalize, herase, Query.segments]

end JsonPath
