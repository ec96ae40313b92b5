import Mathlib.Data.List.Chain
import JsonPath.Query.Render
import JsonPath.Syntax.Token

/-!
# Canonical texts, lexeme by lexeme

The canonical text of a query is a sequence of lexemes, some with a single space before
them: punctuation marks, identifiers naming functions, and literals (names and strings
between quotes, numbers, `true`, `false`, `null`). This module computes that sequence for
queries, segments, selectors and filter expressions, making the same choices as the text
does (which operands stand in parentheses, when a negation is written `!(x)`), and proves
that laying the pieces out character by character gives the text (`Query.render_toList`).

Reading the text back then goes piece by piece: each lexeme becomes one token, and the
tokens of a subexpression are those of its stretch of pieces. The depth to which a
sequence nests brackets and parentheses (`Piece.nesting`) is the quantity the reader
bounds before parsing.
-/

set_option autoImplicit false

namespace JsonPath

namespace Syntax

/-- The text of a punctuation mark. -/
def TokenKind.markText : TokenKind → String
  | .dollar => "$"
  | .atSign => "@"
  | .doubleDot => ".."
  | .dot => "."
  | .asterisk => "*"
  | .colon => ":"
  | .comma => ","
  | .question => "?"
  | .lparen => "("
  | .rparen => ")"
  | .lbracket => "["
  | .rbracket => "]"
  | .eq => "=="
  | .ne => "!="
  | .le => "<="
  | .ge => ">="
  | .lt => "<"
  | .gt => ">"
  | .andAnd => "&&"
  | .orOr => "||"
  | .bang => "!"
  | _ => ""

/-- A lexeme of a canonical text. -/
inductive Lexeme where
  /-- A punctuation mark. -/
  | mark (kind : TokenKind)
  /-- An identifier naming a function. -/
  | word (name : String)
  /-- A literal, written as `literalText` writes it. -/
  | literal (v : Value)

namespace Lexeme

/-- The text of a lexeme. -/
def text : Lexeme → String
  | .mark k => k.markText
  | .word name => name
  | .literal v => literalText v

/-- The kind of token a lexeme is read as. -/
def kind : Lexeme → TokenKind
  | .mark k => k
  | .word _ => .ident
  | .literal (.str _) => .string
  | .literal (.num (.int _)) => .integer
  | .literal (.num (.float _)) => .float
  | .literal _ => .ident

/-- The value carried by the token of a lexeme: that of a string or number literal. -/
def value : Lexeme → Option Value
  | .literal (.str s) => some (.str s)
  | .literal (.num n) => some (.num n)
  | _ => none

/-- The token of a lexeme that starts at `offset`. -/
def token (l : Lexeme) (offset : Nat) : Token :=
  ⟨l.kind, l.text, ⟨offset, offset + l.text.length⟩, l.value⟩

end Lexeme

/-- A piece of a canonical text: a single space, or a lexeme. -/
inductive Piece where
  | blank
  | lexeme (l : Lexeme)

namespace Piece

/-- The text of a piece. -/
def text : Piece → String
  | .blank => " "
  | .lexeme l => l.text

/-- A punctuation mark as a piece. -/
def mark (k : TokenKind) : Piece := .lexeme (.mark k)

/-- An integer literal as a piece. -/
def int (i : Int) : Piece := .lexeme (.literal (.num (.int i)))

/-- The characters of pieces, one piece after the other. -/
def layout (ps : List Piece) : List Char := ps.flatMap fun p => p.text.toList

/-- The tokens of pieces laid out from `offset` on: one for each lexeme. -/
def tokensFrom : Nat → List Piece → List Token
  | _, [] => []
  | offset, .blank :: rest => tokensFrom (offset + 1) rest
  | offset, .lexeme l :: rest => l.token offset :: tokensFrom (offset + l.text.length) rest

/-- The number of lexemes among pieces. -/
def tokenCount : List Piece → Nat
  | [] => 0
  | .blank :: rest => tokenCount rest
  | .lexeme _ :: rest => tokenCount rest + 1

/-- Pieces between parentheses. -/
def parens (ps : List Piece) : List Piece := mark .lparen :: (ps ++ [mark .rparen])

/-- A binary operator with a space on each side. -/
def spacedOp (k : TokenKind) : List Piece := [.blank, mark k, .blank]

/-- An optional slice bound. -/
def bound : Option Int → List Piece
  | none => []
  | some i => [int i]

/-- The deepest nesting of brackets and parentheses reached by pieces read from depth `d`;
a closing one never takes the depth below zero. -/
def nesting : Nat → List Piece → Nat
  | d, [] => d
  | d, .blank :: rest => nesting d rest
  | d, .lexeme l :: rest =>
    if l.kind = .lbracket ∨ l.kind = .lparen then max (d + 1) (nesting (d + 1) rest)
    else if l.kind = .rbracket ∨ l.kind = .rparen then nesting (d - 1) rest
    else nesting d rest

end Piece

end Syntax

open Syntax

/-- The punctuation mark of a comparison operator. -/
def CompareOp.kind : CompareOp → TokenKind
  | .eq => .eq
  | .ne => .ne
  | .lt => .lt
  | .le => .le
  | .gt => .gt
  | .ge => .ge

mutual

/-- The pieces of a selector's canonical text. -/
def Selector.pieces : Selector → List Piece
  | .name s => [.lexeme (.literal (.str s))]
  | .index i => [.int i]
  | .wildcard => [.mark .asterisk]
  | .slice a b none => Piece.bound a ++ .mark .colon :: Piece.bound b
  | .slice a b (some c) =>
    Piece.bound a ++ .mark .colon :: (Piece.bound b ++ [.mark .colon, .int c])
  | .filter e => .mark .question :: e.pieces

/-- The pieces of selectors separated by `, `. -/
def Selector.listPieces : List Selector → List Piece
  | [] => []
  | [s] => s.pieces
  | s :: rest => s.pieces ++ .mark .comma :: .blank :: Selector.listPieces rest

/-- The pieces of a segment's canonical text. -/
def Segment.pieces : Segment → List Piece
  | .child sels => .mark .lbracket :: (Selector.listPieces sels ++ [.mark .rbracket])
  | .descendant sels =>
    .mark .doubleDot :: .mark .lbracket :: (Selector.listPieces sels ++ [.mark .rbracket])

/-- The pieces of segments one after the other. -/
def Segment.listPieces : List Segment → List Piece
  | [] => []
  | s :: rest => s.pieces ++ Segment.listPieces rest

/-- The pieces of a query's canonical text. -/
def Query.pieces : Query → List Piece
  | .mk .document segs => .mark .dollar :: Segment.listPieces segs
  | .mk .current segs => .mark .atSign :: Segment.listPieces segs

/-- The pieces of a filter expression's canonical text. -/
def Expr.pieces : Expr → List Piece
  | .query q => q.pieces
  | .literal v => [.lexeme (.literal v)]
  | .call name args _ _ =>
    .lexeme (.word name) :: .mark .lparen :: (Expr.listPieces args ++ [.mark .rparen])
  | .test q => q.pieces
  | .compare l op r => l.pieces ++ Piece.spacedOp op.kind ++ r.pieces
  | .not e =>
    .mark .bang ::
      match e with
      | .test _ | .call _ _ _ _ | .not _ => e.pieces
      | _ => Piece.parens e.pieces
  | .and l r =>
    (match l with
     | .or _ _ => Piece.parens l.pieces
     | _ => l.pieces) ++ Piece.spacedOp .andAnd ++
    (match r with
     | .or _ _ => Piece.parens r.pieces
     | _ => r.pieces)
  | .or l r =>
    l.pieces ++ Piece.spacedOp .orOr ++
    (match r with
     | .or _ _ => Piece.parens r.pieces
     | _ => r.pieces)

/-- The pieces of arguments separated by `, `. -/
def Expr.listPieces : List Expr → List Piece
  | [] => []
  | [e] => e.pieces
  | e :: rest => e.pieces ++ .mark .comma :: .blank :: Expr.listPieces rest

end

/-- The pieces of an operand of a conjunction, or of the right operand of a disjunction:
a disjunction stands in parentheses. -/
def Expr.groupPieces (e : Expr) : List Piece :=
  match e with
  | .or _ _ => Piece.parens e.pieces
  | _ => e.pieces

/-- The pieces after the `!` of a negation: a query, a call or a negation as it is,
anything else in parentheses. -/
def Expr.notPieces (e : Expr) : List Piece :=
  match e with
  | .test _ | .call _ _ _ _ | .not _ => e.pieces
  | _ => Piece.parens e.pieces

/-- How deep brackets and parentheses nest in the canonical text of a query. -/
def Query.nesting (q : Query) : Nat := Piece.nesting 0 q.pieces

/-! ## Laying out pieces -/

@[simp] theorem Syntax.Lexeme.text_mark (k : TokenKind) : (Lexeme.mark k).text = k.markText := rfl

@[simp] theorem Syntax.Lexeme.text_word (name : String) : (Lexeme.word name).text = name := rfl

@[simp] theorem Syntax.Lexeme.text_literal (v : Value) : (Lexeme.literal v).text = literalText v :=
  rfl

namespace Syntax.Piece

@[simp] theorem layout_nil : layout [] = [] := rfl

@[simp] theorem layout_cons (p : Piece) (ps : List Piece) :
    layout (p :: ps) = p.text.toList ++ layout ps :=
  List.flatMap_cons

@[simp] theorem layout_append (ps qs : List Piece) : layout (ps ++ qs) = layout ps ++ layout qs :=
  List.flatMap_append

@[simp] theorem text_blank : blank.text = " " := rfl

@[simp] theorem text_lexeme (l : Lexeme) : (lexeme l).text = l.text := rfl

@[simp] theorem text_mark (k : TokenKind) : (mark k).text = k.markText := rfl

@[simp] theorem text_int (i : Int) : (int i).text = toString i := rfl

theorem layout_parens (ps : List Piece) :
    layout (parens ps) = '(' :: (layout ps ++ [')']) := by
  simp [parens, TokenKind.markText]

theorem layout_spacedOp (k : TokenKind) :
    layout (spacedOp k) = ' ' :: (k.markText.toList ++ [' ']) := by
  simp [spacedOp]

theorem layout_bound (b : Option Int) : layout (bound b) = (boundText b).toList := by
  cases b <;> simp [bound, boundText]

end Syntax.Piece

theorem CompareOp.markText_kind (op : CompareOp) : op.kind.markText = op.text := by
  cases op <;> rfl

theorem Selector.listPieces_cons_cons (s t : Selector) (rest : List Selector) :
    Selector.listPieces (s :: t :: rest) =
      s.pieces ++ .mark .comma :: .blank :: Selector.listPieces (t :: rest) :=
  rfl

theorem Expr.listPieces_cons_cons (e t : Expr) (rest : List Expr) :
    Expr.listPieces (e :: t :: rest) =
      e.pieces ++ .mark .comma :: .blank :: Expr.listPieces (t :: rest) :=
  rfl

theorem Expr.pieces_not (e : Expr) : (Expr.not e).pieces = .mark .bang :: e.notPieces := by
  cases e <;> rfl

theorem Expr.pieces_and (l r : Expr) :
    (Expr.and l r).pieces = l.groupPieces ++ Piece.spacedOp .andAnd ++ r.groupPieces := by
  cases l <;> cases r <;> rfl

theorem Expr.pieces_or (l r : Expr) :
    (Expr.or l r).pieces = l.pieces ++ Piece.spacedOp .orOr ++ r.groupPieces := by
  cases r <;> rfl

open Piece in
mutual

theorem Selector.render_toList : ∀ s : Selector, s.render.toList = layout s.pieces
  | .name s => by simp [Selector.render, Selector.pieces, literalText]
  | .index i => by simp [Selector.render, Selector.pieces]
  | .wildcard => by simp [Selector.render, Selector.pieces, TokenKind.markText]
  | .slice a b none => by
    simp [Selector.render, Selector.pieces, layout_bound, TokenKind.markText]
  | .slice a b (some c) => by
    simp [Selector.render, Selector.pieces, layout_bound, TokenKind.markText]
  | .filter e => by
    have ih := Expr.render_toList e
    simp [Selector.render, Selector.pieces, TokenKind.markText, ih]

theorem Selector.renderList_toList :
    ∀ sels : List Selector, (Selector.renderList sels).toList = layout (Selector.listPieces sels)
  | [] => rfl
  | [s] => by
    have ih := Selector.render_toList s
    simp [Selector.renderList, Selector.listPieces, ih]
  | s :: t :: rest => by
    have ih := Selector.render_toList s
    have ihs := Selector.renderList_toList (t :: rest)
    simp [Selector.renderList, Selector.listPieces, ih, ihs, TokenKind.markText]

theorem Segment.render_toList : ∀ s : Segment, s.render.toList = layout s.pieces
  | .child sels => by
    have ih := Selector.renderList_toList sels
    simp [Segment.render, Segment.pieces, ih, TokenKind.markText]
  | .descendant sels => by
    have ih := Selector.renderList_toList sels
    simp [Segment.render, Segment.pieces, ih, TokenKind.markText]

theorem Segment.renderList_toList :
    ∀ segs : List Segment, (Segment.renderList segs).toList = layout (Segment.listPieces segs)
  | [] => rfl
  | s :: rest => by
    have ih := Segment.render_toList s
    have ihs := Segment.renderList_toList rest
    simp [Segment.renderList, Segment.listPieces, ih, ihs]

theorem Query.render_toList : ∀ q : Query, q.render.toList = layout q.pieces
  | .mk .document segs => by
    have ih := Segment.renderList_toList segs
    simp [Query.render, Query.pieces, ih, TokenKind.markText]
  | .mk .current segs => by
    have ih := Segment.renderList_toList segs
    simp [Query.render, Query.pieces, ih, TokenKind.markText]

theorem Expr.render_toList : ∀ e : Expr, e.render.toList = layout e.pieces
  | .query q => by
    have ih := Query.render_toList q
    simp [Expr.render, Expr.pieces, ih]
  | .literal v => by simp [Expr.render, Expr.pieces]
  | .call name args _ _ => by
    have ih := Expr.renderList_toList args
    simp [Expr.render, Expr.pieces, ih, TokenKind.markText]
  | .test q => by
    have ih := Query.render_toList q
    simp [Expr.render, Expr.pieces, ih]
  | .compare l op r => by
    have ihl := Expr.render_toList l
    have ihr := Expr.render_toList r
    simp [Expr.render, Expr.pieces, ihl, ihr, layout_spacedOp, CompareOp.markText_kind]
  | .not e => by
    have ih := Expr.render_toList e
    rw [Expr.render.eq_def, Expr.pieces_not]
    cases e <;> simp [Expr.notPieces, ih, layout_parens, TokenKind.markText]
  | .and l r => by
    have ihl := Expr.render_toList l
    have ihr := Expr.render_toList r
    rw [Expr.render.eq_def, Expr.pieces_and]
    cases l <;> cases r <;>
      simp [Expr.groupPieces, ihl, ihr, layout_parens, layout_spacedOp, TokenKind.markText]
  | .or l r => by
    have ihl := Expr.render_toList l
    have ihr := Expr.render_toList r
    rw [Expr.render.eq_def, Expr.pieces_or]
    cases r <;> simp [Expr.groupPieces, ihl, ihr, layout_parens, layout_spacedOp, TokenKind.markText]

theorem Expr.renderList_toList :
    ∀ args : List Expr, (Expr.renderList args).toList = layout (Expr.listPieces args)
  | [] => rfl
  | [e] => by
    have ih := Expr.render_toList e
    simp [Expr.renderList, Expr.listPieces, ih]
  | e :: t :: rest => by
    have ih := Expr.render_toList e
    have ihs := Expr.renderList_toList (t :: rest)
    simp [Expr.renderList, Expr.listPieces, ih, ihs, TokenKind.markText]

end

end JsonPath
