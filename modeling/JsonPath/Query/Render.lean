import JsonPath.Query.Basic
import JsonPath.Syntax.Literal
import JsonPath.Json.Writer

/-!
# Canonical text of queries

Every query has a canonical text. Each segment is written in brackets, its selectors
separated by `, `, a descendant segment with `..` before the brackets. Names and string
literals stand between single quotes, written by `Syntax.escapeName`. Slices are
`start:end` or `start:end:step` with missing bounds left empty, filters `?expr`.

Comparisons and the connectives are written with single spaces around the operator. A
disjunction that is an operand of a conjunction, or the right operand of a disjunction,
is put in parentheses; a negation is written `!x` when `x` is a query, a call or a
negation and `!(x)` otherwise. Other literals are written as JSON: `true`, `false`,
`null`, integers exactly and binary64 numbers in their shortest form.
-/

set_option autoImplicit false

namespace JsonPath

/-- The canonical text of a literal. -/
def literalText : Value → String
  | .str s => "'" ++ Syntax.escapeName s ++ "'"
  | v => v.toJsonText ⟨none, true⟩

/-- The text of an optional slice bound. -/
def boundText : Option Int → String
  | none => ""
  | some i => toString i

mutual

/-- The canonical text of a selector. -/
def Selector.render : Selector → String
  | .name s => "'" ++ Syntax.escapeName s ++ "'"
  | .index i => toString i
  | .wildcard => "*"
  | .slice a b none => boundText a ++ ":" ++ boundText b
  | .slice a b (some c) => boundText a ++ ":" ++ boundText b ++ ":" ++ toString c
  | .filter e => "?" ++ e.render

/-- Selectors separated by `, `. -/
def Selector.renderList : List Selector → String
  | [] => ""
  | [s] => s.render
  | s :: rest => s.render ++ ", " ++ Selector.renderList rest

/-- The canonical text of a segment. -/
def Segment.render : Segment → String
  | .child sels => "[" ++ Selector.renderList sels ++ "]"
  | .descendant sels => "..[" ++ Selector.renderList sels ++ "]"

/-- Segments one after the other. -/
def Segment.renderList : List Segment → String
  | [] => ""
  | s :: rest => s.render ++ Segment.renderList rest

/-- The canonical text of a query. -/
def Query.render : Query → String
  | .mk .document segs => "$" ++ Segment.renderList segs
  | .mk .current segs => "@" ++ Segment.renderList segs

/-- The canonical text of a filter expression. -/
def Expr.render : Expr → String
  | .query q => q.render
  | .literal v => literalText v
  | .call name args _ _ => name ++ "(" ++ Expr.renderList args ++ ")"
  | .test q => q.render
  | .compare l op r => l.render ++ " " ++ op.text ++ " " ++ r.render
  | .not e =>
    match e with
    | .test _ | .call _ _ _ _ | .not _ => "!" ++ e.render
    | _ => "!(" ++ e.render ++ ")"
  | .and l r =>
    (match l with
     | .or _ _ => "(" ++ l.render ++ ")"
     | _ => l.render) ++ " && " ++
    (match r with
     | .or _ _ => "(" ++ r.render ++ ")"
     | _ => r.render)
  | .or l r =>
    l.render ++ " || " ++
    (match r with
     | .or _ _ => "(" ++ r.render ++ ")"
     | _ => r.render)

/-- Arguments separated by `, `. -/
def Expr.renderList : List Expr → String
  | [] => ""
  | [e] => e.render
  | e :: rest => e.render ++ ", " ++ Expr.renderList rest

end

end JsonPath
