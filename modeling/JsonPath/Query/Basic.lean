import JsonPath.Function.Basic
import JsonPath.Syntax.Span

/-!
# Queries

A query starts at the root of the document (`$`) or, inside a filter, at the current node
(`@`), and applies segments in turn. A child segment applies its selectors to the children
of each node; a descendant segment to each node and all nodes below it. A selector picks
a member by name, an element by index, every child, a slice of an array, or the children
for which a filter expression holds.

Filter expressions are queries, literals, function calls, existence tests, comparisons
and the logical connectives. A function call keeps the span of its text, so that a
failure while calling it can point there.

A query is *singular* when every segment is a child segment with a single name or index
selector: it selects at most one node.
-/

set_option autoImplicit false

namespace JsonPath

/-- Where a query starts: the document root `$` or the current node `@`. -/
inductive Root where
  | document
  | current
deriving DecidableEq, Repr, Inhabited

/-- The comparison operators. -/
inductive CompareOp where
  | eq
  | ne
  | lt
  | le
  | gt
  | ge
deriving DecidableEq, Repr, Inhabited

namespace CompareOp

/-- The text of an operator. -/
def text : CompareOp → String
  | .eq => "=="
  | .ne => "!="
  | .lt => "<"
  | .le => "<="
  | .gt => ">"
  | .ge => ">="

end CompareOp

mutual

/-- A selector of a segment. -/
inductive Selector where
  | name (s : String)
  | index (i : Int)
  | wildcard
  | slice (start stop step : Option Int)
  | filter (e : Expr)

/-- A segment: selectors applied to children, or to descendants. -/
inductive Segment where
  | child (selectors : List Selector)
  | descendant (selectors : List Selector)

/-- A query: a root and segments. -/
inductive Query where
  | mk (root : Root) (segments : List Segment)

/-- A filter expression. -/
inductive Expr where
  /-- A query used as a value or as a list of nodes. -/
  | query (q : Query)
  /-- A literal: a string, number, boolean or null. -/
  | literal (v : Value)
  /-- A call of a function, with its result type and the span of its text. -/
  | call (name : String) (args : List Expr) (result : ExprType) (span : Span)
  /-- Whether a query selects at least one node. -/
  | test (q : Query)
  | compare (left : Expr) (op : CompareOp) (right : Expr)
  | not (e : Expr)
  | and (left right : Expr)
  | or (left right : Expr)

end

instance : Inhabited Query := ⟨.mk .document []⟩

namespace Query

/-- The root of a query. -/
def root : Query → Root
  | .mk r _ => r

/-- The segments of a query. -/
def segments : Query → List Segment
  | .mk _ s => s

end Query

namespace Segment

/-- Whether a segment is a child segment with a single name or index selector. -/
def isSingular : Segment → Bool
  | .child [.name _] => true
  | .child [.index _] => true
  | _ => false

end Segment

namespace Query

/-- Whether a query selects at most one node by its form: all its segments are child
segments with a single name or index selector. -/
def isSingular (q : Query) : Bool := q.segments.all Segment.isSingular

end Query

end JsonPath
