import JsonPath.Value.Basic
import JsonPath.Syntax.Literal

/-!
# Locations

A location is the path from the root of a document to one of its nodes: a list of steps,
each an array index or an object member name. Its normalized text is `$` followed by a
bracket per step, `[0]` for an index and `['name']` for a name escaped by
`Syntax.escapeName`.

Locations are ordered step by step, a location before the longer ones it starts; an index
comes before every name, indices compare as numbers and names by code points.
-/

set_option autoImplicit false

namespace JsonPath

/-- One step from a node to a child. -/
inductive PathStep where
  | index (i : Nat)
  | name (s : String)
deriving DecidableEq, Repr

/-- The steps from the root of a document to a node. -/
abbrev Location := List PathStep

namespace PathStep

/-- The normalized text of a step. -/
def render : PathStep → String
  | .index i => "[" ++ toString i ++ "]"
  | .name s => "['" ++ Syntax.escapeName s ++ "']"

/-- The order of steps: indices first, by number, then names, by code points. -/
def compare : PathStep → PathStep → Ordering
  | .index i, .index j => Ord.compare i j
  | .index _, .name _ => .lt
  | .name _, .index _ => .gt
  | .name a, .name b => Ord.compare a b

/-- The child of a value reached by a step. -/
def child? : PathStep → Value → Option Value
  | .index i, .arr items => items[i]?
  | .name s, .obj members => Value.lookup members s
  | _, _ => none

end PathStep

namespace Location

/-- The normalized text of a location. -/
def render (l : Location) : String := "$" ++ String.join (l.map PathStep.render)

/-- The order of locations: step by step, a prefix first. -/
def compare : Location → Location → Ordering
  | [], [] => .eq
  | [], _ :: _ => .lt
  | _ :: _, [] => .gt
  | a :: as, b :: bs =>
    match a.compare b with
    | .eq => compare as bs
    | o => o

/-- The value at a location of a document. -/
def get? : Location → Value → Option Value
  | [], v => some v
  | s :: rest, v => (s.child? v).bind (get? rest)

end Location

end JsonPath
