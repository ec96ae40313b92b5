import JsonPath.Location

/-!
# Nodes and node lists

A node is a value of a document with its location. A query selects a list of nodes, in
the order it found them; the same node may occur more than once.

`NodeList.dedup` sorts a list by location, stably, and keeps one node per location. The
accessors `exactlyOne` and `atMostOne` fail, with the count, when the list has the wrong
length.
-/

set_option autoImplicit false

namespace JsonPath

/-- A value of a document with its location. -/
structure Node where
  value : Value
  location : Location
deriving Repr

/-- Why a node list does not have the number of nodes asked for. -/
inductive NodeCountError where
  /-- Exactly one node was asked for and there are none. -/
  | empty
  /-- Exactly one node was asked for and there are more. -/
  | notOne (count : Nat)
  /-- At most one node was asked for and there are more. -/
  | notAtMostOne (count : Nat)
deriving DecidableEq, Repr

namespace NodeCountError

/-- The message of the error. -/
def message : NodeCountError → String
  | .empty => "nodelist expected to contain one entry, but is empty"
  | .notOne n => s!"nodelist expected to contain one entry, but instead contains {n} entries"
  | .notAtMostOne n =>
    s!"nodelist expected to contain at most one entry, but instead contains {n} entries"

/-- The number of nodes the list had. -/
def count : NodeCountError → Nat
  | .empty => 0
  | .notOne n => n
  | .notAtMostOne n => n

end NodeCountError

namespace NodeList

/-- The only node of a list. -/
def exactlyOne : List Node → Except NodeCountError Node
  | [] => .error .empty
  | [n] => .ok n
  | ns => .error (.notOne ns.length)

/-- The only node of a list, or none. -/
def atMostOne : List Node → Except NodeCountError (Option Node)
  | [] => .ok none
  | [n] => .ok (some n)
  | ns => .error (.notAtMostOne ns.length)

/-- Drops each node whose location equals that of the node before it. -/
def dropRepeats : List Node → List Node
  | [] => []
  | [n] => [n]
  | a :: b :: rest =>
    if a.location.compare b.location = .eq then dropRepeats (a :: rest)
    else a :: dropRepeats (b :: rest)

/-- The nodes sorted by location, one per location. -/
def dedup (ns : List Node) : List Node :=
  dropRepeats (ns.mergeSort fun a b => a.location.compare b.location != .gt)

end NodeList

end JsonPath
