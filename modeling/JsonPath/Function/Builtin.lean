import JsonPath.Function.Basic
import JsonPath.Pattern.Match

/-!
# Built-in functions

Five functions are built in:

* `length(ValueType) -> ValueType`: the number of characters of a string, of elements of
  an array or of members of an object; no value for anything else.
* `count(NodesType) -> ValueType`: the number of nodes.
* `match(ValueType, ValueType) -> LogicalType`: whether the pattern, the second argument,
  matches the whole of the first; `search` whether it matches somewhere in it. Both are
  false unless both are strings and the pattern is valid. A `.` of the pattern outside a
  bracket class stands for any character but a line break. A pattern that asks for too
  many repetitions, or for both ASCII and Unicode classes, fails the call.
* `value(NodesType) -> ValueType`: the value of the only node; an error unless there is
  exactly one.

The built-in registry holds them, frozen.
-/

set_option autoImplicit false

namespace JsonPath.Builtin

/-- The argument of a one-parameter value function. -/
def oneValue : List Argument → Option (Option Value)
  | [.value v] => some v
  | _ => none

/-- The argument of a one-parameter nodes function. -/
def oneNodes : List Argument → Option (List Value)
  | [.nodes vs] => some vs
  | _ => none

/-- The number of characters, elements or members of a value. -/
def lengthOf : Option Value → Option Value
  | some (.str s) => some (.num (.int s.length))
  | some (.arr xs) => some (.num (.int xs.length))
  | some (.obj ms) => some (.num (.int ms.length))
  | _ => none

/-- `length(ValueType) -> ValueType`. -/
def length : FunctionDef where
  name := "length"
  signature := ⟨[.value], .value⟩
  apply args := .ok (.value (lengthOf ((oneValue args).getD none)))

/-- `count(NodesType) -> ValueType`. -/
def count : FunctionDef where
  name := "count"
  signature := ⟨[.nodes], .value⟩
  apply args := .ok (.value (some (.num (.int ((oneNodes args).getD []).length))))

/-- Replaces each `.` outside a bracket class by a class of every character but `\n` and
`\r`. A backslash keeps the character after it; the first `]` closes a class. -/
def translate : List Char → Bool → List Char
  | [], _ => []
  | '\\' :: c :: rest, inClass => '\\' :: c :: translate rest inClass
  | c :: rest, true => c :: translate rest (c ≠ ']')
  | '[' :: rest, false => '[' :: translate rest true
  | '.' :: rest, false => "[^\\n\\r]".toList ++ translate rest false
  | c :: rest, false => c :: translate rest false

/-- The pattern and the text of a match, when both are strings. -/
def textAndPattern : List Argument → Option (String × String)
  | [.value (some (.str text)), .value (some (.str pattern))] =>
    some (text, String.ofList (translate pattern.toList false))
  | _ => none

/-- The logical value of a pattern test of a text: false unless both arguments are strings
and the pattern is valid. -/
def patternTest (test : Pattern.Compiled → String → Bool) (args : List Argument) :
    Except CallFailure Argument :=
  match textAndPattern args with
  | none => .ok (.logical false)
  | some (text, pattern) =>
    match Pattern.compile pattern with
    | .ok p => .ok (.logical (test p text))
    | .error .invalid => .ok (.logical false)
    | .error f => .error (.pattern f)

/-- `match(ValueType, ValueType) -> LogicalType`. -/
def fullMatch : FunctionDef where
  name := "match"
  signature := ⟨[.value, .value], .logical⟩
  apply := patternTest Pattern.Compiled.fullMatches

/-- `search(ValueType, ValueType) -> LogicalType`. -/
def search : FunctionDef where
  name := "search"
  signature := ⟨[.value, .value], .logical⟩
  apply := patternTest Pattern.Compiled.searches

/-- `value(NodesType) -> ValueType`. -/
def value : FunctionDef where
  name := "value"
  signature := ⟨[.nodes], .value⟩
  apply args :=
    match (oneNodes args).getD [] with
    | [v] => .ok (.value (some v))
    | vs => .error (.message ("value() requires exactly one node, but the argument matched " ++
      toString vs.length))

end JsonPath.Builtin

namespace JsonPath.Registry

/-- The registry of the built-in functions, frozen. -/
def builtin : Registry :=
  ⟨[Builtin.length, Builtin.count, Builtin.fullMatch, Builtin.search, Builtin.value], true⟩

end JsonPath.Registry
