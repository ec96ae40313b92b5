/-!
# Diagnostics

A diagnostic shows a message with the line of the query text it concerns and a row of
carets under the offending part:

```
unexpected ']' (line 1, column 4)

$[?]
   ^
expected one of: '!', '$', ...
```

Lines are separated by `\n` alone and lines and columns count from one, in characters.
The offset is clamped into the text. The carets start under the column and are as many
as the span is wide, but at least one and no more than reach one past the end of the
line. The list of expected items, sorted and without repeats, follows when there is one.
-/

set_option autoImplicit false

namespace JsonPath.Diagnostic

/-- The line and column of an offset, clamped into the text. -/
def lineColumn (source : String) (offset : Int) : Nat × Nat :=
  let cs := source.toList
  let off := (max 0 (min offset cs.length)).toNat
  let before := cs.take off
  let line := before.count '\n' + 1
  let lineStart := before.length - (before.reverse.takeWhile (· ≠ '\n')).length
  (line, off - lineStart + 1)

/-- The lines of a text: the pieces between its `\n` characters. -/
def lines (source : String) : List String := (source.toList.splitOn '\n').map String.ofList

/-- The text of a line, counted from one. -/
def lineText (source : String) (line : Nat) : String :=
  ((lines source)[line - 1]?).getD source

/-- Inserts into a sorted list without repeats. -/
def insertSorted (x : String) : List String → List String
  | [] => [x]
  | y :: ys => if x = y then y :: ys else if x < y then x :: y :: ys else y :: insertSorted x ys

/-- Sorts a list of strings by code points and drops repeats. -/
def sortedDistinct (xs : List String) : List String := xs.foldr insertSorted []

/-- The diagnostic of a message about the span `[start, stop)` of a query text. -/
def render (source : String) (start stop : Int) (message : String)
    (expected : List String) : String :=
  let (line, col) := lineColumn source start
  let text := lineText source line
  let room : Int := text.length + 1 - col
  let width := (max 1 (min (stop - start) room)).toNat
  let pointer := String.ofList (List.replicate (col - 1) ' ' ++ List.replicate width '^')
  let head := s!"{message} (line {line}, column {col})\n\n{text}\n{pointer}"
  match sortedDistinct expected with
  | [] => head
  | items => head ++ "\nexpected one of: " ++ String.intercalate ", " items

end JsonPath.Diagnostic
