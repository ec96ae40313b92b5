import JsonPath.Value.Basic
import JsonPath.Number.Literal
import JsonPath.Text.Quoted

/-!
# Writing JSON text

`Json.write` writes a value as JSON text in a `Layout`: on one line with `, ` and `: `
between parts, or indented with one item per line. Strings escape the quote, the
backslash and the control characters (`\n`, `\r`, `\t`, `\b`, `\f`, else `\u00xx`);
with `asciiOnly` every other character outside printable ASCII is escaped as well, above
U+FFFF by its surrogate pair. Numbers are written by `Number.toText`; the non-finite ones,
which JSON has no text for, as `NaN`, `Infinity` and `-Infinity`.

`Value.firstUnwritable?` finds the first number in writing order that a strict writer refuses:
a non-finite float, or an integer of more digits than its conversion to text accepts.
-/

set_option autoImplicit false

namespace JsonPath.Json

/-- How a JSON text is laid out. -/
structure Layout where
  /-- Spaces per level of nesting, or `none` for one line. -/
  indent : Option Nat
  /-- Whether every character outside printable ASCII is escaped. -/
  asciiOnly : Bool

/-- One line, every character outside printable ASCII escaped. -/
def Layout.compact : Layout := ⟨none, true⟩

/-- Two spaces per level, characters written as they are. -/
def Layout.pretty : Layout := ⟨some 2, false⟩

/-- The escape `\uxxxx` of a code unit. -/
def unitEscape (n : Nat) : String := "\\u" ++ Text.hexPadded 4 n

/-- How a character is written inside a JSON string. -/
def escapeChar (asciiOnly : Bool) (c : Char) : String :=
  match c with
  | '"' => "\\\""
  | '\\' => "\\\\"
  | '\n' => "\\n"
  | '\r' => "\\r"
  | '\t' => "\\t"
  | '\x08' => "\\b"
  | '\x0c' => "\\f"
  | _ =>
    if c.toNat < 0x20 then unitEscape c.toNat
    else if asciiOnly ∧ c.toNat ≥ 0x7f then
      if c.toNat < 0x10000 then unitEscape c.toNat
      else
        let v := c.toNat - 0x10000
        unitEscape (0xD800 + v / 0x400) ++ unitEscape (0xDC00 + v % 0x400)
    else c.toString

/-- A string as a JSON string literal. -/
def quoteString (asciiOnly : Bool) (s : String) : String :=
  "\"" ++ String.join (s.toList.map (escapeChar asciiOnly)) ++ "\""

/-- The text of a number; non-finite numbers as `NaN`, `Infinity` and `-Infinity`. -/
def numberText : Number → String
  | .int n => toString n
  | .float x =>
    if x.isNaN then "NaN"
    else if x.isInf then (if x.sign then "-Infinity" else "Infinity")
    else x.toShortestText

/-- What stands between two items at nesting `level`, and before the closing bracket. -/
def separators (layout : Layout) (level : Nat) : String × String × String :=
  match layout.indent with
  | none => ("", ", ", "")
  | some n =>
    let inner := "\n" ++ String.ofList (List.replicate (n * (level + 1)) ' ')
    let outer := "\n" ++ String.ofList (List.replicate (n * level) ' ')
    (inner, "," ++ inner, outer)

mutual

/-- The text of a value at nesting `level`. -/
def write (layout : Layout) (level : Nat) : Value → String
  | .null => "null"
  | .bool b => if b then "true" else "false"
  | .num n => numberText n
  | .str s => quoteString layout.asciiOnly s
  | .arr [] => "[]"
  | .arr items =>
    let (first, _, last) := separators layout level
    "[" ++ first ++ writeItems layout level items ++ last ++ "]"
  | .obj [] => "\x7b\x7d"
  | .obj members =>
    let (first, _, last) := separators layout level
    "\x7b" ++ first ++ writeMembers layout level members ++ last ++ "\x7d"

/-- The items of an array, with separators between them. -/
def writeItems (layout : Layout) (level : Nat) : List Value → String
  | [] => ""
  | [v] => write layout (level + 1) v
  | v :: rest => write layout (level + 1) v ++ (separators layout level).2.1 ++
      writeItems layout level rest

/-- The members of an object, with separators between them. -/
def writeMembers (layout : Layout) (level : Nat) : List (String × Value) → String
  | [] => ""
  | [(k, v)] => quoteString layout.asciiOnly k ++ ": " ++ write layout (level + 1) v
  | (k, v) :: rest => quoteString layout.asciiOnly k ++ ": " ++ write layout (level + 1) v ++
      (separators layout level).2.1 ++ writeMembers layout level rest

end

end JsonPath.Json

namespace JsonPath.Number

/-- A number that JSON text cannot hold: a float that is infinite or NaN, or an integer of more
digits than its conversion to text accepts. -/
def unwritable : Number → Bool
  | .float x => !x.isFinite
  | .int i => Syntax.maxIntDigits < Syntax.intDigits i

end JsonPath.Number

namespace JsonPath.Value

mutual

/-- The first number in writing order that JSON text cannot hold (`Number.unwritable`). -/
def firstUnwritable? : Value → Option Number
  | .num n => if n.unwritable then some n else none
  | .arr items => firstUnwritableItems? items
  | .obj members => firstUnwritableMembers? members
  | _ => none

/-- The first number of a list of items that JSON text cannot hold. -/
def firstUnwritableItems? : List Value → Option Number
  | [] => none
  | v :: rest => (firstUnwritable? v).orElse fun _ => firstUnwritableItems? rest

/-- The first number of a list of members that JSON text cannot hold. -/
def firstUnwritableMembers? : List (String × Value) → Option Number
  | [] => none
  | (_, v) :: rest => (firstUnwritable? v).orElse fun _ => firstUnwritableMembers? rest

end

/-- The value as JSON text in the given layout. -/
def toJsonText (layout : Json.Layout) (v : Value) : String := Json.write layout 0 v

end JsonPath.Value
