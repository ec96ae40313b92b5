import JsonPath.Value.Basic
import JsonPath.Number.Literal

/-!
# Reading JSON text

`Json.read` reads a JSON text into a `Value`. Integers without fraction or exponent stay
integers of any size; other numbers round to the nearest binary64 number. Beside standard
JSON it reads the constants `NaN`, `Infinity` and `-Infinity`. A name written twice in one
object keeps its first place and its last value.

A syntax error names what was expected and where: its position counts characters from the
start of the text, and `Error.render` adds the line and column, as in
`Expecting ',' delimiter: line 1 column 4 (char 3)`. An integer of more than
`Syntax.maxIntDigits` digits stops the reading with the conversion's own error, which names no
place.

The reader works on the list of characters. Every function returns what is left of the
input, and a failure carries the rest of the input at the place it describes, so that its
position is the length of the text less the length of that rest.
-/

set_option autoImplicit false

namespace JsonPath.Json

/-- Why reading failed: a syntax error with its message and position, or an integer of too many
digits to convert. -/
inductive Error where
  | invalid (message : String) (pos : Nat)
  | tooManyDigits (digits : Nat)
deriving DecidableEq, Repr

/-- The message of a failure. -/
def Error.message : Error → String
  | .invalid m _ => m
  | .tooManyDigits n => Syntax.tooManyDigitsMessage n

/-- The line and column of a position: lines are counted by `\n`, both from one. -/
def lineColumn (text : List Char) (pos : Nat) : Nat × Nat :=
  let before := text.take pos
  let line := before.count '\n' + 1
  let lineStart := before.length - (before.reverse.takeWhile (· ≠ '\n')).length
  (line, pos - lineStart + 1)

/-- The failure with its line, column and character position; a failure with no place is its
message. -/
def Error.render (text : String) : Error → String
  | .invalid m pos =>
    let (line, col) := lineColumn text.toList pos
    s!"{m}: line {line} column {col} (char {pos})"
  | .tooManyDigits n => Syntax.tooManyDigitsMessage n

/-- A failure before the position is known: a syntax error with its message and the rest of
the input where it lies, or an integer of too many digits. -/
inductive Failure where
  | invalid (message : String) (rest : List Char)
  | tooManyDigits (digits : Nat)

/-- Reading one part of the text: the part and the rest, or a failure. -/
abbrev Step (α : Type) := Except Failure (α × List Char)

/-- Blanks between tokens: space, tab, newline and carriage return. -/
def isBlank (c : Char) : Bool := c = ' ' || c = '\t' || c = '\n' || c = '\r'

/-- Drops leading blanks. -/
def skipBlanks (cs : List Char) : List Char := cs.dropWhile isBlank

/-- The value of a hexadecimal digit. -/
def hexValue (c : Char) : Option Nat :=
  if '0' ≤ c ∧ c ≤ '9' then some (c.toNat - '0'.toNat)
  else if 'a' ≤ c ∧ c ≤ 'f' then some (c.toNat - 'a'.toNat + 10)
  else if 'A' ≤ c ∧ c ≤ 'F' then some (c.toNat - 'A'.toNat + 10)
  else none

/-- The number written by four hexadecimal digits at the front of the input. -/
def hex4 (cs : List Char) : Option Nat :=
  match cs with
  | a :: b :: c :: d :: _ =>
    match hexValue a, hexValue b, hexValue c, hexValue d with
    | some a, some b, some c, some d => some (((a * 16 + b) * 16 + c) * 16 + d)
    | _, _, _, _ => none
  | _ => none

/-- The character of a code point; a surrogate, which no text can hold, becomes U+FFFD. -/
def charOfCode (n : Nat) : Char :=
  if 0xD800 ≤ n ∧ n ≤ 0xDFFF then '�' else Char.ofNat n

/-- The character of a simple escape `\c`. -/
def simpleEscape : Char → Option Char
  | '"' => some '"'
  | '\\' => some '\\'
  | '/' => some '/'
  | 'b' => some '\x08'
  | 'f' => some '\x0c'
  | 'n' => some '\n'
  | 'r' => some '\r'
  | 't' => some '\t'
  | _ => none

/-- Reads the digits of a `\u` escape, `rest` being the input after the `u`: the character
and how many characters of `rest` it takes. A high surrogate followed by an escaped low
surrogate joins it into one character. A failure lies at the `u`. -/
def unicodeEscape (rest : List Char) : Except Failure (Char × Nat) :=
  if rest.length < 5 then .error (.invalid "Invalid \\uXXXX escape" ('u' :: rest))
  else match hex4 rest with
  | none => .error (.invalid "Invalid \\uXXXX escape" ('u' :: rest))
  | some hi =>
    let after := rest.drop 4
    if 0xD800 ≤ hi ∧ hi ≤ 0xDBFF ∧ after.length ≥ 7 then
      match after with
      | '\\' :: 'u' :: more =>
        match hex4 more with
        | none => .error (.invalid "Invalid \\uXXXX escape" ('u' :: more))
        | some lo =>
          if 0xDC00 ≤ lo ∧ lo ≤ 0xDFFF then
            .ok (Char.ofNat (0x10000 + (hi - 0xD800) * 0x400 + (lo - 0xDC00)), 10)
          else .ok (charOfCode hi, 4)
      | _ => .ok (charOfCode hi, 4)
    else .ok (charOfCode hi, 4)

/-- Reads the characters of a string up to its closing quote; `start` is the input from
the opening quote on. -/
def stringBody (start : List Char) : List Char → List Char → Step String
  | [], _ => .error (.invalid "Unterminated string starting at" start)
  | '"' :: rest, acc => .ok (String.ofList acc.reverse, rest)
  | '\\' :: [], _ => .error (.invalid "Unterminated string starting at" start)
  | '\\' :: 'u' :: more, acc =>
    match unicodeEscape more with
    | .error e => .error e
    | .ok (c, n) => stringBody start (more.drop n) (c :: acc)
  | '\\' :: c :: more, acc =>
    match simpleEscape c with
    | some d => stringBody start more (d :: acc)
    | none => .error (.invalid "Invalid \\escape" ('\\' :: c :: more))
  | c :: rest, acc =>
    if c.toNat ≤ 0x1f then .error (.invalid "Invalid control character at" (c :: rest))
    else stringBody start rest (c :: acc)
termination_by cs => cs.length
decreasing_by all_goals simp; try omega

/-- The named constants, each with its text. -/
def constants : List (String × Value) :=
  [("null", .null), ("true", .bool true), ("false", .bool false),
   ("NaN", .num (.float Binary64.nan)), ("Infinity", .num (.float (Binary64.infinity false))),
   ("-Infinity", .num (.float (Binary64.infinity true)))]

/-- The constant whose text starts the input. -/
def constant? (cs : List Char) : Option (Value × List Char) :=
  constants.findSome? fun (text, v) =>
    if text.toList.isPrefixOf cs then some (v, cs.drop text.length) else none

/-- Adds a member to an object under construction: a name already present keeps its place
and takes the new value. -/
def putMember (members : List (String × Value)) (name : String) (v : Value) :
    List (String × Value) :=
  if members.any (·.1 == name) then members.map fun m => if m.1 == name then (name, v) else m
  else members ++ [(name, v)]

mutual

/-- Reads one value at the front of the input. The fuel bounds the nesting of arrays and
objects; each level takes one character, so the length of the input is enough. -/
def value (fuel : Nat) (cs : List Char) : Step Value :=
  match fuel with
  | 0 => .error (.invalid "Expecting value" cs)
  | fuel + 1 =>
    match cs with
    | '"' :: rest =>
      match stringBody cs rest [] with
      | .ok (s, after) => .ok (.str s, after)
      | .error e => .error e
    | '[' :: rest => arrayItems fuel (skipBlanks rest) []
    | '{' :: rest => objectMembers fuel (skipBlanks rest) []
    | _ =>
      match constant? cs with
      | some r => .ok r
      | none =>
        match Number.scan? cs with
        | some (.int i, rest) =>
          if Syntax.maxIntDigits < Syntax.intDigits i then
            .error (.tooManyDigits (Syntax.intDigits i))
          else .ok (.num (.int i), rest)
        | some (n, rest) => .ok (.num n, rest)
        | none => .error (.invalid "Expecting value" cs)

/-- Reads the items of an array after its `[` and the blanks after it; `acc` holds the
items read so far, the last first. -/
def arrayItems (fuel : Nat) (cs : List Char) (acc : List Value) : Step Value :=
  match fuel with
  | 0 => .error (.invalid "Expecting value" cs)
  | fuel + 1 =>
    match acc, cs with
    | [], ']' :: rest => .ok (.arr [], rest)
    | _, _ =>
      match value fuel cs with
      | .error e => .error e
      | .ok (v, rest) =>
        match skipBlanks rest with
        | ']' :: after => .ok (.arr (v :: acc).reverse, after)
        | ',' :: after => arrayItems fuel (skipBlanks after) (v :: acc)
        | other => .error (.invalid "Expecting ',' delimiter" other)

/-- Reads the members of an object after its `{` and the blanks after it. -/
def objectMembers (fuel : Nat) (cs : List Char) (acc : List (String × Value)) : Step Value :=
  match fuel with
  | 0 => .error (.invalid "Expecting value" cs)
  | fuel + 1 =>
    match acc, cs with
    | [], '}' :: rest => .ok (.obj [], rest)
    | _, '"' :: rest =>
      match stringBody cs rest [] with
      | .error e => .error e
      | .ok (name, rest) =>
        match skipBlanks rest with
        | ':' :: rest =>
          match value fuel (skipBlanks rest) with
          | .error e => .error e
          | .ok (v, rest) =>
            let acc := putMember acc name v
            match skipBlanks rest with
            | '}' :: after => .ok (.obj acc, after)
            | ',' :: after => objectMembers fuel (skipBlanks after) acc
            | other => .error (.invalid "Expecting ',' delimiter" other)
        | other => .error (.invalid "Expecting ':' delimiter" other)
    | _, other => .error (.invalid "Expecting property name enclosed in double quotes" other)

end

/-- Reads a whole JSON text: one value between optional blanks. A text that starts with a
byte order mark is refused. -/
def read (text : String) : Except Error Value :=
  let cs := text.toList
  let total := cs.length
  let at_ : Failure → Error
    | .invalid m rest => .invalid m (total - rest.length)
    | .tooManyDigits n => .tooManyDigits n
  match cs with
  | '﻿' :: _ => .error (.invalid "Unexpected UTF-8 BOM (decode using utf-8-sig)" 0)
  | _ =>
    let start := skipBlanks cs
    match value (2 * total + 2) start with
    | .error f => .error (at_ f)
    | .ok (v, rest) =>
      match skipBlanks rest with
      | [] => .ok v
      | extra => .error (at_ (.invalid "Extra data" extra))

end JsonPath.Json
