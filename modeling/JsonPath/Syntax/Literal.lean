import JsonPath.Json.Reader
import JsonPath.Text.Integer
import JsonPath.Text.Quoted

/-!
# String literals

A string literal of a query is a text between single or double quotes. Inside, a
backslash starts an escape: `\b`, `\f`, `\n`, `\r`, `\t`, `\/`, `\\`, the literal's own
quote, or `\uXXXX` with four hexadecimal digits. A high surrogate escape must be followed
by an escaped low surrogate, and the two make one character; a lone surrogate is refused.
The four characters of the low surrogate are read as an integer in base 16, which takes
more than hexadecimal digits: `\uD800\uDC٠٠` is U+10000. A raw control character (below
U+0020) is refused.

Names are written back by `escapeName`, between single quotes: the single quote, the
backslash and the control characters are escaped, the latter as `\b`, `\f`, `\n`, `\r`,
`\t` or `\u00xx`. Decoding the written form gives the name back.
-/

set_option autoImplicit false

namespace JsonPath.Syntax

/-- Why a string literal could not be decoded. -/
inductive LiteralProblem where
  /-- An escape that is not one of the allowed ones, or a lone surrogate. -/
  | invalidEscape
  /-- A raw control character. -/
  | invalidCharacter
deriving DecidableEq, Repr

namespace LiteralProblem

/-- The message of a problem. -/
def message : LiteralProblem → String
  | .invalidEscape => "invalid escape sequence"
  | .invalidCharacter => "invalid character in string literal"

end LiteralProblem

/-- The character of a simple escape `\c` in a literal quoted by `quote`. -/
def literalEscape (quote c : Char) : Option Char :=
  if c = quote then some quote
  else match c with
  | 'b' => some '\x08'
  | 'f' => some '\x0c'
  | 'n' => some '\n'
  | 'r' => some '\r'
  | 't' => some '\t'
  | '/' => some '/'
  | '\\' => some '\\'
  | _ => none

/-- The code of the low surrogate escape after a high one: its four characters read as an
integer in base 16, in the way an integer typed by a person is read (`Text.integerIn?`), not
only as four hexadecimal digits. -/
def lowSurrogateCode? (more : List Char) : Option Int :=
  let digits := more.take 4
  if digits.length = 4 then Text.integerIn? 16 (String.ofList digits) else none

/-- The character of a `\u` escape whose digits start `cs`, and how many characters of `cs`
it takes: four, or ten with an escaped low surrogate. -/
def unicodeEscape (cs : List Char) : Except LiteralProblem (Char × Nat) :=
  match Json.hex4 cs with
  | none => .error .invalidEscape
  | some hi =>
    if 0xDC00 ≤ hi ∧ hi ≤ 0xDFFF then .error .invalidEscape
    else if 0xD800 ≤ hi ∧ hi ≤ 0xDBFF then
      match cs.drop 4 with
      | '\\' :: 'u' :: more =>
        match lowSurrogateCode? more with
        | some lo =>
          if 0xDC00 ≤ lo ∧ lo ≤ 0xDFFF then
            .ok (Char.ofNat (0x10000 + (hi - 0xD800) * 0x400 + (lo.toNat - 0xDC00)), 10)
          else .error .invalidEscape
        | none => .error .invalidEscape
      | _ => .error .invalidEscape
    else .ok (Char.ofNat hi, 4)

/-- Decodes the characters between the quotes of a literal quoted by `quote`. -/
def decodeBody (quote : Char) : List Char → Except LiteralProblem (List Char)
  | [] => .ok []
  | '\\' :: 'u' :: rest =>
    match unicodeEscape rest with
    | .error e => .error e
    | .ok (c, n) => (decodeBody quote (rest.drop n)).map (c :: ·)
  | '\\' :: c :: rest =>
    match literalEscape quote c with
    | some d => (decodeBody quote rest).map (d :: ·)
    | none => .error .invalidEscape
  | '\\' :: [] => .error .invalidEscape
  | c :: rest =>
    if c.toNat < 0x20 then .error .invalidCharacter
    else (decodeBody quote rest).map (c :: ·)
termination_by cs => cs.length
decreasing_by all_goals simp; try omega

/-- Decodes a string literal, quotes included. -/
def decodeLiteral (text : String) : Except LiteralProblem String :=
  match text.toList with
  | q :: rest => (decodeBody q rest.dropLast).map String.ofList
  | [] => .ok ""

/-- How a character of a name is written between single quotes. -/
def escapeNameChar (c : Char) : String :=
  match c with
  | '\x08' => "\\b"
  | '\x0c' => "\\f"
  | '\n' => "\\n"
  | '\r' => "\\r"
  | '\t' => "\\t"
  | '\'' => "\\'"
  | '\\' => "\\\\"
  | _ => if c.toNat < 0x20 then "\\u" ++ Text.hexPadded 4 c.toNat else c.toString

/-- A name written for use between single quotes. -/
def escapeName (s : String) : String := String.join (s.toList.map escapeNameChar)

end JsonPath.Syntax
