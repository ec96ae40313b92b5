import JsonPath.Syntax.Token
import JsonPath.Syntax.Literal
import JsonPath.Number.Literal

/-!
# Reading a query text into tokens

`tokenize` splits a query text into tokens and ends them with an end-of-input token at the
end of the text. Blanks (space, tab, newline, carriage return) may stand between tokens and
are dropped. At each place the first of these that fits is taken: a string literal, a
number literal, an identifier, a punctuation mark, the longest mark first.

An identifier is a letter, an underscore or any character from U+0080 on, followed by
those and ASCII digits. A string literal runs from a quote to the same quote, a backslash
taking the character after it whatever it is; its escapes are decoded afterwards.

Reading stops at the first place where no token starts: a quote there opens a string
that is never closed, anything else is an invalid character. Only when the whole text
splits into tokens are the literals decoded, in order, and the first that fails is the
error: a bad escape or raw control character in a string, an integer of more than
`maxIntDigits` digits, or a number too large for a binary64 number. The error of a too long
integer is the conversion's own and names no place in the text.
-/

set_option autoImplicit false

namespace JsonPath.Syntax

/-- Why a query text could not be split into tokens. -/
inductive LexError where
  /-- A quote at this offset opens a string literal that never ends. -/
  | unterminatedString (offset : Nat)
  /-- No token starts with the character at this offset. -/
  | invalidCharacter (c : Char) (offset : Nat)
  /-- The string literal at this span cannot be decoded. -/
  | badLiteral (problem : LiteralProblem) (span : Span)
  /-- The number literal at this span is too large for a binary64 number. -/
  | numberOutOfRange (span : Span)
  /-- An integer literal of this many digits, more than `maxIntDigits`. -/
  | tooManyDigits (digits : Nat)
deriving Repr

namespace LexError

/-- The message of a lexical error. -/
def message : LexError → String
  | .unterminatedString _ => "unterminated string literal"
  | .invalidCharacter c _ => "invalid character " ++ Text.quote c.toString
  | .badLiteral p _ => p.message
  | .numberOutOfRange _ => "number literal is out of range"
  | .tooManyDigits n => tooManyDigitsMessage n

/-- Where a lexical error lies: the offending character or literal. The error of a too long
integer literal names no place. -/
def span? : LexError → Option Span
  | .unterminatedString o => some ⟨o, o + 1⟩
  | .invalidCharacter _ o => some ⟨o, o + 1⟩
  | .badLiteral _ s => some s
  | .numberOutOfRange s => some s
  | .tooManyDigits _ => none

end LexError

/-- Blanks between tokens. -/
def isBlank (c : Char) : Bool := c = ' ' || c = '\t' || c = '\n' || c = '\r'

/-- Characters that may start an identifier. -/
def isIdentStart (c : Char) : Bool :=
  ('A' ≤ c && c ≤ 'Z') || ('a' ≤ c && c ≤ 'z') || c = '_' || c.toNat ≥ 0x80

/-- Characters that may continue an identifier. -/
def isIdentChar (c : Char) : Bool := isIdentStart c || ('0' ≤ c && c ≤ '9')

/-- The length of the rest of a string literal quoted by `q`, closing quote included. -/
def quotedLength (q : Char) : List Char → Nat → Option Nat
  | [], _ => none
  | '\\' :: _ :: rest, n => quotedLength q rest (n + 2)
  | '\\' :: [], _ => none
  | c :: rest, n => if c = q then some (n + 1) else quotedLength q rest (n + 1)

/-- The kind and length of the token at the front of the input, if one starts there. -/
def lexeme? (cs : List Char) : Option (TokenKind × Nat) :=
  match cs with
  | [] => none
  | c :: rest =>
    if c = '\'' ∨ c = '"' then
      (quotedLength c rest 1).map fun n => (.string, n)
    else match Number.scan? cs with
    | some (.int _, after) => some (.integer, cs.length - after.length)
    | some (.float _, after) => some (.float, cs.length - after.length)
    | none =>
      if isIdentStart c then some (.ident, 1 + (rest.takeWhile isIdentChar).length)
      else punctuation.findSome? fun (text, kind) =>
        if text.toList.isPrefixOf cs then some (kind, text.length) else none

/-- Splits the input, which starts at `offset` after blanks, into raw tokens: kind, text
and span, or the offset where no token starts. -/
def scan : List Char → Nat → List (TokenKind × String × Span) →
    Except LexError (List (TokenKind × String × Span))
  | [], _, acc => .ok acc.reverse
  | c :: tail, offset, acc =>
    let cs := c :: tail
    match lexeme? cs with
    | some (kind, n) =>
      if _h : 0 < n then
        let rest := cs.drop n
        let blanks := (rest.takeWhile isBlank).length
        scan (rest.drop blanks) (offset + n + blanks)
          ((kind, String.ofList (cs.take n), ⟨offset, offset + n⟩) :: acc)
      else .error (.invalidCharacter c offset)
    | none =>
      if c = '\'' ∨ c = '"' then .error (.unterminatedString offset)
      else .error (.invalidCharacter c offset)
termination_by cs => cs.length
decreasing_by simp; omega

/-- The value of a raw token: the decoded string of a string literal, the number of a
number literal. -/
def tokenValue (kind : TokenKind) (text : String) (span : Span) :
    Except LexError (Option Value) :=
  match kind with
  | .string =>
    match decodeLiteral text with
    | .ok s => .ok (some (.str s))
    | .error p => .error (.badLiteral p span)
  | .integer =>
    match Number.scan? text.toList with
    | some (.int i, _) =>
      if maxIntDigits < intDigits i then .error (.tooManyDigits (intDigits i))
      else .ok (some (.num (.int i)))
    | _ => .ok none
  | .float =>
    match Number.scan? text.toList with
    | some (.float x, _) =>
      if x.isFinite then .ok (some (.num (.float x))) else .error (.numberOutOfRange span)
    | _ => .ok none
  | _ => .ok none

/-- Splits a query text into tokens, ending with the end-of-input token. -/
def tokenize (source : String) : Except LexError (List Token) := do
  let cs := source.toList
  let blanks := (cs.takeWhile isBlank).length
  let raw ← scan (cs.drop blanks) blanks []
  let tokens ← raw.mapM fun (kind, text, span) => do
    let value ← tokenValue kind text span
    pure { kind, text, span, value : Token }
  pure (tokens ++ [{ kind := .eoi, text := "", span := ⟨cs.length, cs.length⟩, value := none }])

end JsonPath.Syntax
