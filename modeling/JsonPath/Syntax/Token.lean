import JsonPath.Syntax.Span
import JsonPath.Value.Basic
import JsonPath.Text.Quoted

/-!
# Tokens

A query text is read as a sequence of tokens: punctuation, identifiers, string literals
and number literals, and a final end-of-input token. Each kind has a description, used
in error messages to say what was expected. A token describes itself by its quoted text.
-/

set_option autoImplicit false

namespace JsonPath.Syntax

/-- The kinds of tokens. -/
inductive TokenKind where
  | dollar
  | atSign
  | doubleDot
  | dot
  | asterisk
  | colon
  | comma
  | question
  | lparen
  | rparen
  | lbracket
  | rbracket
  | eq
  | ne
  | le
  | ge
  | lt
  | gt
  | andAnd
  | orOr
  | bang
  | ident
  | string
  | integer
  | float
  | eoi
deriving DecidableEq, Repr, Inhabited

namespace TokenKind

/-- How a kind of token is named when it was expected. -/
def description : TokenKind → String
  | .dollar => "'$'"
  | .atSign => "'@'"
  | .doubleDot => "'..'"
  | .dot => "'.'"
  | .asterisk => "'*'"
  | .colon => "':'"
  | .comma => "','"
  | .question => "'?'"
  | .lparen => "'('"
  | .rparen => "')'"
  | .lbracket => "'['"
  | .rbracket => "']'"
  | .eq => "'=='"
  | .ne => "'!='"
  | .le => "'<='"
  | .ge => "'>='"
  | .lt => "'<'"
  | .gt => "'>'"
  | .andAnd => "'&&'"
  | .orOr => "'||'"
  | .bang => "'!'"
  | .ident => "identifier"
  | .string => "string"
  | .integer => "integer"
  | .float => "number"
  | .eoi => "end of input"

end TokenKind

/-- The punctuation tokens with their texts, longer texts first so that `..` is read before
`.` and `==` before `=`. -/
def punctuation : List (String × TokenKind) :=
  [("..", .doubleDot), ("==", .eq), ("!=", .ne), ("<=", .le), (">=", .ge), ("&&", .andAnd),
   ("||", .orOr), ("$", .dollar), ("@", .atSign), (".", .dot), ("*", .asterisk),
   (":", .colon), (",", .comma), ("?", .question), ("(", .lparen), (")", .rparen),
   ("[", .lbracket), ("]", .rbracket), ("<", .lt), (">", .gt), ("!", .bang)]

/-- A token: its kind, its text, where it lies, and for string and number literals the
value it denotes. -/
structure Token where
  kind : TokenKind
  text : String
  span : Span
  value : Option Value
deriving Repr, Inhabited

namespace Token

/-- How a token is named in an error message: `end of input`, or its quoted text. -/
def describe (t : Token) : String :=
  if t.kind = .eoi then "end of input" else Text.quote t.text

end Token

end JsonPath.Syntax
